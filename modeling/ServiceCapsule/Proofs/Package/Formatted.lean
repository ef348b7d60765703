import ServiceCapsule.Package.Generation
import ServiceCapsule.Proofs.Text.Block

/-!
# Lines of formatted files

Lines of a draft that say something up to their ends are in the file that is written, one after
the other, whether blanks are put in order or the file is left as it was drafted.
-/

namespace ServiceCapsule

open Text

namespace Formatter

theorem collapse_append (above below : List (List Char)) (n : Nat) :
    ∃ m, collapse n (above ++ below) = collapse n above ++ collapse m below := by
  induction above generalizing n with
  | nil => exact ⟨n, rfl⟩
  | cons line above ih =>
    simp only [List.cons_append, collapse]
    split
    · split
      · obtain ⟨m, h⟩ := ih (n + 1)
        exact ⟨m, by rw [h, List.cons_append]⟩
      · exact ih n
    · obtain ⟨m, h⟩ := ih 0
      exact ⟨m, by rw [h, List.cons_append]⟩

theorem collapse_tidy {ls : List (List Char)} (hls : ∀ line ∈ ls, IsTidy line)
    (below : List (List Char)) (n : Nat) :
    ∃ m, collapse n (ls ++ below) = ls ++ collapse m below := by
  induction ls generalizing n with
  | nil => exact ⟨n, rfl⟩
  | cons line ls ih =>
    have hline := hls line List.mem_cons_self
    obtain ⟨m, h⟩ := ih (fun line' hline' => hls line' (List.mem_cons_of_mem _ hline')) 0
    refine ⟨m, ?_⟩
    simp only [List.cons_append, collapse, hline.dropEndWhile_eq]
    obtain ⟨c, cs, rfl⟩ := List.exists_cons_of_ne_nil hline.ne_nil
    rw [h]

theorem collapse_ne_nil {above : List (List Char)} (h : above ≠ []) : collapse 0 above ≠ [] := by
  cases above with
  | nil => exact absurd rfl h
  | cons line above =>
    unfold collapse
    split <;> simp

theorem dropEmptyEnd_append {line : List Char} (hline : line ≠ [])
    (above below : List (List Char)) :
    dropEmptyEnd (above ++ line :: below) = above ++ line :: dropEmptyEnd below := by
  have hempty : line.isEmpty = false := by simpa using hline
  simp only [dropEmptyEnd, List.reverse_append, List.reverse_cons, List.append_assoc,
    List.singleton_append, List.dropWhile_append]
  split
  · rename_i hbelow
    rw [List.isEmpty_iff.1 hbelow]
    simp [hempty]
  · simp

theorem intercalate_newline {ls : List (List Char)} (hls : ls ≠ []) :
    ['\n'].intercalate ls ++ ['\n'] = joined ls := by
  induction ls with
  | nil => exact absurd rfl hls
  | cons line ls ih =>
    cases ls with
    | nil => simp [joined]
    | cons next ls =>
      have hmore := ih (by simp)
      rw [joined_cons, ← hmore]
      simp

theorem toList_tidy {s : String}
    (h : dropEmptyEnd (collapse 0 (charLines s.toList)) ≠ []) :
    (tidy s).toList = joined (dropEmptyEnd (collapse 0 (charLines s.toList))) := by
  rw [← intercalate_newline h]
  simp [tidy, Function.comp_def]

/-- Putting blanks in order keeps lines that say something up to their ends. -/
theorem shows_tidy {ls : List (List Char)} (hls : ls ≠ []) (htidy : ∀ line ∈ ls, IsTidy line)
    {s : String} (h : Shows ls s.toList) : Shows ls (tidy s).toList := by
  obtain ⟨above, below, habove, hlines⟩ := h.charLines_eq htidy
  obtain ⟨m, hfirst⟩ := collapse_append above (ls ++ below) 0
  obtain ⟨n, hblock⟩ := collapse_tidy htidy below m
  -- what stays of the lines before the block is not empty, so the last of it ends the line before
  have hkept : dropEmptyEnd (collapse 0 (charLines s.toList)) =
      collapse 0 above ++ ls ++ dropEmptyEnd (collapse n below) := by
    obtain ⟨first, last, rfl⟩ : ∃ first last, ls = first ++ [last] :=
      ⟨_, _, (List.dropLast_concat_getLast hls).symm⟩
    have hlast := (htidy last (by simp)).ne_nil
    have hdrop := dropEmptyEnd_append hlast (collapse 0 above ++ first) (collapse n below)
    rw [hlines, List.append_assoc, hfirst, hblock]
    simpa using hdrop
  rw [toList_tidy (by simp [hkept, hls]), hkept]
  exact shows_joined (collapse_ne_nil habove) ls _

end Formatter

namespace Draft

theorem toList_text (d : Draft) : (text d).toList = joined (d.lines.map String.toList) := by
  simp [text, joined, List.flatMap_map]

theorem shows_text {d : Draft} {above ls below : List String} (habove : above ≠ [])
    (h : d.lines = above ++ ls ++ below) :
    Shows (ls.map String.toList) (text d).toList := by
  rw [toList_text, h, List.map_append, List.map_append]
  exact shows_joined (by simpa using habove) _ _

end Draft

namespace Generation

/-- Lines of a draft that say something up to their ends are in the file that is written. -/
theorem shows_content {format : Bool} {p : Plan} {k : FileKind} {s : String}
    (hs : content (if format then some .whitespace else none) p k = .ok s) {d : Draft}
    (hd : Draft.ofKind p k = .ok d)
    {above ls below : List String} (habove : above ≠ []) (hls : ls ≠ [])
    (h : d.lines = above ++ ls ++ below) (htidy : ∀ line ∈ ls, IsTidy line.toList) :
    Shows (ls.map String.toList) s.toList := by
  have hshows := Draft.shows_text habove h
  simp only [content, Draft.render, hd, Except.map, Except.ok.injEq] at hs
  cases format with
  | false =>
    obtain rfl : d.text = s := hs
    exact hshows
  | true =>
    obtain rfl : Formatter.tidy d.text = s := hs
    exact Formatter.shows_tidy (by simpa using hls) (by simpa using htidy) hshows

end Generation
end ServiceCapsule
