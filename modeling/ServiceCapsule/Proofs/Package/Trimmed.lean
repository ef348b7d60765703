import ServiceCapsule.Proofs.Package.Verbatim

/-!
# Texts with blanks taken out in front of line breaks

All that putting the blanks of a file in order does is to take out blanks that stand in front of a
line break. Characters that are not blank stay, and so does it which of them stand side by side.
-/

namespace ServiceCapsule
namespace Text

/-- A text without some of the blanks in front of its line breaks. -/
inductive Trimmed : List Char → List Char → Prop
  | nil : Trimmed [] []
  | keep {cs ds : List Char} (c : Char) : Trimmed cs ds → Trimmed (c :: cs) (c :: ds)
  | drop {cs ds : List Char} {b : Char} : isBlank b = true → Trimmed cs ('\n' :: ds) →
      Trimmed (b :: cs) ('\n' :: ds)

variable {cs ds es : List Char} {a b c : Char}

namespace Trimmed

theorem refl (cs : List Char) : Trimmed cs cs := by
  induction cs with
  | nil => exact .nil
  | cons c cs ih => exact .keep c ih

theorem append_left (before : List Char) (h : Trimmed cs ds) :
    Trimmed (before ++ cs) (before ++ ds) := by
  induction before with
  | nil => exact h
  | cons c before ih => exact .keep c ih

theorem append (h : Trimmed cs ds) {cs' ds' : List Char} (h' : Trimmed cs' ds') :
    Trimmed (cs ++ cs') (ds ++ ds') := by
  induction h with
  | nil => exact h'
  | keep c h ih => exact .keep c ih
  | drop hb h ih => exact .drop hb ih

theorem rest (before : List Char) (h : Trimmed (before ++ cs) es) :
    ∃ first second, es = first ++ second ∧ Trimmed cs second := by
  induction before generalizing es with
  | nil => exact ⟨[], es, rfl, h⟩
  | cons d before ih =>
    cases h with
    | keep _ h =>
      obtain ⟨first, second, rfl, hsecond⟩ := ih h
      exact ⟨d :: first, second, rfl, hsecond⟩
    | drop hb h => exact ih h

theorem newline (h : Trimmed ('\n' :: cs) ds) : ∃ es, ds = '\n' :: es := by
  cases h with
  | keep _ h => exact ⟨_, rfl⟩
  | drop _ h => exact ⟨_, rfl⟩

theorem trans (h : Trimmed cs ds) (h' : Trimmed ds es) : Trimmed cs es := by
  induction h generalizing es with
  | nil => exact h'
  | keep c h ih =>
    cases h' with
    | keep _ h' => exact .keep c (ih h')
    | drop hb h' => exact .drop hb (ih h')
  | drop hb h ih =>
    obtain ⟨es, rfl⟩ := h'.newline
    exact .drop hb (ih h')

/-- A character that is not blank stays, and parts the text. -/
theorem split (hc : isBlank c = false) {before after : List Char}
    (h : Trimmed (before ++ c :: after) es) :
    ∃ first second, es = first ++ c :: second ∧ Trimmed before first ∧ Trimmed after second := by
  -- a blank in front goes for a line break, which is blank too and so comes before the character
  induction before generalizing es with
  | nil =>
    cases h with
    | keep _ h => exact ⟨[], _, rfl, .nil, h⟩
    | drop hb h => simp [hc] at hb
  | cons d before ih =>
    cases h with
    | keep _ h =>
      obtain ⟨first, second, rfl, hfirst, hsecond⟩ := ih h
      exact ⟨d :: first, second, rfl, .keep d hfirst, hsecond⟩
    | drop hb h =>
      obtain ⟨first, second, hes, hfirst, hsecond⟩ := ih h
      cases first with
      | nil =>
        obtain rfl : '\n' = c := (List.cons.inj hes).1
        exact absurd hc (by decide)
      | cons e first =>
        obtain ⟨rfl, rfl⟩ := List.cons.inj hes
        exact ⟨'\n' :: first, second, rfl, .drop hb hfirst, hsecond⟩

theorem head (hc : isBlank c = false) (h : Trimmed (c :: cs) es) :
    ∃ ds, es = c :: ds ∧ Trimmed cs ds := by
  have hparts : Trimmed ([] ++ c :: cs) es := h
  obtain ⟨first, second, rfl, hfirst, hsecond⟩ := hparts.split hc
  cases hfirst
  exact ⟨second, rfl, hsecond⟩

/-- What starts without a blank and without a line break was not behind anything that went away. -/
theorem of_head (hb : isBlank b = false) (h : Trimmed cs (b :: ds)) :
    ∃ es, cs = b :: es ∧ Trimmed es ds := by
  cases h with
  | keep _ h => exact ⟨_, rfl, h⟩
  | drop _ h => exact absurd hb (by decide)

theorem eq_nil (h : Trimmed cs []) : cs = [] := by
  cases h
  rfl

theorem of_split (hc : isBlank c = false) {first second : List Char}
    (h : Trimmed cs (first ++ c :: second)) :
    ∃ before after, cs = before ++ c :: after ∧ Trimmed before first ∧ Trimmed after second := by
  generalize hds : first ++ c :: second = ds at h
  induction h generalizing first with
  | nil => simp at hds
  | @keep cs ds d h ih =>
    cases first with
    | nil =>
      obtain ⟨rfl, rfl⟩ := List.cons.inj hds
      exact ⟨[], cs, rfl, .nil, h⟩
    | cons e first =>
      obtain ⟨rfl, hrest⟩ := List.cons.inj hds
      obtain ⟨before, after, rfl, hfirst, hsecond⟩ := ih hrest
      exact ⟨e :: before, after, rfl, .keep e hfirst, hsecond⟩
  | @drop cs ds b hb h ih =>
    obtain ⟨before, after, rfl, hfirst, hsecond⟩ := ih hds
    cases first with
    | nil =>
      obtain rfl : c = '\n' := (List.cons.inj hds).1
      exact absurd hc (by decide)
    | cons e first =>
      obtain ⟨rfl, -⟩ := List.cons.inj hds
      exact ⟨b :: before, after, rfl, .drop hb hfirst, hsecond⟩

theorem stretch (hc : isBlank c = false) {before body after : List Char}
    (h : Trimmed (before ++ (body ++ [c] ++ after)) es) :
    ∃ first kept last, es = first ++ (kept ++ last) ∧ Trimmed (body ++ [c]) kept := by
  obtain ⟨first, second, rfl, hsecond⟩ := h.rest before
  rw [List.append_assoc, List.singleton_append] at hsecond
  obtain ⟨kept, last, rfl, hkept, -⟩ := hsecond.split hc
  exact ⟨first, kept ++ [c], last, by simp, hkept.append (.refl [c])⟩

theorem head?_eq_iff (h : Trimmed cs ds) (hc : isBlank c = false) :
    ds.head? = some c ↔ cs.head? = some c := by
  constructor <;> intro hhead
  · obtain ⟨rest, rfl⟩ := List.head?_eq_some_iff.1 hhead
    obtain ⟨es, rfl, -⟩ := h.of_head hc
    rfl
  · obtain ⟨rest, rfl⟩ := List.head?_eq_some_iff.1 hhead
    obtain ⟨es, rfl, -⟩ := h.head hc
    rfl

theorem subset (h : Trimmed cs ds) : ds ⊆ cs := by
  induction h with
  | nil => simp
  | keep c h ih => exact List.cons_subset_cons c ih
  | drop hb h ih => exact fun c hc => List.mem_cons_of_mem _ (ih hc)

theorem eq_of_notMem (h : Trimmed cs ds) (hcs : '\n' ∉ cs) : ds = cs := by
  induction h with
  | nil => rfl
  | keep c h ih => rw [ih fun hmem => hcs (List.mem_cons_of_mem _ hmem)]
  | drop hb h ih => exact absurd (List.mem_cons_of_mem _ (h.subset List.mem_cons_self)) hcs

theorem pair_infix_iff (ha : isBlank a = false) (hb : isBlank b = false) (h : Trimmed cs ds) :
    [a, b] <:+: ds ↔ [a, b] <:+: cs := by
  induction h with
  | nil => rfl
  | @keep cs ds c h ih =>
    have hprefix : [a, b] <+: c :: ds ↔ [a, b] <+: c :: cs := by
      rw [List.cons_prefix_cons, List.cons_prefix_cons]
      refine and_congr_right fun _ => ⟨?_, ?_⟩
      · rintro ⟨rest, rfl⟩
        obtain ⟨es, rfl, -⟩ := h.of_head hb
        exact List.cons_prefix_cons.2 ⟨rfl, List.nil_prefix⟩
      · rintro ⟨rest, rfl⟩
        obtain ⟨es, rfl, -⟩ := h.head hb
        exact List.cons_prefix_cons.2 ⟨rfl, List.nil_prefix⟩
    rw [List.infix_cons_iff, List.infix_cons_iff, hprefix, ih]
  | @drop cs ds c hc h ih =>
    rw [ih, List.infix_cons_iff]
    refine (or_iff_right fun hstart => ?_).symm
    obtain rfl := (List.cons_prefix_cons.1 hstart).1
    simp [ha] at hc

end Trimmed

/-! ### What the formatter does -/

theorem trimmed_joinReturns (cs : List Char) : Trimmed cs (joinReturns cs) := by
  induction cs with
  | nil => exact .nil
  | cons c cs ih =>
    rw [joinReturns_cons]
    split
    · rename_i h
      obtain ⟨rfl, hhead⟩ := h
      obtain ⟨rest, rfl⟩ := List.head?_eq_some_iff.1 hhead
      obtain ⟨es, hes⟩ := ih.newline
      rw [hes] at ih ⊢
      exact .drop (by decide) ih
    · exact .keep c ih

theorem trimmed_replicate (n : Nat) :
    Trimmed ('\n' :: List.replicate n '\n') ['\n'] := by
  induction n with
  | zero => exact .refl _
  | succ n ih => exact .drop (by decide) ih

theorem trimmed_line (line : List Char) (h : Trimmed cs ('\n' :: ds)) :
    Trimmed (line ++ cs) (dropEndWhile isBlank line ++ '\n' :: ds) := by
  -- from the end of the line: blanks there count to what goes in front of the line break
  induction line using List.reverseRecOn generalizing cs with
  | nil => exact h
  | append_singleton line c ih =>
    rw [List.append_assoc, List.singleton_append]
    cases hc : isBlank c with
    | false =>
      rw [dropEndWhile_append_singleton hc, List.append_assoc, List.singleton_append]
      exact .append_left line (.keep c h)
    | true =>
      have hdrop : dropEndWhile isBlank (line ++ [c]) = dropEndWhile isBlank line := by
        simp [dropEndWhile, hc]
      rw [hdrop]
      exact ih (.drop hc h)

theorem joined_cutLines (cs : List Char) : joined (cutLines (cs ++ ['\n'])) = cs ++ ['\n'] := by
  induction cs with
  | nil => simp [cutLines, joined]
  | cons c cs ih =>
    rw [List.cons_append, cutLines]
    split
    · rename_i hc
      rw [joined_cons, ih, hc]
      rfl
    · have hne : cs ++ ['\n'] ≠ [] := by simp
      obtain ⟨line, more, hlines⟩ := List.exists_cons_of_ne_nil (cutLines_ne_nil hne)
      rw [hlines, joined_cons] at ih
      rw [hlines, joined_cons, List.cons_append, ih]

end Text

namespace Formatter

open Text

/-- Below a line break, putting lines in order takes out blanks in front of line breaks. For an
empty line that goes, the line break above it is the one that is taken out. -/
theorem trimmed_collapse (ls : List (List Char)) (n : Nat) :
    Trimmed ('\n' :: joined ls) ('\n' :: joined (collapse n ls)) := by
  induction ls generalizing n with
  | nil => exact .refl _
  | cons line ls ih =>
    have hline : ∀ m, Trimmed (line ++ '\n' :: joined ls)
        (dropEndWhile isBlank line ++ '\n' :: joined (collapse m ls)) :=
      fun m => trimmed_line line (ih m)
    rw [joined_cons]
    unfold collapse
    split
    · rename_i hempty
      simp only [hempty, List.nil_append] at hline
      split
      · rw [joined_cons]
        exact .keep _ (hline (n + 1))
      · exact .drop (by decide) (hline n)
    · rw [joined_cons]
      exact .keep _ (hline 0)

theorem trimmed_collapse_zero (ls : List (List Char)) :
    Trimmed (joined ls) (joined (collapse 0 ls)) := by
  cases ls with
  | nil => exact .refl _
  | cons line ls =>
    have hline : ∀ m, Trimmed (line ++ '\n' :: joined ls)
        (dropEndWhile isBlank line ++ '\n' :: joined (collapse m ls)) :=
      fun m => trimmed_line line (trimmed_collapse ls m)
    rw [joined_cons]
    unfold collapse
    split
    · rename_i hempty
      simp only [hempty, List.nil_append] at hline
      exact hline 1
    · rw [joined_cons]
      exact hline 0

theorem trimmed_dropEmptyEnd {ls : List (List Char)} (hls : dropEmptyEnd ls ≠ []) :
    Trimmed (joined ls) (joined (dropEmptyEnd ls)) := by
  obtain ⟨n, hn⟩ := exists_joined_dropEmptyEnd ls
  obtain ⟨above, line, hlast⟩ : ∃ above line, dropEmptyEnd ls = above ++ [line] :=
    ⟨_, _, (List.dropLast_concat_getLast hls).symm⟩
  have htext : joined (above ++ [line]) = joined above ++ line ++ ['\n'] := by simp [joined]
  rw [hn, hlast, htext, List.append_assoc]
  exact .append_left _ (trimmed_replicate n)

theorem trimmed_empty_lines {ls : List (List Char)} (hls : ls ≠ []) (hnone : dropEmptyEnd ls = []) :
    Trimmed (joined ls) ['\n'] := by
  obtain ⟨n, hn⟩ := exists_joined_dropEmptyEnd ls
  rw [hnone] at hn
  cases n with
  | zero =>
    obtain ⟨line, more, rfl⟩ := List.exists_cons_of_ne_nil hls
    simp [joined] at hn
  | succ n =>
    rw [hn]
    exact trimmed_replicate n

/-- Putting the blanks of a text in order takes out blanks in front of its line breaks. -/
theorem trimmed_tidy {s : String} {cs : List Char} (hs : s.toList = cs ++ ['\n']) :
    Trimmed s.toList (tidy s).toList := by
  -- carriage returns go first, then blanks at the ends of lines and empty lines, then the end
  obtain ⟨kept, hkept⟩ := joinReturns_concat_newline cs
  have hlines : joined (charLines s.toList) = joinReturns s.toList := by
    rw [charLines, hs, hkept, joined_cutLines]
  have hcollapsed := (trimmed_joinReturns s.toList).trans
    (hlines ▸ trimmed_collapse_zero (charLines s.toList))
  refine hcollapsed.trans ?_
  by_cases hnone : dropEmptyEnd (collapse 0 (charLines s.toList)) = []
  · have htext : (tidy s).toList = ['\n'] := by simp [tidy, hnone]
    have hne : charLines s.toList ≠ [] := by
      rw [charLines, hs, hkept]
      exact cutLines_ne_nil (by simp)
    rw [htext]
    exact trimmed_empty_lines (collapse_ne_nil hne) hnone
  · rw [toList_tidy hnone]
    exact trimmed_dropEmptyEnd hnone

end Formatter
end ServiceCapsule
