import Mathlib.Data.List.DropRight
import ServiceCapsule.Proofs.Package.Verbatim

/-!
# The normal form of a text

What putting blanks in order makes of a text depends on the lines that say something and on how many
blank lines stand above each of them. These lines lose the blanks at their ends, of the blank lines
above one at most two stay, and what is below the last of them goes. So the text that comes out is
in a normal form, and putting it in order once more leaves it as it is.
-/

namespace ServiceCapsule

open Text

namespace Text

variable {line : List Char}

theorem dropEndWhile_eq_nil_iff {p : Char → Bool} {cs : List Char} :
    dropEndWhile p cs = [] ↔ cs.all p = true :=
  List.rdropWhile_eq_nil_iff.trans List.all_eq_true.symm

theorem dropEndWhile_dropEndWhile (p : Char → Bool) (cs : List Char) :
    dropEndWhile p (dropEndWhile p cs) = dropEndWhile p cs :=
  List.rdropWhile_idempotent p cs

theorem IsTidy.all_isBlank (h : IsTidy line) : line.all isBlank = false := by
  rw [← Bool.not_eq_true, ← dropEndWhile_eq_nil_iff, h.dropEndWhile_eq]
  exact h.ne_nil

end Text

namespace Formatter

/-- A line that says something, and how many blank lines stand right above it. -/
structure Spaced where
  above : Nat
  line : List Char
  deriving DecidableEq, Repr

namespace Spaced

/-- The lines that say something; some blank lines were already seen above the first one. -/
def ofLines (above : Nat) : List (List Char) → List Spaced
  | [] => []
  | line :: rest =>
    if line.all isBlank then ofLines (above + 1) rest else ⟨above, line⟩ :: ofLines 0 rest

/-- All lines, the blank ones as empty ones. -/
def lines (ps : List Spaced) : List (List Char) :=
  ps.flatMap fun p => List.replicate p.above [] ++ [p.line]

def shown : List Spaced → List (List Char)
  | [] => [[]]
  | p :: ps => lines (p :: ps)

/-- At most two blank lines above, and no blanks at the end. -/
def settle (p : Spaced) : Spaced := ⟨min 2 p.above, dropEndWhile isBlank p.line⟩

section

variable {n : Nat} {p : Spaced} {ps : List Spaced} {line : List Char}
  {blanks rest ls : List (List Char)}

theorem ofLines_cons_of_blank (h : line.all isBlank = true) :
    ofLines n (line :: rest) = ofLines (n + 1) rest := by
  simp only [ofLines, h, if_true]

theorem ofLines_cons (h : line.all isBlank = false) :
    ofLines n (line :: rest) = ⟨n, line⟩ :: ofLines 0 rest := by
  simp only [ofLines, h, Bool.false_eq_true, if_false]

theorem ofLines_blanks_append (hblanks : ∀ b ∈ blanks, b.all isBlank = true)
    (hline : line.all isBlank = false) :
    ofLines n (blanks ++ line :: rest) = ⟨n + blanks.length, line⟩ :: ofLines 0 rest := by
  induction blanks generalizing n with
  | nil => exact ofLines_cons hline
  | cons b blanks ih =>
    obtain ⟨hb, hblanks⟩ := List.forall_mem_cons.1 hblanks
    rw [List.cons_append, ofLines_cons_of_blank hb, ih hblanks, List.length_cons, Nat.add_assoc,
      Nat.add_comm 1]

theorem mem_of_mem_ofLines (hp : p ∈ ofLines n ls) :
    p.line ∈ ls ∧ p.line.all isBlank = false := by
  induction ls generalizing n with
  | nil => simp [ofLines] at hp
  | cons line ls ih =>
    cases hline : line.all isBlank with
    | true =>
      rw [ofLines_cons_of_blank hline] at hp
      exact (ih hp).imp_left (List.mem_cons_of_mem _)
    | false =>
      rw [ofLines_cons hline] at hp
      rcases List.mem_cons.1 hp with rfl | hp
      · exact ⟨List.mem_cons_self, hline⟩
      · exact (ih hp).imp_left (List.mem_cons_of_mem _)

theorem map_line_ofLines (n : Nat) (ls : List (List Char)) :
    (ofLines n ls).map Spaced.line = ls.filter fun line => !line.all isBlank := by
  induction ls generalizing n with
  | nil => rfl
  | cons line ls ih =>
    cases hline : line.all isBlank with
    | true =>
      rw [ofLines_cons_of_blank hline, ih, List.filter_cons_of_neg (by simp [hline])]
    | false =>
      rw [ofLines_cons hline, List.map_cons, ih, List.filter_cons_of_pos (by simp [hline])]

@[simp] theorem lines_nil : lines [] = [] := rfl

@[simp] theorem lines_cons (p : Spaced) (ps : List Spaced) :
    lines (p :: ps) = List.replicate p.above [] ++ p.line :: lines ps := by
  simp [lines]

theorem ofLines_lines (h : ∀ p ∈ ps, p.line.all isBlank = false) : ofLines 0 (lines ps) = ps := by
  induction ps with
  | nil => rfl
  | cons p ps ih =>
    obtain ⟨hp, hps⟩ := List.forall_mem_cons.1 h
    have hblanks : ∀ b ∈ List.replicate p.above ([] : List Char), b.all isBlank = true := by
      simp +contextual
    rw [lines_cons, ofLines_blanks_append hblanks hp, ih hps, List.length_replicate, Nat.zero_add]

/-- The empty line of a file without lines that say something is none of them. -/
theorem ofLines_shown (h : ∀ p ∈ ps, p.line.all isBlank = false) : ofLines 0 (shown ps) = ps := by
  cases ps with
  | nil => rfl
  | cons p ps => exact ofLines_lines h

theorem mem_shown (h : line ∈ shown ps) : line = [] ∨ ∃ p ∈ ps, p.line = line := by
  cases ps with
  | nil => exact .inl (List.mem_singleton.1 h)
  | cons p ps =>
    obtain ⟨q, hq, hline⟩ := List.mem_flatMap.1 h
    rcases List.mem_append.1 hline with hline | hline
    · exact .inl (List.eq_of_mem_replicate hline)
    · exact .inr ⟨q, hq, (List.mem_singleton.1 hline).symm⟩

theorem settle_settle (p : Spaced) : p.settle.settle = p.settle := by
  simp [settle, dropEndWhile_dropEndWhile]

theorem isTidy_settle (hnewline : '\n' ∉ p.line) (hline : p.line.all isBlank = false) :
    IsTidy p.settle.line := by
  refine (dropEndWhile_eq_nil_or_isTidy hnewline).resolve_left fun hempty => ?_
  simp [dropEndWhile_eq_nil_iff.1 hempty] at hline

end
end Spaced

open Spaced

/-! ### What formatting makes of lines -/

/-- Where blank lines were seen, as many of them as may stay are written in front. -/
theorem dropEmptyEnd_collapse (seen : Nat) (ls : List (List Char)) :
    dropEmptyEnd (List.replicate (min 2 seen) [] ++ collapse (min 2 seen) ls) =
      Spaced.lines ((ofLines seen ls).map settle) := by
  -- empty lines that were kept wait in front, and go if no line follows that says something
  induction ls generalizing seen with
  | nil => simp [dropEmptyEnd, collapse, ofLines]
  | cons line ls ih =>
    cases hline : line.all isBlank with
    | true =>
      have hempty := dropEndWhile_eq_nil_iff.2 hline
      rw [ofLines_cons_of_blank hline, ← ih]
      simp only [collapse, hempty]
      by_cases hfew : min 2 seen < 2
      · have hone : min 2 (seen + 1) = min 2 seen + 1 := by omega
        rw [if_pos hfew, hone, List.replicate_succ', List.append_assoc, List.singleton_append]
      · have hfull : min 2 (seen + 1) = min 2 seen := by omega
        rw [if_neg hfew, hfull]
    | false =>
      have hkept : dropEndWhile isBlank line ≠ [] := by simp [dropEndWhile_eq_nil_iff, hline]
      have hcollapse : collapse (min 2 seen) (line :: ls) =
          dropEndWhile isBlank line :: collapse 0 ls := by
        obtain ⟨c, cs, hcs⟩ := List.exists_cons_of_ne_nil hkept
        simp only [collapse, hcs]
      have hbelow := ih 0
      rw [Nat.min_zero, List.replicate_zero, List.nil_append] at hbelow
      rw [hcollapse, dropEmptyEnd_append hkept, hbelow, ofLines_cons hline, List.map_cons,
        lines_cons]
      rfl

/-- The lines of a text that say something, with no more blanks than may stay. -/
def settled (s : String) : List Spaced := (ofLines 0 (charLines s.toList)).map settle

variable {s : String}

theorem isTidy_of_mem_settled {p : Spaced} (hp : p ∈ settled s) : IsTidy p.line := by
  obtain ⟨q, hq, rfl⟩ := List.mem_map.1 hp
  obtain ⟨hmem, hline⟩ := mem_of_mem_ofLines hq
  exact isTidy_settle (newline_notMem_of_mem_charLines hmem) hline

theorem toList_tidy_eq (s : String) : (tidy s).toList = joined (shown (settled s)) := by
  have hlines : dropEmptyEnd (collapse 0 (charLines s.toList)) = Spaced.lines (settled s) :=
    dropEmptyEnd_collapse 0 (charLines s.toList)
  cases hsettled : settled s with
  | nil => simp [tidy, hlines, hsettled, shown, joined]
  | cons p ps =>
    rw [hsettled] at hlines
    have hne : dropEmptyEnd (collapse 0 (charLines s.toList)) ≠ [] := by simp [hlines]
    rw [toList_tidy hne, hlines, shown]

theorem eq_nil_or_isTidy_of_mem_shown {line : List Char} (h : line ∈ shown (settled s)) :
    line = [] ∨ IsTidy line := by
  refine (mem_shown h).imp_right ?_
  rintro ⟨p, hp, rfl⟩
  exact isTidy_of_mem_settled hp

theorem charLines_tidy (s : String) : charLines (tidy s).toList = shown (settled s) := by
  have heach : ∀ line ∈ shown (settled s), line = [] ∨ IsTidy line :=
    fun line => eq_nil_or_isTidy_of_mem_shown
  have hnone : charLines [] = [] := rfl
  simpa [hnone, toList_tidy_eq] using charLines_joined heach []

theorem ofLines_tidy (s : String) : ofLines 0 (charLines (tidy s).toList) = settled s := by
  rw [charLines_tidy]
  exact ofLines_shown fun p hp => (isTidy_of_mem_settled hp).all_isBlank

/-- There is nothing left to put in order. -/
theorem settled_tidy (s : String) : settled (tidy s) = settled s := by
  rw [settled, ofLines_tidy, settled, List.map_map]
  exact List.map_congr_left fun p _ => settle_settle p

theorem tidy_tidy (s : String) : tidy (tidy s) = tidy s := by
  apply String.toList_injective
  rw [toList_tidy_eq, toList_tidy_eq, settled_tidy]

theorem filter_charLines_tidy (s : String) :
    ((charLines (tidy s).toList).filter fun line => !line.all isBlank) =
      ((charLines s.toList).filter fun line => !line.all isBlank).map (dropEndWhile isBlank) := by
  rw [← map_line_ofLines 0, ← map_line_ofLines 0, ofLines_tidy, settled, List.map_map,
    List.map_map]
  rfl

theorem exists_tidy_eq_concat (s : String) :
    ∃ body, (tidy s).toList = body ++ ['\n'] ∧ body.getLast? ≠ some '\n' := by
  rw [toList_tidy_eq]
  rcases (settled s).eq_nil_or_concat with hnone | ⟨ps, p, hps⟩
  · exact ⟨[], by simp [hnone, shown, joined], by simp⟩
  · have hmem : p ∈ settled s := by simp [hps]
    have hp := isTidy_of_mem_settled hmem
    have hshown : shown (settled s) =
        Spaced.lines ps ++ List.replicate p.above [] ++ [p.line] := by
      rw [hps]
      cases ps <;> simp [shown, Spaced.lines]
    refine ⟨joined (Spaced.lines ps ++ List.replicate p.above []) ++ p.line, ?_, ?_⟩
    · rw [hshown, joined_append]
      simp [joined]
    · obtain ⟨body, c, hline, -⟩ := hp.exists_last
      have hc : c ≠ '\n' := fun hc => hp.1 (by simp [hline, hc])
      simpa [hline] using hc

/-- A text whose blanks were put in order ends in one newline, is made of lines without blanks at
their ends, and has the lines of the text before that say something, in their order and with as many
blank lines above each of them as there were, but no more than two. It is in a normal form: putting
its blanks in order again changes nothing. -/
theorem format_normalForm (name s : String) :
    let out := whitespace.format name s
    (∃ body, out.toList = body ++ ['\n'] ∧ body.getLast? ≠ some '\n') ∧
    (out.toList = joined (charLines out.toList) ∧
      ∀ line ∈ charLines out.toList, ∀ c ∈ line.getLast?, isBlank c = false) ∧
    ((charLines out.toList).filter fun line => !line.all isBlank) =
      ((charLines s.toList).filter fun line => !line.all isBlank).map (dropEndWhile isBlank) ∧
    ofLines 0 (charLines out.toList) =
      (ofLines 0 (charLines s.toList)).map
        (fun p => ⟨min 2 p.above, dropEndWhile isBlank p.line⟩) ∧
    whitespace.format name out = out := by
  intro out
  refine ⟨exists_tidy_eq_concat s, ⟨?_, fun line hline c hc => ?_⟩, filter_charLines_tidy s,
    ofLines_tidy s, tidy_tidy s⟩
  · show (tidy s).toList = joined (charLines (tidy s).toList)
    rw [charLines_tidy, toList_tidy_eq]
  · have hline : line ∈ shown (settled s) := charLines_tidy s ▸ hline
    rcases eq_nil_or_isTidy_of_mem_shown hline with rfl | htidy
    · simp at hc
    · obtain ⟨body, last, rfl, hlast⟩ := htidy.exists_last
      obtain rfl : last = c := by simpa using hc
      exact hlast

/-- Blanks of any kind, breaks with and without a carriage return, and empty lines at both ends. -/
example : tidy "\r\n\u2003\n\n\n one \t\r\r\n\u00a0\ntwo\rthree\u2028\n \n" =
    "\n\n one\n\ntwo\rthree\n" := by decide +kernel

end Formatter
end ServiceCapsule
