import ServiceCapsule.Proofs.Capsule.Identity
import ServiceCapsule.Proofs.Text.Block

/-!
# Ids as words

An id is made of words of lower-case letters and digits with single hyphens between them, whatever
text it was made of.
-/

namespace ServiceCapsule
namespace Identity

/-- Lower-case letters and digits with single hyphens inside. -/
structure IsHyphenated (id : String) : Prop where
  ne_empty : id ≠ ""
  char : ∀ c ∈ id.toList, c.isLower = true ∨ c.isDigit = true ∨ c = '-'
  head : id.toList.head? ≠ some '-'
  last : id.toList.getLast? ≠ some '-'
  single : ¬ ['-', '-'] <:+: id.toList

/-- What holds of the characters that were written, in whichever order. -/
structure IsWriting (cs : List Char) : Prop where
  char : ∀ c ∈ cs, c.isLower = true ∨ c.isDigit = true ∨ c = '-'
  single : ¬ ['-', '-'] <:+: cs

variable {cs : List Char}

theorem isLower_or_isDigit_toLower {c : Char} (h : c.isAlphanum = true) :
    c.toLower.isLower = true ∨ c.toLower.isDigit = true :=
  Text.forall_isAlphanum
    (p := fun c => c.isAlphanum = true → c.toLower.isLower = true ∨ c.toLower.isDigit = true)
    (by decide +kernel) h h

theorem IsWriting.stretch {ds : List Char} (h : IsWriting cs) (hds : ds <:+: cs) : IsWriting ds where
  char c hc := h.char c (hds.subset hc)
  single hpair := h.single (hpair.trans hds)

theorem IsWriting.reverse (h : IsWriting cs) : IsWriting cs.reverse where
  char c hc := h.char c (List.mem_reverse.1 hc)
  single hpair := h.single <| List.reverse_infix.1 hpair

theorem IsWriting.cons {c : Char} (h : IsWriting cs) (hc : c.isLower = true ∨ c.isDigit = true) :
    IsWriting (c :: cs) where
  char d hd := by
    rcases List.mem_cons.1 hd with rfl | hd
    · exact hc.imp_right .inl
    · exact h.char d hd
  single hpair := by
    rcases List.infix_cons_iff.1 hpair with hstart | hpair
    · obtain rfl := (List.cons_prefix_cons.1 hstart).1
      exact absurd hc (by decide)
    · exact h.single hpair

theorem IsWriting.hyphen (h : IsWriting cs) {test : Bool}
    (htest : test = true → cs.head? ≠ some '-') :
    IsWriting (if test then '-' :: cs else cs) := by
  split
  · rename_i hhead
    refine ⟨fun c hc => ?_, fun hpair => ?_⟩
    · rcases List.mem_cons.1 hc with rfl | hc
      · exact .inr (.inr rfl)
      · exact h.char c hc
    · rcases List.infix_cons_iff.1 hpair with hstart | hpair
      · obtain ⟨rest, hrest⟩ := (List.cons_prefix_cons.1 hstart).2
        exact htest hhead (by rw [← hrest]; rfl)
      · exact h.single hpair
  · exact h

theorem isWriting_hyphenate {written : List Char} (h : IsWriting written) (afterLower : Bool)
    (cs : List Char) : IsWriting (hyphenate written afterLower cs) := by
  induction cs generalizing written afterLower with
  | nil => exact h.reverse
  | cons c cs ih =>
    unfold hyphenate
    split
    · rename_i hc
      exact ih ((h.hyphen fun htest => by simpa using (Bool.and_eq_true_iff.1 htest).2).cons
        (isLower_or_isDigit_toLower hc)) _
    · exact ih (h.hyphen fun htest => by simpa using (Bool.and_eq_true_iff.1 htest).2) _

theorem dropEndWhile_isPrefix (p : Char → Bool) (cs : List Char) :
    Text.dropEndWhile p cs <+: cs := by
  rw [← List.reverse_suffix, Text.dropEndWhile, List.reverse_reverse]
  exact List.dropWhile_suffix p

theorem dropAround_isInfix (p : Char → Bool) (cs : List Char) : Text.dropAround p cs <:+: cs :=
  (dropEndWhile_isPrefix p _).isInfix.trans (List.dropWhile_suffix p).isInfix

theorem head?_dropAround {p : Char → Bool} {cs : List Char} {c : Char}
    (h : (Text.dropAround p cs).head? = some c) : p c = false := by
  obtain ⟨rest, hrest⟩ := dropEndWhile_isPrefix p (cs.dropWhile p)
  have hhead : (cs.dropWhile p).head? = some c := by
    rw [← hrest, List.head?_append, show (Text.dropEndWhile p (cs.dropWhile p)).head? = some c from h]
    rfl
  have hnot := List.head?_dropWhile_not p cs
  simpa [hhead] using hnot

theorem getLast?_dropAround {p : Char → Bool} {cs : List Char} {c : Char}
    (h : (Text.dropAround p cs).getLast? = some c) : p c = false := by
  rw [Text.dropAround, Text.dropEndWhile, List.getLast?_reverse] at h
  have hnot := List.head?_dropWhile_not p (cs.dropWhile p).reverse
  simpa [h] using hnot

/-- Whatever an id is made of, it has hyphens only between its words. -/
theorem isHyphenated_kebab (s : String) : IsHyphenated (kebab s) := by
  unfold kebab
  split
  · refine ⟨by decide, fun c hc => .inl ?_, by decide, by decide, by decide⟩
    exact List.all_eq_true.1 (show "capsule".toList.all Char.isLower = true by decide) c hc
  · rename_i id hne
    have hwriting : IsWriting (Text.dropAround (· == '-') (hyphenate [] false s.toList)) :=
      (isWriting_hyphenate ⟨by simp, by simp⟩ false _).stretch (dropAround_isInfix _ _)
    refine ⟨by simpa using hne, ?_, ?_, ?_, ?_⟩ <;> rw [String.toList_ofList]
    · exact hwriting.char
    · exact fun hhead => by simpa using head?_dropAround hhead
    · exact fun hlast => by simpa using getLast?_dropAround hlast
    · exact hwriting.single

theorem IsSlug.isHyphenated {id : String} (h : IsSlug id) : IsHyphenated id := by
  obtain ⟨s, rfl⟩ := h
  exact isHyphenated_kebab s

end Identity
end ServiceCapsule
