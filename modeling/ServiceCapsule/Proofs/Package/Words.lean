import Mathlib.Data.List.Induction
import ServiceCapsule.Package.Naming
import ServiceCapsule.Proofs.Text.Block

/-!
# Words of code

A word is a stretch of characters of identifiers that no such character stands next to. The pieces
that a text is cut into are its words; blanks around the text, and other code next to it that it is
kept apart from, do not change them.
-/

namespace ServiceCapsule

namespace Text

variable {p : Char → Bool}

theorem splitAtEach_eq_cons {cs first : List Char} {more : List (List Char)}
    (h : splitAtEach p cs = first :: more) :
    (∃ rest, cs = first ++ rest ∧ rest.head?.all p = true) ∧
      ∀ piece ∈ more, ∃ front rest, cs = front ++ (piece ++ rest) ∧ front ≠ [] ∧
        front.getLast?.all p = true ∧ rest.head?.all p = true := by
  induction cs generalizing first more with
  | nil =>
    obtain ⟨rfl, rfl⟩ := List.cons.inj h
    exact ⟨⟨[], rfl, rfl⟩, by simp⟩
  | cons c cs ih =>
    obtain ⟨next, others, hcs⟩ := List.exists_cons_of_ne_nil (splitAtEach_ne_nil p cs)
    obtain ⟨⟨rest, hrest, hcut⟩, hothers⟩ := ih hcs
    -- the pieces after the first one are those of the shorter text
    have hlater : ∀ piece ∈ others, ∃ front rest, c :: cs = front ++ (piece ++ rest) ∧ front ≠ [] ∧
        front.getLast?.all p = true ∧ rest.head?.all p = true := by
      intro piece hpiece
      obtain ⟨front, rest, hfront, hne, hlast, hhead⟩ := hothers piece hpiece
      refine ⟨c :: front, rest, by rw [hfront, List.cons_append], List.cons_ne_nil _ _, ?_, hhead⟩
      rwa [List.getLast?_cons_of_ne_nil hne]
    simp only [splitAtEach, hcs] at h
    split at h
    · rename_i hc
      obtain ⟨rfl, rfl⟩ := List.cons.inj h
      refine ⟨⟨c :: cs, rfl, hc⟩, List.forall_mem_cons.2 ⟨?_, hlater⟩⟩
      exact ⟨[c], rest, by rw [hrest, List.singleton_append], List.cons_ne_nil _ _, hc, hcut⟩
    · obtain ⟨rfl, rfl⟩ := List.cons.inj h
      exact ⟨⟨rest, by rw [hrest, List.cons_append], hcut⟩, hlater⟩

theorem exists_of_mem_splitAtEach {cs piece : List Char} (h : piece ∈ splitAtEach p cs) :
    ∃ front rest, cs = front ++ (piece ++ rest) ∧ front.getLast?.all p = true ∧
      rest.head?.all p = true := by
  obtain ⟨first, more, hcs⟩ := List.exists_cons_of_ne_nil (splitAtEach_ne_nil p cs)
  obtain ⟨⟨rest, hrest, hcut⟩, hmore⟩ := splitAtEach_eq_cons hcs
  rw [hcs] at h
  rcases List.mem_cons.1 h with rfl | h
  · exact ⟨[], rest, hrest, rfl, hcut⟩
  · obtain ⟨front, rest, hfront, -, hlast, hhead⟩ := hmore piece h
    exact ⟨front, rest, hfront, hlast, hhead⟩

/-- What reaches from one cut to the next, with no cut in it, is a piece. -/
theorem mem_splitAtEach {front piece rest : List Char} (hfront : front.getLast?.all p = true)
    (hpiece : ∀ c ∈ piece, p c = false) (hrest : rest.head?.all p = true) :
    piece ∈ splitAtEach p (front ++ (piece ++ rest)) := by
  have hend : piece ∈ splitAtEach p (piece ++ rest) := by
    cases rest with
    | nil => simp [splitAtEach_of_forall hpiece]
    | cons c rest =>
      rw [splitAtEach_append_cons hrest, splitAtEach_of_forall hpiece]
      exact List.mem_cons_self
  rcases List.eq_nil_or_concat front with rfl | ⟨before, c, rfl⟩
  · exact hend
  · have hc : p c = true := by simpa using hfront
    rw [List.concat_eq_append, List.append_assoc, List.singleton_append, splitAtEach_append_cons hc]
    exact List.mem_append_right _ hend

theorem filter_splitAtEach_dropAround {q : Char → Bool} (hq : ∀ c, q c = true → p c = true)
    (cs : List Char) :
    (splitAtEach p (dropAround q cs)).filter (!·.isEmpty) =
      (splitAtEach p cs).filter (!·.isEmpty) := by
  have hfront (cs : List Char) : (splitAtEach p (cs.dropWhile q)).filter (!·.isEmpty) =
      (splitAtEach p cs).filter (!·.isEmpty) := by
    induction cs with
    | nil => rfl
    | cons c cs ih =>
      rw [List.dropWhile_cons]
      split
      · rename_i hc
        simp [ih, splitAtEach, hq c hc]
      · rfl
  have hend (cs : List Char) : (splitAtEach p (dropEndWhile q cs)).filter (!·.isEmpty) =
      (splitAtEach p cs).filter (!·.isEmpty) := by
    induction cs using List.reverseRecOn with
    | nil => rfl
    | append_singleton cs c ih =>
      cases hc : q c with
      | false => rw [dropEndWhile_append_singleton hc]
      | true =>
        have hdrop : dropEndWhile q (cs ++ [c]) = dropEndWhile q cs := by simp [dropEndWhile, hc]
        rw [hdrop, ih, splitAtEach_append_cons (hq c hc)]
        simp [splitAtEach]
  rw [dropAround, hend, hfront]

end Text

namespace Code

open Naming (continuesIdentifier)

/-- Whether a word can start after this text. -/
def StartsWord (front : List Char) : Prop := front.getLast?.all (!continuesIdentifier ·) = true

def EndsWord (rest : List Char) : Prop := rest.head?.all (!continuesIdentifier ·) = true

/-- Whether a name stands in a text and no word goes on around it. -/
def StandsIn (name text : String) : Prop :=
  ∃ front rest, text.toList = front ++ (name.toList ++ rest) ∧ StartsWord front ∧ EndsWord rest

theorem StartsWord.append {front before : List Char} (h : StartsWord front)
    (hbefore : StartsWord before) : StartsWord (before ++ front) := by
  unfold StartsWord
  cases hfront : front.getLast? with
  | none => simpa [StartsWord, List.getLast?_append, hfront] using hbefore
  | some c => simpa [StartsWord, List.getLast?_append, hfront] using h

theorem EndsWord.append {rest after : List Char} (h : EndsWord rest) (hafter : EndsWord after) :
    EndsWord (rest ++ after) := by
  cases rest with
  | nil => exact hafter
  | cons c rest => simpa [EndsWord] using h

theorem StandsIn.append {name text before after : String} (h : StandsIn name text)
    (hbefore : StartsWord before.toList) (hafter : EndsWord after.toList) :
    StandsIn name (before ++ text ++ after) := by
  obtain ⟨front, rest, htext, hfront, hrest⟩ := h
  refine ⟨before.toList ++ front, rest ++ after.toList, ?_, hfront.append hbefore,
    hrest.append hafter⟩
  simp [htext]

end Code

namespace Naming

theorem not_isBlank_of_continuesIdentifier {c : Char} (h : continuesIdentifier c = true) :
    Text.isBlank c = false := by
  simp only [continuesIdentifier, Bool.or_eq_true, beq_iff_eq] at h
  rcases h with (h | rfl) | rfl
  · have hc : ((c.isUpper || c.isLower) || c.isDigit) = true := h
    simp only [Bool.or_eq_true, Text.isUpper_iff, Text.isLower_iff, Text.isDigit_iff] at hc
    simp only [Text.isBlank, Bool.or_eq_false_iff, Bool.and_eq_false_iff, beq_eq_false_iff_ne,
      decide_eq_false_iff_not]
    omega
  · rfl
  · rfl

/-- The identifiers of a text are the words in it. -/
theorem mem_identifiers_iff {name text : String} : name ∈ identifiers text ↔
    name ≠ "" ∧ (∀ c ∈ name.toList, continuesIdentifier c = true) ∧ Code.StandsIn name text := by
  simp only [identifiers, List.mem_map, List.mem_filter, Bool.not_eq_true',
    List.isEmpty_eq_false_iff]
  constructor
  · rintro ⟨piece, ⟨hpiece, hne⟩, rfl⟩
    obtain ⟨front, rest, htext, hfront, hrest⟩ := Text.exists_of_mem_splitAtEach hpiece
    refine ⟨by simpa using hne, fun c hc => ?_, front, rest, ?_, hfront, hrest⟩
    · rw [String.toList_ofList] at hc
      simpa using Text.eq_false_of_mem_splitAtEach hpiece hc
    · rw [htext, String.toList_ofList]
  · rintro ⟨hne, hname, front, rest, htext, hfront, hrest⟩
    refine ⟨name.toList, ⟨?_, by simpa using hne⟩, String.ofList_toList⟩
    rw [htext]
    exact Text.mem_splitAtEach hfront (by simpa using hname) hrest

theorem mem_identifiers_of_standsIn {name text : String} (h : isIdentifier name = true)
    (hstands : Code.StandsIn name text) : name ∈ identifiers text := by
  cases hname : name.toList with
  | nil => simp [isIdentifier, hname] at h
  | cons c cs =>
    simp only [isIdentifier, hname, Bool.and_eq_true, List.all_eq_true] at h
    have hstart : continuesIdentifier c = true := by
      simp only [startsIdentifier, Bool.or_eq_true] at h
      simp only [continuesIdentifier, Bool.or_eq_true]
      exact h.1.imp_left (Or.imp_left Text.isAlphanum_of_isAlpha)
    refine mem_identifiers_iff.2 ⟨?_, ?_, hstands⟩
    · rintro rfl
      simp at hname
    · rw [hname]
      exact List.forall_mem_cons.2 ⟨hstart, h.2⟩

theorem identifiers_trim (text : String) : identifiers (Text.trim text) = identifiers text := by
  have hblank : ∀ c, Text.isBlank c = true → (!continuesIdentifier c) = true := by
    intro c hc
    cases h : continuesIdentifier c with
    | false => rfl
    | true => simp [not_isBlank_of_continuesIdentifier h] at hc
  simp only [identifiers, Text.trim, String.toList_ofList]
  rw [Text.filter_splitAtEach_dropAround hblank]

theorem standsIn_trim {name text : String} (h : name ∈ identifiers text) :
    Code.StandsIn name (Text.trim text) := by
  rw [← identifiers_trim, mem_identifiers_iff] at h
  exact h.2.2

end Naming
end ServiceCapsule
