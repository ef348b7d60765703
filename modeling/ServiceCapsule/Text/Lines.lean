import ServiceCapsule.Text.Basic

/-!
# Lines

A text is cut into lines at each newline. The carriage return right before a newline belongs to
the line break, and a newline at the end starts no further line.
-/

namespace ServiceCapsule
namespace Text

/-- Remove each carriage return that stands right before a newline. -/
def joinReturns : List Char → List Char
  | [] => []
  | '\r' :: '\n' :: rest => '\n' :: joinReturns rest
  | c :: rest => c :: joinReturns rest

/-- Cut after each newline and leave the newlines out. -/
def cutLines : List Char → List (List Char)
  | [] => []
  | c :: rest =>
    if c = '\n' then [] :: cutLines rest
    else match cutLines rest with
      | [] => [[c]]
      | line :: more => (c :: line) :: more

theorem newline_notMem_of_mem_cutLines {cs line : List Char} (h : line ∈ cutLines cs) :
    '\n' ∉ line := by
  induction cs generalizing line with
  | nil => simp [cutLines] at h
  | cons c rest ih =>
    unfold cutLines at h
    split at h
    · rcases List.mem_cons.1 h with rfl | h
      · simp
      · exact ih h
    · rename_i hc
      split at h
      · simp only [List.mem_singleton] at h
        subst h
        simpa using fun h => hc h.symm
      · rename_i first more heq
        rcases List.mem_cons.1 h with rfl | h
        · have := ih (heq ▸ List.mem_cons_self)
          simpa [this] using fun h => hc h.symm
        · exact ih (heq ▸ List.mem_cons_of_mem _ h)

/-- The lines of a text as lists of characters. -/
def charLines (cs : List Char) : List (List Char) := cutLines (joinReturns cs)

/-- The lines of a text. -/
def lines (s : String) : List String := (charLines s.toList).map String.ofList

def lineCount (s : String) : Nat := (charLines s.toList).length

/-- Cut a list at each element with the property; neighbouring cuts leave empty pieces. -/
def splitAtEach (p : Char → Bool) : List Char → List (List Char)
  | [] => [[]]
  | c :: rest =>
    if p c then [] :: splitAtEach p rest
    else match splitAtEach p rest with
      | [] => [[c]]
      | piece :: more => (c :: piece) :: more

theorem splitAtEach_ne_nil (p : Char → Bool) (cs : List Char) : splitAtEach p cs ≠ [] := by
  cases cs with
  | nil => simp [splitAtEach]
  | cons c cs =>
    unfold splitAtEach
    split
    · simp
    · split <;> simp

theorem splitAtEach_append_cons {p : Char → Bool} {c : Char} (hc : p c = true)
    (as bs : List Char) :
    splitAtEach p (as ++ c :: bs) = splitAtEach p as ++ splitAtEach p bs := by
  induction as with
  | nil => simp [splitAtEach, hc]
  | cons a as ih =>
    simp only [List.cons_append, splitAtEach, ih]
    split
    · rfl
    · cases h : splitAtEach p as with
      | nil => exact absurd h (splitAtEach_ne_nil p as)
      | cons piece more => rfl

theorem splitAtEach_of_forall {p : Char → Bool} {cs : List Char} (h : ∀ c ∈ cs, p c = false) :
    splitAtEach p cs = [cs] := by
  induction cs with
  | nil => rfl
  | cons c cs ih =>
    have hc := h c List.mem_cons_self
    have hcs := ih fun c' hc' => h c' (List.mem_cons_of_mem _ hc')
    simp [splitAtEach, hc, hcs]

theorem eq_false_of_mem_splitAtEach {p : Char → Bool} {cs piece : List Char} {c : Char}
    (hpiece : piece ∈ splitAtEach p cs) (hc : c ∈ piece) : p c = false := by
  induction cs generalizing piece with
  | nil => simp_all [splitAtEach]
  | cons a cs ih =>
    unfold splitAtEach at hpiece
    split at hpiece
    · rcases List.mem_cons.1 hpiece with rfl | h
      · simp at hc
      · exact ih h hc
    · rename_i ha
      split at hpiece
      · simp_all
      · rename_i first more heq
        rcases List.mem_cons.1 hpiece with rfl | h
        · rcases List.mem_cons.1 hc with rfl | hc
          · simpa using ha
          · exact ih (heq ▸ List.mem_cons_self) hc
        · exact ih (heq ▸ List.mem_cons_of_mem _ h) hc

def splitChar (c : Char) (s : String) : List String :=
  (splitAtEach (· == c) s.toList).map String.ofList

end Text
end ServiceCapsule
