/-!
# Texts

Text is worked on as a list of characters; the functions on `String` wrap the ones on lists. Here
are blanks and trimming, the starts and ends of texts, the numbers that digits make, sorted texts,
and ranges of code points.
-/

namespace ServiceCapsule

/-! ### Blanks -/

namespace Text

/-- The property White_Space of Unicode. -/
def isBlank (c : Char) : Bool :=
  let n := c.toNat
  n == 0x20 || (0x09 ≤ n && n ≤ 0x0d) || n == 0x85 || n == 0xa0 || n == 0x1680 ||
    (0x2000 ≤ n && n ≤ 0x200a) || n == 0x2028 || n == 0x2029 || n == 0x202f || n == 0x205f ||
    n == 0x3000

@[simp] theorem isBlank_space : isBlank ' ' = true := rfl

def dropEndWhile (p : Char → Bool) (cs : List Char) : List Char :=
  (cs.reverse.dropWhile p).reverse

def dropAround (p : Char → Bool) (cs : List Char) : List Char :=
  dropEndWhile p (cs.dropWhile p)

def trim (s : String) : String := String.ofList (dropAround isBlank s.toList)

theorem dropEndWhile_append_singleton {p : Char → Bool} {c : Char} (h : p c = false)
    (cs : List Char) : dropEndWhile p (cs ++ [c]) = cs ++ [c] := by
  simp [dropEndWhile, h]

@[simp] theorem dropEndWhile_nil (p : Char → Bool) : dropEndWhile p [] = [] := rfl

/-! ### Starts and ends -/

def dropStart? : List Char → List Char → Option (List Char)
  | [], cs => some cs
  | _ :: _, [] => none
  | a :: as, c :: cs => if a = c then dropStart? as cs else none

theorem dropStart?_eq_some {as cs rest : List Char} :
    dropStart? as cs = some rest ↔ cs = as ++ rest := by
  induction as generalizing cs with
  | nil => simp [dropStart?, eq_comm]
  | cons a as ih =>
    cases cs with
    | nil => simp [dropStart?]
    | cons c cs =>
      by_cases h : a = c
      · simp [dropStart?, h, ih]
      · simp [dropStart?, h, Ne.symm h]

theorem length_of_dropStart? {a : Char} {as cs rest : List Char}
    (h : dropStart? (a :: as) cs = some rest) : rest.length < cs.length := by
  rw [dropStart?_eq_some] at h
  subst h
  simp only [List.cons_append, List.length_cons, List.length_append]
  omega

def dropStarts (as cs : List Char) : List Char :=
  match as with
  | [] => cs
  | a :: as =>
    match h : dropStart? (a :: as) cs with
    | some rest =>
      have := length_of_dropStart? h
      dropStarts (a :: as) rest
    | none => cs
  termination_by cs.length

/-- Take a text off the end as often as it is there. -/
def dropEnds (as cs : List Char) : List Char := (dropStarts as.reverse cs.reverse).reverse

def startsWith (s start : String) : Bool := start.toList.isPrefixOf s.toList

def endsWith (s ending : String) : Bool := ending.toList.isSuffixOf s.toList

def occursIn (as : List Char) : List Char → Bool
  | [] => as.isEmpty
  | c :: cs => as.isPrefixOf (c :: cs) || occursIn as cs

def containsText (s part : String) : Bool := occursIn part.toList s.toList

/-! ### Digits -/

def digitValue (c : Char) : Nat := c.toNat - '0'.toNat

/-- The number that decimal digits make, the first one counting most. -/
def digitsValue (ds : List Char) : Nat := ds.foldl (fun n d => 10 * n + digitValue d) 0

def hexValue? (c : Char) : Option Nat :=
  if c.isDigit then some (digitValue c)
  else if 'a' ≤ c ∧ c ≤ 'f' then some (c.toNat - 'a'.toNat + 10)
  else if 'A' ≤ c ∧ c ≤ 'F' then some (c.toNat - 'A'.toNat + 10)
  else none

/-! ### Sorted texts -/

/-- Put a text into a sorted list, unless it is there. -/
def insertSorted (s : String) : List String → List String
  | [] => [s]
  | other :: rest =>
    if s = other then other :: rest
    else if s < other then s :: other :: rest
    else other :: insertSorted s rest

theorem mem_insertSorted {x s : String} {texts : List String} :
    x ∈ insertSorted s texts ↔ x = s ∨ x ∈ texts := by
  induction texts with
  | nil => simp [insertSorted]
  | cons other rest ih =>
    unfold insertSorted
    split
    · next h => simp [h]
    · split
      · simp
      · simp only [List.mem_cons, ih]
        exact or_left_comm

def sorted (texts : List String) : List String := texts.foldr insertSorted []

@[simp] theorem mem_sorted {x : String} {texts : List String} : x ∈ sorted texts ↔ x ∈ texts := by
  induction texts with
  | nil => rfl
  | cons s texts ih =>
    show x ∈ insertSorted s (sorted texts) ↔ _
    rw [mem_insertSorted, ih, List.mem_cons]

/-! ### Code points -/

/-- Ranges with both ends included, in ascending order. -/
abbrev CodeRanges := List (Nat × Nat)

def CodeRanges.has (ranges : CodeRanges) (c : Char) : Bool :=
  ranges.any fun r => r.1 ≤ c.toNat && c.toNat ≤ r.2

end Text
end ServiceCapsule
