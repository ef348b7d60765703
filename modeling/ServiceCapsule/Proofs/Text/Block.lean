import Mathlib.Data.List.Infix
import ServiceCapsule.Text.Basic
import ServiceCapsule.Text.Lines

/-!
# Letters, blocks of lines and stretches

Letters and digits of ASCII are few, so that what holds of all of them can be looked up. A text shows
a block of lines if they stand in it one after the other, each on a line of its own; cutting the text
into lines gives the lines of the block, whatever stands around it. A stretch of a text that is put
together from parts stands in one of the parts, or where they meet.
-/

namespace ServiceCapsule

/-! ### Letters and digits -/

namespace Text

theorem isUpper_iff {c : Char} : c.isUpper = true ↔ 65 ≤ c.toNat ∧ c.toNat ≤ 90 := by
  show decide (c.val ≥ 'A'.val ∧ c.val ≤ 'Z'.val) = true ↔ _
  simp [UInt32.le_iff_toNat_le, ← Char.toNat_val]

theorem isLower_iff {c : Char} : c.isLower = true ↔ 97 ≤ c.toNat ∧ c.toNat ≤ 122 := by
  show (decide (c.val ≥ 'a'.val) && decide (c.val ≤ 'z'.val)) = true ↔ _
  simp [UInt32.le_iff_toNat_le, ← Char.toNat_val]

theorem isDigit_iff {c : Char} : c.isDigit = true ↔ 48 ≤ c.toNat ∧ c.toNat ≤ 57 := by
  show (decide (c.val ≥ '0'.val) && decide (c.val ≤ '9'.val)) = true ↔ _
  simp [UInt32.le_iff_toNat_le, ← Char.toNat_val]

theorem isAlpha_of_isUpper {c : Char} (h : c.isUpper = true) : c.isAlpha = true := by
  show (c.isUpper || c.isLower) = true
  rw [h, Bool.true_or]

theorem isAlphanum_of_isAlpha {c : Char} (h : c.isAlpha = true) : c.isAlphanum = true := by
  show (c.isAlpha || c.isDigit) = true
  rw [h, Bool.true_or]

theorem isAlphanum_of_isDigit {c : Char} (h : c.isDigit = true) : c.isAlphanum = true := by
  show (c.isAlpha || c.isDigit) = true
  rw [h, Bool.or_true]

theorem toNat_lt_of_isAlphanum {c : Char} (h : c.isAlphanum = true) : c.toNat < 0x80 := by
  have hparts : ((c.isUpper || c.isLower) || c.isDigit) = true := h
  simp only [Bool.or_eq_true, isUpper_iff, isLower_iff, isDigit_iff] at hparts
  omega

theorem not_isBlank_of_isUpper {c : Char} (h : c.isUpper = true) : isBlank c = false := by
  rw [isUpper_iff] at h
  simp only [isBlank, Bool.or_eq_false_iff, Bool.and_eq_false_iff, beq_eq_false_iff_ne,
    decide_eq_false_iff_not]
  omega

/-- What holds of all characters of ASCII holds of letters and digits. -/
theorem forall_isAlphanum {p : Char → Prop} (h : ∀ n < 0x80, p (Char.ofNat n)) {c : Char}
    (hc : c.isAlphanum = true) : p c := by
  have hofNat := h c.toNat (toNat_lt_of_isAlphanum hc)
  rwa [Char.ofNat_toNat] at hofNat

theorem isAlphanum_toLower {c : Char} (h : c.isAlphanum = true) : c.toLower.isAlphanum = true :=
  forall_isAlphanum (p := fun c => c.isAlphanum = true → c.toLower.isAlphanum = true)
    (by decide +kernel) h h

theorem isUpper_or_isDigit_toUpper {c : Char} (h : c.isAlphanum = true) :
    c.toUpper.isUpper = true ∨ c.toUpper.isDigit = true :=
  forall_isAlphanum
    (p := fun c => c.isAlphanum = true → c.toUpper.isUpper = true ∨ c.toUpper.isDigit = true)
    (by decide +kernel) h h

/-! ### Blocks of lines -/

/-- A text of lines: each of them ends in a newline. -/
def joined (ls : List (List Char)) : List Char := ls.flatMap fun line => line ++ ['\n']

/-- Lines one after the other in a text, with a line before them. -/
def Shows (ls : List (List Char)) (cs : List Char) : Prop :=
  ∃ before after, cs = before ++ '\n' :: (joined ls ++ after)

/-- A line that says something up to its end. -/
def IsTidy (line : List Char) : Prop := '\n' ∉ line ∧ line.getLast?.any (!isBlank ·) = true

instance : DecidablePred IsTidy := fun _ => inferInstanceAs (Decidable (_ ∧ _))

section

variable {ls ms : List (List Char)} {line cs : List Char}

@[simp] theorem joined_cons (line : List Char) (ls : List (List Char)) :
    joined (line :: ls) = line ++ '\n' :: joined ls := by
  simp [joined]

@[simp] theorem joined_append (ls ms : List (List Char)) :
    joined (ls ++ ms) = joined ls ++ joined ms :=
  List.flatMap_append

theorem shows_joined (hls : ls ≠ []) (ms after : List (List Char)) :
    Shows ms (joined (ls ++ ms ++ after)) := by
  obtain ⟨above, line, rfl⟩ : ∃ above line, ls = above ++ [line] :=
    ⟨_, _, (List.dropLast_concat_getLast hls).symm⟩
  exact ⟨joined above ++ line, joined after, by simp⟩

theorem IsTidy.exists_last (h : IsTidy line) :
    ∃ body c, line = body ++ [c] ∧ isBlank c = false := by
  cases hlast : line.getLast? with
  | none => simp [IsTidy, hlast] at h
  | some c =>
    obtain ⟨body, rfl⟩ := List.getLast?_eq_some_iff.1 hlast
    exact ⟨body, c, rfl, by simpa [IsTidy] using h.2⟩

theorem isTidy_concat {body : List Char} {c : Char} (hbody : '\n' ∉ body)
    (hc : isBlank c = false) : IsTidy (body ++ [c]) := by
  have hline : '\n' ≠ c := by
    rintro rfl
    exact absurd hc (by decide)
  exact ⟨by simp [hbody, hline], by simp [hc]⟩

theorem IsTidy.ne_nil (h : IsTidy line) : line ≠ [] := by
  obtain ⟨body, c, rfl, -⟩ := h.exists_last
  simp

theorem IsTidy.dropEndWhile_eq (h : IsTidy line) : dropEndWhile isBlank line = line := by
  obtain ⟨body, c, rfl, hc⟩ := h.exists_last
  exact dropEndWhile_append_singleton hc body

/-! ### Cutting into lines -/

theorem joinReturns_cons (c : Char) (cs : List Char) :
    joinReturns (c :: cs) =
      if c = '\r' ∧ cs.head? = some '\n' then joinReturns cs else c :: joinReturns cs := by
  split
  · rename_i h
    obtain ⟨rfl, h⟩ := h
    obtain ⟨rest, rfl⟩ := List.head?_eq_some_iff.1 h
    simp [joinReturns]
  · rename_i h
    rw [joinReturns]
    rintro rest rfl rfl
    exact h ⟨rfl, rfl⟩

theorem joinReturns_append_newline (before after : List Char) :
    joinReturns (before ++ '\n' :: after) =
      joinReturns (before ++ ['\n']) ++ joinReturns after := by
  induction before with
  | nil => simp [joinReturns]
  | cons c before ih =>
    have hhead : (before ++ '\n' :: after).head? = (before ++ ['\n']).head? := by
      cases before <;> rfl
    simp only [List.cons_append, joinReturns_cons, hhead, ih]
    split <;> rfl

theorem joinReturns_concat_newline (cs : List Char) :
    ∃ kept, joinReturns (cs ++ ['\n']) = kept ++ ['\n'] := by
  induction cs with
  | nil => exact ⟨[], by simp [joinReturns]⟩
  | cons c cs ih =>
    obtain ⟨kept, h⟩ := ih
    rw [List.cons_append, joinReturns_cons, h]
    split
    · exact ⟨kept, rfl⟩
    · exact ⟨c :: kept, rfl⟩

theorem joinReturns_tidy (h : IsTidy line) (rest : List Char) :
    joinReturns (line ++ '\n' :: rest) = line ++ '\n' :: joinReturns rest := by
  obtain ⟨body, c, rfl, hc⟩ := h.exists_last
  have hline := h.1
  have hreturn : c ≠ '\r' := by
    rintro rfl
    exact absurd hc (by decide)
  clear h
  induction body with
  | nil => simp [joinReturns_cons, hreturn]
  | cons a body ih =>
    have hhead : (body ++ c :: '\n' :: rest).head? ≠ some '\n' := by
      cases body with
      | nil =>
        have hn : c ≠ '\n' := fun hn => hline (by simp [hn])
        simpa using hn
      | cons b body =>
        have hn : b ≠ '\n' := fun hn => hline (by simp [hn])
        simpa using hn
    have hbody := ih fun hn => hline (List.mem_cons_of_mem _ hn)
    simp only [List.append_assoc, List.singleton_append] at hbody
    simp only [List.cons_append, List.append_assoc, List.nil_append, joinReturns_cons, hhead,
      and_false, if_false, hbody]

theorem cutLines_ne_nil (h : cs ≠ []) : cutLines cs ≠ [] := by
  cases cs with
  | nil => exact absurd rfl h
  | cons c cs =>
    unfold cutLines
    split
    · simp
    · split <;> simp

theorem cutLines_append_newline (before after : List Char) :
    cutLines (before ++ '\n' :: after) = cutLines (before ++ ['\n']) ++ cutLines after := by
  induction before with
  | nil => simp [cutLines]
  | cons c before ih =>
    simp only [List.cons_append, cutLines, ih]
    split
    · rfl
    · cases h : cutLines (before ++ ['\n']) with
      | nil => exact absurd h (cutLines_ne_nil (by simp))
      | cons line more => rfl

theorem cutLines_line (h : '\n' ∉ line) (rest : List Char) :
    cutLines (line ++ '\n' :: rest) = line :: cutLines rest := by
  induction line with
  | nil => simp [cutLines]
  | cons c line ih =>
    have hc : c ≠ '\n' := fun hc => h (by simp [hc])
    simp [cutLines, hc, ih fun hn => h (List.mem_cons_of_mem _ hn)]

/-- Lines that say something up to their ends, and empty ones between them, are lines of a text. -/
theorem charLines_joined (hls : ∀ line ∈ ls, line = [] ∨ IsTidy line) (after : List Char) :
    charLines (joined ls ++ after) = ls ++ charLines after := by
  unfold charLines
  induction ls with
  | nil => rfl
  | cons line ls ih =>
    obtain ⟨hline, hmore⟩ := List.forall_mem_cons.1 hls
    rw [joined_cons, List.append_assoc, List.cons_append]
    rcases hline with rfl | hline
    · rw [List.nil_append, joinReturns_cons, if_neg (by simp), cutLines, if_pos rfl, ih hmore]
      rfl
    · rw [joinReturns_tidy hline, cutLines_line hline.1, ih hmore]
      rfl

theorem Shows.charLines_eq (h : Shows ls cs) (hls : ∀ line ∈ ls, IsTidy line) :
    ∃ above below, above ≠ [] ∧ charLines cs = above ++ ls ++ below := by
  obtain ⟨before, after, rfl⟩ := h
  obtain ⟨kept, hkept⟩ := joinReturns_concat_newline before
  refine ⟨cutLines (kept ++ ['\n']), charLines after, cutLines_ne_nil (by simp), ?_⟩
  have hblock := charLines_joined (fun line hline => .inr (hls line hline)) after
  unfold charLines at hblock ⊢
  rw [joinReturns_append_newline, hkept, List.append_assoc, List.singleton_append,
    cutLines_append_newline, hblock, List.append_assoc]

end

/-! ### Stretches -/

section

variable {a b : Char} {cs ds es : List Char}

/-- Two characters stand in one of the parts of a text, or where the parts meet. -/
theorem pair_infix_append : [a, b] <:+: cs ++ ds ↔
    [a, b] <:+: cs ∨ [a, b] <:+: ds ∨ cs.getLast? = some a ∧ ds.head? = some b := by
  induction cs with
  | nil => simp
  | cons c cs ih =>
    rw [List.cons_append, List.infix_cons_iff, List.infix_cons_iff, ih]
    cases cs with
    | nil =>
      rw [List.nil_append]
      cases ds with
      | nil => simp
      | cons d ds => simp [List.cons_prefix_cons, eq_comm (a := a), eq_comm (a := b), or_comm]
    | cons d cs => simp [List.cons_prefix_cons, or_assoc]

theorem infix_of_infix_append (hcs : ∀ c ∈ cs, es.head? ≠ some c) (h : es <:+: cs ++ ds) :
    es <:+: ds := by
  induction cs with
  | nil => exact h
  | cons c cs ih =>
    rw [List.cons_append, List.infix_cons_iff] at h
    rcases h with hstart | h
    · cases es with
      | nil => exact List.nil_infix
      | cons e es =>
        obtain ⟨rfl, -⟩ := List.cons_prefix_cons.1 hstart
        exact absurd rfl (hcs e List.mem_cons_self)
    · exact ih (fun d hd => hcs d (List.mem_cons_of_mem _ hd)) h

theorem infix_of_infix_append_replicate (hlast : es.getLast? ≠ some a) {n : Nat}
    (h : es <:+: cs ++ List.replicate n a) : es <:+: cs := by
  induction n with
  | zero => simpa using h
  | succ n ih =>
    rw [List.replicate_succ', ← List.append_assoc, List.infix_concat_iff, List.suffix_concat_iff]
      at h
    rcases h with (rfl | ⟨front, rfl, -⟩) | h
    · exact List.nil_infix
    · simp at hlast
    · exact ih h

end

end Text
end ServiceCapsule
