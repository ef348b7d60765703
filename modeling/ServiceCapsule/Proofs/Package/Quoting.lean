import ServiceCapsule.Package.ServiceFile
import ServiceCapsule.Proofs.Package.Trimmed

/-!
# Comments and template literals

A block comment ends at the first mark of its end, and a template literal at the first backtick that
is not escaped, where no substitution starts before it. Whether a text ends a comment or starts a
substitution does not depend on blanks in front of its line breaks.
-/

namespace ServiceCapsule
namespace Text

variable {cs ds : List Char} {c : Char}

/-! ### Block comments -/

/-- A text that has nothing that ends a comment. -/
def KeepsComment (cs : List Char) : Prop := ¬ ['*', '/'] <:+: cs

instance : DecidablePred KeepsComment := fun _ => inferInstanceAs (Decidable (¬ _))

/-- A comment with the mark of its end at its end and nowhere else. -/
def ClosesAtEnd (cs : List Char) : Prop := ['*', '/'] <:+ cs ∧ KeepsComment cs.dropLast

instance : DecidablePred ClosesAtEnd := fun _ => inferInstanceAs (Decidable (_ ∧ _))

theorem keepsComment_append (h : cs.getLast? = some '*' → ds.head? ≠ some '/') :
    KeepsComment (cs ++ ds) ↔ KeepsComment cs ∧ KeepsComment ds := by
  have hmeet : ¬ (cs.getLast? = some '*' ∧ ds.head? = some '/') := fun hboth => h hboth.1 hboth.2
  simp only [KeepsComment, pair_infix_append, hmeet, or_false, not_or]

theorem keepsComment_of_notMem (h : '*' ∉ cs) : KeepsComment cs :=
  fun hpair => h (hpair.subset (by simp))

theorem Trimmed.keepsComment_iff (h : Trimmed cs ds) : KeepsComment ds ↔ KeepsComment cs :=
  not_congr (h.pair_infix_iff (by decide) (by decide))

theorem closesAtEnd_append (body : List Char) :
    ClosesAtEnd (body ++ ['*', '/']) ↔ KeepsComment body := by
  have hlast : (body ++ ['*', '/']).dropLast = body ++ ['*'] := by
    rw [show body ++ ['*', '/'] = (body ++ ['*']) ++ ['/'] by simp, List.dropLast_concat]
  have hend : KeepsComment ['*'] := by decide
  rw [ClosesAtEnd, hlast, keepsComment_append (by simp), and_iff_right (List.suffix_append _ _)]
  exact and_iff_left hend

theorem closesAtEnd_comment {inner : List Char} (hinner : inner.head? ≠ some '/') :
    ClosesAtEnd (['/', '*', '*'] ++ inner ++ ['*', '/']) ↔ KeepsComment inner := by
  have hstart : KeepsComment ['/', '*', '*'] := by decide
  rw [closesAtEnd_append, keepsComment_append fun _ => hinner]
  exact and_iff_right hstart

/-- Blanks in front of line breaks do not matter to where a comment ends. -/
theorem Trimmed.closesAtEnd_iff (h : Trimmed cs ds) : ClosesAtEnd ds ↔ ClosesAtEnd cs := by
  have hiff : ∀ {body kept : List Char}, Trimmed body kept →
      (ClosesAtEnd (kept ++ ['*', '/']) ↔ ClosesAtEnd (body ++ ['*', '/'])) := by
    intro body kept hbody
    rw [closesAtEnd_append, closesAtEnd_append, hbody.keepsComment_iff]
  constructor <;> intro hclose
  · obtain ⟨kept, rfl⟩ := hclose.1
    obtain ⟨body, rest, rfl, hbody, hrest⟩ := h.of_split (by decide)
    obtain ⟨rest, rfl, hnil⟩ := hrest.of_head (by decide)
    obtain rfl := hnil.eq_nil
    exact (hiff hbody).1 hclose
  · obtain ⟨body, rfl⟩ := hclose.1
    obtain ⟨kept, rest, rfl, hbody, hrest⟩ := h.split (by decide)
    obtain ⟨rest, rfl, hnil⟩ := hrest.head (by decide)
    cases hnil
    exact (hiff hbody).2 hclose

/-! ### Template literals -/

inductive TemplateStop where
  | close
  | substitution
  deriving DecidableEq, Repr

/-- Read a template literal up to the first backtick or the first start of a substitution, and find
what follows it. A backslash escapes the character after it. -/
def readTemplate : Bool → List Char → Option (TemplateStop × List Char)
  | _, [] => none
  | true, _ :: rest => readTemplate false rest
  | false, c :: rest =>
    if c = '\\' then readTemplate true rest
    else if c = '\x60' then some (.close, rest)
    else if c = '$' ∧ rest.head? = some '\x7b' then some (.substitution, rest.tail)
    else readTemplate false rest

def opensSubstitution : Bool → List Char → Bool
  | _, [] => false
  | true, _ :: rest => opensSubstitution false rest
  | false, c :: rest =>
    if c = '\\' then opensSubstitution true rest
    else decide (c = '$' ∧ rest.head? = some '\x7b') || opensSubstitution false rest

theorem readTemplate_append_cons (hc : c ∉ ['\\', '\x60', '$', '\x7b']) (after : List Char)
    {escaped : Bool} (hbacktick : '\x60' ∉ cs) (h : opensSubstitution escaped cs = false) :
    readTemplate escaped (cs ++ c :: after) = readTemplate false after := by
  simp only [List.mem_cons, List.not_mem_nil, or_false, not_or] at hc
  induction cs generalizing escaped with
  | nil => cases escaped <;> simp [readTemplate, hc]
  | cons d cs ih =>
    have hd : d ≠ '\x60' := fun hd => hbacktick (by simp [hd])
    have hrest : '\x60' ∉ cs := fun hmem => hbacktick (List.mem_cons_of_mem _ hmem)
    cases escaped with
    | true => exact ih hrest h
    | false =>
      rw [opensSubstitution] at h
      rw [List.cons_append, readTemplate]
      split
      · rename_i hescape
        rw [if_pos hescape] at h
        exact ih hrest h
      · rename_i hescape
        rw [if_neg hescape, Bool.or_eq_false_iff, decide_eq_false_iff_not] at h
        have hopen : ¬ (d = '$' ∧ (cs ++ c :: after).head? = some '\x7b') := by
          cases cs with
          | nil => simp [hc]
          | cons e cs => exact h.1
        rw [if_neg hopen]
        exact ih hrest h.2

theorem readTemplate_append_of_opens (after : List Char) {escaped : Bool} (hbacktick : '\x60' ∉ cs)
    (h : opensSubstitution escaped cs = true) :
    ∃ rest, readTemplate escaped (cs ++ after) = some (.substitution, rest ++ after) := by
  -- the text is read as `opensSubstitution` reads it, with the same choice at each character
  induction cs generalizing escaped with
  | nil => simp [opensSubstitution] at h
  | cons d cs ih =>
    have hd : d ≠ '\x60' := fun hd => hbacktick (by simp [hd])
    have hrest : '\x60' ∉ cs := fun hmem => hbacktick (List.mem_cons_of_mem _ hmem)
    cases escaped with
    | true => exact ih hrest h
    | false =>
      rw [opensSubstitution] at h
      rw [List.cons_append, readTemplate]
      split
      · rename_i hescape
        rw [if_pos hescape] at h
        exact ih hrest h
      · rename_i hescape
        rw [if_neg hescape, Bool.or_eq_true, decide_eq_true_eq] at h
        split
        · rename_i hopen
          cases cs with
          | nil => simp [opensSubstitution] at h
          | cons e cs => exact ⟨cs, rfl⟩
        · rename_i hopen
          refine ih hrest (h.resolve_left fun hstart => hopen ?_)
          refine ⟨hstart.1, ?_⟩
          rw [List.head?_append, hstart.2]
          rfl

/-- Only the characters that mean something in a literal matter to where substitutions start. -/
theorem opensSubstitution_map {f : Char → Char}
    (hf : ∀ c, ∀ special ∈ ['\\', '$', '\x7b'], f c = special ↔ c = special) (escaped : Bool)
    (cs : List Char) : opensSubstitution escaped (cs.map f) = opensSubstitution escaped cs := by
  induction cs generalizing escaped with
  | nil => rfl
  | cons c cs ih =>
    have hhead : (cs.map f).head? = some '\x7b' ↔ cs.head? = some '\x7b' := by
      cases cs with
      | nil => rfl
      | cons d cs => simp [hf d '\x7b' (by simp)]
    cases escaped with
    | true => exact ih false
    | false =>
      simp only [List.map_cons, opensSubstitution, ih, hhead, hf c '\\' (by simp),
        hf c '$' (by simp)]

theorem Trimmed.opensSubstitution_eq (h : Trimmed cs ds) (escaped : Bool) :
    opensSubstitution escaped ds = opensSubstitution escaped cs := by
  induction h generalizing escaped with
  | nil => rfl
  | keep c h ih =>
    cases escaped with
    | true => exact ih false
    | false =>
      have hhead := h.head?_eq_iff (show isBlank '\x7b' = false by decide)
      simp only [opensSubstitution, hhead, ih]
  | @drop cs ds b hb h ih =>
    have hescape : b ≠ '\\' := by
      rintro rfl
      exact absurd hb (by decide)
    have hdollar : b ≠ '$' := by
      rintro rfl
      exact absurd hb (by decide)
    have hnewline : opensSubstitution false ds = opensSubstitution false cs := by
      rw [← ih false]
      simp [opensSubstitution]
    cases escaped with
    | true => exact hnewline
    | false => simp [opensSubstitution, hescape, hdollar, hnewline]

end Text
end ServiceCapsule
