import ServiceCapsule.Proofs.Capsule.Slugs
import ServiceCapsule.Proofs.Package.Declared
import ServiceCapsule.Proofs.Package.Words

/-!
# Ids and the words of generated names

Ids and the names in generated code are made of the same words, although one is written character by
character with hyphens in between and the other is gathered word by word. So an id is its own id, it
gives the class name that the text gives which it was made of, and it is the id of its own title.
-/

namespace ServiceCapsule

namespace Text

theorem toLower_toLower {c : Char} (h : c.isAlphanum = true) : c.toLower.toLower = c.toLower :=
  forall_isAlphanum (p := fun c => c.toLower.toLower = c.toLower) (by decide +kernel) h

theorem toUpper_toLower {c : Char} (h : c.isAlphanum = true) : c.toLower.toUpper = c.toUpper :=
  forall_isAlphanum (p := fun c => c.toLower.toUpper = c.toUpper) (by decide +kernel) h

theorem toLower_toUpper {c : Char} (h : c.isAlphanum = true) : c.toUpper.toLower = c.toLower :=
  forall_isAlphanum (p := fun c => c.toUpper.toLower = c.toLower) (by decide +kernel) h

theorem ne_of_isAlphanum {c d : Char} (hc : c.isAlphanum = true) (hd : d.isAlphanum = false) :
    c ≠ d := by
  rintro rfl
  simp [hc] at hd

/-- Pieces without a cut in them are found again in what they are joined to. -/
theorem splitAtEach_intercalate {p : Char → Bool} {sep : Char} (hsep : p sep = true)
    {pieces : List (List Char)} (hne : pieces ≠ [])
    (hpieces : ∀ piece ∈ pieces, ∀ c ∈ piece, p c = false) :
    splitAtEach p ([sep].intercalate pieces) = pieces := by
  induction pieces with
  | nil => exact absurd rfl hne
  | cons piece pieces ih =>
    obtain ⟨hpiece, hrest⟩ := List.forall_mem_cons.1 hpieces
    cases pieces with
    | nil => simpa using splitAtEach_of_forall hpiece
    | cons next pieces =>
      rw [List.intercalate_cons_cons, List.append_assoc, List.singleton_append,
        splitAtEach_append_cons hsep, splitAtEach_of_forall hpiece, ih (by simp) hrest]
      rfl

end Text

namespace Naming

def lowered (word : List Char) : List Char := word.map Char.toLower

/-- A word that is not cut again: after its first character it has no capital. -/
def IsWhole (word : List Char) : Prop :=
  ∃ c cs, word = c :: cs ∧ c.isAlphanum = true ∧ ∀ d ∈ cs, d.isLower = true ∨ d.isDigit = true

theorem isAlphanum_of_lower {c : Char} (h : c.isLower = true ∨ c.isDigit = true) :
    c.isAlphanum = true := by
  rcases h with h | h
  · exact Text.isAlphanum_of_isAlpha (show (c.isUpper || c.isLower) = true by simp [h])
  · exact Text.isAlphanum_of_isDigit h

theorem not_isUpper_of_lower {c : Char} (h : c.isLower = true ∨ c.isDigit = true) :
    c.isUpper = false := by
  rw [Bool.eq_false_iff]
  intro hupper
  rw [Text.isUpper_iff] at hupper
  rw [Text.isLower_iff, Text.isDigit_iff] at h
  omega

theorem IsWhole.isAlphanum {word : List Char} (h : IsWhole word) :
    ∀ c ∈ word, c.isAlphanum = true := by
  obtain ⟨c, cs, rfl, hc, hcs⟩ := h
  exact List.forall_mem_cons.2 ⟨hc, fun d hd => isAlphanum_of_lower (hcs d hd)⟩

theorem wordsFrom_append {current cs rest : List Char} (hne : current ≠ [])
    (hcs : ∀ d ∈ cs, d.isLower = true ∨ d.isDigit = true)
    (hrest : rest.head?.all (!·.isAlphanum) = true) (afterLower : Bool) :
    wordsFrom current afterLower (cs ++ rest) =
      (current.reverse ++ cs) :: wordsFrom [] false rest := by
  induction cs generalizing current afterLower with
  | nil =>
    cases rest with
    | nil => simp [wordsFrom, hne]
    | cons a rest =>
      have ha : a.isAlphanum = false := by simpa using hrest
      simp [wordsFrom, ha, hne]
  | cons c cs ih =>
    obtain ⟨hc, hcs⟩ := List.forall_mem_cons.1 hcs
    rw [List.cons_append, wordsFrom, isAlphanum_of_lower hc, not_isUpper_of_lower hc]
    simp only [Bool.not_true, Bool.false_and, Bool.false_eq_true, if_false]
    rw [ih (List.cons_ne_nil c current) hcs]
    simp

theorem IsWhole.wordsFrom_append {word rest : List Char} (h : IsWhole word)
    (hrest : rest.head?.all (!·.isAlphanum) = true) :
    wordsFrom [] false (word ++ rest) = word :: wordsFrom [] false rest := by
  obtain ⟨c, cs, rfl, hc, hcs⟩ := h
  rw [List.cons_append, wordsFrom, hc]
  simp only [Bool.not_true, Bool.and_false, Bool.false_and, Bool.false_eq_true, if_false]
  exact Naming.wordsFrom_append (List.cons_ne_nil c []) hcs hrest _

theorem words_intercalate {sep : Char} (hsep : sep.isAlphanum = false)
    {ws : List (List Char)} (h : ∀ word ∈ ws, IsWhole word) :
    words (String.ofList ([sep].intercalate ws)) = ws := by
  rw [words, String.toList_ofList]
  induction ws with
  | nil => rfl
  | cons word ws ih =>
    obtain ⟨hword, hws⟩ := List.forall_mem_cons.1 h
    cases ws with
    | nil =>
      have hend : ([] : List Char).head?.all (!·.isAlphanum) = true := rfl
      simpa [wordsFrom] using hword.wordsFrom_append hend
    | cons next ws =>
      rw [List.intercalate_cons_cons, List.append_assoc, List.singleton_append,
        hword.wordsFrom_append (by simp [hsep]), wordsFrom, hsep]
      simpa using ih hws

variable {word : List Char}

theorem IsWord.isWhole_lowered (h : IsWord word) : IsWhole (lowered word) := by
  obtain ⟨hne, hword⟩ := h
  cases word with
  | nil => exact absurd rfl hne
  | cons c cs =>
    obtain ⟨hc, hcs⟩ := List.forall_mem_cons.1 hword
    exact ⟨_, _, rfl, Text.isAlphanum_toLower hc,
      List.forall_mem_map.2 fun d hd => Identity.isLower_or_isDigit_toLower (hcs d hd)⟩

theorem isWhole_lowered_words (s : String) : ∀ word ∈ (words s).map lowered, IsWhole word :=
  List.forall_mem_map.2 fun _ hword => (isWord_of_mem_words hword).isWhole_lowered

theorem IsWord.lowered_lowered (h : IsWord word) : lowered (lowered word) = lowered word := by
  rw [lowered, lowered, List.map_map]
  exact List.map_congr_left fun c hc => Text.toLower_toLower (h.2 c hc)

theorem IsWord.capitalize_lowered (h : IsWord word) :
    capitalize (lowered word) = capitalize word := by
  cases word with
  | nil => rfl
  | cons c cs =>
    obtain ⟨hc, hcs⟩ := List.forall_mem_cons.1 h.2
    simp only [lowered, List.map_cons, capitalize, List.map_map, Text.toUpper_toLower hc]
    congr 1
    exact List.map_congr_left fun d hd => Text.toLower_toLower (hcs d hd)

theorem className_congr {s t : String} (h : pascalChars s = pascalChars t) :
    className s = className t := by
  simp only [className, h]

end Naming

namespace Identity

open Naming (words lowered IsWord IsWhole)

/-- Words with a hyphen behind each of them. -/
def closed (ws : List (List Char)) : List Char := ws.flatMap fun word => word ++ ['-']

theorem closed_eq {ws : List (List Char)} (hne : ws ≠ []) :
    closed ws = ['-'].intercalate ws ++ ['-'] := by
  induction ws with
  | nil => exact absurd rfl hne
  | cons word ws ih =>
    cases ws with
    | nil => simp [closed]
    | cons next ws =>
      have hmore := ih (by simp)
      rw [List.intercalate_cons_cons, List.append_assoc, ← hmore]
      simp [closed]

/-- What is written of an id are the words that came to an end, each with a hyphen, and the word
that goes on. -/
def writing (done : List (List Char)) (current : List Char) : List Char :=
  lowered current ++ (closed (done.map lowered)).reverse

theorem head?_writing {current : List Char} (hcurrent : ∀ c ∈ current, c.isAlphanum = true)
    (done : List (List Char)) :
    (current = [] → (writing done current).isEmpty = true ∨
        (writing done current).head? = some '-') ∧
      (current ≠ [] → (writing done current).isEmpty = false ∧
        (writing done current).head? ≠ some '-') := by
  cases current with
  | nil =>
    refine ⟨fun _ => ?_, fun h => absurd rfl h⟩
    rcases List.eq_nil_or_concat done with rfl | ⟨before, last, rfl⟩
    · exact .inl rfl
    · right
      simp [writing, lowered, closed]
  | cons c current =>
    refine ⟨fun h => absurd h (by simp), fun _ => ⟨rfl, ?_⟩⟩
    have hlower := isLower_or_isDigit_toLower (hcurrent c List.mem_cons_self)
    intro hhead
    obtain hc : c.toLower = '-' := by simpa [writing, lowered] using hhead
    rw [hc] at hlower
    exact absurd hlower (by decide)

/-- A hyphen ends the word that goes on. -/
theorem writing_end (done : List (List Char)) (current : List Char) :
    '-' :: writing done current = writing (done ++ [current.reverse]) [] := by
  simp [writing, lowered, closed]

theorem writing_cons (done : List (List Char)) (c : Char) (current : List Char) :
    c.toLower :: writing done current = writing done (c :: current) := rfl

/-- An id is written as the words of the text are gathered: the same cuts, at the same places. -/
theorem hyphenate_eq (done : List (List Char)) (current : List Char) (afterLower : Bool)
    (hcurrent : ∀ c ∈ current, c.isAlphanum = true) (hafter : afterLower = true → current ≠ [])
    (cs : List Char) :
    ∃ last, (last = [] ∨ last = ['-']) ∧
      hyphenate (writing done current) afterLower cs ++ last =
        closed ((done ++ Naming.wordsFrom current afterLower cs).map lowered) := by
  -- the words that ended and the one that goes on are the state of both loops
  induction cs generalizing done current afterLower with
  | nil =>
    cases hempty : current.isEmpty with
    | true =>
      obtain rfl := List.isEmpty_iff.1 hempty
      refine ⟨[], .inl rfl, ?_⟩
      simp [hyphenate, writing, lowered, Naming.wordsFrom]
    | false =>
      refine ⟨['-'], .inr rfl, ?_⟩
      simp [hyphenate, writing, lowered, Naming.wordsFrom, hempty, closed]
  | cons c cs ih =>
    obtain ⟨hnone, hsome⟩ := head?_writing hcurrent done
    rw [hyphenate, Naming.wordsFrom]
    cases hc : c.isAlphanum with
    | true =>
      have hone : ∀ d ∈ [c], d.isAlphanum = true := by simpa using hc
      cases hcut : (c.isUpper && afterLower) with
      | true =>
        have hne := hsome (hafter (Bool.and_eq_true_iff.1 hcut).2)
        have hopen : current.isEmpty = false := by
          simpa using hafter (Bool.and_eq_true_iff.1 hcut).2
        obtain ⟨last, hlast, heq⟩ := ih (done ++ [current.reverse]) [c] (c.isLower || c.isDigit)
          hone fun _ => by simp
        refine ⟨last, hlast, ?_⟩
        simpa [hne.2, hopen, writing_end, writing_cons] using heq
      | false =>
        obtain ⟨last, hlast, heq⟩ := ih done (c :: current) (c.isLower || c.isDigit)
          (List.forall_mem_cons.2 ⟨hc, hcurrent⟩) fun _ => by simp
        exact ⟨last, hlast, by simpa [writing_cons] using heq⟩
    | false =>
      cases hempty : current.isEmpty with
      | true =>
        obtain rfl := List.isEmpty_iff.1 hempty
        obtain ⟨last, hlast, heq⟩ := ih done [] false (by simp) (by simp)
        refine ⟨last, hlast, ?_⟩
        rcases hnone rfl with hstart | hhead
        · simpa [hstart] using heq
        · simpa [hhead] using heq
      | false =>
        have hne := hsome (by simpa using hempty)
        obtain ⟨last, hlast, heq⟩ := ih (done ++ [current.reverse]) [] false (by simp) (by simp)
        refine ⟨last, hlast, ?_⟩
        simpa [hne.1, hne.2, writing_end] using heq

theorem exists_ends_intercalate {ws : List (List Char)} (hne : ws ≠ [])
    (h : ∀ word ∈ ws, IsWhole word) :
    (∃ c cs, ['-'].intercalate ws = c :: cs ∧ c.isAlphanum = true) ∧
      ∃ cs c, ['-'].intercalate ws = cs ++ [c] ∧ c.isAlphanum = true := by
  induction ws with
  | nil => exact absurd rfl hne
  | cons word ws ih =>
    obtain ⟨hword, hws⟩ := List.forall_mem_cons.1 h
    obtain ⟨c, cs, rfl, hc, -⟩ := id hword
    cases ws with
    | nil =>
      have hne : c :: cs ≠ [] := List.cons_ne_nil c cs
      refine ⟨⟨c, cs, by simp, hc⟩, (c :: cs).dropLast, (c :: cs).getLast hne, ?_,
        hword.isAlphanum _ (List.getLast_mem hne)⟩
      rw [List.dropLast_concat_getLast, List.intercalate_singleton]
    | cons next ws =>
      obtain ⟨-, body, d, hbody, hd⟩ := ih (by simp) hws
      rw [List.intercalate_cons_cons, hbody]
      refine ⟨⟨c, cs ++ ['-'] ++ (body ++ [d]), rfl, hc⟩, c :: cs ++ ['-'] ++ body, d, ?_, hd⟩
      rw [List.append_assoc _ body]

theorem dropAround_intercalate {ws : List (List Char)} (hne : ws ≠ [])
    (h : ∀ word ∈ ws, IsWhole word) {last : List Char} (hlast : last = [] ∨ last = ['-']) :
    Text.dropAround (· == '-') (['-'].intercalate ws ++ last) = ['-'].intercalate ws := by
  obtain ⟨⟨c, cs, hstart, hc⟩, body, d, hend, hd⟩ := exists_ends_intercalate hne h
  have hc : (c == '-') = false := beq_eq_false_iff_ne.2 (Text.ne_of_isAlphanum hc rfl)
  have hd : (d == '-') = false := beq_eq_false_iff_ne.2 (Text.ne_of_isAlphanum hd rfl)
  have hfront : (['-'].intercalate ws ++ last).dropWhile (· == '-') =
      ['-'].intercalate ws ++ last := by
    rw [hstart, List.cons_append, List.dropWhile_cons_of_neg (by simp [hc])]
  rw [Text.dropAround, hfront, hend]
  rcases hlast with rfl | rfl
  all_goals simp [Text.dropEndWhile, hd]

/-- An id is made of the words of the text, in lower case and with hyphens between them. -/
theorem kebab_eq (s : String) :
    kebab s = if words s = [] then "capsule"
      else String.ofList (['-'].intercalate ((words s).map lowered)) := by
  obtain ⟨last, hlast, heq⟩ := hyphenate_eq [] [] false (by simp) (by simp) s.toList
  have heq : hyphenate [] false s.toList ++ last = closed ((words s).map lowered) := heq
  unfold kebab
  split_ifs with hwords
  · have hnone : hyphenate [] false s.toList = [] := by
      rw [hwords] at heq
      exact (List.append_eq_nil_iff.1 heq).1
    rw [hnone]
    rfl
  · have hne : (words s).map lowered ≠ [] := by simpa using hwords
    have hwhole := Naming.isWhole_lowered_words s
    -- a hyphen at the end is there if something else than a word ends the text
    have hid : Text.dropAround (· == '-') (hyphenate [] false s.toList) =
        ['-'].intercalate ((words s).map lowered) := by
      rw [closed_eq hne] at heq
      rcases hlast with rfl | rfl
      · rw [List.append_nil] at heq
        rw [heq, dropAround_intercalate hne hwhole (.inr rfl)]
      · rw [List.append_cancel_right heq]
        simpa using dropAround_intercalate hne hwhole (.inl rfl)
    obtain ⟨c, cs, hstart, -⟩ := (exists_ends_intercalate hne hwhole).1
    rw [hid, hstart]

theorem words_kebab {s : String} (h : words s ≠ []) : words (kebab s) = (words s).map lowered := by
  rw [kebab_eq, if_neg h]
  exact Naming.words_intercalate rfl (Naming.isWhole_lowered_words s)

theorem kebab_kebab (s : String) : kebab (kebab s) = kebab s := by
  by_cases h : words s = []
  · rw [kebab_eq s, if_pos h]
    decide +kernel
  · have hlower : ((words s).map lowered).map lowered = (words s).map lowered := by
      rw [List.map_map]
      exact List.map_congr_left fun word hword => (Naming.isWord_of_mem_words hword).lowered_lowered
    rw [kebab_eq (kebab s), words_kebab h, hlower, kebab_eq s, if_neg h, if_neg (by simpa using h)]

theorem className_kebab (s : String) : Naming.className (kebab s) = Naming.className s := by
  by_cases h : words s = []
  · rw [kebab_eq, if_pos h, Naming.className, Naming.className, Naming.pascalChars,
      Naming.pascalChars, h]
    decide +kernel
  · apply Naming.className_congr
    rw [Naming.pascalChars, Naming.pascalChars, words_kebab h, List.flatMap_map]
    exact List.flatMap_congr fun word hword =>
      (Naming.isWord_of_mem_words hword).capitalize_lowered

/-! ### Titles -/

theorem capitalized_lowered {word : List Char} (h : IsWord word) :
    IsWhole (capitalized (lowered word)) ∧ lowered (capitalized (lowered word)) = lowered word := by
  cases word with
  | nil => exact absurd rfl h.1
  | cons c cs =>
    obtain ⟨hc, hcs⟩ := List.forall_mem_cons.1 h.2
    have hlower := Text.isAlphanum_toLower hc
    have hcapital : capitalized (lowered (c :: cs)) = c.toUpper :: lowered cs := by
      simp [capitalized, lowered, Text.upper_ascii (Text.toNat_lt_of_isAlphanum hlower),
        Text.toUpper_toLower hc]
    rw [hcapital]
    refine ⟨⟨_, _, rfl, ?_, ?_⟩, ?_⟩
    · rcases Text.isUpper_or_isDigit_toUpper hc with hupper | hdigit
      · exact Text.isAlphanum_of_isAlpha (Text.isAlpha_of_isUpper hupper)
      · exact Text.isAlphanum_of_isDigit hdigit
    · exact List.forall_mem_map.2 fun d hd => isLower_or_isDigit_toLower (hcs d hd)
    · show c.toUpper.toLower :: lowered (lowered cs) = c.toLower :: lowered cs
      rw [Text.toLower_toUpper hc]
      congr 1
      rw [lowered, lowered, List.map_map]
      exact List.map_congr_left fun d hd => Text.toLower_toLower (hcs d hd)

theorem title_kebab {s : String} (h : words s ≠ []) :
    title (kebab s) =
      String.ofList ([' '].intercalate ((words s).map fun word => capitalized (lowered word))) := by
  have hwhole := Naming.isWhole_lowered_words s
  have hsplit : Text.splitAtEach (fun c => c == '-' || c == '_' || Text.isBlank c)
      (['-'].intercalate ((words s).map lowered)) = (words s).map lowered := by
    refine Text.splitAtEach_intercalate rfl (by simpa using h) fun word hword c hc => ?_
    have halnum := (hwhole word hword).isAlphanum c hc
    have hblank : Text.isBlank c = false :=
      Naming.not_isBlank_of_continuesIdentifier (by simp [Naming.continuesIdentifier, halnum])
    simp [hblank, Text.ne_of_isAlphanum halnum (show '-'.isAlphanum = false from rfl),
      Text.ne_of_isAlphanum halnum (show '_'.isAlphanum = false from rfl)]
  have hkept : ((words s).map lowered).filter (!·.isEmpty) = (words s).map lowered := by
    rw [List.filter_eq_self]
    intro word hword
    obtain ⟨c, cs, rfl, -⟩ := hwhole word hword
    rfl
  rw [title, kebab_eq, if_neg h, String.toList_ofList, hsplit, hkept, ← String.toList_inj]
  simp [Function.comp_def]

theorem kebab_title_kebab (s : String) : kebab (title (kebab s)) = kebab s := by
  by_cases h : words s = []
  · rw [kebab_eq s, if_pos h]
    decide +kernel
  · have hwords : words (title (kebab s)) =
        (words s).map fun word => capitalized (lowered word) := by
      rw [title_kebab h]
      exact Naming.words_intercalate rfl <| List.forall_mem_map.2 fun word hword =>
        (capitalized_lowered (Naming.isWord_of_mem_words hword)).1
    have hlower : ((words s).map fun word => capitalized (lowered word)).map lowered =
        (words s).map lowered := by
      rw [List.map_map]
      exact List.map_congr_left fun word hword =>
        (capitalized_lowered (Naming.isWord_of_mem_words hword)).2
    rw [kebab_eq (title (kebab s)), hwords, hlower, kebab_eq s, if_neg h, if_neg (by simpa using h)]

/-- The id of a text is made of the words that names in generated code are made of, in lower case
and with hyphens between them. An id is its own id and that of its title, and names are the same
whether they are made of the text or of its id. -/
theorem kebab_agrees_words (s : String) :
    (kebab s = if words s = [] then "capsule"
      else "-".intercalate ((words s).map fun word => String.ofList (word.map Char.toLower))) ∧
      kebab (kebab s) = kebab s ∧
      Naming.className (kebab s) = Naming.className s ∧
      Naming.isIdentifier (Naming.className (kebab s)) = true ∧
      (Naming.className (kebab s)).toList.head?.any Char.isUpper = true ∧
      kebab (title (kebab s)) = kebab s := by
  have hname := Naming.isCapitalized_className (kebab s)
  refine ⟨?_, kebab_kebab s, className_kebab s, ?_, ?_, kebab_title_kebab s⟩
  · rw [kebab_eq]
    congr 1
    rw [← String.toList_inj]
    simp [Function.comp_def]
    rfl
  · simpa using hname.isIdentifier_append "" rfl
  · obtain ⟨c, cs, hcs, hupper, -⟩ := hname
    simp [hcs, hupper]

end Identity
end ServiceCapsule
