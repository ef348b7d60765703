import ServiceCapsule.Text.Pattern

/-!
# Ways to match

A pattern has a list of ways to match at a place, in the order of preference. A match goes on with
the first of them whose continuation succeeds. A way tells where the match ends, and what it reads up
to there is a text that the pattern spells.
-/

namespace ServiceCapsule
namespace Pattern

def manyWays (step : Place → Groups → List (Place × Groups)) :
    Nat → Place → Groups → List (Place × Groups)
  | 0, here, groups => [(here, groups)]
  | n + 1, here, groups =>
    ((step here groups).flatMap fun w =>
      if w.1.rest.length < here.rest.length then manyWays step n w.1 w.2 else []) ++
      [(here, groups)]

def fewWays (step : Place → Groups → List (Place × Groups)) :
    Nat → Place → Groups → List (Place × Groups)
  | 0, here, groups => [(here, groups)]
  | n + 1, here, groups =>
    (here, groups) :: (step here groups).flatMap fun w =>
      if w.1.rest.length < here.rest.length then fewWays step n w.1 w.2 else []

/-- All ways to match at a place: where they end, and with which groups. -/
def ways : Pattern → Place → Groups → List (Place × Groups)
  | empty, here, groups => [(here, groups)]
  | char accepts, here, groups =>
    match here.rest with
    | [] => []
    | c :: rest => if accepts c then [(⟨c :: here.before, rest⟩, groups)] else []
  | seq first second, here, groups =>
    (ways first here groups).flatMap fun w => ways second w.1 w.2
  | alt preferred other, here, groups => ways preferred here groups ++ ways other here groups
  | many body, here, groups => manyWays (ways body) here.rest.length here groups
  | few body, here, groups => fewWays (ways body) here.rest.length here groups
  | group index body, here, groups =>
    (ways body here groups).map fun w => (w.1, (index, here.textTo w.1) :: w.2)
  | lineStart, here, groups => if here.atLineStart then [(here, groups)] else []
  | lineEnd, here, groups => if here.atLineEnd then [(here, groups)] else []
  | wordEdge, here, groups => if here.atWordEdge then [(here, groups)] else []

section

variable {accepts : Char → Bool} {c : Char} {here : Place} {before rest : List Char}
  {groups : Groups}

theorem ways_char (hc : accepts c = true) :
    ways (char accepts) ⟨before, c :: rest⟩ groups = [(⟨c :: before, rest⟩, groups)] :=
  if_pos hc

theorem ways_lineStart (h : here.atLineStart = true) :
    ways lineStart here groups = [(here, groups)] :=
  if_pos h

theorem ways_lineEnd (h : here.atLineEnd = true) : ways lineEnd here groups = [(here, groups)] :=
  if_pos h

theorem ways_wordEdge (h : here.atWordEdge = true) :
    ways wordEdge here groups = [(here, groups)] :=
  if_pos h

theorem ways_many_char_cons (hc : accepts c = true) :
    ways (many (char accepts)) ⟨before, c :: rest⟩ groups =
      ways (many (char accepts)) ⟨c :: before, rest⟩ groups ++
        [(⟨before, c :: rest⟩, groups)] := by
  show manyWays (ways (char accepts)) (rest.length + 1) _ _ =
    manyWays (ways (char accepts)) rest.length _ _ ++ _
  rw [manyWays, ways_char hc]
  simp

theorem ways_few_char_cons (hc : accepts c = true) :
    ways (few (char accepts)) ⟨before, c :: rest⟩ groups =
      (⟨before, c :: rest⟩, groups) :: ways (few (char accepts)) ⟨c :: before, rest⟩ groups := by
  show fewWays (ways (char accepts)) (rest.length + 1) _ _ =
    _ :: fewWays (ways (char accepts)) rest.length _ _
  rw [fewWays, ways_char hc]
  simp

theorem ways_many_char_stop (hc : accepts c = false) :
    ways (many (char accepts)) ⟨before, c :: rest⟩ groups = [(⟨before, c :: rest⟩, groups)] := by
  have hways : ways (char accepts) ⟨before, c :: rest⟩ groups = [] := if_neg (by simp [hc])
  show manyWays (ways (char accepts)) (rest.length + 1) _ _ = _
  rw [manyWays, hways]
  simp

end

section

variable {α β : Type}

theorem findSome?_flatMap (f : α → List α) (g : α → Option β) (xs : List α) :
    (xs.flatMap f).findSome? g = xs.findSome? fun x => (f x).findSome? g := by
  induction xs with
  | nil => rfl
  | cons x xs ih =>
    rw [List.flatMap_cons, List.findSome?_append, ih, List.findSome?_cons]
    cases (f x).findSome? g <;> rfl

theorem manyRounds_eq {step : Place → Groups → (Place → Groups → Option β) → Option β}
    {stepWays : Place → Groups → List (Place × Groups)}
    (h : ∀ here groups done,
      step here groups done = (stepWays here groups).findSome? fun w => done w.1 w.2)
    (done : Place → Groups → Option β) (n : Nat) (here : Place) (groups : Groups) :
    manyRounds step done n here groups =
      (manyWays stepWays n here groups).findSome? fun w => done w.1 w.2 := by
  induction n generalizing here groups with
  | zero => simp [manyRounds, manyWays]
  | succ n ih =>
    simp only [manyRounds, manyWays, h, List.findSome?_append, findSome?_flatMap,
      List.findSome?_singleton]
    congr 2
    funext w
    split
    · exact ih w.1 w.2
    · rfl

theorem fewRounds_eq {step : Place → Groups → (Place → Groups → Option β) → Option β}
    {stepWays : Place → Groups → List (Place × Groups)}
    (h : ∀ here groups done,
      step here groups done = (stepWays here groups).findSome? fun w => done w.1 w.2)
    (done : Place → Groups → Option β) (n : Nat) (here : Place) (groups : Groups) :
    fewRounds step done n here groups =
      (fewWays stepWays n here groups).findSome? fun w => done w.1 w.2 := by
  induction n generalizing here groups with
  | zero => simp [fewRounds, fewWays]
  | succ n ih =>
    have hrounds : (fun w : Place × Groups =>
        if w.1.rest.length < here.rest.length then fewRounds step done n w.1 w.2 else none) =
        fun w => (if w.1.rest.length < here.rest.length then fewWays stepWays n w.1 w.2
          else []).findSome? fun w => done w.1 w.2 := by
      funext w
      split
      · exact ih w.1 w.2
      · rfl
    simp only [fewRounds, fewWays, h, hrounds, List.findSome?_cons, findSome?_flatMap]
    cases done here groups <;> rfl

/-- A match is the first way whose continuation succeeds. -/
theorem run_eq_findSome? (p : Pattern) (here : Place) (groups : Groups)
    (done : Place → Groups → Option β) :
    p.run here groups done = (p.ways here groups).findSome? fun w => done w.1 w.2 := by
  induction p generalizing here groups done with
  | empty => simp [run, ways]
  | char accepts =>
    cases hrest : here.rest with
    | nil => simp [run, ways, hrest]
    | cons c rest =>
      simp only [run, ways, hrest]
      split <;> simp
  | seq first second ihFirst ihSecond =>
    simp only [run, ways, ihFirst, ihSecond, findSome?_flatMap]
  | alt preferred other ihPreferred ihOther =>
    simp only [run, ways, ihPreferred, ihOther, List.findSome?_append]
  | many body ih => exact manyRounds_eq ih done _ here groups
  | few body ih => exact fewRounds_eq ih done _ here groups
  | group index body ih => simp only [run, ways, ih, List.findSome?_map, Function.comp_def]
  | lineStart => simp only [run, ways]; split <;> simp
  | lineEnd => simp only [run, ways]; split <;> simp
  | wordEdge => simp only [run, ways]; split <;> simp

end

theorem run_some (p : Pattern) (here : Place) :
    (p.run here [] fun after groups => some (after, groups)) = (p.ways here []).head? := by
  rw [run_eq_findSome?]
  cases p.ways here [] <;> rfl

/-! ### Texts that a pattern reads -/

/-- Any number of texts of a kind, one after the other. -/
def Repeats (kind : List Char → Prop) (cs : List Char) : Prop :=
  ∃ parts : List (List Char), cs = parts.flatten ∧ ∀ part ∈ parts, kind part

/-- Whether a pattern can read a text, wherever the text stands. -/
def Spells : Pattern → List Char → Prop
  | empty, cs | lineStart, cs | lineEnd, cs | wordEdge, cs => cs = []
  | char accepts, cs => ∃ c, cs = [c] ∧ accepts c = true
  | seq first second, cs => ∃ as bs, cs = as ++ bs ∧ first.Spells as ∧ second.Spells bs
  | alt preferred other, cs => preferred.Spells cs ∨ other.Spells cs
  | many body, cs | few body, cs => Repeats body.Spells cs
  | group _ body, cs => body.Spells cs

theorem Repeats.nil (kind : List Char → Prop) : Repeats kind [] := ⟨[], rfl, by simp⟩

theorem Repeats.cons {kind : List Char → Prop} {as bs : List Char} (ha : kind as)
    (hb : Repeats kind bs) : Repeats kind (as ++ bs) := by
  obtain ⟨parts, rfl, hparts⟩ := hb
  exact ⟨as :: parts, rfl, List.forall_mem_cons.2 ⟨ha, hparts⟩⟩

/-- One place comes after another one with a text of a kind in between. -/
def Between (kind : List Char → Prop) (first last : Place) : Prop :=
  ∃ cs, first.rest = cs ++ last.rest ∧ last.before = cs.reverse ++ first.before ∧ kind cs

namespace Between

variable {kind other both : List Char → Prop} {first middle last : Place}

theorem refl (h : kind []) (p : Place) : Between kind p p := ⟨[], by simp, by simp, h⟩

theorem trans (h : Between kind first middle) (h' : Between other middle last)
    (hboth : ∀ as bs, kind as → other bs → both (as ++ bs)) : Between both first last := by
  obtain ⟨cs, hrest, hbefore, hcs⟩ := h
  obtain ⟨ds, hrest', hbefore', hds⟩ := h'
  exact ⟨cs ++ ds, by simp [hrest, hrest'], by simp [hbefore, hbefore'], hboth cs ds hcs hds⟩

theorem mono (h : Between kind first last) (hkind : ∀ cs, kind cs → other cs) :
    Between other first last := by
  obtain ⟨cs, hrest, hbefore, hcs⟩ := h
  exact ⟨cs, hrest, hbefore, hkind cs hcs⟩

end Between

section

variable {kind : List Char → Prop} {step : Place → Groups → List (Place × Groups)}

theorem between_manyWays (h : ∀ here groups, ∀ w ∈ step here groups, Between kind here w.1)
    (n : Nat) (here : Place) (groups : Groups) :
    ∀ w ∈ manyWays step n here groups, Between (Repeats kind) here w.1 := by
  induction n generalizing here groups with
  | zero =>
    intro w hw
    obtain rfl : w = (here, groups) := by simpa [manyWays] using hw
    exact Between.refl (.nil kind) here
  | succ n ih =>
    intro w hw
    rcases List.mem_append.1 hw with hw | hw
    · obtain ⟨v, hv, hw⟩ := List.mem_flatMap.1 hw
      split at hw
      · exact (h here groups v hv).trans (ih v.1 v.2 w hw) fun as bs => .cons
      · simp at hw
    · obtain rfl : w = (here, groups) := by simpa using hw
      exact Between.refl (.nil kind) here

theorem between_fewWays (h : ∀ here groups, ∀ w ∈ step here groups, Between kind here w.1)
    (n : Nat) (here : Place) (groups : Groups) :
    ∀ w ∈ fewWays step n here groups, Between (Repeats kind) here w.1 := by
  induction n generalizing here groups with
  | zero =>
    intro w hw
    obtain rfl : w = (here, groups) := by simpa [fewWays] using hw
    exact Between.refl (.nil kind) here
  | succ n ih =>
    intro w hw
    rcases List.mem_cons.1 hw with rfl | hw
    · exact Between.refl (.nil kind) here
    · obtain ⟨v, hv, hw⟩ := List.mem_flatMap.1 hw
      split at hw
      · exact (h here groups v hv).trans (ih v.1 v.2 w hw) fun as bs => .cons
      · simp at hw

end

/-- What is read on a way is a text that the pattern can read. -/
theorem between_of_mem_ways (p : Pattern) (here : Place) (groups : Groups) :
    ∀ w ∈ p.ways here groups, Between p.Spells here w.1 := by
  have hedge : ∀ (test : Bool) (here : Place) (groups : Groups),
      ∀ w ∈ (if test then [(here, groups)] else []), Between (· = []) here w.1 := by
    intro test here groups w hw
    split at hw
    · obtain rfl : w = (here, groups) := by simpa using hw
      exact ⟨[], rfl, rfl, rfl⟩
    · simp at hw
  induction p generalizing here groups with
  | empty => exact hedge true here groups
  | char accepts =>
    intro w hw
    cases hrest : here.rest with
    | nil => simp [ways, hrest] at hw
    | cons c rest =>
      simp only [ways, hrest] at hw
      split at hw
      · rename_i hc
        obtain rfl : w = (⟨c :: here.before, rest⟩, groups) := by simpa using hw
        exact ⟨[c], by simp [hrest], by simp, c, rfl, hc⟩
      · simp at hw
  | seq first second ihFirst ihSecond =>
    intro w hw
    obtain ⟨v, hv, hw⟩ := List.mem_flatMap.1 hw
    exact (ihFirst here groups v hv).trans (ihSecond v.1 v.2 w hw) fun as bs has hbs =>
      ⟨as, bs, rfl, has, hbs⟩
  | alt preferred other ihPreferred ihOther =>
    intro w hw
    rcases List.mem_append.1 hw with hw | hw
    · exact (ihPreferred here groups w hw).mono fun cs => .inl
    · exact (ihOther here groups w hw).mono fun cs => .inr
  | many body ih => exact between_manyWays ih _ here groups
  | few body ih => exact between_fewWays ih _ here groups
  | group index body ih =>
    intro w hw
    obtain ⟨v, hv, rfl⟩ := List.mem_map.1 hw
    exact ih here groups v hv
  | lineStart => exact hedge _ here groups
  | lineEnd => exact hedge _ here groups
  | wordEdge => exact hedge _ here groups

def Reads : Pattern → Char → Prop
  | empty, _ | lineStart, _ | lineEnd, _ | wordEdge, _ => False
  | char accepts, c => accepts c
  | seq first second, c => first.Reads c ∨ second.Reads c
  | alt preferred other, c => preferred.Reads c ∨ other.Reads c
  | many body, c | few body, c | group _ body, c => body.Reads c

theorem Repeats.exists_mem {kind : List Char → Prop} {cs : List Char} (h : Repeats kind cs)
    {c : Char} (hc : c ∈ cs) : ∃ part, kind part ∧ c ∈ part := by
  obtain ⟨parts, rfl, hparts⟩ := h
  obtain ⟨part, hpart, hc⟩ := List.mem_flatten.1 hc
  exact ⟨part, hparts part hpart, hc⟩

theorem Spells.reads {p : Pattern} {cs : List Char} (h : p.Spells cs) {c : Char} (hc : c ∈ cs) :
    p.Reads c := by
  induction p generalizing cs with
  | empty | lineStart | lineEnd | wordEdge => simp [show cs = [] from h] at hc
  | char accepts =>
    obtain ⟨d, rfl, hd⟩ := h
    obtain rfl : c = d := by simpa using hc
    exact hd
  | seq first second ihFirst ihSecond =>
    obtain ⟨as, bs, rfl, has, hbs⟩ := h
    rcases List.mem_append.1 hc with hc | hc
    · exact .inl (ihFirst has hc)
    · exact .inr (ihSecond hbs hc)
  | alt preferred other ihPreferred ihOther =>
    rcases h with h | h
    · exact .inl (ihPreferred h hc)
    · exact .inr (ihOther h hc)
  | many body ih | few body ih =>
    obtain ⟨part, hpart, hc⟩ := h.exists_mem hc
    exact ih hpart hc
  | group index body ih => exact ih h hc

/-! ### Spelling of common patterns -/

section

variable {accepts : Char → Bool} {cs : List Char}

theorem spells_text {s : String} (h : (text s).Spells cs) : cs = s.toList := by
  unfold text at h
  generalize s.toList = ds at h ⊢
  induction ds generalizing cs with
  | nil => exact h
  | cons d ds ih =>
    obtain ⟨as, bs, rfl, ⟨c, rfl, hc⟩, hbs⟩ := h
    rw [ih hbs, (beq_iff_eq.1 hc : c = d)]
    rfl

theorem spells_many_char (h : (many (char accepts)).Spells cs) : ∀ c ∈ cs, accepts c = true := by
  intro c hc
  obtain ⟨part, ⟨d, rfl, hd⟩, hc⟩ := Repeats.exists_mem h hc
  obtain rfl : c = d := by simpa using hc
  exact hd

theorem spells_oneOrMore_char (h : (oneOrMore (char accepts)).Spells cs) :
    cs ≠ [] ∧ ∀ c ∈ cs, accepts c = true := by
  obtain ⟨as, bs, rfl, ⟨c, rfl, hc⟩, hbs⟩ := h
  refine ⟨by simp, ?_⟩
  rw [List.cons_append, List.nil_append, List.forall_mem_cons]
  exact ⟨hc, spells_many_char hbs⟩

end

/-! ### Ways from one place to another -/

/-- A pattern can match from one place to another. -/
def Reaches (p : Pattern) (first last : Place) : Prop :=
  ∀ groups, ∃ groups', (last, groups') ∈ p.ways first groups

section

variable {p q : Pattern} {first middle last : Place} {before rest : List Char}

theorem reaches_empty (here : Place) : Reaches empty here here :=
  fun groups => ⟨groups, List.mem_singleton_self _⟩

theorem reaches_char {accepts : Char → Bool} {c : Char} (hc : accepts c = true) :
    Reaches (char accepts) ⟨before, c :: rest⟩ ⟨c :: before, rest⟩ := by
  intro groups
  rw [ways_char hc]
  exact ⟨groups, List.mem_singleton_self _⟩

theorem Reaches.seq (hp : p.Reaches first middle) (hq : q.Reaches middle last) :
    (p.seq q).Reaches first last := by
  intro groups
  obtain ⟨groups', hmem⟩ := hp groups
  obtain ⟨groups'', hmem'⟩ := hq groups'
  exact ⟨groups'', List.mem_flatMap.2 ⟨_, hmem, hmem'⟩⟩

theorem Reaches.altLeft (hp : p.Reaches first last) : (p.alt q).Reaches first last := by
  intro groups
  obtain ⟨groups', hmem⟩ := hp groups
  exact ⟨groups', List.mem_append_left _ hmem⟩

theorem Reaches.altRight (hq : q.Reaches first last) : (p.alt q).Reaches first last := by
  intro groups
  obtain ⟨groups', hmem⟩ := hq groups
  exact ⟨groups', List.mem_append_right _ hmem⟩

theorem reaches_wordEdge {here : Place} (h : here.atWordEdge = true) :
    Reaches wordEdge here here := by
  intro groups
  rw [ways_wordEdge h]
  exact ⟨groups, List.mem_singleton_self _⟩

theorem reaches_text (s : String) :
    Reaches (text s) ⟨before, s.toList ++ rest⟩ ⟨s.toList.reverse ++ before, rest⟩ := by
  unfold text
  induction s.toList generalizing before with
  | nil => exact reaches_empty _
  | cons c cs ih =>
    have hchar : Reaches (char (· == c)) ⟨before, c :: (cs ++ rest)⟩
        ⟨c :: before, cs ++ rest⟩ := reaches_char (by simp)
    simpa using hchar.seq ih

theorem mem_manyWays_self (step : Place → Groups → List (Place × Groups)) (n : Nat)
    (here : Place) (groups : Groups) : (here, groups) ∈ manyWays step n here groups := by
  cases n with
  | zero => exact List.mem_singleton_self _
  | succ n => exact List.mem_append_right _ (List.mem_singleton_self _)

theorem reaches_many_zero (p : Pattern) (here : Place) : Reaches (many p) here here :=
  fun groups => ⟨groups, mem_manyWays_self _ _ here groups⟩

theorem reaches_many_char {accepts : Char → Bool} {cs : List Char}
    (hcs : ∀ c ∈ cs, accepts c = true) :
    Reaches (many (char accepts)) ⟨before, cs ++ rest⟩ ⟨cs.reverse ++ before, rest⟩ := by
  intro groups
  refine ⟨groups, ?_⟩
  induction cs generalizing before with
  | nil => exact mem_manyWays_self _ _ _ groups
  | cons c cs ih =>
    have hc := hcs c List.mem_cons_self
    rw [List.cons_append, List.reverse_cons, List.append_assoc, ways_many_char_cons hc]
    exact List.mem_append_left _ (ih fun c' hc' => hcs c' (List.mem_cons_of_mem _ hc'))

theorem reaches_oneBlank : Reaches oneBlank ⟨before, ' ' :: rest⟩ ⟨' ' :: before, rest⟩ :=
  (reaches_char (by decide)).seq (reaches_many_zero _ _)

end

/-! ### The preferred way -/

theorem textTo_reverse_append (cs before rest rest' : List Char) :
    Place.textTo ⟨before, rest⟩ ⟨cs.reverse ++ before, rest'⟩ = String.ofList cs := by
  have hlength : (cs.reverse ++ before).length - before.length = cs.reverse.length := by simp
  rw [Place.textTo, hlength, List.take_left, List.reverse_reverse]

/-- The preferred way of a pattern leads from one place to another and changes the groups. -/
def Prefers (p : Pattern) (first last : Place) (change : Groups → Groups) : Prop :=
  ∀ groups, (p.ways first groups).head? = some (last, change groups)

section

variable {p q : Pattern} {first middle last : Place} {before rest : List Char}

theorem head?_flatMap {α β : Type} {xs : List α} {x : α} {f : α → List β} {y : β}
    (hx : xs.head? = some x) (hy : (f x).head? = some y) : (xs.flatMap f).head? = some y := by
  cases xs with
  | nil => simp at hx
  | cons a xs =>
    obtain rfl : a = x := by simpa using hx
    simp [List.head?_append, hy]

theorem Prefers.seq {change change' : Groups → Groups} (hp : p.Prefers first middle change)
    (hq : q.Prefers middle last change') :
    (p.seq q).Prefers first last fun groups => change' (change groups) :=
  fun groups => head?_flatMap (hp groups) (hq _)

theorem Prefers.group {change : Groups → Groups} (hp : p.Prefers first last change)
    (index : Nat) :
    (group index p).Prefers first last fun groups =>
      (index, first.textTo last) :: change groups := by
  intro groups
  exact (List.head?_map).trans (by rw [hp groups]; rfl)

theorem prefers_empty (here : Place) : Prefers empty here here id := fun _ => rfl

theorem prefers_lineStart {here : Place} (h : here.atLineStart = true) :
    Prefers lineStart here here id :=
  fun _ => congrArg List.head? (ways_lineStart h)

theorem prefers_lineEnd {here : Place} (h : here.atLineEnd = true) :
    Prefers lineEnd here here id :=
  fun _ => congrArg List.head? (ways_lineEnd h)

theorem prefers_char {accepts : Char → Bool} {c : Char} (hc : accepts c = true) :
    Prefers (char accepts) ⟨before, c :: rest⟩ ⟨c :: before, rest⟩ id :=
  fun _ => congrArg List.head? (ways_char hc)

theorem prefers_text (s : String) :
    Prefers (text s) ⟨before, s.toList ++ rest⟩ ⟨s.toList.reverse ++ before, rest⟩ id := by
  unfold text
  induction s.toList generalizing before with
  | nil => exact prefers_empty _
  | cons c cs ih =>
    have hchar : Prefers (char (· == c)) ⟨before, c :: (cs ++ rest)⟩
        ⟨c :: before, cs ++ rest⟩ id := prefers_char (by simp)
    rw [List.reverse_cons, List.append_assoc]
    exact hchar.seq ih

theorem prefers_many_char_of_head? {accepts : Char → Bool} {cs : List Char}
    (hcs : ∀ c ∈ cs, accepts c = true) (hrest : ∀ c ∈ rest.head?, accepts c = false) :
    Prefers (many (char accepts)) ⟨before, cs ++ rest⟩ ⟨cs.reverse ++ before, rest⟩ id := by
  intro groups
  induction cs generalizing before with
  | nil =>
    cases rest with
    | nil => rfl
    | cons c rest => exact congrArg List.head? (ways_many_char_stop (hrest c rfl))
  | cons a cs ih =>
    have ha := hcs a List.mem_cons_self
    rw [List.cons_append, ways_many_char_cons ha, List.head?_append,
      ih fun c' hc' => hcs c' (List.mem_cons_of_mem _ hc')]
    simp

theorem prefers_many_char {accepts : Char → Bool} {cs : List Char} {c : Char}
    (hcs : ∀ c ∈ cs, accepts c = true) (hc : accepts c = false) :
    Prefers (many (char accepts)) ⟨before, cs ++ c :: rest⟩ ⟨cs.reverse ++ before, c :: rest⟩
      id :=
  prefers_many_char_of_head? hcs (by simpa using hc)

theorem prefers_oneOrMore_char {accepts : Char → Bool} {cs : List Char} (hne : cs ≠ [])
    (hcs : ∀ c ∈ cs, accepts c = true) (hrest : ∀ c ∈ rest.head?, accepts c = false) :
    Prefers (oneOrMore (char accepts)) ⟨before, cs ++ rest⟩ ⟨cs.reverse ++ before, rest⟩ id := by
  obtain ⟨c, cs, rfl⟩ := List.exists_cons_of_ne_nil hne
  obtain ⟨hc, hcs⟩ := List.forall_mem_cons.1 hcs
  rw [List.reverse_cons, List.append_assoc]
  exact (prefers_char hc).seq (prefers_many_char_of_head? hcs hrest)

/-- A reluctant repeat goes on for as long as nothing that may come after it matches. -/
theorem head?_flatMap_few_char {accepts : Char → Bool} {cs : List Char} {groups : Groups}
    {β : Type} {f : Place × Groups → List β} {y : β} (hcs : ∀ c ∈ cs, accepts c = true)
    (hno : ∀ as bs, cs = as ++ bs → bs ≠ [] →
      f (⟨as.reverse ++ before, bs ++ rest⟩, groups) = [])
    (hy : (f (⟨cs.reverse ++ before, rest⟩, groups)).head? = some y) :
    ((ways (few (char accepts)) ⟨before, cs ++ rest⟩ groups).flatMap f).head? = some y := by
  induction cs generalizing before with
  | nil =>
    obtain ⟨ws, hws⟩ : ∃ ws, ways (few (char accepts)) ⟨before, rest⟩ groups =
        (⟨before, rest⟩, groups) :: ws := by
      cases rest with
      | nil => exact ⟨[], rfl⟩
      | cons c rest => exact ⟨_, rfl⟩
    exact head?_flatMap (by simp [hws]) hy
  | cons c cs ih =>
    obtain ⟨hc, hcs⟩ := List.forall_mem_cons.1 hcs
    have hfirst : f (⟨before, c :: (cs ++ rest)⟩, groups) = [] := hno [] _ rfl (by simp)
    rw [List.cons_append, ways_few_char_cons hc, List.flatMap_cons, hfirst, List.nil_append]
    refine ih hcs (fun as bs hsplit hne => ?_) (by simpa using hy)
    simpa using hno (c :: as) bs (by simp [hsplit]) hne

end

/-! ### Texts that are taken whole -/

/-- Before a text of some sort the preferred way of a pattern is to read a text to its end. -/
def Takes (p : Pattern) (cs rest : List Char) (change : Groups → Groups) : Prop :=
  ∀ before, p.Prefers ⟨before, cs ++ rest⟩ ⟨cs.reverse ++ before, rest⟩ change

section

variable {p q : Pattern} {as as' bs cs rest : List Char} {change change' : Groups → Groups}
  {accepts : Char → Bool}

theorem Takes.seq (hp : p.Takes as (bs ++ rest) change) (hq : q.Takes bs rest change') :
    (p.seq q).Takes (as ++ bs) rest fun groups => change' (change groups) := by
  intro before
  rw [List.append_assoc, List.reverse_append, List.append_assoc]
  exact (hp before).seq (hq _)

theorem Takes.group (hp : p.Takes cs rest change) (index : Nat) :
    (group index p).Takes cs rest fun groups => (index, String.ofList cs) :: change groups := by
  intro before
  rw [← textTo_reverse_append cs before (cs ++ rest) rest]
  exact (hp before).group index

theorem takes_empty (rest : List Char) : Takes empty [] rest id :=
  fun _ => prefers_empty _

theorem takes_text (s : String) (rest : List Char) : Takes (text s) s.toList rest id :=
  fun _ => prefers_text s

theorem takes_many_char (hcs : ∀ c ∈ cs, accepts c = true)
    (hrest : ∀ c ∈ rest.head?, accepts c = false) : Takes (many (char accepts)) cs rest id :=
  fun _ => prefers_many_char_of_head? hcs hrest

theorem takes_oneOrMore_char (hne : cs ≠ []) (hcs : ∀ c ∈ cs, accepts c = true)
    (hrest : ∀ c ∈ rest.head?, accepts c = false) : Takes (oneOrMore (char accepts)) cs rest id :=
  fun _ => prefers_oneOrMore_char hne hcs hrest

theorem takes_lineEnd (hrest : rest.head?.all (· == '\n') = true) : Takes lineEnd [] rest id :=
  fun _ => prefers_lineEnd hrest

theorem takes_upTo {index : Nat} (hne : cs ≠ []) (hcs : ∀ c ∈ cs, accepts c = true)
    (hno : ∀ as bs, cs = as ++ bs → bs ≠ [] → ∀ before groups,
      q.ways ⟨before, bs ++ (as' ++ rest)⟩ groups = [])
    (hq : q.Takes as' rest change) :
    (Pattern.seq (group index (Pattern.seq (char accepts) (few (char accepts)))) q).Takes
      (cs ++ as') rest fun groups => change ((index, String.ofList cs) :: groups) := by
  intro before groups
  obtain ⟨c, cs, rfl⟩ := List.exists_cons_of_ne_nil hne
  obtain ⟨hc, hcs⟩ := List.forall_mem_cons.1 hcs
  have hways : ways (Pattern.seq (char accepts) (few (char accepts)))
      ⟨before, c :: (cs ++ (as' ++ rest))⟩ groups =
        ways (few (char accepts)) ⟨c :: before, cs ++ (as' ++ rest)⟩ groups := by
    rw [ways, ways_char hc]
    simp
  have hgroup := textTo_reverse_append (c :: cs) before (c :: (cs ++ (as' ++ rest))) (as' ++ rest)
  have hlast := hq (cs.reverse ++ c :: before) ((index, String.ofList (c :: cs)) :: groups)
  simp only [List.append_assoc, List.cons_append, List.reverse_append, List.reverse_cons,
    List.nil_append] at hgroup hlast ⊢
  rw [ways, ways, hways, List.flatMap_map]
  refine head?_flatMap_few_char hcs (fun as bs hsplit hbs => ?_) ?_
  · exact hno (c :: as) bs (by rw [hsplit, List.cons_append]) hbs _ _
  · simp only [hgroup]
    exact hlast

end

end Pattern
end ServiceCapsule
