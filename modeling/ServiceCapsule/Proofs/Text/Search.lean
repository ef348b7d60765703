import ServiceCapsule.Proofs.Text.Ways

/-!
# Searching

A pattern that can match at some place of a text occurs in the text, and what is found stands at some
place of it. A pattern is found at each line where it matches, as long as no match that begins above
goes past the end of the line before.
-/

namespace ServiceCapsule
namespace Pattern

variable {p : Pattern} {before rest : List Char}

theorem searchFrom_eq (p : Pattern) (before : List Char) (c : Char) (rest : List Char) :
    p.searchFrom before (c :: rest) =
      (p.ways ⟨before, c :: rest⟩ []).head?.or (p.searchFrom (c :: before) rest) := by
  rw [searchFrom, run_some]

theorem searchFrom_of_head? {w : Place × Groups}
    (hw : (p.ways ⟨before, rest⟩ []).head? = some w) : p.searchFrom before rest = some w := by
  cases rest with
  | nil => rw [searchFrom, run_some, hw]
  | cons c rest => simp [searchFrom_eq, hw]

theorem isSome_searchFrom {skipped : List Char}
    (h : p.ways ⟨skipped.reverse ++ before, rest⟩ [] ≠ []) :
    (p.searchFrom before (skipped ++ rest)).isSome = true := by
  induction skipped generalizing before with
  | nil =>
    obtain ⟨w, ws, hws⟩ := List.exists_cons_of_ne_nil h
    rw [List.nil_append, searchFrom_of_head? (w := w) (by simpa using congrArg List.head? hws)]
    rfl
  | cons c skipped ih =>
    rw [List.cons_append, searchFrom_eq]
    cases (p.ways ⟨before, c :: (skipped ++ rest)⟩ []).head? with
    | some w => rfl
    | none => exact ih (by simpa using h)

theorem occursIn_of_reaches {last : Place} (h : p.Reaches ⟨before, rest⟩ last) {s : String}
    (hs : s.toList = before.reverse ++ rest) : p.occursIn s = true := by
  obtain ⟨groups, hmem⟩ := h []
  unfold occursIn
  rw [hs]
  exact isSome_searchFrom (by simpa using List.ne_nil_of_mem hmem)

theorem exists_of_searchFrom {w : Place × Groups} (h : p.searchFrom before rest = some w) :
    ∃ skipped left, rest = skipped ++ left ∧ w ∈ p.ways ⟨skipped.reverse ++ before, left⟩ [] := by
  induction rest generalizing before with
  | nil =>
    rw [searchFrom, run_some] at h
    exact ⟨[], [], rfl, List.mem_of_head? h⟩
  | cons c rest ih =>
    rw [searchFrom_eq] at h
    cases hv : (p.ways ⟨before, c :: rest⟩ []).head? with
    | some v =>
      rw [hv, Option.some_or] at h
      exact ⟨[], c :: rest, rfl, Option.some.inj h ▸ List.mem_of_head? hv⟩
    | none =>
      rw [hv, Option.none_or] at h
      obtain ⟨skipped, left, rfl, hw⟩ := ih h
      exact ⟨c :: skipped, left, rfl, by simpa using hw⟩

theorem matchesIn_eq_nil {s : String} (h : p.searchFrom [] s.toList = none) :
    p.matchesIn s = [] := by
  simp [matchesIn, matchesFrom, Place.start, h]

/-! ### Matches of lines -/

/-- No way that begins above a newline, with the text above it read backwards, goes past it. -/
def StopsBefore (p : Pattern) (above rest : List Char) : Prop :=
  ∀ before skipped, skipped.reverse ++ before = above →
    ∀ w ∈ p.ways ⟨before, skipped ++ '\n' :: rest⟩ [], ∃ left, w.1.rest = left ++ '\n' :: rest

section

variable {above skipped : List Char} {w : Place × Groups}

/-- What is found where a search begins above a newline ends above it. -/
theorem StopsBefore.exists_left (hp : p.StopsBefore above rest)
    (hskipped : skipped.reverse ++ before = above)
    (hw : (p.ways ⟨before, skipped ++ '\n' :: rest⟩ []).head? = some w) :
    ∃ left before' groups, left.length ≤ skipped.length ∧ left.reverse ++ before' = above ∧
      w = (⟨before', left ++ '\n' :: rest⟩, groups) := by
  obtain ⟨⟨before', rest'⟩, groups⟩ := w
  obtain ⟨left, rfl⟩ := hp before skipped hskipped _ (List.mem_of_head? hw)
  obtain ⟨cs, hrest, rfl, -⟩ := between_of_mem_ways p _ [] _ (List.mem_of_head? hw)
  obtain rfl : skipped = cs ++ left := by
    rw [← List.append_assoc] at hrest
    exact List.append_cancel_right hrest
  refine ⟨left, _, groups, by simp, ?_, rfl⟩
  simp [← hskipped]

theorem searchFrom_above (hp : p.StopsBefore above rest)
    (hskipped : skipped.reverse ++ before = above) :
    p.searchFrom before (skipped ++ '\n' :: rest) = p.searchFrom ('\n' :: above) rest ∨
    ∃ left before' groups, left.length ≤ skipped.length ∧ left.reverse ++ before' = above ∧
      p.searchFrom before (skipped ++ '\n' :: rest) =
        some (⟨before', left ++ '\n' :: rest⟩, groups) := by
  induction skipped generalizing before with
  | nil =>
    obtain rfl : before = above := hskipped
    cases hv : (p.ways ⟨before, '\n' :: rest⟩ []).head? with
    | some v =>
      have hnone : ([] : List Char).reverse ++ before = before := rfl
      obtain ⟨left, before', groups, hle, hleft, rfl⟩ := hp.exists_left hnone hv
      exact .inr ⟨left, before', groups, hle, hleft, searchFrom_of_head? hv⟩
    | none =>
      rw [List.nil_append, searchFrom_eq, hv]
      exact .inl rfl
  | cons c skipped ih =>
    cases hv : (p.ways ⟨before, c :: skipped ++ '\n' :: rest⟩ []).head? with
    | some v =>
      obtain ⟨left, before', groups, hle, hleft, rfl⟩ := hp.exists_left hskipped hv
      exact .inr ⟨left, before', groups, hle, hleft, searchFrom_of_head? hv⟩
    | none =>
      rw [List.cons_append] at hv ⊢
      rw [searchFrom_eq, hv, Option.none_or]
      have hskipped : skipped.reverse ++ c :: before = above := by simpa using hskipped
      rcases ih hskipped with h | h
      · exact .inl h
      · obtain ⟨left, before', groups, hle, h⟩ := h
        exact .inr ⟨left, before', groups, Nat.le_succ_of_le hle, h⟩

theorem mem_matchesFrom_below (hp : p.StopsBefore above rest)
    (hw : (p.ways ⟨'\n' :: above, rest⟩ []).head? = some w)
    (hskipped : skipped.reverse ++ before = above) {fuel : Nat}
    (hfuel : skipped.length + 1 < fuel) :
    w.2 ∈ p.matchesFrom fuel ⟨before, skipped ++ '\n' :: rest⟩ := by
  induction fuel generalizing before skipped with
  | zero => simp at hfuel
  | succ fuel ih =>
    have hbelow := searchFrom_of_head? hw
    rcases searchFrom_above hp hskipped with h | ⟨left, before', groups, hle, hleft, h⟩
    · simp [matchesFrom, h, hbelow]
    · simp only [matchesFrom, h]
      apply List.mem_cons_of_mem
      cases left with
      | nil =>
        obtain rfl : before' = above := hleft
        simp only [List.nil_append]
        split
        · rename_i hshorter
          simp only [List.length_cons, List.length_append] at hshorter
          have hnone : ([] : List Char).reverse ++ before' = before' := rfl
          exact ih hnone (by simp only [List.length_nil]; omega)
        · -- the match was empty, so the next search begins below the newline
          obtain ⟨fuel, rfl⟩ := Nat.exists_eq_succ_of_ne_zero (n := fuel) (by omega)
          simp [matchesFrom, hbelow]
      | cons c left =>
        simp only [List.cons_append]
        simp only [List.length_cons] at hle
        split
        · rename_i hshorter
          simp only [List.length_cons, List.length_append] at hshorter
          exact ih hleft (by simp only [List.length_cons]; omega)
        · exact ih (by simpa using hleft) (by omega)

/-- A line where a pattern matches is among the matches in a text if nothing that is found above it
goes into it. -/
theorem mem_matchesIn_below {s : String} (hs : s.toList = above ++ '\n' :: rest)
    (hp : p.StopsBefore above.reverse rest)
    (hw : (p.ways ⟨'\n' :: above.reverse, rest⟩ []).head? = some w) : w.2 ∈ p.matchesIn s := by
  have hfuel : above.length + 1 < s.length + 1 := by
    rw [← String.length_toList, hs]
    simp only [List.length_append, List.length_cons]
    omega
  unfold matchesIn Place.start
  rw [hs]
  exact mem_matchesFrom_below hp hw (List.append_nil _) hfuel

theorem mem_matchesIn_start {s : String} (hw : (p.ways ⟨[], s.toList⟩ []).head? = some w) :
    w.2 ∈ p.matchesIn s := by
  unfold matchesIn Place.start
  simp [matchesFrom, searchFrom_of_head? hw]

end

/-! ### Patterns of lines -/

def AtLineStart (p : Pattern) : Prop :=
  ∀ here groups, here.atLineStart = false → p.ways here groups = []

theorem atLineStart_seq (p : Pattern) : AtLineStart (seq lineStart p) := by
  intro here groups h
  simp [ways, h]

section

variable {z : Char} {b : List Char} {w : Place × Groups}

theorem stopsBefore_of_not_reads (hp : p.AtLineStart) (hz : ¬ p.Reads z) (hline : z ≠ '\n') :
    p.StopsBefore (z :: b) rest := by
  intro before skipped hskipped v hv
  cases skipped with
  | nil =>
    obtain rfl : before = z :: b := hskipped
    have hno : p.ways ⟨z :: b, '\n' :: rest⟩ [] = [] :=
      hp _ _ (by simp [Place.atLineStart, hline])
    rw [List.nil_append, hno] at hv
    simp at hv
  | cons c skipped =>
    have hmem : z ∈ c :: skipped := by
      have hlast := congrArg List.head? hskipped
      simp only [List.head?_append, List.head?_reverse, List.head?_cons] at hlast
      rw [List.getLast?_eq_some_getLast (by simp)] at hlast
      exact Option.some.inj hlast ▸ List.getLast_mem _
    obtain ⟨cs, hrest, -, hcs⟩ := between_of_mem_ways p _ [] _ hv
    -- the character at the end of the line before is not among those that were read
    have hnot : z ∉ cs := fun h => hz (hcs.reads h)
    rcases List.append_eq_append_iff.1 hrest with ⟨more, hmore, -⟩ | ⟨left, -, hleft⟩
    · exact absurd (hmore ▸ List.mem_append_left more hmem) hnot
    · exact ⟨left, hleft⟩

theorem mem_matchesIn_of_line (hp : p.AtLineStart) (hz : ¬ p.Reads z) (hline : z ≠ '\n')
    {s : String} (hs : s.toList = before ++ z :: '\n' :: rest)
    (hw : (p.ways ⟨'\n' :: z :: before.reverse, rest⟩ []).head? = some w) :
    w.2 ∈ p.matchesIn s := by
  have habove : (before ++ [z]).reverse = z :: before.reverse := by simp
  have hbelow : s.toList = (before ++ [z]) ++ '\n' :: rest := by simpa using hs
  refine mem_matchesIn_below hbelow ?_ ?_
  · rw [habove]
    exact stopsBefore_of_not_reads hp hz hline
  · rw [habove]
    exact hw

end

/-! ### Line after line -/

/-- On a line between line breaks the preferred way of a pattern is to read all of it, with some
groups, or there is no way at all. -/
def ReadsLine (p : Pattern) (line : List Char) (answer : Option Groups) : Prop :=
  ∀ before rest, before.head?.all (· == '\n') = true → rest.head?.all (· == '\n') = true →
    (p.ways ⟨before, line ++ rest⟩ []).head? =
      answer.map fun groups => (⟨line.reverse ++ before, rest⟩, groups)

section

variable {line : List Char} {answer : Option Groups}

theorem AtLineStart.ways_eq_nil (hp : p.AtLineStart)
    (hbefore : before.head?.all (· == '\n') = false) : p.ways ⟨before, rest⟩ [] = [] :=
  hp ⟨before, rest⟩ [] hbefore

theorem AtLineStart.searchFrom_below (hp : p.AtLineStart)
    (hbefore : before.head?.all (· == '\n') = false) (hline : '\n' ∉ line) (rest : List Char) :
    p.searchFrom before (line ++ '\n' :: rest) =
      p.searchFrom ('\n' :: (line.reverse ++ before)) rest := by
  induction line generalizing before with
  | nil => simp [searchFrom_eq, hp.ways_eq_nil hbefore]
  | cons c line ih =>
    have hc : c ≠ '\n' := fun h => hline (h ▸ List.mem_cons_self)
    have hwithin : (c :: before).head?.all (· == '\n') = false := by simpa using hc
    have hnext := ih hwithin fun h => hline (List.mem_cons_of_mem c h)
    rw [List.cons_append, searchFrom_eq, hp.ways_eq_nil hbefore, List.head?_nil, Option.none_or,
      hnext]
    simp

theorem AtLineStart.searchFrom_eq_none (hp : p.AtLineStart)
    (hbefore : before.head?.all (· == '\n') = false) (hline : '\n' ∉ line) :
    p.searchFrom before line = none := by
  induction line generalizing before with
  | nil =>
    rw [searchFrom, run_some, hp.ways_eq_nil hbefore]
    rfl
  | cons c line ih =>
    have hc : c ≠ '\n' := fun h => hline (h ▸ List.mem_cons_self)
    have hwithin : (c :: before).head?.all (· == '\n') = false := by simpa using hc
    have hnext := ih hwithin fun h => hline (List.mem_cons_of_mem c h)
    rw [searchFrom_eq, hp.ways_eq_nil hbefore, List.head?_nil, Option.none_or, hnext]

theorem ReadsLine.searchFrom_of_some {groups : Groups} (h : p.ReadsLine line (some groups))
    (hbefore : before.head?.all (· == '\n') = true) (hrest : rest.head?.all (· == '\n') = true) :
    p.searchFrom before (line ++ rest) = some (⟨line.reverse ++ before, rest⟩, groups) :=
  searchFrom_of_head? (h before rest hbefore hrest)

theorem ReadsLine.searchFrom_of_none (h : p.ReadsLine line none) (hp : p.AtLineStart)
    (hline : '\n' ∉ line) (hbefore : before.head?.all (· == '\n') = true) (rest : List Char) :
    p.searchFrom before (line ++ '\n' :: rest) =
      p.searchFrom ('\n' :: (line.reverse ++ before)) rest := by
  have hno := h before ('\n' :: rest) hbefore rfl
  cases line with
  | nil =>
    rw [List.nil_append] at hno ⊢
    rw [searchFrom_eq, hno]
    rfl
  | cons c line =>
    have hc : c ≠ '\n' := fun h => hline (h ▸ List.mem_cons_self)
    have hhead : (c :: before).head?.all (· == '\n') = false := by simpa using hc
    have hbelow := hp.searchFrom_below hhead (fun h => hline (List.mem_cons_of_mem c h)) rest
    rw [List.cons_append] at hno ⊢
    rw [searchFrom_eq, hno, Option.map_none, Option.none_or, hbelow]
    simp

theorem ReadsLine.searchFrom_eq_none (h : p.ReadsLine line none) (hp : p.AtLineStart)
    (hline : '\n' ∉ line) (hbefore : before.head?.all (· == '\n') = true) :
    p.searchFrom before line = none := by
  have hno := h before [] hbefore rfl
  rw [List.append_nil] at hno
  cases line with
  | nil =>
    rw [searchFrom, run_some, hno]
    rfl
  | cons c line =>
    have hc : c ≠ '\n' := fun h => hline (h ▸ List.mem_cons_self)
    rw [searchFrom_eq, hno, Option.map_none, Option.none_or]
    exact hp.searchFrom_eq_none (by simpa using hc) fun h => hline (List.mem_cons_of_mem c h)

theorem AtLineStart.searchFrom_end (hp : p.AtLineStart) (hne : line ≠ []) (hline : '\n' ∉ line)
    (before rest : List Char) :
    p.searchFrom (line.reverse ++ before) ('\n' :: rest) =
      p.searchFrom ('\n' :: (line.reverse ++ before)) rest := by
  obtain ⟨front, c, rfl⟩ := (List.eq_nil_or_concat line).resolve_left hne
  have hc : c ≠ '\n' := fun hc => hline (by simp [hc])
  have hhead : ((front.concat c).reverse ++ before).head?.all (· == '\n') = false := by
    simpa using hc
  exact hp.searchFrom_below hhead List.not_mem_nil rest

theorem length_le_length_intercalate (ls : List (List Char)) :
    ls.length ≤ (['\n'].intercalate ls).length + 1 := by
  induction ls with
  | nil => simp
  | cons line ls ih =>
    cases ls with
    | nil => simp
    | cons next ls =>
      simp only [List.length_cons, List.intercalate_cons_cons, List.length_append] at ih ⊢
      omega

variable {α : Type} {text : α → List Char} {answer : α → Option Groups}

/-- A search that finds what a search at the start of some lines finds goes on through them. -/
theorem matchesFrom_lines (hp : p.AtLineStart) {ls : List α} (hne : ls ≠ [])
    (hnewline : ∀ l ∈ ls, '\n' ∉ text l) (hreads : ∀ l ∈ ls, p.ReadsLine (text l) (answer l))
    (hempty : ∀ l ∈ ls, text l = [] → answer l = none) {here : Place}
    (hbefore : before.head?.all (· == '\n') = true)
    (hsearch : p.searchFrom here.before here.rest =
      p.searchFrom before (['\n'].intercalate (ls.map text)))
    (hlength : (['\n'].intercalate (ls.map text)).length ≤ here.rest.length) {fuel : Nat}
    (hfuel : ls.length ≤ fuel) : p.matchesFrom fuel here = ls.filterMap answer := by
  -- after a match the search goes on at the end of its line, where it finds what it would below
  induction ls generalizing before here fuel with
  | nil => exact absurd rfl hne
  | cons l ls ih =>
    obtain ⟨hline, hnewline⟩ := List.forall_mem_cons.1 hnewline
    obtain ⟨hread, hreads⟩ := List.forall_mem_cons.1 hreads
    obtain ⟨hnone, hempty⟩ := List.forall_mem_cons.1 hempty
    obtain ⟨fuel, rfl⟩ : ∃ n, fuel = n + 1 :=
      Nat.exists_eq_succ_of_ne_zero (by simp only [List.length_cons] at hfuel; omega)
    have hfuel' : ls.length ≤ fuel := by simpa using hfuel
    cases ls with
    | nil =>
      rw [List.map_singleton, List.intercalate_singleton] at hsearch
      cases hanswer : answer l with
      | none =>
        rw [hanswer] at hread
        rw [hread.searchFrom_eq_none hp hline hbefore] at hsearch
        simp [matchesFrom, hsearch, hanswer]
      | some groups =>
        rw [hanswer] at hread
        rw [← List.append_nil (text l), hread.searchFrom_of_some hbefore rfl] at hsearch
        simp [matchesFrom, hsearch, hanswer]
    | cons next ls =>
      rw [List.map_cons, List.map_cons, List.intercalate_cons_cons, List.append_assoc,
        List.singleton_append, ← List.map_cons] at hsearch hlength
      cases hanswer : answer l with
      | none =>
        rw [hanswer] at hread
        rw [hread.searchFrom_of_none hp hline hbefore] at hsearch
        have hlength' : (['\n'].intercalate ((next :: ls).map text)).length ≤
            here.rest.length := by
          simp only [List.length_append, List.length_cons] at hlength
          omega
        have hbelow := ih (by simp) hnewline hreads hempty rfl hsearch hlength'
          (Nat.le_succ_of_le hfuel')
        rw [hbelow, List.filterMap_cons_none hanswer]
      | some groups =>
        have hlineNe : text l ≠ [] := fun h => by simp [hnone h] at hanswer
        rw [hanswer] at hread
        rw [hread.searchFrom_of_some hbefore rfl] at hsearch
        have hnext := hp.searchFrom_end hlineNe hline before
          (['\n'].intercalate ((next :: ls).map text))
        have hshorter : (['\n'].intercalate ((next :: ls).map text)).length + 1 <
            here.rest.length := by
          have hpos := List.length_pos_iff.2 hlineNe
          simp only [List.length_append, List.length_cons] at hlength
          omega
        have hstart : ('\n' :: ((text l).reverse ++ before)).head?.all (· == '\n') = true := rfl
        have hbelow : p.matchesFrom fuel ⟨(text l).reverse ++ before,
            '\n' :: ['\n'].intercalate ((next :: ls).map text)⟩ = (next :: ls).filterMap answer :=
          ih (by simp) hnewline hreads hempty hstart hnext (by simp) hfuel'
        rw [List.filterMap_cons_some hanswer, ← hbelow]
        simp only [matchesFrom, hsearch, List.length_cons, hshorter, if_true]

theorem matchesIn_lines (hp : p.AtLineStart) {ls : List α} (hne : ls ≠ [])
    (hnewline : ∀ l ∈ ls, '\n' ∉ text l) (hreads : ∀ l ∈ ls, p.ReadsLine (text l) (answer l))
    (hempty : ∀ l ∈ ls, text l = [] → answer l = none) {s : String}
    (hs : s.toList = ['\n'].intercalate (ls.map text)) : p.matchesIn s = ls.filterMap answer := by
  have hfuel : ls.length ≤ s.length + 1 := by
    rw [← String.length_toList, hs]
    simpa using length_le_length_intercalate (ls.map text)
  have hstart : ([] : List Char).head?.all (· == '\n') = true := rfl
  exact matchesFrom_lines hp hne hnewline hreads hempty hstart (by rw [Place.start, hs])
    (Nat.le_of_eq (by rw [Place.start, hs])) hfuel

end

end Pattern
end ServiceCapsule
