import ServiceCapsule.Validation.Diagnostic

/-!
# Faults of a syntax tree

A node is known by its place: which child to take at each step down from the root. The walk for
syntax diagnostics lists the faults that lie in no other fault, by their places from left to right,
as long as the flags that tell it where to go down are exact. So nothing is missed, nothing comes
twice, and there are no diagnostics exactly where there are no faults.
-/

namespace ServiceCapsule

namespace TypeScript
namespace Tree

/-! ### Places -/

/-- The node at a place. -/
def nodeAt? : Tree → List Nat → Option Tree
  | t, [] => some t
  | t, i :: place => t.children[i]?.bind fun child => nodeAt? child place

@[simp] theorem nodeAt?_nil (t : Tree) : t.nodeAt? [] = some t := rfl

theorem nodeAt?_cons_eq_some {t u : Tree} {i : Nat} {place : List Nat} :
    t.nodeAt? (i :: place) = some u ↔
      ∃ child, t.children[i]? = some child ∧ child.nodeAt? place = some u := by
  simp [nodeAt?, Option.bind_eq_some_iff]

def Precedes (p q : List Nat) : Prop :=
  ∃ above i j p' q', p = above ++ i :: p' ∧ q = above ++ j :: q' ∧ i < j

theorem Precedes.cons {p q : List Nat} (h : Precedes p q) (i : Nat) :
    Precedes (i :: p) (i :: q) := by
  obtain ⟨above, j, k, p', q', rfl, rfl, hjk⟩ := h
  exact ⟨i :: above, j, k, p', q', rfl, rfl, hjk⟩

theorem precedes_cons_of_lt {i j : Nat} (h : i < j) (p q : List Nat) :
    Precedes (i :: p) (j :: q) :=
  ⟨[], i, j, p, q, rfl, rfl, h⟩

theorem Precedes.not_prefix {p q : List Nat} (h : Precedes p q) : ¬ p <+: q ∧ ¬ q <+: p := by
  obtain ⟨above, i, j, p', q', rfl, rfl, hij⟩ := h
  constructor
  · intro hpre
    have hi := (List.cons_prefix_cons.1 ((List.prefix_append_right_inj above).1 hpre)).1
    omega
  · intro hpre
    have hi := (List.cons_prefix_cons.1 ((List.prefix_append_right_inj above).1 hpre)).1
    omega

/-! ### Outermost faults -/

/-- There is a fault at a place, and none above it. -/
def IsOutermostFault (t : Tree) (place : List Nat) (u : Tree) : Prop :=
  t.nodeAt? place = some u ∧ u.isFault = true ∧
    ∀ above, above <+: place → above ≠ place → ∀ v, t.nodeAt? above = some v → v.isFault = false

theorem isOutermostFault_nil {t u : Tree} :
    t.IsOutermostFault [] u ↔ t = u ∧ t.isFault = true := by
  constructor
  · rintro ⟨hu, hfault, -⟩
    obtain rfl : t = u := Option.some.inj hu
    exact ⟨rfl, hfault⟩
  · rintro ⟨rfl, hfault⟩
    exact ⟨rfl, hfault, fun above habove hne => absurd (List.prefix_nil.1 habove) hne⟩

theorem isOutermostFault_cons {t u : Tree} {i : Nat} {place : List Nat} :
    t.IsOutermostFault (i :: place) u ↔
      t.isFault = false ∧ ∃ child, t.children[i]? = some child ∧ child.IsOutermostFault place u := by
  constructor
  · rintro ⟨hu, hfault, habove⟩
    obtain ⟨child, hchild, hu⟩ := nodeAt?_cons_eq_some.1 hu
    refine ⟨habove [] List.nil_prefix (by simp) t rfl, child, hchild, hu, hfault, ?_⟩
    intro above hpre hne v hv
    exact habove (i :: above) (List.cons_prefix_cons.2 ⟨rfl, hpre⟩) (by simpa using hne) v
      (nodeAt?_cons_eq_some.2 ⟨child, hchild, hv⟩)
  · rintro ⟨hno, child, hchild, hu, hfault, habove⟩
    refine ⟨nodeAt?_cons_eq_some.2 ⟨child, hchild, hu⟩, hfault, ?_⟩
    intro above hpre hne v hv
    cases above with
    | nil => exact Option.some.inj hv ▸ hno
    | cons j above =>
      obtain ⟨rfl, hbelow⟩ := List.cons_prefix_cons.1 hpre
      obtain ⟨child', hchild', hv⟩ := nodeAt?_cons_eq_some.1 hv
      obtain rfl : child = child' := Option.some.inj (hchild.symm.trans hchild')
      exact habove above hbelow (fun h => hne (h ▸ rfl)) v hv

mutual

/-- The outermost faults with their places, from left to right. -/
def outermost : Tree → List (List Nat × Tree)
  | node l r s cs =>
    if isFault (node l r s cs) then [([], node l r s cs)] else outermostOf 0 cs

def outermostOf (i : Nat) : List Tree → List (List Nat × Tree)
  | [] => []
  | t :: ts => (outermost t).map (fun x => (i :: x.1, x.2)) ++ outermostOf (i + 1) ts

end

theorem mem_outermostOf {i : Nat} {cs : List Tree} {x : List Nat × Tree} :
    x ∈ outermostOf i cs ↔
      ∃ j child place, x.1 = (i + j) :: place ∧ cs[j]? = some child ∧
        (place, x.2) ∈ child.outermost := by
  induction cs generalizing i with
  | nil => simp [outermostOf]
  | cons c cs ih =>
    rw [outermostOf, List.mem_append, List.mem_map, ih]
    constructor
    · rintro (⟨⟨place, u⟩, hmem, rfl⟩ | ⟨j, child, place, hx, hchild, hmem⟩)
      · exact ⟨0, c, place, rfl, rfl, hmem⟩
      · exact ⟨j + 1, child, place, by rw [hx, Nat.add_assoc, Nat.add_comm 1], hchild, hmem⟩
    · rintro ⟨j, child, place, hx, hchild, hmem⟩
      cases j with
      | zero =>
        obtain rfl : c = child := Option.some.inj hchild
        exact .inl ⟨(place, x.2), hmem, Prod.ext hx.symm rfl⟩
      | succ j =>
        exact .inr ⟨j, child, place, by rw [hx, Nat.add_assoc, Nat.add_comm 1], hchild, hmem⟩

theorem mem_outermost {t u : Tree} {place : List Nat} :
    (place, u) ∈ t.outermost ↔ t.IsOutermostFault place u := by
  induction place generalizing t with
  | nil =>
    obtain ⟨l, r, s, cs⟩ := t
    rw [isOutermostFault_nil, outermost]
    split
    · next hfault => simp [hfault, eq_comm]
    · next hfault => simp [hfault, mem_outermostOf]
  | cons i place ih =>
    obtain ⟨l, r, s, cs⟩ := t
    rw [isOutermostFault_cons, outermost]
    split
    · next hfault => simp [hfault]
    · next hfault =>
      simp only [mem_outermostOf, Nat.zero_add, List.cons.injEq, hfault, children, ← ih]
      constructor
      · rintro ⟨j, child, place, ⟨rfl, rfl⟩, hchild, hmem⟩
        exact ⟨trivial, child, hchild, hmem⟩
      · rintro ⟨-, child, hchild, hmem⟩
        exact ⟨i, child, place, ⟨rfl, rfl⟩, hchild, hmem⟩

/-- Above each fault, or at its place, there is one of the list. -/
theorem exists_mem_outermost {t u : Tree} {place : List Nat} (hu : t.nodeAt? place = some u)
    (hfault : u.isFault = true) : ∃ x ∈ t.outermost, x.1 <+: place := by
  induction place generalizing t with
  | nil =>
    obtain rfl : t = u := Option.some.inj hu
    exact ⟨([], t), mem_outermost.2 (isOutermostFault_nil.2 ⟨rfl, hfault⟩), List.prefix_rfl⟩
  | cons i place ih =>
    cases ht : t.isFault with
    | true =>
      exact ⟨([], t), mem_outermost.2 (isOutermostFault_nil.2 ⟨rfl, ht⟩), List.nil_prefix⟩
    | false =>
      obtain ⟨child, hchild, hu⟩ := nodeAt?_cons_eq_some.1 hu
      obtain ⟨⟨above, v⟩, hmem, hpre⟩ := ih hu
      refine ⟨(i :: above, v), ?_, List.cons_prefix_cons.2 ⟨rfl, hpre⟩⟩
      exact mem_outermost.2 (isOutermostFault_cons.2 ⟨ht, child, hchild, mem_outermost.1 hmem⟩)

theorem outermost_eq_nil_iff {t : Tree} :
    t.outermost = [] ↔ ∀ place u, t.nodeAt? place = some u → u.isFault = false := by
  constructor
  · intro h place u hu
    refine Bool.eq_false_iff.2 fun hfault => ?_
    obtain ⟨x, hx, -⟩ := exists_mem_outermost hu hfault
    simp [h] at hx
  · intro h
    refine List.eq_nil_iff_forall_not_mem.2 fun x hx => ?_
    obtain ⟨hu, hfault, -⟩ := mem_outermost.1 hx
    exact Bool.false_ne_true ((h x.1 x.2 hu).symm.trans hfault)

theorem eq_of_prefix {t : Tree} {x y : List Nat × Tree} (hx : x ∈ t.outermost)
    (hy : y ∈ t.outermost) (hpre : x.1 <+: y.1) : x = y := by
  obtain ⟨hu, hfault, -⟩ := mem_outermost.1 hx
  obtain ⟨hv, -, habove⟩ := mem_outermost.1 hy
  have hplace : x.1 = y.1 := Decidable.byContradiction fun hne =>
    Bool.false_ne_true ((habove x.1 hpre hne x.2 hu).symm.trans hfault)
  exact Prod.ext hplace (Option.some.inj (hu.symm.trans (hplace ▸ hv)))

mutual

theorem pairwise_outermost : ∀ t : Tree, t.outermost.Pairwise fun x y => Precedes x.1 y.1
  | node l r s cs => by
    rw [outermost]
    split
    · exact List.pairwise_singleton _ _
    · exact pairwise_outermostOf 0 cs

theorem pairwise_outermostOf (i : Nat) :
    ∀ cs : List Tree, (outermostOf i cs).Pairwise fun x y => Precedes x.1 y.1
  | [] => List.Pairwise.nil
  | t :: ts => by
    rw [outermostOf, List.pairwise_append, List.pairwise_map]
    refine ⟨(pairwise_outermost t).imp fun h => h.cons i, pairwise_outermostOf (i + 1) ts, ?_⟩
    intro x hx y hy
    obtain ⟨z, -, rfl⟩ := List.mem_map.1 hx
    obtain ⟨j, child, place, hplace, -, -⟩ := mem_outermostOf.1 hy
    rw [hplace]
    exact precedes_cons_of_lt (by omega) z.1 place

end

/-! ### The walk -/

/-- The flags of a tree say exactly where there is a fault, in a node or below it. -/
def FlagsFaults (flag : Tree → Bool) (t : Tree) : Prop :=
  ∀ place u, t.nodeAt? place = some u →
    (flag u = true ↔ ∃ below v, u.nodeAt? below = some v ∧ v.isFault = true)

theorem FlagsFaults.child {flag : Tree → Bool} {t child : Tree} (h : FlagsFaults flag t)
    (hchild : child ∈ t.children) : FlagsFaults flag child := by
  obtain ⟨i, hi⟩ := List.mem_iff_getElem?.1 hchild
  exact fun place u hu => h (i :: place) u (nodeAt?_cons_eq_some.2 ⟨child, hi, hu⟩)

theorem outermost_eq_nil {flag : Tree → Bool} {t : Tree} (h : FlagsFaults flag t)
    (hflag : flag t = false) : t.outermost = [] := by
  refine List.eq_nil_iff_forall_not_mem.2 fun x hx => ?_
  obtain ⟨hu, hfault, -⟩ := mem_outermost.1 hx
  have hset : flag t = true := (h [] t rfl).2 ⟨x.1, x.2, hu, hfault⟩
  exact Bool.false_ne_true (hflag.symm.trans hset)

mutual

/-- With exact flags the walk gives the outermost faults. -/
theorem faults_eq (flag : Tree → Bool) :
    ∀ t : Tree, FlagsFaults flag t → t.faults flag = t.outermost.map Prod.snd
  | node l r s cs, h => by
    by_cases hfault : isFault (node l r s cs) = true
    · rw [faults, outermost, if_pos hfault, if_pos hfault, List.map_singleton]
    · cases hflag : flag (node l r s cs) with
      | true =>
        rw [faults, outermost, if_neg hfault, if_neg hfault, if_pos hflag]
        exact faultsOf_eq flag 0 cs fun c hc => h.child hc
      | false =>
        rw [faults, if_neg hfault, if_neg (by simp [hflag]), outermost_eq_nil h hflag,
          List.map_nil]

theorem faultsOf_eq (flag : Tree → Bool) (i : Nat) :
    ∀ cs : List Tree, (∀ c ∈ cs, FlagsFaults flag c) →
      faultsOf flag cs = (outermostOf i cs).map Prod.snd
  | [], _ => rfl
  | t :: ts, h => by
    obtain ⟨ht, hts⟩ := List.forall_mem_cons.1 h
    rw [faultsOf, outermostOf, faults_eq flag t ht, faultsOf_eq flag (i + 1) ts hts,
      List.map_append, List.map_map]
    rfl

end

mutual

theorem any_iff (p : Tree → Bool) :
    ∀ t : Tree, t.any p = true ↔ ∃ place u, t.nodeAt? place = some u ∧ p u = true
  | node l r s cs => by
    rw [any, Bool.or_eq_true, anyOf_iff p cs]
    constructor
    · rintro (hp | ⟨c, hc, place, u, hu, hp⟩)
      · exact ⟨[], _, rfl, hp⟩
      · obtain ⟨i, hi⟩ := List.mem_iff_getElem?.1 hc
        exact ⟨i :: place, u, nodeAt?_cons_eq_some.2 ⟨c, hi, hu⟩, hp⟩
    · rintro ⟨place, u, hu, hp⟩
      cases place with
      | nil => exact .inl (Option.some.inj hu ▸ hp)
      | cons i place =>
        obtain ⟨c, hi, hu⟩ := nodeAt?_cons_eq_some.1 hu
        exact .inr ⟨c, List.mem_of_getElem? hi, place, u, hu, hp⟩

theorem anyOf_iff (p : Tree → Bool) :
    ∀ cs : List Tree, anyOf p cs = true ↔
      ∃ c ∈ cs, ∃ place u, c.nodeAt? place = some u ∧ p u = true
  | [] => by simp [anyOf]
  | t :: ts => by
    rw [anyOf, Bool.or_eq_true, any_iff p t, anyOf_iff p ts]
    simp only [List.mem_cons, or_and_right, exists_or, exists_eq_left]

end

theorem flagsFaults_hasFault (t : Tree) : FlagsFaults hasFault t :=
  fun _ u _ => any_iff isFault u

end Tree
end TypeScript

namespace Diagnostic

open TypeScript

theorem ofFlagged_eq {flag : Tree → Bool} {t : Tree} (h : t.FlagsFaults flag) (file : Path)
    (source : String) :
    ofFlagged flag file source t =
      t.outermost.map (fun x => ⟨faultMessage source x.2, file, x.2.span.start.row + 1⟩) := by
  cases hroot : flag t with
  | true =>
    rw [ofFlagged, if_pos hroot, Tree.faults_eq flag t h, List.map_map]
    rfl
  | false => rw [ofFlagged, if_neg (by simp [hroot]), Tree.outermost_eq_nil h hroot, List.map_nil]

/-- Wherever the flags of a tree are exact, its diagnostics are those of the outermost faults: each
fault that lies in no other one is reported once, with its line, in the order of the text, and
nothing else is. A tree has no diagnostics exactly if it has no fault. -/
theorem ofFlagged_outermost (flag : Tree → Bool) (file : Path) (source : String) (t : Tree)
    (hflag : t.FlagsFaults flag) :
    ∃ found : List (List Nat × Tree),
      ofFlagged flag file source t =
        found.map (fun x => ⟨faultMessage source x.2, file, x.2.span.start.row + 1⟩) ∧
      (∀ place u, (place, u) ∈ found ↔ t.IsOutermostFault place u) ∧
      found.Pairwise (fun x y => Tree.Precedes x.1 y.1) ∧ (found.map Prod.fst).Nodup ∧
      (∀ x ∈ found, ∀ y ∈ found, x.1 <+: y.1 → x = y) ∧
      (ofFlagged flag file source t = [] ↔
        ∀ place u, t.nodeAt? place = some u → u.isFault = false) := by
  have hreports := ofFlagged_eq hflag file source
  refine ⟨t.outermost, hreports, fun place u => Tree.mem_outermost, t.pairwise_outermost, ?_,
    fun x hx y hy => Tree.eq_of_prefix hx hy, ?_⟩
  · refine List.pairwise_map.2 (t.pairwise_outermost.imp fun hbefore heq => ?_)
    exact hbefore.not_prefix.1 (heq ▸ List.prefix_rfl)
  · rw [hreports, List.map_eq_nil_iff]
    exact Tree.outermost_eq_nil_iff

/-- The tree of a bracket that closes nothing and, a line below, of a call that is not closed. What
is missing inside the first fault is not reported again. -/
def brokenTree : Tree :=
  -- a line is four bytes long
  let span (row first last : Nat) : Span :=
    ⟨⟨first, row, first - 4 * row⟩, ⟨last, row, last - 4 * row⟩⟩
  .node (.kind .program) none ⟨⟨0, 0, 0⟩, ⟨9, 2, 0⟩⟩
    [.node .error none (span 0 0 1)
      [.node (.token "]") none (span 0 0 1) [], .node (.missing none "(") none (span 0 1 1) []],
     .node (.kind .emptyStatement) none (span 0 2 3) [.node (.token ";") none (span 0 2 3) []],
     .node (.kind .callExpression) none (span 1 4 7)
      [.node (.kind .identifier) none (span 1 4 5) [],
       .node (.kind .arguments) none (span 1 5 7)
        [.node (.token "(") none (span 1 5 6) [], .node (.kind .number) none (span 1 6 7) [],
         .node (.missing none ")") none (span 1 7 7) []]]]

theorem ofFlagged_outermost_brokenTree :
    brokenTree.FlagsFaults Tree.hasFault ∧
    ofTree ⟨"a.ts"⟩ "] ;\nf(1;\n" brokenTree =
      [⟨"syntax error near `]`", ⟨"a.ts"⟩, 1⟩, ⟨"missing `)`", ⟨"a.ts"⟩, 2⟩] ∧
    ¬ (∀ place u, brokenTree.nodeAt? place = some u → u.isFault = false) ∧
    ∃ u, u.label = .missing none "(" ∧ brokenTree.nodeAt? [0, 1] = some u ∧
      ¬ brokenTree.IsOutermostFault [0, 1] u := by
  have hflags := Tree.flagsFaults_hasFault brokenTree
  have hlist : ofTree ⟨"a.ts"⟩ "] ;\nf(1;\n" brokenTree =
      [⟨"syntax error near `]`", ⟨"a.ts"⟩, 1⟩, ⟨"missing `)`", ⟨"a.ts"⟩, 2⟩] := by
    decide +kernel
  obtain ⟨found, hreports, hmem, -, -, hapart, hnone⟩ :=
    ofFlagged_outermost Tree.hasFault ⟨"a.ts"⟩ "] ;\nf(1;\n" brokenTree hflags
  refine ⟨hflags, hlist, fun hclean => ?_, _, rfl, rfl, fun hinner => ?_⟩
  · exact absurd (hlist.symm.trans (hnone.2 hclean)) (by simp)
  · -- the fault around it is in the list as well, and no fault of the list lies in another one
    have houter := (hmem [0] _).2 (Tree.isOutermostFault_cons.2
      ⟨rfl, _, rfl, Tree.isOutermostFault_nil.2 ⟨rfl, rfl⟩⟩)
    have heq := hapart _ houter _ ((hmem _ _).2 hinner) (by decide)
    simp at heq

end Diagnostic
end ServiceCapsule
