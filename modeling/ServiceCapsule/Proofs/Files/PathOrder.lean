import Mathlib.Data.List.Sort
import ServiceCapsule.Proofs.Files.Directory

/-!
# The order of paths

Paths are ordered by their parts, one part after the other, and not by their characters: a name
that is the start of another one comes first, whatever stands after it. A name below a path is one
part more, so that the names on the way to a place can be read off the parts.
-/

namespace ServiceCapsule
namespace Path

/-! ### Parts -/

instance : LT Part := ⟨fun a b => a.before b = true⟩

instance : DecidableLT Part := fun a b => inferInstanceAs (Decidable (a.before b = true))

namespace Part

theorem lt_def {a b : Part} : a < b ↔ a.before b = true := Iff.rfl

theorem name_lt_name {s t : String} : name s < name t ↔ s < t := by simp [lt_def, before]

/-- Where the ranks differ they decide. -/
theorem lt_iff {a b : Part} :
    a < b ↔ a.rank < b.rank ∨ ∃ s t, a = name s ∧ b = name t ∧ s < t := by
  cases a <;> cases b <;> simp [lt_def, before, rank]

instance : Std.Irrefl (α := Part) (· < ·) where
  irrefl a h := by
    cases a with
    | name s => exact String.lt_irrefl s (name_lt_name.1 h)
    | root | here | up => simp [lt_iff] at h

instance : Trans (α := Part) (· < ·) (· < ·) (· < ·) where
  trans {a b c} hab hbc := by
    rw [lt_iff] at hab hbc ⊢
    rcases hab with hab | ⟨s, t, rfl, rfl, hst⟩ <;> rcases hbc with hbc | ⟨u, v, hu, rfl, huv⟩
    · exact .inl (hab.trans hbc)
    · exact .inl (by simpa [hu, rank] using hab)
    · exact .inl (by simpa [rank] using hbc)
    · obtain rfl : t = u := by simpa using hu
      exact .inr ⟨s, v, rfl, rfl, String.lt_trans hst huv⟩

instance : Std.Asymm (α := Part) (· < ·) where
  asymm a _ hab hba := irrefl a (Trans.trans hab hba)

instance : Std.Trichotomous (α := Part) (· < ·) where
  trichotomous a b hab hba := by
    cases a with
    | name s =>
      cases b with
      | name t =>
        have hst : ¬ s < t := fun h => hab (name_lt_name.2 h)
        have hts : ¬ t < s := fun h => hba (name_lt_name.2 h)
        exact congrArg name (String.le_antisymm (String.not_lt.1 hts) (String.not_lt.1 hst))
      | root | here | up => simp [lt_iff, rank] at hba
    | root | here | up => cases b <;> simp_all [lt_iff, rank]

end Part

/-! ### Paths -/

theorem partsBefore_iff {as bs : List Part} : partsBefore as bs = true ↔ as < bs := by
  induction as generalizing bs with
  | nil => cases bs <;> simp [partsBefore]
  | cons a as ih =>
    cases bs with
    | nil => simp [partsBefore]
    | cons b bs => simp [partsBefore, List.cons_lt_cons_iff, ih, Part.lt_def]

theorem le_iff {p q : Path} : p.le q = true ↔ p.parts ≤ q.parts := by
  rw [le, Bool.not_eq_true', ← Bool.not_eq_true, partsBefore_iff, List.not_lt]

/-- One path comes before another one: where their parts first differ, the smaller part decides,
and a path comes before those below it. -/
def Precedes (p q : Path) : Prop := p.parts < q.parts

instance : DecidableRel Precedes := fun p q => inferInstanceAs (Decidable (p.parts < q.parts))

instance : Std.Irrefl Precedes where
  irrefl p := List.lt_irrefl p.parts

instance : Std.Asymm Precedes where
  asymm _ _ := List.lt_asymm

theorem le_total (p q : Path) : (p.le q || q.le p) = true := by
  rw [Bool.or_eq_true, le_iff, le_iff]
  exact List.le_total p.parts q.parts

theorem le_trans (p q r : Path) (hpq : p.le q = true) (hqr : q.le r = true) : p.le r = true := by
  rw [le_iff, List.le_iff_lt_or_eq] at hpq hqr ⊢
  rcases hpq with hpq | hpq
  · rcases hqr with hqr | hqr
    · exact .inl (List.lt_trans hpq hqr)
    · exact .inl (hqr ▸ hpq)
  · exact hpq ▸ hqr

theorem pairwise_precedes_mergeSort {ps : List Path} (h : (ps.map parts).Nodup) :
    (ps.mergeSort le).Pairwise Precedes := by
  have hle : (ps.mergeSort le).Pairwise fun p q => p.le q = true :=
    List.pairwise_mergeSort le_trans le_total ps
  have hne : (ps.mergeSort le).Pairwise fun p q => p.parts ≠ q.parts :=
    List.pairwise_map.1 (((List.mergeSort_perm ps le).map parts).nodup_iff.2 h)
  refine (hle.and hne).imp ?_
  rintro p q ⟨hpq, hpartsne⟩
  exact (List.le_iff_lt_or_eq.1 (le_iff.1 hpq)).resolve_right hpartsne

/-! ### The parts of a path below another one -/

theorem pieces_ne_nil (p : Path) : p.pieces ≠ [] := by
  simp [pieces, Text.splitChar, Text.splitAtEach_ne_nil]

theorem head?_pieces_of_isAbsolute {p : Path} (h : p.isAbsolute = true) :
    p.pieces.head? = some "" := by
  obtain ⟨cs, hcs⟩ := List.head?_eq_some_iff.1 (beq_iff_eq.1 h)
  simp [pieces, Text.splitChar, hcs, Text.splitAtEach]

/-- The slash or the dot at the front is a part, and so is each piece that says something. -/
theorem parts_eq (p : Path) :
    p.parts =
      (if p.isAbsolute then [.root] else if p.pieces.head? = some "." then [.here] else []) ++
        p.pieces.filterMap partOf? := by
  have habs := head?_pieces_of_isAbsolute (p := p)
  have hempty : partOf? "" = none := by decide
  have hdot : partOf? "." = none := by decide
  unfold parts
  split
  · rename_i rest hpieces
    simp [hpieces, hempty]
  · rename_i rest hpieces
    simp_all
  · rename_i hnotempty hnotdot
    obtain ⟨piece, rest, hpieces⟩ := List.exists_cons_of_ne_nil (pieces_ne_nil p)
    have hpiece : piece ≠ "" := fun h => hnotempty rest (h ▸ hpieces)
    have hpiece' : piece ≠ "." := fun h => hnotdot rest (h ▸ hpieces)
    simp_all

theorem pieces_append_slash (s : String) (name : String) :
    pieces ⟨s ++ "/" ++ name⟩ = pieces ⟨s⟩ ++ pieces ⟨name⟩ := by
  simp [pieces, Text.splitChar, Text.splitAtEach_append_cons]

theorem pieces_of_isName {name : String} (hn : IsName name) : pieces ⟨name⟩ = [name] := by
  have hslash : ∀ c ∈ name.toList, (c == '/') = false := by
    intro c hc
    have hne : c ≠ '/' := fun he => hn.2 (he ▸ hc)
    simpa using hne
  simp [pieces, Text.splitChar, Text.splitAtEach_of_forall hslash]

/-- The pieces of a name below a path: the name is the last one, in the place of what says nothing
where the path ends in a slash. -/
theorem pieces_child {base : Path} (hbase : base.text ≠ "") {name : String} (hn : IsName name) :
    (base.child name).pieces = base.pieces ++ [name] ∨
      ∃ front, front ≠ [] ∧ base.pieces = front ++ [""] ∧
        (base.child name).pieces = front ++ [name] := by
  have hchild : base.child name = ⟨_⟩ := congrArg Path.mk (text_child hbase hn)
  rw [hchild]
  split
  · rename_i hlast
    obtain ⟨cs, hcs⟩ := List.getLast?_eq_some_iff.1 hlast
    have htext : base.text = String.ofList cs ++ "/" ++ "" := by
      apply String.toList_inj.1
      simp [hcs]
    refine .inr ⟨pieces ⟨String.ofList cs⟩, pieces_ne_nil _, ?_, ?_⟩
    · have hempty : pieces ⟨""⟩ = [""] := by decide
      rw [← hempty, ← pieces_append_slash, ← htext]
    · rw [htext, String.append_empty, pieces_append_slash, pieces_of_isName hn]
  · exact .inl (by rw [pieces_append_slash, pieces_of_isName hn])

theorem parts_child {base : Path} (hbase : base.text ≠ "") {name : String} (hn : IsName name) :
    (base.child name).parts = base.parts ++ [.name name] := by
  rw [parts_eq, parts_eq, isAbsolute_child hbase hn]
  rcases pieces_child hbase hn with hpieces | ⟨front, hfront, hbefore, hpieces⟩
  · rw [hpieces, List.head?_append_of_ne_nil _ (pieces_ne_nil base)]
    simp [hn.1]
  · have hempty : partOf? "" = none := by decide
    rw [hpieces, hbefore, List.head?_append_of_ne_nil _ hfront,
      List.head?_append_of_ne_nil _ hfront]
    simp [hn.1, hempty]

theorem parts_foldl_child {base : Path} (hbase : base.text ≠ "") {names : List String}
    (hnames : ∀ name ∈ names, IsName name) :
    (names.foldl child base).parts = base.parts ++ names.map .name := by
  induction names generalizing base with
  | nil => simp
  | cons name names ih =>
    obtain ⟨hname, hnames⟩ := List.forall_mem_cons.1 hnames
    rw [List.foldl_cons, ih (text_child_ne_empty hbase name) hnames, parts_child hbase hname]
    simp

end Path
end ServiceCapsule
