import ServiceCapsule.Proofs.Package.Carried
import ServiceCapsule.Proofs.Package.Exported

/-!
# Imports from other files

The files that carry code import two sorts of names from each other: names that the capsule defines,
and names of what another file carries. Each name comes from one file, so that an import block
imports it once; which file this is, and whether it is there when the code runs, is told by the
name.
-/

namespace ServiceCapsule

namespace Text

theorem pairwise_insertSorted (s : String) {texts : List String} (h : texts.Pairwise (· < ·)) :
    (insertSorted s texts).Pairwise (· < ·) := by
  induction texts with
  | nil => simp [insertSorted]
  | cons other rest ih =>
    obtain ⟨hother, hrest⟩ := List.pairwise_cons.1 h
    simp only [insertSorted]
    split
    · exact h
    · rename_i hne
      split
      · rename_i hless
        refine List.pairwise_cons.2 ⟨List.forall_mem_cons.2 ⟨hless, fun x hx => ?_⟩, h⟩
        exact String.lt_trans hless (hother x hx)
      · rename_i hless
        refine List.pairwise_cons.2 ⟨fun x hx => ?_, ih hrest⟩
        rcases mem_insertSorted.1 hx with rfl | hx
        · exact Std.lt_of_le_of_ne (String.not_lt.1 hless) (Ne.symm hne)
        · exact hother x hx

theorem pairwise_sorted (texts : List String) : (sorted texts).Pairwise (· < ·) := by
  induction texts with
  | nil => exact List.Pairwise.nil
  | cons s texts ih => exact pairwise_insertSorted s ih

theorem nodup_sorted (texts : List String) : (sorted texts).Nodup :=
  (pairwise_sorted texts).imp Std.ne_of_lt

end Text

/-! ### Import lines -/

def Item.imported : Item → List (FileKind × String)
  | sibling _ names owner => names.map fun name => (owner, name)
  | _ => []

namespace Draft

/-- The names that a draft imports from other files of the capsule. -/
def imported (d : Draft) : List (FileKind × String) := d.flatMap Item.imported

theorem imported_append (d e : Draft) : imported (d ++ e) = imported d ++ imported e :=
  List.flatMap_append

theorem imported_sections (p : Plan) (k : FileKind) :
    imported (sections p k) = imported (imports p k) := by
  refine flatMap_sections p k .imports (by decide) fun item hitem => ?_
  cases item with
  | sibling _ _ _ => exact absurd rfl hitem
  | _ => rfl

section

variable {target owner : FileKind} {wanted : List Importable} {name : String}

/-- What a file imports as a value. -/
def Importable.asValue (target : FileKind) (w : Importable) : Bool := w.isValue && target != .types

/-- The names among the wanted ones that come from an owner and pass a test. -/
def namesFrom (target owner : FileKind) (wanted : List Importable) (test : Importable → Bool) :
    List String :=
  Text.sorted (((wanted.filter fun w => w.owner == owner && w.owner != target).filter test).map
    (·.name))

def valuesFrom (target owner : FileKind) (wanted : List Importable) : List String :=
  namesFrom target owner wanted (Importable.asValue target)

def typesFrom (target owner : FileKind) (wanted : List Importable) : List String :=
  (namesFrom target owner wanted fun w => !Importable.asValue target w).filter
    (!(valuesFrom target owner wanted).contains ·)

theorem importsFrom_eq (target owner : FileKind) (wanted : List Importable) :
    importsFrom target owner wanted =
      (if (typesFrom target owner wanted).isEmpty then []
        else [.sibling true (typesFrom target owner wanted) owner]) ++
      (if (valuesFrom target owner wanted).isEmpty then []
        else [.sibling false (valuesFrom target owner wanted) owner]) := rfl

theorem mem_namesFrom_iff {test : Importable → Bool} : name ∈ namesFrom target owner wanted test ↔
    owner ≠ target ∧ ∃ w ∈ wanted, w.owner = owner ∧ w.name = name ∧ test w = true := by
  simp only [namesFrom, Text.mem_sorted, List.mem_map, List.mem_filter, Bool.and_eq_true,
    beq_iff_eq, bne_iff_ne, ne_eq]
  constructor
  · rintro ⟨w, ⟨⟨hw, rfl, htarget⟩, htest⟩, rfl⟩
    exact ⟨htarget, w, hw, rfl, rfl, htest⟩
  · rintro ⟨htarget, w, hw, rfl, rfl, htest⟩
    exact ⟨w, ⟨⟨hw, rfl, htarget⟩, htest⟩, rfl⟩

theorem mem_valuesFrom_iff : name ∈ valuesFrom target owner wanted ↔ owner ≠ target ∧
    ∃ w ∈ wanted, w.owner = owner ∧ w.name = name ∧ Importable.asValue target w = true :=
  mem_namesFrom_iff

theorem mem_typesFrom_iff : name ∈ typesFrom target owner wanted ↔
    (owner ≠ target ∧ ∃ w ∈ wanted, w.owner = owner ∧ w.name = name ∧
      Importable.asValue target w = false) ∧ name ∉ valuesFrom target owner wanted := by
  simp only [typesFrom, List.mem_filter, mem_namesFrom_iff, Bool.not_eq_true', List.contains_eq_mem,
    decide_eq_false_iff_not]

theorem mem_types_or_values_iff :
    name ∈ typesFrom target owner wanted ++ valuesFrom target owner wanted ↔
      owner ≠ target ∧ ∃ w ∈ wanted, w.owner = owner ∧ w.name = name := by
  rw [List.mem_append, mem_typesFrom_iff]
  constructor
  · rintro (⟨⟨htarget, w, hw, howner, hname, -⟩, -⟩ | h)
    · exact ⟨htarget, w, hw, howner, hname⟩
    · obtain ⟨htarget, w, hw, howner, hname, -⟩ := mem_valuesFrom_iff.1 h
      exact ⟨htarget, w, hw, howner, hname⟩
  · rintro ⟨htarget, w, hw, howner, hname⟩
    by_cases hvalue : name ∈ valuesFrom target owner wanted
    · exact .inr hvalue
    · refine .inl ⟨⟨htarget, w, hw, howner, hname, ?_⟩, hvalue⟩
      by_contra htest
      have htest : Importable.asValue target w = true := by simpa using htest
      exact hvalue (mem_valuesFrom_iff.2 ⟨htarget, w, hw, howner, hname, htest⟩)

theorem nodup_types_values (target owner : FileKind) (wanted : List Importable) :
    (typesFrom target owner wanted ++ valuesFrom target owner wanted).Nodup := by
  rw [List.nodup_append]
  refine ⟨(Text.nodup_sorted _).filter _, Text.nodup_sorted _, ?_⟩
  rintro name htype _ hvalue rfl
  exact (mem_typesFrom_iff.1 htype).2 hvalue

theorem imported_importsFrom (target owner : FileKind) (wanted : List Importable) :
    imported (importsFrom target owner wanted) =
      (typesFrom target owner wanted ++ valuesFrom target owner wanted).map fun name =>
        (owner, name) := by
  have hline (typeOnly : Bool) (names : List String) :
      imported (if names.isEmpty then [] else [.sibling typeOnly names owner]) =
        names.map fun name => (owner, name) := by
    cases names <;> simp [imported, Item.imported]
  rw [importsFrom_eq, imported_append, hline, hline, List.map_append]

theorem imported_siblings (target : FileKind) (wanted : List Importable) :
    imported (siblings target wanted) = (FileKind.all.filter (·.modulePath?.isSome)).flatMap
      fun owner => (typesFrom target owner wanted ++ valuesFrom target owner wanted).map fun name =>
        (owner, name) := by
  rw [siblings, imported, List.flatMap_assoc]
  simp only [← imported_importsFrom]
  rfl

theorem mem_imported_siblings_iff : (owner, name) ∈ imported (siblings target wanted) ↔
    owner.modulePath?.isSome = true ∧ owner ≠ target ∧
      ∃ w ∈ wanted, w.owner = owner ∧ w.name = name := by
  rw [imported_siblings, ← mem_types_or_values_iff]
  simp only [List.mem_flatMap, List.mem_filter, List.mem_map, Prod.mk.injEq]
  constructor
  · rintro ⟨owner, ⟨-, hpath⟩, name, hname, rfl, rfl⟩
    exact ⟨hpath, hname⟩
  · rintro ⟨hpath, hname⟩
    exact ⟨owner, ⟨FileKind.mem_all owner, hpath⟩, name, hname, rfl, rfl⟩

theorem nodup_imported_siblings
    (h : ∀ w ∈ wanted, ∀ w' ∈ wanted, w.name = w'.name → w.owner = w'.owner) :
    ((imported (siblings target wanted)).map Prod.snd).Nodup := by
  rw [imported_siblings, List.map_flatMap]
  simp only [List.map_map, Function.comp_def, List.map_id']
  refine List.nodup_flatMap.2 ⟨fun owner _ => nodup_types_values target owner wanted, ?_⟩
  have howners : (FileKind.all.filter (·.modulePath?.isSome)).Pairwise (· ≠ ·) := by decide
  refine howners.imp fun {owner other} hne => ?_
  intro name hname hother
  obtain ⟨-, w, hw, howner, hname⟩ := mem_types_or_values_iff.1 hname
  obtain ⟨-, w', hw', hother, hname'⟩ := mem_types_or_values_iff.1 hother
  apply hne
  rw [← howner, ← hother]
  exact h w hw w' hw' (hname.trans hname'.symm)

end

end Draft

/-! ### What each file wants -/

/-- The files that carry code of the sources. -/
def FileKind.carriers : List FileKind := [.types, .errors, .constants, .utils]

namespace Plan

open Draft

def neededIn : FileKind → List Importable
  | .constants => [⟨"Platform", .types, false⟩]
  | .utils => [⟨"TimeoutError", .errors, true⟩, ⟨"DEFAULT_RETRY_ATTEMPTS", .constants, true⟩,
      ⟨"DEFAULT_RETRY_DELAY_MS", .constants, true⟩]
  | _ => []

/-- What a file imports from other files, for its own declarations and for those that it carries. -/
def wantedIn (p : Plan) (k : FileKind) : List Importable :=
  referenced p (p.tokensIn k) ++ neededIn k

/-- What a name of the capsule's own is imported as: errors are told by how they are named. -/
def ownImportable (name : String) : Importable :=
  ⟨name, if Naming.roleOf name = .error then .errors
    else if name = "Platform" then .types else .constants, name != "Platform"⟩

/-- Whether a name of the capsule's own is wanted from the file that exports it. -/
def IsOwn (p : Plan) (w : Importable) : Prop :=
  w = ownImportable w.name ∧ w.name ∈ p.exportsIn w.owner

/-- Whether a name is wanted from the file that carries a declaration of this name. -/
def IsCarried (p : Plan) (w : Importable) : Prop :=
  ∃ d, p.Carries w.owner d ∧ d.name = w.name ∧ d.use = if w.isValue then .value else .type

variable {p : Plan} {k : FileKind} {w : Importable}

theorem className_mem_exportsIn {kind : ErrorKind} (h : kind ∈ p.errorKinds) :
    kind.className ∈ p.exportsIn .errors :=
  List.mem_append_left _ (List.mem_append_right _ (List.mem_map_of_mem h))

theorem base_subset_errorKinds : ErrorKind.base ⊆ p.errorKinds :=
  fun _ h => List.mem_append_left _ (List.mem_append_left _ h)

theorem isOwn_error (h : Naming.IsCapitalized p.className) {name : String}
    (hname : name ∈ p.baseErrorName :: p.errorKinds.map ErrorKind.className) :
    p.IsOwn ⟨name, .errors, true⟩ := by
  have hrole : Naming.roleOf name = .error := by
    rcases List.mem_cons.1 hname with rfl | hname
    · have hroles := Naming.roleOf_derivedNames h
      simp only [derivedNames, List.map_cons, List.cons.injEq] at hroles
      exact hroles.2.1
    · obtain ⟨kind, -, rfl⟩ := List.mem_map.1 hname
      exact Naming.roleOf_errorKind kind
  have hplatform : name ≠ "Platform" := Naming.ne_of_roleOf (by rw [hrole]; decide)
  refine ⟨by simp [ownImportable, hrole, hplatform], ?_⟩
  rcases List.mem_cons.1 hname with rfl | hname
  · simp [exportsIn, namesIn]
  · exact List.mem_append_left _ (List.mem_append_right _ hname)

theorem isOwn_of_mem_neededIn (h : w ∈ neededIn k) : p.IsOwn w := by
  have htimeout : "TimeoutError" ∈ p.exportsIn .errors := by
    have hbase : ErrorKind.timeout ∈ ErrorKind.base := by decide
    exact className_mem_exportsIn (base_subset_errorKinds hbase)
  cases k with
  | constants =>
    obtain rfl := List.mem_singleton.1 h
    exact ⟨by decide, List.mem_cons_self⟩
  | utils =>
    simp only [neededIn, List.mem_cons, List.not_mem_nil, or_false] at h
    rcases h with rfl | rfl | rfl
    · exact ⟨by decide, htimeout⟩
    · exact ⟨by decide, by simp [exportsIn, namesIn, constantNames]⟩
    · exact ⟨by decide, by simp [exportsIn, namesIn, constantNames]⟩
  | _ => simp [neededIn] at h

theorem isOwn_or_isCarried_of_mem_importables (h : Naming.IsCapitalized p.className)
    (hw : w ∈ importables p) : p.IsOwn w ∨ p.IsCarried w := by
  simp only [importables, List.mem_append, List.mem_map, List.mem_singleton] at hw
  rcases hw with (((((⟨t, ht, rfl⟩ | ⟨i, hi, rfl⟩) | rfl) | ⟨kind, hkind, rfl⟩) | ⟨e, he, rfl⟩) |
    ⟨c, hc, rfl⟩) | hw
  · exact .inr ⟨_, .type ht, rfl, rfl⟩
  · exact .inr ⟨_, .interface hi, rfl, rfl⟩
  · exact .inl (isOwn_error h List.mem_cons_self)
  · exact .inl (isOwn_error h (List.mem_cons_of_mem _ (List.mem_map_of_mem hkind)))
  · exact .inr ⟨_, .error he, rfl, rfl⟩
  · exact .inr ⟨_, .constant hc, rfl, rfl⟩
  · split at hw
    · rename_i hcode
      simp only [List.mem_append, List.mem_map] at hw
      rcases hw with ⟨f, hf, rfl⟩ | ⟨c, hc, rfl⟩
      · exact .inr ⟨_, .function hcode hf, rfl, rfl⟩
      · exact .inr ⟨_, .plainClass hcode hc, rfl, rfl⟩
    · simp at hw

/-- Whatever is carried can be imported, module state apart. -/
theorem Carries.mem_importables {d : CarriedDeclaration} (hd : p.Carries k d)
    (huse : d.use ≠ .state) : ⟨d.name, k, d.use == .value⟩ ∈ importables p := by
  simp only [importables, List.mem_append, List.mem_map]
  cases hd with
  | @type t ht =>
    have hvalue : ((CarriedDeclaration.ofType t).use == .value) = t.isEnum := by
      cases h : t.isEnum <;> simp [CarriedDeclaration.ofType, CarriedDeclaration.ofText, h]
    exact .inl (.inl (.inl (.inl (.inl (.inl ⟨t, ht, by rw [hvalue]; rfl⟩)))))
  | @interface i hi => exact .inl (.inl (.inl (.inl (.inl (.inr ⟨i, hi, rfl⟩)))))
  | @error e he => exact .inl (.inl (.inr ⟨e, he, rfl⟩))
  | @constant c hc => exact .inl (.inr ⟨c, hc, rfl⟩)
  | state _ _ => exact absurd rfl huse
  | @function f hcode hf =>
    rw [if_pos hcode, List.mem_append]
    exact .inr (.inl (List.mem_map.2 ⟨f, hf, rfl⟩))
  | @plainClass c hcode hc =>
    rw [if_pos hcode, List.mem_append]
    exact .inr (.inr (List.mem_map.2 ⟨c, hc, rfl⟩))

theorem isOwn_or_isCarried (h : Naming.IsCapitalized p.className) (hw : w ∈ p.wantedIn k) :
    p.IsOwn w ∨ p.IsCarried w := by
  rcases List.mem_append.1 hw with hw | hw
  · exact isOwn_or_isCarried_of_mem_importables h (List.mem_filter.1 hw).1
  · exact .inl (isOwn_of_mem_neededIn hw)

/-- A name is wanted from one file and for one use. -/
theorem IsApart.wanted_eq (hapart : p.IsApart) (h : Naming.IsCapitalized p.className)
    {w' : Importable} (hw : w ∈ p.wantedIn k) (hw' : w' ∈ p.wantedIn k) (hname : w.name = w'.name) :
    w = w' := by
  have hforeign {w w' : Importable} (hown : p.IsOwn w) (hcarried : p.IsCarried w') :
      w.name ≠ w'.name := by
    obtain ⟨d, hd, hd', -⟩ := hcarried
    intro heq
    apply hapart.notMem_reserved d.name hd.mem_names
    rw [hd', ← heq]
    exact p.exportsIn_subset w.owner hown.2
  rcases isOwn_or_isCarried h hw with hown | hcarried
  · rcases isOwn_or_isCarried h hw' with hown' | hcarried'
    · rw [hown.1, hown'.1, hname]
    · exact absurd hname (hforeign hown hcarried')
  · rcases isOwn_or_isCarried h hw' with hown' | hcarried'
    · exact absurd hname.symm (hforeign hown' hcarried)
    · obtain ⟨d, hd, hdname, huse⟩ := hcarried
      obtain ⟨d', hd', hdname', huse'⟩ := hcarried'
      have hnames : d.name = d'.name := by rw [hdname, hdname', hname]
      obtain ⟨howner, rfl⟩ := hapart.eq_of_name_eq hd hd' hnames
      have hvalue : w.isValue = w'.isValue := by
        rw [huse] at huse'
        cases hvalue : w.isValue <;> cases hvalue' : w'.isValue <;>
          simp [hvalue, hvalue'] at huse' ⊢
      obtain ⟨name, owner, isValue⟩ := w
      obtain ⟨name', owner', isValue'⟩ := w'
      simp only at hname howner hvalue
      rw [hname, howner, hvalue]

end Plan

/-! ### Import sections -/

namespace Draft

variable {p : Plan} {k : FileKind}

theorem importBlock_eq (p : Plan) (target : FileKind) (tokens : List String) :
    ∃ ending, IsOf .layout ending ∧ importBlock p target tokens =
      externals p tokens ++ siblings target (referenced p tokens) ++ ending := by
  unfold importBlock
  split
  · rename_i hnone
    exact ⟨[], isOf_nil, by rw [hnone]; rfl⟩
  · exact ⟨[.gap], by simp [IsOf, Item.part], rfl⟩

theorem imports_eq (hk : k ∈ FileKind.carriers) : ∃ ending, IsOf .layout ending ∧
    imports p k = externals p (p.tokensIn k) ++ siblings k (p.wantedIn k) ++ ending := by
  have hgap : IsOf .layout [.gap] := by simp [IsOf, Item.part]
  cases k with
  | types =>
    have hblock := importBlock_eq p .types (typesTokens p)
    simpa [imports, Plan.wantedIn, Plan.neededIn, typesTokens_eq] using hblock
  | errors =>
    have hblock := importBlock_eq p .errors (errorsTokens p)
    simpa [imports, Plan.wantedIn, Plan.neededIn, errorsTokens_eq] using hblock
  | constants =>
    refine ⟨[.gap], hgap, ?_⟩
    rw [← constantsTokens_eq, Plan.wantedIn, ← constantsTokens_eq]
    rfl
  | utils =>
    refine ⟨[.gap], hgap, ?_⟩
    rw [← utilsTokens_eq, Plan.wantedIn, ← utilsTokens_eq]
    rfl
  | _ => simp [FileKind.carriers] at hk

theorem imports_subset (hk : k ∈ FileKind.carriers) :
    externals p (p.tokensIn k) ++ siblings k (p.wantedIn k) ⊆ sections p k := by
  intro item hitem
  obtain ⟨ending, -, himports⟩ := imports_eq (p := p) hk
  have hmem : item ∈ imports p k := by
    rw [himports]
    exact List.mem_append_left _ hitem
  simp only [sections, List.mem_append, hmem, or_true, true_or]

end Draft
end ServiceCapsule
