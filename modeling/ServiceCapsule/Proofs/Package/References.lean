import ServiceCapsule.Proofs.Package.Resolution

/-!
# References between files

The sources are cut into four files, so that code can refer to what another file carries. Whatever
has an identifier for a name and is no module state is imported where its name stands in the sources
of another file, as a value if there is one when the code runs. The file of types imports all as
types, although the members of an enumeration can be computed from values, and nothing imports
module state. A constant that is taken apart has its whole pattern for a name.
-/

namespace ServiceCapsule

/-- The names that an item imports as types only, or those that it imports as values. -/
def Item.importedAs (typeOnly : Bool) : Item → List (FileKind × String)
  | sibling other names owner =>
    if other = typeOnly then names.map fun name => (owner, name) else []
  | _ => []

namespace Draft

def importedAs (typeOnly : Bool) (d : Draft) : List (FileKind × String) :=
  d.flatMap (Item.importedAs typeOnly)

theorem mem_importedAs {typeOnly : Bool} {d : Draft} {names : List String} {owner : FileKind}
    {name : String} (hitem : .sibling typeOnly names owner ∈ d) (hname : name ∈ names) :
    (owner, name) ∈ importedAs typeOnly d := by
  refine List.mem_flatMap.2 ⟨_, hitem, ?_⟩
  simpa [Item.importedAs] using hname

section

variable {target : FileKind} {wanted : List Importable} {w : Importable}

/-- A wanted name is imported for its use, if no other use of the name is wanted. -/
theorem mem_importedAs_siblings (hw : w ∈ wanted) (howner : w.owner ≠ target)
    (hpath : w.owner.modulePath?.isSome = true)
    (hunique : ∀ w' ∈ wanted, w'.name = w.name → w' = w) :
    (w.owner, w.name) ∈
      importedAs (!Importable.asValue target w) (siblings target wanted) := by
  have hline {typeOnly : Bool} {names : List String}
      (hitem : .sibling typeOnly names w.owner ∈ importsFrom target w.owner wanted)
      (hname : w.name ∈ names) :
      (w.owner, w.name) ∈ importedAs typeOnly (siblings target wanted) := by
    refine mem_importedAs (List.mem_flatMap.2 ⟨w.owner, ?_, hitem⟩) hname
    exact List.mem_filter.2 ⟨FileKind.mem_all _, hpath⟩
  have hempty {names : List String} (hname : w.name ∈ names) : ¬ names.isEmpty = true := by
    simpa using List.ne_nil_of_mem hname
  cases hvalue : Importable.asValue target w with
  | true =>
    have hname : w.name ∈ valuesFrom target w.owner wanted :=
      mem_valuesFrom_iff.2 ⟨howner, w, hw, rfl, rfl, hvalue⟩
    refine hline ?_ hname
    rw [importsFrom_eq, if_neg (hempty hname)]
    exact List.mem_append_right _ List.mem_cons_self
  | false =>
    have hname : w.name ∈ typesFrom target w.owner wanted := by
      refine mem_typesFrom_iff.2 ⟨⟨howner, w, hw, rfl, rfl, hvalue⟩, fun hmem => ?_⟩
      obtain ⟨-, w', hw', -, hname, hvalue'⟩ := mem_valuesFrom_iff.1 hmem
      rw [hunique w' hw' hname, hvalue] at hvalue'
      exact Bool.false_ne_true hvalue'
    refine hline ?_ hname
    rw [importsFrom_eq, if_neg (hempty hname)]
    exact List.mem_append_left _ List.mem_cons_self

end

end Draft

namespace Plan

variable {p : Plan} {k owner : FileKind} {d : CarriedDeclaration}

theorem Carries.mem_carriers (hd : p.Carries k d) : k ∈ FileKind.carriers := by
  cases hd <;> decide

theorem Carries.modulePath (hd : p.Carries k d) : k.modulePath?.isSome = true := by
  cases hd <;> rfl

theorem Carries.mem_importedAs (hapart : p.IsApart) (hname : Naming.IsCapitalized p.className)
    (hd : p.Carries owner d) (huse : d.use ≠ .state) (hk : k ∈ FileKind.carriers)
    (howner : owner ≠ k) (htoken : d.name ∈ p.tokensIn k) :
    (owner, d.name) ∈ Draft.importedAs (d.use == .type || k == .types) (Draft.sections p k) := by
  let w : Draft.Importable := ⟨d.name, owner, d.use == .value⟩
  have hw : w ∈ p.wantedIn k := by
    refine List.mem_append_left _ (List.mem_filter.2 ⟨hd.mem_importables huse, ?_⟩)
    simpa [w] using htoken
  have hunique : ∀ w' ∈ p.wantedIn k, w'.name = w.name → w' = w :=
    fun w' hw' heq => hapart.wanted_eq hname hw' hw heq
  have htype : ∀ use : Use, use ≠ .state →
      (!(use == .value && k != .types)) = (use == .type || k == .types) := by
    intro use huse
    cases use with
    | type => rfl
    | value => cases k <;> rfl
    | state => exact absurd rfl huse
  have himported := Draft.mem_importedAs_siblings hw howner hd.modulePath hunique
  rw [← htype d.use huse]
  obtain ⟨item, hitem, hmem⟩ := List.mem_flatMap.1 himported
  exact List.mem_flatMap.2 ⟨item, Draft.imports_subset hk (List.mem_append_right _ hitem), hmem⟩

theorem Carries.notMem_imported (hapart : p.IsApart) (hname : Naming.IsCapitalized p.className)
    (hd : p.Carries owner d) (huse : d.use = .state) (k : FileKind) :
    d.name ∉ (Draft.imported (Draft.sections p k)).map Prod.snd := by
  have hown {other : FileKind} (h : d.name ∈ p.exportsIn other) : False :=
    hapart.notMem_reserved _ hd.mem_names (p.exportsIn_subset other h)
  intro hmem
  obtain ⟨⟨other, name⟩, himported, rfl⟩ := List.mem_map.1 hmem
  by_cases hk : k ∈ FileKind.carriers
  · obtain ⟨w, -, -, hwname, -, hwown | ⟨d', hd', hname', huse'⟩⟩ :=
      Draft.isOwn_or_isCarried_of_imported hname hk himported
    · exact hown (hwname ▸ hwown.2)
    · obtain ⟨-, rfl⟩ := hapart.eq_of_name_eq hd hd' (by rw [hname', hwname])
      rw [huse] at huse'
      split at huse' <;> exact Use.noConfusion huse'
  · exact hown (Draft.mem_exportsIn_of_imported hk himported)

/-- A capsule with an enumeration that is computed from a constant, a constant that is computed from
module state, a constant that is taken apart with a default value, and a function that uses a name
bound by that pattern and a name beyond ASCII. -/
def levelsCapsule : ParsedCapsule :=
  { (default : ParsedCapsule) with
    metadata := { (default : Metadata) with id := "levels", platforms := [.universal] }
    analysis :=
      { Analysis.empty with
        types := [⟨"Level", true, none, default, true, "\x7b Low, High = MAX \x7d",
          "enum Level \x7b Low, High = MAX \x7d"⟩]
        functions := [⟨"url", true, none, default, [], some "string", false,
            "function url(): string \x7b return host + größe; \x7d"⟩,
          ⟨"local", true, none, default, [], none, false, "function local() \x7b return 'a'; \x7d"⟩]
        constants := [⟨"MAX", true, none, default, none, "3"⟩,
          ⟨"START", true, none, default, none, "hits + 1"⟩,
          ⟨"\x7b host = local() \x7d", true, none, default, none, "settings()"⟩,
          ⟨"größe", true, none, default, none, "4"⟩]
        vars := [⟨"hits", false, none, default, "let hits = 0;"⟩] } }

end Plan
end ServiceCapsule
