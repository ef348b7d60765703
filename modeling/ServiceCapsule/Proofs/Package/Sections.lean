import ServiceCapsule.Package.Generation
import ServiceCapsule.Proofs.Package.Declared

/-!
# Sections of generated files

Every file has the same sections in the same order: its top, its imports, what it declares of its
own, the code of the sources, and remarks on what was left out. Declarations, imports and carried
code each stand in one section only, so that a file is known by its sections.
-/

namespace ServiceCapsule
namespace Draft

variable (p : Plan)

def top : FileKind → Draft
  | .types => header p "Type definitions"
  | .errors => header p "Error definitions"
  | .constants => header p "Constants"
  | .utils => header p "Utilities"
  | .adapters => header p "Platform adapters"
  | .service => header p "Service"
  | .index => indexHeader p ++ reexports
  | .readme => [.plain (["# " ++ p.metadata.name, "", p.metadata.description, ""] ++ overview p ++
      installation p ++ usage p ++ programInterface p ++ migrationNotes p)]

def imports : FileKind → Draft
  | .types => importBlock p .types (typesTokens p)
  | .errors => importBlock p .errors (errorsTokens p)
  | .constants => constantsImports p
  | .utils => utilsImports p
  | .adapters => adapterTypes
  | .service => serviceImports p
  | .index => indexImports p
  | .readme => []

def own : FileKind → Draft
  | .types => sharedTypes p
  | .errors => sharedErrors p
  | .constants => sharedConstants p
  | .utils => helpers
  | .adapters =>
    if p.isMultiPlatform then multiPlatform p.metadata.platforms
    else singlePlatform p.primaryPlatform
  | .service => serviceClass p
  | .index => [metadataConstant p, .gap] ++ factories p ++
      [.plain ["export default " ++ p.serviceName ++ ";"]]
  | .readme => []

/-- The code of the sources, or remarks on it where it is left to a human. -/
def sourceCode : FileKind → Draft
  | .types => carriedTypes p
  | .errors => carriedErrors p
  | .constants => carriedConstants p
  | .utils => if p.carriesCode then carriedUtils p else listedUtils p
  | _ => []

def leftOut : FileKind → Draft
  | .types => remarks p .types
  | .errors => remarks p .errors
  | .constants => remarks p .constants
  | .utils => remarks p .utils
  | _ => []

/-- A file, section by section. -/
def sections (k : FileKind) : Draft :=
  top p k ++ imports p k ++ own p k ++ sourceCode p k ++ leftOut p k

variable {p}

/-- Where the class name is capitalized, every file can be drafted. -/
theorem ofKind_eq (h : Naming.IsCapitalized p.className) (k : FileKind) :
    ofKind p k = .ok (sections p k) := by
  have hname : Naming.isIdentifier p.className = true := by
    simpa using h.isIdentifier_append "" (by simp)
  have hbase : Naming.isIdentifier p.baseErrorName = true := h.isIdentifier_append _ (by decide)
  have hservice : Naming.isIdentifier p.serviceName = true := h.isIdentifier_append _ (by decide)
  cases k with
  | types => simp only [ofKind, typesFile, requireIdentifier_eq_ok hname]; rfl
  | errors => simp only [ofKind, errorsFile, requireIdentifier_eq_ok hbase]; rfl
  | constants => rfl
  | utils => rfl
  | adapters => simp [ofKind, adaptersFile, sections, top, imports, own, sourceCode, leftOut]
  | service =>
    simp only [ofKind, serviceFile, requireIdentifier_eq_ok hservice, sections, sourceCode, leftOut,
      List.append_nil]
    rfl
  | index =>
    simp only [ofKind, indexFile, requireIdentifier_eq_ok hname, sections, sourceCode, leftOut,
      List.append_nil]
    simp [top, imports, own, bind, Except.bind, pure, Except.pure]
  | readme => rfl

theorem isCapitalized_ofCapsule (c : ParsedCapsule) (mode : Mode) (time : Timestamp) :
    Naming.IsCapitalized (Plan.ofCapsule c mode time).className :=
  Naming.isCapitalized_className _

theorem ofKind_ofCapsule (c : ParsedCapsule) (mode : Mode) (time : Timestamp) (k : FileKind) :
    ofKind (Plan.ofCapsule c mode time) k = .ok (sections (Plan.ofCapsule c mode time) k) :=
  ofKind_eq (isCapitalized_ofCapsule c mode time) k

theorem render_ofCapsule (c : ParsedCapsule) (mode : Mode) (time : Timestamp) (k : FileKind) :
    render (Plan.ofCapsule c mode time) k = .ok (text (sections (Plan.ofCapsule c mode time) k)) := by
  rw [render, ofKind_ofCapsule]
  rfl

end Draft

theorem Generation.content_ofCapsule (formatter : Option Formatter) (c : ParsedCapsule) (mode : Mode)
    (time : Timestamp) (k : FileKind) :
    content formatter (Plan.ofCapsule c mode time) k =
      .ok (match formatter with
        | some f => f.format k.fileName (Draft.text (Draft.sections (Plan.ofCapsule c mode time) k))
        | none => Draft.text (Draft.sections (Plan.ofCapsule c mode time) k)) := by
  rw [content, Draft.render_ofCapsule]
  cases formatter <;> rfl

/-! ### What stands in which section -/

inductive Part where
  | layout
  | imports
  | own
  | sources
  deriving DecidableEq

/-- The part that an item belongs to; what declares and imports nothing is layout. -/
def Item.part : Item → Part
  | gap | plain _ | comment _ | note _ | reexport _ => .layout
  | external _ | sibling _ _ _ => .imports
  | declaration _ _ _ _ => .own
  | carried _ _ _ => .sources

namespace Draft

/-- Whether all items are layout or belong to a part. -/
def IsOf (part : Part) (d : Draft) : Prop := ∀ item ∈ d, item.part = .layout ∨ item.part = part

section

variable {part : Part} {d e : Draft} {item : Item}

theorem isOf_nil : IsOf part [] := by simp [IsOf]

theorem isOf_append : IsOf part (d ++ e) ↔ IsOf part d ∧ IsOf part e := List.forall_mem_append

theorem isOf_cons : IsOf part (item :: d) ↔
    (item.part = .layout ∨ item.part = part) ∧ IsOf part d := List.forall_mem_cons

theorem isOf_map {α : Type} {item : α → Item} {as : List α} (h : ∀ a, (item a).part = part) :
    IsOf part (as.map item) := by
  intro i hi
  obtain ⟨a, -, rfl⟩ := List.mem_map.1 hi
  exact .inr (h a)

theorem isOf_flatMap {α : Type} {items : α → Draft} {as : List α}
    (h : ∀ a ∈ as, IsOf part (items a)) : IsOf part (as.flatMap items) := by
  intro i hi
  obtain ⟨a, ha, hi⟩ := List.mem_flatMap.1 hi
  exact h a ha i hi

theorem IsOf.mono (h : IsOf .layout d) (part : Part) : IsOf part d :=
  fun item hitem => .inl ((h item hitem).elim id id)

end

theorem isOf_reexports : IsOf .layout reexports :=
  isOf_append.2 ⟨isOf_map fun _ => rfl, by simp [IsOf, Item.part]⟩

theorem isOf_top (p : Plan) (k : FileKind) : IsOf .layout (top p k) := by
  cases k with
  | index =>
    refine isOf_append.2 ⟨?_, isOf_reexports⟩
    simp [IsOf, indexHeader, Item.part]
  | _ => simp [IsOf, top, header, Item.part]

theorem isOf_remarks (p : Plan) (target : FileKind) : IsOf .layout (remarks p target) := by
  unfold remarks
  split
  · exact isOf_nil
  · simp only [isOf_append, isOf_cons]
    exact ⟨⟨.inl rfl, isOf_map fun _ => rfl⟩, .inl rfl, isOf_nil⟩

theorem isOf_leftOut (p : Plan) (k : FileKind) : IsOf .layout (leftOut p k) := by
  cases k with
  | types | errors | constants | utils => exact isOf_remarks p _
  | _ => exact isOf_nil

theorem isOf_externals (p : Plan) (tokens : List String) : IsOf .imports (externals p tokens) :=
  isOf_map fun _ => rfl

theorem isOf_siblings (target : FileKind) (wanted : List Importable) :
    IsOf .imports (siblings target wanted) := by
  refine isOf_flatMap fun owner _ => ?_
  simp only [importsFrom, isOf_append]
  constructor
  all_goals
    split
    · exact isOf_nil
    · simp [IsOf, Item.part]

theorem isOf_importBlock (p : Plan) (target : FileKind) (tokens : List String) :
    IsOf .imports (importBlock p target tokens) := by
  unfold importBlock
  split
  · exact isOf_nil
  · rw [isOf_append]
    exact ⟨isOf_append.2 ⟨isOf_externals p tokens, isOf_siblings target _⟩,
      by simp [IsOf, Item.part]⟩

theorem isOf_imports (p : Plan) (k : FileKind) : IsOf .imports (imports p k) := by
  cases k with
  | types | errors => exact isOf_importBlock p _ _
  | constants | utils =>
    exact isOf_append.2 ⟨isOf_append.2 ⟨isOf_externals p _, isOf_siblings _ _⟩,
      by simp [IsOf, Item.part]⟩
  | service =>
    simp only [imports, serviceImports, isOf_append]
    refine ⟨⟨by simp [IsOf, Item.part], ?_⟩, by simp [IsOf, Item.part]⟩
    split <;> simp [IsOf, Item.part]
  | adapters | index => simp [IsOf, imports, adapterTypes, indexImports, Item.part]
  | readme => exact isOf_nil

theorem isOf_sharedErrors (p : Plan) : IsOf .own (sharedErrors p) := by
  simp only [sharedErrors, isOf_append]
  refine ⟨⟨⟨?_, ?_⟩, isOf_flatMap fun k _ => ?_⟩, ?_⟩
  · simp [IsOf, codeEnumeration, Item.part]
  · simp [IsOf, baseErrorClass, Item.part]
  · simp [IsOf, kindClass, Item.part]
  · simp [IsOf, errorFunctions, Item.part]

theorem isOf_helpers : IsOf .own helpers := by
  simp [IsOf, helpers, sleepHelper, timeoutHelper, retryHelper, plainObjectHelper, mergeHelper,
    durationHelper, Item.part]

theorem isOf_adapters (p : Plan) : IsOf .own (own p .adapters) := by
  show IsOf .own (if p.isMultiPlatform then _ else _)
  split
  · simp only [multiPlatform, isOf_append]
    refine ⟨⟨?_, isOf_flatMap fun platform _ => ?_⟩, ?_⟩
    · simp [IsOf, adapterInterface, Item.part]
    · simp [IsOf, adapter, Item.part]
    · simp [IsOf, adapterSelection, Item.part]
  · simp [IsOf, singlePlatform, Item.part]

theorem isOf_own (p : Plan) (k : FileKind) : IsOf .own (own p k) := by
  cases k with
  | types => simp [IsOf, own, sharedTypes, Item.part]
  | errors => exact isOf_sharedErrors p
  | constants => simp [IsOf, own, sharedConstants, Item.part]
  | utils => exact isOf_helpers
  | adapters => exact isOf_adapters p
  | service => simp [IsOf, own, serviceClass, Item.part]
  | index => simp [IsOf, own, metadataConstant, factories, Item.part]
  | readme => exact isOf_nil

theorem isOf_carriedTypes (p : Plan) : IsOf .sources (carriedTypes p) := by
  unfold carriedTypes
  split
  · exact isOf_nil
  · simp only [isOf_append]
    refine ⟨⟨by simp [IsOf, Item.part], isOf_flatMap fun t _ => ?_⟩, isOf_flatMap fun i _ => ?_⟩
    all_goals simp [IsOf, carriedCode, Item.part]

theorem isOf_carriedErrors (p : Plan) : IsOf .sources (carriedErrors p) := by
  unfold carriedErrors
  split
  · exact isOf_nil
  · refine isOf_append.2 ⟨by simp [IsOf, Item.part], isOf_flatMap fun e _ => ?_⟩
    simp [IsOf, carriedCode, Item.part]

theorem isOf_carriedConstants (p : Plan) : IsOf .sources (carriedConstants p) := by
  unfold carriedConstants
  split
  · exact isOf_nil
  · exact isOf_append.2 ⟨by simp [IsOf, Item.part], isOf_map fun _ => rfl⟩

theorem isOf_carriedUtils (p : Plan) : IsOf .sources (carriedUtils p) := by
  simp only [carriedUtils, isOf_append]
  refine ⟨⟨⟨?_, ?_⟩, isOf_flatMap fun f _ => ?_⟩, isOf_flatMap fun c _ => ?_⟩
  · split
    · exact isOf_nil
    · exact isOf_append.2 ⟨by simp [IsOf, Item.part], isOf_map fun _ => rfl⟩
  · split
    · exact isOf_nil
    · simp [IsOf, Item.part]
  all_goals simp [IsOf, carriedCode, Item.part]

theorem isOf_listedUtils (p : Plan) : IsOf .layout (listedUtils p) := by
  unfold listedUtils
  split
  · exact isOf_nil
  · simp only [isOf_append]
    exact ⟨⟨⟨by simp [IsOf, Item.part], isOf_map fun _ => rfl⟩, isOf_map fun _ => rfl⟩,
      isOf_map fun _ => rfl⟩

theorem isOf_sourceCode (p : Plan) (k : FileKind) : IsOf .sources (sourceCode p k) := by
  cases k with
  | types => exact isOf_carriedTypes p
  | errors => exact isOf_carriedErrors p
  | constants => exact isOf_carriedConstants p
  | utils =>
    show IsOf .sources (if p.carriesCode then _ else _)
    split
    · exact isOf_carriedUtils p
    · exact (isOf_listedUtils p).mono _
  | _ => exact isOf_nil

/-! ### A file by its sections -/

/-- The items of a file that belong to a part stand in these sections. -/
def sectionOf (p : Plan) (k : FileKind) : Part → Draft
  | .layout => top p k ++ leftOut p k
  | .imports => imports p k
  | .own => own p k
  | .sources => sourceCode p k

section

variable {p : Plan} {k : FileKind} {part : Part}

theorem part_of_mem {d : Draft} {item : Item} (h : IsOf part d) (hitem : item ∈ d)
    (hpart : item.part ≠ .layout) : item.part = part :=
  (h item hitem).resolve_left hpart

theorem mem_sections_iff {item : Item} (h : item.part ≠ .layout) :
    item ∈ sections p k ↔ item ∈ sectionOf p k item.part := by
  simp only [sections, List.mem_append]
  constructor
  · rintro ((((hmem | hmem) | hmem) | hmem) | hmem)
    · exact absurd (part_of_mem (isOf_top p k) hmem h) h
    · rwa [part_of_mem (isOf_imports p k) hmem h]
    · rwa [part_of_mem (isOf_own p k) hmem h]
    · rwa [part_of_mem (isOf_sourceCode p k) hmem h]
    · exact absurd (part_of_mem (isOf_leftOut p k) hmem h) h
  · cases hpart : item.part with
    | layout => exact absurd hpart h
    | imports => exact fun hmem => .inl (.inl (.inl (.inr hmem)))
    | own => exact fun hmem => .inl (.inl (.inr hmem))
    | sources => exact fun hmem => .inl (.inr hmem)

/-- What is read off the items of one part is read off their section. -/
theorem flatMap_sections (p : Plan) (k : FileKind) (part : Part) {β : Type} {f : Item → List β}
    (hpart : part ≠ .layout)
    (hf : ∀ item, item.part ≠ part → f item = []) :
    (sections p k).flatMap f = (sectionOf p k part).flatMap f := by
  have hnone {d : Draft} {other : Part} (h : IsOf other d) (hother : other ≠ part) :
      d.flatMap f = [] := by
    rw [List.flatMap_eq_nil_iff]
    intro item hitem
    apply hf
    rcases h item hitem with h | h
    · rw [h]
      exact hpart.symm
    · rwa [h]
  have htop := hnone (isOf_top p k) hpart.symm
  have hleft := hnone (isOf_leftOut p k) hpart.symm
  simp only [sections, List.flatMap_append, htop, hleft, List.nil_append, List.append_nil]
  cases part with
  | layout => exact absurd rfl hpart
  | imports =>
    rw [hnone (isOf_own p k) (by decide), hnone (isOf_sourceCode p k) (by decide)]
    simp [sectionOf]
  | own =>
    rw [hnone (isOf_imports p k) (by decide), hnone (isOf_sourceCode p k) (by decide)]
    simp [sectionOf]
  | sources =>
    rw [hnone (isOf_imports p k) (by decide), hnone (isOf_own p k) (by decide)]
    simp [sectionOf]

end

end Draft
end ServiceCapsule
