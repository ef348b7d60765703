import ServiceCapsule.Proofs.Package.Admitted

/-!
# Declarations that files carry

Four files carry declarations of the sources, each declaration in one of them. A file is known by
the names and the code of what it carries; its imports go by the words of the texts that this code
is made of, and what others can import of it is what it carries, module state apart.
-/

namespace ServiceCapsule

/-- What other files of the capsule can use a declaration as. -/
inductive Use where
  | type
  | value
  | state
  deriving DecidableEq

/-- A declaration of the sources in the file that carries it. -/
structure CarriedDeclaration where
  name : String
  use : Use
  /-- what the sources say, less what a constant is called -/
  texts : List String
  code : String

def CarriedDeclaration.tokens (d : CarriedDeclaration) : List String :=
  d.texts.flatMap Naming.identifiers

namespace CarriedDeclaration

def ofText (name : String) (use : Use) (text : String) : CarriedDeclaration :=
  ⟨name, use, [text], Draft.exportedCode text⟩

def ofType (t : TypeDeclaration) : CarriedDeclaration :=
  ofText t.name (if t.isEnum then .value else .type) t.sourceText

def ofInterface (i : InterfaceDeclaration) : CarriedDeclaration := ofText i.name .type i.sourceText

def ofError (e : ErrorClass) : CarriedDeclaration := ofText e.name .value e.sourceText

def typeSuffix : Option String → String
  | some typeText => ": " ++ typeText
  | none => ""

def ofConstant (c : ConstantDeclaration) : CarriedDeclaration where
  name := c.name
  use := .value
  texts := c.typeText.toList ++ [c.value]
  code := "export const " ++ c.name ++ typeSuffix c.typeText ++ " = " ++ c.value ++ ";"

def ofVariable (v : VariableDeclaration) : CarriedDeclaration where
  name := v.name
  use := .state
  texts := [v.sourceText]
  code := if v.exported then Draft.exportedCode v.sourceText else Text.trim v.sourceText

def ofFunction (f : FunctionDeclaration) : CarriedDeclaration := ofText f.name .value f.sourceText

def ofClass (c : ClassDeclaration) : CarriedDeclaration := ofText c.name .value c.sourceText

end CarriedDeclaration

namespace Plan

open CarriedDeclaration

/-- The declarations that each file carries. -/
def carriedIn (p : Plan) : FileKind → List CarriedDeclaration
  | .types => p.preserved.types.map ofType ++ p.preserved.interfaces.map ofInterface
  | .errors => p.preserved.errors.map ofError
  | .constants => p.preserved.constants.map ofConstant
  | .utils =>
    if p.carriesCode then
      p.preserved.vars.map ofVariable ++ p.preserved.functions.map ofFunction ++
        p.preserved.classes.map ofClass
    else []
  | _ => []

def tokensIn (p : Plan) (k : FileKind) : List String := (p.carriedIn k).flatMap (·.tokens)

/-- Where each kind of declaration is carried. -/
inductive Carries (p : Plan) : FileKind → CarriedDeclaration → Prop where
  | type {t : TypeDeclaration} (h : t ∈ p.preserved.types) : Carries p .types (ofType t)
  | interface {i : InterfaceDeclaration} (h : i ∈ p.preserved.interfaces) :
      Carries p .types (ofInterface i)
  | error {e : ErrorClass} (h : e ∈ p.preserved.errors) : Carries p .errors (ofError e)
  | constant {c : ConstantDeclaration} (h : c ∈ p.preserved.constants) :
      Carries p .constants (ofConstant c)
  | state {v : VariableDeclaration} (hcode : p.carriesCode = true) (h : v ∈ p.preserved.vars) :
      Carries p .utils (ofVariable v)
  | function {f : FunctionDeclaration} (hcode : p.carriesCode = true)
      (h : f ∈ p.preserved.functions) : Carries p .utils (ofFunction f)
  | plainClass {c : ClassDeclaration} (hcode : p.carriesCode = true)
      (h : c ∈ p.preserved.classes) : Carries p .utils (ofClass c)

theorem mem_carriedIn_iff {p : Plan} {k : FileKind} {d : CarriedDeclaration} :
    d ∈ p.carriedIn k ↔ p.Carries k d := by
  constructor
  · intro hd
    cases k with
    | types =>
      simp only [carriedIn, List.mem_append, List.mem_map] at hd
      rcases hd with ⟨t, ht, rfl⟩ | ⟨i, hi, rfl⟩
      · exact .type ht
      · exact .interface hi
    | errors =>
      obtain ⟨e, he, rfl⟩ := List.mem_map.1 hd
      exact .error he
    | constants =>
      obtain ⟨c, hc, rfl⟩ := List.mem_map.1 hd
      exact .constant hc
    | utils =>
      simp only [carriedIn] at hd
      split at hd
      · rename_i hcode
        simp only [List.mem_append, List.mem_map] at hd
        rcases hd with (⟨v, hv, rfl⟩ | ⟨f, hf, rfl⟩) | ⟨c, hc, rfl⟩
        · exact .state hcode hv
        · exact .function hcode hf
        · exact .plainClass hcode hc
      · simp at hd
    | _ => simp [carriedIn] at hd
  · intro hd
    cases hd with
    | type h => exact List.mem_append_left _ (List.mem_map_of_mem h)
    | interface h => exact List.mem_append_right _ (List.mem_map_of_mem h)
    | error h => exact List.mem_map_of_mem h
    | constant h => exact List.mem_map_of_mem h
    | state hcode h => simp [carriedIn, hcode, List.mem_map_of_mem h]
    | function hcode h => simp [carriedIn, hcode, List.mem_map_of_mem h]
    | plainClass hcode h => simp [carriedIn, hcode, List.mem_map_of_mem h]

end Plan

/-! ### Carried code in the drafts -/

def Item.carriedOver : Item → List (String × String)
  | carried name _ code => [(name, code)]
  | _ => []

namespace Draft

/-- The declarations of the sources in a draft, by name and code. -/
def carriedOver (d : Draft) : List (String × String) := d.flatMap Item.carriedOver

@[simp] theorem carriedOver_nil : carriedOver [] = [] := rfl

@[simp] theorem carriedOver_cons (item : Item) (d : Draft) :
    carriedOver (item :: d) = item.carriedOver ++ carriedOver d := List.flatMap_cons

@[simp] theorem carriedOver_append (d e : Draft) :
    carriedOver (d ++ e) = carriedOver d ++ carriedOver e := List.flatMap_append

section

variable {α : Type} {as : List α} (of : α → CarriedDeclaration)

theorem carriedOver_flatMap {items : α → Draft}
    (h : ∀ a, carriedOver (items a) = [((of a).name, (of a).code)]) :
    carriedOver (as.flatMap items) = (as.map of).map fun d => (d.name, d.code) := by
  induction as with
  | nil => rfl
  | cons a as ih => rw [List.flatMap_cons, carriedOver_append, h, ih]; rfl

theorem carriedOver_map {item : α → Item}
    (h : ∀ a, (item a).carriedOver = [((of a).name, (of a).code)]) :
    carriedOver (as.map item) = (as.map of).map fun d => (d.name, d.code) := by
  rw [List.map_eq_flatMap]
  exact carriedOver_flatMap of fun a => by simp [h]

end

@[simp] theorem carriedOver_gap : Item.gap.carriedOver = [] := rfl

@[simp] theorem carriedOver_carriedCode (name : String) (docs : Option String) (text : String) :
    (carriedCode name docs text).carriedOver = [(name, exportedCode text)] := rfl

variable {p : Plan} {k : FileKind}

theorem carriedOver_carriedTypes : carriedOver (carriedTypes p) =
    (p.carriedIn .types).map fun d => (d.name, d.code) := by
  unfold carriedTypes
  split
  · rename_i hnone
    obtain ⟨htypes, hinterfaces⟩ : p.preserved.types = [] ∧ p.preserved.interfaces = [] := by
      simpa using hnone
    simp [Plan.carriedIn, htypes, hinterfaces]
  · rw [carriedOver_append, carriedOver_append, Plan.carriedIn, List.map_append]
    congr 1
    · exact carriedOver_flatMap _ fun t => by
        simp [CarriedDeclaration.ofType, CarriedDeclaration.ofText]
    · exact carriedOver_flatMap _ fun i => by
        simp [CarriedDeclaration.ofInterface, CarriedDeclaration.ofText]

theorem carriedOver_carriedErrors : carriedOver (carriedErrors p) =
    (p.carriedIn .errors).map fun d => (d.name, d.code) := by
  unfold carriedErrors
  split
  · rename_i hnone
    have herrors : p.preserved.errors = [] := by simpa using hnone
    simp [Plan.carriedIn, herrors]
  · exact carriedOver_flatMap _ fun e => by
      simp [CarriedDeclaration.ofError, CarriedDeclaration.ofText]

theorem carriedOver_carriedConstants : carriedOver (carriedConstants p) =
    (p.carriedIn .constants).map fun d => (d.name, d.code) := by
  unfold carriedConstants
  split
  · rename_i hnone
    have hconstants : p.preserved.constants = [] := by simpa using hnone
    simp [Plan.carriedIn, hconstants]
  · rw [carriedOver_append, carriedOver_map CarriedDeclaration.ofConstant fun _ => rfl]
    rfl

theorem carriedOver_carriedUtils (hcode : p.carriesCode = true) : carriedOver (carriedUtils p) =
    (p.carriedIn .utils).map fun d => (d.name, d.code) := by
  have hvars : carriedOver (if p.preserved.vars.isEmpty then []
      else [.gap, .note "Original module state", .gap] ++ p.preserved.vars.map carriedVariable) =
      (p.preserved.vars.map CarriedDeclaration.ofVariable).map fun d => (d.name, d.code) := by
    split
    · rename_i hnone
      have hnone : p.preserved.vars = [] := by simpa using hnone
      simp [hnone]
    · rw [carriedOver_append, carriedOver_map CarriedDeclaration.ofVariable fun _ => rfl]
      rfl
  have htitle : carriedOver (if p.preserved.functions.isEmpty && p.preserved.classes.isEmpty then []
      else [.gap, .note "Original functions and classes"]) = [] := by
    split <;> rfl
  have hfunctions : carriedOver (p.preserved.functions.flatMap fun f =>
      [.gap, carriedCode f.name f.docs f.sourceText]) =
      (p.preserved.functions.map CarriedDeclaration.ofFunction).map fun d => (d.name, d.code) :=
    carriedOver_flatMap _ fun f => by
      simp [CarriedDeclaration.ofFunction, CarriedDeclaration.ofText]
  have hclasses : carriedOver (p.preserved.classes.flatMap fun c =>
      [.gap, carriedCode c.name c.docs c.sourceText]) =
      (p.preserved.classes.map CarriedDeclaration.ofClass).map fun d => (d.name, d.code) :=
    carriedOver_flatMap _ fun c => by
      simp [CarriedDeclaration.ofClass, CarriedDeclaration.ofText]
  rw [carriedUtils, carriedOver_append, carriedOver_append, carriedOver_append, hvars, htitle,
    hfunctions, hclasses, Plan.carriedIn, if_pos hcode, List.append_nil, List.map_append,
    List.map_append]

theorem carriedOver_sourceCode_utils : carriedOver (sourceCode p .utils) =
    (p.carriedIn .utils).map fun d => (d.name, d.code) := by
  show carriedOver (if p.carriesCode then carriedUtils p else listedUtils p) = _
  split
  · rename_i hcode
    exact carriedOver_carriedUtils hcode
  · rename_i hcode
    have hnone : p.carriedIn .utils = [] := if_neg hcode
    rw [hnone, carriedOver, List.map_nil, List.flatMap_eq_nil_iff]
    intro item hitem
    have hlayout := (isOf_listedUtils p item hitem).elim id id
    cases item with
    | carried name docs code => simp [Item.part] at hlayout
    | _ => rfl

/-- A file holds the code of what it carries and no other code of the sources. -/
theorem carriedOver_sections (p : Plan) (k : FileKind) :
    carriedOver (sections p k) = (p.carriedIn k).map fun d => (d.name, d.code) := by
  have hsources : carriedOver (sections p k) = carriedOver (sourceCode p k) := by
    refine flatMap_sections p k .sources (by decide) fun item hitem => ?_
    cases item with
    | carried _ _ _ => exact absurd rfl hitem
    | _ => rfl
  rw [hsources]
  cases k with
  | types => exact carriedOver_carriedTypes
  | errors => exact carriedOver_carriedErrors
  | constants => exact carriedOver_carriedConstants
  | utils => exact carriedOver_sourceCode_utils
  | _ => rfl

theorem mem_of_mem_carriedOver {d : Draft} {name code : String} (h : (name, code) ∈ carriedOver d) :
    ∃ docs, .carried name docs code ∈ d := by
  obtain ⟨item, hitem, h⟩ := List.mem_flatMap.1 h
  cases item with
  | carried other docs text =>
    obtain ⟨rfl, rfl⟩ := Prod.mk.inj (List.mem_singleton.1 h)
    exact ⟨docs, hitem⟩
  | _ => simp [Item.carriedOver] at h

/-! ### What imports go by -/

theorem typesTokens_eq (p : Plan) : typesTokens p = p.tokensIn .types := by
  simp [typesTokens, Plan.tokensIn, Plan.carriedIn, CarriedDeclaration.tokens,
    CarriedDeclaration.ofType, CarriedDeclaration.ofInterface, CarriedDeclaration.ofText,
    List.flatMap_map]

theorem errorsTokens_eq (p : Plan) : errorsTokens p = p.tokensIn .errors := by
  simp [errorsTokens, Plan.tokensIn, Plan.carriedIn, CarriedDeclaration.tokens,
    CarriedDeclaration.ofError, CarriedDeclaration.ofText, List.flatMap_map]

theorem constantsTokens_eq (p : Plan) : constantsTokens p = p.tokensIn .constants := by
  simp [constantsTokens, Plan.tokensIn, Plan.carriedIn, CarriedDeclaration.tokens,
    CarriedDeclaration.ofConstant, List.flatMap_map]

theorem utilsTokens_eq (p : Plan) : utilsTokens p = p.tokensIn .utils := by
  show (if p.carriesCode then _ else []) = List.flatMap _ (if p.carriesCode then _ else [])
  split
  · simp [CarriedDeclaration.tokens, CarriedDeclaration.ofVariable, CarriedDeclaration.ofFunction,
      CarriedDeclaration.ofClass, CarriedDeclaration.ofText, List.flatMap_map]
  · rfl

end Draft

namespace CarriedDeclaration

theorem standsIn_exportedCode {name text : String} (h : name ∈ Naming.identifiers text) :
    Code.StandsIn name (Draft.exportedCode text) := by
  have htrim := Naming.standsIn_trim h
  simp only [Draft.exportedCode]
  split
  · exact htrim
  · have hbefore : Code.StartsWord "export ".toList :=
      (by decide : (!Naming.continuesIdentifier ' ') = true)
    have hafter : Code.EndsWord "".toList := rfl
    simpa using htrim.append hbefore hafter

theorem standsIn_ofText {declared text name : String} {use : Use}
    (h : name ∈ (ofText declared use text).tokens) :
    Code.StandsIn name (ofText declared use text).code := by
  simp only [tokens, ofText, List.flatMap_singleton] at h ⊢
  exact standsIn_exportedCode h

theorem standsIn_ofVariable {v : VariableDeclaration} {name : String}
    (h : name ∈ (ofVariable v).tokens) : Code.StandsIn name (ofVariable v).code := by
  have hname : name ∈ Naming.identifiers v.sourceText := by simpa [tokens, ofVariable] using h
  simp only [ofVariable]
  split
  · exact standsIn_exportedCode hname
  · exact Naming.standsIn_trim hname

theorem standsIn_ofConstant {c : ConstantDeclaration} {name : String}
    (h : name ∈ (ofConstant c).tokens) : Code.StandsIn name (ofConstant c).code := by
  have hblank : Naming.continuesIdentifier ' ' = false := by decide
  have hafter (more : String) : Code.EndsWord (" = " ++ more).toList := by
    simp [Code.EndsWord, hblank]
  have hbefore (before : String) : Code.StartsWord (before ++ " ").toList := by
    simp [Code.StartsWord, hblank]
  obtain ⟨text, htext, h⟩ := List.mem_flatMap.1 h
  have hstands := (Naming.mem_identifiers_iff.1 h).2.2
  rcases List.mem_append.1 htext with hmem | hmem
  · -- the type stands between a colon and the sign of equality
    have htype : c.typeText = some text := by simpa using hmem
    have hcode := hstands.append (hbefore ("export const " ++ c.name ++ ":"))
      (hafter (c.value ++ ";"))
    simpa [ofConstant, typeSuffix, htype, String.append_assoc] using hcode
  · obtain rfl := List.mem_singleton.1 hmem
    have hend : Code.EndsWord ";".toList :=
      (by decide : (!Naming.continuesIdentifier ';') = true)
    have hcode := hstands.append
      (hbefore ("export const " ++ c.name ++ typeSuffix c.typeText ++ " =")) hend
    simpa [ofConstant, String.append_assoc] using hcode

end CarriedDeclaration

namespace Plan

open CarriedDeclaration

variable {p : Plan} {k : FileKind} {d : CarriedDeclaration} {name : String}

theorem mem_tokensIn_iff : name ∈ p.tokensIn k ↔ ∃ d ∈ p.carriedIn k, name ∈ d.tokens :=
  List.mem_flatMap

theorem Carries.standsIn_code (hd : p.Carries k d) (h : name ∈ d.tokens) :
    Code.StandsIn name d.code := by
  cases hd with
  | type _ =>
    simp only [ofType] at h ⊢
    exact standsIn_ofText h
  | interface _ =>
    simp only [ofInterface] at h ⊢
    exact standsIn_ofText h
  | error _ =>
    simp only [ofError] at h ⊢
    exact standsIn_ofText h
  | constant _ => exact standsIn_ofConstant h
  | state _ _ => exact standsIn_ofVariable h
  | function _ _ =>
    simp only [ofFunction] at h ⊢
    exact standsIn_ofText h
  | plainClass _ _ =>
    simp only [ofClass] at h ⊢
    exact standsIn_ofText h

/-! ### Names of what is carried -/

def placed (p : Plan) : List (FileKind × CarriedDeclaration) :=
  FileKind.all.flatMap fun k => (p.carriedIn k).map fun d => (k, d)

theorem mem_placed_iff : (k, d) ∈ p.placed ↔ p.Carries k d := by
  simp only [placed, List.mem_flatMap, List.mem_map, Prod.mk.injEq]
  constructor
  · rintro ⟨k, -, d, hd, rfl, rfl⟩
    exact mem_carriedIn_iff.1 hd
  · intro hd
    exact ⟨k, FileKind.mem_all k, d, mem_carriedIn_iff.2 hd, rfl, rfl⟩

theorem map_name_placed_sublist (p : Plan) :
    (p.placed.map fun place => place.2.name).Sublist p.preserved.names := by
  have hname : (fun t => (ofType t).name) = TypeDeclaration.name ∧
      (fun i => (ofInterface i).name) = InterfaceDeclaration.name ∧
      (fun e => (ofError e).name) = ErrorClass.name ∧
      (fun c => (ofConstant c).name) = ConstantDeclaration.name ∧
      (fun v => (ofVariable v).name) = VariableDeclaration.name ∧
      (fun f => (ofFunction f).name) = FunctionDeclaration.name ∧
      (fun c => (ofClass c).name) = ClassDeclaration.name := ⟨rfl, rfl, rfl, rfl, rfl, rfl, rfl⟩
  simp only [placed, FileKind.all, List.flatMap_cons, List.flatMap_nil, List.map_append,
    List.map_map, carriedIn, Function.comp_def, hname, Preserved.names, List.append_assoc, List.map_nil,
    List.append_nil]
  split
  · simp [Function.comp_def, hname]
  · simp

/-- Names of the sources that are distinct, and apart from those of the capsule's own. -/
structure IsApart (p : Plan) : Prop where
  nodup : p.preserved.names.Nodup
  notMem_reserved : ∀ name ∈ p.preserved.names, name ∉ reservedNames p.className p.errorKinds

theorem isApart_ofCapsule (c : ParsedCapsule) (mode : Mode) (time : Timestamp) :
    (ofCapsule c mode time).IsApart where
  nodup := Preserved.nodup_names _ _
  notMem_reserved _ hname := Preserved.notMem_reserved hname

theorem Carries.mem_names (hd : p.Carries k d) : d.name ∈ p.preserved.names :=
  p.map_name_placed_sublist.subset (List.mem_map.2 ⟨(k, d), mem_placed_iff.2 hd, rfl⟩)

/-- A name is carried once and in one file. -/
theorem IsApart.eq_of_name_eq (h : p.IsApart) {k' : FileKind} {d' : CarriedDeclaration}
    (hd : p.Carries k d) (hd' : p.Carries k' d') (hname : d.name = d'.name) : k = k' ∧ d = d' := by
  have hnodup := h.nodup.sublist p.map_name_placed_sublist
  have hplace : (k, d) = (k', d') :=
    List.inj_on_of_nodup_map hnodup (mem_placed_iff.2 hd) (mem_placed_iff.2 hd') hname
  exact Prod.mk.inj hplace

end Plan
end ServiceCapsule
