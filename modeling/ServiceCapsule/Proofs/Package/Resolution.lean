import ServiceCapsule.Proofs.Package.Siblings

/-!
# Imports that resolve

Every name that a file imports from another file of the capsule is exported by the text of that
file, if the sources declare what was read off them. Files that carry code import a name once, from
another file, and only if the name stands in their code or they always need it.
-/

namespace ServiceCapsule

/-- Whether the text of each declaration declares the name that was read off it. Constants are
written anew under their names, and no file imports module state. -/
structure Analysis.DeclaresNames (a : Analysis) : Prop where
  types : ∀ t ∈ a.types, Code.Declares (Text.trim t.sourceText).toList t.name
  interfaces : ∀ i ∈ a.interfaces, Code.Declares (Text.trim i.sourceText).toList i.name
  errors : ∀ e ∈ a.errors, Code.Declares (Text.trim e.sourceText).toList e.name
  functions : ∀ f ∈ a.functions, Code.Declares (Text.trim f.sourceText).toList f.name
  classes : ∀ c ∈ a.classes, Code.Declares (Text.trim c.sourceText).toList c.name

/-! ### Exports of carried code -/

namespace CarriedDeclaration

def IsExported (d : CarriedDeclaration) : Prop :=
  ∃ code, d.code.toList = "export ".toList ++ code ∧ Code.Declares code d.name

theorem isExported_ofText {name text : String} (use : Use)
    (h : Code.Declares (Text.trim text).toList name) : (ofText name use text).IsExported := by
  have hcode : Draft.exportedCode text = "export " ++ Text.trim text := by
    rw [Draft.exportedCode, if_neg]
    rw [Text.startsWith, h.not_prefix]
    exact Bool.false_ne_true
  refine ⟨(Text.trim text).toList, ?_, h⟩
  rw [ofText, hcode, String.toList_append]

theorem isExported_ofConstant (c : ConstantDeclaration) : (ofConstant c).IsExported := by
  have hsigns : Naming.continuesIdentifier ' ' = false ∧
      Naming.continuesIdentifier ':' = false := by decide
  have hrest : Code.EndsWord (typeSuffix c.typeText ++ " = " ++ c.value ++ ";").toList := by
    cases h : c.typeText <;> simp [typeSuffix, Code.EndsWord, hsigns]
  refine ⟨_, ?_, .keyword (by decide : "const" ∈ Code.keywords) Code.isGap_blank hrest⟩
  simp [ofConstant]

end CarriedDeclaration

namespace Plan

variable {p : Plan} {k : FileKind} {d : CarriedDeclaration}

theorem Carries.isExported {a : Analysis} (hd : p.Carries k d) (huse : d.use ≠ .state)
    (horder : p.preserved.KeepsOrder a) (h : a.DeclaresNames) : d.IsExported := by
  cases hd with
  | type ht => exact CarriedDeclaration.isExported_ofText _ (h.types _ (horder.types.subset ht))
  | interface hi =>
    exact CarriedDeclaration.isExported_ofText _ (h.interfaces _ (horder.interfaces.subset hi))
  | error he => exact CarriedDeclaration.isExported_ofText _ (h.errors _ (horder.errors.subset he))
  | constant _ => exact CarriedDeclaration.isExported_ofConstant _
  | state _ _ => exact absurd rfl huse
  | function _ hf =>
    exact CarriedDeclaration.isExported_ofText _ (h.functions _ (horder.functions.subset hf))
  | plainClass _ hc =>
    exact CarriedDeclaration.isExported_ofText _ (h.classes _ (horder.classes.subset hc))

end Plan

namespace Draft

variable {p : Plan} {k owner : FileKind} {name : String} {d : CarriedDeclaration}

theorem mem_sections_of_carries (hd : p.Carries k d) :
    ∃ docs, .carried d.name docs d.code ∈ sections p k := by
  apply mem_of_mem_carriedOver
  rw [carriedOver_sections]
  exact List.mem_map.2 ⟨d, Plan.mem_carriedIn_iff.2 hd, rfl⟩

theorem exports_of_carries (hd : p.Carries k d) (hexported : d.IsExported) :
    Code.Exports (text (sections p k)) d.name := by
  obtain ⟨docs, hitem⟩ := mem_sections_of_carries hd
  obtain ⟨code, hcode, hname⟩ := hexported
  have hline : d.code ∈ (Item.carried d.name docs d.code).lines :=
    List.mem_append_right _ List.mem_cons_self
  exact exports_of_line (mem_lines hitem hline) hcode hname

theorem exports_of_mem_exportsIn (h : name ∈ p.exportsIn k) :
    Code.Exports (text (sections p k)) name := by
  apply exports_of_mem_exported
  rwa [exported_sections, Plan.exported_own]

/-! ### Where imported names come from -/

theorem imported_eq_nil {d : Draft} {part : Part} (h : IsOf part d) (hpart : part ≠ .imports) :
    imported d = [] := by
  rw [imported, List.flatMap_eq_nil_iff]
  intro item hitem
  cases item with
  | sibling _ _ _ => exact absurd (part_of_mem h hitem Part.noConfusion).symm hpart
  | _ => rfl

theorem imported_carrier (hk : k ∈ FileKind.carriers) :
    imported (sections p k) = imported (siblings k (p.wantedIn k)) := by
  obtain ⟨ending, hending, himports⟩ := imports_eq (p := p) hk
  have hexternals : imported (externals p (p.tokensIn k)) = [] := by
    simp [imported, externals, Item.imported, List.flatMap_map]
  rw [imported_sections, himports, imported_append, imported_append, hexternals,
    imported_eq_nil hending (by decide), List.nil_append, List.append_nil]

theorem imported_serviceImports (p : Plan) : imported (serviceImports p) =
    [(.types, p.configName), (.types, "OperationResult"), (.types, "PlatformCapabilities"),
      (.types, "ServiceState"), (.errors, p.baseErrorName),
      (.errors, ErrorKind.execution.className), (.errors, ErrorKind.initialization.className),
      (.errors, "to" ++ p.baseErrorName), (.constants, "DEFAULT_CONFIG")] ++
    if p.isMultiPlatform then [(.adapters, "selectAdapter"), (.adapters, "PlatformAdapter")]
    else [(.adapters, "getCapabilities")] := by
  unfold serviceImports
  split <;> rfl

theorem mem_exportsIn_of_imported (hk : k ∉ FileKind.carriers)
    (h : (owner, name) ∈ imported (sections p k)) : name ∈ p.exportsIn owner := by
  rw [imported_sections] at h
  cases k with
  | types | errors | constants | utils => simp [FileKind.carriers] at hk
  | adapters =>
    have himports : imported (imports p .adapters) =
        [(.types, "Platform"), (.types, "PlatformCapabilities")] := rfl
    simp only [himports, List.mem_cons, List.not_mem_nil, or_false, Prod.mk.injEq] at h
    rcases h with ⟨rfl, rfl⟩ | ⟨rfl, rfl⟩ <;> simp [Plan.exportsIn, Plan.namesIn]
  | service =>
    have hkind {kind : ErrorKind} (h : kind ∈ ErrorKind.base) :
        kind.className ∈ p.exportsIn .errors :=
      Plan.className_mem_exportsIn (Plan.base_subset_errorKinds h)
    rw [imports, imported_serviceImports, List.mem_append] at h
    rcases h with h | h
    · simp only [List.mem_cons, List.not_mem_nil, or_false, Prod.mk.injEq] at h
      rcases h with ⟨rfl, rfl⟩ | ⟨rfl, rfl⟩ | ⟨rfl, rfl⟩ | ⟨rfl, rfl⟩ | ⟨rfl, rfl⟩ | ⟨rfl, rfl⟩ |
        ⟨rfl, rfl⟩ | ⟨rfl, rfl⟩ | ⟨rfl, rfl⟩
      case inr.inr.inr.inr.inr.inl => exact hkind (by decide)
      case inr.inr.inr.inr.inr.inr.inl => exact hkind (by decide)
      all_goals simp [Plan.exportsIn, Plan.namesIn, Plan.constantNames]
    · split at h
      · rename_i hmulti
        simp only [List.mem_cons, List.not_mem_nil, or_false, Prod.mk.injEq] at h
        rcases h with ⟨rfl, rfl⟩ | ⟨rfl, rfl⟩ <;> simp [Plan.exportsIn, hmulti]
      · rename_i hsingle
        simp only [List.mem_singleton, Prod.mk.injEq] at h
        obtain ⟨rfl, rfl⟩ := h
        simp [Plan.exportsIn, hsingle]
  | index =>
    have himports : imported (imports p .index) =
        [(.service, p.serviceName), (.types, p.configName), (.types, "Platform")] := rfl
    simp only [himports, List.mem_cons, List.not_mem_nil, or_false, Prod.mk.injEq] at h
    rcases h with ⟨rfl, rfl⟩ | ⟨rfl, rfl⟩ | ⟨rfl, rfl⟩ <;> simp [Plan.exportsIn, Plan.namesIn]
  | readme => simp [imports, imported] at h

/-- Files that carry code import what another file defines or carries. -/
theorem isOwn_or_isCarried_of_imported (hname : Naming.IsCapitalized p.className)
    (hk : k ∈ FileKind.carriers) (h : (owner, name) ∈ imported (sections p k)) :
    ∃ w ∈ p.wantedIn k, w.owner = owner ∧ w.name = name ∧ owner ≠ k ∧
      (p.IsOwn w ∨ p.IsCarried w) := by
  rw [imported_carrier hk, mem_imported_siblings_iff] at h
  obtain ⟨-, howner, w, hw, hfrom, heq⟩ := h
  exact ⟨w, hw, hfrom, heq, howner, Plan.isOwn_or_isCarried hname hw⟩

theorem needed_or_standsIn {w : Importable} (hw : w ∈ p.wantedIn k) :
    w.name ∈ (Plan.neededIn k).map (·.name) ∨ ∃ declared code,
      (declared, code) ∈ carriedOver (sections p k) ∧ Code.StandsIn w.name code := by
  rcases List.mem_append.1 hw with hw | hw
  · right
    have htoken : w.name ∈ p.tokensIn k := by simpa using (List.mem_filter.1 hw).2
    obtain ⟨d, hd, htoken⟩ := Plan.mem_tokensIn_iff.1 htoken
    refine ⟨d.name, d.code, ?_, (Plan.mem_carriedIn_iff.1 hd).standsIn_code htoken⟩
    rw [carriedOver_sections]
    exact List.mem_map.2 ⟨d, hd, rfl⟩
  · exact .inl (List.mem_map_of_mem hw)

end Draft

namespace Plan

/-- A capsule with an enumeration that a constant and a function use. -/
def mailerCapsule : ParsedCapsule :=
  { (default : ParsedCapsule) with
    metadata := { (default : Metadata) with id := "mailer", platforms := [.universal] }
    analysis :=
      { Analysis.empty with
        types := [⟨"Level", true, none, default, true, "", "enum Level \x7b Low, High \x7d"⟩]
        functions := [⟨"bump", true, none, default, [], none, false,
          "function bump(level: Level): Level \x7b return level; \x7d"⟩]
        constants := [⟨"START", true, none, default, some "Level", "Level.Low"⟩] } }

theorem declaresNames_mailerCapsule : mailerCapsule.analysis.DeclaresNames where
  types t ht := by
    obtain rfl := List.mem_singleton.1 ht
    show Code.Declares
      ("enum".toList ++ ([' '] ++ ("Level".toList ++ " \x7b Low, High \x7d".toList))) "Level"
    exact .keyword (by decide) Code.isGap_blank (by rfl)
  interfaces := by simp [mailerCapsule, Analysis.empty]
  errors := by simp [mailerCapsule, Analysis.empty]
  functions f hf := by
    obtain rfl := List.mem_singleton.1 hf
    show Code.Declares ("function".toList ++ ([' '] ++ ("bump".toList ++
      "(level: Level): Level \x7b return level; \x7d".toList))) "bump"
    exact .keyword (by decide) Code.isGap_blank (by rfl)
  classes := by simp [mailerCapsule, Analysis.empty]

theorem imported_mailerCapsule : (.types, "Level") ∈
    Draft.imported (Draft.sections (ofCapsule mailerCapsule .auto default) .utils) := by
  decide

end Plan
end ServiceCapsule
