import ServiceCapsule.Proofs.Package.Formatted
import ServiceCapsule.Proofs.Package.Sections
import ServiceCapsule.Proofs.Package.Words

/-!
# Names that generated files export

A text exports a name if a line of it starts with the keyword for exports and code that declares the
name. Generated files export what they declare of their own, the list of adapters apart, and all of
these names are reserved; they export the code of the sources under the names that it declares.
-/

namespace ServiceCapsule

/-! ### Code that declares a name -/

namespace Code

open Naming (continuesIdentifier)

/-- What can stand between two words of code: other characters, and comments. -/
inductive IsGap : List Char → Prop where
  | single {c : Char} (h : continuesIdentifier c = false) : IsGap [c]
  | lineComment {text : List Char} (h : '\n' ∉ text) : IsGap ("//".toList ++ text ++ ['\n'])
  | blockComment {text : List Char} (h : ¬ "*/".toList <:+: text) :
      IsGap ("/*".toList ++ text ++ "*/".toList)
  | append {a b : List Char} (ha : IsGap a) (hb : IsGap b) : IsGap (a ++ b)

def keywords : List String :=
  ["type", "interface", "enum", "class", "function", "const", "let", "var"]

def modifiers : List String := ["async", "abstract", "const", "declare"]

/-- Code that starts with the declaration of a name. -/
inductive Declares : List Char → String → Prop where
  | keyword {word name : String} {gap rest : List Char} (hword : word ∈ keywords)
      (hgap : IsGap gap) (hrest : EndsWord rest) :
      Declares (word.toList ++ (gap ++ (name.toList ++ rest))) name
  | modifier {word name : String} {gap code : List Char} (hword : word ∈ modifiers)
      (hgap : IsGap gap) (hcode : Declares code name) :
      Declares (word.toList ++ (gap ++ code)) name
  | decorator {name : String} {gap code : List Char} (text : List Char) (hgap : IsGap gap)
      (hcode : Declares code name) : Declares ('@' :: text ++ (gap ++ code)) name

/-- Texts whose first character ends a word. -/
inductive StartsWithSign : String → Prop where
  | ofList {c : Char} {cs : List Char} (hc : continuesIdentifier c = false) :
      StartsWithSign (String.ofList (c :: cs))
  | append {s t : String} (h : StartsWithSign s) : StartsWithSign (s ++ t)
  | empty {t : String} (h : StartsWithSign t) : StartsWithSign ("" ++ t)

theorem StartsWithSign.exists_cons {s : String} (h : StartsWithSign s) :
    ∃ c cs, s.toList = c :: cs ∧ continuesIdentifier c = false := by
  induction h with
  | ofList hc => exact ⟨_, _, String.toList_ofList, hc⟩
  | @append s t _ ih =>
    obtain ⟨c, cs, hs, hc⟩ := ih
    exact ⟨c, cs ++ t.toList, by rw [String.toList_append, hs, List.cons_append], hc⟩
  | empty _ ih => simpa using ih

theorem StartsWithSign.endsWord {s : String} (h : StartsWithSign s) : EndsWord s.toList := by
  obtain ⟨c, cs, hs, hc⟩ := h.exists_cons
  simp [EndsWord, hs, hc]

theorem isGap_blank : IsGap [' '] := .single (by decide)

theorem Declares.append_newline {code : List Char} {name : String} (h : Declares code name)
    (more : List Char) : Declares (code ++ '\n' :: more) name := by
  induction h with
  | @keyword word name gap rest hword hgap hrest =>
    have hnewline : EndsWord ('\n' :: more) := (by decide : (!continuesIdentifier '\n') = true)
    have hmore : EndsWord (rest ++ '\n' :: more) := hrest.append hnewline
    simpa only [List.append_assoc] using Declares.keyword hword hgap hmore
  | modifier hword hgap _ ih => simpa only [List.append_assoc] using Declares.modifier hword hgap ih
  | decorator text hgap _ ih =>
    simpa only [List.append_assoc, List.cons_append] using Declares.decorator text hgap ih

theorem Declares.not_prefix {code : List Char} {name : String} (h : Declares code name) :
    "export ".toList.isPrefixOf code = false := by
  cases h with
  | keyword hword _ _ =>
    simp only [keywords, List.mem_cons, List.not_mem_nil, or_false] at hword
    rcases hword with rfl | rfl | rfl | rfl | rfl | rfl | rfl | rfl <;> rfl
  | modifier hword _ _ =>
    simp only [modifiers, List.mem_cons, List.not_mem_nil, or_false] at hword
    rcases hword with rfl | rfl | rfl | rfl <;> rfl
  | decorator _ _ _ => rfl

/-- Whether a line of a text exports a name. -/
def Exports (text name : String) : Prop :=
  ∃ before code, text.toList = before ++ ("export ".toList ++ code) ∧
    (before = [] ∨ before.getLast? = some '\n') ∧ Declares code name

end Code

namespace Draft

open Code Text

theorem exports_of_line {d : Draft} {line name : String} {code : List Char} (hline : line ∈ d.lines)
    (hcode : line.toList = "export ".toList ++ code) (h : Declares code name) :
    Exports (text d) name := by
  obtain ⟨above, below, hlines⟩ := List.append_of_mem hline
  refine ⟨joined (above.map String.toList), code ++ '\n' :: joined (below.map String.toList), ?_,
    ?_, h.append_newline _⟩
  · rw [toList_text, hlines]
    simp [hcode]
  · rcases List.eq_nil_or_concat above with rfl | ⟨first, last, rfl⟩
    · exact .inl rfl
    · right
      simp [joined]

theorem mem_lines {d : Draft} {item : Item} (hitem : item ∈ d) {line : String}
    (hline : line ∈ item.lines) : line ∈ d.lines :=
  List.mem_flatMap.2 ⟨item, hitem, hline⟩

end Draft

/-! ### What files export of their own -/

namespace Item

def exported : Item → List String
  | declaration true _ name _ => [name]
  | _ => []

def ownKeywords : List String :=
  ["type", "interface", "enum", "class", "function", "const", "async function"]

/-- Whether the name of a declaration stands between a keyword and the end of the word. -/
def IsSound : Item → Prop
  | declaration _ keyword _ rest =>
    keyword ∈ ownKeywords ∧ ∃ first more, rest = first :: more ∧ Code.EndsWord first.toList
  | _ => True

theorem isSound_gap : gap.IsSound := trivial

theorem isSound_comment (lines : List String) : (comment lines).IsSound := trivial

theorem isSound_plain (lines : List String) : (plain lines).IsSound := trivial

theorem isSound_declaration {isExported : Bool} {keyword name first : String} {rest : List String}
    (hkeyword : keyword ∈ ownKeywords) (hrest : rest.head? = some first)
    (hfirst : Code.StartsWithSign first) :
    (declaration isExported keyword name rest).IsSound := by
  cases rest with
  | nil => simp at hrest
  | cons line more =>
    obtain rfl := Option.some.inj hrest
    exact ⟨hkeyword, line, more, rfl, hfirst.endsWord⟩

theorem IsSound.declares {isExported : Bool} {keyword name : String} {rest : List String}
    (h : (declaration isExported keyword name rest).IsSound) :
    ∃ code line, line ∈ (declaration isExported keyword name rest).lines ∧
      line.toList = (if isExported then "export ".toList else []) ++ code ∧
      Code.Declares code name := by
  obtain ⟨hkeyword, first, more, rfl, hfirst⟩ := h
  refine ⟨keyword.toList ++ ([' '] ++ (name.toList ++ first.toList)), _, List.mem_cons_self, ?_, ?_⟩
  · cases isExported <;> simp
  · simp only [ownKeywords, List.mem_cons, List.not_mem_nil, or_false] at hkeyword
    rcases hkeyword with rfl | rfl | rfl | rfl | rfl | rfl | rfl
    case inr.inr.inr.inr.inr.inr =>
      have hfunction : Code.Declares
          ("function".toList ++ ([' '] ++ (name.toList ++ first.toList))) name :=
        .keyword (by decide) Code.isGap_blank hfirst
      show Code.Declares ("async".toList ++ ([' '] ++
        ("function".toList ++ ([' '] ++ (name.toList ++ first.toList))))) name
      exact .modifier (by decide) Code.isGap_blank hfunction
    all_goals exact .keyword (by decide) Code.isGap_blank hfirst

end Item

namespace Draft

def exported (d : Draft) : List String := d.flatMap Item.exported

variable {p : Plan}

theorem mem_exported {d : Draft} {name : String} (h : name ∈ exported d) :
    ∃ keyword rest, .declaration true keyword name rest ∈ d := by
  obtain ⟨item, hitem, h⟩ := List.mem_flatMap.1 h
  cases item with
  | declaration isExported keyword other rest =>
    cases isExported with
    | false => simp [Item.exported] at h
    | true =>
      obtain rfl : name = other := List.mem_singleton.1 h
      exact ⟨keyword, rest, hitem⟩
  | _ => simp [Item.exported] at h

theorem exported_sections (k : FileKind) : exported (sections p k) = exported (own p k) := by
  refine flatMap_sections p k .own (by decide) fun item hitem => ?_
  cases item with
  | declaration _ _ _ _ => exact absurd rfl hitem
  | _ => rfl

/-! Keywords of own declarations are known, and their names end in front of a sign. -/

section

open Item Code.StartsWithSign

theorem isSound_sharedTypes : ∀ item ∈ sharedTypes p, item.IsSound := by
  simp only [sharedTypes, List.forall_mem_cons, isSound_gap, isSound_comment, true_and]
  exact ⟨isSound_declaration (by decide) rfl (ofList (by decide)),
    isSound_declaration (by decide) rfl (ofList (by decide)),
    isSound_declaration (by decide) rfl (empty (ofList (by decide))),
    isSound_declaration (by decide) rfl (append (ofList (by decide))),
    isSound_declaration (by decide) rfl (empty (ofList (by decide))),
    isSound_declaration (by decide) rfl (empty (ofList (by decide))), by simp⟩

theorem isSound_sharedErrors : ∀ item ∈ sharedErrors p, item.IsSound := by
  simp only [sharedErrors, codeEnumeration, baseErrorClass, kindClass, errorFunctions,
    List.forall_mem_append, List.forall_mem_flatMap, List.forall_mem_cons, isSound_gap,
    isSound_comment, true_and]
  refine ⟨⟨⟨⟨?_, ?_, by simp⟩, ?_, by simp⟩, fun kind _ => ⟨?_, by simp⟩⟩, ?_, ?_, by simp⟩
  · exact isSound_declaration (by decide) rfl (empty (ofList (by decide)))
  · exact isSound_declaration (by decide) rfl (ofList (by decide))
  · exact isSound_declaration (by decide) rfl (append (ofList (by decide)))
  · exact isSound_declaration (by decide) rfl (append (append (ofList (by decide))))
  · exact isSound_declaration (by decide) rfl (append (append (ofList (by decide))))
  · exact isSound_declaration (by decide) rfl (append (append (ofList (by decide))))

theorem isSound_sharedConstants : ∀ item ∈ sharedConstants p, item.IsSound := by
  have hown (name value : String) :
      (Item.declaration true "const" name [" = " ++ value ++ ";"]).IsSound :=
    isSound_declaration (by decide) rfl (append (append (ofList (by decide))))
  simp only [sharedConstants, List.forall_mem_cons, isSound_gap, hown, true_and]
  exact ⟨isSound_declaration (by decide) rfl (append (append (ofList (by decide)))),
    isSound_declaration (by decide) rfl (append (ofList (by decide))), by simp⟩

theorem isSound_helpers : ∀ item ∈ helpers, item.IsSound := by
  simp only [helpers, sleepHelper, timeoutHelper, retryHelper, plainObjectHelper, mergeHelper,
    durationHelper, List.forall_mem_cons, isSound_gap, isSound_comment, true_and]
  exact ⟨isSound_declaration (by decide) rfl (append (ofList (by decide))),
    isSound_declaration (by decide) rfl (append (ofList (by decide))),
    isSound_declaration (by decide) rfl (ofList (by decide)),
    isSound_declaration (by decide) rfl (append (ofList (by decide))),
    isSound_declaration (by decide) rfl (append (ofList (by decide))),
    isSound_declaration (by decide) rfl (append (ofList (by decide))), by simp⟩

theorem isSound_adapters : ∀ item ∈ own p .adapters, item.IsSound := by
  show ∀ item ∈ (if p.isMultiPlatform then _ else _), _
  split
  · simp only [multiPlatform, adapterInterface, adapter, adapterSelection, List.forall_mem_append,
      List.forall_mem_flatMap, List.forall_mem_cons, isSound_gap, isSound_comment, true_and]
    refine ⟨⟨⟨?_, ?_, by simp⟩, fun platform _ => ⟨?_, by simp⟩⟩, ?_, ?_, ?_, ?_, by simp⟩
    · exact isSound_declaration (by decide) rfl (ofList (by decide))
    · exact isSound_declaration (by decide) rfl (empty (ofList (by decide)))
    · exact isSound_declaration (by decide) rfl (append (ofList (by decide)))
    · exact isSound_declaration (by decide) rfl (ofList (by decide))
    · exact isSound_declaration (by decide) rfl (append (ofList (by decide)))
    · exact isSound_declaration (by decide) rfl (append (ofList (by decide)))
    · exact isSound_declaration (by decide) rfl (append (ofList (by decide)))
  · simp only [singlePlatform, List.forall_mem_cons, isSound_gap, isSound_comment, true_and]
    exact ⟨isSound_declaration (by decide) rfl (append (append (ofList (by decide)))),
      isSound_declaration (by decide) rfl (append (ofList (by decide))),
      isSound_declaration (by decide) rfl (append (ofList (by decide))),
      isSound_declaration (by decide) rfl (append (ofList (by decide))),
      isSound_declaration (by decide) rfl (append (ofList (by decide))), by simp⟩

theorem isSound_index : ∀ item ∈ own p .index, item.IsSound := by
  simp only [own, metadataConstant, factories, List.forall_mem_append, List.forall_mem_cons,
    isSound_gap, isSound_comment, isSound_plain, true_and]
  refine ⟨⟨⟨?_, by simp⟩, ?_, ?_, by simp⟩, by simp⟩
  · exact isSound_declaration (by decide) rfl (append (ofList (by decide)))
  · exact isSound_declaration (by decide) rfl
      (append (append (append (append (ofList (by decide))))))
  · exact isSound_declaration (by decide) rfl
      (append (append (append (append (append (ofList (by decide)))))))

theorem isSound_own (k : FileKind) : ∀ item ∈ own p k, item.IsSound := by
  cases k with
  | types => exact isSound_sharedTypes
  | errors => exact isSound_sharedErrors
  | constants => exact isSound_sharedConstants
  | utils => exact isSound_helpers
  | adapters => exact isSound_adapters
  | service =>
    simp only [own, serviceClass, List.forall_mem_cons, isSound_comment, true_and]
    exact ⟨isSound_declaration (by decide) rfl (empty (ofList (by decide))), by simp⟩
  | index => exact isSound_index
  | readme => simp [own]

end

/-- The text of a file exports what the file exports of its own. -/
theorem exports_of_mem_exported {k : FileKind} {name : String}
    (h : name ∈ exported (sections p k)) : Code.Exports (text (sections p k)) name := by
  obtain ⟨keyword, rest, hitem⟩ := mem_exported h
  have hown : Item.declaration true keyword name rest ∈ own p k :=
    (mem_sections_iff (by simp [Item.part])).1 hitem
  obtain ⟨code, line, hline, hcode, hname⟩ := (isSound_own k _ hown).declares
  exact exports_of_line (mem_lines hitem hline) hcode hname

end Draft

namespace Plan

/-- The names that the files of a plan export of their own. -/
def exportsIn (p : Plan) : FileKind → List String
  | .adapters =>
    if p.isMultiPlatform then
      ["LogLevel", "PlatformAdapter"] ++
        (Platform.selectionOrder p.metadata.platforms).map Platform.adapterClass ++
        ["selectAdapter", "detectPlatform", "getCapabilities"]
    else ["PLATFORM", "CAPABILITIES", "isPlatformSupported", "detectPlatform", "getCapabilities"]
  | k => p.namesIn k

variable {p : Plan}

theorem exported_adapters (p : Plan) :
    Draft.exported (Draft.own p .adapters) = p.exportsIn .adapters := by
  show Draft.exported (if p.isMultiPlatform then _ else _) = if p.isMultiPlatform then _ else _
  split
  · simp [Draft.exported, Draft.multiPlatform, Draft.adapterInterface, Draft.adapter,
      Draft.adapterSelection, Item.exported, List.flatMap_assoc, List.map_eq_flatMap]
  · rfl

theorem exported_own (p : Plan) (k : FileKind) :
    Draft.exported (Draft.own p k) = p.exportsIn k := by
  cases k with
  | errors =>
    simp [Draft.exported, Draft.own, Draft.sharedErrors, Draft.codeEnumeration,
      Draft.baseErrorClass, Draft.kindClass, Draft.errorFunctions, Item.exported, exportsIn,
      namesIn, List.flatMap_assoc, List.map_eq_flatMap]
  | adapters => exact exported_adapters p
  | _ => rfl

theorem exportsIn_adapters_subset : p.exportsIn .adapters ⊆ fixedNames := by
  show (if p.isMultiPlatform then _ else _) ⊆ fixedNames
  split
  · refine List.append_subset.2 ⟨List.append_subset.2 ⟨by simp [fixedNames], ?_⟩,
      by simp [fixedNames]⟩
    intro name hname
    obtain ⟨platform, -, rfl⟩ := List.mem_map.1 hname
    cases platform <;> simp [Platform.adapterClass, fixedNames]
  · simp [fixedNames]

/-- All names that files export of their own are reserved. -/
theorem exportsIn_subset (p : Plan) (k : FileKind) :
    p.exportsIn k ⊆ reservedNames p.className p.errorKinds := by
  have hfixed {names : List String} (h : names ⊆ fixedNames) :
      names ⊆ reservedNames p.className p.errorKinds :=
    fun name hname => List.mem_append_left _ (List.mem_append_left _ (h hname))
  have hderived {names : List String} (h : names ⊆ derivedNames p.className) :
      names ⊆ reservedNames p.className p.errorKinds :=
    fun name hname => List.mem_append_right _ (h hname)
  cases k with
  | types =>
    have hconfig : [p.configName] ⊆ derivedNames p.className := by
      simp [derivedNames, configName]
    have hstart : ["Platform", "ServiceState"] ⊆ fixedNames := by simp [fixedNames]
    exact List.append_subset.2 ⟨hfixed hstart,
      List.append_subset.2 ⟨hderived hconfig, hfixed (by simp [fixedNames])⟩⟩
  | errors =>
    have hbase : [p.baseErrorName] ⊆ derivedNames p.className := by
      simp [derivedNames, baseErrorName]
    have hfunctions : ["is" ++ p.baseErrorName, "to" ++ p.baseErrorName] ⊆
        derivedNames p.className := by
      simp [derivedNames, baseErrorName, String.append_assoc]
    have hstart : ["ErrorCode", "ErrorContext"] ⊆ fixedNames := by simp [fixedNames]
    refine List.append_subset.2 ⟨List.append_subset.2 ⟨List.append_subset.2
      ⟨hfixed hstart, hderived hbase⟩, ?_⟩, hderived hfunctions⟩
    exact fun name hname => List.mem_append_left _ (List.mem_append_right _ hname)
  | constants => exact hfixed (by simp [constantNames, fixedNames] : constantNames ⊆ fixedNames)
  | utils => exact hfixed (by simp [helperNames, fixedNames] : helperNames ⊆ fixedNames)
  | adapters => exact hfixed exportsIn_adapters_subset
  | service => exact hderived (by simp [exportsIn, namesIn, derivedNames, serviceName])
  | index =>
    have hfactories : ["create" ++ p.className, "create" ++ p.className ++ "AndInitialize"] ⊆
        derivedNames p.className := by
      simp [derivedNames]
    exact List.append_subset.2 ⟨hfixed (by simp [fixedNames] : ["CAPSULE_METADATA"] ⊆ fixedNames),
      hderived hfactories⟩
  | readme => exact List.nil_subset _

end Plan
end ServiceCapsule
