import ServiceCapsule.Proofs.Capsule.TopLevel
import ServiceCapsule.Proofs.Package.Resolution

/-!
# The surface of a source

A declaration at the top level of a source is exported by the keyword in front of it, or by another
statement of the source that gives its name out. It is captured with a mark, and the mark knows of
the keyword only. So marks say what the source exports exactly where nothing is given out that does
not have the keyword, and module state that is carried over loses its export in all other cases.
-/

namespace ServiceCapsule

/-- A declaration as it was captured: its name, its mark and its place. -/
structure Capture where
  name : String
  exported : Bool
  location : Location
  deriving DecidableEq, Repr

namespace Analysis

def captured (a : Analysis) : List Capture :=
  a.types.map (fun t => ⟨t.name, t.exported, t.location⟩) ++
    a.interfaces.map (fun i => ⟨i.name, i.exported, i.location⟩) ++
    a.classes.map (fun c => ⟨c.name, c.exported, c.location⟩) ++
    a.functions.map (fun f => ⟨f.name, f.exported, f.location⟩) ++
    a.constants.map (fun c => ⟨c.name, c.exported, c.location⟩) ++
    a.vars.map (fun v => ⟨v.name, v.exported, v.location⟩)

theorem captured_eq (a : Analysis) :
    a.captured = a.declared.map fun d => ⟨d.name, d.exported, d.location⟩ := by
  simp only [captured, declared, List.map_append, List.map_map]
  rfl

theorem vars_concat (as : List Analysis) : (concat as).vars = as.flatMap (·.vars) := by
  induction as with
  | nil => rfl
  | cons a as ih => exact congrArg (a.vars ++ ·) ih

end Analysis

namespace Extraction

open TypeScript

/-! ### What is captured -/

def capture (s : Scope) (exported : Bool) (node : Tree) : Capture :=
  ⟨(s.textOf? .name node).getD "", exported, s.location node⟩

/-- A node at the top level that declares a name, and the statement that it stands in. -/
structure TopDeclaration where
  statement : Tree
  node : Tree

namespace TopDeclaration

def all (root : Tree) : List TopDeclaration :=
  root.namedChildren.flatMap fun t => (declaredIn t).map (TopDeclaration.mk t)

/-- Whether a declaration has the keyword for export. -/
def isMarked (d : TopDeclaration) : Bool := d.statement.is .exportStatement

end TopDeclaration

/-- Every declaration is captured once, and its mark is the keyword. -/
theorem captured_ofTree (s : Scope) (root : Tree) : (ofTree s root).captured.Perm
    ((TopDeclaration.all root).map fun d => capture s d.isMarked d.node) := by
  rw [Analysis.captured_eq]
  refine ((declared_ofTree s root).map _).trans (.of_eq ?_)
  -- the node in front of a statement changes its documentation only
  rw [TopDeclaration.all, ← map_snd_withBefore none root.namedChildren, List.flatMap_map,
    List.map_flatMap, List.map_flatMap]
  simp only [List.map_map]
  rfl

/-! ### What a source exports -/

/-- The names that the place of a name binds; a pattern may stand there. -/
inductive Binds (s : Scope) : Tree → String → Prop where
  | name {t : Tree}
      (ht : (t.is .identifier || t.is .typeIdentifier || t.is .shorthandPattern) = true) :
      Binds s t (s.text t)
  | part {t part : Tree} {name : String}
      (ht : (t.is .objectPattern || t.is .arrayPattern || t.is .restPattern) = true)
      (hpart : part ∈ t.children) (h : Binds s part name) : Binds s t name
  | pair {t value : Tree} {name : String} (ht : t.is .pairPattern = true)
      (hvalue : t.inRole? .value = some value) (h : Binds s value name) : Binds s t name
  | withDefault {t left : Tree} {rest : List Tree} {name : String}
      (ht : t.is .assignmentPattern = true) (hleft : t.children = left :: rest)
      (h : Binds s left name) : Binds s t name

/-- A statement gives out a name of its source, in a list or as the default. -/
inductive GivesOut (s : Scope) (t : Tree) : String → Prop where
  | listed {clause specifier : Tree} {name : String} (ht : t.is .exportStatement = true)
      (hsource : t.inRole? .source = none) (hclause : clause ∈ t.children)
      (hkind : clause.is .exportClause = true) (hspecifier : specifier ∈ clause.children)
      (hname : s.textOf? .name specifier = some name) : GivesOut s t name
  | asDefault {value : Tree} (ht : t.is .exportStatement = true)
      (hdefault : t.hasToken "default" = true) (hvalue : t.inRole? .value = some value)
      (hkind : value.is .identifier = true) : GivesOut s t (s.text value)

namespace TopDeclaration

/-- Somewhere in the source a name is given out that the declaration binds. -/
def IsGivenOut (s : Scope) (root : Tree) (d : TopDeclaration) : Prop :=
  ∃ place, d.node.inRole? .name = some place ∧
    ∃ name, Binds s place name ∧ ∃ t ∈ root.namedChildren, GivesOut s t name

/-- The source exports what is declared. -/
def IsExported (s : Scope) (root : Tree) (d : TopDeclaration) : Prop :=
  d.isMarked = true ∨ d.IsGivenOut s root

end TopDeclaration

open Classical in
/-- All marks say what the source exports. -/
def MarksExports (s : Scope) (root : Tree) : Prop :=
  (ofTree s root).captured.Perm
    ((TopDeclaration.all root).map fun d => capture s (decide (d.IsExported s root)) d.node)

/-- Marks say what the source exports exactly where no declaration without the keyword is given
out. -/
theorem marksExports_iff {s : Scope} {root : Tree} : MarksExports s root ↔
    ∀ d ∈ TopDeclaration.all root, d.IsGivenOut s root → d.isMarked = true := by
  classical
  have hmarks := captured_ofTree s root
  constructor
  · intro h d hd hgiven
    -- as many are marked as are exported, and what is marked is exported
    have hcount := (hmarks.symm.trans h).countP_eq Capture.exported
    rw [List.countP_map, List.countP_map, List.countP_eq_length_filter,
      List.countP_eq_length_filter] at hcount
    have hsublist : ((TopDeclaration.all root).filter (·.isMarked)).Sublist
        ((TopDeclaration.all root).filter fun d => decide (d.IsExported s root)) :=
      List.monotone_filter_right _ fun d hd => decide_eq_true (.inl hd)
    have hsame := hsublist.eq_of_length hcount
    have hmem : d ∈ (TopDeclaration.all root).filter fun d => decide (d.IsExported s root) :=
      List.mem_filter.2 ⟨hd, decide_eq_true (.inr hgiven)⟩
    rw [← hsame] at hmem
    exact (List.mem_filter.1 hmem).2
  · intro h
    refine hmarks.trans (.of_eq (List.map_congr_left fun d hd => ?_))
    have hiff : d.IsExported s root ↔ d.isMarked = true := or_iff_left_of_imp (h d hd)
    simp [hiff]

/-! ### Module state -/

/-- The text of module state starts in its keyword and ends in a semicolon. -/
def IsState (text : String) : Prop :=
  ∃ keyword ∈ ["let", "var"], ∃ rest, text = keyword ++ " " ++ rest ++ ";"

section

variable (s : Scope) (exported : Bool) (docs : Option String) {v : VariableDeclaration}

theorem isState_of_bound {keyword : String} (hkeyword : keyword ∈ ["const", "let", "var"])
    {t : Tree} (hv : v ∈ (bound s exported docs keyword t).1.vars) : IsState v.sourceText := by
  unfold bound at hv
  split at hv
  · simp [nothing, Analysis.empty] at hv
  · split at hv
    · simp [nothing, Analysis.empty] at hv
    · split at hv
      · rename_i hconst
        obtain rfl := List.mem_singleton.1 hv
        refine ⟨keyword, ?_, s.text t, rfl⟩
        simpa [show keyword ≠ "const" by simpa using hconst] using hkeyword
      · repeat' split at hv
        all_goals simp [Analysis.empty] at hv

theorem bindingKeyword_mem (t : Tree) : bindingKeyword t ∈ ["const", "let", "var"] := by
  unfold bindingKeyword
  cases h : ["const", "let", "var"].find? t.hasToken with
  | none => decide
  | some keyword => exact List.mem_of_find?_eq_some h

theorem vars_of_others {t : Tree}
    (ht : (t.is .lexicalDeclaration || t.is .variableDeclaration) = false) :
    (declaration s exported docs t).1.vars = [] := by
  simp only [Tree.is, Bool.or_eq_false_iff, beq_eq_false_iff_ne] at ht
  unfold declaration typeAlias interface classDeclaration function
  split
  case h_9 hk => exact absurd hk ht.1
  case h_10 hk => exact absurd hk ht.2
  all_goals
    try split
    all_goals rfl

theorem isState_of_declaration {t : Tree} (hv : v ∈ (declaration s exported docs t).1.vars) :
    IsState v.sourceText := by
  cases hbindings : t.is .lexicalDeclaration || t.is .variableDeclaration with
  | true =>
    rw [declaration_of_bindings s exported docs hbindings] at hv
    have hv : v ∈ (Analysis.concat _).vars := hv
    rw [Analysis.vars_concat, List.flatMap_map, List.flatMap_map] at hv
    obtain ⟨c, -, hc⟩ := List.mem_flatMap.1 hv
    exact isState_of_bound s exported docs (bindingKeyword_mem t) hc
  | false => simp [vars_of_others s exported docs hbindings] at hv

theorem isState_of_statement {before : Option Tree} {t : Tree}
    (hv : v ∈ (statement s before t).vars) : IsState v.sourceText := by
  unfold statement at hv
  split at hv
  · simp [Analysis.empty] at hv
  · unfold exportOf at hv
    cases hinner : t.inRole? .declaration with
    | none =>
      simp only [hinner] at hv
      repeat' split at hv
      all_goals simp [Analysis.empty] at hv
    | some inner =>
      simp only [hinner] at hv
      have hv : v ∈ (declaration s true _ inner).1.vars ++ [] := hv
      rw [List.append_nil] at hv
      exact isState_of_declaration s true _ hv
  · exact isState_of_declaration s false _ hv

theorem isState_of_ofTree {root : Tree} (hv : v ∈ (ofTree s root).vars) :
    IsState v.sourceText := by
  unfold ofTree at hv
  generalize root.namedChildren = ts at hv
  suffices ∀ before, v ∈ (statements s before ts).vars → IsState v.sourceText from this none hv
  clear hv
  induction ts with
  | nil => exact fun _ hv => by simp [statements, Analysis.empty] at hv
  | cons t ts ih =>
    intro before hv
    have hv : v ∈ (statement s before t).vars ++ (statements s (some t) ts).vars := hv
    exact (List.mem_append.1 hv).elim (isState_of_statement s) (ih (some t))

end

theorem IsState.trim {text : String} (h : IsState text) : Text.trim text = text := by
  obtain ⟨keyword, hkeyword, rest, rfl⟩ := h
  have hfirst : ∃ c cs, keyword.toList = c :: cs ∧ Text.isBlank c = false := by
    simp only [List.mem_cons, List.not_mem_nil, or_false] at hkeyword
    rcases hkeyword with rfl | rfl
    · exact ⟨'l', ['e', 't'], rfl, rfl⟩
    · exact ⟨'v', ['a', 'r'], rfl, rfl⟩
  obtain ⟨c, cs, hcs, hc⟩ := hfirst
  have htext : (keyword ++ " " ++ rest ++ ";").toList =
      c :: (cs ++ ' ' :: rest.toList) ++ [';'] := by simp [hcs]
  rw [Text.trim, htext, Text.dropAround, List.cons_append,
    List.dropWhile_cons_of_neg (by simp [hc]), ← List.cons_append,
    Text.dropEndWhile_append_singleton (by decide), ← htext, String.ofList_toList]

theorem IsState.not_exported {text : String} (h : IsState text) :
    Text.startsWith text "export " = false := by
  obtain ⟨keyword, hkeyword, rest, rfl⟩ := h
  simp only [List.mem_cons, List.not_mem_nil, or_false] at hkeyword
  rcases hkeyword with rfl | rfl <;> simp [Text.startsWith, List.isPrefixOf]

end Extraction

theorem CarriedDeclaration.code_ofVariable {v : VariableDeclaration}
    (h : Extraction.IsState v.sourceText) :
    (ofVariable v).code = if v.exported then "export " ++ v.sourceText else v.sourceText := by
  simp [ofVariable, Draft.exportedCode, h.trim, h.not_exported]

namespace ParsedCapsule

open TypeScript Extraction

variable {read : SourceFile → Tree} {root : Path} {sources : List SourceFile}
  {manifest : Option Manifest} {mode : Mode} {time : Timestamp}

theorem vars_ofTrees (read : SourceFile → Tree) (root : Path) (sources : List SourceFile)
    (manifest : Option Manifest) :
    (ofTrees read root sources manifest).analysis.vars =
      sources.flatMap fun source => (ofTree (scopeOf root source) (read source)).vars := by
  show (Analysis.concat _).vars = _
  rw [Analysis.vars_concat, List.flatMap_map, List.flatMap_map]
  rfl

/-- Module state that is carried over was declared in one of the sources, and has its mark. -/
theorem exists_topDeclaration {v : VariableDeclaration}
    (hv : v ∈ (Plan.ofCapsule (ofTrees read root sources manifest) mode time).preserved.vars) :
    ∃ source ∈ sources, v ∈ (ofTree (scopeOf root source) (read source)).vars ∧
      ∃ d ∈ TopDeclaration.all (read source),
        capture (scopeOf root source) d.isMarked d.node = ⟨v.name, v.exported, v.location⟩ := by
  have hkept := (Preserved.keepsOrder_ofAnalysis _ _).vars.subset hv
  rw [vars_ofTrees] at hkept
  obtain ⟨source, hsource, hv⟩ := List.mem_flatMap.1 hkept
  have hcaptured : ⟨v.name, v.exported, v.location⟩ ∈
      (ofTree (scopeOf root source) (read source)).captured :=
    List.mem_append_right _ (List.mem_map_of_mem hv)
  rw [(captured_ofTree _ _).mem_iff] at hcaptured
  obtain ⟨d, hd, hcapture⟩ := List.mem_map.1 hcaptured
  exact ⟨source, hsource, hv, d, hd, hcapture⟩

/-- The marks of a source say what it exports exactly where no declaration without the keyword for
export is given out. It is the same with the module state that a capsule carries over as code: it
stands there as it stood in its source, behind the keyword if it was behind the keyword, and so it
is exported just as it was unless it had no keyword and was given out. -/
theorem exports_followed (read : SourceFile → Tree) (root : Path) (sources : List SourceFile)
    (manifest : Option Manifest) (mode : Mode) (time : Timestamp) :
    (∀ s tree, MarksExports s tree ↔
      ∀ d ∈ TopDeclaration.all tree, d.IsGivenOut s tree → d.isMarked = true) ∧
    let p := Plan.ofCapsule (ofTrees read root sources manifest) mode time
    (mode ≠ .manual → ∀ v ∈ p.preserved.vars, ∃ source ∈ sources,
      ∃ d ∈ TopDeclaration.all (read source), ∃ docs code,
        capture (scopeOf root source) d.isMarked d.node = ⟨v.name, v.exported, v.location⟩ ∧
        code = (if d.isMarked then "export " ++ v.sourceText else v.sourceText) ∧
        .carried v.name docs code ∈ Draft.sections p .utils ∧
        ((Text.startsWith code "export " = true ↔
            d.IsExported (scopeOf root source) (read source)) ↔
          (d.IsGivenOut (scopeOf root source) (read source) → d.isMarked = true))) := by
  refine ⟨fun s tree => marksExports_iff, fun hmode v hv => ?_⟩
  obtain ⟨source, hsource, hfound, d, hd, hcapture⟩ := exists_topDeclaration hv
  have hstate : IsState v.sourceText := isState_of_ofTree _ hfound
  have hmark : v.exported = d.isMarked := (congrArg Capture.exported hcapture).symm
  have hcode := CarriedDeclaration.code_ofVariable hstate
  rw [hmark] at hcode
  have hcarries : (Plan.ofCapsule (ofTrees read root sources manifest) mode time).Carries .utils
      (.ofVariable v) := .state (by simpa [Plan.carriesCode, Plan.ofCapsule] using hmode) hv
  obtain ⟨docs, hitem⟩ := Draft.mem_sections_of_carries hcarries
  have hstarts : Text.startsWith (CarriedDeclaration.ofVariable v).code "export " = d.isMarked := by
    rw [hcode]
    cases d.isMarked with
    | false => exact hstate.not_exported
    | true => simp [Text.startsWith]
  refine ⟨source, hsource, d, hd, docs, _, hcapture, hcode, hitem, ?_⟩
  rw [hstarts, TopDeclaration.IsExported]
  exact ⟨fun hiff hgiven => hiff.2 (.inr hgiven), fun h => ⟨.inl, fun hor => hor.elim id h⟩⟩

section

open Preserved

def hitsSource : SourceFile := ⟨⟨"hits/a.ts"⟩, "let hits = 0; export \x7b hits \x7d;\n"⟩

def hitsName : Tree := leaf (.kind .identifier) (some .name) 4 8

def hitsNode : Tree :=
  .node (.kind .variableDeclarator) none (inFirstLine 4 12)
    [hitsName, leaf (.token "=") none 9 10, leaf (.kind .number) (some .value) 11 12]

def hitsStatement : Tree :=
  .node (.kind .lexicalDeclaration) none (inFirstLine 0 13)
    [leaf (.token "let") none 0 3, hitsNode, leaf (.token ";") none 12 13]

def hitsSpecifier : Tree :=
  .node (.kind .exportSpecifier) none (inFirstLine 23 27)
    [leaf (.kind .identifier) (some .name) 23 27]

def hitsList : Tree :=
  .node (.kind .exportClause) none (inFirstLine 21 29)
    [leaf (.token "\x7b") none 21 22, hitsSpecifier, leaf (.token "\x7d") none 28 29]

def hitsExport : Tree :=
  .node (.kind .exportStatement) none (inFirstLine 14 30)
    [leaf (.token "export") none 14 20, hitsList, leaf (.token ";") none 29 30]

def hitsTree : Tree :=
  .node (.kind .program) none ⟨.start, ⟨31, 1, 0⟩⟩ [hitsStatement, hitsExport]

end

def hitsPlan : Plan :=
  Plan.ofCapsule (ofTrees (fun _ => hitsTree) ⟨"hits"⟩ [hitsSource] none) .auto default

/-- The counter is carried over in the words of its source. -/
theorem exports_followed_hitsPlan :
    Mode.auto ≠ .manual ∧
      ⟨"hits", false, none, ⟨⟨"a.ts"⟩, 1, 5⟩, "let hits = 0;"⟩ ∈ hitsPlan.preserved.vars ∧
      ∃ docs, .carried "hits" docs "let hits = 0;" ∈ Draft.sections hitsPlan .utils := by
  have hmem : ⟨"hits", false, none, ⟨⟨"a.ts"⟩, 1, 5⟩, "let hits = 0;"⟩ ∈
      hitsPlan.preserved.vars := by decide +kernel
  obtain ⟨-, hstate⟩ :=
    exports_followed (fun _ => hitsTree) ⟨"hits"⟩ [hitsSource] none .auto default
  obtain ⟨source, -, d, -, docs, code, hcapture, rfl, hitem, -⟩ := hstate (by decide) _ hmem
  have hmark : d.isMarked = false := congrArg Capture.exported hcapture
  rw [hmark] at hitem
  exact ⟨by decide, hmem, docs, hitem⟩

theorem isGivenOut_hitsNode :
    TopDeclaration.IsGivenOut (scopeOf ⟨"hits"⟩ hitsSource) hitsTree ⟨hitsStatement, hitsNode⟩ := by
  have hname : (scopeOf ⟨"hits"⟩ hitsSource).text hitsName = "hits" := by decide +kernel
  have hlisted : (scopeOf ⟨"hits"⟩ hitsSource).textOf? .name hitsSpecifier = some "hits" := by
    decide +kernel
  have hexport : GivesOut (scopeOf ⟨"hits"⟩ hitsSource) hitsExport "hits" :=
    .listed rfl rfl (.tail _ (.head _)) rfl (.tail _ (.head _)) hlisted
  exact ⟨hitsName, rfl, "hits", hname ▸ .name rfl, hitsExport, .tail _ (.head _), hexport⟩

/-- The source exports the counter, and it is captured and written as if it did not. -/
theorem hits_not_marked :
    (ofTree (scopeOf ⟨"hits"⟩ hitsSource) hitsTree).captured =
        [⟨"hits", false, ⟨⟨"a.ts"⟩, 1, 5⟩⟩] ∧
      TopDeclaration.IsExported (scopeOf ⟨"hits"⟩ hitsSource) hitsTree
        ⟨hitsStatement, hitsNode⟩ ∧
      ¬ MarksExports (scopeOf ⟨"hits"⟩ hitsSource) hitsTree ∧
      Draft.carriedOver (Draft.sections hitsPlan .utils) = [("hits", "let hits = 0;")] := by
  refine ⟨by decide +kernel, .inr isGivenOut_hitsNode, fun hmarks => ?_, ?_⟩
  · have hmem : ⟨hitsStatement, hitsNode⟩ ∈ TopDeclaration.all hitsTree :=
      List.mem_flatMap.2 ⟨hitsStatement, .head _, List.mem_map.2 ⟨hitsNode, .head _, rfl⟩⟩
    have hmark := marksExports_iff.1 hmarks _ hmem isGivenOut_hitsNode
    exact absurd hmark (by decide)
  · rw [Draft.carriedOver_sections]
    decide +kernel

end ParsedCapsule
end ServiceCapsule
