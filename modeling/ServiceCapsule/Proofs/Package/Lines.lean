import ServiceCapsule.Proofs.Package.Formatted
import ServiceCapsule.Proofs.Validation.Shape

/-!
# Lines of generated files

Lines that stand in every file of their kind, however the capsule is called, described and filled.
-/

namespace ServiceCapsule

open Text

namespace Naming

theorem className_ne_empty (id : String) : className id ≠ "" := by
  unfold className
  split
  · decide
  · split <;> simp

theorem isIdentifier_of_append {a b : String} (ha : a ≠ "")
    (h : isIdentifier (a ++ b) = true) : isIdentifier a = true := by
  cases hcs : a.toList with
  | nil => exact absurd (String.toList_eq_nil_iff.1 hcs) ha
  | cons c cs =>
    simp only [isIdentifier, String.toList_append, hcs, List.cons_append, List.all_append,
      Bool.and_eq_true] at h ⊢
    exact ⟨h.1, h.2.1⟩

theorem newline_notMem_of_isIdentifier {name : String} (h : isIdentifier name = true) :
    '\n' ∉ name.toList := by
  intro hmem
  cases hcs : name.toList with
  | nil => simp [hcs] at hmem
  | cons c cs =>
    simp only [isIdentifier, hcs, Bool.and_eq_true, List.all_eq_true] at h
    rcases List.mem_cons.1 (hcs ▸ hmem) with rfl | hmem
    · exact absurd h.1 (by decide)
    · exact absurd (h.2 _ hmem) (by decide)

end Naming

namespace ErrorKind

theorem isMemberName_code (k : ErrorKind) : Shape.IsMemberName k.code.toList := by
  cases k <;> decide

theorem nodup_codes (n : Needs) : ((all n).map fun k => k.code.toList).Nodup := by
  obtain ⟨fileSystem, network, database⟩ := n
  cases fileSystem <;> cases network <;> cases database <;> decide

end ErrorKind

namespace Code

theorem mem_indented {line : String} {body : List String} (hline : line ≠ "")
    (h : line ∈ body) : "  " ++ line ∈ indented body :=
  List.mem_map.2 ⟨line, h, by simp [hline]⟩

end Code

namespace Draft

theorem lines_declaration (keyword name head : String) (body : List String) (tail : String) :
    (Item.declaration true keyword name (Code.block head body tail)).lines =
      ("export " ++ keyword ++ " " ++ name ++ (head ++ " \x7b")) ::
        (Code.indented body ++ ["\x7d" ++ tail]) := rfl

def codeLine (k : ErrorKind) : String := "  " ++ (k.code ++ " = '" ++ k.code ++ "',")

theorem toList_codeLine (k : ErrorKind) :
    (codeLine k).toList = Shape.memberLine k.code.toList := by
  simp [codeLine, Shape.memberLine]

theorem isTidy_codeLine (k : ErrorKind) : IsTidy (codeLine k).toList := by
  cases k <;> decide +kernel

@[simp] theorem lines_cons (item : Item) (d : Draft) :
    lines (item :: d) = item.lines ++ lines d :=
  List.flatMap_cons

theorem lines_codeEnumeration (p : Plan) :
    (codeEnumeration p).lines =
      ("export enum ErrorCode \x7b" :: p.errorKinds.map codeLine) ++ ["\x7d"] := by
  have hhead : "export " ++ "enum" ++ " " ++ "ErrorCode" ++ ("" ++ " \x7b") =
      "export enum ErrorCode \x7b" := rfl
  simp only [codeEnumeration, Item.lines, Code.block, Code.indented, List.cons_append, Code.lead,
    if_true, hhead, List.map_map]
  congr 2
  · apply List.map_congr_left
    intro k _
    simp [codeLine]

theorem mem_serviceClass {p : Plan} (line : String) (hline : line ≠ "")
    (h : line ∈ initializeMethod p ∨ line ∈ executeMethod p ∨ line ∈ cleanupMethod p ∨
      line ∈ accessMethods p) : "  " ++ line ∈ lines (serviceClass p) := by
  simp only [serviceClass, lines_cons, lines_declaration]
  apply List.mem_append_right
  apply List.mem_append_left
  apply List.mem_cons_of_mem
  apply List.mem_append_left
  apply Code.mem_indented hline
  simp only [List.mem_append]
  rcases h with h | h | h | h <;> simp [h]

theorem eq_of_requireIdentifier {name role : String} {d e : Draft}
    (h : (do requireIdentifier name role; return d) = Except.ok e) :
    Naming.isIdentifier name = true ∧ d = e := by
  unfold requireIdentifier at h
  split at h
  · rename_i hname
    exact ⟨hname, by simpa [bind, Except.bind, pure, Except.pure] using h⟩
  · simp [bind, Except.bind] at h

end Draft

namespace Generation

variable {format : Bool} {p : Plan} {s : String}

theorem exists_draft {formatter : Option Formatter} {k : FileKind}
    (hs : content formatter p k = .ok s) : ∃ d, Draft.ofKind p k = .ok d := by
  cases hd : Draft.ofKind p k with
  | error e => simp [content, Draft.render, hd, Except.map] at hs
  | ok d => exact ⟨d, rfl⟩

/-- A line below the top of a draft is in the file if it says something up to its end. -/
theorem shows_line {k : FileKind}
    (hs : content (if format then some .whitespace else none) p k = .ok s)
    {d : Draft} (hd : Draft.ofKind p k = .ok d) {top below : List String} (htop : top ≠ [])
    (hlines : d.lines = top ++ below) {line : String} (hline : line ∈ below)
    (htidy : IsTidy line.toList) : Shows [line.toList] s.toList := by
  obtain ⟨before, after, rfl⟩ := List.append_of_mem hline
  exact shows_content hs hd (show top ++ before ≠ [] by simp [htop]) (List.cons_ne_nil line [])
    (by simpa using hlines) (by simpa using htidy)

theorem shows_errors
    (hs : content (if format then some .whitespace else none) p .errors = .ok s) :
    Shows (("export enum ErrorCode ".toList ++ ['\x7b']) ::
      (p.errorKinds.map fun k => k.code.toList).map Shape.memberLine) s.toList := by
  obtain ⟨d, hd⟩ := exists_draft hs
  let top := Draft.header p "Error definitions" ++
    Draft.importBlock p .errors (Draft.errorsTokens p)
  have htop : Draft.lines top ≠ [] := by
    simp [top, Draft.header, Draft.lines, Item.lines]
  have hfile : top ++ Draft.sharedErrors p ++ Draft.carriedErrors p ++
      Draft.remarks p .errors = d := (Draft.eq_of_requireIdentifier hd).2
  obtain ⟨rest, hrest⟩ : ∃ rest, Draft.sharedErrors p = Draft.codeEnumeration p :: rest :=
    ⟨_, rfl⟩
  obtain ⟨below, hlines⟩ : ∃ below, d.lines = Draft.lines top ++
      ("export enum ErrorCode \x7b" :: p.errorKinds.map Draft.codeLine) ++ below := by
    rw [← hfile, hrest]
    simp only [Draft.lines_append, Draft.lines_cons, Draft.lines_codeEnumeration,
      List.append_assoc]
    exact ⟨_, rfl⟩
  have htidy : ∀ line ∈ "export enum ErrorCode \x7b" :: p.errorKinds.map Draft.codeLine,
      IsTidy line.toList := by
    intro line hline
    rcases List.mem_cons.1 hline with rfl | hline
    · decide +kernel
    · obtain ⟨k, -, rfl⟩ := List.mem_map.1 hline
      exact Draft.isTidy_codeLine k
  have hshows := shows_content hs hd htop (List.cons_ne_nil _ _) hlines htidy
  simpa [Draft.toList_codeLine, Function.comp_def] using hshows

theorem shows_service
    (hs : content (if format then some .whitespace else none) p .service = .ok s) :
    Naming.isIdentifier p.serviceName = true ∧
      Shows [("export class " ++ p.className ++ "Service \x7b").toList] s.toList ∧
      ∀ line ∈ Shape.memberLines, Shows [line.toList] s.toList := by
  obtain ⟨d, hd⟩ := exists_draft hs
  let top := Draft.header p "Service" ++ Draft.serviceImports p
  have htop : Draft.lines top ≠ [] := by
    simp [top, Draft.header, Draft.lines, Item.lines]
  obtain ⟨hname, hfile⟩ := Draft.eq_of_requireIdentifier hd
  have hlines : d.lines = Draft.lines top ++ Draft.lines (Draft.serviceClass p) := by
    rw [← hfile, ← Draft.lines_append]
  have hclass : ("export class " ++ p.className ++ "Service \x7b") ∈
      Draft.lines (Draft.serviceClass p) := by
    have hhead : "export class " ++ p.className ++ "Service \x7b" =
        "export " ++ "class" ++ " " ++ p.serviceName ++ ("" ++ " \x7b") := by
      rw [← String.toList_inj]
      simp [Plan.serviceName]
    simp [hhead, Draft.serviceClass, Draft.lines_declaration]
  have hmethods : ∀ line ∈ Shape.memberLines, line ∈ Draft.lines (Draft.serviceClass p) := by
    intro line hline
    simp only [Shape.memberLines, List.mem_cons, List.not_mem_nil, or_false] at hline
    rcases hline with rfl | rfl | rfl | rfl
    · exact Draft.mem_serviceClass "async initialize(): Promise<void> \x7b" (by decide)
        (.inl (by simp [Draft.initializeMethod, Code.block]))
    · exact Draft.mem_serviceClass
        "async execute<T>(operation: () => Promise<T> | T): Promise<OperationResult<T>> \x7b"
        (by decide) (.inr (.inl (by simp [Draft.executeMethod, Code.block])))
    · exact Draft.mem_serviceClass "async cleanup(): Promise<void> \x7b" (by decide)
        (.inr (.inr (.inl (by simp [Draft.cleanupMethod, Code.block]))))
    · exact Draft.mem_serviceClass "getState(): ServiceState \x7b" (by decide)
        (.inr (.inr (.inr (by simp [Draft.accessMethods, Code.block]))))
  refine ⟨hname, shows_line hs hd htop hlines hclass ?_, ?_⟩
  · have hnewline := Naming.newline_notMem_of_isIdentifier hname
    have hsplit : ("export class " ++ p.className ++ "Service \x7b").toList =
        ("export class ".toList ++ p.serviceName.toList ++ [' ']) ++ ['\x7b'] := by
      simp [Plan.serviceName]
    rw [hsplit]
    exact isTidy_concat (by simp [hnewline]) (by decide)
  · intro line hline
    refine shows_line hs hd htop hlines (hmethods line hline) ?_
    revert line
    decide +kernel

theorem shows_index
    (hs : content (if format then some .whitespace else none) p .index = .ok s) :
    Shows ["export * from './types';".toList] s.toList ∧
      Shows ["export const CAPSULE_METADATA = \x7b".toList] s.toList ∧
      Shows [("export default " ++ p.serviceName ++ ";").toList] s.toList := by
  obtain ⟨d, hd⟩ := exists_draft hs
  obtain ⟨hname, hfile⟩ := Draft.eq_of_requireIdentifier hd
  have htop : Draft.lines (Draft.indexHeader p) ≠ [] := by
    simp [Draft.indexHeader, Item.lines]
  have hlines : d.lines = Draft.lines (Draft.indexHeader p) ++ Draft.lines (Draft.reexports ++
      Draft.indexImports p ++ [Draft.metadataConstant p, .gap] ++ Draft.factories p ++
      [.plain ["export default " ++ p.serviceName ++ ";"]]) := by
    rw [← hfile, ← Draft.lines_append]
    simp only [List.append_assoc]
  have hmodule : "export * from './types';" ∈ Draft.lines Draft.reexports := by decide +kernel
  have hmetadata : (Draft.metadataConstant p).lines.head? =
      some "export const CAPSULE_METADATA = \x7b" := rfl
  refine ⟨shows_line hs hd htop hlines ?_ (by decide +kernel),
    shows_line hs hd htop hlines ?_ (by decide +kernel),
    shows_line hs hd htop hlines ?_ ?_⟩
  · simp [hmodule]
  · simp [List.mem_of_head? hmetadata]
  · simp [Item.lines, Draft.lines]
  · have hnewline := Naming.newline_notMem_of_isIdentifier hname
    have hsplit : ("export default " ++ p.serviceName ++ ";").toList =
        ("export default ".toList ++ (p.className.toList ++ "Service".toList)) ++ [';'] := by
      simp [Plan.serviceName]
    rw [hsplit]
    exact isTidy_concat (by simp [hnewline]) (by decide)

def methodRows : List String := Draft.methodTable.dropLast

theorem shows_readme
    (hs : content (if format then some .whitespace else none) p .readme = .ok s) :
    (∀ title ∈ Draft.readmeSections, Shows [title.toList] s.toList) ∧
      Shows (methodRows.map String.toList) s.toList := by
  obtain ⟨d, hd⟩ := exists_draft hs
  let top := ["# " ++ p.metadata.name, "", p.metadata.description, ""]
  have htop : top ≠ [] := List.cons_ne_nil _ _
  have hlines : d.lines = top ++ (Draft.overview p ++ Draft.installation p ++ Draft.usage p ++
      Draft.programInterface p ++ Draft.migrationNotes p) := by
    obtain rfl := Except.ok.inj hd
    simp [Draft.lines, Item.lines, top]
  refine ⟨?_, ?_⟩
  · intro title htitle
    refine shows_line hs hd htop hlines ?_ ?_
    · simp only [Draft.readmeSections, List.mem_cons, List.not_mem_nil, or_false] at htitle
      rcases htitle with rfl | rfl | rfl | rfl
      · simp [Draft.overview]
      · simp [Draft.installation]
      · simp [Draft.usage]
      · simp [Draft.programInterface]
    · revert title
      decide +kernel
  · have htable : Draft.methodTable = methodRows ++ [""] := rfl
    obtain ⟨below, hrows⟩ : ∃ below, d.lines = (top ++ Draft.overview p ++
        Draft.installation p ++ Draft.usage p ++
        ["## API", "", "### " ++ Draft.ticked p.serviceName, ""]) ++ methodRows ++ below := by
      rw [hlines, Draft.programInterface, htable]
      simp only [List.append_assoc]
      exact ⟨_, rfl⟩
    exact shows_content hs hd (by simp) (by decide) hrows (by decide +kernel)

end Generation
end ServiceCapsule
