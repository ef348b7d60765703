import ServiceCapsule.Proofs.Package.Quoting
import ServiceCapsule.Proofs.Package.Sections

/-!
# Comments of generated files

The comments of a file stand at its top and among what it declares of its own. What a capsule says
about itself stands in some of them: all of them end where they are meant to exactly if its name, its
id and its version do not end a comment. A description never does.
-/

namespace ServiceCapsule

open Text

namespace Draft

def commentText (ls : List String) : List Char := ['\n'].intercalate (ls.map String.toList)

/-- Whether the comments of a draft have a property. -/
def EachComment (P : List String → Prop) (d : Draft) : Prop := ∀ ls, Item.comment ls ∈ d → P ls

def comments (d : Draft) : List (List String) :=
  d.filterMap fun
    | .comment ls => some ls
    | _ => none

section

variable {P : List String → Prop} {d e : Draft} {p : Plan}

theorem mem_comments {ls : List String} : ls ∈ comments d ↔ Item.comment ls ∈ d := by
  rw [comments, List.mem_filterMap]
  constructor
  · rintro ⟨item, hitem, h⟩
    cases item with
    | comment =>
      obtain rfl := Option.some.inj h
      exact hitem
    | _ => simp at h
  · exact fun h => ⟨_, h, rfl⟩

theorem eachComment_iff_comments : EachComment P d ↔ ∀ ls ∈ comments d, P ls := by
  simp only [EachComment, mem_comments]

theorem eachComment_of_none (h : comments d = []) : EachComment P d := by
  simp [eachComment_iff_comments, h]

theorem eachComment_iff_of_single {ls : List String} (h : comments d = [ls]) :
    EachComment P d ↔ P ls := by
  simp [eachComment_iff_comments, h]

theorem eachComment_nil : EachComment P [] := eachComment_of_none rfl

theorem eachComment_append : EachComment P (d ++ e) ↔ EachComment P d ∧ EachComment P e := by
  simp only [EachComment, List.mem_append, or_imp, forall_and]

theorem eachComment_flatMap {α : Type} {items : α → Draft} {as : List α}
    (h : ∀ a ∈ as, EachComment P (items a)) : EachComment P (as.flatMap items) := by
  intro ls hls
  obtain ⟨a, ha, hls⟩ := List.mem_flatMap.1 hls
  exact h a ha ls hls

theorem eachComment_map {α : Type} {item : α → Item} {as : List α}
    (h : ∀ a ls, item a ≠ .comment ls) : EachComment P (as.map item) := by
  intro ls hls
  obtain ⟨a, -, ha⟩ := List.mem_map.1 hls
  exact absurd ha (h a ls)

/-! ### Sections without comments -/

theorem eachComment_externals (tokens : List String) : EachComment P (externals p tokens) :=
  eachComment_map (by simp)

theorem eachComment_siblings (target : FileKind) (wanted : List Importable) :
    EachComment P (siblings target wanted) := by
  refine eachComment_flatMap fun owner _ => ?_
  simp only [importsFrom, eachComment_append]
  constructor
  all_goals
    split <;> exact eachComment_of_none rfl

theorem eachComment_importBlock (target : FileKind) (tokens : List String) :
    EachComment P (importBlock p target tokens) := by
  unfold importBlock
  split
  · exact eachComment_nil
  · simp only [eachComment_append]
    exact ⟨⟨eachComment_externals tokens, eachComment_siblings target _⟩, eachComment_of_none rfl⟩

theorem eachComment_imports (k : FileKind) : EachComment P (imports p k) := by
  cases k with
  | types | errors => exact eachComment_importBlock _ _
  | constants | utils =>
    exact eachComment_append.2
      ⟨eachComment_append.2 ⟨eachComment_externals _, eachComment_siblings _ _⟩,
        eachComment_of_none rfl⟩
  | service =>
    simp only [imports, serviceImports, eachComment_append]
    refine ⟨⟨eachComment_of_none rfl, ?_⟩, eachComment_of_none rfl⟩
    split <;> exact eachComment_of_none rfl
  | adapters | index => exact eachComment_of_none rfl
  | readme => exact eachComment_nil

theorem eachComment_leftOut (k : FileKind) : EachComment P (leftOut p k) := by
  have hremarks : ∀ target, EachComment P (remarks p target) := by
    intro target
    unfold remarks
    split
    · exact eachComment_nil
    · simp [EachComment]
  cases k with
  | types | errors | constants | utils => exact hremarks _
  | _ => exact eachComment_nil

theorem eachComment_sourceCode (k : FileKind) : EachComment P (sourceCode p k) := by
  cases k with
  | types =>
    simp only [sourceCode, carriedTypes]
    split <;> simp [EachComment, carriedCode]
  | errors =>
    simp only [sourceCode, carriedErrors]
    split <;> simp [EachComment, carriedCode]
  | constants =>
    simp only [sourceCode, carriedConstants]
    split <;> simp [EachComment, carriedConstant]
  | utils =>
    simp only [sourceCode]
    split
    · simp only [carriedUtils, eachComment_append]
      refine ⟨⟨⟨?_, ?_⟩, ?_⟩, ?_⟩
      · split <;> simp [EachComment, carriedVariable]
      · split <;> simp [EachComment]
      all_goals simp [EachComment, carriedCode]
    · simp only [listedUtils]
      split <;> simp [EachComment]
  | _ => exact eachComment_nil

theorem eachComment_sections {k : FileKind} :
    EachComment P (sections p k) ↔ EachComment P (top p k) ∧ EachComment P (own p k) := by
  simp only [sections, eachComment_append, eachComment_imports, eachComment_sourceCode,
    eachComment_leftOut, and_true]

end

/-! ### Comments with metadata -/

theorem keepsComment_between {before cs after : List Char} (hbefore : KeepsComment before)
    (hlast : before.getLast? ≠ some '*') (hhead : after.head? ≠ some '/') :
    KeepsComment (before ++ (cs ++ after)) ↔ KeepsComment cs ∧ KeepsComment after := by
  rw [keepsComment_append fun h => absurd h hlast, keepsComment_append fun _ => hhead,
    and_iff_right hbefore]

/-- A comment on one line with a text in it, and no star around this text. -/
theorem closesAtEnd_remark {line s : String} (before after : String)
    (hs : KeepsComment s.toList) (hline : line = "/** " ++ before ++ s ++ after ++ " */")
    (hbefore : '*' ∉ before.toList) (hafter : '*' ∉ after.toList ∧ after.toList.head? ≠ some '/') :
    ClosesAtEnd (commentText [line]) := by
  have htext : commentText [line] = ['/', '*', '*'] ++
      ([' '] ++ ((before.toList ++ (s.toList ++ after.toList)) ++ [' '])) ++ ['*', '/'] := by
    simp [commentText, hline]
  rw [htext, closesAtEnd_comment (by simp),
    keepsComment_between (by decide) (by decide) (by decide),
    keepsComment_between (keepsComment_of_notMem hbefore)
      (fun hlast => hbefore (List.mem_of_getLast? hlast)) hafter.2]
  exact ⟨⟨hs, keepsComment_of_notMem hafter.1⟩, by decide⟩

variable {p : Plan}

theorem head?_openEnds (cs : List Char) : (openEnds cs).head? = cs.head? := by
  fun_cases openEnds cs <;> rfl

theorem keepsComment_cons {c : Char} {cs : List Char} (h : c = '*' → cs.head? ≠ some '/') :
    KeepsComment (c :: cs) ↔ KeepsComment cs := by
  have hone : KeepsComment [c] := fun hpair => by simpa using hpair.length_le
  rw [← List.singleton_append, keepsComment_append (by simpa using h), and_iff_right hone]

theorem keepsComment_openEnds (cs : List Char) : KeepsComment (openEnds cs) := by
  induction cs using openEnds.induct with
  | case1 => decide
  | case2 rest ih =>
    rw [openEnds, keepsComment_cons (by simp), keepsComment_cons (by simp),
      keepsComment_cons (by simp)]
    exact ih
  | case3 c rest hmark ih =>
    rw [openEnds, keepsComment_cons]
    · exact ih
    · rintro rfl hhead
      rw [head?_openEnds] at hhead
      obtain ⟨more, rfl⟩ := List.head?_eq_some_iff.1 hhead
      exact hmark more rfl rfl
    · exact hmark

theorem closesAtEnd_header {title : String} (htitle : KeepsComment title.toList) :
    EachComment (fun ls => ClosesAtEnd (commentText ls)) (header p title) ↔
      KeepsComment p.metadata.name.toList ∧ KeepsComment p.metadata.id.toList ∧
        KeepsComment p.metadata.version.toList := by
  have hmode : KeepsComment (" (" ++ p.mode.name ++ " migration)\n ").toList := by
    cases p.mode <;> decide
  have htext : commentText ["/**", " * " ++ p.metadata.name ++ " - " ++ title, " *",
      " * Capsule " ++ p.metadata.id ++ " v" ++ p.metadata.version ++ " (" ++ p.mode.name ++
        " migration)", " */"] =
      ['/', '*', '*'] ++ ("\n * ".toList ++ (p.metadata.name.toList ++ (" - ".toList ++
        (title.toList ++ ("\n *\n * Capsule ".toList ++ (p.metadata.id.toList ++ (" v".toList ++
          (p.metadata.version.toList ++ (" (" ++ p.mode.name ++ " migration)\n ").toList)))))))) ++
        ['*', '/'] := by
    simp [commentText, List.intercalate]
  rw [eachComment_iff_of_single rfl, htext, closesAtEnd_comment (by simp),
    keepsComment_between (by decide) (by simp) (by simp),
    keepsComment_between (by decide) (by simp) (by simp), and_iff_right htitle,
    keepsComment_between (by decide) (by simp) (by simp),
    keepsComment_between (by decide) (by simp) (by simp), and_iff_left hmode]

theorem closesAtEnd_indexHeader :
    EachComment (fun ls => ClosesAtEnd (commentText ls)) (indexHeader p) ↔
      KeepsComment p.metadata.name.toList ∧ KeepsComment p.metadata.id.toList := by
  have htext : commentText ["/**", " * " ++ p.metadata.name, " *",
      " * " ++ withoutEnds p.metadata.description, " *",
      " * @packageDocumentation " ++ p.packageName, " */"] =
      ['/', '*', '*'] ++ ("\n * ".toList ++ (p.metadata.name.toList ++ ("\n *\n * ".toList ++
        (openEnds p.metadata.description.toList ++
          ("\n *\n * @packageDocumentation @capsules/".toList ++
            (p.metadata.id.toList ++ "\n ".toList)))))) ++ ['*', '/'] := by
    simp [commentText, List.intercalate, withoutEnds, Plan.packageName, Naming.packageName]
  have hend : KeepsComment "\n ".toList := by decide
  rw [eachComment_iff_of_single rfl, htext, closesAtEnd_comment (by simp),
    keepsComment_between (by decide) (by simp) (by simp),
    keepsComment_between (by decide) (by simp) (by simp), and_iff_right (keepsComment_openEnds _),
    keepsComment_between (by decide) (by simp) (by simp), and_iff_left hend]

theorem closesAtEnd_description (k : ErrorKind) :
    ClosesAtEnd (commentText ["/** " ++ k.description ++ " */"]) := by
  cases k <;> decide +kernel

theorem keepsComment_of_isIdentifier {name : String} (h : Naming.isIdentifier name = true) :
    KeepsComment name.toList := by
  refine keepsComment_of_notMem fun hmem => ?_
  cases hcs : name.toList with
  | nil => simp [hcs] at hmem
  | cons c cs =>
    simp only [Naming.isIdentifier, hcs, Bool.and_eq_true, List.all_eq_true] at h
    rcases List.mem_cons.1 (hcs ▸ hmem) with rfl | hmem
    · exact absurd h.1 (by decide)
    · exact absurd (h.2 _ hmem) (by decide)

theorem eachComment_sharedErrors (hname : KeepsComment p.metadata.name.toList) :
    EachComment (fun ls => ClosesAtEnd (commentText ls)) (sharedErrors p) := by
  simp only [sharedErrors, eachComment_append]
  refine ⟨⟨⟨eachComment_of_none rfl, ?_⟩, ?_⟩, ?_⟩
  · exact (eachComment_iff_of_single rfl).2 (closesAtEnd_remark "Base class for every " " error"
      hname (by simp [String.append_assoc]) (by decide) (by decide))
  · exact eachComment_flatMap fun k _ =>
      (eachComment_iff_of_single rfl).2 (closesAtEnd_description k)
  · exact (eachComment_iff_of_single rfl).2 (by decide +kernel)

theorem eachComment_helpers :
    EachComment (fun ls => ClosesAtEnd (commentText ls)) helpers := by
  rw [eachComment_iff_comments]
  decide +kernel

theorem eachComment_adapters :
    EachComment (fun ls => ClosesAtEnd (commentText ls)) (own p .adapters) := by
  simp only [own]
  split
  · simp only [multiPlatform, eachComment_append]
    refine ⟨⟨eachComment_of_none rfl, ?_⟩, ?_⟩
    · exact eachComment_flatMap fun platform _ => eachComment_of_none rfl
    · exact (eachComment_iff_of_single rfl).2 (by decide +kernel)
  · exact (eachComment_iff_of_single rfl).2 (by decide +kernel)

theorem eachComment_factories (h : Naming.IsCapitalized p.className) :
    EachComment (fun ls => ClosesAtEnd (commentText ls)) (factories p) := by
  have hservice : KeepsComment p.serviceName.toList :=
    keepsComment_of_isIdentifier (h.isIdentifier_append _ (by decide))
  have hcomments : comments (factories p) =
      [["/** Create a " ++ p.serviceName ++ " without initializing it */"],
        ["/** Create a " ++ p.serviceName ++ " and wait for it to become ready */"]] := rfl
  rw [eachComment_iff_comments, hcomments, List.forall_mem_cons, List.forall_mem_singleton]
  exact ⟨closesAtEnd_remark "Create a " " without initializing it" hservice
      (by simp [String.append_assoc]) (by decide) (by decide),
    closesAtEnd_remark "Create a " " and wait for it to become ready" hservice
      (by simp [String.append_assoc]) (by decide) (by decide)⟩

/-- Apart from the tops of the files, the name of a capsule is all that could end a comment. -/
theorem eachComment_own (h : Naming.IsCapitalized p.className)
    (hname : KeepsComment p.metadata.name.toList) (k : FileKind) :
    EachComment (fun ls => ClosesAtEnd (commentText ls)) (own p k) := by
  cases k with
  | types =>
    exact (eachComment_iff_of_single rfl).2 (closesAtEnd_remark "Configuration accepted by the "
      " service" hname (by simp [String.append_assoc]) (by decide) (by decide))
  | errors => exact eachComment_sharedErrors hname
  | constants => exact eachComment_of_none rfl
  | utils => exact eachComment_helpers
  | adapters => exact eachComment_adapters
  | service =>
    exact (eachComment_iff_of_single rfl).2 (closesAtEnd_remark "Lifecycle-managed entry point for "
      "" hname (by simp [String.append_assoc]) (by decide) (by decide))
  | index =>
    simp only [own, eachComment_append]
    exact ⟨⟨eachComment_of_none rfl, eachComment_factories h⟩, eachComment_of_none rfl⟩
  | readme => exact eachComment_nil

theorem eachComment_top (hname : KeepsComment p.metadata.name.toList)
    (hid : KeepsComment p.metadata.id.toList) (hversion : KeepsComment p.metadata.version.toList)
    (k : FileKind) : EachComment (fun ls => ClosesAtEnd (commentText ls)) (top p k) := by
  cases k with
  | index =>
    exact eachComment_append.2 ⟨closesAtEnd_indexHeader.2 ⟨hname, hid⟩, eachComment_of_none rfl⟩
  | readme => exact eachComment_of_none rfl
  | _ => exact (closesAtEnd_header (by decide)).2 ⟨hname, hid, hversion⟩

/-- All comments end where they are meant to exactly if name, id and version end none. -/
theorem eachComment_iff (h : Naming.IsCapitalized p.className) :
    (∀ k : FileKind, k.isSource = true →
      EachComment (fun ls => ClosesAtEnd (commentText ls)) (sections p k)) ↔
      KeepsComment p.metadata.name.toList ∧ KeepsComment p.metadata.id.toList ∧
        KeepsComment p.metadata.version.toList := by
  constructor
  · intro hall
    exact (closesAtEnd_header (by decide)).1 (eachComment_sections.1 (hall .types rfl)).1
  · rintro ⟨hname, hid, hversion⟩ k -
    exact eachComment_sections.2 ⟨eachComment_top hname hid hversion k, eachComment_own h hname k⟩

end Draft
end ServiceCapsule
