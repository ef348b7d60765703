import Mathlib.Data.List.Forall2
import ServiceCapsule.Capsule.Extraction
import ServiceCapsule.Proofs.Package.Preserved

/-!
# Export statements

What the grammar has an export statement say, and what is recorded of it: the names that it gives
out, in their order, each with how it is given out and from where. One form is lost: everything of
another module under one name. Its star stands one level further down, in a node of its own, and
the star is looked for next to the keyword.
-/

namespace ServiceCapsule
namespace Extraction

open TypeScript

/-! ### The grammar -/

/-- The children of a node other than comments, which may stand anywhere. -/
def said (t : Tree) : List Tree := t.children.filter (!·.is .comment)

def IsMark (text : String) (t : Tree) : Prop := t.label = .token text ∧ t.role = none

def IsNode (kind : Kind) (role : Option Role) (t : Tree) : Prop :=
  t.label = .kind kind ∧ t.role = role

def IsOptional (text : String) (ts : List Tree) : Prop := ts = [] ∨ ∃ t, ts = [t] ∧ IsMark text t

def HasText (s : Scope) (role : Role) (t : Tree) (text : String) : Prop :=
  ∃ child, t.children.filter (·.role == some role) = [child] ∧ s.text child = text

/-- Kinds of declarations that declare one name. -/
def namedKinds : List Kind :=
  [.typeAliasDeclaration, .enumDeclaration, .interfaceDeclaration, .classDeclaration,
    .abstractClassDeclaration, .classExpression, .functionDeclaration,
    .generatorFunctionDeclaration]

/-- The names that a declaration declares; a pattern in the place of a name counts as one. -/
inductive Declares (s : Scope) (t : Tree) : List String → Prop where
  | one {kind : Kind} {name : String} (hkind : kind ∈ namedKinds) (ht : t.label = .kind kind)
      (hname : HasText s .name t name) : Declares s t [name]
  | bindings {names : List String}
      (ht : t.label = .kind .lexicalDeclaration ∨ t.label = .kind .variableDeclaration)
      (hnames : List.Forall₂ (HasText s .name) (t.children.filter (Tree.is .variableDeclarator))
        names) : Declares s t names

/-- A specifier gives a name out under its alias, or as it is where there is none. -/
inductive Specifies (s : Scope) (t : Tree) : String → Prop where
  | underAlias {name : String} (halias : HasText s .alias t name) : Specifies s t name
  | asNamed {name : String} (halias : t.children.filter (·.role == some .alias) = [])
      (hname : HasText s .name t name) : Specifies s t name

def Lists (s : Scope) (clause : Tree) (names : List String) : Prop :=
  IsNode .exportClause none clause ∧
    List.Forall₂ (Specifies s) (clause.children.filter (Tree.is .exportSpecifier)) names

def Renames (s : Scope) (t : Tree) (name : String) : Prop :=
  IsNode .namespaceExport none t ∧ ∃ star word child,
    said t = [star, word, child] ∧ IsMark "*" star ∧ IsMark "as" word ∧ s.text child = name

inductive Ends (s : Scope) : Option String → List Tree → Prop where
  | here {stop : List Tree} (hstop : IsOptional ";" stop) : Ends s none stop
  | source {word quoted : Tree} {stop : List Tree} (hword : IsMark "from" word)
      (hquoted : IsNode .string (some .source) quoted) (hstop : IsOptional ";" stop) :
      Ends s (some (unquoted (s.text quoted))) (word :: quoted :: stop)

/-- What an export statement can say. -/
inductive ExportForm where
  | declaration (isDefault : Bool) (names : List String)
  | defaultValue
  | listed (names : List String) (source : Option String)
  | everything (source : String)
  | everythingAs (name source : String)
  deriving DecidableEq, Repr

/-- The exports that a statement at a place stands for. -/
def ExportForm.exports (place : Location) : ExportForm → List Export
  | declaration isDefault names =>
    names.map fun name => ⟨name, if isDefault then .default else .named, none, place⟩
  | defaultValue => [⟨"default", .default, none, place⟩]
  | listed names source =>
    names.map fun name => ⟨name, if source.isSome then .again else .named, source, place⟩
  | everything source => [⟨"*", .wildcard, some source, place⟩]
  | everythingAs name source => [⟨name, .wildcard, some source, place⟩]

def ExportForm.isRenamed : ExportForm → Bool
  | everythingAs _ _ => true
  | _ => false

/-- The children of an export statement, for each of its forms. -/
inductive Spells (s : Scope) : List Tree → ExportForm → Prop where
  | declaration {decorators : List Tree} {word inner : Tree} {names : List String}
      (hdecorators : ∀ d ∈ decorators, IsNode .decorator none d) (hword : IsMark "export" word)
      (hrole : inner.role = some .declaration) (hnames : Declares s inner names) :
      Spells s (decorators ++ [word, inner]) (.declaration false names)
  | defaultDeclaration {decorators : List Tree} {word mark inner : Tree} {names : List String}
      (hdecorators : ∀ d ∈ decorators, IsNode .decorator none d) (hword : IsMark "export" word)
      (hmark : IsMark "default" mark) (hrole : inner.role = some .declaration)
      (hnames : Declares s inner names) :
      Spells s (decorators ++ [word, mark, inner]) (.declaration true names)
  | defaultValue {decorators stop : List Tree} {word mark value : Tree}
      (hdecorators : ∀ d ∈ decorators, IsNode .decorator none d) (hword : IsMark "export" word)
      (hmark : IsMark "default" mark) (hrole : value.role = some .value)
      (hstop : IsOptional ";" stop) :
      Spells s (decorators ++ word :: mark :: value :: stop) .defaultValue
  | listed {word clause : Tree} {type rest : List Tree} {names : List String}
      {source : Option String} (hword : IsMark "export" word) (htype : IsOptional "type" type)
      (hclause : Lists s clause names) (hrest : Ends s source rest) :
      Spells s (word :: type ++ clause :: rest) (.listed names source)
  | everything {word star : Tree} {rest : List Tree} {source : String}
      (hword : IsMark "export" word) (hstar : IsMark "*" star) (hrest : Ends s (some source) rest) :
      Spells s (word :: star :: rest) (.everything source)
  | everythingAs {word renamed : Tree} {rest : List Tree} {name source : String}
      (hword : IsMark "export" word) (hrenamed : Renames s renamed name)
      (hrest : Ends s (some source) rest) :
      Spells s (word :: renamed :: rest) (.everythingAs name source)

/-- An export statement of the grammar, and what it says. -/
structure Says (s : Scope) (t : Tree) (form : ExportForm) : Prop where
  statement : t.label = .kind .exportStatement
  comments : ∀ c ∈ t.children, c.is .comment = true → c.role = none
  spells : Spells s (said t) form

/-! ### Children -/

section Said

variable {t : Tree}

theorem find?_said {p : Tree → Bool}
    (hp : ∀ c ∈ t.children, p c = true → c.is .comment = false) :
    (said t).find? p = t.children.find? p := by
  unfold said
  generalize t.children = cs at hp ⊢
  induction cs with
  | nil => rfl
  | cons c cs ih =>
    obtain ⟨hc, hcs⟩ := List.forall_mem_cons.1 hp
    cases hcomment : c.is .comment with
    | true =>
      have hpc : p c = false := by simpa [hcomment] using hc
      simp [hcomment, hpc, ih hcs]
    | false => simp [hcomment, List.find?_cons, ih hcs]

theorem inRole?_eq (hcomments : ∀ c ∈ t.children, c.is .comment = true → c.role = none)
    (role : Role) : t.inRole? role = (said t).find? (·.role == some role) := by
  refine (find?_said fun c hc hrole => ?_).symm
  by_contra hcomment
  simp [hcomments c hc (by simpa using hcomment)] at hrole

theorem find?_eq {kind : Kind} (hkind : kind ≠ .comment) :
    t.find? kind = (said t).find? (Tree.is kind) := by
  refine (find?_said fun c hc hk => ?_).symm
  simp_all [Tree.is]

theorem hasToken_eq (text : String) : t.hasToken text = (said t).any (·.token? == some text) := by
  rw [Tree.hasToken, said, List.any_filter]
  congr 1
  funext c
  cases hlabel : c.label with
  | missing kind name => cases kind <;> simp [Tree.token?, Tree.is, Tree.kind?, hlabel]
  | kind k => simp [Tree.token?, hlabel]
  | token text => simp [Tree.is, Tree.kind?, hlabel]
  | error => simp [Tree.token?, hlabel]

end Said

section Parts

variable {t : Tree} {text : String} {kind kind' : Kind} {role role' : Option Role}

theorem IsMark.token? (h : IsMark text t) : t.token? = some text := by simp [Tree.token?, h.1]

theorem IsMark.is (h : IsMark text t) (kind : Kind) : t.is kind = false := by
  simp [Tree.is, Tree.kind?, h.1]

theorem IsNode.token? (h : IsNode kind role t) : t.token? = none := by simp [Tree.token?, h.1]

theorem IsNode.is (h : IsNode kind role t) (kind' : Kind) : t.is kind' = (kind == kind') := by
  simp [Tree.is, Tree.kind?, h.1]

theorem find?_decorators {decorators : List Tree} (h : ∀ d ∈ decorators, IsNode .decorator none d)
    (role : Role) : decorators.find? (·.role == some role) = none := by
  rw [List.find?_eq_none]
  intro d hd
  simp [(h d hd).2]

theorem any_decorators {decorators : List Tree} (h : ∀ d ∈ decorators, IsNode .decorator none d)
    (text : String) : decorators.any (·.token? == some text) = false := by
  rw [List.any_eq_false]
  intro d hd
  simp [(h d hd).token?]

section Optional

variable {ts : List Tree} (h : IsOptional text ts)
include h

theorem IsOptional.find?_role (role : Role) : ts.find? (·.role == some role) = none := by
  rcases h with rfl | ⟨mark, rfl, hmark⟩
  · rfl
  · simp [hmark.2]

theorem IsOptional.any_token {other : String} (hother : other ≠ text) :
    ts.any (·.token? == some other) = false := by
  rcases h with rfl | ⟨mark, rfl, hmark⟩
  · rfl
  · simp [hmark.token?, hother.symm]

theorem IsOptional.find?_kind (kind : Kind) : ts.find? (Tree.is kind) = none := by
  rcases h with rfl | ⟨mark, rfl, hmark⟩
  · rfl
  · simp [hmark.is]

end Optional

section Ends

variable {s : Scope} {source : Option String} {ts : List Tree} (h : Ends s source ts)
include h

theorem Ends.find?_declaration : ts.find? (·.role == some .declaration) = none := by
  cases h with
  | here hstop => exact hstop.find?_role _
  | source hword hquoted hstop => simp [hword.2, hquoted.2, hstop.find?_role]

theorem Ends.find?_source :
    ((ts.find? (·.role == some .source)).map (Tree.text s.source)).map unquoted = source := by
  cases h with
  | here hstop =>
    rw [hstop.find?_role]
    rfl
  | source hword hquoted hstop => simp [hword.2, hquoted.2, Scope.text]

theorem Ends.any_token {other : String} (hfrom : other ≠ "from") (hstop : other ≠ ";") :
    ts.any (·.token? == some other) = false := by
  cases h with
  | here hend => exact hend.any_token hstop
  | source hword hquoted hend =>
    rw [List.any_cons, List.any_cons, hend.any_token hstop, hword.token?, hquoted.token?]
    simp [hfrom.symm]

theorem Ends.find?_kind {kind : Kind} (hkind : kind ≠ .string) :
    ts.find? (Tree.is kind) = none := by
  cases h with
  | here hstop => exact hstop.find?_kind kind
  | source hword hquoted hstop => simp [hword.is, hquoted.is, hkind.symm, hstop.find?_kind]

end Ends

theorem HasText.roleText? {s : Scope} {role : Role} (h : HasText s role t text) :
    s.textOf? role t = some text := by
  obtain ⟨child, hchildren, rfl⟩ := h
  have hchild : t.inRole? role = some child := by
    rw [Tree.inRole?, ← List.head?_filter, hchildren, List.head?_singleton]
  rw [Scope.textOf?, Tree.roleText?, hchild]
  rfl

theorem Specifies.name? {s : Scope} (h : Specifies s t text) : specifierName? s t = some text := by
  cases h with
  | underAlias halias => rw [specifierName?, halias.roleText?, Option.some_or]
  | asNamed halias hname =>
    have hnone : s.textOf? .alias t = none := by
      rw [Scope.textOf?, Tree.roleText?, Tree.inRole?, ← List.head?_filter, halias]
      rfl
    rw [specifierName?, hnone, hname.roleText?, Option.none_or]

end Parts

/-! ### Declarations -/

section Declarations

variable (s : Scope) (exported : Bool) (docs : Option String) {t : Tree}

theorem exports_together {parts : List Found} (h : ∀ part ∈ parts, part.1.exports = []) :
    (together parts).1.exports = [] := by
  unfold together
  induction parts with
  | nil => rfl
  | cons part parts ih =>
    obtain ⟨hpart, hparts⟩ := List.forall_mem_cons.1 h
    show part.1.exports ++ _ = []
    rw [hpart, List.nil_append, ih hparts]

theorem exports_bound (keyword : String) : (bound s exported docs keyword t).1.exports = [] := by
  unfold bound
  repeat' split
  all_goals rfl

theorem exports_declaration : (declaration s exported docs t).1.exports = [] := by
  unfold declaration typeAlias interface classDeclaration function
  split
  case h_9 | h_10 =>
    apply exports_together
    intro part hpart
    obtain ⟨c, -, rfl⟩ := List.mem_map.1 hpart
    exact exports_bound s exported docs _
  all_goals
    try split
    all_goals rfl

theorem names_bound {keyword name : String} (ht : t.is .variableDeclarator = true)
    (hname : HasText s .name t name) : (bound s exported docs keyword t).2 = [name] := by
  unfold bound
  simp only [ht, hname.roleText?, Bool.not_true, Bool.false_eq_true, if_false]
  repeat' split
  all_goals rfl

theorem names_bindings {names : List String}
    (h : List.Forall₂ (HasText s .name) (t.children.filter (Tree.is .variableDeclarator)) names) :
    (bindings s exported docs t).2 = names := by
  have hparts : ∀ cs : List Tree,
      (cs.filter Tree.isNamed).flatMap (fun c => (bound s exported docs (bindingKeyword t) c).2) =
        (cs.filter (Tree.is .variableDeclarator)).flatMap fun c =>
          (bound s exported docs (bindingKeyword t) c).2 := by
    intro cs
    induction cs with
    | nil => rfl
    | cons c cs ih =>
      cases hc : c.is .variableDeclarator with
      | true =>
        have hnamed : c.isNamed = true := by
          rw [Tree.is, beq_iff_eq] at hc
          simp [Tree.isNamed, hc]
        simp [hc, hnamed, ih]
      | false =>
        have hnothing : (bound s exported docs (bindingKeyword t) c).2 = [] := by
          simp [bound, hc, nothing]
        cases hnamed : c.isNamed <;> simp [hc, hnamed, hnothing, ih]
  show (t.namedChildren.map _).flatMap _ = names
  rw [List.flatMap_map, Tree.namedChildren, hparts]
  have hdeclarators : ∀ d ∈ t.children.filter (Tree.is .variableDeclarator),
      d.is .variableDeclarator = true := fun d hd => (List.mem_filter.1 hd).2
  generalize t.children.filter (Tree.is .variableDeclarator) = declarators at h hdeclarators
  induction h with
  | nil => rfl
  | cons hname _ ih =>
    obtain ⟨hd, hds⟩ := List.forall_mem_cons.1 hdeclarators
    rw [List.flatMap_cons, names_bound s exported docs hd hname, ih hds, List.singleton_append]

theorem names_declaration {names : List String} (h : Declares s t names) :
    (declaration s exported docs t).2 = names := by
  cases h with
  | @one kind name hkind ht hname =>
    have hk : t.kind? = some kind := by simp only [Tree.kind?, ht]
    simp only [namedKinds, List.mem_cons, List.not_mem_nil, or_false] at hkind
    rcases hkind with rfl | rfl | rfl | rfl | rfl | rfl | rfl | rfl <;>
      simp [declaration, hk, typeAlias, interface, classDeclaration, function, hname.roleText?]
  | bindings ht hnames =>
    rcases ht with ht | ht <;>
      simp only [declaration, Tree.kind?, ht, names_bindings s exported docs hnames]

end Declarations

/-! ### Export statements -/

section Statements

variable {s : Scope} {t : Tree} {form : ExportForm}

theorem Declares.token? {names : List String} (h : Declares s t names) : t.token? = none := by
  cases h with
  | one hkind ht hname => simp [Tree.token?, ht]
  | bindings ht hnames => rcases ht with ht | ht <;> simp [Tree.token?, ht]

theorem names_of_clause {clause : Tree} {names : List String} (h : Lists s clause names) :
    (clause.namedChildren.filter (Tree.is .exportSpecifier)).filterMap (specifierName? s) =
      names := by
  have hnamed : clause.namedChildren.filter (Tree.is .exportSpecifier) =
      clause.children.filter (Tree.is .exportSpecifier) := by
    rw [Tree.namedChildren, List.filter_filter]
    congr 1
    funext c
    cases hc : c.kind? <;> simp [Tree.is, Tree.isNamed, hc]
  rw [hnamed]
  obtain ⟨-, hspecifiers⟩ := h
  generalize clause.children.filter (Tree.is .exportSpecifier) = specifiers at hspecifiers
  induction hspecifiers with
  | nil => rfl
  | cons hname _ ih => rw [List.filterMap_cons_some hname.name?, ih]

/-! What is recorded, by what is found among the children. -/

theorem exports_of_declaration {inner : Tree} (hinner : t.inRole? .declaration = some inner)
    (docs : Option String) :
    (exportOf s docs t).exports = (declaration s true docs inner).2.map fun name =>
      ⟨name, if t.hasToken "default" then .default else .named, none, s.location t⟩ := by
  unfold exportOf
  simp only [hinner]
  show (declaration s true docs inner).1.exports ++ _ = _
  rw [exports_declaration, List.nil_append]

theorem exports_of_default (hinner : t.inRole? .declaration = none)
    (hdefault : t.hasToken "default" = true) (docs : Option String) :
    (exportOf s docs t).exports = [⟨"default", .default, none, s.location t⟩] := by
  unfold exportOf
  simp only [hinner, hdefault, if_true]
  rfl

theorem exports_of_clause {clause : Tree} {names : List String} {source : Option String}
    (hinner : t.inRole? .declaration = none) (hdefault : t.hasToken "default" = false)
    (hclause : t.find? .exportClause = some clause) (hnames : Lists s clause names)
    (hsource : (s.textOf? .source t).map unquoted = source) (docs : Option String) :
    (exportOf s docs t).exports = (ExportForm.listed names source).exports (s.location t) := by
  unfold exportOf
  simp only [hinner, hdefault, hclause, hsource, names_of_clause hnames, Bool.false_eq_true,
    if_false]
  rfl

theorem exports_of_star (hinner : t.inRole? .declaration = none)
    (hdefault : t.hasToken "default" = false) (hclause : t.find? .exportClause = none)
    (docs : Option String) :
    (exportOf s docs t).exports =
      if t.hasToken "*" then
        [⟨(((t.find? .namespaceExport).bind (Tree.find? .identifier)).map s.text).getD "*",
          .wildcard, (s.textOf? .source t).map unquoted, s.location t⟩]
      else [] := by
  unfold exportOf
  simp only [hinner, hdefault, hclause, Bool.false_eq_true, if_false]
  split <;> rfl

/-! What is recorded of each form. -/

section Forms

variable (hcomments : ∀ c ∈ t.children, c.is .comment = true → c.role = none) (docs : Option String)
include hcomments

theorem exports_spelled_declaration {decorators : List Tree} {word inner : Tree}
    {names : List String} (hsaid : said t = decorators ++ [word, inner])
    (hdecorators : ∀ d ∈ decorators, IsNode .decorator none d) (hword : IsMark "export" word)
    (hinner : inner.role = some .declaration) (hnames : Declares s inner names) :
    (exportOf s docs t).exports =
      (ExportForm.declaration false names).exports (s.location t) := by
  have hfound : t.inRole? .declaration = some inner := by
    rw [inRole?_eq hcomments, hsaid, List.find?_append, find?_decorators hdecorators]
    simp [hword.2, hinner]
  have hdefault : t.hasToken "default" = false := by
    rw [hasToken_eq, hsaid, List.any_append, any_decorators hdecorators]
    simp [hword.token?, hnames.token?]
  rw [exports_of_declaration hfound, names_declaration _ _ _ hnames, hdefault]
  rfl

theorem exports_spelled_defaultDeclaration {decorators : List Tree} {word mark inner : Tree}
    {names : List String} (hsaid : said t = decorators ++ [word, mark, inner])
    (hdecorators : ∀ d ∈ decorators, IsNode .decorator none d) (hword : IsMark "export" word)
    (hmark : IsMark "default" mark) (hinner : inner.role = some .declaration)
    (hnames : Declares s inner names) :
    (exportOf s docs t).exports = (ExportForm.declaration true names).exports (s.location t) := by
  have hfound : t.inRole? .declaration = some inner := by
    rw [inRole?_eq hcomments, hsaid, List.find?_append, find?_decorators hdecorators]
    simp [hword.2, hmark.2, hinner]
  have hdefault : t.hasToken "default" = true := by
    rw [hasToken_eq, hsaid, List.any_append, any_decorators hdecorators]
    simp [hmark.token?]
  rw [exports_of_declaration hfound, names_declaration _ _ _ hnames, hdefault]
  rfl

theorem exports_spelled_defaultValue {decorators stop : List Tree} {word mark value : Tree}
    (hsaid : said t = decorators ++ word :: mark :: value :: stop)
    (hdecorators : ∀ d ∈ decorators, IsNode .decorator none d) (hword : IsMark "export" word)
    (hmark : IsMark "default" mark) (hvalue : value.role = some .value)
    (hstop : IsOptional ";" stop) :
    (exportOf s docs t).exports = ExportForm.defaultValue.exports (s.location t) := by
  have hfound : t.inRole? .declaration = none := by
    rw [inRole?_eq hcomments, hsaid, List.find?_append, find?_decorators hdecorators]
    simp [hword.2, hmark.2, hvalue, hstop.find?_role]
  have hdefault : t.hasToken "default" = true := by
    rw [hasToken_eq, hsaid, List.any_append, any_decorators hdecorators]
    simp [hmark.token?]
  rw [exports_of_default hfound hdefault]
  rfl

theorem exports_spelled_listed {word clause : Tree} {type rest : List Tree} {names : List String}
    {source : Option String} (hsaid : said t = word :: type ++ clause :: rest)
    (hword : IsMark "export" word) (htype : IsOptional "type" type) (hlist : Lists s clause names)
    (hrest : Ends s source rest) :
    (exportOf s docs t).exports = (ExportForm.listed names source).exports (s.location t) := by
  have hfound : t.inRole? .declaration = none := by
    rw [inRole?_eq hcomments, hsaid, List.cons_append, List.find?_cons, List.find?_append,
      htype.find?_role, List.find?_cons, hrest.find?_declaration]
    simp [hword.2, hlist.1.2]
  have hdefault : t.hasToken "default" = false := by
    rw [hasToken_eq, hsaid, List.cons_append, List.any_cons, List.any_append,
      htype.any_token (by decide), List.any_cons, hrest.any_token (by decide) (by decide)]
    simp [hword.token?, hlist.1.token?]
  have hclause : t.find? .exportClause = some clause := by
    rw [find?_eq (by decide), hsaid, List.cons_append, List.find?_cons, List.find?_append,
      htype.find?_kind]
    simp [hword.is, hlist.1.is]
  have hsource : (s.textOf? .source t).map unquoted = source := by
    rw [Scope.textOf?, Tree.roleText?, inRole?_eq hcomments, hsaid, List.cons_append,
      List.find?_cons, List.find?_append, htype.find?_role, List.find?_cons]
    simpa [hword.2, hlist.1.2] using hrest.find?_source
  exact exports_of_clause hfound hdefault hclause hlist hsource docs

theorem exports_spelled_everything {word star : Tree} {rest : List Tree} {source : String}
    (hsaid : said t = word :: star :: rest) (hword : IsMark "export" word)
    (hstar : IsMark "*" star) (hrest : Ends s (some source) rest) :
    (exportOf s docs t).exports = (ExportForm.everything source).exports (s.location t) := by
  have hfound : t.inRole? .declaration = none := by
    simp [inRole?_eq hcomments, hsaid, hword.2, hstar.2, hrest.find?_declaration]
  have hdefault : t.hasToken "default" = false := by
    rw [hasToken_eq, hsaid, List.any_cons, List.any_cons,
      hrest.any_token (by decide) (by decide)]
    simp [hword.token?, hstar.token?]
  have hkind : ∀ kind, kind ≠ .comment → kind ≠ .string → t.find? kind = none := by
    intro kind hcomment hstring
    simp [find?_eq hcomment, hsaid, hword.is, hstar.is, hrest.find?_kind hstring]
  have htoken : t.hasToken "*" = true := by simp [hasToken_eq, hsaid, hstar.token?]
  have hsource : (s.textOf? .source t).map unquoted = some source := by
    simpa [Scope.textOf?, Tree.roleText?, inRole?_eq hcomments, hsaid, hword.2, hstar.2]
      using hrest.find?_source
  rw [exports_of_star hfound hdefault (hkind _ (by decide) (by decide)), htoken, hsource,
    hkind _ (by decide) (by decide)]
  rfl

/-- The star is a child of the node for the new name and not of the statement. -/
theorem exports_spelled_everythingAs {word renamed : Tree} {rest : List Tree} {source : String}
    (hsaid : said t = word :: renamed :: rest) (hword : IsMark "export" word)
    (hrenamed : IsNode .namespaceExport none renamed) (hrest : Ends s (some source) rest) :
    (exportOf s docs t).exports = [] := by
  have hfound : t.inRole? .declaration = none := by
    simp [inRole?_eq hcomments, hsaid, hword.2, hrenamed.2, hrest.find?_declaration]
  have hclause : t.find? .exportClause = none := by
    have hother : (Kind.namespaceExport == .exportClause) = false := by decide
    rw [find?_eq (by decide), hsaid, List.find?_cons, hword.is, List.find?_cons, hrenamed.is,
      hother]
    exact hrest.find?_kind (by decide)
  have htoken : ∀ text, text ≠ "export" → text ≠ "from" → text ≠ ";" →
      t.hasToken text = false := by
    intro text hexport hfrom hstop
    rw [hasToken_eq, hsaid, List.any_cons, List.any_cons, hrest.any_token hfrom hstop,
      hword.token?, hrenamed.token?]
    simp [hexport.symm]
  rw [exports_of_star hfound (htoken _ (by decide) (by decide) (by decide)) hclause,
    htoken _ (by decide) (by decide) (by decide)]
  rfl

end Forms

/-- What is recorded of an export statement: the exports that it stands for, and nothing where it
gives out everything of another module under one name. -/
theorem exports_exportOf (h : Says s t form) (docs : Option String) :
    (exportOf s docs t).exports = if form.isRenamed then [] else form.exports (s.location t) := by
  have hcomments := h.comments
  have hspells := h.spells
  generalize hsaid : said t = cs at hspells
  cases hspells with
  | declaration hdecorators hword hinner hnames =>
    exact exports_spelled_declaration hcomments docs hsaid hdecorators hword hinner hnames
  | defaultDeclaration hdecorators hword hmark hinner hnames =>
    exact exports_spelled_defaultDeclaration hcomments docs hsaid hdecorators hword hmark hinner
      hnames
  | defaultValue hdecorators hword hmark hvalue hstop =>
    exact exports_spelled_defaultValue hcomments docs hsaid hdecorators hword hmark hvalue hstop
  | listed hword htype hlist hrest =>
    exact exports_spelled_listed hcomments docs hsaid hword htype hlist hrest
  | everything hword hstar hrest =>
    exact exports_spelled_everything hcomments docs hsaid hword hstar hrest
  | everythingAs hword hrenamed hrest =>
    exact exports_spelled_everythingAs hcomments docs hsaid hword hrenamed.1 hrest

theorem exports_statement (h : Says s t form) (before : Option Tree) :
    (statement s before t).exports =
      if form.isRenamed then [] else form.exports (s.location t) := by
  have hkind : t.kind? = some .exportStatement := by simp [Tree.kind?, h.statement]
  simp only [statement, hkind]
  exact exports_exportOf h _

theorem exports_statement_of_ne (ht : t.is .exportStatement = false) (before : Option Tree) :
    (statement s before t).exports = [] := by
  unfold statement
  split
  · rfl
  · rename_i hkind
    simp [Tree.is, hkind] at ht
  · exact exports_declaration s false _

/-- The exports of a source are those of its export statements, one statement after the other. -/
theorem exports_ofTree {root : Tree} {forms : Tree → ExportForm}
    (h : ∀ t ∈ root.namedChildren, t.is .exportStatement = true → Says s t (forms t)) :
    (ofTree s root).exports =
      (root.namedChildren.filter (Tree.is .exportStatement)).flatMap fun t =>
        if (forms t).isRenamed then [] else (forms t).exports (s.location t) := by
  unfold ofTree
  generalize root.namedChildren = ts at h
  -- the node in front of a statement changes its documentation only
  suffices ∀ before, (statements s before ts).exports = _ from this none
  induction ts with
  | nil => exact fun _ => rfl
  | cons t ts ih =>
    intro before
    obtain ⟨ht, hts⟩ := List.forall_mem_cons.1 h
    show (statement s before t).exports ++ (statements s (some t) ts).exports = _
    rw [ih hts (some t)]
    cases hexport : t.is .exportStatement with
    | true =>
      rw [exports_statement (ht hexport) before, List.filter_cons_of_pos hexport,
        List.flatMap_cons]
    | false =>
      rw [exports_statement_of_ne hexport before, List.filter_cons_of_neg (by simp [hexport]),
        List.nil_append]

/-- An export statement of the grammar is recorded as what it stands for, one export for each name
that it gives out and in their order, in every form but one: of everything of another module under
one name nothing is recorded. -/
theorem exports_statement_iff (h : Says s t form) (before : Option Tree) :
    ((statement s before t).exports = form.exports (s.location t) ↔ form.isRenamed = false) ∧
      (form.isRenamed = true → (statement s before t).exports = []) := by
  rw [exports_statement h before]
  cases form <;> simp [ExportForm.isRenamed, ExportForm.exports]

end Statements

section Sample

open Preserved

/-- A statement that gives out two names of another module, one of them under another name. -/
def relayingScope : Scope :=
  ⟨"export \x7b send, Mailer as Client \x7d from './mailer';", ⟨"cap/a.ts"⟩⟩

def relayedNames : Tree :=
  .node (.kind .exportClause) none (inFirstLine 7 33)
    [leaf (.token "\x7b") none 7 8,
     .node (.kind .exportSpecifier) none (inFirstLine 9 13)
      [leaf (.kind .identifier) (some .name) 9 13],
     leaf (.token ",") none 13 14,
     .node (.kind .exportSpecifier) none (inFirstLine 15 31)
      [leaf (.kind .identifier) (some .name) 15 21, leaf (.token "as") none 22 24,
       leaf (.kind .identifier) (some .alias) 25 31],
     leaf (.token "\x7d") none 32 33]

def quotedSource (start stop : Nat) : Tree :=
  .node (.kind .string) (some .source) (inFirstLine start stop)
    [leaf (.token "'") none start (start + 1),
     leaf (.kind .textFragment) none (start + 1) (stop - 1),
     leaf (.token "'") none (stop - 1) stop]

def relayingStatement : Tree :=
  .node (.kind .exportStatement) none (inFirstLine 0 50)
    [leaf (.token "export") none 0 6, relayedNames, leaf (.token "from") none 34 38,
     quotedSource 39 49, leaf (.token ";") none 49 50]

theorem ends_quotedSource {s : Scope} {source : String} {start stop place : Nat}
    (h : unquoted (s.text (quotedSource start stop)) = source) :
    Ends s (some source) [leaf (.token "from") none place (place + 4), quotedSource start stop,
      leaf (.token ";") none stop (stop + 1)] :=
  h ▸ Ends.source ⟨rfl, rfl⟩ ⟨rfl, rfl⟩ (.inr ⟨_, rfl, rfl, rfl⟩)

theorem says_relayingStatement :
    Says relayingScope relayingStatement (.listed ["send", "Client"] (some "./mailer")) := by
  refine ⟨rfl, by decide, ?_⟩
  have hlist : Lists relayingScope relayedNames ["send", "Client"] :=
    ⟨⟨rfl, rfl⟩, .cons (.asNamed rfl ⟨_, rfl, by decide +kernel⟩)
      (.cons (.underAlias ⟨_, rfl, by decide +kernel⟩) .nil)⟩
  have hsource : unquoted (relayingScope.text (quotedSource 39 49)) = "./mailer" := by
    decide +kernel
  exact Spells.listed ⟨rfl, rfl⟩ (.inl rfl) hlist (ends_quotedSource hsource)

/-- Both names are recorded with the other module. -/
theorem exports_relayingStatement :
    Says relayingScope relayingStatement (.listed ["send", "Client"] (some "./mailer")) ∧
      (statement relayingScope none relayingStatement).exports =
        [⟨"send", .again, some "./mailer", ⟨⟨"cap/a.ts"⟩, 1, 1⟩⟩,
          ⟨"Client", .again, some "./mailer", ⟨⟨"cap/a.ts"⟩, 1, 1⟩⟩] :=
  ⟨says_relayingStatement, (exports_statement_iff says_relayingStatement none).1.2 rfl⟩

/-- A statement that gives out everything of another module under one name. -/
def bundlingScope : Scope := ⟨"export * as util from './util';", ⟨"cap/a.ts"⟩⟩

def bundledModule : Tree :=
  .node (.kind .namespaceExport) none (inFirstLine 7 16)
    [leaf (.token "*") none 7 8, leaf (.token "as") none 9 11,
     leaf (.kind .identifier) none 12 16]

def bundlingStatement : Tree :=
  .node (.kind .exportStatement) none (inFirstLine 0 31)
    [leaf (.token "export") none 0 6, bundledModule, leaf (.token "from") none 17 21,
     quotedSource 22 30, leaf (.token ";") none 30 31]

/-- It stands for one export, and nothing is recorded. -/
theorem exports_bundlingStatement :
    ∃ form, Says bundlingScope bundlingStatement form ∧
      form.exports (bundlingScope.location bundlingStatement) =
        [⟨"util", .wildcard, some "./util", ⟨⟨"cap/a.ts"⟩, 1, 1⟩⟩] ∧
      (statement bundlingScope none bundlingStatement).exports = [] := by
  refine ⟨.everythingAs "util" "./util", ⟨rfl, by decide, ?_⟩, rfl, by decide +kernel⟩
  have hname : Renames bundlingScope bundledModule "util" :=
    ⟨⟨rfl, rfl⟩, _, _, _, rfl, ⟨rfl, rfl⟩, ⟨rfl, rfl⟩, by decide +kernel⟩
  have hsource : unquoted (bundlingScope.text (quotedSource 22 30)) = "./util" := by decide +kernel
  exact Spells.everythingAs ⟨rfl, rfl⟩ hname (ends_quotedSource hsource)

end Sample

end Extraction
end ServiceCapsule
