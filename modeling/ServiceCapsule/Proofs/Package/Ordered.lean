import ServiceCapsule.Proofs.Capsule.Joined
import ServiceCapsule.Proofs.Package.Carried

/-!
# The order of what a file carries

Code that runs when a file is loaded sees what stands above it. A file carries its error classes, or
its plain classes, in the order in which the sources declare their names first, source after source:
a class stands below its base exactly if the base is declared first. Module state stands above all
functions and classes, also above a class that it is made of.
-/

namespace ServiceCapsule

/-- Whether one name is declared before another one, each where it is declared first. -/
def DeclaredBefore (names : List String) (a b : String) : Prop := names.idxOf a < names.idxOf b

instance (names : List String) (a b : String) : Decidable (DeclaredBefore names a b) :=
  inferInstanceAs (Decidable (_ < _))

section

variable {names front : List String} {name a b : String}

theorem declaredBefore_cons :
    DeclaredBefore (name :: names) a b ↔ b ≠ name ∧ (a = name ∨ DeclaredBefore names a b) := by
  unfold DeclaredBefore
  by_cases hb : b = name
  · simp [hb]
  · rw [List.idxOf_cons_ne _ (Ne.symm hb)]
    by_cases ha : a = name
    · simp [ha, hb]
    · rw [List.idxOf_cons_ne _ (Ne.symm ha)]
      simp [ha, hb]

theorem declaredBefore_append (ha : a ∉ front) (hb : b ∉ front) :
    DeclaredBefore (front ++ names) a b ↔ DeclaredBefore names a b := by
  unfold DeclaredBefore
  rw [List.idxOf_append_of_notMem ha, List.idxOf_append_of_notMem hb, Nat.add_lt_add_iff_left]

theorem declaredBefore_of_append (ha : a ∈ front) (hb : b ∉ front) :
    DeclaredBefore (front ++ names) a b := by
  have hlt := List.idxOf_lt_length_of_mem ha
  rw [DeclaredBefore, List.idxOf_append_of_mem ha, List.idxOf_append_of_notMem hb]
  omega

theorem declaredBefore_append_cons (h : (front ++ a :: names).Nodup)
    (hb : b ∈ front ++ a :: names) :
    DeclaredBefore (front ++ a :: names) a b ↔ b ∈ names := by
  obtain ⟨-, hafter, hapart⟩ := List.nodup_append.1 h
  have hfront {x : String} (hx : x ∈ a :: names) : x ∉ front := fun hmem => hapart x hmem x hx rfl
  rcases List.mem_append.1 hb with hb | hb
  · exact iff_of_false (Nat.lt_asymm (declaredBefore_of_append hb (hfront List.mem_cons_self)))
      fun hmem => hfront (List.mem_cons_of_mem _ hmem) hb
  · rw [declaredBefore_append (hfront List.mem_cons_self) (hfront hb), declaredBefore_cons]
    constructor
    · exact fun hbefore => (List.mem_cons.1 hb).resolve_left hbefore.1
    · exact fun hmem => ⟨fun heq => (List.nodup_cons.1 hafter).1 (heq ▸ hmem), .inl rfl⟩

theorem declaredBefore_filter {p : String → Bool} (ha : p a = true) (hb : p b = true) :
    DeclaredBefore (names.filter p) a b ↔ DeclaredBefore names a b := by
  induction names with
  | nil => rfl
  | cons name names ih =>
    rw [List.filter_cons, declaredBefore_cons]
    split
    · rw [declaredBefore_cons, ih]
    · rename_i hname
      have hne {x : String} (hx : p x = true) : x ≠ name := fun h => hname (h ▸ hx)
      simp [ih, hne ha, hne hb]

/-- Leaving out names does not change the order of those that are admitted. -/
theorem declaredBefore_admitted {reserved taken : List String}
    (ha : a ∈ Admission.admitted reserved taken names)
    (hb : b ∈ Admission.admitted reserved taken names) :
    DeclaredBefore (Admission.admitted reserved taken names) a b ↔ DeclaredBefore names a b := by
  induction names generalizing taken with
  | nil => rfl
  | cons name names ih =>
    rw [declaredBefore_cons]
    by_cases hname : reserved.contains name || taken.contains name
    · have hskip : Admission.admitted reserved taken (name :: names) =
          Admission.admitted reserved taken names := if_pos hname
      have hne {x : String} (hx : x ∈ Admission.admitted reserved taken names) : x ≠ name := by
        rintro rfl
        have hfree := (Admission.mem_admitted_iff.1 hx).2
        simp [hfree] at hname
      rw [hskip] at ha hb ⊢
      simp [ih ha hb, hne ha, hne hb]
    · have hkeep : Admission.admitted reserved taken (name :: names) =
          name :: Admission.admitted reserved (name :: taken) names := if_neg hname
      rw [hkeep, List.mem_cons] at ha hb
      rw [hkeep, declaredBefore_cons]
      refine and_congr_right fun hne => or_congr_right' fun hne' => ?_
      exact ih (ha.resolve_left hne') (hb.resolve_left hne)

end

/-! ### Above and below in a draft -/

namespace Draft

def CarriesAbove (d : Draft) (a b : CarriedDeclaration) : Prop :=
  ∃ above docsA between docsB below,
    d = above ++ .carried a.name docsA a.code ::
      (between ++ .carried b.name docsB b.code :: below)

theorem carriesAbove_iff {d : Draft} {a b : CarriedDeclaration}
    (hnames : ((carriedOver d).map Prod.fst).Nodup) (ha : (a.name, a.code) ∈ carriedOver d)
    (hb : (b.name, b.code) ∈ carriedOver d) :
    CarriesAbove d a b ↔ DeclaredBefore ((carriedOver d).map Prod.fst) a.name b.name := by
  -- the names around the item of a declaration
  have haround {above rest : Draft} {docs : List String} :
      (carriedOver (above ++ .carried a.name docs a.code :: rest)).map Prod.fst =
        (carriedOver above).map Prod.fst ++ a.name :: (carriedOver rest).map Prod.fst := by
    simp [Item.carriedOver]
  constructor
  · rintro ⟨above, docsA, between, docsB, below, rfl⟩
    have hname := List.mem_map_of_mem (f := Prod.fst) hb
    rw [haround] at hnames hname ⊢
    exact (declaredBefore_append_cons hnames hname).2 (by simp [Item.carriedOver])
  · intro hbefore
    obtain ⟨docsA, hitem⟩ := mem_of_mem_carriedOver ha
    obtain ⟨above, rest, rfl⟩ := List.append_of_mem hitem
    have hname := List.mem_map_of_mem (f := Prod.fst) hb
    rw [haround] at hname hbefore
    obtain ⟨other, hother, heq⟩ :=
      List.mem_map.1 ((declaredBefore_append_cons (haround ▸ hnames) hname).1 hbefore)
    -- names are distinct, so what has the name below is the declaration
    obtain rfl : other = (b.name, b.code) :=
      List.inj_on_of_nodup_map hnames (by simp [hother]) hb heq
    obtain ⟨docsB, hitem⟩ := mem_of_mem_carriedOver hother
    obtain ⟨between, below, rfl⟩ := List.append_of_mem hitem
    exact ⟨above, docsA, between, docsB, below, rfl⟩

end Draft

namespace Plan

open CarriedDeclaration

variable {p : Plan} {k : FileKind}

theorem map_name_carriedIn_sublist (p : Plan) (k : FileKind) :
    ((p.carriedIn k).map (·.name)).Sublist p.preserved.names := by
  refine List.Sublist.trans ?_ p.map_name_placed_sublist
  obtain ⟨before, after, hall⟩ := List.append_of_mem (FileKind.mem_all k)
  simp only [placed, hall, List.flatMap_append, List.flatMap_cons, List.map_append, List.map_map]
  exact ((List.sublist_append_left _ _).trans (List.sublist_append_right _ _))

theorem IsApart.nodup_carriedIn (h : p.IsApart) (k : FileKind) :
    ((p.carriedIn k).map (·.name)).Nodup :=
  h.nodup.sublist (p.map_name_carriedIn_sublist k)

theorem IsApart.name_notMem (h : p.IsApart) {before after : List CarriedDeclaration}
    (hcarried : p.carriedIn k = before ++ after) {d : CarriedDeclaration} (hd : d ∈ after) :
    d.name ∉ before.map (·.name) := by
  have hnodup := h.nodup_carriedIn k
  rw [hcarried, List.map_append] at hnodup
  exact fun hmem => (List.nodup_append.1 hnodup).2.2 _ hmem _ (List.mem_map_of_mem hd) rfl

/-- What a file carries stands in the order of its declarations. -/
theorem IsApart.carriesAbove_iff (h : p.IsApart) {a b : CarriedDeclaration}
    (ha : a ∈ p.carriedIn k) (hb : b ∈ p.carriedIn k) :
    Draft.CarriesAbove (Draft.sections p k) a b ↔
      DeclaredBefore ((p.carriedIn k).map (·.name)) a.name b.name := by
  have hmap : (Draft.carriedOver (Draft.sections p k)).map Prod.fst =
      (p.carriedIn k).map (·.name) := by
    rw [Draft.carriedOver_sections, List.map_map]
    rfl
  have hmem {d : CarriedDeclaration} (hd : d ∈ p.carriedIn k) :
      (d.name, d.code) ∈ Draft.carriedOver (Draft.sections p k) := by
    rw [Draft.carriedOver_sections]
    exact List.mem_map_of_mem hd
  rw [Draft.carriesAbove_iff (hmap ▸ h.nodup_carriedIn k) (hmem ha) (hmem hb), hmap]

theorem IsApart.carriesAbove_iff_of_kind (h : p.IsApart) {α : Type} {nameOf : α → String}
    {of : α → CarriedDeclaration} (hof : ∀ a, (of a).name = nameOf a) {kept : List α}
    {before : List CarriedDeclaration} (hcarried : p.carriedIn k = before ++ kept.map of)
    {a b : α} (ha : a ∈ kept) (hb : b ∈ kept) :
    Draft.CarriesAbove (Draft.sections p k) (of a) (of b) ↔
      DeclaredBefore (kept.map nameOf) (nameOf a) (nameOf b) := by
  have hnames : (kept.map of).map (·.name) = kept.map nameOf := by
    rw [List.map_map]
    exact List.map_congr_left fun a _ => hof a
  have hmem {x : α} (hx : x ∈ kept) : of x ∈ p.carriedIn k :=
    hcarried ▸ List.mem_append_right _ (List.mem_map_of_mem hx)
  have hfront {x : α} (hx : x ∈ kept) : (of x).name ∉ before.map (·.name) :=
    h.name_notMem hcarried (List.mem_map_of_mem hx)
  rw [h.carriesAbove_iff (hmem ha) (hmem hb), hcarried, List.map_append,
    declaredBefore_append (hfront ha) (hfront hb), hnames, hof, hof]

theorem IsApart.carriesAbove_of_append (h : p.IsApart) {before after : List CarriedDeclaration}
    (hcarried : p.carriedIn k = before ++ after) {a b : CarriedDeclaration} (ha : a ∈ before)
    (hb : b ∈ after) : Draft.CarriesAbove (Draft.sections p k) a b := by
  rw [h.carriesAbove_iff (hcarried ▸ List.mem_append_left _ ha)
    (hcarried ▸ List.mem_append_right _ hb), hcarried, List.map_append]
  exact declaredBefore_of_append (List.mem_map_of_mem ha) (h.name_notMem hcarried hb)

end Plan

/-! ### The order of the sources -/

namespace Admission

variable {α : Type} {reserved taken : List String} {target : FileKind} {nameOf : α → String}
  {as : List α} {a b : α}

theorem declaredBefore_kept_iff (ha : a ∈ (ofList reserved target nameOf taken as).kept)
    (hb : b ∈ (ofList reserved target nameOf taken as).kept) :
    DeclaredBefore ((ofList reserved target nameOf taken as).kept.map nameOf)
        (nameOf a) (nameOf b) ↔
      DeclaredBefore (as.map nameOf) (nameOf a) (nameOf b) := by
  have hadmitted {x : α} (hx : x ∈ (ofList reserved target nameOf taken as).kept) :
      nameOf x ∈ admitted reserved taken (as.map nameOf) :=
    map_kept_ofList reserved target nameOf taken as ▸ List.mem_map_of_mem hx
  rw [map_kept_ofList, declaredBefore_admitted (hadmitted ha) (hadmitted hb)]

end Admission

namespace Preserved

variable {reserved : List String} {a : Analysis}

theorem errors_declaredBefore_iff {e e' : ErrorClass} (he : e ∈ (ofAnalysis reserved a).errors)
    (he' : e' ∈ (ofAnalysis reserved a).errors) :
    DeclaredBefore ((ofAnalysis reserved a).errors.map (·.name)) e.name e'.name ↔
      DeclaredBefore (a.errors.map (·.name)) e.name e'.name :=
  Admission.declaredBefore_kept_iff he he'

/-- Leaving out error classes and what has their names does not change the order of the others. -/
theorem classes_declaredBefore_iff {c c' : ClassDeclaration}
    (hc : c ∈ (ofAnalysis reserved a).classes) (hc' : c' ∈ (ofAnalysis reserved a).classes) :
    DeclaredBefore ((ofAnalysis reserved a).classes.map (·.name)) c.name c'.name ↔
      DeclaredBefore (a.classes.map (·.name)) c.name c'.name := by
  have hplain : (plainClasses a).map (·.name) =
      (a.classes.map (·.name)).filter fun name => !(a.errors.map (·.name)).contains name := by
    rw [plainClasses, List.filter_map]
    rfl
  have hfree {x : ClassDeclaration} (hx : x ∈ (ofAnalysis reserved a).classes) :
      (!(a.errors.map (·.name)).contains x.name) = true :=
    (List.mem_filter.1 ((Admission.kept_sublist ..).subset hx)).2
  refine (Admission.declaredBefore_kept_iff hc hc').trans ?_
  rw [hplain]
  exact declaredBefore_filter (hfree hc) (hfree hc')

end Preserved

namespace Plan

open CarriedDeclaration

/-- Files carry error classes and plain classes in the order in which the sources, one after the
other, declare their names first, so that a class stands below its base exactly if the base is
declared before it. Module state stands above all functions and classes. -/
theorem carried_in_order (root : Path) (manifest : Option Manifest) (paths : List Path)
    (facts : List SourceFacts) (time : Timestamp) {mode : Mode} (hmode : mode ≠ .manual) :
    let c := ParsedCapsule.ofFacts root manifest paths facts
    let p := ofCapsule c mode time
    let classes := facts.flatMap (·.analysis.classes)
    ∃ drafts : FileKind → Draft, (∀ k, Draft.ofKind p k = .ok (drafts k)) ∧
      (∀ e ∈ p.preserved.errors, ∀ e' ∈ p.preserved.errors,
        Draft.CarriesAbove (drafts .errors) (ofError e) (ofError e') ↔
          DeclaredBefore ((classes.filter (Analysis.isError classes)).map (·.name))
            e.name e'.name) ∧
      (∀ k ∈ p.preserved.classes, ∀ k' ∈ p.preserved.classes,
        Draft.CarriesAbove (drafts .utils) (ofClass k) (ofClass k') ↔
          DeclaredBefore (classes.map (·.name)) k.name k'.name) ∧
      ∀ v ∈ p.preserved.vars,
        (∀ f ∈ p.preserved.functions,
          Draft.CarriesAbove (drafts .utils) (ofVariable v) (ofFunction f)) ∧
        ∀ k ∈ p.preserved.classes,
          Draft.CarriesAbove (drafts .utils) (ofVariable v) (ofClass k) := by
  intro c p classes
  have hclasses : c.analysis.classes = classes := by
    show (Analysis.concat _).classes = _
    rw [Analysis.classes_concat, List.flatMap_map]
  have herrors : c.analysis.errors.map (·.name) =
      (classes.filter (Analysis.isError classes)).map (·.name) := by
    rw [← hclasses, ← Analysis.map_name_errorClasses]
    rfl
  have hapart : p.IsApart := isApart_ofCapsule c mode time
  have hcode : p.carriesCode = true := by simpa [p, carriesCode, ofCapsule] using hmode
  have hutils : p.carriedIn .utils = p.preserved.vars.map ofVariable ++
      (p.preserved.functions.map ofFunction ++ p.preserved.classes.map ofClass) := by
    rw [← List.append_assoc]
    exact if_pos hcode
  refine ⟨Draft.sections p, Draft.ofKind_ofCapsule c mode time, ?_, ?_, ?_⟩
  · intro e he e' he'
    rw [hapart.carriesAbove_iff_of_kind (fun _ => rfl) (List.nil_append _).symm he he', ← herrors]
    exact Preserved.errors_declaredBefore_iff he he'
  · intro k hk k' hk'
    rw [← List.append_assoc] at hutils
    rw [hapart.carriesAbove_iff_of_kind (fun _ => rfl) hutils hk hk', ← hclasses]
    exact Preserved.classes_declaredBefore_iff hk hk'
  · intro v hv
    have hstate := List.mem_map_of_mem (f := ofVariable) hv
    refine ⟨fun f hf => ?_, fun k hk => ?_⟩
    · exact hapart.carriesAbove_of_append hutils hstate
        (List.mem_append_left _ (List.mem_map_of_mem hf))
    · exact hapart.carriesAbove_of_append hutils hstate
        (List.mem_append_right _ (List.mem_map_of_mem hk))

section

def shape : ClassDeclaration :=
  ⟨"Shape", true, none, ⟨⟨"shapes/b.ts"⟩, 1, 8⟩, none, [], [], [], false, "class Shape \x7b\x7d"⟩

def circle : ClassDeclaration :=
  ⟨"Circle", true, none, ⟨⟨"shapes/a.ts"⟩, 1, 8⟩, some "Shape", [], [], [], false,
    "class Circle extends Shape \x7b\x7d"⟩

/-- State that is made of a class. -/
def origin : VariableDeclaration :=
  ⟨"origin", false, none, ⟨⟨"shapes/a.ts"⟩, 2, 5⟩, "let origin = new Shape();"⟩

def shapeFacts : SourceFacts :=
  ⟨{ Analysis.empty with classes := [shape] }, ⟨⟨"shapes/b.ts"⟩, 1, 1⟩, false⟩

def circleFacts : SourceFacts :=
  ⟨{ Analysis.empty with classes := [circle], vars := [origin] }, ⟨⟨"shapes/a.ts"⟩, 2, 1⟩, false⟩

def shapesCapsule (facts : List SourceFacts) : ParsedCapsule :=
  ParsedCapsule.ofFacts ⟨"shapes"⟩ none [⟨"shapes/a.ts"⟩, ⟨"shapes/b.ts"⟩] facts

end

/-- A class stands below its base where the source of the base comes first. -/
theorem carried_in_order_shapesCapsule :
    let p := ofCapsule (shapesCapsule [shapeFacts, circleFacts]) .auto default
    Mode.auto ≠ .manual ∧ ∃ d : Draft, Draft.ofKind p .utils = .ok d ∧
      Draft.CarriesAbove d (ofClass shape) (ofClass circle) ∧
      Draft.CarriesAbove d (ofVariable origin) (ofClass shape) := by
  intro p
  have hmode : Mode.auto ≠ .manual := by decide
  have hclasses : p.preserved.classes = [shape, circle] := by decide
  have hvars : p.preserved.vars = [origin] := by decide
  obtain ⟨drafts, hdrafts, -, horder, hstate⟩ := carried_in_order ⟨"shapes"⟩ none
    [⟨"shapes/a.ts"⟩, ⟨"shapes/b.ts"⟩] [shapeFacts, circleFacts] default hmode
  have hshape : shape ∈ p.preserved.classes := hclasses ▸ List.mem_cons_self
  refine ⟨hmode, drafts .utils, hdrafts .utils, ?_, ?_⟩
  · exact (horder shape hshape circle (hclasses ▸ by simp)).2 (by decide)
  · exact (hstate origin (hvars ▸ List.mem_cons_self)).2 shape hshape

/-- A class stands above its base where the source of the base comes last, and state stands above
the class that it is made of. -/
theorem base_below_shapesCapsule :
    let p := ofCapsule (shapesCapsule [circleFacts, shapeFacts]) .auto default
    circle ∈ p.preserved.classes ∧ shape ∈ p.preserved.classes ∧ origin ∈ p.preserved.vars ∧
      circle.base = some shape.name ∧ ∃ d : Draft, Draft.ofKind p .utils = .ok d ∧
        ¬ Draft.CarriesAbove d (ofClass shape) (ofClass circle) ∧
        ¬ Draft.CarriesAbove d (ofClass shape) (ofVariable origin) := by
  intro p
  have hcircle : circle ∈ p.preserved.classes := by decide
  have hshape : shape ∈ p.preserved.classes := by decide
  have horigin : origin ∈ p.preserved.vars := by decide
  have hnames : (p.carriedIn .utils).map (·.name) = ["origin", "Circle", "Shape"] := by decide
  have hapart : p.IsApart := isApart_ofCapsule _ _ _
  have hutils := mem_carriedIn_iff.2 (Carries.plainClass rfl hshape)
  refine ⟨hcircle, hshape, horigin, rfl, _, Draft.ofKind_ofCapsule _ _ _ .utils, ?_, ?_⟩
  · rw [hapart.carriesAbove_iff hutils (mem_carriedIn_iff.2 (.plainClass rfl hcircle)), hnames]
    decide
  · rw [hapart.carriesAbove_iff hutils (mem_carriedIn_iff.2 (.state rfl horigin)), hnames]
    decide

end Plan
end ServiceCapsule
