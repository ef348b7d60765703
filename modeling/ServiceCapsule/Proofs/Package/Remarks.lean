import ServiceCapsule.Proofs.Package.Formatted
import ServiceCapsule.Proofs.Package.Siblings
import ServiceCapsule.TypeScript.Lexeme

/-!
# Remarks as comments

Declarations that are left out, and all state, functions and classes where a human does the
migration, are listed in line comments. A line comment ends with its line, but what is listed is
text of the sources that may go on over more lines. So there are only comments exactly if each
further line of what is listed is blank or starts as a comment itself.
-/

namespace ServiceCapsule

open Text

namespace Code

def commentLines (cs : List Char) : List (List Char) := splitAtEach TypeScript.endsLine cs

def IsRemark (line : List Char) : Prop :=
  (line.all isBlank || ['/', '/'].isPrefixOf line) = true

instance : DecidablePred IsRemark := fun _ => inferInstanceAs (Decidable (_ = true))

/-- Whether each line of a text is blank or a line comment. -/
def OnlyRemarks (cs : List Char) : Prop := ∀ line ∈ commentLines cs, IsRemark line

/-- Whether a text is all in comments once its first line is in one. -/
def StaysComment (text : String) : Prop :=
  ∀ line ∈ (commentLines text.toList).tail, IsRemark line

instance : DecidablePred StaysComment := fun text =>
  inferInstanceAs (Decidable (∀ line ∈ (commentLines text.toList).tail, _))

theorem onlyRemarks_append_newline (as bs : List Char) :
    OnlyRemarks (as ++ '\n' :: bs) ↔ OnlyRemarks as ∧ OnlyRemarks bs := by
  have hlines : commentLines (as ++ '\n' :: bs) = commentLines as ++ commentLines bs :=
    splitAtEach_append_cons rfl as bs
  simp only [OnlyRemarks, hlines, List.forall_mem_append]

theorem onlyRemarks_joined (ls : List (List Char)) :
    OnlyRemarks (joined ls) ↔ ∀ line ∈ ls, OnlyRemarks line := by
  induction ls with
  | nil =>
    have hnone : OnlyRemarks (joined []) := List.forall_mem_singleton.2 rfl
    simpa using hnone
  | cons line ls ih => rw [joined_cons, onlyRemarks_append_newline, ih, List.forall_mem_cons]

theorem onlyRemarks_note (text : String) :
    OnlyRemarks ("// " ++ text).toList ↔ StaysComment text := by
  have hchars : ("// " ++ text).toList = '/' :: '/' :: ' ' :: text.toList := by simp
  cases hlines : splitAtEach TypeScript.endsLine text.toList with
  | nil => exact absurd hlines (splitAtEach_ne_nil _ _)
  | cons first more =>
    have hnote : commentLines ("// " ++ text).toList = ('/' :: '/' :: ' ' :: first) :: more := by
      rw [hchars, commentLines]
      simp [splitAtEach, hlines, TypeScript.endsLine]
    have hfirst : IsRemark ('/' :: '/' :: ' ' :: first) := by simp [IsRemark]
    rw [OnlyRemarks, hnote, StaysComment, commentLines, hlines, List.forall_mem_cons]
    exact and_iff_right hfirst

/-- A text on one line is all in the comment that it starts in. -/
theorem staysComment_of_forall {text : String}
    (h : ∀ c ∈ text.toList, TypeScript.endsLine c = false) : StaysComment text := by
  have hline : commentLines text.toList = [text.toList] := splitAtEach_of_forall h
  simp [StaysComment, hline]

end Code

namespace Draft

open Code

variable {p : Plan} {k : FileKind} {d e : Draft}

def IsRemarks (d : Draft) : Prop := ∀ item ∈ d, item = .gap ∨ ∃ text, item = .note text

theorem isRemarks_nil : IsRemarks [] := List.forall_mem_nil _

theorem isRemarks_append : IsRemarks (d ++ e) ↔ IsRemarks d ∧ IsRemarks e :=
  List.forall_mem_append

theorem isRemarks_gap_cons : IsRemarks (.gap :: d) ↔ IsRemarks d :=
  List.forall_mem_cons.trans (and_iff_right (.inl rfl))

theorem isRemarks_map_note {α : Type} (as : List α) (textOf : α → String) :
    IsRemarks (as.map fun a => .note (textOf a)) :=
  List.forall_mem_map.2 fun a _ => .inr ⟨textOf a, rfl⟩

theorem text_append (d e : Draft) : text (d ++ e) = text d ++ text e := by
  apply String.toList_injective
  rw [String.toList_append, toList_text, toList_text, toList_text, lines_append, List.map_append,
    joined_append]

theorem onlyRemarks_text_append (d e : Draft) : OnlyRemarks (text (d ++ e)).toList ↔
    OnlyRemarks (text d).toList ∧ OnlyRemarks (text e).toList := by
  simp only [toList_text, onlyRemarks_joined, lines_append, List.map_append,
    List.forall_mem_append]

theorem onlyRemarks_text (h : IsRemarks d) :
    OnlyRemarks (text d).toList ↔ ∀ s, .note s ∈ d → StaysComment s := by
  rw [toList_text, onlyRemarks_joined, List.forall_mem_map]
  constructor
  · intro hall s hs
    exact (onlyRemarks_note s).1 (hall _ (List.mem_flatMap.2 ⟨_, hs, List.mem_singleton_self _⟩))
  · intro hall line hline
    obtain ⟨item, hitem, hline⟩ := List.mem_flatMap.1 hline
    rcases h item hitem with rfl | ⟨s, rfl⟩
    · obtain rfl := List.mem_singleton.1 hline
      exact List.forall_mem_singleton.2 rfl
    · obtain rfl := List.mem_singleton.1 hline
      exact (onlyRemarks_note s).2 (hall s hitem)

/-! ### What is left out -/

def skippedText (s : Skipped) : String :=
  "Skipped original declaration " ++ s.name ++ ": " ++ s.reason.message

theorem remarks_cases (p : Plan) (k : FileKind) :
    p.preserved.skippedFor k = [] ∧ remarks p k = [] ∨
      remarks p k = .gap ::
        (p.preserved.skippedFor k).map (fun s => .note (skippedText s)) ++ [.gap] := by
  unfold remarks
  split
  · rename_i hnone
    exact .inl ⟨hnone, rfl⟩
  · exact .inr rfl

theorem isRemarks_remarks : IsRemarks (remarks p k) := by
  rcases remarks_cases p k with ⟨-, h⟩ | h
  · exact h ▸ isRemarks_nil
  · rw [h, List.cons_append, isRemarks_gap_cons, isRemarks_append, isRemarks_gap_cons]
    exact ⟨isRemarks_map_note _ _, isRemarks_nil⟩

theorem note_mem_remarks_iff {text : String} :
    .note text ∈ remarks p k ↔ ∃ s ∈ p.preserved.skippedFor k, skippedText s = text := by
  rcases remarks_cases p k with ⟨hnone, h⟩ | h
  · simp [h, hnone]
  · simp [h]

theorem onlyRemarks_remarks : OnlyRemarks (text (remarks p k)).toList ↔
    ∀ s ∈ p.preserved.skippedFor k, StaysComment (skippedText s) := by
  rw [onlyRemarks_text isRemarks_remarks]
  simp only [note_mem_remarks_iff, forall_exists_index, and_imp, forall_apply_eq_imp_iff₂]

/-! ### What a human migrates -/

/-- The remarks on state, functions and classes that a human migrates. -/
def listedTexts (p : Plan) : List String :=
  p.preserved.vars.map (fun v =>
      "  state " ++ Text.trim v.sourceText ++ "  " ++ Plan.placeText v.location) ++
    p.preserved.functions.map (fun f =>
      "  function " ++ signature f ++ "  " ++ Plan.placeText f.location) ++
    p.preserved.classes.map (fun c =>
      "  class " ++ c.name ++ " with " ++ Nat.repr c.methods.length ++ " method(s)  " ++
        Plan.placeText c.location)

theorem listedUtils_cases (p : Plan) :
    listedTexts p = [] ∧ listedUtils p = [] ∨
      listedUtils p = .gap ::
        .note "Manual migration required; these were not carried over:" ::
          (listedTexts p).map .note := by
  unfold listedUtils
  split
  · rename_i hnone
    obtain ⟨⟨hfunctions, hclasses⟩, hvars⟩ : (p.preserved.functions = [] ∧
        p.preserved.classes = []) ∧ p.preserved.vars = [] := by
      simpa using hnone
    exact .inl ⟨by simp [listedTexts, hfunctions, hclasses, hvars], rfl⟩
  · refine .inr ?_
    simp [listedTexts, Function.comp_def]

theorem isRemarks_listedUtils : IsRemarks (listedUtils p) := by
  rcases listedUtils_cases p with ⟨-, h⟩ | h
  · exact h ▸ isRemarks_nil
  · rw [h, isRemarks_gap_cons]
    exact isRemarks_map_note (_ :: listedTexts p) id

theorem onlyRemarks_listedUtils : OnlyRemarks (text (listedUtils p)).toList ↔
    ∀ s ∈ listedTexts p, StaysComment s := by
  have htitle : StaysComment "Manual migration required; these were not carried over:" := by
    decide
  rw [onlyRemarks_text isRemarks_listedUtils]
  rcases listedUtils_cases p with ⟨hnone, h⟩ | h
  · simp [h, hnone]
  · simp [h, htitle]

/-- Where a human does the migration, the file of utilities has remarks below its helpers, and no
code of the sources. -/
theorem sections_utils_manual (h : p.carriesCode = false) :
    sections p .utils =
      top p .utils ++ imports p .utils ++ helpers ++ (listedUtils p ++ remarks p .utils) := by
  have hcode : sourceCode p .utils = listedUtils p := by simp [sourceCode, h]
  rw [sections, hcode, List.append_assoc]
  rfl

/-- Below its code, each file that carries declarations has remarks on those that are left out; in
the file of utilities of a capsule that a human migrates, there are only remarks below the helpers.
They are comments in each of their lines exactly if each further line of what is listed is blank or
starts as a comment: the names that are left out, and the state, signatures and places that are
listed. What is on one line has no further line. -/
theorem remarks_stay_comments_iff (c : ParsedCapsule) (time : Timestamp) :
    (∀ mode, ∀ k ∈ FileKind.carriers,
      let p := Plan.ofCapsule c mode time
      render p k = .ok (text (top p k ++ imports p k ++ own p k ++ sourceCode p k) ++
        text (remarks p k)) ∧
      (OnlyRemarks (text (remarks p k)).toList ↔
        ∀ s ∈ p.preserved.skippedFor k, StaysComment (skippedText s))) ∧
    (let p := Plan.ofCapsule c .manual time
      ∃ below, render p .utils =
          .ok (text (top p .utils ++ imports p .utils ++ helpers) ++ below) ∧
        (OnlyRemarks below.toList ↔ (∀ s ∈ listedTexts p, StaysComment s) ∧
          ∀ s ∈ p.preserved.skippedFor .utils, StaysComment (skippedText s))) ∧
    ∀ s : String, (∀ c ∈ s.toList, TypeScript.endsLine c = false) → StaysComment s := by
  refine ⟨fun mode k hk => ⟨?_, onlyRemarks_remarks⟩, ?_, fun s => staysComment_of_forall⟩
  · have hleft : leftOut (Plan.ofCapsule c mode time) k =
        remarks (Plan.ofCapsule c mode time) k := by
      cases k with
      | types | errors | constants | utils => rfl
      | _ => simp [FileKind.carriers] at hk
    rw [render_ofCapsule, sections, hleft, text_append]
  · intro p
    refine ⟨text (listedUtils p ++ remarks p .utils), ?_, ?_⟩
    · rw [render_ofCapsule, sections_utils_manual rfl, text_append]
    · rw [onlyRemarks_text_append, onlyRemarks_listedUtils, onlyRemarks_remarks]

/-- A capsule with state over several lines, and with bindings over several lines that two sources
declare. -/
def limitsCapsule : ParsedCapsule :=
  { (default : ParsedCapsule) with
    metadata := { (default : Metadata) with id := "limits", platforms := [.universal] }
    analysis :=
      { Analysis.empty with
        constants := [⟨"\x7b\n  low,\n  high,\n\x7d", true, none, ⟨⟨"limits/a.ts"⟩, 1, 14⟩, none,
            "first()"⟩,
          ⟨"\x7b\n  low,\n  high,\n\x7d", true, none, ⟨⟨"limits/b.ts"⟩, 1, 14⟩, none, "second()"⟩]
        vars := [⟨"limits", false, none, ⟨⟨"limits/a.ts"⟩, 5, 5⟩,
          "let limits = \x7b\n  max: 3,\n\x7d;"⟩] } }

/-- A line of the state, and a line of a binding that is left out, stand in no comment. -/
theorem line_escapes_limitsCapsule :
    let p := Plan.ofCapsule limitsCapsule .manual default
    (∃ below, render p .utils =
        .ok (text (top p .utils ++ imports p .utils ++ helpers) ++ below) ∧
      "  max: 3,".toList ∈ commentLines below.toList ∧ ¬ OnlyRemarks below.toList) ∧
    ∃ below, render p .constants = .ok (text (top p .constants ++ imports p .constants ++
        own p .constants ++ sourceCode p .constants) ++ below) ∧
      "  low,".toList ∈ commentLines below.toList ∧ ¬ OnlyRemarks below.toList := by
  intro p
  have hstate : "  max: 3,".toList ∈
      commentLines (text (listedUtils p ++ remarks p .utils)).toList := by decide +kernel
  have hbinding : "  low,".toList ∈ commentLines (text (remarks p .constants)).toList := by
    decide +kernel
  refine ⟨⟨_, ?_, hstate, fun hall => ?_⟩, _, ?_, hbinding, fun hall => ?_⟩
  · rw [render_ofCapsule, sections_utils_manual rfl, text_append]
  · exact absurd (hall _ hstate) (by decide)
  · rw [render_ofCapsule, sections, text_append]
    rfl
  · exact absurd (hall _ hbinding) (by decide)

end Draft
end ServiceCapsule
