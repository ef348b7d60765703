import ServiceCapsule.Proofs.Package.Resolution
import ServiceCapsule.Proofs.Text.Block

/-!
# Code that formatting leaves alone

Putting the blanks of a file in order goes by lines and knows of no literals. A text that starts and
ends in characters that are not blank is left alone in the file exactly if its own blanks are in
order: no line break comes after a blank, and no more than two empty lines stand in a row.
-/

namespace ServiceCapsule

namespace Text

variable {cs ds : List Char}

/-- Whether blanks are in order at the line breaks of a text. -/
structure BlanksInOrder (cs : List Char) : Prop where
  ends : ∀ c, [c, '\n'] <:+: cs → isBlank c = true → c = '\n'
  runs : ¬ List.replicate 4 '\n' <:+: cs

theorem blanksInOrder_iff : BlanksInOrder cs ↔
    (cs.all fun c => decide ([c, '\n'] <:+: cs → isBlank c = true → c = '\n')) = true ∧
      ¬ List.replicate 4 '\n' <:+: cs := by
  rw [List.all_eq_true]
  simp only [decide_eq_true_eq]
  exact ⟨fun h => ⟨fun c _ => h.ends c, h.runs⟩,
    fun h => ⟨fun c hc => h.1 c (hc.subset (by simp)) hc, h.2⟩⟩

instance : DecidablePred BlanksInOrder := fun _ => decidable_of_iff _ blanksInOrder_iff.symm

theorem BlanksInOrder.stretch (h : BlanksInOrder cs) (hds : ds <:+: cs) : BlanksInOrder ds where
  ends c hc := h.ends c (hc.trans hds)
  runs hrun := h.runs (hrun.trans hds)

theorem replicate_prefix_replicate {m n : Nat} (h : m ≤ n) (c : Char) :
    List.replicate m c <+: List.replicate n c := by
  refine ⟨List.replicate (n - m) c, ?_⟩
  rw [← List.replicate_add, Nat.add_sub_cancel' h]

theorem BlanksInOrder.newline_cons (h : BlanksInOrder cs)
    (hstart : ¬ List.replicate 3 '\n' <+: cs) : BlanksInOrder ('\n' :: cs) where
  ends c hc hblank := by
    rcases List.infix_cons_iff.1 hc with hfirst | hc
    · exact (List.cons_prefix_cons.1 hfirst).1
    · exact h.ends c hc hblank
  runs hrun := by
    rcases List.infix_cons_iff.1 hrun with hfirst | hrun
    · exact hstart (List.cons_prefix_cons.1 hfirst).2
    · exact h.runs hrun

theorem IsTidy.blanksInOrder_append {line : List Char} (hline : IsTidy line)
    (h : BlanksInOrder ('\n' :: cs)) : BlanksInOrder (line ++ '\n' :: cs) where
  ends c hc hblank := by
    rcases pair_infix_append.1 hc with hc | hc | ⟨hlast, -⟩
    · exact absurd (hc.subset (by simp)) hline.1
    · exact h.ends c hc hblank
    · have hlast := hlast ▸ hline.2
      simp [hblank] at hlast
  runs hrun := by
    refine h.runs (infix_of_infix_append (fun c hc hstart => hline.1 ?_) hrun)
    obtain rfl : '\n' = c := by simpa using hstart
    exact hc

theorem joinReturns_append_cons {c : Char} (hc : c ≠ '\n') (before after : List Char) :
    joinReturns (before ++ c :: after) = joinReturns before ++ joinReturns (c :: after) := by
  induction before with
  | nil => simp [joinReturns]
  | cons b before ih =>
    have hhead : (before ++ c :: after).head? = some '\n' ↔ before.head? = some '\n' := by
      cases before <;> simp [hc]
    simp only [List.cons_append, joinReturns_cons, hhead, ih]
    split <;> rfl

theorem joinReturns_append_of_notMem (h : '\r' ∉ cs) (after : List Char) :
    joinReturns (cs ++ after) = cs ++ joinReturns after := by
  induction cs with
  | nil => rfl
  | cons c cs ih =>
    have hc : c ≠ '\r' := fun hc => h (by simp [hc])
    have hcs := ih fun hmem => h (List.mem_cons_of_mem _ hmem)
    simp [joinReturns_cons, hc, hcs]

theorem cutLines_split (before : List Char) : ∃ above line, '\n' ∉ line ∧
    ∀ after, cutLines (before ++ after) = above ++ cutLines (line ++ after) := by
  by_cases hmem : '\n' ∈ before
  · obtain ⟨last, first, hreverse, hlast⟩ :=
      List.eq_append_cons_of_mem (List.mem_reverse.2 hmem)
    obtain rfl : first.reverse ++ '\n' :: last.reverse = before := by
      rw [← List.reverse_reverse before, hreverse]
      simp
    refine ⟨cutLines (first.reverse ++ ['\n']), last.reverse, by simpa using hlast, fun after => ?_⟩
    rw [List.append_assoc, List.cons_append, cutLines_append_newline]
  · exact ⟨[], before, hmem, fun after => rfl⟩

theorem cutLines_begun {line : List Char} (hne : line ≠ []) (hline : '\n' ∉ line)
    (after : List Char) : ∃ more below, cutLines (line ++ after) = (line ++ more) :: below := by
  induction line with
  | nil => exact absurd rfl hne
  | cons c line ih =>
    have hc : c ≠ '\n' := fun hc => hline (by simp [hc])
    cases line with
    | nil =>
      cases h : cutLines after with
      | nil => exact ⟨[], [], by simp [cutLines, hc, h]⟩
      | cons more below => exact ⟨more, below, by simp [cutLines, hc, h]⟩
    | cons d line =>
      obtain ⟨more, below, h⟩ := ih (by simp) fun hmem => hline (List.mem_cons_of_mem _ hmem)
      exact ⟨more, below, by simp only [List.cons_append, cutLines, hc, if_false] at h ⊢; rw [h]⟩

end Text

namespace Formatter

open Text

variable {line : List Char} {ls : List (List Char)} {n : Nat}

theorem dropEndWhile_append_cons {c : Char} (hc : isBlank c = false) (before after : List Char) :
    dropEndWhile isBlank (before ++ c :: after) =
      before ++ c :: dropEndWhile isBlank after := by
  simp only [dropEndWhile, List.reverse_append, List.reverse_cons, List.append_assoc,
    List.singleton_append, List.dropWhile_append]
  split
  · rename_i hafter
    rw [List.isEmpty_iff.1 hafter]
    simp [hc]
  · simp

theorem collapse_cons_of_isTidy (h : IsTidy line) :
    collapse n (line :: ls) = line :: collapse 0 ls := by
  obtain ⟨c, cs, rfl⟩ := List.exists_cons_of_ne_nil h.ne_nil
  simp only [collapse, h.dropEndWhile_eq]

theorem collapse_empty_cons (hn : n < 2) : collapse n ([] :: ls) = [] :: collapse (n + 1) ls := by
  simp [collapse, hn]

/-- What a line is when its blanks are in order: nothing, or something up to its end. -/
theorem dropEndWhile_eq_nil_or_isTidy (hline : '\n' ∉ line) :
    dropEndWhile isBlank line = [] ∨ IsTidy (dropEndWhile isBlank line) := by
  induction line using List.reverseRecOn with
  | nil => exact .inl rfl
  | append_singleton line c ih =>
    have hfront : '\n' ∉ line := fun hmem => hline (List.mem_append_left _ hmem)
    cases hc : isBlank c with
    | false =>
      rw [dropEndWhile_append_singleton hc]
      exact .inr (isTidy_concat hfront hc)
    | true => simpa [dropEndWhile, hc] using ih hfront

theorem blanksInOrder_collapse (hls : ∀ line ∈ ls, '\n' ∉ line) (hn : n ≤ 2) :
    BlanksInOrder (joined (collapse n ls)) ∧
      ¬ List.replicate (3 - n) '\n' <+: joined (collapse n ls) := by
  -- the second part is what an empty line above asks of the lines below it
  induction ls generalizing n with
  | nil =>
    obtain ⟨m, hm⟩ : ∃ m, 3 - n = m + 1 := ⟨2 - n, by omega⟩
    refine ⟨⟨fun c hc => ?_, fun hrun => ?_⟩, ?_⟩
    · simpa [collapse, joined] using hc.subset
    · simpa [collapse, joined, List.replicate_succ] using hrun.subset
    · simp [collapse, joined, hm, List.replicate_succ]
  | cons line ls ih =>
    have hrest : ∀ line ∈ ls, '\n' ∉ line := fun line' hl => hls line' (List.mem_cons_of_mem _ hl)
    rcases dropEndWhile_eq_nil_or_isTidy (hls line List.mem_cons_self) with hempty | htidy
    · simp only [collapse, hempty]
      split
      · rename_i hfew
        obtain ⟨horder, hstart⟩ := ih (n := n + 1) hrest (by omega)
        rw [joined_cons, List.nil_append]
        refine ⟨horder.newline_cons fun hrun => hstart ?_, fun hrun => hstart ?_⟩
        · exact (replicate_prefix_replicate (by omega) _).trans hrun
        · rw [show 3 - n = 3 - (n + 1) + 1 by omega, List.replicate_succ] at hrun
          exact (List.cons_prefix_cons.1 hrun).2
      · exact ih hrest hn
    · obtain ⟨horder, hstart⟩ := ih (n := 0) hrest (by omega)
      obtain ⟨c, cs, hc⟩ := List.exists_cons_of_ne_nil htidy.ne_nil
      have hkept : collapse n (line :: ls) = dropEndWhile isBlank line :: collapse 0 ls := by
        simp only [collapse, hc]
      rw [hkept, joined_cons]
      refine ⟨htidy.blanksInOrder_append (horder.newline_cons hstart), fun hrun => htidy.1 ?_⟩
      rw [show 3 - n = 2 - n + 1 by omega, List.replicate_succ, hc, List.cons_append] at hrun
      rw [hc, (List.cons_prefix_cons.1 hrun).1]
      exact List.mem_cons_self

theorem exists_joined_dropEmptyEnd (ls : List (List Char)) :
    ∃ n, joined ls = joined (dropEmptyEnd ls) ++ List.replicate n '\n' := by
  induction ls using List.reverseRecOn with
  | nil => exact ⟨0, rfl⟩
  | append_singleton ls line ih =>
    cases line with
    | nil =>
      obtain ⟨n, hn⟩ := ih
      refine ⟨n + 1, ?_⟩
      have hdrop : dropEmptyEnd (ls ++ [[]]) = dropEmptyEnd ls := by simp [dropEmptyEnd]
      rw [hdrop, joined_append, hn, List.replicate_succ', List.append_assoc]
      rfl
    | cons c cs =>
      exact ⟨0, by simp [dropEmptyEnd]⟩

theorem newline_notMem_of_mem_charLines {cs line : List Char} (h : line ∈ charLines cs) :
    '\n' ∉ line := newline_notMem_of_mem_cutLines h

theorem blanksInOrder_tidy (s : String) : BlanksInOrder (tidy s).toList := by
  by_cases hnone : dropEmptyEnd (collapse 0 (charLines s.toList)) = []
  · have htext : (tidy s).toList = ['\n'] := by simp [tidy, hnone]
    rw [htext]
    exact ⟨fun c hc => by simpa using hc.length_le, fun hrun => by simpa using hrun.length_le⟩
  · obtain ⟨n, hn⟩ := exists_joined_dropEmptyEnd (collapse 0 (charLines s.toList))
    rw [toList_tidy hnone]
    refine BlanksInOrder.stretch ?_ (List.prefix_append _ (List.replicate n '\n')).isInfix
    rw [← hn]
    exact (blanksInOrder_collapse (fun line => newline_notMem_of_mem_charLines) (by omega)).1

theorem joined_collapse_cons {begun : List Char} {c : Char} (hbegun : '\n' ∉ begun) (hc : c ≠ '\n')
    (hblank : isBlank c = false) (after : List Char) :
    ∃ more, joined (collapse n (cutLines (begun ++ c :: after))) = begun ++ c :: more := by
  obtain ⟨more, below, h⟩ := cutLines_begun (List.concat_ne_nil c begun)
    (show '\n' ∉ begun ++ [c] by simp [hbegun, Ne.symm hc]) after
  rw [List.append_assoc, List.singleton_append, List.append_assoc, List.singleton_append] at h
  have hkept := dropEndWhile_append_cons hblank begun more
  refine ⟨dropEndWhile isBlank more ++ '\n' :: joined (collapse 0 below), ?_⟩
  have hcollapse : collapse n ((begun ++ c :: more) :: below) =
      (begun ++ c :: dropEndWhile isBlank more) :: collapse 0 below := by
    obtain ⟨d, ds, hd⟩ := List.exists_cons_of_ne_nil
      (show begun ++ c :: dropEndWhile isBlank more ≠ [] by simp)
    simp only [collapse, hkept, hd]
  rw [h, hcollapse, joined_cons]
  simp

/-- A text with its blanks in order is kept, whatever the line says in which it starts. The line was
begun with some characters; where the text goes on with a line break, they have to be in order. -/
theorem joined_collapse_begun {begun v : List Char} (hbegun : '\n' ∉ begun)
    (horder : BlanksInOrder v) (hlast : v.getLast?.any (!isBlank ·) = true)
    (hjoin : v.head? = some '\n' →
      begun = [] ∧ ¬ List.replicate (3 - n) '\n' <+: v ∨ IsTidy begun) (after : List Char) :
    ∃ more, joined (collapse n (cutLines (begun ++ v ++ after))) = begun ++ v ++ more := by
  induction v generalizing begun n with
  | nil => simp at hlast
  | cons c v ih =>
    by_cases hc : c = '\n'
    · subst hc
      have horder' : BlanksInOrder v := horder.stretch (List.suffix_cons _ _).isInfix
      have hlast' : v.getLast?.any (!isBlank ·) = true := by
        cases v with
        | nil => exact absurd hlast (by decide)
        | cons d v => simpa [List.getLast?_cons_cons] using hlast
      have hcut : cutLines (begun ++ '\n' :: v ++ after) = begun :: cutLines (v ++ after) := by
        rw [List.append_assoc, List.cons_append, cutLines_line hbegun]
      have hnone : '\n' ∉ ([] : List Char) := List.not_mem_nil
      rcases hjoin rfl with ⟨rfl, hfew⟩ | htidy
      · have hn : n < 2 := by
          by_contra hn
          exact hfew ((replicate_prefix_replicate (by omega : 3 - n ≤ 1) _).trans (by simp))
        have hfew' : ¬ List.replicate (3 - (n + 1)) '\n' <+: v := by
          intro hrun
          apply hfew
          rw [show 3 - n = 3 - (n + 1) + 1 by omega, List.replicate_succ]
          exact List.cons_prefix_cons.2 ⟨rfl, hrun⟩
        obtain ⟨more, h⟩ := ih (n := n + 1) hnone horder' hlast' fun _ => .inl ⟨rfl, hfew'⟩
        rw [List.nil_append] at h
        exact ⟨more, by rw [hcut, collapse_empty_cons hn, joined_cons, h]; rfl⟩
      · have hfew : ¬ List.replicate (3 - 0) '\n' <+: v := fun hrun =>
          horder.runs (List.cons_prefix_cons.2 ⟨rfl, hrun⟩ : _ <+: '\n' :: v).isInfix
        obtain ⟨more, h⟩ := ih (n := 0) hnone horder' hlast' fun _ => .inl ⟨rfl, hfew⟩
        rw [List.nil_append] at h
        exact ⟨more, by rw [hcut, collapse_cons_of_isTidy htidy, joined_cons, h]; simp⟩
    · have hbegun' : '\n' ∉ begun ++ [c] := by simp [hbegun, Ne.symm hc]
      cases v with
      | nil =>
        simpa using joined_collapse_cons hbegun hc (by simpa using hlast) after
      | cons d v =>
        have hjoin' : (d :: v).head? = some '\n' →
            begun ++ [c] = [] ∧ ¬ List.replicate (3 - n) '\n' <+: d :: v ∨ IsTidy (begun ++ [c]) := by
          intro hd
          obtain rfl : d = '\n' := by simpa using hd
          refine .inr (isTidy_concat hbegun ?_)
          by_contra hblank
          exact hc (horder.ends c (List.prefix_append [c, '\n'] v).isInfix (by simpa using hblank))
        obtain ⟨more, h⟩ := ih hbegun' (horder.stretch (List.suffix_cons _ _).isInfix)
          (by simpa [List.getLast?_cons_cons] using hlast) hjoin'
        exact ⟨more, by simpa using h⟩

theorem infix_tidy {s : String} {v : List Char} (h : v <:+: s.toList) (hreturn : '\r' ∉ v)
    (hfirst : v.head?.any (!isBlank ·) = true) (hlast : v.getLast?.any (!isBlank ·) = true)
    (horder : BlanksInOrder v) : v <:+: (tidy s).toList := by
  obtain ⟨before, after, hs⟩ := h
  obtain ⟨c, cs, rfl⟩ : ∃ c cs, v = c :: cs := by
    cases v with
    | nil => simp at hfirst
    | cons c cs => exact ⟨c, cs, rfl⟩
  have hc : c ≠ '\n' := by
    rintro rfl
    simp [show isBlank '\n' = true from rfl] at hfirst
  -- the line in which the text starts was begun with some characters
  obtain ⟨above, begun, hbegun, hcut⟩ := cutLines_split (joinReturns before)
  have hlines : charLines s.toList =
      above ++ cutLines (begun ++ c :: cs ++ joinReturns after) := by
    rw [charLines, ← hs, List.append_assoc, List.cons_append, joinReturns_append_cons hc,
      ← List.cons_append, joinReturns_append_of_notMem hreturn, hcut, List.append_assoc]
  obtain ⟨m, hcollapse⟩ :=
    collapse_append above (cutLines (begun ++ c :: cs ++ joinReturns after)) 0
  obtain ⟨more, hkept⟩ := joined_collapse_begun (n := m) hbegun horder hlast
    (fun hhead => absurd (by simpa using hhead) hc) (joinReturns after)
  have hinfix : c :: cs <:+: joined (collapse 0 (charLines s.toList)) := by
    rw [hlines, hcollapse, joined_append, hkept]
    exact ⟨joined (collapse 0 above) ++ begun, more, by simp⟩
  obtain ⟨n, hn⟩ := exists_joined_dropEmptyEnd (collapse 0 (charLines s.toList))
  have hnewline : (c :: cs).getLast? ≠ some '\n' := by
    intro hnewline
    rw [hnewline] at hlast
    exact absurd hlast (by decide)
  have hdropped := infix_of_infix_append_replicate hnewline (hn ▸ hinfix)
  have hne : dropEmptyEnd (collapse 0 (charLines s.toList)) ≠ [] := by
    intro hnil
    simpa [hnil, joined] using hdropped.subset
  rwa [toList_tidy hne]

/-- A text that starts and ends in characters that are not blank is kept exactly if its own blanks
are in order. -/
theorem infix_tidy_iff {s : String} {v : List Char} (h : v <:+: s.toList) (hreturn : '\r' ∉ v)
    (hfirst : v.head?.any (!isBlank ·) = true) (hlast : v.getLast?.any (!isBlank ·) = true) :
    v <:+: (tidy s).toList ↔ BlanksInOrder v :=
  ⟨(blanksInOrder_tidy s).stretch, infix_tidy h hreturn hfirst hlast⟩

end Formatter

/-! ### Constants of the sources -/

def Code.IsTemplate (s : String) : Prop := ∃ body, s.toList = '\x60' :: body ++ ['\x60']

namespace Draft

theorem infix_text {d : Draft} {line : String} (h : line ∈ d.lines) :
    line.toList <:+: (text d).toList := by
  obtain ⟨above, below, hlines⟩ := List.append_of_mem h
  rw [toList_text, hlines]
  exact ⟨Text.joined (above.map String.toList),
    '\n' :: Text.joined (below.map String.toList), by simp⟩

theorem infix_constants {p : Plan} {k : ConstantDeclaration} (hk : k ∈ p.preserved.constants) :
    k.value.toList <:+: (text (sections p .constants)).toList := by
  obtain ⟨docs, hitem⟩ := mem_sections_of_carries (Plan.Carries.constant hk)
  have hline : (CarriedDeclaration.ofConstant k).code ∈ (sections p .constants).lines :=
    mem_lines hitem (List.mem_append_right _ List.mem_cons_self)
  refine List.IsInfix.trans ?_ (infix_text hline)
  refine ⟨("export const " ++ k.name ++ CarriedDeclaration.typeSuffix k.typeText ++ " = ").toList,
    [';'], ?_⟩
  simp [CarriedDeclaration.ofConstant]

end Draft

namespace Plan

open Text

/-- A constant whose value is a template literal stands in the file of constants with just this
value as long as the file is not formatted. The formatter keeps the value exactly if its blanks are
in order. -/
theorem templates_kept_iff (c : ParsedCapsule) (mode : Mode) (time : Timestamp)
    {k : ConstantDeclaration} (hk : k ∈ (ofCapsule c mode time).preserved.constants)
    (htemplate : Code.IsTemplate k.value) (hreturn : '\r' ∉ k.value.toList) :
    ∃ plain formatted,
      Generation.content none (ofCapsule c mode time) .constants = .ok plain ∧
      Generation.content (some .whitespace) (ofCapsule c mode time) .constants = .ok formatted ∧
      k.value.toList <:+: plain.toList ∧
      (k.value.toList <:+: formatted.toList ↔ BlanksInOrder k.value.toList) := by
  have hplain := Draft.infix_constants hk
  obtain ⟨body, hbody⟩ := htemplate
  refine ⟨_, _, Generation.content_ofCapsule none c mode time .constants,
    Generation.content_ofCapsule (some .whitespace) c mode time .constants, hplain, ?_⟩
  have hbacktick : isBlank '\x60' = false := by decide
  exact Formatter.infix_tidy_iff hplain hreturn (by simp [hbody, hbacktick])
    (by simp [hbody, hbacktick, List.getLast?_cons])

/-- A capsule with one constant, whose value is a template literal with these characters. -/
def bannerCapsule (body : String) : ParsedCapsule :=
  { (default : ParsedCapsule) with
    metadata := { (default : Metadata) with id := "banner", platforms := [.universal] }
    analysis :=
      { Analysis.empty with
        constants := [⟨"BANNER", true, none, default, none, "`" ++ body ++ "`"⟩] } }

/-- An empty line in a literal is kept. -/
theorem templates_kept_bannerCapsule : ∃ plain formatted,
    Generation.content none (ofCapsule (bannerCapsule "one\n\ntwo") .auto default) .constants =
      .ok plain ∧
    Generation.content (some .whitespace) (ofCapsule (bannerCapsule "one\n\ntwo") .auto default)
      .constants = .ok formatted ∧
    "`one\n\ntwo`".toList <:+: plain.toList ∧ "`one\n\ntwo`".toList <:+: formatted.toList := by
  obtain ⟨plain, formatted, hplain, hformatted, hkept, hiff⟩ :=
    templates_kept_iff (bannerCapsule "one\n\ntwo") .auto default
      (k := ⟨"BANNER", true, none, default, none, "`one\n\ntwo`"⟩) (by decide)
      ⟨"one\n\ntwo".toList, by decide⟩ (by decide)
  exact ⟨plain, formatted, hplain, hformatted, hkept, hiff.2 (by decide)⟩

/-- Blanks at the end of a line of a literal are lost. -/
theorem template_changed_bannerCapsule :
    ∃ k ∈ (ofCapsule (bannerCapsule "one  \ntwo") .auto default).preserved.constants,
      Code.IsTemplate k.value ∧ '\r' ∉ k.value.toList ∧
      ∃ plain formatted,
        Generation.content none (ofCapsule (bannerCapsule "one  \ntwo") .auto default) .constants =
          .ok plain ∧
        Generation.content (some .whitespace)
          (ofCapsule (bannerCapsule "one  \ntwo") .auto default) .constants = .ok formatted ∧
        k.value.toList <:+: plain.toList ∧ ¬ k.value.toList <:+: formatted.toList := by
  have hk : (⟨"BANNER", true, none, default, none, "`one  \ntwo`"⟩ : ConstantDeclaration) ∈
      (ofCapsule (bannerCapsule "one  \ntwo") .auto default).preserved.constants := by decide
  refine ⟨_, hk, ⟨"one  \ntwo".toList, by decide⟩, by decide, _, _,
    Generation.content_ofCapsule none _ _ _ _, Generation.content_ofCapsule (some .whitespace) _ _ _ _,
    Draft.infix_constants hk, fun hkept => ?_⟩
  exact absurd ((Formatter.blanksInOrder_tidy _).stretch hkept) (by decide)

end Plan
end ServiceCapsule
