import ServiceCapsule.Proofs.Package.Enclosed
import ServiceCapsule.TypeScript.Lexeme

/-!
# Documentation comments

Documentation of a declaration stands in a block comment of its own. Whatever the documentation says,
the mark of the end of a comment stands in it once and at its end, on one line and on several ones,
and putting blanks in order does not change that. So a comment is read up to its end, and nothing of
the documentation becomes code.
-/

namespace ServiceCapsule

open Text

namespace Text

variable {cs ds line : List Char} {a b c : Char}

/-! ### Block comments as they are read -/

/-- One block comment, and nothing but it. -/
structure IsBlockComment (cs : List Char) : Prop where
  starts : ['/', '*', '*'] <+: cs
  closes : ClosesAtEnd cs

theorem blockLength_append (h : KeepsComment (cs ++ ['*']))
    (hzero : ∀ c ∈ cs, TypeScript.isZero c = false) (after : List Char) :
    TypeScript.blockLength (cs ++ '*' :: '/' :: after) = some (cs.length + 2) := by
  induction cs with
  | nil => rfl
  | cons c cs ih =>
    obtain ⟨hc, hcs⟩ := List.forall_mem_cons.1 hzero
    have hrest := ih (fun hpair => h (List.infix_cons hpair)) hcs
    rw [List.cons_append, TypeScript.blockLength, hc, hrest]
    · rfl
    · rintro rest rfl hslash
      cases cs with
      | nil => simp at hslash
      | cons d cs =>
        obtain rfl : d = '/' := (List.cons.inj hslash).1
        exact h (List.prefix_append ['*', '/'] (cs ++ ['*'])).isInfix

theorem IsBlockComment.exists_body (h : IsBlockComment cs) :
    ∃ body, cs = '/' :: '*' :: (body ++ ['*', '/']) ∧ KeepsComment (body ++ ['*']) := by
  obtain ⟨⟨rest, rfl⟩, ⟨⟨front, hfront⟩, hkeeps⟩⟩ := h
  have hrest : front ++ ['*', '/'] = '/' :: '*' :: ('*' :: rest) := hfront
  rw [← hfront, show front ++ ['*', '/'] = (front ++ ['*']) ++ ['/'] by simp,
    List.dropLast_concat] at hkeeps
  -- the end of the comment cannot reach into the mark of its start
  match front, hrest with
  | [], hrest => simp at hrest
  | [_], hrest => simp at hrest
  | _ :: _ :: body, hrest =>
    simp only [List.cons_append, List.cons.injEq] at hrest
    obtain ⟨rfl, rfl, hbody⟩ := hrest
    refine ⟨body, by simp [hbody], fun hpair => hkeeps ?_⟩
    exact List.infix_cons (List.infix_cons hpair)

/-- A comment is read as a whole, whatever code comes after it. -/
theorem IsBlockComment.commentLength?_eq (h : IsBlockComment cs)
    (hzero : ∀ c ∈ cs, TypeScript.isZero c = false) (after : List Char) :
    TypeScript.commentLength? (cs ++ after) = some cs.length := by
  obtain ⟨body, rfl, hbody⟩ := h.exists_body
  have hread := blockLength_append hbody (fun c hc => hzero c (by simp [hc])) after
  simp [TypeScript.commentLength?, hread]

/-! ### Comments with blanks put in order -/

theorem Trimmed.isBlockComment (h : Trimmed cs ds) (hcs : IsBlockComment cs) :
    IsBlockComment ds := by
  refine ⟨?_, h.closesAtEnd_iff.2 hcs.closes⟩
  obtain ⟨rest, rfl⟩ := hcs.starts
  obtain ⟨_, rfl, hstars⟩ := h.head (by decide)
  obtain ⟨_, rfl, hstar⟩ := hstars.head (by decide)
  obtain ⟨rest, rfl, -⟩ := hstar.head (by decide)
  exact List.prefix_append _ rest

/-- A comment behind its indent and in front of its line break stays one. -/
theorem Trimmed.exists_isBlockComment {indent : List Char} (hindent : '\n' ∉ indent)
    (hcs : IsBlockComment cs) (h : Trimmed (indent ++ cs ++ ['\n']) ds) :
    ∃ kept, ds = indent ++ kept ++ ['\n'] ∧ Trimmed cs kept ∧ IsBlockComment kept := by
  -- the slashes at its ends are not blank, so they part the text
  obtain ⟨body, hbody, -⟩ := hcs.exists_body
  have htext : indent ++ cs ++ ['\n'] =
      indent ++ '/' :: (('*' :: body ++ ['*']) ++ '/' :: ['\n']) := by simp [hbody]
  rw [htext] at h
  obtain ⟨first, second, rfl, hfirst, hsecond⟩ := h.split (by decide)
  obtain rfl := hfirst.eq_of_notMem hindent
  obtain ⟨kept, last, rfl, hkept, hlast⟩ := hsecond.split (by decide)
  have hbreak : last = ['\n'] := by
    cases hlast with
    | keep _ hnil => cases hnil; rfl
    | drop _ hnil => cases hnil
  have hcomment : Trimmed cs ('/' :: kept ++ ['/']) := by
    have hwhole := (hkept.append (.refl ['/'])).keep '/'
    simpa [hbody] using hwhole
  exact ⟨_, by simp [hbreak], hcomment, hcomment.isBlockComment hcs⟩

/-! ### Comments of lines -/

theorem keepsComment_joined {ls : List (List Char)} (hls : ∀ line ∈ ls, KeepsComment line) :
    KeepsComment (joined ls) := by
  induction ls with
  | nil => decide
  | cons line ls ih =>
    obtain ⟨hline, hmore⟩ := List.forall_mem_cons.1 hls
    rw [joined_cons, keepsComment_append (by simp), Draft.keepsComment_cons (by simp)]
    exact ⟨hline, ih hmore⟩

theorem flatten_cutLines (cs : List Char) : (cutLines cs).flatten = cs.filter (· != '\n') := by
  induction cs with
  | nil => rfl
  | cons c cs ih =>
    rw [cutLines]
    split
    · rename_i hc
      simpa [hc] using ih
    · rename_i hc
      rw [List.filter_cons_of_pos (by simpa using hc), ← ih]
      split
      · rename_i hnone
        simp [hnone]
      · rename_i hlines
        simp [hlines]

theorem mem_of_mem_charLines (hline : line ∈ charLines cs) (hc : c ∈ line) : c ∈ cs := by
  have hmem : c ∈ (cutLines (joinReturns cs)).flatten := List.mem_flatten.2 ⟨line, hline, hc⟩
  rw [flatten_cutLines] at hmem
  exact (trimmed_joinReturns cs).subset (List.mem_of_mem_filter hmem)

end Text

namespace Draft

theorem mem_openEnds {cs : List Char} {c : Char} (hc : c ∈ openEnds cs) : c = ' ' ∨ c ∈ cs := by
  induction cs using openEnds.induct with
  | case1 => exact .inr hc
  | case2 rest ih =>
    simp only [openEnds, List.mem_cons] at hc ⊢
    rcases hc with hc | hc | hc | hc
    · exact .inr (.inl hc)
    · exact .inl hc
    · exact .inr (.inr (.inl hc))
    · exact (ih hc).imp_right fun hrest => .inr (.inr hrest)
  | case3 d rest hmark ih =>
    rw [openEnds, List.mem_cons] at hc
    · rcases hc with rfl | hc
      · exact .inr List.mem_cons_self
      · exact (ih hc).imp_right (List.mem_cons_of_mem _)
    · exact hmark

def indentOf (n : Nat) : String := String.ofList (List.replicate n ' ')

@[simp] theorem toList_indentOf (n : Nat) : (indentOf n).toList = List.replicate n ' ' :=
  String.toList_ofList

theorem docComment_cases (indent docs : String) :
    (∃ line ∈ Text.lines docs, docComment indent (some docs) =
      [indent ++ "/** " ++ withoutEnds line ++ " */"]) ∨
    docComment indent (some docs) =
      (indent ++ "/**") :: (Text.lines docs).map (fun line => indent ++ " * " ++ withoutEnds line) ++
        [indent ++ " */"] := by
  simp only [docComment]
  split
  · rename_i line hline
    exact .inl ⟨line, hline ▸ List.mem_singleton_self line, rfl⟩
  · exact .inr rfl

/-- What documentation is between the marks of its comment ends no comment. -/
theorem exists_commentText_docComment (n : Nat) (docs : String) :
    ∃ inner, commentText (docComment (indentOf n) (some docs)) =
        List.replicate n ' ' ++ (['/', '*', '*'] ++ inner ++ ['*', '/']) ∧
      inner.head? ≠ some '/' ∧ KeepsComment inner := by
  have hindent : KeepsComment (List.replicate n ' ') := keepsComment_of_notMem (by simp)
  rcases docComment_cases (indentOf n) docs with ⟨line, -, hlines⟩ | hlines
  · refine ⟨' ' :: (openEnds line.toList ++ [' ']), ?_, by simp, ?_⟩
    · simp [hlines, commentText, withoutEnds]
    · rw [keepsComment_cons (by simp), keepsComment_append (by simp)]
      exact ⟨keepsComment_openEnds _, by decide⟩
  · let rows := (Text.lines docs).map fun line =>
      List.replicate n ' ' ++ ([' ', '*', ' '] ++ openEnds line.toList)
    have hrows : ∀ row ∈ rows, KeepsComment row := by
      intro row hrow
      obtain ⟨line, -, rfl⟩ := List.mem_map.1 hrow
      rw [keepsComment_append (by simp), keepsComment_append (by simp)]
      exact ⟨hindent, by decide, keepsComment_openEnds _⟩
    refine ⟨'\n' :: (joined rows ++ ' ' :: List.replicate n ' '), ?_, by simp, ?_⟩
    · have hne : docComment (indentOf n) (some docs) ≠ [] := by simp [hlines]
      refine (List.append_left_inj ['\n']).1 ?_
      rw [commentText_concat hne, hlines, ← List.replicate_succ, List.replicate_succ']
      simp [rows, withoutEnds, joined, List.flatMap_map]
    · rw [keepsComment_cons (by simp), keepsComment_append (by simp), keepsComment_cons (by simp)]
      exact ⟨keepsComment_joined hrows, hindent⟩

theorem toList_text_comment (ls : List String) :
    (text [.comment ls]).toList = joined (ls.map String.toList) := by
  rw [toList_text, lines, List.flatMap_singleton, Item.lines]

theorem exists_text_docComment (n : Nat) (docs : String) : ∃ comment,
    (text [.comment (docComment (indentOf n) (some docs))]).toList =
        List.replicate n ' ' ++ comment ++ ['\n'] ∧ IsBlockComment comment := by
  obtain ⟨inner, hinner, hhead, hkeeps⟩ := exists_commentText_docComment n docs
  have hne : docComment (indentOf n) (some docs) ≠ [] := by
    intro hnone
    simp [hnone, commentText] at hinner
  refine ⟨['/', '*', '*'] ++ inner ++ ['*', '/'], ?_, by simp, (closesAtEnd_comment hhead).2 hkeeps⟩
  rw [toList_text_comment, ← hinner, commentText_concat hne]

section

variable {docs : String} (hdocs : ∀ c ∈ docs.toList, TypeScript.isZero c = false)
include hdocs

theorem isZero_openEnds {line : String} (hline : line ∈ Text.lines docs) :
    ∀ c ∈ openEnds line.toList, TypeScript.isZero c = false := by
  intro c hc
  obtain ⟨cs, hcs, rfl⟩ := List.mem_map.1 hline
  rw [String.toList_ofList] at hc
  rcases mem_openEnds hc with rfl | hc
  · rfl
  · exact hdocs c (mem_of_mem_charLines hcs hc)

theorem isZero_text_docComment (n : Nat) :
    ∀ c ∈ (text [.comment (docComment (indentOf n) (some docs))]).toList,
      TypeScript.isZero c = false := by
  have hindent : ∀ c ∈ List.replicate n ' ', TypeScript.isZero c = false := by
    simp [TypeScript.isZero]
  have hrows : ∀ row ∈ docComment (indentOf n) (some docs), ∀ c ∈ row.toList,
      TypeScript.isZero c = false := by
    rcases docComment_cases (indentOf n) docs with ⟨line, hline, hlines⟩ | hlines
    · rw [hlines, List.forall_mem_singleton]
      simp only [String.toList_append, toList_indentOf, withoutEnds, String.toList_ofList,
        List.forall_mem_append]
      exact ⟨⟨⟨hindent, by simp [TypeScript.isZero]⟩, isZero_openEnds hdocs hline⟩,
        by simp [TypeScript.isZero]⟩
    · rw [hlines, List.forall_mem_append, List.forall_mem_cons, List.forall_mem_singleton,
        List.forall_mem_map]
      simp only [String.toList_append, toList_indentOf, withoutEnds, String.toList_ofList,
        List.forall_mem_append]
      exact ⟨⟨⟨hindent, by simp [TypeScript.isZero]⟩,
        fun line hline => ⟨⟨hindent, by simp [TypeScript.isZero]⟩, isZero_openEnds hdocs hline⟩⟩,
        hindent, by simp [TypeScript.isZero]⟩
  intro c hc
  rw [toList_text_comment, joined, List.flatMap_map, List.mem_flatMap] at hc
  obtain ⟨row, hrow, hc⟩ := hc
  rcases List.mem_append.1 hc with hc | hc
  · exact hrows row hrow c hc
  · rw [List.mem_singleton.1 hc]
    rfl

end

/-- Documentation of any text makes one block comment behind any blanks, as it is drafted and with
its blanks put in order: it starts there, and the mark of its end stands in it once, in front of the
line break. Where the documentation has no zero character, as no comment of a source has one, the
comment is read as a whole and no more than it, whatever code comes after it. -/
theorem docComment_stays_closed (n : Nat) (docs name : String) :
    let drafted := text [.comment (docComment (indentOf n) (some docs))]
    let formatted := Formatter.whitespace.format name drafted
    ∃ comment kept,
      drafted.toList = List.replicate n ' ' ++ comment ++ ['\n'] ∧ IsBlockComment comment ∧
      formatted.toList = List.replicate n ' ' ++ kept ++ ['\n'] ∧ IsBlockComment kept ∧
      ((∀ c ∈ docs.toList, TypeScript.isZero c = false) → ∀ after,
        TypeScript.commentLength? (comment ++ after) = some comment.length ∧
        TypeScript.commentLength? (kept ++ after) = some kept.length) := by
  intro drafted formatted
  obtain ⟨comment, hdrafted, hcomment⟩ := exists_text_docComment n docs
  have htrimmed : Trimmed drafted.toList formatted.toList := Formatter.trimmed_tidy hdrafted
  rw [show drafted.toList = _ from hdrafted] at htrimmed
  obtain ⟨kept, hformatted, hkept, hclosed⟩ := htrimmed.exists_isBlockComment (by simp) hcomment
  refine ⟨comment, kept, hdrafted, hcomment, hformatted, hclosed, fun hdocs after => ?_⟩
  have hzero : ∀ c ∈ comment, TypeScript.isZero c = false := by
    intro c hc
    refine isZero_text_docComment hdocs n c ?_
    rw [hdrafted]
    exact List.mem_append_left _ (List.mem_append_right _ hc)
  exact ⟨hcomment.commentLength?_eq hzero after,
    hclosed.commentLength?_eq (fun c hc => hzero c (hkept.subset hc)) after⟩

/-- Marks of an end that run into one another, and parts of one on two lines. -/
example : docComment "  " (some "a **/ b */*/\r\n/ *\n*/") =
    ["  /**", "   * a ** / b * /* /", "   * / *", "   * * /", "   */"] := by decide +kernel

end Draft
end ServiceCapsule
