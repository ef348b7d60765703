import ServiceCapsule.Proofs.Validation.CompilerErrors

/-!
# Lines of a compiler

A compiler prints one line after the other: errors, each with its file and its place in it, and
other texts, in which there is no place. What is read from its output are the errors, in order and
each of them once, without those that say nothing about the code. No match runs over the end of its
line, none is skipped, and no other text is taken for an error.
-/

namespace ServiceCapsule

open Text Pattern

namespace Diagnostic

/-! ### Errors and other texts -/

inductive OutputLine where
  | error (e : CompilerError)
  | other (text : List Char)

namespace OutputLine

def text : OutputLine → List Char
  | error e => e.line
  | other text => text

/-- What may stand on a line; other texts have no place in them. -/
def IsPrinted : OutputLine → Prop
  | error e => e.IsPrinted
  | other text => '\n' ∉ text ∧ ¬ HasPlace text

def groups? : OutputLine → Option Groups
  | error e => some e.groups
  | other _ => none

/-- What a line says about the code. -/
def diagnostic? : OutputLine → Option Diagnostic
  | error e => if e.isEnvironment then none else some e.diagnostic
  | other _ => none

theorem bind_groups? (l : OutputLine) : l.groups?.bind ofGroups = l.diagnostic? := by
  cases l with
  | error e => exact ofGroups_groups e
  | other text => rfl

end OutputLine

theorem not_hasPlace_of_forall {cs : List Char}
    (h : ∀ d, isDecimalDigit d = true → ¬ ['(', d] <:+: cs) : ¬ HasPlace cs := by
  rintro ⟨row, column, hrow, -, hplace⟩
  obtain ⟨d, row, rfl⟩ := List.exists_cons_of_ne_nil hrow.1
  have hopen : ['(', d] <+: placeText (d :: row) column := ⟨row ++ ',' :: column ++ [')', ':'], rfl⟩
  exact h d (hrow.isDecimalDigit d List.mem_cons_self) (hopen.isInfix.trans hplace)

section

variable {e : CompilerError} {text : List Char}

theorem newline_notMem_line (h : e.IsPrinted) : '\n' ∉ e.line := by
  have hplace := newline_notMem_placeText h.isNumber_row h.isNumber_column
  have hnumber := newline_notMem_of_isNumber h.isNumber_number
  simp [CompilerError.line, CompilerError.tail, CompilerError.code, h.newline_notMem_file, hplace,
    hnumber, h.newline_notMem_message]

theorem line_ne_nil (e : CompilerError) : e.line ≠ [] := by
  simp [CompilerError.line, CompilerError.tail, placeText]

theorem prefix_line_of_prefix {cs line rest : List Char} (h : cs <+: line ++ rest)
    (hcs : '\n' ∉ cs) (hrest : rest.head?.all (· == '\n') = true) : cs <+: line := by
  rcases List.prefix_or_prefix_of_prefix h (List.prefix_append line rest) with h' | ⟨more, rfl⟩
  · exact h'
  · have hmore : more <+: rest := (List.prefix_append_right_inj line).1 h
    cases more with
    | nil => simp
    | cons c more =>
      obtain ⟨rest, rfl⟩ := hmore
      obtain rfl : c = '\n' := by simpa using hrest
      simp at hcs

/-- On a line without a place the pattern of a line finds nothing. -/
theorem readsLine_other (h : ¬ HasPlace text) : linePattern.ReadsLine text none := by
  intro before rest _ hrest
  refine List.head?_eq_none_iff.2 (List.eq_nil_iff_forall_not_mem.2 fun w hw => h ?_)
  obtain ⟨cs, htext, -, hcs⟩ := between_of_mem_ways linePattern _ [] w hw
  obtain ⟨file, tail, rfl, hfile, htail⟩ := spells_linePattern hcs
  obtain ⟨row, column, hrow, hcolumn, more, rfl⟩ := exists_placeText_of_spells htail
  have hprefix : file ++ placeText row column <+: text ++ rest :=
    ⟨more ++ w.1.rest, by rw [show text ++ rest = _ from htext]; simp⟩
  have hnewline : '\n' ∉ file ++ placeText row column := by
    simp [hfile, newline_notMem_placeText hrow hcolumn]
  have hline := prefix_line_of_prefix hprefix hnewline hrest
  exact ⟨row, column, hrow, hcolumn, (List.suffix_append _ _).isInfix.trans hline.isInfix⟩

end

theorem OutputLine.newline_notMem_text {l : OutputLine} (h : l.IsPrinted) : '\n' ∉ l.text := by
  cases l with
  | error e => exact newline_notMem_line h
  | other text => exact h.1

theorem OutputLine.readsLine_text {l : OutputLine} (h : l.IsPrinted) :
    linePattern.ReadsLine l.text l.groups? := by
  cases l with
  | error e => exact readsLine_line h
  | other text => exact readsLine_other h.2

theorem OutputLine.groups?_of_text_eq_nil {l : OutputLine} (h : l.text = []) : l.groups? = none := by
  cases l with
  | error e => exact absurd h (line_ne_nil e)
  | other text => rfl

/-- The number of a line is what its digits stand for, if they are those of ASCII and a machine
word has room for it. -/
theorem lineNumber_ofList {row : List Char} (hrow : row ≠ []) :
    lineNumber (String.ofList row) =
      if row.all Char.isDigit = true ∧ digitsValue row < UInt64.size then digitsValue row else 0 := by
  have hempty : row.isEmpty = false := by simpa using hrow
  cases hall : row.all Char.isDigit with
  | false => simp [lineNumber, hall]
  | true => simp [lineNumber, hempty, hall]

/-! ### The output -/

/-- The errors that a compiler prints are read back from its output, whatever other lines stand
between them: in order, each of them once, with the file and the message trimmed and with the number
of the line, as long as they say something about the code. -/
theorem ofCompilerOutput_lines (ls : List OutputLine) (h : ∀ l ∈ ls, l.IsPrinted) :
    ofCompilerOutput ("\n".intercalate (ls.map fun l => String.ofList l.text)) =
      ls.filterMap OutputLine.diagnostic? ∧
    ∀ e, .error e ∈ ls → e.diagnostic =
      { message := String.ofList ('T' :: 'S' :: e.number) ++ ": " ++ trim (String.ofList e.message)
        file := ⟨trim (String.ofList e.file)⟩
        line := if e.row.all Char.isDigit = true ∧ digitsValue e.row < UInt64.size
          then digitsValue e.row else 0 } := by
  constructor
  · by_cases hne : ls = []
    · subst hne
      exact ofCompilerOutput_eq_nil fun hplace => absurd hplace.paren_mem (by simp)
    · have htext : ("\n".intercalate (ls.map fun l => String.ofList l.text)).toList =
          ['\n'].intercalate (ls.map OutputLine.text) := by
        simp [Function.comp_def]
      rw [ofCompilerOutput, matchesIn_lines (linePattern_eq ▸ atLineStart_seq _) hne
        (fun l hl => OutputLine.newline_notMem_text (h l hl))
        (fun l hl => OutputLine.readsLine_text (h l hl))
        (fun l _ => OutputLine.groups?_of_text_eq_nil) htext, List.filterMap_filterMap]
      simp only [OutputLine.bind_groups?]
  · intro e he
    rw [← lineNumber_ofList (h _ he).isNumber_row.1]
    rfl

/-- What is printed for a misspelt type, for a package that is not installed, and for a place that
is out of bounds, with remarks between. -/
def mixedOutput : List OutputLine :=
  [.error ⟨" a.ts".toList, "12".toList, "5".toList, "2304".toList,
      "No 'Id', see f(1,2): error TS1: x.\r".toList⟩,
    .other "  in call of f(x)".toList,
    .other [],
    .error ⟨"a.ts".toList, "1".toList, "34".toList, "2307".toList,
      "Cannot find module 'mailer'.".toList⟩,
    .error ⟨"b (copy).ts".toList, "18446744073709551616".toList, "1".toList, "1005".toList,
      "';' expected.".toList⟩,
    .other "Found 3 errors.".toList]

theorem ofCompilerOutput_mixedOutput :
    (∀ l ∈ mixedOutput, l.IsPrinted) ∧
    ofCompilerOutput (" a.ts(12,5): error TS2304: No 'Id', see f(1,2): error TS1: x.\r\n" ++
        "  in call of f(x)\n\na.ts(1,34): error TS2307: Cannot find module 'mailer'.\n" ++
        "b (copy).ts(18446744073709551616,1): error TS1005: ';' expected.\nFound 3 errors.") =
      [⟨"TS2304: No 'Id', see f(1,2): error TS1: x.", ⟨"a.ts"⟩, 12⟩,
        ⟨"TS1005: ';' expected.", ⟨"b (copy).ts"⟩, 0⟩] := by
  have hcall : ¬ HasPlace "  in call of f(x)".toList := not_hasPlace_of_forall fun d hd h => by
    obtain rfl : d = 'x' := by simpa [List.infix_cons_iff, List.cons_prefix_cons] using h
    exact absurd hd (by decide)
  have hcopy : ¬ HasPlace "b (copy).ts".toList := not_hasPlace_of_forall fun d hd h => by
    obtain rfl : d = 'c' := by simpa [List.infix_cons_iff, List.cons_prefix_cons] using h
    exact absurd hd (by decide)
  have hplain : ∀ {cs : List Char}, '(' ∉ cs → ¬ HasPlace cs := fun hcs h => hcs h.paren_mem
  have hnumber : ∀ {cs : List Char}, cs ≠ [] → cs.all isDecimalDigit = true → IsNumber cs :=
    fun hne hall => ⟨hne, hall⟩
  have hprinted : ∀ l ∈ mixedOutput, l.IsPrinted := by
    simp only [mixedOutput, List.forall_mem_cons, List.not_mem_nil, false_imp_iff, implies_true,
      and_true]
    refine ⟨⟨by decide, by decide, hplain (by decide), hnumber (by decide) (by decide),
        hnumber (by decide) (by decide), hnumber (by decide) (by decide), by decide, by decide⟩,
      ⟨by decide, hcall⟩, ⟨by decide, hplain (by decide)⟩,
      ⟨by decide, by decide, hplain (by decide), hnumber (by decide) (by decide),
        hnumber (by decide) (by decide), hnumber (by decide) (by decide), by decide, by decide⟩,
      ⟨by decide, by decide, hcopy, hnumber (by decide) (by decide),
        hnumber (by decide) (by decide), hnumber (by decide) (by decide), by decide, by decide⟩,
      ⟨by decide, hplain (by decide)⟩⟩
  refine ⟨hprinted, ?_⟩
  have hlines := (ofCompilerOutput_lines mixedOutput hprinted).1
  have hread : mixedOutput.filterMap OutputLine.diagnostic? =
      [⟨"TS2304: No 'Id', see f(1,2): error TS1: x.", ⟨"a.ts"⟩, 12⟩,
        ⟨"TS1005: ';' expected.", ⟨"b (copy).ts"⟩, 0⟩] := by
    decide +kernel
  rw [← hread, ← hlines]
  exact congrArg ofCompilerOutput (by decide +kernel)

end Diagnostic
end ServiceCapsule
