import ServiceCapsule.Proofs.Text.Search
import ServiceCapsule.Proofs.Validation.Findings

/-!
# Errors of a compiler

An error that a compiler prints with its file and its place in it becomes a diagnostic, wherever its
line stands in the output. Only an error above it that is broken off before its message could take
the line for its message. An error without a place is not seen: where the output has no place at
all, it counts as that of a compiler that has nothing to say.
-/

namespace ServiceCapsule

open Text Pattern

namespace Diagnostic

/-! ### Lines of errors -/

def IsNumber (cs : List Char) : Prop := cs ≠ [] ∧ cs.all isDecimalDigit = true

theorem IsNumber.isDecimalDigit {cs : List Char} (h : IsNumber cs) :
    ∀ c ∈ cs, Text.isDecimalDigit c = true :=
  List.all_eq_true.1 h.2

def AllBlank (cs : List Char) : Prop := ∀ c ∈ cs, isBlank c = true

def placeText (row column : List Char) : List Char :=
  '(' :: row ++ ',' :: column ++ [')', ':']

def HasPlace (cs : List Char) : Prop :=
  ∃ row column, IsNumber row ∧ IsNumber column ∧ placeText row column <:+: cs

/-- An error that a compiler prints. -/
structure CompilerError where
  file : List Char
  row : List Char
  column : List Char
  number : List Char
  message : List Char

namespace CompilerError

def code (e : CompilerError) : List Char := 'T' :: 'S' :: e.number

def tail (e : CompilerError) : List Char :=
  placeText e.row e.column ++ " error ".toList ++ e.code ++ ": ".toList ++ e.message

def line (e : CompilerError) : List Char := e.file ++ e.tail

/-- What a compiler prints as an error: the file has no place in its name, the place and the code
are numbers, there is a message, and all is on one line. -/
structure IsPrinted (e : CompilerError) : Prop where
  file_ne_nil : e.file ≠ []
  newline_notMem_file : '\n' ∉ e.file
  not_hasPlace_file : ¬ HasPlace e.file
  isNumber_row : IsNumber e.row
  isNumber_column : IsNumber e.column
  isNumber_number : IsNumber e.number
  newline_notMem_message : '\n' ∉ e.message
  head?_message : e.message.head?.any (!isBlank ·) = true

/-- Whether the error says nothing about the code itself. -/
def isEnvironment (e : CompilerError) : Bool :=
  Diagnostic.isEnvironment (String.ofList e.code) (String.ofList e.message)

def diagnostic (e : CompilerError) : Diagnostic where
  message := String.ofList e.code ++ ": " ++ trim (String.ofList e.message)
  file := ⟨trim (String.ofList e.file)⟩
  line := lineNumber (String.ofList e.row)

end CompilerError

/-- How much of an error is there. -/
inductive Stage where
  | place
  | word
  | code

/-- An error from its place on, up to a stage. Blanks between its parts may be of any kind. -/
inductive Begun : Stage → List Char → Prop
  | place {row column : List Char} (hrow : IsNumber row) (hcolumn : IsNumber column) :
      Begun .place (placeText row column)
  | word {cs gap : List Char} (h : Begun .place cs) (hgap : AllBlank gap) :
      Begun .word (cs ++ gap ++ "error".toList)
  | code {cs gap number : List Char} (h : Begun .word cs) (hgap : AllBlank gap)
      (hnumber : IsNumber number) :
      Begun .code (cs ++ gap ++ 'T' :: 'S' :: number ++ [':'])

/-- A text at whose end there is an error without its message, perhaps with blanks after it. -/
def EndsBrokenOff (cs : List Char) : Prop :=
  ∃ before stage begun gap, cs = before ++ begun ++ gap ∧ Begun stage begun ∧ AllBlank gap

theorem HasPlace.paren_mem {cs : List Char} (h : HasPlace cs) : '(' ∈ cs := by
  obtain ⟨row, column, -, -, hplace⟩ := h
  exact hplace.subset List.mem_cons_self

theorem Begun.hasPlace {stage : Stage} {cs : List Char} (h : Begun stage cs) : HasPlace cs := by
  induction h with
  | place hrow hcolumn => exact ⟨_, _, hrow, hcolumn, List.infix_refl _⟩
  | word h hgap ih | code h hgap hnumber ih =>
    obtain ⟨row, column, hrow, hcolumn, hplace⟩ := ih
    refine ⟨row, column, hrow, hcolumn, hplace.trans ?_⟩
    simp only [List.append_assoc]
    exact (List.prefix_append _ _).isInfix

theorem EndsBrokenOff.hasPlace {cs : List Char} (h : EndsBrokenOff cs) : HasPlace cs := by
  obtain ⟨before, stage, begun, gap, rfl, hbegun, -⟩ := h
  obtain ⟨row, column, hrow, hcolumn, hplace⟩ := hbegun.hasPlace
  exact ⟨row, column, hrow, hcolumn, hplace.trans ⟨before, gap, rfl⟩⟩

/-! ### What the pattern of a line reads -/

section

variable {cs as bs row column number begun gap : List Char} {stage : Stage}

theorem newline_notMem_of_isNumber (h : IsNumber cs) : '\n' ∉ cs :=
  fun hmem => absurd (h.isDecimalDigit _ hmem) (by decide)

theorem newline_notMem_placeText (hrow : IsNumber row) (hcolumn : IsNumber column) :
    '\n' ∉ placeText row column := by
  simp [placeText, newline_notMem_of_isNumber hrow, newline_notMem_of_isNumber hcolumn]

theorem append_eq_append_cons {z : Char} {xs ys : List Char} (h : xs ++ ys = as ++ z :: bs) :
    (∃ more, xs = as ++ z :: more) ∨ ∃ skipped, as = xs ++ skipped ∧ ys = skipped ++ z :: bs := by
  rcases List.append_eq_append_iff.1 h with ⟨skipped, has, hys⟩ | ⟨more, hxs, hmore⟩
  · exact .inr ⟨skipped, has, hys⟩
  · cases more with
    | nil => exact .inr ⟨[], by simpa using hxs.symm, by simpa using hmore.symm⟩
    | cons c more =>
      obtain ⟨rfl, -⟩ := List.cons_eq_cons.1 hmore
      exact .inl ⟨more, hxs⟩

theorem append_eq_append_cons_of_notMem {z : Char} {xs ys : List Char}
    (h : xs ++ ys = as ++ z :: bs) (hz : z ∉ ys) : ∃ more, xs = as ++ z :: more := by
  rcases append_eq_append_cons h with h | ⟨skipped, -, rfl⟩
  · exact h
  · simp at hz

theorem Begun.endsBrokenOff (h : Begun stage begun) (hgap : AllBlank gap) :
    EndsBrokenOff (begun ++ gap) :=
  ⟨[], stage, begun, gap, rfl, h, hgap⟩

theorem AllBlank.of_append (h : AllBlank (as ++ bs)) : AllBlank as :=
  fun c hc => h c (List.mem_append_left _ hc)

theorem Begun.endsBrokenOff_of_split (h : Begun stage begun) (hgap : AllBlank gap)
    (hsplit : begun ++ gap = as ++ '\n' :: bs) : EndsBrokenOff as := by
  induction h generalizing gap bs with
  | place hrow hcolumn =>
    rcases append_eq_append_cons hsplit with ⟨more, hmore⟩ | ⟨skipped, rfl, rfl⟩
    · exact absurd (by simp [hmore]) (newline_notMem_placeText hrow hcolumn)
    · exact (Begun.place hrow hcolumn).endsBrokenOff hgap.of_append
  | word h hgap' ih =>
    rcases append_eq_append_cons hsplit with ⟨more, hmore⟩ | ⟨skipped, rfl, rfl⟩
    · obtain ⟨more', hmore'⟩ := append_eq_append_cons_of_notMem hmore (by decide)
      exact ih hgap' hmore'
    · exact (Begun.word h hgap').endsBrokenOff hgap.of_append
  | code h hgap' hnumber ih =>
    rcases append_eq_append_cons hsplit with ⟨more, hmore⟩ | ⟨skipped, rfl, rfl⟩
    · rw [List.append_assoc] at hmore
      obtain ⟨more', hmore'⟩ := append_eq_append_cons_of_notMem hmore (by
        simp [newline_notMem_of_isNumber hnumber])
      exact ih hgap' hmore'
    · exact (Begun.code h hgap' hnumber).endsBrokenOff hgap.of_append

end

/-- The pattern of a line, from the place on. -/
def afterFile : Pattern :=
  .all [.text "(", .group 2 digits, .text ",", .group 3 digits, .text "):", .blanks,
    .text "error", .oneBlank, .group 4 (.seq (.text "TS") digits), .text ":", .blanks,
    .group 5 (.many (.char (· != '\n'))), .lineEnd]

theorem linePattern_eq : linePattern =
    seq lineStart (seq (group 1 (seq (char (· != '\n')) (few (char (· != '\n'))))) afterFile) :=
  rfl

theorem isNumber_of_spells {cs : List Char} (h : digits.Spells cs) : IsNumber cs := by
  obtain ⟨hne, hcs⟩ := spells_oneOrMore_char h
  exact ⟨hne, List.all_eq_true.2 hcs⟩

theorem spells_afterFile {cs : List Char} (h : afterFile.Spells cs) :
    ∃ begun gap message, cs = begun ++ gap ++ message ∧ Begun .code begun ∧ AllBlank gap ∧
      '\n' ∉ message := by
  obtain ⟨_, _, rfl, hopen, row, _, rfl, hrow, _, _, rfl, hcomma, column, _, rfl, hcolumn, _, _,
    rfl, hclose, gap, _, rfl, hgap, _, _, rfl, hword, gap', _, rfl, hgap', _, _, rfl,
    ⟨_, number, rfl, hletters, hnumber⟩, _, _, rfl, hcolon, gap'', _, rfl, hgap'', message, _, rfl,
    hmessage, _, _, rfl, hend, hempty⟩ := h
  obtain rfl := spells_text hopen
  obtain rfl := spells_text hcomma
  obtain rfl := spells_text hclose
  obtain rfl := spells_text hword
  obtain rfl := spells_text hletters
  obtain rfl := spells_text hcolon
  obtain rfl : _ = [] := hend
  obtain rfl : _ = [] := hempty
  have hplace := Begun.place (isNumber_of_spells hrow) (isNumber_of_spells hcolumn)
  have hcode := (hplace.word (spells_many_char hgap)).code (spells_oneOrMore_char hgap').2
    (isNumber_of_spells hnumber)
  refine ⟨_, gap'', message, ?_, hcode, spells_many_char hgap'', fun hmem => ?_⟩
  · simp [placeText]
  · exact absurd (spells_many_char hmessage _ hmem) (by decide)

theorem exists_placeText_of_spells {cs : List Char} (h : afterFile.Spells cs) :
    ∃ row column, IsNumber row ∧ IsNumber column ∧ placeText row column <+: cs := by
  obtain ⟨begun, gap, message, rfl, hcode, -, -⟩ := spells_afterFile h
  cases hcode with
  | code hword =>
    cases hword with
    | word hplace =>
      cases hplace with
      | place hrow hcolumn =>
        refine ⟨_, _, hrow, hcolumn, ?_⟩
        simp only [List.append_assoc]
        exact List.prefix_append _ _

theorem spells_linePattern {cs : List Char} (h : linePattern.Spells cs) :
    ∃ file tail, cs = file ++ tail ∧ '\n' ∉ file ∧ afterFile.Spells tail := by
  obtain ⟨_, _, rfl, rfl, file, tail, rfl, hfile, htail⟩ := linePattern_eq ▸ h
  exact ⟨file, tail, rfl, fun hmem => by simpa [Reads] using hfile.reads hmem, htail⟩

/-! ### Lines above -/

theorem EndsBrokenOff.append {cs : List Char} (h : EndsBrokenOff cs) (above : List Char) :
    EndsBrokenOff (above ++ cs) := by
  obtain ⟨before, stage, begun, gap, rfl, hbegun, hgap⟩ := h
  exact ⟨above ++ before, stage, begun, gap, by simp, hbegun, hgap⟩

theorem EndsBrokenOff.newline {cs : List Char} (h : EndsBrokenOff cs) :
    EndsBrokenOff (cs ++ ['\n']) := by
  obtain ⟨before, stage, begun, gap, rfl, hbegun, hgap⟩ := h
  refine ⟨before, stage, begun, gap ++ ['\n'], by simp, hbegun, fun c hc => ?_⟩
  rcases List.mem_append.1 hc with hc | hc
  · exact hgap c hc
  · obtain rfl := List.mem_singleton.1 hc
    rfl

/-- A match that goes past a line break has an error before it that is broken off. -/
theorem endsBrokenOff_of_spells {cs as bs : List Char} (h : linePattern.Spells cs)
    (hcs : cs = as ++ '\n' :: bs) : EndsBrokenOff as := by
  obtain ⟨file, tail, rfl, hfile, htail⟩ := spells_linePattern h
  rcases append_eq_append_cons hcs with ⟨more, rfl⟩ | ⟨skipped, rfl, rfl⟩
  · simp at hfile
  · obtain ⟨begun, gap, message, htail, hcode, hgap, hmessage⟩ := spells_afterFile htail
    obtain ⟨more, hmore⟩ := append_eq_append_cons_of_notMem htail.symm hmessage
    exact (hcode.endsBrokenOff_of_split hgap hmore).append file

/-- No match that begins above goes past the end of the line before, if nothing is broken off
there. -/
theorem stopsBefore_of_not_endsBrokenOff {above : List Char} (h : ¬ EndsBrokenOff above)
    (rest : List Char) : linePattern.StopsBefore above.reverse rest := by
  intro before skipped hskipped w hw
  obtain ⟨cs, hrest, -, hcs⟩ := between_of_mem_ways linePattern _ [] w hw
  rcases append_eq_append_cons hrest.symm with ⟨more, hmore⟩ | ⟨left, -, hleft⟩
  · have habove : above = before.reverse ++ skipped := by
      simpa using (congrArg List.reverse hskipped).symm
    exact absurd (habove ▸ (endsBrokenOff_of_spells hcs hmore).append before.reverse) h
  · exact ⟨left, hleft⟩

/-! ### The line of an error -/

section

variable {e : CompilerError} {rest : List Char}

theorem placeText_infix_of_prefix {row column bs more : List Char} (hrow : IsNumber row)
    (hcolumn : IsNumber column) (hbs : bs ≠ []) (h : placeText row column <+: bs ++ '(' :: more) :
    placeText row column <:+: bs := by
  obtain ⟨after, hafter⟩ := h
  rcases append_eq_append_cons hafter with ⟨later, hplace⟩ | ⟨skipped, rfl, -⟩
  · -- the other place would begin inside of it
    obtain ⟨b, bs, rfl⟩ := List.exists_cons_of_ne_nil hbs
    have htail : row ++ ',' :: column ++ [')', ':'] = bs ++ '(' :: later :=
      (List.cons_eq_cons.1 hplace).2
    have hmem : '(' ∈ row ++ ',' :: column ++ [')', ':'] := by simp [htail]
    have hdigit : ∀ {cs : List Char}, IsNumber cs → '(' ∉ cs :=
      fun hcs hmem => absurd (hcs.isDecimalDigit _ hmem) (by decide)
    simp [hdigit hrow, hdigit hcolumn] at hmem
  · exact (List.prefix_append _ _).isInfix

theorem takes_afterFile (h : e.IsPrinted) (hrest : rest.head?.all (· == '\n') = true) :
    afterFile.Takes e.tail rest fun groups =>
      (5, String.ofList e.message) :: (4, String.ofList e.code) ::
        (3, String.ofList e.column) :: (2, String.ofList e.row) :: groups := by
  have hdigits : ∀ {cs : List Char} {c : Char} (more : List Char), IsNumber cs →
      isDecimalDigit c = false → digits.Takes cs (c :: more) id := fun more hcs hc =>
    takes_oneOrMore_char hcs.1 hcs.isDecimalDigit (by simpa using hc)
  have hspace : ∀ c ∈ [' '], isBlank c = true := by simp
  have hmessage : Takes (many (char (· != '\n'))) e.message (([] ++ []) ++ rest) id := by
    refine takes_many_char ?_ ?_
    · intro c hc
      have hne : c ≠ '\n' := fun heq => h.newline_notMem_message (heq ▸ hc)
      simpa using hne
    · cases rest with
      | nil => simp
      | cons c rest => simpa using hrest
  have hgap : blanks.Takes [' '] ((e.message ++ ([] ++ [])) ++ rest) id := by
    refine takes_many_char hspace ?_
    have hhead := h.head?_message
    cases hm : e.message with
    | nil => simp [hm] at hhead
    | cons c message => simpa [hm] using hhead
  -- from the end of the line back to the place, since each part has to stop where the next begins
  have hend := (hmessage.group 5).seq ((takes_lineEnd hrest).seq (takes_empty rest))
  have hcolon := (takes_text ":" _).seq (hgap.seq hend)
  have hcode := (((takes_text "TS" _).seq (hdigits _ h.isNumber_number (by decide))).group 4).seq
    hcolon
  have hword := (takes_text "error" _).seq
    ((takes_oneOrMore_char (by simp) hspace (by simp; decide)).seq hcode)
  have hclose := (takes_text "):" _).seq ((takes_many_char hspace (by simp; decide)).seq hword)
  have hcolumn := ((hdigits _ h.isNumber_column (by decide)).group 3).seq hclose
  have hrow := ((hdigits _ h.isNumber_row (by decide)).group 2).seq
    ((takes_text "," _).seq hcolumn)
  have htail : e.tail = "(".toList ++ (e.row ++ (",".toList ++ (e.column ++ ("):".toList ++
      ([' '] ++ ("error".toList ++ ([' '] ++ (("TS".toList ++ e.number) ++ (":".toList ++
      ([' '] ++ (e.message ++ ([] ++ [])))))))))))) := by
    simp [CompilerError.tail, CompilerError.code, placeText]
  rw [htail]
  exact (takes_text "(" _).seq hrow

theorem takes_line (h : e.IsPrinted) (hrest : rest.head?.all (· == '\n') = true) :
    (seq (group 1 (seq (char (· != '\n')) (few (char (· != '\n'))))) afterFile).Takes e.line rest
      fun groups => (5, String.ofList e.message) :: (4, String.ofList e.code) ::
        (3, String.ofList e.column) :: (2, String.ofList e.row) ::
        (1, String.ofList e.file) :: groups := by
  refine takes_upTo h.file_ne_nil ?_ ?_ (takes_afterFile h hrest)
  · intro c hc
    have hne : c ≠ '\n' := fun heq => h.newline_notMem_file (heq ▸ hc)
    simpa using hne
  · intro as bs hfile hbs before groups
    refine List.eq_nil_iff_forall_not_mem.2 fun w hw => h.not_hasPlace_file ?_
    obtain ⟨cs, hcs, -, hspells⟩ := between_of_mem_ways afterFile _ groups w hw
    obtain ⟨row, column, hrow, hcolumn, hplace⟩ := exists_placeText_of_spells hspells
    have hprefix : placeText row column <+: bs ++ (e.tail ++ rest) :=
      hplace.trans ⟨w.1.rest, hcs.symm⟩
    have hinfix := placeText_infix_of_prefix hrow hcolumn hbs hprefix
    exact ⟨row, column, hrow, hcolumn, hinfix.trans (hfile ▸ (List.suffix_append as bs).isInfix)⟩

/-- What the pattern of a line takes an error apart into. -/
def CompilerError.groups (e : CompilerError) : Pattern.Groups :=
  [(5, String.ofList e.message), (4, String.ofList e.code), (3, String.ofList e.column),
    (2, String.ofList e.row), (1, String.ofList e.file)]

theorem ofGroups_groups (e : CompilerError) :
    ofGroups e.groups = if e.isEnvironment then none else some e.diagnostic :=
  rfl

theorem readsLine_line (h : e.IsPrinted) : linePattern.ReadsLine e.line (some e.groups) := by
  intro before rest hbefore hrest
  have hstart : lineStart.Prefers ⟨before, e.line ++ rest⟩ ⟨before, e.line ++ rest⟩ id :=
    prefers_lineStart hbefore
  have hline := hstart.seq (takes_line h hrest before)
  exact linePattern_eq ▸ hline []

end

/-! ### The whole output -/

/-- An output shows an error on a line, below a text. -/
def CompilerError.ShownBelow (e : CompilerError) (above : List Char) (output : String) : Prop :=
  above.getLast?.all (· == '\n') = true ∧
    ∃ below, below.head?.all (· == '\n') = true ∧ output.toList = above ++ e.line ++ below

/-- An error on a line becomes a diagnostic, if none is broken off above it. -/
theorem diagnostic_mem_ofCompilerOutput {e : CompilerError} {above : List Char} {output : String}
    (h : e.IsPrinted) (henvironment : e.isEnvironment = false) (hshown : e.ShownBelow above output)
    (habove : ¬ EndsBrokenOff above) : e.diagnostic ∈ ofCompilerOutput output := by
  obtain ⟨hlast, below, hbelow, houtput⟩ := hshown
  have hgroups : ofGroups e.groups = some e.diagnostic := by
    rw [ofGroups_groups, henvironment]
    rfl
  refine List.mem_filterMap.2 ⟨e.groups, ?_, hgroups⟩
  rcases List.eq_nil_or_concat above with rfl | ⟨lines, c, rfl⟩
  · have hw := readsLine_line h [] below rfl hbelow
    rw [List.nil_append] at houtput
    exact mem_matchesIn_start (by rw [houtput, hw]; rfl)
  · rw [List.concat_eq_append] at hlast habove houtput
    obtain rfl : c = '\n' := by simpa using hlast
    have hw := readsLine_line h ('\n' :: lines.reverse) below rfl hbelow
    have hstops := stopsBefore_of_not_endsBrokenOff
      (fun hbroken => habove hbroken.newline) (e.line ++ below)
    exact mem_matchesIn_below (by simp [houtput]) hstops hw

theorem ofCompilerOutput_eq_nil {output : String} (h : ¬ HasPlace output.toList) :
    ofCompilerOutput output = [] := by
  have hnone : linePattern.searchFrom [] output.toList = none := by
    refine Option.eq_none_iff_forall_ne_some.2 fun w hw => h ?_
    obtain ⟨skipped, left, houtput, hw⟩ := exists_of_searchFrom hw
    obtain ⟨cs, hleft, -, hcs⟩ := between_of_mem_ways linePattern _ [] w hw
    obtain ⟨file, tail, rfl, -, htail⟩ := spells_linePattern hcs
    obtain ⟨row, column, hrow, hcolumn, hplace⟩ := exists_placeText_of_spells htail
    refine ⟨row, column, hrow, hcolumn, hplace.isInfix.trans ⟨skipped ++ file, w.1.rest, ?_⟩⟩
    rw [houtput, show left = file ++ tail ++ w.1.rest from hleft]
    simp
  rw [ofCompilerOutput, matchesIn_eq_nil hnone, List.filterMap_nil]

end Diagnostic

namespace Validation

open Diagnostic

variable {c : Provider.Compiler} {d : Disk} {dir program : Path} {names : List String}
  {stdout stderr : String}

theorem diagnose_compiler (hlocate : c.locate d = .ok program)
    (hlaunch : c.launcher.launch d dir program (Provider.Compiler.arguments names) =
      .ok (stdout, stderr)) :
    (Provider.compiler c).diagnose d dir names = .ok (ofCompilerOutput (stdout ++ stderr)) := by
  simp only [Provider.compiler, hlocate, hlaunch, bind, Except.bind]

theorem exists_compile_check {p : Provider} {ds : List Diagnostic}
    (hdir : d.isDirectory dir = true) (hsources : presentSources d dir ≠ [])
    (hds : p.diagnose d dir (presentSources d dir) = .ok ds) :
    ∃ check, (ofDirectory p d dir).check? "compile_diagnostics" = some check ∧
      check.passed = ds.isEmpty := by
  refine ⟨_, check?_compile_diagnostics hdir, ?_⟩
  rw [passed_compileFinding hds]
  simp [hsources]

theorem not_passed_compile_check {p : Provider} {ds : List Diagnostic} (hne : ds ≠ [])
    (hds : p.diagnose d dir (presentSources d dir) = .ok ds) {check : Check}
    (hcheck : (ofDirectory p d dir).check? "compile_diagnostics" = some check) :
    check.passed = false := by
  cases hdir : d.isDirectory dir with
  | false => simp [ofDirectory, hdir, check?, ofFindings, ofParts, Finding.fail] at hcheck
  | true =>
    rw [check?_compile_diagnostics hdir, Option.some.injEq] at hcheck
    rw [← hcheck, passed_compileFinding hds]
    simp [hne]

/-- A compiler at a path of its own, or found by its name, is started with its flags and the names of
the files. An error that it then prints with its file and its place is never taken for silence: it
is among the diagnostics, whatever else is printed below it and above it, as long as no error above
is broken off before its message, and the check of the diagnostics does not pass. Without a place in
its output a compiler counts as silent, whatever else it prints. -/
theorem compiler_errors_seen (c : Provider.Compiler) (d : Disk) (dir program : Path)
    (names : List String) (stdout stderr : String) (hlocate : c.locate d = .ok program)
    (hlaunch : c.launcher.launch d dir program (Provider.Compiler.arguments names) =
      .ok (stdout, stderr)) :
    (∀ (e : CompilerError) (above : List Char), e.IsPrinted → e.isEnvironment = false →
      e.ShownBelow above (stdout ++ stderr) → ¬ EndsBrokenOff above →
        (∃ ds, (Provider.compiler c).diagnose d dir names = .ok ds ∧ e.diagnostic ∈ ds) ∧
        (names = presentSources d dir → ∀ check,
          (ofDirectory (.compiler c) d dir).check? "compile_diagnostics" = some check →
            check.passed = false)) ∧
    (¬ HasPlace (stdout ++ stderr).toList →
      (Provider.compiler c).diagnose d dir names = .ok [] ∧
      (names = presentSources d dir → d.isDirectory dir = true → names ≠ [] →
        ∃ check, (ofDirectory (.compiler c) d dir).check? "compile_diagnostics" = some check ∧
          check.passed = true)) := by
  have hdiagnose := diagnose_compiler hlocate hlaunch
  constructor
  · intro e above he henvironment hshown habove
    have hmem := diagnostic_mem_ofCompilerOutput he henvironment hshown habove
    refine ⟨⟨_, hdiagnose, hmem⟩, ?_⟩
    rintro rfl check hcheck
    exact not_passed_compile_check (List.ne_nil_of_mem hmem) hdiagnose hcheck
  · intro hplace
    rw [ofCompilerOutput_eq_nil hplace] at hdiagnose
    refine ⟨hdiagnose, ?_⟩
    rintro rfl hdir hsources
    exact exists_compile_check hdir hsources hdiagnose

/-- Programs are looked for in places, one after the other, and print what their arguments say. -/
def launcherIn (places : List Path) (output : List String → String) : Provider.Launcher where
  find d name :=
    match (places.map (·.child name)).find? d.isFile with
    | some program => .ok program
    | none => .error "cannot find binary path"
  launch _ _ _ arguments := .ok (output arguments, "")

def compilerDisk : Disk :=
  ⟨.directory [("bin", .directory [("tsc", .file (.text ""))]),
    ("out", .directory [("types.ts", .file (.text "export type Id = Missing;\n"))])], []⟩

def unknownName : CompilerError where
  file := "types.ts".toList
  row := "1".toList
  column := "18".toList
  number := "2304".toList
  message := "Cannot find name 'Missing'.".toList

theorem isPrinted_unknownName : unknownName.IsPrinted where
  file_ne_nil := by decide
  newline_notMem_file := by decide
  not_hasPlace_file h := absurd h.paren_mem (by decide)
  isNumber_row := ⟨by decide, by decide⟩
  isNumber_column := ⟨by decide, by decide⟩
  isNumber_number := ⟨by decide, by decide⟩
  newline_notMem_message := by decide
  head?_message := by decide

/-- A compiler that finds an error in the types, and nothing else of what it is asked for. -/
def typeChecker : Provider.Compiler where
  path := none
  launcher := launcherIn [⟨"/usr"⟩, ⟨"/bin"⟩] fun arguments =>
    if arguments.contains "types.ts" then "types.ts(1,18): error TS2304: Cannot find name 'Missing'.\n"
    else "error TS6053: File not found.\n"

/-- Without a path of its own the compiler is found, and it prints what the names of files say. -/
theorem compiler_errors_seen_unknownName :
    typeChecker.locate compilerDisk = .ok ⟨"/bin/tsc"⟩ ∧
    (∃ ds, (Provider.compiler typeChecker).diagnose compilerDisk ⟨"/out"⟩ ["types.ts"] = .ok ds ∧
      ⟨"TS2304: Cannot find name 'Missing'.", ⟨"types.ts"⟩, 1⟩ ∈ ds) ∧
    (∀ check, (ofDirectory (.compiler typeChecker) compilerDisk ⟨"/out"⟩).check?
      "compile_diagnostics" = some check → check.passed = false) ∧
    (Provider.compiler typeChecker).diagnose compilerDisk ⟨"/out"⟩ ["errors.ts"] = .ok [] := by
  have hlocate : typeChecker.locate compilerDisk = .ok ⟨"/bin/tsc"⟩ := by rfl
  have hseen := compiler_errors_seen typeChecker compilerDisk ⟨"/out"⟩ ⟨"/bin/tsc"⟩ ["types.ts"]
    "types.ts(1,18): error TS2304: Cannot find name 'Missing'.\n" "" hlocate (by rfl)
  have hsilent := compiler_errors_seen typeChecker compilerDisk ⟨"/out"⟩ ⟨"/bin/tsc"⟩ ["errors.ts"]
    "error TS6053: File not found.\n" "" hlocate (by rfl)
  have hshown : unknownName.ShownBelow []
      ("types.ts(1,18): error TS2304: Cannot find name 'Missing'.\n" ++ "") :=
    ⟨rfl, ['\n'], rfl, by decide⟩
  have hnothing : ¬ EndsBrokenOff [] := fun h => absurd h.hasPlace.paren_mem (by simp)
  have hdiagnostic : unknownName.diagnostic =
      ⟨"TS2304: Cannot find name 'Missing'.", ⟨"types.ts"⟩, 1⟩ := by decide
  obtain ⟨hdiagnosed, hfailed⟩ :=
    hseen.1 unknownName [] isPrinted_unknownName (by decide) hshown hnothing
  refine ⟨hlocate, hdiagnostic ▸ hdiagnosed, hfailed (by decide), ?_⟩
  exact (hsilent.2 fun h => absurd h.paren_mem (by decide)).1

/-- An old compiler that refuses a flag, whatever it is to check. -/
def oldCompiler : Provider.Compiler where
  path := some ⟨"/bin/tsc"⟩
  launcher := launcherIn [] fun arguments =>
    if arguments.contains "--lib" then "error TS5023: Unknown compiler option '--lib'.\n" else ""

/-- A compiler that refuses its flags counts as one that has nothing to say. -/
theorem compiler_error_unseen :
    isEnvironment "TS5023" "Unknown compiler option '--lib'." = false ∧
    (∀ names, oldCompiler.launcher.launch compilerDisk ⟨"/out"⟩ ⟨"/bin/tsc"⟩
        (Provider.Compiler.arguments names) =
          .ok ("error TS5023: Unknown compiler option '--lib'.\n", "") ∧
      (Provider.compiler oldCompiler).diagnose compilerDisk ⟨"/out"⟩ names = .ok []) ∧
    ∃ check, (ofDirectory (.compiler oldCompiler) compilerDisk ⟨"/out"⟩).check?
      "compile_diagnostics" = some check ∧ check.passed = true := by
  have hsilent : ofCompilerOutput ("error TS5023: Unknown compiler option '--lib'.\n" ++ "") = [] :=
    ofCompilerOutput_eq_nil fun h => absurd h.paren_mem (by decide)
  have hlocate : oldCompiler.locate compilerDisk = .ok ⟨"/bin/tsc"⟩ := by rfl
  have hlaunch : ∀ names, oldCompiler.launcher.launch compilerDisk ⟨"/out"⟩ ⟨"/bin/tsc"⟩
      (Provider.Compiler.arguments names) =
        .ok ("error TS5023: Unknown compiler option '--lib'.\n", "") := by
    intro names
    simp [oldCompiler, launcherIn, Provider.Compiler.arguments, Provider.Compiler.flags]
  have hdiagnose : ∀ names,
      (Provider.compiler oldCompiler).diagnose compilerDisk ⟨"/out"⟩ names = .ok [] :=
    fun names => hsilent ▸ diagnose_compiler hlocate (hlaunch names)
  exact ⟨by decide, fun names => ⟨hlaunch names, hdiagnose names⟩,
    exists_compile_check (by decide) (by decide) (hdiagnose _)⟩

end Validation
end ServiceCapsule
