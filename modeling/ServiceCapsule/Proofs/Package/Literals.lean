import ServiceCapsule.Proofs.Package.Enclosed
import ServiceCapsule.Text.Basic

/-!
# Text literals

How text literals in single quotes are read, and lists of them in brackets. Whatever a text is, its
literal stands on one line and reads back as the text without its carriage returns; so do the lists
in the generated files, formatted or not.
-/

namespace ServiceCapsule
namespace Text

/-! ### Reading literals -/

def charOfHex? (digits : List Char) : Option Char := do
  let values ← digits.mapM hexValue?
  let code := values.foldl (fun n d => 16 * n + d) 0
  if values ≠ [] ∧ code.isValidChar then some (Char.ofNat code) else none

/-- The letters that stand for another character after a backslash. -/
def escapedLetters : List (Char × Char) :=
  [('b', '\x08'), ('t', '\t'), ('n', '\n'), ('v', '\x0b'), ('f', '\x0c'), ('r', '\r')]

def endsLine (c : Char) : Bool := c == '\n' || c == '\r' || c == '\u2028' || c == '\u2029'

/-- What stands after a backslash: the characters that it is written for, and how many it takes. The
end of a line is written for nothing, and of the digits only zero is written for a character. -/
def escape? : List Char → Option (List Char × Nat)
  | [] => none
  | 'x' :: a :: b :: _ => (charOfHex? [a, b]).map fun c => ([c], 3)
  | 'u' :: '\x7b' :: rest =>
    let digits := rest.takeWhile (· != '\x7d')
    (charOfHex? digits).map fun c => ([c], digits.length + 3)
  | 'u' :: a :: b :: c :: d :: _ => (charOfHex? [a, b, c, d]).map fun c => ([c], 5)
  | '\r' :: '\n' :: _ => some ([], 2)
  | c :: rest =>
    if endsLine c then some ([], 1)
    else if c = '0' ∧ rest.head?.any Char.isDigit = false then some (['\x00'], 1)
    else if c.isDigit || c == 'x' || c == 'u' then none
    else some ([(escapedLetters.lookup c).getD c], 1)

/-- Read a literal after its first quote up to the first one that is not escaped: the text that it
stands for, and what follows it. The number counts characters that an escape has taken. -/
def readQuoted : Nat → List Char → Option (List Char × List Char)
  | _, [] => none
  | n + 1, _ :: rest => readQuoted n rest
  | 0, c :: rest =>
    if c = '\'' then some ([], rest)
    else if c = '\\' then
      (escape? rest).bind fun (front, n) =>
        (readQuoted n rest).map fun (more, after) => (front ++ more, after)
    else if c = '\n' ∨ c = '\r' then none
    else (readQuoted 0 rest).map fun (more, after) => (c :: more, after)

def readLiteral : List Char → Option (List Char × List Char)
  | '\'' :: rest => readQuoted 0 rest
  | _ => none

theorem length_readQuoted {n : Nat} {cs value after : List Char}
    (h : readQuoted n cs = some (value, after)) : after.length < cs.length := by
  induction cs generalizing n value with
  | nil => simp [readQuoted] at h
  | cons c cs ih =>
    suffices hrest : after.length ≤ cs.length by simpa using Nat.lt_succ_of_le hrest
    cases n with
    | succ n => exact (ih h).le
    | zero =>
      rw [readQuoted] at h
      split_ifs at h
      · obtain ⟨-, rfl⟩ : [] = value ∧ cs = after := by simpa using h
        exact le_refl _
      · obtain ⟨⟨front, n⟩, -, h⟩ := Option.bind_eq_some_iff.1 h
        obtain ⟨⟨more, rest⟩, hmore, heq⟩ := Option.map_eq_some_iff.1 h
        obtain ⟨-, rfl⟩ := Prod.mk.inj heq
        exact (ih hmore).le
      · obtain ⟨⟨more, rest⟩, hmore, heq⟩ := Option.map_eq_some_iff.1 h
        obtain ⟨-, rfl⟩ := Prod.mk.inj heq
        exact (ih hmore).le

theorem length_readLiteral {cs value after : List Char}
    (h : readLiteral cs = some (value, after)) : after.length < cs.length := by
  unfold readLiteral at h
  split at h
  · exact (length_readQuoted h).trans (by simp)
  · simp at h

def skipBlanks (cs : List Char) : List Char := cs.dropWhile Char.isWhitespace

theorem length_skipBlanks (cs : List Char) : (skipBlanks cs).length ≤ cs.length :=
  (List.dropWhile_suffix _).length_le

/-- Read literals with commas between them up to a closing bracket: the texts that they stand for,
and what follows. Blanks may stand around each of them, and a comma behind the last one. -/
def readList (cs : List Char) : Option (List (List Char) × List Char) :=
  match _hstart : skipBlanks cs with
  | ']' :: rest => some ([], rest)
  | start =>
    match _hread : readLiteral start with
    | none => none
    | some (value, rest) =>
      match _hnext : skipBlanks rest with
      | ']' :: after => some ([value], after)
      | ',' :: more => (readList more).map fun (values, after) => (value :: values, after)
      | _ => none
  termination_by cs.length
  decreasing_by
    have hlength := _hstart ▸ length_skipBlanks cs
    have hmore := _hnext ▸ length_skipBlanks rest
    have hrest := length_readLiteral _hread
    simp only [List.length_cons] at hmore
    omega

theorem readList_of_readLiteral {cs value rest : List Char}
    (h : readLiteral (skipBlanks cs) = some (value, rest)) :
    readList cs = match skipBlanks rest with
      | ']' :: after => some ([value], after)
      | ',' :: more => (readList more).map fun (values, after) => (value :: values, after)
      | _ => none := by
  rw [readList]
  split
  · rename_i hstart
    simp [hstart, readLiteral] at h
  · split
    · rename_i hread
      simp [h] at hread
    · rename_i hread
      obtain ⟨rfl, rfl⟩ : value = _ ∧ rest = _ := by simpa [h] using hread
      split <;> rename_i hnext <;> simp only [hnext]

theorem readList_of_bracket {cs rest : List Char} (h : skipBlanks cs = ']' :: rest) :
    readList cs = some ([], rest) := by
  rw [readList]
  split
  · rename_i hstart
    obtain ⟨-, rfl⟩ := List.cons.inj (h.symm.trans hstart)
    rfl
  · rename_i hstart
    exact absurd h (hstart rest)

end Text

namespace Naming

open Text

/-- What a literal keeps of a text: it leaves carriage returns out. -/
def withoutReturns (s : String) : List Char := s.toList.filter (· != '\r')

/-- Each character is read back from the way in which it is written. -/
theorem readQuoted_quotedChar (c : Char) (cs : List Char) :
    readQuoted 0 (quotedChar c ++ cs) =
      (readQuoted 0 cs).map fun (more, after) => ([c].filter (· != '\r') ++ more, after) := by
  unfold quotedChar
  split
  · rfl
  · rfl
  · rfl
  · simp
  · rename_i hbackslash hquote hnewline hreturn
    rw [List.singleton_append, readQuoted, if_neg hquote, if_neg hbackslash,
      if_neg (not_or.2 ⟨hnewline, hreturn⟩)]
    have hkept : (c != '\r') = true := by simpa using hreturn
    simp [hkept]

theorem readQuoted_flatMap (cs rest : List Char) :
    readQuoted 0 (cs.flatMap quotedChar ++ '\'' :: rest) = some (cs.filter (· != '\r'), rest) := by
  induction cs with
  | nil => rfl
  | cons c cs ih =>
    rw [List.flatMap_cons, List.append_assoc, readQuoted_quotedChar, ih]
    simp [← List.filter_append]

theorem readLiteral_quote (s : String) (rest : List Char) :
    readLiteral ((quote s).toList ++ rest) = some (withoutReturns s, rest) := by
  have htext : (quote s).toList ++ rest =
      '\'' :: (s.toList.flatMap quotedChar ++ '\'' :: rest) := by
    simp [quote]
  rw [htext]
  exact readQuoted_flatMap s.toList rest

theorem ne_of_mem_quotedChar {c d : Char} (h : c ∈ quotedChar d) : c ≠ '\n' ∧ c ≠ '\r' := by
  unfold quotedChar at h
  split at h
  case h_4 => exact absurd h List.not_mem_nil
  case h_5 hnewline hreturn =>
    obtain rfl := List.mem_singleton.1 h
    exact ⟨hnewline, hreturn⟩
  all_goals
    simp only [List.mem_cons, List.not_mem_nil, or_false] at h
    rcases h with rfl | rfl <;> decide

theorem ne_of_mem_quote {c : Char} {s : String} (h : c ∈ (quote s).toList) :
    c ≠ '\n' ∧ c ≠ '\r' := by
  have hquote : (quote s).toList = '\'' :: s.toList.flatMap quotedChar ++ ['\''] := by simp [quote]
  rw [hquote] at h
  rcases List.mem_append.1 h with h | h
  · rcases List.mem_cons.1 h with rfl | h
    · decide
    · obtain ⟨d, -, hd⟩ := List.mem_flatMap.1 h
      exact ne_of_mem_quotedChar hd
  · obtain rfl := List.mem_singleton.1 h
    decide

theorem quoteAll_cons_cons (item next : String) (items : List String) :
    (quoteAll (item :: next :: items)).toList =
      (quote item).toList ++ ',' :: ' ' :: (quoteAll (next :: items)).toList := by
  simp [quoteAll]

theorem skipBlanks_quoteAll (item : String) (items : List String) (rest : List Char) :
    skipBlanks ((quoteAll (item :: items)).toList ++ rest) =
      (quoteAll (item :: items)).toList ++ rest := by
  have hstart : ∃ more, (quoteAll (item :: items)).toList = '\'' :: more := by
    cases items with
    | nil => exact ⟨_, by simp [quoteAll, quote]; rfl⟩
    | cons next items => exact ⟨_, by rw [quoteAll_cons_cons]; simp [quote]; rfl⟩
  obtain ⟨more, hmore⟩ := hstart
  rw [hmore]
  rfl

/-- Literals with commas between them are read one after the other, up to the bracket that closes
the list. -/
theorem readList_of_quoteAll {items : List String} {cs rest : List Char}
    (h : skipBlanks cs = (quoteAll items).toList ++ ']' :: rest) :
    readList cs = some (items.map withoutReturns, rest) := by
  induction items generalizing cs with
  | nil => exact readList_of_bracket h
  | cons item items ih =>
    cases items with
    | nil =>
      have hitem : readLiteral (skipBlanks cs) = some (withoutReturns item, ']' :: rest) := by
        rw [h]
        simpa [quoteAll] using readLiteral_quote item (']' :: rest)
      rw [readList_of_readLiteral hitem]
      rfl
    | cons next items =>
      rw [quoteAll_cons_cons, List.append_assoc] at h
      have hblank : skipBlanks (' ' :: ((quoteAll (next :: items)).toList ++ ']' :: rest)) =
          (quoteAll (next :: items)).toList ++ ']' :: rest := skipBlanks_quoteAll next items _
      rw [readList_of_readLiteral (h ▸ readLiteral_quote item _)]
      show (readList (' ' :: ((quoteAll (next :: items)).toList ++ ']' :: rest))).map _ = _
      rw [ih hblank]
      rfl

theorem readList_quoteAll (items : List String) (rest : List Char) :
    readList ((quoteAll items).toList ++ ']' :: rest) = some (items.map withoutReturns, rest) := by
  apply readList_of_quoteAll
  cases items with
  | nil => rfl
  | cons item items => exact skipBlanks_quoteAll item items _

end Naming

/-! ### Literals in files -/

/-- A stretch of one line between characters that are not blank stays where it is when blanks in
front of line breaks go. -/
theorem Text.Trimmed.stretch_line {c d : Char} (hc : isBlank c = false) (hd : isBlank d = false)
    {before inside after es : List Char} (hinside : '\n' ∉ inside)
    (h : Trimmed (before ++ (c :: inside ++ [d] ++ after)) es) :
    ∃ first last, es = first ++ (c :: inside ++ [d] ++ last) ∧ Trimmed before first ∧
      Trimmed after last := by
  rw [List.cons_append, List.cons_append, List.append_assoc, List.singleton_append] at h
  obtain ⟨first, second, rfl, hfirst, hsecond⟩ := h.split hc
  obtain ⟨kept, last, rfl, hkept, hlast⟩ := hsecond.split hd
  obtain rfl := hkept.eq_of_notMem hinside
  exact ⟨first, last, by simp, hfirst, hlast⟩

namespace Draft

/-- Between fixed words a line of a text has a list of literals that reads back as these items. -/
def ReadsList (start stop : String) (items : List String) (cs : List Char) : Prop :=
  ∃ before list after, cs = before ++ '\n' :: (start.toList ++ '[' :: list) ∧
    list = (Naming.quoteAll items).toList ++ ']' :: (stop.toList ++ '\n' :: after) ∧
    Text.readList list = some (items.map Naming.withoutReturns, stop.toList ++ '\n' :: after)

def listLine (start stop : String) (items : List String) : String :=
  start ++ "[" ++ Naming.quoteAll items ++ "]" ++ stop

theorem readsList_of_shows {start stop : String} {items : List String} {cs : List Char}
    (h : Text.Shows [(listLine start stop items).toList] cs) : ReadsList start stop items cs := by
  obtain ⟨before, after, rfl⟩ := h
  refine ⟨before, _, after, ?_, rfl, Naming.readList_quoteAll items _⟩
  simp [listLine, Text.joined]

theorem newline_notMem_quoteAll (items : List String) : '\n' ∉ (Naming.quoteAll items).toList := by
  induction items with
  | nil => decide
  | cons item items ih =>
    have hitem : '\n' ∉ (Naming.quote item).toList := fun hmem =>
      (Naming.ne_of_mem_quote hmem).1 rfl
    cases items with
    | nil => simpa [Naming.quoteAll] using hitem
    | cons next items => simp [Naming.quoteAll_cons_cons, hitem, ih]

theorem isTidy_listLine {start stop : String} (hstart : '\n' ∉ start.toList)
    (hstop : Text.IsTidy stop.toList) (items : List String) :
    Text.IsTidy (listLine start stop items).toList := by
  obtain ⟨body, c, hbody, hc⟩ := hstop.exists_last
  have hnewline : '\n' ∉ body := fun hmem => hstop.1 (by simp [hbody, hmem])
  have hline : (listLine start stop items).toList =
      (start.toList ++ '[' :: ((Naming.quoteAll items).toList ++ ']' :: body)) ++ [c] := by
    simp [listLine, hbody]
  rw [hline]
  exact Text.isTidy_concat (by simp [hstart, newline_notMem_quoteAll, hnewline]) hc

end Draft

namespace Generation

variable {c : ParsedCapsule} {mode : Mode} {time : Timestamp} {format : Bool} {k : FileKind}
  {s : String}

theorem shows_own
    (hs : content (if format then some .whitespace else none) (Plan.ofCapsule c mode time) k =
      .ok s)
    {line : String} (hline : line ∈ Draft.lines (Draft.own (Plan.ofCapsule c mode time) k))
    (htidy : Text.IsTidy line.toList) : Text.Shows [line.toList] s.toList := by
  have hlines : Draft.lines (Draft.sections (Plan.ofCapsule c mode time) k) =
      Draft.lines (Draft.top (Plan.ofCapsule c mode time) k) ++
        Draft.lines (Draft.imports (Plan.ofCapsule c mode time) k ++
          Draft.own (Plan.ofCapsule c mode time) k ++
          Draft.sourceCode (Plan.ofCapsule c mode time) k ++
          Draft.leftOut (Plan.ofCapsule c mode time) k) := by
    rw [← Draft.lines_append]
    simp only [Draft.sections, List.append_assoc]
  exact shows_line hs (Draft.ofKind_ofCapsule c mode time k) (Draft.lines_top_ne_nil _ k) hlines
    (by simp [hline]) htidy

theorem readsList_own
    (hs : content (if format then some .whitespace else none) (Plan.ofCapsule c mode time) k =
      .ok s)
    {start stop : String} (hstart : '\n' ∉ start.toList) (hstop : Text.IsTidy stop.toList)
    {items : List String}
    (hline : Draft.listLine start stop items ∈
      Draft.lines (Draft.own (Plan.ofCapsule c mode time) k)) :
    Draft.ReadsList start stop items s.toList :=
  Draft.readsList_of_shows (shows_own hs hline (Draft.isTidy_listLine hstart hstop items))

theorem listLine_mem_index (p : Plan) :
    Draft.listLine "  platforms: " " as Platform[]," (p.metadata.platforms.map (·.name)) ∈
        Draft.lines (Draft.own p .index) ∧
      Draft.listLine "  dependencies: " "," p.metadata.dependencies ∈
        Draft.lines (Draft.own p .index) := by
  have hplatforms : Draft.listLine "  platforms: " " as Platform[],"
      (p.metadata.platforms.map (·.name)) = "  " ++ ("platforms: [" ++
        (Naming.quoteAll (p.metadata.platforms.map (·.name)) ++ "] as Platform[],")) := by
    rw [← String.toList_inj]
    simp [Draft.listLine]
  have hdependencies : Draft.listLine "  dependencies: " "," p.metadata.dependencies =
      "  " ++ ("dependencies: [" ++ (Naming.quoteAll p.metadata.dependencies ++ "],")) := by
    rw [← String.toList_inj]
    simp [Draft.listLine]
  rw [hplatforms, hdependencies]
  constructor
  all_goals
    refine List.mem_flatMap.2 ⟨Draft.metadataConstant p, by simp [Draft.own], ?_⟩
    rw [Draft.metadataConstant, Draft.lines_declaration]
    refine List.mem_cons_of_mem _ (List.mem_append_left _ (Code.mem_indented ?_ ?_))
    · simp [← String.toList_inj]
    · simp [String.append_assoc]

theorem listLine_mem_constants (p : Plan) :
    Draft.listLine "export const SUPPORTED_PLATFORMS: readonly Platform[] = " ";"
      (p.metadata.platforms.map (·.name)) ∈ Draft.lines (Draft.own p .constants) := by
  have hline : Draft.listLine "export const SUPPORTED_PLATFORMS: readonly Platform[] = " ";"
      (p.metadata.platforms.map (·.name)) = "export const SUPPORTED_PLATFORMS" ++
        (": readonly Platform[] = [" ++ Naming.quoteAll (p.metadata.platforms.map (·.name)) ++
          "];") := by
    rw [← String.toList_inj]
    simp [Draft.listLine]
  have hown : "export const SUPPORTED_PLATFORMS" ++
      (": readonly Platform[] = [" ++ Naming.quoteAll (p.metadata.platforms.map (·.name)) ++
        "];") ∈ (Item.declaration true "const" "SUPPORTED_PLATFORMS" [": readonly Platform[] = [" ++
          Naming.quoteAll (p.metadata.platforms.map (·.name)) ++ "];"]).lines := by
    exact List.mem_singleton.2 rfl
  rw [hline]
  exact List.mem_flatMap.2 ⟨_, by simp [Draft.own, Draft.sharedConstants], hown⟩

end Generation

namespace Plan

open Naming (quote quoteAll withoutReturns)
open Text (readLiteral readList Trimmed)

/-- The literal of a text stands on one line, ends at the first quote in it that is not escaped, and
is written for the text without its carriage returns; literals with commas between them read back
one after the other. The formatter takes nothing out of a literal, and so the lists in the files of
a capsule read back whether they are formatted or not. -/
theorem literals_read_back (text : String) (items : List String) (c : ParsedCapsule) (mode : Mode)
    (time : Timestamp) (format : Bool) :
    (∃ inside, (quote text).toList = '\'' :: inside ++ ['\''] ∧
      (∀ d ∈ inside, d ≠ '\n' ∧ d ≠ '\r') ∧
      ∀ rest, readLiteral ((quote text).toList ++ rest) = some (withoutReturns text, rest)) ∧
    (∀ rest, readList ((quoteAll items).toList ++ ']' :: rest) =
      some (items.map withoutReturns, rest)) ∧
    (∀ before after, ∃ first last,
      (Formatter.tidy (String.ofList
        (before ++ ((quote text).toList ++ (after ++ ['\n']))))).toList =
          first ++ ((quote text).toList ++ last) ∧
        Trimmed before first ∧ Trimmed (after ++ ['\n']) last) ∧
    ∃ index constants,
      Generation.content (if format then some .whitespace else none) (ofCapsule c mode time) .index =
        .ok index ∧
      Generation.content (if format then some .whitespace else none) (ofCapsule c mode time)
        .constants = .ok constants ∧
      Draft.ReadsList "  platforms: " " as Platform[]," (c.metadata.platforms.map (·.name))
        index.toList ∧
      Draft.ReadsList "  dependencies: " "," c.metadata.dependencies index.toList ∧
      Draft.ReadsList "export const SUPPORTED_PLATFORMS: readonly Platform[] = " ";"
        (c.metadata.platforms.map (·.name)) constants.toList := by
  have hquote : (quote text).toList =
      '\'' :: text.toList.flatMap Naming.quotedChar ++ ['\''] := by simp [quote]
  have hinside : ∀ d ∈ text.toList.flatMap Naming.quotedChar, d ≠ '\n' ∧ d ≠ '\r' := by
    intro d hd
    exact Naming.ne_of_mem_quote (s := text) (by simp [hquote, hd])
  refine ⟨⟨_, hquote, hinside, Naming.readLiteral_quote text⟩, Naming.readList_quoteAll items, ?_,
    _, _, Generation.content_ofCapsule _ c mode time .index,
    Generation.content_ofCapsule _ c mode time .constants, ?_⟩
  · intro before after
    have htext : (String.ofList (before ++ ((quote text).toList ++ (after ++ ['\n'])))).toList =
        before ++ ((quote text).toList ++ after) ++ ['\n'] := by simp
    have htrimmed := Formatter.trimmed_tidy htext
    rw [String.toList_ofList, hquote] at htrimmed
    rw [hquote]
    exact htrimmed.stretch_line rfl rfl fun hmem => (hinside _ hmem).1 rfl
  · have hindex := Generation.content_ofCapsule (if format then some .whitespace else none) c mode
      time .index
    have hlines := Generation.listLine_mem_index (ofCapsule c mode time)
    exact ⟨Generation.readsList_own hindex (by decide) (by decide) hlines.1,
      Generation.readsList_own hindex (by decide) (by decide) hlines.2,
      Generation.readsList_own
        (Generation.content_ofCapsule (if format then some .whitespace else none) c mode time
          .constants) (by decide) (by decide) (Generation.listLine_mem_constants _)⟩

end Plan
end ServiceCapsule
