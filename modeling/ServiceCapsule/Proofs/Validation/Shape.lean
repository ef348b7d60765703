import Mathlib.Data.List.Perm.Subperm
import ServiceCapsule.Package.Naming
import ServiceCapsule.Proofs.Text.Block
import ServiceCapsule.Proofs.Text.Search
import ServiceCapsule.Validation.Shape

/-!
# Shapes from lines

Lines that give a text its shape, whatever else stands in the text: an enumeration gives as many
kinds of errors as it has members, and one line gives a class, a method, an export or a section.
-/

namespace ServiceCapsule

open Text

namespace Text

theorem Shows.line_eq {line cs : List Char} (h : Shows [line] cs) :
    ∃ before after, cs = before ++ '\n' :: line ++ '\n' :: after := by
  obtain ⟨before, after, rfl⟩ := h
  exact ⟨before, after, by simp [joined]⟩

theorem length_joined_le_of_shows {ls : List (List Char)} {s : String} (h : Shows ls s.toList) :
    (joined ls).length ≤ s.utf8ByteSize := by
  have hbytes : ∀ t : String, t.length ≤ t.utf8ByteSize := by
    intro t
    induction t using String.push_induction with
    | empty => simp
    | push t c ih =>
      have hc := c.utf8Size_pos
      rw [String.length_push, String.utf8ByteSize_push]
      omega
  obtain ⟨before, after, hs⟩ := h
  have hlength := congrArg List.length hs
  simp only [String.length_toList, List.length_append, List.length_cons] at hlength
  have hs := hbytes s
  omega

theorem occursIn_append (as before after : List Char) :
    occursIn as (before ++ as ++ after) = true := by
  induction before with
  | nil =>
    cases as with
    | nil => cases after <;> simp [occursIn]
    | cons a as => simp [occursIn]
  | cons c before ih =>
    simp only [List.cons_append, occursIn, ih, Bool.or_true]

end Text

namespace Shape

open Pattern

theorem occursIn_of_line (start match' : List Char) {p : Pattern} {s : String}
    (h : Shows [start ++ match'] s.toList)
    (hp : ∀ before rest, ∃ last,
      p.Reaches ⟨start.reverse ++ '\n' :: before, match' ++ rest⟩ last) :
    p.occursIn s = true := by
  obtain ⟨before, after, hs⟩ := h.line_eq
  obtain ⟨last, hlast⟩ := hp before.reverse ('\n' :: after)
  exact occursIn_of_reaches hlast (by simp [hs])

/-! ### Kinds of errors -/

/-- Names that stand for kinds of errors: capitals, digits and underscores. -/
def IsMemberName (name : List Char) : Prop :=
  (name.head?.any Char.isUpper = true) ∧
    name.all (fun c => c.isUpper || c.isDigit || c == '_') = true

instance : DecidablePred IsMemberName := fun _ => inferInstanceAs (Decidable (_ ∧ _))

def memberLine (name : List Char) : List Char :=
  ' ' :: ' ' :: name ++ ' ' :: '=' :: ' ' :: '\'' :: name ++ ['\'', ',']

theorem ways_enumMember {name : List Char} (hname : IsMemberName name) (before rest : List Char) :
    ∃ last, (enumMember.ways ⟨'\n' :: before, memberLine name ++ rest⟩ []).head? =
      some (last, [(1, String.ofList name)]) := by
  obtain ⟨hhead, hall⟩ := hname
  cases name with
  | nil => simp at hhead
  | cons c cs =>
    have hc : c.isUpper = true := by simpa using hhead
    have hcs : ∀ d ∈ cs, (d.isUpper || d.isDigit || d == '_') = true := by
      intro d hd
      exact List.all_eq_true.1 hall d (List.mem_cons_of_mem _ hd)
    have hblanks : ∀ d ∈ [' ', ' '], isBlank d = true := by simp
    have hblank : ∀ d ∈ [' '], isBlank d = true := by simp
    let value := c :: cs ++ '\'' :: ',' :: rest
    let indent := ' ' :: ' ' :: '\n' :: before
    let named := cs.reverse ++ c :: indent
    let assigned := ' ' :: '=' :: ' ' :: '\'' :: value
    have hindent : blanks.Prefers ⟨'\n' :: before, memberLine (c :: cs) ++ rest⟩
        ⟨indent, c :: (cs ++ assigned)⟩ id := by
      have hrest : memberLine (c :: cs) ++ rest = [' ', ' '] ++ c :: (cs ++ assigned) := by
        simp [memberLine, assigned, value]
      rw [hrest]
      exact prefers_many_char hblanks (not_isBlank_of_isUpper hc)
    have hname : Prefers (seq (char Char.isUpper) (many (char fun c => c.isUpper || c.isDigit ||
        c == '_'))) ⟨indent, c :: (cs ++ assigned)⟩ ⟨named, assigned⟩ id :=
      (prefers_char hc).seq (prefers_many_char hcs (by decide))
    have hspace : blanks.Prefers ⟨named, ' ' :: '=' :: ' ' :: '\'' :: value⟩
        ⟨' ' :: named, '=' :: ' ' :: '\'' :: value⟩ id :=
      prefers_many_char hblank (by decide)
    have hequals : (text "=").Prefers ⟨' ' :: named, '=' :: ' ' :: '\'' :: value⟩
        ⟨'=' :: ' ' :: named, ' ' :: '\'' :: value⟩ id := prefers_text "="
    have hgap : blanks.Prefers ⟨'=' :: ' ' :: named, ' ' :: '\'' :: value⟩
        ⟨' ' :: '=' :: ' ' :: named, '\'' :: value⟩ id :=
      prefers_many_char hblank (by decide)
    have hquote : quoteMark.Prefers ⟨' ' :: '=' :: ' ' :: named, '\'' :: value⟩
        ⟨'\'' :: ' ' :: '=' :: ' ' :: named, value⟩ id := prefers_char (by decide)
    have hmember := (prefers_lineStart rfl).seq (hindent.seq ((hname.group 1).seq (hspace.seq
      (hequals.seq (hgap.seq (hquote.seq (prefers_empty _)))))))
    have htext : Place.textTo ⟨indent, c :: (cs ++ assigned)⟩ ⟨named, assigned⟩ =
        String.ofList (c :: cs) := by
      have hnamed : named = (c :: cs).reverse ++ indent := by simp [named]
      rw [hnamed, textTo_reverse_append]
    refine ⟨⟨'\'' :: ' ' :: '=' :: ' ' :: named, value⟩, ?_⟩
    rw [← htext]
    exact hmember []

theorem not_reads_enumMember {z : Char} (hz : z = '\x7b' ∨ z = ',') : ¬ enumMember.Reads z := by
  rcases hz with rfl | rfl <;>
    simp [enumMember, Pattern.all, Pattern.Reads, Pattern.blanks, Pattern.text, quoteMark, isBlank]

/-- Every member of an enumeration is found, since no match can go from one line over the comma or
the brace to the next line. -/
theorem mem_distinctNames {name : List Char} {names : List (List Char)} {head : List Char}
    {s : String} (h : Shows ((head ++ ['\x7b']) :: names.map memberLine) s.toList)
    (hnames : ∀ name ∈ names, IsMemberName name) (hname : name ∈ names) :
    String.ofList name ∈ (enumMember.matchesIn s).filterMap fun groups => groups.text 1 := by
  obtain ⟨above, below, rfl⟩ := List.append_of_mem hname
  obtain ⟨first, last, hlast⟩ : ∃ first last,
      (head ++ ['\x7b']) :: above.map memberLine = first ++ [last] :=
    ⟨_, _, (List.dropLast_concat_getLast (by simp)).symm⟩
  obtain ⟨body, z, rfl, hz⟩ : ∃ body z, last = body ++ [z] ∧ (z = '\x7b' ∨ z = ',') := by
    have hmem : last ∈ (head ++ ['\x7b']) :: above.map memberLine := by simp [hlast]
    rcases List.mem_cons.1 hmem with rfl | hmem
    · exact ⟨head, _, rfl, .inl rfl⟩
    · obtain ⟨other, -, rfl⟩ := List.mem_map.1 hmem
      exact ⟨' ' :: ' ' :: other ++ ' ' :: '=' :: ' ' :: '\'' :: other ++ ['\''], ',',
        by simp [memberLine], .inr rfl⟩
  obtain ⟨before, after, hs⟩ := h
  have hlines : (head ++ ['\x7b']) :: (above ++ name :: below).map memberLine =
      first ++ [body ++ [z]] ++ memberLine name :: below.map memberLine := by
    rw [← hlast]
    simp
  have htext : s.toList = (before ++ '\n' :: joined first ++ body) ++ z :: '\n' ::
      (memberLine name ++ '\n' :: (joined (below.map memberLine) ++ after)) := by
    rw [hs, hlines]
    simp
  have hline : z ≠ '\n' := by
    rcases hz with rfl | rfl <;> decide
  obtain ⟨last, hw⟩ := ways_enumMember (hnames name hname)
    (z :: (before ++ '\n' :: joined first ++ body).reverse)
    ('\n' :: (joined (below.map memberLine) ++ after))
  have hmatch := mem_matchesIn_of_line (atLineStart_seq _) (not_reads_enumMember hz) hline htext hw
  exact List.mem_filterMap.2 ⟨_, hmatch, rfl⟩

/-- An enumeration gives at least as many kinds of errors as it has members. -/
theorem length_le_errorKindCount {names : List (List Char)} {head : List Char} {s : String}
    (h : Shows ((head ++ ['\x7b']) :: names.map memberLine) s.toList)
    (hnames : ∀ name ∈ names, IsMemberName name) (hnodup : names.Nodup) :
    names.length ≤ errorKindCount s := by
  have hsubset : names.map String.ofList ⊆
      ((enumMember.matchesIn s).filterMap fun groups => groups.text 1).eraseDups := by
    intro n hn
    obtain ⟨name, hname, rfl⟩ := List.mem_map.1 hn
    exact List.mem_eraseDups.2 (mem_distinctNames h hnames hname)
  have hdistinct : (names.map String.ofList).Nodup :=
    List.Pairwise.map _ (fun _ _ hne h => hne (String.ofList_injective h)) hnodup
  have hlength := (hdistinct.subperm hsubset).length_le
  rw [List.length_map] at hlength
  exact Nat.le_trans hlength (Nat.le_max_left _ _)

/-! ### The service -/

theorem isWord_of_continuesIdentifier {c : Char} (h : Naming.continuesIdentifier c = true) :
    (isWord c || c == '$') = true := by
  simp only [Naming.continuesIdentifier, Bool.or_eq_true, beq_iff_eq] at h
  rcases h with (h | rfl) | rfl
  · simp [isWord_of_isAlphanum (toNat_lt_of_isAlphanum h) h]
  · decide
  · decide

theorem occursIn_serviceClass {name : String} (hname : Naming.isIdentifier name = true)
    {s : String} (h : Shows [("export class " ++ name ++ "Service \x7b").toList] s.toList) :
    serviceClass.occursIn s = true := by
  cases hcs : name.toList with
  | nil => simp [Naming.isIdentifier, hcs] at hname
  | cons c cs =>
    obtain ⟨hc, hrest⟩ : Naming.startsIdentifier c = true ∧
        ∀ d ∈ cs, Naming.continuesIdentifier d = true := by
      simpa [Naming.isIdentifier, hcs] using hname
    have hword : ∀ d ∈ cs, (isWord d || d == '$') = true :=
      fun d hd => isWord_of_continuesIdentifier (hrest d hd)
    apply occursIn_of_line "export ".toList
      ("class".toList ++ ' ' :: c :: (cs ++ ("Service".toList ++ [' ', '\x7b'])))
    · simpa [hcs] using h
    · intro before rest
      have hname : ∀ before rest, nameChars.Reaches ⟨before, c :: (cs ++ rest)⟩
          ⟨cs.reverse ++ c :: before, rest⟩ :=
        fun before rest => (reaches_char hc).seq (reaches_many_char hword)
      simp only [List.append_assoc, List.cons_append, List.nil_append]
      refine ⟨_, ((reaches_wordEdge rfl).seq ((reaches_text "class").seq (reaches_oneBlank.seq
        ((hname _ _).seq ((reaches_text "Service").seq ((reaches_wordEdge rfl).seq
          (reaches_empty _)))))))⟩

theorem reaches_wordEdge_of_blank {name : String} (hname : name.toList.head?.any isWord = true)
    (before rest : List Char) :
    Reaches wordEdge ⟨' ' :: before, name.toList ++ rest⟩ ⟨' ' :: before, name.toList ++ rest⟩ := by
  apply reaches_wordEdge
  cases hcs : name.toList with
  | nil => simp [hcs] at hname
  | cons c cs =>
    have hc : isWord c = true := by simpa [hcs] using hname
    have hspace : isWord ' ' = false := by decide
    simp [Place.atWordEdge, hc, hspace]

theorem occursIn_member {name : String} (hname : name.toList.head?.any isWord = true)
    (start rest : List Char) {s : String}
    (h : Shows [start ++ ' ' :: (name.toList ++ '(' :: rest)] s.toList) :
    (member name).occursIn s = true := by
  apply occursIn_of_line (start ++ [' ']) (name.toList ++ '(' :: rest)
  · simpa using h
  · intro before after
    simp only [List.append_assoc, List.cons_append, List.reverse_append, List.reverse_singleton]
    exact ⟨_, (reaches_wordEdge_of_blank hname _ _).seq ((reaches_text name).seq
      ((reaches_many_zero _ _).seq ((reaches_empty _).altRight.seq
        ((reaches_many_zero _ _).seq ((reaches_text "(").seq (reaches_empty _))))))⟩

theorem occursIn_typedMember {name : String} (hname : name.toList.head?.any isWord = true)
    (start parameter rest : List Char) (hparameter : ∀ c ∈ parameter, (c != '>') = true)
    {s : String}
    (h : Shows [start ++ ' ' :: (name.toList ++ '<' :: (parameter ++ '>' :: '(' :: rest))]
      s.toList) : (member name).occursIn s = true := by
  apply occursIn_of_line (start ++ [' '])
    (name.toList ++ '<' :: (parameter ++ '>' :: '(' :: rest))
  · simpa using h
  · intro before after
    simp only [List.append_assoc, List.cons_append, List.reverse_append, List.reverse_singleton]
    exact ⟨_, (reaches_wordEdge_of_blank hname _ _).seq ((reaches_text name).seq
      ((reaches_many_zero _ _).seq (((reaches_text "<").seq ((reaches_many_char hparameter).seq
        ((reaches_text ">").seq (reaches_empty _)))).altLeft.seq
          ((reaches_many_zero _ _).seq ((reaches_text "(").seq (reaches_empty _))))))⟩

def memberLines : List String :=
  ["  async initialize(): Promise<void> \x7b",
   "  async execute<T>(operation: () => Promise<T> | T): Promise<OperationResult<T>> \x7b",
   "  async cleanup(): Promise<void> \x7b",
   "  getState(): ServiceState \x7b"]

/-- A service that shows its class and its methods is complete. -/
theorem service_ofText {name : String} (hname : Naming.isIdentifier name = true) {s : String}
    (hclass : Shows [("export class " ++ name ++ "Service \x7b").toList] s.toList)
    (hmembers : ∀ line ∈ memberLines, Shows [line.toList] s.toList) :
    Service.ofText s = ⟨true, [], true⟩ := by
  have hinitialize : (member "initialize").occursIn s = true := by
    have hline := hmembers "  async initialize(): Promise<void> \x7b" (by simp [memberLines])
    exact occursIn_member (by decide) "  async".toList "): Promise<void> \x7b".toList hline
  have hexecute : (member "execute").occursIn s = true := by
    have hline := hmembers
      "  async execute<T>(operation: () => Promise<T> | T): Promise<OperationResult<T>> \x7b"
      (by simp [memberLines])
    exact occursIn_typedMember (by decide) "  async".toList "T".toList
      "operation: () => Promise<T> | T): Promise<OperationResult<T>> \x7b".toList (by simp) hline
  have hcleanup : (member "cleanup").occursIn s = true := by
    have hline := hmembers "  async cleanup(): Promise<void> \x7b" (by simp [memberLines])
    exact occursIn_member (by decide) "  async".toList "): Promise<void> \x7b".toList hline
  have hstate : Service.getState.occursIn s = true := by
    have hline := hmembers "  getState(): ServiceState \x7b" (by simp [memberLines])
    apply occursIn_of_line "  ".toList
      ("getState".toList ++ ("(".toList ++ "): ServiceState \x7b".toList)) hline
    intro before rest
    simp only [List.append_assoc]
    exact ⟨_, (reaches_wordEdge rfl).seq ((reaches_text "getState").seq
      ((reaches_many_zero _ _).seq ((reaches_text "(").seq (reaches_empty _))))⟩
  simp [Service.ofText, occursIn_serviceClass hname hclass, lifecycle, hinitialize, hexecute,
    hcleanup, hstate]

/-! ### The index and the readme -/

/-- An index that shows an export of a module, its metadata and its default is complete. -/
theorem index_ofText {service : String} {s : String}
    (hmodule : Shows ["export * from './types';".toList] s.toList)
    (hmetadata : Shows ["export const CAPSULE_METADATA = \x7b".toList] s.toList)
    (hdefault : Shows [("export default " ++ service ++ ";").toList] s.toList) :
    Index.ofText s = ⟨true, true, true⟩ := by
  have hwildcard : Index.wildcardExport.occursIn s = true := by
    apply occursIn_of_line [] ("export".toList ++ (' ' :: ("*".toList ++ (' ' ::
      ("from".toList ++ (' ' :: '\'' :: "./types';".toList)))))) hmodule
    intro before rest
    simp only [List.append_assoc, List.cons_append]
    have hblank (before rest : List Char) :
        Reaches (many (char isBlank)) ⟨before, ' ' :: rest⟩ ⟨' ' :: before, rest⟩ :=
      reaches_many_char (List.forall_mem_singleton.2 rfl)
    exact ⟨_, (reaches_text "export").seq ((hblank _ _).seq ((reaches_text "*").seq
      ((hblank _ _).seq ((reaches_text "from").seq ((hblank _ _).seq
        ((reaches_char (by decide)).seq (reaches_empty _)))))))⟩
  have hconstant : containsText s "CAPSULE_METADATA" = true := by
    obtain ⟨before, after, hs⟩ := hmetadata.line_eq
    have hsplit : s.toList = (before ++ '\n' :: "export const ".toList) ++
        "CAPSULE_METADATA".toList ++ (" = \x7b".toList ++ '\n' :: after) := by
      rw [hs]
      simp
    unfold containsText
    rw [hsplit]
    exact occursIn_append _ _ _
  have hname : Index.defaultExport.occursIn s = true := by
    apply occursIn_of_line [] ("export".toList ++ ' ' :: ("default".toList ++ ' ' ::
      (service.toList ++ [';'])))
    · simpa using hdefault
    · intro before rest
      simp only [List.append_assoc, List.cons_append]
      exact ⟨_, (reaches_wordEdge rfl).seq ((reaches_text "export").seq (reaches_oneBlank.seq
        ((reaches_text "default").seq ((reaches_wordEdge rfl).seq (reaches_empty _)))))⟩
  simp [Index.ofText, hwildcard, hconstant, hname]

theorem missingSections_eq_nil {s : String} {sections : List String}
    (h : ∀ title ∈ sections, IsTidy title.toList ∧ Shows [title.toList] s.toList) :
    missingSections s sections = [] := by
  simp only [missingSections, List.filter_eq_nil_iff, Bool.not_eq_true', Bool.not_eq_false]
  intro title htitle
  obtain ⟨htidy, hshows⟩ := h title htitle
  obtain ⟨above, below, -, hlines⟩ := hshows.charLines_eq (by simpa using htidy)
  refine List.any_eq_true.2 ⟨title.toList, by simp [hlines], ?_⟩
  have hdrop : dropStart? title.toList title.toList = some [] := by
    rw [dropStart?_eq_some, List.append_nil]
  simp [startsSection, htidy.dropEndWhile_eq, hdrop]

end Shape
end ServiceCapsule
