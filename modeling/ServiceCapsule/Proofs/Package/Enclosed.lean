import ServiceCapsule.Proofs.Package.Comments
import ServiceCapsule.Proofs.Package.Lines

/-!
# Metadata in comments and literals

What a capsule says about itself stands in comments and in a template literal of the generated
files, formatted or not. A name or a version that has the mark of the end of a comment ends the
comments that it stands in, and a name in which a substitution starts adds one to the literal.
-/

namespace ServiceCapsule

open Text

namespace Draft

variable {d : Draft} {p : Plan} {s : List Char}

/-! ### The literal with the name -/

def initializeText (p : Plan) : List Char :=
  "Failed to initialize ".toList ++ (withoutBackticks p.metadata.name).toList

/-- What follows the start of the substitution: its end and the backtick at the end of the literal. -/
def substitutionRest : List Char := "this.lastError.message\x7d`".toList

/-- The literal with the name after its first backtick. -/
def initializeTemplate (p : Plan) : List Char :=
  initializeText p ++ ':' :: ' ' :: '$' :: '\x7b' :: substitutionRest

theorem backtick_notMem_withoutBackticks (name : String) :
    '\x60' ∉ (withoutBackticks name).toList := by
  rw [withoutBackticks, String.toList_ofList, List.mem_map]
  rintro ⟨c, -, hc⟩
  split at hc
  · exact absurd hc (by decide)
  · rename_i hne
    exact hne hc

theorem opensSubstitution_withoutBackticks (name : String) :
    opensSubstitution false (withoutBackticks name).toList =
      opensSubstitution false name.toList := by
  rw [withoutBackticks, String.toList_ofList]
  refine opensSubstitution_map (fun c special hspecial => ?_) false _
  split
  · rename_i hc
    subst hc
    simp only [List.mem_cons, List.not_mem_nil, or_false] at hspecial
    rcases hspecial with rfl | rfl | rfl <;> decide
  · rfl

theorem backtick_notMem_initializeText (p : Plan) : '\x60' ∉ initializeText p := by
  have hstart : '\x60' ∉ "Failed to initialize ".toList := by decide
  unfold initializeText
  intro hmem
  rcases List.mem_append.1 hmem with hmem | hmem
  · exact hstart hmem
  · exact backtick_notMem_withoutBackticks _ hmem

theorem opensSubstitution_start (cs : List Char) :
    opensSubstitution false ("Failed to initialize ".toList ++ cs) = opensSubstitution false cs := by
  simp [opensSubstitution]

theorem opensSubstitution_initializeText (p : Plan) :
    opensSubstitution false (initializeText p) =
      opensSubstitution false p.metadata.name.toList :=
  (opensSubstitution_start _).trans (opensSubstitution_withoutBackticks _)

/-- Reading the literal stops at its own substitution exactly if none starts in the name. -/
theorem readTemplate_initializeTemplate {kept : List Char} (h : Trimmed (initializeTemplate p) kept)
    (after : List Char) :
    readTemplate false (kept ++ after) = some (.substitution, substitutionRest ++ after) ↔
      opensSubstitution false p.metadata.name.toList = false := by
  obtain ⟨first, second, rfl, hfirst, hsecond⟩ := h.split (by decide)
  obtain rfl := hsecond.eq_of_notMem (by decide)
  have hbacktick : '\x60' ∉ first :=
    fun hmem => backtick_notMem_initializeText p (hfirst.subset hmem)
  have hopens : opensSubstitution false first = opensSubstitution false p.metadata.name.toList :=
    (hfirst.opensSubstitution_eq false).trans (opensSubstitution_initializeText p)
  rw [List.append_assoc, List.cons_append]
  -- what follows the name says nothing to where reading stops, so it is left unread
  generalize substitutionRest = rest
  cases hname : opensSubstitution false first with
  | false =>
    rw [readTemplate_append_cons (by decide) _ hbacktick hname, ← hopens, hname]
    simp [readTemplate]
  | true =>
    obtain ⟨more, hmore⟩ :=
      readTemplate_append_of_opens (':' :: (' ' :: '$' :: '\x7b' :: rest ++ after)) hbacktick hname
    rw [hmore, ← hopens, hname]
    simp only [Option.some.injEq, Prod.mk.injEq, true_and, Bool.true_eq_false, iff_false]
    intro heq
    have hlength := congrArg List.length heq
    simp only [List.length_append, List.length_cons] at hlength
    omega

/-! ### Comments and the literal in the text of a file -/

theorem commentText_concat {ls : List String} (hls : ls ≠ []) :
    commentText ls ++ ['\n'] = joined (ls.map String.toList) :=
  Formatter.intercalate_newline (by simpa using hls)

theorem exists_commentText {ls : List String} (h : Item.comment ls ∈ d) (hls : ls ≠ []) :
    ∃ before after, (text d).toList = before ++ (commentText ls ++ after) := by
  obtain ⟨above, below, rfl⟩ := List.append_of_mem h
  refine ⟨joined ((lines above).map String.toList),
    '\n' :: joined ((lines below).map String.toList), ?_⟩
  have hlines : lines (above ++ Item.comment ls :: below) = lines above ++ (ls ++ lines below) := by
    rw [lines_append, lines_cons]
    rfl
  rw [toList_text, hlines, List.map_append, List.map_append, joined_append, joined_append,
    ← commentText_concat hls, List.append_assoc, List.singleton_append]

/-- In a text the comments of a draft end where they are meant to. -/
def CommentsClose (d : Draft) (s : List Char) : Prop :=
  ∀ ls, Item.comment ls ∈ d → ∃ before kept after,
    s = before ++ (kept ++ after) ∧ Trimmed (commentText ls) kept ∧ ClosesAtEnd kept

theorem commentsClose_iff (h : Trimmed (text d).toList s) :
    CommentsClose d s ↔ EachComment (fun ls => ClosesAtEnd (commentText ls)) d := by
  constructor <;> intro hclose ls hls
  · obtain ⟨before, kept, after, -, hkept, hclosed⟩ := hclose ls hls
    exact hkept.closesAtEnd_iff.1 hclosed
  · have hclosed := hclose ls hls
    have hne : ls ≠ [] := by
      rintro rfl
      exact absurd hclosed (by decide)
    obtain ⟨before, after, htext⟩ := exists_commentText hls hne
    -- a comment ends in a slash, so that the text has a stretch that came of the comment
    obtain ⟨body, hbody⟩ := hclosed.1
    have hend : commentText ls = (body ++ ['*']) ++ ['/'] := by simp [← hbody]
    rw [htext, hend] at h
    obtain ⟨first, kept, last, rfl, hkept⟩ := h.stretch (by decide)
    rw [← hend] at hkept
    exact ⟨first, kept, last, rfl, hkept, hkept.closesAtEnd_iff.2 hclosed⟩

/-- In a text the literal with the name is read up to its own substitution, which ends with it. -/
def ReadsTemplate (p : Plan) (s : List Char) : Prop :=
  ∃ before kept after, s = before ++ '\x60' :: (kept ++ after) ∧
    Trimmed (initializeTemplate p) kept ∧
    readTemplate false (kept ++ after) = some (.substitution, substitutionRest ++ after)

theorem readsTemplate_iff {t before after : List Char} (h : Trimmed t s)
    (ht : t = before ++ '\x60' :: (initializeTemplate p ++ after)) :
    ReadsTemplate p s ↔ opensSubstitution false p.metadata.name.toList = false := by
  constructor
  · rintro ⟨-, kept, after, -, hkept, hread⟩
    exact (readTemplate_initializeTemplate hkept after).1 hread
  · intro hname
    -- the literal stands between backticks, which are not blank
    have hrest : substitutionRest = "this.lastError.message\x7d".toList ++ ['\x60'] := by decide
    have hend : '\x60' :: initializeTemplate p = ('\x60' :: (initializeText p ++
        ':' :: ' ' :: '$' :: '\x7b' :: "this.lastError.message\x7d".toList)) ++ ['\x60'] := by
      simp [initializeTemplate, hrest]
    rw [ht, ← List.cons_append, hend] at h
    obtain ⟨first, kept, last, rfl, hkept⟩ := h.stretch (by decide)
    rw [← hend] at hkept
    obtain ⟨inside, rfl, hinside⟩ := hkept.head (by decide)
    exact ⟨first, inside, last, rfl, hinside, (readTemplate_initializeTemplate hinside last).2 hname⟩

/-! ### The text of the service -/

def initializeLine (p : Plan) : String :=
  "throw new InitializationError(`Failed to initialize " ++ withoutBackticks p.metadata.name ++
    ": $\x7bthis.lastError.message\x7d`, \x7b cause: this.lastError.code \x7d);"

theorem toList_initializeLine (p : Plan) : (initializeLine p).toList =
    "throw new InitializationError(".toList ++
      '\x60' :: (initializeTemplate p ++ ", \x7b cause: this.lastError.code \x7d);".toList) := by
  have hstart : "throw new InitializationError(`Failed to initialize ".toList =
      "throw new InitializationError(".toList ++ '\x60' :: "Failed to initialize ".toList := by
    decide
  have hend : ": $\x7bthis.lastError.message\x7d`, \x7b cause: this.lastError.code \x7d);".toList =
      ':' :: ' ' :: '$' :: '\x7b' :: (substitutionRest ++
        ", \x7b cause: this.lastError.code \x7d);".toList) := by
    decide
  unfold initializeLine initializeTemplate initializeText
  rw [String.toList_append, String.toList_append, hstart, hend]
  simp only [List.append_assoc, List.cons_append]

theorem mem_lines_service (p : Plan) :
    "  " ++ ("  " ++ ("  " ++ initializeLine p)) ∈ lines (sections p .service) := by
  have hne : ∀ line : String, "  " ++ line ≠ "" := fun line h => by
    simpa using congrArg String.toList h
  have hline : initializeLine p ≠ "" := fun h => by
    have hlist := congrArg String.toList h
    rw [toList_initializeLine] at hlist
    simp at hlist
  have hcatch : ∀ head body, "  " ++ initializeLine p ∈ Code.chain head body
      [("catch (error)", ["this.state = 'error';",
        "this.lastError = to" ++ p.baseErrorName ++ "(error);", initializeLine p])] := by
    intro head body
    have hindented := Code.mem_indented hline (show initializeLine p ∈ ["this.state = 'error';",
      "this.lastError = to" ++ p.baseErrorName ++ "(error);", initializeLine p] by simp)
    simp only [Code.chain, Code.block, List.mem_cons, List.mem_append, hindented, true_or, or_true]
  have hmethod : "  " ++ ("  " ++ initializeLine p) ∈ initializeMethod p := by
    unfold initializeMethod
    refine List.mem_cons_of_mem _ (List.mem_append_left _ (Code.mem_indented (hne _) ?_))
    exact List.mem_append_right _ (hcatch _ _)
  have hclass := mem_serviceClass _ (hne _) (.inl hmethod)
  simp only [sections, lines_append, List.mem_append]
  exact .inl (.inl (.inr hclass))

/-- What is written is the draft but for blanks in front of line breaks. -/
theorem trimmed_content {format : Bool} {k : FileKind} {t : String} (hd : ofKind p k = .ok d)
    (hlines : lines d ≠ [])
    (h : Generation.content (if format then some .whitespace else none) p k = .ok t) :
    Trimmed (text d).toList t.toList := by
  simp only [Generation.content, render, hd, Except.map, Except.ok.injEq] at h
  cases format with
  | false =>
    obtain rfl : text d = t := h
    exact .refl _
  | true =>
    obtain rfl : Formatter.tidy (text d) = t := h
    obtain ⟨above, line, hlast⟩ : ∃ above line, lines d = above ++ [line] :=
      ⟨_, _, (List.dropLast_concat_getLast hlines).symm⟩
    have htext : (text d).toList = joined (above.map String.toList) ++ line.toList ++ ['\n'] := by
      simp [toList_text, hlast, joined]
    exact Formatter.trimmed_tidy htext

theorem lines_top_ne_nil (p : Plan) (k : FileKind) : lines (top p k) ≠ [] := by
  cases k <;> simp [top, header, indexHeader, Item.lines]

theorem lines_sections_ne_nil (p : Plan) (k : FileKind) : lines (sections p k) ≠ [] := by
  simp [sections, lines_top_ne_nil]

theorem exists_initializeTemplate (p : Plan) : ∃ before after,
    (text (sections p .service)).toList = before ++ '\x60' :: (initializeTemplate p ++ after) := by
  obtain ⟨before, after, htext⟩ := infix_text (mem_lines_service p)
  refine ⟨before ++ ("  ".toList ++ ("  ".toList ++ ("  ".toList ++
    "throw new InitializationError(".toList))),
    ", \x7b cause: this.lastError.code \x7d);".toList ++ after, ?_⟩
  rw [← htext, String.toList_append, String.toList_append, String.toList_append,
    toList_initializeLine]
  simp only [List.append_assoc, List.cons_append]

end Draft

namespace Plan

/-- In the files of a capsule, formatted or not, all comments end where they are meant to exactly if
the name, the id and the version end no comment, whatever the description is. The literal with the
name is read as it is meant exactly if no substitution starts in the name. -/
theorem metadata_enclosed_iff (c : ParsedCapsule) (mode : Mode) (time : Timestamp)
    (format : Bool) :
    ∃ texts : FileKind → String,
      (∀ k, Generation.content (if format then some .whitespace else none)
        (ofCapsule c mode time) k = .ok (texts k)) ∧
      ((∀ k : FileKind, k.isSource = true →
        Draft.CommentsClose (Draft.sections (ofCapsule c mode time) k) (texts k).toList) ↔
        KeepsComment c.metadata.name.toList ∧ KeepsComment c.metadata.id.toList ∧
          KeepsComment c.metadata.version.toList) ∧
      (Draft.ReadsTemplate (ofCapsule c mode time) (texts .service).toList ↔
        opensSubstitution false c.metadata.name.toList = false) := by
  obtain ⟨texts, htexts⟩ : ∃ texts : FileKind → String,
      ∀ k, Generation.content (if format then some .whitespace else none)
        (ofCapsule c mode time) k = .ok (texts k) :=
    ⟨_, Generation.content_ofCapsule _ c mode time⟩
  have htrimmed : ∀ k, Trimmed (Draft.text (Draft.sections (ofCapsule c mode time) k)).toList
      (texts k).toList := fun k =>
    Draft.trimmed_content (Draft.ofKind_ofCapsule c mode time k) (Draft.lines_sections_ne_nil _ k)
      (htexts k)
  refine ⟨texts, htexts, ?_, ?_⟩
  · simp only [Draft.commentsClose_iff (htrimmed _)]
    exact Draft.eachComment_iff (Draft.isCapitalized_ofCapsule c mode time)
  · obtain ⟨before, after, htext⟩ := Draft.exists_initializeTemplate (ofCapsule c mode time)
    exact Draft.readsTemplate_iff (htrimmed .service) htext

def namedCapsule (name : String) : ParsedCapsule :=
  { (default : ParsedCapsule) with
    metadata := { (default : Metadata) with id := "mail", name := name, platforms := [.universal] } }

/-- A name can end the comment at the top of a file early, and start a substitution. -/
theorem metadata_escapes_namedCapsule : ∃ types service,
    Generation.content none (ofCapsule (namedCapsule "Mail */ $\x7bSender\x7d") .auto default)
      .types = .ok types ∧
    Generation.content none (ofCapsule (namedCapsule "Mail */ $\x7bSender\x7d") .auto default)
      .service = .ok service ∧
    ¬ Draft.CommentsClose
      (Draft.sections (ofCapsule (namedCapsule "Mail */ $\x7bSender\x7d") .auto default) .types)
      types.toList ∧
    ¬ Draft.ReadsTemplate (ofCapsule (namedCapsule "Mail */ $\x7bSender\x7d") .auto default)
      service.toList := by
  refine ⟨_, _, Generation.content_ofCapsule none _ _ _ .types,
    Generation.content_ofCapsule none _ _ _ .service, fun hclose => ?_, fun hread => ?_⟩
  · have hcomments := (Draft.commentsClose_iff (.refl _)).1 hclose
    have hname := ((Draft.closesAtEnd_header (by decide)).1
      (Draft.eachComment_sections.1 hcomments).1).1
    exact absurd hname (by decide)
  · obtain ⟨before, after, htext⟩ := Draft.exists_initializeTemplate
      (ofCapsule (namedCapsule "Mail */ $\x7bSender\x7d") .auto default)
    exact absurd ((Draft.readsTemplate_iff (.refl _) htext).1 hread) (by decide)

end Plan
end ServiceCapsule
