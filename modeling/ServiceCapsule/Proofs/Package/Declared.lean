import Mathlib.Data.List.Nodup
import ServiceCapsule.Package.Layout
import ServiceCapsule.Proofs.Text.Block

/-!
# Names that generated files declare

The files of a capsule can always be drafted, and the names that they declare of their own are fixed
or made of the class name of the capsule. The class name starts with a capital, so that a made name
shows by its start and its end what it is for. Two declarations can therefore have one name only
where the base class of errors is called like one of the kinds of errors.
-/

namespace ServiceCapsule

namespace Naming

/-! ### Class names -/

def IsWord (word : List Char) : Prop := word ≠ [] ∧ ∀ c ∈ word, c.isAlphanum = true

theorem isWord_of_mem_wordsFrom {current : List Char} {afterLower : Bool} {cs word : List Char}
    (hcurrent : ∀ c ∈ current, c.isAlphanum = true) (h : word ∈ wordsFrom current afterLower cs) :
    IsWord word := by
  induction cs generalizing current afterLower with
  | nil =>
    simp only [wordsFrom] at h
    split at h
    · simp at h
    · rename_i hne
      obtain rfl := List.mem_singleton.1 h
      exact ⟨by simpa using hne, by simpa using hcurrent⟩
  | cons a cs ih =>
    -- a word ends in front of another character and in front of a capital inside it
    simp only [wordsFrom] at h
    split at h
    · split at h
      · exact ih (by simp) h
      · rename_i hne
        rcases List.mem_cons.1 h with rfl | h
        · exact ⟨by simpa using hne, by simpa using hcurrent⟩
        · exact ih (by simp) h
    · rename_i ha
      have ha : a.isAlphanum = true := by simpa using ha
      split at h
      · rename_i hcut
        have hne : current ≠ [] := by
          simp only [Bool.and_eq_true, Bool.not_eq_true'] at hcut
          simpa using hcut.2
        rcases List.mem_cons.1 h with rfl | h
        · exact ⟨by simpa using hne, by simpa using hcurrent⟩
        · exact ih (by simpa using ha) h
      · exact ih (by simpa using ⟨ha, hcurrent⟩) h

theorem isWord_of_mem_words {s : String} {word : List Char} (h : word ∈ words s) : IsWord word :=
  isWord_of_mem_wordsFrom (by simp) h

theorem isAlphanum_of_mem_capitalize {word : List Char} (h : IsWord word) :
    ∀ c ∈ capitalize word, c.isAlphanum = true := by
  cases word with
  | nil => simp [capitalize]
  | cons a as =>
    obtain ⟨ha, has⟩ := List.forall_mem_cons.1 h.2
    simp only [capitalize, List.forall_mem_cons, List.forall_mem_map]
    refine ⟨?_, fun c hc => Text.isAlphanum_toLower (has c hc)⟩
    rcases Text.isUpper_or_isDigit_toUpper ha with hupper | hdigit
    · exact Text.isAlphanum_of_isAlpha (Text.isAlpha_of_isUpper hupper)
    · exact Text.isAlphanum_of_isDigit hdigit

theorem isAlphanum_of_mem_pascalChars {s : String} : ∀ c ∈ pascalChars s, c.isAlphanum = true := by
  intro c hc
  obtain ⟨word, hword, hc⟩ := List.mem_flatMap.1 hc
  exact isAlphanum_of_mem_capitalize (isWord_of_mem_words hword) c hc

/-- What starts with no digit starts with a capital. -/
theorem isUpper_or_isDigit_of_pascalChars {s : String} {c : Char} {cs : List Char}
    (h : pascalChars s = c :: cs) : c.isUpper = true ∨ c.isDigit = true := by
  unfold pascalChars at h
  cases hwords : words s with
  | nil => simp [hwords] at h
  | cons word rest =>
    obtain ⟨hne, hword⟩ := isWord_of_mem_words (hwords ▸ List.mem_cons_self : word ∈ words s)
    cases word with
    | nil => exact absurd rfl hne
    | cons a as =>
      obtain ⟨rfl, -⟩ : a.toUpper = c ∧ _ := by simpa [hwords, capitalize] using h
      exact Text.isUpper_or_isDigit_toUpper (hword a List.mem_cons_self)

def IsCapitalized (s : String) : Prop :=
  ∃ c cs, s.toList = c :: cs ∧ c.isUpper = true ∧ ∀ d ∈ cs, d.isAlphanum = true

theorem isCapitalized_className (id : String) : IsCapitalized (className id) := by
  have hchars : ∀ c ∈ pascalChars id, c.isAlphanum = true := isAlphanum_of_mem_pascalChars
  unfold className
  split
  · exact ⟨'C', "apsule".toList, by decide, by decide, List.all_eq_true.1 (by decide)⟩
  · rename_i c cs hpascal
    rw [hpascal] at hchars
    split
    · refine ⟨'C', "apsule".toList ++ c :: cs, by simp, by decide, ?_⟩
      intro d hd
      rcases List.mem_append.1 hd with hd | hd
      · exact List.all_eq_true.1 (by decide : "apsule".toList.all Char.isAlphanum = true) d hd
      · exact hchars d hd
    · rename_i hdigit
      have hupper : c.isUpper = true :=
        (isUpper_or_isDigit_of_pascalChars hpascal).resolve_right hdigit
      exact ⟨c, cs, by simp, hupper, fun d hd => hchars d (List.mem_cons_of_mem _ hd)⟩

theorem IsCapitalized.isIdentifier_append {s : String} (h : IsCapitalized s) (ending : String)
    (hending : ending.toList.all Char.isAlphanum = true) : isIdentifier (s ++ ending) = true := by
  obtain ⟨c, cs, hs, hupper, hcs⟩ := h
  have hstart : startsIdentifier c = true := by
    simp [startsIdentifier, Text.isAlpha_of_isUpper hupper]
  simp only [isIdentifier, String.toList_append, hs, List.cons_append, hstart, Bool.true_and,
    List.all_eq_true, List.mem_append]
  intro d hd
  have hd : d.isAlphanum = true := hd.elim (hcs d) (List.all_eq_true.1 hending d)
  simp [continuesIdentifier, hd]

/-! ### Roles -/

/-- What a declaration of a generated file is for. -/
inductive Role where
  | configuration
  | error
  | errorTest
  | errorConversion
  | service
  | factory
  | other
  deriving DecidableEq

def roleOf (name : String) : Role :=
  if Text.startsWith name "create" then .factory
  else if Text.endsWith name "Error" then
    if Text.startsWith name "is" then .errorTest
    else if Text.startsWith name "to" then .errorConversion
    else .error
  else if Text.endsWith name "Config" then .configuration
  else if Text.endsWith name "Service" then .service
  else .other

theorem ne_of_roleOf {a b : String} (h : roleOf a ≠ roleOf b) : a ≠ b :=
  mt (congrArg roleOf) h

theorem IsCapitalized.startsWith_append {s : String} (h : IsCapitalized s) (ending start : String)
    (hstart : ∃ c cs, start.toList = c :: cs ∧ c.isUpper = false) :
    Text.startsWith (s ++ ending) start = false := by
  obtain ⟨c, cs, hs, hupper, -⟩ := h
  obtain ⟨d, ds, hd, hlower⟩ := hstart
  have hne : (d == c) = false := by
    rw [beq_eq_false_iff_ne]
    rintro rfl
    simp [hupper] at hlower
  simp [Text.startsWith, hs, hd, List.isPrefixOf, hne]

theorem endsWith_append {a b ending : String} (h : ending.toList.length ≤ b.toList.length) :
    Text.endsWith (a ++ b) ending = Text.endsWith b ending := by
  rw [Bool.eq_iff_iff]
  simp only [Text.endsWith, String.toList_append, List.isSuffixOf_iff_suffix]
  constructor
  · intro hends
    exact List.suffix_of_suffix_length_le hends (List.suffix_append _ _) h
  · intro hends
    exact hends.trans (List.suffix_append _ _)

theorem roleOf_derivedNames {className : String} (h : IsCapitalized className) :
    (derivedNames className).map roleOf =
      [.configuration, .error, .errorTest, .errorConversion, .service, .factory, .factory] := by
  have hcreate := fun ending => h.startsWith_append ending "create" ⟨'c', _, rfl, rfl⟩
  have his := fun ending => h.startsWith_append ending "is" ⟨'i', _, rfl, rfl⟩
  have hto := fun ending => h.startsWith_append ending "to" ⟨'t', _, rfl, rfl⟩
  have hconfig : roleOf (className ++ "Config") = .configuration := by
    have herror : Text.endsWith (className ++ "Config") "Error" = false :=
      endsWith_append (by decide)
    have hends : Text.endsWith (className ++ "Config") "Config" = true :=
      endsWith_append (by decide)
    simp [roleOf, hcreate, herror, hends]
  have herror : roleOf (className ++ "Error") = .error := by
    have hends : Text.endsWith (className ++ "Error") "Error" = true := endsWith_append (by decide)
    simp [roleOf, hcreate, his, hto, hends]
  have htest : roleOf ("is" ++ className ++ "Error") = .errorTest := by
    have hends : Text.endsWith ("is" ++ className ++ "Error") "Error" = true :=
      endsWith_append (by decide)
    simp [roleOf, hends, Text.startsWith, List.isPrefixOf]
  have hconversion : roleOf ("to" ++ className ++ "Error") = .errorConversion := by
    have hends : Text.endsWith ("to" ++ className ++ "Error") "Error" = true :=
      endsWith_append (by decide)
    simp [roleOf, hends, Text.startsWith, List.isPrefixOf]
  have hservice : roleOf (className ++ "Service") = .service := by
    have herror : Text.endsWith (className ++ "Service") "Error" = false :=
      endsWith_append (by decide)
    have hconfig : Text.endsWith (className ++ "Service") "Config" = false :=
      endsWith_append (by decide)
    have hends : Text.endsWith (className ++ "Service") "Service" = true :=
      endsWith_append (by decide)
    simp [roleOf, hcreate, herror, hconfig, hends]
  have hfactory (rest : String) : roleOf ("create" ++ rest) = .factory := by
    simp [roleOf, Text.startsWith]
  have hlast := hfactory (className ++ "AndInitialize")
  rw [← String.append_assoc] at hlast
  simp only [derivedNames, List.map_cons, List.map_nil, hconfig, herror, htest, hconversion,
    hservice, hfactory, hlast]

theorem roleOf_errorKind (k : ErrorKind) : roleOf k.className = .error := by
  cases k <;> decide

theorem roleOf_ne_other {className name : String} (h : IsCapitalized className)
    (hname : name ∈ derivedNames className) : roleOf name ≠ .other := by
  have hroles : ∀ role ∈ (derivedNames className).map roleOf, role ≠ .other := by
    rw [roleOf_derivedNames h]
    decide
  exact hroles _ (List.mem_map_of_mem hname)

/-- Only the base class of errors has the role of an error. -/
theorem eq_of_roleOf_eq_error {className name : String} (h : IsCapitalized className)
    (hname : name ∈ derivedNames className) (hrole : roleOf name = .error) :
    name = className ++ "Error" := by
  have hroles := roleOf_derivedNames h
  simp only [derivedNames, List.map_cons, List.map_nil, List.cons.injEq] at hroles
  simp only [derivedNames, List.mem_cons, List.not_mem_nil, or_false] at hname
  rcases hname with rfl | rfl | rfl | rfl | rfl | rfl | rfl <;> simp_all

theorem nodup_derivedNames {className : String} (h : IsCapitalized className) :
    (derivedNames className).Nodup := by
  -- the two factories have one role, and one name is longer than the other
  apply List.Nodup.of_map fun name => (roleOf name, name.length)
  have hroles := roleOf_derivedNames h
  simp only [derivedNames, List.map_cons, List.map_nil, List.cons.injEq] at hroles ⊢
  simp [hroles]

end Naming
namespace Plan

def constantNames : List String :=
  ["CAPSULE_ID", "CAPSULE_NAME", "CAPSULE_VERSION", "CAPSULE_CATEGORY", "SUPPORTED_PLATFORMS",
   "DEFAULT_TIMEOUT_MS", "DEFAULT_RETRY_ATTEMPTS", "DEFAULT_RETRY_DELAY_MS", "DEFAULT_CONFIG"]

def helperNames : List String :=
  ["sleep", "withTimeout", "retry", "isPlainObject", "deepMerge", "formatDuration"]

def adapterNames (p : Plan) : List String :=
  if p.isMultiPlatform then
    ["LogLevel", "PlatformAdapter"] ++
      (Platform.selectionOrder p.metadata.platforms).map Platform.adapterClass ++
      ["ADAPTERS", "selectAdapter", "detectPlatform", "getCapabilities"]
  else ["PLATFORM", "CAPABILITIES", "isPlatformSupported", "detectPlatform", "getCapabilities"]

/-- The names that the files of a plan declare of their own. -/
def namesIn (p : Plan) : FileKind → List String
  | .types =>
    ["Platform", "ServiceState", p.configName, "OperationResult", "PlatformCapabilities",
     "CapsuleInfo"]
  | .errors =>
    ["ErrorCode", "ErrorContext", p.baseErrorName] ++ p.errorKinds.map ErrorKind.className ++
      ["is" ++ p.baseErrorName, "to" ++ p.baseErrorName]
  | .constants => constantNames
  | .utils => helperNames
  | .adapters => p.adapterNames
  | .service => [p.serviceName]
  | .index =>
    ["CAPSULE_METADATA", "create" ++ p.className, "create" ++ p.className ++ "AndInitialize"]
  | .readme => []

end Plan

namespace Draft

@[simp] theorem declared_nil : declared [] = [] := rfl

@[simp] theorem declared_cons (item : Item) (d : Draft) :
    declared (item :: d) = item.declared?.toList ++ declared d := by
  cases h : item.declared? <;> simp [declared, h]

@[simp] theorem declared_flatMap {α : Type} (items : α → Draft) (as : List α) :
    declared (as.flatMap items) = as.flatMap fun a => declared (items a) :=
  List.filterMap_flatMap

@[simp] theorem declared_map {α : Type} (item : α → Item) (as : List α) :
    declared (as.map item) = as.filterMap fun a => (item a).declared? :=
  List.filterMap_map

variable (p : Plan)

/-! ### Imports, carried code and remarks declare nothing of their own -/

@[simp] theorem declared_header (title : String) : declared (header p title) = [] := rfl

@[simp] theorem declared_externals (tokens : List String) : declared (externals p tokens) = [] := by
  simp [externals, Item.declared?]

theorem declared_importsFrom (target owner : FileKind) (wanted : List Importable) :
    declared (importsFrom target owner wanted) = [] := by
  simp only [importsFrom, declared_append, List.append_eq_nil_iff]
  constructor <;> split <;> rfl

@[simp] theorem declared_siblings (target : FileKind) (wanted : List Importable) :
    declared (siblings target wanted) = [] := by
  simp [siblings, declared_importsFrom]

@[simp] theorem declared_importBlock (target : FileKind) (tokens : List String) :
    declared (importBlock p target tokens) = [] := by
  have himports : declared (externals p tokens ++ siblings target (referenced p tokens)) = [] := by
    simp
  unfold importBlock
  split
  · rfl
  · rw [declared_append, himports]
    rfl

@[simp] theorem declared_remarks (target : FileKind) : declared (remarks p target) = [] := by
  unfold remarks
  split
  · rfl
  · simp [Item.declared?]

@[simp] theorem declared_carriedTypes : declared (carriedTypes p) = [] := by
  unfold carriedTypes
  split
  · rfl
  · simp [Item.declared?, carriedCode]

@[simp] theorem declared_carriedErrors : declared (carriedErrors p) = [] := by
  unfold carriedErrors
  split
  · rfl
  · simp [Item.declared?, carriedCode]

@[simp] theorem declared_carriedConstants : declared (carriedConstants p) = [] := by
  unfold carriedConstants
  split
  · rfl
  · simp [Item.declared?, carriedConstant]

@[simp] theorem declared_carriedUtils : declared (carriedUtils p) = [] := by
  simp only [carriedUtils, declared_append, List.append_eq_nil_iff]
  refine ⟨⟨⟨?_, ?_⟩, ?_⟩, ?_⟩
  · split
    · rfl
    · simp [Item.declared?, carriedVariable]
  · split <;> rfl
  · simp [Item.declared?, carriedCode]
  · simp [Item.declared?, carriedCode]

@[simp] theorem declared_listedUtils : declared (listedUtils p) = [] := by
  unfold listedUtils
  split
  · rfl
  · simp [Item.declared?]

/-! ### What each file declares -/

variable {p}

theorem requireIdentifier_eq_ok {name : String} (h : Naming.isIdentifier name = true)
    (role : String) : requireIdentifier name role = .ok () :=
  if_pos h

theorem declared_adapters :
    declared (if p.isMultiPlatform then multiPlatform p.metadata.platforms
      else singlePlatform p.primaryPlatform) = p.adapterNames := by
  unfold Plan.adapterNames
  split
  · simp [multiPlatform, adapterInterface, adapter, adapterSelection, Item.declared?,
      List.map_eq_flatMap]
  · rfl

theorem declared_ofKind (h : Naming.IsCapitalized p.className) (k : FileKind) :
    ∃ d, ofKind p k = .ok d ∧ declared d = p.namesIn k := by
  have hname : Naming.isIdentifier p.className = true := by
    simpa using h.isIdentifier_append "" (by simp)
  have hbase : Naming.isIdentifier p.baseErrorName = true :=
    h.isIdentifier_append _ (by decide)
  have hservice : Naming.isIdentifier p.serviceName = true :=
    h.isIdentifier_append _ (by decide)
  cases k with
  | types =>
    refine ⟨_, by simp only [ofKind, typesFile, requireIdentifier_eq_ok hname]; rfl, ?_⟩
    simp [sharedTypes, Item.declared?, Plan.namesIn]
  | errors =>
    refine ⟨_, by simp only [ofKind, errorsFile, requireIdentifier_eq_ok hbase]; rfl, ?_⟩
    simp [sharedErrors, codeEnumeration, baseErrorClass, kindClass, errorFunctions, Item.declared?,
      Plan.namesIn, List.map_eq_flatMap]
  | constants =>
    refine ⟨_, rfl, ?_⟩
    simp [constantsImports, sharedConstants, Item.declared?, Plan.namesIn, Plan.constantNames]
  | utils =>
    have hcarried : declared (if p.carriesCode then carriedUtils p else listedUtils p) = [] := by
      split <;> simp
    refine ⟨_, rfl, ?_⟩
    simp [utilsImports, helpers, sleepHelper, timeoutHelper, retryHelper, plainObjectHelper,
      mergeHelper, durationHelper, hcarried, Item.declared?, Plan.namesIn, Plan.helperNames]
  | adapters =>
    refine ⟨_, rfl, ?_⟩
    rw [declared_append, declared_adapters]
    rfl
  | service =>
    refine ⟨_, by simp only [ofKind, serviceFile, requireIdentifier_eq_ok hservice]; rfl, ?_⟩
    have himports : declared (serviceImports p) = [] := by
      unfold serviceImports
      split <;> rfl
    simp [himports, serviceClass, Item.declared?, Plan.namesIn]
  | index =>
    refine ⟨_, by simp only [ofKind, indexFile, requireIdentifier_eq_ok hname]; rfl, ?_⟩
    simp [indexHeader, reexports, indexImports, metadataConstant, factories, Item.declared?,
      Plan.namesIn]
  | readme => exact ⟨_, rfl, rfl⟩

end Draft

/-! ### Names that are declared twice -/

namespace Plan

/-- The names that do not depend on the class name, by those in the file of adapters. -/
def fixedWith (adapters : List String) : List String :=
  ["Platform", "ServiceState", "OperationResult", "PlatformCapabilities", "CapsuleInfo",
   "ErrorCode", "ErrorContext", "CAPSULE_METADATA"] ++ constantNames ++ helperNames ++ adapters

def allAdapterNames : List String :=
  ["PLATFORM", "CAPABILITIES", "isPlatformSupported", "LogLevel", "PlatformAdapter",
   "NodeAdapter", "WebAdapter", "UniversalAdapter", "ADAPTERS", "selectAdapter",
   "detectPlatform", "getCapabilities"]

theorem nodup_fixedWith_all : (fixedWith allAdapterNames).Nodup := by decide

theorem roleOf_fixedWith_all : ∀ name ∈ fixedWith allAdapterNames, Naming.roleOf name = .other := by
  decide

variable (p : Plan)

theorem adapterNames_sublist : p.adapterNames.Sublist allAdapterNames := by
  unfold adapterNames
  split
  · have horder : (Platform.selectionOrder p.metadata.platforms).Sublist
        ([.node, .web] ++ [.universal]) := List.filter_sublist.append_right _
    have hclasses := (horder.map Platform.adapterClass).append_left ["LogLevel", "PlatformAdapter"]
    exact (hclasses.append_right _).trans (by decide)
  · decide

theorem fixedWith_sublist : (fixedWith p.adapterNames).Sublist (fixedWith allAdapterNames) :=
  p.adapterNames_sublist.append_left _

theorem nodup_errorKinds : (p.errorKinds.map ErrorKind.className).Nodup := by
  unfold errorKinds
  obtain ⟨fileSystem, network, database⟩ := p.needs
  cases fileSystem <;> cases network <;> cases database <;> decide

theorem perm_namesIn : (FileKind.all.flatMap p.namesIn).Perm
    (fixedWith p.adapterNames ++
      (p.errorKinds.map ErrorKind.className ++ derivedNames p.className)) := by
  rw [List.perm_iff_count]
  intro name
  simp only [FileKind.all, List.flatMap_cons, List.flatMap_nil, namesIn, fixedWith, derivedNames,
    configName, baseErrorName, serviceName, String.append_assoc, List.count_append,
    List.count_cons, List.count_nil]
  omega

variable {p}

/-- The base class of errors is the only declaration whose name another one can have. -/
theorem nodup_namesIn_iff (h : Naming.IsCapitalized p.className) :
    (FileKind.all.flatMap p.namesIn).Nodup ↔
      p.baseErrorName ∉ p.errorKinds.map ErrorKind.className := by
  have hkindRole : ∀ name ∈ p.errorKinds.map ErrorKind.className, Naming.roleOf name = .error := by
    intro name hname
    obtain ⟨k, -, rfl⟩ := List.mem_map.1 hname
    exact Naming.roleOf_errorKind k
  rw [p.perm_namesIn.nodup_iff, List.nodup_append, List.nodup_append]
  constructor
  · rintro ⟨-, ⟨-, -, hapart⟩, -⟩ hmem
    exact hapart _ hmem p.baseErrorName (by simp [derivedNames, baseErrorName]) rfl
  · intro hbase
    refine ⟨nodup_fixedWith_all.sublist p.fixedWith_sublist,
      ⟨p.nodup_errorKinds, Naming.nodup_derivedNames h, ?_⟩, ?_⟩
    · rintro name hkind _ hderived rfl
      obtain rfl := Naming.eq_of_roleOf_eq_error h hderived (hkindRole name hkind)
      exact hbase hkind
    · intro name hfixed other hother
      apply Naming.ne_of_roleOf
      rw [roleOf_fixedWith_all name (p.fixedWith_sublist.subset hfixed)]
      rcases List.mem_append.1 hother with hkind | hderived
      · rw [hkindRole other hkind]
        decide
      · exact (Naming.roleOf_ne_other h hderived).symm

theorem nodup_errorNames (h : Naming.IsCapitalized p.className)
    (hbase : p.baseErrorName ∉ p.errorKinds.map ErrorKind.className) : (p.namesIn .errors).Nodup :=
  (List.nodup_flatMap.1 ((nodup_namesIn_iff h).2 hbase)).1 .errors (FileKind.mem_all .errors)

theorem two_le_count_errorNames
    (hbase : p.baseErrorName ∈ p.errorKinds.map ErrorKind.className) :
    2 ≤ (p.namesIn .errors).count p.baseErrorName := by
  have hfirst : 0 < ["ErrorCode", "ErrorContext", p.baseErrorName].count p.baseErrorName :=
    List.count_pos_iff.2 (by simp)
  have hkind := List.count_pos_iff.2 hbase
  simp only [namesIn, List.count_append]
  omega

theorem count_errorNames_iff (h : Naming.IsCapitalized p.className) :
    (∀ name ∈ p.baseErrorName :: p.errorKinds.map ErrorKind.className,
      (p.namesIn .errors).count name = 1) ↔
      p.baseErrorName ∉ p.errorKinds.map ErrorKind.className := by
  constructor
  · intro honce hbase
    have htwice := two_le_count_errorNames hbase
    rw [honce _ List.mem_cons_self] at htwice
    omega
  · intro hbase name hname
    apply List.count_eq_one_of_mem (nodup_errorNames h hbase)
    rcases List.mem_cons.1 hname with rfl | hname
    · simp [namesIn]
    · exact List.mem_append_left _ (List.mem_append_right _ hname)

theorem exists_drafts (h : Naming.IsCapitalized p.className) :
    ∃ drafts : FileKind → Draft, (∀ k, Draft.ofKind p k = .ok (drafts k)) ∧
      ∀ k, Draft.declared (drafts k) = p.namesIn k := by
  choose drafts hdrafts hnames using Draft.declared_ofKind h
  exact ⟨drafts, hdrafts, hnames⟩

/-- Whatever a capsule is called, imports and holds, all its files can be drafted. The names that
they declare of their own are distinct, and the file of errors declares its base class and the class
of each kind of error once, exactly if the base class is not called like one of the kinds. -/
theorem nodup_declared_iff (c : ParsedCapsule) (mode : Mode) (time : Timestamp) :
    let p := ofCapsule c mode time
    ∃ drafts : FileKind → Draft, (∀ k, Draft.ofKind p k = .ok (drafts k)) ∧
      ((FileKind.all.flatMap fun k => Draft.declared (drafts k)).Nodup ↔
        p.baseErrorName ∉ p.errorKinds.map ErrorKind.className) ∧
      ((∀ name ∈ p.baseErrorName :: p.errorKinds.map ErrorKind.className,
        (Draft.declared (drafts .errors)).count name = 1) ↔
          p.baseErrorName ∉ p.errorKinds.map ErrorKind.className) := by
  intro p
  have hname : Naming.IsCapitalized p.className := Naming.isCapitalized_className _
  obtain ⟨drafts, hdrafts, hnames⟩ := exists_drafts hname
  refine ⟨drafts, hdrafts, ?_, ?_⟩
  · simp only [hnames]
    exact nodup_namesIn_iff hname
  · simp only [hnames]
    exact count_errorNames_iff hname

/-- A capsule in a directory called `validation`; one kind of errors is called `ValidationError`. -/
def validationCapsule : ParsedCapsule :=
  ParsedCapsule.ofSources ⟨"validation"⟩ [⟨⟨"validation/a.ts"⟩, "export const x = 1;\n"⟩] none

theorem declared_errors_validationCapsule : ∃ d : Draft,
    Draft.ofKind (ofCapsule validationCapsule .auto default) .errors = .ok d ∧
      (Draft.declared d).count "ValidationError" = 2 := by
  have hname : (ofCapsule validationCapsule .auto default).className = "Validation" := by
    have hid : validationCapsule.metadata.id = "validation" := by
      rw [validationCapsule, ParsedCapsule.ofSources, ParsedCapsule.ofFacts, Metadata.id_build]
      decide
    rw [ofCapsule, hid]
    decide
  have hbase : (ofCapsule validationCapsule .auto default).baseErrorName = "ValidationError" := by
    rw [baseErrorName, hname]
    rfl
  have hkind : ((ofCapsule validationCapsule .auto default).errorKinds.map
      ErrorKind.className).count "ValidationError" = 1 := by
    apply List.count_eq_one_of_mem (nodup_errorKinds _)
    have hmem : ErrorKind.validation ∈ ErrorKind.base := by decide
    exact List.mem_map.2
      ⟨.validation, List.mem_append_left _ (List.mem_append_left _ hmem), rfl⟩
  have hcapitalized : Naming.IsCapitalized (ofCapsule validationCapsule .auto default).className :=
    Naming.isCapitalized_className _
  obtain ⟨d, hd, hnames⟩ := Draft.declared_ofKind hcapitalized .errors
  refine ⟨d, hd, ?_⟩
  rw [hnames, namesIn, hbase, List.count_append, List.count_append, hkind]
  decide

end Plan

end ServiceCapsule
