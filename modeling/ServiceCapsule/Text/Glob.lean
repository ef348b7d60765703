/-!
# Glob patterns

Shell-like patterns over paths: a question mark stands for one character, a star for any text, a
double star (a whole path component) for any number of directories, brackets for a set of
characters. A star also crosses slashes.
-/

namespace ServiceCapsule

namespace Glob

/-- A member of a bracket set. -/
inductive Member where
  | one (c : Char)
  | range (first last : Char)
  deriving DecidableEq, Repr

def Member.holds (c : Char) : Member → Bool
  | one d => c == d
  | range first last => first ≤ c && c ≤ last

inductive Token where
  | literal (c : Char)
  | anyChar
  | anyText
  | anyDirectories
  | within (members : List Member)
  | without (members : List Member)
  deriving DecidableEq, Repr

/-- Why a text is no pattern, with the position of the fault in characters. -/
inductive Fault where
  | wildcards (position : Nat)
  | recursion (position : Nat)
  | range (position : Nat)
  deriving DecidableEq, Repr

def Fault.position : Fault → Nat
  | wildcards n | recursion n | range n => n

def Fault.reason : Fault → String
  | wildcards _ => "wildcards are either regular `*` or recursive `**`"
  | recursion _ => "recursive wildcards must form a single path component"
  | range _ => "invalid range pattern"

def Fault.message (f : Fault) : String :=
  s!"Pattern syntax error near position {f.position}: {f.reason}"

/-- The members of a bracket set: `a-z` is a range, anything else stands for itself. -/
def members : List Char → List Member
  | a :: '-' :: b :: rest => .range a b :: members rest
  | a :: rest => .one a :: members rest
  | [] => []

/-- Read to the closing bracket, which may stand first as a member. -/
def bracket : List Char → Option (List Char × List Char)
  | [] => none
  | c :: rest =>
    match rest.dropWhile (· != ']') with
    | [] => none
    | _ :: after => some (c :: rest.takeWhile (· != ']'), after)

theorem length_of_bracket {cs inside after : List Char} (h : bracket cs = some (inside, after)) :
    after.length < cs.length := by
  cases cs with
  | nil => simp [bracket] at h
  | cons c rest =>
    have hle := (List.dropWhile_sublist (· != ']') (l := rest)).length_le
    simp only [bracket] at h
    split at h
    · cases h
    · rename_i heq
      cases h
      rw [heq] at hle
      simp only [List.length_cons] at hle ⊢
      omega

/-- Read a pattern from a position on; `previous` is the character before it. -/
def readTokens (position : Nat) (previous : Option Char) :
    List Char → Except Fault (List Token)
  | [] => .ok []
  | '?' :: rest => (.anyChar :: ·) <$> readTokens (position + 1) (some '?') rest
  | '*' :: '*' :: '*' :: _ => .error (.wildcards (position + 2))
  | '*' :: '*' :: rest =>
    if previous.all (· == '/') then
      match rest with
      | [] => .ok [.anyDirectories]
      | '/' :: rest' => (.anyDirectories :: ·) <$> readTokens (position + 3) (some '/') rest'
      | _ :: _ => .error (.recursion (position + 2))
    else .error (.recursion (position - 1))
  | '*' :: rest => (.anyText :: ·) <$> readTokens (position + 1) (some '*') rest
  | '[' :: '!' :: rest =>
    match h : bracket rest with
    | some (inside, after) =>
      have := length_of_bracket h
      (.without (members inside) :: ·) <$>
        readTokens (position + 3 + inside.length) (some ']') after
    | none => .error (.range position)
  | '[' :: rest =>
    match h : bracket rest with
    | some (inside, after) =>
      have := length_of_bracket h
      (.within (members inside) :: ·) <$>
        readTokens (position + 2 + inside.length) (some ']') after
    | none => .error (.range position)
  | c :: rest => (.literal c :: ·) <$> readTokens (position + 1) (some c) rest
  termination_by cs => cs.length

def suffixes : List Char → List (List Char)
  | [] => [[]]
  | c :: rest => (c :: rest) :: suffixes rest

/-- The suffixes that follow a slash, and the empty one. -/
def directorySuffixes : List Char → List (List Char)
  | [] => [[]]
  | c :: rest => if c == '/' then rest :: directorySuffixes rest else directorySuffixes rest

/-- Whether the tokens match a whole text. -/
def matchesChars : List Token → List Char → Bool
  | [], cs => cs.isEmpty
  | .anyText :: ts, cs => (suffixes cs).any (matchesChars ts)
  | .anyDirectories :: ts, cs => matchesChars ts cs || (directorySuffixes cs).any (matchesChars ts)
  | _ :: _, [] => false
  | .literal d :: ts, c :: cs => c == d && matchesChars ts cs
  | .anyChar :: ts, _ :: cs => matchesChars ts cs
  | .within members :: ts, c :: cs => members.any (·.holds c) && matchesChars ts cs
  | .without members :: ts, c :: cs => !members.any (·.holds c) && matchesChars ts cs

end Glob

structure Glob where
  tokens : List Glob.Token
  deriving DecidableEq, Repr

namespace Glob

def parse (s : String) : Except Fault Glob := Glob.mk <$> readTokens 0 none s.toList

def accepts (g : Glob) (path : String) : Bool := matchesChars g.tokens path.toList

end Glob
end ServiceCapsule
