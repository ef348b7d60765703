import ServiceCapsule.Text.Lines

/-!
# Paths

A path is text; its parts are what stands between slashes. Empty parts and inner dots say nothing
and are passed over, a dot at the very front is a part, and so is the slash at the front.
-/

namespace ServiceCapsule

structure Path where
  text : String
  deriving DecidableEq, Repr, Inhabited

namespace Path

inductive Part where
  | root
  | here
  | up
  | name (s : String)
  deriving DecidableEq, Repr

/-- Names come last and are ordered by their characters. -/
def Part.rank : Part → Nat
  | root => 0
  | here => 1
  | up => 2
  | name _ => 3

def Part.before : Part → Part → Bool
  | name s, name t => decide (s < t)
  | a, b => a.rank < b.rank

def pieces (p : Path) : List String := Text.splitChar '/' p.text

def isAbsolute (p : Path) : Bool := p.text.toList.head? == some '/'

def partOf? (piece : String) : Option Part :=
  if piece == "" || piece == "." then none
  else if piece == ".." then some .up
  else some (.name piece)

def parts (p : Path) : List Part :=
  match p.pieces with
  | "" :: rest => (if p.isAbsolute then [.root] else []) ++ rest.filterMap partOf?
  | "." :: rest => .here :: rest.filterMap partOf?
  | pieces => pieces.filterMap partOf?

/-- A path below another one; an absolute path stands for itself. -/
def join (base : Path) (below : Path) : Path :=
  if below.isAbsolute || base.text.isEmpty then below
  else if base.text.toList.getLast? == some '/' then ⟨base.text ++ below.text⟩
  else ⟨base.text ++ "/" ++ below.text⟩

def child (base : Path) (name : String) : Path := base.join ⟨name⟩

/-- The name that a path ends in; none where it ends in dots or in nothing. -/
def fileName? (p : Path) : Option String :=
  match p.parts.getLast? with
  | some (.name s) => some s
  | _ => none

/-- What follows the last dot of a name that does not start there. -/
def extensionOf? (name : String) : Option String :=
  match (Text.splitChar '.' name).reverse with
  | last :: before :: more => if more.isEmpty && before.isEmpty then none else some last
  | _ => none

def extension? (p : Path) : Option String := p.fileName?.bind extensionOf?

def isPart (piece : String) : Bool := (partOf? piece).isSome

/-- Pieces without those at either end that say nothing. -/
def trimPieces (pieces : List String) : List String :=
  ((pieces.dropWhile (!isPart ·)).reverse.dropWhile (!isPart ·)).reverse

/-- Drop pieces up to the given number of ones that say something. -/
def dropParts : Nat → List String → List String
  | 0, pieces => pieces
  | _ + 1, [] => []
  | n + 1, piece :: rest => if isPart piece then dropParts n rest else dropParts (n + 1) rest

/-- What is left of a path below another one. -/
def below? (base p : Path) : Option Path :=
  if !base.parts.isPrefixOf p.parts then none
  else
    let dropped := (base.parts.filter fun part => part != .root && part != .here).length
    if base.parts.isEmpty then some p
    else some ⟨"/".intercalate (trimPieces (dropParts dropped p.pieces))⟩

/-- The path without its last part; none where there is nothing to drop. -/
def parent? (p : Path) : Option Path :=
  match p.parts.reverse with
  | [] | .root :: _ => none
  | _ :: kept =>
    let names := kept.reverse.filterMap fun
      | .root => none
      | .here => some "."
      | .up => some ".."
      | .name s => some s
    some ⟨(if p.isAbsolute then "/" else "") ++ "/".intercalate names⟩

def partsBefore : List Part → List Part → Bool
  | _, [] => false
  | [], _ :: _ => true
  | a :: as, b :: bs => a.before b || (a == b && partsBefore as bs)

def le (p q : Path) : Bool := !partsBefore q.parts p.parts

end Path
end ServiceCapsule
