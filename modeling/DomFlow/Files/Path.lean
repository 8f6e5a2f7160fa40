/-! # Paths

A path is a text with slashes. What it means depends on its components only: repeated slashes and dots
inside it are skipped, a dot in front is kept. -/

namespace DomFlow.Path

def isAbsolute (path : String) : Bool :=
  match path.toList with
  | '/' :: _ => true
  | _ => false

/-- Whether a piece is a component; `front` tells whether it opens a relative path. -/
def isComponent (front : Bool) (piece : List Char) : Bool :=
  !piece.isEmpty && (front || piece != ['.'])

/-- Pieces with a mark for those that are components. -/
def marked : List (List Char) → List (Bool × List Char)
  | [] => []
  | p :: ps => (isComponent true p, p) :: ps.map fun q => (isComponent false q, q)

/-- The pieces of a path between slashes, with their marks. -/
def markedPieces (path : String) : List (Bool × List Char) := marked (path.toList.splitOn '/')

/-- The components of a path; the root is one too. -/
def components (path : String) : List String :=
  (if isAbsolute path then ["/"] else []) ++
    (markedPieces path).filterMap fun (real, p) => if real then some (String.ofList p) else none

/-- The text up to the end of its last component. -/
def trimmed (pieces : List (Bool × List Char)) : List (Bool × List Char) :=
  (pieces.reverse.dropWhile fun p => !p.1).reverse

/-- The path without its last component: nothing if it has none. -/
def parent? (path : String) : Option String :=
  match (trimmed (markedPieces path)).reverse with
  | [] => none
  | _ :: before =>
    let kept := trimmed before.reverse
    let text := String.intercalate "/" (kept.map fun p => String.ofList p.2)
    some (if kept.isEmpty && isAbsolute path then "/" else text)

def join (folder name : String) : String :=
  match folder.toList.getLast? with
  | none => name
  | some '/' => folder ++ name
  | some _ => folder ++ "/" ++ name

/-- The last component, unless that leads upward or nowhere. -/
def fileName? (path : String) : Option String :=
  match (components path).getLast? with
  | some "." | some ".." | some "/" | none => none
  | some n => some n

/-- What follows the last dot of a name, unless the dot is its first character. -/
def extension? (name : String) : Option String :=
  let tail := name.toList.reverse.takeWhile (· != '.')
  if tail.length + 1 < name.length && name != ".." then some (String.ofList tail.reverse) else none

/-- A path and its parents, nearest first; `fuel` bounds their number. -/
def upwardFrom : Nat → String → List String
  | 0, path => [path]
  | fuel + 1, path => match parent? path with
    | some p => path :: upwardFrom fuel p
    | none => [path]

def upward (path : String) : List String := upwardFrom (components path).length path

end DomFlow.Path
