import DomFlow.Assoc
import DomFlow.Files.Path

/-! # Files and folders

The files that a command can see form a tree, with the working directory as its root. A file has a text,
unless its bytes are none. Files outside the working directory are seen under the names that lead out of it. -/

namespace DomFlow

inductive FileTree where
  | file (text : Option String)
  | folder (entries : List (String × FileTree))
deriving Repr, Inhabited

namespace FileTree

def empty : FileTree := .folder []

def isFile : FileTree → Bool
  | .file _ => true
  | .folder _ => false

def child? : FileTree → String → Option FileTree
  | .folder es, name => es.lookup name
  | .file _, _ => none

/-- Follows components from a tree; `above` holds the folders around it, nearest first. What is outside the
root of the tree is found under the name that leads there. -/
def walk? (above : List FileTree) (t : FileTree) : List String → Option FileTree
  | [] => some t
  | "." :: r => match t with
    | .folder _ => walk? above t r
    | .file _ => none
  | ".." :: r => match t, above with
    | .file _, _ => none
    | .folder _, a :: as => walk? as a r
    | .folder _, [] => match t.child? ".." with
      | some c => walk? [] c r
      | none => none
  | name :: r => match t.child? name with
    | some c => walk? (t :: above) c r
    | none => none

/-- Whether the text of a path asks for a folder. -/
def asksFolder (path : String) : Bool :=
  match path.toList.reverse with
  | '/' :: _ => true
  | '.' :: '/' :: _ => true
  | _ => false

def get? (t : FileTree) (path : String) : Option FileTree :=
  if path.isEmpty then none
  else match walk? [] t (Path.components path) with
    | some (.file text) => if asksFolder path then none else some (.file text)
    | r => r

def has (t : FileTree) (path : String) : Bool := (t.get? path).isSome

/-- Puts a tree where components lead, making folders on the way; a file in the way stays as it is. -/
def insertAt (c : FileTree) : List String → FileTree → FileTree
  | [], _ => c
  | _ :: _, .file text => .file text
  | name :: r, .folder es =>
    .folder (Assoc.set name (insertAt c r ((es.lookup name).getD empty)) es)

/-- Puts a file or a folder under a path. -/
def insert (t : FileTree) (path : String) (c : FileTree) : FileTree :=
  insertAt c ((Path.components path).filter (· != ".")) t

end FileTree

end DomFlow
