/-! # The tree of scopes

Scopes live in one array; a scope is named by its index and knows its parent and its children. A scope is
added below an existing one and is never removed, so every parent has a smaller index than its child. -/

namespace DomFlow

inductive ScopeKind where
  | global
  | function
  | block
deriving DecidableEq, Repr, Inhabited

def ScopeKind.text : ScopeKind → String
  | .global => "global"
  | .function => "function"
  | .block => "block"

/-- A variable and where its data came from; an untainted variable has no origin. -/
structure Variable where
  name : String
  tainted : Bool := false
  origin : String := ""
deriving DecidableEq, Repr, Inhabited

namespace Variable

def taint (v : Variable) (origin : String) : Variable :=
  { v with tainted := true, origin }

def untaint (v : Variable) : Variable :=
  { v with tainted := false, origin := "" }

end Variable

abbrev ScopeId := Nat

structure Scope where
  kind : ScopeKind
  parent : Option ScopeId := none
  /-- Children in the order of their creation. -/
  children : List ScopeId := []
  /-- Variables in the order in which their names were first bound. -/
  vars : List Variable := []
deriving DecidableEq, Repr, Inhabited

namespace Scope

def var? (s : Scope) (name : String) : Option Variable :=
  s.vars.find? (·.name = name)

def binds (s : Scope) (name : String) : Bool :=
  (s.var? name).isSome

/-- Replaces the variable of this name, or adds it as the last one. -/
def put (s : Scope) (v : Variable) : Scope :=
  if s.binds v.name then
    { s with vars := s.vars.map fun w => if w.name = v.name then v else w }
  else { s with vars := s.vars ++ [v] }

end Scope

/-- All scopes of a program; the scope at index zero is the global one. -/
structure ScopeTree where
  scopes : Array Scope
deriving DecidableEq, Repr, Inhabited

namespace ScopeTree

def empty : ScopeTree := ⟨#[{ kind := .global }]⟩

def root : ScopeId := 0

def size (t : ScopeTree) : Nat := t.scopes.size

def get? (t : ScopeTree) (i : ScopeId) : Option Scope := t.scopes[i]?

def parent? (t : ScopeTree) (i : ScopeId) : Option ScopeId := (t.get? i).bind (·.parent)

def children (t : ScopeTree) (i : ScopeId) : List ScopeId :=
  ((t.get? i).map (·.children)).getD []

def vars (t : ScopeTree) (i : ScopeId) : List Variable :=
  ((t.get? i).map (·.vars)).getD []

def kind (t : ScopeTree) (i : ScopeId) : ScopeKind :=
  ((t.get? i).map (·.kind)).getD .global

def update (t : ScopeTree) (i : ScopeId) (f : Scope → Scope) : ScopeTree :=
  ⟨t.scopes.modify i f⟩

/-- Adds a scope below `parent`; its index is the size before. -/
def create (t : ScopeTree) (kind : ScopeKind) (parent : ScopeId) : ScopeTree × ScopeId :=
  let linked := t.update parent fun s => { s with children := s.children ++ [t.size] }
  (⟨linked.scopes.push { kind, parent := some parent }⟩, t.size)

/-- The scopes from `i` up along parents, `fuel` of them at most. -/
def chain (t : ScopeTree) : Nat → ScopeId → List ScopeId
  | 0, _ => []
  | fuel + 1, i =>
    i :: match t.parent? i with
      | some p => t.chain fuel p
      | none => []

/-- A scope and those around it, up to the global one. Parents have smaller indices, so there are at most
`i + 1` of them. -/
def ancestors (t : ScopeTree) (i : ScopeId) : List ScopeId :=
  t.chain (i + 1) i

/-- The variable that a scope itself binds. -/
def own? (t : ScopeTree) (i : ScopeId) (name : String) : Option Variable :=
  (t.get? i).bind (·.var? name)

/-- The nearest scope from `i` up that binds a name. -/
def resolve? (t : ScopeTree) (i : ScopeId) (name : String) : Option ScopeId :=
  (t.ancestors i).find? fun j => (t.own? j name).isSome

/-- The variable that a name means in a scope. -/
def lookup? (t : ScopeTree) (i : ScopeId) (name : String) : Option Variable :=
  (t.resolve? i name).bind fun j => t.own? j name

/-- Binds a name in a scope to a fresh, untainted variable, whatever it was bound to before. -/
def define (t : ScopeTree) (i : ScopeId) (name : String) : ScopeTree :=
  t.update i fun s => s.put { name }

/-- Changes the variable that a name means in a scope; nothing happens if it means none. -/
def modifyVar (t : ScopeTree) (i : ScopeId) (name : String) (f : Variable → Variable) : ScopeTree :=
  match t.resolve? i name, t.lookup? i name with
  | some j, some v => t.update j fun s => s.put { f v with name }
  | _, _ => t

def taint (t : ScopeTree) (i : ScopeId) (name origin : String) : ScopeTree :=
  t.modifyVar i name (·.taint origin)

def untaint (t : ScopeTree) (i : ScopeId) (name : String) : ScopeTree :=
  t.modifyVar i name (·.untaint)

/-- The nearest scope from `i` up that is no block: where a `var` belongs. -/
def functionScope (t : ScopeTree) (i : ScopeId) : ScopeId :=
  ((t.ancestors i).find? fun j => t.kind j ≠ .block).getD root

end ScopeTree

end DomFlow
