import DomFlow.Scope.Tree

/-! # The current scope

A tracker is a tree of scopes with a mark on the one that is being walked. -/

namespace DomFlow

structure Tracker where
  scopes : ScopeTree := .empty
  current : ScopeId := ScopeTree.root
deriving DecidableEq, Repr, Inhabited

namespace Tracker

/-- Opens a scope below the current one and goes there. -/
def enter (t : Tracker) (kind : ScopeKind) : Tracker :=
  let (scopes, id) := t.scopes.create kind t.current
  { scopes, current := id }

/-- Goes back to the scope around the current one; the global scope is never left. -/
def leave (t : Tracker) : Tracker :=
  match t.scopes.parent? t.current with
  | some p => { t with current := p }
  | none => t

def define (t : Tracker) (name : String) : Tracker :=
  { t with scopes := t.scopes.define t.current name }

/-- Binds a name in the function around the current scope, or globally outside of functions. -/
def defineInFunction (t : Tracker) (name : String) : Tracker :=
  { t with scopes := t.scopes.define (t.scopes.functionScope t.current) name }

def defineGlobal (t : Tracker) (name : String) : Tracker :=
  { t with scopes := t.scopes.define ScopeTree.root name }

def lookup? (t : Tracker) (name : String) : Option Variable :=
  t.scopes.lookup? t.current name

def taint (t : Tracker) (name origin : String) : Tracker :=
  { t with scopes := t.scopes.taint t.current name origin }

def untaint (t : Tracker) (name : String) : Tracker :=
  { t with scopes := t.scopes.untaint t.current name }

end Tracker

end DomFlow
