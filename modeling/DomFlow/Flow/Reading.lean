import DomFlow.Patterns
import DomFlow.Scope.Tree
import DomFlow.Script.Path

/-! # The taint of an expression

A reading of an expression is the origin of tainted data in it, if there is any, and the unbound names
that were met on the way. Parts are read left to right until one is tainted; later parts are not read. -/

namespace DomFlow

structure Reading where
  origin : Option String := none
  unbound : List String := []
deriving DecidableEq, Repr, Inhabited

namespace Reading

def clean : Reading := {}

/-- Reads the second part only if the first is not tainted. -/
def orElse (a b : Reading) : Reading :=
  match a.origin with
  | some _ => a
  | none => { origin := b.origin, unbound := a.unbound ++ b.unbound }

/-- A place is tainted with its own path if that path is a source. -/
def ofPath (p : Patterns) (path : String) : Reading :=
  if p.isSource path then { origin := some path } else clean

end Reading

def safeProperties : List String := ["length", "constructor", "prototype"]

/-- Whether an access by this key cuts taint off. -/
def Script.Key.isSafe (k : Script.Key) : Bool :=
  k.name?.any safeProperties.contains

/-- The reading of a name: its variable if that is tainted, else the name itself if it is a source. -/
def readName (p : Patterns) (look : String → Option Variable) (name : String) : Reading :=
  match look name with
  | some v => if v.tainted then { origin := some v.origin } else .ofPath p name
  | none => { origin := (Reading.ofPath p name).origin, unbound := [name] }

mutual

/-- The reading of an expression where names mean what `look` says. -/
def Script.Expr.reading (p : Patterns) (look : String → Option Variable) : Script.Expr → Reading
  | .ident n => readName p look n
  | .binary _ l r => (l.reading p look).orElse (r.reading p look)
  | .member o k =>
    if k.isSafe then .clean
    else (Reading.ofPath p (o.path ++ k.suffix)).orElse (o.reading p look)
  | .optMember _ o k =>
    if k.isSafe then .clean
    else (Reading.ofPath p (o.path ++ k.suffix)).orElse (o.reading p look)
  | .call f _ => .ofPath p f.path
  | .optCall _ f _ => .ofPath p f.path
  | .superCall _ => .ofPath p "super"
  | .importCall _ => .ofPath p "import"
  | .object props => Script.Property.readings p look props
  | .paren e => e.reading p look
  | .template _ es => Script.Expr.readings p look es
  | .cond _ yes no => (yes.reading p look).orElse (no.reading p look)
  | .seq es => Script.Expr.lastReading p look es
  | .assign _ _ v => v.reading p look
  | .await e => e.reading p look
  | _ => .clean

def Script.Expr.readings (p : Patterns) (look : String → Option Variable) : List Script.Expr → Reading
  | [] => .clean
  | e :: r => (e.reading p look).orElse (Script.Expr.readings p look r)

def Script.Expr.lastReading (p : Patterns) (look : String → Option Variable) :
    List Script.Expr → Reading
  | [] => .clean
  | [e] => e.reading p look
  | _ :: r => Script.Expr.lastReading p look r

def Script.Property.readings (p : Patterns) (look : String → Option Variable) :
    List Script.Property → Reading
  | [] => .clean
  | .keyValue _ v :: r => (v.reading p look).orElse (Script.Property.readings p look r)
  | .shorthand n :: r => (readName p look n).orElse (Script.Property.readings p look r)
  | .spread e :: r => (e.reading p look).orElse (Script.Property.readings p look r)
  | _ :: r => Script.Property.readings p look r

end

end DomFlow
