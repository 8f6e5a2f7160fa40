import DomFlow.Proofs.Frames

/-! # Terms

Expressions of literals, names, operators, templates and members. They have no steps of their own, and the walk
reads from a term the taint that it has where names have the taint of their variables. -/

namespace DomFlow

open Script (Expr)

/-- The taint of a variable, if it has any. -/
def Variable.origin? (v : Variable) : Option String := if v.tainted then some v.origin else none

inductive Literal where
  | null
  | bool (value : Bool)
  | num (value : Float)
  | bigint (value : Nat)
  | str (value : String)
  | regex (source flags : String)
  | template (quasis : List Script.Quasi)

def Literal.expr : Literal → Expr
  | .null => .null
  | .bool b => .bool b
  | .num v => .num v
  | .bigint n => .bigint n
  | .str s => .str s
  | .regex source flags => .regex source flags
  | .template quasis => .template quasis []

inductive Term where
  | literal (l : Literal)
  | name (x : String)
  | binary (op : Script.BinaryOp) (l r : Term)
  | paren (t : Term)
  | template (quasis : List Script.Quasi) (parts : List Term)
  | field (o : Term) (n : String)
  | hidden (o : Term) (n : String)
  | index (o k : Term)

/-- A place is tainted with its own path if that path is a source. -/
def pathTaint (p : Patterns) (path : String) : Option String :=
  if p.isSource path then some path else none

/-- The taint of a member: none under a safe key, else that of its path, else that of its object. -/
def memberTaint (p : Patterns) (o : Expr) (k : Script.Key) (objectTaint : Option String) : Option String :=
  if k.isSafe then none else (pathTaint p (o.path ++ k.suffix)).or objectTaint

def memberTainted (p : Patterns) (o : Expr) (k : Script.Key) (objectTainted : Bool) : Bool :=
  !k.isSafe && (p.isSource (o.path ++ k.suffix) || objectTainted)

namespace Term

mutual

def expr : Term → Expr
  | .literal l => l.expr
  | .name x => .ident x
  | .binary op l r => .binary op l.expr r.expr
  | .paren t => .paren t.expr
  | .template quasis parts => .template quasis (exprs parts)
  | .field o n => .member o.expr (.name n)
  | .hidden o n => .member o.expr (.hidden n)
  | .index o k => .member o.expr (.computed k.expr)

def exprs : List Term → List Expr
  | [] => []
  | t :: r => t.expr :: exprs r

end

mutual

/-- The taint of a term, the first from left to right. A name without an entry and a name that is not tainted
are tainted with themselves if they are sources. -/
def taint (p : Patterns) (entry : String → Option (Option String)) : Term → Option String
  | .literal _ => none
  | .name x => (entry x).join.or (pathTaint p x)
  | .binary _ l r => (l.taint p entry).or (r.taint p entry)
  | .paren t => t.taint p entry
  | .template _ parts => firstTaint p entry parts
  | .field o n => memberTaint p o.expr (.name n) (o.taint p entry)
  | .hidden o n => memberTaint p o.expr (.hidden n) (o.taint p entry)
  | .index o k => memberTaint p o.expr (.computed k.expr) (o.taint p entry)

def firstTaint (p : Patterns) (entry : String → Option (Option String)) : List Term → Option String
  | [] => none
  | t :: r => (t.taint p entry).or (firstTaint p entry r)

end

mutual

/-- Whether a term is tainted where these names are: a read of a source is, an operator and a template are if one
of their parts is, and so is a property of what is tainted, unless its name is safe. -/
def tainted (p : Patterns) (τ : String → Bool) : Term → Bool
  | .literal _ => false
  | .name x => τ x || p.isSource x
  | .binary _ l r => l.tainted p τ || r.tainted p τ
  | .paren t => t.tainted p τ
  | .template _ parts => anyTainted p τ parts
  | .field o n => memberTainted p o.expr (.name n) (o.tainted p τ)
  | .hidden o n => memberTainted p o.expr (.hidden n) (o.tainted p τ)
  | .index o k => memberTainted p o.expr (.computed k.expr) (o.tainted p τ)

def anyTainted (p : Patterns) (τ : String → Bool) : List Term → Bool
  | [] => false
  | t :: r => t.tainted p τ || anyTainted p τ r

end

/-- Whether a call of this is a call of a sink. -/
def isSink (p : Patterns) (callee : Term) : Bool :=
  p.isSink callee.expr.path || p.isSink (callee.expr.path ++ "(")

end Term

section

variable {p : Patterns} {sink : String → Bool} {look : String → Option Variable}

theorem Reading.origin_orElse (a b : Reading) : (a.orElse b).origin = a.origin.or b.origin := by
  cases h : a.origin <;> simp [orElse, h]

theorem origin_ofPath (path : String) : (Reading.ofPath p path).origin = pathTaint p path := by
  unfold Reading.ofPath pathTaint
  split <;> rfl

theorem origin_readName (x : String) :
    (readName p look x).origin = ((look x).map Variable.origin?).join.or (pathTaint p x) := by
  unfold readName
  cases look x with
  | none => simp [origin_ofPath]
  | some v =>
    by_cases hv : v.tainted = true
    · simp [hv, Variable.origin?]
    · simp [hv, Variable.origin?, origin_ofPath]

theorem origin_member (o : Expr) (k : Script.Key) :
    ((Expr.member o k).reading p look).origin = memberTaint p o k (o.reading p look).origin := by
  rw [Expr.reading, memberTaint]
  split
  · rfl
  · rw [Reading.origin_orElse, origin_ofPath]

theorem isSome_pathTaint (path : String) : (pathTaint p path).isSome = p.isSource path := by
  cases h : p.isSource path <;> simp [pathTaint, h]

theorem isSome_memberTaint (o : Expr) (k : Script.Key) (taint : Option String) :
    (memberTaint p o k taint).isSome = memberTainted p o k taint.isSome := by
  cases h : k.isSafe <;> simp [memberTaint, memberTainted, h, isSome_pathTaint]

theorem memberTainted_mono (o : Expr) (k : Script.Key) {a b : Bool} (h : a = true → b = true) :
    memberTainted p o k a = true → memberTainted p o k b = true := by
  simp only [memberTainted, Bool.and_eq_true, Bool.or_eq_true]
  exact And.imp_right (Or.imp_right h)

namespace Term

mutual

theorem steps_expr : ∀ t : Term, t.expr.steps sink = []
  | .literal l => by cases l <;> simp [expr, Literal.expr, Expr.steps, Expr.allSteps]
  | .name _ => by simp [expr, Expr.steps]
  | .binary _ l r => by simp [expr, Expr.steps, steps_expr l, steps_expr r]
  | .paren t => by simp [expr, Expr.steps, steps_expr t]
  | .template _ parts => by simp [expr, Expr.steps, steps_exprs parts]
  | .field o _ | .hidden o _ => by simp [expr, Expr.steps, Script.Key.steps, steps_expr o]
  | .index o k => by simp [expr, Expr.steps, Script.Key.steps, steps_expr o, steps_expr k]

theorem steps_exprs : ∀ ts : List Term, Expr.allSteps sink (exprs ts) = []
  | [] => by simp [exprs, Expr.allSteps]
  | t :: r => by simp [exprs, Expr.allSteps, steps_expr t, steps_exprs r]

end

mutual

/-- The walk reads from a term the taint that it has where names have the taint of their variables. -/
theorem origin_reading (look : String → Option Variable) : ∀ t : Term,
    (t.expr.reading p look).origin = t.taint p fun x => (look x).map Variable.origin?
  | .literal l => by
    cases l <;> simp [expr, Literal.expr, Expr.reading, Expr.readings, taint, Reading.clean]
  | .name x => by rw [expr, Expr.reading, taint, origin_readName]
  | .binary _ l r => by
    rw [expr, Expr.reading, taint, Reading.origin_orElse, origin_reading look l, origin_reading look r]
  | .paren t => by rw [expr, Expr.reading, taint, origin_reading look t]
  | .template _ parts => by rw [expr, Expr.reading, taint, origin_readings look parts]
  | .field o _ | .hidden o _ | .index o _ => by rw [expr, origin_member, taint, origin_reading look o]

theorem origin_readings (look : String → Option Variable) : ∀ ts : List Term,
    (Expr.readings p look (exprs ts)).origin = firstTaint p (fun x => (look x).map Variable.origin?) ts
  | [] => by simp [exprs, Expr.readings, firstTaint, Reading.clean]
  | t :: r => by
    rw [exprs, Expr.readings, firstTaint, Reading.origin_orElse, origin_reading look t, origin_readings look r]

end

section

variable {entry : String → Option (Option String)} {τ : String → Bool}

mutual

/-- A term has a taint exactly if it is tainted where the names with a taint are. -/
theorem isSome_taint (h : ∀ x, (entry x).join.isSome = τ x) : ∀ t : Term, (t.taint p entry).isSome = t.tainted p τ
  | .literal _ => by rw [taint, tainted, Option.isSome_none]
  | .name x => by rw [taint, tainted, Option.isSome_or, h, isSome_pathTaint]
  | .binary _ l r => by rw [taint, tainted, Option.isSome_or, isSome_taint h l, isSome_taint h r]
  | .paren t => by rw [taint, tainted, isSome_taint h t]
  | .template _ parts => by rw [taint, tainted, isSome_firstTaint h parts]
  | .field o _ | .hidden o _ | .index o _ => by rw [taint, tainted, isSome_memberTaint, isSome_taint h o]

theorem isSome_firstTaint (h : ∀ x, (entry x).join.isSome = τ x) : ∀ ts : List Term,
    (firstTaint p entry ts).isSome = anyTainted p τ ts
  | [] => by rw [firstTaint, anyTainted, Option.isSome_none]
  | t :: r => by rw [firstTaint, anyTainted, Option.isSome_or, isSome_taint h t, isSome_firstTaint h r]

end

end

section

variable {τ σ : String → Bool}

mutual

theorem tainted_mono (h : ∀ x, σ x = true → τ x = true) : ∀ t : Term,
    t.tainted p σ = true → t.tainted p τ = true
  | .literal _ => by simp only [tainted, imp_self]
  | .name x => by
    simp only [tainted, Bool.or_eq_true]
    exact Or.imp_left (h x)
  | .binary _ l r => by
    simp only [tainted, Bool.or_eq_true]
    exact Or.imp (tainted_mono h l) (tainted_mono h r)
  | .paren t => by
    simp only [tainted]
    exact tainted_mono h t
  | .template _ parts => by
    simp only [tainted]
    exact anyTainted_mono h parts
  | .field o _ | .hidden o _ | .index o _ => by
    simp only [tainted]
    exact memberTainted_mono _ _ (tainted_mono h o)

theorem anyTainted_mono (h : ∀ x, σ x = true → τ x = true) : ∀ ts : List Term,
    anyTainted p σ ts = true → anyTainted p τ ts = true
  | [] => by simp only [anyTainted, imp_self]
  | t :: r => by
    simp only [anyTainted, Bool.or_eq_true]
    exact Or.imp (tainted_mono h t) (anyTainted_mono h r)

end

end

/-- Names that are declared in one statement, with their values. -/
def declarators (decls : List (String × Option Term)) : List Script.Declarator :=
  decls.map fun d => .mk (.ident d.1) (d.2.map expr)

/-- A name is declared with what was noted before. -/
def declareSteps (target : BindTarget) (x : String) (init : Option Term) : List Step :=
  [init.elim Step.clean fun t => Step.note t.expr, Step.declare target x, Step.forget]

theorem steps_declarators (target : BindTarget) (x : String) (init : Option Term)
    (decls : List (String × Option Term)) :
    Script.Declarator.steps sink target (declarators ((x, init) :: decls)) =
      declareSteps target x init ++ Script.Declarator.steps sink target (declarators decls) := by
  cases init with
  | none => simp [declarators, declareSteps, Script.Declarator.steps, Script.Pat.bindSteps]
  | some t => simp [declarators, declareSteps, Script.Declarator.steps, Script.Pat.bindSteps, t.steps_expr]

/-- An assignment by `=` if it is plain, else by `+=`. -/
def assignment (plain : Bool) (x : String) (t : Term) : Expr :=
  .assign (if plain then .plain else .compound .add) (.ident x) t.expr

theorem steps_assignment (plain : Bool) (x : String) (t : Term) : (assignment plain x t).steps sink =
    [.note t.expr, .assign plain x, .checkAssign x t.expr, .forget] := by
  cases plain <;> simp [assignment, Expr.steps, Script.Target.steps, Script.Target.path?, t.steps_expr]

theorem steps_items (args : List Term) : Script.Elem.steps sink (args.map fun t => .item t.expr) = [] := by
  induction args with
  | nil => simp [Script.Elem.steps]
  | cons t args ih => simp [Script.Elem.steps, t.steps_expr, ih]

theorem exprs_items (args : List Term) :
    Script.Elem.exprs (args.map fun t => .item t.expr) = args.map expr := by
  induction args with
  | nil => rfl
  | cons t args ih => rw [List.map_cons, Script.Elem.exprs, ih, List.map_cons]

theorem steps_call (callee : Term) (args : List Term) :
    (Expr.call callee.expr (args.map fun t => .item t.expr)).steps sink =
      [.checkCall callee.expr.path (args.map expr)] := by
  rw [Expr.steps, callee.steps_expr, steps_items, exprs_items]
  rfl

end Term

end

/-- Steps that lead from a state to one that stands for another kind of state, with these flows on the way. -/
structure WalkState.Leads {α : Type} (R : Tracker → α → Prop) (p : Patterns) (s : WalkState) (steps : List Step)
    (after : α) (found : List Flow) : Prop where
  holds : R (s.run p steps).tracker after
  yields : s.yields p steps = found

namespace WalkState.Leads

variable {α : Type} {R : Tracker → α → Prop} {p : Patterns} {s : WalkState}

theorem append {a b : List Step} {between after : α} {found found' : List Flow}
    (ha : Leads R p s a between found) (hb : Leads R p (s.run p a) b after found') :
    Leads R p s (a ++ b) after (found ++ found') where
  holds := by
    rw [run_append]
    exact hb.holds
  yields := by rw [yields_append, ha.yields, hb.yields]

end WalkState.Leads

end DomFlow
