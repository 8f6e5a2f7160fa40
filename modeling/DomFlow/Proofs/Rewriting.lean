import DomFlow.Proofs.Layout
import DomFlow.Proofs.Runs
import Mathlib.Data.List.Basic

/-! # Rewritings of scripts

A rewriting changes the keys and the parentheses of a script and goes through everything else. One that keeps
the names and the suffixes of keys that count, and after whose parentheses there is the same path, reading and
walk, keeps paths and readings everywhere, and the steps of a rewritten node are its steps with rewritten
expressions. -/

namespace DomFlow

def Step.mapExprs (f : Script.Expr → Script.Expr) : Step → Step
  | .note e => .note (f e)
  | .noteDefault e => .noteDefault (f e)
  | .checkCall callee args => .checkCall callee (args.map f)
  | .checkAssign target value => .checkAssign target (f value)
  | .checkProperty key value => .checkProperty key (f value)
  | .enter kind => .enter kind
  | .leave => .leave
  | .clean => .clean
  | .forget => .forget
  | .declare target name => .declare target name
  | .assign plain name => .assign plain name

namespace Script

/-- Where a key stands: in an access, before a value of an object literal, or elsewhere. -/
inductive KeyPlace where
  | access
  | value
  | other

structure Rewriting where
  /-- What becomes of a text that is a key. -/
  text : String → Key
  /-- What becomes of a key in brackets, from what it was and what that is rewritten to. -/
  computed : KeyPlace → Expr → Expr → Key
  /-- What becomes of parentheses around what has been rewritten. -/
  paren : Expr → Expr
  /-- The same on the left side of an assignment. -/
  parenTarget : Expr → Target

namespace Rewriting

mutual

def key (R : Rewriting) (place : KeyPlace) : Key → Key
  | .str s => R.text s
  | .computed e => R.computed place e (R.expr e)
  | .name s => .name s
  | .hidden s => .hidden s
  | .num v => .num v
  | .bigint v => .bigint v

def expr (R : Rewriting) : Expr → Expr
  | .template quasis es => .template quasis (R.exprs es)
  | .tagged tag quasis es => .tagged (R.expr tag) quasis (R.exprs es)
  | .array elems => .array (R.elems elems)
  | .object props => .object (R.properties props)
  | .func name kind params body => .func name kind (R.pats params) (R.stmts body)
  | .arrow isAsync params body => .arrow isAsync (R.pats params) (R.stmts body)
  | .classExpr name parent members => .classExpr name (R.expr? parent) (R.classMembers members)
  | .unary op e => .unary op (R.expr e)
  | .update op before e => .update op before (R.expr e)
  | .binary op l r => .binary op (R.expr l) (R.expr r)
  | .assign op t v => .assign op (R.target t) (R.expr v)
  | .cond test yes no => .cond (R.expr test) (R.expr yes) (R.expr no)
  | .call f args => .call (R.expr f) (R.elems args)
  | .superCall args => .superCall (R.elems args)
  | .importCall args => .importCall (R.elems args)
  | .new f args => .new (R.expr f) (R.elems args)
  | .member o k => .member (R.expr o) (R.key .access k)
  | .superMember k => .superMember (R.key .other k)
  | .optMember short o k => .optMember short (R.expr o) (R.key .access k)
  | .optCall short f args => .optCall short (R.expr f) (R.elems args)
  | .seq es => .seq (R.exprs es)
  | .paren e => R.paren (R.expr e)
  | .await e => .await (R.expr e)
  | .yield delegate e => .yield delegate (R.expr? e)
  | .ident n => .ident n
  | .thisRef => .thisRef
  | .null => .null
  | .bool b => .bool b
  | .num v => .num v
  | .bigint v => .bigint v
  | .str s => .str s
  | .regex source flags => .regex source flags
  | .newTarget => .newTarget
  | .hiddenName text => .hiddenName text

def expr? (R : Rewriting) : Option Expr → Option Expr
  | some e => some (R.expr e)
  | none => none

def exprs (R : Rewriting) : List Expr → List Expr
  | [] => []
  | e :: r => R.expr e :: R.exprs r

def elems (R : Rewriting) : List Elem → List Elem
  | [] => []
  | .hole :: r => .hole :: R.elems r
  | .item e :: r => .item (R.expr e) :: R.elems r
  | .spread e :: r => .spread (R.expr e) :: R.elems r

def property (R : Rewriting) : Property → Property
  | .keyValue k v => .keyValue (R.key .value k) (R.expr v)
  | .shorthand n => .shorthand n
  | .cover n d => .cover n (R.expr d)
  | .spread e => .spread (R.expr e)
  | .method k kind params body => .method (R.key .other k) kind (R.pats params) (R.stmts body)
  | .getter k body => .getter (R.key .other k) (R.stmts body)
  | .setter k param body => .setter (R.key .other k) (R.pat param) (R.stmts body)

def properties (R : Rewriting) : List Property → List Property
  | [] => []
  | prop :: r => R.property prop :: R.properties r

def classMember (R : Rewriting) : ClassMember → ClassMember
  | .method isStatic role k kind params body =>
    .method isStatic role (R.key .other k) kind (R.pats params) (R.stmts body)
  | .field isStatic k v => .field isStatic (R.key .other k) (R.expr? v)
  | .staticBlock body => .staticBlock (R.stmts body)

def classMembers (R : Rewriting) : List ClassMember → List ClassMember
  | [] => []
  | m :: r => R.classMember m :: R.classMembers r

def pat (R : Rewriting) : Pat → Pat
  | .ident n => .ident n
  | .array elems => .array (R.patElems elems)
  | .object props => .object (R.patProps props)
  | .rest p => .rest (R.pat p)
  | .withDefault p d => .withDefault (R.pat p) (R.expr d)
  | .target e => .target (R.expr e)

def pat? (R : Rewriting) : Option Pat → Option Pat
  | some p => some (R.pat p)
  | none => none

def pats (R : Rewriting) : List Pat → List Pat
  | [] => []
  | p :: r => R.pat p :: R.pats r

def patElems (R : Rewriting) : List (Option Pat) → List (Option Pat)
  | [] => []
  | p :: r => R.pat? p :: R.patElems r

def patProp (R : Rewriting) : PatProp → PatProp
  | .keyValue k p => .keyValue (R.key .other k) (R.pat p)
  | .shorthand n d => .shorthand n (R.expr? d)
  | .rest p => .rest (R.pat p)

def patProps (R : Rewriting) : List PatProp → List PatProp
  | [] => []
  | prop :: r => R.patProp prop :: R.patProps r

def target (R : Rewriting) : Target → Target
  | .ident n => .ident n
  | .member o k => .member (R.expr o) (R.key .access k)
  | .superMember k => .superMember (R.key .other k)
  | .paren e => R.parenTarget (R.expr e)
  | .pattern p => .pattern (R.pat p)

def declarator (R : Rewriting) : Declarator → Declarator
  | .mk p init => .mk (R.pat p) (R.expr? init)

def declarators (R : Rewriting) : List Declarator → List Declarator
  | [] => []
  | d :: r => R.declarator d :: R.declarators r

def forHead (R : Rewriting) : ForHead → ForHead
  | .decl kind p init => .decl kind (R.pat p) (R.expr? init)
  | .target p => .target (R.pat p)

def switchCase (R : Rewriting) : SwitchCase → SwitchCase
  | .mk test body => .mk (R.expr? test) (R.stmts body)

def switchCases (R : Rewriting) : List SwitchCase → List SwitchCase
  | [] => []
  | c :: r => R.switchCase c :: R.switchCases r

def handler (R : Rewriting) : Catch → Catch
  | .mk param body => .mk (R.pat? param) (R.stmts body)

def handler? (R : Rewriting) : Option Catch → Option Catch
  | some c => some (R.handler c)
  | none => none

def stmt (R : Rewriting) : Stmt → Stmt
  | .expr e => .expr (R.expr e)
  | .block body => .block (R.stmts body)
  | .withObject o body => .withObject (R.expr o) (R.stmt body)
  | .ret e => .ret (R.expr? e)
  | .labeled label body => .labeled label (R.stmt body)
  | .ifElse test yes no => .ifElse (R.expr test) (R.stmt yes) (R.stmt? no)
  | .switch e cases => .switch (R.expr e) (R.switchCases cases)
  | .throw e => .throw (R.expr e)
  | .tryCatch block handler finalizer => .tryCatch (R.stmts block) (R.handler? handler) (R.stmts? finalizer)
  | .whileLoop test body => .whileLoop (R.expr test) (R.stmt body)
  | .doWhile body test => .doWhile (R.stmt body) (R.expr test)
  | .forLoop init test update body => .forLoop (R.stmt? init) (R.expr? test) (R.expr? update) (R.stmt body)
  | .forIn head e body => .forIn (R.forHead head) (R.expr e) (R.stmt body)
  | .forOf isAwait head e body => .forOf isAwait (R.forHead head) (R.expr e) (R.stmt body)
  | .var kind decls => .var kind (R.declarators decls)
  | .func name kind params body => .func name kind (R.pats params) (R.stmts body)
  | .classDecl name parent members => .classDecl name (R.expr? parent) (R.classMembers members)
  | .empty => .empty
  | .debugger => .debugger
  | .breakTo label => .breakTo label
  | .continueTo label => .continueTo label

def stmt? (R : Rewriting) : Option Stmt → Option Stmt
  | some s => some (R.stmt s)
  | none => none

def stmts? (R : Rewriting) : Option (List Stmt) → Option (List Stmt)
  | some body => some (R.stmts body)
  | none => none

def stmts (R : Rewriting) : List Stmt → List Stmt
  | [] => []
  | s :: r => R.stmt s :: R.stmts r

end

def node (R : Rewriting) : Node → Node
  | .expr e => .expr (R.expr e)
  | .stmt s => .stmt (R.stmt s)
  | .pat role p => .pat role (R.pat p)

def step (R : Rewriting) (st : Step) : Step := st.mapExprs R.expr

def piece (R : Rewriting) : Piece → Piece
  | .step st => .step (R.step st)
  | .walk n => .walk (R.node n)
  | .value key v => .value (R.key .value key) (R.expr v)
  | .shorthand name => .shorthand name

variable {R : Rewriting}

@[simp] theorem expr?_eq (o : Option Expr) : R.expr? o = o.map R.expr := by cases o <;> rfl

@[simp] theorem pat?_eq (o : Option Pat) : R.pat? o = o.map R.pat := by cases o <;> rfl

@[simp] theorem handler?_eq (o : Option Catch) : R.handler? o = o.map R.handler := by cases o <;> rfl

@[simp] theorem stmt?_eq (o : Option Stmt) : R.stmt? o = o.map R.stmt := by cases o <;> rfl

@[simp] theorem exprs_eq (es : List Expr) : R.exprs es = es.map R.expr := eq_map_of_cons rfl (fun _ _ => rfl) es

@[simp] theorem properties_eq (props : List Property) : R.properties props = props.map R.property :=
  eq_map_of_cons rfl (fun _ _ => rfl) props

@[simp] theorem pats_eq (ps : List Pat) : R.pats ps = ps.map R.pat := eq_map_of_cons rfl (fun _ _ => rfl) ps

@[simp] theorem patElems_eq (elems : List (Option Pat)) : R.patElems elems = elems.map (Option.map R.pat) :=
  eq_map_of_cons rfl (fun p _ => by rw [patElems, pat?_eq]) elems

@[simp] theorem patProps_eq (props : List PatProp) : R.patProps props = props.map R.patProp :=
  eq_map_of_cons rfl (fun _ _ => rfl) props

@[simp] theorem declarators_eq (decls : List Declarator) : R.declarators decls = decls.map R.declarator :=
  eq_map_of_cons rfl (fun _ _ => rfl) decls

@[simp] theorem switchCases_eq (cases : List SwitchCase) : R.switchCases cases = cases.map R.switchCase :=
  eq_map_of_cons rfl (fun _ _ => rfl) cases

@[simp] theorem stmts_eq (ss : List Stmt) : R.stmts ss = ss.map R.stmt := eq_map_of_cons rfl (fun _ _ => rfl) ss

@[simp] theorem stmts?_eq (o : Option (List Stmt)) : R.stmts? o = o.map (List.map R.stmt) := by
  cases o <;> simp [stmts?]

@[simp] theorem exprs_elems (es : List Elem) : Elem.exprs (R.elems es) = (Elem.exprs es).map R.expr := by
  induction es with
  | nil => rfl
  | cons elem es ih => cases elem <;> simp [elems, Elem.exprs, ih]

/-- Without parentheses around it, an expression in brackets is as much of a name as before. -/
theorem spelled?_expr {e : Expr} (h : ∀ inner, e ≠ .paren inner) : (R.expr e).spelled? = e.spelled? := by
  cases e with
  | paren inner => exact absurd rfl (h inner)
  | template quasis es => cases es <;> simp [expr, Expr.spelled?]
  | _ => rfl

theorem suffix_computed_expr {e : Expr} (h : ∀ inner, e ≠ .paren inner) :
    (Key.computed (R.expr e)).suffix = (Key.computed e).suffix := by
  have hname : (Key.computed (R.expr e)).name? = (Key.computed e).name? := spelled?_expr h
  unfold Key.suffix
  rw [hname]
  cases e with
  | paren inner => exact absurd rfl (h inner)
  | _ => rfl

@[simp] theorem walkExprs_map (es : List Expr) : (walkExprs es).map R.piece = walkExprs (es.map R.expr) := by
  simp [walkExprs, piece, node]

@[simp] theorem walkStmts_map (ss : List Stmt) : (walkStmts ss).map R.piece = walkStmts (ss.map R.stmt) := by
  simp [walkStmts, piece, node]

@[simp] theorem paramLayout_map (params : List Pat) :
    (paramLayout params).map R.piece = paramLayout (params.map R.pat) := by
  simp [paramLayout, piece, node, step, Step.mapExprs, List.map_flatMap, List.flatMap_map]

@[simp] theorem scopeLayout_map (kind : ScopeKind) (params : List Pat) (body : List Stmt) :
    (scopeLayout kind params body).map R.piece = scopeLayout kind (params.map R.pat) (body.map R.stmt) := by
  simp [scopeLayout, piece, step, Step.mapExprs]

@[simp] theorem defineLayout_map (name : String) : (defineLayout name).map R.piece = defineLayout name := rfl

/-- A key that counts keeps its name and its suffix, and neither keys nor parentheses change what happens. -/
structure Lawful (R : Rewriting) : Prop where
  text : ∀ s, R.text s = .str s ∨ R.text s = .name s
  name?_computed : ∀ {place}, place ≠ .other → ∀ e, (R.computed place e (R.expr e)).name? = (Key.computed e).name?
  suffix_computed : ∀ e, (R.computed .access e (R.expr e)).suffix = (Key.computed e).suffix
  steps_computed : ∀ sink place e,
    pieceSteps sink (R.computed place e (R.expr e)).layout = (R.expr e).steps sink
  path_paren : ∀ e, (R.paren e).path = e.path
  reading_paren : ∀ p look e, (R.paren e).reading p look = e.reading p look
  steps_paren : ∀ sink e, (R.paren e).steps sink = e.steps sink
  path?_parenTarget : ∀ e, (R.parenTarget e).path? = some e.path
  steps_parenTarget : ∀ sink plain e, pieceSteps sink ((R.parenTarget e).layout plain) = []

namespace Lawful

theorem name?_key (h : R.Lawful) {place : KeyPlace} (hplace : place ≠ .other) (k : Key) :
    (R.key place k).name? = k.name? := by
  cases k with
  | str s => rcases h.text s with heq | heq <;> exact (congrArg Key.name? heq :)
  | computed e => exact h.name?_computed hplace e
  | name _ | hidden _ | num _ | bigint _ => rfl

theorem suffix_key (h : R.Lawful) (k : Key) : (R.key .access k).suffix = k.suffix := by
  cases k with
  | str s => rcases h.text s with heq | heq <;> exact (congrArg Key.suffix heq :)
  | computed e => exact h.suffix_computed e
  | name _ | hidden _ | num _ | bigint _ => rfl

theorem isSafe_key (h : R.Lawful) (k : Key) : (R.key .access k).isSafe = k.isSafe := by
  have hplace : KeyPlace.access ≠ .other := nofun
  rw [Key.isSafe, Key.isSafe, h.name?_key hplace]

theorem path (h : R.Lawful) : ∀ e : Expr, (R.expr e).path = e.path
  | .member o k | .optMember _ o k => by rw [expr, Expr.path, Expr.path, h.path o, h.suffix_key]
  | .call f _ | .optCall _ f _ => by rw [expr, Expr.path, Expr.path, h.path f]
  | .paren e => by rw [expr, h.path_paren, h.path e, Expr.path]
  | .ident _ | .thisRef | .superCall _ | .importCall _ => rfl
  | .null | .bool _ | .num _ | .bigint _ | .str _ | .regex _ _ | .template _ _ | .tagged _ _ _ | .array _
  | .object _ | .func _ _ _ _ | .arrow _ _ _ | .classExpr _ _ _ | .unary _ _ | .update _ _ _
  | .binary _ _ _ | .assign _ _ _ | .cond _ _ _ | .new _ _ | .superMember _ | .seq _ | .await _
  | .yield _ _ | .newTarget | .hiddenName _ => rfl

theorem path? (h : R.Lawful) (t : Target) : (R.target t).path? = t.path? := by
  cases t with
  | paren e =>
    rw [target, h.path?_parenTarget, h.path]
    rfl
  | _ => simp [target, Target.path?, h.path, h.suffix_key]

section

variable (p : Patterns) (look : String → Option Variable)

mutual

theorem reading (h : R.Lawful) : ∀ e : Expr, (R.expr e).reading p look = e.reading p look
  | .binary _ l r => by simp only [expr, Expr.reading, h.reading l, h.reading r]
  | .member o k | .optMember _ o k => by
    simp only [expr, Expr.reading, h.isSafe_key, h.suffix_key, h.path, h.reading o]
  | .call f _ | .optCall _ f _ => by simp only [expr, Expr.reading, h.path]
  | .object props => by simp only [expr, Expr.reading, h.readings_properties props]
  | .paren e => by simp only [expr, h.reading_paren, Expr.reading, h.reading e]
  | .await e => by simp only [expr, Expr.reading, h.reading e]
  | .template _ es => by simp only [expr, Expr.reading, h.readings es]
  | .cond _ yes no => by simp only [expr, Expr.reading, h.reading yes, h.reading no]
  | .seq es => by simp only [expr, Expr.reading, h.lastReading es]
  | .assign _ _ v => by simp only [expr, Expr.reading, h.reading v]
  | .ident _ | .superCall _ | .importCall _ => by simp only [expr, Expr.reading]
  | .thisRef | .null | .bool _ | .num _ | .bigint _ | .str _ | .regex _ _ | .tagged _ _ _ | .array _
  | .func _ _ _ _ | .arrow _ _ _ | .classExpr _ _ _ | .unary _ _ | .update _ _ _ | .new _ _
  | .superMember _ | .yield _ _ | .newTarget | .hiddenName _ => by simp only [expr, Expr.reading]

theorem readings (h : R.Lawful) : ∀ es : List Expr, Expr.readings p look (R.exprs es) = Expr.readings p look es
  | [] => rfl
  | e :: r => by simp only [exprs, Expr.readings, h.reading e, h.readings r]

theorem lastReading (h : R.Lawful) : ∀ es : List Expr,
    Expr.lastReading p look (R.exprs es) = Expr.lastReading p look es
  | [] => rfl
  | [e] => by simp only [exprs, Expr.lastReading, h.reading e]
  | _ :: e :: r => by
    have htail := h.lastReading (e :: r)
    simp only [exprs, Expr.lastReading] at htail ⊢
    exact htail

theorem readings_properties (h : R.Lawful) : ∀ props : List Property,
    Property.readings p look (R.properties props) = Property.readings p look props
  | [] => rfl
  | .keyValue _ e :: r | .spread e :: r => by
    simp only [properties, property, Property.readings, h.reading e, h.readings_properties r]
  | .shorthand _ :: r | .cover _ _ :: r | .method _ _ _ _ :: r | .getter _ _ :: r | .setter _ _ _ :: r => by
    simp only [properties, property, Property.readings, h.readings_properties r]

end

end

section

variable {sink : String → Bool}

theorem piece_steps (h : R.Lawful) {x : Piece}
    (hpart : ∀ part, x.part? = some part → (R.node part.2).steps sink = (part.2.steps sink).map R.step) :
    (R.piece x).steps sink = (x.steps sink).map R.step := by
  cases x with
  | step st => rfl
  | walk n => exact hpart _ rfl
  | value key v =>
    have hv : (R.expr v).steps sink = (v.steps sink).map R.step := hpart _ rfl
    have hplace : KeyPlace.value ≠ .other := nofun
    simp only [piece, Piece.steps, h.name?_key hplace]
    split
    · split
      · rfl
      · exact hv
    · exact hv
  | shorthand name =>
    simp only [piece, Piece.steps]
    split <;> rfl

theorem key_layout (h : R.Lawful) (place : KeyPlace) (k : Key) :
    pieceSteps sink (R.key place k).layout = pieceSteps sink (k.layout.map R.piece) := by
  cases k with
  | str s => rcases h.text s with heq | heq <;> exact congrArg (fun k => pieceSteps sink k.layout) heq
  | computed e =>
    rw [key, h.steps_computed]
    simp [Key.layout, Expr.allSteps]
  | name _ | hidden _ | num _ | bigint _ => rfl

theorem property_layout (h : R.Lawful) (prop : Property) :
    pieceSteps sink (R.property prop).layout = pieceSteps sink (prop.layout.map R.piece) := by
  cases prop <;> simp [property, Property.layout, h.key_layout, piece]

theorem target_layout (h : R.Lawful) (plain : Bool) (t : Target) :
    pieceSteps sink ((R.target t).layout plain) = pieceSteps sink ((t.layout plain).map R.piece) := by
  cases t with
  | paren e => exact h.steps_parenTarget sink plain (R.expr e)
  | _ => simp [target, Target.layout, h.key_layout, piece, node, step, Step.mapExprs]

theorem expr_layout (h : R.Lawful) (e : Expr) :
    pieceSteps sink (R.expr e).layout = pieceSteps sink (e.layout.map R.piece) := by
  cases e with
  | object props =>
    simp only [expr, Expr.layout, properties_eq]
    induction props with
    | nil => rfl
    | cons prop props ih => simp [h.property_layout, ih]
  | assign op t v =>
    cases hpath : t.path? <;>
      simp [expr, Expr.layout, h.target_layout, h.path?, piece, step, Step.mapExprs, hpath]
  | paren e =>
    rw [expr, ← Expr.steps_eq, h.steps_paren]
    simp [Expr.layout, Expr.allSteps]
  | func name _ params body => cases name <;> simp [expr, Expr.layout, piece, step, Step.mapExprs]
  | yield _ e => cases e <;> simp [expr, Expr.layout]
  | member o k | optMember _ o k => simp [expr, Expr.layout, h.key_layout]
  | call f args | superCall args | importCall args | new f args | optCall _ f args =>
    simp [expr, Expr.layout, piece, step, Step.mapExprs, h.path]
  | template _ _ | tagged _ _ _ | array _ | arrow _ _ _ | unary _ _ | update _ _ _ | binary _ _ _
  | cond _ _ _ | seq _ | await _ => simp [expr, Expr.layout]
  | ident _ | thisRef | null | bool _ | num _ | bigint _ | str _ | regex _ _ | classExpr _ _ _
  | superMember _ | newTarget | hiddenName _ => rfl

end

end Lawful

theorem patProp_layout (role : PatRole) (prop : PatProp) :
    (R.patProp prop).layout role = (prop.layout role).map R.piece := by
  cases role <;> rcases prop with ⟨_, _⟩ | ⟨_, _ | _⟩ | _ <;> rfl

theorem pat_layout (role : PatRole) (p : Pat) : (R.pat p).layout role = (p.layout role).map R.piece := by
  cases p with
  | array elems =>
    simp only [pat, Pat.layout, patElems_eq]
    induction elems with
    | nil => rfl
    | cons elem elems ih => cases elem <;> simp [piece, node, ih]
  | object props => simp [pat, Pat.layout, patProp_layout, List.map_flatMap, List.flatMap_map]
  | ident _ | rest _ | withDefault _ _ | target _ => cases role <;> rfl

theorem declarator_layout (target : BindTarget) (decl : Declarator) :
    (R.declarator decl).layout target = (decl.layout target).map R.piece := by
  rcases decl with ⟨p, _ | e⟩ <;> rfl

theorem switchCase_layout (c : SwitchCase) : (R.switchCase c).layout = c.layout.map R.piece := by
  rcases c with ⟨_ | e, body⟩ <;> simp [switchCase, SwitchCase.layout]

theorem handler_layout (c : Catch) : (R.handler c).layout = c.layout.map R.piece := by
  rcases c with ⟨_ | p, body⟩ <;> simp [handler, Catch.layout]

theorem loopLayout_map (head : ForHead) (e : Expr) (body : Stmt) :
    loopLayout (R.forHead head) (R.expr e) (R.stmt body) = (loopLayout head e body).map R.piece := by
  cases head <;> rfl

theorem stmt_layout (s : Stmt) : (R.stmt s).layout = s.layout.map R.piece := by
  cases s with
  | ret e => cases e <;> simp [stmt, Stmt.layout]
  | ifElse test yes no => cases no <;> simp [stmt, Stmt.layout]
  | switch e cases =>
    simp [stmt, Stmt.layout, piece, step, Step.mapExprs, switchCase_layout, List.map_flatMap, List.flatMap_map]
  | tryCatch block handler finalizer =>
    cases handler <;> cases finalizer <;> simp [stmt, Stmt.layout, handler_layout]
  | forLoop init test update body =>
    cases init <;> cases test <;> cases update <;> simp [stmt, Stmt.layout, piece, step, Step.mapExprs]
  | forIn head e body | forOf _ head e body => exact loopLayout_map head e body
  | var kind decls => simp [stmt, Stmt.layout, declarator_layout, List.map_flatMap, List.flatMap_map]
  | expr _ | block _ | labeled _ _ | throw _ | whileLoop _ _ | doWhile _ _ | func _ _ _ _ =>
    simp [stmt, Stmt.layout]
  | classDecl _ _ _ | withObject _ _ | empty | debugger | breakTo _ | continueTo _ => rfl

namespace Lawful

theorem node_layout (h : R.Lawful) (sink : String → Bool) (n : Node) :
    pieceSteps sink (R.node n).layout = pieceSteps sink (n.layout.map R.piece) := by
  cases n with
  | expr e => exact h.expr_layout e
  | stmt s => exact congrArg _ (stmt_layout s)
  | pat role p => exact congrArg _ (pat_layout role p)

theorem node_steps (h : R.Lawful) (sink : String → Bool) (n : Node) :
    (R.node n).steps sink = (n.steps sink).map R.step :=
  n.steps_rewritten sink (h.node_layout sink) fun _ => h.piece_steps

theorem allSteps (h : R.Lawful) (sink : String → Bool) (script : Script) :
    Stmt.allSteps sink (R.stmts script) = (Stmt.allSteps sink script).map R.step := by
  induction script with
  | nil => rfl
  | cons s script ih =>
    rw [stmts, Stmt.allSteps, Stmt.allSteps, ih, List.map_append]
    exact congrArg (· ++ _) (h.node_steps sink (.stmt s))

end Lawful

end Rewriting

end Script

end DomFlow
