import DomFlow.Proofs.Correspondence
import DomFlow.Proofs.Footprint
import DomFlow.Script.Declared

/-! # Where names are bound

A declaration binds its names in the current scope or, with `var`, in the function around it, and an assignment
to an unbound name binds it globally. The names that a statement declares for either scope are read off the
statement. They are what a walk of the statement adds to the scopes that were there, besides globals that were
assigned unbound; and a name that is global already is never met unbound. -/

namespace DomFlow

namespace BindTarget

/-- Whether names that are declared in a scope of this kind are bound outside of it. -/
def escapes : BindTarget → ScopeKind → Bool
  | .function, .block => true
  | _, _ => false

/-- Whether they are bound outside of all of these scopes. -/
def escapesAll (target : BindTarget) : List ScopeKind → Bool
  | [] => true
  | kind :: stack => target.escapes kind && target.escapesAll stack

@[simp] theorem escapesAll_nil (target : BindTarget) : target.escapesAll [] = true := rfl

@[simp] theorem escapes_function (target : BindTarget) : target.escapes .function = false := by
  cases target <;> rfl

@[simp] theorem escapesAll_function (target : BindTarget) (stack : List ScopeKind) :
    target.escapesAll (.function :: stack) = false := by
  rw [escapesAll, escapes_function, Bool.false_and]

@[simp] theorem escapesAll_single (target : BindTarget) (kind : ScopeKind) :
    target.escapesAll [kind] = target.escapes kind :=
  Bool.and_true _

/-- Of the names that are declared in a block, those that are bound outside of it. -/
def outOfBlock (target : BindTarget) (names : List String) : List String :=
  if target.escapes .block then names else []

end BindTarget

namespace Script

def ForHead.declares (target : BindTarget) : ForHead → List String
  | .decl kind p _ => if kind.target = target then p.names else []
  | .target _ => []

mutual

/-- The names that a statement declares for a scope around it: for the current one by `let`, `const`, classes
and functions, outside of all scopes that the statement opens; for the function by `var`, also in blocks. -/
def Stmt.declares (target : BindTarget) : Stmt → List String
  | .var kind decls => if kind.target = target then declaratorNames decls else []
  | .func name _ _ _ | .classDecl name _ _ => if target = .current then [name] else []
  | .labeled _ body => body.declares target
  | .ifElse _ yes none => yes.declares target
  | .ifElse _ yes (some no) => yes.declares target ++ no.declares target
  | .whileLoop _ body => body.declares target
  | .doWhile body _ => body.declares target
  | .block body => target.outOfBlock (Stmt.allDeclares target body)
  | .switch _ cases => target.outOfBlock (SwitchCase.allDeclares target cases)
  | .tryCatch block handler finalizer => target.outOfBlock
      (Stmt.allDeclares target block ++
        (match handler with
          | some c => c.declares target
          | none => []) ++
        (match finalizer with
          | some body => Stmt.allDeclares target body
          | none => []))
  | .forLoop init _ _ body => target.outOfBlock
      ((match init with
        | some s => s.declares target
        | none => []) ++ body.declares target)
  | .forIn head _ body => target.outOfBlock (head.declares target ++ body.declares target)
  | .forOf _ head _ body => target.outOfBlock (head.declares target ++ body.declares target)
  | .expr _ | .empty | .debugger | .withObject _ _ | .ret _ | .breakTo _ | .continueTo _ | .throw _ => []

def Stmt.allDeclares (target : BindTarget) : List Stmt → List String
  | [] => []
  | s :: r => s.declares target ++ Stmt.allDeclares target r

def SwitchCase.allDeclares (target : BindTarget) : List SwitchCase → List String
  | [] => []
  | .mk _ body :: r => Stmt.allDeclares target body ++ SwitchCase.allDeclares target r

def Catch.declares (target : BindTarget) : Catch → List String
  | .mk _ body => Stmt.allDeclares target body

end

/-- Of the names of a pattern, those that are declared for a target. -/
def PatRole.declares (target : BindTarget) (names : List String) : PatRole → List String
  | .declared target' => if target' = target then names else []
  | .assigned _ => []

@[simp] theorem PatRole.declares_nil (target : BindTarget) (role : PatRole) :
    role.declares target [] = [] := by
  cases role <;> simp [PatRole.declares]

theorem PatRole.declares_append (target : BindTarget) (role : PatRole) (a b : List String) :
    role.declares target (a ++ b) = role.declares target a ++ role.declares target b := by
  cases role with
  | declared target' =>
    simp only [PatRole.declares]
    split
    · rfl
    · rfl
  | assigned _ => rfl

/-- The names that a node declares for a scope around it. -/
def Node.declares (target : BindTarget) : Node → List String
  | .expr _ => []
  | .stmt s => s.declares target
  | .pat role p => role.declares target p.names

@[simp] theorem Node.declares_expr (target : BindTarget) (e : Expr) : (Node.expr e).declares target = [] := rfl

@[simp] theorem Node.declares_stmt (target : BindTarget) (s : Stmt) :
    (Node.stmt s).declares target = s.declares target := rfl

@[simp] theorem Node.declares_pat (target : BindTarget) (role : PatRole) (p : Pat) :
    (Node.pat role p).declares target = role.declares target p.names := rfl

@[simp] theorem ForHead.declares_pattern (target : BindTarget) (head : ForHead) :
    head.pattern.declares target = head.declares target := by
  cases head <;> rfl

end Script

namespace Step

/-- The kinds of the scopes that are open after a step, the latest first. -/
@[simp] def after (stack : List ScopeKind) : Step → List ScopeKind
  | .enter kind => kind :: stack
  | .leave => stack.tail
  | _ => stack

/-- The name that a step declares, if it is bound outside of the scopes that are open. -/
@[simp] def declares (target : BindTarget) (stack : List ScopeKind) : Step → List String
  | .declare target' name => if target' = target ∧ target.escapesAll stack then [name] else []
  | _ => []

end Step

/-- The names that steps declare for a scope outside of those that are open. -/
def declared (target : BindTarget) : List ScopeKind → List Step → List String
  | _, [] => []
  | stack, st :: steps => st.declares target stack ++ declared target (st.after stack) steps

section

variable {sink : String → Bool} {target : BindTarget} {stack : List ScopeKind} {steps : List Step}

theorem declared_append (a b : List Step) : declared target stack (a ++ b) =
    declared target stack a ++ declared target (a.foldl Step.after stack) b := by
  induction a generalizing stack with
  | nil => rfl
  | cons st a ih => simp [declared, ih]

theorem Nested.foldl_after (h : Nested sink steps) : steps.foldl Step.after stack = stack := by
  induction h generalizing stack with
  | nil => rfl
  | append _ _ iha ihb => rw [List.foldl_append, iha, ihb]
  | scope _ _ ih | clean _ ih | note _ _ ih | noteDefault _ _ ih => simp [Step.after, ih]
  | declare _ _ | assign _ _ | checkCall _ _ | checkAssign _ _ | checkProperty _ _ => rfl

theorem Nested.declared_append (h : Nested sink steps) (rest : List Step) :
    declared target stack (steps ++ rest) = declared target stack steps ++ declared target stack rest := by
  rw [DomFlow.declared_append, h.foldl_after]

theorem Nested.declared_scope (h : Nested sink steps) (kind : ScopeKind) :
    declared target stack ([Step.enter kind] ++ steps ++ [Step.leave]) =
      declared target (kind :: stack) steps := by
  simp [declared, Step.declares, Step.after, h.declared_append]

/-- Open scopes hold back either all of the names or none. -/
theorem Nested.declared_eq (h : Nested sink steps) : declared target stack steps =
    if target.escapesAll stack then declared target [] steps else [] := by
  induction h generalizing stack with
  | nil => simp only [declared, ite_self]
  | append ha hb iha ihb =>
    rw [ha.declared_append, ha.declared_append, iha, ihb]
    split
    · rfl
    · rfl
  | scope kind ha ih =>
    rw [ha.declared_scope, ha.declared_scope, ih, @ih [kind]]
    cases hkind : target.escapes kind <;> simp [BindTarget.escapesAll, hkind]
  | clean ha ih | note _ ha ih | noteDefault _ ha ih =>
    simpa [declared, Step.declares, Step.after, ha.declared_append] using ih
  | declare target' name =>
    by_cases htarget : target' = target <;> simp [declared, Step.declares, BindTarget.escapesAll, htarget]
  | assign _ _ | checkCall _ _ | checkAssign _ _ | checkProperty _ _ => simp [declared, Step.declares]

end

namespace Script

namespace Piece

@[simp] def after (stack : List ScopeKind) : Piece → List ScopeKind
  | .step st => st.after stack
  | _ => stack

@[simp] def declares (target : BindTarget) (stack : List ScopeKind) : Piece → List String
  | .step st => st.declares target stack
  | .walk n => if target.escapesAll stack then n.declares target else []
  | .value _ _ | .shorthand _ => []

end Piece

/-- The names that pieces declare if their parts declare their own. -/
@[simp] def pieceDeclares (target : BindTarget) : List ScopeKind → List Piece → List String
  | _, [] => []
  | stack, piece :: pieces => piece.declares target stack ++ pieceDeclares target (piece.after stack) pieces

section

variable {sink : String → Bool} {target : BindTarget} {stack : List ScopeKind}

theorem declared_pieceSteps {pieces : List Piece}
    (h : ∀ piece ∈ pieces, ∀ part, piece.part? = some part →
      declared target [] (part.2.steps sink) = part.2.declares target) :
    declared target stack (pieceSteps sink pieces) = pieceDeclares target stack pieces := by
  induction pieces generalizing stack with
  | nil => rfl
  | cons piece pieces ih =>
    have hrest (stack : List ScopeKind) := @ih stack fun piece' hpiece' => h piece' (.tail _ hpiece')
    have hpart := h piece (.head _)
    rw [pieceSteps_cons, pieceDeclares]
    cases piece with
    | step st => simp [Piece.steps, declared, hrest, Piece.declares, Piece.after]
    | walk n =>
      have hn := n.steps_nested sink
      rw [Piece.steps, hn.declared_append, hrest, hn.declared_eq, hpart _ rfl]
      rfl
    | value key v =>
      have hv : Nested sink (v.steps sink) := v.steps_nested
      have hnone : declared target [] (v.steps sink) = [] := hpart _ rfl
      have hwalk : declared target stack (v.steps sink ++ pieceSteps sink pieces) =
          pieceDeclares target stack pieces := by
        rw [hv.declared_append, hv.declared_eq, hnone, ite_self, hrest, List.nil_append]
      simp only [Piece.steps]
      split
      · split
        · simp [declared, Step.declares, Step.after, hrest, Piece.declares, Piece.after]
        · exact hwalk
      · exact hwalk
    | shorthand name =>
      simp only [Piece.steps]
      split <;> simp [declared, Step.declares, Step.after, hrest, Piece.declares, Piece.after]

@[simp] theorem pieceDeclares_append (a b : List Piece) : pieceDeclares target stack (a ++ b) =
    pieceDeclares target stack a ++ pieceDeclares target (a.foldl Piece.after stack) b := by
  induction a generalizing stack with
  | nil => rfl
  | cons piece a ih => simp [pieceDeclares, ih]

@[simp] theorem foldl_after_walkExprs (es : List Expr) : (walkExprs es).foldl Piece.after stack = stack := by
  induction es with
  | nil => rfl
  | cons e es ih => exact ih

@[simp] theorem foldl_after_walkStmts (ss : List Stmt) : (walkStmts ss).foldl Piece.after stack = stack := by
  induction ss with
  | nil => rfl
  | cons s ss ih => exact ih

@[simp] theorem pieceDeclares_walkExprs (es : List Expr) :
    pieceDeclares target stack (walkExprs es) = [] := by
  induction es with
  | nil => rfl
  | cons e es ih => simpa [walkExprs] using ih

@[simp] theorem pieceDeclares_walkStmts (ss : List Stmt) : pieceDeclares target stack (walkStmts ss) =
    if target.escapesAll stack then Stmt.allDeclares target ss else [] := by
  induction ss with
  | nil => simp [walkStmts, Stmt.allDeclares]
  | cons s ss ih =>
    have hcons : pieceDeclares target stack (walkStmts (s :: ss)) =
        (Piece.walk (.stmt s)).declares target stack ++ pieceDeclares target stack (walkStmts ss) := rfl
    rw [hcons, ih, Stmt.allDeclares]
    simp only [Piece.declares, Node.declares_stmt]
    split
    · rfl
    · rfl

theorem foldl_after_flatMap {α : Type} {g : α → List Piece}
    (h : ∀ x, (g x).foldl Piece.after stack = stack) (xs : List α) :
    (xs.flatMap g).foldl Piece.after stack = stack := by
  induction xs with
  | nil => rfl
  | cons x xs ih => rw [List.flatMap_cons, List.foldl_append, h, ih]

/-- Where the names of a list are those of its members in order, and those of each member are what its pieces
declare, the same holds of the list. -/
theorem pieceDeclares_of_members {α : Type} {g : α → List Piece} {f : List α → List String}
    (hafter : ∀ x, (g x).foldl Piece.after stack = stack) (hnil : f [] = [])
    (hcons : ∀ x xs, f (x :: xs) = f [x] ++ f xs) (h : ∀ x, pieceDeclares target stack (g x) = f [x])
    (xs : List α) : pieceDeclares target stack (xs.flatMap g) = f xs := by
  induction xs with
  | nil => exact hnil.symm
  | cons x xs ih => rw [List.flatMap_cons, pieceDeclares_append, hafter, h, ih, ← hcons]

@[simp] theorem foldl_after_paramLayout (params : List Pat) :
    (paramLayout params).foldl Piece.after stack = stack :=
  foldl_after_flatMap (fun _ => rfl) params

/-- Parameters are bound in the scope that is opened for them. -/
@[simp] theorem pieceDeclares_paramLayout (kind : ScopeKind) (params : List Pat) :
    pieceDeclares target (kind :: stack) (paramLayout params) = [] := by
  refine pieceDeclares_of_members (f := fun _ => []) (fun _ => rfl) rfl (fun _ _ => rfl) (fun p => ?_) params
  cases target <;> simp [PatRole.declares, BindTarget.escapesAll, BindTarget.escapes]

@[simp] theorem foldl_after_scopeLayout (kind : ScopeKind) (params : List Pat) (body : List Stmt) :
    (scopeLayout kind params body).foldl Piece.after stack = stack := by
  simp [scopeLayout]

@[simp] theorem pieceDeclares_scopeLayout (kind : ScopeKind) (params : List Pat) (body : List Stmt) :
    pieceDeclares target stack (scopeLayout kind params body) =
      if target.escapesAll (kind :: stack) then Stmt.allDeclares target body else [] := by
  simp [scopeLayout]

@[simp] theorem foldl_after_defineLayout (name : String) :
    (defineLayout name).foldl Piece.after stack = stack := rfl

@[simp] theorem pieceDeclares_defineLayout (name : String) :
    pieceDeclares target stack (defineLayout name) =
      if target = .current ∧ target.escapesAll stack then [name] else [] := by
  cases target <;> simp [defineLayout, defineSteps]

@[simp] theorem Key.foldl_after (k : Key) : k.layout.foldl Piece.after stack = stack := by
  cases k <;> simp [Key.layout]

@[simp] theorem Key.pieceDeclares_eq (k : Key) : pieceDeclares target stack k.layout = [] := by
  cases k <;> simp [Key.layout]

theorem Property.foldl_after (prop : Property) : prop.layout.foldl Piece.after stack = stack := by
  cases prop <;> simp [Property.layout]

theorem Property.pieceDeclares_eq (prop : Property) : pieceDeclares target stack prop.layout = [] := by
  cases prop <;> simp [Property.layout]

theorem Target.pieceDeclares_eq (plain : Bool) (t : Target) :
    pieceDeclares target stack (t.layout plain) = [] := by
  cases t <;> simp [Target.layout, PatRole.declares]

theorem Expr.pieceDeclares_eq (e : Expr) : pieceDeclares target [] e.layout = [] := by
  cases e with
  | object props =>
    exact pieceDeclares_of_members (f := fun _ => []) Property.foldl_after rfl (fun _ _ => rfl)
      Property.pieceDeclares_eq props
  | func name _ params body => cases name <;> simp [Expr.layout]
  | assign op t v =>
    cases hpath : t.path? <;> simp [Expr.layout, hpath, t.pieceDeclares_eq]
  | _ => simp [Expr.layout]

theorem PatProp.foldl_after (role : PatRole) (prop : PatProp) :
    (prop.layout role).foldl Piece.after stack = stack := by
  cases role <;> rcases prop with ⟨_, _⟩ | ⟨_, _ | _⟩ | _ <;>
    simp [PatProp.layout, PatRole.withDefault, PatRole.write]

theorem PatProp.pieceDeclares_eq (role : PatRole) (prop : PatProp) :
    pieceDeclares target [] (prop.layout role) = role.declares target (PatProp.allNames [prop]) := by
  cases role <;> rcases prop with ⟨_, _⟩ | ⟨_, _ | _⟩ | _ <;>
    simp [PatProp.layout, PatRole.withDefault, PatRole.write, PatRole.declares, PatProp.allNames]

theorem Pat.pieceDeclares_eq (role : PatRole) (p : Pat) :
    pieceDeclares target [] (p.layout role) = role.declares target p.names := by
  cases p with
  | array elems =>
    refine pieceDeclares_of_members (f := fun elems => role.declares target (Pat.allNames elems))
      (fun elem => ?_) ?_ (fun elem elems => ?_) (fun elem => ?_) elems
    · cases elem <;> rfl
    · simp [Pat.allNames]
    · rw [← role.declares_append target]
      cases elem <;> simp [Pat.allNames]
    · cases elem <;> simp [Pat.allNames]
  | object props =>
    refine pieceDeclares_of_members (f := fun props => role.declares target (PatProp.allNames props))
      (PatProp.foldl_after role) ?_ (fun prop props => ?_) (PatProp.pieceDeclares_eq role) props
    · simp [PatProp.allNames]
    · rw [← role.declares_append target]
      cases prop <;> simp [PatProp.allNames]
  | ident _ | rest _ | withDefault _ _ | target _ =>
    cases role <;> simp [Pat.layout, Pat.names, PatRole.withDefault, PatRole.write, PatRole.declares]

theorem Declarator.foldl_after (bind : BindTarget) (d : Declarator) :
    (d.layout bind).foldl Piece.after stack = stack := by
  rcases d with ⟨p, _ | e⟩ <;> rfl

theorem Declarator.pieceDeclares_eq (bind : BindTarget) (d : Declarator) :
    pieceDeclares target [] (d.layout bind) = if bind = target then declaratorNames [d] else [] := by
  rcases d with ⟨p, _ | e⟩ <;> simp [Declarator.layout, PatRole.declares, declaratorNames, Declarator.names]

theorem SwitchCase.pieceDeclares_eq (cases : List SwitchCase) :
    pieceDeclares target stack (cases.flatMap SwitchCase.layout) =
      if target.escapesAll stack then SwitchCase.allDeclares target cases else [] := by
  refine pieceDeclares_of_members
    (f := fun cs => if target.escapesAll stack then SwitchCase.allDeclares target cs else [])
    (fun c => ?_) ?_ (fun c cs => ?_) (fun c => ?_) cases
  · cases c
    simp [SwitchCase.layout]
  · simp [SwitchCase.allDeclares]
  · cases c
    split <;> simp [SwitchCase.allDeclares]
  · cases c
    simp [SwitchCase.layout, SwitchCase.allDeclares]

theorem Stmt.pieceDeclares_eq (s : Stmt) : pieceDeclares target [] s.layout = s.declares target := by
  cases s with
  | var kind decls =>
    rw [Stmt.declares]
    refine pieceDeclares_of_members (f := fun ds => if kind.target = target then declaratorNames ds else [])
      (Declarator.foldl_after _) ?_ (fun d ds => ?_) (Declarator.pieceDeclares_eq _) decls
    · simp [declaratorNames]
    · split <;> simp [declaratorNames]
  | ifElse _ _ no => cases no <;> simp [Stmt.layout, Stmt.declares, Stmt.allDeclares]
  | tryCatch body handler finalizer =>
    rcases handler with _ | ⟨param, caught⟩ <;> cases finalizer <;> cases target <;>
      simp [Stmt.layout, Stmt.declares, Catch.layout, Catch.declares, BindTarget.outOfBlock, BindTarget.escapes]
  | forLoop init _ _ _ =>
    cases init <;> cases target <;>
      simp [Stmt.layout, Stmt.declares, Stmt.allDeclares, BindTarget.outOfBlock, BindTarget.escapes]
  | forIn head _ _ | forOf _ head _ _ =>
    cases target <;> simp [Stmt.layout, loopLayout, Stmt.declares, BindTarget.outOfBlock, BindTarget.escapes]
  | _ => simp [Stmt.layout, Stmt.declares, Stmt.allDeclares, BindTarget.outOfBlock, SwitchCase.pieceDeclares_eq]

theorem Node.pieceDeclares_eq (n : Node) : pieceDeclares target [] n.layout = n.declares target := by
  cases n with
  | expr e => exact e.pieceDeclares_eq
  | stmt s => exact s.pieceDeclares_eq
  | pat role p => exact p.pieceDeclares_eq role

/-- The steps of a node declare what is read off the node. -/
theorem Node.declared_steps (n : Node) : declared target [] (n.steps sink) = n.declares target := by
  induction n using Node.induction with
  | _ n ih =>
    rw [n.steps_eq, declared_pieceSteps fun piece hpiece part hpart =>
      ih part (Node.part_of_piece hpiece hpart), n.pieceDeclares_eq]

end

end Script

namespace ScopeTree

variable {t u : ScopeTree}

theorem IsWrite.mem_names {i : ScopeId} {v : Variable} (h : t.IsWrite i v u) {k : ScopeId} {name : String} :
    name ∈ u.names k ↔ name ∈ t.names k ∨ (k = i ∧ name = v.name) := by
  rw [mem_names_iff, mem_names_iff, h.own?]
  split
  next hwritten => simp [hwritten.1.symm, hwritten.2]
  next hother =>
    have hother' : ¬ (k = i ∧ name = v.name) := fun hk => hother ⟨hk.1.symm, hk.2⟩
    simp [hother']

@[simp] theorem names_create (t : ScopeTree) (kind : ScopeKind) (parent k : ScopeId) :
    (t.create kind parent).1.names k = t.names k := by
  simp [names]

theorem WellFormed.functionScope_lt (h : t.WellFormed) {i : ScopeId} (hi : i < t.size) :
    t.functionScope i < t.size := by
  obtain ⟨j, -, rfl, hj⟩ := h.isTree.function_found i hi
  exact (t.lt_size_iff _).mpr hj

end ScopeTree

namespace Tracker

variable {k : Tracker}

theorem Placed.scopeOf_lt (h : k.Placed) (target : BindTarget) : k.scopeOf target < k.scopes.size := by
  cases target with
  | current => exact h.current_lt
  | function => exact h.scopes.wellFormed.functionScope_lt h.current_lt

/-- In a scope that has been opened, a declaration binds in the new scope or where it would have bound before,
as the kind of the scope says. -/
theorem Placed.scopeOf_enter (h : k.Placed) (kind : ScopeKind) (target : BindTarget) :
    (k.enter kind).scopeOf target =
      if target.escapes kind then k.scopeOf target else k.scopes.size := by
  have hcreated := h.enter kind
  have hdescends := hcreated.scopes.wellFormed.descends
  cases target with
  | current => cases kind <;> rfl
  | function =>
    have hold : (k.enter kind).scopes.functionScope k.current = k.scopes.functionScope k.current :=
      (k.scopes.extends_create kind k.current).functionScope h.scopes.wellFormed hdescends h.current_lt
    have hkind : (k.enter kind).scopes.kind k.scopes.size = kind := by
      simp [Tracker.enter, ScopeTree.kind_create]
    have hparent : (k.enter kind).scopes.parent? k.scopes.size = some k.current := by
      simp [Tracker.enter, ScopeTree.parent?_create]
    show (k.enter kind).scopes.functionScope k.scopes.size = _
    rw [hdescends.functionScope_eq, hkind, hparent, Option.map_some, Option.getD_some, hold]
    cases kind <;> rfl

end Tracker

namespace WalkState

variable {p : Patterns}

/-- The name that a step binds globally because it assigns it unbound. -/
def created (s : WalkState) : Step → List String
  | .assign _ name => if (s.tracker.lookup? name).isSome then [] else [name]
  | _ => []

/-- The names that steps bind globally one after another. -/
def creates (p : Patterns) (s : WalkState) : List Step → List String
  | [] => []
  | st :: steps => s.created st ++ (s.step p st).creates p steps

theorem creates_append (a b : List Step) (s : WalkState) :
    s.creates p (a ++ b) = s.creates p a ++ (s.run p a).creates p b := by
  induction a generalizing s with
  | nil => rfl
  | cons st a ih => rw [List.cons_append, creates, ih, creates, run_cons, List.append_assoc]

/-- Such a name is put down as used unbound, and it is written. -/
theorem created_of_mem {s : WalkState} {st : Step} {name : String} (h : name ∈ s.created st) :
    name ∈ s.met p st ∧ name ∈ st.writes := by
  cases st with
  | assign plain n =>
    simp only [created, met, Step.writes] at h ⊢
    split at h
    · simp at h
    next hunbound => simpa [hunbound] using h
  | _ => simp [created] at h

theorem creates_of_mem {steps : List Step} {s : WalkState} {name : String} (h : name ∈ s.creates p steps) :
    name ∈ s.meets p steps ∧ ∃ st ∈ steps, name ∈ st.writes := by
  induction steps generalizing s with
  | nil => simp [creates] at h
  | cons st steps ih =>
    rw [creates, List.mem_append] at h
    rw [meets, List.mem_append]
    rcases h with h | h
    · exact ⟨.inl (created_of_mem h).1, st, .head _, (created_of_mem (p := p) h).2⟩
    · obtain ⟨hmet, st', hst', hwrites⟩ := ih h
      exact ⟨.inr hmet, st', .tail _ hst', hwrites⟩

/-- Whether steps bind a name in a scope that is there, as one that they declare for it or as a new global. -/
def Binds (p : Patterns) (s : WalkState) (steps : List Step) (k : ScopeId) (name : String) : Prop :=
  (∃ target, k = s.tracker.scopeOf target ∧ name ∈ declared target [] steps) ∨
    (k = ScopeTree.root ∧ name ∈ s.creates p steps)

theorem mem_names_step {s : WalkState} (hs : s.tracker.Placed) (st : Step) {k : ScopeId} {name : String} :
    name ∈ (s.step p st).tracker.scopes.names k ↔
      name ∈ s.tracker.scopes.names k ∨ s.Binds p [st] k name := by
  rw [step_tracker]
  cases st with
  | enter kind => simp [Binds, declared, creates, created, Tracker.enter]
  | declare target n =>
    rw [(isWrite_declare (hs.scopeOf_lt target) n s.latest).mem_names]
    simp [Binds, declared, creates, created, Variable.declared]
  | assign plain n =>
    show name ∈ (s.assign plain n s.latest).tracker.scopes.names k ↔ _
    cases hv : s.tracker.lookup? n with
    | none =>
      rw [assign_tracker_of_unbound hv,
        (ScopeTree.isWrite_put hs.scopes.wellFormed.root_lt _).mem_names]
      simp [Binds, declared, creates, created, hv, Variable.declared]
    | some v =>
      obtain ⟨j, hj, hown⟩ := ScopeTree.own?_of_lookup? hv
      have howner : s.tracker.scopes.ownerOf s.tracker.current n = j := by simp [ScopeTree.ownerOf, hj]
      have hbound : n ∈ s.tracker.scopes.names j := by simp [ScopeTree.mem_names_iff, hown]
      rw [(isWrite_assign hs.scopes.wellFormed.root_lt plain n s.latest).mem_names, howner,
        Variable.assigned_name]
      have hkept : k = j ∧ name = n → name ∈ s.tracker.scopes.names k := by
        rintro ⟨rfl, rfl⟩
        exact hbound
      simpa [Binds, declared, creates, created, hv] using hkept
  | leave | clean | note _ | noteDefault _ | forget | checkCall _ _ | checkAssign _ _ | checkProperty _ _ =>
    simp [Binds, declared, creates, created]

theorem scopeOf_run {sink : String → Bool} {steps : List Step} (h : Nested sink steps) {s : WalkState}
    (hs : s.tracker.Placed) (target : BindTarget) :
    (s.run p steps).tracker.scopeOf target = s.tracker.scopeOf target := by
  cases target with
  | current => exact run_current h s
  | function =>
    show (s.run p steps).tracker.scopes.functionScope (s.run p steps).tracker.current = _
    rw [run_current h s]
    exact (run_extends steps s).functionScope hs.scopes.wellFormed
      (placed_run hs steps).scopes.wellFormed.descends hs.current_lt

section

variable {sink : String → Bool} {a b : List Step} {s : WalkState} {k : ScopeId} {name : String}

theorem binds_append (ha : Nested sink a) (hs : s.tracker.Placed) :
    s.Binds p (a ++ b) k name ↔ s.Binds p a k name ∨ (s.run p a).Binds p b k name := by
  simp only [Binds, scopeOf_run ha hs, ha.declared_append, creates_append, List.mem_append, and_or_left,
    exists_or]
  exact or_or_or_comm

/-- The scope that is opened is not `k`, so what is bound in it does not count. -/
theorem binds_scope (ha : Nested sink a) (hs : s.tracker.Placed) (hk : k < s.tracker.scopes.size)
    (kind : ScopeKind) : s.Binds p ([Step.enter kind] ++ a ++ [Step.leave]) k name ↔
      (s.step p (.enter kind)).Binds p a k name := by
  have hscope (target : BindTarget) :
      k = s.tracker.scopeOf target ∧ name ∈ declared target [] ([Step.enter kind] ++ a ++ [Step.leave]) ↔
        k = (s.tracker.enter kind).scopeOf target ∧ name ∈ declared target [] a := by
    have hheld : declared target [kind] a = if target.escapes kind then declared target [] a else [] := by
      rw [ha.declared_eq, BindTarget.escapesAll_single]
    rw [ha.declared_scope, hheld, hs.scopeOf_enter]
    split
    · rfl
    · simp [Nat.ne_of_lt hk]
  have hcreates : s.creates p ([Step.enter kind] ++ a ++ [Step.leave]) =
      (s.step p (.enter kind)).creates p a := by
    simp only [creates_append, creates, created, run_cons, run_nil, List.append_nil, List.nil_append]
  simp only [Binds, step_tracker, hscope, hcreates]

/-- A note that is forgotten at the end binds nothing itself. -/
theorem binds_noted (ha : Nested sink a) {st : Step} (htracker : (s.step p st).tracker = s.tracker)
    (hcreated : s.created st = []) (hafter : st.after [] = [])
    (hdeclares : ∀ target, st.declares target [] = []) :
    s.Binds p ([st] ++ a ++ [Step.forget]) k name ↔ (s.step p st).Binds p a k name := by
  have hdeclared (target : BindTarget) :
      declared target [] ([st] ++ a ++ [Step.forget]) = declared target [] a := by
    show st.declares target [] ++ declared target (st.after []) (a ++ [Step.forget]) = _
    rw [hdeclares, hafter, List.nil_append, ha.declared_append]
    exact List.append_nil _
  have hcreates : s.creates p ([st] ++ a ++ [Step.forget]) = (s.step p st).creates p a := by
    show s.created st ++ (s.step p st).creates p (a ++ [Step.forget]) = _
    rw [hcreated, List.nil_append, creates_append]
    exact List.append_nil _
  simp only [Binds, htracker, hdeclared, hcreates]

end

/-- What nested steps bind in a scope that was there before them. -/
theorem mem_names_run {sink : String → Bool} {steps : List Step} (h : Nested sink steps) {s : WalkState}
    (hs : s.tracker.Placed) {k : ScopeId} (hk : k < s.tracker.scopes.size) {name : String} :
    name ∈ (s.run p steps).tracker.scopes.names k ↔
      name ∈ s.tracker.scopes.names k ∨ s.Binds p steps k name := by
  induction h generalizing s with
  | nil => simp [Binds, declared, creates]
  | @append a b ha hb iha ihb =>
    have hk' : k < (s.run p a).tracker.scopes.size := Nat.lt_of_lt_of_le hk (run_extends a s).size_le
    rw [run_append, ihb (placed_run hs a) hk', iha hs hk, binds_append ha hs, or_assoc]
  | @scope a kind ha ih =>
    have hk' : k < (s.step p (.enter kind)).tracker.scopes.size :=
      Nat.lt_of_lt_of_le hk (s.tracker.scopes.extends_create kind _).size_le
    have hleave : (s.run p ([Step.enter kind] ++ a ++ [Step.leave])).tracker.scopes =
        ((s.step p (.enter kind)).run p a).tracker.scopes := by
      rw [run_append, run_append]
      exact leave_scopes _
    have hnames : (s.step p (.enter kind)).tracker.scopes.names k = s.tracker.scopes.names k :=
      s.tracker.scopes.names_create kind _ k
    rw [hleave, ih (placed_step hs _) hk', hnames, binds_scope ha hs hk]
  | clean ha ih | note _ ha ih | noteDefault _ ha ih =>
    rw [binds_noted ha (step_tracker s _) rfl rfl fun _ => rfl, run_append, run_append]
    simp only [run_cons, run_nil, step_tracker]
    rw [ih (placed_step hs _) (by simpa only [step_tracker] using hk), step_tracker]
  | declare _ _ | assign _ _ | checkCall _ _ | checkAssign _ _ | checkProperty _ _ =>
    rw [run_cons, run_nil]
    exact mem_names_step hs _

theorem lookup?_of_global {s : WalkState} (hs : s.tracker.Placed) {name : String}
    (h : name ∈ s.tracker.scopes.names ScopeTree.root) : (s.tracker.lookup? name).isSome = true := by
  have hroot : ScopeTree.root ∈ s.tracker.scopes.ancestors s.tracker.current :=
    List.mem_of_getLast? (hs.scopes.wellFormed.getLast?_ancestors hs.current_lt)
  have hresolve : (s.tracker.scopes.resolve? s.tracker.current name).isSome = true :=
    List.find?_isSome.mpr ⟨_, hroot, ScopeTree.mem_names_iff.mp h⟩
  obtain ⟨j, hj⟩ := Option.isSome_iff_exists.mp hresolve
  have hown := List.find?_some hj
  simpa [Tracker.lookup?, ScopeTree.lookup?, hj] using hown

theorem bound_of_reading {look : String → Option Variable} {name : String} (h : (look name).isSome = true)
    (e : Script.Expr) : name ∉ (e.reading p look).unbound := by
  intro hname
  simp [(e.of_mem_unbound hname).2] at h

theorem global_not_met {s : WalkState} (hs : s.tracker.Placed) {name : String}
    (h : name ∈ s.tracker.scopes.names ScopeTree.root) (st : Step) : name ∉ s.met p st := by
  have hbound := lookup?_of_global hs h
  have hread (e : Script.Expr) : name ∉ (s.reading p e).unbound := bound_of_reading hbound e
  cases st with
  | note e | checkProperty _ e => exact hread e
  | noteDefault e =>
    simp only [met]
    split
    · simp
    · exact hread e
  | assign plain n =>
    simp only [met]
    split
    · simp
    next hunbound =>
      simp only [List.mem_singleton]
      rintro rfl
      exact hunbound hbound
  | checkCall callee args =>
    simp only [met]
    split
    · simp [hread]
    · simp
  | enter _ | leave | clean | forget | declare _ _ | checkAssign _ _ => simp [met]

theorem global_not_meets {steps : List Step} {s : WalkState} (hs : s.tracker.Placed) {name : String}
    (h : name ∈ s.tracker.scopes.names ScopeTree.root) : name ∉ s.meets p steps := by
  induction steps generalizing s with
  | nil => simp [meets]
  | cons st steps ih =>
    rw [meets, List.mem_append, not_or]
    exact ⟨global_not_met hs h st, ih (placed_step hs st) ((s.step_scopes_grow st).names _ h)⟩

/-- What a walk of a statement binds in the scopes that were there: in the current one what the statement
declares outside of scopes of its own, in the function what it declares by `var` outside of functions, and
globally the names that it assigns unbound, each of which is put down. A name that is global already is not. -/
theorem walk_binds_exactly (p : Patterns) (s : WalkState) (hs : s.tracker.Placed) (stmt : Script.Stmt) :
    let t := s.tracker.scopes
    let s' := s.visit p (.stmt stmt)
    (∃ globals : List String,
      (∀ x ∈ globals,
        x ∉ t.names ScopeTree.root ∧ x ∈ s'.accesses ∧ (Script.Node.stmt stmt).Writes x) ∧
      ∀ k < t.size, ∀ x, x ∈ s'.tracker.scopes.names k ↔
        x ∈ t.names k ∨
        (k = s.tracker.current ∧ x ∈ stmt.declares .current) ∨
        (k = t.functionScope s.tracker.current ∧ x ∈ stmt.declares .function) ∨
        (k = ScopeTree.root ∧ x ∈ globals)) ∧
    ∀ x ∈ t.names ScopeTree.root, x ∈ s'.accesses → x ∈ s.accesses := by
  intro t s'
  have hnested := Script.Node.steps_nested p.isSink (.stmt stmt)
  refine ⟨⟨s.creates p ((Script.Node.stmt stmt).steps p.isSink), fun x hx => ?_, fun k hk x => ?_⟩, ?_⟩
  · obtain ⟨hmet, st, hst, hwrites⟩ := creates_of_mem hx
    exact ⟨fun hglobal => global_not_meets hs hglobal hmet, (mem_accesses_run s).mpr (.inr hmet),
      (Script.Node.names_of_mem_steps hst).1 x hwrites⟩
  · have hbinds : x ∈ s'.tracker.scopes.names k ↔
        x ∈ t.names k ∨ s.Binds p ((Script.Node.stmt stmt).steps p.isSink) k x :=
      mem_names_run hnested hs hk
    have htargets : (∃ target, k = s.tracker.scopeOf target ∧
          x ∈ declared target [] ((Script.Node.stmt stmt).steps p.isSink)) ↔
        (k = s.tracker.current ∧ x ∈ stmt.declares .current) ∨
          (k = t.functionScope s.tracker.current ∧ x ∈ stmt.declares .function) := by
      simp only [Script.Node.declared_steps, Script.Node.declares_stmt]
      constructor
      · rintro ⟨target, hk, hx⟩
        cases target with
        | current => exact .inl ⟨hk, hx⟩
        | function => exact .inr ⟨hk, hx⟩
      · rintro (h | h)
        · exact ⟨.current, h⟩
        · exact ⟨.function, h⟩
    rw [Binds, htargets, or_assoc] at hbinds
    exact hbinds
  · intro x hglobal hx
    exact ((mem_accesses_run s).mp hx).resolve_right (global_not_meets hs hglobal)

/-- `if (t) for (var [a, {b = (g = null)}] of xs) { let c = function () { var e; }; } else function f() {}` -/
def declaresDeep : Script.Stmt :=
  .ifElse (.ident "t")
    (.forOf false
      (.decl .var
        (.array [some (.ident "a"),
          some (.object [.shorthand "b" (some (.paren (.assign .plain (.ident "g") .null)))])]) none)
      (.ident "xs")
      (.block [.var .letKind [.mk (.ident "c") (some (.func none {} []
        [.var .var [.mk (.ident "e") none]]))]]))
    (some (.func "f" {} [] []))

/-- In a block of a function, `f` is bound in the block, `a` and `b` in the function, and `g` globally. -/
theorem walk_binds_exactly_declaresDeep :
    let p := Patterns.ofTexts [] []
    let s := ({} : WalkState).run p [.enter .function, .enter .block]
    let s' := s.visit p (.stmt declaresDeep)
    s.tracker.Placed ∧ s.tracker.current = 2 ∧
      (∀ x, x ∈ s'.tracker.scopes.names 2 ↔ x = "f") ∧
      (∀ x, x ∈ s'.tracker.scopes.names 1 ↔ x = "a" ∨ x = "b") ∧
      "g" ∈ s'.tracker.scopes.names ScopeTree.root ∧ "g" ∈ s'.accesses := by
  intro p s s'
  have hs : s.tracker.Placed := placed_run ⟨.empty, by decide⟩ _
  have hempty : s.tracker.scopes.names ScopeTree.root = [] ∧ s.tracker.scopes.names 1 = [] ∧
      s.tracker.scopes.names 2 = [] := by decide
  have hcurrent : s.tracker.current = 2 := by decide
  have hfunction : s.tracker.scopes.functionScope 2 = 1 := by decide
  have hsize : s.tracker.scopes.size = 3 := by decide
  have hg : "g" ∈ s'.tracker.scopes.names ScopeTree.root := by decide
  have hdeclares : declaresDeep.declares .current = ["f"] ∧ declaresDeep.declares .function = ["a", "b"] :=
    ⟨rfl, rfl⟩
  have hvisit : s' = s.visit p (.stmt declaresDeep) := rfl
  obtain ⟨⟨globals, hglobals, hnames⟩, -⟩ := walk_binds_exactly p s hs declaresDeep
  rw [← hvisit] at hglobals hnames
  rw [hsize, hcurrent, hfunction, hdeclares.1, hdeclares.2] at hnames
  clear_value s' s
  have hnew : "g" ∈ globals := by
    have hbound := (hnames ScopeTree.root (by decide) "g").mp hg
    rw [hempty.1] at hbound
    simpa [ScopeTree.root] using hbound
  refine ⟨hs, hcurrent, fun x => ?_, fun x => ?_, hg, (hglobals "g" hnew).2.1⟩
  · simpa [hempty.2.2, ScopeTree.root] using hnames 2 (by decide) x
  · simpa [hempty.2.1, ScopeTree.root] using hnames 1 (by decide) x

end WalkState

end DomFlow
