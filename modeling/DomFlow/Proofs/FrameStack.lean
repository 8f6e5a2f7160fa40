import DomFlow.Assoc
import DomFlow.Proofs.Correspondence
import DomFlow.Proofs.Terms

/-! # Scopes as a stack of frames

Declarations, assignments and calls in nested blocks, and an interpreter for them that keeps a stack of
finite maps: one for every open block, and one for the globals at the bottom. The walk keeps every scope it
ever opened and finds names along parents, but finds the same: from the current scope up, the tree binds what
the stack binds, and the scopes that were left are not met again. -/

namespace DomFlow

theorem Variable.origin?_declared (name : String) (taint : Option String) :
    (declared name taint).origin? = taint := by
  cases taint <;> rfl

theorem Variable.origin?_assigned (name : String) (plain : Bool) (taint : Option String)
    (old : Option Variable) : (assigned name plain taint old).origin? =
      if plain then taint else taint.or (old.bind Variable.origin?) := by
  cases old <;> cases taint <;> cases plain <;> rfl

theorem ScopeTree.Descends.ownerOf_le {t : ScopeTree} (h : t.Descends) (i : ScopeId) (x : String) :
    t.ownerOf i x ≤ i := by
  unfold ownerOf
  cases hresolve : t.resolve? i x with
  | none => exact Nat.zero_le i
  | some k => exact h.le_of_mem_ancestors (List.mem_of_find?_eq_some hresolve)

namespace FrameStack

open Script (Stmt)

inductive Line where
  | declare (kind : Script.VarKind) (decls : List (String × Option Term))
  /-- `=` if it is plain, else `+=`. -/
  | assign (plain : Bool) (x : String) (t : Term)
  | call (f : String) (args : List Term)

def Line.stmt : Line → Stmt
  | .declare kind decls => .var kind (Term.declarators decls)
  | .assign plain x t => .expr (Term.assignment plain x t)
  | .call f args => .expr (.call (.ident f) (args.map fun t => .item t.expr))

inductive Code where
  | done
  | line (l : Line) (rest : Code)
  | block (body rest : Code)

def Code.script : Code → Script
  | .done => []
  | .line l rest => l.stmt :: rest.script
  | .block body rest => .block body.script :: rest.script

/-- A finite map from names to their taint; an entry hides those behind it. -/
abbrev Frame := List (String × Option String)

/-- The frames of the open blocks, the innermost first, above the globals. -/
inductive Stack where
  | globals (g : Frame)
  | block (f : Frame) (below : Stack)

namespace Stack

def read : Stack → String → Option (Option String)
  | .globals g, x => g.lookup x
  | .block f below, x => (f.lookup x).or (below.read x)

def bind (x : String) (taint : Option String) : Stack → Stack
  | .globals g => .globals ((x, taint) :: g)
  | .block f below => .block ((x, taint) :: f) below

def bindGlobal (x : String) (taint : Option String) : Stack → Stack
  | .globals g => .globals ((x, taint) :: g)
  | .block f below => .block f (below.bindGlobal x taint)

/-- Changes the innermost entry of a name; a name without one becomes global. -/
def assign (x : String) (new : Option String → Option String) : Stack → Stack
  | .globals g => .globals ((x, new (g.lookup x).join) :: g)
  | .block f below =>
    match f.lookup x with
    | some old => .block ((x, new old) :: f) below
    | none => .block f (below.assign x new)

def pop : Stack → Stack
  | .globals g => .globals g
  | .block _ below => below

/-- A `var` is global outside of functions, the others belong to their block. -/
def declare (kind : Script.VarKind) (x : String) (taint : Option String) (frames : Stack) : Stack :=
  match kind with
  | .var => frames.bindGlobal x taint
  | .letKind | .constKind => frames.bind x taint

end Stack

/-- Each declaration is evaluated after those before it. -/
def declareAll (p : Patterns) (kind : Script.VarKind) : List (String × Option Term) → Stack → Stack
  | [], frames => frames
  | (x, init) :: r, frames =>
    declareAll p kind r (frames.declare kind x (init.bind fun t => t.taint p frames.read))

/-- The stack after a line. Only `=` clears taint. -/
def Line.after (p : Patterns) (frames : Stack) : Line → Stack
  | .declare kind decls => declareAll p kind decls frames
  | .assign plain x t =>
    let taint := t.taint p frames.read
    frames.assign x fun old => if plain then taint else taint.or old
  | .call _ _ => frames

/-- What a line reports: tainted arguments of a sink, a tainted value that is assigned to a sink, and any
assignment to a name that leads to a prototype. -/
def Line.flows (p : Patterns) (frames : Stack) : Line → List Flow
  | .declare _ _ => []
  | .assign _ x t =>
    let taint := t.taint p frames.read
    (if p.isSink x || p.isSink (x ++ "=") then
      taint.toList.map fun origin => ⟨.assignment, origin, x, t.expr.describe⟩
    else []) ++
      if isPrototypePath x then [⟨.prototype, taint.getD prototypeSource, x, t.expr.describe⟩] else []
  | .call f args =>
    if p.isSink f || p.isSink (f ++ "(") then
      args.filterMap fun t => (t.taint p frames.read).map fun origin => ⟨.call, origin, f, t.expr.describe⟩
    else []

/-- Runs code: the stack at its end, and what was reported on the way. -/
def Code.exec (p : Patterns) : Code → Stack → Stack × List Flow
  | .done, frames => (frames, [])
  | .line l rest, frames =>
    let (last, found) := rest.exec p (l.after p frames)
    (last, l.flows p frames ++ found)
  | .block body rest, frames =>
    let (inner, foundInside) := body.exec p (.block [] frames)
    let (last, found) := rest.exec p inner.pop
    (last, foundInside ++ found)

variable {p : Patterns}

/-- A scope binds what a frame binds. -/
def Holds (t : ScopeTree) (i : ScopeId) (f : Frame) : Prop :=
  ∀ x, (t.own? i x).map Variable.origin? = f.lookup x

/-- From a scope up, the tree binds what the stack binds, and all scopes but the last are blocks. -/
inductive Mirrors (t : ScopeTree) : ScopeId → Stack → Prop where
  | globals {g : Frame} (hown : Holds t ScopeTree.root g) : Mirrors t ScopeTree.root (.globals g)
  | block {i j : ScopeId} {f : Frame} {below : Stack} (hown : Holds t i f) (hkind : t.kind i = .block)
      (hparent : t.parent? i = some j) (hbelow : Mirrors t j below) : Mirrors t i (.block f below)

variable {t u : ScopeTree} {i j : ScopeId} {f : Frame} {frames : Stack} {v : Variable}

theorem Holds.write (h : Holds t i f) (hwrite : t.IsWrite i v u) :
    Holds u i ((v.name, v.origin?) :: f) := by
  intro x
  rw [hwrite.own?, Assoc.lookup_cons]
  by_cases hx : x = v.name
  · simp [hx]
  · rw [if_neg fun hboth => hx hboth.2, if_neg hx]
    exact h x

theorem Holds.write_other (h : Holds t i f) (hwrite : t.IsWrite j v u) (hne : j ≠ i) : Holds u i f := by
  intro x
  rw [hwrite.own?, if_neg fun hboth => hne hboth.1]
  exact h x

namespace Mirrors

/-- Only the scopes from a scope up count, and these have no greater indices. -/
theorem of_agree (h : Mirrors t i frames) (ht : t.Descends) (hkind : ∀ k ≤ i, u.kind k = t.kind k)
    (hparent : ∀ k ≤ i, u.parent? k = t.parent? k) (hown : ∀ k ≤ i, ∀ x, u.own? k x = t.own? k x) :
    Mirrors u i frames := by
  induction h with
  | globals hholds =>
    apply Mirrors.globals
    intro x
    rw [hown _ (Nat.le_refl _)]
    exact hholds x
  | @block i j f below hholds hblock hup hbelow ih =>
    have hlt : j < i := ht i j hup
    have hle {k : ScopeId} (hk : k ≤ j) : k ≤ i := Nat.le_trans hk (Nat.le_of_lt hlt)
    apply Mirrors.block
    · intro x
      rw [hown i (Nat.le_refl i)]
      exact hholds x
    · rw [hkind i (Nat.le_refl i)]
      exact hblock
    · rw [hparent i (Nat.le_refl i)]
      exact hup
    · exact ih (fun k hk => hkind k (hle hk)) (fun k hk => hparent k (hle hk)) (fun k hk => hown k (hle hk))

theorem write_above (h : Mirrors t i frames) (ht : t.Descends) (hwrite : t.IsWrite j v u) (hij : i < j) :
    Mirrors u i frames := by
  apply h.of_agree ht (fun k _ => hwrite.kind k) (fun k _ => hwrite.parent? k)
  intro k hk x
  rw [hwrite.own?, if_neg]
  rintro ⟨rfl, -⟩
  exact absurd hk (Nat.not_le_of_lt hij)

theorem read (h : Mirrors t i frames) (ht : t.Descends) (x : String) :
    (t.lookup? i x).map Variable.origin? = frames.read x := by
  induction h with
  | globals hown =>
    rw [ht.lookup?_eq, ht.parent?_root, Option.bind_none, Option.or_none]
    exact hown x
  | block hown _ hparent _ ih =>
    rw [ht.lookup?_eq, hparent, Option.bind_some, Option.map_or, ih, hown x]
    rfl

theorem block_of_write (hwrite : t.IsWrite j v u) (hown : Holds u i f) (hkind : t.kind i = .block)
    {k : ScopeId} (hparent : t.parent? i = some k) (hbelow : Mirrors u k frames) :
    Mirrors u i (.block f frames) := by
  apply Mirrors.block hown _ _ hbelow
  · rw [hwrite.kind]
    exact hkind
  · rw [hwrite.parent?]
    exact hparent

theorem bind (h : Mirrors t i frames) (ht : t.Descends) (hwrite : t.IsWrite i v u) :
    Mirrors u i (frames.bind v.name v.origin?) := by
  cases h with
  | globals hown => exact .globals (hown.write hwrite)
  | block hown hkind hparent hbelow =>
    have habove := hbelow.write_above ht hwrite (ht _ _ hparent)
    exact block_of_write hwrite (hown.write hwrite) hkind hparent habove

theorem bindGlobal (h : Mirrors t i frames) (ht : t.Descends) (hwrite : t.IsWrite ScopeTree.root v u) :
    Mirrors u i (frames.bindGlobal v.name v.origin?) := by
  induction h with
  | globals hown => exact .globals (hown.write hwrite)
  | block hown hkind hparent _ ih =>
    have hpos := Nat.zero_lt_of_lt (ht _ _ hparent)
    exact block_of_write hwrite (hown.write_other hwrite (Nat.ne_of_lt hpos)) hkind hparent ih

theorem functionScope (h : Mirrors t i frames) (ht : t.WellFormed) : t.functionScope i = ScopeTree.root := by
  induction h with
  | globals _ =>
    rw [ht.descends.functionScope_eq, if_neg]
    rw [ht.root_kind]
    decide
  | block _ hkind hparent _ ih =>
    rw [ht.descends.functionScope_eq, if_pos hkind, hparent]
    exact ih

theorem assign (h : Mirrors t i frames) (ht : t.Descends) {x : String} (hname : v.name = x)
    (hwrite : t.IsWrite (t.ownerOf i x) v u) {new : Option String → Option String}
    (hnew : v.origin? = new (frames.read x).join) : Mirrors u i (frames.assign x new) := by
  subst hname
  induction h with
  | @globals g hown =>
    have howner : t.ownerOf ScopeTree.root v.name = ScopeTree.root := by
      unfold ScopeTree.ownerOf
      rw [ht.resolve?_eq, ht.parent?_root]
      split <;> rfl
    rw [howner] at hwrite
    have hholds := hown.write hwrite
    rw [hnew] at hholds
    exact .globals hholds
  | @block i j f below hown hkind hparent hbelow ih =>
    have hlookup := hown v.name
    unfold ScopeTree.ownerOf at hwrite ih
    rw [ht.resolve?_eq] at hwrite
    rw [Stack.assign]
    cases hentry : f.lookup v.name with
    | some old =>
      rw [hentry] at hlookup
      obtain ⟨w, hw, -⟩ := Option.map_eq_some_iff.mp hlookup
      rw [hw, Option.isSome_some, if_pos rfl, Option.getD_some] at hwrite
      have hbind := (Mirrors.block hown hkind hparent hbelow).bind ht hwrite
      rw [hnew, Stack.read, hentry] at hbind
      exact hbind
    | none =>
      -- The owner is found from the parent, so its index is smaller and the block keeps its own entries.
      rw [hentry, Option.map_eq_none_iff] at hlookup
      rw [hlookup, hparent] at hwrite
      rw [Stack.read, hentry] at hnew
      have hlt : j < i := ht i j hparent
      have hle : (t.resolve? j v.name).getD ScopeTree.root ≤ j := ht.ownerOf_le j v.name
      have hne : (t.resolve? j v.name).getD ScopeTree.root ≠ i := Nat.ne_of_lt (Nat.lt_of_le_of_lt hle hlt)
      exact block_of_write hwrite (hown.write_other hwrite hne) hkind hparent (ih hwrite hnew)

theorem enter (h : Mirrors t i frames) (ht : t.Descends) (hi : i < t.size) :
    Mirrors (t.create .block i).1 t.size (.block [] frames) := by
  have hold {k : ScopeId} (hk : k ≤ i) : k ≠ t.size := Nat.ne_of_lt (Nat.lt_of_le_of_lt hk hi)
  refine Mirrors.block ?_ ?_ ?_ (h.of_agree ht ?_ ?_ ?_)
  · intro x
    rw [ScopeTree.own?_create, ScopeTree.own?, t.get?_size]
    rfl
  · rw [ScopeTree.kind_create, if_pos rfl]
  · rw [ScopeTree.parent?_create, if_pos rfl]
  · intro k hk
    rw [ScopeTree.kind_create, if_neg (hold hk)]
  · intro k hk
    rw [ScopeTree.parent?_create, if_neg (hold hk)]
  · intro k _ x
    rw [ScopeTree.own?_create]

end Mirrors

/-- A tracker at a scope from which the tree binds what the stack binds. -/
structure Follows (k : Tracker) (frames : Stack) : Prop where
  placed : k.Placed
  mirrors : Mirrors k.scopes k.current frames

namespace Follows

variable {k : Tracker} {s : WalkState}

theorem start : Follows {} (.globals []) where
  placed := Tracker.Reachable.start.placed
  mirrors := .globals fun _ => rfl

theorem descends (h : Follows k frames) : k.scopes.Descends := h.placed.scopes.wellFormed.descends

theorem enter (h : Follows k frames) : Follows (k.enter .block) (.block [] frames) where
  placed := h.placed.enter .block
  mirrors := h.mirrors.enter h.descends h.placed.current_lt

theorem leave (h : Follows k frames) : Follows k.leave frames.pop := by
  refine ⟨h.placed.leave, ?_⟩
  have hroot := h.descends.parent?_root
  have hmirrors := h.mirrors
  unfold Tracker.leave
  generalize hi : k.current = i at hmirrors
  cases hmirrors with
  | globals hown =>
    rw [hroot]
    simp only [hi]
    exact .globals hown
  | block _ _ hparent hbelow =>
    rw [hparent]
    exact hbelow

theorem origin (h : Follows s.tracker frames) (t : Term) :
    (s.reading p t.expr).origin = t.taint p frames.read := by
  have hread : (fun x => (s.tracker.lookup? x).map Variable.origin?) = frames.read := by
    funext x
    exact h.mirrors.read h.descends x
  rw [WalkState.reading, Term.origin_reading, hread]

theorem declare (h : Follows s.tracker frames) (kind : Script.VarKind) (x : String)
    (taint : Option String) :
    Follows (s.declare kind.target x taint).tracker (frames.declare kind x taint) := by
  refine ⟨WalkState.placed_declare h.placed kind.target x taint, ?_⟩
  rw [WalkState.declare_current]
  have hfunction := h.mirrors.functionScope h.placed.scopes.wellFormed
  cases kind with
  | var =>
    have hlt : s.tracker.scopeOf .function < s.tracker.scopes.size := by
      rw [Tracker.scopeOf, hfunction]
      exact h.placed.scopes.wellFormed.root_lt
    have hwrite := WalkState.isWrite_declare hlt x taint
    rw [Tracker.scopeOf, hfunction] at hwrite
    have hbind := h.mirrors.bindGlobal h.descends hwrite
    rwa [Variable.origin?_declared] at hbind
  | letKind | constKind =>
    have hwrite := @WalkState.isWrite_declare s .current h.placed.current_lt x taint
    have hbind := h.mirrors.bind h.descends hwrite
    rwa [Variable.origin?_declared] at hbind

theorem assign (h : Follows s.tracker frames) (plain : Bool) (x : String) (taint : Option String) :
    Follows (s.assign plain x taint).tracker
      (frames.assign x fun old => if plain then taint else taint.or old) := by
  refine ⟨WalkState.placed_assign h.placed plain x taint, ?_⟩
  have hwrite := WalkState.isWrite_assign h.placed.scopes.wellFormed.root_lt plain x taint
  rw [WalkState.assign_current]
  apply h.mirrors.assign h.descends (Variable.assigned_name _ _ _ _) hwrite
  rw [Variable.origin?_assigned, ← h.mirrors.read h.descends]
  change _ = if plain then taint else taint.or ((s.tracker.lookup? x).map Variable.origin?).join
  cases s.tracker.lookup? x <;> rfl

end Follows

variable {s : WalkState}

theorem leads_declare (h : Follows s.tracker frames) (kind : Script.VarKind) (x : String) (init : Option Term) :
    s.Leads Follows p (Term.declareSteps kind.target x init)
      (frames.declare kind x (init.bind fun t => t.taint p frames.read)) [] := by
  refine ⟨?_, by cases init <;> rfl⟩
  cases init with
  | none =>
    have hnoted : Follows (s.push none).tracker frames := h
    exact hnoted.declare kind x none
  | some t =>
    have hnoted : Follows (s.step p (.note t.expr)).tracker frames := h
    rw [Option.bind_some, ← h.origin (p := p)]
    exact hnoted.declare kind x (s.reading p t.expr).origin

theorem leads_declareAll (h : Follows s.tracker frames) (kind : Script.VarKind)
    (decls : List (String × Option Term)) :
    s.Leads Follows p ((Line.declare kind decls).stmt.steps p.isSink) (declareAll p kind decls frames) [] := by
  rw [Line.stmt, Stmt.steps]
  induction decls generalizing s frames with
  | nil => exact ⟨h, rfl⟩
  | cons d decls ih =>
    obtain ⟨x, init⟩ := d
    have hfirst := leads_declare (p := p) h kind x init
    rw [Term.steps_declarators]
    exact hfirst.append (ih hfirst.holds)

theorem leads_assign (h : Follows s.tracker frames) (plain : Bool) (x : String) (t : Term) :
    s.Leads Follows p ((Line.assign plain x t).stmt.steps p.isSink) ((Line.assign plain x t).after p frames)
      ((Line.assign plain x t).flows p frames) := by
  have hnoted : Follows (s.step p (.note t.expr)).tracker frames := h
  have hassign := hnoted.assign plain x (s.reading p t.expr).origin
  rw [Line.stmt, Stmt.steps, Term.steps_assignment]
  constructor
  · simp only [WalkState.run_cons, WalkState.run_nil]
    rw [WalkState.step_tracker, WalkState.step_tracker, Line.after, ← h.origin (p := p)]
    exact hassign
  · have hlatest : ((s.step p (.note t.expr)).step p (.assign plain x)).latest = t.taint p frames.read := by
      rw [WalkState.latest, WalkState.step_pending, WalkState.step_pending, ← h.origin (p := p)]
      rfl
    simp only [WalkState.yields, WalkState.found, hlatest, Line.flows, List.nil_append, List.append_nil]

theorem leads_call (h : Follows s.tracker frames) (f : String) (args : List Term) :
    s.Leads Follows p ((Line.call f args).stmt.steps p.isSink) frames ((Line.call f args).flows p frames) := by
  have hsteps : (Line.call f args).stmt.steps p.isSink = [.checkCall f (args.map Term.expr)] := by
    rw [Line.stmt, Stmt.steps]
    exact Term.steps_call (.name f) args
  rw [hsteps]
  constructor
  · rw [WalkState.run_cons, WalkState.run_nil, WalkState.step_tracker]
    exact h
  · have hflow (t : Term) : s.flow? p .call f t.expr =
        (t.taint p frames.read).map fun origin => ⟨.call, origin, f, t.expr.describe⟩ := by
      rw [WalkState.flow?, h.origin]
    simp only [WalkState.yields, WalkState.found, Line.flows, List.append_nil, List.filterMap_map,
      Function.comp_def, hflow]

theorem Line.leads (l : Line) (h : Follows s.tracker frames) :
    s.Leads Follows p (l.stmt.steps p.isSink) (l.after p frames) (l.flows p frames) := by
  cases l with
  | declare kind decls => exact leads_declareAll h kind decls
  | assign plain x t => exact leads_assign h plain x t
  | call f args => exact leads_call h f args

/-- The walk of code does what the interpreter does, block by block. -/
theorem Code.leads (c : Code) (h : Follows s.tracker frames) :
    s.Leads Follows p (Stmt.allSteps p.isSink c.script) (c.exec p frames).1 (c.exec p frames).2 := by
  induction c generalizing s frames with
  | done => exact ⟨h, rfl⟩
  | line l rest ih =>
    have hline := l.leads (p := p) h
    have hrest := hline.append (ih hline.holds)
    simpa only [Code.script, Stmt.allSteps, Code.exec] using hrest
  | block body rest ihbody ihrest =>
    -- The scope that is left stays in the tree; the stack below its frame is what the walk goes on with.
    have henter : s.Leads Follows p [Step.enter .block] (.block [] frames) [] := ⟨h.enter, rfl⟩
    have hbody := henter.append (ihbody henter.holds)
    have hleave : (s.run p (Step.enter .block :: Stmt.allSteps p.isSink body.script)).Leads Follows p [Step.leave]
        (body.exec p (.block [] frames)).1.pop [] := ⟨hbody.holds.leave, rfl⟩
    have hblock := hbody.append hleave
    have hrest := hblock.append (ihrest hblock.holds)
    simpa [Code.script, Stmt.allSteps, Stmt.steps, Code.exec] using hrest

/-- On declarations, assignments and calls in nested blocks, the walk reports what the interpreter with a
stack of finite maps reports, in the same order. -/
theorem walk_refines_stack (p : Patterns) (c : Code) :
    (({} : WalkState).walk p c.script).findings = (c.exec p (.globals [])).2.map Flow.finding := by
  rw [WalkState.findings_walk, (c.leads .start).yields]
  rfl

/-- `{ let a = location.hash; { var b = a; let a = null; eval(a); } eval(a); } eval(a, b);` -/
example :
    let hash : Term := .field (.name "location") "hash"
    let inner : Code := .line (.declare .var [("b", some (.name "a"))])
      (.line (.declare .letKind [("a", some (.literal .null))]) (.line (.call "eval" [.name "a"]) .done))
    let outer : Code := .line (.declare .letKind [("a", some hash)])
      (.block inner (.line (.call "eval" [.name "a"]) .done))
    let code : Code := .block outer (.line (.call "eval" [.name "a", .name "b"]) .done)
    (code.exec (.ofTexts ["location.hash"] ["eval"]) (.globals [])).2 =
      [⟨.call, "location.hash", "eval", "a"⟩, ⟨.call, "location.hash", "eval", "b"⟩] := by
  decide

end FrameStack

end DomFlow
