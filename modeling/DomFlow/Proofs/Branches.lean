import DomFlow.Proofs.FrameStack
import Mathlib.Data.List.Basic
import Mathlib.Logic.Function.Basic

/-! # Taint along branches

Code of declarations, assignments and calls under `if` and `else`. A path through it takes one branch at
every `if`, while the walk goes through both in the order of the source and keeps one mark for each name.
What a path taints is therefore found unless something that stands between clears it: a declaration
without a value, or a write in a branch that the path does not take. -/

namespace DomFlow.Branches

open FrameStack (Stack Follows)
open Script (Stmt)

/-- A statement without branches. -/
inductive Simple where
  | var (decls : List (String × Option Term))
  | assign (x : String) (t : Term)
  | call (callee arg : Term)

def Simple.stmt : Simple → Stmt
  | .var decls => .var .var (Term.declarators decls)
  | .assign x t => .expr (Term.assignment true x t)
  | .call callee arg => .expr (.call callee.expr [.item arg.expr])

/-- Statements in order; the bodies of an `if` are blocks. -/
inductive Code where
  | done
  | simple (s : Simple) (rest : Code)
  | ifThen (test : Term) (yes rest : Code)
  | ifElse (test : Term) (yes no rest : Code)

def Code.script : Code → Script
  | .done => []
  | .simple s rest => s.stmt :: rest.script
  | .ifThen test yes rest => .ifElse test.expr (.block yes.script) none :: rest.script
  | .ifElse test yes no rest =>
    .ifElse test.expr (.block yes.script) (some (.block no.script)) :: rest.script

/-- What matters to taint. -/
inductive Event where
  | write (x : String) (t : Term)
  /-- A declaration without a value. -/
  | bare (x : String)
  | call (callee arg : Term)

def Event.ofDecl : String × Option Term → Event
  | (x, some t) => .write x t
  | (x, none) => .bare x

def Simple.events : Simple → List Event
  | .var decls => decls.map Event.ofDecl
  | .assign x t => [.write x t]
  | .call callee arg => [.call callee arg]

/-- All events of a code in the order of the source. -/
def Code.events : Code → List Event
  | .done => []
  | .simple s rest => s.events ++ rest.events
  | .ifThen _ yes rest => yes.events ++ rest.events
  | .ifElse _ yes no rest => yes.events ++ no.events ++ rest.events

/-- An event that a path takes or leaves aside. -/
structure Mark where
  taken : Bool
  event : Event

/-- The ways through a code: a choice of one branch at every `if` marks all events of the source. -/
inductive Code.Path : Code → List Mark → Prop
  | done : Path .done []
  | simple {s rest l} : Path rest l → Path (.simple s rest) (s.events.map (⟨true, ·⟩) ++ l)
  | enter {test yes rest l m} : Path yes l → Path rest m → Path (.ifThen test yes rest) (l ++ m)
  | skip {test yes rest m} : Path rest m →
      Path (.ifThen test yes rest) (yes.events.map (⟨false, ·⟩) ++ m)
  | yes {test yes no rest l m} : Path yes l → Path rest m →
      Path (.ifElse test yes no rest) (l ++ no.events.map (⟨false, ·⟩) ++ m)
  | no {test yes no rest l m} : Path no l → Path rest m →
      Path (.ifElse test yes no rest) (yes.events.map (⟨false, ·⟩) ++ l ++ m)

theorem Code.Path.map_event {code : Code} {marks : List Mark} (h : code.Path marks) :
    marks.map (·.event) = code.events := by
  induction h with
  | done => rfl
  | simple _ ih => simp [Code.events, ih, Function.comp_def]
  | enter _ _ ihy ih => simp [Code.events, ihy, ih]
  | skip _ ih => simp [Code.events, ih, Function.comp_def]
  | yes _ _ ihy ih => simp [Code.events, ihy, ih, Function.comp_def]
  | no _ _ ihn ih => simp [Code.events, ihn, ih, Function.comp_def]

abbrev Taints := String → Bool

def Taints.clean : Taints := fun _ => false

/-- An event as a path has it: a declaration without a value leaves its name as it is. -/
def Event.onPath (p : Patterns) (σ : Taints) : Event → Taints
  | .write x t => Function.update σ x (t.tainted p σ)
  | .bare _ | .call _ _ => σ

/-- What is tainted after the events that a path takes. -/
def taintedOnPath (p : Patterns) (marks : List Mark) : Taints :=
  marks.foldl (fun σ m => if m.taken then m.event.onPath p σ else σ) .clean

/-- An event in the order of the source: a declaration without a value clears its name. -/
def Event.inSource (p : Patterns) (τ : Taints) : Event → Taints
  | .write x t => Function.update τ x (t.tainted p τ)
  | .bare x => Function.update τ x false
  | .call _ _ => τ

def taintedInSource (p : Patterns) (events : List Event) : Taints :=
  events.foldl (Event.inSource p) .clean

/-- An event as a path has it when what stands in the source can clear a name: a declaration without a
value does, and so does a write that the path leaves aside if in the order of the source its value is
untainted. -/
def Mark.keep (p : Patterns) (τ σ : Taints) : Mark → Taints
  | ⟨true, .write x t⟩ => Function.update σ x (t.tainted p σ)
  | ⟨false, .write x t⟩ => Function.update σ x (σ x && t.tainted p τ)
  | ⟨_, .bare x⟩ => Function.update σ x false
  | ⟨_, .call _ _⟩ => σ

/-- What stays tainted along a path that starts with `σ`, where the source starts with `τ`. -/
def keptFrom (p : Patterns) : Taints → Taints → List Mark → Taints
  | _, σ, [] => σ
  | τ, σ, m :: marks => keptFrom p (m.event.inSource p τ) (m.keep p τ σ) marks

/-- What a path taints and nothing in the source clears. -/
def keptOnPath (p : Patterns) (marks : List Mark) : Taints :=
  keptFrom p .clean .clean marks

variable {p : Patterns} {τ σ : Taints}

/-- A name that is kept along a path is tainted in the order of the source, one event on. -/
theorem Mark.keep_le (h : ∀ x, σ x = true → τ x = true) (m : Mark) (x : String) :
    m.keep p τ σ x = true → m.event.inSource p τ x = true := by
  obtain ⟨taken, event⟩ := m
  cases event with
  | write y t =>
    by_cases hxy : x = y
    · subst hxy
      cases taken with
      | true => simpa [Mark.keep, Event.inSource] using t.tainted_mono h
      | false =>
        simp only [Mark.keep, Event.inSource, Function.update_self, Bool.and_eq_true]
        exact And.right
    · cases taken <;> simpa [Mark.keep, Event.inSource, hxy] using h x
  | bare y =>
    by_cases hxy : x = y
    · simp [Mark.keep, hxy]
    · simpa [Mark.keep, Event.inSource, hxy] using h x
  | call callee arg => simpa [Mark.keep, Event.inSource] using h x

theorem keptFrom_le (marks : List Mark) {τ σ : Taints} (h : ∀ x, σ x = true → τ x = true) (x : String) :
    keptFrom p τ σ marks x = true → (marks.map (·.event)).foldl (Event.inSource p) τ x = true := by
  induction marks generalizing τ σ with
  | nil => exact h x
  | cons m marks ih => exact ih (m.keep_le h)

/-- The blocks of a stack bind nothing, and of the globals these are tainted. -/
def Flat (τ : Taints) : Stack → Prop
  | .globals g => ∀ x, (g.lookup x).join.isSome = τ x
  | .block f below => f = [] ∧ Flat τ below

namespace Flat

variable {frames : Stack}

theorem read (h : Flat τ frames) (x : String) : (frames.read x).join.isSome = τ x := by
  induction frames with
  | globals g => exact h x
  | block f below ih =>
    obtain ⟨rfl, hbelow⟩ := h
    exact ih hbelow

theorem pop (h : Flat τ frames) : Flat τ frames.pop := by
  cases frames with
  | globals g => exact h
  | block f below => exact h.2

theorem globals_cons {g : FrameStack.Frame} (h : Flat τ (.globals g)) (x : String) (taint : Option String) :
    Flat (Function.update τ x taint.isSome) (.globals ((x, taint) :: g)) := by
  intro y
  rw [Assoc.lookup_cons]
  by_cases hy : y = x
  · simp [hy]
  · rw [if_neg hy, Function.update_of_ne hy]
    exact h y

theorem bindGlobal (h : Flat τ frames) (x : String) (taint : Option String) :
    Flat (Function.update τ x taint.isSome) (frames.bindGlobal x taint) := by
  induction frames with
  | globals g => exact h.globals_cons x taint
  | block f below ih => exact ⟨h.1, ih h.2⟩

theorem assign (h : Flat τ frames) (x : String) (taint : Option String) :
    Flat (Function.update τ x taint.isSome) (frames.assign x fun _ => taint) := by
  induction frames with
  | globals g => exact h.globals_cons x taint
  | block f below ih =>
    obtain ⟨rfl, hbelow⟩ := h
    exact ⟨rfl, ih hbelow⟩

end Flat

/-- The walk is outside of functions and has marked the names that are tainted. -/
def Tracks (t : Tracker) (τ : Taints) : Prop := ∃ frames, Follows t frames ∧ Flat τ frames

namespace Tracks

variable {s : WalkState} {t : Tracker}

theorem empty : Tracks {} .clean := ⟨.globals [], .start, fun _ => rfl⟩

theorem enter : Tracks t τ → Tracks (t.enter .block) τ
  | ⟨frames, hfollows, hflat⟩ => ⟨.block [] frames, hfollows.enter, rfl, hflat⟩

theorem leave : Tracks t τ → Tracks t.leave τ
  | ⟨frames, hfollows, hflat⟩ => ⟨frames.pop, hfollows.leave, hflat.pop⟩

theorem declare (h : Tracks s.tracker τ) (x : String) (taint : Option String) :
    Tracks (s.declare .function x taint).tracker (Function.update τ x taint.isSome) := by
  obtain ⟨frames, hfollows, hflat⟩ := h
  exact ⟨_, hfollows.declare .var x taint, hflat.bindGlobal x taint⟩

theorem assign (h : Tracks s.tracker τ) (x : String) (taint : Option String) :
    Tracks (s.assign true x taint).tracker (Function.update τ x taint.isSome) := by
  obtain ⟨frames, hfollows, hflat⟩ := h
  exact ⟨_, hfollows.assign true x taint, hflat.assign x taint⟩

theorem isSome_reading (h : Tracks s.tracker τ) (t : Term) :
    (s.reading p t.expr).origin.isSome = t.tainted p τ := by
  obtain ⟨frames, hfollows, hflat⟩ := h
  rw [hfollows.origin, Term.isSome_taint hflat.read]

end Tracks

/-- What a call reports where these names are tainted; no more is said of other events. -/
def Event.Reports (p : Patterns) (τ : Taints) : Event → List Flow → Prop
  | .call callee arg, block =>
    if callee.isSink p && arg.tainted p τ then
      ∃ origin, block = [⟨.call, origin, callee.expr.path, arg.expr.describe⟩]
    else block = []
  | _, _ => True

/-- What events report in the order of the source, one block for each. -/
inductive Blocks (p : Patterns) : Taints → List Event → List (List Flow) → Prop
  | nil {τ : Taints} : Blocks p τ [] []
  | cons {τ : Taints} {event events block blocks} : event.Reports p τ block →
      Blocks p (event.inSource p τ) events blocks → Blocks p τ (event :: events) (block :: blocks)

namespace Blocks

theorem append {es es' : List Event} {bs bs' : List (List Flow)} (h : Blocks p τ es bs)
    (h' : Blocks p (es.foldl (Event.inSource p) τ) es' bs') : Blocks p τ (es ++ es') (bs ++ bs') := by
  induction h with
  | nil => exact h'
  | cons hevent _ ih => exact .cons hevent (ih h')

theorem length_eq {es : List Event} {bs : List (List Flow)} (h : Blocks p τ es bs) :
    bs.length = es.length := by
  induction h with
  | nil => rfl
  | cons _ _ ih => simp [ih]

theorem reports_at {before after : List Event} {event : Event} {bs : List (List Flow)} {τ : Taints}
    (h : Blocks p τ (before ++ event :: after) bs) :
    ∃ block, bs[before.length]? = some block ∧
      event.Reports p (before.foldl (Event.inSource p) τ) block := by
  induction before generalizing τ bs with
  | nil =>
    cases h with
    | cons hevent _ => exact ⟨_, rfl, hevent⟩
  | cons first before ih =>
    cases h with
    | cons _ hrest => simpa using ih hrest

end Blocks

/-- Steps that do to the state what the events do, and report it. -/
def Performs (p : Patterns) (steps : List Step) (events : List Event) : Prop :=
  ∀ (s : WalkState) (τ : Taints), Tracks s.tracker τ → ∃ blocks : List (List Flow),
    s.Leads Tracks p steps (events.foldl (Event.inSource p) τ) blocks.flatten ∧ Blocks p τ events blocks

namespace Performs

theorem nil : Performs p [] [] := fun _ _ h => ⟨[], ⟨h, rfl⟩, .nil⟩

theorem append {a b : List Step} {es fs : List Event} (ha : Performs p a es) (hb : Performs p b fs) :
    Performs p (a ++ b) (es ++ fs) := by
  intro s τ h
  obtain ⟨bs, hleads, hblocks⟩ := ha s τ h
  obtain ⟨bs', hleads', hblocks'⟩ := hb (s.run p a) _ hleads.holds
  rw [List.foldl_append]
  refine ⟨bs ++ bs', ?_, hblocks.append hblocks'⟩
  rw [List.flatten_append]
  exact hleads.append hleads'

theorem block {steps : List Step} {es : List Event} (h : Performs p steps es) :
    Performs p ([Step.enter .block] ++ steps ++ [Step.leave]) es := by
  have henter : Performs p [.enter .block] [] := fun _ _ ht => ⟨[], ⟨ht.enter, rfl⟩, .nil⟩
  have hleave : Performs p [.leave] [] := fun _ _ ht => ⟨[], ⟨ht.leave, rfl⟩, .nil⟩
  simpa using (henter.append h).append hleave

/-- A single event of which only its effect on names matters. -/
theorem single {steps : List Step} {event : Event}
    (hreports : ∀ (τ : Taints) (block : List Flow), event.Reports p τ block)
    (htracks : ∀ (s : WalkState) (τ : Taints), Tracks s.tracker τ →
      Tracks (s.run p steps).tracker (event.inSource p τ)) : Performs p steps [event] := by
  intro s τ h
  refine ⟨[s.yields p steps], ⟨htracks s τ h, ?_⟩, .cons (hreports τ _) .nil⟩
  rw [List.flatten_singleton]

theorem declare (x : String) (init : Option Term) :
    Performs p (Term.declareSteps .function x init) [Event.ofDecl (x, init)] := by
  cases init with
  | none =>
    refine single (fun _ _ => trivial) fun s τ h => ?_
    exact Tracks.declare (s := s.push none) h x none
  | some t =>
    refine single (fun _ _ => trivial) fun s τ h => ?_
    rw [Event.ofDecl, Event.inSource, ← h.isSome_reading t]
    exact Tracks.declare (s := s.step p (.note t.expr)) h x (s.reading p t.expr).origin

theorem assign (x : String) (t : Term) :
    Performs p ((Term.assignment true x t).steps p.isSink) [.write x t] := by
  rw [Term.steps_assignment]
  refine single (fun _ _ => trivial) fun s τ h => ?_
  have hassign := Tracks.assign (s := s.step p (.note t.expr)) h x (s.reading p t.expr).origin
  simp only [WalkState.run_cons, WalkState.run_nil]
  rw [WalkState.step_tracker, WalkState.step_tracker, Event.inSource, ← h.isSome_reading t]
  exact hassign

theorem call (callee arg : Term) :
    Performs p [.checkCall callee.expr.path [arg.expr]] [.call callee arg] := by
  intro s τ h
  refine ⟨[s.found p (.checkCall callee.expr.path [arg.expr])], ⟨?_, ?_⟩, .cons ?_ .nil⟩
  · rw [WalkState.run_cons, WalkState.run_nil, WalkState.step_tracker]
    exact h
  · simp [WalkState.yields]
  · have hfound : s.found p (.checkCall callee.expr.path [arg.expr]) =
        if callee.isSink p then [arg.expr].filterMap (s.flow? p .call callee.expr.path) else [] := rfl
    rw [Event.Reports, ← h.isSome_reading arg, hfound]
    cases hsink : callee.isSink p <;> cases horigin : (s.reading p arg.expr).origin <;>
      simp [WalkState.flow?, horigin]

end Performs

theorem Simple.performs (s : Simple) : Performs p (s.stmt.steps p.isSink) s.events := by
  cases s with
  | var decls =>
    rw [Simple.stmt, Stmt.steps, Script.VarKind.target, Simple.events]
    induction decls with
    | nil => exact .nil
    | cons d decls ih =>
      obtain ⟨x, init⟩ := d
      rw [Term.steps_declarators]
      exact (Performs.declare x init).append ih
  | assign x t =>
    rw [Simple.stmt, Stmt.steps]
    exact .assign x t
  | call callee arg =>
    have hsteps : (Simple.call callee arg).stmt.steps p.isSink = [.checkCall callee.expr.path [arg.expr]] := by
      rw [Simple.stmt, Stmt.steps]
      exact Term.steps_call callee [arg]
    rw [hsteps]
    exact .call callee arg

/-- The walk of a code performs all its events in the order of the source. -/
theorem Code.performs (code : Code) : Performs p (Stmt.allSteps p.isSink code.script) code.events := by
  induction code with
  | done => exact .nil
  | simple s rest ih => exact s.performs.append ih
  | ifThen test yes rest ihy ih =>
    have hsteps := ihy.block.append ih
    simpa [Code.script, Code.events, Stmt.allSteps, Stmt.steps, test.steps_expr] using hsteps
  | ifElse test yes no rest ihy ihn ih =>
    have hsteps := (ihy.block.append ihn.block).append ih
    simpa [Code.script, Code.events, Stmt.allSteps, Stmt.steps, test.steps_expr] using hsteps

/-- The block at this place is the finding of a call. -/
def ReportsCall (blocks : List (List Finding)) (i : Nat) (callee arg : Term) : Prop :=
  ∃ origin, blocks[i]? = some [Flow.finding ⟨.call, origin, callee.expr.path, arg.expr.describe⟩]

/-- The findings of a walk come in blocks, one for each event of the source, and a call is reported
exactly if it calls a sink with an argument that is tainted in the order of the source. -/
theorem exists_blocks (p : Patterns) (code : Code) :
    ∃ blocks : List (List Finding),
      (({} : WalkState).walk p code.script).findings = blocks.flatten ∧
      blocks.length = code.events.length ∧
      ∀ before (callee arg : Term) after, code.events = before ++ .call callee arg :: after →
        (ReportsCall blocks before.length callee arg ↔
          callee.isSink p = true ∧ arg.tainted p (taintedInSource p before) = true) := by
  obtain ⟨blocks, hleads, hblocks⟩ := code.performs (p := p) {} .clean .empty
  refine ⟨blocks.map (List.map Flow.finding), ?_, by simp [hblocks.length_eq], ?_⟩
  · rw [WalkState.findings_walk, hleads.yields, ← List.map_flatten]
    rfl
  · intro before callee arg after hevents
    rw [hevents] at hblocks
    obtain ⟨block, hblock, hreports⟩ := hblocks.reports_at
    rw [ReportsCall, List.getElem?_map, hblock, ← Bool.and_eq_true]
    simp only [Event.Reports] at hreports
    split at hreports
    next hcall =>
      obtain ⟨origin, rfl⟩ := hreports
      exact ⟨fun _ => hcall, fun _ => ⟨origin, rfl⟩⟩
    next hcall =>
      subst hreports
      exact ⟨fun h => by simp at h, fun h => absurd h hcall⟩

/-- A call of a sink is reported if a path taints its argument and nothing in the source clears it. -/
theorem tainted_path_reported (p : Patterns) (code : Code) :
    ∃ blocks : List (List Finding),
      (({} : WalkState).walk p code.script).findings = blocks.flatten ∧
      blocks.length = code.events.length ∧
      (∀ before (callee arg : Term) after, code.events = before ++ .call callee arg :: after →
        (ReportsCall blocks before.length callee arg ↔
          callee.isSink p = true ∧ arg.tainted p (taintedInSource p before) = true)) ∧
      ∀ before (callee arg : Term) after, code.Path (before ++ ⟨true, .call callee arg⟩ :: after) →
        callee.isSink p = true → arg.tainted p (keptOnPath p before) = true →
        ReportsCall blocks before.length callee arg := by
  obtain ⟨blocks, hfindings, hlength, hexact⟩ := exists_blocks p code
  refine ⟨blocks, hfindings, hlength, hexact, fun before callee arg after hpath hsink htainted => ?_⟩
  have hevents := hpath.map_event
  rw [List.map_append, List.map_cons] at hevents
  have hsource : arg.tainted p (taintedInSource p (before.map (·.event))) = true :=
    arg.tainted_mono (keptFrom_le before fun _ => id) htainted
  have hreported := (hexact _ _ _ _ hevents.symm).mpr ⟨hsink, hsource⟩
  rwa [List.length_map] at hreported

/-- `location.hash` -/
def hash : Term := .field (.name "location") "hash"

/-- `eval(x);` -/
def evalX : Code := .simple (.call (.name "eval") (.name "x")) .done

/-- `var x; if (c) { x = "a" + location.hash; } else { y = "b"; } eval(x);` -/
def taintedInBranch : Code :=
  .simple (.var [("x", none)]) <|
    .ifElse (.name "c") (.simple (.assign "x" (.binary .add (.literal (.str "a")) hash)) .done)
      (.simple (.assign "y" (.literal (.str "b"))) .done) evalX

theorem tainted_path_reported_in_branch :
    let p := Patterns.ofTexts ["location.hash"] ["eval"]
    let before : List Mark := [⟨true, .bare "x"⟩, ⟨true, .write "x" (.binary .add (.literal (.str "a")) hash)⟩,
      ⟨false, .write "y" (.literal (.str "b"))⟩]
    taintedInBranch.Path (before ++ [⟨true, .call (.name "eval") (.name "x")⟩]) ∧
      (Term.name "eval").isSink p = true ∧ (Term.name "x").tainted p (keptOnPath p before) = true ∧
      ∃ blocks : List (List Finding),
        (({} : WalkState).walk p taintedInBranch.script).findings = blocks.flatten ∧
        ReportsCall blocks 3 (.name "eval") (.name "x") := by
  intro p before
  have hpath : taintedInBranch.Path (before ++ [⟨true, .call (.name "eval") (.name "x")⟩]) :=
    .simple (.yes (.simple .done) (.simple .done))
  have htainted : (Term.name "x").tainted p (keptOnPath p before) = true := by decide
  obtain ⟨blocks, hfindings, -, -, hreported⟩ := tainted_path_reported p taintedInBranch
  exact ⟨hpath, by decide, htainted, blocks, hfindings,
    hreported before _ _ [] hpath (by decide) htainted⟩

/-- `var x = location.hash; if (c) { x = "safe"; } else { } eval(x);` -/
def clearedAside : Code :=
  .simple (.var [("x", some hash)]) <|
    .ifElse (.name "c") (.simple (.assign "x" (.literal (.str "safe"))) .done) .done evalX

/-- `var x = location.hash; var x; eval(x);` -/
def declaredAgain : Code :=
  .simple (.var [("x", some hash)]) <| .simple (.var [("x", none)]) evalX

/-- A write in a branch that the path does not take and a declaration without a value both hide what the
path taints. -/
theorem tainted_path_unreported :
    let p := Patterns.ofTexts ["location.hash"] ["eval"]
    let missed (code : Code) := ∃ before,
      code.Path (before ++ [⟨true, .call (.name "eval") (.name "x")⟩]) ∧
        (Term.name "eval").isSink p = true ∧
        (Term.name "x").tainted p (taintedOnPath p before) = true ∧
        (({} : WalkState).walk p code.script).findings = []
    missed clearedAside ∧ missed declaredAgain := by
  intro p missed
  refine ⟨⟨[⟨true, .write "x" hash⟩, ⟨false, .write "x" (.literal (.str "safe"))⟩],
    .simple (.no .done (.simple .done)), by decide, by decide, by decide⟩,
    ⟨[⟨true, .write "x" hash⟩, ⟨true, .bare "x"⟩],
      .simple (.simple (.simple .done)), by decide, by decide, by decide⟩⟩

end DomFlow.Branches
