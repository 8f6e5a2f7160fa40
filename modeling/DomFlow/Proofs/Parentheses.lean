import DomFlow.Proofs.Rewriting

/-! # Parentheses

Parentheses are nodes of the tree, and whatever reads an expression has to look through them by itself. Paths,
readings and walks do, so a script may be freed of its parentheses without a change in what is reported, but
for the evidence. In two places they make a difference. A key in brackets is a text or a number only if
it is not in parentheses. The left side of an assignment that is in parentheses is checked by its path but
neither written nor walked; so there the parentheses may be deleted only if the place is a member and
nothing happens on the way to it. -/

namespace DomFlow

namespace Script

/-- Whether an expression in brackets spells the name of a property. -/
def Expr.isText (e : Expr) : Bool := e.spelled?.isSome

/-- Whether an expression in brackets appears in the path of an access. -/
def Expr.isIndex : Expr → Bool
  | .num _ => true
  | e => e.isText

/-- An expression in brackets, as it was and without parentheses. It keeps a pair if it would be known
without evaluation. -/
def Key.ofBare (known : Expr → Bool) (original bare : Expr) : Key :=
  match original with
  | .paren _ => if known bare then .computed (.paren bare) else .computed bare
  | _ => .computed bare

/-- A left side that was in parentheses: they go if it is a member and the walk of it does nothing. -/
def Target.ofBare : Expr → Target
  | .member o k =>
    if ((Expr.member o k).steps fun _ => true).isEmpty then .member o k else .paren (.member o k)
  | e => .paren e

/-- What makes an expression in brackets known depends on where the key stands. -/
def KeyPlace.knows : KeyPlace → Expr → Bool
  | .access => Expr.isIndex
  | .value => Expr.isText
  | .other => fun _ => false

/-- Deletes all parentheses but those that make a difference. -/
def Rewriting.bare : Rewriting where
  text s := .str s
  computed place := .ofBare place.knows
  paren e := e
  parenTarget := .ofBare

abbrev Expr.bare (e : Expr) : Expr := Rewriting.bare.expr e

abbrev Stmt.allBare (script : Script) : Script := Rewriting.bare.stmts script

section

variable {e : Expr}

theorem Expr.isText_of_isIndex (h : e.isIndex = false) : e.isText = false := by
  cases e with
  | num v => rfl
  | _ => exact h

theorem KeyPlace.not_isText {place : KeyPlace} (hplace : place ≠ .other) (h : place.knows e = false) :
    e.isText = false := by
  cases place with
  | access => exact Expr.isText_of_isIndex h
  | value => exact h
  | other => exact absurd rfl hplace

theorem Key.name?_of_not_isText (h : e.isText = false) : (Key.computed e).name? = none :=
  Option.isNone_iff_eq_none.mp (Option.isSome_eq_false_iff.mp h)

theorem Key.suffix_of_not_isIndex (h : e.isIndex = false) : (Key.computed e).suffix = unknownIndex := by
  unfold Key.suffix
  rw [Key.name?_of_not_isText (Expr.isText_of_isIndex h)]
  cases e with
  | num v => simp [Expr.isIndex] at h
  | _ => rfl

end

/-- Whatever a key in brackets becomes, it was not in parentheses, or it still is, or it would not be known
without them either. -/
theorem Key.ofBare_cases (known : Expr → Bool) (e bare : Expr) :
    ((∀ inner, e ≠ .paren inner) ∧ Key.ofBare known e bare = .computed bare) ∨
    (∃ inner, e = .paren inner) ∧ (Key.ofBare known e bare = .computed (.paren bare) ∨
      known bare = false ∧ Key.ofBare known e bare = .computed bare) := by
  cases e with
  | paren inner =>
    refine .inr ⟨⟨inner, rfl⟩, ?_⟩
    cases h : known bare with
    | true => exact .inl (if_pos h)
    | false => exact .inr ⟨rfl, if_neg (Bool.eq_false_iff.mp h)⟩
  | _ => exact .inl ⟨by simp, rfl⟩

theorem Target.ofBare_cases (e : Expr) :
    Target.ofBare e = .paren e ∨
    ∃ o k, e = .member o k ∧ e.steps (fun _ => true) = [] ∧ Target.ofBare e = .member o k := by
  cases e with
  | member o k =>
    simp only [Target.ofBare]
    split
    next h => exact .inr ⟨o, k, rfl, List.isEmpty_iff.mp h, rfl⟩
    next => exact .inl rfl
  | _ => exact .inl rfl

/-- Where nothing happens although all keys are sinks, nothing happens with other sinks either. -/
theorem Node.steps_eq_nil (sink : String → Bool) {n : Node} (h : n.steps (fun _ => true) = []) : n.steps sink = [] := by
  induction n using Node.induction with
  | _ n ih =>
    rw [Node.steps_eq, pieceSteps, List.flatMap_eq_nil_iff] at h ⊢
    intro piece hpiece
    have hnone := h piece hpiece
    cases piece with
    | step st => simp [Piece.steps] at hnone
    | walk m => exact ih _ (Node.part_of_piece hpiece rfl) hnone
    | value key v =>
      cases hname : key.name? with
      | some name => simp [Piece.steps, hname] at hnone
      | none =>
        simp only [Piece.steps, hname] at hnone ⊢
        exact ih _ (Node.part_of_piece hpiece rfl) hnone
    | shorthand name => simp [Piece.steps] at hnone

theorem Rewriting.lawful_bare : Rewriting.bare.Lawful where
  text s := .inl rfl
  name?_computed {place} hplace e := by
    change (Key.ofBare place.knows e e.bare).name? = _
    rcases Key.ofBare_cases place.knows e e.bare with ⟨hparen, heq⟩ | ⟨⟨inner, rfl⟩, heq | ⟨hknown, heq⟩⟩
    · rw [heq]
      exact spelled?_expr hparen
    · rw [heq]
      rfl
    · rw [heq, Key.name?_of_not_isText (KeyPlace.not_isText hplace hknown)]
      rfl
  suffix_computed e := by
    change (Key.ofBare Expr.isIndex e e.bare).suffix = _
    rcases Key.ofBare_cases Expr.isIndex e e.bare with ⟨hparen, heq⟩ | ⟨⟨inner, rfl⟩, heq | ⟨hknown, heq⟩⟩
    · rw [heq]
      exact suffix_computed_expr hparen
    · rw [heq]
      rfl
    · rw [heq, Key.suffix_of_not_isIndex hknown]
      rfl
  steps_computed sink place e := by
    change pieceSteps sink (Key.ofBare place.knows e e.bare).layout = _
    rcases Key.ofBare_cases place.knows e e.bare with ⟨-, heq⟩ | ⟨-, heq | ⟨-, heq⟩⟩
    · simp [heq, Key.layout, Expr.allSteps]
    · simp [heq, Key.layout, Expr.allSteps, Expr.steps]
    · simp [heq, Key.layout, Expr.allSteps]
  path_paren _ := rfl
  reading_paren _ _ _ := rfl
  steps_paren _ _ := rfl
  path?_parenTarget e := by
    change (Target.ofBare e).path? = some e.path
    rcases Target.ofBare_cases e with heq | ⟨o, k, he, -, heq⟩
    · rw [heq]
      rfl
    · rw [heq, he]
      rfl
  steps_parenTarget sink plain e := by
    change pieceSteps sink ((Target.ofBare e).layout plain) = []
    rcases Target.ofBare_cases e with heq | ⟨o, k, he, hnone, heq⟩
    · rw [heq]
      rfl
    · have hsteps : (Node.expr (.member o k)).steps sink = [] := Node.steps_eq_nil sink (he ▸ hnone)
      rw [Node.steps_eq] at hsteps
      rw [heq]
      exact hsteps

end Script

/-- All of a flow but its evidence. -/
def Flow.route (f : Flow) : FlowKind × String × String := (f.kind, f.source, f.sink)

namespace WalkState

variable {p : Patterns}

/-- Two states that differ at most in the evidence of their flows. -/
structure SameButEvidence (s s' : WalkState) : Prop where
  tracker : s.tracker = s'.tracker
  accesses : s.accesses = s'.accesses
  pending : s.pending = s'.pending
  flows : s.flows.map Flow.route = s'.flows.map Flow.route

theorem sameButEvidence_refl (s : WalkState) : s.SameButEvidence s := ⟨rfl, rfl, rfl, rfl⟩

namespace SameButEvidence

variable {s s' : WalkState}

theorem symm (h : s.SameButEvidence s') : s'.SameButEvidence s :=
  ⟨h.tracker.symm, h.accesses.symm, h.pending.symm, h.flows.symm⟩

theorem trans {s'' : WalkState} (h : s.SameButEvidence s') (h' : s'.SameButEvidence s'') :
    s.SameButEvidence s'' :=
  ⟨h.tracker.trans h'.tracker, h.accesses.trans h'.accesses, h.pending.trans h'.pending,
    h.flows.trans h'.flows⟩

theorem latest (h : s.SameButEvidence s') : s.latest = s'.latest := by
  rw [WalkState.latest, h.pending, WalkState.latest]

theorem reading (h : s.SameButEvidence s') (e : Script.Expr) : s.reading p e.bare = s'.reading p e := by
  rw [WalkState.reading, Script.Rewriting.lawful_bare.reading, h.tracker, WalkState.reading]

theorem access (h : s.SameButEvidence s') (names : List String) :
    (s.access names).SameButEvidence (s'.access names) where
  tracker := h.tracker
  accesses := by rw [WalkState.access, WalkState.access, h.accesses]
  pending := h.pending
  flows := h.flows

theorem push (h : s.SameButEvidence s') (taint : Option String) :
    (s.push taint).SameButEvidence (s'.push taint) where
  tracker := h.tracker
  accesses := h.accesses
  pending := congrArg (taint :: ·) h.pending
  flows := h.flows

theorem report (h : s.SameButEvidence s') (kind : FlowKind) (source sink evidence evidence' : String) :
    (s.report ⟨kind, source, sink, evidence⟩).SameButEvidence
      (s'.report ⟨kind, source, sink, evidence'⟩) where
  tracker := h.tracker
  accesses := h.accesses
  pending := h.pending
  flows := by simp [h.flows, Flow.route]

theorem declare (h : s.SameButEvidence s') (target : BindTarget) (name : String) (taint : Option String) :
    (s.declare target name taint).SameButEvidence (s'.declare target name taint) where
  tracker := by simp only [declare_tracker, h.tracker]
  accesses := h.accesses
  pending := h.pending
  flows := h.flows

theorem assign (h : s.SameButEvidence s') (plain : Bool) (name : String) (taint : Option String) :
    (s.assign plain name taint).SameButEvidence (s'.assign plain name taint) := by
  obtain ⟨tracker, flows, accesses, pending⟩ := s
  obtain ⟨tracker', flows', accesses', pending'⟩ := s'
  obtain ⟨rfl, rfl, rfl, hflows⟩ := h
  unfold WalkState.assign
  dsimp only
  repeat' split
  all_goals exact ⟨rfl, rfl, rfl, hflows⟩

/-- What is reported of a value that is checked against a sink. -/
theorem checked (h : s.SameButEvidence s') (kind : FlowKind) (sink : String) (e : Script.Expr) :
    (match (s.reading p e.bare).origin with
      | some origin => (s.access (s.reading p e.bare).unbound).report ⟨kind, origin, sink, e.bare.describe⟩
      | none => s.access (s.reading p e.bare).unbound).SameButEvidence
    (match (s'.reading p e).origin with
      | some origin => (s'.access (s'.reading p e).unbound).report ⟨kind, origin, sink, e.describe⟩
      | none => s'.access (s'.reading p e).unbound) := by
  rw [h.reading]
  split
  · exact (h.access _).report _ _ _ _ _
  · exact h.access _

theorem checkArgs (callee : String) (args : List Script.Expr) (h : s.SameButEvidence s') :
    ((args.map Script.Expr.bare).foldl (checkArg p callee) s).SameButEvidence
      (args.foldl (checkArg p callee) s') := by
  induction args generalizing s s' with
  | nil => exact h
  | cons arg args ih => exact ih (h.checked .call callee arg)

theorem checkAssign (h : s.SameButEvidence s') (target : String) (value : Script.Expr)
    (taint : Option String) :
    (s.checkAssign p target value.bare taint).SameButEvidence (s'.checkAssign p target value taint) := by
  unfold WalkState.checkAssign
  cases taint with
  | none =>
    dsimp only
    split
    · exact h.report _ _ _ _ _
    · exact h
  | some origin =>
    dsimp only
    split <;> split
    · exact (h.report _ _ _ _ _).report _ _ _ _ _
    · exact h.report _ _ _ _ _
    · exact h.report _ _ _ _ _
    · exact h

theorem step (h : s.SameButEvidence s') (st : Step) :
    (s.step p (Script.Rewriting.bare.step st)).SameButEvidence (s'.step p st) := by
  rw [Script.Rewriting.step]
  cases st with
  | enter kind => exact ⟨congrArg (·.enter kind) h.tracker, h.accesses, h.pending, h.flows⟩
  | leave => exact ⟨congrArg Tracker.leave h.tracker, h.accesses, h.pending, h.flows⟩
  | clean => exact h.push none
  | note e =>
    simp only [Step.mapExprs, WalkState.step, evaluate, h.reading]
    exact (h.access _).push _
  | noteDefault e =>
    simp only [Step.mapExprs, WalkState.step, evaluate, h.reading, h.latest]
    split
    · exact h.push _
    · exact (h.access _).push _
  | forget => exact ⟨h.tracker, h.accesses, congrArg List.tail h.pending, h.flows⟩
  | declare target name =>
    simp only [Step.mapExprs, WalkState.step, h.latest]
    exact h.declare target name _
  | assign plain name =>
    simp only [Step.mapExprs, WalkState.step, h.latest]
    exact h.assign plain name _
  | checkCall callee args =>
    simp only [Step.mapExprs, WalkState.step]
    split
    · exact h.checkArgs callee args
    · exact h
  | checkAssign target value =>
    simp only [Step.mapExprs, WalkState.step, h.latest]
    exact h.checkAssign target value _
  | checkProperty key value => exact h.checked .property key value

theorem run (h : s.SameButEvidence s') (steps : List Step) :
    (s.run p (steps.map Script.Rewriting.bare.step)).SameButEvidence (s'.run p steps) := by
  induction steps generalizing s s' with
  | nil => exact h
  | cons st steps ih => exact ih (h.step st)

theorem findings (h : s.SameButEvidence s') : s.findings.map Finding.key = s'.findings.map Finding.key := by
  have hkey : Finding.key ∘ Flow.finding =
      (fun r => (r.2.1, r.2.2, (Flow.mk r.1 r.2.1 r.2.2 "").description)) ∘ Flow.route := rfl
  rw [WalkState.findings, WalkState.findings, List.map_map, List.map_map, hkey, ← List.map_map, h.flows,
    List.map_map]

end SameButEvidence

theorem walk_bare (s : WalkState) (script : Script) :
    (s.walk p (Script.Stmt.allBare script)).SameButEvidence (s.walk p script) := by
  rw [walk, walk, Script.Rewriting.lawful_bare.allSteps]
  exact s.sameButEvidence_refl.run _

/-- Scripts that are the same without their parentheses, but for those that make a difference, are walked
alike: they have findings of the same sources, sinks and descriptions in the same order, and leave the same
unbound names and the same scopes. -/
theorem parentheses_irrelevant (p : Patterns) (s : WalkState) (script script' : Script)
    (h : Script.Stmt.allBare script = Script.Stmt.allBare script') :
    (s.walk p script).findings.map Finding.key = (s.walk p script').findings.map Finding.key ∧
      (s.walk p script).accesses = (s.walk p script').accesses ∧
      (s.walk p script).tracker = (s.walk p script').tracker := by
  have hbare := s.walk_bare (p := p) script'
  rw [← h] at hbare
  have hsame := (s.walk_bare (p := p) script).symm.trans hbare
  exact ⟨hsame.findings, hsame.accesses, hsame.tracker⟩

/-- `((document.body)[(key)]) = (location).hash; (eval)("" + (name))` -/
def withParentheses : Script :=
  [.expr (.assign .plain
      (.paren (.member (.paren (.member (.ident "document") (.name "body"))) (.computed (.paren (.ident "key")))))
      (.member (.paren (.ident "location")) (.name "hash"))),
    .expr (.call (.paren (.ident "eval")) [.item (.binary .add (.str "") (.paren (.ident "name")))])]

/-- The same without parentheses: `document.body[key] = location.hash; eval("" + name)` -/
def withoutParentheses : Script :=
  [.expr (.assign .plain
      (.member (.member (.ident "document") (.name "body")) (.computed (.ident "key")))
      (.member (.ident "location") (.name "hash"))),
    .expr (.call (.ident "eval") [.item (.binary .add (.str "") (.ident "name"))])]

theorem parentheses_irrelevant_withParentheses :
    let p := Patterns.ofTexts ["location.hash", "name"] ["body[?]", "eval"]
    let s : WalkState := {}
    Script.Stmt.allBare withParentheses = Script.Stmt.allBare withoutParentheses ∧
      (s.walk p withParentheses).findings.map Finding.key =
        (s.walk p withoutParentheses).findings.map Finding.key ∧
      (s.walk p withoutParentheses).findings.map (·.sink) = ["document.body[?]", "eval"] := by
  intro p s
  have hbare : Script.Stmt.allBare withParentheses = Script.Stmt.allBare withoutParentheses := rfl
  exact ⟨hbare, (parentheses_irrelevant p s _ _ hbare).1, by decide⟩

/-- Parentheses that make a difference: around a name that is assigned, as in `(x) = location.hash; eval(x)`,
and around a text in brackets, as in `eval(location[("hash")])`. Either way the flow is not found, and it is
without them. -/
theorem parentheses_hide_flows :
    let p := Patterns.ofTexts ["location.hash"] ["eval"]
    let sinks (script : Script) := (({} : WalkState).walk p script).findings.map (·.sink)
    let assigning (target : Script.Target) : Script :=
      [.expr (.assign .plain target (.member (.ident "location") (.name "hash"))),
        .expr (.call (.ident "eval") [.item (.ident "x")])]
    let reading (key : Script.Expr) : Script :=
      [.expr (.call (.ident "eval") [.item (.member (.ident "location") (.computed key))])]
    sinks (assigning (.paren (.ident "x"))) = [] ∧ sinks (assigning (.ident "x")) = ["eval"] ∧
      sinks (reading (.paren (.str "hash"))) = [] ∧ sinks (reading (.str "hash")) = ["eval"] := by
  decide

end WalkState

end DomFlow
