import DomFlow.Proofs.Rewriting
import DomFlow.Script.Reads

/-! # Spellings of keys

A property may be written after a point, as in `location.hash`, or as a text in brackets, as in
`location["hash"]`, and the key of an object literal as a name, as a text or as a text in brackets. If every
key whose text is known is written as a name, scripts that differ in such spellings become the same, and
nothing of what the static pass reads off them changes: neither paths, nor readings, nor the names that are
read, nor the steps. So a walk does not tell them apart. -/

namespace DomFlow

namespace Script

/-- Writes all keys that are texts as names. -/
def Rewriting.dotted : Rewriting where
  text s := .name s
  computed _ original rewritten :=
    match original.spelled? with
    | some s => .name s
    | none => .computed rewritten
  paren e := .paren e
  parenTarget e := .paren e

abbrev Expr.dotted (e : Expr) : Expr := Rewriting.dotted.expr e

abbrev Key.dotted (k : Key) : Key := Rewriting.dotted.key .other k

abbrev Stmt.allDotted (script : Script) : Script := Rewriting.dotted.stmts script

theorem Rewriting.paren_dotted (e : Expr) : dotted.paren e = .paren e := rfl

theorem Rewriting.computed_dotted (place : KeyPlace) (e e' : Expr) : dotted.computed place e e' =
    match e.spelled? with
    | some s => .name s
    | none => .computed e' := rfl

theorem Rewriting.key_dotted (place : KeyPlace) (k : Key) : Rewriting.dotted.key place k = k.dotted := by
  cases k <;> rfl

/-- What spells a text is a string or a template without substitutions. -/
theorem Expr.spelled?_cases {s : String} (e : Expr) (h : e.spelled? = some s) :
    e = .str s ∨ ∃ quasis, e = .template quasis [] := by
  cases e with
  | str text => exact .inl (congrArg _ (Option.some.inj h))
  | template quasis es =>
    cases es with
    | nil => exact .inr ⟨quasis, rfl⟩
    | cons _ _ => simp [Expr.spelled?] at h
  | _ => simp [Expr.spelled?] at h

theorem Expr.reads_of_spelled? {e : Expr} {s : String} (h : e.spelled? = some s) : e.reads = [] := by
  rcases e.spelled?_cases h with rfl | ⟨quasis, rfl⟩ <;> rfl

theorem Expr.steps_of_spelled? {e : Expr} {s : String} (sink : String → Bool) (h : e.spelled? = some s) :
    e.steps sink = [] := by
  rcases e.spelled?_cases h with rfl | ⟨quasis, rfl⟩ <;> rfl

theorem Expr.spelled?_dotted (e : Expr) : e.dotted.spelled? = e.spelled? := by
  cases e with
  | paren inner => rfl
  | _ => exact Rewriting.spelled?_expr (by simp)

/-- A key in brackets becomes a name or stays in brackets. -/
theorem Key.dotted_computed_cases (e : Expr) :
    (∃ s, e.spelled? = some s ∧ (Key.computed e).dotted = .name s) ∨
      e.spelled? = none ∧ (Key.computed e).dotted = .computed e.dotted := by
  cases h : e.spelled? with
  | some s => exact .inl ⟨s, rfl, by simp only [Rewriting.key, Rewriting.computed_dotted, h]⟩
  | none => exact .inr ⟨rfl, by simp only [Rewriting.key, Rewriting.computed_dotted, h]⟩

theorem Rewriting.lawful_dotted : Rewriting.dotted.Lawful where
  text s := .inr rfl
  name?_computed _ e := by
    change (Key.computed e).dotted.name? = e.spelled?
    rcases Key.dotted_computed_cases e with ⟨s, hs, heq⟩ | ⟨-, heq⟩
    · rw [heq, hs]
      rfl
    · rw [heq]
      exact e.spelled?_dotted
  suffix_computed e := by
    change (Key.computed e).dotted.suffix = (Key.computed e).suffix
    rcases Key.dotted_computed_cases e with ⟨s, hs, heq⟩ | ⟨-, heq⟩
    · rw [heq]
      simp [Key.suffix, Key.name?, hs]
    · rw [heq]
      cases e with
      | paren inner => rfl
      | _ => exact suffix_computed_expr (by simp)
  steps_computed sink _ e := by
    change pieceSteps sink (Key.computed e).dotted.layout = e.dotted.steps sink
    rcases Key.dotted_computed_cases e with ⟨s, hs, heq⟩ | ⟨-, heq⟩
    · rw [heq, Expr.steps_of_spelled? sink (e.spelled?_dotted.trans hs)]
      rfl
    · rw [heq]
      simp [Key.layout, Expr.allSteps]
  path_paren _ := rfl
  reading_paren p look e := by rw [paren_dotted, Expr.reading]
  steps_paren sink e := by rw [paren_dotted, Expr.steps]
  path?_parenTarget _ := rfl
  steps_parenTarget _ _ _ := rfl

theorem Expr.path_dotted (e : Expr) : e.dotted.path = e.path := Rewriting.lawful_dotted.path e

theorem Expr.describe_dotted : ∀ e : Expr, e.dotted.describe = e.describe
  | .binary op l r => by
    simp [Expr.dotted, Rewriting.expr, Expr.describe, Expr.describe_dotted l, Expr.describe_dotted r]
  | .member o k => (Expr.member o k).path_dotted
  | .optMember short o k => (Expr.optMember short o k).path_dotted
  | .call f args => (Expr.call f args).path_dotted
  | .optCall short f args => (Expr.optCall short f args).path_dotted
  | .paren e => (Expr.paren e).path_dotted
  | .ident _ | .thisRef | .superCall _ | .importCall _ => rfl
  | .null | .bool _ | .num _ | .bigint _ | .str _ | .regex _ _ | .template _ _ | .tagged _ _ _ | .array _
  | .object _ | .func _ _ _ _ | .arrow _ _ _ | .classExpr _ _ _ | .unary _ _ | .update _ _ _
  | .assign _ _ _ | .cond _ _ _ | .new _ _ | .superMember _ | .seq _ | .await _
  | .yield _ _ | .newTarget | .hiddenName _ => rfl

namespace Rewriting

mutual

theorem reads_expr : ∀ e : Expr, (dotted.expr e).reads = e.reads
  | .member o k | .optMember _ o k => by
    simp only [expr, Expr.reads, reads_expr o, reads_key .access k]
  | .call f args | .optCall _ f args | .new f args => by
    simp only [expr, Expr.reads, reads_expr f, reads_elems args]
  | .superCall args | .importCall args | .array args => by
    simp only [expr, Expr.reads, reads_elems args]
  | .binary _ l r => by simp only [expr, Expr.reads, reads_expr l, reads_expr r]
  | .unary _ e | .update _ _ e | .await e => by simp only [expr, Expr.reads, reads_expr e]
  | .paren e => by simp only [expr, paren_dotted, Expr.reads, reads_expr e]
  | .assign _ t v => by simp only [expr, Expr.reads, reads_target t, reads_expr v]
  | .cond test yes no => by
    simp only [expr, Expr.reads, reads_expr test, reads_expr yes, reads_expr no]
  | .seq es | .template _ es => by simp only [expr, Expr.reads, reads_exprs es]
  | .tagged tag _ es => by
    simp only [expr, Expr.reads, reads_expr tag, reads_exprs es]
  | .object props => by simp only [expr, Expr.reads, reads_properties props]
  | .ident _ | .thisRef | .null | .bool _ | .num _ | .bigint _ | .str _ | .regex _ _ | .func _ _ _ _
  | .arrow _ _ _ | .classExpr _ _ _ | .superMember _ | .yield _ _ | .newTarget | .hiddenName _ => by
    simp only [expr, Expr.reads]

theorem reads_exprs : ∀ es : List Expr, Expr.allReads (dotted.exprs es) = Expr.allReads es
  | [] => rfl
  | e :: r => by simp only [exprs, Expr.allReads, reads_expr e, reads_exprs r]

theorem reads_elems : ∀ elems : List Elem, Elem.allReads (dotted.elems elems) = Elem.allReads elems
  | [] => rfl
  | .hole :: r => by simp only [elems, Elem.allReads, reads_elems r]
  | .item e :: r | .spread e :: r => by
    simp only [elems, Elem.allReads, reads_expr e, reads_elems r]

theorem reads_properties : ∀ props : List Property,
    Property.allReads (dotted.properties props) = Property.allReads props
  | [] => rfl
  | .keyValue k v :: r => by
    simp only [properties, property, Property.allReads, reads_key .value k,
      reads_expr v, reads_properties r]
  | .spread e :: r => by
    simp only [properties, property, Property.allReads, reads_expr e,
      reads_properties r]
  | .shorthand _ :: r | .cover _ _ :: r | .method _ _ _ _ :: r | .getter _ _ :: r | .setter _ _ _ :: r => by
    simp only [properties, property, Property.allReads, reads_properties r]

theorem reads_key (place : KeyPlace) : ∀ k : Key, (dotted.key place k).reads = k.reads
  | .computed e => by
    cases h : e.spelled? with
    | some s => simp only [key, computed_dotted, h, Key.reads, Expr.reads_of_spelled? h]
    | none => simp only [key, computed_dotted, h, Key.reads, reads_expr e]
  | .name _ | .hidden _ | .str _ | .num _ | .bigint _ => rfl

theorem reads_target : ∀ t : Target, (dotted.target t).reads = t.reads
  | .member o _ => by simp only [target, Target.reads, reads_expr o]
  | .ident _ | .superMember _ | .paren _ | .pattern _ => rfl

end

end Rewriting

theorem Expr.reads_dotted (e : Expr) : e.dotted.reads = e.reads := Rewriting.reads_expr e

end Script

namespace WalkState

variable {p : Patterns}

theorem evaluate_dotted (s : WalkState) (e : Script.Expr) : s.evaluate p e.dotted = s.evaluate p e := by
  simp only [evaluate, reading, Script.Rewriting.lawful_dotted.reading]

theorem checkArg_dotted (callee : String) (s : WalkState) (e : Script.Expr) :
    checkArg p callee s e.dotted = checkArg p callee s e := by
  simp only [checkArg, evaluate_dotted, Script.Expr.describe_dotted]

theorem step_dotted (s : WalkState) (st : Step) : s.step p (Script.Rewriting.dotted.step st) = s.step p st := by
  rw [Script.Rewriting.step]
  cases st with
  | note e => simp only [Step.mapExprs, step, evaluate_dotted]
  | noteDefault e => simp only [Step.mapExprs, step, evaluate_dotted]
  | checkCall callee args => simp only [Step.mapExprs, step, List.foldl_map, checkArg_dotted]
  | checkAssign target value => simp only [Step.mapExprs, step, checkAssign, Script.Expr.describe_dotted]
  | checkProperty key value =>
    simp only [Step.mapExprs, step, checkProperty, evaluate_dotted, Script.Expr.describe_dotted]
  | enter _ | leave | clean | forget | declare _ _ | assign _ _ => rfl

theorem run_dotted (steps : List Step) (s : WalkState) :
    s.run p (steps.map Script.Rewriting.dotted.step) = s.run p steps := by
  induction steps generalizing s with
  | nil => rfl
  | cons st steps ih => rw [List.map_cons, run_cons, run_cons, step_dotted, ih]

theorem walk_dotted (s : WalkState) (script : Script) :
    s.walk p (Script.Stmt.allDotted script) = s.walk p script := by
  rw [walk, walk, Script.Rewriting.lawful_dotted.allSteps, run_dotted]

/-- Scripts that differ in the spelling of keys are walked alike, with the same findings, unbound names and
scopes; and expressions that differ so have the same path, the same taint and the same dependencies. -/
theorem spelling_of_keys_irrelevant (p : Patterns) (s : WalkState) :
    (∀ script script' : Script, Script.Stmt.allDotted script = Script.Stmt.allDotted script' →
      s.walk p script = s.walk p script') ∧
    ∀ e e' : Script.Expr, e.dotted = e'.dotted →
      e.path = e'.path ∧ s.evaluate p e = s.evaluate p e' ∧ e.dependencies = e'.dependencies := by
  refine ⟨fun script script' h => ?_, fun e e' h => ⟨?_, ?_, ?_⟩⟩
  · rw [← s.walk_dotted script, h, s.walk_dotted]
  · rw [← e.path_dotted, h, e'.path_dotted]
  · rw [← s.evaluate_dotted e, h, s.evaluate_dotted]
  · rw [Script.Expr.dependencies, Script.Expr.dependencies, ← e.reads_dotted, h, e'.reads_dotted]

/-- `document.body.innerHTML = window?.location.hash; log({onload: name, a: document.cookie})` -/
def withPoints : Script :=
  [.expr (.assign .plain (.member (.member (.ident "document") (.name "body")) (.name "innerHTML"))
      (.member (.optMember true (.ident "window") (.name "location")) (.name "hash"))),
    .expr (.call (.ident "log") [.item (.object [.keyValue (.name "onload") (.ident "name"),
      .keyValue (.name "a") (.member (.ident "document") (.name "cookie"))])])]

/-- The same with brackets: `document["body"]["innerHTML"] = window?.["location"].hash;
log({["onload"]: name, "a": document["cookie"]})` -/
def withBrackets : Script :=
  [.expr (.assign .plain (.member (.member (.ident "document") (.computed (.str "body")))
        (.computed (.str "innerHTML")))
      (.member (.optMember true (.ident "window") (.computed (.str "location"))) (.name "hash"))),
    .expr (.call (.ident "log") [.item (.object [.keyValue (.computed (.str "onload")) (.ident "name"),
      .keyValue (.str "a") (.member (.ident "document") (.computed (.str "cookie")))])])]

theorem spelling_of_keys_irrelevant_withBrackets :
    let p := Patterns.ofTexts ["location.hash", "name"] ["innerHTML", "onload"]
    let s : WalkState := {}
    Script.Stmt.allDotted withBrackets = Script.Stmt.allDotted withPoints ∧
      s.walk p withBrackets = s.walk p withPoints ∧
      (s.walk p withBrackets).flows.map (·.sink) = ["document.body.innerHTML", "onload"] := by
  intro p s
  have hdotted : Script.Stmt.allDotted withBrackets = Script.Stmt.allDotted withPoints := rfl
  have hwalk := (spelling_of_keys_irrelevant p s).1 withBrackets withPoints hdotted
  refine ⟨hdotted, hwalk, ?_⟩
  rw [hwalk]
  decide

end WalkState

end DomFlow
