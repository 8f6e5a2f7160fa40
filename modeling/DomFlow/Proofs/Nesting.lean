import DomFlow.Flow.Lower

/-! # Nesting of the steps of a script

The steps of every construct are nested: a scope that is opened is closed again, taint that is noted is
forgotten again, and a value is checked under a key only if that key is a sink. What a run keeps can then
be proved by induction on the nesting, and the syntax need not be looked at again. -/

namespace DomFlow

variable {sink : String → Bool}

/-- Step lists whose scopes and notes match. -/
inductive Nested (sink : String → Bool) : List Step → Prop
  | nil : Nested sink []
  | append {a b : List Step} : Nested sink a → Nested sink b → Nested sink (a ++ b)
  | scope {a : List Step} (kind : ScopeKind) :
      Nested sink a → Nested sink ([.enter kind] ++ a ++ [.leave])
  | clean {a : List Step} : Nested sink a → Nested sink ([.clean] ++ a ++ [.forget])
  | note {a : List Step} (e : Script.Expr) :
      Nested sink a → Nested sink ([.note e] ++ a ++ [.forget])
  | noteDefault {a : List Step} (e : Script.Expr) :
      Nested sink a → Nested sink ([.noteDefault e] ++ a ++ [.forget])
  | declare (target : BindTarget) (name : String) : Nested sink [.declare target name]
  | assign (plain : Bool) (name : String) : Nested sink [.assign plain name]
  | checkCall (callee : String) (args : List Script.Expr) : Nested sink [.checkCall callee args]
  | checkAssign (target : String) (value : Script.Expr) : Nested sink [.checkAssign target value]
  | checkProperty {key : String} (h : sink key = true) (value : Script.Expr) :
      Nested sink [.checkProperty key value]

namespace Nested

/-- A scope with two parts, such as the parameters and the body of a function. -/
theorem scope_pair {a b : List Step} (kind : ScopeKind) (ha : Nested sink a) (hb : Nested sink b) :
    Nested sink ([Step.enter kind] ++ a ++ b ++ [Step.leave]) := by
  simpa using Nested.scope kind (ha.append hb)

/-- A value is checked only under the key of a sink. -/
theorem sink_of_checkProperty {steps : List Step} (h : Nested sink steps) {key : String}
    {value : Script.Expr} (hmem : .checkProperty key value ∈ steps) : sink key = true := by
  induction h with
  | nil => simp at hmem
  | append _ _ iha ihb => exact (List.mem_append.mp hmem).elim iha ihb
  | scope _ _ ih | clean _ ih | note _ _ ih | noteDefault _ _ ih => exact ih (by simpa using hmem)
  | declare _ _ | assign _ _ | checkCall _ _ | checkAssign _ _ => simp at hmem
  | checkProperty hkey _ =>
    obtain ⟨rfl, -⟩ : key = _ ∧ value = _ := by simpa using hmem
    exact hkey

end Nested

namespace Script

theorem Expr.steps_assign (op : AssignOp) (t : Target) (v : Expr) :
    (Expr.assign op t v).steps sink = v.steps sink ++ [Step.note v] ++ t.steps sink (op = .plain) ++
      (t.path?.map fun path => [Step.checkAssign path v]).getD [] ++ [Step.forget] := by
  rw [Expr.steps]
  cases t.path? <;> rfl

theorem Stmt.steps_forLoop (init : Option Stmt) (test update : Option Expr) (body : Stmt) :
    (Stmt.forLoop init test update body).steps sink = [Step.enter .block] ++
      (init.map (Stmt.steps sink)).getD [] ++ (test.map (Expr.steps sink)).getD [] ++
      (update.map (Expr.steps sink)).getD [] ++ body.steps sink ++ [Step.leave] := by
  cases init <;> cases test <;> cases update <;> rfl

theorem Stmt.steps_tryCatch (block : List Stmt) (handler : Option Catch)
    (finalizer : Option (List Stmt)) :
    (Stmt.tryCatch block handler finalizer).steps sink =
      [Step.enter .block] ++ Stmt.allSteps sink block ++ [Step.leave] ++
      (handler.map (Catch.steps sink)).getD [] ++
      (finalizer.map fun body => Stmt.steps sink (.block body)).getD [] := by
  cases handler <;> cases finalizer <;> rfl

theorem defineSteps_nested (name : String) : Nested sink (defineSteps name) :=
  .clean (.declare .current name)

mutual

theorem Expr.steps_nested : ∀ e : Expr, Nested sink (e.steps sink)
  | .assign op t v => by
    have hcheck : Nested sink ((t.path?.map fun path => [Step.checkAssign path v]).getD []) := by
      cases t.path? with
      | none => exact .nil
      | some path => exact .checkAssign path v
    have hnote := Nested.note v ((Target.steps_nested (op = .plain) t).append hcheck)
    simpa [Expr.steps_assign] using (Expr.steps_nested v).append hnote
  | .call f args => by
    simpa only [Expr.steps] using
      ((Expr.steps_nested f).append (Elem.steps_nested args)).append (.checkCall _ _)
  | .superCall args => by
    simpa only [Expr.steps] using (Elem.steps_nested args).append (.checkCall _ _)
  | .importCall args => by
    simpa only [Expr.steps] using (Elem.steps_nested args).append (.checkCall _ _)
  | .new f args => by
    simpa only [Expr.steps] using
      ((Expr.steps_nested f).append (Elem.steps_nested args)).append (.checkCall _ _)
  | .optCall _ f args => by
    simpa only [Expr.steps] using
      ((Expr.steps_nested f).append (Elem.steps_nested args)).append (.checkCall _ _)
  | .object props => by simpa only [Expr.steps] using Property.steps_nested props
  | .func name _ params body => by
    have hname : Nested sink ((name.map defineSteps).getD []) := by
      cases name with
      | none => exact .nil
      | some n => exact defineSteps_nested n
    have hbody := Nested.scope_pair .function (Pat.paramSteps_nested params) (Stmt.allSteps_nested body)
    simpa [Expr.steps] using Nested.scope_pair .function hname hbody
  | .arrow _ params body => by
    simpa only [Expr.steps] using
      Nested.scope_pair .function (Pat.paramSteps_nested params) (Stmt.allSteps_nested body)
  | .paren e => by simpa only [Expr.steps] using Expr.steps_nested e
  | .seq es => by simpa only [Expr.steps] using Expr.allSteps_nested es
  | .binary _ l r => by
    simpa only [Expr.steps] using (Expr.steps_nested l).append (Expr.steps_nested r)
  | .cond test yes no => by
    simpa only [Expr.steps] using
      ((Expr.steps_nested test).append (Expr.steps_nested yes)).append (Expr.steps_nested no)
  | .unary _ e => by simpa only [Expr.steps] using Expr.steps_nested e
  | .update _ _ e => by simpa only [Expr.steps] using Expr.steps_nested e
  | .await e => by simpa only [Expr.steps] using Expr.steps_nested e
  | .yield _ (some e) => by simpa only [Expr.steps] using Expr.steps_nested e
  | .array elems => by simpa only [Expr.steps] using Elem.steps_nested elems
  | .template _ es => by simpa only [Expr.steps] using Expr.allSteps_nested es
  | .tagged tag _ es => by
    simpa only [Expr.steps] using (Expr.steps_nested tag).append (Expr.allSteps_nested es)
  | .member o k => by
    simpa only [Expr.steps] using (Expr.steps_nested o).append (Key.steps_nested k)
  | .optMember _ o k => by
    simpa only [Expr.steps] using (Expr.steps_nested o).append (Key.steps_nested k)
  | .yield _ none | .ident _ | .thisRef | .null | .bool _ | .num _ | .bigint _ | .str _ | .regex _ _
  | .classExpr _ _ _ | .superMember _ | .newTarget | .hiddenName _ => by
    simpa only [Expr.steps] using Nested.nil

theorem Expr.allSteps_nested : ∀ es : List Expr, Nested sink (Expr.allSteps sink es)
  | [] => by simpa only [Expr.allSteps] using Nested.nil
  | e :: r => by simpa only [Expr.allSteps] using (Expr.steps_nested e).append (Expr.allSteps_nested r)

theorem Elem.steps_nested : ∀ es : List Elem, Nested sink (Elem.steps sink es)
  | [] => by simpa only [Elem.steps] using Nested.nil
  | .hole :: r => by simpa only [Elem.steps] using Elem.steps_nested r
  | .item e :: r => by simpa only [Elem.steps] using (Expr.steps_nested e).append (Elem.steps_nested r)
  | .spread e :: r => by simpa only [Elem.steps] using (Expr.steps_nested e).append (Elem.steps_nested r)

theorem Key.steps_nested : ∀ k : Key, Nested sink (k.steps sink)
  | .computed e => by simpa only [Key.steps] using Expr.steps_nested e
  | .name _ | .hidden _ | .str _ | .num _ | .bigint _ => by simpa only [Key.steps] using Nested.nil

theorem Property.steps_nested : ∀ ps : List Property, Nested sink (Property.steps sink ps)
  | [] => by simpa only [Property.steps] using Nested.nil
  | .keyValue k v :: r => by
    have hkey : Nested sink (k.steps sink) := Key.steps_nested k
    have hrest : Nested sink (Property.steps sink r) := Property.steps_nested r
    simp only [Property.steps]
    split
    · split
      next h => exact (hkey.append (.checkProperty h v)).append hrest
      next => exact (hkey.append (Expr.steps_nested v)).append hrest
    · exact (hkey.append (Expr.steps_nested v)).append hrest
  | .shorthand n :: r => by
    have hcheck : Nested sink (if sink n then [.checkProperty n (.ident n)] else []) := by
      split
      next h => exact .checkProperty h _
      next => exact .nil
    simpa only [Property.steps] using hcheck.append (Property.steps_nested r)
  | .spread e :: r => by
    simpa only [Property.steps] using (Expr.steps_nested e).append (Property.steps_nested r)
  | .method _ _ params body :: r => by
    have hbody := Nested.scope_pair .function (Pat.paramSteps_nested params) (Stmt.allSteps_nested body)
    simpa only [Property.steps] using hbody.append (Property.steps_nested r)
  | .getter _ body :: r => by
    have hbody := Nested.scope .function (Stmt.allSteps_nested body)
    simpa only [Property.steps] using hbody.append (Property.steps_nested r)
  | .setter _ param body :: r => by
    have hbody := Nested.scope_pair .function (.clean (Pat.bindSteps_nested .current param))
      (Stmt.allSteps_nested body)
    simpa [Property.steps] using hbody.append (Property.steps_nested r)
  | .cover _ _ :: r => by simpa only [Property.steps] using Property.steps_nested r

theorem Target.steps_nested (plain : Bool) : ∀ t : Target, Nested sink (t.steps sink plain)
  | .ident n => by simpa only [Target.steps] using Nested.assign plain n
  | .member o k => by simpa only [Target.steps] using (Expr.steps_nested o).append (Key.steps_nested k)
  | .pattern p => by simpa only [Target.steps] using Pat.assignSteps_nested plain p
  | .superMember _ | .paren _ => by simpa only [Target.steps] using Nested.nil

theorem Pat.bindSteps_nested (target : BindTarget) : ∀ p : Pat, Nested sink (p.bindSteps sink target)
  | .ident n => by simpa only [Pat.bindSteps] using Nested.declare target n
  | .array elems => by simpa only [Pat.bindSteps] using Pat.bindAllSteps_nested target elems
  | .object props => by simpa only [Pat.bindSteps] using PatProp.bindSteps_nested target props
  | .rest p => by simpa only [Pat.bindSteps] using Pat.bindSteps_nested target p
  | .withDefault p d => by
    simpa [Pat.bindSteps] using
      (Expr.steps_nested d).append (.noteDefault d (Pat.bindSteps_nested target p))
  | .target _ => by simpa only [Pat.bindSteps] using Nested.nil

theorem Pat.bindAllSteps_nested (target : BindTarget) :
    ∀ ps : List (Option Pat), Nested sink (Pat.bindAllSteps sink target ps)
  | [] => by simpa only [Pat.bindAllSteps] using Nested.nil
  | none :: r => by simpa only [Pat.bindAllSteps] using Pat.bindAllSteps_nested target r
  | some p :: r => by
    simpa only [Pat.bindAllSteps] using
      (Pat.bindSteps_nested target p).append (Pat.bindAllSteps_nested target r)

theorem PatProp.bindSteps_nested (target : BindTarget) :
    ∀ ps : List PatProp, Nested sink (PatProp.bindSteps sink target ps)
  | [] => by simpa only [PatProp.bindSteps] using Nested.nil
  | .keyValue _ p :: r => by
    simpa only [PatProp.bindSteps] using
      (Pat.bindSteps_nested target p).append (PatProp.bindSteps_nested target r)
  | .shorthand n none :: r => by
    simpa only [PatProp.bindSteps] using
      (Nested.declare target n).append (PatProp.bindSteps_nested target r)
  | .shorthand n (some d) :: r => by
    have hd := (Expr.steps_nested d).append (.noteDefault d (.declare target n))
    simpa [PatProp.bindSteps] using hd.append (PatProp.bindSteps_nested target r)
  | .rest p :: r => by
    simpa only [PatProp.bindSteps] using
      (Pat.bindSteps_nested target p).append (PatProp.bindSteps_nested target r)

theorem Pat.paramSteps_nested : ∀ ps : List Pat, Nested sink (Pat.paramSteps sink ps)
  | [] => by simpa only [Pat.paramSteps] using Nested.nil
  | p :: r => by
    simpa only [Pat.paramSteps] using
      (Nested.clean (Pat.bindSteps_nested .current p)).append (Pat.paramSteps_nested r)

theorem Pat.assignSteps_nested (plain : Bool) : ∀ p : Pat, Nested sink (p.assignSteps sink plain)
  | .ident n => by simpa only [Pat.assignSteps] using Nested.assign plain n
  | .array elems => by simpa only [Pat.assignSteps] using Pat.assignAllSteps_nested plain elems
  | .object props => by simpa only [Pat.assignSteps] using PatProp.assignSteps_nested plain props
  | .rest p => by simpa only [Pat.assignSteps] using Pat.assignSteps_nested plain p
  | .withDefault p _ => by simpa only [Pat.assignSteps] using Pat.assignSteps_nested plain p
  | .target e => by simpa only [Pat.assignSteps] using Expr.steps_nested e

theorem Pat.assignAllSteps_nested (plain : Bool) :
    ∀ ps : List (Option Pat), Nested sink (Pat.assignAllSteps sink plain ps)
  | [] => by simpa only [Pat.assignAllSteps] using Nested.nil
  | none :: r => by simpa only [Pat.assignAllSteps] using Pat.assignAllSteps_nested plain r
  | some p :: r => by
    simpa only [Pat.assignAllSteps] using
      (Pat.assignSteps_nested plain p).append (Pat.assignAllSteps_nested plain r)

theorem PatProp.assignSteps_nested (plain : Bool) :
    ∀ ps : List PatProp, Nested sink (PatProp.assignSteps sink plain ps)
  | [] => by simpa only [PatProp.assignSteps] using Nested.nil
  | .keyValue _ p :: r => by
    simpa only [PatProp.assignSteps] using
      (Pat.assignSteps_nested plain p).append (PatProp.assignSteps_nested plain r)
  | .shorthand n _ :: r => by
    simpa only [PatProp.assignSteps] using
      (Nested.assign plain n).append (PatProp.assignSteps_nested plain r)
  | .rest p :: r => by
    simpa only [PatProp.assignSteps] using
      (Pat.assignSteps_nested plain p).append (PatProp.assignSteps_nested plain r)

theorem Declarator.steps_nested (target : BindTarget) :
    ∀ ds : List Declarator, Nested sink (Declarator.steps sink target ds)
  | [] => by simpa only [Declarator.steps] using Nested.nil
  | .mk p (some e) :: r => by
    have hd := (Expr.steps_nested e).append (.note e (Pat.bindSteps_nested target p))
    simpa [Declarator.steps] using hd.append (Declarator.steps_nested target r)
  | .mk p none :: r => by
    simpa only [Declarator.steps] using
      (Nested.clean (Pat.bindSteps_nested target p)).append (Declarator.steps_nested target r)

theorem ForHead.steps_nested : ∀ h : ForHead, Nested sink (h.steps sink)
  | .decl kind p _ => by simpa only [ForHead.steps] using Pat.bindSteps_nested kind.target p
  | .target p => by simpa only [ForHead.steps] using Pat.assignSteps_nested true p

theorem SwitchCase.steps_nested : ∀ cs : List SwitchCase, Nested sink (SwitchCase.steps sink cs)
  | [] => by simpa only [SwitchCase.steps] using Nested.nil
  | .mk (some e) body :: r => by
    simpa only [SwitchCase.steps] using
      ((Expr.steps_nested e).append (Stmt.allSteps_nested body)).append (SwitchCase.steps_nested r)
  | .mk none body :: r => by
    simpa only [SwitchCase.steps] using
      (Stmt.allSteps_nested body).append (SwitchCase.steps_nested r)

theorem Catch.steps_nested : ∀ c : Catch, Nested sink (c.steps sink)
  | .mk (some p) body => by
    simpa [Catch.steps] using
      Nested.scope_pair .block (.clean (Pat.bindSteps_nested .current p)) (Stmt.allSteps_nested body)
  | .mk none body => by
    simpa only [Catch.steps] using Nested.scope .block (Stmt.allSteps_nested body)

theorem Stmt.steps_nested : ∀ s : Stmt, Nested sink (s.steps sink)
  | .expr e => by simpa only [Stmt.steps] using Expr.steps_nested e
  | .block body => by simpa only [Stmt.steps] using Nested.scope .block (Stmt.allSteps_nested body)
  | .ifElse test yes none => by
    simpa only [Stmt.steps] using (Expr.steps_nested test).append (Stmt.steps_nested yes)
  | .ifElse test yes (some no) => by
    simpa only [Stmt.steps] using
      ((Expr.steps_nested test).append (Stmt.steps_nested yes)).append (Stmt.steps_nested no)
  | .ret (some e) => by simpa only [Stmt.steps] using Expr.steps_nested e
  | .whileLoop test body => by
    simpa only [Stmt.steps] using (Expr.steps_nested test).append (Stmt.steps_nested body)
  | .doWhile body test => by
    simpa only [Stmt.steps] using (Stmt.steps_nested body).append (Expr.steps_nested test)
  | .forLoop init test update body => by
    have hinit : Nested sink ((init.map (Stmt.steps sink)).getD []) := match init with
      | some s => Stmt.steps_nested s
      | none => .nil
    have htest : Nested sink ((test.map (Expr.steps sink)).getD []) := match test with
      | some e => Expr.steps_nested e
      | none => .nil
    have hupdate : Nested sink ((update.map (Expr.steps sink)).getD []) := match update with
      | some e => Expr.steps_nested e
      | none => .nil
    simpa [Stmt.steps_forLoop] using
      Nested.scope .block (((hinit.append htest).append hupdate).append (Stmt.steps_nested body))
  | .forIn head e body => by
    have hloop := (Nested.note e (ForHead.steps_nested head)).append (Stmt.steps_nested body)
    simpa [Stmt.steps] using Nested.scope_pair .block (Expr.steps_nested e) hloop
  | .forOf _ head e body => by
    have hloop := (Nested.note e (ForHead.steps_nested head)).append (Stmt.steps_nested body)
    simpa [Stmt.steps] using Nested.scope_pair .block (Expr.steps_nested e) hloop
  | .tryCatch block handler finalizer => by
    have hhandler : Nested sink ((handler.map (Catch.steps sink)).getD []) := match handler with
      | some c => Catch.steps_nested c
      | none => .nil
    have hfinalizer : Nested sink ((finalizer.map fun body => Stmt.steps sink (.block body)).getD []) :=
      match finalizer with
      | some body => .scope .block (Stmt.allSteps_nested body)
      | none => .nil
    simpa only [Stmt.steps_tryCatch] using
      ((Nested.scope .block (Stmt.allSteps_nested block)).append hhandler).append hfinalizer
  | .switch e cases => by
    simpa [Stmt.steps] using
      (Expr.steps_nested e).append (.scope .block (SwitchCase.steps_nested cases))
  | .labeled _ body => by simpa only [Stmt.steps] using Stmt.steps_nested body
  | .throw e => by simpa only [Stmt.steps] using Expr.steps_nested e
  | .var kind decls => by simpa only [Stmt.steps] using Declarator.steps_nested kind.target decls
  | .func name _ params body => by
    have hbody := Nested.scope_pair .function (Pat.paramSteps_nested params) (Stmt.allSteps_nested body)
    simpa [Stmt.steps] using (defineSteps_nested name).append hbody
  | .classDecl name _ _ => by simpa only [Stmt.steps] using defineSteps_nested name
  | .empty | .debugger | .withObject _ _ | .ret none | .breakTo _ | .continueTo _ => by
    simpa only [Stmt.steps] using Nested.nil

theorem Stmt.allSteps_nested : ∀ ss : List Stmt, Nested sink (Stmt.allSteps sink ss)
  | [] => by simpa only [Stmt.allSteps] using Nested.nil
  | s :: r => by simpa only [Stmt.allSteps] using (Stmt.steps_nested s).append (Stmt.allSteps_nested r)

end

end Script

end DomFlow
