import DomFlow.Proofs.Frames
import DomFlow.Proofs.Layout

/-! # Identifiers of a script

The identifiers that occur in a script, and those among them that it declares or assigns, are read off its
tree. The names that a walk of the script reads and writes are found among them. -/

namespace DomFlow

namespace Script

variable {sink : String → Bool} {parts : List Part}

/-- Whether the second node is a part of the first, entered or not. -/
def Node.HasPart (n m : Node) : Prop := ∃ position, (position, m) ∈ n.parts

/-- Whether the second node lies in the first, at any depth. -/
def Node.Contains : Node → Node → Prop := Relation.ReflTransGen Node.HasPart

theorem Node.Reaches.contains {n m : Node} (h : n.Reaches sink m) : n.Contains m := by
  have hpart : Node.Enters sink ≤ Node.HasPart := fun _ _ ⟨position, hpart, _⟩ => ⟨position, hpart⟩
  exact Relation.ReflTransGen.mono hpart n m h

/-- Whether a node lies in one of these parts. -/
def InParts (m : Node) : List Part → Prop
  | [] => False
  | part :: parts => part.2.Contains m ∨ InParts m parts

theorem inParts_iff {m : Node} : InParts m parts ↔ ∃ part ∈ parts, part.2.Contains m := by
  induction parts with
  | nil => simp [InParts]
  | cons part parts ih => simp only [InParts, ih, List.exists_mem_cons_iff]

/-- All that lies in a node is the node itself and what lies in its parts. -/
theorem Node.contains_iff {n m : Node} : n.Contains m ↔ n = m ∨ InParts m n.parts := by
  rw [inParts_iff]
  constructor
  · intro h
    rcases h.cases_head with rfl | ⟨part, ⟨position, hpart⟩, hcontains⟩
    · exact .inl rfl
    · exact .inr ⟨_, hpart, hcontains⟩
  · rintro (rfl | ⟨part, hpart, hcontains⟩)
    · exact .refl
    · exact .head ⟨part.1, hpart⟩ hcontains

def Expr.written : Expr → List String
  | .assign _ (.ident n) _ => [n]
  | .func name _ _ _ => name.toList
  | .classExpr name _ _ => name.toList
  | _ => []

def PatProp.written : PatProp → List String
  | .shorthand n _ => [n]
  | _ => []

def Pat.written : Pat → List String
  | .ident n => [n]
  | .object props => props.flatMap PatProp.written
  | _ => []

def Stmt.written : Stmt → List String
  | .func n _ _ _ | .classDecl n _ _ => [n]
  | _ => []

/-- The names that a node itself declares or assigns. The names of `++` and `--`, and those in parentheses
on the left of an assignment, are not among them: no taint is assigned to these. -/
def Node.written : Node → List String
  | .expr e => e.written
  | .stmt s => s.written
  | .pat _ p => p.written

def Property.names : Property → List String
  | .shorthand n | .cover n _ => [n]
  | _ => []

/-- The names that an expression itself uses as values. -/
def Expr.used : Expr → List String
  | .ident n => [n]
  | .object props => props.flatMap Property.names
  | _ => []

/-- The identifiers that stand in a node itself. Names of properties and labels are none. -/
def Node.idents : Node → List String
  | .expr e => e.used ++ e.written
  | .stmt s => s.written
  | .pat _ p => p.written

/-- Whether an identifier occurs in a script, at any depth. -/
def Mentions (script : Script) (name : String) : Prop :=
  ∃ s ∈ script, ∃ m, (Node.stmt s).Contains m ∧ name ∈ m.idents

/-- Whether a name is declared or assigned in a script, at any depth. -/
def Writes (script : Script) (name : String) : Prop :=
  ∃ s ∈ script, ∃ m, (Node.stmt s).Contains m ∧ name ∈ m.written

theorem Node.written_subset_idents (n : Node) : n.written ⊆ n.idents := by
  cases n with
  | expr e => exact List.subset_append_right _ _
  | stmt _ | pat _ _ => exact List.Subset.refl _

theorem Writes.mentions {script : Script} {name : String} (h : Writes script name) :
    Mentions script name := by
  obtain ⟨s, hs, m, hcontains, hname⟩ := h
  exact ⟨s, hs, m, hcontains, m.written_subset_idents hname⟩

/-- A name is used here, or read by a part. -/
def ReadIn (used : List String) (parts : List Part) (name : String) : Prop :=
  name ∈ used ∨ ∃ position e, (position, .expr e) ∈ parts ∧ name ∈ e.reads

section

variable {used : List String} {name : String}

theorem readIn_part {position : Position} {e : Expr} (h : (position, .expr e) ∈ parts)
    (hname : name ∈ e.reads) : ReadIn used parts name :=
  .inr ⟨position, e, h, hname⟩

theorem readIn_exprs {es : List Expr} (h : ordinaryExprs es ⊆ parts) (hname : name ∈ Expr.allReads es) :
    ReadIn used parts name := by
  induction es with
  | nil => simp [Expr.allReads] at hname
  | cons e es ih =>
    simp only [ordinaryExprs, List.map_cons, List.cons_subset] at h
    rw [Expr.allReads] at hname
    rcases List.mem_append.mp hname with hname | hname
    · exact readIn_part h.1 hname
    · exact ih h.2 hname

theorem Key.readIn {k : Key} {position : Position} (h : k.parts position ⊆ parts) (hname : name ∈ k.reads) :
    ReadIn used parts name := by
  cases k with
  | computed e =>
    rw [Key.reads] at hname
    exact readIn_part (h (.head _)) hname
  | name _ | hidden _ | str _ | num _ | bigint _ => simp [Key.reads] at hname

theorem Elem.allReads_eq (elems : List Elem) : Elem.allReads elems = Expr.allReads (Elem.exprs elems) := by
  induction elems with
  | nil => rfl
  | cons elem elems ih => cases elem <;> simp [Elem.allReads, Elem.exprs, Expr.allReads, ih]

theorem Property.readIn {prop : Property} (hname : name ∈ Property.allReads [prop]) :
    ReadIn prop.names prop.parts name := by
  cases prop with
  | keyValue k v =>
    simp only [Property.allReads, List.append_nil, List.mem_append] at hname
    rcases hname with hname | hname
    · exact Key.readIn (List.subset_append_left _ _) hname
    · exact readIn_part (List.mem_append_right _ (.head _)) hname
  | shorthand n => exact .inl hname
  | spread e =>
    simp only [Property.allReads, List.append_nil] at hname
    exact readIn_part (.head _) hname
  | cover _ _ | method _ _ _ _ | getter _ _ | setter _ _ _ => simp [Property.allReads] at hname

theorem Property.readIn_all {props : List Property} (hname : name ∈ Property.allReads props) :
    ReadIn (props.flatMap Property.names) (props.flatMap Property.parts) name := by
  induction props with
  | nil => simp [Property.allReads] at hname
  | cons prop props ih =>
    have hcons : Property.allReads (prop :: props) =
        Property.allReads [prop] ++ Property.allReads props := by
      cases prop <;> simp [Property.allReads]
    rw [hcons, List.mem_append] at hname
    rw [List.flatMap_cons, List.flatMap_cons]
    rcases hname with hname | hname
    · rcases Property.readIn hname with h | ⟨position, e, hpart, hread⟩
      · exact .inl (List.mem_append_left _ h)
      · exact readIn_part (List.mem_append_left _ hpart) hread
    · rcases ih hname with h | ⟨position, e, hpart, hread⟩
      · exact .inl (List.mem_append_right _ h)
      · exact readIn_part (List.mem_append_right _ hpart) hread

theorem Expr.readIn {e : Expr} (hname : name ∈ e.reads) : ReadIn e.used e.parts name := by
  cases e with
  | ident n => exact .inl hname
  | object props =>
    rw [Expr.reads] at hname
    exact Property.readIn_all hname
  | member o k | optMember _ o k =>
    simp only [Expr.reads, List.mem_append] at hname
    rcases hname with hname | hname
    · exact readIn_part (.head _) hname
    · exact Key.readIn (List.subset_cons_self _ _) hname
  | assign op t v =>
    simp only [Expr.reads, List.mem_append] at hname
    rcases hname with hname | hname
    · cases t with
      | member o k =>
        rw [Target.reads] at hname
        exact readIn_part (.head _) hname
      | ident _ | superMember _ | paren _ | pattern _ => simp [Target.reads] at hname
    · exact readIn_part (List.mem_append_right _ (.head _)) hname
  | call f args | new f args | optCall _ f args | superCall args | importCall args | array args =>
    simp only [Expr.reads, Elem.allReads_eq] at hname
    exact readIn_exprs (List.Subset.refl _) hname
  | template _ es | tagged _ _ es | seq es | unary _ e | update _ _ e | paren e | await e
  | binary _ l r | cond _ l r =>
    exact readIn_exprs (List.Subset.refl _) (by simpa [Expr.reads, Expr.allReads] using hname)
  | func _ _ _ _ | arrow _ _ _ | classExpr _ _ _ | superMember _ | yield _ _ | thisRef | null | bool _
  | num _ | bigint _ | str _ | regex _ _ | newTarget | hiddenName _ => simp [Expr.reads] at hname

/-- A name that an expression reads occurs in it. -/
theorem Expr.ident_of_read {e : Expr} (hname : name ∈ e.reads) :
    ∃ m, (Node.expr e).Contains m ∧ name ∈ m.idents := by
  have hall (n : Node) : ∀ e, n = .expr e → name ∈ e.reads → ∃ m, n.Contains m ∧ name ∈ m.idents := by
    induction n using Node.induction with
    | _ n ih =>
      rintro e rfl hname
      rcases Expr.readIn hname with hused | ⟨position, e', hpart, hread⟩
      · exact ⟨.expr e, .refl, List.mem_append_left _ hused⟩
      · obtain ⟨m, hcontains, hident⟩ := ih _ hpart e' rfl hread
        exact ⟨m, .head ⟨position, hpart⟩ hcontains, hident⟩
  exact hall (.expr e) e rfl hname

/-- A step of the node itself writes names that are written here, and reads names that are used here or read
by a part; and a name that is a property is used here. -/
def Piece.NamesIn (written used : List String) (parts : List Part) : Piece → Prop
  | .step st => st.writes ⊆ written ∧ ∀ name ∈ st.reads, ReadIn used parts name
  | .shorthand name => name ∈ used
  | .walk _ | .value _ _ => True

def NamesIn (written used : List String) (parts : List Part) (pieces : List Piece) : Prop :=
  ∀ piece ∈ pieces, piece.NamesIn written used parts

variable {written : List String}

@[simp] theorem namesIn_nil : NamesIn written used parts [] := by
  simp [NamesIn]

@[simp] theorem namesIn_cons {piece : Piece} {pieces : List Piece} :
    NamesIn written used parts (piece :: pieces) ↔
      piece.NamesIn written used parts ∧ NamesIn written used parts pieces :=
  List.forall_mem_cons

@[simp] theorem namesIn_append {a b : List Piece} : NamesIn written used parts (a ++ b) ↔
    NamesIn written used parts a ∧ NamesIn written used parts b :=
  List.forall_mem_append

@[simp] theorem namesIn_walk (n : Node) : Piece.NamesIn written used parts (.walk n) := trivial

@[simp] theorem namesIn_enter (kind : ScopeKind) : Piece.NamesIn written used parts (.step (.enter kind)) := by
  simp [Piece.NamesIn, Step.writes, Step.reads]

@[simp] theorem namesIn_leave : Piece.NamesIn written used parts (.step .leave) := by
  simp [Piece.NamesIn, Step.writes, Step.reads]

@[simp] theorem namesIn_clean : Piece.NamesIn written used parts (.step .clean) := by
  simp [Piece.NamesIn, Step.writes, Step.reads]

@[simp] theorem namesIn_forget : Piece.NamesIn written used parts (.step .forget) := by
  simp [Piece.NamesIn, Step.writes, Step.reads]

theorem namesIn_step_reading {st : Step} {position : Position} {e : Expr} (hwrites : st.writes = [])
    (hreads : st.reads = e.reads) (he : (position, .expr e) ∈ parts) :
    Piece.NamesIn written used parts (.step st) :=
  ⟨by simp [hwrites], fun _ hname => readIn_part he (hreads ▸ hname)⟩

theorem NamesIn.mono {written' used' : List String} {parts' : List Part} {pieces : List Piece}
    (h : NamesIn written used parts pieces) (hwritten : written ⊆ written') (hused : used ⊆ used')
    (hparts : parts ⊆ parts') : NamesIn written' used' parts' pieces := by
  intro piece hpiece
  have hnames := h piece hpiece
  cases piece with
  | step st =>
    refine ⟨List.Subset.trans hnames.1 hwritten, fun name hname => ?_⟩
    exact (hnames.2 name hname).imp (@hused name) fun ⟨position, e, hpart, hread⟩ =>
      ⟨position, e, hparts hpart, hread⟩
  | shorthand name => exact hused hnames
  | walk _ | value _ _ => trivial

@[simp] theorem namesIn_flatMap {α : Type} {g : α → List Piece} {xs : List α} :
    NamesIn written used parts (xs.flatMap g) ↔ ∀ x ∈ xs, NamesIn written used parts (g x) :=
  List.forall_mem_flatMap

theorem subset_flatMap_of_mem {α β : Type} {f : α → List β} {x : α} {xs : List α} (hx : x ∈ xs) :
    f x ⊆ xs.flatMap f :=
  fun _ hy => List.mem_flatMap.mpr ⟨x, hx, hy⟩

@[simp] theorem namesIn_walkExprs (es : List Expr) : NamesIn written used parts (walkExprs es) := by
  simp [NamesIn, walkExprs, Piece.NamesIn]

@[simp] theorem namesIn_walkStmts (ss : List Stmt) : NamesIn written used parts (walkStmts ss) := by
  simp [NamesIn, walkStmts, Piece.NamesIn]

/-- The steps around parameters and a body have no names. -/
@[simp] theorem namesIn_scopeLayout (kind : ScopeKind) (params : List Pat) (body : List Stmt) :
    NamesIn written used parts (scopeLayout kind params body) := by
  have hparams : NamesIn written used parts (paramLayout params) := by
    induction params with
    | nil => exact namesIn_nil
    | cons p params ih =>
      exact namesIn_append.mpr ⟨by simp, ih⟩
  simp [scopeLayout, hparams]

@[simp] theorem namesIn_defineLayout {name : String} :
    NamesIn written used parts (defineLayout name) ↔ name ∈ written := by
  simp [defineLayout, defineSteps, Piece.NamesIn, Step.writes, Step.reads]

theorem namesIn_checkCall {callee : String} {args : List Expr} (h : ordinaryExprs args ⊆ parts) :
    Piece.NamesIn written used parts (.step (.checkCall callee args)) := by
  refine ⟨by simp [Step.writes], fun name hname => ?_⟩
  obtain ⟨e, he, hname⟩ := List.mem_flatMap.mp hname
  exact readIn_part (h (List.mem_map_of_mem he)) hname

@[simp] theorem Key.namesIn (k : Key) : NamesIn written used parts k.layout := by
  cases k <;> simp [Key.layout]

theorem Property.namesIn (prop : Property) : NamesIn [] prop.names prop.parts prop.layout := by
  cases prop <;> simp [Property.layout, Property.names, Piece.NamesIn]

theorem Target.namesIn (t : Target) (op : AssignOp) (v : Expr) :
    NamesIn (Expr.assign op t v).written used parts (t.layout (op = .plain)) := by
  cases t <;> simp [Target.layout, Expr.written, Piece.NamesIn, Step.writes, Step.reads]

theorem Expr.namesIn (e : Expr) : NamesIn e.written e.used e.parts e.layout := by
  cases e with
  | assign op t v =>
    have hnote : Piece.NamesIn (Expr.assign op t v).written (Expr.assign op t v).used
        (Expr.assign op t v).parts (.step (.note v)) :=
      namesIn_step_reading rfl rfl (List.mem_append_right _ (.head _))
    have hchecks : NamesIn (Expr.assign op t v).written (Expr.assign op t v).used
        (Expr.assign op t v).parts (t.path?.toList.map fun path => .step (.checkAssign path v)) := by
      cases t.path? <;> simp [Piece.NamesIn, Step.writes, Step.reads]
    simp [Expr.layout, hnote, hchecks, t.namesIn op v]
  | call f args | new f args | optCall _ f args =>
    exact namesIn_append.mpr ⟨namesIn_walkExprs _, namesIn_cons.mpr
      ⟨namesIn_checkCall (List.subset_cons_self _ _), namesIn_nil⟩⟩
  | superCall args | importCall args =>
    exact namesIn_append.mpr ⟨namesIn_walkExprs _, namesIn_cons.mpr
      ⟨namesIn_checkCall (List.Subset.refl _), namesIn_nil⟩⟩
  | object props =>
    refine namesIn_flatMap.mpr fun prop hprop => prop.namesIn.mono (List.nil_subset _) ?_ ?_
    · exact subset_flatMap_of_mem hprop
    · exact subset_flatMap_of_mem hprop
  | func name _ params body => cases name <;> simp [Expr.layout, Expr.written]
  | _ => simp [Expr.layout]

theorem PatRole.namesIn_write (role : PatRole) :
    Piece.NamesIn written used parts (.step (role.write name)) ↔ name ∈ written := by
  cases role <;> simp [PatRole.write, Piece.NamesIn, Step.writes, Step.reads]

theorem PatRole.namesIn_withDefault {role : PatRole} {d : Expr} {next : Piece}
    (hd : (role.default, .expr d) ∈ parts) (hnext : next.NamesIn written used parts) :
    NamesIn written used parts (role.withDefault d next) := by
  cases role with
  | assigned _ => simpa [PatRole.withDefault] using hnext
  | declared _ =>
    have hnote : Piece.NamesIn written used parts (.step (.noteDefault d)) :=
      namesIn_step_reading rfl rfl hd
    simp [PatRole.withDefault, hnext, hnote]

theorem PatProp.namesIn (role : PatRole) (prop : PatProp) :
    NamesIn prop.written [] (prop.parts role) (prop.layout role) := by
  rcases prop with ⟨k, p⟩ | ⟨n, _ | d⟩ | p
  · simp [PatProp.layout]
  · simp [PatProp.layout, PatProp.written, PatRole.namesIn_write]
  · exact PatRole.namesIn_withDefault (.head _) (role.namesIn_write.mpr (.head _))
  · simp [PatProp.layout]

theorem Pat.namesIn (role : PatRole) (p : Pat) :
    NamesIn p.written [] (p.parts role) (p.layout role) := by
  cases p with
  | ident n => simp [Pat.layout, Pat.written, PatRole.namesIn_write]
  | array elems =>
    refine namesIn_flatMap.mpr fun elem _ => ?_
    cases elem <;> simp
  | object props =>
    refine namesIn_flatMap.mpr fun prop hprop => (prop.namesIn role).mono ?_ (List.nil_subset _) ?_
    · exact subset_flatMap_of_mem hprop
    · exact subset_flatMap_of_mem hprop
  | rest p => simp [Pat.layout]
  | withDefault p d => exact PatRole.namesIn_withDefault (.head _) trivial
  | target e => cases role <;> simp [Pat.layout]

theorem Declarator.namesIn (target : BindTarget) (d : Declarator) :
    NamesIn [] [] (d.parts target) (d.layout target) := by
  rcases d with ⟨p, _ | e⟩
  · simp [Declarator.layout]
  · have hnote : Piece.NamesIn [] [] ((Declarator.mk p (some e)).parts target) (.step (.note e)) :=
      namesIn_step_reading rfl rfl (.tail _ (.head _))
    simp [Declarator.layout, hnote]

theorem namesIn_loopLayout {head : ForHead} {e : Expr} {body : Stmt} (he : (.ordinary, .expr e) ∈ parts) :
    NamesIn written used parts (loopLayout head e body) := by
  have hnote : Piece.NamesIn written used parts (.step (.note e)) := namesIn_step_reading rfl rfl he
  simp [loopLayout, hnote]

theorem Stmt.namesIn (s : Stmt) : NamesIn s.written [] s.parts s.layout := by
  cases s with
  | switch e cases =>
    have hcase (c : SwitchCase) :
        NamesIn (Stmt.switch e cases).written [] (Stmt.switch e cases).parts c.layout := by
      cases c
      simp [SwitchCase.layout]
    simp [Stmt.layout, hcase]
  | tryCatch body handler finalizer =>
    have hcatch (c : Catch) : NamesIn (Stmt.tryCatch body handler finalizer).written []
        (Stmt.tryCatch body handler finalizer).parts c.layout := by
      cases c
      simp [Catch.layout]
    simp [Stmt.layout, hcatch]
  | forIn head e body | forOf _ head e body =>
    exact namesIn_loopLayout (by simp [Stmt.parts, ordinaryExprs])
  | var kind decls =>
    exact namesIn_flatMap.mpr fun decl hdecl => (decl.namesIn kind.target).mono (List.nil_subset _)
      (List.nil_subset _) (subset_flatMap_of_mem hdecl)
  | func n _ _ _ | classDecl n _ _ => simp [Stmt.layout, Stmt.written]
  | _ => simp [Stmt.layout]

theorem Node.namesIn (n : Node) : NamesIn n.written n.idents n.parts n.layout := by
  cases n with
  | expr e => exact e.namesIn.mono (List.Subset.refl _) (List.subset_append_left _ _) (List.Subset.refl _)
  | stmt s => exact s.namesIn.mono (List.Subset.refl _) (List.nil_subset _) (List.Subset.refl _)
  | pat role p => exact (p.namesIn role).mono (List.Subset.refl _) (List.nil_subset _) (List.Subset.refl _)

theorem Node.Contains.of_part {n m : Node} {part : Part} (hpart : part ∈ n.parts)
    (h : part.2.Contains m) : n.Contains m :=
  .head ⟨part.1, hpart⟩ h

/-- The names that the steps of a node write and read are written in it and occur in it. -/
theorem Node.names_of_mem_steps {n : Node} {st : Step} (hst : st ∈ n.steps sink) :
    (∀ name ∈ st.writes, ∃ m, n.Contains m ∧ name ∈ m.written) ∧
      ∀ name ∈ st.reads, ∃ m, n.Contains m ∧ name ∈ m.idents := by
  induction n using Node.induction with
  | _ n ih =>
    rw [n.steps_eq] at hst
    obtain ⟨piece, hpiece, hst⟩ := List.mem_flatMap.mp hst
    have hnames := n.namesIn piece hpiece
    have hread {part : Part} {e : Expr} {name : String} (h : part ∈ n.parts) (he : part.2 = .expr e)
        (hname : name ∈ e.reads) : ∃ m, n.Contains m ∧ name ∈ m.idents := by
      obtain ⟨m, hcontains, hident⟩ := Expr.ident_of_read hname
      exact ⟨m, .of_part h (he ▸ hcontains), hident⟩
    rcases Piece.mem_steps_cases hst with
      rfl | ⟨part, h, -, hst⟩ | ⟨key, v, name, rfl, -, -, rfl⟩ | ⟨name, rfl, rfl⟩
    · refine ⟨fun name hname => ⟨n, .refl, hnames.1 hname⟩, fun name hname => ?_⟩
      rcases hnames.2 name hname with hident | ⟨position, e, hmem, hname⟩
      · exact ⟨n, .refl, hident⟩
      · exact hread hmem rfl hname
    · have hpart := Node.part_of_piece hpiece h
      obtain ⟨hwrites, hreads⟩ := ih part hpart hst
      constructor
      · intro name hname
        obtain ⟨m, hcontains, hwritten⟩ := hwrites name hname
        exact ⟨m, .of_part hpart hcontains, hwritten⟩
      · intro name hname
        obtain ⟨m, hcontains, hident⟩ := hreads name hname
        exact ⟨m, .of_part hpart hcontains, hident⟩
    · have hpart := Node.part_of_piece hpiece rfl
      exact ⟨by simp [Step.writes], fun _ hname => hread hpart rfl hname⟩
    · refine ⟨by simp [Step.writes], fun name' hname => ⟨n, .refl, ?_⟩⟩
      exact List.mem_singleton.mp hname ▸ hnames

end

theorem mem_allSteps_iff {script : Script} {st : Step} :
    st ∈ Stmt.allSteps sink script ↔ ∃ s ∈ script, st ∈ s.steps sink := by
  rw [← pieceSteps_walkStmts]
  simp [pieceSteps, walkStmts, Piece.steps, Node.steps]

/-- The names that a walk of a script writes are written in the script. -/
theorem writes_of_mem_allSteps {script : Script} {st : Step} (hst : st ∈ Stmt.allSteps sink script)
    {name : String} (hname : name ∈ st.writes) : Writes script name := by
  obtain ⟨s, hs, hst⟩ := mem_allSteps_iff.mp hst
  exact ⟨s, hs, (Node.names_of_mem_steps (n := .stmt s) hst).1 name hname⟩

/-- The names that a walk of a script reads occur in the script. -/
theorem mentions_of_mem_allSteps {script : Script} {st : Step} (hst : st ∈ Stmt.allSteps sink script)
    {name : String} (hname : name ∈ st.reads) : Mentions script name := by
  obtain ⟨s, hs, hst⟩ := mem_allSteps_iff.mp hst
  exact ⟨s, hs, (Node.names_of_mem_steps (n := .stmt s) hst).2 name hname⟩

end Script

end DomFlow
