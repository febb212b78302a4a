import TermSpace.Proofs.Session.Failure

/-!
# Declaring a name again

A declaration goes to both type layers.  The checker takes every type, in place of what it had for the name.
The classifier takes only types that name a shape, and any other leaves it as it was.  Both layers are stores
that are told one declaration after the other, and after a history of calls what a store has for a name is the
last thing that it was told of the name (`lookUp_foldl`).  For the checker this is the latest declaration of the
name, for the classifier the latest one that names a shape (`layers_follow_latest`).

The two part where a name whose declaration named a shape is declared again with a type that names none: the
classifier keeps the shape (`annotate_redeclared`).
-/

namespace TermSpace.Session

set_option autoImplicit false

/-! ## Histories -/

/-- A call that declares names. -/
inductive Call where
  | declare (name : String) (ty : Ty)
  | load (text : String)

/-- The session after a call.  A program that fails leaves what the statements before have done. -/
def call (session : Session) : Call → Session
  | .declare name ty => session.declare name ty
  | .load text => (session.load text).2

/-- The session after calls one after the other. -/
def callAll (session : Session) (history : List Call) : Session := history.foldl call session

/-- The statements before the first that fails. -/
def done (session : Session) : List Reader.Statement → List Reader.Statement
  | [] => []
  | statement :: rest =>
    match session.run statement with
    | .error _ => []
    | .ok (_, next) => statement :: next.done rest

/-- What a call declares. -/
def declaredBy (session : Session) : Call → List (String × Ty)
  | .declare name ty => [(name, ty)]
  | .load text =>
    match Reader.readProgram text with
    | .error _ => []
    | .ok statements => declarations session.supply (session.done statements)

/-- What the calls of a history declare, in their order. -/
def declaredByAll (session : Session) : List Call → List (String × Ty)
  | [] => []
  | first :: others => session.declaredBy first ++ (session.call first).declaredByAll others

/-- The statements before the first that fails leave the session that all of them leave. -/
theorem runAll_done (session : Session) (statements : List Reader.Statement) :
    ∃ results, session.runAll (session.done statements) = (.ok results, (session.runAll statements).2) := by
  induction statements generalizing session with
  | nil => exact ⟨[], rfl⟩
  | cons statement rest ih =>
    rw [done, runAll]
    cases runs : session.run statement with
    | error problem => exact ⟨[], rfl⟩
    | ok result =>
      obtain ⟨results, others⟩ := ih result.2
      refine ⟨result.1.toList ++ results, ?_⟩
      simp only [runAll, runs, others]
      rfl

/-! ## What the layers are told -/

/-- **A session whose type layers have been told declarations,** in their order and after what they knew. -/
structure Told (session : Session) (declared : List (String × Ty)) (last : Session) : Prop where
  checker : last.checker =
    declared.foldl (fun checker entry => checker.declare entry.1 entry.2) session.checker
  classifier : last.classifier =
    declared.foldl (fun classifier entry => declareShape classifier entry.1 entry.2) session.classifier

/-- One call tells both layers what it declares. -/
theorem told_call (session : Session) (call : Call) :
    session.Told (session.declaredBy call) (session.call call) := by
  cases call with
  | declare name ty =>
    rw [Session.call, declare_eq]
    exact ⟨rfl, rfl⟩
  | load text =>
    rw [Session.call, load, declaredBy]
    cases Reader.readProgram text with
    | error problem => exact ⟨rfl, rfl⟩
    | ok statements =>
      obtain ⟨results, runs⟩ := session.runAll_done statements
      have extended := extended_of_runAll runs
      exact ⟨extended.checker, extended.classifier⟩

/-- **A history tells both layers what its calls declare.** -/
theorem told_callAll (session : Session) (history : List Call) :
    session.Told (session.declaredByAll history) (session.callAll history) := by
  induction history generalizing session with
  | nil => exact ⟨rfl, rfl⟩
  | cons first others ih =>
    have here := session.told_call first
    have later := ih (session.call first)
    rw [declaredByAll]
    constructor
    · rw [List.foldl_append, ← here.checker]
      exact later.checker
    · rw [List.foldl_append, ← here.classifier]
      exact later.classifier

/-! ## The last thing told -/

/-- **What a store has after declarations** is the last thing it takes from them, or else what it had. -/
theorem lookUp_foldl {σ α : Type} {tell : σ → String × Ty → σ} {lookUp : σ → Option α}
    {taken : String × Ty → Option α}
    (step : ∀ store entry, lookUp (tell store entry) = (taken entry).or (lookUp store))
    (declared : List (String × Ty)) (store : σ) :
    lookUp (declared.foldl tell store) = (declared.reverse.findSome? taken).or (lookUp store) := by
  induction declared generalizing store with
  | nil => rfl
  | cons entry others ih =>
    rw [List.foldl_cons, ih, step, List.reverse_cons, List.findSome?_append, Option.or_assoc,
      List.findSome?_singleton]

/-- The latest type that is declared of a name. -/
def latestTy? (name : String) (declared : List (String × Ty)) : Option Ty :=
  declared.reverse.findSome? fun entry => if entry.1 = name then some entry.2 else none

/-- The shape that a type names. -/
def namedShape? : Ty → Option Shape
  | .base base => Shape.ofName? base
  | _ => none

/-- The latest shape that is declared of a name. -/
def latestShape? (name : String) (declared : List (String × Ty)) : Option Shape :=
  declared.reverse.findSome? fun entry => if entry.1 = name then namedShape? entry.2 else none

/-- One declaration, for the checker. -/
theorem declared?_declare (checker : Checker) (name other : String) (ty : Ty) :
    (checker.declare name ty).declared? other =
      (if name = other then some ty.generalize else none).or (checker.declared? other) := by
  simp only [Checker.declared?, Checker.declare, Dict.get?_insert]
  split <;> rfl

/-- One declaration, for the classifier. -/
theorem shape?_declareShape (classifier : Classifier) (name other : String) (ty : Ty) :
    (declareShape classifier name ty).shapes.get? other =
      (if name = other then namedShape? ty else none).or (classifier.shapes.get? other) := by
  cases ty with
  | base base =>
    rw [declareShape, namedShape?]
    cases Shape.ofName? base with
    | none => simp
    | some shape =>
      simp only [Option.map_some, Option.getD_some, Classifier.declare, Dict.get?_insert]
      split <;> simp_all
  | _ => simp [declareShape, namedShape?]

section Layers

variable {session last : Session} {declared : List (String × Ty)}

theorem Told.declared? (told : session.Told declared last) (name : String) :
    last.checker.declared? name =
      ((latestTy? name declared).map Ty.generalize).or (session.checker.declared? name) := by
  rw [told.checker, latestTy?, List.map_findSome?]
  refine @lookUp_foldl _ _ _ (fun checker => checker.declared? name) _ (fun checker entry => ?_)
    declared session.checker
  rw [declared?_declare, Function.comp, apply_ite (Option.map Ty.generalize)]
  rfl

theorem Told.shape? (told : session.Told declared last) (name : String) :
    last.classifier.shapes.get? name =
      (latestShape? name declared).or (session.classifier.shapes.get? name) := by
  rw [told.classifier, latestShape?]
  exact @lookUp_foldl _ _ _ (fun classifier => classifier.shapes.get? name) _
    (fun classifier entry => shape?_declareShape classifier entry.1 name entry.2)
    declared session.classifier

/-- Declarations do not change the strategy of the checker. -/
theorem Told.strategy (told : session.Told declared last) :
    last.checker.strategy = session.checker.strategy := by
  rw [told.checker]
  exact List.foldlRecOn (motive := fun checker : Checker => checker.strategy = session.checker.strategy)
    declared _ rfl fun _ same _ _ => same

end Layers

/-! ## What the layers answer -/

/-- What is inferred of a name comes from nothing but the strategy and what is declared of the name. -/
theorem infer_atom_congr {first second : Checker} (strategy : first.strategy = second.strategy)
    {name : String} (declared : first.declared? name = second.declared? name) (supply : Nat) :
    first.infer (.atom name) supply = second.infer (.atom name) supply := by
  have collects : Inference.collect first.declarations (.start supply) (.atom name) =
      Inference.collect second.declarations (.start supply) (.atom name) := by
    simp only [Inference.collect, Inference.Collected.literalTy]
    rw [show first.declarations.get? name = second.declarations.get? name from declared]
  rw [Checker.infer, Checker.run, collects, strategy]
  rfl

/-- The answer to an annotation of a term that is classified in a certain way. -/
def annotationAnswer (actual : Shape) (term : Term) (expected : String) : Except TypeError Shape :=
  match Shape.ofName? expected with
  | none => .error (.unknownTypeName expected)
  | some shape =>
    if actual.isSubtypeOf shape then .ok actual else .error (.annotationMismatch shape actual term)

/-- An atom is classified as what is remembered for its name, and otherwise by what it looks like. -/
theorem annotate_atom (session : Session) (name expected : String) :
    (session.annotate (.atom name) expected).1 =
      annotationAnswer ((session.classifier.shapes.get? name).getD (Shape.ofTerm (.atom name))) (.atom name)
        expected := by
  rw [annotate, Classifier.annotate, annotationAnswer]
  cases Shape.ofName? expected with
  | none => rfl
  | some shape =>
    rw [Classifier.classify, Term.name]
    cases session.classifier.shapes.get? name with
    | none =>
      dsimp only [Option.getD]
      split <;> rfl
    | some actual =>
      dsimp only [Option.getD]
      split <;> rfl

/-! ## The statement -/

/-- **Each type layer follows the latest declaration that it takes.**  After any history of calls the type that
the checker has for a name is that of its latest declaration, and a name that is declared is inferred to be
what it would be if this declaration were the only one.  If the classifier remembered nothing of the name at
the start, an annotation is answered by the latest shape that is declared of the name, whatever else is
declared of it before or after, and by what the name looks like if no declaration of it names a shape. -/
theorem layers_follow_latest (session : Session) (history : List Call) (name : String) :
    ((session.callAll history).checker.declared? name =
      ((latestTy? name (session.declaredByAll history)).map Ty.generalize).or
        (session.checker.declared? name)) ∧
    (∀ ty, latestTy? name (session.declaredByAll history) = some ty →
      (session.callAll history).infer (.atom name) =
        (Checker.declare ⟨session.checker.strategy, ∅⟩ name ty).infer (.atom name)
          (session.callAll history).supply) ∧
    (session.classifier.shapes.get? name = none → ∀ expected,
      ((session.callAll history).annotate (.atom name) expected).1 =
        annotationAnswer
          ((latestShape? name (session.declaredByAll history)).getD (Shape.ofTerm (.atom name)))
          (.atom name) expected) := by
  have told := session.told_callAll history
  refine ⟨told.declared? name, fun ty latest => ?_, fun fresh expected => ?_⟩
  · rw [infer]
    refine @infer_atom_congr _ (Checker.declare ⟨session.checker.strategy, ∅⟩ name ty) told.strategy
      name ?_ _
    rw [told.declared? name, latest, declared?_declare, if_pos rfl]
    rfl
  · rw [annotate_atom, told.shape? name, fresh, Option.or_none]

/-- A declared shape, and then a program that declares another, a type that names none, and what is no type. -/
def redeclaring : List Call :=
  [.declare "pi" .number, .load "(: pi Bool) (: pi (-> Number Number)) (: pi (->))"]

/-- The checker has the last type that is one, and the classifier the last shape. -/
theorem layers_follow_latest_redeclaring :
    latestTy? "pi" (brief.declaredByAll redeclaring) = some (.arrow .number .number) ∧
    (brief.callAll redeclaring).checker.declared? "pi" = some (.arrow .number .number) ∧
    ((brief.callAll redeclaring).infer (.atom "pi")).map (·.ty) = .ok (.arrow .number .number) ∧
    brief.classifier.shapes.get? "pi" = none ∧
    ((brief.callAll redeclaring).annotate (.atom "pi") "Number").1 =
      .error (.annotationMismatch .number .bool (.atom "pi")) := by
  have reads : Reader.readProgram "(: pi Bool) (: pi (-> Number Number)) (: pi (->))" =
      .ok [⟨.compound ":" [.atom "pi", .atom "Bool"], false⟩,
        ⟨.compound ":" [.atom "pi", .compound "->" [.atom "Number", .atom "Number"]], false⟩,
        ⟨.compound ":" [.atom "pi", .compound "->" []], false⟩] := rfl
  have declares : brief.declaredByAll redeclaring =
      [("pi", .number), ("pi", .bool), ("pi", .arrow .number .number)] := by
    simp only [redeclaring, declaredByAll, declaredBy, reads]
    rfl
  have latest : latestTy? "pi" (brief.declaredByAll redeclaring) = some (.arrow .number .number) := by
    rw [declares]
    rfl
  refine ⟨latest, ?_, ?_, rfl, ?_⟩
  · rw [(layers_follow_latest brief redeclaring "pi").1, latest]
    rfl
  · rw [(layers_follow_latest brief redeclaring "pi").2.1 _ latest]
    rfl
  · rw [(layers_follow_latest brief redeclaring "pi").2.2 rfl, declares]
    rfl

/-- **A declaration that names no shape** does not take away the shape that an earlier one has named: with the
same latest declaration, and nothing else remembered, annotations are answered differently. -/
theorem annotate_redeclared :
    latestTy? "pi" (brief.declaredByAll
        [.declare "pi" .number, .declare "pi" (.arrow .number .number)]) =
      latestTy? "pi" (brief.declaredByAll [.declare "pi" (.arrow .number .number)]) ∧
    brief.classifier.shapes.get? "pi" = none ∧
    ((brief.callAll [.declare "pi" .number, .declare "pi" (.arrow .number .number)]).annotate
      (.atom "pi") "Number").1 = .ok .number ∧
    ((brief.callAll [.declare "pi" (.arrow .number .number)]).annotate (.atom "pi") "Number").1 =
      .error (.annotationMismatch .number .symbol (.atom "pi")) :=
  ⟨rfl, rfl, rfl, rfl⟩

end TermSpace.Session
