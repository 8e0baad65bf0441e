import FrancaAudit.Proofs.Check.Accepted
import FrancaAudit.Proofs.Model.Subexpression

/-!
Problems of an expression part by part, and what they tell about member accesses.

Every operator and every access is held against the types of its own operands, wherever it stands.
An access asks for a value of a named type and then for an element of that type; of values that have
no name for their type, such as numbers and arrays, nothing is asked.
-/

namespace FrancaAudit

namespace Model

variable (model : Model)

def Composite (id : TypeId) : Prop :=
  ∃ definition, model.type? id = some definition ∧ definition.kind.fields?.isSome

theorem composite_of_field (owner : TypeId) (index : Nat) (field : Field)
    (declared : model.field? owner index = some field) : model.Composite owner := by
  obtain ⟨definition, found, located⟩ := Option.bind_eq_some_iff.mp declared
  cases fields : definition.kind.fields? with
  | none => simp [TypeKind.fields, fields] at located
  | some _ => exact ⟨definition, found, Option.isSome_of_eq_some fields⟩

theorem sameKind_fields? (first second : TypeKind) (alike : Check.sameKind first second)
    (composite : second.fields?.isSome) : first.fields?.isSome := by
  cases second with
  | struct => cases first <;> simp_all [Check.sameKind, TypeKind.fields?]
  | union => cases first <;> simp_all [Check.sameKind, TypeKind.fields?]
  | _ => simp [TypeKind.fields?] at composite

theorem composite_descendant (alike : model.BasesAlike) (id ancestor : TypeId)
    (path : Relation.ReflTransGen model.TypeExtends id ancestor)
    (composite : model.Composite ancestor) : model.Composite id := by
  rcases Relation.reflTransGen_iff_eq_or_transGen.mp path with rfl | upwards
  · exact composite
  · obtain ⟨last, reached, fields⟩ := composite
    obtain ⟨base, step, _⟩ := Relation.TransGen.head'_iff.mp upwards
    obtain ⟨first, found, _⟩ := step
    refine ⟨first, found, sameKind_fields? first.kind last.kind ?_ fields⟩
    exact Check.sameKind_ancestor model alike id ancestor upwards first last found reached

end Model

namespace Check

variable (model : Model)

def ownProblems : Expr → List Problem
  | .member base owner index => memberProblems model (infer model base) owner index
  | .unary op operand => unaryProblems op (infer model operand)
  | .binary op left right => binaryProblems model op (infer model left) (infer model right)
  | .literal _ | .ref _ | .compound _ | .bracket _ => []

def heldProblems : BracketItem → List Problem
  | .item value => problems model value
  | .entry key value => problems model key ++ problems model value

theorem problems_initProblems (inits : List FieldInit) :
    problems.initProblems model inits = inits.flatMap fun init => problems model init.value := by
  induction inits with
  | nil => rfl
  | cons init rest ih =>
      obtain ⟨owner, index, value⟩ := init
      rw [problems.initProblems, ih, List.flatMap_cons]

theorem problems_itemProblems (items : List BracketItem) :
    problems.itemProblems model items = items.flatMap (heldProblems model) := by
  induction items with
  | nil => rfl
  | cons item rest ih =>
      cases item <;> rw [problems.itemProblems, ih, List.flatMap_cons, heldProblems]

theorem problems_children (expr : Expr) :
    problems model expr =
      (expr.children.flatMap fun entry => problems model entry.2) ++ ownProblems model expr := by
  cases expr with
  | literal value => rfl
  | ref element => rfl
  | member base owner index => simp [problems, Expr.children, ownProblems]
  | unary op operand => simp [problems, Expr.children, ownProblems]
  | binary op left right => simp [problems, Expr.children, ownProblems]
  | compound inits =>
      have parts := Expr.flatMap_placed inits
        (fun index init => [(Expr.Step.init index, init.value)])
        (fun entry => problems model entry.2) (fun init => problems model init.value) (by simp)
      simp [problems, Expr.children, ownProblems, parts, problems_initProblems]
  | bracket items =>
      have parts := Expr.flatMap_placed items Expr.heldChildren
        (fun entry => problems model entry.2) (heldProblems model)
        (fun index item => by cases item <;> simp [Expr.heldChildren, heldProblems])
      simp [problems, Expr.children, ownProblems, parts, problems_itemProblems]

theorem mem_problems (expr : Expr) (problem : Problem) :
    problem ∈ problems model expr ↔
      ∃ path part, expr.At path part ∧ problem ∈ ownProblems model part := by
  induction expr using Expr.inductionOn with
  | inner expr ih =>
      rw [problems_children, List.mem_append, List.mem_flatMap]
      constructor
      · rintro (⟨⟨step, child⟩, down, inside⟩ | own)
        · obtain ⟨path, part, reached, own⟩ := (ih step child down).mp inside
          exact ⟨step :: path, part, .inside expr step child path part down reached, own⟩
        · exact ⟨[], expr, .here expr, own⟩
      · rintro ⟨path, part, reached, own⟩
        cases reached with
        | here => exact Or.inr own
        | inside _ step child path _ down rest =>
            exact Or.inl ⟨(step, child), down, (ih step child down).mpr ⟨path, part, rest, own⟩⟩

theorem problems_part (expr part : Expr) (path : List Expr.Step) (inside : expr.At path part)
    (clean : problems model expr = []) : problems model part = [] := by
  induction inside with
  | here expr => exact clean
  | inside expr step child path part down rest ih =>
      rw [problems_children, List.append_eq_nil_iff, List.flatMap_eq_nil_iff] at clean
      exact ih (clean.1 (step, child) down)

theorem mem_memberProblems (base : Option ValueType) (owner : TypeId) (index : Nat)
    (problem : Problem) :
    problem ∈ memberProblems model base owner index ↔
      ∃ id, base = some (.named id) ∧ ¬ Relation.ReflTransGen model.TypeExtends id owner ∧
        problem = .notAnElement owner index id := by
  cases base with
  | none => simp [memberProblems]
  | some type =>
      cases type with
      | named id =>
          by_cases inherited : Relation.ReflTransGen model.TypeExtends id owner
          · simp [memberProblems, (model.inherits_iff id owner).mpr inherited, inherited]
          · simp [memberProblems, mt (model.inherits_iff id owner).mp inherited, inherited]
      | _ => simp [memberProblems]

section Operators

variable (owner : TypeId) (index : Nat) (id : TypeId)

theorem notAnElement_not_mem_unaryProblems (op : UnaryOp) (operand : Option ValueType) :
    .notAnElement owner index id ∉ unaryProblems op operand := by
  cases operand with
  | none => simp [unaryProblems]
  | some found =>
      cases op with
      | not => by_cases boolean : found = .boolean <;> simp [unaryProblems, boolean]
      | neg => by_cases numeric : found.isNumeric <;> simp [unaryProblems, numeric]

theorem notAnElement_not_mem_binaryProblems (op : BinaryOp) (left right : Option ValueType) :
    .notAnElement owner index id ∉ binaryProblems model op left right := by
  unfold binaryProblems
  split
  · split
    · split <;> split <;> simp
    · split <;> simp
    · split <;> simp
    · split <;> simp
  · exact List.not_mem_nil

theorem mem_ownProblems_notAnElement (expr : Expr) :
    .notAnElement owner index id ∈ ownProblems model expr ↔
      ∃ base, expr = .member base owner index ∧ infer model base = some (.named id) ∧
        ¬ Relation.ReflTransGen model.TypeExtends id owner := by
  cases expr with
  | member base other position =>
      rw [ownProblems, mem_memberProblems]
      constructor
      · rintro ⟨named, typed, foreign, same⟩
        cases same
        exact ⟨base, rfl, typed, foreign⟩
      · rintro ⟨_, ⟨⟩, typed, foreign⟩
        exact ⟨id, typed, foreign, rfl⟩
  | unary op operand => simp [ownProblems, notAnElement_not_mem_unaryProblems]
  | binary op left right => simp [ownProblems, notAnElement_not_mem_binaryProblems]
  | _ => simp [ownProblems]

end Operators

/-- An access is reported exactly if its base has a named type that lacks the owner among its
ancestors. -/
theorem mem_problems_notAnElement (expr : Expr) (owner : TypeId) (index : Nat) (id : TypeId) :
    .notAnElement owner index id ∈ problems model expr ↔
      ∃ path base, expr.At path (.member base owner index) ∧
        infer model base = some (.named id) ∧
          ¬ Relation.ReflTransGen model.TypeExtends id owner := by
  rw [mem_problems]
  constructor
  · rintro ⟨path, part, reached, own⟩
    obtain ⟨base, rfl, typed, foreign⟩ := (mem_ownProblems_notAnElement ..).mp own
    exact ⟨path, base, reached, typed, foreign⟩
  · rintro ⟨path, base, reached, typed, foreign⟩
    exact ⟨path, _, reached, (mem_ownProblems_notAnElement ..).mpr ⟨base, rfl, typed, foreign⟩⟩

/-- Where no problem is found, an access to a field of a value with a named type is one to a field
that this type declares or inherits. The type is a struct or union if bases are of the same kind. -/
theorem accessed_element (expr : Expr) (clean : problems model expr = []) (path : List Expr.Step)
    (base : Expr) (owner : TypeId) (index : Nat) (inside : expr.At path (.member base owner index))
    (field : Field) (declared : model.field? owner index = some field) (id : TypeId)
    (typed : infer model base = some (.named id)) :
    model.HasField id owner index field ∧ (model.BasesAlike → model.Composite id) := by
  have inherited : Relation.ReflTransGen model.TypeExtends id owner := by
    by_contra foreign
    have reported := (mem_problems_notAnElement model expr owner index id).mpr
      ⟨path, base, inside, typed, foreign⟩
    rw [clean] at reported
    exact List.not_mem_nil reported
  refine ⟨⟨inherited, declared⟩, fun alike => ?_⟩
  exact model.composite_descendant alike id owner inherited
    (model.composite_of_field owner index field declared)

def accessX (constant : Nat) : Expr := .member (.ref (.constant ⟨constant⟩)) ⟨0⟩ 0

/-- A struct that inherits its field, and an access to that field on a number. -/
def plots : Model where
  name := "plots"
  collections := [⟨"Plots", .unknown, [], [⟨0⟩, ⟨1⟩], [⟨0⟩, ⟨1⟩, ⟨2⟩]⟩]
  interfaces := []
  types :=
    [bareType "Point" (.struct none false [⟨"x", .unknown, [], ⟨.primitive .int32, false⟩⟩]),
      bareType "Corner" (.struct (some ⟨0⟩) true [])]
  constants :=
    [bareConstant "ORIGIN" (.derived ⟨1⟩) (.compound [⟨⟨0⟩, 0, .literal (.integer 0)⟩]),
      bareConstant "TALLY" (.primitive .int32) (.literal (.integer 3)),
      bareConstant "WIDTH" (.primitive .int32) (accessX 1)]

/-- An access inside an operation, to a field of the base. -/
theorem corner_element :
    hasErrors (checkModel plots) = false ∧
      problems plots (.unary .neg (accessX 0)) = [] ∧
      ∃ field, plots.HasField ⟨1⟩ ⟨0⟩ 0 field ∧ plots.Composite ⟨1⟩ := by
  have accepted : hasErrors (checkModel plots) = false := rfl
  have clean : problems plots (.unary .neg (accessX 0)) = [] := rfl
  have inside : (Expr.unary .neg (accessX 0)).At [.operand] (accessX 0) :=
    .inside _ _ _ _ _ (List.mem_singleton.mpr rfl) (.here _)
  obtain ⟨has, composite⟩ := accessed_element plots _ clean _ _ _ _ inside _ rfl ⟨1⟩ rfl
  exact ⟨accepted, clean, _, has, composite (basesAlike_of_accepted plots accepted)⟩

/-- An element of a number is taken, and no problem is found. -/
theorem tally_accessed :
    plots.Linked ∧ (∀ id, ¬ Relation.TransGen plots.DependsOn id id) ∧
      hasErrors (checkModel plots) = false ∧ problems plots (accessX 1) = [] ∧
      ¬ ∀ path base owner index type, (accessX 1).At path (.member base owner index) →
        infer plots base = some type → ∃ id field, type = .named id ∧ plots.Composite id ∧
          plots.HasField id owner index field := by
  have acyclic := (typeOrder_exists plots).mp ⟨[⟨0⟩, ⟨1⟩], rfl⟩
  refine ⟨rfl, acyclic, rfl, rfl, fun allAccessed => ?_⟩
  obtain ⟨id, _, named, _⟩ := allAccessed [] _ _ _ .integer (.here _) rfl
  cases named

end Check

end FrancaAudit
