import FrancaAudit.Check.Inference
import FrancaAudit.Proofs.Check.ValueType
import FrancaAudit.Proofs.Model.Place

/-!
Which formulas are well-typed, as rules, and that the search for problems and inference agree on it.

Inference gives a comparison its type whatever stands on its sides, and the search for problems
passes over operands that have no type. Taken together they leave nothing out: where no problem is
found in an operand, inference has a type for it.
-/

namespace FrancaAudit

inductive Number : ValueType → Prop
  | integer : Number .integer
  | float : Number .float

/-- The operator gives a result of the second type for an operand of the first. -/
inductive UnaryRule : UnaryOp → ValueType → ValueType → Prop
  | not : UnaryRule .not .boolean .boolean
  | integer : UnaryRule .neg .integer .integer
  | float : UnaryRule .neg .float .float

def operators : Check.OperatorClass → List BinaryOp
  | .logical => [.and, .or]
  | .equality => [.eq, .ne]
  | .ordering => [.lt, .le, .gt, .ge]
  | .arithmetic => [.add, .sub, .mul, .div]

namespace Model

variable (model : Model)

/-- An expression of literals, elements of the model and operators. -/
inductive Formula : Expr → Prop
  | literal (value : Literal) : Formula (.literal value)
  | ref (element : ElementRef) (resolves : (model.element? element).isSome) :
      Formula (.ref element)
  | unary (op : UnaryOp) (operand : Expr) (inner : Formula operand) : Formula (.unary op operand)
  | binary (op : BinaryOp) (left right : Expr) (ofLeft : Formula left) (ofRight : Formula right) :
      Formula (.binary op left right)

/-- The operator gives a result of the last type for operands of the other two. -/
inductive BinaryRule : BinaryOp → ValueType → ValueType → ValueType → Prop
  | logical (op : BinaryOp) (listed : op ∈ operators .logical) :
      BinaryRule op .boolean .boolean .boolean
  | equality (op : BinaryOp) (left right : ValueType) (listed : op ∈ operators .equality)
      (comparable : model.Accepts left right ∨ model.Accepts right left) :
      BinaryRule op left right .boolean
  | ordering (op : BinaryOp) (left right : ValueType) (listed : op ∈ operators .ordering)
      (numbers : Number left ∧ Number right) : BinaryRule op left right .boolean
  | integers (op : BinaryOp) (listed : op ∈ operators .arithmetic) :
      BinaryRule op .integer .integer .integer
  | floats (op : BinaryOp) (left right : ValueType) (listed : op ∈ operators .arithmetic)
      (numbers : Number left ∧ Number right) (mixed : left = .float ∨ right = .float) :
      BinaryRule op left right .float

/-- The formula is well-typed, with values of the type. -/
inductive HasType : Expr → ValueType → Prop
  | bool (value : Bool) : HasType (.literal (.bool value)) .boolean
  | integer (value : Int64) : HasType (.literal (.integer value)) .integer
  | float (value : Double) : HasType (.literal (.float value)) .float
  | string (value : String) : HasType (.literal (.string value)) .string
  | enumerator (owner : TypeId) (index : Nat)
      (resolves : (model.enumerator? owner index).isSome) :
      HasType (.ref (.enumerator owner index)) (.named owner)
  | element (element : ElementRef) (found : Element) (declared : DeclaredType) (type : ValueType)
      (resolves : model.element? element = some found) (typed : found.type = some declared)
      (values : model.DeclaredValuesHave declared type) : HasType (.ref element) type
  | unary (op : UnaryOp) (operand : Expr) (inner type : ValueType) (typed : HasType operand inner)
      (rule : UnaryRule op inner type) : HasType (.unary op operand) type
  | binary (op : BinaryOp) (left right : Expr) (first second type : ValueType)
      (ofLeft : HasType left first) (ofRight : HasType right second)
      (rule : model.BinaryRule op first second type) : HasType (.binary op left right) type

theorem element?_source (element : ElementRef) (found : Element)
    (resolves : model.element? element = some found) :
    (∃ declared place, found.type = some declared ∧
        (model.typeAt? place).map (·.ref) = some declared.ref) ∨
      found.type = none ∧ ∃ owner index, element = .enumerator owner index ∧
        (model.enumerator? owner index).isSome := by
  cases element with
  | «attribute» interface index =>
      obtain ⟨item, located, made⟩ := Option.bind_eq_some_iff.mp resolves
      obtain rfl := Option.some.inj made
      exact Or.inl ⟨item.type, .attribute ⟨interface, index⟩, rfl, by simp [typeAt?, located]⟩
  | argument ref =>
      obtain ⟨item, located, made⟩ := Option.bind_eq_some_iff.mp resolves
      obtain rfl := Option.some.inj made
      exact Or.inl ⟨item.type, .argument ref, rfl, by simp [typeAt?, located]⟩
  | constant id =>
      obtain ⟨item, located, made⟩ := Option.bind_eq_some_iff.mp resolves
      obtain rfl := Option.some.inj made
      exact Or.inl ⟨item.type, .constant id, rfl, by simp [typeAt?, located]⟩
  | stateVariable interface index =>
      obtain ⟨item, located, made⟩ := Option.bind_eq_some_iff.mp resolves
      obtain rfl := Option.some.inj made
      exact Or.inl ⟨item.type, .stateVariable interface index, rfl, by simp [typeAt?, located]⟩
  | field owner index =>
      obtain ⟨definition, known, listed⟩ := Option.bind_eq_some_iff.mp resolves
      obtain ⟨item, located, made⟩ := Option.bind_eq_some_iff.mp listed
      obtain rfl := Option.some.inj made
      exact Or.inl ⟨item.type, .field owner index, rfl, by simp [typeAt?, known, located]⟩
  | enumerator owner index =>
      obtain ⟨definition, known, listed⟩ := Option.bind_eq_some_iff.mp resolves
      obtain ⟨item, located, made⟩ := Option.bind_eq_some_iff.mp listed
      obtain rfl := Option.some.inj made
      exact Or.inr ⟨rfl, owner, index, rfl, by simp [enumerator?, known, located]⟩

theorem element_resolves (linked : model.Linked) (element : ElementRef) (found : Element)
    (declared : DeclaredType) (resolves : model.element? element = some found)
    (typed : found.type = some declared) : model.Resolves declared.ref := by
  rcases element?_source model element found resolves with
    ⟨_, place, same, located⟩ | ⟨untyped, _⟩
  · obtain rfl := Option.some.inj (typed.symm.trans same)
    obtain ⟨site, stands, used⟩ := Option.map_eq_some_iff.mp located
    rw [← used]
    exact typeSite_resolves model linked site ((mem_typeSites model site).mpr ⟨place, stands⟩)
  · exact absurd (typed.symm.trans untyped) (Option.some_ne_none declared)

end Model

namespace Check

variable (model : Model)

theorem isNumeric_iff (type : ValueType) : type.isNumeric ↔ Number type := by
  constructor
  · intro numeric
    cases type with
    | integer => exact .integer
    | float => exact .float
    | _ => exact absurd numeric Bool.false_ne_true
  · rintro (_ | _)
    · rfl
    · rfl

theorem operatorClass_iff (op : BinaryOp) (kind : OperatorClass) :
    operatorClass op = kind ↔ op ∈ operators kind := by
  cases op <;> cases kind <;> decide

theorem unaryType?_of_rule (op : UnaryOp) (operand type : ValueType)
    (rule : UnaryRule op operand type) : unaryType? op operand = some type := by
  cases rule <;> rfl

theorem unaryProblems_eq_nil (op : UnaryOp) (operand : ValueType) :
    unaryProblems op (some operand) = [] ↔ ∃ type, UnaryRule op operand type := by
  constructor
  · intro clean
    cases op with
    | not =>
        obtain rfl : operand = .boolean := by simpa [unaryProblems] using clean
        exact ⟨.boolean, .not⟩
    | neg =>
        have numeric : operand.isNumeric := by simpa [unaryProblems] using clean
        rcases (isNumeric_iff operand).mp numeric with _ | _
        · exact ⟨.integer, .integer⟩
        · exact ⟨.float, .float⟩
  · rintro ⟨type, rule⟩
    cases rule <;> rfl

theorem arithmetic_rule (op : BinaryOp) (left right : ValueType)
    (listed : op ∈ operators .arithmetic) (numbers : Number left ∧ Number right) :
    ∃ type, model.BinaryRule op left right type := by
  by_cases mixed : left = .float ∨ right = .float
  · exact ⟨.float, .floats op left right listed numbers mixed⟩
  · obtain ⟨ofLeft, ofRight⟩ := numbers
    cases ofLeft with
    | float => exact absurd (Or.inl rfl) mixed
    | integer =>
        cases ofRight with
        | float => exact absurd (Or.inr rfl) mixed
        | integer => exact ⟨.integer, .integers op listed⟩

theorem binaryRule_exists (op : BinaryOp) (left right : ValueType) :
    (∃ type, model.BinaryRule op left right type) ↔
      match operatorClass op with
      | .logical => left = .boolean ∧ right = .boolean
      | .equality => model.Accepts left right ∨ model.Accepts right left
      | .ordering | .arithmetic => Number left ∧ Number right := by
  -- each rule is for one class of operators, and each class has a rule
  constructor
  · rintro ⟨type, rule⟩
    cases rule with
    | logical listed =>
        rw [(operatorClass_iff op _).mpr listed]
        exact ⟨rfl, rfl⟩
    | equality _ _ listed comparable =>
        rw [(operatorClass_iff op _).mpr listed]
        exact comparable
    | ordering _ _ listed numbers =>
        rw [(operatorClass_iff op _).mpr listed]
        exact numbers
    | integers listed =>
        rw [(operatorClass_iff op _).mpr listed]
        exact ⟨.integer, .integer⟩
    | floats _ _ listed numbers mixed =>
        rw [(operatorClass_iff op _).mpr listed]
        exact numbers
  · cases kind : operatorClass op with
    | logical =>
        rintro ⟨rfl, rfl⟩
        exact ⟨.boolean, .logical op ((operatorClass_iff op _).mp kind)⟩
    | equality =>
        exact fun comparable =>
          ⟨.boolean, .equality op left right ((operatorClass_iff op _).mp kind) comparable⟩
    | ordering =>
        exact fun numbers =>
          ⟨.boolean, .ordering op left right ((operatorClass_iff op _).mp kind) numbers⟩
    | arithmetic => exact arithmetic_rule model op left right ((operatorClass_iff op _).mp kind)

theorem binaryProblems_eq_nil (op : BinaryOp) (left right : ValueType) :
    binaryProblems model op (some left) (some right) = [] ↔
      ∃ type, model.BinaryRule op left right type := by
  rw [binaryRule_exists]
  cases kind : operatorClass op with
  | logical => simp [binaryProblems, kind]
  | equality =>
      simp only [binaryProblems, kind, ← Model.compatible_iff, ite_eq_left_iff, Bool.or_eq_true,
        List.cons_ne_self, imp_false, not_not]
  | ordering | arithmetic => simp [binaryProblems, kind, ← isNumeric_iff]

theorem unaryRule_of_clean (op : UnaryOp) (operand : Expr) (type : ValueType)
    (clean : problems model (.unary op operand) = []) (typed : infer model operand = some type) :
    ∃ result, UnaryRule op type result := by
  obtain ⟨_, own⟩ := List.append_eq_nil_iff.mp clean
  rwa [typed, unaryProblems_eq_nil] at own

theorem binaryRule_of_clean (op : BinaryOp) (left right : Expr) (first second : ValueType)
    (clean : problems model (.binary op left right) = []) (ofLeft : infer model left = some first)
    (ofRight : infer model right = some second) : ∃ type, model.BinaryRule op first second type := by
  obtain ⟨_, own⟩ := List.append_eq_nil_iff.mp clean
  rwa [ofLeft, ofRight, binaryProblems_eq_nil] at own

theorem infer_binary (op : BinaryOp) (left right : Expr) (first second type : ValueType)
    (ofLeft : infer model left = some first) (ofRight : infer model right = some second)
    (rule : model.BinaryRule op first second type) :
    infer model (.binary op left right) = some type := by
  cases rule with
  | logical listed => simp [infer, (operatorClass_iff op _).mpr listed]
  | equality _ _ listed comparable => simp [infer, (operatorClass_iff op _).mpr listed]
  | ordering _ _ listed numbers => simp [infer, (operatorClass_iff op _).mpr listed]
  | integers listed =>
      simp [infer, (operatorClass_iff op _).mpr listed, ofLeft, ofRight, arithmeticType?]
  | floats _ _ listed numbers mixed =>
      have unlike : ¬ (first = .integer ∧ second = .integer) := by
        rintro ⟨rfl, rfl⟩
        simp at mixed
      simp [infer, (operatorClass_iff op _).mpr listed, ofLeft, ofRight, arithmeticType?, unlike,
        isNumeric_iff, numbers]

theorem elementType?_enumerator (owner : TypeId) (index : Nat)
    (listed : (model.enumerator? owner index).isSome) :
    elementType? model (.enumerator owner index) = some (.named owner) := by
  obtain ⟨item, located⟩ := Option.isSome_iff_exists.mp listed
  obtain ⟨definition, known, placed⟩ := Option.bind_eq_some_iff.mp located
  simp [elementType?, Model.element?, known, placed]

theorem elementType?_declared (element : ElementRef) (found : Model.Element)
    (declared : DeclaredType) (resolves : model.element? element = some found)
    (typed : found.type = some declared) :
    elementType? model element = model.valueType declared := by
  cases element with
  | enumerator owner index =>
      obtain ⟨definition, known, listed⟩ := Option.bind_eq_some_iff.mp resolves
      obtain ⟨item, located, made⟩ := Option.bind_eq_some_iff.mp listed
      obtain rfl := Option.some.inj made
      exact absurd typed (Option.some_ne_none declared).symm
  | _ => simp [elementType?, resolves, typed]

section Linked

variable (linked : model.Linked)
variable (acyclic : ∀ id, ¬ Relation.TransGen model.DependsOn id id)

include linked acyclic

theorem infer_of_hasType (expr : Expr) (type : ValueType) (typed : model.HasType expr type) :
    infer model expr = some type := by
  induction typed with
  | bool value | integer value | float value | string value => rfl
  | enumerator owner index resolves => exact elementType?_enumerator model owner index resolves
  | element element found declared type resolves typed values =>
      rw [infer, elementType?_declared model element found declared resolves typed]
      exact (model.valueType_eq_some linked acyclic declared
        (model.element_resolves linked element found declared resolves typed) type).mpr values
  | unary op operand inner type typed rule ih =>
      simp [infer, ih, unaryType?_of_rule op inner type rule]
  | binary op left right first second type ofLeft ofRight rule ihLeft ihRight =>
      exact infer_binary model op left right first second type ihLeft ihRight rule

theorem problems_of_hasType (expr : Expr) (type : ValueType) (typed : model.HasType expr type) :
    problems model expr = [] := by
  induction typed with
  | bool value | integer value | float value | string value => rfl
  | enumerator owner index resolves => rfl
  | element element found declared type resolves typed values => rfl
  | unary op operand inner type typed rule ih =>
      rw [problems, ih, infer_of_hasType model linked acyclic operand inner typed, List.nil_append,
        unaryProblems_eq_nil]
      exact ⟨type, rule⟩
  | binary op left right first second type ofLeft ofRight rule ihLeft ihRight =>
      rw [problems, ihLeft, ihRight, infer_of_hasType model linked acyclic left first ofLeft,
        infer_of_hasType model linked acyclic right second ofRight, List.nil_append,
        List.nil_append, binaryProblems_eq_nil]
      exact ⟨type, rule⟩

theorem hasType_of_element (element : ElementRef) (resolves : (model.element? element).isSome) :
    ∃ type, model.HasType (.ref element) type := by
  obtain ⟨found, resolves⟩ := Option.isSome_iff_exists.mp resolves
  rcases model.element?_source element found resolves with
    ⟨declared, _, typed, _⟩ | ⟨_, owner, index, rfl, listed⟩
  · obtain ⟨type, values⟩ := model.declaredValuesHave_exists linked acyclic declared
      (model.element_resolves linked element found declared resolves typed)
    exact ⟨type, .element element found declared type resolves typed values⟩
  · exact ⟨.named owner, .enumerator owner index listed⟩

theorem hasType_of_problems (expr : Expr) (formula : model.Formula expr)
    (clean : problems model expr = []) : ∃ type, model.HasType expr type := by
  induction formula with
  | literal value =>
      cases value with
      | bool value => exact ⟨_, .bool value⟩
      | integer value => exact ⟨_, .integer value⟩
      | float value => exact ⟨_, .float value⟩
      | string value => exact ⟨_, .string value⟩
  | ref element resolves => exact hasType_of_element model linked acyclic element resolves
  | unary op operand inner ih =>
      obtain ⟨cleanOperand, _⟩ := List.append_eq_nil_iff.mp clean
      obtain ⟨type, typed⟩ := ih cleanOperand
      have inferred := infer_of_hasType model linked acyclic operand type typed
      obtain ⟨result, rule⟩ := unaryRule_of_clean model op operand type clean inferred
      exact ⟨result, .unary op operand type result typed rule⟩
  | binary op left right ofLeft ofRight ihLeft ihRight =>
      obtain ⟨cleanOperands, _⟩ := List.append_eq_nil_iff.mp clean
      obtain ⟨cleanLeft, cleanRight⟩ := List.append_eq_nil_iff.mp cleanOperands
      obtain ⟨first, typedLeft⟩ := ihLeft cleanLeft
      obtain ⟨second, typedRight⟩ := ihRight cleanRight
      have inferredLeft := infer_of_hasType model linked acyclic left first typedLeft
      have inferredRight := infer_of_hasType model linked acyclic right second typedRight
      obtain ⟨type, rule⟩ :=
        binaryRule_of_clean model op left right first second clean inferredLeft inferredRight
      exact ⟨type, .binary op left right first second type typedLeft typedRight rule⟩

end Linked

/-- In a linked model where no type depends on itself, a formula has no problems exactly if it is
well-typed, and then inference gives the type that it has. -/
theorem problems_eq_nil_iff (linked : model.Linked)
    (acyclic : ∀ id, ¬ Relation.TransGen model.DependsOn id id) (expr : Expr)
    (formula : model.Formula expr) :
    (problems model expr = [] ↔ ∃ type, model.HasType expr type) ∧
      ∀ type, model.HasType expr type → infer model expr = some type := by
  refine ⟨⟨hasType_of_problems model linked acyclic expr formula, ?_⟩,
    infer_of_hasType model linked acyclic expr⟩
  rintro ⟨type, typed⟩
  exact problems_of_hasType model linked acyclic expr type typed

/-- An alias, an enumeration and one that extends it, and two numbers. -/
def gauges : Model where
  name := "gauges"
  collections := [⟨"Gauges", .unknown, [], [⟨0⟩, ⟨1⟩, ⟨2⟩], [⟨0⟩, ⟨1⟩]⟩]
  interfaces := []
  types :=
    [bareType "Count" (.alias (.primitive .int32)),
      bareType "Coarse" (.enumeration none [⟨"LOW", .unknown, [], none⟩]),
      bareType "Fine" (.enumeration (some ⟨1⟩) [⟨"MEDIUM", .unknown, [], none⟩])]
  constants :=
    [bareConstant "TALLY" (.derived ⟨0⟩) (.literal (.integer 3)),
      bareConstant "RATIO" (.primitive .double) (.literal (.integer 1))]

def tally : Expr := .ref (.constant ⟨0⟩)

def reading : Expr :=
  .binary .and
    (.unary .not
      (.binary .lt (.binary .add tally (.literal (.integer 2))) (.ref (.constant ⟨1⟩))))
    (.binary .eq (.ref (.enumerator ⟨1⟩ 0)) (.ref (.enumerator ⟨2⟩ 0)))

theorem tally_formula : gauges.Formula tally := .ref _ rfl

theorem reading_formula : gauges.Formula reading :=
  .binary _ _ _
    (.unary _ _ (.binary _ _ _ (.binary _ _ _ tally_formula (.literal _)) (.ref _ rfl)))
    (.binary _ _ _ (.ref _ rfl) (.ref _ rfl))

theorem tally_integer : gauges.HasType tally .integer :=
  .element _ _ _ _ rfl rfl
    (.single _ _ (.aliased _ _ _ ⟨⟨0⟩, rfl, _, rfl, rfl⟩
      (.primitive _ .int32 _ rfl (.integer _ (by decide)))))

theorem reading_boolean : gauges.HasType reading .boolean := by
  have sum : gauges.HasType (.binary .add tally (.literal (.integer 2))) .integer :=
    .binary _ _ _ _ _ _ tally_integer (.integer 2) (.integers _ (by decide))
  have ratio : gauges.HasType (.ref (.constant ⟨1⟩)) .float :=
    .element _ _ _ _ rfl rfl (.single _ _ (.primitive _ .double _ rfl .double))
  have less : gauges.HasType (.binary .lt (.binary .add tally (.literal (.integer 2)))
      (.ref (.constant ⟨1⟩))) .boolean :=
    .binary _ _ _ _ _ _ sum ratio (.ordering _ _ _ (by decide) ⟨.integer, .float⟩)
  have extended : gauges.Accepts (.named ⟨1⟩) (.named ⟨2⟩) :=
    .inherited _ _ (.single ⟨_, rfl, .enumeration _ _⟩)
  have equal : gauges.HasType (.binary .eq (.ref (.enumerator ⟨1⟩ 0)) (.ref (.enumerator ⟨2⟩ 0)))
      .boolean :=
    .binary _ _ _ _ _ _ (.enumerator _ _ rfl) (.enumerator _ _ rfl)
      (.equality _ _ _ (by decide) (Or.inl extended))
  exact .binary _ _ _ _ _ _ (.unary _ _ _ _ less .not) equal (.logical _ (by decide))

/-- A formula with operators of all kinds has its type. The negation of a number has none. -/
theorem gauges_typed :
    gauges.Linked ∧ (∀ id, ¬ Relation.TransGen gauges.DependsOn id id) ∧
      gauges.Formula reading ∧ problems gauges reading = [] ∧
      infer gauges reading = some .boolean ∧
      ∀ type, ¬ gauges.HasType (.unary .not tally) type := by
  have linked : gauges.Linked := rfl
  have acyclic : ∀ id, ¬ Relation.TransGen gauges.DependsOn id id :=
    (typeOrder_exists gauges).mp ⟨[⟨0⟩, ⟨1⟩, ⟨2⟩], rfl⟩
  obtain ⟨clean, inferred⟩ := problems_eq_nil_iff gauges linked acyclic reading reading_formula
  refine ⟨linked, acyclic, reading_formula, clean.mpr ⟨.boolean, reading_boolean⟩,
    inferred .boolean reading_boolean, ?_⟩
  intro type typed
  have found : problems gauges (.unary .not tally) ≠ [] := by decide
  exact found ((problems_eq_nil_iff gauges linked acyclic _ (.unary _ _ tally_formula)).1.mpr
    ⟨type, typed⟩)

end Check

end FrancaAudit
