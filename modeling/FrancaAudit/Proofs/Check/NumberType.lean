import FrancaAudit.Proofs.Check.Accepted
import FrancaAudit.Proofs.Check.Alias
import FrancaAudit.Proofs.Check.Folding

/-!
The types of expressions that have an integer value.

The value of a reference is found in the value of the constant, its type in the declaration. A
constant of a floating-point type may be given by an integer; a reference to it then has an integer
value, but the type of a float. Nothing else sets values and types apart.
-/

namespace FrancaAudit

namespace Model

variable (model : Model)

def Floating (type : DeclaredType) : Prop :=
  type.isArray = false ∧ ∃ actual, Relation.ReflTransGen model.Aliases type.ref actual ∧
    (actual.kind = .primitive .float ∨ actual.kind = .primitive .double)

def UsesFloat (expr : Expr) : Prop :=
  ∃ id definition, .constant id ∈ expr.elementRefs ∧ model.constant? id = some definition ∧
    model.Floating definition.type

theorem settled_of_floating (ref : TypeRef)
    (floating : ref.kind = .primitive .float ∨ ref.kind = .primitive .double) :
    model.Settled ref := by
  refine model.settled_of_underived ref fun id named => ?_
  rcases floating with kind | kind
  · simp [kind] at named
  · simp [kind] at named

theorem usesFloat_constant (id : ConstantId) (definition : ConstantDef)
    (found : model.constant? id = some definition) :
    model.UsesFloat (.ref (.constant id)) ↔ model.Floating definition.type := by
  simp [UsesFloat, Expr.elementRefs, found]

theorem usesFloat_unary (op : UnaryOp) (operand : Expr) :
    model.UsesFloat (.unary op operand) ↔ model.UsesFloat operand := by
  simp [UsesFloat, Expr.elementRefs]

theorem usesFloat_binary (op : BinaryOp) (left right : Expr) :
    model.UsesFloat (.binary op left right) ↔ model.UsesFloat left ∨ model.UsesFloat right := by
  simp only [UsesFloat, Expr.elementRefs, List.mem_append, or_and_right, exists_or]

end Model

namespace Check

/-- The type of a number, which is a float if floats go in and an integer otherwise. -/
inductive NumberType (floats : Prop) : ValueType → Prop
  | integer (none : ¬ floats) : NumberType floats .integer
  | float (some : floats) : NumberType floats .float

theorem numberType_congr (floats others : Prop) (same : floats ↔ others) (type : ValueType) :
    NumberType floats type ↔ NumberType others type := by
  rw [propext same]

theorem numberType_numeric (floats : Prop) (type : ValueType) (number : NumberType floats type) :
    type.isNumeric := by
  cases number with
  | integer none => rfl
  | float some => rfl

theorem numberType_neg (floats : Prop) (type : ValueType) (number : NumberType floats type) :
    unaryType? .neg type = some type := by
  simp [unaryType?, numberType_numeric floats type number]

theorem numberType_arithmetic (floats others : Prop) (left right : ValueType)
    (ofLeft : NumberType floats left) (ofRight : NumberType others right) :
    ∃ type, arithmeticType? left right = some type ∧ NumberType (floats ∨ others) type := by
  cases ofLeft with
  | integer none =>
      cases ofRight with
      | integer neither => exact ⟨.integer, rfl, .integer (not_or.mpr ⟨none, neither⟩)⟩
      | float some => exact ⟨.float, rfl, .float (Or.inr some)⟩
  | float some =>
      cases ofRight with
      | integer none => exact ⟨.float, rfl, .float (Or.inl some)⟩
      | float other => exact ⟨.float, rfl, .float (Or.inl some)⟩

theorem operatorClass_of_computes (op : BinaryOp) (left right value : Int)
    (computes : Computes op left right value) : operatorClass op = .arithmetic := by
  cases computes with
  | add => rfl
  | sub => rfl
  | mul => rfl
  | div => rfl

variable (model : Model)

theorem compatible_numeric (wanted found : ValueType) (suits : model.compatible wanted found)
    (numeric : found.isNumeric) : wanted.isNumeric := by
  cases found with
  | integer => cases wanted <;> simp_all [Model.compatible, ValueType.isNumeric]
  | float => cases wanted <;> simp_all [Model.compatible, ValueType.isNumeric]
  | _ => simp [ValueType.isNumeric] at numeric

section Settled

variable (ref : TypeRef) (settled : model.Settled ref)

include settled

theorem valueType_of_wanted (range : Range) (integer : wanted model ref = .integer range) :
    model.valueType ⟨ref, false⟩ = some .integer := by
  cases kind : ref.kind with
  | primitive primitive =>
      rw [wanted_primitive model ref primitive kind] at integer
      rw [valueType_primitive model ref primitive kind]
      cases primitive <;> simp [wantedOfPrimitive, Primitive.range?] at integer <;> rfl
  | interval lower upper => exact valueType_interval model ref lower upper kind
  | derived id =>
      obtain ⟨definition, names⟩ := model.names_of_resolves ref id settled.resolves kind
      rw [wanted_names model ref id _ names] at integer
      cases definition <;> simp [wantedOfKind] at integer

theorem numberType_declared (type : ValueType) (typed : model.valueType ⟨ref, false⟩ = some type)
    (numeric : type.isNumeric) :
    NumberType (ref.kind = .primitive .float ∨ ref.kind = .primitive .double) type := by
  cases kind : ref.kind with
  | primitive primitive =>
      rw [valueType_primitive model ref primitive kind] at typed
      obtain rfl := Option.some.inj typed
      cases primitive with
      | float => exact .float (by simp)
      | double => exact .float (by simp)
      | boolean => simp [ValueType.ofPrimitive, ValueType.isNumeric] at numeric
      | string => simp [ValueType.ofPrimitive, ValueType.isNumeric] at numeric
      | byteBuffer => simp [ValueType.ofPrimitive, ValueType.isNumeric] at numeric
      | _ => exact .integer (by simp)
  | interval lower upper =>
      rw [valueType_interval model ref lower upper kind] at typed
      obtain rfl := Option.some.inj typed
      exact .integer (by simp)
  | derived id =>
      obtain ⟨definition, names⟩ := model.names_of_resolves ref id settled.resolves kind
      cases definition with
      | array element =>
          -- an array of whatever there may be
          have resolved := model.resolveAlias_settled ref settled
          obtain ⟨named, definition, found, kind⟩ := names
          simp only [Model.valueType, Model.valueTypeWithin, resolved, named, found, kind,
            Bool.false_eq_true, if_false, Option.map_eq_some_iff] at typed
          obtain ⟨inner, _, rfl⟩ := typed
          simp [ValueType.isNumeric] at numeric
      | _ =>
          rw [valueType_names model ref settled id _ names (by simp)] at typed
          obtain rfl := Option.some.inj typed
          simp [ValueType.isNumeric] at numeric

end Settled

/-- What has an integer value is a literal, a reference or an operation, and so is held against the
declared type by its own type, unless an integer is wanted. -/
theorem fitsScalar_of_fitsAs (expr : Expr) (value : Int) (evaluates : model.Evaluates expr value)
    (ref : TypeRef) (target : Wanted) (fitting : fitsAs model expr ref target = .ok ()) :
    target = .anything ∨ (∃ range, target = .integer range) ∨
      fitsScalar model expr ref = .ok () := by
  cases target with
  | anything => exact Or.inl rfl
  | integer range => exact Or.inr (Or.inl ⟨range, rfl⟩)
  | _ => cases evaluates <;> exact Or.inr (Or.inr fitting)

theorem numeric_of_fitsAs (expr : Expr) (value : Int) (evaluates : model.Evaluates expr value)
    (found : ValueType) (inferred : infer model expr = some found) (numeric : found.isNumeric)
    (ref : TypeRef) (settled : model.Settled ref) (type : ValueType)
    (typed : model.valueType ⟨ref, false⟩ = some type)
    (fitting : fitsAs model expr ref (wanted model ref) = .ok ()) : type.isNumeric := by
  rcases fitsScalar_of_fitsAs model expr value evaluates ref _ fitting with
    any | ⟨range, integer⟩ | scalar
  · exact absurd any (wanted_ne_anything model ref settled)
  · rw [valueType_of_wanted model ref settled range integer] at typed
    obtain rfl := Option.some.inj typed
    rfl
  · obtain ⟨other, same, suits⟩ := (fitsByType_typed model expr _ type typed).mp scalar
    obtain rfl := Option.some.inj (inferred.symm.trans same)
    exact compatible_numeric model type found suits numeric

section Accepted

variable (linked : model.Linked) (accepted : hasErrors (checkModel model) = false)

include linked accepted

theorem numberType_constant (id : ConstantId) (definition : ConstantDef)
    (found : model.constant? id = some definition) (scalar : definition.type.isArray = false)
    (value : Int) (evaluates : model.Evaluates definition.value value) (type : ValueType)
    (inferred : infer model definition.value = some type) (numeric : type.isNumeric) :
    ∃ declared, model.valueType definition.type = some declared ∧
      NumberType (model.Floating definition.type) declared := by
  obtain ⟨level, levels⟩ := model.levels_exist linked (acyclic_of_accepted model accepted)
  have resolves := constant_resolves model linked id definition found
  obtain ⟨actual, resolved, path, settled, _⟩ :=
    model.resolveAlias_resolved linked level levels definition.type.ref resolves
  have known := model.valueType_isSome linked level levels ⟨actual, false⟩ settled.resolves
  obtain ⟨declared, typed⟩ := Option.isSome_iff_exists.mp known
  have fitting :=
    constant_fitsAs model accepted linked id definition found scalar actual path settled
  have number := numberType_declared model actual settled declared typed
    (numeric_of_fitsAs model definition.value value evaluates type inferred numeric actual settled
      declared typed fitting)
  have single : definition.type = ⟨definition.type.ref, false⟩ := by rw [← scalar]
  have same : model.valueType definition.type = some declared := by
    rw [single, valueType_alias model _ actual resolved, typed]
  refine ⟨declared, same, (numberType_congr _ _ ?_ declared).mp number⟩
  constructor
  · exact fun floating => ⟨scalar, actual, path, floating⟩
  · rintro ⟨_, other, otherPath, floating⟩
    -- a primitive is no alias, so both are where the aliases end
    obtain rfl := model.settled_unique _ actual other settled
      (model.settled_of_floating other floating) path otherPath
    exact floating

theorem numberType_of_evaluates (expr : Expr) (value : Int)
    (evaluates : model.Evaluates expr value) :
    ∃ type, infer model expr = some type ∧ NumberType (model.UsesFloat expr) type := by
  induction evaluates with
  | literal value =>
      refine ⟨.integer, rfl, .integer ?_⟩
      simp [Model.UsesFloat, Expr.elementRefs]
  | constant id definition value found scalar inner ih =>
      obtain ⟨type, inferred, number⟩ := ih
      obtain ⟨declared, typed, ofDeclared⟩ :=
        numberType_constant model linked accepted id definition found scalar value inner type
          inferred (numberType_numeric _ type number)
      rw [← numberType_congr _ _ (model.usesFloat_constant id definition found)] at ofDeclared
      have known := (infer_constant model id declared).mpr ⟨definition, found, typed⟩
      exact ⟨declared, known, ofDeclared⟩
  | neg operand value inner ih =>
      obtain ⟨type, inferred, number⟩ := ih
      refine ⟨type, ?_, (numberType_congr _ _ (model.usesFloat_unary .neg operand) type).mpr number⟩
      simp [infer, inferred, numberType_neg _ type number]
  | binary op left right first second value ofLeft ofRight result ihLeft ihRight =>
      obtain ⟨leftType, leftInferred, leftNumber⟩ := ihLeft
      obtain ⟨rightType, rightInferred, rightNumber⟩ := ihRight
      obtain ⟨type, result, number⟩ :=
        numberType_arithmetic _ _ leftType rightType leftNumber rightNumber
      refine ⟨type, ?_,
        (numberType_congr _ _ (model.usesFloat_binary op left right) type).mpr number⟩
      simp [infer, operatorClass_of_computes op first second value ‹_›, leftInferred, rightInferred,
        result]

end Accepted

/-- Where no error is found and folding finds a value, the type is that of an integer, unless the
expression refers to a constant that is declared with the type of a float. Then it is a float. -/
theorem infer_of_foldInt (linked : model.Linked)
    (accepted : hasErrors (checkModel model) = false) (expr : Expr) (value : Int)
    (folded : foldInt model expr = some value) :
    (¬ model.UsesFloat expr → infer model expr = some .integer) ∧
      (model.UsesFloat expr → infer model expr = some .float) := by
  obtain ⟨evaluates, _⟩ := (foldWithin_eq_some model (foldingLimit + 1) expr value).mp folded
  obtain ⟨type, inferred, number⟩ :=
    numberType_of_evaluates model linked accepted expr value evaluates
  cases number with
  | integer none => exact ⟨fun _ => inferred, fun some => absurd some none⟩
  | float some => exact ⟨fun none => absurd some none, fun _ => inferred⟩

def quotient : Expr := .binary .div (.ref (.constant ⟨0⟩)) (.literal (.integer 2))

/-- A float that is given by an integer, and an integer that is computed from it. -/
def ratios : Model where
  name := "ratios"
  collections := [⟨"Ratios", .unknown, [], [], [⟨0⟩, ⟨1⟩]⟩]
  interfaces := []
  types := []
  constants :=
    [bareConstant "RATIO" (.primitive .double) (.literal (.integer 7)),
      bareConstant "HALF" (.primitive .int32) quotient]

theorem ratio_floating : ratios.Floating ⟨.primitive .double, false⟩ :=
  ⟨rfl, _, .refl, Or.inr rfl⟩

theorem half_not_floating : ¬ ratios.Floating ⟨.primitive .int32, false⟩ := by
  rintro ⟨_, actual, path, floating⟩
  have settled := ratios.settled_of_underived (.primitive .int32) (by rintro id ⟨⟩)
  obtain rfl := ratios.settled_end _ actual settled path
  rcases floating with kind | kind
  · exact absurd kind (by decide)
  · exact absurd kind (by decide)

/-- A reference counts with its declared type, however the value of the constant is computed. -/
theorem ratios_numbers :
    ratios.Linked ∧ hasErrors (checkModel ratios) = false ∧
      foldInt ratios quotient = some 3 ∧ infer ratios quotient = some .float ∧
      foldInt ratios (.unary .neg (.ref (.constant ⟨1⟩))) = some (-3) ∧
      infer ratios (.unary .neg (.ref (.constant ⟨1⟩))) = some .integer := by
  have linked : ratios.Linked := rfl
  have accepted : hasErrors (checkModel ratios) = false := rfl
  have ofRatio : foldInt ratios quotient = some 3 := rfl
  have ofHalf : foldInt ratios (.unary .neg (.ref (.constant ⟨1⟩))) = some (-3) := rfl
  have floats : ratios.UsesFloat quotient :=
    ⟨⟨0⟩, _, List.mem_singleton.mpr rfl, rfl, ratio_floating⟩
  have integers : ¬ ratios.UsesFloat (.unary .neg (.ref (.constant ⟨1⟩))) := by
    rw [ratios.usesFloat_unary, ratios.usesFloat_constant ⟨1⟩ _ rfl]
    exact half_not_floating
  exact ⟨linked, accepted, ofRatio,
    (infer_of_foldInt ratios linked accepted quotient 3 ofRatio).2 floats, ofHalf,
    (infer_of_foldInt ratios linked accepted _ (-3) ofHalf).1 integers⟩

/-- An integer is computed from a float, with a fraction lost, and nothing is found. -/
theorem quotient_folded :
    ratios.Linked ∧ hasErrors (checkModel ratios) = false ∧
      (∀ element ∈ quotient.elementRefs, (ratios.element? element).isSome) ∧
      problems ratios quotient = [] ∧ foldInt ratios quotient = some 3 ∧
      infer ratios quotient ≠ some .integer := by
  refine ⟨rfl, rfl, ?_, rfl, rfl, by decide⟩
  rintro element (_ | ⟨_, ⟨⟩⟩)
  rfl

end Check

end FrancaAudit
