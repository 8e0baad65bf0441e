import FrancaAudit.Proofs.Check.Expansion
import FrancaAudit.Proofs.Check.NumberType
import FrancaAudit.Proofs.Check.Typing
import FrancaAudit.Proofs.Model.Subexpression

/-!
The numbers that are assigned to enumerators.

An enumerator is given a value that folding finds, or else an expression with the type of an
integer. Either way the expression unfolds to literals, constants and arithmetic, except that it may
read integers that are no constants. What folding does not find is not held against the range.
-/

namespace FrancaAudit

/-- The element has a value only when the program runs, or only inside another value. -/
inductive ElementRef.Varies : ElementRef → Prop
  | attribute (interface : InterfaceId) (index : Nat) : Varies (.attribute interface index)
  | argument (ref : ArgumentRef) : Varies (.argument ref)
  | stateVariable (interface : InterfaceId) (index : Nat) : Varies (.stateVariable interface index)
  | field (owner : TypeId) (index : Nat) : Varies (.field owner index)

def Expr.ReadsVarying (expr : Expr) : Prop :=
  ∃ element, expr.referred? = some element ∧ element.Varies

namespace Model

variable (model : Model)

/-- The expression is written down as the value of an enumerator, of an enumeration or of the
errors of a method. -/
inductive AssignedToEnumerator : Expr → Prop
  | ofType (owner : TypeId) (index : Nat) (enumerator : Enumerator) (expr : Expr)
      (found : model.enumerator? owner index = some enumerator)
      (given : enumerator.value = some expr) : AssignedToEnumerator expr
  | ofErrors (ref : MemberRef) (method : Method) (base : Option TypeId)
      (enumerators : List Enumerator) (index : Nat) (enumerator : Enumerator) (expr : Expr)
      (found : model.method? ref = some method)
      (errors : method.errors = some (.inline base enumerators))
      (listed : enumerators[index]? = some enumerator)
      (given : enumerator.value = some expr) : AssignedToEnumerator expr

/-- Nothing that varies is referred to, neither in the expression nor behind its constants. -/
def Fixed (expr : Expr) : Prop :=
  ∀ steps part, model.Expands expr steps part → ¬ part.ReadsVarying

theorem fixed_of_calculation (expr : Expr) (calculation : model.Calculation expr) :
    model.Fixed expr := by
  rintro steps part expands ⟨element, refers, varies⟩
  cases calculation steps part expands with
  | constant id definition found scalar =>
      obtain rfl := Option.some.inj refers
      cases varies
  | _ => simp [Expr.referred?] at refers

end Model

namespace Check

variable (model : Model)

theorem integer_of_unary (op : UnaryOp) (operand : Expr)
    (inferred : infer model (.unary op operand) = some .integer) :
    op = .neg ∧ infer model operand = some .integer := by
  obtain ⟨type, ofOperand, result⟩ := Option.bind_eq_some_iff.mp inferred
  cases op with
  | not =>
      simp only [unaryType?] at result
      split at result <;> simp at result
  | neg =>
      simp only [unaryType?] at result
      split at result
      · exact ⟨rfl, ofOperand.trans result⟩
      · simp at result

theorem integer_of_arithmetic (left right : ValueType)
    (result : arithmeticType? left right = some .integer) : left = .integer ∧ right = .integer := by
  unfold arithmeticType? at result
  split at result
  · assumption
  · split at result <;> simp at result

theorem integer_of_binary (op : BinaryOp) (left right : Expr)
    (inferred : infer model (.binary op left right) = some .integer) :
    op ∈ operators .arithmetic ∧ infer model left = some .integer ∧
      infer model right = some .integer := by
  cases ranked : operatorClass op with
  | arithmetic =>
      simp only [infer, ranked] at inferred
      split at inferred
      · rename_i first second ofLeft ofRight
        obtain ⟨rfl, rfl⟩ := integer_of_arithmetic first second inferred
        exact ⟨(operatorClass_iff op .arithmetic).mp ranked, ofLeft, ofRight⟩
      · simp at inferred
  | _ => simp [infer, ranked] at inferred

theorem admits_of_valuesHave (ref : TypeRef) (values : model.ValuesHave ref .integer) :
    ∃ actual range, Relation.ReflTransGen model.Aliases ref actual ∧ Admits actual.kind range := by
  generalize same : ValueType.integer = type at values
  induction values with
  | aliased ref actual type aliases inner ih =>
      obtain ⟨last, range, path, admits⟩ := ih same
      exact ⟨last, range, .head aliases path, admits⟩
  | primitive ref primitive type kind holds =>
      obtain rfl := (primitive.holds_iff type).mp holds
      have known : primitive.range?.isSome := by
        cases primitive <;> simp [ValueType.ofPrimitive] at same <;> rfl
      obtain ⟨⟨least, greatest⟩, range⟩ := Option.isSome_iff_exists.mp known
      refine ⟨ref, ⟨some least, some greatest⟩, .refl, ?_⟩
      rw [kind]
      exact .primitive primitive least greatest range
  | interval ref least greatest kind =>
      refine ⟨ref, ⟨least.map Int64.toInt, greatest.map Int64.toInt⟩, .refl, ?_⟩
      rw [kind]
      exact .interval least greatest
  | array ref id element type names inner ih => simp at same
  | named ref id kind names final single => simp at same

theorem bounded_of_integer (type : DeclaredType) (typed : model.valueType type = some .integer) :
    ∃ range, model.Bounded type range := by
  cases model.declaredValuesHave_of_valueType type .integer typed with
  | single ref _ values =>
      obtain ⟨actual, range, path, admits⟩ := admits_of_valuesHave model ref values
      exact ⟨range, rfl, actual, path, admits⟩

/-- Folding aside, the two ways in which an expression passes for an integer. -/
def Integral (expr : Expr) : Prop :=
  (∃ value, model.Evaluates expr value) ∨ infer model expr = some .integer

theorem enumeratorRange_contains (value : Int) :
    enumeratorRange.contains value ↔ -2 ^ 31 ≤ value ∧ value < 2 ^ 32 := by
  have signed : signedRange 32 = (-2 ^ 31, 2 ^ 31 - 1) := by decide
  have unsigned : unsignedRange 32 = (0, 2 ^ 32 - 1) := by decide
  rw [contains_iff]
  simp only [enumeratorRange, signed, unsigned, Option.mem_some_iff, forall_eq']
  omega

theorem enumeratorMessages_eq_nil (expr : Expr) :
    enumeratorMessages model expr = [] ↔
      (∀ value, foldInt model expr = some value → -2 ^ 31 ≤ value ∧ value < 2 ^ 32) ∧
        (foldInt model expr = none → infer model expr = some .integer) := by
  unfold enumeratorMessages
  cases foldInt model expr with
  | none => simp
  | some value =>
      simp only [Option.some.injEq, forall_eq', reduceCtorEq, false_implies, and_true]
      rw [← enumeratorRange_contains]
      simp

theorem integral_of_silent (expr : Expr) (silent : enumeratorMessages model expr = []) :
    Integral model expr := by
  cases folded : foldInt model expr with
  | none => exact Or.inr (((enumeratorMessages_eq_nil model expr).mp silent).2 folded)
  | some value => exact Or.inl ⟨value, evaluates_of_foldInt model expr value folded⟩

/-- Whatever passes for an integer is a node of arithmetic, or reads an integer that varies. -/
theorem calculates_of_integral (expr : Expr) (integral : Integral model expr) :
    model.Calculates expr ∨ infer model expr = some .integer ∧ expr.ReadsVarying := by
  rcases integral with ⟨value, evaluates⟩ | inferred
  · exact Or.inl (model.calculates_of_evaluates expr value evaluates)
  cases expr with
  | literal literal =>
      cases literal with
      | integer value => exact Or.inl (.literal value)
      | _ => simp [infer, literalType] at inferred
  | ref element =>
      cases element with
      | constant id =>
          obtain ⟨definition, found, typed⟩ := (infer_constant model id .integer).mp inferred
          -- an integer by its declared type, so the constant is one of bounded integers
          obtain ⟨range, scalar, _⟩ := bounded_of_integer model definition.type typed
          exact Or.inl (.constant id definition found scalar)
      | enumerator owner index =>
          simp only [infer, elementType?] at inferred
          split at inferred <;> simp at inferred
      | «attribute» interface index => exact Or.inr ⟨inferred, _, rfl, .attribute interface index⟩
      | argument ref => exact Or.inr ⟨inferred, _, rfl, .argument ref⟩
      | stateVariable interface index =>
          exact Or.inr ⟨inferred, _, rfl, .stateVariable interface index⟩
      | field owner index => exact Or.inr ⟨inferred, _, rfl, .field owner index⟩
  | member base owner index => exact Or.inr ⟨inferred, _, rfl, .field owner index⟩
  | unary op operand =>
      obtain ⟨rfl, _⟩ := integer_of_unary model op operand inferred
      exact Or.inl (.neg operand)
  | binary op left right =>
      obtain ⟨operator, _⟩ := integer_of_binary model op left right inferred
      exact Or.inl (.binary op left right operator)
  | compound inits => simp [infer] at inferred
  | bracket items => simp [infer] at inferred

theorem exprAt?_assigned (expr : Expr) (assigned : model.AssignedToEnumerator expr) :
    ∃ place node feature index context, model.exprAt? place =
      some ⟨node, feature, index, context, .enumeratorValue, expr, none⟩ := by
  cases assigned with
  | ofType owner index enumerator _ found given =>
      obtain ⟨definition, known, listed⟩ := Option.bind_eq_some_iff.mp found
      refine ⟨.enumerator owner index, .enumerator owner index, .value, none, definition.owner, ?_⟩
      simp [Model.exprAt?, known, listed, given]
  | ofErrors ref method base enumerators index enumerator _ found errors listed given =>
      refine ⟨.errorCode ref index, .method ref, .errors, some index, .interface ref.interface, ?_⟩
      simp [Model.exprAt?, found, errors, MethodErrors.ownEnumerators, listed, given]

theorem enumeratorMessages_of_accepted (accepted : hasErrors (checkModel model) = false)
    (expr : Expr) (assigned : model.AssignedToEnumerator expr) :
    enumeratorMessages model expr = [] := by
  obtain ⟨place, node, feature, index, context, stands⟩ := exprAt?_assigned model expr assigned
  have none :=
    valueFindings_of_accepted model accepted _ ((model.mem_exprSites _).mpr ⟨place, stands⟩)
  exact List.map_eq_nil_iff.mp none

section Accepted

variable (linked : model.Linked) (accepted : hasErrors (checkModel model) = false)

include linked accepted

theorem integral_constant (id : ConstantId) (definition : ConstantDef)
    (found : model.constant? id = some definition)
    (typed : model.valueType definition.type = some .integer) :
    Integral model definition.value := by
  obtain ⟨range, scalar, actual, path, admits⟩ := bounded_of_integer model definition.type typed
  have settled := model.settled_of_admits actual range admits
  have integer := wanted_admits model actual range admits
  have fitting :=
    constant_fitsAs model accepted linked id definition found scalar actual path settled
  rw [integer] at fitting
  have known := valueType_of_wanted model actual settled range integer
  rcases (fitsRange_knownOr model _ actual range _ known (Or.inl rfl)).mp fitting with
    ⟨value, folded, _⟩ | ⟨_, inferred⟩
  · exact Or.inl ⟨value, evaluates_of_foldInt model _ value folded⟩
  · exact Or.inr inferred

theorem integral_needed (expr next : Expr) (needs : model.Needs expr next)
    (integral : Integral model expr) : Integral model next := by
  rcases integral with ⟨value, evaluates⟩ | inferred
  -- a float constant may take part in a value, so values are followed by values and not by types
  · exact Or.inl (model.evaluates_needed expr next needs value evaluates)
  cases needs with
  | operand op operand => exact Or.inr (integer_of_unary model op next inferred).2
  | left op _ right => exact Or.inr (integer_of_binary model op next right inferred).2.1
  | right op left _ => exact Or.inr (integer_of_binary model op left next inferred).2.2
  | constant id definition found scalar =>
      obtain ⟨again, same, typed⟩ := (infer_constant model id .integer).mp inferred
      obtain rfl := Option.some.inj (found.symm.trans same)
      exact integral_constant model linked accepted id definition found typed

theorem integral_part (expr part : Expr) (steps : Nat) (expands : model.Expands expr steps part)
    (integral : Integral model expr) : Integral model part := by
  induction expands with
  | here expr => exact integral
  | step expr next steps part needs _ ih =>
      exact ih (integral_needed model linked accepted expr next needs integral)

end Accepted

/-- Where no error is found, the value of an enumerator unfolds to a tree of arithmetic in which
integers that vary may stand as well. If none does, and the tree keeps within the limits of folding,
it has exactly one value, which takes 32 bits, with or without a sign. -/
theorem enumerator_number (linked : model.Linked) (accepted : hasErrors (checkModel model) = false)
    (expr : Expr) (assigned : model.AssignedToEnumerator expr) :
    (∀ steps part, model.Expands expr steps part →
      model.Calculates part ∨ infer model part = some .integer ∧ part.ReadsVarying) ∧
    (model.Fixed expr → model.Calculation expr ∧
      (model.Moderate expr → ∃ value, model.Evaluates expr value ∧
        (∀ other, model.Evaluates expr other → other = value) ∧
        -2 ^ 31 ≤ value ∧ value < 2 ^ 32)) := by
  have silent := enumeratorMessages_of_accepted model accepted expr assigned
  have integral := integral_of_silent model expr silent
  have parts (steps : Nat) (part : Expr) (expands : model.Expands expr steps part) :
      model.Calculates part ∨ infer model part = some .integer ∧ part.ReadsVarying :=
    calculates_of_integral model part
      (integral_part model linked accepted expr part steps expands integral)
  refine ⟨parts, fun fixed => ?_⟩
  have calculation : model.Calculation expr := fun steps part expands =>
    (parts steps part expands).resolve_right fun varying => fixed steps part expands varying.2
  refine ⟨calculation, fun moderate => ?_⟩
  -- within the limits folding finds the value, which has then been held against 32 bits
  obtain ⟨value, evaluates⟩ := model.evaluates_of_moderate expr calculation moderate
  have folded := foldInt_of_moderate model expr value evaluates moderate
  refine ⟨value, evaluates, ?_, ((enumeratorMessages_eq_nil model expr).mp silent).1 value folded⟩
  exact fun other another => model.evaluates_unique expr other value another evaluates

def fourSteps : Expr := .binary .mul (.literal (.integer 4)) (.ref (.constant ⟨0⟩))

/-- An enumeration and a method whose enumerators are given by means of a constant. -/
def signals : Model where
  name := "signals"
  collections := [⟨"Signals", .unknown, [], [⟨0⟩], [⟨0⟩]⟩]
  interfaces :=
    [⟨"Mast", .unknown, [], none, [],
      [⟨"raise", .unknown, [], none, false, [], [],
        some (.inline none [⟨"STUCK", .unknown, [], some (.unary .neg fourSteps)⟩])⟩],
      [], [], [], none⟩]
  types := [bareType "Signal" (.enumeration none [⟨"HIGH", .unknown, [], some fourSteps⟩])]
  constants := [bareConstant "STEP" (.primitive .int8) (.literal (.integer 16))]

theorem signals_numbers :
    signals.Linked ∧ hasErrors (checkModel signals) = false ∧
      ∀ expr ∈ [fourSteps, .unary .neg fourSteps],
        signals.AssignedToEnumerator expr ∧ signals.Fixed expr ∧ signals.Moderate expr ∧
          ∃ value, signals.Evaluates expr value ∧ -2 ^ 31 ≤ value ∧ value < 2 ^ 32 := by
  have linked : signals.Linked := rfl
  have accepted : hasErrors (checkModel signals) = false := rfl
  refine ⟨linked, accepted, fun expr listed => ?_⟩
  have assigned : signals.AssignedToEnumerator expr := by
    simp only [List.mem_cons, List.not_mem_nil, or_false] at listed
    rcases listed with rfl | rfl
    · exact .ofType ⟨0⟩ 0 _ _ rfl rfl
    · exact .ofErrors ⟨⟨0⟩, 0⟩ _ none _ 0 _ _ rfl rfl rfl rfl
  have known : (foldInt signals expr).isSome := by
    simp only [List.mem_cons, List.not_mem_nil, or_false] at listed
    rcases listed with rfl | rfl <;> rfl
  obtain ⟨value, folded⟩ := Option.isSome_iff_exists.mp known
  have moderate := moderate_of_foldInt signals expr value folded
  have fixed := signals.fixed_of_calculation expr
    (signals.calculation_of_evaluates expr value (evaluates_of_foldInt signals expr value folded))
  obtain ⟨number, evaluates, _, bounds⟩ :=
    ((enumerator_number signals linked accepted expr assigned).2 fixed).2 moderate
  exact ⟨assigned, fixed, moderate, number, evaluates, bounds⟩

def level : Expr := .ref (.attribute ⟨0⟩ 0)

def zeroth : Expr := .binary .div (.literal (.integer 1)) (.literal (.integer 0))

/-- A constant that is declared to be itself. -/
def endless : Expr := .ref (.constant ⟨0⟩)

def cube : Expr := .binary .mul (.binary .mul twoTo62 twoTo62) twoTo62

def deep : Expr := negated 34 (.literal (.integer 5000000000))

/-- Enumerators whose numbers folding does not find: one is read from an attribute, two have no value
at all, one has more than 128 bits on the way, and one lies too deep. -/
def codes : Model where
  name := "codes"
  collections := []
  interfaces :=
    [⟨"Meter", .unknown, [], none,
      [⟨"level", .unknown, [], ⟨.primitive .uint8, false⟩, false, false⟩], [], [], [⟨0⟩], [⟨0⟩],
      none⟩]
  types :=
    [⟨"Code", .unknown, .interface ⟨0⟩, [], .enumeration none
      [⟨"HIGH", .unknown, [], some level⟩, ⟨"NEVER", .unknown, [], some zeroth⟩,
        ⟨"ALWAYS", .unknown, [], some endless⟩, ⟨"PRODUCT", .unknown, [], some cube⟩,
        ⟨"DEPTH", .unknown, [], some deep⟩]⟩]
  constants :=
    [⟨"LOOP", .unknown, .interface ⟨0⟩, [], ⟨.primitive .int32, false⟩, endless⟩]

theorem not_evaluates_zeroth (value : Int) : ¬ codes.Evaluates zeroth value := by
  intro evaluates
  obtain ⟨_, divisor, _, zero, computes⟩ := (codes.evaluates_binary ..).mp evaluates
  cases computes with
  | div _ _ nonzero => exact nonzero ((codes.evaluates_literal 0 divisor).mp zero).symm

-- By induction on the evaluation, which would have one of the same constant inside.
theorem not_evaluates_endless (value : Int) : ¬ codes.Evaluates endless value := by
  intro evaluates
  generalize same : endless = expr at evaluates
  induction evaluates with
  | constant id definition value found scalar inner ih =>
      cases same
      obtain rfl := Option.some.inj found
      exact ih rfl
  | literal | neg | binary => nomatch same

theorem evaluates_cube : codes.Evaluates cube (2 ^ 62 * 2 ^ 62 * 2 ^ 62) := by
  have factor := evaluates_twoTo62 codes
  have square := Model.Evaluates.binary .mul _ _ _ _ _ factor factor (.mul _ _)
  exact .binary .mul _ _ _ _ _ square factor (.mul _ _)

/-- Nothing is found, though one number is no constant, two are no numbers, and two are out of
range. -/
theorem codes_accepted :
    codes.Linked ∧ hasErrors (checkModel codes) = false ∧
      (∀ expr ∈ [level, zeroth, endless, cube, deep], codes.AssignedToEnumerator expr) ∧
      ¬ codes.Calculation level ∧
      (∀ expr ∈ [zeroth, endless], ∀ value, ¬ codes.Evaluates expr value) ∧
      ∀ expr ∈ [cube, deep], ∃ value, codes.Evaluates expr value ∧ 2 ^ 32 ≤ value := by
  simp only [List.forall_mem_cons, List.not_mem_nil, false_implies, implies_true, and_true]
  refine ⟨rfl, rfl, ⟨.ofType ⟨0⟩ 0 _ _ rfl rfl, .ofType ⟨0⟩ 1 _ _ rfl rfl,
    .ofType ⟨0⟩ 2 _ _ rfl rfl, .ofType ⟨0⟩ 3 _ _ rfl rfl, .ofType ⟨0⟩ 4 _ _ rfl rfl⟩, ?_,
    ⟨not_evaluates_zeroth, not_evaluates_endless⟩, ?_, ?_⟩
  · exact fun calculation => nomatch calculation 0 level (.here level)
  · exact ⟨_, evaluates_cube, by decide⟩
  · exact ⟨_, evaluates_negated codes 34 _ _ (.literal 5000000000), by decide⟩

end Check

end FrancaAudit
