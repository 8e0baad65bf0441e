import FrancaAudit.Proofs.Check.Accepted
import FrancaAudit.Proofs.Check.Folding
import FrancaAudit.Proofs.Check.Initializer

/-!
The values of integer constants lie within the ranges of their types.

The range of a type is held against the value that folding finds. Where folding gives up, the value
is only known to be some integer: a zero divisor, a number of more than 128 bits on the way or an
expression that is too deep hides what lies out of range.
-/

namespace FrancaAudit

open Check (Range)

/-- The integers that a primitive or an interval admits. -/
inductive Admits : TypeRefKind → Range → Prop
  | primitive (primitive : Primitive) (least greatest : Int)
      (range : primitive.range? = some (least, greatest)) :
      Admits (.primitive primitive) ⟨some least, some greatest⟩
  | interval (lower upper : Option Int64) :
      Admits (.interval lower upper) ⟨lower.map Int64.toInt, upper.map Int64.toInt⟩

namespace Model

variable (model : Model)

/-- A type of single integers, possibly under other names. -/
def Bounded (type : DeclaredType) (range : Range) : Prop :=
  type.isArray = false ∧
    ∃ actual, Relation.ReflTransGen model.Aliases type.ref actual ∧ Admits actual.kind range

/-- An expression made of integer literals, arithmetic operators and references to constants of
bounded types whose values are such expressions. There is no way around a circle of constants. -/
inductive Arithmetic : Expr → Prop
  | literal (value : Int64) : Arithmetic (.literal (.integer value))
  | constant (id : ConstantId) (definition : ConstantDef) (range : Range)
      (found : model.constant? id = some definition)
      (bounded : model.Bounded definition.type range) (inner : Arithmetic definition.value) :
      Arithmetic (.ref (.constant id))
  | neg (operand : Expr) (inner : Arithmetic operand) : Arithmetic (.unary .neg operand)
  | binary (op : BinaryOp) (left right : Expr) (operator : op ∈ [.add, .sub, .mul, .div])
      (ofLeft : Arithmetic left) (ofRight : Arithmetic right) : Arithmetic (.binary op left right)

/-- Everything the value needs lies at most 32 steps below, no value on the way takes more than 128
bits, and nothing is divided by zero. -/
structure Moderate (expr : Expr) : Prop where
  shallow : ∀ steps part, model.Expands expr steps part → steps ≤ 32
  small : ∀ steps part value, model.Expands expr steps part → model.Evaluates part value →
    Fits128 value
  divisible : ∀ steps left right, model.Expands expr steps (.binary .div left right) →
    ¬ model.Evaluates right 0

theorem evaluates_of_arithmetic (expr : Expr) (arithmetic : model.Arithmetic expr)
    (divisible : ∀ steps left right, model.Expands expr steps (.binary .div left right) →
      ¬ model.Evaluates right 0) : ∃ value, model.Evaluates expr value := by
  induction arithmetic with
  | literal value => exact ⟨_, .literal value⟩
  | constant id definition range found bounded inner ih =>
      obtain ⟨value, evaluates⟩ := ih fun steps left right expands =>
        divisible (steps + 1) left right
          (.step _ _ _ _ (.constant id definition found bounded.1) expands)
      exact ⟨value, .constant id definition value found bounded.1 evaluates⟩
  | neg operand inner ih =>
      obtain ⟨value, evaluates⟩ := ih fun steps left right expands =>
        divisible (steps + 1) left right (.step _ _ _ _ (.operand .neg operand) expands)
      exact ⟨-value, .neg operand value evaluates⟩
  | binary op left right operator ofLeft ofRight ihLeft ihRight =>
      obtain ⟨first, leftValue⟩ := ihLeft fun steps inner other expands =>
        divisible (steps + 1) inner other (.step _ _ _ _ (.left op left right) expands)
      obtain ⟨second, rightValue⟩ := ihRight fun steps inner other expands =>
        divisible (steps + 1) inner other (.step _ _ _ _ (.right op left right) expands)
      obtain ⟨value, result⟩ := computes_exists op first second operator fun quotient zero => by
        subst quotient zero
        exact divisible 0 left right (.here _) rightValue
      exact ⟨value, .binary op left right first second value leftValue rightValue result⟩

/-- What a value is made from has a value too. -/
theorem evaluates_needed (expr next : Expr) (needs : model.Needs expr next) (value : Int)
    (evaluates : model.Evaluates expr value) : ∃ inner, model.Evaluates next inner := by
  cases needs with
  | operand op operand =>
      cases evaluates with
      | neg _ inner ofInner => exact ⟨inner, ofInner⟩
  | left op _ right =>
      obtain ⟨first, _, ofLeft, _⟩ := (model.evaluates_binary op next right value).mp evaluates
      exact ⟨first, ofLeft⟩
  | right op left _ =>
      obtain ⟨_, second, _, ofRight, _⟩ := (model.evaluates_binary op left next value).mp evaluates
      exact ⟨second, ofRight⟩
  | constant id definition found scalar =>
      obtain ⟨other, same, _, inner⟩ := (model.evaluates_constant id value).mp evaluates
      obtain rfl := Option.some.inj (found.symm.trans same)
      exact ⟨value, inner⟩

theorem evaluates_part (expr part : Expr) (steps : Nat) (expands : model.Expands expr steps part)
    (value : Int) (evaluates : model.Evaluates expr value) :
    ∃ inner, model.Evaluates part inner := by
  induction expands generalizing value with
  | here expr => exact ⟨value, evaluates⟩
  | step expr next steps part needs rest ih =>
      obtain ⟨inner, ofNext⟩ := model.evaluates_needed expr next needs value evaluates
      exact ih inner ofNext

theorem settled_of_admits (ref : TypeRef) (range : Range) (admits : Admits ref.kind range) :
    model.Settled ref := by
  refine model.settled_of_underived ref fun id named => ?_
  rw [named] at admits
  cases admits

end Model

namespace Check

variable (model : Model)

theorem wanted_admits (ref : TypeRef) (range : Range) (admits : Admits ref.kind range) :
    wanted model ref = .integer range := by
  obtain ⟨span, kind⟩ := ref
  cases admits with
  | primitive primitive least greatest range => simp [wanted, wantedOfPrimitive, range]
  | interval lower upper => rfl

theorem foldInt_of_moderate (expr : Expr) (value : Int) (evaluates : model.Evaluates expr value)
    (moderate : model.Moderate expr) : foldInt model expr = some value :=
  (foldWithin_eq_some model (foldingLimit + 1) expr value).mpr ⟨evaluates,
    fun steps part expands => Nat.lt_succ_of_le (moderate.shallow steps part expands),
    moderate.small⟩

theorem evaluates_of_foldInt (expr : Expr) (value : Int) (folded : foldInt model expr = some value) :
    model.Evaluates expr value :=
  ((foldWithin_eq_some model (foldingLimit + 1) expr value).mp folded).1

theorem moderate_of_foldInt (expr : Expr) (value : Int) (folded : foldInt model expr = some value) :
    model.Moderate expr := by
  obtain ⟨evaluates, manageable⟩ :=
    (foldWithin_eq_some model (foldingLimit + 1) expr value).mp folded
  refine ⟨fun steps part expands => Nat.le_of_lt_succ (manageable.shallow steps part expands),
    manageable.small, ?_⟩
  intro steps left right expands zero
  obtain ⟨quotient, divided⟩ := model.evaluates_part expr _ steps expands value evaluates
  obtain ⟨first, second, _, ofRight, computes⟩ :=
    (model.evaluates_binary .div left right quotient).mp divided
  cases computes with
  | div _ _ nonzero => exact nonzero (model.evaluates_unique right second 0 ofRight zero)

theorem fitsRange_eq_ok_of_foldInt (expr : Expr) (ref : TypeRef) (range : Range) (value : Int)
    (folded : foldInt model expr = some value) (fitting : fitsRange model expr ref range = .ok ()) :
    range.contains value := by
  unfold fitsRange at fitting
  rw [folded] at fitting
  by_contra outside
  simp [outside] at fitting

theorem contains_iff (range : Range) (value : Int) :
    range.contains value ↔
      (∀ bound ∈ range.lower, bound ≤ value) ∧ ∀ bound ∈ range.upper, value ≤ bound := by
  simp [Range.contains, Option.all_eq_true]

/-- Where no error is found, an integer constant has exactly one value, which lies within the
declared range, provided its computation is moderate. -/
theorem constant_in_range (linked : model.Linked)
    (accepted : hasErrors (checkModel model) = false) (id : ConstantId) (definition : ConstantDef)
    (found : model.constant? id = some definition) (range : Range)
    (bounded : model.Bounded definition.type range)
    (arithmetic : model.Arithmetic definition.value)
    (moderate : model.Moderate definition.value) :
    ∃ value, model.Evaluates definition.value value ∧
      (∀ other, model.Evaluates definition.value other → other = value) ∧
      (∀ bound ∈ range.lower, bound ≤ value) ∧ ∀ bound ∈ range.upper, value ≤ bound := by
  obtain ⟨value, evaluates⟩ :=
    model.evaluates_of_arithmetic definition.value arithmetic moderate.divisible
  refine ⟨value, evaluates, fun other another =>
    model.evaluates_unique definition.value other value another evaluates, ?_⟩
  obtain ⟨scalar, actual, toActual, admits⟩ := bounded
  -- the check follows the aliases to the same type that the range belongs to
  obtain ⟨level, levels⟩ := model.levels_exist linked (acyclic_of_accepted model accepted)
  obtain ⟨resolved, resolves, toResolved, settled, _⟩ := model.resolveAlias_resolved linked level
    levels definition.type.ref (constant_resolves model linked id definition found)
  obtain rfl := model.settled_unique definition.type.ref resolved actual settled
    (model.settled_of_admits actual range admits) toResolved toActual
  -- the accepted value fits that type, which for a folded value is a matter of its range
  have fitting := (constant_of_accepted model accepted id definition found).2
  have declared : definition.type = ⟨definition.type.ref, false⟩ := by rw [← scalar]
  rw [declared, fits_resolved model _ resolved resolves,
    wanted_admits model resolved range admits] at fitting
  have folded := foldInt_of_moderate model definition.value value evaluates moderate
  exact (contains_iff range value).mp
    (fitsRange_eq_ok_of_foldInt model definition.value resolved range value folded fitting)

def integerConstant (name : String) (type : TypeRef) (value : Expr) : ConstantDef :=
  ⟨name, .unknown, .collection ⟨0⟩, [], ⟨type, false⟩, value⟩

def share : Expr :=
  .binary .div (.unary .neg (.binary .mul (.ref (.constant ⟨0⟩)) (.literal (.integer 3))))
    (.literal (.integer 4))

def half : ConstantDef := integerConstant "HALF" (.derived ⟨0⟩) (.literal (.integer 50))

/-- A percentage, its type under another name, and a value computed from it. -/
def shares : Model where
  name := "shares"
  collections := [⟨"Shares", .unknown, [], [⟨0⟩], [⟨0⟩, ⟨1⟩]⟩]
  interfaces := []
  types := [bareType "Percent" (.alias (.interval (some 0) (some 100)))]
  constants := [half, integerConstant "SHARE" (.primitive .int8) share]

theorem half_bounded : shares.Bounded half.type ⟨some 0, some 100⟩ := by
  have aliases : shares.Aliases (.derived ⟨0⟩) (.interval (some 0) (some 100)) :=
    ⟨⟨0⟩, rfl, _, rfl, rfl⟩
  exact ⟨rfl, _, .single aliases, .interval (some 0) (some 100)⟩

theorem share_arithmetic : shares.Arithmetic share := by
  have base := Model.Arithmetic.constant ⟨0⟩ half _ rfl half_bounded (.literal 50)
  have tripled := Model.Arithmetic.binary .mul _ _ (by simp) base (.literal 3)
  exact .binary .div _ _ (by simp) (.neg _ tripled) (.literal 4)

theorem share_in_range :
    shares.Linked ∧ hasErrors (checkModel shares) = false ∧ shares.Moderate share ∧
      ∃ value, shares.Evaluates share value ∧ -128 ≤ value ∧ value ≤ 127 := by
  have linked : shares.Linked := rfl
  have accepted : hasErrors (checkModel shares) = false := rfl
  have moderate := moderate_of_foldInt shares share (-37) rfl
  have bounded : shares.Bounded ⟨.primitive .int8, false⟩ ⟨some (-128), some 127⟩ :=
    ⟨rfl, _, .refl, .primitive .int8 (-128) 127 rfl⟩
  obtain ⟨value, evaluates, _, lower, upper⟩ := constant_in_range shares linked accepted ⟨1⟩ _ rfl
    ⟨some (-128), some 127⟩ bounded share_arithmetic moderate
  exact ⟨linked, accepted, moderate, value, evaluates, lower _ rfl, upper _ rfl⟩

def negated : Nat → Expr → Expr
  | 0, expr => expr
  | times + 1, expr => .unary .neg (negated times expr)

def twoTo62 : Expr := .literal (.integer 4611686018427387904)

/-- A zero divisor, a number of more than 128 bits, and an expression of more than 32 steps. -/
def unfolded : Model where
  name := "unfolded"
  collections := [⟨"Unfolded", .unknown, [], [], [⟨0⟩, ⟨1⟩, ⟨2⟩]⟩]
  interfaces := []
  types := []
  constants :=
    [integerConstant "QUOTIENT" (.primitive .int8)
        (.binary .div (.literal (.integer 1)) (.literal (.integer 0))),
      integerConstant "PRODUCT" (.primitive .int8)
        (.binary .mul (.binary .mul twoTo62 twoTo62) twoTo62),
      integerConstant "DEPTH" (.primitive .int8) (negated 33 (.literal (.integer 200)))]

theorem arithmetic_negated (times : Nat) (expr : Expr) (arithmetic : model.Arithmetic expr) :
    model.Arithmetic (negated times expr) := by
  induction times with
  | zero => exact arithmetic
  | succ times ih => exact .neg _ ih

theorem evaluates_negated (times : Nat) (expr : Expr) (value : Int)
    (evaluates : model.Evaluates expr value) :
    model.Evaluates (negated times expr) ((-1) ^ times * value) := by
  induction times with
  | zero => simpa [negated] using evaluates
  | succ times ih =>
      have next := Model.Evaluates.neg _ _ ih
      rwa [← neg_one_mul, ← mul_assoc, ← pow_succ'] at next

theorem evaluates_twoTo62 : model.Evaluates twoTo62 (2 ^ 62) := .literal 4611686018427387904

/-- Each limit hides a constant that has no value or one that is out of range. -/
theorem unfolded_out_of_range :
    unfolded.Linked ∧ hasErrors (checkModel unfolded) = false ∧
      ∀ definition ∈ unfolded.constants,
        unfolded.Bounded definition.type ⟨some (-128), some 127⟩ ∧
        unfolded.Arithmetic definition.value ∧
        ¬ ∃ value, unfolded.Evaluates definition.value value ∧ -128 ≤ value ∧ value ≤ 127 := by
  refine ⟨rfl, rfl, ?_⟩
  have bounded : unfolded.Bounded ⟨.primitive .int8, false⟩ ⟨some (-128), some 127⟩ :=
    ⟨rfl, _, .refl, .primitive .int8 (-128) 127 rfl⟩
  intro definition member
  simp only [unfolded, List.mem_cons, List.not_mem_nil, or_false] at member
  rcases member with rfl | rfl | rfl
  · refine ⟨bounded, .binary .div _ _ (by simp) (.literal 1) (.literal 0), ?_⟩
    rintro ⟨value, evaluates, _⟩
    obtain ⟨_, divisor, _, zero, computes⟩ := (unfolded.evaluates_binary ..).mp evaluates
    cases computes with
    | div _ _ nonzero => exact nonzero ((unfolded.evaluates_literal 0 divisor).mp zero).symm
  · refine ⟨bounded, .binary .mul _ _ (by simp)
      (.binary .mul _ _ (by simp) (.literal _) (.literal _)) (.literal _), ?_⟩
    rintro ⟨value, evaluates, _, upper⟩
    have factor := evaluates_twoTo62 unfolded
    have square := Model.Evaluates.binary .mul _ _ _ _ _ factor factor (.mul _ _)
    have product := Model.Evaluates.binary .mul _ _ _ _ _ square factor (.mul _ _)
    obtain rfl := unfolded.evaluates_unique _ value _ evaluates product
    exact absurd upper (by decide)
  · refine ⟨bounded, arithmetic_negated unfolded 33 _ (.literal 200), ?_⟩
    rintro ⟨value, evaluates, lower, _⟩
    have deep := evaluates_negated unfolded 33 _ _ (.literal 200)
    obtain rfl := unfolded.evaluates_unique _ value _ evaluates deep
    exact absurd lower (by decide)

end Check

end FrancaAudit
