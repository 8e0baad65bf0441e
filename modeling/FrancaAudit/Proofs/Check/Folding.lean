import FrancaAudit.Check.Folding
import Mathlib.Algebra.Ring.Int.Defs

/-!
The exact values of integer expressions, and which of them folding finds.

The value of an expression is given by rules without any limits. Folding finds it as long as
everything the value needs lies near enough and no number on the way is too large.
-/

namespace FrancaAudit

/-- The exact result of an operator on two integers. Division truncates toward zero. -/
inductive Computes : BinaryOp → Int → Int → Int → Prop
  | add (left right : Int) : Computes .add left right (left + right)
  | sub (left right : Int) : Computes .sub left right (left - right)
  | mul (left right : Int) : Computes .mul left right (left * right)
  | div (left right : Int) (nonzero : right ≠ 0) : Computes .div left right (left.tdiv right)

def Fits128 (value : Int) : Prop := -2 ^ 127 ≤ value ∧ value < 2 ^ 127

namespace Model

variable (model : Model)

inductive Evaluates : Expr → Int → Prop
  | literal (value : Int64) : Evaluates (.literal (.integer value)) value.toInt
  | constant (id : ConstantId) (definition : ConstantDef) (value : Int)
      (found : model.constant? id = some definition)
      (scalar : definition.type.isArray = false) (inner : Evaluates definition.value value) :
      Evaluates (.ref (.constant id)) value
  | neg (operand : Expr) (value : Int) (inner : Evaluates operand value) :
      Evaluates (.unary .neg operand) (-value)
  | binary (op : BinaryOp) (left right : Expr) (first second value : Int)
      (ofLeft : Evaluates left first) (ofRight : Evaluates right second)
      (result : Computes op first second value) : Evaluates (.binary op left right) value

/-- The value of the first expression is made from that of the second: an operand, or what a
constant stands for. -/
inductive Needs : Expr → Expr → Prop
  | operand (op : UnaryOp) (operand : Expr) : Needs (.unary op operand) operand
  | left (op : BinaryOp) (left right : Expr) : Needs (.binary op left right) left
  | right (op : BinaryOp) (left right : Expr) : Needs (.binary op left right) right
  | constant (id : ConstantId) (definition : ConstantDef)
      (found : model.constant? id = some definition)
      (scalar : definition.type.isArray = false) : Needs (.ref (.constant id)) definition.value

inductive Expands : Expr → Nat → Expr → Prop
  | here (expr : Expr) : Expands expr 0 expr
  | step (expr next : Expr) (steps : Nat) (part : Expr) (needs : model.Needs expr next)
      (rest : Expands next steps part) : Expands expr (steps + 1) part

/-- Everything the value needs lies less than so many steps below, and no value on the way is too
large. -/
structure Manageable (levels : Nat) (expr : Expr) : Prop where
  shallow : ∀ steps part, model.Expands expr steps part → steps < levels
  small : ∀ steps part value, model.Expands expr steps part → model.Evaluates part value →
    Fits128 value

theorem evaluates_literal (integer : Int64) (value : Int) :
    model.Evaluates (.literal (.integer integer)) value ↔ integer.toInt = value := by
  constructor
  · intro evaluates
    cases evaluates
    rfl
  · rintro rfl
    exact .literal integer

theorem evaluates_constant (id : ConstantId) (value : Int) :
    model.Evaluates (.ref (.constant id)) value ↔
      ∃ definition, model.constant? id = some definition ∧ definition.type.isArray = false ∧
        model.Evaluates definition.value value := by
  constructor
  · intro evaluates
    cases evaluates with
    | constant _ definition _ found scalar inner => exact ⟨definition, found, scalar, inner⟩
  · rintro ⟨definition, found, scalar, inner⟩
    exact .constant id definition value found scalar inner

theorem evaluates_neg (operand : Expr) (value : Int) :
    model.Evaluates (.unary .neg operand) value ↔
      ∃ inner, model.Evaluates operand inner ∧ -inner = value := by
  constructor
  · intro evaluates
    cases evaluates with
    | neg _ inner evaluates => exact ⟨inner, evaluates, rfl⟩
  · rintro ⟨inner, evaluates, rfl⟩
    exact .neg operand inner evaluates

theorem evaluates_binary (op : BinaryOp) (left right : Expr) (value : Int) :
    model.Evaluates (.binary op left right) value ↔
      ∃ first second, model.Evaluates left first ∧ model.Evaluates right second ∧
        Computes op first second value := by
  constructor
  · intro evaluates
    cases evaluates with
    | binary _ _ _ first second _ ofLeft ofRight result =>
        exact ⟨first, second, ofLeft, ofRight, result⟩
  · rintro ⟨first, second, ofLeft, ofRight, result⟩
    exact .binary op left right first second value ofLeft ofRight result

end Model

theorem computes_unique (op : BinaryOp) (left right value other : Int)
    (here : Computes op left right value) (there : Computes op left right other) :
    value = other := by
  cases here <;> cases there <;> rfl

theorem computes_exists (op : BinaryOp) (left right : Int) (operator : op ∈ [.add, .sub, .mul, .div])
    (divisible : op = .div → right ≠ 0) : ∃ value, Computes op left right value := by
  cases op with
  | add => exact ⟨left + right, .add left right⟩
  | sub => exact ⟨left - right, .sub left right⟩
  | mul => exact ⟨left * right, .mul left right⟩
  | div => exact ⟨left.tdiv right, .div left right (divisible rfl)⟩
  | _ => simp at operator

theorem Model.evaluates_unique (model : Model) (expr : Expr) (value other : Int)
    (here : model.Evaluates expr value) (there : model.Evaluates expr other) : value = other := by
  induction here generalizing other with
  | literal integer => exact (model.evaluates_literal integer other).mp there
  | constant id definition value found scalar inner ih =>
      obtain ⟨again, same, _, evaluates⟩ := (model.evaluates_constant id other).mp there
      obtain rfl := Option.some.inj (found.symm.trans same)
      exact ih other evaluates
  | neg operand value inner ih =>
      obtain ⟨negated, evaluates, rfl⟩ := (model.evaluates_neg operand other).mp there
      rw [ih negated evaluates]
  | binary op left right first second value ofLeft ofRight result ihLeft ihRight =>
      obtain ⟨otherFirst, otherSecond, otherLeft, otherRight, otherResult⟩ :=
        (model.evaluates_binary op left right other).mp there
      obtain rfl := ihLeft otherFirst otherLeft
      obtain rfl := ihRight otherSecond otherRight
      exact computes_unique op first second value other result otherResult

theorem fits128_iff (value : Int) :
    Fits128 value ↔ (signedRange 128).1 ≤ value ∧ value ≤ (signedRange 128).2 := by
  have bounds : signedRange 128 = (-2 ^ 127, 2 ^ 127 - 1) := by decide
  simp only [Fits128, bounds]
  omega

theorem fits128_int64 (value : Int64) : Fits128 value.toInt := by
  have lower := value.le_toInt
  have upper := value.toInt_lt
  unfold Fits128
  omega

namespace Check

theorem within128_eq_some (value found : Int) :
    within128 value = some found ↔ Fits128 value ∧ value = found := by
  rw [fits128_iff]
  unfold within128
  split
  · rename_i inside
    simp [inside]
  · rename_i outside
    simp [outside]

theorem arithmetic?_eq_some (op : BinaryOp) (left right value : Int) :
    arithmetic? op left right = some value ↔ Computes op left right value ∧ Fits128 value := by
  constructor
  · intro computed
    cases op with
    | add =>
        obtain ⟨small, rfl⟩ := (within128_eq_some _ _).mp computed
        exact ⟨.add left right, small⟩
    | sub =>
        obtain ⟨small, rfl⟩ := (within128_eq_some _ _).mp computed
        exact ⟨.sub left right, small⟩
    | mul =>
        obtain ⟨small, rfl⟩ := (within128_eq_some _ _).mp computed
        exact ⟨.mul left right, small⟩
    | div =>
        by_cases zero : right = 0
        · simp [arithmetic?, zero] at computed
        · simp only [arithmetic?, if_neg zero] at computed
          obtain ⟨small, rfl⟩ := (within128_eq_some _ _).mp computed
          exact ⟨.div left right zero, small⟩
    | _ => simp [arithmetic?] at computed
  · rintro ⟨computes, small⟩
    cases computes with
    | add => exact (within128_eq_some _ _).mpr ⟨small, rfl⟩
    | sub => exact (within128_eq_some _ _).mpr ⟨small, rfl⟩
    | mul => exact (within128_eq_some _ _).mpr ⟨small, rfl⟩
    | div _ _ nonzero =>
        simp only [arithmetic?, if_neg nonzero]
        exact (within128_eq_some _ _).mpr ⟨small, rfl⟩

end Check

namespace Model

variable (model : Model)

theorem not_manageable_zero (expr : Expr) : ¬ model.Manageable 0 expr := fun manageable =>
  Nat.not_lt_zero 0 (manageable.shallow 0 expr (.here expr))

theorem manageable_succ (levels : Nat) (expr : Expr) :
    model.Manageable (levels + 1) expr ↔
      (∀ next, model.Needs expr next → model.Manageable levels next) ∧
        ∀ value, model.Evaluates expr value → Fits128 value := by
  constructor
  · intro manageable
    refine ⟨fun next needs => ⟨fun steps part expands => ?_, fun steps part value expands => ?_⟩,
      fun value => manageable.small 0 expr value (.here expr)⟩
    · have deeper := manageable.shallow (steps + 1) part (.step expr next steps part needs expands)
      omega
    · exact manageable.small (steps + 1) part value (.step expr next steps part needs expands)
  · rintro ⟨below, here⟩
    refine ⟨fun steps part expands => ?_, fun steps part value expands evaluates => ?_⟩
    · cases expands with
      | here => omega
      | step _ next steps _ needs rest =>
          have deeper := (below next needs).shallow steps part rest
          omega
    · cases expands with
      | here => exact here value evaluates
      | step _ next steps _ needs rest =>
          exact (below next needs).small steps part value rest evaluates

theorem manageable_of_evaluates (levels : Nat) (expr : Expr) (value : Int)
    (evaluates : model.Evaluates expr value) (small : Fits128 value)
    (below : ∀ next, model.Needs expr next → model.Manageable levels next) :
    model.Manageable (levels + 1) expr := by
  refine (model.manageable_succ levels expr).mpr ⟨below, fun other evaluated => ?_⟩
  exact model.evaluates_unique expr value other evaluates evaluated ▸ small

theorem manageable_literal (levels : Nat) (integer : Int64) (value : Int) :
    model.Evaluates (.literal (.integer integer)) value ∧
        model.Manageable (levels + 1) (.literal (.integer integer)) ↔
      integer.toInt = value := by
  rw [evaluates_literal]
  constructor
  · exact And.left
  · rintro rfl
    refine ⟨rfl,
      model.manageable_of_evaluates levels _ _ (.literal integer) (fits128_int64 integer) ?_⟩
    rintro next ⟨⟩

theorem manageable_constant (levels : Nat) (id : ConstantId) (value : Int) :
    model.Evaluates (.ref (.constant id)) value ∧
        model.Manageable (levels + 1) (.ref (.constant id)) ↔
      ∃ definition, model.constant? id = some definition ∧ definition.type.isArray = false ∧
        model.Evaluates definition.value value ∧ model.Manageable levels definition.value := by
  constructor
  · rintro ⟨evaluates, whole⟩
    obtain ⟨definition, found, scalar, inner⟩ := (model.evaluates_constant id value).mp evaluates
    exact ⟨definition, found, scalar, inner, ((model.manageable_succ levels _).mp whole).1 _
      (.constant id definition found scalar)⟩
  · rintro ⟨definition, found, scalar, inner, below⟩
    have evaluates := Evaluates.constant id definition value found scalar inner
    have small := below.small 0 definition.value value (.here _) inner
    refine ⟨evaluates, model.manageable_of_evaluates levels _ value evaluates small ?_⟩
    rintro next (_ | _ | _ | ⟨_, other, again, _⟩)
    obtain rfl := Option.some.inj (found.symm.trans again)
    exact below

theorem manageable_neg (levels : Nat) (operand : Expr) (value : Int) :
    model.Evaluates (.unary .neg operand) value ∧
        model.Manageable (levels + 1) (.unary .neg operand) ↔
      ∃ inner, (model.Evaluates operand inner ∧ model.Manageable levels operand) ∧
        Fits128 (-inner) ∧ -inner = value := by
  constructor
  · rintro ⟨evaluates, whole⟩
    obtain ⟨below, small⟩ := (model.manageable_succ levels _).mp whole
    obtain ⟨inner, ofInner, rfl⟩ := (model.evaluates_neg operand value).mp evaluates
    exact ⟨inner, ⟨ofInner, below _ (.operand .neg operand)⟩, small _ evaluates, rfl⟩
  · rintro ⟨inner, ⟨ofInner, below⟩, small, rfl⟩
    have evaluates := Evaluates.neg operand inner ofInner
    refine ⟨evaluates, model.manageable_of_evaluates levels _ _ evaluates small ?_⟩
    rintro _ ⟨⟩
    exact below

theorem manageable_binary (levels : Nat) (op : BinaryOp) (left right : Expr) (value : Int) :
    model.Evaluates (.binary op left right) value ∧
        model.Manageable (levels + 1) (.binary op left right) ↔
      ∃ first second, (model.Evaluates left first ∧ model.Manageable levels left) ∧
        (model.Evaluates right second ∧ model.Manageable levels right) ∧
          Computes op first second value ∧ Fits128 value := by
  constructor
  · rintro ⟨evaluates, whole⟩
    obtain ⟨below, small⟩ := (model.manageable_succ levels _).mp whole
    obtain ⟨first, second, ofLeft, ofRight, result⟩ :=
      (model.evaluates_binary op left right value).mp evaluates
    exact ⟨first, second, ⟨ofLeft, below _ (.left op left right)⟩,
      ⟨ofRight, below _ (.right op left right)⟩, result, small value evaluates⟩
  · rintro ⟨first, second, ⟨ofLeft, leftBelow⟩, ⟨ofRight, rightBelow⟩, result, small⟩
    have evaluates := Evaluates.binary op left right first second value ofLeft ofRight result
    refine ⟨evaluates, model.manageable_of_evaluates levels _ value evaluates small ?_⟩
    rintro _ ⟨⟩
    · exact leftBelow
    · exact rightBelow

end Model

namespace Check

variable (model : Model)

theorem foldWithin_constant (levels : Nat) (id : ConstantId) (value : Int) :
    foldWithin model (levels + 1) (.ref (.constant id)) = some value ↔
      ∃ definition, model.constant? id = some definition ∧ definition.type.isArray = false ∧
        foldWithin model levels definition.value = some value := by
  rw [foldWithin]
  cases found : model.constant? id with
  | none => simp
  | some definition => cases scalar : definition.type.isArray <;> simp [scalar]

theorem foldWithin_neg (levels : Nat) (operand : Expr) (value : Int) :
    foldWithin model (levels + 1) (.unary .neg operand) = some value ↔
      ∃ inner, foldWithin model levels operand = some inner ∧ Fits128 (-inner) ∧ -inner = value := by
  rw [foldWithin]
  cases foldWithin model levels operand with
  | none => simp
  | some inner => simp [within128_eq_some]

theorem foldWithin_binary (levels : Nat) (op : BinaryOp) (left right : Expr) (value : Int) :
    foldWithin model (levels + 1) (.binary op left right) = some value ↔
      ∃ first second, foldWithin model levels left = some first ∧
        foldWithin model levels right = some second ∧ Computes op first second value ∧
          Fits128 value := by
  rw [foldWithin]
  cases foldWithin model levels left with
  | none => simp
  | some first => simp [Option.bind_eq_some_iff, arithmetic?_eq_some]

theorem foldWithin_none (levels : Nat) (expr : Expr)
    (valueless : ∀ value, ¬ model.Evaluates expr value)
    (unfolded : foldWithin model (levels + 1) expr = none) (value : Int) :
    foldWithin model (levels + 1) expr = some value ↔
      model.Evaluates expr value ∧ model.Manageable (levels + 1) expr :=
  iff_of_false (by simp [unfolded]) fun ⟨evaluates, _⟩ => valueless value evaluates

theorem foldWithin_eq_some (levels : Nat) (expr : Expr) (value : Int) :
    foldWithin model levels expr = some value ↔
      model.Evaluates expr value ∧ model.Manageable levels expr := by
  induction levels generalizing expr value with
  | zero => simp [foldWithin, model.not_manageable_zero]
  | succ levels ih =>
      -- folding and the rules take the same step for each form of expression that has a value
      cases expr with
      | literal literal =>
          cases literal with
          | integer integer => rw [foldWithin, Option.some.injEq, model.manageable_literal]
          | _ => exact foldWithin_none model levels _ (by rintro _ ⟨⟩) rfl value
      | ref element =>
          cases element with
          | constant id => simp only [foldWithin_constant, ih, model.manageable_constant]
          | _ => exact foldWithin_none model levels _ (by rintro _ ⟨⟩) rfl value
      | unary op operand =>
          cases op with
          | neg => simp only [foldWithin_neg, ih, model.manageable_neg]
          | not => exact foldWithin_none model levels _ (by rintro _ ⟨⟩) rfl value
      | binary op left right => simp only [foldWithin_binary, ih, model.manageable_binary]
      | member base owner index => exact foldWithin_none model levels _ (by rintro _ ⟨⟩) rfl value
      | compound inits => exact foldWithin_none model levels _ (by rintro _ ⟨⟩) rfl value
      | bracket items => exact foldWithin_none model levels _ (by rintro _ ⟨⟩) rfl value

end Check

end FrancaAudit
