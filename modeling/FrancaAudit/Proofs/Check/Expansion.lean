import FrancaAudit.Proofs.Check.ConstantValue

/-!
The tree that an integer expression unfolds to when every constant is replaced by its value, and
that folding succeeds exactly on the trees of arithmetic that stay within its limits.

A constant that leads back to itself makes the tree infinite. Folding needs no special case for it:
such a tree goes deeper than any limit.
-/

namespace FrancaAudit

namespace Model

variable (model : Model)

/-- A node of arithmetic: an integer, a single constant of the model, a negation, a sum, a
difference, a product or a quotient. -/
inductive Calculates : Expr → Prop
  | literal (value : Int64) : Calculates (.literal (.integer value))
  | constant (id : ConstantId) (definition : ConstantDef)
      (found : model.constant? id = some definition)
      (scalar : definition.type.isArray = false) : Calculates (.ref (.constant id))
  | neg (operand : Expr) : Calculates (.unary .neg operand)
  | binary (op : BinaryOp) (left right : Expr) (operator : op ∈ [.add, .sub, .mul, .div]) :
      Calculates (.binary op left right)

/-- The tree of the expression consists of nodes of arithmetic. -/
def Calculation (expr : Expr) : Prop :=
  ∀ steps part, model.Expands expr steps part → model.Calculates part

theorem expands_append (expr middle part : Expr) (steps more : Nat)
    (outer : model.Expands expr steps middle) (inner : model.Expands middle more part) :
    model.Expands expr (steps + more) part := by
  induction outer with
  | here expr => rwa [Nat.zero_add]
  | step expr next steps middle needs _ ih =>
      rw [Nat.add_right_comm]
      exact .step expr next (steps + more) part needs (ih inner)

theorem expands_circle (expr part : Expr) (steps more depth : Nat)
    (reached : model.Expands expr steps part) (circle : model.Expands part (more + 1) part) :
    ∃ deeper, depth ≤ deeper ∧ model.Expands expr deeper part := by
  induction depth with
  | zero => exact ⟨steps, Nat.zero_le steps, reached⟩
  | succ depth ih =>
      obtain ⟨deeper, enough, again⟩ := ih
      refine ⟨deeper + (more + 1), by omega, ?_⟩
      exact model.expands_append expr part part deeper (more + 1) again circle

theorem calculates_of_evaluates (expr : Expr) (value : Int)
    (evaluates : model.Evaluates expr value) : model.Calculates expr := by
  cases evaluates with
  | literal integer => exact .literal integer
  | constant id definition _ found scalar inner => exact .constant id definition found scalar
  | neg operand value inner => exact .neg operand
  | binary op left right first second _ ofLeft ofRight result =>
      apply Calculates.binary op left right
      cases result <;> simp

theorem calculation_of_evaluates (expr : Expr) (value : Int)
    (evaluates : model.Evaluates expr value) : model.Calculation expr := by
  intro steps part expands
  obtain ⟨inner, ofPart⟩ := model.evaluates_part expr part steps expands value evaluates
  exact model.calculates_of_evaluates part inner ofPart

theorem calculation_needed (expr next : Expr) (needs : model.Needs expr next)
    (calculation : model.Calculation expr) : model.Calculation next :=
  fun steps part expands => calculation (steps + 1) part (.step expr next steps part needs expands)

theorem evaluates_of_needed (expr : Expr) (calculates : model.Calculates expr)
    (needed : ∀ next, model.Needs expr next → ∃ value, model.Evaluates next value)
    (divisible : ∀ left right, expr = .binary .div left right → ¬ model.Evaluates right 0) :
    ∃ value, model.Evaluates expr value := by
  cases calculates with
  | literal integer => exact ⟨integer.toInt, .literal integer⟩
  | constant id definition found scalar =>
      obtain ⟨value, inner⟩ := needed definition.value (.constant id definition found scalar)
      exact ⟨value, .constant id definition value found scalar inner⟩
  | neg operand =>
      obtain ⟨value, inner⟩ := needed operand (.operand .neg operand)
      exact ⟨-value, .neg operand value inner⟩
  | binary op left right operator =>
      obtain ⟨first, ofLeft⟩ := needed left (.left op left right)
      obtain ⟨second, ofRight⟩ := needed right (.right op left right)
      obtain ⟨value, result⟩ := computes_exists op first second operator fun quotient zero => by
        subst quotient zero
        exact divisible left right rfl ofRight
      exact ⟨value, .binary op left right first second value ofLeft ofRight result⟩

/-- A finite tree of arithmetic has a value, unless something is divided by zero. -/
theorem evaluates_of_calculation (levels : Nat) (expr : Expr)
    (shallow : ∀ steps part, model.Expands expr steps part → steps < levels)
    (calculation : model.Calculation expr)
    (divisible : ∀ steps left right, model.Expands expr steps (.binary .div left right) →
      ¬ model.Evaluates right 0) : ∃ value, model.Evaluates expr value := by
  induction levels generalizing expr with
  | zero => exact absurd (shallow 0 expr (.here expr)) (Nat.not_lt_zero 0)
  | succ levels ih =>
      refine model.evaluates_of_needed expr (calculation 0 expr (.here expr)) ?_ ?_
      · intro next needs
        apply ih next
        · intro steps part expands
          have deeper := shallow (steps + 1) part (.step expr next steps part needs expands)
          omega
        · exact model.calculation_needed expr next needs calculation
        · intro steps left right expands
          exact divisible (steps + 1) left right (.step expr next steps _ needs expands)
      · rintro left right rfl
        exact divisible 0 left right (.here _)

theorem evaluates_of_moderate (expr : Expr) (calculation : model.Calculation expr)
    (moderate : model.Moderate expr) : ∃ value, model.Evaluates expr value :=
  model.evaluates_of_calculation 33 expr
    (fun steps part expands => Nat.lt_succ_of_le (moderate.shallow steps part expands))
    calculation moderate.divisible

end Model

namespace Check

variable (model : Model)

theorem foldInt_isSome (expr : Expr) :
    (foldInt model expr).isSome ↔ model.Calculation expr ∧ model.Moderate expr := by
  constructor
  · intro found
    obtain ⟨value, folded⟩ := Option.isSome_iff_exists.mp found
    have evaluates := evaluates_of_foldInt model expr value folded
    exact ⟨model.calculation_of_evaluates expr value evaluates,
      moderate_of_foldInt model expr value folded⟩
  · rintro ⟨calculation, moderate⟩
    obtain ⟨value, evaluates⟩ := model.evaluates_of_moderate expr calculation moderate
    rw [foldInt_of_moderate model expr value evaluates moderate]
    rfl

theorem foldInt_of_circle (expr part : Expr) (steps more : Nat)
    (reached : model.Expands expr steps part) (circle : model.Expands part (more + 1) part) :
    foldInt model expr = none := by
  cases folded : foldInt model expr with
  | none => rfl
  | some value =>
      -- around the circle the expression would go deeper than folding ever looks
      have moderate := moderate_of_foldInt model expr value folded
      obtain ⟨deeper, enough, again⟩ := model.expands_circle expr part steps more 33 reached circle
      have bounded := moderate.shallow deeper part again
      omega

/-- Folding gives a value exactly for the trees of arithmetic within its limits, and it is the
exact one. It gives none where a constant leads back to itself. -/
theorem foldInt_exact (expr : Expr) :
    ((foldInt model expr).isSome ↔ model.Calculation expr ∧ model.Moderate expr) ∧
      (∀ value, foldInt model expr = some value → model.Evaluates expr value) ∧
      ∀ steps more part, model.Expands expr steps part → model.Expands part (more + 1) part →
        foldInt model expr = none := by
  refine ⟨foldInt_isSome model expr, evaluates_of_foldInt model expr, ?_⟩
  intro steps more part reached circle
  exact foldInt_of_circle model expr part steps more reached circle

-- The 32 steps are the last that folding takes.
example : foldInt unfolded (negated 32 (.literal (.integer 200))) = some 200 := by decide
example : foldInt unfolded (negated 33 (.literal (.integer 200))) = none := by decide

end Check

end FrancaAudit
