import FrancaAudit.Proofs.Check.ValueType

/-!
Values in the place of others, as an order on types.

A type accepts what its rules say, and the rules compose: integers are accepted for floats only, and
a way along bases goes on along further bases. Two types that accept each other's values are the
same unless bases go round in a circle.
-/

namespace FrancaAudit

namespace Model

variable (model : Model)

theorem accepts_integer (actual : ValueType) (accepts : model.Accepts .integer actual) :
    actual = .integer := by
  cases accepts
  rfl

-- By induction on the rule that the first type accepts the second by, which leaves few for the next.
theorem accepts_trans (first second third : ValueType) (outer : model.Accepts first second)
    (inner : model.Accepts second third) : model.Accepts first third := by
  induction outer generalizing third with
  | same type => exact inner
  | widened =>
      rw [accepts_integer model third inner]
      exact .widened
  | inherited expected actual path =>
      cases inner with
      | same => exact .inherited expected actual path
      | inherited _ farther further => exact .inherited expected farther (further.trans path)
  | items expected actual nested ih =>
      cases inner with
      | same => exact .items expected actual nested
      | items _ farther further => exact .items expected farther (ih farther further)

/-- Where no base chain comes back to its start, types that lead to each other are the same. -/
theorem typeExtends_antisymm (acyclic : ∀ id, ¬ Relation.TransGen model.TypeExtends id id)
    (first second : TypeId) (forth : Relation.ReflTransGen model.TypeExtends first second)
    (back : Relation.ReflTransGen model.TypeExtends second first) : first = second := by
  rcases Relation.reflTransGen_iff_eq_or_transGen.mp forth with same | longer
  · exact same.symm
  · exact absurd (longer.trans_left back) (acyclic first)

theorem accepts_antisymm (acyclic : ∀ id, ¬ Relation.TransGen model.TypeExtends id id)
    (first second : ValueType) (forth : model.Accepts first second)
    (back : model.Accepts second first) : first = second := by
  induction forth with
  | same type => rfl
  | widened => exact absurd (accepts_integer model .float back) ValueType.noConfusion
  | inherited expected actual path =>
      cases back with
      | same => rfl
      | inherited _ _ other =>
          rw [typeExtends_antisymm model acyclic expected actual other path]
  | items expected actual nested ih =>
      cases back with
      | same => rfl
      | items _ _ inner => rw [ih inner]

theorem typeExtends_dependsOn (id base : TypeId) (step : model.TypeExtends id base) :
    model.DependsOn id base := by
  obtain ⟨definition, found, extended⟩ := step
  exact .base definition base found extended

end Model

namespace Check

/-- Compatibility is a preorder on the types of values, with arrays nested to any depth, in every
model. It is a partial order where no chain of bases comes back to its start. -/
theorem compatible_order (model : Model) :
    (∀ type, model.compatible type type) ∧
      (∀ first second third, model.compatible first second → model.compatible second third →
        model.compatible first third) ∧
      ((∀ id, ¬ Relation.TransGen model.TypeExtends id id) →
        ∀ first second, model.compatible first second → model.compatible second first →
          first = second) := by
  refine ⟨model.compatible_refl, ?_, ?_⟩
  · intro first second third outer inner
    rw [Model.compatible_iff] at outer inner ⊢
    exact model.accepts_trans first second third outer inner
  · intro acyclic first second forth back
    rw [Model.compatible_iff] at forth back
    exact model.accepts_antisymm acyclic first second forth back

def structsOver (bases : List (Option TypeId)) : Model where
  name := "structs"
  collections := []
  interfaces := []
  types := bases.map fun base => bareType "Struct" (.struct base true [])
  constants := []

/-- From the first struct a chain leads into a circle of two others, each of which is compatible
with the other. On a straight chain the order goes one way only. -/
theorem structsOver_compatible :
    let circle := structsOver [some ⟨1⟩, some ⟨2⟩, some ⟨1⟩]
    let line := structsOver [none, some ⟨0⟩]
    circle.compatible (.array (.named ⟨2⟩)) (.array (.named ⟨1⟩)) ∧
      circle.compatible (.array (.named ⟨1⟩)) (.array (.named ⟨0⟩)) ∧
      circle.compatible (.array (.named ⟨2⟩)) (.array (.named ⟨0⟩)) ∧
      circle.compatible (.array (.named ⟨1⟩)) (.array (.named ⟨2⟩)) ∧
      (∀ id, ¬ Relation.TransGen line.TypeExtends id id) ∧
      line.compatible (.named ⟨0⟩) (.named ⟨1⟩) ∧
      ¬ line.compatible (.named ⟨1⟩) (.named ⟨0⟩) := by
  intro circle line
  obtain ⟨_, transitive, _⟩ := compatible_order circle
  obtain ⟨_, _, antisymmetric⟩ := compatible_order line
  have nearer : circle.compatible (.array (.named ⟨2⟩)) (.array (.named ⟨1⟩)) := by decide
  have entered : circle.compatible (.array (.named ⟨1⟩)) (.array (.named ⟨0⟩)) := by decide
  have ordered := (typeOrder_exists line).mp ⟨[⟨0⟩, ⟨1⟩], rfl⟩
  have acyclic (id : TypeId) (cycle : Relation.TransGen line.TypeExtends id id) : False :=
    ordered id (Relation.TransGen.mono line.typeExtends_dependsOn _ _ cycle)
  have onward : line.compatible (.named ⟨0⟩) (.named ⟨1⟩) := by decide
  refine ⟨nearer, entered, transitive _ _ _ nearer entered, by decide, acyclic, onward, ?_⟩
  intro back
  exact absurd (antisymmetric acyclic _ _ onward back) (by decide)

end Check

end FrancaAudit
