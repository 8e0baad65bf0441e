import FrancaAudit.Proofs.Check.Initializer
import FrancaAudit.Proofs.Check.Walk

/-!
What an alias stands for, and that the check of values does not tell the two apart.

A single value is held against the type behind the aliases from the start. Only where an array is
declared does the alias itself get further: it comes along to each item, and to the type of the
whole, and is looked through there.
-/

namespace FrancaAudit.Check

variable (model : Model)

theorem fits_of_path (ref actual : TypeRef)
    (path : Relation.ReflTransGen model.Aliases ref actual) (settled : model.Settled actual)
    (expr : Expr) :
    fits model expr ⟨ref, false⟩ = fitsAs model expr actual (wanted model actual) := by
  have found := (model.resolveAlias_iff ref actual).mpr ⟨path, settled⟩
  exact fits_resolved model ref actual found expr

section Resolved

variable (ref resolved : TypeRef) (found : model.resolveAlias ref = some resolved)

include found

theorem resolveAlias_again : model.resolveAlias resolved = some resolved := by
  obtain ⟨_, settled⟩ := (model.resolveAlias_iff ref resolved).mp found
  exact model.resolveAlias_settled resolved settled

theorem valueType_alias (isArray : Bool) :
    model.valueType ⟨ref, isArray⟩ = model.valueType ⟨resolved, isArray⟩ := by
  have again := resolveAlias_again model ref resolved found
  simp [Model.valueType, Model.valueTypeWithin, found, again]

theorem fitsByType_alias (expr : Expr) (isArray : Bool) :
    fitsByType model expr ⟨ref, isArray⟩ = fitsByType model expr ⟨resolved, isArray⟩ := by
  unfold fitsByType
  rw [valueType_alias model ref resolved found]

theorem fits_single_alias (expr : Expr) :
    fits model expr ⟨ref, false⟩ = fits model expr ⟨resolved, false⟩ := by
  have again := resolveAlias_again model ref resolved found
  rw [fits_resolved model ref resolved found, fits_resolved model resolved resolved again]

theorem fitItems_alias (items : List BracketItem) (index : Nat) :
    fitItems model items index ref = fitItems model items index resolved := by
  induction items generalizing index with
  | nil => rw [fitItems, fitItems]
  | cons item rest ih =>
      cases item with
      | entry key value => rw [fitItems, fitItems]
      | item value =>
          rw [fitItems, fitItems, fits_single_alias model ref resolved found, ih]

theorem fits_alias (expr : Expr) (isArray : Bool) :
    fits model expr ⟨ref, isArray⟩ = fits model expr ⟨resolved, isArray⟩ := by
  cases isArray with
  | false => exact fits_single_alias model ref resolved found expr
  | true =>
      by_cases bracket : ∃ items, expr = .bracket items
      · obtain ⟨items, rfl⟩ := bracket
        rw [fits_items, fits_items, fitItems_alias model ref resolved found]
      · have other := not_exists.mp bracket
        rw [fits_array model expr ref other, fits_array model expr resolved other,
          fitsByType_alias model ref resolved found]

end Resolved

/-- A reference stands for what its aliases lead to, a type that is none, and for nothing exactly if
they go round in a circle or out of the model. Whatever it stands for has values of the same type,
and the same values fit it; one that does not is refused for the same reason. -/
theorem alias_transparent (ref : TypeRef) :
    (∀ resolved, model.resolveAlias ref = some resolved ↔
      Relation.ReflTransGen model.Aliases ref resolved ∧ model.Settled resolved) ∧
    (model.resolveAlias ref = none ↔ model.Lost model.Aliases ref) ∧
    ∀ resolved, model.resolveAlias ref = some resolved → ∀ isArray,
      model.valueType ⟨ref, isArray⟩ = model.valueType ⟨resolved, isArray⟩ ∧
      ∀ expr, fits model expr ⟨ref, isArray⟩ = fits model expr ⟨resolved, isArray⟩ := by
  refine ⟨model.resolveAlias_iff ref, model.resolveAlias_eq_none ref, ?_⟩
  intro resolved found isArray
  exact ⟨valueType_alias model ref resolved found isArray,
    fun expr => fits_alias model ref resolved found expr isArray⟩

/-- Every type is an alias, one of the next, so that no step is left over. -/
def nicknames : Model where
  name := "nicknames"
  collections := [⟨"Nicknames", .unknown, [], [⟨0⟩, ⟨1⟩, ⟨2⟩], [⟨0⟩]⟩]
  interfaces := []
  types :=
    [bareType "Grade" (.alias (.derived ⟨1⟩)),
      bareType "Mark" (.alias (.derived ⟨2⟩)),
      bareType "Points" (.alias (.primitive .int8))]
  constants := [bareConstant "BEST" (.derived ⟨0⟩) (.literal (.integer 15))]

/-- Too large for what the aliases stand for, which is also what the refusal names. -/
theorem nicknames_transparent :
    nicknames.resolveAlias (.derived ⟨0⟩) = some (.primitive .int8) ∧
      nicknames.valueType ⟨.derived ⟨0⟩, true⟩ = some (.array .integer) ∧
      fits nicknames (.literal (.integer 1000)) ⟨.derived ⟨0⟩, false⟩ =
        .error (.outOfRange 1000 (.primitive .int8)) := by
  obtain ⟨stands, _, transparent⟩ := alias_transparent nicknames (.derived ⟨0⟩)
  have grade : nicknames.Aliases (.derived ⟨0⟩) (.derived ⟨1⟩) := ⟨⟨0⟩, rfl, _, rfl, rfl⟩
  have mark : nicknames.Aliases (.derived ⟨1⟩) (.derived ⟨2⟩) := ⟨⟨1⟩, rfl, _, rfl, rfl⟩
  have points : nicknames.Aliases (.derived ⟨2⟩) (.primitive .int8) := ⟨⟨2⟩, rfl, _, rfl, rfl⟩
  have settled := nicknames.settled_of_underived (.primitive .int8) (by rintro id ⟨⟩)
  have found := (stands _).mpr ⟨.head grade (.head mark (.single points)), settled⟩
  have typed := (transparent _ found true).1
  have refused := (transparent _ found false).2 (.literal (.integer 1000))
  exact ⟨found, typed.trans rfl, refused.trans rfl⟩

end FrancaAudit.Check
