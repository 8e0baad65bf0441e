import FrancaAudit.Proofs.Check.Kind
import FrancaAudit.Proofs.Model.Stored

/-!
The lists of uses and expressions are complete, and so are the findings on intervals.

A rule that goes through one of the lists meets every place of the model once. For intervals this
says what the rule finds: one error for each reference whose bounds are the wrong way round,
wherever it is stored.
-/

namespace FrancaAudit.Check

variable (model : Model)

/-- The type reference is an interval with both bounds given, the lower one being the greater. -/
def Reversed (ref : TypeRef) (lower upper : Int64) : Prop :=
  ref.kind = .interval (some lower) (some upper) ∧ upper.toInt < lower.toInt

def reversedFinding (site : TypeSite) (lower upper : Int64) : Diagnostic :=
  ⟨.error, .typeMismatch, site.node, .interval, none, model.spanOfTypeSite site,
    "Invalid interval specification: lower bound " ++ toString lower.toInt ++
      " exceeds upper bound " ++ toString upper.toInt⟩

theorem reversedBounds?_eq_some (ref : TypeRef) (lower upper : Int64) :
    reversedBounds? ref.kind = some (lower, upper) ↔ Reversed ref lower upper := by
  rw [Reversed]
  cases ref.kind with
  | primitive _ | derived _ => simp [reversedBounds?]
  | interval least greatest =>
      cases least with
      | none => simp [reversedBounds?]
      | some least =>
          cases greatest with
          | none => simp [reversedBounds?]
          | some greatest =>
              simp only [reversedBounds?, Option.ite_none_right_eq_some, Option.some.injEq,
                Prod.mk.injEq, TypeRefKind.interval.injEq]
              constructor
              · rintro ⟨less, rfl, rfl⟩
                exact ⟨⟨rfl, rfl⟩, less⟩
              · rintro ⟨⟨rfl, rfl⟩, less⟩
                exact ⟨less, rfl, rfl⟩

theorem mem_intervalFindings (site : TypeSite) (finding : Diagnostic) :
    finding ∈ intervalFindings model site ↔
      ∃ lower upper, Reversed site.ref lower upper ∧
        finding = reversedFinding model site lower upper := by
  simp only [← reversedBounds?_eq_some]
  unfold intervalFindings
  cases found : reversedBounds? site.ref.kind with
  | none => simp
  | some bounds =>
      obtain ⟨lower, upper⟩ := bounds
      rw [List.mem_singleton]
      constructor
      · rintro rfl
        exact ⟨lower, upper, rfl, rfl⟩
      · rintro ⟨_, _, same, rfl⟩
        obtain ⟨rfl, rfl⟩ := Prod.mk.inj (Option.some.inj same)
        rfl

theorem length_intervalFindings (site : TypeSite) : (intervalFindings model site).length ≤ 1 := by
  unfold intervalFindings
  split
  · exact Nat.zero_le 1
  · exact Nat.le_refl 1

theorem feature_valueFindings (site : ExprSite) (listed : site ∈ model.exprSites)
    (finding : Diagnostic) (made : finding ∈ valueFindings model site) :
    finding.feature ≠ .interval := by
  obtain ⟨message, _, rfl⟩ := List.mem_map.mp made
  obtain ⟨place, _, stands⟩ := (mem_of_surveys _ _ model.exprSites_stored site).mp listed
  change site.feature ≠ .interval
  rw [stands.feature]
  cases place <;> simp

theorem filter_interval :
    (checkModel model).filter
        (fun finding => finding.kind = .typeMismatch ∧ finding.feature = .interval) =
      model.typeSites.flatMap (intervalFindings model) := by
  have ofIntervals : ∀ finding ∈ model.typeSites.flatMap (intervalFindings model),
      finding.kind = .typeMismatch ∧ finding.feature = .interval := by
    intro finding made
    obtain ⟨site, _, found⟩ := List.mem_flatMap.mp made
    obtain ⟨lower, upper, _, rfl⟩ := (mem_intervalFindings model site finding).mp found
    exact ⟨rfl, rfl⟩
  have ofValues : ∀ finding ∈ model.exprSites.flatMap (valueFindings model),
      ¬ (finding.kind = .typeMismatch ∧ finding.feature = .interval) := by
    intro finding made both
    obtain ⟨site, listed, found⟩ := List.mem_flatMap.mp made
    exact feature_valueFindings model site listed finding found both.2
  rw [checkModel,
    filter_run_of_kind model .typeMismatch _ (fun _ kept => (of_decide_eq_true kept).1),
    findingsOfKind, typeFindingsOf, (appends_checkTypes model).findings_eq, List.filter_append,
    List.filter_eq_self.mpr (fun finding made => decide_eq_true (ofIntervals finding made)),
    List.filter_eq_nil_iff.mpr (fun finding made => by simpa using ofValues finding made),
    List.append_nil]

theorem intervals_survey :
    SurveysAll (fun place finding => ∃ site lower upper, model.TypeStandsAt place site ∧
        Reversed site.ref lower upper ∧ finding = reversedFinding model site lower upper)
      (model.typeSites.flatMap (intervalFindings model)) := by
  have singles := surveys_singles _ _ (intervalFindings model) (length_intervalFindings model)
    model.typeSites_stored
  refine surveys_congr _ _ _ (fun place finding => and_congr_right fun _ => ?_) singles
  simp only [mem_intervalFindings, ← exists_and_left]

/-- The list of uses has one entry for each stored type reference, the list of expressions one for
each stored expression, at the element that holds it and with the container of that element; the
arguments of an interface, looked up again by their references, are found as they are listed. So
there is one error for each interval whose bounds are reversed, wherever it is stored. -/
theorem stored_surveyed :
    let errors := (checkModel model).filter fun finding =>
      finding.kind = .typeMismatch ∧ finding.feature = .interval
    SurveysAll model.TypeStandsAt model.typeSites ∧
      SurveysAll model.ExprStandsAt model.exprSites ∧
      (∀ id, ((model.interfaceArguments id).map Prod.fst).filterMap model.argumentAt? =
        model.interfaceArguments id) ∧
      SurveysAll (fun place finding => ∃ site lower upper, model.TypeStandsAt place site ∧
        Reversed site.ref lower upper ∧ finding = reversedFinding model site lower upper) errors ∧
      errors.length = {place | ∃ context ref lower upper,
        model.HoldsType place context ref ∧ Reversed ref lower upper}.ncard := by
  simp only [filter_interval]
  have surveys := intervals_survey model
  refine ⟨model.typeSites_stored, model.exprSites_stored, model.interfaceArguments_again, surveys,
    (length_of_surveys _ _ surveys).trans ?_⟩
  congr 1
  ext place
  constructor
  · rintro ⟨_, _, site, lower, upper, stands, reversed, _⟩
    exact ⟨site.context, site.ref, lower, upper, stands.holds, reversed⟩
  · rintro ⟨context, ref, lower, upper, holds, reversed⟩
    exact ⟨trivial, _, ⟨place.node, context, ref⟩, lower, upper, ⟨holds, rfl⟩, reversed, rfl⟩

end FrancaAudit.Check
