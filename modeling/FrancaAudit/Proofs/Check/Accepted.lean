import FrancaAudit.Proofs.Check.Builtin
import FrancaAudit.Proofs.Check.Initializer
import FrancaAudit.Proofs.Model.Place

/-!
What is known of a model in which no error was found.
-/

namespace FrancaAudit.Check

variable (model : Model)

theorem mem_checkModel (finding : Diagnostic) :
    finding ∈ checkModel model ↔ ∃ group ∈ groups .standard model, finding ∈ group.2 := by
  simp [checkModel, run_eq, builtinFindings]

theorem constant_resolves (linked : model.Linked) (id : ConstantId) (definition : ConstantDef)
    (found : model.constant? id = some definition) : model.Resolves definition.type.ref := by
  have stands : model.typeAt? (.constant id) =
      some ⟨.constant id, definition.owner, definition.type.ref⟩ := by
    simp [Model.typeAt?, found]
  exact model.typeSite_resolves linked _ ((model.mem_typeSites _).mpr ⟨_, stands⟩)

theorem constant_refs (linked : model.Linked) (id : ConstantId) (definition : ConstantDef)
    (found : model.constant? id = some definition) (element : ElementRef)
    (refers : element ∈ definition.value.elementRefs) : (model.element? element).isSome := by
  have stands : model.exprAt? (.constant id) = some ⟨.constant id, .value, none, definition.owner,
      .constantValue, definition.value, some definition.type⟩ := by
    simp [Model.exprAt?, found]
  have resolved := ((Model.linked_iff model).mp linked).2.2.2.2.2 _
    ((model.mem_exprSites _).mpr ⟨_, stands⟩)
  simp only [Model.danglingOfExprSite, List.flatMap_eq_nil_iff, Model.missing_eq_nil] at resolved
  exact resolved element refers

variable (accepted : hasErrors (checkModel model) = false)

include accepted

theorem not_isError_of_accepted (name : String) (findings : List Diagnostic)
    (group : (name, findings) ∈ groups .standard model) (finding : Diagnostic)
    (made : finding ∈ findings) : ¬ finding.isError := by
  have none := List.any_eq_false.mp accepted finding
  exact none ((mem_checkModel model finding).mpr ⟨(name, findings), group, made⟩)

theorem acyclic_of_accepted (id : TypeId) : ¬ Relation.TransGen model.DependsOn id id := by
  intro cycle
  have named := (mem_cyclicTypes model id).mpr cycle
  refine not_isError_of_accepted model accepted "cycles" (dependencyFindings model)
    (by simp [groups]) (typeCycleError model id) ?_ rfl
  rw [dependencyFindings, (appends_checkDependencies model).findings_eq]
  exact List.mem_append_left _ (List.mem_map_of_mem named)

theorem basesAlike_of_accepted : model.BasesAlike := by
  intro definition member base declared baseDefinition found
  have extended := (definition.kind.base?_eq_some base).mpr declared
  obtain ⟨index, located⟩ := List.getElem?_of_mem member
  by_contra different
  have made : baseKindFindings model ⟨index⟩ definition ≠ [] := by
    simp [baseKindFindings, extended, found, different]
  obtain ⟨finding, reported⟩ := List.exists_mem_of_ne_nil _ made
  refine not_isError_of_accepted model accepted "inheritance" (inheritanceFindings model)
    (by simp [groups]) finding ?_ ?_
  · rw [inheritanceFindings, (appends_checkInheritance model).findings_eq]
    exact List.mem_append_left _ (List.mem_flatMap.mpr
      ⟨(definition, index), List.mk_mem_zipIdx_iff_getElem?.mpr located, reported⟩)
  · simp only [baseKindFindings, extended, Option.bind_some, found, different] at reported
    obtain rfl := List.mem_singleton.mp reported
    rfl

theorem valueFindings_of_accepted (site : ExprSite) (listed : site ∈ model.exprSites) :
    valueFindings model site = [] := by
  refine List.eq_nil_iff_forall_not_mem.mpr fun finding made => ?_
  refine not_isError_of_accepted model accepted "types" (typeFindingsOf model) (by simp [groups])
    finding ?_ ?_
  · rw [typeFindingsOf, (appends_checkTypes model).findings_eq]
    exact List.mem_append_right _ (List.mem_flatMap.mpr ⟨site, listed, made⟩)
  · obtain ⟨message, _, rfl⟩ := List.mem_map.mp made
    rfl

theorem constant_of_accepted (id : ConstantId) (definition : ConstantDef)
    (found : model.constant? id = some definition) :
    problems model definition.value = [] ∧
      fits model definition.value definition.type = .ok () := by
  have stands : model.exprAt? (.constant id) = some ⟨.constant id, .value, none, definition.owner,
      .constantValue, definition.value, some definition.type⟩ := by
    simp [Model.exprAt?, found]
  have none := valueFindings_of_accepted model accepted _ ((model.mem_exprSites _).mpr ⟨_, stands⟩)
  have silent : valueMessages model definition.value definition.type = [] :=
    List.map_eq_nil_iff.mp none
  unfold valueMessages at silent
  cases clean : problems model definition.value with
  | cons first rest => simp [clean] at silent
  | nil =>
      cases fitting : fits model definition.value definition.type with
      | error reason => simp [clean, fitting] at silent
      | ok => exact ⟨rfl, rfl⟩

theorem constant_fitsAs (linked : model.Linked) (id : ConstantId) (definition : ConstantDef)
    (found : model.constant? id = some definition) (scalar : definition.type.isArray = false)
    (actual : TypeRef) (path : Relation.ReflTransGen model.Aliases definition.type.ref actual)
    (settled : model.Settled actual) :
    fitsAs model definition.value actual (wanted model actual) = .ok () := by
  obtain ⟨level, levels⟩ := model.levels_exist linked (acyclic_of_accepted model accepted)
  have resolves := constant_resolves model linked id definition found
  have resolved := (model.resolveAlias_eq_some linked level levels _ actual resolves).mpr
    ⟨path, settled⟩
  have fitting := (constant_of_accepted model accepted id definition found).2
  have declared : definition.type = ⟨definition.type.ref, false⟩ := by rw [← scalar]
  rwa [declared, fits_resolved model _ actual resolved] at fitting

end FrancaAudit.Check
