import FrancaAudit.Proofs.Check.Builtin
import FrancaAudit.Proofs.Check.Behaviour
import FrancaAudit.Proofs.Check.WithoutSpans.Value

/-!
Findings do not depend on spans.

Every rule gives the same findings for a model and for the model without its spans, up to the spans
of the findings themselves. The advice on the order of elements is the one rule that compares spans
and is left out here.
-/

namespace FrancaAudit.Check

variable (model : Model)

/-- The findings are the same but for their spans. -/
def Alike (first second : List Diagnostic) : Prop :=
  first.map (·.withSpan .unknown) = second.map (·.withSpan .unknown)

namespace Alike

theorem of_eq (first second : List Diagnostic) (same : first = second) : Alike first second :=
  same ▸ rfl

theorem append (first second third fourth : List Diagnostic) (front : Alike first second)
    (back : Alike third fourth) : Alike (first ++ third) (second ++ fourth) := by
  rw [Alike, List.map_append, List.map_append, front, back]

theorem flatMap {α β : Type} (items : List α) (change : α → β) (place : β → List Diagnostic)
    (here : α → List Diagnostic) (same : ∀ item, Alike (place (change item)) (here item)) :
    Alike ((items.map change).flatMap place) (items.flatMap here) := by
  rw [Alike, List.flatMap_map, List.map_flatMap, List.map_flatMap]
  exact congrArg items.flatMap (funext same)

theorem placed {α β : Type} (items : List α) (change : α → β)
    (place : Nat → β → List Diagnostic) (here : Nat → α → List Diagnostic)
    (same : ∀ index item, Alike (place index (change item)) (here index item)) :
    Alike (Model.placed (items.map change) place) (Model.placed items here) := by
  rw [Model.placed, List.zipIdx_map]
  exact flatMap _ _ _ _ fun entry => same entry.2 entry.1

end Alike

theorem typePrecedence_withoutSpans : typePrecedence model.withoutSpans = typePrecedence model := by
  simp [typePrecedence, typeDependencies, List.zipIdx_map, List.flatMap_map, List.filterMap_map,
    Function.comp_def]

theorem interfacePrecedence_withoutSpans :
    interfacePrecedence model.withoutSpans = interfacePrecedence model := by
  simp [interfacePrecedence, List.zipIdx_map, List.flatMap_map]

theorem dependencyFindings_withoutSpans :
    dependencyFindings model.withoutSpans = dependencyFindings model := by
  have types : cyclicTypes model.withoutSpans = cyclicTypes model := by
    simp only [cyclicTypes, typeOrder, typePrecedence_withoutSpans]
  have interfaces : cyclicInterfaces model.withoutSpans = cyclicInterfaces model := by
    simp only [cyclicInterfaces, interfacePrecedence_withoutSpans]
  have ofTypes : typeCycleError model.withoutSpans = typeCycleError model := by
    funext id
    simp only [typeCycleError, Model.typeName_withoutSpans]
  have ofInterfaces : interfaceCycleError model.withoutSpans = interfaceCycleError model := by
    funext id
    simp only [interfaceCycleError, Model.interfaceName_withoutSpans]
  simp only [dependencyFindings, (appends_checkDependencies _).findings_eq, types, interfaces,
    ofTypes, ofInterfaces]

theorem named_map {α β : Type} (items : List α) (change : α → β) (name : β → String)
    (node : Nat → Node) :
    named (items.map change) name node = named items (fun item => name (change item)) node := by
  simp [named, List.zipIdx_map]

theorem definitionNames_withoutSpans (types : List TypeId) (constants : List ConstantId) :
    definitionNames model.withoutSpans types constants = definitionNames model types constants := by
  simp [definitionNames, Function.comp_def]

theorem errorCodeDuplicates_withoutSpans (node : Node) (seen : List String)
    (items : List (Enumerator × Nat)) :
    errorCodeDuplicates node seen (items.map (Prod.map (·.withoutSpans) id)) =
      errorCodeDuplicates node seen items := by
  induction items generalizing seen with
  | nil => rfl
  | cons item rest ih => simp [errorCodeDuplicates, ih]

theorem methodFindings_withoutSpans (id : InterfaceId) (index : Nat) (method : Method) :
    methodFindings id index method.withoutSpans = methodFindings id index method := by
  have codes : errorCodeDuplicates (.method ⟨id, index⟩) []
      ((method.withoutSpans.errors.map (·.ownEnumerators)).getD []).zipIdx =
      errorCodeDuplicates (.method ⟨id, index⟩) []
        ((method.errors.map (·.ownEnumerators)).getD []).zipIdx := by
    rw [Method.withoutSpans_errors]
    cases method.errors with
    | none => rfl
    | some errors =>
        simp only [Option.map_some, Option.getD_some, MethodErrors.ownEnumerators_withoutSpans,
          List.zipIdx_map, errorCodeDuplicates_withoutSpans]
  simp only [methodFindings, codes]
  simp [namedArguments, named_map, fireAndForgetErrors]

theorem interfaceFindings_withoutSpans (id : InterfaceId) (interface : Interface) :
    interfaceFindings model.withoutSpans id interface.withoutSpans =
      interfaceFindings model id interface := by
  simp only [interfaceFindings, (appends_checkInterface _ id _).findings_eq]
  simp [definitionNames_withoutSpans, named_map, broadcastFindings, namedArguments,
    List.zipIdx_map, List.flatMap_map, methodFindings_withoutSpans]

theorem typeFindings_withoutSpans (id : TypeId) (definition : TypeDef) :
    typeFindings id definition.withoutSpans = typeFindings id definition := by
  have empty : emptyTypeFindings (.type id) definition.kind.withoutSpans =
      emptyTypeFindings (.type id) definition.kind := by
    cases definition.kind <;> simp [TypeKind.withoutSpans, emptyTypeFindings]
  simp [typeFindings, empty, named_map]

theorem annotationFindings_alike :
    Alike (annotationFindings model.withoutSpans) (annotationFindings model) := by
  rw [annotationFindings, annotationFindings, Model.annotationSites_withoutSpans]
  refine Alike.flatMap _ _ _ _ fun site => ?_
  rw [AnnotationSite.withoutSpans_annotations, List.zipIdx_map]
  refine Alike.flatMap _ _ _ _ fun entry => ?_
  have kind : entry.1.withoutSpans.kind? = entry.1.kind? := rfl
  dsimp only [Prod.map, id]
  rw [kind]
  split <;> rfl

theorem shapeFindings_alike :
    Alike (shapeFindings model.withoutSpans false) (shapeFindings model false) := by
  simp only [shapeFindings, (appends_checkShape _ _).findings_eq]
  refine Alike.append _ _ _ _ (Alike.of_eq _ _ ?_) (annotationFindings_alike model)
  simp [topLevelNames, named_map, List.flatMap_map, List.zipIdx_map, definitionNames_withoutSpans,
    interfaceFindings_withoutSpans, typeFindings_withoutSpans]

theorem intervalFindings_alike (site : TypeSite) :
    Alike (intervalFindings model.withoutSpans site.withoutSpans) (intervalFindings model site) := by
  simp only [intervalFindings, TypeSite.withoutSpans_ref, TypeRef.withoutSpans_kind]
  cases reversedBounds? site.ref.kind <;> rfl

@[simp]
theorem valueMessages_withoutSpans (expr : Expr) (type : DeclaredType) :
    valueMessages model.withoutSpans expr type.withoutSpans = valueMessages model expr type := by
  have misfit (reason : Misfit) :
      misfitMessage model.withoutSpans type.withoutSpans reason.withoutSpans =
        misfitMessage model type reason := by
    unfold misfitMessage
    rw [Model.declaredTypeLabel_withoutSpans, Misfit.message_withoutSpans]
  simp only [valueMessages, problems_withoutSpans, fits_withoutSpans model expr type,
    message_withoutSpans]
  cases fits model expr type with
  | ok => rfl
  | error reason => simp only [outcome_error, misfit]

theorem valueFindings_withoutSpans (site : ExprSite) :
    valueFindings model.withoutSpans site.withoutSpans = valueFindings model site := by
  have error : siteError site.withoutSpans = siteError site := rfl
  simp only [valueFindings, ExprSite.withoutSpans_role, ExprSite.withoutSpans_expected,
    ExprSite.withoutSpans_expr, error]
  cases site.role with
  | constantValue | initialValue => cases site.expected <;> simp
  | enumeratorValue => simp [enumeratorMessages]
  | guard | assignedValue => rfl

theorem typeFindingsOf_alike :
    Alike (typeFindingsOf model.withoutSpans) (typeFindingsOf model) := by
  simp only [typeFindingsOf, (appends_checkTypes _).findings_eq]
  refine Alike.append _ _ _ _ ?_ ?_
  · rw [Model.typeSites_withoutSpans]
    exact Alike.flatMap _ _ _ _ (intervalFindings_alike model)
  · rw [Model.exprSites_withoutSpans]
    exact Alike.flatMap _ _ _ _ fun site => Alike.of_eq _ _ (valueFindings_withoutSpans model site)

theorem sameKind_withoutSpans (first second : TypeKind) :
    sameKind first.withoutSpans second.withoutSpans = sameKind first second := by
  cases first <;> cases second <;> rfl

theorem baseKindFindings_withoutSpans (id : TypeId) (definition : TypeDef) :
    baseKindFindings model.withoutSpans id definition.withoutSpans =
      baseKindFindings model id definition := by
  simp only [baseKindFindings, TypeDef.withoutSpans_kind, TypeKind.base?_withoutSpans]
  cases definition.kind.base? with
  | none => rfl
  | some base =>
      simp only [Option.bind_some, Model.type?_withoutSpans]
      cases model.type? base with
      | none => rfl
      | some found => simp [sameKind_withoutSpans, baseKindError]

theorem contributions_withoutSpans (chain : List InterfaceId)
    (members others : InterfaceId → Interface → List (String × Node))
    (same : ∀ id interface, members id interface.withoutSpans = others id interface) :
    contributions model.withoutSpans chain members = contributions model chain others := by
  refine congrArg chain.flatMap (funext fun origin => ?_)
  rw [Model.interface?_withoutSpans]
  cases model.interface? origin with
  | none => rfl
  | some interface => simp [same]

theorem clashFindings_withoutSpans (id : InterfaceId) (what : String)
    (members : List Contribution) :
    clashFindings model.withoutSpans id what members = clashFindings model id what members := by
  simp [clashFindings, clashError]

theorem inheritedNameFindings_withoutSpans (id : InterfaceId) :
    inheritedNameFindings model.withoutSpans id = inheritedNameFindings model id := by
  have attributes := contributions_withoutSpans model (model.inheritanceSet id) attributeMembers
    attributeMembers fun id interface => by simp [attributeMembers, List.zipIdx_map]
  have types := contributions_withoutSpans model (model.inheritanceSet id)
    (typeMembers model.withoutSpans) (typeMembers model) fun id interface => by simp [typeMembers]
  have constants := contributions_withoutSpans model (model.inheritanceSet id)
    (constantMembers model.withoutSpans) (constantMembers model)
    fun id interface => by simp [constantMembers, Function.comp_def]
  simp only [inheritedNameFindings, Model.inheritanceSet_withoutSpans, attributes, types,
    constants, clashFindings_withoutSpans]

theorem baseContractFindings_withoutSpans (id : InterfaceId) :
    baseContractFindings model.withoutSpans id = baseContractFindings model id := by
  simp [baseContractFindings, inheritedContract?, baseContractError]

theorem inheritanceFindings_withoutSpans :
    inheritanceFindings model.withoutSpans = inheritanceFindings model := by
  simp only [inheritanceFindings, (appends_checkInheritance _).findings_eq]
  simp [List.zipIdx_map, List.flatMap_map, baseKindFindings_withoutSpans,
    inheritedNameFindings_withoutSpans, baseContractFindings_withoutSpans]

theorem signature_withoutSpans (arguments : List Argument) :
    signature (arguments.map (·.withoutSpans)) = signature arguments := by
  simp [signature]

theorem overloads_withoutSpans (chain : List InterfaceId)
    (declared : InterfaceId → Interface → List Overload)
    (same : ∀ id interface, declared id interface.withoutSpans = declared id interface) :
    overloads model.withoutSpans chain declared = overloads model chain declared := by
  refine congrArg chain.flatMap (funext fun id => ?_)
  rw [Model.interface?_withoutSpans]
  cases model.interface? id with
  | none => rfl
  | some interface => exact same id interface

theorem ambiguityFindings_withoutSpans (id : InterfaceId) (what : String)
    (node : MemberRef → Node) (feature : Feature) (overloads : List Overload) :
    ambiguityFindings model.withoutSpans id what node feature overloads =
      ambiguityFindings model id what node feature overloads := by
  simp only [ambiguityFindings, pairFindings, ambiguityError, Model.interfaceName_withoutSpans]

theorem overloadFindings_withoutSpans :
    overloadFindings model.withoutSpans = overloadFindings model := by
  have methods (chain : List InterfaceId) := overloads_withoutSpans model chain methodOverloads
    fun id interface => by simp [methodOverloads, List.zipIdx_map, signature_withoutSpans]
  have broadcasts (chain : List InterfaceId) := overloads_withoutSpans model chain
    broadcastOverloads fun id interface => by
      simp [broadcastOverloads, List.zipIdx_map, signature_withoutSpans]
  simp only [overloadFindings, (appends_checkOverloads _).findings_eq, methods, broadcasts,
    ambiguityFindings_withoutSpans, Model.interfaceIds_withoutSpans,
    Model.inheritanceSet_withoutSpans]

def Use.withoutSpan (use : Use) : Use := { use with span := .unknown }

theorem hiddenFindings_withoutSpans (use : Use) (what : String) (target : Owner) :
    hiddenFindings model.withoutSpans use what target = hiddenFindings model use what target := by
  have hidden : hiddenIn? model.withoutSpans use.context target =
      hiddenIn? model use.context target := by
    simp only [hiddenIn?, Model.inheritanceSet_withoutSpans]
  simp only [hiddenFindings, hiddenError, hidden, Model.interfaceName_withoutSpans]

theorem typeUseFindings_withoutSpans (use : Use) (target : TypeId) :
    typeUseFindings model.withoutSpans use target = typeUseFindings model use target := by
  simp only [typeUseFindings, Model.type?_withoutSpans]
  cases model.type? target with
  | none => rfl
  | some definition => exact hiddenFindings_withoutSpans model use _ _

theorem elementUseFindings_withoutSpans (use : Use) (target : ElementRef) :
    elementUseFindings model.withoutSpans use target = elementUseFindings model use target := by
  simp only [elementUseFindings, Model.element?_withoutSpans]
  cases model.element? target with
  | none => rfl
  | some element => exact hiddenFindings_withoutSpans model use _ _

def UsesAlike {α : Type} (first second : List (Use × α)) : Prop :=
  first.map (Prod.map Use.withoutSpan id) = second.map (Prod.map Use.withoutSpan id)

namespace UsesAlike

variable {α : Type}

theorem append (first second third fourth : List (Use × α)) (front : UsesAlike first second)
    (back : UsesAlike third fourth) : UsesAlike (first ++ third) (second ++ fourth) := by
  rw [UsesAlike, List.map_append, List.map_append, front, back]

theorem flatMap {β γ : Type} (items : List β) (change : β → γ) (place : γ → List (Use × α))
    (here : β → List (Use × α)) (same : ∀ item, UsesAlike (place (change item)) (here item)) :
    UsesAlike ((items.map change).flatMap place) (items.flatMap here) := by
  rw [UsesAlike, List.flatMap_map, List.map_flatMap, List.map_flatMap]
  exact congrArg items.flatMap (funext same)

theorem placed {β γ : Type} (items : List β) (change : β → γ)
    (place : Nat → γ → List (Use × α)) (here : Nat → β → List (Use × α))
    (same : ∀ index item, UsesAlike (place index (change item)) (here index item)) :
    UsesAlike (Model.placed (items.map change) place) (Model.placed items here) := by
  rw [Model.placed, List.zipIdx_map]
  exact flatMap _ _ _ _ fun entry => same entry.2 entry.1

theorem findings (first second : List (Use × α)) (alike : UsesAlike first second)
    (report : Use → α → List Diagnostic)
    (steady : ∀ use target, (report use target).map (·.withSpan .unknown) =
      report use.withoutSpan target) :
    Alike (first.flatMap fun (use, target) => report use target)
      (second.flatMap fun (use, target) => report use target) := by
  have without (uses : List (Use × α)) :
      (uses.flatMap fun (use, target) => report use target).map (·.withSpan .unknown) =
        (uses.map (Prod.map Use.withoutSpan id)).flatMap fun (use, target) =>
          report use target := by
    rw [List.map_flatMap, List.flatMap_map]
    exact congrArg uses.flatMap (funext fun entry => steady entry.1 entry.2)
  rw [Alike, without, without, alike]

end UsesAlike

theorem hiddenFindings_steady (use : Use) (what : String) (target : Owner) :
    (hiddenFindings model use what target).map (·.withSpan .unknown) =
      hiddenFindings model use.withoutSpan what target := by
  unfold hiddenFindings
  rw [show use.withoutSpan.context = use.context from rfl]
  cases hiddenIn? model use.context target <;> rfl

theorem typeSiteUses_alike :
    UsesAlike (typeSiteUses model.withoutSpans) (typeSiteUses model) := by
  rw [UsesAlike, typeSiteUses, Model.typeSites_withoutSpans, typeSiteUses, List.filterMap_map,
    List.map_filterMap, List.map_filterMap]
  refine congrArg (List.filterMap · model.typeSites) (funext fun site => ?_)
  simp [Function.comp_def, Use.withoutSpan]

theorem baseUses_alike : UsesAlike (baseUses model.withoutSpans) (baseUses model) := by
  rw [UsesAlike, baseUses, Model.withoutSpans_types, List.zipIdx_map, baseUses,
    List.filterMap_map, List.map_filterMap, List.map_filterMap]
  refine congrArg (List.filterMap · model.types.zipIdx) (funext fun entry => ?_)
  simp [Function.comp_def, Use.withoutSpan]

theorem errorUses_alike : UsesAlike (errorUses model.withoutSpans) (errorUses model) := by
  refine UsesAlike.placed _ _ _ _ fun position interface => ?_
  rw [UsesAlike, Interface.withoutSpans_methods, List.zipIdx_map, List.filterMap_map,
    List.map_filterMap, List.map_filterMap]
  refine congrArg (List.filterMap · interface.methods.zipIdx) (funext fun entry => ?_)
  simp [Function.comp_def, Use.withoutSpan, Option.bind_map]

theorem expressionUses_alike :
    UsesAlike (expressionUses model.withoutSpans) (expressionUses model) := by
  rw [expressionUses, Model.exprSites_withoutSpans]
  refine UsesAlike.flatMap _ _ _ _ fun site => ?_
  simp [UsesAlike, Use.withoutSpan]

theorem targetUses_alike : UsesAlike (targetUses model.withoutSpans) (targetUses model) := by
  refine UsesAlike.placed _ _ _ _ fun position interface => ?_
  rw [Interface.withoutSpans_contract]
  cases interface.contract with
  | none => rfl
  | some contract =>
      simp only [Option.map_some, Option.toList_some, List.flatMap_cons, List.flatMap_nil,
        List.append_nil]
      refine UsesAlike.placed _ _ _ _ fun state declared => ?_
      refine UsesAlike.placed _ _ _ _ fun index transition => ?_
      simp [UsesAlike, List.zipIdx_map, Use.withoutSpan]

theorem visibilityFindings_alike :
    Alike (visibilityFindings model.withoutSpans) (visibilityFindings model) := by
  simp only [visibilityFindings, (appends_checkVisibility _).findings_eq,
    typeUseFindings_withoutSpans, elementUseFindings_withoutSpans]
  refine Alike.append _ _ _ _ ?_ ?_
  · refine UsesAlike.findings _ _ ?_ (typeUseFindings model) fun use target => ?_
    · exact .append _ _ _ _ (.append _ _ _ _ (typeSiteUses_alike model) (baseUses_alike model))
        (errorUses_alike model)
    · unfold typeUseFindings
      cases model.type? target with
      | none => rfl
      | some definition => exact hiddenFindings_steady model use _ _
  · refine UsesAlike.findings _ _ ?_ (elementUseFindings model) fun use target => ?_
    · exact .append _ _ _ _ (expressionUses_alike model) (targetUses_alike model)
    · unfold elementUseFindings
      cases model.element? target with
      | none => rfl
      | some element => exact hiddenFindings_steady model use _ _

namespace TransitionSite

variable (site : TransitionSite)

@[simps]
def withoutSpans : TransitionSite := { site with transition := site.transition.withoutSpans }

theorem targetFindings_alike (states : Nat) :
    Alike (site.withoutSpans.targetFindings states) (site.targetFindings states) := by
  simp only [targetFindings, withoutSpans_transition, Transition.withoutSpans_target]
  split_ifs <;> rfl

theorem triggerFindings_alike :
    Alike (site.withoutSpans.triggerFindings model.withoutSpans) (site.triggerFindings model) := by
  have event : site.withoutSpans.event = site.event := rfl
  have problem : site.withoutSpans.triggerProblem? model.withoutSpans =
      site.triggerProblem? model := by
    simp only [triggerProblem?, event]
    cases site.event.kind <;> simp [Option.bind_map]
  have foreign : site.withoutSpans.foreignTrigger model.withoutSpans =
      site.foreignTrigger model := by
    simp only [foreignTrigger, event, Model.interfaceName_withoutSpans, withoutSpans_interface]
  simp only [triggerFindings, event, problem, foreign, Model.inheritanceSet_withoutSpans,
    withoutSpans_interface]
  rw [Alike, List.map_map, List.map_map]
  rfl

theorem argumentFindings_withoutSpans (expr : Expr) (feature : Feature) (index : Option Nat) :
    site.withoutSpans.argumentFindings model.withoutSpans expr feature index =
      site.argumentFindings model expr feature index := by
  have event : site.withoutSpans.event = site.event := rfl
  have error : site.withoutSpans.error = site.error := rfl
  simp only [argumentFindings, argumentError, event, error, Model.argument?_withoutSpans,
    Option.map_map, Function.comp_def, Argument.withoutSpans_name]

theorem conditionMessages_withoutSpans (condition : Expr) :
    conditionMessages model.withoutSpans condition = conditionMessages model condition := by
  simp only [conditionMessages, problems_withoutSpans, infer_withoutSpans,
    message_withoutSpans, Model.label_withoutSpans]

theorem guardFindings_alike :
    Alike (site.withoutSpans.guardFindings model.withoutSpans) (site.guardFindings model) := by
  simp only [guardFindings, withoutSpans_transition, Transition.withoutSpans_guard]
  cases site.transition.guard with
  | none => rfl
  | some guard =>
      simp only [Option.map_some, Guard.withoutSpans_condition, argumentFindings_withoutSpans,
        conditionMessages_withoutSpans]
      refine Alike.append _ _ _ _ rfl ?_
      rw [Alike, List.map_map, List.map_map]
      rfl

theorem assignedMessages_withoutSpans (value : Expr) (name : String) (type : DeclaredType) :
    assignedMessages model.withoutSpans value name type.withoutSpans =
      assignedMessages model value name type := by
  have misfit (reason : Misfit) :
      misfitAssigned model.withoutSpans name type.withoutSpans reason.withoutSpans =
        misfitAssigned model name type reason := by
    unfold misfitAssigned
    rw [Model.declaredTypeLabel_withoutSpans, Misfit.message_withoutSpans]
  simp only [assignedMessages, problems_withoutSpans, fits_withoutSpans model value type,
    message_withoutSpans]
  cases fits model value type with
  | ok => rfl
  | error reason => simp only [outcome_error, misfit]

theorem storeFindings_withoutSpans (assignment : Assignment) :
    site.withoutSpans.storeFindings model.withoutSpans assignment.withoutSpans =
      site.storeFindings model assignment := by
  have error : site.withoutSpans.error = site.error := rfl
  have assignable : site.withoutSpans.assignable model.withoutSpans assignment.target =
      site.assignable model assignment.target := by
    cases assignment.target <;> simp [TransitionSite.assignable]
  have readOnly : isReadOnly model.withoutSpans assignment.target =
      isReadOnly model assignment.target := by
    cases assignment.target with
    | «attribute» interface index =>
        simp only [isReadOnly, Model.attribute?_withoutSpans]
        cases model.attribute? ⟨interface, index⟩ <;> rfl
    | _ => rfl
  simp only [storeFindings, readOnlyError, unassignableError, Assignment.withoutSpans_target,
    Assignment.withoutSpans_value, Model.element?_withoutSpans, assignable, readOnly, error]
  cases model.element? assignment.target with
  | none => rfl
  | some element =>
      simp only [Option.map_some, Model.Element.withoutSpans_name,
        Model.Element.withoutSpans_kind, Model.Element.withoutSpans_type]
      cases element.type with
      | none => rfl
      | some type => simp only [Option.map_some, assignedMessages_withoutSpans]

theorem assignmentFindings_withoutSpans (index : Nat) (assignment : Assignment) :
    site.withoutSpans.assignmentFindings model.withoutSpans index assignment.withoutSpans =
      site.assignmentFindings model index assignment := by
  simp only [assignmentFindings, Assignment.withoutSpans_value, argumentFindings_withoutSpans,
    storeFindings_withoutSpans]

theorem findings_alike (states : Nat) :
    Alike (site.withoutSpans.findings model.withoutSpans states) (site.findings model states) := by
  refine Alike.append _ _ _ _ (Alike.append _ _ _ _ (Alike.append _ _ _ _
    (targetFindings_alike site states) (triggerFindings_alike model site))
    (guardFindings_alike model site)) ?_
  exact Alike.placed _ _ _ _ fun index assignment =>
    Alike.of_eq _ _ (assignmentFindings_withoutSpans model site index assignment)

end TransitionSite

theorem contractFindingsOf_alike (id : InterfaceId) (contract : Contract) :
    Alike (contractFindingsOf model.withoutSpans id contract.withoutSpans)
      (contractFindingsOf model id contract) := by
  rw [contractFindingsOf_eq, contractFindingsOf_eq]
  refine Alike.append _ _ _ _ (Alike.of_eq _ _ ?_) ?_
  · simp [named_map]
  · rw [Contract.withoutSpans_states, List.length_map]
    refine Alike.placed _ _ _ _ fun position state => ?_
    refine Alike.placed _ _ _ _ fun index transition => ?_
    exact TransitionSite.findings_alike model ⟨id, .transition id position index, transition⟩ _

theorem contractFindings_alike :
    Alike (contractFindings model.withoutSpans) (contractFindings model) := by
  rw [contractFindings_eq, contractFindings_eq]
  refine Alike.placed _ _ _ _ fun index interface => ?_
  rw [Interface.withoutSpans_contract]
  cases interface.contract with
  | none =>
      rw [Option.map_none, Option.toList_none, List.flatMap_nil, List.flatMap_nil]
      exact Alike.of_eq _ _ rfl
  | some contract =>
      rw [Option.map_some, Option.toList_some, Option.toList_some, List.flatMap_singleton,
        List.flatMap_singleton]
      exact contractFindingsOf_alike model ⟨index⟩ contract

theorem run_alike (mode : Mode) :
    Alike (run ⟨mode, false⟩ [] model.withoutSpans) (run ⟨mode, false⟩ [] model) := by
  simp only [run_eq, builtinFindings, groups, List.flatMap_cons, List.flatMap_nil]
  refine Alike.append _ _ _ _ (Alike.of_eq _ _ (dependencyFindings_withoutSpans model)) ?_
  refine Alike.append _ _ _ _ (shapeFindings_alike model) ?_
  refine Alike.append _ _ _ _ (typeFindingsOf_alike model) ?_
  refine Alike.append _ _ _ _ (Alike.of_eq _ _ (inheritanceFindings_withoutSpans model)) ?_
  refine Alike.append _ _ _ _ (Alike.of_eq _ _ (overloadFindings_withoutSpans model)) ?_
  refine Alike.append _ _ _ _ (visibilityFindings_alike model) ?_
  exact Alike.append _ _ _ _ (contractFindings_alike model) rfl

/-- Models that differ in nothing but spans get the same findings but for their spans. -/
theorem run_of_same_without_spans (mode : Mode) (first second : Model)
    (same : first.withoutSpans = second.withoutSpans) :
    (run ⟨mode, false⟩ [] first).map (·.withSpan .unknown) =
      (run ⟨mode, false⟩ [] second).map (·.withSpan .unknown) := by
  calc (run ⟨mode, false⟩ [] first).map (·.withSpan .unknown)
      = (run ⟨mode, false⟩ [] first.withoutSpans).map (·.withSpan .unknown) :=
        (run_alike first mode).symm
    _ = (run ⟨mode, false⟩ [] second.withoutSpans).map (·.withSpan .unknown) := by rw [same]
    _ = (run ⟨mode, false⟩ [] second).map (·.withSpan .unknown) := run_alike second mode

/-- Two methods of one name and with the same argument, whose type stands at the given place. -/
def twins (first second : Span) : Model where
  name := "twins"
  collections := []
  interfaces := [⟨"Twins", .unknown, [], none, [],
    [⟨"send", .unknown, [], none, false,
      [⟨"size", .unknown, [], ⟨⟨first, .interval (some 9) (some 1)⟩, false⟩⟩], [], none⟩,
    ⟨"send", .unknown, [], none, false,
      [⟨"size", .unknown, [], ⟨⟨second, .interval (some 9) (some 1)⟩, false⟩⟩], [], none⟩],
    [], [], [], none⟩]
  types := []
  constants := []

theorem twins_alike :
    (run ⟨.normal, false⟩ [] (twins ⟨3, 8⟩ ⟨20, 25⟩)).map (·.withSpan .unknown) =
        (run ⟨.normal, false⟩ [] (twins ⟨40, 45⟩ .unknown)).map (·.withSpan .unknown) ∧
      (run ⟨.normal, false⟩ [] (twins ⟨3, 8⟩ ⟨20, 25⟩)).map (·.kind) =
        [.typeMismatch, .typeMismatch, .inheritanceConflict, .inheritanceConflict] ∧
      (twins ⟨3, 8⟩ ⟨20, 25⟩).withoutSpans = (twins ⟨40, 45⟩ .unknown).withoutSpans :=
  ⟨run_of_same_without_spans .normal (twins ⟨3, 8⟩ ⟨20, 25⟩) (twins ⟨40, 45⟩ .unknown) rfl,
    by decide, rfl⟩

end FrancaAudit.Check
