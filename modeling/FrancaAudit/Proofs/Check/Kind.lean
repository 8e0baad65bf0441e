import FrancaAudit.Proofs.Check.Builtin

/-!
Which rules make findings of which kind.

Each group of rules keeps to kinds of its own, so that the findings of a kind can be read off the
group alone.
-/

namespace FrancaAudit.Check

def Of (kinds : List DiagnosticKind) (findings : List Diagnostic) : Prop :=
  ∀ finding ∈ findings, finding.kind ∈ kinds

variable (kinds : List DiagnosticKind)

@[simp]
theorem of_nil : Of kinds [] := by simp [Of]

@[simp]
theorem of_cons (finding : Diagnostic) (rest : List Diagnostic) :
    Of kinds (finding :: rest) ↔ finding.kind ∈ kinds ∧ Of kinds rest := by
  simp [Of]

@[simp]
theorem of_append (first second : List Diagnostic) :
    Of kinds (first ++ second) ↔ Of kinds first ∧ Of kinds second := by
  simp [Of, or_imp, forall_and]

@[simp]
theorem of_flatMap {α : Type} (items : List α) (findings : α → List Diagnostic) :
    Of kinds (items.flatMap findings) ↔ ∀ item ∈ items, Of kinds (findings item) := by
  simp only [Of, List.mem_flatMap]
  constructor
  · exact fun all item member finding found => all finding ⟨item, member, found⟩
  · rintro all finding ⟨item, member, found⟩
    exact all item member finding found

@[simp]
theorem of_map {α : Type} (items : List α) (finding : α → Diagnostic) :
    Of kinds (items.map finding) ↔ ∀ item ∈ items, (finding item).kind ∈ kinds := by
  simp [Of]

theorem of_mono (fewer : List DiagnosticKind) (within : fewer ⊆ kinds) (findings : List Diagnostic)
    (kept : Of fewer findings) : Of kinds findings :=
  fun finding member => within (kept finding member)

theorem of_duplicateErrors (kind : DiagnosticKind) (what : String)
    (items : List (String × Node)) (member : kind ∈ kinds) :
    Of kinds (duplicateErrors kind what items) := by
  simp [duplicateErrors_eq, duplicateError, Diagnostic.error, member]

variable (model : Model)

theorem of_dependencyFindings : Of [.cyclicDependency] (dependencyFindings model) := by
  rw [dependencyFindings, (appends_checkDependencies model).findings_eq]
  simp [typeCycleError, interfaceCycleError, Diagnostic.error]

theorem of_duplicateShapeErrors (what : String) (items : List (String × Node)) :
    Of [.structuralViolation] (duplicateShapeErrors what items) :=
  of_duplicateErrors _ .structuralViolation what items (by simp)

theorem of_crossDuplicates (inward outward : List (String × Node)) :
    Of [.structuralViolation] (crossDuplicates inward outward) := by
  simp only [crossDuplicates, of_flatMap]
  intro item _
  split <;> simp [crossError, shapeError, Diagnostic.error]

theorem of_fireAndForgetErrors (node : Node) (method : Method) :
    Of [.structuralViolation] (fireAndForgetErrors node method) := by
  unfold fireAndForgetErrors
  repeat' split
  all_goals simp [shapeError, Diagnostic.error]

-- The names seen so far decide where an error stands, never of which kind it is.
theorem of_errorCodeDuplicates (node : Node) (seen : List String)
    (enumerators : List (Enumerator × Nat)) :
    Of [.structuralViolation] (errorCodeDuplicates node seen enumerators) := by
  induction enumerators generalizing seen with
  | nil => simp [errorCodeDuplicates]
  | cons item rest ih =>
      simp only [errorCodeDuplicates]
      split
      · simp [ih, errorCodeError, shapeError, Diagnostic.error, Diagnostic.atIndex]
      · exact ih _

theorem of_interfaceFindings (id : InterfaceId) (interface : Interface) :
    Of [.structuralViolation] (interfaceFindings model id interface) := by
  rw [interfaceFindings, (appends_checkInterface model id interface).findings_eq]
  simp [definitionNames, methodFindings, broadcastFindings, of_duplicateShapeErrors,
    of_crossDuplicates, of_fireAndForgetErrors, of_errorCodeDuplicates]

theorem of_elementOrderFindings (id : InterfaceId) (interface : Interface) :
    Of [.structuralViolation] (elementOrderFindings model id interface) := by
  unfold elementOrderFindings
  split
  · simp
  · split
    · simp
    · simp only [of_append, of_flatMap]
      constructor <;> intro item _ <;> split <;>
        simp [orderWarning, Diagnostic.warning, Diagnostic.atIndex]

theorem of_typeFindings (id : TypeId) (definition : TypeDef) :
    Of [.structuralViolation] (typeFindings id definition) := by
  simp only [typeFindings, of_append, of_duplicateShapeErrors, and_true]
  unfold emptyTypeFindings
  repeat' split
  all_goals simp [shapeError, Diagnostic.error]

theorem of_annotationFindings : Of [.unknownTag] (annotationFindings model) := by
  simp only [annotationFindings, of_flatMap]
  intro site _ item _
  split <;> simp [tagError, Diagnostic.error, Diagnostic.atIndex, Diagnostic.withSpan]

/-- All rules on shape but the last make structural findings. -/
theorem shapeFindings_eq (elementOrder : Bool) :
    ∃ structural, Of [.structuralViolation] structural ∧
      shapeFindings model elementOrder = structural ++ annotationFindings model := by
  refine ⟨_, ?_, (appends_checkShape model elementOrder).findings_eq⟩
  simp only [of_append, of_flatMap]
  refine ⟨⟨⟨?_, ?_⟩, ?_⟩, ?_⟩
  · exact of_duplicateShapeErrors _ _
  · intro collection _
    simp [definitionNames, of_duplicateShapeErrors]
  · intro item _
    refine ⟨of_interfaceFindings model _ _, ?_⟩
    cases elementOrder
    · simp
    · exact of_elementOrderFindings model _ _
  · intro item _
    exact of_typeFindings _ _

theorem of_shapeFindings (elementOrder : Bool) :
    Of [.structuralViolation, .unknownTag] (shapeFindings model elementOrder) := by
  obtain ⟨structural, kept, split⟩ := shapeFindings_eq model elementOrder
  rw [split, of_append]
  exact ⟨of_mono _ _ (by simp) _ kept, of_mono _ _ (by simp) _ (of_annotationFindings model)⟩

theorem of_typeFindingsOf : Of [.typeMismatch] (typeFindingsOf model) := by
  rw [typeFindingsOf, (appends_checkTypes model).findings_eq]
  simp only [of_append, of_flatMap]
  constructor
  · intro site _
    unfold intervalFindings
    split <;> simp [intervalError, typeError, Diagnostic.error, Diagnostic.withSpan]
  · intro site _
    simp [valueFindings, siteError, typeError, Diagnostic.error]

theorem of_inheritanceFindings : Of [.inheritanceConflict] (inheritanceFindings model) := by
  rw [inheritanceFindings, (appends_checkInheritance model).findings_eq]
  simp only [of_append, of_flatMap]
  constructor
  · intro item _
    unfold baseKindFindings
    repeat' split
    all_goals simp [baseKindError, inheritanceError, Diagnostic.error]
  · intro id _
    constructor
    · simp [inheritedNameFindings, clashFindings, clashError, inheritanceError, Diagnostic.error]
    · unfold baseContractFindings
      repeat' split
      all_goals simp [baseContractError, inheritanceError, Diagnostic.error]

theorem of_ambiguityFindings (id : InterfaceId) (what : String) (node : MemberRef → Node)
    (feature : Feature) (overloads : List Overload) :
    Of [.inheritanceConflict] (ambiguityFindings model id what node feature overloads) := by
  simp only [ambiguityFindings, of_flatMap]
  intro pair _
  unfold pairFindings
  split <;> simp [ambiguityError, Diagnostic.error]

theorem of_overloadFindings : Of [.inheritanceConflict] (overloadFindings model) := by
  rw [overloadFindings, (appends_checkOverloads model).findings_eq]
  simp [of_ambiguityFindings]

theorem of_hiddenFindings (use : Use) (what : String) (target : Owner) :
    Of [.visibilityViolation] (hiddenFindings model use what target) := by
  unfold hiddenFindings
  split <;> simp [hiddenError, Diagnostic.error]

theorem of_visibilityFindings : Of [.visibilityViolation] (visibilityFindings model) := by
  rw [visibilityFindings, (appends_checkVisibility model).findings_eq]
  simp only [of_append, of_flatMap]
  constructor
  · intro item _
    unfold typeUseFindings
    split
    · simp
    · exact of_hiddenFindings model _ _ _
  · intro item _
    unfold elementUseFindings
    split
    · simp
    · exact of_hiddenFindings model _ _ _

namespace TransitionSite

variable (site : TransitionSite)

theorem of_argumentFindings (expr : Expr) (feature : Feature) (index : Option Nat) :
    Of [.contractViolation] (site.argumentFindings model expr feature index) := by
  simp only [argumentFindings, of_flatMap]
  intro element _
  repeat' split
  all_goals simp [argumentError, TransitionSite.error, Diagnostic.error]

theorem of_guardFindings : Of [.contractViolation] (site.guardFindings model) := by
  unfold guardFindings
  split
  · simp
  · simp [of_argumentFindings, guardError, TransitionSite.error, Diagnostic.error,
      Diagnostic.withSpan]

theorem of_storeFindings (assignment : Assignment) :
    Of [.contractViolation] (site.storeFindings model assignment) := by
  unfold storeFindings
  split
  · simp
  · split
    · simp only [of_append]
      constructor <;> split <;> simp [readOnlyError, TransitionSite.error, Diagnostic.error]
    · simp [unassignableError, TransitionSite.error, Diagnostic.error]

theorem of_findings (states : Nat) : Of [.contractViolation] (site.findings model states) := by
  simp only [findings, of_append, of_flatMap]
  refine ⟨⟨⟨?_, ?_⟩, of_guardFindings model site⟩, ?_⟩
  · unfold targetFindings
    split <;> simp [targetError, TransitionSite.error, Diagnostic.error, Diagnostic.withSpan]
  · simp [triggerFindings, triggerError, TransitionSite.error, Diagnostic.error, Diagnostic.withSpan]
  · intro item _
    simp only [assignmentFindings, of_append, of_map]
    exact ⟨of_argumentFindings model site _ _ _, of_storeFindings model site _⟩

end TransitionSite

theorem of_contractFindings : Of [.contractViolation] (contractFindings model) := by
  rw [contractFindings, (appends_checkContracts model).findings_eq]
  simp [contractFindingsOf, of_duplicateErrors, TransitionSite.of_findings]

def findingsOfKind (options : Options) : DiagnosticKind → List Diagnostic
  | .cyclicDependency => dependencyFindings model
  | .structuralViolation | .unknownTag => shapeFindings model options.elementOrder
  | .typeMismatch => typeFindingsOf model
  | .inheritanceConflict => inheritanceFindings model ++ overloadFindings model
  | .visibilityViolation => visibilityFindings model
  | .contractViolation => contractFindings model
  | .external => []

section Kept

variable (kind : DiagnosticKind) (keep : Diagnostic → Bool)

theorem filter_foreign (only : ∀ finding, keep finding → finding.kind = kind)
    (findings : List Diagnostic) (kept : Of kinds findings) (foreign : kind ∉ kinds) :
    findings.filter keep = [] := by
  rw [List.filter_eq_nil_iff]
  intro finding member keeps
  exact foreign (only finding keeps ▸ kept finding member)

theorem filter_run_of_kind (only : ∀ finding, keep finding → finding.kind = kind)
    (options : Options) :
    (run options [] model).filter keep = (findingsOfKind model options kind).filter keep := by
  have foreign (kinds : List DiagnosticKind) := filter_foreign kinds kind keep only
  have cycles := foreign _ _ (of_dependencyFindings model)
  have shapes := foreign _ _ (of_shapeFindings model options.elementOrder)
  have types := foreign _ _ (of_typeFindingsOf model)
  have bases := foreign _ _ (of_inheritanceFindings model)
  have overloads := foreign _ _ (of_overloadFindings model)
  have uses := foreign _ _ (of_visibilityFindings model)
  have contracts := foreign _ _ (of_contractFindings model)
  simp only [run_eq, builtinFindings, groups, List.flatMap_cons, List.flatMap_nil,
    List.append_nil, List.filter_append]
  -- Once the kind is known, every group but its own is foreign to it.
  cases kind <;>
    simp [findingsOfKind, cycles, shapes, types, bases, overloads, uses, contracts,
      -List.filter_eq_nil_iff]

end Kept

theorem filter_of_own (kind : DiagnosticKind) (findings : List Diagnostic)
    (kept : Of [kind] findings) :
    findings.filter (fun finding => finding.kind = kind) = findings := by
  simp only [List.filter_eq_self, decide_eq_true_eq]
  intro finding member
  exact List.mem_singleton.mp (kept finding member)

theorem filter_checkModel :
    (checkModel model).filter (fun finding => finding.kind = .cyclicDependency) =
      dependencyFindings model := by
  rw [checkModel, filter_run_of_kind model .cyclicDependency _ (by simp), findingsOfKind,
    filter_of_own _ _ (of_dependencyFindings model)]

theorem filter_unknownTag (elementOrder : Bool) :
    (shapeFindings model elementOrder).filter (fun finding => finding.kind = .unknownTag) =
      annotationFindings model := by
  obtain ⟨structural, kept, split⟩ := shapeFindings_eq model elementOrder
  rw [split, List.filter_append, filter_foreign _ .unknownTag _ (by simp) _ kept (by simp),
    List.nil_append, filter_of_own _ _ (of_annotationFindings model)]

end FrancaAudit.Check
