import FrancaAudit.Check.Behaviour
import FrancaAudit.Proofs.Check.Duplicate

/-!
What the rules on contracts add to the sink, transition by transition.
-/

namespace FrancaAudit.Check

variable (model : Model)

namespace TransitionSite

variable (site : TransitionSite)

def targetFindings (states : Nat) : List Diagnostic :=
  if site.transition.target < states then [] else [site.targetError]

theorem appends_checkTarget (states : Nat) :
    Appends (site.checkTarget states) (site.targetFindings states) := by
  rw [checkTarget, decide_not]
  simpa [targetFindings] using
    appends_reportUnless (site.transition.target < states) site.targetError

def triggerFindings : List Diagnostic :=
  let message :=
    if site.event.member.interface ∈ model.inheritanceSet site.interface then
      site.triggerProblem? model
    else some (site.foreignTrigger model)
  message.toList.map site.triggerError

theorem appends_checkTrigger : Appends (site.checkTrigger model) (site.triggerFindings model) := by
  unfold checkTrigger triggerFindings
  split
  · cases site.triggerProblem? model with
    | none => exact appends_nothing
    | some message => exact appends_report _
  · exact appends_report _

def argumentFindings (expr : Expr) (feature : Feature) (index : Option Nat) : List Diagnostic :=
  expr.elementRefs.flatMap fun element =>
    match element with
    | .argument argument =>
        if provides site.event argument then []
        else [site.argumentError model argument feature index]
    | _ => []

theorem appends_checkArguments (expr : Expr) (feature : Feature) (index : Option Nat) :
    Appends (site.checkArguments model expr feature index)
      (site.argumentFindings model expr feature index) := by
  apply appends_forM
  intro element
  cases element with
  | argument argument => exact appends_reportUnless _ _
  | _ => exact appends_nothing

def conditionMessages (condition : Expr) : List String :=
  match problems model condition with
  | [] =>
      match infer model condition with
      | some .boolean => []
      | some other => ["Guard must be a Boolean expression, found " ++ other.label model]
      | none => ["Guard must be a Boolean expression"]
  | found => found.map fun problem => "Invalid guard: " ++ problem.message model

theorem appends_checkCondition (guard : Guard) :
    Appends (site.checkCondition model guard)
      ((conditionMessages model guard.condition).map (site.guardError guard.span)) := by
  unfold checkCondition conditionMessages
  cases problems model guard.condition with
  | nil =>
      cases infer model guard.condition with
      | none => exact appends_report _
      | some type =>
          cases type with
          | boolean => exact appends_nothing
          | _ => exact appends_report _
  | cons problem rest => exact appends_messages (problem :: rest) _ (site.guardError guard.span)

def guardFindings : List Diagnostic :=
  match site.transition.guard with
  | none => []
  | some guard =>
      site.argumentFindings model guard.condition .guard none ++
      (conditionMessages model guard.condition).map (site.guardError guard.span)

theorem appends_checkGuard : Appends (site.checkGuard model) (site.guardFindings model) := by
  unfold checkGuard guardFindings
  cases site.transition.guard with
  | none => exact appends_nothing
  | some guard =>
      exact (appends_checkArguments model site _ _ _).andThen
        (appends_checkCondition model site guard)

def assignedMessages (value : Expr) (name : String) (type : DeclaredType) : List String :=
  match problems model value with
  | [] =>
      match fits model value type with
      | .ok () => []
      | .error reason => [misfitAssigned model name type reason]
  | found => found.map fun problem => "Invalid assignment value: " ++ problem.message model

theorem appends_checkAssigned (index : Nat) (value : Expr) (name : String) (type : DeclaredType) :
    Appends (site.checkAssigned model index value name type)
      ((assignedMessages model value name type).map fun message =>
        (site.error .assignment message).atIndex index) := by
  unfold checkAssigned assignedMessages
  cases problems model value with
  | nil =>
      cases fits model value type with
      | ok => exact appends_nothing
      | error reason => exact appends_report _
  | cons problem rest =>
      exact appends_messages (problem :: rest) _ fun message =>
        (site.error .assignment message).atIndex index

def storeFindings (assignment : Assignment) : List Diagnostic :=
  match model.element? assignment.target with
  | none => []
  | some element =>
      if site.assignable model assignment.target then
        (if isReadOnly model assignment.target then [site.readOnlyError element.name] else []) ++
        (match element.type with
          | none => []
          | some type =>
              (assignedMessages model assignment.value element.name type).map
                (site.error .assignment))
      else [site.unassignableError element]

theorem appends_checkStore (index : Nat) (assignment : Assignment) :
    Appends (site.checkStore model index assignment)
      ((site.storeFindings model assignment).map (·.atIndex index)) := by
  unfold checkStore storeFindings
  cases model.element? assignment.target with
  | none => exact appends_nothing
  | some element =>
      dsimp only
      split
      · rw [List.map_append, apply_ite (List.map fun finding : Diagnostic => finding.atIndex index)]
        refine (appends_reportWhen _ _).andThen ?_
        cases element.type with
        | none => exact appends_nothing
        | some type =>
            dsimp only
            rw [List.map_map]
            exact appends_checkAssigned model site index _ _ type
      · exact appends_report _

def assignmentFindings (index : Nat) (assignment : Assignment) : List Diagnostic :=
  site.argumentFindings model assignment.value .assignment (some index) ++
  (site.storeFindings model assignment).map (·.atIndex index)

theorem appends_checkAssignment (index : Nat) (assignment : Assignment) :
    Appends (site.checkAssignment model index assignment)
      (site.assignmentFindings model index assignment) :=
  (appends_checkArguments model site _ _ _).andThen (appends_checkStore model site index assignment)

def findings (states : Nat) : List Diagnostic :=
  site.targetFindings states ++
  site.triggerFindings model ++
  site.guardFindings model ++
  (site.transition.assignments.zipIdx.flatMap fun (assignment, index) =>
    site.assignmentFindings model index assignment)

theorem appends_check (states : Nat) :
    Appends (site.check model states) (site.findings model states) := by
  simp only [findings, List.append_assoc]
  exact (appends_checkTarget site states).andThen <|
    (appends_checkTrigger model site).andThen <|
    (appends_checkGuard model site).andThen <|
    appends_forM _ _ _ fun _ => appends_checkAssignment model site _ _

end TransitionSite

def contractFindingsOf (id : InterfaceId) (contract : Contract) : List Diagnostic :=
  duplicateErrors .contractViolation "state variable name"
    (named contract.stateVariables (·.name) fun index => .stateVariable id index) ++
  duplicateErrors .contractViolation "state name"
    (named contract.states (·.name) fun index => .state id index) ++
  (contract.states.zipIdx.flatMap fun (state, position) =>
    state.transitions.zipIdx.flatMap fun (transition, index) =>
      TransitionSite.findings model ⟨id, .transition id position index, transition⟩
        contract.states.length)

theorem appends_checkContract (id : InterfaceId) (contract : Contract) :
    Appends (checkContract model id contract) (contractFindingsOf model id contract) := by
  rw [contractFindingsOf, List.append_assoc]
  exact (appends_reportDuplicates _ _ _).andThen <|
    (appends_reportDuplicates _ _ _).andThen <|
    appends_forM _ _ _ fun _ => appends_forM _ _ _ fun _ =>
      TransitionSite.appends_check model _ _

theorem appends_checkContracts :
    Appends (checkContracts model)
      (model.interfaces.zipIdx.flatMap fun (interface, index) =>
        interface.contract.toList.flatMap fun contract =>
          contractFindingsOf model ⟨index⟩ contract) := by
  apply appends_forM
  rintro ⟨interface, index⟩
  dsimp only
  cases interface.contract with
  | none => exact appends_nothing
  | some contract =>
      rw [Option.toList_some, List.flatMap_singleton]
      exact appends_checkContract model ⟨index⟩ contract

end FrancaAudit.Check
