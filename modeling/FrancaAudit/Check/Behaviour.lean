import FrancaAudit.Check.Duplicate
import FrancaAudit.Check.Fitting

/-!
Rules on contracts: triggers name events that can happen, guards are Boolean and use what the
trigger provides, assignments store fitting values where they may, and transitions lead to states
that exist.
-/

namespace FrancaAudit.Check

variable (model : Model)

structure TransitionSite where
  interface : InterfaceId
  node : Node
  transition : Transition

namespace TransitionSite

variable (site : TransitionSite)

def event : Event := site.transition.trigger.event

def error (feature : Feature) (message : String) : Diagnostic :=
  .error .contractViolation site.node feature message

def targetError : Diagnostic :=
  (site.error .element
    ("Transition target state #" ++ toString site.transition.target ++
      " does not exist")).withSpan site.transition.span

def checkTarget (states : Nat) : Reporting Unit :=
  reportWhen (¬ site.transition.target < states) site.targetError

/-- Why the event of a member that exists cannot happen. -/
def triggerProblem? : Option String :=
  let member := site.event.member
  match site.event.kind with
  | .call | .signal => none
  | .respond => do
      let method ← model.method? member
      if method.fireAndForget then
        some ("Cannot trigger 'respond' on fire-and-forget method '" ++ method.name ++ "'")
      else none
  | .error => do
      let method ← model.method? member
      if method.fireAndForget then
        some ("Cannot trigger 'error' on fire-and-forget method '" ++ method.name ++ "'")
      else if method.errors.isNone then
        some ("Method '" ++ method.name ++ "' declares no errors, cannot trigger 'error'")
      else none
  | .set => do
      let item ← model.attribute? member
      if item.readOnly then
        some ("Attribute '" ++ item.name ++ "' is readonly, cannot trigger 'set'")
      else none
  | .update => do
      let item ← model.attribute? member
      if item.noSubscriptions then
        some ("Attribute '" ++ item.name ++ "' has no subscriptions, cannot trigger 'update'")
      else none

def foreignTrigger : String :=
  "Trigger '" ++ site.event.kind.keyword ++ "' refers to a member of interface " ++
    model.interfaceName site.event.member.interface ++ ", which is not " ++
    model.interfaceName site.interface ++ " or one of its bases"

def triggerError (message : String) : Diagnostic :=
  (site.error .trigger message).withSpan site.transition.trigger.span

def checkTrigger : Reporting Unit :=
  if site.event.member.interface ∈ model.inheritanceSet site.interface then
    match site.triggerProblem? model with
    | none => pure ()
    | some message => report (site.triggerError message)
  else report (site.triggerError (site.foreignTrigger model))

def provided? (event : Event) : Option (Operation × Direction) :=
  match event.kind with
  | .call => some (.method event.member.index, .input)
  | .respond => some (.method event.member.index, .output)
  | .signal => some (.broadcast event.member.index, .output)
  | .error | .set | .update => none

def provides (event : Event) (argument : ArgumentRef) : Bool :=
  match provided? event with
  | none => false
  | some (operation, direction) =>
      argument.interface = event.member.interface && argument.operation = operation &&
        argument.direction = direction

def argumentError (argument : ArgumentRef) (feature : Feature) (index : Option Nat) : Diagnostic :=
  { site.error feature
      ("Argument '" ++ Model.nameOr ((model.argument? argument).map (·.name)) ++
        "' is not available for trigger '" ++ site.event.kind.keyword ++ "'") with index }

def checkArguments (expr : Expr) (feature : Feature) (index : Option Nat) : Reporting Unit :=
  expr.elementRefs.forM fun element =>
    match element with
    | .argument argument =>
        reportWhen (!provides site.event argument)
          (site.argumentError model argument feature index)
    | _ => pure ()

def guardError (span : Span) (message : String) : Diagnostic :=
  (site.error .guard message).withSpan span

/-- A condition is asked for its type only if its operators have no problems. -/
def checkCondition (guard : Guard) : Reporting Unit :=
  match problems model guard.condition with
  | [] =>
      match infer model guard.condition with
      | some .boolean => pure ()
      | some other =>
          report (site.guardError guard.span
            ("Guard must be a Boolean expression, found " ++ other.label model))
      | none => report (site.guardError guard.span "Guard must be a Boolean expression")
  | found => found.forM fun problem =>
      report (site.guardError guard.span ("Invalid guard: " ++ problem.message model))

def checkGuard : Reporting Unit :=
  match site.transition.guard with
  | none => pure ()
  | some guard => do
      site.checkArguments model guard.condition .guard none
      site.checkCondition model guard

/-- Attributes of the interface and its ancestors, and the variables of this contract. -/
def assignable : ElementRef → Bool
  | .attribute interface _ => interface ∈ model.inheritanceSet site.interface
  | .stateVariable interface _ => interface = site.interface
  | _ => false

def isReadOnly : ElementRef → Bool
  | .attribute interface index => (model.attribute? ⟨interface, index⟩).any (·.readOnly)
  | _ => false

def misfitAssigned (name : String) (type : DeclaredType) (reason : Misfit) : String :=
  "Incompatible assignment to '" ++ name ++ "' of type " ++ model.declaredTypeLabel type ++ ": " ++
    reason.message model

def checkAssigned (index : Nat) (value : Expr) (name : String) (type : DeclaredType) :
    Reporting Unit :=
  match problems model value with
  | [] =>
      match fits model value type with
      | .ok () => pure ()
      | .error reason =>
          report ((site.error .assignment (misfitAssigned model name type reason)).atIndex index)
  | found => found.forM fun problem =>
      report ((site.error .assignment
        ("Invalid assignment value: " ++ problem.message model)).atIndex index)

def readOnlyError (name : String) : Diagnostic :=
  site.error .target ("Attribute '" ++ name ++ "' is readonly and cannot be assigned")

def unassignableError (element : Model.Element) : Diagnostic :=
  site.error .target
    (element.kind.label ++ " " ++ element.name ++
      " cannot be assigned, only attributes and state variables of this contract")

/-- A target that cannot be assigned makes the value irrelevant. -/
def checkStore (index : Nat) (assignment : Assignment) : Reporting Unit :=
  match model.element? assignment.target with
  | none => pure ()
  | some element =>
      if site.assignable model assignment.target then do
        reportWhen (isReadOnly model assignment.target)
          ((site.readOnlyError element.name).atIndex index)
        match element.type with
        | none => pure ()
        | some type => site.checkAssigned model index assignment.value element.name type
      else report ((site.unassignableError element).atIndex index)

def checkAssignment (index : Nat) (assignment : Assignment) : Reporting Unit := do
  site.checkArguments model assignment.value .assignment (some index)
  site.checkStore model index assignment

def check (states : Nat) : Reporting Unit := do
  site.checkTarget states
  site.checkTrigger model
  site.checkGuard model
  site.transition.assignments.zipIdx.forM fun (assignment, index) =>
    site.checkAssignment model index assignment

end TransitionSite

def checkContract (id : InterfaceId) (contract : Contract) : Reporting Unit := do
  reportDuplicates .contractViolation "state variable name"
    (named contract.stateVariables (·.name) fun index => .stateVariable id index)
  reportDuplicates .contractViolation "state name"
    (named contract.states (·.name) fun index => .state id index)
  contract.states.zipIdx.forM fun (state, position) =>
    state.transitions.zipIdx.forM fun (transition, index) =>
      TransitionSite.check model ⟨id, .transition id position index, transition⟩
        contract.states.length

def checkContracts : Reporting Unit :=
  model.interfaces.zipIdx.forM fun (interface, index) =>
    match interface.contract with
    | none => pure ()
    | some contract => checkContract model ⟨index⟩ contract

def contractFindings : List Diagnostic := (checkContracts model).findings

end FrancaAudit.Check
