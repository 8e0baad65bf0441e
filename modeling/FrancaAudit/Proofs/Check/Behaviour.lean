import FrancaAudit.Proofs.Check.Errors
import FrancaAudit.Proofs.Check.Kind
import FrancaAudit.Proofs.Model.Dangling

/-!
Sound contracts, and that exactly these are free of violations.

The rules stop early at some places: a foreign member hides what else may be wrong with a trigger,
and a target that cannot be assigned makes the value irrelevant. None of this hides the last
violation of a contract.
-/

namespace FrancaAudit

open Check (problems infer fits)

def Node.contractOf? : Node → Option InterfaceId
  | .contract id | .stateVariable id _ | .state id _ | .transition id _ _ => some id
  | _ => none

/-- The event brings the argument along: a call what goes in, a response or a broadcast what comes
out. -/
inductive Supplies : Event → ArgumentRef → Prop
  | call (ref : MemberRef) (index : Nat) :
      Supplies ⟨.call, ref⟩ ⟨ref.interface, .method ref.index, .input, index⟩
  | respond (ref : MemberRef) (index : Nat) :
      Supplies ⟨.respond, ref⟩ ⟨ref.interface, .method ref.index, .output, index⟩
  | signal (ref : MemberRef) (index : Nat) :
      Supplies ⟨.signal, ref⟩ ⟨ref.interface, .broadcast ref.index, .output, index⟩

/-- The expression refers to no argument but those that the event brings along. -/
def SuppliesAll (event : Event) (expr : Expr) : Prop :=
  ∀ path argument, expr.RefersAt path (.argument argument) → Supplies event argument

namespace Model

variable (model : Model)

/-- There is a member to which the event can happen. -/
inductive CanHappen : Event → Prop
  | call (ref : MemberRef) (method : Method) (found : model.method? ref = some method) :
      CanHappen ⟨.call, ref⟩
  | respond (ref : MemberRef) (method : Method) (found : model.method? ref = some method)
      (awaited : method.fireAndForget = false) : CanHappen ⟨.respond, ref⟩
  | error (ref : MemberRef) (method : Method) (errors : MethodErrors)
      (found : model.method? ref = some method) (awaited : method.fireAndForget = false)
      (failing : method.errors = some errors) : CanHappen ⟨.error, ref⟩
  | signal (ref : MemberRef) (broadcast : Broadcast)
      (found : model.broadcast? ref = some broadcast) : CanHappen ⟨.signal, ref⟩
  | set (ref : MemberRef) (item : Attribute) (found : model.attribute? ref = some item)
      (writable : item.readOnly = false) : CanHappen ⟨.set, ref⟩
  | update (ref : MemberRef) (item : Attribute) (found : model.attribute? ref = some item)
      (subscribed : item.noSubscriptions = false) : CanHappen ⟨.update, ref⟩

/-- A transition of the interface can store values of the type in the element. -/
inductive Assignable (id : InterfaceId) : ElementRef → DeclaredType → Prop
  | attribute (owner : InterfaceId) (index : Nat) (item : Attribute)
      (found : model.attribute? ⟨owner, index⟩ = some item)
      (inherited : Relation.ReflTransGen model.Extends id owner)
      (writable : item.readOnly = false) : Assignable id (.attribute owner index) item.type
  | stateVariable (index : Nat) (item : StateVariable)
      (found : model.stateVariable? id index = some item) :
      Assignable id (.stateVariable id index) item.type

theorem canHappen_respond (ref : MemberRef) :
    model.CanHappen ⟨.respond, ref⟩ ↔
      ∃ method, model.method? ref = some method ∧ method.fireAndForget = false := by
  constructor
  · intro possible
    cases possible with
    | respond _ method found awaited => exact ⟨method, found, awaited⟩
  · rintro ⟨method, found, awaited⟩
    exact .respond ref method found awaited

theorem canHappen_error (ref : MemberRef) :
    model.CanHappen ⟨.error, ref⟩ ↔
      ∃ method, model.method? ref = some method ∧ method.fireAndForget = false ∧
        method.errors.isSome := by
  constructor
  · intro possible
    cases possible with
    | error _ method errors found awaited failing =>
        exact ⟨method, found, awaited, Option.isSome_of_eq_some failing⟩
  · rintro ⟨method, found, awaited, failing⟩
    obtain ⟨errors, failing⟩ := Option.isSome_iff_exists.mp failing
    exact .error ref method errors found awaited failing

theorem canHappen_set (ref : MemberRef) :
    model.CanHappen ⟨.set, ref⟩ ↔
      ∃ item, model.attribute? ref = some item ∧ item.readOnly = false := by
  constructor
  · intro possible
    cases possible with
    | set _ item found writable => exact ⟨item, found, writable⟩
  · rintro ⟨item, found, writable⟩
    exact .set ref item found writable

theorem canHappen_update (ref : MemberRef) :
    model.CanHappen ⟨.update, ref⟩ ↔
      ∃ item, model.attribute? ref = some item ∧ item.noSubscriptions = false := by
  constructor
  · intro possible
    cases possible with
    | update _ item found subscribed => exact ⟨item, found, subscribed⟩
  · rintro ⟨item, found, subscribed⟩
    exact .update ref item found subscribed

theorem assignable_attribute (id owner : InterfaceId) (index : Nat) (type : DeclaredType) :
    model.Assignable id (.attribute owner index) type ↔
      ∃ item, model.attribute? ⟨owner, index⟩ = some item ∧ owner ∈ model.inheritanceSet id ∧
        item.readOnly = false ∧ item.type = type := by
  simp only [mem_inheritanceSet]
  constructor
  · intro stored
    cases stored with
    | «attribute» _ _ item found inherited writable =>
        exact ⟨item, found, inherited, writable, rfl⟩
  · rintro ⟨item, found, inherited, writable, rfl⟩
    exact .attribute owner index item found inherited writable

theorem assignable_stateVariable (id owner : InterfaceId) (index : Nat) (type : DeclaredType) :
    model.Assignable id (.stateVariable owner index) type ↔
      owner = id ∧ ∃ item, model.stateVariable? owner index = some item ∧ item.type = type := by
  constructor
  · intro stored
    cases stored with
    | stateVariable _ item found => exact ⟨rfl, item, found, rfl⟩
  · rintro ⟨rfl, item, found, rfl⟩
    exact .stateVariable index item found

structure SoundGuard (event : Event) (condition : Expr) : Prop where
  supplied : SuppliesAll event condition
  problems : problems model condition = []
  boolean : infer model condition = some .boolean

structure SoundAssignment (id : InterfaceId) (event : Event) (assignment : Assignment) :
    Prop where
  supplied : SuppliesAll event assignment.value
  problems : problems model assignment.value = []
  stored : ∃ type, model.Assignable id assignment.target type ∧
    fits model assignment.value type = .ok ()

structure SoundTransition (id : InterfaceId) (states : Nat) (transition : Transition) : Prop where
  target : transition.target < states
  inherited : Relation.ReflTransGen model.Extends id transition.trigger.event.member.interface
  possible : model.CanHappen transition.trigger.event
  guard : ∀ guard, transition.guard = some guard →
    model.SoundGuard transition.trigger.event guard.condition
  assignments : ∀ assignment ∈ transition.assignments,
    model.SoundAssignment id transition.trigger.event assignment

structure SoundContract (id : InterfaceId) (contract : Contract) : Prop where
  stateNames : (contract.states.map (·.name)).Nodup
  variableNames : (contract.stateVariables.map (·.name)).Nodup
  transitions : ∀ state ∈ contract.states, ∀ transition ∈ state.transitions,
    model.SoundTransition id contract.states.length transition

end Model

namespace Check

variable (model : Model)

def contractViolations (id : InterfaceId) : List Diagnostic :=
  (contractFindings model).filter fun finding =>
    finding.kind = .contractViolation ∧ finding.node.contractOf? = some id

namespace TransitionSite

variable (site : TransitionSite)

theorem triggerProblem?_eq_none (known : model.Knows (.member site.event)) :
    site.triggerProblem? model = none ↔ model.CanHappen site.event := by
  unfold triggerProblem?
  generalize site.event = event at known ⊢
  obtain ⟨kind, ref⟩ := event
  cases kind with
  | call =>
      obtain ⟨method, found⟩ := Option.isSome_iff_exists.mp known
      exact iff_of_true rfl (.call ref method found)
  | respond =>
      obtain ⟨method, found⟩ := Option.isSome_iff_exists.mp known
      simp [Model.canHappen_respond, found]
  | error =>
      obtain ⟨method, found⟩ := Option.isSome_iff_exists.mp known
      cases awaited : method.fireAndForget <;> cases failing : method.errors <;>
        simp [Model.canHappen_error, found, awaited, failing]
  | signal =>
      obtain ⟨broadcast, found⟩ := Option.isSome_iff_exists.mp known
      exact iff_of_true rfl (.signal ref broadcast found)
  | set =>
      obtain ⟨item, found⟩ := Option.isSome_iff_exists.mp known
      simp [Model.canHappen_set, found]
  | update =>
      obtain ⟨item, found⟩ := Option.isSome_iff_exists.mp known
      simp [Model.canHappen_update, found]

theorem triggerFindings_eq_nil (known : model.Knows (.member site.event)) :
    site.triggerFindings model = [] ↔
      Relation.ReflTransGen model.Extends site.interface site.event.member.interface ∧
        model.CanHappen site.event := by
  rw [← triggerProblem?_eq_none model site known, ← Model.mem_inheritanceSet]
  simp only [triggerFindings, List.map_eq_nil_iff, Option.toList_eq_nil_iff]
  -- a foreign member is reported in place of any other problem of the event
  by_cases inherited : site.event.member.interface ∈ model.inheritanceSet site.interface
  · simp [inherited]
  · simp [inherited]

theorem provides_iff (event : Event) (argument : ArgumentRef) :
    provides event argument = true ↔ Supplies event argument := by
  obtain ⟨kind, ref⟩ := event
  obtain ⟨owner, operation, direction, index⟩ := argument
  constructor
  · intro provided
    cases kind <;> simp [provides, provided?] at provided
    all_goals obtain ⟨⟨rfl, rfl⟩, rfl⟩ := provided
    · exact .call ref index
    · exact .respond ref index
    · exact .signal ref index
  · intro supplied
    cases supplied <;> simp [provides, provided?]

theorem argumentFindings_eq_nil (expr : Expr) (feature : Feature) (index : Option Nat) :
    site.argumentFindings model expr feature index = [] ↔ SuppliesAll site.event expr := by
  simp only [argumentFindings, List.flatMap_eq_nil_iff, SuppliesAll, Expr.mem_elementRefs]
  constructor
  · intro none path argument refers
    have fine := none (.argument argument) ⟨path, refers⟩
    simpa [provides_iff] using fine
  · rintro supplied element ⟨path, refers⟩
    cases element with
    | argument argument =>
        simp [(provides_iff ..).mpr (supplied path argument refers)]
    | _ => rfl

theorem conditionMessages_eq_nil (condition : Expr) :
    conditionMessages model condition = [] ↔
      problems model condition = [] ∧ infer model condition = some .boolean := by
  unfold conditionMessages
  cases found : problems model condition with
  | nil =>
      cases typed : infer model condition with
      | none => simp
      | some type => cases type <;> simp
  | cons first rest => simp

theorem guardFindings_eq_nil :
    site.guardFindings model = [] ↔ ∀ guard, site.transition.guard = some guard →
      model.SoundGuard site.event guard.condition := by
  unfold guardFindings
  cases given : site.transition.guard with
  | none => simp
  | some guard =>
      simp only [List.append_eq_nil_iff, List.map_eq_nil_iff, argumentFindings_eq_nil,
        conditionMessages_eq_nil, Option.some.injEq, forall_eq']
      constructor
      · rintro ⟨supplied, clean, boolean⟩
        exact ⟨supplied, clean, boolean⟩
      · intro sound
        exact ⟨sound.supplied, sound.problems, sound.boolean⟩

theorem assignedMessages_eq_nil (value : Expr) (name : String) (type : DeclaredType) :
    assignedMessages model value name type = [] ↔
      problems model value = [] ∧ fits model value type = .ok () := by
  unfold assignedMessages
  cases found : problems model value with
  | nil => cases fits model value type <;> simp
  | cons first rest => simp

theorem storeFindings_eq_nil (assignment : Assignment)
    (known : model.Knows (.element assignment.target)) :
    site.storeFindings model assignment = [] ↔
      problems model assignment.value = [] ∧
        ∃ type, model.Assignable site.interface assignment.target type ∧
          fits model assignment.value type = .ok () := by
  obtain ⟨span, target, value⟩ := assignment
  obtain ⟨element, resolved⟩ := Option.isSome_iff_exists.mp known
  simp only [storeFindings, resolved]
  cases target with
  | «attribute» owner index =>
      obtain ⟨item, found, ⟨⟩⟩ := Option.bind_eq_some_iff.mp resolved
      simp only [assignable, isReadOnly, Model.assignable_attribute, found]
      by_cases inherited : owner ∈ model.inheritanceSet site.interface
      · cases writable : item.readOnly <;> simp [inherited, writable, assignedMessages_eq_nil]
      · simp [inherited]
  | stateVariable owner index =>
      obtain ⟨item, found, ⟨⟩⟩ := Option.bind_eq_some_iff.mp resolved
      simp only [assignable, isReadOnly, Model.assignable_stateVariable, found]
      by_cases own : owner = site.interface
      · simp [own, assignedMessages_eq_nil]
      · simp [own]
  | _ =>
      -- nothing can be stored, whatever the value may be
      simp only [assignable, Bool.false_eq_true, if_false, List.cons_ne_nil, false_iff, not_and]
      rintro _ ⟨type, stored, _⟩
      cases stored

theorem assignmentFindings_eq_nil (index : Nat) (assignment : Assignment)
    (known : model.Knows (.element assignment.target)) :
    site.assignmentFindings model index assignment = [] ↔
      model.SoundAssignment site.interface site.event assignment := by
  simp only [assignmentFindings, List.append_eq_nil_iff, List.map_eq_nil_iff,
    argumentFindings_eq_nil, storeFindings_eq_nil model site assignment known]
  constructor
  · rintro ⟨supplied, clean, stored⟩
    exact ⟨supplied, clean, stored⟩
  · intro sound
    exact ⟨sound.supplied, sound.problems, sound.stored⟩

theorem targetFindings_eq_nil (states : Nat) :
    site.targetFindings states = [] ↔ site.transition.target < states := by
  simp [targetFindings]

theorem findings_eq_nil (states : Nat) (event : model.Knows (.member site.event))
    (targets : ∀ assignment ∈ site.transition.assignments,
      model.Knows (.element assignment.target)) :
    site.findings model states = [] ↔
      model.SoundTransition site.interface states site.transition := by
  have assigned : Model.placed site.transition.assignments (site.assignmentFindings model) = [] ↔
      ∀ assignment ∈ site.transition.assignments,
        model.SoundAssignment site.interface site.event assignment := by
    rw [Model.placed_eq_nil, ← Model.forall_getElem?_iff]
    refine forall₃_congr fun index assignment listed => ?_
    exact assignmentFindings_eq_nil model site index assignment
      (targets assignment (List.mem_of_getElem? listed))
  simp only [findings, List.append_eq_nil_iff, targetFindings_eq_nil,
    triggerFindings_eq_nil model site event, guardFindings_eq_nil]
  constructor
  · rintro ⟨⟨⟨target, inherited, possible⟩, guard⟩, assignments⟩
    exact ⟨target, inherited, possible, guard, assigned.mp assignments⟩
  · intro sound
    exact ⟨⟨⟨sound.target, sound.inherited, sound.possible⟩, sound.guard⟩,
      assigned.mpr sound.assignments⟩

theorem errorsAt_argumentFindings (expr : Expr) (feature : Feature) (index : Option Nat) :
    ErrorsAt (· = site.node) (site.argumentFindings model expr feature index) := by
  rw [argumentFindings, errorsAt_flatMap]
  intro element _
  cases element with
  | argument argument =>
      dsimp only
      split
      · exact errorsAt_nil _
      · exact (errorsAt_cons ..).mpr ⟨⟨rfl, rfl⟩, errorsAt_nil _⟩
  | _ => exact errorsAt_nil _

theorem errorsAt_guardFindings : ErrorsAt (· = site.node) (site.guardFindings model) := by
  unfold guardFindings
  split
  · exact errorsAt_nil _
  · rw [errorsAt_append, errorsAt_map]
    exact ⟨errorsAt_argumentFindings model site _ _ _, fun _ _ => ⟨rfl, rfl⟩⟩

theorem errorsAt_storeFindings (assignment : Assignment) :
    ErrorsAt (· = site.node) (site.storeFindings model assignment) := by
  unfold storeFindings
  repeat' split
  all_goals simp [readOnlyError, unassignableError, TransitionSite.error, Diagnostic.error]

theorem errorsAt_assignmentFindings (index : Nat) (assignment : Assignment) :
    ErrorsAt (· = site.node) (site.assignmentFindings model index assignment) := by
  rw [assignmentFindings, errorsAt_append, errorsAt_map]
  exact ⟨errorsAt_argumentFindings model site _ _ _, errorsAt_storeFindings model site assignment⟩

theorem errorsAt_findings (states : Nat) :
    ErrorsAt (· = site.node) (site.findings model states) := by
  simp only [findings, errorsAt_append, errorsAt_flatMap]
  refine ⟨⟨⟨?_, ?_⟩, errorsAt_guardFindings model site⟩, ?_⟩
  · unfold targetFindings
    split <;> simp [targetError, TransitionSite.error, Diagnostic.error, Diagnostic.withSpan]
  · rw [triggerFindings, errorsAt_map]
    exact fun _ _ => ⟨rfl, rfl⟩
  · exact fun entry _ => errorsAt_assignmentFindings model site entry.2 entry.1

end TransitionSite

theorem contractFindingsOf_eq (id : InterfaceId) (contract : Contract) :
    contractFindingsOf model id contract =
      duplicateErrors .contractViolation "state variable name"
        (named contract.stateVariables (·.name) fun index => .stateVariable id index) ++
      duplicateErrors .contractViolation "state name"
        (named contract.states (·.name) fun index => .state id index) ++
      Model.placed contract.states fun position state =>
        Model.placed state.transitions fun index transition =>
          TransitionSite.findings model ⟨id, .transition id position index, transition⟩
            contract.states.length := rfl

theorem contractFindingsOf_eq_nil (linked : model.Linked) (id : InterfaceId) (contract : Contract)
    (agreed : model.contract? id = some contract) :
    contractFindingsOf model id contract = [] ↔ model.SoundContract id contract := by
  have stored := model.knows_of_stores linked
  have sound (position : Nat) (state : State) (located : contract.states[position]? = some state)
      (index : Nat) (transition : Transition) (listed : state.transitions[index]? = some transition) :
      TransitionSite.findings model ⟨id, .transition id position index, transition⟩
        contract.states.length = [] ↔
          model.SoundTransition id contract.states.length transition := by
    -- a linked model knows the trigger and all targets, as the single transition asks
    have known := (Model.transition?_located model id contract agreed position index transition).mpr
      ⟨state, located, listed⟩
    have found := (model.hasTransition_iff id position index transition).mpr known
    exact TransitionSite.findings_eq_nil model ⟨id, .transition id position index, transition⟩ _
      (stored _ (.trigger id position index transition found)) fun assignment member =>
        stored _ (.target id position index transition assignment found member)
  have transitions : (Model.placed contract.states fun position state =>
      Model.placed state.transitions fun index transition =>
        TransitionSite.findings model ⟨id, .transition id position index, transition⟩
          contract.states.length) = [] ↔
      ∀ state ∈ contract.states, ∀ transition ∈ state.transitions,
        model.SoundTransition id contract.states.length transition := by
    simp only [Model.placed_eq_nil, ← Model.forall_getElem?_iff]
    exact forall₃_congr fun position state located =>
      forall₃_congr fun index transition listed =>
        sound position state located index transition listed
  rw [contractFindingsOf_eq, List.append_eq_nil_iff, List.append_eq_nil_iff,
    duplicateErrors_eq_nil, duplicateErrors_eq_nil, transitions]
  constructor
  · rintro ⟨⟨variableNames, stateNames⟩, each⟩
    exact ⟨stateNames, variableNames, each⟩
  · intro sound
    exact ⟨⟨sound.variableNames, sound.stateNames⟩, sound.transitions⟩

theorem errorsAt_contractFindingsOf (holds : Node → Prop) (id : InterfaceId) (contract : Contract)
    (ofVariables : ∀ index item, contract.stateVariables[index]? = some item →
      holds (.stateVariable id index))
    (ofStates : ∀ position state, contract.states[position]? = some state →
      holds (.state id position) ∧ ∀ index transition, state.transitions[index]? = some transition →
        holds (.transition id position index)) :
    ErrorsAt holds (contractFindingsOf model id contract) := by
  rw [contractFindingsOf_eq, errorsAt_append, errorsAt_append, errorsAt_placed]
  refine ⟨⟨?_, ?_⟩, ?_⟩
  · exact errorsAt_duplicateErrors holds _ _ _ ((forall_named ..).mpr ofVariables)
  · exact errorsAt_duplicateErrors holds _ _ _ ((forall_named ..).mpr fun position state located =>
      (ofStates position state located).1)
  · intro position state located
    rw [errorsAt_placed]
    intro index transition listed finding reported
    obtain ⟨grave, here⟩ := TransitionSite.errorsAt_findings model _ _ finding reported
    rw [here]
    exact ⟨grave, (ofStates position state located).2 index transition listed⟩

theorem node_contractFindingsOf (id : InterfaceId) (contract : Contract) (finding : Diagnostic)
    (reported : finding ∈ contractFindingsOf model id contract) :
    finding.node.contractOf? = some id := by
  refine (errorsAt_contractFindingsOf model (fun node => node.contractOf? = some id) id contract
    ?_ ?_ finding reported).2
  · exact fun _ _ _ => rfl
  · exact fun _ _ _ => ⟨rfl, fun _ _ _ => rfl⟩

theorem contractFindings_eq :
    contractFindings model = Model.placed model.interfaces fun index interface =>
      interface.contract.toList.flatMap fun contract =>
        contractFindingsOf model ⟨index⟩ contract :=
  (appends_checkContracts model).findings_eq

theorem mem_contractFindings (finding : Diagnostic) :
    finding ∈ contractFindings model ↔ ∃ id contract, model.contract? id = some contract ∧
      finding ∈ contractFindingsOf model id contract := by
  simp only [contractFindings_eq, Model.mem_placed, List.mem_flatMap, Option.mem_toList]
  constructor
  · rintro ⟨index, interface, known, contract, agreed, reported⟩
    have found := (Model.contract?_eq_some model ⟨index⟩ contract).mpr ⟨interface, known, agreed⟩
    exact ⟨⟨index⟩, contract, found, reported⟩
  · rintro ⟨id, contract, found, reported⟩
    obtain ⟨interface, known, agreed⟩ := (Model.contract?_eq_some model id contract).mp found
    exact ⟨id.index, interface, known, contract, agreed, reported⟩

theorem mem_contractViolations (id : InterfaceId) (contract : Contract)
    (agreed : model.contract? id = some contract) (finding : Diagnostic) :
    finding ∈ contractViolations model id ↔ finding ∈ contractFindingsOf model id contract := by
  simp only [contractViolations, List.mem_filter, decide_eq_true_eq]
  constructor
  · rintro ⟨reported, _, belongs⟩
    obtain ⟨other, declared, known, inside⟩ := (mem_contractFindings model finding).mp reported
    -- the findings of another contract stand at nodes of that one
    have same := node_contractFindingsOf model other declared finding inside
    obtain rfl := Option.some.inj (same.symm.trans belongs)
    obtain rfl := Option.some.inj (known.symm.trans agreed)
    exact inside
  · intro inside
    have reported := (mem_contractFindings model finding).mpr ⟨id, contract, agreed, inside⟩
    exact ⟨reported, List.mem_singleton.mp (of_contractFindings model finding reported),
      node_contractFindingsOf model id contract finding inside⟩

/-- A contract has no violation if and only if it is sound. -/
theorem contractViolations_eq_nil (linked : model.Linked) (id : InterfaceId) (contract : Contract)
    (agreed : model.contract? id = some contract) :
    contractViolations model id = [] ↔ model.SoundContract id contract := by
  rw [← contractFindingsOf_eq_nil model linked id contract agreed]
  simp only [List.eq_nil_iff_forall_not_mem, mem_contractViolations model id contract agreed]

def stepContract (next : Nat) : Contract where
  span := .unknown
  stateVariables := [⟨"total", .unknown, ⟨.primitive .uint8, false⟩, none⟩]
  states :=
    [⟨"idle", .unknown, [⟨.unknown, ⟨.unknown, ⟨.call, ⟨⟨0⟩, 0⟩⟩⟩,
      some ⟨.unknown, .binary .gt (.ref (.argument ⟨⟨0⟩, .method 0, .input, 0⟩))
        (.literal (.integer 0))⟩,
      [⟨.unknown, .stateVariable ⟨1⟩ 0, .ref (.argument ⟨⟨0⟩, .method 0, .input, 0⟩)⟩], 1⟩]⟩,
    ⟨"busy", .unknown, [⟨.unknown, ⟨.unknown, ⟨.respond, ⟨⟨0⟩, 0⟩⟩⟩, none, [], next⟩]⟩]

/-- An interface whose contract is about a method that it inherits. -/
def counters (next : Nat) : Model where
  name := "counters"
  collections := []
  interfaces :=
    [⟨"Counter", .unknown, [], none, [], [⟨"add", .unknown, [], none, false,
      [⟨"step", .unknown, [], ⟨.primitive .uint8, false⟩⟩], [], none⟩], [], [], [], none⟩,
    ⟨"Meter", .unknown, [], some ⟨0⟩, [], [], [], [], [], some (stepContract next)⟩]
  types := []
  constants := []

theorem stepContract_sound :
    (counters 0).SoundContract ⟨1⟩ (stepContract 0) ∧
      ¬ (counters 2).SoundContract ⟨1⟩ (stepContract 2) := by
  constructor
  · exact (contractViolations_eq_nil (counters 0) rfl ⟨1⟩ (stepContract 0) rfl).mp rfl
  · intro sound
    have clean := (contractViolations_eq_nil (counters 2) rfl ⟨1⟩ (stepContract 2) rfl).mpr sound
    exact absurd (congrArg List.length clean) (by decide)

end Check

end FrancaAudit
