import FrancaAudit.Proofs.Snapshot.Definition

/-!
Interfaces and their contracts are written in a form that is read again.
-/

namespace FrancaAudit.Snapshot

theorem argument_restores : Restores Any 4 argument Written.argument := by
  refine restores_record ["name", "span", "annotations", "ty", "array"] rfl _ _ (fun _ => rfl)
    Any 4 fun entered value room found _ => ?_
  simp only [Option.bind_eq_bind, Option.bind_eq_some_iff, Option.pure_def, Option.some.injEq]
    at found
  obtain ⟨name, nameRead, place, placeRead, annotations, annotationsRead, type, typeRead, rfl⟩ :=
    found
  exact .cons (text_restores.required (Nat.zero_le _) nameRead trivial) <|
    .cons (spanField_kept (by omega) placeRead) <|
    .cons (annotationsField_kept (by omega) annotationsRead) <|
    (typeField_kept (by omega) typeRead).append .nothing

theorem attributeOf_restores : Restores Any 4 attributeOf Written.attributeOf := by
  refine restores_record
    ["name", "span", "annotations", "ty", "array", "read_only", "no_subscriptions"] rfl _ _
    (fun _ => rfl) Any 4 fun entered value room found _ => ?_
  simp only [Option.bind_eq_bind, Option.bind_eq_some_iff, Option.pure_def, Option.some.injEq]
    at found
  obtain ⟨name, nameRead, place, placeRead, annotations, annotationsRead, type, typeRead,
    readOnly, readOnlyRead, noSubscriptions, noSubscriptionsRead, rfl⟩ := found
  exact .cons (text_restores.required (Nat.zero_le _) nameRead trivial) <|
    .cons (spanField_kept (by omega) placeRead) <|
    .cons (annotationsField_kept (by omega) annotationsRead) <|
    (typeField_kept (by omega) typeRead).append <|
    .cons (kept_flag readOnlyRead) <|
    .cons (kept_flag noSubscriptionsRead) .nothing

theorem text_present (value : String) : Json.ofString value ≠ .null := nofun

theorem broadcast_restores : Restores Any 6 broadcast Written.broadcast := by
  refine restores_record ["name", "span", "annotations", "selector", "selective", "out_args"] rfl
    _ _ (fun _ => rfl) Any 6 fun entered value room found _ => ?_
  simp only [Option.bind_eq_bind, Option.bind_eq_some_iff, Option.pure_def, Option.some.injEq]
    at found
  obtain ⟨name, nameRead, place, placeRead, annotations, annotationsRead, selector, selectorRead,
    selective, selectiveRead, outArgs, outArgsRead, rfl⟩ := found
  exact .cons (text_restores.required (Nat.zero_le _) nameRead trivial) <|
    .cons (spanField_kept (by omega) placeRead) <|
    .cons (annotationsField_kept (by omega) annotationsRead) <|
    .cons (text_restores.optionOf text_present (Nat.zero_le _) selectorRead
      fun _ _ => trivial) <|
    .cons (kept_flag selectiveRead) <|
    .cons (argument_restores.listOf (by omega) outArgsRead fun _ _ => trivial) .nothing

section Values

variable (double : Double → Json)

theorem methodErrors_restores :
    Restores (fun errors => ∀ item ∈ errors.ownEnumerators, EnumeratorReadsBack double item) 7
      methodErrors (Written.methodErrors double) := by
  refine restores_choice _ _ _ 7 (fun name => ?_) fun name depth json value room made back => ?_
  · dsimp only
    split <;> rfl
  dsimp only at made
  split at made
  · obtain ⟨id, rfl, spelled, again⟩ :=
      typeId_restores.carried (Nat.zero_le _) made fun _ _ => trivial
    exact ⟨_, rfl, spelled, again⟩
  · obtain ⟨entered, rfl, taken, whole⟩ := record_carried made
    simp only [Option.bind_eq_bind, Option.bind_eq_some_iff, Option.pure_def, Option.some.injEq]
      at taken
    obtain ⟨base, baseRead, enumerators, enumeratorsRead, rfl⟩ := taken
    exact ⟨_, rfl, whole _ (
      .cons (typeId_restores.optionOf typeId_present (Nat.zero_le _) baseRead fun _ _ => trivial) <|
      .cons ((enumerator_restores double).listOf (by omega) enumeratorsRead back) .nothing) rfl
        rfl⟩
  · cases made

theorem methodErrors_present (errors : MethodErrors) :
    Written.methodErrors double errors ≠ .null := by
  cases errors <;> exact nofun

def MethodReadsBack (method : Method) : Prop :=
  ∀ errors ∈ method.errors, ∀ item ∈ errors.ownEnumerators, EnumeratorReadsBack double item

theorem method_restores :
    Restores (MethodReadsBack double) 8 method (Written.method double) := by
  refine restores_record
    ["name", "span", "annotations", "selector", "fire_and_forget", "in_args", "out_args",
      "errors"] rfl _ _ (fun _ => rfl) _ 8 fun entered value room found back => ?_
  simp only [Option.bind_eq_bind, Option.bind_eq_some_iff, Option.pure_def, Option.some.injEq]
    at found
  obtain ⟨name, nameRead, place, placeRead, annotations, annotationsRead, selector, selectorRead,
    fireAndForget, fireAndForgetRead, inArgs, inArgsRead, outArgs, outArgsRead, errors,
    errorsRead, rfl⟩ := found
  exact .cons (text_restores.required (Nat.zero_le _) nameRead trivial) <|
    .cons (spanField_kept (by omega) placeRead) <|
    .cons (annotationsField_kept (by omega) annotationsRead) <|
    .cons (text_restores.optionOf text_present (Nat.zero_le _) selectorRead
      fun _ _ => trivial) <|
    .cons (kept_flag fireAndForgetRead) <|
    .cons (argument_restores.listOf (by omega) inArgsRead fun _ _ => trivial) <|
    .cons (argument_restores.listOf (by omega) outArgsRead fun _ _ => trivial) <|
    .cons ((methodErrors_restores double).optionOf (methodErrors_present double) (by omega)
      errorsRead back) .nothing

theorem stateVariable_restores :
    Restores (fun item => ∀ value ∈ item.init, FloatsReadBack double value) 3 stateVariable
      (Written.stateVariable double) := by
  refine restores_record ["name", "span", "ty", "array", "init"] rfl _ _ (fun _ => rfl) _ 3
    fun entered value room found back => ?_
  simp only [Option.bind_eq_bind, Option.bind_eq_some_iff, Option.pure_def, Option.some.injEq]
    at found
  obtain ⟨name, nameRead, place, placeRead, type, typeRead, init, initRead, rfl⟩ := found
  exact .cons (text_restores.required (Nat.zero_le _) nameRead trivial) <|
    .cons (spanField_kept (by omega) placeRead) <|
    (typeField_kept (by omega) typeRead).append <|
    .cons ((expr_restores double).optionOf (expr_present double) (Nat.zero_le _) initRead back)
      .nothing

theorem event_restores : Restores Any 0 event Written.event := by
  refine restores_choice _ _ Any 0 (fun name => ?_) fun name depth json value _ made _ => ?_
  · dsimp only
    cases [EventKind.call, .respond, .error, .signal, .set, .update].find? fun kind =>
      kind.keyword = name <;> rfl
  obtain ⟨kind, listed, held⟩ := Option.bind_eq_some_iff.mp made
  obtain ⟨ref, rfl, spelled, again⟩ :=
    memberRef_restores.carried (Nat.zero_le _) held fun _ _ => trivial
  have named : kind.keyword = name := by simpa using List.find?_some listed
  refine ⟨_, by rw [Written.event, named], spelled, ?_⟩
  exact Option.bind_eq_some_iff.mpr ⟨kind, listed, again⟩

theorem trigger_restores : Restores Any 2 trigger Written.trigger := by
  refine restores_record ["span", "event"] rfl _ _ (fun _ => rfl) Any 2
    fun entered value room found _ => ?_
  simp only [Option.bind_eq_bind, Option.bind_eq_some_iff, Option.pure_def, Option.some.injEq]
    at found
  obtain ⟨place, placeRead, event, eventRead, rfl⟩ := found
  exact .cons (spanField_kept (by omega) placeRead) <|
    .cons (event_restores.required (Nat.zero_le _) eventRead trivial) .nothing

theorem guard_restores :
    Restores (fun guard => FloatsReadBack double guard.condition) 2 guard
      (Written.guard double) := by
  refine restores_record ["span", "condition"] rfl _ _ (fun _ => rfl) _ 2
    fun entered value room found back => ?_
  simp only [Option.bind_eq_bind, Option.bind_eq_some_iff, Option.pure_def, Option.some.injEq]
    at found
  obtain ⟨place, placeRead, condition, conditionRead, rfl⟩ := found
  exact .cons (spanField_kept (by omega) placeRead) <|
    .cons ((expr_restores double).required (Nat.zero_le _) conditionRead back) .nothing

theorem assignment_restores :
    Restores (fun assignment => FloatsReadBack double assignment.value) 2 assignment
      (Written.assignment double) := by
  refine restores_record ["span", "target", "value"] rfl _ _ (fun _ => rfl) _ 2
    fun entered value room found back => ?_
  simp only [Option.bind_eq_bind, Option.bind_eq_some_iff, Option.pure_def, Option.some.injEq]
    at found
  obtain ⟨place, placeRead, target, targetRead, value, valueRead, rfl⟩ := found
  exact .cons (spanField_kept (by omega) placeRead) <|
    .cons (elementRef_restores.required (Nat.zero_le _) targetRead trivial) <|
    .cons ((expr_restores double).required (Nat.zero_le _) valueRead back) .nothing

structure TransitionReadsBack (transition : Transition) : Prop where
  guard : ∀ guard ∈ transition.guard, FloatsReadBack double guard.condition
  assignments : ∀ assignment ∈ transition.assignments, FloatsReadBack double assignment.value

theorem transition_restores :
    Restores (TransitionReadsBack double) 4 transition (Written.transition double) := by
  refine restores_record ["span", "trigger", "guard", "assignments", "to"] rfl _ _ (fun _ => rfl)
    _ 4 fun entered value room found back => ?_
  simp only [Option.bind_eq_bind, Option.bind_eq_some_iff, Option.pure_def, Option.some.injEq]
    at found
  obtain ⟨place, placeRead, trigger, triggerRead, guard, guardRead, assignments, assignmentsRead,
    target, targetRead, rfl⟩ := found
  exact .cons (spanField_kept (by omega) placeRead) <|
    .cons (trigger_restores.required (by omega) triggerRead trivial) <|
    .cons ((guard_restores double).optionOf (fun _ => nofun) (by omega) guardRead back.guard) <|
    .cons ((assignment_restores double).listOf (by omega) assignmentsRead back.assignments) <|
    .cons (natural_restores.required (Nat.zero_le _) targetRead trivial) .nothing

theorem state_restores :
    Restores (fun state => ∀ transition ∈ state.transitions, TransitionReadsBack double transition)
      6 state (Written.state double) := by
  refine restores_record ["name", "span", "transitions"] rfl _ _ (fun _ => rfl) _ 6
    fun entered value room found back => ?_
  simp only [Option.bind_eq_bind, Option.bind_eq_some_iff, Option.pure_def, Option.some.injEq]
    at found
  obtain ⟨name, nameRead, place, placeRead, transitions, transitionsRead, rfl⟩ := found
  exact .cons (text_restores.required (Nat.zero_le _) nameRead trivial) <|
    .cons (spanField_kept (by omega) placeRead) <|
    .cons ((transition_restores double).listOf (by omega) transitionsRead back) .nothing

structure ContractReadsBack (contract : Contract) : Prop where
  initial : ∀ item ∈ contract.stateVariables, ∀ value ∈ item.init, FloatsReadBack double value
  transitions : ∀ state ∈ contract.states, ∀ transition ∈ state.transitions,
    TransitionReadsBack double transition

theorem contract_restores :
    Restores (ContractReadsBack double) 8 contract (Written.contract double) := by
  refine restores_record ["span", "variables", "states"] rfl _ _ (fun _ => rfl) _ 8
    fun entered value room found back => ?_
  simp only [Option.bind_eq_bind, Option.bind_eq_some_iff, Option.pure_def, Option.some.injEq]
    at found
  obtain ⟨place, placeRead, items, itemsRead, states, statesRead, rfl⟩ := found
  exact .cons (spanField_kept (by omega) placeRead) <|
    .cons ((stateVariable_restores double).listOf (by omega) itemsRead back.initial) <|
    .cons ((state_restores double).listOf (by omega) statesRead back.transitions) .nothing

structure InterfaceReadsBack (interface : Interface) : Prop where
  methods : ∀ method ∈ interface.methods, MethodReadsBack double method
  contract : ∀ contract ∈ interface.contract, ContractReadsBack double contract

theorem interface_restores :
    Restores (InterfaceReadsBack double) 10 interface (Written.interface double) := by
  refine restores_record
    ["name", "span", "annotations", "base", "attributes", "methods", "broadcasts", "types",
      "constants", "contract"] rfl _ _ (fun _ => rfl) _ 10
    fun entered value room found back => ?_
  simp only [Option.bind_eq_bind, Option.bind_eq_some_iff, Option.pure_def, Option.some.injEq]
    at found
  obtain ⟨name, nameRead, place, placeRead, annotations, annotationsRead, base, baseRead,
    attributes, attributesRead, methods, methodsRead, broadcasts, broadcastsRead, types,
    typesRead, constants, constantsRead, contract, contractRead, rfl⟩ := found
  exact .cons (text_restores.required (Nat.zero_le _) nameRead trivial) <|
    .cons (spanField_kept (by omega) placeRead) <|
    .cons (annotationsField_kept (by omega) annotationsRead) <|
    .cons (interfaceId_restores.optionOf interfaceId_present (Nat.zero_le _) baseRead
      fun _ _ => trivial) <|
    .cons (attributeOf_restores.listOf (by omega) attributesRead fun _ _ => trivial) <|
    .cons ((method_restores double).listOf (by omega) methodsRead back.methods) <|
    .cons (broadcast_restores.listOf (by omega) broadcastsRead fun _ _ => trivial) <|
    .cons (typeId_restores.listOf (by omega) typesRead fun _ _ => trivial) <|
    .cons (constantId_restores.listOf (by omega) constantsRead fun _ _ => trivial) <|
    .cons ((contract_restores double).optionOf (fun _ => nofun) (by omega) contractRead
      back.contract) .nothing

end Values

end FrancaAudit.Snapshot
