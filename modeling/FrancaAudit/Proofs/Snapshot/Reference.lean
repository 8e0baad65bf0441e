import FrancaAudit.Proofs.Snapshot.Shape

/-!
References and places in the text are written in a form that is read again.
-/

namespace FrancaAudit.Snapshot

theorem collectionId_restores : Restores Any 0 collectionId fun id => Json.ofNat id.index :=
  natural_restores.map CollectionId.mk (·.index) fun _ => rfl

theorem interfaceId_restores : Restores Any 0 interfaceId Written.interfaceId :=
  natural_restores.map InterfaceId.mk (·.index) fun _ => rfl

theorem typeId_restores : Restores Any 0 typeId Written.typeId :=
  natural_restores.map TypeId.mk (·.index) fun _ => rfl

theorem constantId_restores : Restores Any 0 constantId Written.constantId :=
  natural_restores.map ConstantId.mk (·.index) fun _ => rfl

theorem interfaceId_present (id : InterfaceId) : Written.interfaceId id ≠ .null := nofun

theorem typeId_present (id : TypeId) : Written.typeId id ≠ .null := nofun

theorem span_restores : Restores Any 0 span Written.span := by
  refine restores_record ["start", "end"] rfl _ _ (fun _ => rfl) Any 0
    fun entered value _ found _ => ?_
  simp only [Option.bind_eq_bind, Option.bind_eq_some_iff, Option.pure_def, Option.some.injEq]
    at found
  obtain ⟨start, startRead, stop, stopRead, rfl⟩ := found
  exact .cons (natural_restores.required (Nat.zero_le _) startRead trivial) <|
    .cons (natural_restores.required (Nat.zero_le _) stopRead trivial) .nothing

theorem owner_restores : Restores Any 0 owner Written.owner := by
  refine restores_choice _ _ Any 0 (fun name => ?_) fun name depth json value _ made _ => ?_
  · dsimp only
    split <;> rfl
  dsimp only at made
  split at made
  · obtain ⟨id, rfl, spelled, again⟩ :=
      collectionId_restores.carried (Nat.zero_le _) made fun _ _ => trivial
    exact ⟨_, rfl, spelled, again⟩
  · obtain ⟨id, rfl, spelled, again⟩ :=
      interfaceId_restores.carried (Nat.zero_le _) made fun _ _ => trivial
    exact ⟨_, rfl, spelled, again⟩
  · cases made

theorem memberRef_restores : Restores Any 0 memberRef Written.memberRef := by
  refine restores_record ["interface", "index"] rfl _ _ (fun _ => rfl) Any 0
    fun entered value _ found _ => ?_
  simp only [Option.bind_eq_bind, Option.bind_eq_some_iff, Option.pure_def, Option.some.injEq]
    at found
  obtain ⟨interface, interfaceRead, index, indexRead, rfl⟩ := found
  exact .cons (interfaceId_restores.required (Nat.zero_le _) interfaceRead trivial) <|
    .cons (natural_restores.required (Nat.zero_le _) indexRead trivial) .nothing

theorem operation_restores : Restores Any 0 operation Written.operation := by
  refine restores_choice _ _ Any 0 (fun name => ?_) fun name depth json value _ made _ => ?_
  · dsimp only
    split <;> rfl
  dsimp only at made
  split at made
  · obtain ⟨id, rfl, spelled, again⟩ :=
      natural_restores.carried (Nat.zero_le _) made fun _ _ => trivial
    exact ⟨_, rfl, spelled, again⟩
  · obtain ⟨id, rfl, spelled, again⟩ :=
      natural_restores.carried (Nat.zero_le _) made fun _ _ => trivial
    exact ⟨_, rfl, spelled, again⟩
  · cases made

theorem direction_restores : Restores Any 0 direction Written.direction :=
  restores_oneOf _ _ fun value => by cases value <;> exact ⟨_, rfl, rfl⟩

theorem argumentRef_restores : Restores Any 0 argumentRef Written.argumentRef := by
  refine restores_record ["interface", "operation", "direction", "index"] rfl _ _ (fun _ => rfl)
    Any 0 fun entered value _ found _ => ?_
  simp only [Option.bind_eq_bind, Option.bind_eq_some_iff, Option.pure_def, Option.some.injEq]
    at found
  obtain ⟨interface, interfaceRead, operation, operationRead, direction, directionRead, index,
    indexRead, rfl⟩ := found
  exact .cons (interfaceId_restores.required (Nat.zero_le _) interfaceRead trivial) <|
    .cons (operation_restores.required (Nat.zero_le _) operationRead trivial) <|
    .cons (direction_restores.required (Nat.zero_le _) directionRead trivial) <|
    .cons (natural_restores.required (Nat.zero_le _) indexRead trivial) .nothing

theorem ownedIndex_restores :
    Restores Any 0 ownedIndex fun place => Written.ownedIndex place.1 place.2 := by
  refine restores_record ["owner", "index"] rfl _ _ (fun _ => rfl) Any 0
    fun entered value _ found _ => ?_
  simp only [Option.bind_eq_bind, Option.bind_eq_some_iff, Option.pure_def, Option.some.injEq]
    at found
  obtain ⟨owner, ownerRead, index, indexRead, rfl⟩ := found
  exact .cons (typeId_restores.required (Nat.zero_le _) ownerRead trivial) <|
    .cons (natural_restores.required (Nat.zero_le _) indexRead trivial) .nothing

theorem elementRef_restores : Restores Any 0 elementRef Written.elementRef := by
  refine restores_choice _ _ Any 0 (fun name => ?_) fun name depth json value _ made _ => ?_
  · dsimp only
    split <;> rfl
  dsimp only at made
  split at made
  · obtain ⟨ref, rfl, spelled, again⟩ :=
      memberRef_restores.carried (Nat.zero_le _) made fun _ _ => trivial
    exact ⟨_, rfl, spelled, again⟩
  · obtain ⟨ref, rfl, spelled, again⟩ :=
      argumentRef_restores.carried (Nat.zero_le _) made fun _ _ => trivial
    exact ⟨_, rfl, spelled, again⟩
  · obtain ⟨id, rfl, spelled, again⟩ :=
      constantId_restores.carried (Nat.zero_le _) made fun _ _ => trivial
    exact ⟨_, rfl, spelled, again⟩
  · obtain ⟨ref, rfl, spelled, again⟩ :=
      memberRef_restores.carried (Nat.zero_le _) made fun _ _ => trivial
    exact ⟨_, rfl, spelled, again⟩
  · obtain ⟨place, inside, ⟨⟩⟩ := Option.bind_eq_some_iff.mp made
    obtain ⟨spelled, again⟩ := ownedIndex_restores depth json place (Nat.zero_le _) inside trivial
    exact ⟨_, rfl, spelled, by simp [Choice.carrying, again]⟩
  · obtain ⟨place, inside, ⟨⟩⟩ := Option.bind_eq_some_iff.mp made
    obtain ⟨spelled, again⟩ := ownedIndex_restores depth json place (Nat.zero_le _) inside trivial
    exact ⟨_, rfl, spelled, by simp [Choice.carrying, again]⟩
  · cases made

end FrancaAudit.Snapshot
