import FrancaAudit.Proofs.Snapshot.Expression

/-!
Annotations, uses of types, and definitions are written in a form that is read again.

A list of annotations that was left out is written as an empty array, one level below, and a place
that was left out as a record. So from here on a value needs some levels of nesting, whether the
original went that deep or not.
-/

namespace FrancaAudit.Snapshot

theorem unknown_restored (depth : Nat) : Restored span Written.span (depth + 1) .unknown :=
  ⟨by simp [Written.span], rfl⟩

theorem spanField_kept {entered : Record} (room : 1 ≤ entered.depth) {value : Span}
    (found : entered.spanField = some value) :
    Kept Record.spanField entered.depth [("span", Written.span value)] value := by
  obtain ⟨depth, deep⟩ := Nat.exists_eq_add_of_le' room
  exact span_restores.orElse (Nat.zero_le _) found trivial (deep ▸ unknown_restored depth)

theorem annotationItem_restores : Restores Any 2 annotationItem Written.annotationItem := by
  refine restores_record ["tag", "text", "span"] rfl _ _ (fun _ => rfl) Any 2
    fun entered value room found _ => ?_
  simp only [Option.bind_eq_bind, Option.bind_eq_some_iff, Option.pure_def, Option.some.injEq]
    at found
  obtain ⟨tag, tagRead, body, bodyRead, place, placeRead, rfl⟩ := found
  exact .cons (text_restores.required (Nat.zero_le _) tagRead trivial) <|
    .cons (text_restores.orElse (Nat.zero_le _) bodyRead trivial ⟨.string "", rfl⟩) <|
    .cons (spanField_kept (by omega) placeRead) .nothing

theorem annotationsField_kept {entered : Record} (room : 3 ≤ entered.depth)
    {value : List Annotation} (found : entered.annotationsField = some value) :
    Kept Record.annotationsField entered.depth [("annotations", Written.annotations value)]
      value :=
  annotationItem_restores.listOf room found fun _ _ => trivial

theorem primitive_restores :
    Restores Any 0 primitive fun kind => Json.ofString kind.label :=
  restores_oneOf _ _ fun kind => by cases kind <;> exact ⟨_, rfl, rfl⟩

theorem int64_present (value : Int64) : Written.int64 value ≠ .null := nofun

theorem typeRefKind_restores : Restores Any 0 typeRefKind Written.typeRefKind := by
  refine restores_choice _ _ Any 0 (fun name => ?_) fun name depth json value _ made _ => ?_
  · dsimp only
    split <;> rfl
  dsimp only at made
  split at made
  · obtain ⟨kind, rfl, spelled, again⟩ :=
      primitive_restores.carried (Nat.zero_le _) made fun _ _ => trivial
    exact ⟨_, rfl, spelled, again⟩
  · obtain ⟨entered, rfl, taken, whole⟩ := record_carried made
    simp only [Option.bind_eq_bind, Option.bind_eq_some_iff, Option.pure_def, Option.some.injEq]
      at taken
    obtain ⟨lower, lowerRead, upper, upperRead, rfl⟩ := taken
    exact ⟨_, rfl, whole _ (
      .cons (int64_restores.optionOf int64_present (Nat.zero_le _) lowerRead fun _ _ => trivial) <|
      .cons (int64_restores.optionOf int64_present (Nat.zero_le _) upperRead fun _ _ => trivial)
        .nothing) rfl rfl⟩
  · obtain ⟨id, rfl, spelled, again⟩ :=
      typeId_restores.carried (Nat.zero_le _) made fun _ _ => trivial
    exact ⟨_, rfl, spelled, again⟩
  · cases made

theorem typeRef_restores : Restores Any 2 typeRef Written.typeRef := by
  refine restores_record ["span", "kind"] rfl _ _ (fun _ => rfl) Any 2
    fun entered value room found _ => ?_
  simp only [Option.bind_eq_bind, Option.bind_eq_some_iff, Option.pure_def, Option.some.injEq]
    at found
  obtain ⟨place, placeRead, kind, kindRead, rfl⟩ := found
  exact .cons (spanField_kept (by omega) placeRead) <|
    .cons (typeRefKind_restores.required (Nat.zero_le _) kindRead trivial) .nothing

theorem typeField_kept {entered : Record} (room : 2 ≤ entered.depth) {value : DeclaredType}
    (found : entered.typeField = some value) :
    Kept Record.typeField entered.depth (Written.declaredType value) value := by
  simp only [Record.typeField, Option.bind_eq_bind, Option.bind_eq_some_iff, Option.pure_def,
    Option.some.injEq] at found
  obtain ⟨ref, refRead, isArray, isArrayRead, rfl⟩ := found
  exact .cons (typeRef_restores.required room refRead trivial) <|
    .cons (kept_flag isArrayRead) .nothing

theorem field_restores : Restores Any 4 field Written.field := by
  refine restores_record ["name", "span", "annotations", "ty", "array"] rfl _ _ (fun _ => rfl)
    Any 4 fun entered value room found _ => ?_
  simp only [Option.bind_eq_bind, Option.bind_eq_some_iff, Option.pure_def, Option.some.injEq]
    at found
  obtain ⟨name, nameRead, place, placeRead, annotations, annotationsRead, type, typeRead, rfl⟩ :=
    found
  exact .cons (text_restores.required (Nat.zero_le _) nameRead trivial) <|
    .cons (spanField_kept (by omega) placeRead) <|
    .cons (annotationsField_kept (by omega) annotationsRead) <|
    (typeField_kept (by omega) typeRead).append .nothing

/-- The value that is given to the enumerator, if any, has its literals read back. -/
def EnumeratorReadsBack (double : Double → Json) (item : Enumerator) : Prop :=
  ∀ value ∈ item.value, FloatsReadBack double value

section Values

variable (double : Double → Json)

theorem enumerator_restores :
    Restores (EnumeratorReadsBack double) 4 enumerator (Written.enumerator double) := by
  refine restores_record ["name", "span", "annotations", "value"] rfl _ _ (fun _ => rfl) _ 4
    fun entered value room found back => ?_
  simp only [Option.bind_eq_bind, Option.bind_eq_some_iff, Option.pure_def, Option.some.injEq]
    at found
  obtain ⟨name, nameRead, place, placeRead, annotations, annotationsRead, value, valueRead,
    rfl⟩ := found
  exact .cons (text_restores.required (Nat.zero_le _) nameRead trivial) <|
    .cons (spanField_kept (by omega) placeRead) <|
    .cons (annotationsField_kept (by omega) annotationsRead) <|
    .cons ((expr_restores double).optionOf (expr_present double) (Nat.zero_le _) valueRead back)
      .nothing

theorem typeKind_restores :
    Restores (fun kind => ∀ item ∈ kind.enumerators, EnumeratorReadsBack double item) 7 typeKind
      (Written.typeKind double) := by
  refine restores_choice _ _ _ 7 (fun name => ?_) fun name depth json value room made back => ?_
  · dsimp only
    split <;> rfl
  dsimp only at made
  split at made
  · obtain ⟨entered, rfl, taken, whole⟩ := record_carried made
    simp only [Option.bind_eq_bind, Option.bind_eq_some_iff, Option.pure_def, Option.some.injEq]
      at taken
    obtain ⟨base, baseRead, polymorphic, polymorphicRead, fields, fieldsRead, rfl⟩ := taken
    exact ⟨_, rfl, whole _ (
      .cons (typeId_restores.optionOf typeId_present (Nat.zero_le _) baseRead fun _ _ => trivial) <|
      .cons (kept_flag polymorphicRead) <|
      .cons (field_restores.listOf (by omega) fieldsRead fun _ _ => trivial) .nothing) rfl rfl⟩
  · obtain ⟨entered, rfl, taken, whole⟩ := record_carried made
    simp only [Option.bind_eq_bind, Option.bind_eq_some_iff, Option.pure_def, Option.some.injEq]
      at taken
    obtain ⟨base, baseRead, fields, fieldsRead, rfl⟩ := taken
    exact ⟨_, rfl, whole _ (
      .cons (typeId_restores.optionOf typeId_present (Nat.zero_le _) baseRead fun _ _ => trivial) <|
      .cons (field_restores.listOf (by omega) fieldsRead fun _ _ => trivial) .nothing) rfl rfl⟩
  · obtain ⟨entered, rfl, taken, whole⟩ := record_carried made
    simp only [Option.bind_eq_bind, Option.bind_eq_some_iff, Option.pure_def, Option.some.injEq]
      at taken
    obtain ⟨base, baseRead, enumerators, enumeratorsRead, rfl⟩ := taken
    exact ⟨_, rfl, whole _ (
      .cons (typeId_restores.optionOf typeId_present (Nat.zero_le _) baseRead fun _ _ => trivial) <|
      .cons ((enumerator_restores double).listOf (by omega) enumeratorsRead back) .nothing) rfl
        rfl⟩
  · obtain ⟨entered, rfl, taken, whole⟩ := record_carried made
    simp only [Option.bind_eq_bind, Option.bind_eq_some_iff, Option.pure_def, Option.some.injEq]
      at taken
    obtain ⟨element, elementRead, rfl⟩ := taken
    exact ⟨_, rfl, whole _ (
      .cons (typeRef_restores.required (by omega) elementRead trivial) .nothing) rfl rfl⟩
  · obtain ⟨entered, rfl, taken, whole⟩ := record_carried made
    simp only [Option.bind_eq_bind, Option.bind_eq_some_iff, Option.pure_def, Option.some.injEq]
      at taken
    obtain ⟨key, keyRead, value, valueRead, rfl⟩ := taken
    exact ⟨_, rfl, whole _ (
      .cons (typeRef_restores.required (by omega) keyRead trivial) <|
      .cons (typeRef_restores.required (by omega) valueRead trivial) .nothing) rfl rfl⟩
  · obtain ⟨actual, rfl, spelled, again⟩ :=
      typeRef_restores.carried (by omega) made fun _ _ => trivial
    exact ⟨_, rfl, spelled, again⟩
  · cases made

theorem typeDef_restores :
    Restores (fun definition => ∀ item ∈ definition.kind.enumerators,
      EnumeratorReadsBack double item) 8 typeDef (Written.typeDef double) := by
  refine restores_record ["name", "span", "owner", "annotations", "kind"] rfl _ _ (fun _ => rfl)
    _ 8 fun entered value room found back => ?_
  simp only [Option.bind_eq_bind, Option.bind_eq_some_iff, Option.pure_def, Option.some.injEq]
    at found
  obtain ⟨name, nameRead, place, placeRead, owner, ownerRead, annotations, annotationsRead, kind,
    kindRead, rfl⟩ := found
  exact .cons (text_restores.required (Nat.zero_le _) nameRead trivial) <|
    .cons (spanField_kept (by omega) placeRead) <|
    .cons (owner_restores.required (Nat.zero_le _) ownerRead trivial) <|
    .cons (annotationsField_kept (by omega) annotationsRead) <|
    .cons ((typeKind_restores double).required (by omega) kindRead back) .nothing

theorem constantDef_restores :
    Restores (fun definition => FloatsReadBack double definition.value) 4 constantDef
      (Written.constantDef double) := by
  refine restores_record ["name", "span", "owner", "annotations", "ty", "array", "value"] rfl _ _
    (fun _ => rfl) _ 4 fun entered value room found back => ?_
  simp only [Option.bind_eq_bind, Option.bind_eq_some_iff, Option.pure_def, Option.some.injEq]
    at found
  obtain ⟨name, nameRead, place, placeRead, owner, ownerRead, annotations, annotationsRead, type,
    typeRead, value, valueRead, rfl⟩ := found
  exact .cons (text_restores.required (Nat.zero_le _) nameRead trivial) <|
    .cons (spanField_kept (by omega) placeRead) <|
    .cons (owner_restores.required (Nat.zero_le _) ownerRead trivial) <|
    .cons (annotationsField_kept (by omega) annotationsRead) <|
    (typeField_kept (by omega) typeRead).append <|
    .cons ((expr_restores double).required (Nat.zero_le _) valueRead back) .nothing

end Values

end FrancaAudit.Snapshot
