import FrancaAudit.Proofs.Check.Resolution
import FrancaAudit.Proofs.Model.Chain

/-!
The types of the values of declared types, and which values may stand for others, as rules.

The rules bound no depth and hold whether or not types go round in circles. A circle gives no type,
as no finite number of rules gets to its end.
-/

namespace FrancaAudit

/-- The type that all values of the primitive type have. -/
inductive Primitive.Holds : Primitive → ValueType → Prop
  | integer (primitive : Primitive)
      (whole : primitive ∈ [.int8, .uint8, .int16, .uint16, .int32, .uint32, .int64, .uint64]) :
      Holds primitive .integer
  | float : Holds .float .float
  | double : Holds .double .float
  | boolean : Holds .boolean .boolean
  | string : Holds .string .string
  | byteBuffer : Holds .byteBuffer .byteBuffer

theorem Primitive.holds_iff (primitive : Primitive) (type : ValueType) :
    primitive.Holds type ↔ ValueType.ofPrimitive primitive = type := by
  constructor
  · intro holds
    cases holds with
    | integer _ whole => cases primitive <;> first | rfl | simp at whole
    | float => rfl
    | double => rfl
    | boolean => rfl
    | string => rfl
    | byteBuffer => rfl
  · rintro rfl
    cases primitive with
    | float => exact .float
    | double => exact .double
    | boolean => exact .boolean
    | string => exact .string
    | byteBuffer => exact .byteBuffer
    | _ => exact .integer _ (by simp)

namespace Model

variable (model : Model)

/-- The values of the type that the reference stands for have this type. -/
inductive ValuesHave : TypeRef → ValueType → Prop
  | aliased (ref actual : TypeRef) (type : ValueType) (aliases : model.Aliases ref actual)
      (inner : ValuesHave actual type) : ValuesHave ref type
  | primitive (ref : TypeRef) (primitive : Primitive) (type : ValueType)
      (kind : ref.kind = .primitive primitive) (holds : primitive.Holds type) :
      ValuesHave ref type
  | interval (ref : TypeRef) (least greatest : Option Int64)
      (kind : ref.kind = .interval least greatest) : ValuesHave ref .integer
  | array (ref : TypeRef) (id : TypeId) (element : TypeRef) (type : ValueType)
      (names : model.Names ref id (.array element)) (inner : ValuesHave element type) :
      ValuesHave ref (.array type)
  | named (ref : TypeRef) (id : TypeId) (kind : TypeKind) (names : model.Names ref id kind)
      (final : ∀ actual, kind ≠ .alias actual) (single : ∀ element, kind ≠ .array element) :
      ValuesHave ref (.named id)

/-- The values of the declared type have this type. -/
inductive DeclaredValuesHave : DeclaredType → ValueType → Prop
  | single (ref : TypeRef) (type : ValueType) (values : model.ValuesHave ref type) :
      DeclaredValuesHave ⟨ref, false⟩ type
  | items (ref : TypeRef) (type : ValueType) (values : model.ValuesHave ref type) :
      DeclaredValuesHave ⟨ref, true⟩ (.array type)

theorem followAlias_end (steps : Nat) (ref resolved : TypeRef)
    (found : model.followAlias steps ref = some resolved) :
    Relation.ReflTransGen model.Aliases ref resolved ∧ model.Settled resolved := by
  induction steps generalizing ref with
  | zero => exact absurd found (by simp [followAlias])
  | succ steps ih =>
      by_cases aliased : ∃ actual, model.Aliases ref actual
      · obtain ⟨actual, aliases⟩ := aliased
        rw [followAlias_aliases model ref actual aliases] at found
        obtain ⟨path, settled⟩ := ih actual found
        exact ⟨.head aliases path, settled⟩
      · have resolves : model.Resolves ref := by
          intro id named
          cases known : model.type? id with
          | none => simp [followAlias, named, known] at found
          | some definition => rfl
        have settled : model.Settled ref :=
          ⟨resolves, fun actual aliases => aliased ⟨actual, aliases⟩⟩
        rw [followAlias_settled model ref settled] at found
        obtain rfl := Option.some.inj found
        exact ⟨.refl, settled⟩

theorem valuesHave_path (ref actual : TypeRef) (type : ValueType)
    (path : Relation.ReflTransGen model.Aliases ref actual)
    (values : model.ValuesHave actual type) : model.ValuesHave ref type := by
  induction path using Relation.ReflTransGen.head_induction_on with
  | refl => exact values
  | head aliases _ ih => exact .aliased _ _ type aliases ih

theorem valuesHave_of_within (steps : Nat) (ref : TypeRef) (type : ValueType)
    (found : model.valueTypeWithin steps ref = some type) : model.ValuesHave ref type := by
  induction steps generalizing ref type with
  | zero => exact absurd found (by simp [valueTypeWithin])
  | succ steps ih =>
      cases resolution : model.resolveAlias ref with
      | none => simp [valueTypeWithin, resolution] at found
      | some resolved =>
          -- the aliases are looked through first, so that the rest is about a settled reference
          obtain ⟨path, settled⟩ := followAlias_end model _ ref resolved resolution
          refine valuesHave_path model ref resolved type path ?_
          cases kind : resolved.kind with
          | primitive primitive =>
              obtain rfl : ValueType.ofPrimitive primitive = type := by
                simpa [valueTypeWithin, resolution, kind] using found
              exact .primitive resolved primitive _ kind ((primitive.holds_iff _).mpr rfl)
          | interval least greatest =>
              obtain rfl : ValueType.integer = type := by
                simpa [valueTypeWithin, resolution, kind] using found
              exact .interval resolved least greatest kind
          | derived id =>
              obtain ⟨definition, known⟩ := Option.isSome_iff_exists.mp (settled.resolves id kind)
              have names : model.Names resolved id definition.kind := ⟨kind, definition, known, rfl⟩
              cases shape : definition.kind with
              | array element =>
                  obtain ⟨inner, reached, rfl⟩ : ∃ inner,
                      model.valueTypeWithin steps element = some inner ∧ .array inner = type := by
                    simpa [valueTypeWithin, resolution, kind, known, shape] using found
                  exact .array resolved id element inner (shape ▸ names) (ih element inner reached)
              | «alias» actual =>
                  exact absurd ⟨id, shape ▸ names⟩ (settled.final actual)
              | _ =>
                  obtain rfl : ValueType.named id = type := by
                    simpa [valueTypeWithin, resolution, kind, known, shape] using found
                  exact .named resolved id definition.kind names (by simp [shape]) (by simp [shape])

theorem valuesHave_aliases (ref actual : TypeRef) (aliases : model.Aliases ref actual)
    (type : ValueType) (values : model.ValuesHave ref type) : model.ValuesHave actual type := by
  obtain ⟨id, names⟩ := aliases
  cases values with
  | aliased _ other _ otherAliases inner =>
      obtain rfl := model.aliases_rightUnique ⟨id, names⟩ otherAliases
      exact inner
  | primitive _ primitive _ kind _ => exact absurd (kind.symm.trans names.1) (by simp)
  | interval _ least greatest kind => exact absurd (kind.symm.trans names.1) (by simp)
  | array _ other element _ otherNames inner =>
      exact absurd (model.names_unique ref id other _ _ names otherNames).2 (by simp)
  | named _ other kind otherNames final single =>
      exact absurd (model.names_unique ref id other _ _ names otherNames).2.symm (final actual)

theorem valuesHave_array (ref : TypeRef) (id : TypeId) (element : TypeRef)
    (names : model.Names ref id (.array element)) (type : ValueType)
    (values : model.ValuesHave ref type) :
    ∃ inner, type = .array inner ∧ model.ValuesHave element inner := by
  cases values with
  | aliased _ actual _ aliases inner =>
      obtain ⟨other, otherNames⟩ := aliases
      exact absurd (model.names_unique ref id other _ _ names otherNames).2 (by simp)
  | primitive _ primitive _ kind _ => exact absurd (kind.symm.trans names.1) (by simp)
  | interval _ least greatest kind => exact absurd (kind.symm.trans names.1) (by simp)
  | array _ other _ inner otherNames values =>
      obtain rfl := TypeKind.array.inj (model.names_unique ref id other _ _ names otherNames).2
      exact ⟨inner, rfl, values⟩
  | named _ other kind otherNames final single =>
      exact absurd (model.names_unique ref id other _ _ names otherNames).2.symm (single element)

theorem valuesHave_named (ref : TypeRef) (id : TypeId) (kind : TypeKind)
    (names : model.Names ref id kind) (final : ∀ actual, kind ≠ .alias actual)
    (single : ∀ element, kind ≠ .array element) (type : ValueType)
    (values : model.ValuesHave ref type) : type = .named id := by
  cases values with
  | aliased _ actual _ aliases inner =>
      obtain ⟨other, otherNames⟩ := aliases
      exact absurd (model.names_unique ref id other _ _ names otherNames).2 (final actual)
  | primitive _ primitive _ kind _ => exact absurd (kind.symm.trans names.1) (by simp)
  | interval _ least greatest kind => exact absurd (kind.symm.trans names.1) (by simp)
  | array _ other element _ otherNames inner =>
      exact absurd (model.names_unique ref id other _ _ names otherNames).2 (single element)
  | named _ other kind otherNames _ _ =>
      rw [(model.names_unique ref id other _ _ names otherNames).1]

theorem valuesHave_unnamed (ref : TypeRef) (unnamed : ∀ id, ref.kind ≠ .derived id)
    (type : ValueType) (values : model.ValuesHave ref type) :
    (∃ primitive, ref.kind = .primitive primitive ∧ type = .ofPrimitive primitive) ∨
      ∃ least greatest, ref.kind = .interval least greatest ∧ type = .integer := by
  cases values with
  | aliased _ actual _ aliases inner =>
      obtain ⟨id, names⟩ := aliases
      exact absurd names.1 (unnamed id)
  | primitive _ primitive _ kind holds =>
      exact Or.inl ⟨primitive, kind, ((primitive.holds_iff type).mp holds).symm⟩
  | interval _ least greatest kind => exact Or.inr ⟨least, greatest, kind, rfl⟩
  | array _ id element _ names inner => exact absurd names.1 (unnamed id)
  | named _ id kind names _ _ => exact absurd names.1 (unnamed id)

theorem valuesHave_unique (ref : TypeRef) (first second : ValueType)
    (values : model.ValuesHave ref first) (others : model.ValuesHave ref second) :
    first = second := by
  induction values generalizing second with
  | aliased ref actual type aliases inner ih =>
      exact ih second (valuesHave_aliases model ref actual aliases second others)
  | primitive ref primitive type kind holds =>
      rcases valuesHave_unnamed model ref (by simp [kind]) second others with
        ⟨other, same, rfl⟩ | ⟨least, greatest, same, rfl⟩
      · rw [← (primitive.holds_iff type).mp holds, TypeRefKind.primitive.inj (kind.symm.trans same)]
      · exact absurd (kind.symm.trans same) (by simp)
  | interval ref least greatest kind =>
      rcases valuesHave_unnamed model ref (by simp [kind]) second others with
        ⟨other, same, rfl⟩ | ⟨least, greatest, same, rfl⟩
      · exact absurd (kind.symm.trans same) (by simp)
      · rfl
  | array ref id element type names inner ih =>
      obtain ⟨other, rfl, otherInner⟩ := valuesHave_array model ref id element names second others
      rw [ih other otherInner]
  | named ref id kind names final single =>
      exact (valuesHave_named model ref id kind names final single second others).symm

theorem declaredValuesHave_unique (declared : DeclaredType) (first second : ValueType)
    (values : model.DeclaredValuesHave declared first)
    (others : model.DeclaredValuesHave declared second) : first = second := by
  cases values with
  | single ref type values =>
      obtain ⟨_, _, others⟩ := others
      exact valuesHave_unique model ref first second values others
  | items ref type values =>
      cases others with
      | items _ other others => rw [valuesHave_unique model ref type other values others]

theorem declaredValuesHave_of_valueType (declared : DeclaredType) (type : ValueType)
    (typed : model.valueType declared = some type) : model.DeclaredValuesHave declared type := by
  obtain ⟨ref, isArray⟩ := declared
  cases isArray with
  | false => exact .single ref type (valuesHave_of_within model _ ref type typed)
  | true =>
      obtain ⟨inner, reached, rfl⟩ := Option.map_eq_some_iff.mp typed
      exact .items ref inner (valuesHave_of_within model _ ref inner reached)

theorem names_of_valuesHave (ref : TypeRef) (id : TypeId)
    (values : model.ValuesHave ref (.named id)) :
    ∃ actual kind, Relation.ReflTransGen model.Aliases ref actual ∧
      model.Names actual id kind := by
  generalize same : ValueType.named id = type at values
  induction values with
  | aliased ref actual type aliases inner ih =>
      obtain ⟨last, kind, path, names⟩ := ih same
      exact ⟨last, kind, .head aliases path, names⟩
  | primitive ref primitive type kind holds => cases holds <;> simp at same
  | interval ref least greatest kind => simp at same
  | array ref id element type names inner ih => simp at same
  | named ref other kind names final single =>
      obtain rfl := ValueType.named.inj same
      exact ⟨ref, kind, .refl, names⟩

theorem names_of_valueType (declared : DeclaredType) (id : TypeId)
    (typed : model.valueType declared = some (.named id)) :
    declared.isArray = false ∧ ∃ actual kind,
      Relation.ReflTransGen model.Aliases declared.ref actual ∧ model.Names actual id kind := by
  cases declaredValuesHave_of_valueType model declared (.named id) typed with
  | single ref _ values => exact ⟨rfl, names_of_valuesHave model ref id values⟩

section Linked

variable (linked : model.Linked)
variable (acyclic : ∀ id, ¬ Relation.TransGen model.DependsOn id id)

include linked acyclic

theorem valueType_exists (declared : DeclaredType) (resolves : model.Resolves declared.ref) :
    ∃ type, model.valueType declared = some type := by
  obtain ⟨level, levels⟩ := model.levels_exist linked acyclic
  exact Option.isSome_iff_exists.mp
    (model.valueType_isSome linked level levels declared resolves)

theorem declaredValuesHave_exists (declared : DeclaredType)
    (resolves : model.Resolves declared.ref) :
    ∃ type, model.DeclaredValuesHave declared type := by
  obtain ⟨type, typed⟩ := valueType_exists model linked acyclic declared resolves
  exact ⟨type, declaredValuesHave_of_valueType model declared type typed⟩

theorem valueType_eq_some (declared : DeclaredType) (resolves : model.Resolves declared.ref)
    (type : ValueType) :
    model.valueType declared = some type ↔ model.DeclaredValuesHave declared type := by
  refine ⟨declaredValuesHave_of_valueType model declared type, fun values => ?_⟩
  obtain ⟨found, typed⟩ := valueType_exists model linked acyclic declared resolves
  have others := declaredValuesHave_of_valueType model declared found typed
  rw [typed, declaredValuesHave_unique model declared found type others values]

end Linked

/-- A value of the second type may stand where one of the first is expected. -/
inductive Accepts : ValueType → ValueType → Prop
  | same (type : ValueType) : Accepts type type
  | widened : Accepts .float .integer
  | inherited (expected actual : TypeId)
      (path : Relation.ReflTransGen model.TypeExtends actual expected) :
      Accepts (.named expected) (.named actual)
  | items (expected actual : ValueType) (inner : Accepts expected actual) :
      Accepts (.array expected) (.array actual)

theorem accepts_of_compatible (expected actual : ValueType)
    (suits : model.compatible expected actual) : model.Accepts expected actual := by
  induction expected generalizing actual with
  | array expected ih =>
      cases actual with
      | array actual => exact .items expected actual (ih actual (by simpa [compatible] using suits))
      | _ => simp [compatible] at suits
  | named expected =>
      cases actual with
      | named actual =>
          refine .inherited expected actual ((model.inherits_iff actual expected).mp ?_)
          simpa [compatible] using suits
      | _ => simp [compatible] at suits
  | float =>
      cases actual with
      | integer => exact .widened
      | float => exact .same .float
      | _ => simp [compatible] at suits
  | _ =>
      cases actual <;> simp [compatible] at suits
      exact .same _

theorem compatible_refl (type : ValueType) : model.compatible type type := by
  induction type with
  | array element ih => simpa [compatible] using ih
  | _ => simp [compatible]

theorem compatible_iff (expected actual : ValueType) :
    model.compatible expected actual ↔ model.Accepts expected actual := by
  refine ⟨accepts_of_compatible model expected actual, fun accepts => ?_⟩
  induction accepts with
  | same type => exact compatible_refl model type
  | widened => rfl
  | inherited expected actual path =>
      simpa [compatible] using (model.inherits_iff actual expected).mpr path
  | items expected actual inner ih => simpa [compatible] using ih

end Model

end FrancaAudit
