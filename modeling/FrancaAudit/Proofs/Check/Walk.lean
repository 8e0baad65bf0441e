import FrancaAudit.Proofs.Check.Denotation
import FrancaAudit.Proofs.Check.ValueType
import Mathlib.Data.Set.Card

/-!
Walks from reference to reference, over as many aliases and arrays as there are.

A walk knows no bounds, while the look-ups count their steps. The counts are large enough all the
same: where a reference leads to depends on the type it names alone, so a walk that passes a type
twice goes round in a circle, and any other one passes each type at most once.
-/

namespace FrancaAudit

namespace Model

variable (model : Model)

section Walk

variable (step : TypeRef → TypeRef → Prop)

/-- A step starts at a type of the model, and this type alone decides where it ends. -/
structure ByName : Prop where
  source : ∀ ref next, step ref next → ∃ id, ref.kind = .derived id ∧ (model.type? id).isSome
  shared : ∀ ref other next, ref.kind = other.kind → step ref next → step other next
  unique : Relator.RightUnique step

/-- The walk goes round in a circle in the end, or comes to a type that is missing. -/
def Lost (ref : TypeRef) : Prop :=
  ∃ last, Relation.ReflTransGen step ref last ∧
    (Relation.TransGen step last last ∨ ¬ model.Resolves last)

def passed (ref : TypeRef) : Set (Fin model.types.length) :=
  {index | ∃ other, Relation.ReflTransGen step ref other ∧ other.kind = .derived ⟨index⟩}

theorem passed_subset (ref other : TypeRef) (path : Relation.ReflTransGen step ref other) :
    model.passed step other ⊆ model.passed step ref := by
  rintro index ⟨last, rest, named⟩
  exact ⟨last, path.trans rest, named⟩

theorem passed_le (ref other : TypeRef) (path : Relation.ReflTransGen step ref other) :
    (model.passed step other).ncard ≤ (model.passed step ref).ncard :=
  Set.ncard_le_ncard (model.passed_subset step ref other path)

theorem passed_bounded (ref : TypeRef) :
    (model.passed step ref).ncard < model.types.length + 1 := by
  have bound := Set.ncard_le_card (model.passed step ref)
  rw [Nat.card_fin] at bound
  omega

theorem not_lost_of_end (ref : TypeRef) (resolves : model.Resolves ref)
    (final : ∀ next, ¬ step ref next) : ¬ model.Lost step ref := by
  rintro ⟨last, path, circle | missing⟩
  · -- a circle through the end would go on from there
    rcases Relation.ReflTransGen.cases_head path with rfl | ⟨next, taken, _⟩
    · obtain ⟨next, taken, _⟩ := Relation.TransGen.head'_iff.mp circle
      exact final next taken
    · exact final next taken
  · rcases Relation.ReflTransGen.cases_head path with rfl | ⟨next, taken, _⟩
    · exact missing resolves
    · exact final next taken

theorem resolves_of_not_lost (ref : TypeRef) (kept : ¬ model.Lost step ref) :
    model.Resolves ref := by
  by_contra missing
  exact kept ⟨ref, .refl, Or.inr missing⟩

theorem lost_of_next (ref next : TypeRef) (taken : step ref next)
    (lost : model.Lost step next) : model.Lost step ref := by
  obtain ⟨last, path, ending⟩ := lost
  exact ⟨last, .head taken path, ending⟩

variable (byName : model.ByName step)

include byName

theorem resolves_of_step (ref next : TypeRef) (taken : step ref next) : model.Resolves ref := by
  obtain ⟨id, named, known⟩ := byName.source ref next taken
  intro other same
  obtain rfl : id = other := by simpa [named] using same
  exact known

theorem lost_next (ref next : TypeRef) (taken : step ref next) (lost : model.Lost step ref) :
    model.Lost step next := by
  obtain ⟨last, path, ending⟩ := lost
  rcases Relation.ReflTransGen.cases_head path with rfl | ⟨after, first, rest⟩
  · rcases ending with circle | missing
    · -- the circle starts at the reference, and so passes the one after it
      obtain ⟨after, first, back⟩ := Relation.TransGen.head'_iff.mp circle
      obtain rfl := byName.unique taken first
      exact ⟨ref, back, Or.inl circle⟩
    · exact absurd (model.resolves_of_step step byName ref next taken) missing
  · obtain rfl := byName.unique taken first
    exact ⟨last, rest, ending⟩

-- The type that the step starts at cannot come again: it would lead back to the next reference.
theorem passed_lt (ref next : TypeRef) (taken : step ref next) (kept : ¬ model.Lost step ref) :
    (model.passed step next).ncard < (model.passed step ref).ncard := by
  obtain ⟨id, named, known⟩ := byName.source ref next taken
  obtain ⟨definition, found⟩ := Option.isSome_iff_exists.mp known
  obtain ⟨inside, _⟩ := List.getElem?_eq_some_iff.mp found
  apply Set.ncard_lt_ncard _ (Set.toFinite _)
  apply (Set.ssubset_iff_of_subset (model.passed_subset step ref next (.single taken))).mpr
  refine ⟨⟨id.index, inside⟩, ⟨ref, .refl, named⟩, ?_⟩
  rintro ⟨again, path, same⟩
  apply kept
  have back := byName.shared ref again next (named.trans same.symm) taken
  exact ⟨next, .single taken, Or.inl (.tail' path back)⟩

/-- Whatever a reference has as soon as the next one has it, every reference has whose walk comes
to an end in the model. -/
theorem walk_induction (motive : TypeRef → Prop)
    (advance : ∀ ref, model.Resolves ref → (∀ next, step ref next → motive next) → motive ref)
    (ref : TypeRef) (kept : ¬ model.Lost step ref) : motive ref := by
  induction count : (model.passed step ref).ncard using Nat.strong_induction_on
    generalizing ref with
  | _ count ih =>
      subst count
      apply advance ref (model.resolves_of_not_lost step ref kept)
      intro next taken
      apply ih _ (model.passed_lt step byName ref next taken kept) next _ rfl
      exact fun lost => kept (model.lost_of_next step ref next taken lost)

end Walk

theorem aliases_byName : model.ByName model.Aliases where
  source := by
    rintro ref actual ⟨id, named, definition, found, _⟩
    exact ⟨id, named, Option.isSome_of_eq_some found⟩
  shared := by
    rintro ref other actual same ⟨id, named, rest⟩
    exact ⟨id, same ▸ named, rest⟩
  unique := model.aliases_rightUnique

theorem not_lost_of_settled (ref resolved : TypeRef) (settled : model.Settled resolved)
    (path : Relation.ReflTransGen model.Aliases ref resolved) :
    ¬ model.Lost model.Aliases ref := by
  induction path using Relation.ReflTransGen.head_induction_on with
  | refl => exact model.not_lost_of_end model.Aliases resolved settled.resolves settled.final
  | head aliases _ ih =>
      intro lost
      exact ih (model.lost_next model.Aliases model.aliases_byName _ _ aliases lost)

theorem settled_exists (ref : TypeRef) (kept : ¬ model.Lost model.Aliases ref) :
    ∃ resolved, Relation.ReflTransGen model.Aliases ref resolved ∧ model.Settled resolved := by
  apply model.walk_induction model.Aliases model.aliases_byName _ _ ref kept
  intro ref resolves next
  rcases model.aliases_or_settled ref resolves with ⟨actual, aliases⟩ | settled
  · obtain ⟨resolved, path, settled⟩ := next actual aliases
    exact ⟨resolved, .head aliases path, settled⟩
  · exact ⟨ref, .refl, settled⟩

theorem followAlias_of_path (steps : Nat) (ref resolved : TypeRef)
    (path : Relation.ReflTransGen model.Aliases ref resolved) (settled : model.Settled resolved)
    (enough : (model.passed model.Aliases ref).ncard < steps) :
    model.followAlias steps ref = some resolved := by
  induction steps generalizing ref with
  | zero => omega
  | succ steps ih =>
      rcases Relation.ReflTransGen.cases_head path with rfl | ⟨actual, aliases, rest⟩
      · exact model.followAlias_settled ref settled steps
      · rw [model.followAlias_aliases ref actual aliases]
        apply ih actual rest
        have kept := model.not_lost_of_settled ref resolved settled path
        have lower :=
          model.passed_lt model.Aliases model.aliases_byName ref actual aliases kept
        omega

theorem resolveAlias_iff (ref resolved : TypeRef) :
    model.resolveAlias ref = some resolved ↔
      Relation.ReflTransGen model.Aliases ref resolved ∧ model.Settled resolved := by
  constructor
  · exact model.followAlias_end _ ref resolved
  · rintro ⟨path, settled⟩
    exact model.followAlias_of_path _ ref resolved path settled
      (model.passed_bounded model.Aliases ref)

theorem resolveAlias_eq_none (ref : TypeRef) :
    model.resolveAlias ref = none ↔ model.Lost model.Aliases ref := by
  constructor
  · intro none
    by_contra kept
    obtain ⟨resolved, path, settled⟩ := model.settled_exists ref kept
    have found := (model.resolveAlias_iff ref resolved).mpr ⟨path, settled⟩
    simp [none] at found
  · intro lost
    cases found : model.resolveAlias ref with
    | none => rfl
    | some resolved =>
        obtain ⟨path, settled⟩ := (model.resolveAlias_iff ref resolved).mp found
        exact absurd lost (model.not_lost_of_settled ref resolved settled path)

/-- The second reference takes the place of the first: an alias is replaced by its target, an
array by its elements. -/
def Unfolds (ref next : TypeRef) : Prop :=
  ∃ id, model.Names ref id (.alias next) ∨ model.Names ref id (.array next)

theorem unfolds_byName : model.ByName model.Unfolds where
  source := by
    rintro ref next ⟨id, ⟨named, definition, found, _⟩ | ⟨named, definition, found, _⟩⟩
    · exact ⟨id, named, Option.isSome_of_eq_some found⟩
    · exact ⟨id, named, Option.isSome_of_eq_some found⟩
  shared := by
    rintro ref other next same ⟨id, ⟨named, rest⟩ | ⟨named, rest⟩⟩
    · exact ⟨id, Or.inl ⟨same ▸ named, rest⟩⟩
    · exact ⟨id, Or.inr ⟨same ▸ named, rest⟩⟩
  unique := by
    rintro ref next other ⟨id, first⟩ ⟨otherId, second⟩
    rcases first with aliased | array
    · rcases second with otherAliased | otherArray
      · simpa using (model.names_unique ref id otherId _ _ aliased otherAliased).2
      · simpa using (model.names_unique ref id otherId _ _ aliased otherArray).2
    · rcases second with otherAliased | otherArray
      · simpa using (model.names_unique ref id otherId _ _ array otherAliased).2
      · simpa using (model.names_unique ref id otherId _ _ array otherArray).2

theorem unfolds_of_aliases (ref actual : TypeRef) (aliases : model.Aliases ref actual) :
    model.Unfolds ref actual := by
  obtain ⟨id, names⟩ := aliases
  exact ⟨id, Or.inl names⟩

theorem unfolds_of_array (ref : TypeRef) (id : TypeId) (element : TypeRef)
    (names : model.Names ref id (.array element)) : model.Unfolds ref element :=
  ⟨id, Or.inr names⟩

theorem unfolds_end (ref : TypeRef) (unnamed : ∀ id, ref.kind ≠ .derived id) (next : TypeRef) :
    ¬ model.Unfolds ref next := by
  intro unfolds
  obtain ⟨id, named, _⟩ := model.unfolds_byName.source ref next unfolds
  exact unnamed id named

theorem not_lost_of_valuesHave (ref : TypeRef) (type : ValueType)
    (values : model.ValuesHave ref type) : ¬ model.Lost model.Unfolds ref := by
  induction values with
  | aliased ref actual type aliases inner ih =>
      intro lost
      exact ih (model.lost_next model.Unfolds model.unfolds_byName ref actual
        (model.unfolds_of_aliases ref actual aliases) lost)
  | primitive ref primitive type kind holds =>
      apply model.not_lost_of_end model.Unfolds ref (by simp [Resolves, kind])
      exact model.unfolds_end ref (by simp [kind])
  | interval ref least greatest kind =>
      apply model.not_lost_of_end model.Unfolds ref (by simp [Resolves, kind])
      exact model.unfolds_end ref (by simp [kind])
  | array ref id element type names inner ih =>
      intro lost
      exact ih (model.lost_next model.Unfolds model.unfolds_byName ref element
        (model.unfolds_of_array ref id element names) lost)
  | named ref id kind names final single =>
      have settled := model.settled_of_names ref id kind names final
      apply model.not_lost_of_end model.Unfolds ref settled.resolves
      -- no step leads on from a type that is neither an alias nor an array
      rintro next ⟨other, aliased | array⟩
      · exact settled.final next ⟨other, aliased⟩
      · exact single next (model.names_unique ref id other _ _ names array).2

theorem valuesHave_exists (ref : TypeRef) (kept : ¬ model.Lost model.Unfolds ref) :
    ∃ type, model.ValuesHave ref type := by
  apply model.walk_induction model.Unfolds model.unfolds_byName _ _ ref kept
  intro ref resolves next
  cases kind : ref.kind with
  | primitive primitive =>
      exact ⟨_, .primitive ref primitive _ kind ((primitive.holds_iff _).mpr rfl)⟩
  | interval least greatest => exact ⟨_, .interval ref least greatest kind⟩
  | derived id =>
      obtain ⟨definition, names⟩ := model.names_of_resolves ref id resolves kind
      cases definition with
      | «alias» actual =>
          obtain ⟨type, values⟩ := next actual ⟨id, Or.inl names⟩
          exact ⟨type, .aliased ref actual type ⟨id, names⟩ values⟩
      | array element =>
          obtain ⟨type, values⟩ := next element ⟨id, Or.inr names⟩
          exact ⟨.array type, .array ref id element type names values⟩
      | _ => exact ⟨_, .named ref id _ names (by simp) (by simp)⟩

theorem settled_of_valuesHave (ref : TypeRef) (type : ValueType)
    (values : model.ValuesHave ref type) :
    ∃ resolved, Relation.ReflTransGen model.Aliases ref resolved ∧ model.Settled resolved ∧
      model.ValuesHave resolved type := by
  induction values with
  | aliased ref actual type aliases inner ih =>
      obtain ⟨resolved, path, rest⟩ := ih
      exact ⟨resolved, .head aliases path, rest⟩
  | primitive ref primitive type kind holds =>
      exact ⟨ref, .refl, model.settled_of_underived ref (by simp [kind]),
        .primitive ref primitive type kind holds⟩
  | interval ref least greatest kind =>
      exact ⟨ref, .refl, model.settled_of_underived ref (by simp [kind]),
        .interval ref least greatest kind⟩
  | array ref id element type names inner _ =>
      exact ⟨ref, .refl, model.settled_of_names ref id _ names (by simp),
        .array ref id element type names inner⟩
  | named ref id kind names final single =>
      exact ⟨ref, .refl, model.settled_of_names ref id kind names final,
        .named ref id kind names final single⟩

-- Aliases do not count here, so it is the arrays alone that each need a level of their own.
theorem valueTypeWithin_of_valuesHave (levels : Nat) (ref : TypeRef) (type : ValueType)
    (values : model.ValuesHave ref type)
    (enough : (model.passed model.Unfolds ref).ncard < levels) :
    model.valueTypeWithin levels ref = some type := by
  induction levels generalizing ref type with
  | zero => omega
  | succ levels ih =>
      obtain ⟨resolved, path, settled, ends⟩ := model.settled_of_valuesHave ref type values
      have resolution := (model.resolveAlias_iff ref resolved).mpr ⟨path, settled⟩
      have nearer := model.passed_le model.Unfolds ref resolved
        (Relation.ReflTransGen.mono model.unfolds_of_aliases ref resolved path)
      have kept := model.not_lost_of_valuesHave resolved type ends
      cases ends with
      | aliased _ actual _ aliases _ => exact absurd aliases (settled.final actual)
      | primitive _ primitive _ kind holds =>
          simp [valueTypeWithin, resolution, kind, (primitive.holds_iff type).mp holds]
      | interval _ least greatest kind => simp [valueTypeWithin, resolution, kind]
      | array _ id element inner names ofElement =>
          -- the array itself is not passed again, so there is a level less to cover
          have lower := model.passed_lt model.Unfolds model.unfolds_byName resolved element
            (model.unfolds_of_array resolved id element names) kept
          have below := ih element inner ofElement (by omega)
          obtain ⟨named, definition, found, shape⟩ := names
          simp [valueTypeWithin, resolution, named, found, shape, below]
      | named _ id kind names final single =>
          obtain ⟨named, definition, found, rfl⟩ := names
          cases shape : definition.kind with
          | array element => exact absurd shape (single element)
          | _ => simp [valueTypeWithin, resolution, named, found, shape]

theorem valueType_iff (declared : DeclaredType) (type : ValueType) :
    model.valueType declared = some type ↔ model.DeclaredValuesHave declared type := by
  refine ⟨model.declaredValuesHave_of_valueType declared type, fun values => ?_⟩
  cases values with
  | single ref _ values =>
      exact model.valueTypeWithin_of_valuesHave _ ref type values
        (model.passed_bounded model.Unfolds ref)
  | items ref inner values =>
      have reached := model.valueTypeWithin_of_valuesHave _ ref inner values
        (model.passed_bounded model.Unfolds ref)
      simp [valueType, reached]

theorem valueType_eq_none (declared : DeclaredType) :
    model.valueType declared = none ↔ model.Lost model.Unfolds declared.ref := by
  obtain ⟨ref, isArray⟩ := declared
  constructor
  · intro none
    by_contra kept
    obtain ⟨type, values⟩ := model.valuesHave_exists ref kept
    cases isArray with
    | false => simp [(model.valueType_iff ⟨ref, false⟩ type).mpr (.single ref type values)] at none
    | true =>
        simp [(model.valueType_iff ⟨ref, true⟩ (.array type)).mpr (.items ref type values)] at none
  · intro lost
    cases typed : model.valueType ⟨ref, isArray⟩ with
    | none => rfl
    | some type =>
        cases (model.valueType_iff ⟨ref, isArray⟩ type).mp typed with
        | single _ _ values => exact absurd lost (model.not_lost_of_valuesHave ref type values)
        | items _ inner values =>
            exact absurd lost (model.not_lost_of_valuesHave ref inner values)

theorem resolveAlias_of_valueType (declared : DeclaredType) (type : ValueType)
    (typed : model.valueType declared = some type) :
    ∃ resolved, model.resolveAlias declared.ref = some resolved := by
  have found : ∃ inner, model.ValuesHave declared.ref inner := by
    cases (model.valueType_iff declared type).mp typed with
    | single ref _ values => exact ⟨type, values⟩
    | items ref inner values => exact ⟨inner, values⟩
  obtain ⟨inner, values⟩ := found
  obtain ⟨resolved, path, settled, _⟩ := model.settled_of_valuesHave declared.ref inner values
  exact ⟨resolved, (model.resolveAlias_iff declared.ref resolved).mpr ⟨path, settled⟩⟩

end Model

namespace Check

variable (model : Model)

theorem acyclic_of_unreported (unreported : ∀ id, id ∉ reportedTypes (checkModel model))
    (id : TypeId) : ¬ Relation.TransGen model.DependsOn id id := by
  intro cycle
  apply unreported id
  rw [reportedTypes_checkModel, reportedTypes_dependencyFindings]
  exact (mem_cyclicTypes model id).mpr cycle

/-- The check of a value against the type has nothing to hold it against: aliases lead nowhere, or
to a type that is missing, or the type of the values is not found. -/
def LetsThrough (ref : TypeRef) : Prop :=
  model.resolveAlias ref = none ∨
    (∃ resolved, model.resolveAlias ref = some resolved ∧ wanted model resolved = .anything) ∨
    ∃ isArray, model.valueType ⟨ref, isArray⟩ = none

theorem not_letsThrough (linked : model.Linked)
    (acyclic : ∀ id, ¬ Relation.TransGen model.DependsOn id id) (ref : TypeRef)
    (resolves : model.Resolves ref) : ¬ LetsThrough model ref := by
  rintro (none | ⟨resolved, found, any⟩ | ⟨isArray, untyped⟩)
  · obtain ⟨type, typed⟩ := model.valueType_exists linked acyclic ⟨ref, false⟩ resolves
    obtain ⟨resolved, found⟩ := model.resolveAlias_of_valueType ⟨ref, false⟩ type typed
    simp [none] at found
  · have settled := ((model.resolveAlias_iff ref resolved).mp found).2
    exact wanted_ne_anything model resolved settled any
  · obtain ⟨type, typed⟩ := model.valueType_exists linked acyclic ⟨ref, isArray⟩ resolves
    simp [untyped] at typed

/-- The type of values is the one at the end of the walk over aliases and arrays, and there is none
if the walk goes round in a circle or out of the model. So a linked model whose types are in order
has a type for each of its references, and where a value is let through for want of a type, a
circle of types is reported. -/
theorem valueType_walk :
    (∀ declared type,
      model.valueType declared = some type ↔ model.DeclaredValuesHave declared type) ∧
    (∀ declared, model.valueType declared = none ↔ model.Lost model.Unfolds declared.ref) ∧
    (model.Linked → ∀ order, typeOrder model = .ok order → ∀ site ∈ model.typeSites,
      (model.resolveAlias site.ref).isSome ∧
        ∀ isArray, (model.valueType ⟨site.ref, isArray⟩).isSome) ∧
    (model.Linked → ∀ ref, model.Resolves ref → LetsThrough model ref →
      ∃ id, id ∈ reportedTypes (checkModel model)) := by
  refine ⟨model.valueType_iff, model.valueType_eq_none, ?_, ?_⟩
  · intro linked order ordered site listed
    have acyclic := (typeOrder_exists model).mp ⟨order, ordered⟩
    have resolves := model.typeSite_resolves linked site listed
    have known := not_letsThrough model linked acyclic site.ref resolves
    constructor
    · rw [Option.isSome_iff_ne_none]
      exact fun none => known (Or.inl none)
    · intro isArray
      rw [Option.isSome_iff_ne_none]
      exact fun untyped => known (Or.inr (Or.inr ⟨isArray, untyped⟩))
  · intro linked ref resolves through
    -- without a report there is no circle, so nothing would be let through
    by_contra unreported
    have acyclic := acyclic_of_unreported model (not_exists.mp unreported)
    exact not_letsThrough model linked acyclic ref resolves through

/-- Two aliases and two arrays in a row, so that the walk passes every type there is. -/
def grid : Model where
  name := "grid"
  collections := [⟨"Grids", .unknown, [], [⟨0⟩, ⟨1⟩, ⟨2⟩, ⟨3⟩], [⟨0⟩]⟩]
  interfaces := []
  types :=
    [bareType "Board" (.alias (.derived ⟨1⟩)),
      bareType "Rows" (.array (.derived ⟨2⟩)),
      bareType "Row" (.array (.derived ⟨3⟩)),
      bareType "Cell" (.alias (.primitive .int8))]
  constants := [bareConstant "EMPTY" (.derived ⟨0⟩) (.bracket [])]

theorem grid_values : grid.ValuesHave (.derived ⟨0⟩) (.array (.array .integer)) :=
  .aliased _ _ _ ⟨⟨0⟩, rfl, _, rfl, rfl⟩
    (.array _ ⟨1⟩ _ _ ⟨rfl, _, rfl, rfl⟩
      (.array _ ⟨2⟩ _ _ ⟨rfl, _, rfl, rfl⟩
        (.aliased _ _ _ ⟨⟨3⟩, rfl, _, rfl, rfl⟩
          (.primitive _ .int8 _ rfl (.integer _ (by decide))))))

theorem grid_valueType :
    grid.valueType ⟨.derived ⟨0⟩, true⟩ = some (.array (.array (.array .integer))) ∧
      grid.Linked ∧ typeOrder grid = .ok [⟨3⟩, ⟨2⟩, ⟨1⟩, ⟨0⟩] ∧
      (grid.resolveAlias (.derived ⟨0⟩)).isSome ∧
      (¬ ∃ id, id ∈ reportedTypes (checkModel grid)) ∧ ¬ LetsThrough grid (.derived ⟨0⟩) := by
  obtain ⟨typed, _, resolved, reported⟩ := valueType_walk grid
  have linked : grid.Linked := rfl
  have ordered : typeOrder grid = .ok [⟨3⟩, ⟨2⟩, ⟨1⟩, ⟨0⟩] := rfl
  let site : TypeSite := ⟨.constant ⟨0⟩, .collection ⟨0⟩, .derived ⟨0⟩⟩
  have listed : site ∈ grid.typeSites := List.mem_of_getElem? (i := 4) rfl
  have none : ¬ ∃ id, id ∈ reportedTypes (checkModel grid) := by
    rintro ⟨id, member⟩
    exact List.not_mem_nil member
  have resolves := grid.typeSite_resolves linked site listed
  refine ⟨(typed _ _).mpr (.items _ _ grid_values), linked, ordered,
    (resolved linked _ ordered site listed).1, none, ?_⟩
  exact fun through => none (reported linked _ resolves through)

-- A circle of an alias and an array has no type, however far one goes.
example : Model.valueType { grid with types := [bareType "Loop" (.alias (.derived ⟨1⟩)),
    bareType "Turn" (.array (.derived ⟨0⟩))] } ⟨.derived ⟨0⟩, false⟩ = none := by decide

end Check

end FrancaAudit
