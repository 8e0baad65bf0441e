import FrancaAudit.Check.ValueType
import FrancaAudit.Proofs.Check.Dependency

/-!
What a reference stands for, and how far one has to go to find out.

Where no type depends on itself, every type has a level above the levels of all types it depends
on. There are no more levels than types, which is why the look-ups below end in time.
-/

namespace FrancaAudit

namespace Model

variable (model : Model)

def Names (ref : TypeRef) (id : TypeId) (kind : TypeKind) : Prop :=
  ref.kind = .derived id ∧ ∃ definition, model.type? id = some definition ∧ definition.kind = kind

def Aliases (ref actual : TypeRef) : Prop := ∃ id, model.Names ref id (.alias actual)

def Resolves (ref : TypeRef) : Prop :=
  ∀ id, ref.kind = .derived id → (model.type? id).isSome

theorem names_unique (ref : TypeRef) (id other : TypeId) (kind otherKind : TypeKind)
    (first : model.Names ref id kind) (second : model.Names ref other otherKind) :
    id = other ∧ kind = otherKind := by
  obtain ⟨named, definition, found, rfl⟩ := first
  obtain ⟨otherNamed, otherDefinition, otherFound, rfl⟩ := second
  obtain rfl : id = other := by simpa [named] using otherNamed
  obtain rfl : definition = otherDefinition := by simpa [found] using otherFound
  exact ⟨rfl, rfl⟩

theorem names_of_resolves (ref : TypeRef) (id : TypeId) (resolves : model.Resolves ref)
    (named : ref.kind = .derived id) : ∃ kind, model.Names ref id kind := by
  obtain ⟨definition, found⟩ := Option.isSome_iff_exists.mp (resolves id named)
  exact ⟨definition.kind, named, definition, found, rfl⟩

structure Settled (ref : TypeRef) : Prop where
  resolves : model.Resolves ref
  final : ∀ actual, ¬ model.Aliases ref actual

theorem followAlias_aliases (ref actual : TypeRef) (aliases : model.Aliases ref actual)
    (steps : Nat) : model.followAlias (steps + 1) ref = model.followAlias steps actual := by
  obtain ⟨id, named, definition, found, kind⟩ := aliases
  simp [followAlias, named, found, kind]

theorem followAlias_settled (ref : TypeRef) (settled : model.Settled ref) (steps : Nat) :
    model.followAlias (steps + 1) ref = some ref := by
  cases named : ref.kind with
  | primitive primitive => simp [followAlias, named]
  | interval lower upper => simp [followAlias, named]
  | derived id =>
      obtain ⟨definition, found⟩ := Option.isSome_iff_exists.mp (settled.resolves id named)
      cases kind : definition.kind with
      | «alias» actual =>
          exact absurd ⟨id, named, definition, found, kind⟩ (settled.final actual)
      | _ => simp [followAlias, named, found, kind]

theorem aliases_or_settled (ref : TypeRef) (resolves : model.Resolves ref) :
    (∃ actual, model.Aliases ref actual) ∨ model.Settled ref := by
  by_cases aliased : ∃ actual, model.Aliases ref actual
  · exact Or.inl aliased
  · exact Or.inr ⟨resolves, fun actual aliases => aliased ⟨actual, aliases⟩⟩

theorem resolveAlias_settled (ref : TypeRef) (settled : model.Settled ref) :
    model.resolveAlias ref = some ref :=
  followAlias_settled model ref settled model.types.length

theorem settled_of_underived (ref : TypeRef) (underived : ∀ id, ref.kind ≠ .derived id) :
    model.Settled ref :=
  ⟨fun id named => absurd named (underived id), fun _ ⟨id, names⟩ => underived id names.1⟩

theorem settled_of_names (ref : TypeRef) (id : TypeId) (kind : TypeKind)
    (names : model.Names ref id kind) (final : ∀ actual, kind ≠ .alias actual) :
    model.Settled ref where
  resolves := by
    obtain ⟨named, definition, found, _⟩ := names
    intro other same
    obtain rfl : id = other := by simpa [named] using same
    exact Option.isSome_of_eq_some found
  final := by
    rintro actual ⟨other, otherNames⟩
    exact final actual (model.names_unique ref id other kind _ names otherNames).2

theorem aliases_rightUnique : Relator.RightUnique model.Aliases := by
  rintro ref actual other ⟨id, names⟩ ⟨otherId, otherNames⟩
  exact TypeKind.alias.inj (model.names_unique ref id otherId _ _ names otherNames).2

theorem settled_end (ref other : TypeRef) (settled : model.Settled ref)
    (path : Relation.ReflTransGen model.Aliases ref other) : ref = other := by
  rcases Relation.ReflTransGen.cases_head path with same | ⟨actual, aliases, _⟩
  · exact same
  · exact absurd aliases (settled.final actual)

theorem settled_unique (ref first second : TypeRef) (settledFirst : model.Settled first)
    (settledSecond : model.Settled second)
    (toFirst : Relation.ReflTransGen model.Aliases ref first)
    (toSecond : Relation.ReflTransGen model.Aliases ref second) : first = second := by
  rcases Relation.ReflTransGen.total_of_right_unique model.aliases_rightUnique toFirst toSecond with
    path | path
  · exact model.settled_end first second settledFirst path
  · exact (model.settled_end second first settledSecond path).symm

/-- A type stands above all types it depends on, and no level is greater than there are types. -/
structure Levels (level : TypeId → Nat) : Prop where
  descends : ∀ id target, model.DependsOn id target → level target < level id
  bounded : ∀ id, (model.type? id).isSome → level id < model.types.length

theorem levels_exist (linked : model.Linked)
    (acyclic : ∀ id, ¬ Relation.TransGen model.DependsOn id id) : ∃ level, model.Levels level := by
  obtain ⟨order, found⟩ := (Check.typeOrder_exists model).mpr acyclic
  obtain ⟨unique, complete, ahead⟩ := Check.typeOrder_respects model linked order found
  refine ⟨order.idxOf, ahead, ?_⟩
  intro id known
  -- the order holds as many types as the model, so no position reaches that number
  have same : order.Perm model.typeIds := by
    refine (List.perm_ext_iff_of_nodup unique (Check.typeIds_nodup model)).mpr ?_
    intro other
    rw [complete, mem_typeIds]
  have count : order.length = model.types.length := by simpa [typeIds] using same.length_eq
  rw [← count]
  exact List.idxOf_lt_length_of_mem ((complete id).mpr known)

def height (level : TypeId → Nat) (ref : TypeRef) : Nat :=
  match ref.kind with
  | .derived id => level id + 1
  | _ => 0

variable (linked : model.Linked) (level : TypeId → Nat) (levels : model.Levels level)

include levels

theorem height_bounded (ref : TypeRef) (resolves : model.Resolves ref) :
    height level ref < model.types.length + 1 := by
  cases named : ref.kind with
  | derived id =>
      have bound := levels.bounded id (resolves id named)
      simpa [height, named] using bound
  | _ => simp [height, named]

theorem height_memberRef (ref member : TypeRef) (id : TypeId) (kind : TypeKind)
    (names : model.Names ref id kind) (used : member ∈ kind.memberRefs) :
    height level member < height level ref := by
  obtain ⟨named, definition, found, rfl⟩ := names
  cases target : member.kind with
  | derived other =>
      have step := Check.dependsOn_of_memberRef model id other definition member found used target
      have lower := levels.descends id other step
      simpa [height, named, target] using lower
  | _ => simp [height, named, target]

omit levels
include linked

theorem memberRef_resolves (ref member : TypeRef) (id : TypeId) (kind : TypeKind)
    (names : model.Names ref id kind) (used : member ∈ kind.memberRefs) :
    model.Resolves member := by
  obtain ⟨_, definition, found, rfl⟩ := names
  intro target named
  exact linked_memberRef model linked id definition member target found used
    ((derivedId?_eq_some member target).mpr named)

theorem typeSite_resolves (site : TypeSite) (member : site ∈ model.typeSites) :
    model.Resolves site.ref := by
  intro id named
  exact linked_typeSite model linked site member id ((derivedId?_eq_some site.ref id).mpr named)

theorem field_resolves (owner : TypeId) (index : Nat) (field : Field)
    (located : model.field? owner index = some field) : model.Resolves field.type.ref := by
  obtain ⟨definition, found, placed⟩ := Option.bind_eq_some_iff.mp located
  have used := field_memberRef definition.kind index field
    ((definition.kind.fields_eq_some index field).mp placed)
  intro target named
  exact linked_memberRef model linked owner definition field.type.ref target found used
    ((derivedId?_eq_some field.type.ref target).mpr named)

include levels

-- Each alias on the way stands lower than the one before, so a step less is still enough.
theorem followAlias_resolved (steps : Nat) (ref : TypeRef) (resolves : model.Resolves ref)
    (enough : height level ref < steps) :
    ∃ resolved, model.followAlias steps ref = some resolved ∧
      Relation.ReflTransGen model.Aliases ref resolved ∧ model.Settled resolved ∧
      height level resolved ≤ height level ref := by
  induction steps generalizing ref with
  | zero => omega
  | succ steps ih =>
      rcases aliases_or_settled model ref resolves with ⟨actual, aliases⟩ | settled
      · obtain ⟨id, names⟩ := aliases
        have used : actual ∈ (TypeKind.alias actual).memberRefs := List.mem_singleton.mpr rfl
        have lower := height_memberRef model level levels ref actual id _ names used
        obtain ⟨resolved, found, path, settled, bound⟩ := ih actual
          (memberRef_resolves model linked ref actual id _ names used) (by omega)
        refine ⟨resolved, ?_, .head ⟨id, names⟩ path, settled, by omega⟩
        rw [followAlias_aliases model ref actual ⟨id, names⟩]
        exact found
      · exact ⟨ref, followAlias_settled model ref settled steps, .refl, settled, Nat.le_refl _⟩

theorem resolveAlias_resolved (ref : TypeRef) (resolves : model.Resolves ref) :
    ∃ resolved, model.resolveAlias ref = some resolved ∧
      Relation.ReflTransGen model.Aliases ref resolved ∧ model.Settled resolved ∧
      height level resolved ≤ height level ref :=
  followAlias_resolved model linked level levels _ ref resolves
    (height_bounded model level levels ref resolves)

theorem resolveAlias_eq_some (ref resolved : TypeRef) (resolves : model.Resolves ref) :
    model.resolveAlias ref = some resolved ↔
      Relation.ReflTransGen model.Aliases ref resolved ∧ model.Settled resolved := by
  obtain ⟨final, found, path, settled, _⟩ :=
    resolveAlias_resolved model linked level levels ref resolves
  rw [found, Option.some.injEq]
  constructor
  · rintro rfl
    exact ⟨path, settled⟩
  · rintro ⟨toResolved, settledResolved⟩
    exact model.settled_unique ref final resolved settled settledResolved path toResolved

theorem valueTypeWithin_isSome (steps : Nat) (ref : TypeRef) (resolves : model.Resolves ref)
    (enough : height level ref < steps) : (model.valueTypeWithin steps ref).isSome := by
  induction steps generalizing ref with
  | zero => omega
  | succ steps ih =>
      obtain ⟨resolved, found, _, settled, bound⟩ :=
        resolveAlias_resolved model linked level levels ref resolves
      cases named : resolved.kind with
      | primitive primitive => simp [valueTypeWithin, found, named]
      | interval lower upper => simp [valueTypeWithin, found, named]
      | derived id =>
          obtain ⟨definition, known⟩ := Option.isSome_iff_exists.mp (settled.resolves id named)
          cases kind : definition.kind with
          | array element =>
              have names : model.Names resolved id (.array element) :=
                ⟨named, definition, known, kind⟩
              have used : element ∈ (TypeKind.array element).memberRefs :=
                List.mem_singleton.mpr rfl
              have lower := height_memberRef model level levels resolved element id _ names used
              have inner := ih element
                (memberRef_resolves model linked resolved element id _ names used) (by omega)
              simpa [valueTypeWithin, found, named, known, kind] using inner
          | _ => simp [valueTypeWithin, found, named, known, kind]

theorem valueType_isSome (type : DeclaredType) (resolves : model.Resolves type.ref) :
    (model.valueType type).isSome := by
  have some := valueTypeWithin_isSome model linked level levels _ type.ref resolves
    (height_bounded model level levels type.ref resolves)
  unfold valueType
  split
  · simpa using some
  · exact some

end Model

end FrancaAudit
