import FrancaAudit.Proofs.Model.Linked
import Mathlib.Data.List.Nodup
import Mathlib.Logic.Relation

/-!
Chains of bases, and what a type inherits along them.

A chain ends where there is no base, or at an element that has been seen. In the second case all
that could still follow has been seen as well, so that nothing is left out on a cycle either.
-/

namespace FrancaAudit

def FieldInit.key (init : FieldInit) : TypeId × Nat := (init.owner, init.index)

namespace Model

section Chain

variable {α : Type} (next : α → Option α)

def Leads (first second : α) : Prop := next first = some second

/-- What has been seen leads on to what has been seen, or to the current element. -/
structure Trail (domain seen : List α) (current : Option α) : Prop where
  nodup : seen.Nodup
  inside : current.isSome → seen ⊆ domain
  closed : ∀ item ∈ seen, ∀ after, next item = some after → after ∈ seen ∨ current = some after

theorem trail_start (domain : List α) (starts : ∀ item, (next item).isSome → item ∈ domain)
    (id : α) : Trail next domain [id] (next id) where
  nodup := List.nodup_singleton id
  inside := fun more => List.cons_subset.mpr ⟨starts id more, List.nil_subset _⟩
  closed := by
    intro item member after step
    rw [List.mem_singleton.mp member] at step
    exact Or.inr step

theorem trail_cons (domain seen : List α) (current : α)
    (starts : ∀ item, (next item).isSome → item ∈ domain)
    (trail : Trail next domain seen (some current)) (fresh : current ∉ seen) :
    Trail next domain (current :: seen) (next current) where
  nodup := List.nodup_cons.mpr ⟨fresh, trail.nodup⟩
  inside := fun more => List.cons_subset.mpr ⟨starts current more, trail.inside rfl⟩
  closed := by
    intro item member after step
    rcases List.mem_cons.mp member with rfl | older
    · exact Or.inr step
    · rcases trail.closed item older after step with inside | same
      · exact Or.inl (List.mem_cons_of_mem current inside)
      · exact Or.inl (List.mem_cons.mpr (Or.inl (Option.some.inj same).symm))

-- From an element that was seen there is no way out of what was seen.
theorem trail_keeps (domain seen : List α) (current item : α)
    (trail : Trail next domain seen (some current)) (member : current ∈ seen)
    (path : Relation.ReflTransGen (Leads next) current item) : item ∈ seen := by
  induction path with
  | refl => exact member
  | tail _ step ih =>
      rcases trail.closed _ ih _ step with inside | same
      · exact inside
      · exact Option.some.inj same ▸ member

variable [DecidableEq α]

theorem mem_chain (domain : List α) (starts : ∀ item, (next item).isSome → item ∈ domain)
    (fuel : Nat) (seen : List α) (current : Option α) (trail : Trail next domain seen current)
    (enough : domain.length < fuel + seen.length) (item : α) :
    item ∈ chain next fuel seen current ↔
      item ∉ seen ∧
        ∃ start, current = some start ∧ Relation.ReflTransGen (Leads next) start item := by
  induction fuel generalizing seen current with
  | zero =>
      cases current with
      | none => simp [chain]
      | some start =>
          have bound := trail.nodup.length_le_of_subset (trail.inside rfl)
          omega
  | succ fuel ih =>
      cases current with
      | none => simp [chain]
      | some start =>
          by_cases member : start ∈ seen
          · simp only [chain, if_pos member, List.not_mem_nil, Option.some.injEq, exists_eq_left',
              false_iff, not_and]
            intro absent path
            exact absent (trail_keeps next domain seen start item trail member path)
          · have rest := ih (start :: seen) (next start)
              (trail_cons next domain seen start starts trail member)
              (by simp only [List.length_cons]; omega)
            simp only [chain, if_neg member, List.mem_cons, rest, Option.some.injEq,
              exists_eq_left', not_or]
            -- the element is the start, or the chain behind the start has it
            constructor
            · rintro (rfl | ⟨⟨_, absent⟩, after, step, path⟩)
              · exact ⟨member, .refl⟩
              · exact ⟨absent, .head step path⟩
            · rintro ⟨absent, path⟩
              rcases Relation.ReflTransGen.cases_head path with rfl | ⟨after, step, later⟩
              · exact Or.inl rfl
              · by_cases same : item = start
                · exact Or.inl same
                · exact Or.inr ⟨⟨same, absent⟩, after, step, later⟩

theorem chain_fresh (fuel : Nat) (seen : List α) (current : Option α) (item : α)
    (member : item ∈ chain next fuel seen current) : item ∉ seen := by
  induction fuel generalizing seen current with
  | zero => simp [chain] at member
  | succ fuel ih =>
      cases current with
      | none => simp [chain] at member
      | some start =>
          by_cases known : start ∈ seen
          · simp [chain, known] at member
          · rw [chain, if_neg known] at member
            rcases List.mem_cons.mp member with rfl | later
            · exact known
            · exact fun older => ih _ _ later (List.mem_cons_of_mem start older)

theorem chain_nodup (fuel : Nat) (seen : List α) (current : Option α) :
    (chain next fuel seen current).Nodup := by
  induction fuel generalizing seen current with
  | zero => simp [chain]
  | succ fuel ih =>
      cases current with
      | none => simp [chain]
      | some start =>
          by_cases known : start ∈ seen
          · simp [chain, known]
          · rw [chain, if_neg known]
            refine List.nodup_cons.mpr ⟨fun again => ?_, ih _ _⟩
            exact chain_fresh next _ _ _ _ again List.mem_cons_self

theorem mem_chain_start (domain : List α) (starts : ∀ item, (next item).isSome → item ∈ domain)
    (fuel : Nat) (enough : domain.length ≤ fuel) (id item : α) :
    item ∈ chain next (fuel + 1) [id] (next id) ↔
      item ≠ id ∧ Relation.TransGen (Leads next) id item := by
  rw [mem_chain next domain starts (fuel + 1) [id] _ (trail_start next domain starts id)
    (by rw [List.length_singleton]; omega), List.mem_singleton, Relation.TransGen.head'_iff]
  rfl

end Chain

variable (model : Model)

/-- The second type is the base of the first. -/
def TypeExtends (id base : TypeId) : Prop :=
  ∃ definition, model.type? id = some definition ∧ definition.kind.HasBase base

theorem typeBase?_eq_some (id base : TypeId) :
    model.typeBase? id = some base ↔ model.TypeExtends id base := by
  simp [typeBase?, TypeExtends, Option.bind_eq_some_iff, TypeKind.base?_eq_some]

theorem leads_typeBase : Leads model.typeBase? = model.TypeExtends := by
  funext id base
  exact propext (typeBase?_eq_some model id base)

theorem typeBase?_source (id : TypeId) (extended : (model.typeBase? id).isSome) :
    id ∈ model.typeIds := by
  obtain ⟨base, found⟩ := Option.isSome_iff_exists.mp extended
  obtain ⟨definition, known, _⟩ := (typeBase?_eq_some model id base).mp found
  exact (mem_typeIds model id).mpr (Option.isSome_of_eq_some known)

theorem mem_baseTypes (id base : TypeId) :
    base ∈ model.baseTypes id ↔ base ≠ id ∧ Relation.TransGen model.TypeExtends id base := by
  have enough : model.typeIds.length ≤ model.types.length := by simp [typeIds]
  rw [← leads_typeBase]
  exact mem_chain_start model.typeBase? model.typeIds (typeBase?_source model) _ enough id base

theorem inherits_iff (id owner : TypeId) :
    owner = id ∨ owner ∈ model.baseTypes id ↔
      Relation.ReflTransGen model.TypeExtends id owner := by
  rw [mem_baseTypes, Relation.reflTransGen_iff_eq_or_transGen]
  by_cases same : owner = id
  · simp [same]
  · simp [same]

theorem mem_ownFields (id : TypeId) (found : DeclaredField) :
    found ∈ model.ownFields id ↔
      found.owner = id ∧ model.field? found.owner found.index = some found.field := by
  obtain ⟨owner, index, field⟩ := found
  cases known : model.type? id with
  | none =>
      simp only [ownFields, known, List.not_mem_nil, false_iff, not_and]
      rintro rfl
      simp [field?, known]
  | some definition =>
      simp only [ownFields, known, List.mem_map, Prod.exists, List.mk_mem_zipIdx_iff_getElem?,
        DeclaredField.mk.injEq]
      constructor
      · rintro ⟨_, _, located, rfl, rfl, rfl⟩
        exact ⟨rfl, by simpa [field?, known] using located⟩
      · rintro ⟨rfl, located⟩
        exact ⟨field, index, by simpa [field?, known] using located, rfl, rfl, rfl⟩

theorem mem_allFields (id : TypeId) (found : DeclaredField) :
    found ∈ model.allFields id ↔
      Relation.ReflTransGen model.TypeExtends id found.owner ∧
        model.field? found.owner found.index = some found.field := by
  simp only [allFields, List.mem_flatMap, List.mem_append, List.mem_reverse, List.mem_singleton,
    mem_ownFields]
  rw [← inherits_iff]
  constructor
  · rintro ⟨owner, inherited, rfl, located⟩
    exact ⟨inherited.symm, located⟩
  · rintro ⟨inherited, located⟩
    exact ⟨found.owner, inherited.symm, rfl, located⟩

/-- The type has the field, of its own or from an ancestor. -/
def HasField (id owner : TypeId) (index : Nat) (field : Field) : Prop :=
  Relation.ReflTransGen model.TypeExtends id owner ∧ model.field? owner index = some field

/-- The initializers name the fields of the type, each once and nothing else. -/
def Covers (id : TypeId) (inits : List FieldInit) : Prop :=
  (inits.map FieldInit.key).Nodup ∧
    ∀ owner index, (owner, index) ∈ inits.map FieldInit.key ↔
      ∃ field, model.HasField id owner index field

end Model

end FrancaAudit
