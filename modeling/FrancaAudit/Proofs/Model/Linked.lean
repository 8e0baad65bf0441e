import FrancaAudit.Model.Linked
import FrancaAudit.Proofs.Model.Definition

/-!
What a linked model guarantees: whoever follows a reference in it arrives somewhere.
-/

namespace FrancaAudit.Model

theorem mem_placed {α β : Type} (items : List α) (place : Nat → α → List β) (found : β) :
    found ∈ placed items place ↔
      ∃ index item, items[index]? = some item ∧ found ∈ place index item := by
  simp only [placed, List.mem_flatMap, Prod.exists, List.mk_mem_zipIdx_iff_getElem?]
  exact exists_comm

theorem forall_mem_placed {α β : Type} (items : List α) (place : Nat → α → List β)
    (holds : β → Prop) :
    (∀ found ∈ placed items place, holds found) ↔
      ∀ index item, items[index]? = some item → ∀ found ∈ place index item, holds found := by
  simp only [mem_placed, forall_exists_index, and_imp]
  exact ⟨fun all index item located found member => all found index item located member,
    fun all found index item located member => all index item located found member⟩

theorem placed_eq_nil {α β : Type} (items : List α) (place : Nat → α → List β) :
    placed items place = [] ↔ ∀ index item, items[index]? = some item → place index item = [] := by
  simp only [placed, List.flatMap_eq_nil_iff, Prod.forall, List.mk_mem_zipIdx_iff_getElem?]
  exact forall_comm

theorem forall_getElem?_iff {α : Type} (items : List α) (holds : α → Prop) :
    (∀ (index : Nat) item, items[index]? = some item → holds item) ↔
      ∀ item ∈ items, holds item := by
  simp only [List.mem_iff_getElem?, forall_exists_index]
  exact forall_comm

variable (model : Model)

theorem mem_typeIds (id : TypeId) : id ∈ model.typeIds ↔ (model.type? id).isSome := by
  obtain ⟨index⟩ := id
  simp [typeIds, type?]

theorem mem_interfaceIds (id : InterfaceId) :
    id ∈ model.interfaceIds ↔ (model.interface? id).isSome := by
  obtain ⟨index⟩ := id
  simp [interfaceIds, interface?]

theorem missing_eq_nil {α : Type} (target : Option α) (dangling : DanglingRef) :
    missing target dangling = [] ↔ target.isSome := by
  cases target <;> simp [missing]

theorem missing_all_eq_nil {α β : Type} (ids : List α) (target : α → Option β)
    (dangling : α → DanglingRef) :
    (ids.flatMap fun id => missing (target id) (dangling id)) = [] ↔
      ∀ id ∈ ids, (target id).isSome := by
  simp only [List.flatMap_eq_nil_iff, missing_eq_nil]

theorem linked_iff :
    model.Linked ↔
      (∀ collection ∈ model.collections, model.danglingOfCollection collection = []) ∧
      (∀ interface ∈ model.interfaces, model.danglingOfInterface interface = []) ∧
      (∀ definition ∈ model.types, model.danglingOfType definition = []) ∧
      (∀ definition ∈ model.constants,
        model.danglingOwner ("const " ++ definition.name) definition.owner = []) ∧
      (∀ site ∈ model.typeSites, model.danglingOfTypeSite site = []) ∧
      ∀ site ∈ model.exprSites, model.danglingOfExprSite site = [] := by
  simp only [Linked, danglingRefs, List.append_eq_nil_iff, List.flatMap_eq_nil_iff, and_assoc]

theorem fieldRef_typeSite (id : TypeId) (context : Owner) (fields : List Field) (ref : TypeRef)
    (used : ref ∈ fields.map (·.type.ref)) :
    ∃ site ∈ placed fields fun index field =>
      [(⟨.field id index, context, field.type.ref⟩ : TypeSite)], site.ref = ref := by
  obtain ⟨field, member, rfl⟩ := List.mem_map.mp used
  obtain ⟨index, position⟩ := List.getElem?_of_mem member
  exact ⟨⟨.field id index, context, field.type.ref⟩,
    (mem_placed ..).mpr ⟨index, field, position, List.mem_singleton.mpr rfl⟩, rfl⟩

theorem memberRef_typeSiteOfType (id : TypeId) (definition : TypeDef) (ref : TypeRef)
    (used : ref ∈ definition.kind.memberRefs) :
    ∃ site ∈ typeSitesOfType id definition, site.ref = ref := by
  unfold typeSitesOfType
  cases kind : definition.kind with
  | struct base polymorphic fields =>
      rw [kind] at used
      exact fieldRef_typeSite id definition.owner fields ref used
  | union base fields =>
      rw [kind] at used
      exact fieldRef_typeSite id definition.owner fields ref used
  | enumeration base enumerators =>
      rw [kind] at used
      exact absurd used List.not_mem_nil
  | array element =>
      rw [kind] at used
      exact ⟨_, List.mem_map_of_mem used, rfl⟩
  | map key value =>
      rw [kind] at used
      exact ⟨_, List.mem_map_of_mem used, rfl⟩
  | «alias» actual =>
      rw [kind] at used
      exact ⟨_, List.mem_map_of_mem used, rfl⟩

theorem memberRef_typeSite (id : TypeId) (definition : TypeDef) (ref : TypeRef)
    (found : model.type? id = some definition) (used : ref ∈ definition.kind.memberRefs) :
    ∃ site ∈ model.typeSites, site.ref = ref := by
  obtain ⟨site, member, same⟩ := memberRef_typeSiteOfType id definition ref used
  refine ⟨site, ?_, same⟩
  simp only [typeSites, List.mem_append]
  exact Or.inl (Or.inl ((mem_placed ..).mpr ⟨id.index, definition, found, member⟩))

variable (linked : model.Linked)

include linked

theorem linked_typeSite (site : TypeSite) (member : site ∈ model.typeSites) (target : TypeId)
    (named : site.ref.derivedId? = some target) : (model.type? target).isSome := by
  have resolved := ((linked_iff model).mp linked).2.2.2.2.1 site member
  simpa [danglingOfTypeSite, danglingTypes, named, missing_eq_nil] using resolved

theorem linked_typeBase (id : TypeId) (definition : TypeDef) (base : TypeId)
    (found : model.type? id = some definition) (extended : definition.kind.HasBase base) :
    (model.type? base).isSome := by
  have resolved := ((linked_iff model).mp linked).2.2.1 definition (List.mem_of_getElem? found)
  have based := (List.append_eq_nil_iff.mp resolved).2
  simpa [(definition.kind.base?_eq_some base).mpr extended, missing_eq_nil] using based

theorem linked_interfaceBase (id : InterfaceId) (interface : Interface) (base : InterfaceId)
    (found : model.interface? id = some interface) (extended : interface.base = some base) :
    (model.interface? base).isSome := by
  have resolved := ((linked_iff model).mp linked).2.1 interface (List.mem_of_getElem? found)
  simp only [danglingOfInterface, List.append_eq_nil_iff] at resolved
  simpa [extended, missing_eq_nil] using resolved.1.1.1.1

theorem linked_memberRef (id : TypeId) (definition : TypeDef) (ref : TypeRef) (target : TypeId)
    (found : model.type? id = some definition) (used : ref ∈ definition.kind.memberRefs)
    (named : ref.derivedId? = some target) : (model.type? target).isSome := by
  obtain ⟨site, member, rfl⟩ := memberRef_typeSite model id definition ref found used
  exact linked_typeSite model linked site member target named

end FrancaAudit.Model
