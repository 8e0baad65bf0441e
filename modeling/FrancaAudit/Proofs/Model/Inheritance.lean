import FrancaAudit.Proofs.Check.Dependency
import FrancaAudit.Proofs.Model.Chain

/-!
Which interfaces an interface inherits from.

The walk along the bases stops at an interface that it has seen. On a cycle of inheritance it has
then seen all there is, so that it agrees with reachability whether or not there are cycles.
-/

namespace FrancaAudit.Model

variable (model : Model)

theorem interfaceBase?_eq_some (id base : InterfaceId) :
    model.interfaceBase? id = some base ↔ model.Extends id base := by
  simp [interfaceBase?, Extends, Option.bind_eq_some_iff]

theorem leads_interfaceBase : Leads model.interfaceBase? = model.Extends := by
  funext id base
  exact propext (interfaceBase?_eq_some model id base)

theorem interfaceBase?_source (id : InterfaceId) (extended : (model.interfaceBase? id).isSome) :
    id ∈ model.interfaceIds := by
  obtain ⟨base, found⟩ := Option.isSome_iff_exists.mp extended
  obtain ⟨interface, known, _⟩ := (interfaceBase?_eq_some model id base).mp found
  exact (mem_interfaceIds model id).mpr (Option.isSome_of_eq_some known)

theorem mem_baseInterfaces (id base : InterfaceId) :
    base ∈ model.baseInterfaces id ↔ base ≠ id ∧ Relation.TransGen model.Extends id base := by
  have enough : model.interfaceIds.length ≤ model.interfaces.length := by simp [interfaceIds]
  rw [← leads_interfaceBase]
  exact mem_chain_start model.interfaceBase? model.interfaceIds (interfaceBase?_source model) _
    enough id base

theorem mem_inheritanceSet (id base : InterfaceId) :
    base ∈ model.inheritanceSet id ↔ Relation.ReflTransGen model.Extends id base := by
  rw [inheritanceSet, List.mem_cons, mem_baseInterfaces, Relation.reflTransGen_iff_eq_or_transGen]
  by_cases same : base = id
  · simp [same]
  · simp [same]

theorem inheritanceSet_nodup (id : InterfaceId) : (model.inheritanceSet id).Nodup :=
  List.nodup_cons.mpr ⟨fun member => ((mem_baseInterfaces model id id).mp member).1 rfl,
    chain_nodup model.interfaceBase? _ _ _⟩

theorem extends_rightUnique : Relator.RightUnique model.Extends := by
  rintro id base other ⟨interface, found, extended⟩ ⟨_, again, extendedAgain⟩
  obtain rfl := Option.some.inj (found.symm.trans again)
  exact Option.some.inj (extended.symm.trans extendedAgain)

/-- What holds between every interface and each of its ancestors holds between any two interfaces
of a chain, since these are one an ancestor of the other. -/
theorem related_in_line (related : InterfaceId → InterfaceId → Prop)
    (symmetric : ∀ first second, related first second → related second first) :
    (∀ id base, Relation.ReflTransGen model.Extends id base → related id base) ↔
      ∀ id first second, Relation.ReflTransGen model.Extends id first →
        Relation.ReflTransGen model.Extends id second → related first second := by
  constructor
  · intro upwards id first second toFirst toSecond
    rcases Relation.ReflTransGen.total_of_right_unique model.extends_rightUnique toFirst toSecond
      with up | down
    · exact upwards first second up
    · exact symmetric second first (upwards second first down)
  · exact fun inLine id base path => inLine id id base .refl path

end FrancaAudit.Model
