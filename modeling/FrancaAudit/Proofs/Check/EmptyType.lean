import FrancaAudit.Proofs.Check.Accepted
import FrancaAudit.Proofs.Check.Location

/-!
Which types are without elements where no error is found.

The rule on empty types looks at those without a base only. A type with a base gets by on what it
inherits: its chain of bases ends, since there are no cycles, and it ends at a type of the same kind,
to which the rule applies.
-/

namespace FrancaAudit

namespace Model

variable (model : Model)

/-- The end of a chain of bases: a type that extends none. -/
structure RootOf (id root : TypeId) (definition : TypeDef) : Prop where
  path : Relation.ReflTransGen model.TypeExtends id root
  found : model.type? root = some definition
  last : ∀ base, ¬ definition.kind.HasBase base

-- By induction on the level, which is lower for a base than for what extends it.
theorem root_exists (linked : model.Linked)
    (acyclic : ∀ id, ¬ Relation.TransGen model.DependsOn id id) (id : TypeId)
    (known : (model.type? id).isSome) : ∃ root definition, model.RootOf id root definition := by
  obtain ⟨level, levels⟩ := model.levels_exist linked acyclic
  induction depth : level id using Nat.strong_induction_on generalizing id with
  | _ depth ih =>
      obtain ⟨definition, found⟩ := Option.isSome_iff_exists.mp known
      by_cases extending : ∃ base, definition.kind.HasBase base
      · obtain ⟨base, extended⟩ := extending
        have lower := levels.descends id base (.base definition base found extended)
        have baseKnown := linked_typeBase model linked id definition base found extended
        obtain ⟨root, last, ends⟩ := ih (level base) (by omega) base baseKnown rfl
        exact ⟨root, last, .head ⟨definition, found, extended⟩ ends.path, ends.found, ends.last⟩
      · exact ⟨id, definition, .refl, found, not_exists.mp extending⟩

theorem allFields_eq_nil (id : TypeId) :
    model.allFields id = [] ↔
      ∀ owner definition, Relation.ReflTransGen model.TypeExtends id owner →
        model.type? owner = some definition → definition.kind.fields = [] := by
  rw [List.eq_nil_iff_forall_not_mem]
  constructor
  · intro none owner definition path found
    refine List.eq_nil_iff_forall_not_mem.mpr fun field declared => ?_
    obtain ⟨index, located⟩ := List.getElem?_of_mem declared
    exact none ⟨owner, index, field⟩
      ((model.mem_allFields id _).mpr ⟨path, by simp [field?, found, located]⟩)
  · intro none declared listed
    obtain ⟨path, located⟩ := (model.mem_allFields id declared).mp listed
    obtain ⟨definition, found, position⟩ := Option.bind_eq_some_iff.mp located
    simp [none declared.owner definition path found] at position

end Model

namespace Check

variable (model : Model)

theorem emptyTypeFindings_of_accepted (accepted : hasErrors (checkModel model) = false)
    (id : TypeId) (definition : TypeDef) (found : model.type? id = some definition) :
    emptyTypeFindings (.type id) definition.kind = [] := by
  refine List.eq_nil_iff_forall_not_mem.mpr fun finding made => ?_
  have listed : finding ∈ shapeFindings model true := by
    rw [shapeFindings, (appends_checkShape model true).findings_eq]
    refine List.mem_append_left _ (List.mem_append_right _ (List.mem_flatMap.mpr ?_))
    exact ⟨(definition, id.index), List.mk_mem_zipIdx_iff_getElem?.mpr found,
      List.mem_append_left _ (List.mem_append_left _ made)⟩
  refine not_isError_of_accepted model accepted "structure" (shapeFindings model true)
    (by simp [groups, Options.standard]) finding listed ?_
  exact decide_eq_true (errorsAt_emptyTypeFindings _ _ finding made).1

theorem root_of_accepted (linked : model.Linked) (accepted : hasErrors (checkModel model) = false)
    (id : TypeId) (definition : TypeDef) (found : model.type? id = some definition)
    (inherits : sameKind definition.kind definition.kind) :
    ∃ root last, model.RootOf id root last ∧ sameKind definition.kind last.kind ∧
      emptyTypeFindings (.type root) last.kind = [] := by
  obtain ⟨root, last, ends⟩ := model.root_exists linked (acyclic_of_accepted model accepted) id
    (Option.isSome_of_eq_some found)
  refine ⟨root, last, ends, ?_, emptyTypeFindings_of_accepted model accepted root last ends.found⟩
  rcases Relation.reflTransGen_iff_eq_or_transGen.mp ends.path with rfl | longer
  · obtain rfl := Option.some.inj (found.symm.trans ends.found)
    exact inherits
  · exact sameKind_ancestor model (basesAlike_of_accepted model accepted) id root longer definition
      last found ends.found

/-- Where no error is found, every union has an element, of its own or inherited. A struct has none
only if its chain of bases ends at a struct that is marked as polymorphic. -/
theorem elements_of_accepted (linked : model.Linked)
    (accepted : hasErrors (checkModel model) = false) (id : TypeId) (definition : TypeDef)
    (found : model.type? id = some definition) :
    (∀ base fields, definition.kind = .union base fields → model.allFields id ≠ []) ∧
      ∀ base polymorphic fields, definition.kind = .struct base polymorphic fields →
        model.allFields id = [] →
        ∃ root last, model.RootOf id root last ∧ last.kind = .struct none true [] := by
  constructor
  · intro base fields union none
    obtain ⟨root, last, ends, same, allowed⟩ := root_of_accepted model linked accepted id definition
      found (by rw [union]; rfl)
    -- no field anywhere on the chain, so none at the root, where the rule on empty types applies
    have bare := (model.allFields_eq_nil id).mp none root last ends.path ends.found
    have based := last.kind.base?_eq_none.mpr ends.last
    cases kind : last.kind with
    | union rootBase rootFields =>
        simp only [kind, TypeKind.base?, TypeKind.fields, TypeKind.fields?, Option.getD_some]
          at bare based
        simp [kind, bare, based, emptyTypeFindings] at allowed
    | _ => simp [union, kind, sameKind] at same
  · intro base polymorphic fields struct none
    obtain ⟨root, last, ends, same, allowed⟩ := root_of_accepted model linked accepted id definition
      found (by rw [struct]; rfl)
    have bare := (model.allFields_eq_nil id).mp none root last ends.path ends.found
    have based := last.kind.base?_eq_none.mpr ends.last
    refine ⟨root, last, ends, ?_⟩
    cases kind : last.kind with
    | struct rootBase rootPolymorphic rootFields =>
        simp only [kind, TypeKind.base?, TypeKind.fields, TypeKind.fields?, Option.getD_some]
          at bare based
        simpa [kind, bare, based, emptyTypeFindings] using allowed
    | _ => simp [struct, kind, sameKind] at same

/-- A polymorphic struct and a union of one element, each with a type that extends it by nothing. -/
def shells : Model where
  name := "shells"
  collections := [⟨"Shells", .unknown, [], [⟨0⟩, ⟨1⟩, ⟨2⟩, ⟨3⟩], []⟩]
  interfaces := []
  types :=
    [bareType "Shell" (.struct none true []), bareType "Snail" (.struct (some ⟨0⟩) false []),
      bareType "Key" (.union none [⟨"code", .unknown, [], ⟨.primitive .uint8, false⟩⟩]),
      bareType "Label" (.union (some ⟨2⟩) [])]
  constants := []

theorem shells_elements :
    shells.Linked ∧ hasErrors (checkModel shells) = false ∧
      shells.allFields ⟨3⟩ ≠ [] ∧ shells.allFields ⟨1⟩ = [] ∧
      ∃ root last, shells.RootOf ⟨1⟩ root last ∧ last.kind = .struct none true [] := by
  have linked : shells.Linked := rfl
  have accepted : hasErrors (checkModel shells) = false := rfl
  have bare : shells.allFields ⟨1⟩ = [] := rfl
  have label := (elements_of_accepted shells linked accepted ⟨3⟩ _ rfl).1 _ _ rfl
  have snail := (elements_of_accepted shells linked accepted ⟨1⟩ _ rfl).2 _ _ _ rfl bare
  exact ⟨linked, accepted, label, bare, snail⟩

end Check

end FrancaAudit
