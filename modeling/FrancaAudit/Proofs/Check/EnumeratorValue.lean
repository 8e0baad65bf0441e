import FrancaAudit.Proofs.Check.Accepted
import FrancaAudit.Proofs.Check.ValueType

/-!
The enumerators that constants of enumerations stand for.

An enumeration has its own enumerators and those of its bases. An enumerator that is written down is
held against this. A reference is held against the declared type of the constant it leads to, and
there an enumeration that extends the wanted one will do. It has more enumerators, so a chain of
references may end at one that the wanted enumeration does not have.
-/

namespace FrancaAudit

namespace Model

variable (model : Model)

/-- A type of single enumerators, possibly under other names. -/
def Enumerates (type : DeclaredType) (id : TypeId) : Prop :=
  type.isArray = false ∧ ∃ actual base enumerators,
    Relation.ReflTransGen model.Aliases type.ref actual ∧
      model.Names actual id (.enumeration base enumerators)

/-- The value of the first constant is a reference to the second. A chain of such references that
ends at a constant with another value is never circular, since there is but one way to go on. -/
def RefersTo (id other : ConstantId) : Prop :=
  ∃ definition, model.constant? id = some definition ∧ definition.value = .ref (.constant other)

theorem typeExtends_rightUnique : Relator.RightUnique model.TypeExtends := by
  intro id base other extended again
  rw [← typeBase?_eq_some] at extended again
  exact Option.some.inj (extended.symm.trans again)

theorem ancestors_in_line (id first second : TypeId)
    (toFirst : Relation.ReflTransGen model.TypeExtends id first)
    (toSecond : Relation.ReflTransGen model.TypeExtends id second) :
    Relation.ReflTransGen model.TypeExtends first second ∨
      Relation.TransGen model.TypeExtends second first := by
  rcases Relation.ReflTransGen.total_of_right_unique model.typeExtends_rightUnique toFirst
    toSecond with down | up
  · exact Or.inl down
  · rcases Relation.reflTransGen_iff_eq_or_transGen.mp up with rfl | longer
    · exact Or.inl .refl
    · exact Or.inr longer

theorem enumerates_unique (type : DeclaredType) (id other : TypeId)
    (first : model.Enumerates type id) (second : model.Enumerates type other) : id = other := by
  obtain ⟨_, actual, base, enumerators, path, names⟩ := first
  obtain ⟨_, otherActual, otherBase, otherEnumerators, otherPath, otherNames⟩ := second
  obtain rfl := model.settled_unique type.ref actual otherActual
    (model.settled_of_names actual id _ names (by simp))
    (model.settled_of_names otherActual other _ otherNames (by simp)) path otherPath
  exact (model.names_unique actual id other _ _ names otherNames).1

end Model

namespace Check

variable (model : Model)

theorem compatible_named (wanted : TypeId) (found : ValueType) :
    model.compatible (.named wanted) found ↔
      ∃ id, found = .named id ∧ Relation.ReflTransGen model.TypeExtends id wanted := by
  cases found with
  | named id => simp [Model.compatible, ← model.inherits_iff]
  | _ => simp [Model.compatible]

theorem enumeration_descendant (alike : model.BasesAlike) (id ancestor : TypeId)
    (path : Relation.ReflTransGen model.TypeExtends id ancestor) (ref : TypeRef) (kind : TypeKind)
    (names : model.Names ref id kind) (last : TypeDef) (found : model.type? ancestor = some last)
    (base : Option TypeId) (enumerators : List Enumerator)
    (enumeration : last.kind = .enumeration base enumerators) :
    ∃ ownBase ownEnumerators, kind = .enumeration ownBase ownEnumerators := by
  obtain ⟨_, definition, known, rfl⟩ := names
  rcases Relation.reflTransGen_iff_eq_or_transGen.mp path with rfl | longer
  · obtain rfl := Option.some.inj (known.symm.trans found)
    exact ⟨base, enumerators, enumeration⟩
  · have same := sameKind_ancestor model alike id ancestor longer definition last known found
    cases kind : definition.kind with
    | enumeration ownBase ownEnumerators => exact ⟨ownBase, ownEnumerators, rfl⟩
    | _ => simp [kind, enumeration, sameKind] at same

section Accepted

variable (linked : model.Linked) (accepted : hasErrors (checkModel model) = false)
variable (id : ConstantId) (definition : ConstantDef)
variable (found : model.constant? id = some definition)
variable (wanted : TypeId) (enumerates : model.Enumerates definition.type wanted)

include linked accepted found enumerates

theorem fitsEnumeration_of_accepted :
    ∃ actual, model.valueType ⟨actual, false⟩ = some (.named wanted) ∧
      fitsEnumeration model definition.value wanted actual = .ok () := by
  obtain ⟨scalar, actual, base, enumerators, path, names⟩ := enumerates
  have settled := model.settled_of_names actual wanted _ names (by simp)
  have fitting :=
    constant_fitsAs model accepted linked id definition found scalar actual path settled
  rw [wanted_names model actual wanted _ names] at fitting
  exact ⟨actual, valueType_names model actual settled wanted _ names (by simp), fitting⟩

theorem enumerator_of_accepted (owner : TypeId) (index : Nat)
    (written : definition.value = .ref (.enumerator owner index)) :
    Relation.ReflTransGen model.TypeExtends wanted owner ∧
      (model.enumerator? owner index).isSome := by
  obtain ⟨actual, _, fitting⟩ :=
    fitsEnumeration_of_accepted model linked accepted id definition found wanted enumerates
  constructor
  · rw [← model.inherits_iff]
    by_contra foreign
    simp [written, fitsEnumeration, foreign] at fitting
  · have resolved := constant_refs model linked id definition found (.enumerator owner index)
      (by simp [written, Expr.elementRefs])
    exact (enumeration_of_element model owner index resolved).1

theorem enumeration_of_reference (other : ConstantId)
    (refers : definition.value = .ref (.constant other)) :
    ∃ next, model.constant? other = some next ∧ ∃ own, model.Enumerates next.type own ∧
      Relation.ReflTransGen model.TypeExtends own wanted := by
  obtain ⟨actual, typed, fitting⟩ :=
    fitsEnumeration_of_accepted model linked accepted id definition found wanted enumerates
  rw [refers] at fitting
  obtain ⟨type, inferred, suits⟩ := (fitsByType_typed model _ _ _ typed).mp fitting
  obtain ⟨own, rfl, extended⟩ := (compatible_named model wanted type).mp suits
  obtain ⟨next, known, ownTyped⟩ := (infer_constant model other _).mp inferred
  obtain ⟨scalar, ownActual, kind, path, names⟩ := model.names_of_valueType next.type own ownTyped
  -- only an enumeration extends the wanted one
  obtain ⟨_, _, base, enumerators, _, _, last, lastFound, enumeration⟩ := enumerates
  obtain ⟨ownBase, ownEnumerators, rfl⟩ := enumeration_descendant model
    (basesAlike_of_accepted model accepted) own wanted extended ownActual kind names last lastFound
    base enumerators enumeration
  exact ⟨next, known, own, ⟨scalar, ownActual, ownBase, ownEnumerators, path, names⟩, extended⟩

theorem enumeration_of_chain (last : ConstantId)
    (path : Relation.ReflTransGen model.RefersTo id last) :
    ∃ ending, model.constant? last = some ending ∧ ∃ own, model.Enumerates ending.type own ∧
      Relation.ReflTransGen model.TypeExtends own wanted := by
  induction path with
  | refl => exact ⟨definition, found, wanted, enumerates, .refl⟩
  | tail _ step ih =>
      obtain ⟨middle, middleFound, own, ownEnumerates, extended⟩ := ih
      obtain ⟨again, same, refers⟩ := step
      obtain rfl := Option.some.inj (middleFound.symm.trans same)
      obtain ⟨next, known, inner, innerEnumerates, further⟩ := enumeration_of_reference model linked
        accepted _ middle middleFound own ownEnumerates _ refers
      exact ⟨next, known, inner, innerEnumerates, further.trans extended⟩

end Accepted

/-- Where no error is found, a chain of references that starts at a constant of an enumeration ends
at one whose enumeration is the same or extends it, and the enumerator there belongs to that one or
to one of its bases. So without references the enumerator is one that the wanted enumeration has;
with references it may instead be declared by an enumeration that extends the wanted one. -/
theorem enumerator_of_constant (linked : model.Linked)
    (accepted : hasErrors (checkModel model) = false) (id last : ConstantId)
    (definition ending : ConstantDef) (found : model.constant? id = some definition)
    (path : Relation.ReflTransGen model.RefersTo id last)
    (ends : model.constant? last = some ending) (owner : TypeId) (index : Nat)
    (written : ending.value = .ref (.enumerator owner index)) (wanted : TypeId)
    (enumerates : model.Enumerates definition.type wanted) :
    (model.enumerator? owner index).isSome ∧
      (∃ own, model.Enumerates ending.type own ∧
        Relation.ReflTransGen model.TypeExtends own wanted ∧
        Relation.ReflTransGen model.TypeExtends own owner) ∧
      (id = last → Relation.ReflTransGen model.TypeExtends wanted owner) ∧
      (Relation.ReflTransGen model.TypeExtends wanted owner ∨
        Relation.TransGen model.TypeExtends owner wanted) := by
  obtain ⟨again, same, own, ownEnumerates, extended⟩ :=
    enumeration_of_chain model linked accepted id definition found wanted enumerates last path
  obtain rfl := Option.some.inj (ends.symm.trans same)
  obtain ⟨inherited, declared⟩ :=
    enumerator_of_accepted model linked accepted last ending ends own ownEnumerates owner index
      written
  -- the wanted enumeration and the one of the enumerator are both ancestors of the last, so in line
  refine ⟨declared, ⟨own, ownEnumerates, extended, inherited⟩, ?_,
    model.ancestors_in_line own wanted owner extended inherited⟩
  rintro rfl
  obtain rfl := Option.some.inj (found.symm.trans ends)
  obtain rfl := model.enumerates_unique definition.type own wanted ownEnumerates enumerates
  exact inherited

/-- An enumeration, one that extends it and another name for the first. The last two constants
are declared with the first, but stand for an enumerator of the second. -/
def shades : Model where
  name := "shades"
  collections := [⟨"Shades", .unknown, [], [⟨0⟩, ⟨1⟩, ⟨2⟩], [⟨0⟩, ⟨1⟩, ⟨2⟩]⟩]
  interfaces := []
  types :=
    [bareType "Basic" (.enumeration none [⟨"red", .unknown, [], none⟩]),
      bareType "Shade" (.enumeration (some ⟨0⟩) [⟨"pink", .unknown, [], none⟩]),
      bareType "Paint" (.alias (.derived ⟨0⟩))]
  constants :=
    [bareConstant "PINK" (.derived ⟨1⟩) (.ref (.enumerator ⟨1⟩ 0)),
      bareConstant "COVER" (.derived ⟨0⟩) (.ref (.constant ⟨0⟩)),
      bareConstant "WALL" (.derived ⟨2⟩) (.ref (.constant ⟨1⟩))]

theorem shades_basic : shades.Names (.derived ⟨0⟩) ⟨0⟩
    (.enumeration none [⟨"red", .unknown, [], none⟩]) := ⟨rfl, _, rfl, rfl⟩

/-- Two references lead from the wall, painted in a basic color, to an enumerator. -/
theorem wall_enumerator :
    shades.Linked ∧ hasErrors (checkModel shades) = false ∧
      Relation.ReflTransGen shades.RefersTo ⟨2⟩ ⟨0⟩ ∧
      (shades.enumerator? ⟨1⟩ 0).isSome ∧
        (Relation.ReflTransGen shades.TypeExtends ⟨0⟩ ⟨1⟩ ∨
          Relation.TransGen shades.TypeExtends ⟨1⟩ ⟨0⟩) := by
  have linked : shades.Linked := rfl
  have accepted : hasErrors (checkModel shades) = false := rfl
  have path : Relation.ReflTransGen shades.RefersTo ⟨2⟩ ⟨0⟩ :=
    .tail (.single ⟨_, rfl, rfl⟩) ⟨_, rfl, rfl⟩
  have aliases : shades.Aliases (.derived ⟨2⟩) (.derived ⟨0⟩) := ⟨⟨2⟩, rfl, _, rfl, rfl⟩
  have enumerates : shades.Enumerates ⟨.derived ⟨2⟩, false⟩ ⟨0⟩ :=
    ⟨rfl, _, _, _, .single aliases, shades_basic⟩
  obtain ⟨declared, _, _, related⟩ := enumerator_of_constant shades linked accepted ⟨2⟩ ⟨0⟩ _ _ rfl
    path rfl ⟨1⟩ 0 rfl ⟨0⟩ enumerates
  exact ⟨linked, accepted, path, declared, related⟩

/-- A basic color that is none: nothing is found, though the enumerator belongs to the enumeration
that extends the declared one. -/
theorem cover_foreign :
    shades.Linked ∧ hasErrors (checkModel shades) = false ∧
      ∃ definition ending, shades.constant? ⟨1⟩ = some definition ∧
        shades.Enumerates definition.type ⟨0⟩ ∧
        shades.RefersTo ⟨1⟩ ⟨0⟩ ∧ shades.constant? ⟨0⟩ = some ending ∧
        ending.value = .ref (.enumerator ⟨1⟩ 0) ∧
        ¬ Relation.ReflTransGen shades.TypeExtends ⟨0⟩ ⟨1⟩ := by
  refine ⟨rfl, rfl, _, _, rfl, ⟨rfl, _, _, _, .refl, shades_basic⟩, ⟨_, rfl, rfl⟩, rfl, rfl, ?_⟩
  rw [← shades.inherits_iff]
  decide

end Check

end FrancaAudit
