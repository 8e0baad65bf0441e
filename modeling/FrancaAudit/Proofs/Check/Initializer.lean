import FrancaAudit.Proofs.Check.Denotation

/-!
The check of values against what initializers denote.

An initializer without inner values has a type of its own, which only a literal or an enumerator
has. Whatever does not have the form that is wanted is held against the type by this, and fails.
-/

namespace FrancaAudit.Check

variable (model : Model)

def fitsAs (expr : Expr) (ref : TypeRef) : Wanted → Except Misfit Unit
  | .anything => .ok ()
  | .integer range => fitsRange model expr ref range
  | .enumeration id => fitsEnumeration model expr id ref
  | .plain => fitsScalar model expr ref
  | .bytes =>
      match expr with
      | .bracket items => fitBytes model ref items 0
      | _ => fitsScalar model expr ref
  | .struct id =>
      match expr with
      | .compound inits => fitFields model inits id (model.allFields id) []
      | _ => fitsScalar model expr ref
  | .union id =>
      match expr with
      | .compound inits => fitAlternative model inits id
      | _ => fitsScalar model expr ref
  | .array element =>
      match expr with
      | .bracket items => fitItems model items 0 element
      | _ => fitsScalar model expr ref
  | .map key value =>
      match expr with
      | .bracket items => fitEntries model items key value
      | _ => fitsScalar model expr ref

theorem fits_resolved (ref resolved : TypeRef) (found : model.resolveAlias ref = some resolved)
    (expr : Expr) :
    fits model expr ⟨ref, false⟩ = fitsAs model expr resolved (wanted model resolved) := by
  cases expr <;> rw [fits, found] <;> dsimp only <;> cases wanted model resolved <;> rfl

theorem fits_items (items : List BracketItem) (ref : TypeRef) :
    fits model (.bracket items) ⟨ref, true⟩ = fitItems model items 0 ref := by
  rw [fits]

theorem fits_array (expr : Expr) (ref : TypeRef) (other : ∀ items, expr ≠ .bracket items) :
    fits model expr ⟨ref, true⟩ = fitsByType model expr ⟨ref, true⟩ := by
  cases expr with
  | bracket items => exact absurd rfl (other items)
  | _ => rw [fits]; simp

theorem infer_initializer (expr : Expr) (initializer : model.Initializer expr)
    (found : ValueType) :
    infer model expr = some found ↔
      (∃ literal, expr = .literal literal ∧ found = literalType literal) ∨
        ∃ owner index, expr = .ref (.enumerator owner index) ∧ found = .named owner := by
  cases initializer with
  | literal value => simp [infer, eq_comm]
  | enumerator owner index resolves =>
      obtain ⟨element, known⟩ := Option.isSome_iff_exists.mp resolves
      simp [infer, elementType?, known, eq_comm]
  | compound inits each => simp [infer]
  | bracket items each => simp [infer]

theorem infer_constant (id : ConstantId) (type : ValueType) :
    infer model (.ref (.constant id)) = some type ↔
      ∃ definition, model.constant? id = some definition ∧
        model.valueType definition.type = some type := by
  cases found : model.constant? id with
  | none => simp [infer, elementType?, Model.element?, found]
  | some definition => simp [infer, elementType?, Model.element?, found]

theorem fitsByType_typed (expr : Expr) (type : DeclaredType) (expected : ValueType)
    (typed : model.valueType type = some expected) :
    fitsByType model expr type = .ok () ↔
      ∃ found, infer model expr = some found ∧ model.compatible expected found := by
  unfold fitsByType
  rw [typed]
  cases infer model expr with
  | none => simp
  | some found => by_cases suits : model.compatible expected found <;> simp [suits]

/-- The value is known and lies within the range, or it is not known and has the given type. -/
def KnownOr (range : Range) (type : ValueType) (expr : Expr) : Prop :=
  (∃ value, foldInt model expr = some value ∧ range.contains value) ∨
    (foldInt model expr = none ∧ infer model expr = some type)

-- Neither an integer nor a buffer is wide enough for values of another type.
theorem compatible_exact (type found : ValueType) (strict : type = .integer ∨ type = .byteBuffer) :
    model.compatible type found ↔ found = type := by
  rcases strict with rfl | rfl
  · cases found <;> simp [Model.compatible]
  · cases found <;> simp [Model.compatible]

theorem fitsRange_knownOr (expr : Expr) (ref : TypeRef) (range : Range) (type : ValueType)
    (typed : model.valueType ⟨ref, false⟩ = some type)
    (strict : type = .integer ∨ type = .byteBuffer) :
    fitsRange model expr ref range = .ok () ↔ KnownOr model range type expr := by
  unfold fitsRange KnownOr
  cases folded : foldInt model expr with
  | some value => by_cases inside : range.contains value <;> simp [inside]
  | none =>
      simp [fitsScalar, fitsByType_typed model expr ⟨ref, false⟩ type typed,
        compatible_exact model type _ strict]

theorem fitsByType_eq_ok (expr : Expr) (initializer : model.Initializer expr)
    (type : DeclaredType) (expected : ValueType)
    (typed : model.valueType type = some expected) :
    fitsByType model expr type = .ok () ↔
      (∃ literal, expr = .literal literal ∧ model.compatible expected (literalType literal)) ∨
        ∃ owner index, expr = .ref (.enumerator owner index) ∧
          model.compatible expected (.named owner) := by
  simp only [fitsByType_typed model expr type expected typed,
    infer_initializer model expr initializer]
  constructor
  · rintro ⟨found, ⟨literal, rfl, rfl⟩ | ⟨owner, index, rfl, rfl⟩, suits⟩
    · exact Or.inl ⟨literal, rfl, suits⟩
    · exact Or.inr ⟨owner, index, rfl, suits⟩
  · rintro (⟨literal, rfl, suits⟩ | ⟨owner, index, rfl, suits⟩)
    · exact ⟨_, Or.inl ⟨literal, rfl, rfl⟩, suits⟩
    · exact ⟨_, Or.inr ⟨owner, index, rfl, rfl⟩, suits⟩

theorem foldInt_initializer (expr : Expr) (initializer : model.Initializer expr) (value : Int) :
    foldInt model expr = some value ↔
      ∃ integer : Int64, expr = .literal (.integer integer) ∧ integer.toInt = value := by
  cases initializer with
  | literal literal => cases literal <;> simp [foldInt, foldWithin]
  | enumerator owner index resolves => simp [foldInt, foldWithin]
  | compound inits each => simp [foldInt, foldWithin]
  | bracket items each => simp [foldInt, foldWithin]

theorem fitsRange_eq_ok (expr : Expr) (initializer : model.Initializer expr) (ref : TypeRef)
    (range : Range) (expected : ValueType)
    (typed : model.valueType ⟨ref, false⟩ = some expected)
    (numeric : expected = .integer ∨ expected = .byteBuffer) :
    fitsRange model expr ref range = .ok () ↔ IntegerIn range expr := by
  rw [fitsRange_knownOr model expr ref range expected typed numeric]
  constructor
  · rintro (⟨value, folded, inside⟩ | ⟨unknown, inferred⟩)
    · obtain ⟨integer, rfl, rfl⟩ := (foldInt_initializer model expr initializer value).mp folded
      exact ⟨integer, rfl, inside⟩
    · -- no integer is written down here, and nothing else has the type of one
      rcases (infer_initializer model expr initializer expected).mp inferred with
        ⟨literal, rfl, rfl⟩ | ⟨owner, index, rfl, rfl⟩
      · cases literal with
        | integer value => simp [foldInt, foldWithin] at unknown
        | _ => simp [literalType] at numeric
      · simp at numeric
  · rintro ⟨integer, rfl, inside⟩
    exact Or.inl ⟨integer.toInt, rfl, inside⟩

theorem not_fitsByType (expr : Expr) (initializer : model.Initializer expr)
    (type : DeclaredType) (expected : ValueType)
    (typed : model.valueType type = some expected)
    (literals : ∀ literal, ¬ model.compatible expected (literalType literal))
    (enumerators : ∀ owner index, expr = .ref (.enumerator owner index) →
      ¬ model.compatible expected (.named owner)) : fitsByType model expr type ≠ .ok () := by
  rw [ne_eq, fitsByType_eq_ok model expr initializer type expected typed]
  rintro (⟨literal, _, suits⟩ | ⟨owner, index, same, suits⟩)
  · exact literals literal suits
  · exact enumerators owner index same suits

theorem not_fits_array (expr : Expr) (initializer : model.Initializer expr) (type : DeclaredType)
    (element : ValueType) (typed : model.valueType type = some (.array element)) :
    fitsByType model expr type ≠ .ok () := by
  apply not_fitsByType model expr initializer type _ typed
  · intro literal
    cases literal <;> simp [Model.compatible, literalType]
  · simp [Model.compatible]

theorem not_fits_buffer (expr : Expr) (initializer : model.Initializer expr) (ref : TypeRef)
    (typed : model.valueType ⟨ref, false⟩ = some .byteBuffer) :
    fitsScalar model expr ref ≠ .ok () := by
  apply not_fitsByType model expr initializer ⟨ref, false⟩ _ typed
  · intro literal
    cases literal <;> simp [Model.compatible, literalType]
  · simp [Model.compatible]

theorem not_fits_named (expr : Expr) (initializer : model.Initializer expr) (ref : TypeRef)
    (id : TypeId) (typed : model.valueType ⟨ref, false⟩ = some (.named id))
    (foreign : ∀ owner index, expr = .ref (.enumerator owner index) →
      ¬ Relation.ReflTransGen model.TypeExtends owner id) :
    fitsScalar model expr ref ≠ .ok () := by
  apply not_fitsByType model expr initializer ⟨ref, false⟩ _ typed
  · intro literal
    cases literal <;> simp [Model.compatible, literalType]
  · intro owner index same suits
    apply foreign owner index same
    rw [← model.inherits_iff owner id]
    simpa [Model.compatible] using suits

theorem valueType_primitive (ref : TypeRef) (primitive : Primitive)
    (kind : ref.kind = .primitive primitive) :
    model.valueType ⟨ref, false⟩ = some (.ofPrimitive primitive) := by
  simp [Model.valueType, Model.valueTypeWithin, Model.resolveAlias, Model.followAlias, kind]

theorem valueType_interval (ref : TypeRef) (least greatest : Option Int64)
    (kind : ref.kind = .interval least greatest) :
    model.valueType ⟨ref, false⟩ = some .integer := by
  simp [Model.valueType, Model.valueTypeWithin, Model.resolveAlias, Model.followAlias, kind]

theorem valueType_names (ref : TypeRef) (settled : model.Settled ref) (id : TypeId)
    (kind : TypeKind) (names : model.Names ref id kind) (single : ∀ element, kind ≠ .array element) :
    model.valueType ⟨ref, false⟩ = some (.named id) := by
  have resolved := model.resolveAlias_settled ref settled
  obtain ⟨named, definition, found, rfl⟩ := names
  cases kind : definition.kind with
  | array element => exact absurd kind (single element)
  | _ => simp [Model.valueType, Model.valueTypeWithin, resolved, named, found, kind]

section Levels

variable (linked : model.Linked) (level : TypeId → Nat) (levels : model.Levels level)

include linked levels

theorem valueType_implicit (ref : TypeRef) (resolves : model.Resolves ref) :
    ∃ element, model.valueType ⟨ref, true⟩ = some (.array element) := by
  have known := model.valueTypeWithin_isSome linked level levels _ ref resolves
    (model.height_bounded level levels ref resolves)
  obtain ⟨element, typed⟩ := Option.isSome_iff_exists.mp known
  exact ⟨element, by simp [Model.valueType, typed]⟩

theorem valueType_array (ref : TypeRef) (settled : model.Settled ref) (id : TypeId)
    (element : TypeRef) (names : model.Names ref id (.array element)) :
    ∃ inner, model.valueType ⟨ref, false⟩ = some (.array inner) := by
  have known := model.valueType_isSome linked level levels ⟨ref, false⟩ settled.resolves
  have resolved := model.resolveAlias_settled ref settled
  obtain ⟨named, definition, found, kind⟩ := names
  simp only [Model.valueType, Model.valueTypeWithin, resolved, named, found, kind] at known ⊢
  cases inner : model.valueTypeWithin model.types.length element with
  | none => simp [inner] at known
  | some type => simp

end Levels

theorem sameKind_trans (first second third : TypeKind) (one : sameKind first second)
    (two : sameKind second third) : sameKind first third := by
  cases second <;> cases first <;> simp only [sameKind, Bool.false_eq_true] at one <;>
    cases third <;> simp only [sameKind, Bool.false_eq_true] at two <;> rfl

theorem sameKind_ancestor (alike : model.BasesAlike) (id ancestor : TypeId)
    (path : Relation.TransGen model.TypeExtends id ancestor) (first last : TypeDef)
    (found : model.type? id = some first) (reached : model.type? ancestor = some last) :
    sameKind first.kind last.kind := by
  induction path generalizing last with
  | single step =>
      obtain ⟨again, same, extended⟩ := step
      obtain rfl := Option.some.inj (found.symm.trans same)
      exact alike first (List.mem_of_getElem? found) _ extended last reached
  | tail _ step ih =>
      obtain ⟨middle, middleFound, extended⟩ := step
      exact sameKind_trans _ _ _ (ih middle middleFound)
        (alike middle (List.mem_of_getElem? middleFound) _ extended last reached)

theorem enumeration_of_element (owner : TypeId) (index : Nat)
    (resolves : (model.element? (.enumerator owner index)).isSome) :
    (model.enumerator? owner index).isSome ∧
      ∃ definition base enumerators, model.type? owner = some definition ∧
        definition.kind = .enumeration base enumerators := by
  cases found : model.type? owner with
  | none => simp [Model.element?, found] at resolves
  | some definition =>
      cases kind : definition.kind with
      | enumeration base enumerators =>
          refine ⟨?_, definition, base, enumerators, rfl, kind⟩
          simpa [Model.element?, Model.enumerator?, found, Option.isSome_iff_exists,
            Option.bind_eq_some_iff] using resolves
      | _ =>
          simp [Model.element?, found, kind, TypeKind.enumerators, TypeKind.enumerators?]
            at resolves

theorem enumeration_ancestor (alike : model.BasesAlike) (id ancestor : TypeId)
    (path : Relation.ReflTransGen model.TypeExtends id ancestor) (definition : TypeDef)
    (base : Option TypeId) (enumerators : List Enumerator)
    (found : model.type? id = some definition)
    (kind : definition.kind = .enumeration base enumerators) (other : TypeDef)
    (otherFound : model.type? ancestor = some other) :
    ∃ otherBase otherEnumerators, other.kind = .enumeration otherBase otherEnumerators := by
  rcases Relation.reflTransGen_iff_eq_or_transGen.mp path with rfl | longer
  · obtain rfl : definition = other := by simpa [found] using otherFound
    exact ⟨base, enumerators, kind⟩
  · have same := sameKind_ancestor model alike id ancestor longer definition other found otherFound
    cases otherKind : other.kind with
    | enumeration otherBase otherEnumerators => exact ⟨otherBase, otherEnumerators, rfl⟩
    | _ => simp [kind, otherKind, sameKind] at same

theorem not_fits_other (alike : model.BasesAlike) (expr : Expr)
    (initializer : model.Initializer expr) (ref : TypeRef) (settled : model.Settled ref)
    (id : TypeId) (kind : TypeKind) (names : model.Names ref id kind)
    (single : ∀ element, kind ≠ .array element)
    (other : ∀ base enumerators, kind ≠ .enumeration base enumerators) :
    fitsScalar model expr ref ≠ .ok () := by
  refine not_fits_named model expr initializer ref id
    (valueType_names model ref settled id kind names single) ?_
  rintro owner index rfl path
  obtain ⟨_, target, targetFound, rfl⟩ := names
  cases initializer with
  | enumerator owner index resolves =>
      obtain ⟨_, definition, base, enumerators, found, isEnumeration⟩ :=
        enumeration_of_element model owner index resolves
      obtain ⟨targetBase, targetEnumerators, same⟩ := enumeration_ancestor model alike owner id path
        definition base enumerators found isEnumeration target targetFound
      exact other targetBase targetEnumerators same

def Agrees (expr : Expr) : Prop :=
  ∀ type, model.Resolves type.ref → (fits model expr type = .ok () ↔ model.Denotes expr type)

section Acceptance

variable (linked : model.Linked) (level : TypeId → Nat) (levels : model.Levels level)
variable (alike : model.BasesAlike)
variable (expr : Expr) (initializer : model.Initializer expr)
variable (inside : ∀ value, Model.Inside value expr → Agrees model value)
variable (ref : TypeRef) (settled : model.Settled ref)

include initializer

theorem fitsAs_integer (range : Range)
    (typed : model.valueType ⟨ref, false⟩ = some .integer) :
    fitsAs model expr ref (.integer range) = .ok () ↔
      Fulfils model expr ref (.integer range) :=
  fitsRange_eq_ok model expr initializer ref range .integer typed (Or.inl rfl)

theorem fitsAs_bytes (kind : ref.kind = .primitive .byteBuffer) :
    fitsAs model expr ref .bytes = .ok () ↔ Fulfils model expr ref .bytes := by
  have typed := valueType_primitive model ref .byteBuffer kind
  cases initializer with
  | bracket items each =>
      simp only [fitsAs, Fulfils, fitBytes_eq_ok, Expr.bracket.injEq, exists_eq_left']
      refine each_congr _ _ _ items ?_
      intro value member
      exact fitsRange_eq_ok model value (each value (.item items value member)) ref byteRange
        .byteBuffer typed (Or.inr rfl)
  | literal literal =>
      simpa [fitsAs, Fulfils] using not_fits_buffer model _ (.literal literal) ref typed
  | enumerator owner index resolves =>
      simpa [fitsAs, Fulfils] using
        not_fits_buffer model _ (.enumerator owner index resolves) ref typed
  | compound inits each =>
      simpa [fitsAs, Fulfils] using not_fits_buffer model _ (.compound inits each) ref typed

theorem fitsAs_plain (primitive : Primitive) (kind : ref.kind = .primitive primitive) :
    fitsAs model expr ref .plain = .ok () ↔ Fulfils model expr ref .plain := by
  have typed := valueType_primitive model ref primitive kind
  simp only [fitsAs, fitsScalar, fitsByType_eq_ok model expr initializer _ _ typed, Fulfils, kind,
    TypeRefKind.primitive.injEq]
  constructor
  · rintro (⟨literal, rfl, suits⟩ | ⟨owner, index, rfl, suits⟩)
    · exact ⟨primitive, literal, rfl, rfl, suits⟩
    · cases primitive <;> simp [Model.compatible, ValueType.ofPrimitive] at suits
  · rintro ⟨_, literal, rfl, rfl, suits⟩
    exact Or.inl ⟨literal, rfl, suits⟩

include settled

theorem fitsAs_enumeration (id : TypeId) (base : Option TypeId) (enumerators : List Enumerator)
    (names : model.Names ref id (.enumeration base enumerators)) :
    fitsAs model expr ref (.enumeration id) = .ok () ↔
      Fulfils model expr ref (.enumeration id) := by
  have typed := valueType_names model ref settled id _ names (by simp)
  cases initializer with
  | literal literal =>
      have misfit := not_fits_named model _ (.literal literal) ref id typed (by simp)
      simpa [fitsAs, fitsEnumeration, Fulfils] using misfit
  | enumerator owner index resolves =>
      have declared := (enumeration_of_element model owner index resolves).1
      have member := model.inherits_iff id owner
      -- the one value that is not judged by its own type, which may be a base of the wanted one
      by_cases inherited : owner = id ∨ owner ∈ model.baseTypes id
      · simp [fitsAs, fitsEnumeration, Fulfils, inherited, declared, member.mp inherited]
      · simp [fitsAs, fitsEnumeration, Fulfils, inherited, ← member]
  | compound inits each =>
      have misfit := not_fits_named model _ (.compound inits each) ref id typed (by simp)
      simpa [fitsAs, fitsEnumeration, Fulfils] using misfit
  | bracket items each =>
      have misfit := not_fits_named model _ (.bracket items each) ref id typed (by simp)
      simpa [fitsAs, fitsEnumeration, Fulfils] using misfit

include linked alike inside

theorem fitsAs_struct (id : TypeId) (base : Option TypeId) (polymorphic : Bool)
    (fields : List Field) (names : model.Names ref id (.struct base polymorphic fields)) :
    fitsAs model expr ref (.struct id) = .ok () ↔ Fulfils model expr ref (.struct id) := by
  have misfit := not_fits_other model alike expr initializer ref settled id _ names (by simp)
    (by simp)
  cases initializer with
  | compound inits each =>
      simp only [fitsAs, Fulfils, fitFields_allFields, Expr.compound.injEq, exists_eq_left']
      refine and_congr_right fun _ => forall₂_congr fun init member => ?_
      refine forall₂_congr fun field located => ?_
      exact inside init.value (.init inits init member) field.type
        (model.field_resolves linked init.owner init.index field located)
  | literal literal => simpa [fitsAs, Fulfils] using misfit
  | enumerator owner index resolves => simpa [fitsAs, Fulfils] using misfit
  | bracket items each => simpa [fitsAs, Fulfils] using misfit

theorem fitsAs_union (id : TypeId) (base : Option TypeId) (fields : List Field)
    (names : model.Names ref id (.union base fields)) :
    fitsAs model expr ref (.union id) = .ok () ↔ Fulfils model expr ref (.union id) := by
  have misfit := not_fits_other model alike expr initializer ref settled id _ names (by simp)
    (by simp)
  cases initializer with
  | compound inits each =>
      simp only [fitsAs, Fulfils, fitAlternative_eq_ok, Expr.compound.injEq]
      refine exists_congr fun init => exists_congr fun field => and_congr_right ?_
      rintro rfl
      refine and_congr_right fun chosen => ?_
      exact inside init.value (.init [init] init List.mem_cons_self) field.type
        (model.field_resolves linked init.owner init.index field chosen.2)
  | literal literal => simpa [fitsAs, Fulfils] using misfit
  | enumerator owner index resolves => simpa [fitsAs, Fulfils] using misfit
  | bracket items each => simpa [fitsAs, Fulfils] using misfit

theorem fitsAs_map (id : TypeId) (key value : TypeRef)
    (names : model.Names ref id (.map key value)) :
    fitsAs model expr ref (.map key value) = .ok () ↔
      Fulfils model expr ref (.map key value) := by
  have misfit := not_fits_other model alike expr initializer ref settled id _ names (by simp)
    (by simp)
  have keyResolves := model.memberRef_resolves linked ref key id _ names
    (by simp [TypeKind.memberRefs])
  have valueResolves := model.memberRef_resolves linked ref value id _ names
    (by simp [TypeKind.memberRefs])
  cases initializer with
  | bracket items each =>
      simp only [fitsAs, Fulfils, fitEntries_eq_ok, Expr.bracket.injEq, exists_eq_left']
      refine each_congr _ _ _ items ?_
      intro entry member
      exact and_congr
        (inside entry.1 (.key items entry.1 entry.2 member) ⟨key, false⟩ keyResolves)
        (inside entry.2 (.value items entry.1 entry.2 member) ⟨value, false⟩ valueResolves)
  | literal literal => simpa [fitsAs, Fulfils] using misfit
  | enumerator owner index resolves => simpa [fitsAs, Fulfils] using misfit
  | compound inits each => simpa [fitsAs, Fulfils] using misfit

omit alike
include levels

theorem fitsAs_array (id : TypeId) (element : TypeRef)
    (names : model.Names ref id (.array element)) :
    fitsAs model expr ref (.array element) = .ok () ↔
      Fulfils model expr ref (.array element) := by
  obtain ⟨inner, typed⟩ := valueType_array model linked level levels ref settled id element names
  have misfit : fitsScalar model expr ref ≠ .ok () :=
    not_fits_array model expr initializer ⟨ref, false⟩ inner typed
  have resolves := model.memberRef_resolves linked ref element id _ names
    (by simp [TypeKind.memberRefs])
  cases initializer with
  | bracket items each =>
      simp only [fitsAs, Fulfils, fitItems_eq_ok, Expr.bracket.injEq, exists_eq_left']
      refine each_congr _ _ _ items ?_
      intro value member
      exact inside value (.item items value member) ⟨element, false⟩ resolves
  | literal literal => simpa [fitsAs, Fulfils] using misfit
  | enumerator owner index resolves => simpa [fitsAs, Fulfils] using misfit
  | compound inits each => simpa [fitsAs, Fulfils] using misfit

omit settled

theorem fits_implicit (resolves : model.Resolves ref) :
    fits model expr ⟨ref, true⟩ = .ok () ↔ model.Denotes expr ⟨ref, true⟩ := by
  obtain ⟨element, typed⟩ := valueType_implicit model linked level levels ref resolves
  have misfit := not_fits_array model expr initializer ⟨ref, true⟩ element typed
  rw [denotes_items]
  cases initializer with
  | bracket items each =>
      simp only [fits_items, fitItems_eq_ok, Expr.bracket.injEq, exists_eq_left']
      refine each_congr _ _ _ items ?_
      intro value member
      exact inside value (.item items value member) ⟨ref, false⟩ resolves
  | literal literal => simpa [fits_array] using misfit
  | enumerator owner index resolves => simpa [fits_array] using misfit
  | compound inits each => simpa [fits_array] using misfit

include alike settled

theorem fitsAs_eq_ok :
    fitsAs model expr ref (wanted model ref) = .ok () ↔
      Fulfils model expr ref (wanted model ref) := by
  cases kind : ref.kind with
  | primitive primitive =>
      have typed := valueType_primitive model ref primitive kind
      rw [wanted_primitive model ref primitive kind]
      cases range : primitive.range? with
      | some bounds =>
          have integer : ValueType.ofPrimitive primitive = .integer := by
            cases primitive <;> simp [Primitive.range?] at range <;> rfl
          rw [wantedOfPrimitive, range]
          exact fitsAs_integer model expr initializer ref _ (integer ▸ typed)
      | none =>
          by_cases buffer : primitive = .byteBuffer
          · subst buffer
            exact fitsAs_bytes model expr initializer ref kind
          · have plain : wantedOfPrimitive primitive = .plain := by
              simp [wantedOfPrimitive, range, buffer]
            rw [plain]
            exact fitsAs_plain model expr initializer ref primitive kind
  | interval least greatest =>
      simp only [wanted, kind]
      exact fitsAs_integer model expr initializer ref _
        (valueType_interval model ref least greatest kind)
  | derived id =>
      obtain ⟨definition, names⟩ := model.names_of_resolves ref id settled.resolves kind
      rw [wanted_names model ref id _ names]
      cases definition with
      | struct base polymorphic fields =>
          exact fitsAs_struct model linked alike expr initializer inside ref settled id _ _ _ names
      | union base fields =>
          exact fitsAs_union model linked alike expr initializer inside ref settled id _ _ names
      | enumeration base enumerators =>
          exact fitsAs_enumeration model expr initializer ref settled id _ _ names
      | array element =>
          exact fitsAs_array model linked level levels expr initializer inside ref settled id _
            names
      | map key value =>
          exact fitsAs_map model linked alike expr initializer inside ref settled id _ _ names
      | «alias» actual => exact absurd ⟨id, names⟩ (settled.final actual)

omit settled

theorem agrees_of_inside : Agrees model expr := by
  rintro ⟨ref, isArray⟩ resolves
  cases isArray with
  | true => exact fits_implicit model linked level levels expr initializer inside ref resolves
  | false =>
      obtain ⟨resolved, found, path, settled, _⟩ :=
        model.resolveAlias_resolved linked level levels ref resolves
      rw [fits_resolved model ref resolved found, denotes_resolved model ref resolved path,
        denotes_iff_fulfils model resolved settled]
      exact fitsAs_eq_ok model linked level levels alike expr initializer inside resolved settled

omit inside

-- By induction on how the initializer is written down. The declared type is free throughout, since
-- a field, an element or a key brings its own.
theorem agrees : Agrees model expr := by
  induction initializer with
  | literal value =>
      exact agrees_of_inside model linked level levels alike _ (.literal value)
        (fun value inner => nomatch inner)
  | enumerator owner index resolves =>
      exact agrees_of_inside model linked level levels alike _ (.enumerator owner index resolves)
        (fun value inner => nomatch inner)
  | compound inits each ih =>
      exact agrees_of_inside model linked level levels alike _ (.compound inits each) ih
  | bracket items each ih =>
      exact agrees_of_inside model linked level levels alike _ (.bracket items each) ih

end Acceptance

/-- In a linked model where no type depends on itself and bases are like the types that extend
them, an initializer is accepted for a type exactly if it denotes a value of that type. -/
theorem fits_iff_denotes (linked : model.Linked)
    (acyclic : ∀ id, ¬ Relation.TransGen model.DependsOn id id) (alike : model.BasesAlike)
    (site : TypeSite) (member : site ∈ model.typeSites) (isArray : Bool) (expr : Expr)
    (initializer : model.Initializer expr) :
    fits model expr ⟨site.ref, isArray⟩ = .ok () ↔
      model.Denotes expr ⟨site.ref, isArray⟩ := by
  obtain ⟨level, levels⟩ := model.levels_exist linked acyclic
  refine agrees model linked level levels alike expr initializer ⟨site.ref, isArray⟩ ?_
  intro id named
  exact model.linked_typeSite linked site member id ((Model.derivedId?_eq_some _ _).mpr named)

def redDot : Expr :=
  .compound
    [⟨⟨3⟩, 0, .ref (.enumerator ⟨0⟩ 0)⟩,
      ⟨⟨2⟩, 0, .bracket [.item (.literal (.integer 4)), .item (.literal (.integer 2))]⟩]

/-- A struct with a field of its own and one from its base, an enumeration likewise. -/
def paints : Model where
  name := "paints"
  collections := [⟨"Paints", .unknown, [], [⟨0⟩, ⟨1⟩, ⟨2⟩, ⟨3⟩, ⟨4⟩], [⟨0⟩]⟩]
  interfaces := []
  types :=
    [bareType "Basic" (.enumeration none [⟨"red", .unknown, [], none⟩]),
      bareType "Color" (.enumeration (some ⟨0⟩) [⟨"pink", .unknown, [], none⟩]),
      bareType "Point" (.struct none false
        [⟨"at", .unknown, [], ⟨.interval (some 0) (some 9), true⟩⟩]),
      bareType "Pixel" (.struct (some ⟨2⟩) false
        [⟨"color", .unknown, [], ⟨.derived ⟨1⟩, false⟩⟩]),
      bareType "Dot" (.alias (.derived ⟨3⟩))]
  constants := [⟨"dot", .unknown, .collection ⟨0⟩, [], ⟨.derived ⟨4⟩, false⟩, redDot⟩]

theorem redDot_initializer : paints.Initializer redDot := by
  refine .compound _ ?_
  rintro _ ⟨_, init, member⟩
  rcases List.mem_pair.mp member with rfl | rfl
  · exact .enumerator ⟨0⟩ 0 rfl
  · refine .bracket _ ?_
    intro value inner
    cases inner with
    | item _ _ member =>
        have written : value = .literal (.integer 4) ∨ value = .literal (.integer 2) := by
          simpa using member
        rcases written with rfl | rfl
        · exact .literal _
        · exact .literal _
    | key _ key value member => simp at member
    | value _ key value member => simp at member

theorem paints_basesAlike : paints.BasesAlike := by
  intro definition member base extended baseDefinition found
  simp only [paints, List.mem_cons, List.not_mem_nil, or_false] at member
  rcases member with rfl | rfl | rfl | rfl | rfl
  · nomatch extended
  · obtain ⟨⟩ := extended
    obtain rfl := Option.some.inj found
    rfl
  · nomatch extended
  · obtain ⟨⟩ := extended
    obtain rfl := Option.some.inj found
    rfl
  · nomatch extended

theorem redDot_denotes :
    fits paints redDot ⟨.derived ⟨4⟩, false⟩ = .ok () ∧
      paints.Denotes redDot ⟨.derived ⟨4⟩, false⟩ := by
  have accepted : fits paints redDot ⟨.derived ⟨4⟩, false⟩ = .ok () := rfl
  have acyclic := (typeOrder_exists paints).mp ⟨[⟨0⟩, ⟨1⟩, ⟨2⟩, ⟨3⟩, ⟨4⟩], rfl⟩
  let site : TypeSite := ⟨.constant ⟨0⟩, .collection ⟨0⟩, .derived ⟨4⟩⟩
  have member : site ∈ paints.typeSites := List.mem_of_getElem? (i := 3) rfl
  exact ⟨accepted, (fits_iff_denotes paints rfl acyclic paints_basesAlike site member false redDot
    redDot_initializer).mp accepted⟩

end FrancaAudit.Check
