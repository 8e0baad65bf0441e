import FrancaAudit.Proofs.Check.ByteBuffer
import FrancaAudit.Proofs.Check.EnumeratorNumber
import FrancaAudit.Proofs.Check.EnumeratorValue

/-!
The integers in constants of array types.

An initializer is held against the declared type item by item, down to the integers, and each of
them against the range of the elements. A reference is held against the declared type of the
constant it leads to by the types of their values, and these say how deep arrays are nested, but not
which integers are inside. So along a chain of references the depth stays and the range may change.
-/

namespace FrancaAudit

open Check (Range)

def ValueType.nested : Nat → ValueType
  | 0 => .integer
  | depth + 1 => .array (nested depth)

namespace Model

variable (model : Model)

/-- Values of the type are so many arrays, one inside the other, of integers within the range. -/
def Nests (range : Range) : Nat → TypeRef → Prop
  | 0, ref => ∃ actual, Relation.ReflTransGen model.Aliases ref actual ∧ Admits actual.kind range
  | depth + 1, ref => ∃ actual id element, Relation.ReflTransGen model.Aliases ref actual ∧
      model.Names actual id (.array element) ∧ Nests range depth element

/-- The same for a declared type, which may be an array of its own. -/
inductive DeclaredNests (range : Range) : Nat → DeclaredType → Prop
  | single (depth : Nat) (ref : TypeRef) (nests : model.Nests range depth ref) :
      DeclaredNests range depth ⟨ref, false⟩
  | items (depth : Nat) (ref : TypeRef) (nests : model.Nests range depth ref) :
      DeclaredNests range (depth + 1) ⟨ref, true⟩

end Model

namespace Check

variable (model : Model)

theorem valuesHave_of_nests (range : Range) (depth : Nat) (ref : TypeRef)
    (nests : model.Nests range depth ref) : model.ValuesHave ref (.nested depth) := by
  induction depth generalizing ref with
  | zero =>
      obtain ⟨actual, path, admits⟩ := nests
      apply model.valuesHave_path ref actual _ path
      have settled := model.settled_of_admits actual range admits
      have wants := wanted_admits model actual range admits
      have typed := valueType_of_wanted model actual settled range wants
      cases (model.valueType_iff ⟨actual, false⟩ .integer).mp typed with
      | single _ _ values => exact values
  | succ depth ih =>
      obtain ⟨actual, id, element, path, names, inner⟩ := nests
      apply model.valuesHave_path ref actual _ path
      exact .array actual id element _ names (ih element inner)

theorem array_of_valuesHave (ref : TypeRef) (type : ValueType)
    (values : model.ValuesHave ref (.array type)) :
    ∃ actual id element, Relation.ReflTransGen model.Aliases ref actual ∧
      model.Names actual id (.array element) ∧ model.ValuesHave element type := by
  generalize same : ValueType.array type = whole at values
  induction values with
  | aliased ref actual whole aliases inner ih =>
      obtain ⟨last, id, element, path, rest⟩ := ih same
      exact ⟨last, id, element, .head aliases path, rest⟩
  | primitive ref primitive type kind holds => cases holds <;> simp at same
  | interval ref least greatest kind => simp at same
  | array ref id element inner names values ih =>
      obtain rfl := ValueType.array.inj same
      exact ⟨ref, id, element, .refl, names, values⟩
  | named ref id kind names final single => simp at same

theorem nests_of_valuesHave (depth : Nat) (ref : TypeRef)
    (values : model.ValuesHave ref (.nested depth)) : ∃ range, model.Nests range depth ref := by
  induction depth generalizing ref with
  | zero =>
      obtain ⟨actual, range, path, admits⟩ := admits_of_valuesHave model ref values
      exact ⟨range, actual, path, admits⟩
  | succ depth ih =>
      obtain ⟨actual, id, element, path, names, inner⟩ := array_of_valuesHave model ref _ values
      obtain ⟨range, nests⟩ := ih element inner
      exact ⟨range, actual, id, element, path, names, nests⟩

theorem valueType_of_nests (range : Range) (depth : Nat) (type : DeclaredType)
    (nests : model.DeclaredNests range depth type) :
    model.valueType type = some (.nested depth) := by
  apply (model.valueType_iff type _).mpr
  cases nests with
  | single _ ref nests => exact .single ref _ (valuesHave_of_nests model range depth ref nests)
  | items depth ref nests => exact .items ref _ (valuesHave_of_nests model range depth ref nests)

theorem nests_of_valueType (depth : Nat) (type : DeclaredType)
    (typed : model.valueType type = some (.nested (depth + 1))) :
    ∃ range, model.DeclaredNests range (depth + 1) type := by
  cases (model.valueType_iff type _).mp typed with
  | single ref _ values =>
      obtain ⟨range, nests⟩ := nests_of_valuesHave model (depth + 1) ref values
      exact ⟨range, .single _ ref nests⟩
  | items ref _ values =>
      obtain ⟨range, nests⟩ := nests_of_valuesHave model depth ref values
      exact ⟨range, .items _ ref nests⟩

theorem compatible_nested (depth : Nat) (found : ValueType)
    (suits : model.compatible (.nested depth) found) : found = .nested depth := by
  induction depth generalizing found with
  | zero => exact (compatible_exact model .integer found (Or.inl rfl)).mp suits
  | succ depth ih =>
      cases found with
      | array element => rw [ih element suits, ValueType.nested]
      | _ => simp [ValueType.nested, Model.compatible] at suits

/-- Each integer that is written down in the initializer lies within the range. -/
def LiteralsWithin (range : Range) (expr : Expr) : Prop :=
  ∀ value : Int64, Relation.ReflTransGen Model.Inside (.literal (.integer value)) expr →
    range.contains value.toInt

theorem infer_of_inside (inner expr : Expr) (inside : Model.Inside inner expr) :
    infer model expr = none := by
  cases inside <;> rfl

section Nests

variable (range : Range) (depth : Nat) (type : DeclaredType)
variable (nests : model.DeclaredNests range (depth + 1) type)

include nests

theorem infer_of_fits (expr : Expr) (other : ∀ items, expr ≠ .bracket items)
    (fitting : fits model expr type = .ok ()) :
    infer model expr = some (.nested (depth + 1)) := by
  have typed := valueType_of_nests model range (depth + 1) type nests
  have byType : fitsByType model expr type = .ok () := by
    cases nests with
    | single _ ref nests =>
        obtain ⟨actual, id, element, path, names, _⟩ := nests
        have settled := model.settled_of_names actual id _ names (by simp)
        have found := (model.resolveAlias_iff ref actual).mpr ⟨path, settled⟩
        rw [fits_resolved model ref actual found, wanted_names model actual id _ names] at fitting
        rw [fitsByType_alias model ref actual found]
        cases expr with
        | bracket items => exact absurd rfl (other items)
        | _ => exact fitting
    | items _ ref nests => rwa [fits_array model expr ref other] at fitting
  obtain ⟨found, inferred, suits⟩ := (fitsByType_typed model expr type _ typed).mp byType
  rw [inferred, compatible_nested model (depth + 1) found suits]

theorem items_of_fits (items : List BracketItem)
    (fitting : fits model (.bracket items) type = .ok ()) :
    ∃ element, model.Nests range depth element ∧
      Each .item (fun value => fits model value ⟨element, false⟩ = .ok ()) items := by
  cases nests with
  | single _ ref nests =>
      obtain ⟨actual, id, element, path, names, inner⟩ := nests
      have settled := model.settled_of_names actual id _ names (by simp)
      rw [fits_of_path model ref actual path settled, wanted_names model actual id _ names]
        at fitting
      exact ⟨element, inner, (fitItems_eq_ok model items 0 element).mp fitting⟩
  | items _ ref nests =>
      rw [fits_items] at fitting
      exact ⟨ref, nests, (fitItems_eq_ok model items 0 ref).mp fitting⟩

end Nests

theorem knownOr_of_fits (range : Range) (type : DeclaredType)
    (nests : model.DeclaredNests range 0 type) (expr : Expr)
    (fitting : fits model expr type = .ok ()) : KnownOr model range .integer expr := by
  cases nests with
  | single _ ref nests =>
      obtain ⟨actual, path, admits⟩ := nests
      have settled := model.settled_of_admits actual range admits
      have wants := wanted_admits model actual range admits
      rw [fits_of_path model ref actual path settled, wants] at fitting
      exact (fitsRange_knownOr model expr actual range .integer
        (valueType_of_wanted model actual settled range wants) (Or.inl rfl)).mp fitting

/-- Compounds and brackets have no value as a number, and no type of their own. -/
theorem not_knownOr_of_inside (range : Range) (type : ValueType) (inner expr : Expr)
    (inside : Model.Inside inner expr) : ¬ KnownOr model range type expr := by
  rintro (⟨value, folded, _⟩ | ⟨_, inferred⟩)
  · cases inside <;> simp [foldInt, foldWithin] at folded
  · simp [infer_of_inside model inner expr inside] at inferred

theorem item_of_inside (good : Expr → Prop) (items : List BracketItem)
    (each : Each .item good items) (inner : Expr) (inside : Model.Inside inner (.bracket items)) :
    good inner := by
  obtain ⟨values, rfl, all⟩ := each
  cases inside with
  | item _ _ member => exact all inner (by simpa using member)
  | key _ _ value member => simp at member
  | value _ key _ member => simp at member

-- The depth goes down by one for each array, and with it the initializer to one of its items.
theorem literalsWithin_of_fits (range : Range) (depth : Nat) (type : DeclaredType)
    (nests : model.DeclaredNests range depth type) (expr : Expr)
    (fitting : fits model expr type = .ok ()) : LiteralsWithin range expr := by
  intro value path
  induction depth generalizing type expr with
  | zero =>
      have known := knownOr_of_fits model range type nests expr fitting
      rcases Relation.ReflTransGen.cases_tail path with rfl | ⟨outer, _, inside⟩
      · rcases known with ⟨other, folded, contained⟩ | ⟨unknown, _⟩
        · obtain rfl : value.toInt = other := Option.some.inj folded
          exact contained
        · simp [foldInt, foldWithin] at unknown
      · exact absurd known (not_knownOr_of_inside model range .integer outer expr inside)
  | succ depth ih =>
      by_cases bracket : ∃ items, expr = .bracket items
      · obtain ⟨items, rfl⟩ := bracket
        rcases Relation.ReflTransGen.cases_tail path with same | ⟨outer, rest, inside⟩
        · simp at same
        · obtain ⟨element, inner, each⟩ :=
            items_of_fits model range depth type nests items fitting
          exact ih ⟨element, false⟩ (.single depth element inner) outer
            (item_of_inside _ items each outer inside) rest
      · -- the type of a literal, or of what stands around one, is no array
        have array := infer_of_fits model range depth type nests expr (not_exists.mp bracket) fitting
        rcases Relation.ReflTransGen.cases_tail path with rfl | ⟨outer, _, inside⟩
        · simp [infer, literalType, ValueType.nested] at array
        · simp [infer_of_inside model outer expr inside] at array

section Accepted

variable (accepted : hasErrors (checkModel model) = false)
variable (id : ConstantId) (definition : ConstantDef)
variable (found : model.constant? id = some definition)
variable (range : Range) (depth : Nat)
variable (nests : model.DeclaredNests range (depth + 1) definition.type)

include accepted found nests

theorem nests_of_reference (other : ConstantId)
    (refers : definition.value = .ref (.constant other)) :
    ∃ next own, model.constant? other = some next ∧
      model.DeclaredNests own (depth + 1) next.type := by
  have fitting := (constant_of_accepted model accepted id definition found).2
  rw [refers] at fitting
  have inferred := infer_of_fits model range depth definition.type nests _ (by simp) fitting
  obtain ⟨next, known, typed⟩ := (infer_constant model other _).mp inferred
  obtain ⟨own, ownNests⟩ := nests_of_valueType model depth next.type typed
  exact ⟨next, own, known, ownNests⟩

theorem nests_of_chain (last : ConstantId)
    (path : Relation.ReflTransGen model.RefersTo id last) :
    ∃ ending own, model.constant? last = some ending ∧
      model.DeclaredNests own (depth + 1) ending.type := by
  induction path with
  | refl => exact ⟨definition, range, found, nests⟩
  | tail _ step ih =>
      obtain ⟨middle, own, middleFound, middleNests⟩ := ih
      obtain ⟨again, same, refers⟩ := step
      obtain rfl := Option.some.inj (middleFound.symm.trans same)
      exact nests_of_reference model accepted _ middle middleFound own depth middleNests _ refers

end Accepted

/-- Where no error is found, a chain of references that starts at a constant of nested arrays of
integers ends at one whose arrays are nested as deep, and each integer written down there lies
within the range of that type. So it lies within the range of the first type as well if there are no
references, or if the last range is part of the first; otherwise it may not. -/
theorem literals_of_array (accepted : hasErrors (checkModel model) = false)
    (id last : ConstantId) (definition ending : ConstantDef)
    (found : model.constant? id = some definition)
    (path : Relation.ReflTransGen model.RefersTo id last)
    (ends : model.constant? last = some ending) (range : Range) (depth : Nat)
    (nests : model.DeclaredNests range (depth + 1) definition.type) :
    (∃ own, model.DeclaredNests own (depth + 1) ending.type ∧
      LiteralsWithin own ending.value) ∧
    (id = last → LiteralsWithin range ending.value) ∧
    ∀ own, model.DeclaredNests own (depth + 1) ending.type →
      (∀ value, own.contains value → range.contains value) →
      LiteralsWithin range ending.value := by
  have fitting := (constant_of_accepted model accepted last ending ends).2
  have within := fun own ownNests =>
    literalsWithin_of_fits model own (depth + 1) ending.type ownNests ending.value fitting
  refine ⟨?_, ?_, ?_⟩
  · -- the last constant has its own range, which its initializer was held against
    obtain ⟨again, own, same, ownNests⟩ :=
      nests_of_chain model accepted id definition found range depth nests last path
    obtain rfl := Option.some.inj (ends.symm.trans same)
    exact ⟨own, ownNests, within own ownNests⟩
  · rintro rfl
    obtain rfl := Option.some.inj (found.symm.trans ends)
    exact within range nests
  · intro own ownNests narrower value inside
    exact narrower value.toInt (within own ownNests value inside)

/-- Rows of percentages, of small integers and of digits. The first constant is an initializer, and
each of the others a reference to the one before it. -/
def tables : Model where
  name := "tables"
  collections := [⟨"Tables", .unknown, [], [⟨0⟩, ⟨1⟩, ⟨2⟩, ⟨3⟩], [⟨0⟩, ⟨1⟩, ⟨2⟩]⟩]
  interfaces := []
  types :=
    [bareType "Percent" (.alias (.interval (some 0) (some 100))),
      bareType "Shares" (.array (.derived ⟨0⟩)),
      bareType "Bytes" (.array (.primitive .int8)),
      bareType "Digits" (.array (.interval (some 0) (some 9)))]
  constants :=
    [⟨"SHARES", .unknown, .collection ⟨0⟩, [], ⟨.derived ⟨1⟩, true⟩,
        .bracket [.item (.bracket [.item (.literal (.integer 1))]),
          .item (.bracket [.item (.literal (.integer 100))])]⟩,
      ⟨"BYTES", .unknown, .collection ⟨0⟩, [], ⟨.derived ⟨2⟩, true⟩, .ref (.constant ⟨0⟩)⟩,
      ⟨"DIGITS", .unknown, .collection ⟨0⟩, [], ⟨.derived ⟨3⟩, true⟩, .ref (.constant ⟨1⟩)⟩]

theorem tables_shares : tables.DeclaredNests ⟨some 0, some 100⟩ 2 ⟨.derived ⟨1⟩, true⟩ := by
  have percent : tables.Aliases (.derived ⟨0⟩) (.interval (some 0) (some 100)) :=
    ⟨⟨0⟩, rfl, _, rfl, rfl⟩
  have cell : tables.Nests ⟨some 0, some 100⟩ 0 (.derived ⟨0⟩) :=
    ⟨_, .single percent, .interval (some 0) (some 100)⟩
  exact .items 1 _ ⟨_, ⟨1⟩, _, .refl, ⟨rfl, _, rfl, rfl⟩, cell⟩

/-- A percentage is a small integer, also in arrays and by reference. -/
theorem tables_bytes :
    hasErrors (checkModel tables) = false ∧ tables.RefersTo ⟨1⟩ ⟨0⟩ ∧
      (∀ value, Range.contains ⟨some 0, some 100⟩ value →
        Range.contains ⟨some (-128), some 127⟩ value) ∧
      ∃ ending, tables.constant? ⟨0⟩ = some ending ∧
        LiteralsWithin ⟨some (-128), some 127⟩ ending.value := by
  have accepted : hasErrors (checkModel tables) = false := rfl
  have refers : tables.RefersTo ⟨1⟩ ⟨0⟩ := ⟨_, rfl, rfl⟩
  have cell : tables.Nests ⟨some (-128), some 127⟩ 0 (.primitive .int8) :=
    ⟨_, .refl, .primitive .int8 (-128) 127 rfl⟩
  have bytes : tables.DeclaredNests ⟨some (-128), some 127⟩ 2 ⟨.derived ⟨2⟩, true⟩ :=
    .items 1 _ ⟨_, ⟨2⟩, _, .refl, ⟨rfl, _, rfl, rfl⟩, cell⟩
  have narrower : ∀ value, Range.contains ⟨some 0, some 100⟩ value →
      Range.contains ⟨some (-128), some 127⟩ value := by
    intro value
    rw [contains_iff, contains_iff]
    simp only [Option.mem_some_iff, forall_eq']
    omega
  obtain ⟨_, _, within⟩ :=
    literals_of_array tables accepted ⟨1⟩ ⟨0⟩ _ _ rfl (.single refers) rfl _ 1 bytes
  exact ⟨accepted, refers, narrower, _, rfl, within _ tables_shares narrower⟩

/-- No error is found, and a hundred is a digit: it is written down at the end of the references of
a constant that is declared with digits. -/
theorem tables_digits :
    tables.Linked ∧ hasErrors (checkModel tables) = false ∧
      ∃ definition ending, tables.constant? ⟨2⟩ = some definition ∧
        tables.DeclaredNests ⟨some 0, some 9⟩ 2 definition.type ∧
        Relation.ReflTransGen tables.RefersTo ⟨2⟩ ⟨0⟩ ∧ tables.constant? ⟨0⟩ = some ending ∧
        ¬ LiteralsWithin ⟨some 0, some 9⟩ ending.value := by
  have digit : tables.Nests ⟨some 0, some 9⟩ 0 (.interval (some 0) (some 9)) :=
    ⟨_, .refl, .interval (some 0) (some 9)⟩
  have digits : tables.DeclaredNests ⟨some 0, some 9⟩ 2 ⟨.derived ⟨3⟩, true⟩ :=
    .items 1 _ ⟨_, ⟨3⟩, _, .refl, ⟨rfl, _, rfl, rfl⟩, digit⟩
  have path : Relation.ReflTransGen tables.RefersTo ⟨2⟩ ⟨0⟩ :=
    .tail (.single ⟨_, rfl, rfl⟩) ⟨_, rfl, rfl⟩
  refine ⟨rfl, rfl, _, _, rfl, digits, path, rfl, ?_⟩
  intro within
  let row : Expr := .bracket [.item (.literal (.integer 100))]
  have hundred : Model.Inside (.literal (.integer 100)) row := .item _ _ (by simp)
  have last : Model.Inside row (.bracket [.item (.bracket [.item (.literal (.integer 1))]),
    .item row]) := .item _ _ (by simp)
  exact absurd (within 100 (.tail (.single hundred) last)) (by decide)

end Check

end FrancaAudit
