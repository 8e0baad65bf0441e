import FrancaAudit.Proofs.Check.Fitting
import FrancaAudit.Proofs.Check.Resolution

/-!
What an initializer denotes, and that the check of values finds it out.

The relation is given by rules, one for each way to write down a value. It says nothing about how
values are checked: an alias has the values of what it stands for, a struct has a value for each
of its fields, own or inherited, and so on.
-/

namespace FrancaAudit

namespace Model

variable (model : Model)

/-- The expression denotes a value of the declared type. -/
inductive Denotes : Expr → DeclaredType → Prop
  | aliased (expr : Expr) (ref actual : TypeRef) (aliases : model.Aliases ref actual)
      (inner : Denotes expr ⟨actual, false⟩) : Denotes expr ⟨ref, false⟩
  | integer (ref : TypeRef) (primitive : Primitive) (least greatest : Int) (value : Int64)
      (kind : ref.kind = .primitive primitive) (range : primitive.range? = some (least, greatest))
      (lower : least ≤ value.toInt) (upper : value.toInt ≤ greatest) :
      Denotes (.literal (.integer value)) ⟨ref, false⟩
  | bounded (ref : TypeRef) (least greatest : Option Int64) (value : Int64)
      (kind : ref.kind = .interval least greatest)
      (lower : ∀ bound ∈ least, bound.toInt ≤ value.toInt)
      (upper : ∀ bound ∈ greatest, value.toInt ≤ bound.toInt) :
      Denotes (.literal (.integer value)) ⟨ref, false⟩
  | whole (ref : TypeRef) (primitive : Primitive) (value : Int64)
      (kind : ref.kind = .primitive primitive)
      (floating : primitive = .float ∨ primitive = .double) :
      Denotes (.literal (.integer value)) ⟨ref, false⟩
  | float (ref : TypeRef) (primitive : Primitive) (value : Double)
      (kind : ref.kind = .primitive primitive)
      (floating : primitive = .float ∨ primitive = .double) :
      Denotes (.literal (.float value)) ⟨ref, false⟩
  | boolean (ref : TypeRef) (value : Bool) (kind : ref.kind = .primitive .boolean) :
      Denotes (.literal (.bool value)) ⟨ref, false⟩
  | string (ref : TypeRef) (value : String) (kind : ref.kind = .primitive .string) :
      Denotes (.literal (.string value)) ⟨ref, false⟩
  | bytes (ref : TypeRef) (values : List Int64) (kind : ref.kind = .primitive .byteBuffer)
      (each : ∀ value ∈ values, 0 ≤ value.toInt ∧ value.toInt ≤ 255) :
      Denotes (.bracket (values.map fun value => .item (.literal (.integer value)))) ⟨ref, false⟩
  | enumerator (ref : TypeRef) (id : TypeId) (base : Option TypeId)
      (enumerators : List Enumerator) (owner : TypeId) (index : Nat)
      (names : model.Names ref id (.enumeration base enumerators))
      (inherited : Relation.ReflTransGen model.TypeExtends id owner)
      (declared : (model.enumerator? owner index).isSome) :
      Denotes (.ref (.enumerator owner index)) ⟨ref, false⟩
  | struct (ref : TypeRef) (id : TypeId) (base : Option TypeId) (polymorphic : Bool)
      (fields : List Field) (inits : List FieldInit)
      (names : model.Names ref id (.struct base polymorphic fields))
      (covers : model.Covers id inits)
      (each : ∀ init ∈ inits, ∀ field, model.field? init.owner init.index = some field →
        Denotes init.value field.type) : Denotes (.compound inits) ⟨ref, false⟩
  | union (ref : TypeRef) (id : TypeId) (base : Option TypeId) (fields : List Field)
      (init : FieldInit) (field : Field) (names : model.Names ref id (.union base fields))
      (chosen : model.HasField id init.owner init.index field)
      (inner : Denotes init.value field.type) : Denotes (.compound [init]) ⟨ref, false⟩
  | array (ref : TypeRef) (id : TypeId) (element : TypeRef) (values : List Expr)
      (names : model.Names ref id (.array element))
      (each : ∀ value ∈ values, Denotes value ⟨element, false⟩) :
      Denotes (.bracket (values.map .item)) ⟨ref, false⟩
  | map (ref : TypeRef) (id : TypeId) (key value : TypeRef) (entries : List (Expr × Expr))
      (names : model.Names ref id (.map key value))
      (keys : ∀ entry ∈ entries, Denotes entry.1 ⟨key, false⟩)
      (values : ∀ entry ∈ entries, Denotes entry.2 ⟨value, false⟩) :
      Denotes (.bracket (entries.map fun entry => .entry entry.1 entry.2)) ⟨ref, false⟩
  | items (ref : TypeRef) (values : List Expr)
      (each : ∀ value ∈ values, Denotes value ⟨ref, false⟩) :
      Denotes (.bracket (values.map .item)) ⟨ref, true⟩

/-- The first expression stands directly inside the second, a compound or bracket. -/
inductive Inside : Expr → Expr → Prop
  | init (inits : List FieldInit) (init : FieldInit) (member : init ∈ inits) :
      Inside init.value (.compound inits)
  | item (items : List BracketItem) (value : Expr) (member : .item value ∈ items) :
      Inside value (.bracket items)
  | key (items : List BracketItem) (key value : Expr) (member : .entry key value ∈ items) :
      Inside key (.bracket items)
  | value (items : List BracketItem) (key value : Expr) (member : .entry key value ∈ items) :
      Inside value (.bracket items)

/-- An expression that a value is written down with: literals, enumerators of the model, and
compounds and brackets of such expressions. -/
inductive Initializer : Expr → Prop
  | literal (value : Literal) : Initializer (.literal value)
  | enumerator (owner : TypeId) (index : Nat)
      (resolves : (model.element? (.enumerator owner index)).isSome) :
      Initializer (.ref (.enumerator owner index))
  | compound (inits : List FieldInit)
      (each : ∀ value, Inside value (.compound inits) → Initializer value) :
      Initializer (.compound inits)
  | bracket (items : List BracketItem)
      (each : ∀ value, Inside value (.bracket items) → Initializer value) :
      Initializer (.bracket items)

/-- Every base of a type is a struct, union or enumeration like the type itself. -/
def BasesAlike : Prop :=
  ∀ definition ∈ model.types, ∀ base, definition.kind.HasBase base →
    ∀ baseDefinition, model.type? base = some baseDefinition →
      Check.sameKind definition.kind baseDefinition.kind

end Model

namespace Check

variable (model : Model)

def IntegerIn (range : Range) (expr : Expr) : Prop :=
  ∃ value : Int64, expr = .literal (.integer value) ∧ range.contains value.toInt

/-- What has a value of the wanted form, the values inside being left to the rules. -/
def Fulfils (expr : Expr) (ref : TypeRef) : Wanted → Prop
  | .anything => False
  | .integer range => IntegerIn range expr
  | .bytes => ∃ items, expr = .bracket items ∧ Each .item (IntegerIn byteRange) items
  | .plain => ∃ primitive literal, ref.kind = .primitive primitive ∧ expr = .literal literal ∧
      model.compatible (.ofPrimitive primitive) (literalType literal)
  | .enumeration id => ∃ owner index, expr = .ref (.enumerator owner index) ∧
      Relation.ReflTransGen model.TypeExtends id owner ∧ (model.enumerator? owner index).isSome
  | .struct id => ∃ inits, expr = .compound inits ∧ model.Covers id inits ∧
      ∀ init ∈ inits, ∀ field, model.field? init.owner init.index = some field →
        model.Denotes init.value field.type
  | .union id => ∃ init field, expr = .compound [init] ∧
      model.HasField id init.owner init.index field ∧ model.Denotes init.value field.type
  | .array element => ∃ items, expr = .bracket items ∧
      Each .item (fun value => model.Denotes value ⟨element, false⟩) items
  | .map key value => ∃ items, expr = .bracket items ∧
      Each entryOf (fun entry => model.Denotes entry.1 ⟨key, false⟩ ∧
        model.Denotes entry.2 ⟨value, false⟩) items

theorem wanted_primitive (ref : TypeRef) (primitive : Primitive)
    (kind : ref.kind = .primitive primitive) : wanted model ref = wantedOfPrimitive primitive := by
  simp [wanted, kind]

/-- What a type wants that is defined in this way. -/
def wantedOfKind (id : TypeId) : TypeKind → Wanted
  | .struct .. => .struct id
  | .union .. => .union id
  | .enumeration .. => .enumeration id
  | .array element => .array element
  | .map key value => .map key value
  | .alias _ => .plain

theorem wanted_names (ref : TypeRef) (id : TypeId) (kind : TypeKind)
    (names : model.Names ref id kind) : wanted model ref = wantedOfKind id kind := by
  obtain ⟨named, definition, found, rfl⟩ := names
  simp only [wanted, named, found]
  cases definition.kind <;> rfl

/-- Only a missing type is content with anything. -/
theorem wanted_ne_anything (ref : TypeRef) (settled : model.Settled ref) :
    wanted model ref ≠ .anything := by
  cases kind : ref.kind with
  | primitive primitive =>
      rw [wanted_primitive model ref primitive kind]
      cases primitive <;> simp [wantedOfPrimitive, Primitive.range?]
  | interval lower upper => simp [wanted, kind]
  | derived id =>
      obtain ⟨definition, names⟩ := model.names_of_resolves ref id settled.resolves kind
      rw [wanted_names model ref id _ names]
      cases definition <;> simp [wantedOfKind]

theorem fulfils_of_denotes (ref : TypeRef) (settled : model.Settled ref) (expr : Expr)
    (denotes : model.Denotes expr ⟨ref, false⟩) :
    Fulfils model expr ref (wanted model ref) := by
  cases denotes with
  | aliased expr ref actual aliases inner => exact absurd aliases (settled.final actual)
  | integer ref primitive least greatest value kind range lower upper =>
      rw [wanted_primitive model ref primitive kind, wantedOfPrimitive, range]
      exact ⟨value, rfl, by simp [Range.contains, lower, upper]⟩
  | bounded ref least greatest value kind lower upper =>
      simp only [wanted, kind]
      refine ⟨value, rfl, ?_⟩
      cases least <;> cases greatest <;> simp_all [Range.contains]
  | whole ref primitive value kind floating =>
      rw [wanted_primitive model ref primitive kind]
      rcases floating with rfl | rfl
      · exact ⟨_, _, kind, rfl, rfl⟩
      · exact ⟨_, _, kind, rfl, rfl⟩
  | float ref primitive value kind floating =>
      rw [wanted_primitive model ref primitive kind]
      rcases floating with rfl | rfl
      · exact ⟨_, _, kind, rfl, by simp [Model.compatible, ValueType.ofPrimitive, literalType]⟩
      · exact ⟨_, _, kind, rfl, by simp [Model.compatible, ValueType.ofPrimitive, literalType]⟩
  | boolean ref value kind =>
      rw [wanted_primitive model ref .boolean kind]
      exact ⟨_, _, kind, rfl, by simp [Model.compatible, ValueType.ofPrimitive, literalType]⟩
  | string ref value kind =>
      rw [wanted_primitive model ref .string kind]
      exact ⟨_, _, kind, rfl, by simp [Model.compatible, ValueType.ofPrimitive, literalType]⟩
  | bytes ref values kind each =>
      rw [wanted_primitive model ref .byteBuffer kind]
      refine ⟨_, rfl, values.map fun value => .literal (.integer value), by simp, ?_⟩
      intro other member
      obtain ⟨value, inside, rfl⟩ := List.mem_map.mp member
      exact ⟨value, rfl, by simp [Range.contains, byteRange, each value inside]⟩
  | enumerator ref id base enumerators owner index names inherited declared =>
      rw [wanted_names model ref id _ names]
      exact ⟨owner, index, rfl, inherited, declared⟩
  | struct ref id base polymorphic fields inits names covers each =>
      rw [wanted_names model ref id _ names]
      exact ⟨inits, rfl, covers, each⟩
  | union ref id base fields init field names chosen inner =>
      rw [wanted_names model ref id _ names]
      exact ⟨init, field, rfl, chosen, inner⟩
  | array ref id element values names each =>
      rw [wanted_names model ref id _ names]
      exact ⟨_, rfl, values, rfl, each⟩
  | map ref id key value entries names keys values =>
      rw [wanted_names model ref id _ names]
      exact ⟨_, rfl, entries, rfl, fun entry member => ⟨keys entry member, values entry member⟩⟩

theorem denotes_plain (ref : TypeRef) (primitive : Primitive) (literal : Literal)
    (kind : ref.kind = .primitive primitive) (plain : wantedOfPrimitive primitive = .plain)
    (suits : model.compatible (.ofPrimitive primitive) (literalType literal)) :
    model.Denotes (.literal literal) ⟨ref, false⟩ := by
  cases primitive <;> simp only [wantedOfPrimitive, Primitive.range?, reduceCtorEq,
    ↓reduceIte] at plain <;>
    cases literal <;> simp only [Model.compatible, ValueType.ofPrimitive, literalType,
      reduceCtorEq, decide_false, Bool.false_eq_true] at suits
  · exact .boolean ref _ kind
  · exact .whole ref .float _ kind (Or.inl rfl)
  · exact .float ref .float _ kind (Or.inl rfl)
  · exact .whole ref .double _ kind (Or.inr rfl)
  · exact .float ref .double _ kind (Or.inr rfl)
  · exact .string ref _ kind

theorem denotes_bytes (ref : TypeRef) (values : List Expr)
    (kind : ref.kind = .primitive .byteBuffer)
    (each : ∀ value ∈ values, IntegerIn byteRange value) :
    model.Denotes (.bracket (values.map .item)) ⟨ref, false⟩ := by
  -- the rule has the integers themselves, not the expressions they are written as
  have written : ∃ integers : List Int64,
      values = integers.map (fun value => .literal (.integer value)) ∧
        ∀ value ∈ integers, 0 ≤ value.toInt ∧ value.toInt ≤ 255 := by
    induction values with
    | nil => exact ⟨[], rfl, by simp⟩
    | cons first rest ih =>
        obtain ⟨integers, rfl, inside⟩ := ih fun value member =>
          each value (List.mem_cons_of_mem first member)
        obtain ⟨value, rfl, fits⟩ := each first List.mem_cons_self
        refine ⟨value :: integers, rfl, ?_⟩
        intro other member
        rcases List.mem_cons.mp member with rfl | later
        · simpa [Range.contains, byteRange] using fits
        · exact inside other later
  obtain ⟨integers, rfl, inside⟩ := written
  rw [List.map_map]
  exact .bytes ref integers kind inside

theorem denotes_of_fulfils (ref : TypeRef) (settled : model.Settled ref) (expr : Expr)
    (fulfils : Fulfils model expr ref (wanted model ref)) :
    model.Denotes expr ⟨ref, false⟩ := by
  cases kind : ref.kind with
  | primitive primitive =>
      rw [wanted_primitive model ref primitive kind] at fulfils
      -- primitives are integers, buffers or plain, and only the first have a range
      cases range : primitive.range? with
      | some bounds =>
          obtain ⟨least, greatest⟩ := bounds
          rw [wantedOfPrimitive, range] at fulfils
          obtain ⟨value, rfl, inside⟩ := fulfils
          obtain ⟨lower, upper⟩ : least ≤ value.toInt ∧ value.toInt ≤ greatest := by
            simpa [Range.contains] using inside
          exact .integer ref primitive least greatest value kind range lower upper
      | none =>
          by_cases buffer : primitive = .byteBuffer
          · subst buffer
            obtain ⟨_, rfl, values, rfl, each⟩ := fulfils
            exact denotes_bytes model ref values kind each
          · have plain : wantedOfPrimitive primitive = .plain := by
              simp [wantedOfPrimitive, range, buffer]
            rw [plain] at fulfils
            obtain ⟨other, literal, otherKind, rfl, suits⟩ := fulfils
            obtain rfl : primitive = other := by simpa [kind] using otherKind
            exact denotes_plain model ref primitive literal kind plain suits
  | interval least greatest =>
      simp only [wanted, kind] at fulfils
      obtain ⟨value, rfl, inside⟩ := fulfils
      simp only [Range.contains, Bool.and_eq_true, Option.all_map, Option.all_eq_true,
        decide_eq_true_eq] at inside
      exact .bounded ref least greatest value kind inside.1 inside.2
  | derived id =>
      obtain ⟨definition, names⟩ := Model.names_of_resolves model ref id settled.resolves kind
      rw [wanted_names model ref id _ names] at fulfils
      cases definition with
      | struct base polymorphic fields =>
          obtain ⟨inits, rfl, covers, each⟩ := fulfils
          exact .struct ref id base polymorphic fields inits names covers each
      | union base fields =>
          obtain ⟨init, field, rfl, chosen, inner⟩ := fulfils
          exact .union ref id base fields init field names chosen inner
      | enumeration base enumerators =>
          obtain ⟨owner, index, rfl, inherited, declared⟩ := fulfils
          exact .enumerator ref id base enumerators owner index names inherited declared
      | array element =>
          obtain ⟨_, rfl, values, rfl, each⟩ := fulfils
          exact .array ref id element values names each
      | map key value =>
          obtain ⟨_, rfl, entries, rfl, each⟩ := fulfils
          exact .map ref id key value entries names (fun entry member => (each entry member).1)
            fun entry member => (each entry member).2
      | «alias» actual => exact absurd ⟨id, names⟩ (settled.final actual)

/-- The rules at a reference that is no alias, read backwards. -/
theorem denotes_iff_fulfils (ref : TypeRef) (settled : model.Settled ref) (expr : Expr) :
    model.Denotes expr ⟨ref, false⟩ ↔ Fulfils model expr ref (wanted model ref) :=
  ⟨fulfils_of_denotes model ref settled expr, denotes_of_fulfils model ref settled expr⟩

theorem denotes_aliases (ref actual : TypeRef) (aliases : model.Aliases ref actual)
    (expr : Expr) : model.Denotes expr ⟨ref, false⟩ ↔ model.Denotes expr ⟨actual, false⟩ := by
  constructor
  · intro denotes
    obtain ⟨id, names⟩ := aliases
    -- every other rule is about a reference of another kind
    cases denotes with
    | aliased expr ref other otherAliases inner =>
        obtain ⟨_, otherNames⟩ := otherAliases
        have same := Model.names_unique model ref _ _ _ _ names otherNames
        obtain rfl : actual = other := by simpa using same.2
        exact inner
    | integer ref primitive least greatest value kind range lower upper => simp [names.1] at kind
    | bounded ref least greatest value kind lower upper => simp [names.1] at kind
    | whole ref primitive value kind floating => simp [names.1] at kind
    | float ref primitive value kind floating => simp [names.1] at kind
    | boolean ref value kind => simp [names.1] at kind
    | string ref value kind => simp [names.1] at kind
    | bytes ref values kind each => simp [names.1] at kind
    | enumerator ref other base enumerators owner index otherNames inherited declared =>
        exact absurd (Model.names_unique model ref _ _ _ _ names otherNames).2 (by simp)
    | struct ref other base polymorphic fields inits otherNames covers each =>
        exact absurd (Model.names_unique model ref _ _ _ _ names otherNames).2 (by simp)
    | union ref other base fields init field otherNames chosen inner =>
        exact absurd (Model.names_unique model ref _ _ _ _ names otherNames).2 (by simp)
    | array ref other element values otherNames each =>
        exact absurd (Model.names_unique model ref _ _ _ _ names otherNames).2 (by simp)
    | map ref other key value entries otherNames keys values =>
        exact absurd (Model.names_unique model ref _ _ _ _ names otherNames).2 (by simp)
  · exact .aliased expr ref actual aliases

theorem denotes_resolved (ref resolved : TypeRef)
    (path : Relation.ReflTransGen model.Aliases ref resolved) (expr : Expr) :
    model.Denotes expr ⟨ref, false⟩ ↔ model.Denotes expr ⟨resolved, false⟩ := by
  induction path with
  | refl => rfl
  | tail _ aliases ih => exact ih.trans (denotes_aliases model _ _ aliases expr)

theorem denotes_items (ref : TypeRef) (expr : Expr) :
    model.Denotes expr ⟨ref, true⟩ ↔
      ∃ items, expr = .bracket items ∧
        Each .item (fun value => model.Denotes value ⟨ref, false⟩) items := by
  constructor
  · intro denotes
    cases denotes with
    | items ref values each => exact ⟨_, rfl, values, rfl, each⟩
  · rintro ⟨_, rfl, values, rfl, each⟩
    exact .items ref values each

end Check

end FrancaAudit
