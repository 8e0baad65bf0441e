import FrancaAudit.Model.Basic

/-!
The types of values, with aliases and array definitions looked through, and which values may stand
where others are expected.
-/

namespace FrancaAudit

/-- The type of a value. `named` is a struct, union, enumeration or map. -/
inductive ValueType
  | integer
  | float
  | boolean
  | string
  | byteBuffer
  | named (id : TypeId)
  | array (element : ValueType)
deriving DecidableEq

namespace ValueType

def ofPrimitive : Primitive → ValueType
  | .boolean => .boolean
  | .string => .string
  | .byteBuffer => .byteBuffer
  | .float | .double => .float
  | .int8 | .uint8 | .int16 | .uint16 | .int32 | .uint32 | .int64 | .uint64 => .integer

def isNumeric : ValueType → Bool
  | .integer | .float => true
  | _ => false

def label (model : Model) : ValueType → String
  | .integer => "integer"
  | .float => "float"
  | .boolean => "Boolean"
  | .string => "String"
  | .byteBuffer => "ByteBuffer"
  | .named id => model.typeName id
  | .array element => element.label model ++ "[]"

end ValueType

namespace Model

variable (model : Model)

def valueTypeWithin : Nat → TypeRef → Option ValueType
  | 0, _ => none
  | levels + 1, ref =>
      match model.resolveAlias ref with
      | none => none
      | some resolved =>
          match resolved.kind with
          | .primitive primitive => some (.ofPrimitive primitive)
          | .interval .. => some .integer
          | .derived id =>
              match model.type? id with
              | none => none
              | some definition =>
                  match definition.kind with
                  | .array element => (valueTypeWithin levels element).map .array
                  | _ => some (.named id)

/-- The value type of a declared type; none if an alias or array leads back to itself or out of
the model. Nested array definitions pass each type at most once. -/
def valueType (type : DeclaredType) : Option ValueType :=
  let scalar := model.valueTypeWithin (model.types.length + 1) type.ref
  if type.isArray then scalar.map .array else scalar

/-- A value of the second type may stand where the first is expected: an integer for a float, a
value of a type for one of its bases, and so on inside arrays. -/
def compatible : ValueType → ValueType → Bool
  | .float, .integer => true
  | .named expected, .named actual => expected = actual || expected ∈ model.baseTypes actual
  | .array expected, .array actual => compatible expected actual
  | expected, actual => expected = actual

def typeRefLabel (ref : TypeRef) : String :=
  let bound (value : Option Int64) : String :=
    match value with
    | none => "*"
    | some value => toString value.toInt
  match ref.kind with
  | .primitive primitive => primitive.label
  | .interval lower upper => "Integer(" ++ bound lower ++ ", " ++ bound upper ++ ")"
  | .derived id => model.typeName id

def declaredTypeLabel (type : DeclaredType) : String :=
  if type.isArray then model.typeRefLabel type.ref ++ "[]" else model.typeRefLabel type.ref

end Model

end FrancaAudit
