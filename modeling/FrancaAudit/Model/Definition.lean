import FrancaAudit.Model.Expression

/-!
Annotations, uses of types, and the definitions of types and constants.
-/

namespace FrancaAudit

structure Annotation where
  tag : String
  text : String
  span : Span
deriving DecidableEq

inductive AnnotationKind
  | description
  | author
  | experimental
  | deprecated
  | see
  | param
  | highVolume
  | highFrequency
  | sourceUri
  | sourceAlias
  | details
deriving DecidableEq

namespace AnnotationKind

def all : List AnnotationKind :=
  [.description, .author, .experimental, .deprecated, .see, .param, .highVolume, .highFrequency,
    .sourceUri, .sourceAlias, .details]

def tag : AnnotationKind → String
  | .description => "description"
  | .author => "author"
  | .experimental => "experimental"
  | .deprecated => "deprecated"
  | .see => "see"
  | .param => "param"
  | .highVolume => "high_volume"
  | .highFrequency => "high_frequency"
  | .sourceUri => "source_uri"
  | .sourceAlias => "source_alias"
  | .details => "details"

def ofTag? (tag : String) : Option AnnotationKind :=
  all.find? fun kind => kind.tag = tag

end AnnotationKind

def Annotation.kind? (item : Annotation) : Option AnnotationKind :=
  AnnotationKind.ofTag? item.tag

inductive Primitive
  | int8
  | uint8
  | int16
  | uint16
  | int32
  | uint32
  | int64
  | uint64
  | boolean
  | float
  | double
  | string
  | byteBuffer
deriving DecidableEq

namespace Primitive

def range? : Primitive → Option (Int × Int)
  | .int8 => some (signedRange 8)
  | .uint8 => some (unsignedRange 8)
  | .int16 => some (signedRange 16)
  | .uint16 => some (unsignedRange 16)
  | .int32 => some (signedRange 32)
  | .uint32 => some (unsignedRange 32)
  | .int64 => some (signedRange 64)
  | .uint64 => some (unsignedRange 64)
  | .boolean | .float | .double | .string | .byteBuffer => none

def label : Primitive → String
  | .int8 => "Int8"
  | .uint8 => "UInt8"
  | .int16 => "Int16"
  | .uint16 => "UInt16"
  | .int32 => "Int32"
  | .uint32 => "UInt32"
  | .int64 => "Int64"
  | .uint64 => "UInt64"
  | .boolean => "Boolean"
  | .float => "Float"
  | .double => "Double"
  | .string => "String"
  | .byteBuffer => "ByteBuffer"

def all : List Primitive :=
  [.int8, .uint8, .int16, .uint16, .int32, .uint32, .int64, .uint64, .boolean, .float, .double,
    .string, .byteBuffer]

def isInteger (primitive : Primitive) : Bool := primitive.range?.isSome

def isFloating : Primitive → Bool
  | .float | .double => true
  | _ => false

end Primitive

inductive TypeRefKind
  | primitive (primitive : Primitive)
  /-- The integers between two bounds, both included; a missing bound is open. -/
  | interval (lower upper : Option Int64)
  | derived (id : TypeId)
deriving DecidableEq

structure TypeRef where
  span : Span
  kind : TypeRefKind
deriving DecidableEq

namespace TypeRef

def primitive (primitive : Primitive) : TypeRef := ⟨.unknown, .primitive primitive⟩

def derived (id : TypeId) : TypeRef := ⟨.unknown, .derived id⟩

def interval (lower upper : Option Int64) : TypeRef := ⟨.unknown, .interval lower upper⟩

def derivedId? (ref : TypeRef) : Option TypeId :=
  match ref.kind with
  | .derived id => some id
  | _ => none

end TypeRef

/-- A use of a type where a value is declared. The flag makes it an array of that type. -/
structure DeclaredType where
  ref : TypeRef
  isArray : Bool
deriving DecidableEq

structure Field where
  name : String
  span : Span
  annotations : List Annotation
  type : DeclaredType

structure Enumerator where
  name : String
  span : Span
  annotations : List Annotation
  value : Option Expr

inductive TypeKind
  | struct (base : Option TypeId) (polymorphic : Bool) (fields : List Field)
  | union (base : Option TypeId) (fields : List Field)
  | enumeration (base : Option TypeId) (enumerators : List Enumerator)
  | array (element : TypeRef)
  | map (key value : TypeRef)
  | alias (actual : TypeRef)

namespace TypeKind

def base? : TypeKind → Option TypeId
  | .struct base .. | .union base _ | .enumeration base _ => base
  | .array _ | .map .. | .alias _ => none

def fields? : TypeKind → Option (List Field)
  | .struct _ _ fields | .union _ fields => some fields
  | .enumeration .. | .array _ | .map .. | .alias _ => none

def enumerators? : TypeKind → Option (List Enumerator)
  | .enumeration _ enumerators => some enumerators
  | _ => none

def fields (kind : TypeKind) : List Field := kind.fields?.getD []

def enumerators (kind : TypeKind) : List Enumerator := kind.enumerators?.getD []

def label : TypeKind → String
  | .struct .. => "struct"
  | .union .. => "union"
  | .enumeration .. => "enumeration"
  | .array _ => "array"
  | .map .. => "map"
  | .alias _ => "typedef"

def memberRefs : TypeKind → List TypeRef
  | .struct _ _ fields | .union _ fields => fields.map (·.type.ref)
  | .enumeration .. => []
  | .array element => [element]
  | .map key value => [key, value]
  | .alias actual => [actual]

end TypeKind

structure TypeDef where
  name : String
  span : Span
  owner : Owner
  annotations : List Annotation
  kind : TypeKind

structure ConstantDef where
  name : String
  span : Span
  owner : Owner
  annotations : List Annotation
  type : DeclaredType
  value : Expr

end FrancaAudit
