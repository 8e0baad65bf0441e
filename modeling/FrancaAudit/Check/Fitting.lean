import FrancaAudit.Check.Folding
import FrancaAudit.Check.Inference

/-!
Whether a value fits a declared type.

The declared type says first what is wanted, with aliases looked through; then the expression is
held against that. A value whose type leads back to itself is let through, since the cycle is a
finding of its own.
-/

namespace FrancaAudit.Check

variable (model : Model)

inductive Misfit
  | outOfRange (value : Int) (wanted : TypeRef)
  | foreignEnumerator (owner : TypeId) (index : Nat) (wanted : TypeId)
  | unionCount (union : TypeId) (found : Nat)
  | noSuchElement (type : TypeId)
  | initializedTwice (element : String)
  | notInitialized (element : String)
  | inElement (element : String) (reason : Misfit)
  | entryWanted
  | entryFound (index : Nat)
  | inItem (index : Nat) (reason : Misfit)
  | otherType (wanted found : ValueType)
  | noType (wanted : ValueType)
deriving DecidableEq

def Misfit.message : Misfit → String
  | .outOfRange value wanted =>
      "value " ++ toString value ++ " is out of range for " ++ model.typeRefLabel wanted
  | .foreignEnumerator owner index wanted =>
      "enumerator '" ++ Model.nameOr ((model.enumerator? owner index).map (·.name)) ++
        "' belongs to " ++ model.typeName owner ++ ", not to " ++ model.typeName wanted
  | .unionCount union found =>
      "union " ++ model.typeName union ++ " is initialized by exactly one element, found " ++
        toString found
  | .noSuchElement type => model.typeName type ++ " has no element matching this initializer"
  | .initializedTwice element => "element '" ++ element ++ "' is initialized twice"
  | .notInitialized element => "element '" ++ element ++ "' is not initialized"
  | .inElement element reason => "element '" ++ element ++ "': " ++ reason.message
  | .entryWanted => "map initializer requires 'key => value' entries"
  | .entryFound index => "item " ++ toString index ++ " is a map entry"
  | .inItem index reason => "item " ++ toString index ++ ": " ++ reason.message
  | .otherType wanted found =>
      "expected " ++ wanted.label model ++ ", found " ++ found.label model
  | .noType wanted => "expression is not a valid " ++ wanted.label model ++ " value"

structure Range where
  lower : Option Int
  upper : Option Int
deriving DecidableEq

def Range.contains (range : Range) (value : Int) : Bool :=
  (range.lower.all fun lower => lower ≤ value) && (range.upper.all fun upper => value ≤ upper)

def byteRange : Range := ⟨some 0, some 255⟩

inductive Wanted
  | anything
  | integer (range : Range)
  | bytes
  | plain
  | enumeration (id : TypeId)
  | struct (id : TypeId)
  | union (id : TypeId)
  | array (element : TypeRef)
  | map (key value : TypeRef)

def wantedOfPrimitive (primitive : Primitive) : Wanted :=
  match primitive.range? with
  | some (least, greatest) => .integer ⟨some least, some greatest⟩
  | none => if primitive = .byteBuffer then .bytes else .plain

def wanted (resolved : TypeRef) : Wanted :=
  match resolved.kind with
  | .primitive primitive => wantedOfPrimitive primitive
  | .interval lower upper => .integer ⟨lower.map Int64.toInt, upper.map Int64.toInt⟩
  | .derived id =>
      match model.type? id with
      | none => .anything
      | some definition =>
          match definition.kind with
          | .struct .. => .struct id
          | .union .. => .union id
          | .enumeration .. => .enumeration id
          | .array element => .array element
          | .map key value => .map key value
          | .alias _ => .plain

def fitsByType (expr : Expr) (type : DeclaredType) : Except Misfit Unit :=
  match model.valueType type with
  | none => .ok ()
  | some wanted =>
      match infer model expr with
      | none => .error (.noType wanted)
      | some found =>
          if model.compatible wanted found then .ok () else .error (.otherType wanted found)

def fitsScalar (expr : Expr) (ref : TypeRef) : Except Misfit Unit :=
  fitsByType model expr ⟨ref, false⟩

/-- An integer whose value is known lies within the range; any other has an integer type. -/
def fitsRange (expr : Expr) (ref : TypeRef) (range : Range) : Except Misfit Unit :=
  match foldInt model expr with
  | some value => if range.contains value then .ok () else .error (.outOfRange value ref)
  | none => fitsScalar model expr ref

def fitBytes (ref : TypeRef) : List BracketItem → Nat → Except Misfit Unit
  | [], _ => .ok ()
  | .entry .. :: _, index => .error (.entryFound index)
  | .item value :: rest, index =>
      match fitsRange model value ref byteRange with
      | .error reason => .error (.inItem index reason)
      | .ok () => fitBytes ref rest (index + 1)

def fitsEnumeration (expr : Expr) (id : TypeId) (ref : TypeRef) : Except Misfit Unit :=
  match expr with
  | .ref (.enumerator owner index) =>
      if owner = id ∨ owner ∈ model.baseTypes id then .ok ()
      else .error (.foreignEnumerator owner index id)
  | _ => fitsScalar model expr ref

def initializedField? (fields : List Model.DeclaredField) (owner : TypeId) (index : Nat) :
    Option Model.DeclaredField :=
  fields.find? fun field => field.owner = owner ∧ field.index = index

def firstMissing? (fields : List Model.DeclaredField) (seen : List (TypeId × Nat)) :
    Option Model.DeclaredField :=
  fields.find? fun field => (field.owner, field.index) ∉ seen

def checkComplete (fields : List Model.DeclaredField) (seen : List (TypeId × Nat)) :
    Except Misfit Unit :=
  match firstMissing? fields seen with
  | none => .ok ()
  | some missing => .error (.notInitialized missing.field.name)

mutual
/-- The value fits the declared type; otherwise the first reason why not. -/
def fits : Expr → DeclaredType → Except Misfit Unit
  | .bracket items, ⟨ref, true⟩ => fitItems items 0 ref
  | expr, ⟨ref, true⟩ => fitsByType model expr ⟨ref, true⟩
  | expr, ⟨ref, false⟩ =>
      match model.resolveAlias ref with
      | none => .ok ()
      | some resolved =>
          match wanted model resolved, expr with
          | .anything, _ => .ok ()
          | .integer range, expr => fitsRange model expr resolved range
          | .bytes, .bracket items => fitBytes model resolved items 0
          | .enumeration id, expr => fitsEnumeration model expr id resolved
          | .struct id, .compound inits => fitFields inits id (model.allFields id) []
          | .union id, .compound inits => fitAlternative inits id
          | .array element, .bracket items => fitItems items 0 element
          | .map key value, .bracket items => fitEntries items key value
          | _, expr => fitsScalar model expr resolved

def fitItems : List BracketItem → Nat → TypeRef → Except Misfit Unit
  | [], _, _ => .ok ()
  | .entry .. :: _, index, _ => .error (.entryFound index)
  | .item value :: rest, index, element =>
      match fits value ⟨element, false⟩ with
      | .error reason => .error (.inItem index reason)
      | .ok () => fitItems rest (index + 1) element

def fitEntries : List BracketItem → TypeRef → TypeRef → Except Misfit Unit
  | [], _, _ => .ok ()
  | .item _ :: _, _, _ => .error .entryWanted
  | .entry key value :: rest, keyType, valueType =>
      match fits key ⟨keyType, false⟩ with
      | .error reason => .error reason
      | .ok () =>
          match fits value ⟨valueType, false⟩ with
          | .error reason => .error reason
          | .ok () => fitEntries rest keyType valueType

def fitFields : List FieldInit → TypeId → List Model.DeclaredField → List (TypeId × Nat) →
    Except Misfit Unit
  | [], _, fields, seen => checkComplete fields seen
  | ⟨owner, index, value⟩ :: rest, struct, fields, seen =>
      match initializedField? fields owner index with
      | none => .error (.noSuchElement struct)
      | some found =>
          if (owner, index) ∈ seen then .error (.initializedTwice found.field.name)
          else match fits value found.field.type with
            | .error reason => .error (.inElement found.field.name reason)
            | .ok () => fitFields rest struct fields ((owner, index) :: seen)

def fitAlternative : List FieldInit → TypeId → Except Misfit Unit
  | [⟨owner, index, value⟩], union =>
      match initializedField? (model.allFields union) owner index with
      | none => .error (.noSuchElement union)
      | some found =>
          match fits value found.field.type with
          | .error reason => .error (.inElement found.field.name reason)
          | .ok () => .ok ()
  | inits, union => .error (.unionCount union inits.length)
end

end FrancaAudit.Check
