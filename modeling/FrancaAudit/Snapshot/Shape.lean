import FrancaAudit.Json.Double
import FrancaAudit.Json.Reader

/-!
The shapes that values take in a snapshot.

A record is an object, or an array of its fields in the order of declaration. A choice is an
object whose only key names the alternative; an alternative that carries nothing may also be
written as its bare name. Arrays and objects may be entered up to a limit, which each reader is
given as the number of levels that are left.
-/

namespace FrancaAudit.Snapshot

/-- Reads a value, with so many levels of nesting left. -/
abbrev Read (α : Type) := Nat → Json → Option α

def nestingLimit : Nat := 127

def bool : Read Bool
  | _, .bool value => some value
  | _, _ => none

def text : Read String
  | _, .string value => value
  | _, _ => none

def null : Read Unit
  | _, .null => some ()
  | _, _ => none

def integerWithin (range : Int × Int) : Read Int
  | _, .number numeral => do
      let value ← numeral.toInt?
      if range.1 ≤ value ∧ value ≤ range.2 then some value else none
  | _, _ => none

def natural : Read Nat := fun depth json =>
  (integerWithin (unsignedRange 64) depth json).map Int.toNat

def int64 : Read Int64 := fun depth json =>
  (integerWithin (signedRange 64) depth json).map Int64.ofInt

def double : Read Double
  | _, .number numeral => numeral.toDouble?
  | _, _ => none

def optional {α : Type} (read : Read α) : Read (Option α)
  | _, .null => some none
  | depth, json => (read depth json).map some

def list {α : Type} (read : Read α) : Read (List α)
  | depth + 1, .array items => items.mapM (read depth)
  | _, _ => none

/-- The fields that are present, and the levels left for their values. -/
structure Record where
  depth : Nat
  fields : List (String × Json)

def distinct : List String → Bool
  | [] => true
  | key :: rest => !rest.contains key && distinct rest

/-- Keys that name no field are passed over; a field may not be given twice, and an array may not
have more items than there are fields. -/
def record (names : List String) : Read Record
  | depth + 1, .object members => do
      let members ← members.mapM fun (key, value) => key.map fun key => (key, value)
      let fields := members.filter fun (key, _) => names.contains key
      if distinct (fields.map (·.1)) then some ⟨depth, fields⟩ else none
  | depth + 1, .array items =>
      if items.length ≤ names.length then some ⟨depth, names.zip items⟩ else none
  | _, _ => none

namespace Record

def required {α : Type} (record : Record) (name : String) (read : Read α) : Option α := do
  read record.depth (← record.fields.lookup name)

def orElse {α : Type} (record : Record) (name : String) (read : Read α) (absent : α) : Option α :=
  match record.fields.lookup name with
  | none => some absent
  | some json => read record.depth json

def listOf {α : Type} (record : Record) (name : String) (read : Read α) : Option (List α) :=
  record.orElse name (list read) []

def optionOf {α : Type} (record : Record) (name : String) (read : Read α) : Option (Option α) :=
  record.orElse name (optional read) none

def flag (record : Record) (name : String) : Option Bool :=
  record.orElse name bool false

end Record

structure Choice where
  name : String
  carried : Option (Nat × Json)

def choice : Read Choice
  | _, .string name => name.map fun name => ⟨name, none⟩
  | depth + 1, .object [(some name, carried)] => some ⟨name, some (depth, carried)⟩
  | _, _ => none

namespace Choice

def carrying {α : Type} (choice : Choice) (read : Read α) : Option α := do
  let (depth, json) ← choice.carried
  read depth json

/-- The alternative carries nothing, or an explicit null. -/
def bare {α : Type} (choice : Choice) (value : α) : Option α :=
  match choice.carried with
  | none => some value
  | some (depth, json) => (null depth json).map fun _ => value

end Choice

def oneOf {α : Type} (names : List (String × α)) : Read α := fun depth json => do
  let choice ← choice depth json
  choice.bare (← names.lookup choice.name)

end FrancaAudit.Snapshot
