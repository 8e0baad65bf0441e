/-!
TOML documents, and how headers and keys add to them.

A table remembers how it came into being, because that decides what may be added to it later: a
table that a header or a dotted key has defined is not defined again, and nothing is added to an
array or an inline table once it is written.
-/

namespace FrancaAudit

/-- What brought a table into being: its own header, a longer header that passes through it, or a
dotted key. -/
inductive TableOrigin
  | header
  | implied
  | dotted
deriving DecidableEq

inductive Toml
  | string (text : String)
  | boolean (value : Bool)
  | integer (value : Int)
  | float (written : String)
  /-- A number that is written like one, but is too large or lacks digits. It may stand wherever
  nobody asks for its value. -/
  | unvalued (written : String)
  | dateTime (text : String)
  | array (items : List Toml)
  | inlineTable (entries : List (String × Toml))
  | table (origin : TableOrigin) (entries : List (String × Toml))
  /-- The tables of an array of tables, in order. -/
  | tables (elements : List (List (String × Toml)))

namespace Toml

abbrev Entries := List (String × Toml)

def entries? : Toml → Option Entries
  | .inlineTable entries | .table _ entries => some entries
  | _ => none

def elements? : Toml → Option (List Toml)
  | .array items => some items
  | .tables elements => some (elements.map (.table .header))
  | _ => none

mutual
def hasValue : Toml → Bool
  | .unvalued _ => false
  | .array items => itemsHaveValues items
  | .inlineTable entries | .table _ entries => entriesHaveValues entries
  | .tables elements => elementsHaveValues elements
  | .string _ | .boolean _ | .integer _ | .float _ | .dateTime _ => true

def itemsHaveValues : List Toml → Bool
  | [] => true
  | item :: rest => hasValue item && itemsHaveValues rest

def entriesHaveValues : List (String × Toml) → Bool
  | [] => true
  | (_, value) :: rest => hasValue value && entriesHaveValues rest

def elementsHaveValues : List (List (String × Toml)) → Bool
  | [] => true
  | entries :: rest => entriesHaveValues entries && elementsHaveValues rest
end

def put (key : String) (value : Toml) : Entries → Entries
  | [] => [(key, value)]
  | (first, old) :: rest =>
      if first = key then (key, value) :: rest else (first, old) :: put key value rest

def updateLast {α : Type} (change : α → Option α) : List α → Option (List α)
  | [] => none
  | [last] => (change last).map ([·])
  | first :: rest => (updateLast change rest).map (first :: ·)

/-- Adds a value under a dotted key. Tables on the way are made as needed. A dotted key passes
through the tables that dotted keys have made, and on the way to one of them also through those
that longer headers have implied and through the last table of an array of tables. -/
def addValue : List String → String → Toml → Entries → Option Entries
  | [], key, value, entries =>
      if (entries.lookup key).isSome then none else some (entries ++ [(key, value)])
  | step :: path, key, value, entries =>
      match entries.lookup step with
      | none =>
          (addValue path key value []).map fun inner => put step (.table .dotted inner) entries
      | some (.table .dotted inner) =>
          (addValue path key value inner).map fun inner => put step (.table .dotted inner) entries
      | some (.table .implied inner) =>
          if path.isEmpty then none
          else
            (addValue path key value inner).map fun inner =>
              put step (.table .implied inner) entries
      | some (.tables elements) =>
          if path.isEmpty then none
          else
            (updateLast (addValue path key value) elements).map fun elements =>
              put step (.tables elements) entries
      | some _ => none

/-- Changes the table that the path of a header leads to. An array of tables stands for its last
table. -/
def updateAt (change : Entries → Option Entries) : List String → Entries → Option Entries
  | [], entries => change entries
  | step :: path, entries =>
      match entries.lookup step with
      | none => (updateAt change path []).map fun inner => put step (.table .implied inner) entries
      | some (.table origin inner) =>
          (updateAt change path inner).map fun inner => put step (.table origin inner) entries
      | some (.tables elements) =>
          (updateLast (updateAt change path) elements).map fun elements =>
            put step (.tables elements) entries
      | some _ => none

def defineTable (key : String) (entries : Entries) : Option Entries :=
  match entries.lookup key with
  | none => some (put key (.table .header []) entries)
  | some (.table .implied inner) => some (put key (.table .header inner) entries)
  | some _ => none

def extendTables (key : String) (entries : Entries) : Option Entries :=
  match entries.lookup key with
  | none => some (put key (.tables [[]]) entries)
  | some (.tables elements) => some (put key (.tables (elements ++ [[]])) entries)
  | some _ => none

end Toml

end FrancaAudit
