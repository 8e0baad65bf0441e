import FrancaAudit.Toml.Quoted

/-!
From the text of a TOML document to its tables.

Each reader takes a number of steps that bounds its work. Every step takes at least one character
off the text, so the length of the text is enough for a whole document.
-/

namespace FrancaAudit.Toml

def dropBlanks (chars : List Char) : List Char := chars.dropWhile isBlank

def finishLine (chars : List Char) : Option (List Char) :=
  let chars := match dropBlanks chars with
    | '#' :: rest => rest.dropWhile isShown
    | chars => chars
  if chars.isEmpty then some [] else newLine? chars

def dropFiller : Nat → List Char → Option (List Char)
  | 0, chars => some chars
  | steps + 1, chars =>
      match dropBlanks chars with
      | [] => some []
      | char :: rest =>
          if char = '#' || char = '\n' || char = '\r' then
            match finishLine (char :: rest) with
            | none => none
            | some rest => dropFiller steps rest
          else some (char :: rest)

def isBareKeyChar (char : Char) : Bool := char.isAlphanum || char = '_' || char = '-'

def simpleKey? (chars : List Char) : Option (String × List Char) :=
  match chars.span isBareKeyChar with
  | ([], rest) => singleLine? rest
  | (key, rest) => some (String.ofList key, rest)

/-- Keys, arrays and inline tables go no deeper than this. -/
def nestingLimit : Nat := 80

def keyPath? : Nat → List Char → Option (List String × List Char)
  | 0, _ => none
  | limit + 1, chars =>
      match simpleKey? chars with
      | none => none
      | some (key, rest) =>
          match dropBlanks rest with
          | '.' :: rest =>
              (keyPath? limit (dropBlanks rest)).map fun (path, rest) => (key :: path, rest)
          | rest => some ([key], rest)

def splitLast : List String → Option (List String × String)
  | [] => none
  | [last] => some ([], last)
  | first :: rest => (splitLast rest).map fun (path, last) => (first :: path, last)

/-- A dotted key and its equals sign, with lines that may end before and behind the sign. -/
def takeAssigned (chars : List Char) : Option (List String × List Char) := do
  let (keys, rest) ← keyPath? nestingLimit chars
  match ← dropFiller rest.length rest with
  | '=' :: rest => return (keys, ← dropFiller rest.length rest)
  | _ => none

mutual
def value? : Nat → Nat → List Char → Option (Toml × List Char)
  | 0, _, _ => none
  | _, _, [] => none
  | steps + 1, depth, char :: rest =>
      if char = '"' || char = apostrophe then
        (string? (char :: rest)).map fun (text, rest) => (.string text, rest)
      else if char = '[' then
        match depth with
        | 0 => none
        | depth + 1 => items? steps depth rest []
      else if char = '\x7b' then
        match depth with
        | 0 => none
        | depth + 1 => members? steps depth rest []
      else
        let (written, rest) := takeScalar (char :: rest)
        (scalar? written).map fun value => (value, rest)

def items? : Nat → Nat → List Char → List Toml → Option (Toml × List Char)
  | 0, _, _, _ => none
  | steps + 1, depth, chars, done =>
      match dropFiller chars.length chars with
      | none => none
      | some (']' :: rest) => some (.array done.reverse, rest)
      | some chars =>
          match value? steps depth chars with
          | none => none
          | some (item, rest) =>
              match dropFiller rest.length rest with
              | some (',' :: rest) => items? steps depth rest (item :: done)
              | some (']' :: rest) => some (.array (item :: done).reverse, rest)
              | _ => none

def members? : Nat → Nat → List Char → Entries → Option (Toml × List Char)
  | 0, _, _, _ => none
  | steps + 1, depth, chars, entries =>
      match dropFiller chars.length chars with
      | none => none
      | some ('\x7d' :: rest) => some (.inlineTable entries, rest)
      | some chars =>
          match member? steps depth chars entries with
          | none => none
          | some (entries, rest) =>
              match dropFiller rest.length rest with
              | some (',' :: rest) => members? steps depth rest entries
              | some ('\x7d' :: rest) => some (.inlineTable entries, rest)
              | _ => none

def member? : Nat → Nat → List Char → Entries → Option (Entries × List Char)
  | 0, _, _, _ => none
  | steps + 1, depth, chars, entries =>
      match takeAssigned chars with
      | none => none
      | some (keys, rest) =>
          match splitLast keys, value? steps depth rest with
          | some (path, key), some (value, rest) =>
              (addValue path key value entries).map fun entries => (entries, rest)
          | _, _ => none
end

/-- All tables read so far, and the path of the one that the next keys belong to. -/
structure Document where
  root : Entries
  current : List String

def headerPath? (closing : List Char) (chars : List Char) : Option (List String × List Char) :=
  match keyPath? nestingLimit (dropBlanks chars) with
  | none => none
  | some (path, rest) =>
      if rest.take closing.length = closing then
        (finishLine (rest.drop closing.length)).map fun rest => (path, rest)
      else none

/-- Opens the table of a header by `define`. -/
def Document.openTable (document : Document) (define : String → Entries → Option Entries)
    (path : List String) : Option Document := do
  let (outer, key) ← splitLast path
  let root ← updateAt (define key) outer document.root
  return ⟨root, path⟩

def Document.line? (document : Document) (chars : List Char) : Option (Document × List Char) :=
  match chars with
  | '[' :: '[' :: rest => do
      let (path, rest) ← headerPath? [']', ']'] rest
      return (← document.openTable extendTables path, rest)
  | '[' :: rest => do
      let (path, rest) ← headerPath? [']'] rest
      return (← document.openTable defineTable path, rest)
  | chars => do
      let (keys, rest) ← keyPath? nestingLimit chars
      let (path, key) ← splitLast keys
      match rest with
      | '=' :: rest =>
          let (value, rest) ← value? (4 * rest.length + 4) nestingLimit (dropBlanks rest)
          let root ← updateAt (addValue path key value) document.current document.root
          return (⟨root, document.current⟩, ← finishLine rest)
      | _ => none

def Document.read : Nat → Document → List Char → Option Document
  | 0, _, _ => none
  | steps + 1, document, chars =>
      match dropFiller chars.length chars with
      | none => none
      | some [] => some document
      | some chars =>
          match document.line? chars with
          | none => none
          | some (document, rest) => read steps document rest

/-- The root table of a document. A byte order mark in front is passed over. -/
def parse (text : String) : Option Entries :=
  let chars := match text.toList with
    | '\uFEFF' :: rest => rest
    | chars => chars
  (Document.read (chars.length + 1) ⟨[], []⟩ chars).map (·.root)

end FrancaAudit.Toml
