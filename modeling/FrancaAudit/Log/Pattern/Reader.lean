import FrancaAudit.Log.Pattern.Basic
import FrancaAudit.Text.Alphanumeric
import FrancaAudit.Text.Blank
import FrancaAudit.Text.Digits

/-!
From texts to patterns.

A pattern stands between braces itself and holds none that closes, so that everything that begins
with an opening brace and is not taken literally stays unfinished.
-/

namespace FrancaAudit.Log

namespace PatternText

/-- Drops white space and comments; the flag tells that a comment has begun. -/
def dropComments : Bool → List Char → List Char
  | _, [] => []
  | true, char :: rest => dropComments (char ≠ '\n') rest
  | false, char :: rest =>
      if Text.isWhiteSpace char then dropComments false rest
      else if char = '#' then dropComments true rest
      else char :: rest

/-- In spaced patterns, white space and comments do not count. -/
def skip (spaced : Bool) (chars : List Char) : List Char :=
  if spaced then dropComments false chars else chars

def takeHexDigits (spaced : Bool) : Nat → List Char → Option (List Char × List Char)
  | 0, chars => some ([], chars)
  | count + 1, chars =>
      match skip spaced chars with
      | digit :: rest =>
          if Text.isHexDigit digit then
            (takeHexDigits spaced count rest).map fun (digits, rest) => (digit :: digits, rest)
          else none
      | [] => none

def takeCodePoint (spaced : Bool) (count : Nat) (chars : List Char) :
    Option (PatternAtom × List Char) := do
  let (digits, rest) ← takeHexDigits spaced count chars
  let code := Text.digitsValue 16 digits
  guard code.isValidChar
  return (.literal (Char.ofNat code) (count = 2), rest)

def controls : List (Char × Char) :=
  [('a', '\x07'), ('f', '\x0c'), ('t', '\t'), ('n', '\n'), ('r', '\r'), ('v', '\x0b')]

/-- What stands behind a backslash. Of ASCII, everything but letters and digits can be escaped. -/
def takeEscape (spaced : Bool) : List Char → Option (PatternAtom × List Char)
  | [] => none
  | char :: rest =>
      if char = 'x' then takeCodePoint spaced 2 rest
      else if char = 'u' then takeCodePoint spaced 4 rest
      else if char = 'U' then takeCodePoint spaced 8 rest
      else if ['d', 's', 'w'].contains char then some (.shorthand false, rest)
      else if ['D', 'S', 'W'].contains char then some (.shorthand true, rest)
      else if ['A', 'z'].contains char then some (.edge, rest)
      else if ['b', 'B', '<', '>'].contains char then some (.wordEdge, rest)
      else
        match controls.lookup char with
        | some control => some (.literal control false, rest)
        | none =>
            if isAsciiChar char && !char.isAlphanum then some (.literal char false, rest)
            else none

def setNames : List String :=
  ["alnum", "alpha", "ascii", "blank", "cntrl", "digit", "graph", "lower", "print", "punct",
    "space", "upper", "word", "xdigit"]

def takeNamedSet? : List Char → Option (CharSet × List Char)
  | ':' :: rest =>
      let (negated, rest) := match rest with
        | '^' :: rest => (true, rest)
        | rest => (false, rest)
      match rest.span (· ≠ ':') with
      | (name, ':' :: ']' :: rest) =>
          if setNames.contains (String.ofList name) then some (.named negated, rest) else none
      | _ => none
  | _ => none

def takeSetAtom? (spaced : Bool) : List Char → Option (PatternAtom × List Char)
  | [] => none
  | '\\' :: rest => takeEscape spaced rest
  | char :: rest => some (.literal char false, rest)

/-- A character, a range or a shorthand. A dash in front of a bracket that closes or of another
dash makes no range. -/
def takeSetItem? (spaced : Bool) (chars : List Char) : Option (CharSet × List Char) := do
  let (first, rest) ← takeSetAtom? spaced chars
  match skip spaced rest with
  | '-' :: rest =>
      let after := (skip spaced rest).head?
      if after = some ']' || after = some '-' then single first ('-' :: rest)
      else
        match first, ← takeSetAtom? spaced (skip spaced rest) with
        | .literal first _, (.literal last _, rest) =>
            if first ≤ last then return (.range first last, rest) else none
        | _, _ => none
  | rest => single first rest
where
  single (atom : PatternAtom) (rest : List Char) : Option (CharSet × List Char) :=
    match atom with
    | .literal char _ => some (.range char char, rest)
    | .shorthand negated => some (.shorthand negated, rest)
    | .dot | .edge | .wordEdge => none

/-- A set that is being read. Its items stand in reverse; it is fresh as long as it holds nothing
but dashes. -/
structure OpenSet where
  negated : Bool
  fresh : Bool
  left : Option CharSet
  items : List CharSet

namespace OpenSet

def content (set : OpenSet) : CharSet :=
  let items := CharSet.ofItems set.items.reverse
  match set.left with
  | none => items
  | some left => .operation left items

def add (set : OpenSet) (item : CharSet) : OpenSet := { set with items := item :: set.items }

def start (spaced : Bool) (chars : List Char) : OpenSet × List Char :=
  match skip spaced chars with
  | '^' :: rest => (⟨true, true, none, []⟩, rest)
  | rest => (⟨false, true, none, []⟩, rest)

end OpenSet

/-- Reads a set up to the bracket that closes it, with the sets around it. At the start of a set
a bracket that closes stands for itself. -/
def takeSet (spaced : Bool) : Nat → OpenSet → List OpenSet → List Char →
    Option (CharSet × List Char)
  | 0, _, _, _ => none
  | steps + 1, set, outer, chars =>
      match skip spaced chars with
      | [] => none
      | char :: rest =>
          if set.fresh && char = '-' then
            takeSet spaced steps (set.add (.range '-' '-')) outer rest
          else if set.fresh && set.items.isEmpty && char = ']' then
            takeSet spaced steps { set.add (.range ']' ']') with fresh := false } outer rest
          else
            let set := { set with fresh := false }
            if char = '[' then
              match takeNamedSet? rest with
              | some (item, rest) => takeSet spaced steps (set.add item) outer rest
              | none =>
                  let (inner, rest) := OpenSet.start spaced rest
                  takeSet spaced steps inner (set :: outer) rest
            else if char = ']' then
              let closed := CharSet.brackets set.negated set.content
              match outer with
              | [] => some (closed, rest)
              | parent :: outer => takeSet spaced steps (parent.add closed) outer rest
            else if ['&', '-', '~'].contains char && rest.head? = some char then
              takeSet spaced steps { set with left := some set.content, items := [] } outer
                rest.tail
            else
              match takeSetItem? spaced (char :: rest) with
              | none => none
              | some (item, rest) => takeSet spaced steps (set.add item) outer rest

/-- What a parenthesis begins with: settings for the rest of the group around it, or a group,
which may have flags or a name. -/
inductive Opening
  | settings (flags : PatternFlags)
  | group (flags : PatternFlags) (name : Option String)

def isNameStart (char : Char) : Bool := char = '_' || Text.isAlphabetic char

def isNamePart (char : Char) : Bool :=
  ['_', '.', '[', ']'].contains char || Text.isAlphanumeric char

def takeName? (chars : List Char) : Option (String × List Char) :=
  match chars.span (· ≠ '>') with
  | (first :: others, _ :: rest) =>
      if isNameStart first && others.all isNamePart then
        some (String.ofList (first :: others), rest)
      else none
  | _ => none

def hasDuplicate : List Char → Bool
  | [] => false
  | char :: rest => rest.contains char || hasDuplicate rest

/-- Known letters, each at most once, with at most one dash that something follows. -/
def areFlags (flags : PatternFlags) : Bool :=
  flags.all ['i', 'm', 's', 'U', 'u', 'R', 'x', '-'].contains && !hasDuplicate flags &&
    flags.getLast? ≠ some '-'

def takeOpening? (chars : List Char) : Option (Opening × List Char) :=
  match chars with
  | '?' :: 'P' :: '<' :: rest | '?' :: '<' :: rest =>
      (takeName? rest).map fun (name, rest) => (.group [] (some name), rest)
  | '?' :: rest =>
      match rest.span fun char => char ≠ ':' && char ≠ ')' with
      | (_, []) => none
      | (flags, closing :: rest) =>
          if !areFlags flags then none
          else if closing = ':' then some (.group flags none, rest)
          else if flags.isEmpty then none
          else some (.settings flags, rest)
  | chars => some (.group [] none, chars)

/-- The branches and parts of a group so far, both in reverse, and whether it is spaced. -/
structure OpenGroup where
  flags : PatternFlags
  branches : List Pattern
  parts : List Pattern
  spaced : Bool

namespace OpenGroup

def start (flags : PatternFlags) (spaced : Bool) : OpenGroup :=
  ⟨flags, [], [], (flagState? flags 'x').getD spaced⟩

def add (group : OpenGroup) (part : Pattern) : OpenGroup :=
  { group with parts := part :: group.parts }

def content (group : OpenGroup) : Pattern :=
  let last := Pattern.ofParts group.parts.reverse
  if group.branches.isEmpty then last else .choice (last :: group.branches).reverse

def branch (group : OpenGroup) : OpenGroup :=
  { group with branches := Pattern.ofParts group.parts.reverse :: group.branches, parts := [] }

def set (group : OpenGroup) (flags : PatternFlags) : OpenGroup :=
  { group.add (.settings flags) with spaced := (flagState? flags 'x').getD group.spaced }

def repeatLast? (group : OpenGroup) : Option OpenGroup :=
  match group.parts with
  | [] | .settings _ :: _ => none
  | part :: parts => some { group with parts := .repeated part :: parts }

end OpenGroup

def takeAtom (spaced : Bool) (char : Char) (rest : List Char) :
    Option (PatternAtom × List Char) :=
  if char = '\\' then takeEscape spaced rest
  else if char = '.' then some (.dot, rest)
  else if char = '^' || char = '$' then some (.edge, rest)
  else some (.literal char false, rest)

/-- Reads the rest of a pattern, in a group with others around it, whose names are taken. -/
def read : Nat → OpenGroup → List OpenGroup → List String → List Char → Option Pattern
  | 0, _, _, _, _ => none
  | steps + 1, group, outer, names, chars =>
      match skip group.spaced chars with
      | [] => if outer.isEmpty then some group.content else none
      | '(' :: rest =>
          match takeOpening? (skip group.spaced rest) with
          | none => none
          | some (.settings flags, rest) => read steps (group.set flags) outer names rest
          | some (.group flags name, rest) =>
              if name.any names.contains then none
              else
                read steps (.start flags group.spaced) (group :: outer) (name.toList ++ names) rest
      | ')' :: rest =>
          match outer with
          | [] => none
          | parent :: outer =>
              read steps (parent.add (.group group.flags group.content)) outer names rest
      | '|' :: rest => read steps group.branch outer names rest
      | '[' :: rest =>
          let (set, rest) := OpenSet.start group.spaced rest
          match takeSet group.spaced (rest.length + 1) set [] rest with
          | none => none
          | some (set, rest) => read steps (group.add (.brackets set)) outer names rest
      | '\x7b' :: _ => none
      | char :: rest =>
          if ['?', '*', '+'].contains char then
            match group.repeatLast? with
            | none => none
            | some group =>
                read steps group outer names (match rest with
                  | '?' :: rest => rest
                  | rest => rest)
          else
            match takeAtom group.spaced char rest with
            | none => none
            | some (atom, rest) => read steps (group.add (.atom atom)) outer names rest

end PatternText

def Pattern.ofText (text : String) : Except PatternError Pattern :=
  match PatternText.read (text.length + 1) (.start [] false) [] [] text.toList with
  | none => .error .malformed
  | some pattern =>
      match pattern.error? with
      | some error => .error error
      | none => .ok pattern

end FrancaAudit.Log
