import FrancaAudit.Json.Basic

/-!
The lexemes of a JSON text.

Every lexeme is read off the front of the remaining characters and takes at least one of them, so
the length of the text bounds the number of lexemes.
-/

namespace FrancaAudit.Json

inductive Token
  | openArray
  | closeArray
  | openObject
  | closeObject
  | comma
  | colon
  | null
  | bool (value : Bool)
  | number (numeral : Numeral)
  | string (text : Option String)

def isSpace (char : Char) : Bool :=
  char = ' ' || char = '\t' || char = '\n' || char = '\r'

/-- One element of a string literal: a character, or a UTF-16 code unit given by its number. -/
inductive Piece
  | char (value : Char)
  | unit (code : Nat)

def unit? (digits : List Char) : Option Nat :=
  if digits.all Text.isHexDigit then some (Text.digitsValue 16 digits) else none

def escaped? (letter : Char) : Option Char :=
  match letter with
  | '"' => some '"'
  | '\\' => some '\\'
  | '/' => some '/'
  | 'b' => some '\x08'
  | 'f' => some '\x0c'
  | 'n' => some '\n'
  | 'r' => some '\r'
  | 't' => some '\t'
  | _ => none

/-- Reads a string literal after its opening quote; `done` holds the pieces in reverse. -/
def scanString : List Char → List Piece → Option (List Piece × List Char)
  | [], _ => none
  | '"' :: rest, done => some (done.reverse, rest)
  | '\\' :: 'u' :: a :: b :: c :: d :: rest, done =>
      match unit? [a, b, c, d] with
      | none => none
      | some code => scanString rest (.unit code :: done)
  | '\\' :: letter :: rest, done =>
      match escaped? letter with
      | none => none
      | some char => scanString rest (.char char :: done)
  | char :: rest, done =>
      if char.toNat < 0x20 then none else scanString rest (.char char :: done)

def isHighSurrogate (code : Nat) : Bool := 0xD800 ≤ code && code < 0xDC00

def isLowSurrogate (code : Nat) : Bool := 0xDC00 ≤ code && code < 0xE000

def joinSurrogates (high low : Nat) : Char :=
  Char.ofNat (0x10000 + 0x400 * (high - 0xD800) + (low - 0xDC00))

/-- The characters that the pieces spell; a surrogate outside a pair spells none. `done` holds the
characters in reverse. -/
def spell : List Piece → List Char → Option (List Char)
  | [], done => some done.reverse
  | .char char :: rest, done => spell rest (char :: done)
  | .unit high :: .unit low :: rest, done =>
      if isHighSurrogate high then
        if isLowSurrogate low then spell rest (joinSurrogates high low :: done) else none
      else if isLowSurrogate high then none
      else spell (.unit low :: rest) (Char.ofNat high :: done)
  | .unit code :: rest, done =>
      if isHighSurrogate code || isLowSurrogate code then none
      else spell rest (Char.ofNat code :: done)

def scanDigits (chars : List Char) : Option (List Char × List Char) :=
  match chars.span Char.isDigit with
  | ([], _) => none
  | (digits, rest) => some (digits, rest)

/-- A whole number has no leading zero: after a first `0` it ends. -/
def scanWhole : List Char → Option (List Char × List Char)
  | '0' :: rest => some (['0'], rest)
  | chars => scanDigits chars

def scanFraction : List Char → Option (Option (List Char) × List Char)
  | '.' :: rest => (scanDigits rest).map fun (digits, rest) => (some digits, rest)
  | chars => some (none, chars)

def scanSign : List Char → Bool × List Char
  | '-' :: rest => (true, rest)
  | '+' :: rest => (false, rest)
  | chars => (false, chars)

def scanExponent : List Char → Option (Option (Bool × List Char) × List Char)
  | char :: rest =>
      if char = 'e' || char = 'E' then
        let (negative, rest) := scanSign rest
        (scanDigits rest).map fun (digits, rest) => (some (negative, digits), rest)
      else some (none, char :: rest)
  | [] => some (none, [])

def scanNumber (negative : Bool) (chars : List Char) : Option (Numeral × List Char) := do
  let (whole, chars) ← scanWhole chars
  let (fraction, chars) ← scanFraction chars
  let (exponent, chars) ← scanExponent chars
  return (⟨negative, whole, fraction, exponent⟩, chars)

def Token.scan (char : Char) (rest : List Char) : Option (Token × List Char) :=
  match char with
  | '[' => some (.openArray, rest)
  | ']' => some (.closeArray, rest)
  | '\x7b' => some (.openObject, rest)
  | '\x7d' => some (.closeObject, rest)
  | ',' => some (.comma, rest)
  | ':' => some (.colon, rest)
  | '"' => (scanString rest []).map fun (pieces, rest) =>
      (.string ((spell pieces []).map String.ofList), rest)
  | '-' => (scanNumber true rest).map fun (numeral, rest) => (.number numeral, rest)
  | 'n' => match rest with
      | 'u' :: 'l' :: 'l' :: rest => some (.null, rest)
      | _ => none
  | 't' => match rest with
      | 'r' :: 'u' :: 'e' :: rest => some (.bool true, rest)
      | _ => none
  | 'f' => match rest with
      | 'a' :: 'l' :: 's' :: 'e' :: rest => some (.bool false, rest)
      | _ => none
  | _ => (scanNumber false (char :: rest)).map fun (numeral, rest) => (.number numeral, rest)

def Token.scanAll : Nat → List Char → List Token → Option (List Token)
  | _, [], done => some done.reverse
  | 0, _ :: _, _ => none
  | fuel + 1, char :: rest, done =>
      if isSpace char then scanAll fuel rest done
      else match Token.scan char rest with
        | none => none
        | some (token, rest) => scanAll fuel rest (token :: done)

def tokens (text : String) : Option (List Token) :=
  let chars := text.toList
  Token.scanAll chars.length chars []

end FrancaAudit.Json
