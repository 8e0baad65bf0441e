import FrancaAudit.Text.Digits
import FrancaAudit.Toml.Basic
import FrancaAudit.Width

/-!
Integers and floats of TOML.

A number that is written like one belongs to a document even if it has no value.
-/

namespace FrancaAudit.Toml

/-- Digits with single underscores between them; the flag tells that a digit came just before. -/
def isGrouped (isDigit : Char → Bool) : Bool → List Char → Bool
  | after, [] => after
  | after, char :: rest =>
      if char = '_' then after && isGrouped isDigit false rest
      else isDigit char && isGrouped isDigit true rest

def groupedValue (base : Nat) (digits : List Char) : Nat :=
  Text.digitsValue base (digits.filter (· ≠ '_'))

def splitSign : List Char → Bool × List Char
  | '-' :: rest => (true, rest)
  | '+' :: rest => (false, rest)
  | chars => (false, chars)

def isWhole : List Char → Bool
  | '0' :: rest => rest.isEmpty
  | digits => isGrouped Char.isDigit false digits

/-- Each underscore has digits of any base on both sides; the first argument comes before. -/
def hasFittingUnderscores : Char → List Char → Bool
  | _, [] => true
  | _, ['_'] => false
  | before, '_' :: after :: rest =>
      Text.isHexDigit before && Text.isHexDigit after && hasFittingUnderscores after rest
  | _, char :: rest => hasFittingUnderscores char rest

def isFloatChar (char : Char) : Bool := char = '.' || char = 'e' || char = 'E'

/-- What has an underscore behind its first decimal digits is written like an integer, whatever
stands apart from the underscores. -/
def isLooselyGrouped (chars : List Char) : Bool :=
  match chars.span Char.isDigit with
  | (first :: _, '_' :: rest) =>
      first ≠ '0' && !rest.any isFloatChar && hasFittingUnderscores first ('_' :: rest)
  | _ => false

/-- Integers beyond 128 bits have no value. -/
def boundedInteger (written : List Char) (value : Int) : Toml :=
  if (signedRange 128).1 ≤ value ∧ value ≤ (unsignedRange 128).2 then .integer value
  else .unvalued (String.ofList written)

/-- Grouped digits of a base that is marked in front of them. Without digits there is no value. -/
def radixInteger (written : List Char) (base : Nat) (isDigit : Char → Bool)
    (digits : List Char) : Option Toml :=
  if digits.isEmpty then some (.unvalued (String.ofList written))
  else if isGrouped isDigit false digits then
    some (boundedInteger written (groupedValue base digits))
  else none

def integer? (chars : List Char) : Option Toml :=
  match chars with
  | '0' :: 'x' :: digits => radixInteger chars 16 Text.isHexDigit digits
  | '0' :: 'o' :: digits =>
      radixInteger chars 8 (fun char => '0' ≤ char && char ≤ '7') digits
  | '0' :: 'b' :: digits =>
      radixInteger chars 2 (fun char => char = '0' || char = '1') digits
  | _ =>
      let (negative, digits) := splitSign chars
      if isWhole digits then
        let value : Int := groupedValue 10 digits
        some (boundedInteger chars (if negative then -value else value))
      else if isLooselyGrouped digits then some (.unvalued (String.ofList chars))
      else none

def isExponent : List Char → Bool
  | [] => true
  | char :: rest =>
      (char = 'e' || char = 'E') && isGrouped Char.isDigit false (splitSign rest).2

def isFraction : List Char → Bool
  | '.' :: rest =>
      let (digits, rest) := rest.span fun char => char.isDigit || char = '_'
      isGrouped Char.isDigit false digits && isExponent rest
  | chars => isExponent chars

def isNamedFloat (chars : List Char) : Bool :=
  chars = ['i', 'n', 'f'] || chars = ['n', 'a', 'n']

def isDecimalFloat (chars : List Char) : Bool :=
  let (whole, rest) := chars.span fun char => char.isDigit || char = '_'
  isWhole whole && !rest.isEmpty && isFraction rest

/-- From here on, numbers are nearer to the next power of two than to the largest double. -/
def overflowLimit : Nat := (wordCount 54 - 1) * wordCount 970

def overflowDigits : Nat := 309

/-- Only the digits before the point count, as the limit is whole. -/
def isOverflow (chars : List Char) : Bool :=
  let (mantissa, exponent) := chars.span fun char => char ≠ 'e' && char ≠ 'E'
  let digits := (mantissa.filter Char.isDigit).dropWhile (· = '0')
  let places := ((mantissa.dropWhile (· ≠ '.')).filter Char.isDigit).length
  let (negative, shift) := splitSign exponent.tail
  let shift : Int := groupedValue 10 shift
  let size := (digits.length : Int) - places + (if negative then -shift else shift)
  if digits.isEmpty || size < overflowDigits then false
  else if (overflowDigits : Int) < size then true
  else
    let whole := (digits ++ List.replicate overflowDigits '0').take overflowDigits
    overflowLimit ≤ Text.digitsValue 10 whole

def float? (chars : List Char) : Option Toml :=
  let (_, digits) := splitSign chars
  if isNamedFloat digits then some (.float (String.ofList chars))
  else if isDecimalFloat digits then
    some (if isOverflow digits then .unvalued (String.ofList chars)
      else .float (String.ofList chars))
  else none

end FrancaAudit.Toml
