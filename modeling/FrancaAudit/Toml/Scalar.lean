import FrancaAudit.Toml.DateTime
import FrancaAudit.Toml.Number

/-!
Booleans, numbers, dates and times: the values of TOML that are written without quotes or brackets.
-/

namespace FrancaAudit.Toml

def endsScalar (char : Char) : Bool :=
  [' ', '\t', '\r', '\n', '#', '=', ',', '[', ']', '\x7b', '\x7d'].contains char

def takeScalar (chars : List Char) : List Char × List Char :=
  let (written, rest) := chars.span fun char => !endsScalar char
  match takeDate? written, rest with
  | some (_, []), ' ' :: digit :: _ =>
      if digit.isDigit then
        let (time, rest) := (rest.drop 1).span fun char => !endsScalar char
        (written ++ ' ' :: time, rest)
      else (written, rest)
  | _, _ => (written, rest)

def scalar? (written : List Char) : Option Toml :=
  if written = ['t', 'r', 'u', 'e'] then some (.boolean true)
  else if written = ['f', 'a', 'l', 's', 'e'] then some (.boolean false)
  else (float? written).or (((dateTime? written).map .dateTime).or (integer? written))

end FrancaAudit.Toml
