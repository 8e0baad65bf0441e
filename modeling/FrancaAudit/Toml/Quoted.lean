import FrancaAudit.Toml.Scalar

/-!
The strings of TOML: with and without escapes, on one line and on several.

Every reader starts behind the opening quotes, takes a number of steps that bounds its work, and
collects the characters in reverse. The ends of lines in a string stay as they are written.
-/

namespace FrancaAudit.Toml

/-- Control characters other than the tab stand in no string and no comment. -/
def isShown (char : Char) : Bool :=
  char = '\t' || (0x20 ≤ char.toNat && char.toNat ≠ 0x7F)

def apostrophe : Char := Char.ofNat 0x27

def isBlank (char : Char) : Bool := char = ' ' || char = '\t'

def takeNewLine? : List Char → Option (List Char × List Char)
  | '\n' :: rest => some (['\n'], rest)
  | '\r' :: '\n' :: rest => some (['\r', '\n'], rest)
  | _ => none

def newLine? (chars : List Char) : Option (List Char) := (takeNewLine? chars).map (·.2)

def takeCodePoint (count : Nat) (chars : List Char) : Option (Char × List Char) :=
  let digits := chars.take count
  let code := Text.digitsValue 16 digits
  if digits.length = count ∧ digits.all Text.isHexDigit ∧ code.isValidChar then
    some (Char.ofNat code, chars.drop count)
  else none

/-- The character that an escape stands for, read behind the backslash. -/
def takeEscape : List Char → Option (Char × List Char)
  | 'b' :: rest => some ('\x08', rest)
  | 't' :: rest => some ('\t', rest)
  | 'n' :: rest => some ('\n', rest)
  | 'f' :: rest => some ('\x0c', rest)
  | 'r' :: rest => some ('\r', rest)
  | 'e' :: rest => some ('\x1b', rest)
  | '"' :: rest => some ('"', rest)
  | '\\' :: rest => some ('\\', rest)
  | 'x' :: rest => takeCodePoint 2 rest
  | 'u' :: rest => takeCodePoint 4 rest
  | 'U' :: rest => takeCodePoint 8 rest
  | _ => none

def basicLine : Nat → List Char → List Char → Option (String × List Char)
  | 0, _, _ => none
  | _, [], _ => none
  | steps + 1, char :: rest, done =>
      if char = '"' then some (String.ofList done.reverse, rest)
      else if char = '\\' then
        match takeEscape rest with
        | none => none
        | some (meant, rest) => basicLine steps rest (meant :: done)
      else if isShown char then basicLine steps rest (char :: done)
      else none

def literalLine (chars : List Char) : Option (String × List Char) :=
  match chars.span fun char => char ≠ apostrophe && isShown char with
  | (content, quote :: rest) =>
      if quote = apostrophe then some (String.ofList content, rest) else none
  | (_, []) => none

/-- How many quotes end a string, and how many of them belong to its content: the last three close
it, and up to two may stand before them. -/
def closingQuotes (quote : Char) (chars : List Char) : Option (Nat × List Char) :=
  let count := min 5 (chars.takeWhile (· = quote)).length
  if 3 ≤ count then some (count - 3, chars.drop count) else none

def dropSpace : List Char → List Char
  | '\r' :: '\n' :: rest => dropSpace rest
  | char :: rest => if isBlank char || char = '\n' then dropSpace rest else char :: rest
  | [] => []

/-- A backslash at the end of a line joins it with the next text. -/
def joinedLine? (chars : List Char) : Option (List Char) :=
  (newLine? (chars.dropWhile isBlank)).map dropSpace

def basicLines : Nat → List Char → List Char → Option (String × List Char)
  | 0, _, _ => none
  | _, [], _ => none
  | steps + 1, char :: rest, done =>
      match closingQuotes '"' (char :: rest) with
      | some (count, rest) =>
          some (String.ofList (List.replicate count '"' ++ done).reverse, rest)
      | none =>
          match takeNewLine? (char :: rest) with
          | some (newLine, rest) => basicLines steps rest (newLine.reverse ++ done)
          | none =>
              if char = '\\' then
                match joinedLine? rest with
                | some rest => basicLines steps rest done
                | none =>
                    match takeEscape rest with
                    | none => none
                    | some (meant, rest) => basicLines steps rest (meant :: done)
              else if isShown char then basicLines steps rest (char :: done)
              else none

def literalLines : Nat → List Char → List Char → Option (String × List Char)
  | 0, _, _ => none
  | _, [], _ => none
  | steps + 1, char :: rest, done =>
      match closingQuotes apostrophe (char :: rest) with
      | some (count, rest) =>
          some (String.ofList (List.replicate count apostrophe ++ done).reverse, rest)
      | none =>
          match takeNewLine? (char :: rest) with
          | some (newLine, rest) => literalLines steps rest (newLine.reverse ++ done)
          | none => if isShown char then literalLines steps rest (char :: done) else none

/-- A line end right behind the opening quotes does not belong to the string. -/
def dropFirstLineEnd (chars : List Char) : List Char := (newLine? chars).getD chars

def singleLine? (chars : List Char) : Option (String × List Char) :=
  match chars with
  | [] => none
  | quote :: rest =>
      if quote = '"' then basicLine chars.length rest []
      else if quote = apostrophe then literalLine rest
      else none

def string? (chars : List Char) : Option (String × List Char) :=
  let opening := chars.take 3
  if opening = ['"', '"', '"'] then
    basicLines chars.length (dropFirstLineEnd (chars.drop 3)) []
  else if opening = [apostrophe, apostrophe, apostrophe] then
    literalLines chars.length (dropFirstLineEnd (chars.drop 3)) []
  else singleLine? chars

end FrancaAudit.Toml
