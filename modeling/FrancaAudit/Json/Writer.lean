import FrancaAudit.Json.Basic

/-!
JSON text, on one line or indented by two spaces.
-/

namespace FrancaAudit.Json

def hexDigit (value : Nat) : Char :=
  (Nat.toDigits 16 value).getLastD '0'

/-- Quotes, backslashes and control characters are escaped, by a letter where there is one. -/
def escapeChar (char : Char) : List Char :=
  match char with
  | '"' => ['\\', '"']
  | '\\' => ['\\', '\\']
  | '\x08' => ['\\', 'b']
  | '\x0c' => ['\\', 'f']
  | '\n' => ['\\', 'n']
  | '\r' => ['\\', 'r']
  | '\t' => ['\\', 't']
  | _ =>
      if char.toNat < 0x20 then
        ['\\', 'u', '0', '0', hexDigit (char.toNat / 16), hexDigit (char.toNat % 16)]
      else [char]

def writeString (text : String) : String :=
  "\"" ++ String.ofList (text.toList.flatMap escapeChar) ++ "\""

def writeNumeral (numeral : Numeral) : String :=
  let sign := if numeral.negative then "-" else ""
  let fraction := match numeral.fraction with
    | none => ""
    | some digits => "." ++ String.ofList digits
  let exponent := match numeral.exponent with
    | none => ""
    | some (negative, digits) => (if negative then "e-" else "e") ++ String.ofList digits
  sign ++ String.ofList numeral.whole ++ fraction ++ exponent

/-- The separators of a layout at each depth: after an opening bracket, between items, before the
closing bracket, and after the colon. -/
structure Layout where
  opening : Nat → String
  between : Nat → String
  closing : Nat → String
  afterColon : String

def compact : Layout :=
  ⟨fun _ => "", fun _ => ",", fun _ => "", ""⟩

def newLine (depth : Nat) : String :=
  String.ofList ('\n' :: List.replicate (2 * depth) ' ')

def indented : Layout :=
  ⟨fun depth => newLine (depth + 1), fun depth => "," ++ newLine (depth + 1), newLine, " "⟩

def bracketed (layout : Layout) (depth : Nat) (opening closing : String) :
    List String → String
  | [] => opening ++ closing
  | items =>
      opening ++ layout.opening depth ++ String.intercalate (layout.between depth) items ++
        layout.closing depth ++ closing

mutual
def write (layout : Layout) (depth : Nat) : Json → String
  | .null => "null"
  | .bool value => if value then "true" else "false"
  | .number numeral => writeNumeral numeral
  | .string text => writeString (text.getD "")
  | .array items => bracketed layout depth "[" "]" (writeItems layout (depth + 1) items)
  | .object members =>
      bracketed layout depth "\x7b" "\x7d" (writeMembers layout (depth + 1) members)

def writeItems (layout : Layout) (depth : Nat) : List Json → List String
  | [] => []
  | item :: rest => write layout depth item :: writeItems layout depth rest

def writeMembers (layout : Layout) (depth : Nat) : List (Option String × Json) → List String
  | [] => []
  | (key, value) :: rest =>
      (writeString (key.getD "") ++ ":" ++ layout.afterColon ++ write layout depth value) ::
        writeMembers layout depth rest
end

def toCompactText (json : Json) : String := write compact 0 json

def toIndentedText (json : Json) : String := write indented 0 json

end FrancaAudit.Json
