import FrancaAudit.Text.Printable

/-!
Texts between double quotes, with everything escaped that would not show on its own.
-/

namespace FrancaAudit.Text

def escapedCodePoint (char : Char) : List Char :=
  ['\\', 'u', '\x7b'] ++ Nat.toDigits 16 char.toNat ++ ['\x7d']

/-- Quotes, backslashes and common controls have an escape of one letter; a character that does
not show, or that would join the one before it, is given by its number. -/
def quotedChar (char : Char) : List Char :=
  match char with
  | '\x00' => ['\\', '0']
  | '\t' => ['\\', 't']
  | '\r' => ['\\', 'r']
  | '\n' => ['\\', 'n']
  | '\\' => ['\\', '\\']
  | '"' => ['\\', '"']
  | _ => if isGraphemeExtend char || !isPrintable char then escapedCodePoint char else [char]

def quoted (text : String) : String :=
  "\"" ++ String.ofList (text.toList.flatMap quotedChar) ++ "\""

end FrancaAudit.Text
