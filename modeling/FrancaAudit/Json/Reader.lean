import FrancaAudit.Json.Token

/-!
From lexemes to a tree.

The reader is a machine over a stack of unfinished arrays and objects, so a document may nest as
deep as it likes; a limit on nesting belongs to whoever gives the tree a meaning.
-/

namespace FrancaAudit.Json

/-- An unfinished array or object around the place being read. Items and members stand in reverse;
an object keeps the key whose value is being read. -/
inductive Frame
  | array (items : List Json)
  | object (members : List (Option String × Json)) (key : Option String)

inductive Reading
  | atValue (outer : List Frame)
  | atFirstItem (outer : List Frame)
  | atFirstKey (outer : List Frame)
  | atKey (members : List (Option String × Json)) (outer : List Frame)
  | atColon (members : List (Option String × Json)) (key : Option String) (outer : List Frame)
  | after (value : Json) (outer : List Frame)

def Reading.startValue (outer : List Frame) : Token → Option Reading
  | .openArray => some (.atFirstItem outer)
  | .openObject => some (.atFirstKey outer)
  | .null => some (.after .null outer)
  | .bool value => some (.after (.bool value) outer)
  | .number numeral => some (.after (.number numeral) outer)
  | .string text => some (.after (.string text) outer)
  | .closeArray | .closeObject | .comma | .colon => none

def Reading.step : Reading → Token → Option Reading
  | .atValue outer, token => startValue outer token
  | .atFirstItem outer, .closeArray => some (.after (.array []) outer)
  | .atFirstItem outer, token => startValue (.array [] :: outer) token
  | .atFirstKey outer, .closeObject => some (.after (.object []) outer)
  | .atFirstKey outer, .string key => some (.atColon [] key outer)
  | .atKey members outer, .string key => some (.atColon members key outer)
  | .atColon members key outer, .colon => some (.atValue (.object members key :: outer))
  | .after value (.array items :: outer), .comma =>
      some (.atValue (.array (value :: items) :: outer))
  | .after value (.array items :: outer), .closeArray =>
      some (.after (.array (value :: items).reverse) outer)
  | .after value (.object members key :: outer), .comma =>
      some (.atKey ((key, value) :: members) outer)
  | .after value (.object members key :: outer), .closeObject =>
      some (.after (.object ((key, value) :: members).reverse) outer)
  | _, _ => none

def Reading.run : Reading → List Token → Option Reading
  | reading, [] => some reading
  | reading, token :: rest =>
      match reading.step token with
      | none => none
      | some reading => run reading rest

def parse (text : String) : Option Json := do
  match ← (Reading.atValue []).run (← tokens text) with
  | .after value [] => some value
  | _ => none

end FrancaAudit.Json
