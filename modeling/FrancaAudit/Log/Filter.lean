import FrancaAudit.Log.Pattern.Reader

/-!
Which events are logged: directives that give a level to the targets that begin with a name.

A directive is a level, or a target, or both with an equals sign between; behind the target there
may stand, in brackets, a span and names of fields. Of the directives that match an event the most
specific one decides.
-/

namespace FrancaAudit.Log

inductive Level
  | error
  | warn
  | info
  | debug
  | trace
deriving DecidableEq

namespace Level

def name : Level → String
  | .error => "ERROR"
  | .warn => "WARN"
  | .info => "INFO"
  | .debug => "DEBUG"
  | .trace => "TRACE"

def rank : Level → Nat
  | .error => 1
  | .warn => 2
  | .info => 3
  | .debug => 4
  | .trace => 5

def all : List Level := [.error, .warn, .info, .debug, .trace]

end Level

/-- The most verbose level that passes; none lets nothing pass. -/
abbrev Threshold := Option Level

namespace Threshold

def rank : Threshold → Nat
  | none => 0
  | some level => level.rank

def admits (threshold : Threshold) (level : Level) : Bool := level.rank ≤ threshold.rank

def ofDigits? (text : String) : Option Threshold :=
  let digits := match text.toList with
    | '+' :: rest => rest
    | chars => chars
  if digits.isEmpty || !digits.all Char.isDigit then none
  else
    let number := Text.digitsValue 10 digits
    if number = 0 then some none else (Level.all.find? fun level => level.rank = number).map some

def ofName? (text : String) : Option Threshold :=
  if text.toLower = "off" then some none
  else (Level.all.find? fun level => level.name = text.toUpper).map some

def ofText? (text : String) : Option Threshold :=
  (ofDigits? text).or (ofName? text)

end Threshold

/-- A field that an event has to have; a directive may also ask for a value of it. -/
structure FieldPattern where
  name : String
  asksValue : Bool
deriving DecidableEq

structure Directive where
  threshold : Threshold
  target : Option String
  span : Option String
  fields : List FieldPattern
deriving DecidableEq

inductive DirectiveError
  | malformed
  | unusableField (error : PatternError)
  | unknownLevel
deriving DecidableEq

def DirectiveError.message : DirectiveError → String
  | .malformed => "invalid filter directive"
  | .unusableField error => "invalid field filter: " ++ error.message
  | .unknownLevel =>
      "error parsing level filter: expected one of \"off\", \"error\", \"warn\", \"info\", " ++
        "\"debug\", \"trace\", or a number 0-5"

namespace FieldPattern

def isExponent : List Char → Bool
  | [] => true
  | char :: rest =>
      let digits := match rest with
        | '+' :: digits | '-' :: digits => digits
        | digits => digits
      (char = 'e' || char = 'E') && !digits.isEmpty && digits.all Char.isDigit

def isDecimal (chars : List Char) : Bool :=
  let (whole, rest) := chars.span Char.isDigit
  let (fraction, rest) := match rest with
    | '.' :: rest => rest.span Char.isDigit
    | rest => ([], rest)
  !(whole.isEmpty && fraction.isEmpty) && isExponent rest

def isNumber (text : String) : Bool :=
  let unsigned := match text.toList with
    | '+' :: rest | '-' :: rest => rest
    | chars => chars
  isDecimal unsigned ||
    ["inf", "infinity", "nan"].contains (String.ofList unsigned).toLower

/-- A value is a number or a pattern that can be used. -/
def checkValue (text : String) : Except DirectiveError Unit :=
  if isNumber text then .ok ()
  else match Pattern.ofText text with
    | .ok _ => .ok ()
    | .error error => .error (.unusableField error)

/-- A name, or a name and a value. What follows a second equals sign does not count. -/
def ofText (text : String) : Except DirectiveError FieldPattern :=
  match text.splitOn "=" with
  | name :: value :: _ => do
      checkValue value
      return ⟨name, true⟩
  | _ => .ok ⟨text, false⟩

end FieldPattern

/-- The part of a directive that is being read, with the position where it starts. Positions count
bytes. -/
inductive Part
  | start
  | name (start : Nat)
  | span (start : Nat)
  | field (start : Nat)
  | afterFields
  | afterBrackets
  | level (start : Nat)

namespace Directive

/-- What a directive asks for as long as it does not say otherwise. -/
def everything : Directive := ⟨some .trace, none, none, []⟩

def dropBytes : Nat → List Char → List Char
  | 0, chars => chars
  | _, [] => []
  | bytes + 1, char :: rest => dropBytes (bytes + 1 - char.utf8Size) rest

def takeBytes : Nat → List Char → List Char
  | 0, _ => []
  | _, [] => []
  | bytes + 1, char :: rest => char :: takeBytes (bytes + 1 - char.utf8Size) rest

def cut (text : List Char) (start stop : Nat) : String :=
  String.ofList (takeBytes (stop - start) (dropBytes start text))

def withField (directive : Directive) (text : String) : Except DirectiveError Directive :=
  if text.isEmpty then .error .malformed
  else do return { directive with fields := directive.fields ++ [← FieldPattern.ofText text] }

def canStart (char : Char) : Bool :=
  char = '-' || char = ':' || char = '_' || Text.isAlphanumeric char

/-- Takes in the character at `position`; parts are cut from `text`. -/
def step (text : List Char) (directive : Directive) (part : Part) (position : Nat) (char : Char) :
    Except DirectiveError (Directive × Part) :=
  match part with
  | .start =>
      if char = '[' then .ok (directive, .span (position + 1))
      else if canStart char then .ok (directive, .name position)
      else .error .malformed
  | .name start =>
      let named := { directive with target := some (cut text start position) }
      if char = '=' then .ok (named, .level (position + 1))
      else if char = '[' then .ok (named, .span (position + 1))
      else .ok (directive, part)
  | .span start =>
      let name := cut text start position
      if char = ']' then .ok ({ directive with span := some name }, .afterBrackets)
      else if char = '\x7b' then
        .ok ({ directive with span := if name.isEmpty then none else some name },
          .field (position + 1))
      else .ok (directive, part)
  | .field start =>
      if char = '\x7d' then do
        return (← directive.withField (cut text start position), .afterFields)
      else .ok (directive, part)
  | .afterFields => if char = ']' then .ok (directive, .afterBrackets) else .error .malformed
  | .afterBrackets =>
      if char = '=' then .ok (directive, .level (position + 1)) else .error .malformed
  | .level _ => .ok (directive, part)

/-- A name alone is a level if it can be, and a target else. An empty level lets all pass. -/
def finish (text : List Char) (directive : Directive) (part : Part) :
    Except DirectiveError Directive :=
  match part with
  | .name start =>
      let name := String.ofList (dropBytes start text)
      match Threshold.ofText? name with
      | some threshold => .ok { directive with threshold }
      | none => .ok { directive with target := some name }
  | .level start =>
      let name := String.ofList (dropBytes start text)
      if name.isEmpty then .ok directive
      else match Threshold.ofText? name with
        | some threshold => .ok { directive with threshold }
        | none => .error .unknownLevel
  | .afterBrackets => .ok directive
  | .start | .span _ | .field _ | .afterFields => .error .malformed

def scan (text : List Char) : Directive → Part → Nat → List Char → Except DirectiveError Directive
  | directive, part, _, [] => finish text directive part
  | directive, part, position, char :: rest =>
      match step text directive part position char with
      | .error error => .error error
      | .ok (directive, part) => scan text directive part (position + char.utf8Size) rest

def trimmed (chars : List Char) : List Char :=
  ((chars.dropWhile Text.isWhiteSpace).reverse.dropWhile Text.isWhiteSpace).reverse

/-- The parts are told apart by the characters between the outer blanks, and cut at the positions
found there from the text with its blanks. -/
def ofText (text : String) : Except DirectiveError Directive :=
  scan text.toList everything .start 0 (trimmed text.toList)

/-- No span and no value of a field is asked for, so that the event alone decides. -/
def isStatic (directive : Directive) : Bool :=
  directive.span.isNone && directive.fields.all fun field => !field.asksValue

def admitsEvent (directive : Directive) (target : String) (fields : List String) : Bool :=
  (directive.target.all fun start => start.toList.isPrefixOf target.toList) &&
    directive.fields.all fun field => fields.contains field.name

/-- A directive with a target is more specific than one without, then the longer target, then the
greater number of fields, then the fields that come later by name. -/
def isMoreSpecific (first second : Directive) : Bool :=
  let size (directive : Directive) : Nat :=
    match directive.target with
    | none => 0
    | some target => target.utf8ByteSize + 1
  let names (directive : Directive) : List String := directive.fields.map (·.name)
  if size first ≠ size second then size second < size first
  else if first.fields.length ≠ second.fields.length then
    second.fields.length < first.fields.length
  else decide (names second < names first)

def decisive? (directives : List Directive) : Option Directive :=
  directives.foldl (fun best directive =>
    match best with
    | none => some directive
    | some best => if isMoreSpecific best directive then some best else some directive) none

end Directive

/-- The directives of a filter. Without any, only errors pass. -/
structure Filter where
  directives : List Directive

namespace Filter

def ofDirectives (directives : List Directive) : Filter :=
  if directives.isEmpty then ⟨[{ Directive.everything with threshold := some .error }]⟩
  else ⟨directives.filter Directive.isStatic⟩

def admits (filter : Filter) (level : Level) (target : String) (fields : List String) : Bool :=
  match Directive.decisive? (filter.directives.filter fun directive =>
      directive.admitsEvent target fields) with
  | none => false
  | some directive => directive.threshold.admits level

def split (text : String) : List String := (text.splitOn ",").filter (· ≠ "")

def ofText (text : String) : Except DirectiveError Filter := do
  return ofDirectives (← (split text).mapM Directive.ofText)

/-- The filter of the readable directives, and the others with what is wrong with them. -/
def ofTextLenient (text : String) : Filter × List (String × DirectiveError) :=
  let readings := (split text).map fun part => (part, Directive.ofText part)
  (ofDirectives (readings.filterMap fun (_, reading) => reading.toOption),
    readings.filterMap fun (part, reading) =>
      match reading with
      | .ok _ => none
      | .error error => some (part, error))

end Filter

end FrancaAudit.Log
