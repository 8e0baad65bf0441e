import FrancaAudit.Text.Digits

/-!
Dates and times of TOML, and the one text that each of them has.

Each reader gives the text of what it takes off the front, together with the rest.
-/

namespace FrancaAudit.Toml

def number? (chars : List Char) : Option Nat :=
  if chars.all Char.isDigit then some (Text.digitsValue 10 chars) else none

def isLeapYear (year : Nat) : Bool :=
  year % 4 = 0 && (year % 100 ≠ 0 || year % 400 = 0)

def daysInMonth (year month : Nat) : Nat :=
  if month = 2 then (if isLeapYear year then 29 else 28)
  else if month = 4 || month = 6 || month = 9 || month = 11 then 30
  else 31

/-- Four digits, two and two. -/
def takeDate? (chars : List Char) : Option (List Char × List Char) :=
  match chars with
  | y1 :: y2 :: y3 :: y4 :: '-' :: m1 :: m2 :: '-' :: d1 :: d2 :: rest =>
      match number? [y1, y2, y3, y4], number? [m1, m2], number? [d1, d2] with
      | some year, some month, some day =>
          if 1 ≤ month && month ≤ 12 && 1 ≤ day && day ≤ daysInMonth year month then
            some (chars.take 10, rest)
          else none
      | _, _, _ => none
  | _ => none

def takeMinutes? (chars : List Char) : Option (List Char × List Char) :=
  match chars with
  | h1 :: h2 :: ':' :: m1 :: m2 :: rest =>
      match number? [h1, h2], number? [m1, m2] with
      | some hour, some minute =>
          if hour ≤ 23 && minute ≤ 59 then some (chars.take 5, rest) else none
      | _, _ => none
  | _ => none

/-- A fraction of a second counts down to the nanosecond, and zeros at its end do not count. -/
def fractionText (digits : List Char) : List Char :=
  match ((digits.take 9).reverse.dropWhile (· = '0')).reverse with
  | [] => []
  | digits => '.' :: digits

/-- Seconds, behind their colon; the last minute of a day may have one more than others. -/
def takeSeconds? : List Char → Option (List Char × List Char)
  | s1 :: s2 :: rest =>
      match number? [s1, s2] with
      | none => none
      | some second =>
          if 60 < second then none
          else
            match rest with
            | '.' :: rest =>
                let (digits, rest) := rest.span Char.isDigit
                if digits.isEmpty then none
                else some (':' :: s1 :: s2 :: fractionText digits, rest)
            | rest => some ([':', s1, s2], rest)
  | _ => none

/-- A time. Seconds may be left out, and are none then. -/
def takeTime? (chars : List Char) : Option (List Char × List Char) :=
  match takeMinutes? chars with
  | none => none
  | some (minutes, ':' :: rest) =>
      (takeSeconds? rest).map fun (seconds, rest) => (minutes ++ seconds, rest)
  | some (minutes, rest) => some (minutes ++ [':', '0', '0'], rest)

/-- How far a time is from that at Greenwich. A distance of nothing has a plus sign. -/
def offset? : List Char → Option (List Char)
  | [] => some []
  | ['Z'] | ['z'] => some ['Z']
  | sign :: rest =>
      match takeMinutes? rest with
      | some (minutes, []) =>
          if sign = '+' || minutes = ['0', '0', ':', '0', '0'] && sign = '-' then
            some ('+' :: minutes)
          else if sign = '-' then some ('-' :: minutes)
          else none
      | _ => none

/-- A date, a time, or both with a letter or a space between. Only both can have an offset. -/
def dateTime? (chars : List Char) : Option String :=
  match takeDate? chars with
  | some (date, []) => some (String.ofList date)
  | some (date, separator :: rest) =>
      if separator = 'T' || separator = 't' || separator = ' ' then
        match takeTime? rest with
        | none => none
        | some (time, rest) =>
            (offset? rest).map fun offset => String.ofList (date ++ 'T' :: time ++ offset)
      else none
  | none =>
      match takeTime? chars with
      | some (time, []) => some (String.ofList time)
      | _ => none

end FrancaAudit.Toml
