/-!
Patterns for the values of fields, as far as it matters whether they can be used.

What a pattern matches is not kept: neither how often something is repeated nor how sets of
characters are combined. A pattern can be unusable because it asks for classes or cases of letters
that only tables of Unicode know, for single bytes that are no text, or for the edges of words
beyond ASCII.
-/

namespace FrancaAudit.Log

inductive PatternError
  | malformed
  | unicodeWordEdge
deriving DecidableEq

def PatternError.message : PatternError → String
  | .malformed => "error building NFA"
  | .unicodeWordEdge =>
      "unsupported regex feature for DFAs: cannot build DFAs for regexes with Unicode word " ++
        "boundaries; switch to ASCII word boundaries, or heuristically enable Unicode word " ++
        "boundaries or use a different regex engine"

inductive PatternAtom
  /-- A character; one that is given by two digits is a byte where Unicode is off. -/
  | literal (char : Char) (isByte : Bool)
  | dot
  | edge
  | wordEdge
  | shorthand (negated : Bool)
deriving DecidableEq

/-- What stands between brackets. -/
inductive CharSet
  | range (first last : Char)
  | shorthand (negated : Bool)
  /-- A set of ASCII characters that has a name between colons. -/
  | named (negated : Bool)
  | union (items : List CharSet)
  | operation (left right : CharSet)
  | brackets (negated : Bool) (content : CharSet)

def CharSet.ofItems : List CharSet → CharSet
  | [item] => item
  | items => .union items

/-- The letters of the flags that a group or the rest of one is under. Those behind a dash are
off. -/
abbrev PatternFlags := List Char

inductive Pattern
  | atom (leaf : PatternAtom)
  | brackets (set : CharSet)
  | repeated (inner : Pattern)
  | settings (flags : PatternFlags)
  | group (flags : PatternFlags) (inner : Pattern)
  | sequence (parts : List Pattern)
  | choice (branches : List Pattern)

def Pattern.ofParts : List Pattern → Pattern
  | [part] => part
  | parts => .sequence parts

mutual
def CharSet.depth : CharSet → Nat
  | .range _ _ | .shorthand _ | .named _ | .union [] => 0
  | .union (item :: rest) => 1 + max item.depth (CharSet.depths rest)
  | .operation left right => 1 + max left.depth right.depth
  | .brackets _ content => 1 + content.depth

def CharSet.depths : List CharSet → Nat
  | [] => 0
  | item :: rest => max item.depth (CharSet.depths rest)
end

mutual
def Pattern.depth : Pattern → Nat
  | .atom _ | .settings _ | .sequence [] | .choice [] => 0
  | .brackets set => set.depth
  | .repeated inner | .group _ inner => 1 + inner.depth
  | .sequence (part :: rest) | .choice (part :: rest) => 1 + max part.depth (Pattern.depths rest)

def Pattern.depths : List Pattern → Nat
  | [] => 0
  | part :: rest => max part.depth (Pattern.depths rest)
end

/-- Patterns nest no deeper than this. -/
def Pattern.depthLimit : Nat := 250

def flagState? (flags : PatternFlags) (letter : Char) : Option Bool :=
  let (on, off) := flags.span (· ≠ '-')
  if on.contains letter then some true else if off.contains letter then some false else none

structure PatternModes where
  unicode : Bool
  caseless : Bool
deriving DecidableEq

namespace PatternModes

def standard : PatternModes := ⟨true, false⟩

def under (modes : PatternModes) (flags : PatternFlags) : PatternModes where
  unicode := (flagState? flags 'u').getD modes.unicode
  caseless := (flagState? flags 'i').getD modes.caseless

end PatternModes

def isAsciiChar (char : Char) : Bool := char.toNat < 128

def failing (fails : Bool) : List PatternError := if fails then [.malformed] else []

/-- Without Unicode nothing may stand for a byte beyond ASCII; with it, nothing may need a
table. -/
def PatternAtom.problems (modes : PatternModes) : PatternAtom → List PatternError
  | .literal char isByte =>
      failing (if modes.unicode then modes.caseless else isByte && !isAsciiChar char)
  | .dot => failing !modes.unicode
  | .edge => []
  | .wordEdge => if modes.unicode then [.unicodeWordEdge] else []
  | .shorthand negated => failing (modes.unicode || negated)

mutual
def CharSet.problems (modes : PatternModes) : CharSet → List PatternError
  | .range _ last => failing (if modes.unicode then modes.caseless else !isAsciiChar last)
  | .shorthand negated => failing (modes.unicode || negated)
  | .named negated => failing (if modes.unicode then modes.caseless else negated)
  | .union items => CharSet.allProblems modes items
  | .operation left right => left.problems modes ++ right.problems modes
  | .brackets negated content => failing (!modes.unicode && negated) ++ content.problems modes

def CharSet.allProblems (modes : PatternModes) : List CharSet → List PatternError
  | [] => []
  | item :: rest => item.problems modes ++ CharSet.allProblems modes rest
end

mutual
/-- The problems of a pattern, and the modes that hold behind it. Settings hold up to the end of
the group that they stand in, also in its other branches. -/
def Pattern.problems : PatternModes → Pattern → PatternModes × List PatternError
  | modes, .atom leaf => (modes, leaf.problems modes)
  | modes, .brackets set => (modes, set.problems modes)
  | modes, .repeated inner => Pattern.problems modes inner
  | modes, .settings flags => (modes.under flags, [])
  | modes, .group flags inner => (modes, (Pattern.problems (modes.under flags) inner).2)
  | modes, .sequence parts | modes, .choice parts => Pattern.allProblems modes parts

def Pattern.allProblems : PatternModes → List Pattern → PatternModes × List PatternError
  | modes, [] => (modes, [])
  | modes, part :: rest =>
      let (modes, found) := Pattern.problems modes part
      let (modes, others) := Pattern.allProblems modes rest
      (modes, found ++ others)
end

/-- What keeps a pattern from being used. That it is malformed counts more than anything else. -/
def Pattern.error? (pattern : Pattern) : Option PatternError :=
  let found := (pattern.problems .standard).2
  if Pattern.depthLimit < pattern.depth || found.contains .malformed then some .malformed
  else found.head?

end FrancaAudit.Log
