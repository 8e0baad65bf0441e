import FrancaAudit.Json.Reader
import FrancaAudit.Json.Writer
import FrancaAudit.Proofs.Json.Numeral
import Mathlib.Data.List.TakeDrop

/-!
The lexemes of a written document.

A written document is a sequence of lexemes with spaces between them. Each lexeme is read back off
the front of whatever follows; a number is the only one whose end depends on what follows, and what
follows a number in a document cannot prolong it.
-/

namespace FrancaAudit.Json

/-- From the first characters the lexemes are read, and the last characters are left. -/
inductive Lexes : List Char → List Token → List Char → Prop
  | done (chars : List Char) : Lexes chars [] chars
  | space (char : Char) (chars rest : List Char) (tokens : List Token) (space : isSpace char)
      (next : Lexes chars tokens rest) : Lexes (char :: chars) tokens rest
  | token (char : Char) (chars later rest : List Char) (token : Token) (tokens : List Token)
      (solid : isSpace char = false) (scanned : Token.scan char chars = some (token, later))
      (shorter : later.length ≤ chars.length) (next : Lexes later tokens rest) :
      Lexes (char :: chars) (token :: tokens) rest

namespace Lexes

theorem trans (first middle last : List Char) (front back : List Token)
    (begins : Lexes first front middle) (ends : Lexes middle back last) :
    Lexes first (front ++ back) last := by
  induction begins with
  | done chars => exact ends
  | space char chars rest tokens space next ih => exact .space _ _ _ _ space (ih ends)
  | token char chars later rest token tokens solid scanned shorter next ih =>
      exact .token _ _ _ _ _ _ solid scanned shorter (ih ends)

theorem single (char : Char) (chars rest : List Char) (token : Token)
    (solid : isSpace char = false) (scanned : Token.scan char chars = some (token, rest))
    (shorter : rest.length ≤ chars.length) : Lexes (char :: chars) [token] rest :=
  .token _ _ _ _ _ _ solid scanned shorter (.done rest)

theorem spaces (gap rest : List Char) (blank : ∀ char ∈ gap, isSpace char) :
    Lexes (gap ++ rest) [] rest := by
  induction gap with
  | nil => exact .done rest
  | cons char gap ih =>
      obtain ⟨space, later⟩ := List.forall_mem_cons.mp blank
      exact .space _ _ _ _ space (ih later)

theorem scanAll (chars rest : List Char) (tokens : List Token) (lexes : Lexes chars tokens rest)
    (fuel : Nat) (done : List Token) (granted : chars.length ≤ fuel) :
    ∃ left, rest.length ≤ left ∧
      Token.scanAll fuel chars done = Token.scanAll left rest (tokens.reverse ++ done) := by
  induction lexes generalizing fuel done with
  | done chars => exact ⟨fuel, granted, rfl⟩
  | space char chars rest tokens space next ih =>
      obtain ⟨fuel, rfl⟩ := Nat.exists_eq_add_one.mpr (Nat.zero_lt_of_lt granted)
      obtain ⟨left, enough, same⟩ := ih fuel done (Nat.le_of_succ_le_succ granted)
      exact ⟨left, enough, by rw [Token.scanAll, if_pos space, same]⟩
  | token char chars later rest token tokens solid scanned shorter next ih =>
      obtain ⟨fuel, rfl⟩ := Nat.exists_eq_add_one.mpr (Nat.zero_lt_of_lt granted)
      obtain ⟨left, enough, same⟩ := ih fuel (token :: done)
        (shorter.trans (Nat.le_of_succ_le_succ granted))
      refine ⟨left, enough, ?_⟩
      rw [Token.scanAll, if_neg (by simp [solid]), scanned]
      dsimp only
      rw [same, List.reverse_cons, List.append_assoc, List.singleton_append]

end Lexes

theorem tokens_of_lexes (text : String) (found : List Token) (lexes : Lexes text.toList found []) :
    tokens text = some found := by
  obtain ⟨left, _, same⟩ := Lexes.scanAll _ _ _ lexes text.toList.length [] le_rfl
  rw [tokens, same]
  cases left <;> simp [Token.scanAll]

def Ends (rest : List Char) : Prop :=
  ∀ char, rest.head? = some char →
    char.isDigit = false ∧ char ≠ '.' ∧ char ≠ 'e' ∧ char ≠ 'E'

theorem span_digits (digits rest : List Char) (all : ∀ char ∈ digits, char.isDigit)
    (ends : ∀ char, rest.head? = some char → char.isDigit = false) :
    (digits ++ rest).span Char.isDigit = (digits, rest) := by
  rw [List.span_eq_takeWhile_dropWhile, List.takeWhile_append_of_pos all,
    List.dropWhile_append_of_pos all]
  cases rest with
  | nil => simp
  | cons char rest => simp [ends char rfl]

theorem scanDigits_append (digits rest : List Char) (proper : Digits digits)
    (ends : ∀ char, rest.head? = some char → char.isDigit = false) :
    scanDigits (digits ++ rest) = some (digits, rest) := by
  have taken := span_digits digits rest proper.2 ends
  obtain ⟨char, later, rfl⟩ := List.exists_cons_of_ne_nil proper.1
  rw [scanDigits, taken]

theorem scanWhole_append (numeral : Numeral) (proper : numeral.Grammatical) (rest : List Char)
    (ends : ∀ char, rest.head? = some char → char.isDigit = false) :
    scanWhole (numeral.whole ++ rest) = some (numeral.whole, rest) := by
  by_cases zero : ∃ later, numeral.whole = '0' :: later
  · obtain ⟨later, zero⟩ := zero
    rw [zero, proper.leading later zero]
    rfl
  · have digits := scanDigits_append numeral.whole rest proper.whole ends
    obtain ⟨char, later, first⟩ := List.exists_cons_of_ne_nil proper.whole.1
    rw [scanWhole, digits]
    rintro other same
    rw [first] at same
    obtain ⟨rfl, -⟩ := List.cons.inj same
    exact zero ⟨later, first⟩

def fractionChars (fraction : Option (List Char)) : List Char :=
  match fraction with
  | none => []
  | some digits => '.' :: digits

def exponentChars (exponent : Option (Bool × List Char)) : List Char :=
  match exponent with
  | none => []
  | some (negative, digits) => (if negative then ['e', '-'] else ['e']) ++ digits

theorem toList_writeNumeral (numeral : Numeral) :
    (writeNumeral numeral).toList =
      (if numeral.negative then ['-'] else []) ++ numeral.whole ++
        fractionChars numeral.fraction ++ exponentChars numeral.exponent := by
  obtain ⟨negative, whole, fraction, exponent⟩ := numeral
  cases negative <;> cases fraction <;> rcases exponent with _ | ⟨_ | _, digits⟩ <;>
    simp [writeNumeral, fractionChars, exponentChars]

theorem scanFraction_append (fraction : Option (List Char)) (rest : List Char)
    (proper : ∀ digits, fraction = some digits → Digits digits)
    (ends : ∀ char, rest.head? = some char → char.isDigit = false ∧ char ≠ '.') :
    scanFraction (fractionChars fraction ++ rest) = some (fraction, rest) := by
  cases fraction with
  | none =>
      cases rest with
      | nil => rfl
      | cons char rest =>
          rw [fractionChars, List.nil_append, scanFraction]
          rintro other same
          exact (ends char rfl).2 (List.cons.inj same).1
  | some digits =>
      have scanned := scanDigits_append digits rest (proper digits rfl) fun char first =>
        (ends char first).1
      rw [fractionChars, List.cons_append, scanFraction, scanned]
      rfl

theorem scanExponent_append (exponent : Option (Bool × List Char)) (rest : List Char)
    (proper : ∀ negative digits, exponent = some (negative, digits) → Digits digits)
    (ends : Ends rest) :
    scanExponent (exponentChars exponent ++ rest) = some (exponent, rest) := by
  cases exponent with
  | none =>
      cases rest with
      | nil => rfl
      | cons char rest =>
          have other := ends char rfl
          simp [exponentChars, scanExponent, other]
  | some written =>
      obtain ⟨negative, digits⟩ := written
      have digitsProper := proper negative digits rfl
      have scanned := scanDigits_append digits rest digitsProper fun char first =>
        (ends char first).1
      cases negative with
      | true => simp [exponentChars, scanExponent, scanSign, scanned]
      | false =>
          -- the first digit is no sign
          have unsigned : scanSign (digits ++ rest) = (false, digits ++ rest) := by
            obtain ⟨char, later, rfl⟩ := List.exists_cons_of_ne_nil digitsProper.1
            have digit := digitsProper.2 char List.mem_cons_self
            rw [List.cons_append, scanSign]
            · rintro other same
              obtain ⟨rfl, -⟩ := List.cons.inj same
              exact absurd digit (by decide)
            · rintro other same
              obtain ⟨rfl, -⟩ := List.cons.inj same
              exact absurd digit (by decide)
          simp [exponentChars, scanExponent, unsigned, scanned]

theorem scanNumber_append (numeral : Numeral) (proper : numeral.Grammatical) (rest : List Char)
    (ends : Ends rest) :
    scanNumber numeral.negative (numeral.whole ++ (fractionChars numeral.fraction ++
      (exponentChars numeral.exponent ++ rest))) = some (numeral, rest) := by
  obtain ⟨negative, whole, fraction, exponent⟩ := numeral
  have afterFraction (char : Char)
      (first : (exponentChars exponent ++ rest).head? = some char) :
      char.isDigit = false ∧ char ≠ '.' := by
    rcases exponent with _ | ⟨_ | _, digits⟩
    · exact ⟨(ends char first).1, (ends char first).2.1⟩
    · obtain rfl := Option.some.inj first
      decide
    · obtain rfl := Option.some.inj first
      decide
  have afterWhole (char : Char)
      (first : (fractionChars fraction ++ (exponentChars exponent ++ rest)).head? = some char) :
      char.isDigit = false := by
    cases fraction with
    | none => exact (afterFraction char first).1
    | some digits =>
        obtain rfl := Option.some.inj first
        decide
  have wholeScanned := scanWhole_append _ proper _ afterWhole
  have fractionScanned := scanFraction_append fraction _ proper.fraction afterFraction
  have exponentScanned := scanExponent_append exponent rest proper.exponent ends
  dsimp only at wholeScanned ⊢
  simp [scanNumber, wholeScanned, fractionScanned, exponentScanned]

theorem scan_digit (char : Char) (rest : List Char) (digit : char.isDigit) :
    Token.scan char rest =
      (scanNumber false (char :: rest)).map fun (numeral, rest) => (.number numeral, rest) := by
  unfold Token.scan
  split <;> first | rfl | exact absurd digit (by decide)

theorem isSpace_digit (char : Char) (digit : char.isDigit) : isSpace char = false := by
  by_contra space
  simp only [isSpace, Bool.or_eq_true, decide_eq_true_eq, Bool.not_eq_false] at space
  obtain ((rfl | rfl) | rfl) | rfl := space <;> exact absurd digit (by decide)

theorem lexes_numeral (numeral : Numeral) (proper : numeral.Grammatical) (rest : List Char)
    (ends : Ends rest) :
    Lexes ((writeNumeral numeral).toList ++ rest) [.number numeral] rest := by
  have scanned := scanNumber_append numeral proper rest ends
  obtain ⟨char, later, first⟩ := List.exists_cons_of_ne_nil proper.whole.1
  have digit : char.isDigit := proper.whole.2 char (first ▸ List.mem_cons_self)
  rw [toList_writeNumeral]
  simp only [List.append_assoc]
  cases negative : numeral.negative with
  | true =>
      rw [negative] at scanned
      simp only [if_true, List.cons_append, List.nil_append]
      refine Lexes.single '-' _ rest _ (by decide) ?_ (by simp; omega)
      exact congrArg (Option.map _) scanned
  | false =>
      rw [negative, first] at scanned
      rw [first]
      refine Lexes.single char _ rest _ (isSpace_digit char digit) ?_ (by simp; omega)
      rw [scan_digit char _ digit]
      exact congrArg _ scanned

def pieceOf (char : Char) : Piece :=
  if char.toNat < 0x20 ∧ char ∉ ['\x08', '\x0c', '\n', '\r', '\t'] then .unit char.toNat
  else .char char

theorem unit?_hexDigits (code : Nat) (control : code < 0x20) :
    unit? ['0', '0', hexDigit (code / 16), hexDigit (code % 16)] = some code := by
  interval_cases code <;> rfl

theorem scanString_escapeChar (char : Char) (rest : List Char) (done : List Piece) :
    scanString (escapeChar char ++ rest) done = scanString rest (pieceOf char :: done) := by
  unfold escapeChar
  split
  any_goals rfl
  rename_i quote backslash back form line ret tab
  split_ifs with control
  · have piece : pieceOf char = .unit char.toNat := by
      simp only [pieceOf, List.mem_cons, List.not_mem_nil, or_false, not_or]
      exact if_pos ⟨control, back, form, line, ret, tab⟩
    rw [piece]
    simp only [List.cons_append, List.nil_append]
    rw [scanString, unit?_hexDigits _ control]
  · have piece : pieceOf char = .char char := by simp [pieceOf, control]
    rw [piece, List.singleton_append, scanString]
    · rw [if_neg control]
    · exact quote
    · exact fun _ _ _ _ _ same _ => backslash same
    · exact fun _ _ same _ => backslash same

theorem scanString_escaped (chars rest : List Char) (done : List Piece) :
    scanString (chars.flatMap escapeChar ++ '"' :: rest) done =
      some (done.reverse ++ chars.map pieceOf, rest) := by
  induction chars generalizing done with
  | nil => simp [scanString]
  | cons char chars ih =>
      rw [List.flatMap_cons, List.append_assoc, scanString_escapeChar, ih]
      simp

theorem spell_piece (char : Char) (pieces : List Piece) (done : List Char) :
    spell (pieceOf char :: pieces) done = spell pieces (char :: done) := by
  unfold pieceOf
  split_ifs with control
  · have plain : isHighSurrogate char.toNat = false ∧ isLowSurrogate char.toNat = false := by
      simp [isHighSurrogate, isLowSurrogate]
      omega
    rcases pieces with _ | ⟨_ | other, rest⟩ <;> simp [spell, plain]
  · rw [spell]

theorem spell_pieces (chars done : List Char) :
    spell (chars.map pieceOf) done = some (done.reverse ++ chars) := by
  induction chars generalizing done with
  | nil => simp [spell]
  | cons char chars ih =>
      rw [List.map_cons, spell_piece, ih]
      simp

theorem lexes_string (text : String) (rest : List Char) :
    Lexes ((writeString text).toList ++ rest) [.string (some text)] rest := by
  have chars : (writeString text).toList ++ rest =
      '"' :: (text.toList.flatMap escapeChar ++ '"' :: rest) := by
    simp [writeString]
  rw [chars]
  refine Lexes.single '"' _ rest _ (by decide) ?_ (by simp; omega)
  simp [Token.scan, scanString_escaped, spell_pieces]

end FrancaAudit.Json
