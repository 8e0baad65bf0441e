import FrancaAudit.Log.Filter
import Mathlib.Data.String.Basic

/-!
Reading directives of the plain kinds: a level alone, and a target with a level.
-/

namespace FrancaAudit.Log

/-- What lies before the part that is being read is no longer looked at. -/
theorem splitOnAux_comma (front middle back : List Char) (found : List String) :
    String.splitOnAux (String.ofList (front ++ middle ++ back)) "," ⟨String.utf8Len front⟩
        ⟨String.utf8Len front + String.utf8Len middle⟩ 0 found =
      found.reverse ++
        (List.splitOnPPrepend (· == ',') back middle.reverse).map String.ofList := by
  have comma : String.Pos.Raw.get "," 0 = ',' := by decide
  have ends : String.Pos.Raw.atEnd "," (String.Pos.Raw.next "," 0) = true := by decide
  have width : String.Pos.Raw.next "," 0 = ⟨1⟩ := by decide
  induction back generalizing front middle found with
  | nil =>
      -- the end of the text is the end of the last part
      have last : String.Pos.Raw.atEnd (String.ofList (front ++ middle ++ []))
          ⟨String.utf8Len front + String.utf8Len middle⟩ := by
        rw [← String.utf8Len_append]
        exact (String.atEnd_of_valid (front ++ middle) []).mpr rfl
      rw [String.splitOnAux, if_pos last]
      simpa [-String.ofList_append] using String.extract_of_valid front middle []
  | cons char rest ih =>
      have here : String.Pos.Raw.get (String.ofList (front ++ middle ++ char :: rest))
          ⟨String.utf8Len front + String.utf8Len middle⟩ = char := by
        rw [← String.utf8Len_append]
        exact String.get_of_valid (front ++ middle) (char :: rest)
      have next : String.Pos.Raw.next (String.ofList (front ++ middle ++ char :: rest))
          ⟨String.utf8Len front + String.utf8Len middle⟩ =
            ⟨String.utf8Len front + String.utf8Len middle + char.utf8Size⟩ := by
        rw [← String.utf8Len_append]
        exact String.next_of_valid (front ++ middle) char rest
      have further : ¬ String.Pos.Raw.atEnd (String.ofList (front ++ middle ++ char :: rest))
          ⟨String.utf8Len front + String.utf8Len middle⟩ := by
        rw [← String.utf8Len_append, String.atEnd_of_valid (front ++ middle) (char :: rest)]
        exact List.cons_ne_nil _ _
      rw [String.splitOnAux, if_neg further, here, comma, List.splitOnPPrepend_cons_eq_if]
      dsimp only
      rw [next, ends, width]
      by_cases same : char = ','
      · -- the part ends, and what follows is read like a text of its own
        subst same
        have part : String.Pos.Raw.extract (String.ofList (front ++ middle ++ ',' :: rest))
            ⟨String.utf8Len front⟩ (String.Pos.Raw.unoffsetBy
              ⟨String.utf8Len front + String.utf8Len middle + ','.utf8Size⟩ ⟨1⟩) =
              String.ofList middle :=
          String.extract_of_valid front middle (',' :: rest)
        rw [part]
        simpa [Nat.add_assoc, -String.ofList_append] using
          ih (front ++ middle ++ [',']) [] (String.ofList middle :: found)
      · -- the part goes on with this character
        have onward : String.Pos.Raw.next (String.ofList (front ++ middle ++ char :: rest))
            (String.Pos.Raw.unoffsetBy ⟨String.utf8Len front + String.utf8Len middle⟩ 0) =
              ⟨String.utf8Len front + String.utf8Len middle + char.utf8Size⟩ := next
        rw [onward]
        simpa [same, Nat.add_assoc, -String.ofList_append] using ih front (middle ++ [char]) found

theorem splitOn_comma (text : String) :
    text.splitOn "," = (List.splitOn ',' text.toList).map String.ofList := by
  have whole := splitOnAux_comma [] [] text.toList []
  simpa [String.splitOn, List.splitOn] using whole

theorem toList_joined (first : String) (rest : List String) :
    (first ++ String.join (rest.map ("," ++ ·))).toList =
      [','].intercalate ((first :: rest).map String.toList) := by
  induction rest generalizing first with
  | nil => simp
  | cons second rest ih =>
      have tail := ih second
      simp only [String.toList_append, String.toList_join, List.map_cons, List.flatMap_cons]
        at tail ⊢
      rw [List.intercalate_cons_cons, ← tail]
      simp

theorem split_joined (first : String) (rest : List String)
    (clean : ∀ part ∈ first :: rest, ',' ∉ part.toList)
    (filled : ∀ part ∈ first :: rest, part ≠ "") :
    Filter.split (first ++ String.join (rest.map ("," ++ ·))) = first :: rest := by
  have parted : List.splitOn ',' ([','].intercalate ((first :: rest).map String.toList)) =
      (first :: rest).map String.toList := by
    apply List.splitOn_intercalate
    · simpa using clean
    · exact List.cons_ne_nil _ _
  have restored : ((first :: rest).map String.toList).map String.ofList = first :: rest := by
    simp [Function.comp_def]
  rw [Filter.split, splitOn_comma, toList_joined, parted, restored, List.filter_eq_self]
  simpa using filled

namespace Directive

theorem utf8Size_add (char : Char) (more : Nat) :
    ∃ size, char.utf8Size + more = size + 1 ∧ size + 1 - char.utf8Size = more := by
  have positive := char.utf8Size_pos
  exact ⟨char.utf8Size + more - 1, by omega, by omega⟩

theorem takeBytes_cons (char : Char) (rest : List Char) (more : Nat) :
    takeBytes (char.utf8Size + more) (char :: rest) = char :: takeBytes more rest := by
  obtain ⟨size, width, left⟩ := utf8Size_add char more
  rw [width, takeBytes, left]

theorem dropBytes_cons (char : Char) (rest : List Char) (more : Nat) :
    dropBytes (char.utf8Size + more) (char :: rest) = dropBytes more rest := by
  obtain ⟨size, width, left⟩ := utf8Size_add char more
  rw [width, dropBytes, left]

theorem takeBytes_append (front back : List Char) :
    takeBytes (String.utf8Len front) (front ++ back) = front := by
  induction front with
  | nil => simp [takeBytes]
  | cons char rest ih =>
      rw [String.utf8Len_cons, Nat.add_comm, List.cons_append, takeBytes_cons, ih]

theorem dropBytes_append (front back : List Char) :
    dropBytes (String.utf8Len front) (front ++ back) = back := by
  induction front with
  | nil => simp [dropBytes]
  | cons char rest ih =>
      rw [String.utf8Len_cons, Nat.add_comm, List.cons_append, dropBytes_cons, ih]

theorem cut_front (front back : List Char) :
    cut (front ++ back) 0 (String.utf8Len front) = String.ofList front := by
  simp [cut, dropBytes, takeBytes_append]

def blanks : List Nat :=
  [0x09, 0x0A, 0x0B, 0x0C, 0x0D, 0x20, 0x85, 0xA0, 0x1680, 0x2000, 0x2001, 0x2002, 0x2003, 0x2004,
    0x2005, 0x2006, 0x2007, 0x2008, 0x2009, 0x200A, 0x2028, 0x2029, 0x202F, 0x205F, 0x3000]

theorem mem_blanks (char : Char) (blank : Text.isWhiteSpace char) : char.toNat ∈ blanks := by
  simp only [Text.isWhiteSpace, Bool.or_eq_true, Bool.and_eq_true, decide_eq_true_eq] at blank
  simp only [blanks, List.mem_cons, List.not_mem_nil, or_false]
  omega

theorem inRanges_iff (ranges : List (Nat × Nat)) (char : Char) :
    Text.inRanges ranges char ↔ ranges.any fun (first, last) =>
      first.ble char.toNat && char.toNat.ble last := by
  simp [Text.inRanges]

theorem not_blank_of_canStart (char : Char) (starts : canStart char) :
    ¬ Text.isWhiteSpace char := by
  intro blank
  have code := mem_blanks char blank
  -- within ASCII, and in the tables for what is beyond
  have near : ∀ code ∈ blanks, ¬ ((Char.ofNat code = '-' ∨ Char.ofNat code = ':' ∨
      Char.ofNat code = '_') ∨ (Char.ofNat code).isAlpha ∨ (Char.ofNat code).isDigit) := by decide
  have far : ∀ code ∈ blanks, ¬ (Text.alphabeticRanges ++ Text.numericRanges).any
      (fun (first, last) => first.ble code && code.ble last) := by decide +kernel
  have within := near char.toNat code
  have beyond := far char.toNat code
  rw [Char.ofNat_toNat] at within
  rw [List.any_append, Bool.or_eq_true, ← inRanges_iff, ← inRanges_iff] at beyond
  simp only [canStart, Text.isAlphanumeric, Text.isAlphabetic, Bool.or_eq_true,
    decide_eq_true_eq] at starts
  grind

theorem dropWhile_unused (drops : Char → Bool) (chars : List Char)
    (first : ∀ char ∈ chars.head?, ¬ drops char) : chars.dropWhile drops = chars := by
  cases chars with
  | nil => rfl
  | cons char rest => rw [List.dropWhile_cons, if_neg (first char rfl)]

theorem trimmed_eq (chars : List Char) (first : ∀ char ∈ chars.head?, ¬ Text.isWhiteSpace char)
    (last : ∀ char ∈ chars.getLast?, ¬ Text.isWhiteSpace char) : trimmed chars = chars := by
  have behind : chars.reverse.dropWhile Text.isWhiteSpace = chars.reverse :=
    dropWhile_unused _ _ (by simpa [List.head?_reverse] using last)
  rw [trimmed, dropWhile_unused _ _ first, behind, List.reverse_reverse]

variable (text : List Char) (directive : Directive)

theorem scan_name (start position : Nat) (name rest : List Char)
    (plain : ∀ char ∈ name, char ≠ '=' ∧ char ≠ '[') :
    scan text directive (.name start) position (name ++ rest) =
      scan text directive (.name start) (position + String.utf8Len name) rest := by
  induction name generalizing position with
  | nil => rfl
  | cons char name ih =>
      obtain ⟨noEquals, noBracket⟩ := plain char List.mem_cons_self
      rw [List.cons_append, scan, step, if_neg noEquals, if_neg noBracket]
      dsimp only
      rw [ih _ fun other member => plain other (List.mem_cons_of_mem char member),
        String.utf8Len_cons, Nat.add_assoc, Nat.add_comm (String.utf8Len name)]

theorem scan_level (start position : Nat) (level : List Char) :
    scan text directive (.level start) position level = finish text directive (.level start) := by
  induction level generalizing position with
  | nil => rfl
  | cons char rest ih => exact ih _

/-- A name that is read as a target: nothing in it ends the name, or the directive. -/
def isPlainTarget (name : String) : Bool :=
  name.toList.head?.any canStart &&
    name.toList.all fun char => char ≠ ',' && char ≠ '=' && char ≠ '['

theorem isPlainTarget_iff (name : String) :
    isPlainTarget name ↔ (∃ first rest, name.toList = first :: rest ∧ canStart first) ∧
      ∀ char ∈ name.toList, char ≠ ',' ∧ char ≠ '=' ∧ char ≠ '[' := by
  rw [isPlainTarget, Bool.and_eq_true, List.all_eq_true]
  simp only [Bool.and_eq_true, decide_eq_true_eq, and_assoc]
  refine and_congr_left fun _ => ?_
  cases name.toList <;> simp

theorem scan_target (name : String) (rest : List Char) (plain : isPlainTarget name) :
    scan text directive .start 0 (name.toList ++ rest) =
      scan text directive (.name 0) (String.utf8Len name.toList) rest := by
  obtain ⟨⟨first, others, spelled, starts⟩, clean⟩ := (isPlainTarget_iff name).mp plain
  rw [spelled] at clean ⊢
  have start : step text directive .start 0 first = .ok (directive, .name 0) := by
    rw [step, if_neg (clean first List.mem_cons_self).2.2, if_pos starts]
  rw [List.cons_append, scan, start]
  dsimp only
  rw [scan_name text directive 0 _ others rest fun char member =>
    (clean char (List.mem_cons_of_mem first member)).2, String.utf8Len_cons]
  congr 1
  omega

theorem unblank_head (name : String) (rest : List Char) (plain : isPlainTarget name) :
    ∀ char ∈ (name.toList ++ rest).head?, ¬ Text.isWhiteSpace char := by
  obtain ⟨⟨first, others, spelled, starts⟩, _⟩ := (isPlainTarget_iff name).mp plain
  rw [spelled]
  intro char same
  obtain rfl : first = char := by simpa using same
  exact not_blank_of_canStart first starts

theorem ofText_level (level : String) (threshold : Threshold) (plain : isPlainTarget level)
    (last : ∀ char ∈ level.toList.getLast?, ¬ Text.isWhiteSpace char)
    (read : Threshold.ofText? level = some threshold) :
    ofText level = .ok ⟨threshold, none, none, []⟩ := by
  have whole : trimmed level.toList = level.toList ++ [] := by
    rw [List.append_nil]
    exact trimmed_eq _ (by simpa using unblank_head level [] plain) last
  rw [ofText, whole, scan_target _ _ level [] plain, scan, finish, dropBytes, String.ofList_toList,
    read]
  rfl

theorem ofText_override (target level : String) (threshold : Threshold)
    (plain : isPlainTarget target) (filled : level ≠ "")
    (last : ∀ char ∈ level.toList.getLast?, ¬ Text.isWhiteSpace char)
    (read : Threshold.ofText? level = some threshold) :
    ofText (target ++ "=" ++ level) = .ok ⟨threshold, some target, none, []⟩ := by
  have spelled : (target ++ "=" ++ level).toList = target.toList ++ '=' :: level.toList := by
    simp
  have whole : trimmed (target.toList ++ '=' :: level.toList) =
      target.toList ++ '=' :: level.toList := by
    apply trimmed_eq _ (unblank_head target _ plain)
    rw [List.getLast?_append_cons, List.getLast?_cons_of_ne_nil (by simpa using filled)]
    exact last
  have named : cut (target.toList ++ '=' :: level.toList) 0 (String.utf8Len target.toList) =
      target := by
    rw [cut_front, String.ofList_toList]
  have rest : dropBytes (String.utf8Len target.toList + 1) (target.toList ++ '=' :: level.toList) =
      level.toList := by
    have behind := dropBytes_append (target.toList ++ ['=']) level.toList
    rwa [String.utf8Len_append, List.append_assoc] at behind
  rw [ofText, spelled, whole, scan_target _ _ target _ plain, scan, step, if_pos rfl, named]
  dsimp only
  rw [scan_level, finish, rest, String.ofList_toList, if_neg (by simpa using filled), read]
  rfl

end Directive

end FrancaAudit.Log
