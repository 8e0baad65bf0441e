import FrancaAudit.Proofs.Json.Lexeme

/-!
A written document is read back.

The lexemes of a tree are given once, whatever the layout. The writer produces them, with spaces in
between, and the reader builds the tree out of them.
-/

namespace FrancaAudit.Json

mutual

/-- The lexemes that spell the document, the items of an array and the members of an object with a
comma between them. -/
def lexemes : Json → List Token
  | .null => [.null]
  | .bool value => [.bool value]
  | .number numeral => [.number numeral]
  | .string text => [.string text]
  | .array items => .openArray :: (List.intercalate [.comma] (itemLexemes items) ++ [.closeArray])
  | .object members =>
      .openObject :: (List.intercalate [.comma] (memberLexemes members) ++ [.closeObject])

def itemLexemes : List Json → List (List Token)
  | [] => []
  | item :: rest => lexemes item :: itemLexemes rest

def memberLexemes : List (Option String × Json) → List (List Token)
  | [] => []
  | (key, value) :: rest => (.string key :: .colon :: lexemes value) :: memberLexemes rest

end

/-- Every text in the document is one, and every number has a form that a text can have. -/
inductive Spelled : Json → Prop
  | null : Spelled .null
  | bool (value : Bool) : Spelled (.bool value)
  | number (numeral : Numeral) (proper : numeral.Grammatical) : Spelled (.number numeral)
  | string (text : String) : Spelled (.string (some text))
  | array (items : List Json) (each : ∀ item ∈ items, Spelled item) : Spelled (.array items)
  | object (members : List (Option String × Json)) (keys : ∀ member ∈ members, member.1.isSome)
      (each : ∀ member ∈ members, Spelled member.2) : Spelled (.object members)

@[simp]
theorem spelled_number (numeral : Numeral) :
    (Json.number numeral).Spelled ↔ numeral.Grammatical :=
  ⟨fun | .number _ proper => proper, .number numeral⟩

@[simp]
theorem spelled_ofNat (value : Nat) : (ofNat value).Spelled :=
  .number _ (Numeral.grammatical_ofNat value)

@[simp]
theorem spelled_ofString (text : String) : (ofString text).Spelled := .string text

@[simp]
theorem spelled_array (items : List Json) :
    (Json.array items).Spelled ↔ ∀ item ∈ items, item.Spelled :=
  ⟨fun | .array _ each => each, .array items⟩

@[simp]
theorem spelled_record (members : List (String × Json)) :
    (record members).Spelled ↔ ∀ member ∈ members, member.2.Spelled := by
  constructor
  · rintro (_ | _ | _ | _ | _ | ⟨_, _, each⟩) member listed
    exact each (some member.1, member.2) (List.mem_map.mpr ⟨member, listed, rfl⟩)
  · intro each
    exact .object _ (List.forall_mem_map.mpr fun _ _ => rfl) (List.forall_mem_map.mpr each)

/-- The layout puts nothing but spaces between the lexemes. -/
structure Layout.Spaced (layout : Layout) : Prop where
  opening : ∀ depth, ∀ char ∈ (layout.opening depth).toList, isSpace char
  between : ∀ depth, ∃ gap, (layout.between depth).toList = ',' :: gap ∧
    ∀ char ∈ gap, isSpace char
  closing : ∀ depth, ∀ char ∈ (layout.closing depth).toList, isSpace char
  afterColon : ∀ char ∈ layout.afterColon.toList, isSpace char

theorem compact_spaced : compact.Spaced where
  opening := by simp [compact]
  between := fun _ => ⟨[], by simp [compact], by simp⟩
  closing := by simp [compact]
  afterColon := by simp [compact]

theorem newLine_spaces (depth : Nat) : ∀ char ∈ (newLine depth).toList, isSpace char := by
  simp only [newLine, String.toList_ofList, List.forall_mem_cons]
  refine ⟨by decide, fun char inside => ?_⟩
  obtain rfl := List.eq_of_mem_replicate inside
  decide

theorem indented_spaced : indented.Spaced where
  opening := fun depth => newLine_spaces (depth + 1)
  between := fun depth => ⟨(newLine (depth + 1)).toList, by simp [indented],
    newLine_spaces (depth + 1)⟩
  closing := newLine_spaces
  afterColon := by simp [indented, isSpace]

theorem ends_nil : Ends [] := nofun

theorem ends_cons (char : Char) (rest : List Char)
    (other : char.isDigit = false ∧ char ≠ '.' ∧ char ≠ 'e' ∧ char ≠ 'E') : Ends (char :: rest) := by
  rintro first ⟨⟩
  exact other

theorem ends_spaces (gap rest : List Char) (blank : ∀ char ∈ gap, isSpace char)
    (ends : Ends rest) : Ends (gap ++ rest) := by
  cases gap with
  | nil => exact ends
  | cons char gap =>
      refine ends_cons char _ ?_
      have space := blank char List.mem_cons_self
      simp only [isSpace, Bool.or_eq_true, decide_eq_true_eq] at space
      obtain ((rfl | rfl) | rfl) | rfl := space <;> decide

def Spells (chars : List Char) (tokens : List Token) : Prop :=
  ∀ rest, Ends rest → Lexes (chars ++ rest) tokens rest

theorem spells_separated (separator : String) (gap : List Char)
    (comma : separator.toList = ',' :: gap) (blank : ∀ char ∈ gap, isSpace char)
    (written : List (String × List Token)) (each : ∀ item ∈ written, Spells item.1.toList item.2) :
    Spells (separator.intercalate (written.map (·.1))).toList
      (List.intercalate [.comma] (written.map (·.2))) := by
  induction written with
  | nil =>
      rw [List.map_nil, String.intercalate_nil]
      exact fun rest _ => .done rest
  | cons first written ih =>
      obtain ⟨here, later⟩ := List.forall_mem_cons.mp each
      cases written with
      | nil => simpa using here
      | cons second written =>
          intro rest ends
          have others := ih later rest ends
          simp only [List.map_cons] at others
          simp only [List.map_cons, String.intercalate_cons_cons, List.intercalate_cons_cons,
            String.toList_append, comma, List.append_assoc, List.cons_append]
          refine Lexes.trans _ _ _ _ _ (here _ (ends_cons ',' _ (by decide))) ?_
          refine Lexes.trans _ _ _ [.comma] _
            (Lexes.single ',' _ _ _ (by decide) rfl le_rfl) ?_
          exact Lexes.trans _ _ _ [] _ (Lexes.spaces gap _ blank) others

theorem spells_bracketed (layout : Layout) (spaced : layout.Spaced) (depth : Nat)
    (opening closing : String) (first last : Char) (opens closes : Token)
    (firstOnly : opening.toList = [first]) (lastOnly : closing.toList = [last])
    (firstSolid : isSpace first = false) (lastSolid : isSpace last = false)
    (lastEnds : last.isDigit = false ∧ last ≠ '.' ∧ last ≠ 'e' ∧ last ≠ 'E')
    (firstScanned : ∀ rest, Token.scan first rest = some (opens, rest))
    (lastScanned : ∀ rest, Token.scan last rest = some (closes, rest))
    (written : List (String × List Token)) (each : ∀ item ∈ written, Spells item.1.toList item.2) :
    Spells (bracketed layout depth opening closing (written.map (·.1))).toList
      (opens :: (List.intercalate [.comma] (written.map (·.2)) ++ [closes])) := by
  intro rest ends
  have begins (later : List Char) : Lexes (first :: later) [opens] later :=
    Lexes.single first later later opens firstSolid (firstScanned later) le_rfl
  have stops : Lexes (last :: rest) [closes] rest :=
    Lexes.single last rest rest closes lastSolid (lastScanned rest) le_rfl
  -- nothing stands between the brackets, or items with gaps before, between and behind them
  cases written with
  | nil =>
      simp only [bracketed, List.map_nil, String.toList_append, firstOnly, lastOnly,
        List.cons_append, List.nil_append, List.intercalate_nil]
      exact Lexes.trans _ _ _ [opens] _ (begins _) stops
  | cons item written =>
      obtain ⟨gap, comma, blank⟩ := spaced.between depth
      have closed : Ends ((layout.closing depth).toList ++ last :: rest) :=
        ends_spaces _ _ (spaced.closing depth) (ends_cons last rest lastEnds)
      have inside := spells_separated _ gap comma blank (item :: written) each _ closed
      simp only [List.map_cons] at inside
      simp only [bracketed, List.map_cons, String.toList_append, firstOnly, lastOnly,
        List.append_assoc, List.cons_append, List.nil_append]
      refine Lexes.trans _ _ _ [opens] _ (begins _) ?_
      refine Lexes.trans _ _ _ [] _ (Lexes.spaces _ _ (spaced.opening depth)) ?_
      refine Lexes.trans _ _ _ _ _ inside ?_
      exact Lexes.trans _ _ _ [] _ (Lexes.spaces _ _ (spaced.closing depth)) stops

theorem writeItems_eq (layout : Layout) (depth : Nat) (items : List Json) :
    writeItems layout depth items = items.map (write layout depth) := by
  induction items with
  | nil => rfl
  | cons item rest ih => rw [writeItems, ih, List.map_cons]

theorem itemLexemes_eq (items : List Json) : itemLexemes items = items.map lexemes := by
  induction items with
  | nil => rfl
  | cons item rest ih => rw [itemLexemes, ih, List.map_cons]

def writeMember (layout : Layout) (depth : Nat) (member : Option String × Json) : String :=
  writeString (member.1.getD "") ++ ":" ++ layout.afterColon ++ write layout depth member.2

def lexemesOfMember (member : Option String × Json) : List Token :=
  .string member.1 :: .colon :: lexemes member.2

theorem writeMembers_eq (layout : Layout) (depth : Nat) (members : List (Option String × Json)) :
    writeMembers layout depth members = members.map (writeMember layout depth) := by
  induction members with
  | nil => rfl
  | cons member rest ih => rw [writeMembers, ih, List.map_cons, writeMember]

theorem memberLexemes_eq (members : List (Option String × Json)) :
    memberLexemes members = members.map lexemesOfMember := by
  induction members with
  | nil => rfl
  | cons member rest ih => rw [memberLexemes, ih, List.map_cons, lexemesOfMember]

theorem spells_member (layout : Layout) (spaced : layout.Spaced) (depth : Nat)
    (member : Option String × Json) (key : member.1.isSome)
    (value : Spells (write layout depth member.2).toList (lexemes member.2)) :
    Spells (writeMember layout depth member).toList (lexemesOfMember member) := by
  obtain ⟨_, json⟩ := member
  obtain ⟨text, rfl⟩ := Option.isSome_iff_exists.mp key
  intro rest ends
  have colon : (":" : String).toList = [':'] := rfl
  simp only [writeMember, Option.getD_some, String.toList_append, colon, List.append_assoc,
    List.singleton_append]
  refine Lexes.trans _ _ _ [_] _ (lexes_string text _) ?_
  refine Lexes.trans _ _ _ [.colon] _ (Lexes.single ':' _ _ _ (by decide) rfl le_rfl) ?_
  exact Lexes.trans _ _ _ [] _ (Lexes.spaces _ _ spaced.afterColon) (value rest ends)

theorem spells_write (layout : Layout) (spaced : layout.Spaced) (json : Json)
    (spelled : json.Spelled) (depth : Nat) :
    Spells (write layout depth json).toList (lexemes json) := by
  induction spelled generalizing depth with
  | null =>
      intro rest _
      rw [write, lexemes]
      exact Lexes.single 'n' ('u' :: 'l' :: 'l' :: rest) rest .null (by decide) rfl (by simp; omega)
  | bool value =>
      intro rest _
      rw [write, lexemes]
      cases value with
      | true =>
          exact Lexes.single 't' ('r' :: 'u' :: 'e' :: rest) rest (.bool true) (by decide) rfl
            (by simp; omega)
      | false =>
          exact Lexes.single 'f' ('a' :: 'l' :: 's' :: 'e' :: rest) rest (.bool false) (by decide)
            rfl (by simp; omega)
  | number numeral proper => exact fun rest ends => lexes_numeral numeral proper rest ends
  | string text => exact fun rest _ => lexes_string text rest
  | array items each ih =>
      have inside := spells_bracketed layout spaced depth "[" "]" '[' ']' .openArray .closeArray
        rfl rfl (by decide) (by decide) (by decide) (fun _ => rfl) (fun _ => rfl)
        (items.map fun item => (write layout (depth + 1) item, lexemes item))
        (List.forall_mem_map.mpr fun item listed => ih item listed (depth + 1))
      rw [write, lexemes, writeItems_eq, itemLexemes_eq]
      simpa only [List.map_map, Function.comp_def] using inside
  | object members keys each ih =>
      have inside := spells_bracketed layout spaced depth "\x7b" "\x7d" '\x7b' '\x7d'
        .openObject .closeObject rfl rfl (by decide) (by decide) (by decide) (fun _ => rfl)
        (fun _ => rfl)
        (members.map fun member => (writeMember layout (depth + 1) member, lexemesOfMember member))
        (List.forall_mem_map.mpr fun member listed =>
          spells_member layout spaced (depth + 1) member (keys member listed)
            (ih member listed (depth + 1)))
      rw [write, lexemes, writeMembers_eq, memberLexemes_eq]
      simpa only [List.map_map, Function.comp_def] using inside

theorem run_append (reading : Reading) (front back : List Token) :
    reading.run (front ++ back) = (reading.run front).bind (·.run back) := by
  induction front generalizing reading with
  | nil => rfl
  | cons token front ih =>
      rw [List.cons_append, Reading.run, Reading.run]
      cases reading.step token with
      | none => rfl
      | some next => exact ih next

theorem lexemes_first (json : Json) :
    ∃ token rest, lexemes json = token :: rest ∧ token ≠ .closeArray := by
  cases json <;> exact ⟨_, _, rfl, by simp⟩

def Reads (json : Json) : Prop :=
  ∀ outer, (Reading.atValue outer).run (lexemes json) = some (.after json outer)

theorem run_firstItem (json : Json) (reads : Reads json) (outer : List Frame) :
    (Reading.atFirstItem outer).run (lexemes json) = some (.after json (.array [] :: outer)) := by
  have read := reads (.array [] :: outer)
  obtain ⟨token, rest, first, other⟩ := lexemes_first json
  have same : (Reading.atFirstItem outer).step token =
      (Reading.atValue (.array [] :: outer)).step token := by
    cases token <;> first | rfl | exact absurd rfl other
  rw [first, Reading.run] at read ⊢
  rw [same]
  exact read

theorem run_laterItems (items : List Json) (each : ∀ item ∈ items, Reads item) (value : Json)
    (done : List Json) (outer : List Frame) :
    (Reading.after value (.array done :: outer)).run
        (items.flatMap (fun item => .comma :: lexemes item) ++ [.closeArray]) =
      some (.after (.array ((value :: done).reverse ++ items)) outer) := by
  induction items generalizing value done with
  | nil => simp [Reading.run, Reading.step]
  | cons item rest ih =>
      obtain ⟨here, later⟩ := List.forall_mem_cons.mp each
      rw [List.flatMap_cons, List.append_assoc, List.cons_append, Reading.run]
      simp only [Reading.step]
      rw [run_append, here, Option.bind_some, ih later]
      simp

theorem run_laterMembers (members : List (Option String × Json))
    (each : ∀ member ∈ members, Reads member.2) (key : Option String) (value : Json)
    (done : List (Option String × Json)) (outer : List Frame) :
    (Reading.after value (.object done key :: outer)).run
        (members.flatMap (fun member => .comma :: lexemesOfMember member) ++ [.closeObject]) =
      some (.after (.object (((key, value) :: done).reverse ++ members)) outer) := by
  induction members generalizing key value done with
  | nil => simp [Reading.run, Reading.step]
  | cons member rest ih =>
      obtain ⟨here, later⟩ := List.forall_mem_cons.mp each
      rw [List.flatMap_cons, List.append_assoc, List.cons_append, lexemesOfMember]
      simp only [List.cons_append, Reading.run, Reading.step]
      rw [run_append, here, Option.bind_some, ih later]
      simp

theorem intercalate_comma {α : Type} (part : α → List Token) (first : α) (rest : List α) :
    List.intercalate [.comma] ((first :: rest).map part) =
      part first ++ rest.flatMap fun item => .comma :: part item := by
  induction rest generalizing first with
  | nil => simp
  | cons second rest ih =>
      rw [List.map_cons, List.map_cons, List.intercalate_cons_cons, ← List.map_cons, ih second]
      simp

theorem reads_array (items : List Json) (each : ∀ item ∈ items, Reads item) :
    Reads (.array items) := by
  intro outer
  rw [lexemes, itemLexemes_eq, Reading.run]
  simp only [Reading.step, Reading.startValue]
  cases items with
  | nil => rfl
  | cons first rest =>
      obtain ⟨here, later⟩ := List.forall_mem_cons.mp each
      rw [intercalate_comma, List.append_assoc, run_append, run_firstItem first here,
        Option.bind_some, run_laterItems rest later]
      rfl

theorem reads_object (members : List (Option String × Json))
    (each : ∀ member ∈ members, Reads member.2) : Reads (.object members) := by
  intro outer
  rw [lexemes, memberLexemes_eq, Reading.run]
  simp only [Reading.step, Reading.startValue]
  cases members with
  | nil => rfl
  | cons first rest =>
      obtain ⟨here, later⟩ := List.forall_mem_cons.mp each
      rw [intercalate_comma, List.append_assoc, lexemesOfMember]
      simp only [List.cons_append, Reading.run, Reading.step]
      rw [run_append, here, Option.bind_some, run_laterMembers rest later]
      rfl

theorem reads_spelled (json : Json) (spelled : json.Spelled) : Reads json := by
  induction spelled with
  | null | bool | number | string => exact fun _ => rfl
  | array items _ ih => exact reads_array items ih
  | object members _ _ ih => exact reads_object members ih

/-- Whatever the layout, the document that a text was written for is read from it. -/
theorem parse_write (layout : Layout) (spaced : layout.Spaced) (json : Json)
    (spelled : json.Spelled) : parse (write layout 0 json) = some json := by
  have lexes := spells_write layout spaced json spelled 0 [] ends_nil
  rw [List.append_nil] at lexes
  simp [parse, tokens_of_lexes _ _ lexes, reads_spelled json spelled []]

end FrancaAudit.Json
