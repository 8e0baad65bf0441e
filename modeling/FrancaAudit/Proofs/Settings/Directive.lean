import FrancaAudit.Proofs.Log.Directive
import FrancaAudit.Settings.Reading
import Mathlib

/-!
What the directives of a log say about the settings that they are written from.

The names of modules stand in the directives as they are, so a name that holds a comma can be read
as more than one directive. Apart from such names nothing is lost.

The lemmas on the case of letters come with the whole of the library only.
-/

namespace FrancaAudit

theorem isAlpha_of_level (level : String) (known : isLevelName level) :
    ∀ char ∈ level.toList, char.isAlpha := by
  have lower : ∀ name ∈ levelNames, name.toList.all Char.isLower := by decide
  intro char member
  rw [← Char.isLower_toLower_eq_isAlpha]
  apply List.all_eq_true.mp (lower level.toLower (List.contains_iff_mem.mp known))
  rw [String.toLower, String.toList_map]
  exact List.mem_map_of_mem member

theorem level_filled (level : String) (known : isLevelName level) : level ≠ "" := by
  rintro rfl
  exact absurd known (by decide +kernel)

theorem letter_plain (char : Char) (letter : char.isAlpha) :
    char ≠ ',' ∧ char ≠ '=' ∧ char ≠ '[' ∧ char ≠ '+' := by
  refine ⟨?_, ?_, ?_, ?_⟩ <;> (rintro rfl; exact absurd letter (by decide))

theorem not_isDigit_of_letter (char : Char) (letter : char.isAlpha) : char.isDigit = false := by
  simp only [Char.isAlpha, Char.isUpper, Char.isLower, UInt32.le_iff_toNat_le, Bool.or_eq_true,
    Bool.and_eq_true, decide_eq_true_eq] at letter
  simp only [Char.isDigit, UInt32.le_iff_toNat_le, Bool.and_eq_false_iff, decide_eq_false_iff_not]
  have nine : '9'.val.toNat = 57 := rfl
  have upper : 'A'.val.toNat = 65 := rfl
  have lower : 'a'.val.toNat = 97 := rfl
  omega

theorem level_readable (level : String) (known : isLevelName level) :
    (Log.Threshold.ofText? level).isSome := by
  have upper : level.toUpper = level.toLower.toUpper := by
    apply String.toList_inj.mp
    simp only [String.toUpper, String.toLower, String.toList_map, List.map_map]
    exact List.map_congr_left fun char _ => char.toUpper_toLower_eq_toUpper.symm
  have digits : Log.Threshold.ofDigits? level = none := by
    cases spelled : level.toList with
    | nil => exact absurd (String.toList_eq_nil_iff.mp spelled) (level_filled level known)
    | cons first rest =>
        have letter : first.isAlpha := isAlpha_of_level level known first (by simp [spelled])
        simp [Log.Threshold.ofDigits?, spelled, (letter_plain first letter).2.2.2,
          not_isDigit_of_letter first letter]
  have named : ∀ name ∈ levelNames,
      (if name = "off" then some none
        else (Log.Level.all.find? fun level => level.name = name.toUpper).map some).isSome := by
    decide +kernel
  rw [Log.Threshold.ofText?, digits, Option.none_or, Log.Threshold.ofName?, upper]
  exact named _ (List.contains_iff_mem.mp known)

theorem isPlainTarget_of_level (level : String) (known : isLevelName level) :
    Log.Directive.isPlainTarget level := by
  rw [Log.Directive.isPlainTarget_iff]
  have letters := isAlpha_of_level level known
  constructor
  · cases spelled : level.toList with
    | nil => exact absurd (String.toList_eq_nil_iff.mp spelled) (level_filled level known)
    | cons first rest =>
        refine ⟨first, rest, rfl, ?_⟩
        simp [Log.Directive.canStart, Text.isAlphanumeric, Text.isAlphabetic,
          letters first (by simp [spelled])]
  · intro char member
    obtain ⟨noComma, noEquals, noBracket, _⟩ := letter_plain char (letters char member)
    exact ⟨noComma, noEquals, noBracket⟩

theorem level_unblank (level : String) (known : isLevelName level) :
    ∀ char ∈ level.toList.getLast?, ¬ Text.isWhiteSpace char := by
  intro char last
  have letter := isAlpha_of_level level known char (List.mem_of_getLast? last)
  apply Log.Directive.not_blank_of_canStart
  simp [Log.Directive.canStart, Text.isAlphanumeric, Text.isAlphabetic, letter]

theorem level_clean (level : String) (known : isLevelName level) :
    ',' ∉ level.toList ∧ '=' ∉ level.toList := by
  have letters := isAlpha_of_level level known
  exact ⟨fun member => (letter_plain _ (letters _ member)).1 rfl,
    fun member => (letter_plain _ (letters _ member)).2.1 rfl⟩

namespace LogSettings

theorem levels_known (settings : LogSettings) (sound : settings.errors = []) :
    isLevelName settings.level ∧ ∀ entry ∈ settings.modules, isLevelName entry.2 := by
  simp only [errors, List.append_eq_nil_iff, List.flatMap_eq_nil_iff] at sound
  obtain ⟨⟨ofLevel, ofModules⟩, _⟩ := sound
  constructor
  · unfold levelErrors at ofLevel
    split at ofLevel
    · contradiction
    · split at ofLevel
      · assumption
      · contradiction
  · intro entry member
    have ofModule := ofModules entry member
    unfold moduleErrors at ofModule
    split at ofModule
    · contradiction
    · split at ofModule
      · assumption
      · contradiction

def override (entry : String × String) : String := entry.1 ++ "=" ++ entry.2

def overrideChars (entry : String × String) : List Char :=
  ',' :: entry.1.toList ++ '=' :: entry.2.toList

theorem directives_eq (settings : LogSettings) :
    settings.directives =
      settings.level ++ String.join ((settings.modules.map override).map ("," ++ ·)) := by
  have parts : (fun entry => "," ++ entry.1 ++ "=" ++ entry.2) = ("," ++ ·) ∘ override := by
    funext entry
    simp only [override, Function.comp_apply, String.append_assoc]
  rw [directives, List.map_map, ← parts]

theorem toList_directives (settings : LogSettings) :
    settings.directives.toList =
      settings.level.toList ++ settings.modules.flatMap overrideChars := by
  rw [directives_eq, String.toList_append, String.toList_join, List.flatMap_map, List.flatMap_map]
  congr 1
  exact List.flatMap_congr fun entry _ => by simp [override, overrideChars]

/-- No part of the name reads as the end of one directive and the comma before another. -/
def IsUndivided (name : String) : Prop :=
  ∀ level, isLevelName level → ¬ '=' :: level.toList ++ [','] <:+: name.toList

/-- What is behind a directive: nothing, or a comma and the next one. -/
def IsTail (rest : List Char) : Prop := ∀ char ∈ rest.head?, char = ','

theorem isTail_overrides (modules : List (String × String)) :
    IsTail (modules.flatMap overrideChars) := by
  cases modules with
  | nil => simp [IsTail]
  | cons entry modules => simp [IsTail, overrideChars]

theorem cut_at_comma (first second rest others : List Char) (clean : ',' ∉ first)
    (otherClean : ',' ∉ second) (tail : IsTail rest) (otherTail : IsTail others)
    (same : first ++ rest = second ++ others) : first = second ∧ rest = others := by
  -- what the longer of the two has more would begin with the comma behind the other
  rcases List.append_eq_append_iff.mp same with ⟨more, longer, behind⟩ | ⟨more, longer, behind⟩
  · cases more with
    | nil => exact ⟨by simpa using longer.symm, by simpa using behind⟩
    | cons char more =>
        have comma : char = ',' := tail char (by simp [behind])
        exact absurd (by simp [longer, comma]) otherClean
  · cases more with
    | nil => exact ⟨by simpa using longer, by simpa using behind.symm⟩
    | cons char more =>
        have comma : char = ',' := otherTail char (by simp [behind])
        exact absurd (by simp [longer, comma]) clean

/-- An override that can be told from what stands around it. -/
structure IsClear (entry : String × String) : Prop where
  known : isLevelName entry.2
  undivided : IsUndivided entry.1

theorem name_ends (entry other : String × String) (clear : IsClear entry)
    (otherKnown : isLevelName other.2) (more rest others : List Char)
    (longer : entry.1.toList = other.1.toList ++ more) (tail : IsTail rest)
    (same : '=' :: other.2.toList ++ rest = more ++ '=' :: others) : more = [] := by
  have noEquals (further : List Char) (behind : rest = '=' :: further) : False := by
    have comma : '=' = ',' := tail '=' (by simp [behind])
    exact absurd comma (by decide)
  cases more with
  | nil => rfl
  | cons char more =>
      obtain ⟨rfl, onward⟩ := List.cons_eq_cons.mp same
      rcases List.append_eq_append_iff.mp onward with
          ⟨left, within, behind⟩ | ⟨left, within, behind⟩
      · cases left with
        | nil => exact (noEquals others behind).elim
        | cons char left =>
            -- the name goes on behind the level, so it holds the comma there
            have comma : char = ',' := tail char (by simp [behind])
            refine absurd ⟨other.1.toList, left, ?_⟩ (clear.undivided other.2 otherKnown)
            simp [longer, within, comma]
      · cases left with
        | nil => exact (noEquals others behind.symm).elim
        | cons char left =>
            -- the level goes on behind the name, so it holds the equals sign there
            obtain ⟨rfl, _⟩ := List.cons_eq_cons.mp behind
            have member : '=' ∈ other.2.toList := by
              rw [within]
              exact List.mem_append_right more List.mem_cons_self
            exact absurd member (level_clean other.2 otherKnown).2

theorem override_unique (entry other : String × String) (clear : IsClear entry)
    (otherClear : IsClear other) (rest others : List Char) (tail : IsTail rest)
    (otherTail : IsTail others)
    (same : overrideChars entry ++ rest = overrideChars other ++ others) :
    entry = other ∧ rest = others := by
  have spelled : entry.1.toList ++ ('=' :: entry.2.toList ++ rest) =
      other.1.toList ++ ('=' :: other.2.toList ++ others) := by
    simpa [overrideChars] using same
  have names : entry.1.toList = other.1.toList := by
    rcases List.append_eq_append_iff.mp spelled with ⟨more, longer, behind⟩ | ⟨more, longer, behind⟩
    · rw [longer, name_ends other entry otherClear clear.known more rest _ longer tail behind,
        List.append_nil]
    · rw [longer, name_ends entry other clear otherClear.known more others _ longer otherTail
        behind, List.append_nil]
  rw [names, List.append_cancel_left_eq] at spelled
  obtain ⟨levels, rests⟩ := cut_at_comma entry.2.toList other.2.toList rest others
    (level_clean _ clear.known).1 (level_clean _ otherClear.known).1 tail otherTail
    (List.cons_eq_cons.mp spelled).2
  exact ⟨Prod.ext (String.toList_inj.mp names) (String.toList_inj.mp levels), rests⟩

theorem overrides_unique (modules others : List (String × String))
    (clear : ∀ entry ∈ modules, IsClear entry) (otherClear : ∀ entry ∈ others, IsClear entry)
    (same : modules.flatMap overrideChars = others.flatMap overrideChars) : modules = others := by
  induction modules generalizing others with
  | nil =>
      cases others with
      | nil => rfl
      | cons other others => simp [overrideChars] at same
  | cons entry modules ih =>
      cases others with
      | nil => simp [overrideChars] at same
      | cons other others =>
          rw [List.flatMap_cons, List.flatMap_cons] at same
          rw [List.forall_mem_cons] at clear otherClear
          obtain ⟨rfl, rests⟩ := override_unique entry other clear.1 otherClear.1 _ _
            (isTail_overrides modules) (isTail_overrides others) same
          rw [ih others clear.2 otherClear.2 rests]

/-- Of levels and modules that are clear, nothing is lost in the directives. -/
theorem directives_unique (settings other : LogSettings) (known : isLevelName settings.level)
    (otherKnown : isLevelName other.level) (clear : ∀ entry ∈ settings.modules, IsClear entry)
    (otherClear : ∀ entry ∈ other.modules, IsClear entry)
    (same : settings.directives = other.directives) :
    settings.level = other.level ∧ settings.modules = other.modules := by
  have chars := congrArg String.toList same
  rw [toList_directives, toList_directives] at chars
  obtain ⟨levels, overrides⟩ := cut_at_comma _ _ _ _ (level_clean _ known).1
    (level_clean _ otherKnown).1 (isTail_overrides _) (isTail_overrides _) chars
  exact ⟨String.toList_inj.mp levels, overrides_unique _ _ clear otherClear overrides⟩

/-- The modules whose overrides are read where a list of overrides is written: a name is cut
wherever a directive ends within it. -/
inductive StandsFor : List (String × String) → List (String × String) → Prop
  | nil : StandsFor [] []
  | whole (entry : String × String) (modules others : List (String × String))
      (undivided : IsUndivided entry.1) (rest : StandsFor modules others) :
      StandsFor (entry :: modules) (entry :: others)
  | parts (name level other last : String) (modules others : List (String × String))
      (known : isLevelName level)
      (rest : StandsFor ((name, level) :: (other, last) :: modules) others) :
      StandsFor ((name ++ "=" ++ level ++ "," ++ other, last) :: modules) others

theorem standsFor_self (modules : List (String × String))
    (undivided : ∀ entry ∈ modules, IsUndivided entry.1) : StandsFor modules modules := by
  induction modules with
  | nil => exact .nil
  | cons entry modules ih =>
      rw [List.forall_mem_cons] at undivided
      exact .whole entry modules modules undivided.1 (ih undivided.2)

theorem undivided_of_plain (name : String) (plain : Log.Directive.isPlainTarget name) :
    IsUndivided name := by
  intro level _ inside
  have member : ',' ∈ name.toList := inside.subset (by simp)
  exact (((Log.Directive.isPlainTarget_iff name).mp plain).2 ',' member).1 rfl

theorem standsFor_cons (name last : String) (modules others : List (String × String))
    (rest : StandsFor modules others) : ∃ all, StandsFor ((name, last) :: modules) all := by
  induction size : name.length using Nat.strong_induction_on
    generalizing name last modules others with
  | _ size ih =>
      by_cases undivided : IsUndivided name
      · exact ⟨_, .whole (name, last) modules others undivided rest⟩
      · obtain ⟨level, known, front, back, spelled⟩ :
            ∃ level, isLevelName level ∧ '=' :: level.toList ++ [','] <:+: name.toList := by
          simpa [IsUndivided] using undivided
        have parts : name = String.ofList front ++ "=" ++ level ++ "," ++ String.ofList back := by
          apply String.toList_inj.mp
          simp [← spelled]
        -- both parts of the name are shorter
        have lengths := congrArg String.length parts
        simp only [String.length_append, String.length_ofList, size] at lengths
        have one : "=".length = 1 ∧ ",".length = 1 := by decide
        obtain ⟨behind, restBehind⟩ := ih back.length (by omega) (String.ofList back) last modules
          others rest (String.length_ofList)
        obtain ⟨all, stands⟩ := ih front.length (by omega) (String.ofList front) level _ behind
          restBehind (String.length_ofList)
        rw [parts]
        exact ⟨all, .parts _ level _ last modules all known stands⟩

theorem standsFor_exists (modules : List (String × String)) :
    ∃ others, StandsFor modules others := by
  induction modules with
  | nil => exact ⟨[], .nil⟩
  | cons entry modules ih =>
      obtain ⟨others, rest⟩ := ih
      exact standsFor_cons entry.1 entry.2 modules others rest

theorem overrides_of_standsFor (modules others : List (String × String))
    (stands : StandsFor modules others) :
    modules.flatMap overrideChars = others.flatMap overrideChars := by
  induction stands with
  | nil => rfl
  | whole entry modules others _ _ ih => rw [List.flatMap_cons, List.flatMap_cons, ih]
  | parts name level other last modules others _ _ ih =>
      rw [← ih]
      simp [overrideChars]

theorem directives_of_standsFor (settings : LogSettings) (modules : List (String × String))
    (stands : StandsFor settings.modules modules) :
    settings.directives = { settings with modules }.directives := by
  apply String.toList_inj.mp
  rw [toList_directives, toList_directives, overrides_of_standsFor _ _ stands]

theorem clear_of_standsFor (modules others : List (String × String))
    (stands : StandsFor modules others) (known : ∀ entry ∈ modules, isLevelName entry.2) :
    ∀ entry ∈ others, IsClear entry := by
  induction stands with
  | nil => simp
  | whole entry modules others undivided _ ih =>
      rw [List.forall_mem_cons] at known ⊢
      exact ⟨⟨known.1, undivided⟩, ih known.2⟩
  | parts name level other last modules others levelKnown _ ih =>
      rw [List.forall_mem_cons] at known
      apply ih
      rw [List.forall_mem_cons, List.forall_mem_cons]
      exact ⟨levelKnown, known⟩

theorem same_directives_iff (settings other : LogSettings) (known : isLevelName settings.level)
    (otherKnown : isLevelName other.level)
    (modulesKnown : ∀ entry ∈ settings.modules, isLevelName entry.2)
    (othersKnown : ∀ entry ∈ other.modules, isLevelName entry.2) :
    settings.directives = other.directives ↔
      settings.level = other.level ∧
        ∃ modules, StandsFor settings.modules modules ∧ StandsFor other.modules modules := by
  constructor
  · intro same
    obtain ⟨modules, stands⟩ := standsFor_exists settings.modules
    obtain ⟨others, otherStands⟩ := standsFor_exists other.modules
    rw [directives_of_standsFor settings modules stands,
      directives_of_standsFor other others otherStands] at same
    obtain ⟨level, rfl⟩ := directives_unique { settings with modules }
      { other with modules := others } known otherKnown (clear_of_standsFor _ _ stands modulesKnown)
      (clear_of_standsFor _ _ otherStands othersKnown) same
    exact ⟨level, modules, stands, otherStands⟩
  · rintro ⟨level, modules, stands, otherStands⟩
    rw [directives_of_standsFor settings modules stands,
      directives_of_standsFor other modules otherStands, directives, directives, level]

/-- The directive gives the asked level to its target, or to all of them, whatever else an event
holds. -/
structure Gives (asked : Option String × String) (directive : Log.Directive) : Prop where
  target : directive.target = asked.1
  threshold : Log.Threshold.ofText? asked.2 = some directive.threshold
  span : directive.span = none
  fields : directive.fields = []

def asked (level : String) (modules : List (String × String)) : List (Option String × String) :=
  (none, level) :: modules.map fun (module, level) => (some module, level)

theorem gives_level (level : String) (known : isLevelName level) :
    ∃ directive, Log.Directive.ofText level = .ok directive ∧ Gives (none, level) directive := by
  obtain ⟨threshold, read⟩ := Option.isSome_iff_exists.mp (level_readable level known)
  have reads := Log.Directive.ofText_level level threshold (isPlainTarget_of_level level known)
    (level_unblank level known) read
  exact ⟨_, reads, rfl, read, rfl, rfl⟩

theorem gives_override (entry : String × String) (known : isLevelName entry.2)
    (plain : Log.Directive.isPlainTarget entry.1) :
    ∃ directive, Log.Directive.ofText (override entry) = .ok directive ∧
      Gives (some entry.1, entry.2) directive := by
  obtain ⟨threshold, read⟩ := Option.isSome_iff_exists.mp (level_readable entry.2 known)
  have reads := Log.Directive.ofText_override entry.1 entry.2 threshold plain
    (level_filled entry.2 known) (level_unblank entry.2 known) read
  exact ⟨_, reads, rfl, read, rfl, rfl⟩

theorem gives_overrides (modules : List (String × String))
    (known : ∀ entry ∈ modules, isLevelName entry.2)
    (plain : ∀ entry ∈ modules, Log.Directive.isPlainTarget entry.1) :
    ∃ directives, (modules.map override).mapM Log.Directive.ofText = .ok directives ∧
      List.Forall₂ Gives (modules.map fun (module, level) => (some module, level)) directives := by
  induction modules with
  | nil => exact ⟨[], rfl, .nil⟩
  | cons entry modules ih =>
      rw [List.forall_mem_cons] at known plain
      obtain ⟨directive, read, gives⟩ := gives_override entry known.1 plain.1
      obtain ⟨directives, others, rest⟩ := ih known.2 plain.2
      refine ⟨directive :: directives, ?_, .cons gives rest⟩
      rw [List.map_cons, List.mapM_cons, read, others]
      rfl

/-- Events alone decide on such directives, so the filter keeps them all. -/
theorem static_of_gives (wanted : List (Option String × String)) (directives : List Log.Directive)
    (given : List.Forall₂ Gives wanted directives) :
    directives.filter Log.Directive.isStatic = directives := by
  induction given with
  | nil => rfl
  | cons gives _ ih =>
      rw [List.filter_cons_of_pos, ih]
      simp [Log.Directive.isStatic, gives.span, gives.fields]

theorem override_clean (entry : String × String) (known : isLevelName entry.2)
    (plain : Log.Directive.isPlainTarget entry.1) :
    ',' ∉ (override entry).toList ∧ override entry ≠ "" := by
  have nameClean : ',' ∉ entry.1.toList := fun member =>
    (((Log.Directive.isPlainTarget_iff entry.1).mp plain).2 ',' member).1 rfl
  constructor
  · simp [override, nameClean, (level_clean entry.2 known).1]
  · simp [override]

theorem split_directives (settings : LogSettings) (known : isLevelName settings.level)
    (modulesKnown : ∀ entry ∈ settings.modules, isLevelName entry.2)
    (plain : ∀ entry ∈ settings.modules, Log.Directive.isPlainTarget entry.1) :
    Log.Filter.split settings.directives = settings.level :: settings.modules.map override := by
  have clean (entry : String × String) (member : entry ∈ settings.modules) :=
    override_clean entry (modulesKnown entry member) (plain entry member)
  rw [directives_eq]
  apply Log.split_joined
  · rw [List.forall_mem_cons, List.forall_mem_map]
    exact ⟨(level_clean _ known).1, fun entry member => (clean entry member).1⟩
  · rw [List.forall_mem_cons, List.forall_mem_map]
    exact ⟨level_filled _ known, fun entry member => (clean entry member).2⟩

theorem filter_of_plain (settings : LogSettings) (known : isLevelName settings.level)
    (modulesKnown : ∀ entry ∈ settings.modules, isLevelName entry.2)
    (plain : ∀ entry ∈ settings.modules, Log.Directive.isPlainTarget entry.1) :
    ∃ directives, Log.Filter.ofText settings.directives = .ok ⟨directives⟩ ∧
      List.Forall₂ Gives (asked settings.level settings.modules) directives := by
  obtain ⟨general, read, gives⟩ := gives_level settings.level known
  obtain ⟨directives, others, rest⟩ := gives_overrides settings.modules modulesKnown plain
  have given : List.Forall₂ Gives (asked settings.level settings.modules) (general :: directives) :=
    .cons gives rest
  have readings : (settings.level :: settings.modules.map override).mapM Log.Directive.ofText =
      .ok (general :: directives) := by
    rw [List.mapM_cons, read, others]
    rfl
  have kept : Log.Filter.ofDirectives (general :: directives) = ⟨general :: directives⟩ := by
    rw [Log.Filter.ofDirectives, static_of_gives _ _ given]
    rfl
  refine ⟨general :: directives, ?_, given⟩
  rw [Log.Filter.ofText, split_directives settings known modulesKnown plain, readings, ← kept]
  rfl

/-- Settings that make sense have the same directives exactly if they have the same level and their
modules stand for the same ones, so the directives determine settings with undivided names. If the
names that the modules stand for are plain, the directives are read as a filter with one directive
for the level and one for each of those names. -/
theorem directives_faithful (settings other : LogSettings) (sound : settings.errors = [])
    (otherSound : other.errors = []) :
    (settings.directives = other.directives ↔
      settings.level = other.level ∧
        ∃ modules, StandsFor settings.modules modules ∧ StandsFor other.modules modules) ∧
    ((∀ entry ∈ settings.modules, IsUndivided entry.1) →
      (∀ entry ∈ other.modules, IsUndivided entry.1) → settings.directives = other.directives →
        settings.level = other.level ∧ settings.modules = other.modules) ∧
    ∀ modules, StandsFor settings.modules modules →
      (∀ entry ∈ modules, Log.Directive.isPlainTarget entry.1) →
        ∃ directives, Log.Filter.ofText settings.directives = .ok ⟨directives⟩ ∧
          List.Forall₂ Gives (asked settings.level modules) directives := by
  obtain ⟨known, modulesKnown⟩ := settings.levels_known sound
  obtain ⟨otherKnown, othersKnown⟩ := other.levels_known otherSound
  refine ⟨same_directives_iff settings other known otherKnown modulesKnown othersKnown, ?_, ?_⟩
  · intro undivided otherUndivided same
    apply directives_unique settings other known otherKnown _ _ same
    · exact fun entry member => ⟨modulesKnown entry member, undivided entry member⟩
    · exact fun entry member => ⟨othersKnown entry member, otherUndivided entry member⟩
  · intro modules stands plain
    -- the directives are those of the modules stood for, whose names hold no other directive
    have clear := clear_of_standsFor _ _ stands modulesKnown
    rw [directives_of_standsFor settings modules stands]
    exact filter_of_plain { settings with modules } known
      (fun entry member => (clear entry member).known) plain

/-- One module, whose name has a directive for another one in it. -/
def divided : LogSettings := { standard with modules := [("a=info,b", "debug")] }

def parted : LogSettings := { standard with modules := [("a", "info"), ("b", "debug")] }

def exchanged : LogSettings := { standard with modules := [("a", "debug"), ("b", "info")] }

theorem divided_read :
    divided.errors = [] ∧ parted.errors = [] ∧ exchanged.errors = [] ∧
      divided.directives = parted.directives ∧ parted.directives ≠ exchanged.directives ∧
      ∃ directives, Log.Filter.ofText divided.directives = .ok ⟨directives⟩ ∧
        List.Forall₂ Gives (asked "warn" parted.modules) directives := by
  have dividedSound : divided.errors = [] := by decide +kernel
  have partedSound : parted.errors = [] := by decide +kernel
  have exchangedSound : exchanged.errors = [] := by decide +kernel
  have partedPlain : ∀ entry ∈ parted.modules, Log.Directive.isPlainTarget entry.1 := by
    decide +kernel
  have partedUndivided : ∀ entry ∈ parted.modules, IsUndivided entry.1 :=
    fun entry member => undivided_of_plain entry.1 (partedPlain entry member)
  have exchangedUndivided : ∀ entry ∈ exchanged.modules, IsUndivided entry.1 := by
    simpa [parted, exchanged] using partedUndivided
  have stands : StandsFor divided.modules parted.modules :=
    .parts "a" "info" "b" "debug" [] _ (by decide +kernel) (standsFor_self _ partedUndivided)
  obtain ⟨alike, _, read⟩ := directives_faithful divided parted dividedSound partedSound
  obtain ⟨_, determined, _⟩ := directives_faithful parted exchanged partedSound exchangedSound
  refine ⟨dividedSound, partedSound, exchangedSound,
    alike.mpr ⟨rfl, _, stands, standsFor_self _ partedUndivided⟩, ?_, read _ stands partedPlain⟩
  intro same
  exact absurd (determined partedUndivided exchangedUndivided same).2 (by decide +kernel)

/-- The two are different settings with the same directives, and the first is accepted. -/
theorem divided_mistaken :
    (Settings.ofText "[logging.modules]\n\"a=info,b\" = \"debug\"\n").toOption =
        some { Settings.standard with logging := divided } ∧
      divided.errors = [] ∧ parted.errors = [] ∧
      divided.directives = parted.directives ∧ divided.modules ≠ parted.modules := by
  decide +kernel

end LogSettings

end FrancaAudit
