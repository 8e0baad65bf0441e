import FrancaAudit.Proofs.Check.Builtin
import Mathlib.Logic.Function.Iterate

/-!
What a pass adds to the findings already there.

Each rule set of the library works on the sink and leaves the same block there in any pass; of the
options, the mode decides about validators only. A validator sees what was found before it, so its
findings may differ from pass to pass. They are described block by block, each block computed from
all that stands before it.
-/

namespace FrancaAudit.Check

variable (model : Model)

/-- One block of findings for each validator, computed from what was found before. -/
structure Contributes (validators : List Validator) (found : List Diagnostic)
    (blocks : List (List Diagnostic)) : Prop where
  complete : blocks.length = validators.length
  computed : ∀ (index : Nat) (validator : Validator), validators[index]? = some validator →
    blocks[index]? = some (validator.findings model (found ++ (blocks.take index).flatten))

theorem contributes_nil (found : List Diagnostic) : Contributes model [] found [] :=
  ⟨rfl, fun index validator listed => by simp at listed⟩

theorem contributes_cons (validator : Validator) (rest : List Validator)
    (found : List Diagnostic) (blocks : List (List Diagnostic))
    (later : Contributes model rest (found ++ validator.findings model found) blocks) :
    Contributes model (validator :: rest) found (validator.findings model found :: blocks) where
  complete := by simp [later.complete]
  computed := by
    intro index other listed
    cases index with
    | zero =>
        obtain rfl : validator = other := by simpa using listed
        simp
    | succ index =>
        have behind := later.computed index other (by simpa using listed)
        simpa [List.append_assoc] using behind

def consult (found : List Diagnostic) (validator : Validator) : List Diagnostic :=
  found ++ validator.findings model found

/-- The validators that the mode leaves out change nothing. -/
theorem foldl_validate (options : Options) (validators : List Validator)
    (found : List Diagnostic) :
    validators.foldl (validate options model) found =
      (validators.filter fun validator => validator.mode ≤ options.mode).foldl (consult model)
        found := by
  induction validators generalizing found with
  | nil => rfl
  | cons validator rest ih =>
      by_cases runs : validator.mode ≤ options.mode
      · rw [List.filter_cons_of_pos (by simpa using runs), List.foldl_cons, List.foldl_cons, ih,
          validate, if_pos runs, consult]
      · rw [List.filter_cons_of_neg (by simpa using runs), List.foldl_cons, ih, validate,
          if_neg runs]

theorem foldl_consult (validators : List Validator) (found : List Diagnostic) :
    ∃ blocks, Contributes model validators found blocks ∧
      validators.foldl (consult model) found = found ++ blocks.flatten := by
  induction validators generalizing found with
  | nil => exact ⟨[], contributes_nil model found, by simp⟩
  | cons validator rest ih =>
      obtain ⟨blocks, later, reached⟩ := ih (consult model found validator)
      refine ⟨_, contributes_cons model validator rest found blocks later, ?_⟩
      rw [List.foldl_cons, reached, consult, List.flatten_cons, List.append_assoc]

theorem iterate_append (block found : List Diagnostic) (passes : Nat) :
    (fun before => before ++ block)^[passes] found =
      found ++ (List.replicate passes block).flatten := by
  induction passes with
  | zero => simp
  | succ passes ih =>
      rw [Function.iterate_succ_apply', ih, List.append_assoc, List.replicate_succ',
        List.flatten_concat]

/-- What was there before stays in front. Behind it each rule set puts a block of its own, which is
the same in every mode, for all validators and whatever was there before. Then come the findings of
the validators that the mode admits, in order, each computed from all that stands before it. So
passes without validators repeat the blocks. -/
theorem runInto_appends (elementOrder : Bool) :
    ∃ blocks, List.Forall₂
        (fun rules block => ∀ mode, Appends (rules.check ⟨mode, elementOrder⟩ model) block)
        builtinRules blocks ∧
      ∀ mode validators found,
        run ⟨mode, elementOrder⟩ [] model = blocks.flatten ∧
        (∃ later, Contributes model (validators.filter fun validator => validator.mode ≤ mode)
            (found ++ blocks.flatten) later ∧
          runInto ⟨mode, elementOrder⟩ validators model found =
            found ++ blocks.flatten ++ later.flatten) ∧
        ∀ passes, (runInto ⟨mode, elementOrder⟩ [] model)^[passes] found =
          found ++ (List.replicate passes blocks.flatten).flatten := by
  -- the mode is no part of what the rules see, so any mode gives the blocks
  let blocks := (groups ⟨.normal, elementOrder⟩ model).map (·.2)
  have made (mode : Mode) : builtinFindings ⟨mode, elementOrder⟩ model = blocks.flatten := by
    rw [← List.flatMap_def]
    rfl
  refine ⟨blocks, ?_, fun mode validators found => ⟨?_, ?_, ?_⟩⟩
  · rw [List.forall₂_map_right_iff]
    exact (builtinRules_make ⟨.normal, elementOrder⟩ model).imp fun _ _ makes => makes.2
  · rw [run_eq, made]
  · rw [runInto_eq, made, foldl_validate]
    exact foldl_consult model _ _
  · have pass (before : List Diagnostic) :
        runInto ⟨mode, elementOrder⟩ [] model before = before ++ blocks.flatten := by
      rw [runInto_eq, List.foldl_nil, made]
    rw [funext pass]
    exact iterate_append _ found

/-- Says how much was found before it. -/
def tallying (mode : Mode) : Validator where
  name := "tally"
  mode := mode
  findings := fun _ found => [.warning .external (.type ⟨found.length⟩) .name "tally"]

def hollow : Model where
  name := "hollow"
  collections := []
  interfaces := []
  types := [⟨"Empty", .unknown, .collection ⟨0⟩, [], .struct none false []⟩]
  constants := []

/-- The empty type is found before the first tally, and the expensive tally is passed over. -/
theorem hollow_tallied :
    let validators := [tallying .fast, tallying .expensive, tallying .normal]
    (∃ later,
      Contributes hollow [tallying .fast, tallying .normal] (run .standard [] hollow) later ∧
      runInto .standard validators hollow [] = run .standard [] hollow ++ later.flatten) ∧
    (runInto .standard validators hollow []).map (·.node) =
      [.type ⟨0⟩, .type ⟨1⟩, .type ⟨2⟩] := by
  intro validators
  obtain ⟨blocks, _, passes⟩ := runInto_appends hollow true
  obtain ⟨fresh, ⟨later, tallies, reached⟩, _⟩ := passes .normal validators []
  have alone : run .standard [] hollow = blocks.flatten := fresh
  rw [alone]
  exact ⟨⟨later, tallies, reached⟩, by decide⟩

end FrancaAudit.Check
