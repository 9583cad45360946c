import ShellTemplate.Proofs.ArgumentLists
import ShellTemplate.Proofs.Runs

/-!
# Where a template comes from

A template is read from a file with its line ends unified, but from standard input as it is. That is the only
difference: a file does what its content does on standard input once every line end in it is a line feed.
-/

namespace ShellTemplate

namespace Command

/-! ## Asking for a file -/

section
variable {machine : Machine} {rules : ArgumentRules} {front back given : List Text} {path : Text} {content : Bytes}

/-- Asking for a file to read, where no other is asked for, changes what is to be read and nothing else. -/
theorem Request.ofTexts_input (whole : IsWhole rules front) (gives : Gives rules .input path given)
    (unnamed : ∀ settings, ofTexts (front ++ back) rules = .ok (.expand settings) → settings.input = none) :
    (∃ settings, ofTexts (front ++ back) rules = .ok (.expand settings) ∧ settings.input = none ∧
      ofTexts (front ++ given ++ back) rules = .ok (.expand { settings with input := some path })) ∨
        ofTexts (front ++ given ++ back) rules = ofTexts (front ++ back) rules ∧
          ∀ settings, ofTexts (front ++ back) rules ≠ .ok (.expand settings) := by
  have named : ofTexts given rules = .ok (.expand { Settings.initial with input := some path }) := gives.ofTexts_eq
  by_cases asked : ∃ first, ofTexts front rules = .ok (.expand first)
  · obtain ⟨first, asked⟩ := asked
    rw [ofTexts_append asked] at unnamed ⊢
    rw [ofTexts_between asked named]
    cases later : ofTexts back rules with
    | error e => exact Or.inr ⟨rfl, fun _ => by simp [Except.map]⟩
    | ok request =>
      cases request with
      | help => exact Or.inr ⟨rfl, fun _ => by simp [Except.map, after]⟩
      | expand second =>
        rw [later] at unnamed
        have none_named : second.input = none ∧ first.input = none := by
          simpa [Settings.followedBy] using unnamed _ rfl
        refine Or.inl ⟨first.followedBy second, rfl, unnamed _ rfl, ?_⟩
        simp [Except.map, after, Settings.followedBy, Settings.initial, none_named]
  · have ended := not_exists.1 asked
    have same : ambiguity? (Argument.ofTexts (given ++ back)) = ambiguity? (Argument.ofTexts back) :=
      ((isWhole_of_ofTexts named).append back).1
    refine Or.inr ⟨?_, ?_⟩
    · rw [List.append_assoc, ofTexts_append_of_ended whole ended, ofTexts_append_of_ended whole ended, same]
    · intro settings
      rw [ofTexts_append_of_ended whole ended]
      split
      · simp
      · exact ended settings

theorem Settings.reads_file {settings : Settings} (asked : settings.input = some path)
    (opened : machine.open? machine.files path = .ok content) (input : Bytes) :
    settings.Reads templateOfFile machine input (templateOfFile content) := by
  refine .file ?_ opened
  rw [asked]
  cases path with
  | nil => exact absurd rfl (System.ne_nil_of_open? opened)
  | cons s rest => rfl

/-- A run over a file does what the same run does over its content on standard input, with all line ends in it line
    feeds; so it makes no difference where a template without carriage returns comes from. -/
theorem run_file_eq_run_input (whole : Request.IsWhole machine.rules front) (gives : Gives machine.rules .input path given)
    (unnamed : ∀ settings, Request.ofTexts (front ++ back) machine.rules = .ok (.expand settings) → settings.input = none)
    (opened : machine.open? machine.files path = .ok content) (input : Bytes) (environment : Variables) :
    run machine ⟨front ++ given ++ back, input, environment⟩ =
        run machine ⟨front ++ back, content.unifyLineEnds, environment⟩ ∧
      (0x0d ∉ content →
        run machine ⟨front ++ given ++ back, input, environment⟩ = run machine ⟨front ++ back, content, environment⟩) := by
  have unified : run machine ⟨front ++ given ++ back, input, environment⟩ =
      run machine ⟨front ++ back, content.unifyLineEnds, environment⟩ := by
    rcases Request.ofTexts_input whole gives unnamed with ⟨settings, asked, nothing, askedFile⟩ | ⟨same, ended⟩
    · have reads : settings.Reads templateOfFile machine content.unifyLineEnds (templateOfFile content) := by
        rw [templateOfFile_eq]
        refine .input ?_
        rw [nothing]
        rfl
      have readsFile : { settings with input := some path }.Reads templateOfFile machine input (templateOfFile content) :=
        Settings.reads_file rfl opened input
      rw [run_of_reads askedFile readsFile, run_of_reads asked reads]
      rfl
    · cases asked : Request.ofTexts (front ++ back) machine.rules with
      | error e => rw [run_of_usage (same.trans asked), run_of_usage asked]
      | ok request =>
        cases request with
        | help => rw [run_of_help (same.trans asked), run_of_help asked]
        | expand settings => exact absurd asked (ended settings)
  refine ⟨unified, ?_⟩
  intro plain
  rw [unified, Bytes.unifyLineEnds_of_not_mem plain]

end

theorem run_file_eq_run_input_stray :
    let front := [Text.ofString "-s", Text.ofString "x=a"]
    let back := [Text.ofString "--no-environ"]
    let given := [Text.ofString "-i", Text.ofString "f"]
    let content : Bytes := [0x24, 0x78, 0xff, 0x0d, 0x0a]
    let machine := Machine.ofWorking [(Text.ofString "f", content)]
    Request.IsWhole machine.rules front ∧ Gives machine.rules .input (Text.ofString "f") given ∧
      machine.open? machine.files (Text.ofString "f") = .ok content ∧
        run machine ⟨front ++ given ++ back, [], []⟩ = run machine ⟨front ++ back, [0x24, 0x78, 0xff, 0x0a], []⟩ := by
  intro front back given content machine
  have whole : Request.IsWhole machine.rules front := Request.isWhole_of_ofTexts rfl
  have gives : Gives machine.rules .input (Text.ofString "f") given := .apart rfl rfl
  have opened : machine.open? machine.files (Text.ofString "f") = .ok content := rfl
  have unnamed : ∀ settings, Request.ofTexts (front ++ back) machine.rules = .ok (.expand settings) → settings.input = none := by
    rintro settings ⟨⟩
    rfl
  exact ⟨whole, gives, opened, (run_file_eq_run_input whole gives unnamed opened [] []).1⟩

/-- Line ends that are not line feeds are kept on standard input, but not in a file. -/
theorem run_file_ne_run_input :
    let content : Bytes := [0x61, 0x0d, 0x0a, 0x62]
    let machine := Machine.ofWorking [(Text.ofString "f", content)]
    machine.open? machine.files (Text.ofString "f") = .ok content ∧
      (run machine ⟨[Text.ofString "-i", Text.ofString "f"], [], []⟩).output ≠ (run machine ⟨[], content, []⟩).output := by
  intro content machine
  have fromFile : (run machine ⟨[Text.ofString "-i", Text.ofString "f"], [], []⟩).output = [0x61, 0x0a, 0x62] := rfl
  have fromInput : (run machine ⟨[], content, []⟩).output = content := rfl
  rw [fromFile, fromInput]
  exact ⟨rfl, by decide⟩

end Command

end ShellTemplate
