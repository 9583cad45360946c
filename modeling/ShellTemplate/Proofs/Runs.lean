import ShellTemplate.Command.Run
import ShellTemplate.Proofs.LineEnds

/-!
# What runs come to

A run fails and leaves everything as it was, or it does all that was asked for: the result goes to one place,
and nothing else changes. So after any number of runs a file holds what the last run that wrote it put there.
This is so on every machine, but the text of a template in a file is the file decoded only after its line ends
are unified (`runAll_allOrNothing`, `runAll_not_history_decode`).
-/

namespace ShellTemplate.Command

/-! ## Files -/

namespace Files

theorem lookup_cons (location : Location) (content : Bytes) (files : Files) (other : Location) :
    List.lookup other ((location, content) :: files) = if other = location then some content else files.lookup other := by
  rw [List.lookup_cons]
  by_cases same : other = location
  · simp [same]
  · have different : (other == location) = false := beq_eq_false_iff_ne.2 same
    simp [same, different]

theorem lookup_put (location : Location) (content : Bytes) (files : Files) (other : Location) :
    (files.put location content).lookup other = if other = location then some content else files.lookup other := by
  induction files with
  | nil => exact lookup_cons ..
  | cons file rest ih =>
    obtain ⟨first, old⟩ := file
    rw [put]
    by_cases here : first = location
    · subst here
      rw [if_pos rfl, lookup_cons, lookup_cons]
      split <;> rfl
    · rw [if_neg here, lookup_cons, lookup_cons, ih]
      by_cases same : other = first
      · subst same
        rw [if_pos rfl, if_pos rfl, if_neg here]
      · rw [if_neg same, if_neg same]

end Files

namespace System
variable {system : System} {files : Files} {path : Text} {content : Bytes}

theorem open?_eq_ok_iff :
    system.open? files path = .ok content ↔
      system.refusal? .reading files path = none ∧ files.lookup (system.locate path) = some content := by
  unfold open?
  cases system.refusal? .reading files path with
  | some e => simp
  | none => cases files.lookup (system.locate path) <;> simp

/-- A path that names a file to open is not empty. -/
theorem ne_nil_of_open? (opened : system.open? files path = .ok content) : path ≠ [] := by
  rintro rfl
  exact system.refuses_nil .reading files (open?_eq_ok_iff.1 opened).1

theorem replace?_admitted (admitted : system.refusal? .writing files path = none) (content : Bytes) :
    system.replace? files path content = .ok (files.put (system.locate path) content) := by
  rw [replace?, admitted]

theorem replace?_refused {e : FileError} (refused : system.refusal? .writing files path = some e) (content : Bytes) :
    system.replace? files path content = .error e := by
  rw [replace?, refused]

end System

theorem templateOfFile_eq (content : Bytes) : templateOfFile content = Text.decode content.unifyLineEnds :=
  (Text.editsAt_unifyLineEnds.decode_eq content).symm

theorem templateOfFile_of_not_mem {content : Bytes} (plain : 0x0d ∉ content) :
    templateOfFile content = Text.decode content := by
  rw [templateOfFile_eq, Bytes.unifyLineEnds_of_not_mem plain]

/-! ## All or nothing -/

section
variable (decodeFile : Bytes → Text) (machine : Machine)

/-- Whether a text is the template of a run: what stands on standard input, or what is read from the file to read as it
    is before the run. `decodeFile` says how the text of a file comes from its content. -/
inductive Settings.Reads (settings : Settings) (input : Bytes) : Text → Prop where
  | input (unnamed : namedFile? settings.input = none) : Reads settings input (Text.decode input)
  | file {path : Text} {content : Bytes} (named : namedFile? settings.input = some path)
      (opened : machine.open? machine.files path = .ok content) : Reads settings input (decodeFile content)

/-- Whether a text is what the template of a run expands to. -/
def Settings.Yields (settings : Settings) (invocation : Invocation) (result : Text) : Prop :=
  ∃ text, settings.Reads decodeFile machine invocation.input text ∧
    Template.expand (settings.bindings invocation.environment).get? text = .ok result

/-- Whether bytes went to one place and nothing else changed: to standard output, or to the file at a path, which then
    holds them and nothing more. -/
inductive Delivers (result : Bytes) (outcome : Outcome) : (path : Option Text) → (written : Option (Location × Bytes)) → Prop where
  | output (printed : outcome.output = result) (kept : outcome.files = machine.files) : Delivers result outcome none none
  | file {path : Text} (admitted : machine.refusal? .writing machine.files path = none) (silent : outcome.output = [])
      (whole : ∀ other, outcome.files.lookup other =
        if other = machine.locate path then some result else machine.files.lookup other) :
      Delivers result outcome (some path) (some (machine.locate path, result))

/-- Why a run has no result, with its exit status. -/
inductive Failure (invocation : Invocation) : Nat → Prop where
  | usage {e : UsageError} (asked : Request.ofTexts invocation.arguments machine.rules = .error e) : Failure invocation 2
  | unread {settings : Settings} (asked : Request.ofTexts invocation.arguments machine.rules = .ok (.expand settings))
      (unread : ∀ text, ¬ settings.Reads decodeFile machine invocation.input text) : Failure invocation 1
  | malformed {settings : Settings} {text : Text} {fault : Fault}
      (asked : Request.ofTexts invocation.arguments machine.rules = .ok (.expand settings))
      (reads : settings.Reads decodeFile machine invocation.input text)
      (malformed : Template.expand (settings.bindings invocation.environment).get? text = .error fault) :
      Failure invocation 1
  | unwritten {settings : Settings} {result path : Text} {e : FileError}
      (asked : Request.ofTexts invocation.arguments machine.rules = .ok (.expand settings))
      (yields : settings.Yields decodeFile machine invocation result) (named : namedFile? settings.output = some path)
      (refused : machine.refusal? .writing machine.files path = some e) : Failure invocation 1

/-- Whether a run failed and changed nothing, gave help, or did all that was asked for; `written` is the file that it
    wrote with its whole content, if it wrote one. -/
inductive AllOrNothing (invocation : Invocation) (outcome : Outcome) (written : Option (Location × Bytes)) : Prop where
  | nothing (failed : Failure decodeFile machine invocation outcome.status) (silent : outcome.output = [])
      (kept : outcome.files = machine.files) (unwritten : written = none)
  | help (asked : Request.ofTexts invocation.arguments machine.rules = .ok .help) (status : outcome.status = 0)
      (kept : outcome.files = machine.files) (unwritten : written = none)
  | all {settings : Settings} {result : Text}
      (asked : Request.ofTexts invocation.arguments machine.rules = .ok (.expand settings))
      (yields : settings.Yields decodeFile machine invocation result) (status : outcome.status = 0)
      (delivers : Delivers machine result.encode outcome (namedFile? settings.output) written)

end

/-! ## The steps of a run -/

theorem Settings.expandText_eq (settings : Settings) (environment : Variables) (text : Text) :
    settings.expandText environment text =
      (Template.expand (settings.bindings environment).get? text, settings.remarks (Template.read text)) := rfl

section
variable {machine : Machine} {invocation : Invocation} {settings : Settings} {text result path : Text}

namespace Host

theorem ofCommand_fail (status : Nat) (text : Text) (files : Files) :
    Outcome.ofCommand ((ofSystem machine.toSystem invocation).fail status text) files =
      ⟨⟨[], text.escapeStrays.encode, files⟩, status⟩ := rfl

theorem ofCommand_succeed (text : Text) (files : Files) :
    Outcome.ofCommand ((ofSystem machine.toSystem invocation).succeed text) files = ⟨⟨text.encode, [], files⟩, 0⟩ := rfl

theorem run_open? (path : Text) (effects : Effects) :
    ((ofSystem machine.toSystem invocation).open? path).run effects = (machine.open? effects.files path, effects) := rfl

theorem run_template_of_reads (reads : settings.Reads templateOfFile machine invocation.input text) (output errors : Bytes) :
    ((ofSystem machine.toSystem invocation).template settings).run ⟨output, errors, machine.files⟩ =
      (.ok text, ⟨output, errors, machine.files⟩) := by
  cases reads with
  | input unnamed =>
    rw [template, unnamed]
    rfl
  | file named opened =>
    rw [template, named, StateT.run_bind, run_open?, opened]
    rfl

theorem run_template_of_unread (unread : ∀ text, ¬ settings.Reads templateOfFile machine invocation.input text)
    (output errors : Bytes) :
    ∃ message, ((ofSystem machine.toSystem invocation).template settings).run ⟨output, errors, machine.files⟩ =
      (.error message, ⟨output, errors, machine.files⟩) := by
  cases named : namedFile? settings.input with
  | none => exact absurd (.input named) (unread _)
  | some path =>
    cases opened : machine.open? machine.files path with
    | ok content => exact absurd (.file named opened) (unread _)
    | error e =>
      rw [template, named, StateT.run_bind, run_open?, opened]
      exact ⟨fileMessage path e, rfl⟩

theorem run_replace? (path : Text) (content : Bytes) (effects : Effects) :
    ((ofSystem machine.toSystem invocation).replace? path content).run effects =
      match machine.replace? effects.files path content with
      | .error e => (.error e, effects)
      | .ok files => (.ok (), { effects with files }) := by
  simp only [ofSystem, StateT.run_bind, StateT.run_get, pure_bind]
  cases machine.replace? effects.files path content <;> rfl

theorem run_deliver_unnamed (unnamed : namedFile? settings.output = none) (result : Text) (effects : Effects) :
    ((ofSystem machine.toSystem invocation).deliver settings result).run effects =
      (0, { effects with output := effects.output ++ result.encode }) := by
  rw [deliver, unnamed]
  rfl

theorem run_deliver_admitted (named : namedFile? settings.output = some path)
    (admitted : machine.refusal? .writing machine.files path = none) (result : Text) (output errors : Bytes) :
    ((ofSystem machine.toSystem invocation).deliver settings result).run ⟨output, errors, machine.files⟩ =
      (0, ⟨output, errors, machine.files.put (machine.locate path) result.encode⟩) := by
  rw [deliver, named, StateT.run_bind, run_replace?, System.replace?_admitted admitted]
  rfl

theorem run_deliver_refused (named : namedFile? settings.output = some path) {e : FileError}
    (refused : machine.refusal? .writing machine.files path = some e) (result : Text) (output errors : Bytes) :
    ((ofSystem machine.toSystem invocation).deliver settings result).run ⟨output, errors, machine.files⟩ =
      (1, ⟨output, errors ++ (errorLine (fileMessage path e)).escapeStrays.encode, machine.files⟩) := by
  rw [deliver, named, StateT.run_bind, run_replace?, System.replace?_refused refused]
  rfl

theorem run_finish (text : Text) (effects : Effects) :
    ((ofSystem machine.toSystem invocation).finish settings text).run effects =
      let said := { effects with errors := effects.errors ++ (settings.remarks (Template.read text)).escapeStrays.encode }
      match Template.expand (settings.bindings invocation.environment).get? text with
      | .ok result => ((ofSystem machine.toSystem invocation).deliver settings result).run said
      | .error fault => (1, { said with errors := said.errors ++ (errorLine fault.message).escapeStrays.encode }) := by
  have read : (ofSystem machine.toSystem invocation).environment.run effects = pure (invocation.environment, effects) := rfl
  simp only [finish, StateT.run_bind, read, pure_bind, Settings.expandText_eq]
  cases Template.expand (settings.bindings invocation.environment).get? text <;> rfl

theorem perform_eq (arguments : List Text) :
    (ofSystem machine.toSystem invocation).perform arguments =
      match Request.ofTexts arguments machine.rules with
      | .error e => (ofSystem machine.toSystem invocation).fail 2 e.report
      | .ok .help => (ofSystem machine.toSystem invocation).succeed help
      | .ok (.expand settings) => (ofSystem machine.toSystem invocation).expand settings := rfl

end Host

end

/-! ## The ends of a run -/

section
variable {machine : Machine} {invocation : Invocation}

theorem run_of_usage {e : UsageError} (asked : Request.ofTexts invocation.arguments machine.rules = .error e) :
    run machine invocation = ⟨⟨[], e.report.escapeStrays.encode, machine.files⟩, 2⟩ := by
  rw [run, Host.perform_eq, asked, Host.ofCommand_fail]

theorem run_of_help (asked : Request.ofTexts invocation.arguments machine.rules = .ok .help) :
    run machine invocation = ⟨⟨help.encode, [], machine.files⟩, 0⟩ := by
  rw [run, Host.perform_eq, asked, Host.ofCommand_succeed]

variable {settings : Settings}

theorem run_of_expand (asked : Request.ofTexts invocation.arguments machine.rules = .ok (.expand settings)) :
    run machine invocation = .ofCommand ((Host.ofSystem machine.toSystem invocation).expand settings) machine.files := by
  rw [run, Host.perform_eq, asked]

theorem run_of_unread (asked : Request.ofTexts invocation.arguments machine.rules = .ok (.expand settings))
    (unread : ∀ text, ¬ settings.Reads templateOfFile machine invocation.input text) :
    ∃ errors, run machine invocation = ⟨⟨[], errors, machine.files⟩, 1⟩ := by
  obtain ⟨message, missed⟩ := Host.run_template_of_unread unread [] []
  rw [run_of_expand asked, Outcome.ofCommand, Host.expand, StateT.run_bind, missed]
  exact ⟨(errorLine message).escapeStrays.encode, rfl⟩

/-- A run that has read its template goes on as any run with that template does. -/
theorem run_of_reads (asked : Request.ofTexts invocation.arguments machine.rules = .ok (.expand settings)) {text : Text}
    (reads : settings.Reads templateOfFile machine invocation.input text) :
    run machine invocation = .ofCommand ((Host.ofSystem machine.toSystem invocation).finish settings text) machine.files := by
  rw [run_of_expand asked, Outcome.ofCommand, Host.expand, StateT.run_bind, Host.run_template_of_reads reads]
  rfl

theorem run_of_malformed (asked : Request.ofTexts invocation.arguments machine.rules = .ok (.expand settings)) {text : Text}
    (reads : settings.Reads templateOfFile machine invocation.input text) {fault : Fault}
    (malformed : Template.expand (settings.bindings invocation.environment).get? text = .error fault) :
    ∃ errors, run machine invocation = ⟨⟨[], errors, machine.files⟩, 1⟩ := by
  rw [run_of_reads asked reads, Outcome.ofCommand, Host.run_finish, malformed]
  exact ⟨_, rfl⟩

section
variable (asked : Request.ofTexts invocation.arguments machine.rules = .ok (.expand settings)) {text result : Text}
  (reads : settings.Reads templateOfFile machine invocation.input text)
  (expanded : Template.expand (settings.bindings invocation.environment).get? text = .ok result)
include asked reads expanded

theorem run_of_unwritten {path : Text} (named : namedFile? settings.output = some path) {e : FileError}
    (refused : machine.refusal? .writing machine.files path = some e) :
    ∃ errors, run machine invocation = ⟨⟨[], errors, machine.files⟩, 1⟩ := by
  rw [run_of_reads asked reads, Outcome.ofCommand, Host.run_finish, expanded]
  simp only [Host.run_deliver_refused named refused]
  exact ⟨_, rfl⟩

theorem run_of_printed (unnamed : namedFile? settings.output = none) :
    run machine invocation =
      ⟨⟨result.encode, (settings.remarks (Template.read text)).escapeStrays.encode, machine.files⟩, 0⟩ := by
  rw [run_of_reads asked reads, Outcome.ofCommand, Host.run_finish, expanded]
  simp only [Host.run_deliver_unnamed unnamed, List.nil_append]

theorem run_of_written {path : Text} (named : namedFile? settings.output = some path)
    (admitted : machine.refusal? .writing machine.files path = none) :
    run machine invocation =
      ⟨⟨[], (settings.remarks (Template.read text)).escapeStrays.encode,
        machine.files.put (machine.locate path) result.encode⟩, 0⟩ := by
  rw [run_of_reads asked reads, Outcome.ofCommand, Host.run_finish, expanded]
  simp only [Host.run_deliver_admitted named admitted, List.nil_append]

/-- A result is delivered if the file for it can be opened. -/
theorem delivers_run
    (admitted : ∀ path, namedFile? settings.output = some path → machine.refusal? .writing machine.files path = none) :
    (run machine invocation).status = 0 ∧
      (run machine invocation).errors = (settings.remarks (Template.read text)).escapeStrays.encode ∧
        ∃ written, Delivers machine result.encode (run machine invocation) (namedFile? settings.output) written := by
  cases named : namedFile? settings.output with
  | none =>
    rw [run_of_printed asked reads expanded named]
    exact ⟨rfl, rfl, none, .output rfl rfl⟩
  | some path =>
    have free := admitted path named
    rw [run_of_written asked reads expanded named free]
    exact ⟨rfl, rfl, _, .file free rfl (Files.lookup_put _ _ _)⟩

end

end

theorem run_allOrNothing (machine : Machine) (invocation : Invocation) :
    ∃ written, AllOrNothing templateOfFile machine invocation (run machine invocation) written := by
  have nothing (failed : Failure templateOfFile machine invocation 1)
      (ended : ∃ errors, run machine invocation = ⟨⟨[], errors, machine.files⟩, 1⟩) :
      ∃ written, AllOrNothing templateOfFile machine invocation (run machine invocation) written := by
    obtain ⟨errors, ended⟩ := ended
    rw [ended]
    exact ⟨none, .nothing failed rfl rfl rfl⟩
  cases asked : Request.ofTexts invocation.arguments machine.rules with
  | error e =>
    rw [run_of_usage asked]
    exact ⟨none, .nothing (.usage asked) rfl rfl rfl⟩
  | ok request =>
    cases request with
    | help =>
      rw [run_of_help asked]
      exact ⟨none, .help asked rfl rfl rfl⟩
    | expand settings =>
      by_cases readable : ∃ text, settings.Reads templateOfFile machine invocation.input text
      · obtain ⟨text, reads⟩ := readable
        cases expanded : Template.expand (settings.bindings invocation.environment).get? text with
        | error fault => exact nothing (.malformed asked reads expanded) (run_of_malformed asked reads expanded)
        | ok result =>
          by_cases admitted : ∀ path, namedFile? settings.output = some path →
              machine.refusal? .writing machine.files path = none
          · obtain ⟨status, -, written, delivers⟩ := delivers_run asked reads expanded admitted
            exact ⟨written, .all asked ⟨text, reads, expanded⟩ status delivers⟩
          · simp only [Classical.not_forall] at admitted
            obtain ⟨path, named, barred⟩ := admitted
            obtain ⟨e, refused⟩ := Option.ne_none_iff_exists'.1 barred
            exact nothing (.unwritten asked ⟨text, reads, expanded⟩ named refused)
              (run_of_unwritten asked reads expanded named refused)
      · have unread := not_exists.1 readable
        exact nothing (.unread asked unread) (run_of_unread asked unread)

/-- What a run changes is the file that it wrote. -/
theorem AllOrNothing.lookup_files {decodeFile : Bytes → Text} {machine : Machine} {invocation : Invocation} {outcome : Outcome}
    {written : Option (Location × Bytes)} (ended : AllOrNothing decodeFile machine invocation outcome written)
    (location : Location) :
    outcome.files.lookup location = (written.toList.lookup location).or (machine.files.lookup location) := by
  have unchanged (kept : outcome.files = machine.files) (unwritten : written = none) :
      outcome.files.lookup location = (written.toList.lookup location).or (machine.files.lookup location) := by
    rw [kept, unwritten]
    rfl
  cases ended with
  | nothing failed silent kept unwritten => exact unchanged kept unwritten
  | help asked status kept unwritten => exact unchanged kept unwritten
  | @all settings result asked yields status delivers =>
    generalize namedFile? settings.output = path at delivers
    cases delivers with
    | output printed kept => exact unchanged kept rfl
    | file admitted silent whole =>
      rw [whole, Option.toList_some, Files.lookup_cons]
      split <;> rfl

/-! ## Runs one after the other -/

/-- Whether every run is all or nothing over the files that the run before it left; `writes` are the files written, in
    order. -/
inductive History (decodeFile : Bytes → Text) :
    Machine → List Invocation → List Outcome → (writes : List (Location × Bytes)) → Prop where
  | nil (machine : Machine) : History decodeFile machine [] [] []
  | cons {machine : Machine} {invocation : Invocation} {outcome : Outcome} {written : Option (Location × Bytes)}
      {invocations : List Invocation} {outcomes : List Outcome} {writes : List (Location × Bytes)}
      (ended : AllOrNothing decodeFile machine invocation outcome written)
      (later : History decodeFile { machine with files := outcome.files } invocations outcomes writes) :
      History decodeFile machine (invocation :: invocations) (outcome :: outcomes) (written.toList ++ writes)

/-- The files after runs. -/
def Files.after (files : Files) (outcomes : List Outcome) : Files :=
  outcomes.foldl (fun _ outcome => outcome.files) files

theorem exists_history (machine : Machine) (invocations : List Invocation) :
    ∃ writes, History templateOfFile machine invocations (runAll machine invocations) writes := by
  induction invocations generalizing machine with
  | nil => exact ⟨[], .nil machine⟩
  | cons invocation rest ih =>
    obtain ⟨written, ended⟩ := run_allOrNothing machine invocation
    obtain ⟨writes, later⟩ := ih { machine with files := (run machine invocation).files }
    exact ⟨written.toList ++ writes, .cons ended later⟩

/-- After runs a file holds what was written to it last, or what it held before. -/
theorem History.lookup_after {decodeFile : Bytes → Text} {machine : Machine} {invocations : List Invocation}
    {outcomes : List Outcome} {writes : List (Location × Bytes)}
    (history : History decodeFile machine invocations outcomes writes) (location : Location) :
    (machine.files.after outcomes).lookup location =
      (writes.reverse.lookup location).or (machine.files.lookup location) := by
  induction history with
  | nil machine => rfl
  | @cons machine invocation outcome written invocations outcomes writes ended later ih =>
    have reversed : (written.toList ++ writes).reverse = writes.reverse ++ written.toList := by
      cases written <;> simp
    have first : machine.files.after (outcome :: outcomes) = outcome.files.after outcomes := rfl
    rw [first, ih, ended.lookup_files, reversed, List.lookup_append, Option.or_assoc]

/-- In any sequence of runs each is all or nothing, and what the files hold in the end is what the runs that did all
    wrote to them last. A template in a file is the file decoded with its line ends unified, and so the file decoded if
    no carriage return is in it. -/
theorem runAll_allOrNothing (machine : Machine) (invocations : List Invocation) :
    (∃ writes, History templateOfFile machine invocations (runAll machine invocations) writes ∧
      ∀ location, (machine.files.after (runAll machine invocations)).lookup location =
        (writes.reverse.lookup location).or (machine.files.lookup location)) ∧
      ∀ content, templateOfFile content = (Text.decode content).unifyLineEnds ∧
        (0x0d ∉ content → templateOfFile content = Text.decode content) := by
  obtain ⟨writes, history⟩ := exists_history machine invocations
  exact ⟨⟨writes, history, history.lookup_after⟩, fun content => ⟨rfl, templateOfFile_of_not_mem⟩⟩

-- A template is replaced by what it expands to, and then kept by a run that fails.
example :
    let machine := Machine.ofWorking [(Text.ofString "f", [0x24, 0x78])]
    let inPlace := ["-i", "f", "-o", "f", "-s"].map Text.ofString
    let outcomes := runAll machine [⟨inPlace ++ [Text.ofString "x=a"], [], []⟩, ⟨inPlace ++ [Text.ofString "x"], [], []⟩]
    outcomes.map Outcome.status = [0, 2] ∧ (machine.files.after outcomes).lookup (Text.ofString "f") = some [0x61] :=
  ⟨rfl, rfl⟩

/-- A template in a file is not the file decoded: a carriage return before a line feed does not reach the result. -/
theorem runAll_not_history_decode :
    let content : Bytes := [0x61, 0x0d, 0x0a, 0x62]
    let machine := Machine.ofWorking [(Text.ofString "f", content)]
    let invocation : Invocation := ⟨[Text.ofString "-i", Text.ofString "f"], [], []⟩
    machine.open? machine.files (Text.ofString "f") = .ok content ∧
      ∀ writes, ¬ History Text.decode machine [invocation] (runAll machine [invocation]) writes := by
  intro content machine invocation
  refine ⟨rfl, ?_⟩
  intro writes history
  have status : (run machine invocation).status = 0 := rfl
  have printed : (run machine invocation).output = [0x61, 0x0a, 0x62] := rfl
  cases history with
  | cons ended later =>
    cases ended with
    | nothing failed silent kept unwritten =>
      rw [status] at failed
      cases failed
    | help asked => cases asked
    | all asked yields status delivers =>
      cases asked
      obtain ⟨text, reads, expanded⟩ := yields
      cases reads with
      | input unnamed => cases unnamed
      | file named opened =>
        cases named
        cases opened
        cases expanded
        cases delivers with
        | output whole kept =>
          rw [printed] at whole
          exact absurd whole (by decide)

end ShellTemplate.Command
