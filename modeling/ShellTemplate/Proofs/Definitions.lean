import ShellTemplate.Proofs.ArgumentLists
import ShellTemplate.Proofs.Runs

/-!
# Definitions of variables

What a command line of definitions comes to (`bindings_of_definitions`): it is rejected if one of them defines nothing, and
otherwise every variable has the value of its last definition, or that of the environment if there is none.
-/

namespace ShellTemplate.Command

/-- An argument that bears on the variables of a run: it defines one, or leaves the environment out. -/
inductive VariableArgument where
  | definition (text : Text)
  | noEnviron
  deriving DecidableEq

namespace VariableArgument

/-- The text of an argument. -/
def text : VariableArgument → Text
  | .definition text => Text.ofString "--set" ++ .char '=' :: text
  | .noEnviron => Text.ofString "--no-environ"

/-- The definitions among arguments, in their order. -/
def definitions : List VariableArgument → List Text
  | [] => []
  | .definition text :: rest => text :: definitions rest
  | .noEnviron :: rest => definitions rest

/-- What an argument does. -/
def event : VariableArgument → Event
  | .definition text => .parameter .set text
  | .noEnviron => .flag .noEnviron

/-- What an argument is by itself. -/
def argument : VariableArgument → Argument
  | .definition text => .use (.parameter .set) false (some ⟨true, text⟩)
  | .noEnviron => .use (.flag .noEnviron) false none

theorem ofText_text (part : VariableArgument) : Argument.ofText part.text = part.argument := by
  cases part with
  | definition text => exact Argument.ofText_equals rfl text
  | noEnviron => rfl

theorem ofTexts_map_text (parts : List VariableArgument) : Argument.ofTexts (parts.map text) = parts.map argument := by
  induction parts with
  | nil => rfl
  | cons part parts ih =>
    have other : Argument.ofText part.text ≠ Argument.ofText Argument.separatorText := by
      rw [ofText_text]
      cases part <;> nofun
    rw [List.map_cons, Argument.ofTexts_cons other, ofText_text, ih, List.map_cons]

theorem ofArguments_map_argument (rules : ArgumentRules) (parts : List VariableArgument) :
    Event.ofArguments rules (parts.map argument) = parts.map event := by
  induction parts with
  | nil => rfl
  | cons part parts ih =>
    obtain ⟨switch, isShort, attached, same, read⟩ : ∃ switch isShort attached, part.argument = .use switch isShort attached ∧
        Event.ofSwitch rules isShort switch attached = .ok ([part.event], none) := by
      cases part with
      | definition text => exact ⟨_, _, _, rfl, by simp [Event.ofSwitch, Event.ofAttached, Event.attachedValue, event]⟩
      | noEnviron => exact ⟨_, _, _, rfl, rfl⟩
    rw [List.map_cons, same, Event.ofArguments_use read, ih, List.map_cons, List.singleton_append]

theorem ambiguity?_map_argument (parts : List VariableArgument) : Request.ambiguity? (parts.map argument) = none := by
  rw [Request.ambiguity?, List.findSome?_eq_none_iff]
  intro argument member
  obtain ⟨part, -, rfl⟩ := List.mem_map.1 member
  cases part <;> rfl

/-- Arguments that bear on the variables act in the order in which they stand. -/
theorem ofTexts_eq (rules : ArgumentRules) (parts : List VariableArgument) :
    Request.ofTexts (parts.map text) rules = Request.ofEvents .initial [] (parts.map event) := by
  rw [Request.ofTexts_eq, ofTexts_map_text, ambiguity?_map_argument, ofArguments_map_argument]

end VariableArgument

/-- Whether a definition gives a variable a value: its first equals sign stands between the two. -/
def Defines (definition name value : Text) : Prop :=
  definition = name ++ .char '=' :: value ∧ .char '=' ∉ name

/-- Whether a definition defines nothing: it has no equals sign, or no name before it. -/
def IsVoid (definition : Text) : Prop :=
  .char '=' ∉ definition ∨ definition.head? = some (.char '=')

instance : DecidablePred IsVoid := fun definition =>
  inferInstanceAs (Decidable (.char '=' ∉ definition ∨ definition.head? = some (.char '=')))

/-- Whether the last of the definitions of a variable gives it a value. -/
def LastDefines (definitions : List Text) (name value : Text) : Prop :=
  ∃ front definition back, definitions = front ++ definition :: back ∧ Defines definition name value ∧
    ∀ later ∈ back, ∀ other, ¬ Defines later name other

theorem assignment?_eq_some_iff {definition name value : Text} :
    assignment? definition = some (name, value) ↔ Defines definition name value ∧ name ≠ [] := by
  rw [Defines, ← Text.cut?_eq_some_iff, assignment?]
  cases definition.cut? [.char '='] with
  | none => simp
  | some parts =>
    obtain ⟨before, after⟩ := parts
    cases before with
    | nil =>
      constructor
      · nofun
      · rintro ⟨same, named⟩
        cases same
        exact absurd rfl named
    | cons s before =>
      simp only [Option.some.injEq, Prod.mk.injEq, iff_self_and]
      rintro ⟨rfl, -⟩
      nofun

theorem assignment?_eq_none_iff {definition : Text} : assignment? definition = none ↔ IsVoid definition := by
  rw [IsVoid, ← Text.cut?_eq_none_iff, assignment?]
  cases definition with
  | nil => simp
  | cons s rest =>
    rw [Text.cut?_cons_symbol]
    by_cases equals : s = .char '='
    · simp [equals]
    · cases Text.cut? rest [.char '='] <;> simp [equals]

/-- A run is rejected for its arguments if and only if it ends with the status 2. -/
theorem run_status_eq_two_iff {machine : Machine} {invocation : Invocation} :
    (run machine invocation).status = 2 ↔ ∃ e, Request.ofTexts invocation.arguments machine.rules = .error e := by
  constructor
  · intro status
    obtain ⟨written, ended⟩ := run_allOrNothing machine invocation
    cases ended with
    | nothing failed silent kept unwritten =>
      rw [status] at failed
      cases failed with
      | usage asked => exact ⟨_, asked⟩
    | help asked ended => simp [status] at ended
    | all asked yields ended => simp [status] at ended
  · rintro ⟨e, asked⟩
    rw [run_of_usage asked]

/-- A command line is rejected at the first definition that defines nothing. If there is none, the definitions are kept in
    their order. -/
theorem ofEvents_definitions (settings : Settings) (parts : List VariableArgument) :
    ((∃ definition ∈ VariableArgument.definitions parts, IsVoid definition) ∧
        ∃ e, Request.ofEvents settings [] (parts.map VariableArgument.event) = .error e) ∨
      (∀ definition ∈ VariableArgument.definitions parts, ¬ IsVoid definition) ∧
        Request.ofEvents settings [] (parts.map VariableArgument.event) = .ok (.expand
          { settings with
            assignments := settings.assignments ++ (VariableArgument.definitions parts).filterMap assignment?
            noEnviron := settings.noEnviron || parts.contains .noEnviron }) := by
  induction parts generalizing settings with
  | nil => exact .inr ⟨by simp [VariableArgument.definitions], by simp [Request.ofEvents, VariableArgument.definitions]⟩
  | cons part parts ih =>
    cases part with
    | noEnviron =>
      have later := ih { settings with noEnviron := true }
      simpa [VariableArgument.definitions, VariableArgument.event, Request.ofEvents] using later
    | definition text =>
      cases defined : assignment? text with
      | none =>
        refine .inl ⟨⟨text, List.mem_cons_self, assignment?_eq_none_iff.1 defined⟩, .invalidAssignment text, ?_⟩
        simp [VariableArgument.event, Request.ofEvents, defined]
      | some pair =>
        have sound : ¬ IsVoid text := by simp [← assignment?_eq_none_iff, defined]
        have later := ih { settings with assignments := settings.assignments ++ [pair] }
        simpa [VariableArgument.definitions, VariableArgument.event, Request.ofEvents, defined, sound] using later

/-- Either a definition of a variable is the last one, or there is none. -/
theorem lastDefines_or_undefined (definitions : List Text) (name : Text) :
    (∃ value, LastDefines definitions name value) ∨ ∀ definition ∈ definitions, ∀ value, ¬ Defines definition name value := by
  induction definitions with
  | nil => exact .inr (by simp)
  | cons definition definitions ih =>
    rcases ih with ⟨value, front, last, back, rfl, defines, final⟩ | undefined
    · exact .inl ⟨value, definition :: front, last, back, rfl, defines, final⟩
    · by_cases own : ∃ value, Defines definition name value
      · obtain ⟨value, defines⟩ := own
        exact .inl ⟨value, [], definition, definitions, rfl, defines, undefined⟩
      · exact .inr (List.forall_mem_cons.2 ⟨not_exists.1 own, undefined⟩)

theorem ne_of_undefined {definitions : List Text} {name : Text}
    (undefined : ∀ definition ∈ definitions, ∀ value, ¬ Defines definition name value) :
    ∀ pair ∈ definitions.filterMap assignment?, pair.1 ≠ name := by
  rintro ⟨first, value⟩ member rfl
  obtain ⟨definition, here, defined⟩ := List.mem_filterMap.1 member
  exact undefined definition here value (assignment?_eq_some_iff.1 defined).1

section
variable {settings : Settings} {definitions : List Text} {name : Text} (environment : Variables)
  (kept : settings.assignments = definitions.filterMap assignment?)
include kept

/-- A variable has the value that its last definition gives it. -/
theorem Settings.get?_bindings_of_lastDefines {value : Text} (sound : ∀ definition ∈ definitions, ¬ IsVoid definition)
    (last : LastDefines definitions name value) : (settings.bindings environment).get? name = some value := by
  obtain ⟨front, definition, back, rfl, defines, final⟩ := last
  have named : name ≠ [] := by
    rintro rfl
    exact sound definition (by simp) (.inr (by simp [defines.1]))
  have defined := assignment?_eq_some_iff.2 ⟨defines, named⟩
  have split : settings.assignments = front.filterMap assignment? ++ [(name, value)] ++ back.filterMap assignment? := by
    rw [kept, List.filterMap_append, List.filterMap_cons, defined, List.append_assoc, List.singleton_append]
  exact get?_bindings_of_last split (ne_of_undefined final) environment

/-- A variable without a definition has its value in the environment, if that is not left out. -/
theorem Settings.get?_bindings_of_undefined
    (undefined : ∀ definition ∈ definitions, ∀ value, ¬ Defines definition name value) :
    (settings.bindings environment).get? name = if settings.noEnviron then none else environment.get? name := by
  have missing : settings.assignments.reverse.lookup name = none := by
    rw [kept, List.lookup_eq_none_iff]
    intro pair member
    have other := ne_of_undefined undefined pair (List.mem_reverse.1 member)
    simpa using Ne.symm other
  rw [get?_bindings, missing, Option.none_or]
  split <;> rfl

end

/-- A command line of definitions is rejected if and only if one of them defines nothing. Otherwise the variables of the run
    are those that are defined, each with the value that its last definition gives it, and those of the environment that are
    not defined, unless it is left out. -/
theorem bindings_of_definitions (parts : List VariableArgument) (machine : Machine) (input : Bytes) (environment : Variables) :
    let definitions := VariableArgument.definitions parts
    let arguments := parts.map VariableArgument.text
    ((run machine ⟨arguments, input, environment⟩).status = 2 ↔ ∃ definition ∈ definitions, IsVoid definition) ∧
      ((∀ definition ∈ definitions, ¬ IsVoid definition) →
        ∃ settings, Request.ofTexts arguments machine.rules = .ok (.expand settings) ∧
          ∀ name value, (settings.bindings environment).get? name = some value ↔
            LastDefines definitions name value ∨
              (∀ definition ∈ definitions, ∀ other, ¬ Defines definition name other) ∧
                .noEnviron ∉ parts ∧ environment.get? name = some value) := by
  intro definitions arguments
  have asked : Request.ofTexts arguments machine.rules = Request.ofEvents .initial [] (parts.map VariableArgument.event) :=
    VariableArgument.ofTexts_eq machine.rules parts
  rw [run_status_eq_two_iff]
  simp only [asked]
  rcases ofEvents_definitions .initial parts with ⟨void, rejected⟩ | ⟨sound, accepted⟩
  · refine ⟨iff_of_true rejected void, fun sound => ?_⟩
    obtain ⟨definition, member, nothing⟩ := void
    exact absurd nothing (sound definition member)
  · rw [accepted]
    refine ⟨iff_of_false nofun ?_, fun _ => ⟨_, rfl, fun name value => ?_⟩⟩
    · rintro ⟨definition, member, nothing⟩
      exact sound definition member nothing
    · constructor
      · intro found
        rcases lastDefines_or_undefined definitions name with ⟨other, last⟩ | undefined
        · rw [Settings.get?_bindings_of_lastDefines environment rfl sound last] at found
          cases found
          exact .inl last
        · rw [Settings.get?_bindings_of_undefined environment rfl undefined] at found
          refine .inr ⟨undefined, ?_⟩
          simpa [Settings.initial] using found
      · rintro (last | ⟨undefined, whole, found⟩)
        · exact Settings.get?_bindings_of_lastDefines environment rfl sound last
        · rw [Settings.get?_bindings_of_undefined environment rfl undefined]
          simpa [Settings.initial, whole] using found

/-- A variable that is defined twice, the second time as empty, a value with an equals sign in it, and an environment that is
    left out. -/
theorem bindings_of_definitions_overlaid :
    let parts : List VariableArgument :=
      [.definition (Text.ofString "a=1"), .noEnviron, .definition (Text.ofString "b=x=y"), .definition (Text.ofString "a=")]
    let definitions := VariableArgument.definitions parts
    let environment : Variables := [([.char 'a'], [.char '0']), ([.char 'c'], [.char '2'])]
    let machine := Machine.ofWorking []
    (∀ definition ∈ definitions, ¬ IsVoid definition) ∧
      ∃ settings, Request.ofTexts (parts.map VariableArgument.text) machine.rules = .ok (.expand settings) ∧
        ∀ name value, (settings.bindings environment).get? name = some value ↔
          LastDefines definitions name value ∨
            (∀ definition ∈ definitions, ∀ other, ¬ Defines definition name other) ∧
              .noEnviron ∉ parts ∧ environment.get? name = some value := by
  intro parts definitions environment machine
  have sound : ∀ definition ∈ definitions, ¬ IsVoid definition := by decide
  exact ⟨sound, (bindings_of_definitions parts machine [] environment).2 sound⟩

end ShellTemplate.Command
