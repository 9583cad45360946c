import ShellTemplate.Command.Request
import ShellTemplate.Proofs.Openings

/-!
# Lists of arguments

Arguments that ask for a run by themselves can stand in front of others: these act on what the first ones ask
for. So settings come together from the parts of a list of arguments, in whatever way each part is spelt.
-/

namespace ShellTemplate

namespace Command

/-- The settings asked for after others: a file that is named later takes the place of one that was named before, and
    definitions add up. -/
def Settings.followedBy (first second : Settings) : Settings where
  input := second.input.or first.input
  output := second.output.or first.output
  assignments := first.assignments ++ second.assignments
  noEnviron := first.noEnviron || second.noEnviron
  verbose := first.verbose || second.verbose

/-- A request made after settings were asked for. -/
def Request.after (settings : Settings) : Request → Request
  | .help => .help
  | .expand more => .expand (settings.followedBy more)

/-- Whether an event does something and is no mistake. -/
def Event.acts : Event → Bool
  | .flag _ => true
  | .parameter _ _ => true
  | .extra _ => false
  | .error _ => false

@[simp] theorem Settings.followedBy_initial (settings : Settings) : settings.followedBy .initial = settings := by
  simp [followedBy, initial]

namespace Event

section
variable {rules : ArgumentRules} {switch : Switch} {isShort : Bool} {attached : Option Attachment} {events : List Event}
  {p : Parameter}

theorem ofArguments_use (read : ofSwitch rules isShort switch attached = .ok (events, none)) (rest : List Argument) :
    ofArguments rules (.use switch isShort attached :: rest) = events ++ ofArguments rules rest := by
  rw [ofArguments.eq_def]
  simp only [read]

theorem ofArguments_use_value (read : ofSwitch rules isShort switch attached = .ok (events, some p)) (value : Text)
    (rest : List Argument) :
    ofArguments rules (.use switch isShort attached :: .plain value :: rest) =
      events ++ .parameter p value :: ofArguments rules rest := by
  rw [ofArguments.eq_def]
  simp only [read]

theorem ofArguments_use_missing (read : ofSwitch rules isShort switch attached = .ok (events, some p)) {rest : List Argument}
    (other : ∀ value more, rest ≠ .plain value :: more) :
    ofArguments rules (.use switch isShort attached :: rest) = [.error (.missingValue p)] := by
  unfold ofArguments
  rw [read]
  cases rest with
  | nil => rfl
  | cons argument rest =>
    cases argument with
    | plain value => exact absurd rfl (other value rest)
    | separator => rfl
    | use switch isShort attached => rfl
    | unknown text => rfl
    | ambiguous text switches => rfl

end

/-- Arguments that do something one and all are over before others begin. No separator is among them, and none is
    ambiguous. -/
theorem ofArguments_append {rules : ArgumentRules} {front : List Argument}
    (act : ∀ event ∈ ofArguments rules front, event.acts = true) (back : List Argument) :
    .separator ∉ front ∧ Request.ambiguity? front = none ∧
      ofArguments rules (front ++ back) = ofArguments rules front ++ ofArguments rules back := by
  induction front using ofArguments.induct rules with
  | case1 => exact ⟨List.not_mem_nil, rfl, rfl⟩
  | case2 text rest ih => simp [ofArguments, acts] at act
  | case3 rest ih => simp [ofArguments, acts] at act
  | case4 text rest ih => simp [ofArguments, acts] at act
  | case5 text switches rest => simp [ofArguments, acts] at act
  | case6 switch isShort attached rest e read => simp [ofArguments, read, acts] at act
  | case7 switch isShort attached events rest read ih =>
    rw [ofArguments_use read] at act
    obtain ⟨apart, clear, joined⟩ := ih fun event member => act event (List.mem_append_right events member)
    rw [List.cons_append, ofArguments_use read, ofArguments_use read, joined, List.append_assoc]
    exact ⟨by simp [apart], clear, rfl⟩
  | case8 switch isShort attached events p value rest read ih =>
    rw [ofArguments_use_value read] at act
    obtain ⟨apart, clear, joined⟩ := ih fun event member =>
      act event (List.mem_append_right events (List.mem_cons_of_mem _ member))
    rw [List.cons_append, List.cons_append, ofArguments_use_value read, ofArguments_use_value read, joined, List.append_assoc]
    exact ⟨by simp [apart], clear, rfl⟩
  | case9 switch isShort attached rest events p read other =>
    rw [ofArguments_use_missing read other] at act
    simp [acts] at act

end Event

namespace Argument

theorem ofTexts_append {front : List Text} (apart : .separator ∉ ofTexts front) (back : List Text) :
    ofTexts (front ++ back) = ofTexts front ++ ofTexts back := by
  induction front with
  | nil => rfl
  | cons text front ih =>
    rw [ofTexts] at apart
    by_cases separator : text = separatorText
    · simp [separator] at apart
    · rw [if_neg separator, List.mem_cons, not_or] at apart
      rw [List.cons_append, ofTexts, if_neg separator, ofTexts, if_neg separator, ih apart.2, List.cons_append]

end Argument

namespace Request

theorem ofEvents_after (base settings : Settings) (extras : List Text) (events : List Event) :
    ofEvents (base.followedBy settings) extras events = (ofEvents settings extras events).map (after base) := by
  induction events generalizing settings extras with
  | nil =>
    simp only [ofEvents]
    split <;> rfl
  | cons event rest ih =>
    cases event with
    | flag f =>
      cases f with
      | help => rfl
      | noEnviron =>
        rw [ofEvents, ofEvents, ← ih]
        simp [Settings.followedBy]
      | verbose =>
        rw [ofEvents, ofEvents, ← ih]
        simp [Settings.followedBy]
    | parameter p value =>
      cases p with
      | input =>
        rw [ofEvents, ofEvents, ← ih]
        simp [Settings.followedBy]
      | output =>
        rw [ofEvents, ofEvents, ← ih]
        simp [Settings.followedBy]
      | set =>
        rw [ofEvents, ofEvents]
        cases assignment? value with
        | none => rfl
        | some pair =>
          simp only
          rw [← ih]
          simp [Settings.followedBy]
    | extra text =>
      rw [ofEvents, ofEvents]
      exact ih ..
    | error e => rfl

/-- Events that ask for a run do something one and all, and events after them act on what they ask for. -/
theorem ofEvents_append {settings result : Settings} {extras : List Text} {events : List Event}
    (asked : ofEvents settings extras events = .ok (.expand result)) :
    extras = [] ∧ (∀ event ∈ events, event.acts = true) ∧
      ∀ more, ofEvents settings [] (events ++ more) = ofEvents result [] more := by
  induction events generalizing settings extras with
  | nil =>
    rw [ofEvents] at asked
    split at asked
    · cases asked
      rename_i nothing
      exact ⟨List.isEmpty_iff.1 nothing, by simp, fun more => rfl⟩
    · cases asked
  | cons event rest ih =>
    have further {next : Settings} (step : ∀ extras more, ofEvents settings extras (event :: more) = ofEvents next extras more)
        (acts : event.acts = true) : extras = [] ∧ (∀ event' ∈ event :: rest, event'.acts = true) ∧
          ∀ more, ofEvents settings [] (event :: rest ++ more) = ofEvents result [] more := by
      rw [step] at asked
      obtain ⟨nothing, act, later⟩ := ih asked
      refine ⟨nothing, List.forall_mem_cons.2 ⟨acts, act⟩, ?_⟩
      intro more
      rw [List.cons_append, step, later]
    cases event with
    | flag f =>
      cases f with
      | help => cases asked
      | noEnviron => exact further (fun _ _ => rfl) rfl
      | verbose => exact further (fun _ _ => rfl) rfl
    | parameter p value =>
      cases p with
      | input => exact further (fun _ _ => rfl) rfl
      | output => exact further (fun _ _ => rfl) rfl
      | set =>
        cases defined : assignment? value with
        | none => simp [ofEvents, defined] at asked
        | some pair =>
          have step : ∀ extras more, ofEvents settings extras (.parameter .set value :: more) =
              ofEvents { settings with assignments := settings.assignments ++ [pair] } extras more := by
            intro extras more
            simp [ofEvents, defined]
          exact further step rfl
    | extra text => cases (ih asked).1
    | error e => cases asked

/-- Events after some that end the command do nothing. -/
theorem ofEvents_append_of_ended {settings : Settings} {events : List Event} (act : ∀ event ∈ events, event.acts = true)
    (ended : ∀ result, ofEvents settings [] events ≠ .ok (.expand result)) (more : List Event) :
    ofEvents settings [] (events ++ more) = ofEvents settings [] events := by
  induction events generalizing settings with
  | nil => exact absurd rfl (ended settings)
  | cons event rest ih =>
    have later : ∀ event ∈ rest, event.acts = true := fun event member => act event (List.mem_cons_of_mem _ member)
    cases event with
    | flag f =>
      cases f with
      | help => rfl
      | noEnviron => exact ih later ended
      | verbose => exact ih later ended
    | parameter p value =>
      cases p with
      | input => exact ih later ended
      | output => exact ih later ended
      | set =>
        rw [ofEvents] at ended
        rw [List.cons_append, ofEvents, ofEvents]
        cases defined : assignment? value with
        | none => rfl
        | some pair =>
          rw [defined] at ended
          exact ih later ended
    | extra text => cases act _ List.mem_cons_self
    | error e => cases act _ List.mem_cons_self

section
variable {rules : ArgumentRules}

theorem ofTexts_eq (arguments : List Text) :
    ofTexts arguments rules =
      match ambiguity? (Argument.ofTexts arguments) with
      | some e => .error e
      | none => ofEvents .initial [] (Event.ofArguments rules (Argument.ofTexts arguments)) := rfl

/-- Whether every argument does something, and none lacks its value. -/
def IsWhole (rules : ArgumentRules) (arguments : List Text) : Prop :=
  ∀ event ∈ Event.ofArguments rules (Argument.ofTexts arguments), event.acts = true

theorem IsWhole.append {front : List Text} (whole : IsWhole rules front) (back : List Text) :
    ambiguity? (Argument.ofTexts (front ++ back)) = ambiguity? (Argument.ofTexts back) ∧
      Event.ofArguments rules (Argument.ofTexts (front ++ back)) =
        Event.ofArguments rules (Argument.ofTexts front) ++ Event.ofArguments rules (Argument.ofTexts back) := by
  obtain ⟨apart, clear, joined⟩ := Event.ofArguments_append whole (Argument.ofTexts back)
  rw [Argument.ofTexts_append apart]
  refine ⟨?_, joined⟩
  unfold ambiguity? at clear ⊢
  rw [List.findSome?_append, clear, Option.none_or]

theorem IsWhole.ofTexts_eq {front : List Text} (whole : IsWhole rules front) :
    ofTexts front rules = ofEvents .initial [] (Event.ofArguments rules (Argument.ofTexts front)) := by
  rw [Request.ofTexts_eq, (Event.ofArguments_append whole []).2.1]

theorem isWhole_of_ofTexts {front : List Text} {settings : Settings} (asked : ofTexts front rules = .ok (.expand settings)) :
    IsWhole rules front := by
  rw [ofTexts_eq] at asked
  split at asked
  · cases asked
  · exact (ofEvents_append asked).2.1

/-- Arguments after others that ask for a run by themselves act on the settings asked for. -/
theorem ofTexts_append {front : List Text} {settings : Settings} (asked : ofTexts front rules = .ok (.expand settings))
    (back : List Text) : ofTexts (front ++ back) rules = (ofTexts back rules).map (after settings) := by
  have whole := isWhole_of_ofTexts asked
  obtain ⟨same, joined⟩ := whole.append back
  rw [whole.ofTexts_eq] at asked
  rw [ofTexts_eq, ofTexts_eq, same]
  cases ambiguity? (Argument.ofTexts back) with
  | some e => rfl
  | none =>
    simp only
    rw [joined, (ofEvents_append asked).2.2, ← ofEvents_after, Settings.followedBy_initial]

/-- Arguments after others that end the command by themselves matter only if one is ambiguous. -/
theorem ofTexts_append_of_ended {front : List Text} (whole : IsWhole rules front)
    (ended : ∀ settings, ofTexts front rules ≠ .ok (.expand settings)) (back : List Text) :
    ofTexts (front ++ back) rules =
      match ambiguity? (Argument.ofTexts back) with
      | some e => .error e
      | none => ofTexts front rules := by
  obtain ⟨same, joined⟩ := whole.append back
  rw [whole.ofTexts_eq] at ended
  rw [ofTexts_eq, same, joined, ofEvents_append_of_ended whole ended, whole.ofTexts_eq]

theorem ofTexts_between {front given : List Text} {first more : Settings}
    (askedFront : ofTexts front rules = .ok (.expand first)) (askedGiven : ofTexts given rules = .ok (.expand more))
    (back : List Text) : ofTexts (front ++ given ++ back) rules = (ofTexts back rules).map (after (first.followedBy more)) := by
  have asked : ofTexts (front ++ given) rules = .ok (.expand (first.followedBy more)) := by
    rw [ofTexts_append askedFront, askedGiven]
    rfl
  exact ofTexts_append asked back

end

end Request

/-! ## Parameters in each of their spellings -/

/-- Whether arguments give a parameter a value: in the argument after it, after an equals sign, or right after its
    short spelling. -/
inductive Gives (rules : ArgumentRules) (p : Parameter) (value : Text) : List Text → Prop where
  | apart {spelling : Text} {isShort : Bool} (spelt : Argument.spelt? spelling = some (.parameter p, isShort))
      (plain : Argument.ofText value = .plain value) : Gives rules p value [spelling, value]
  | equals {spelling : Text} {isShort : Bool} (spelt : Argument.spelt? spelling = some (.parameter p, isShort))
      (kept : Event.attachedValue rules p value = value) : Gives rules p value [spelling ++ .char '=' :: value]
  | attached {spelling : Text} (short : (Switch.parameter p).short? = some spelling) (nonempty : value ≠ [])
      (bare : value.head? ≠ some (.char '=')) (kept : Event.attachedValue rules p value = value) :
      Gives rules p value [spelling ++ value]

namespace Argument

theorem of_spelt? {spelling : Text} {found : Switch × Bool} (spelt : spelt? spelling = some found) :
    (∃ switch : Switch, switch.long = spelling) ∨ ∃ switch : Switch, switch.short? = some spelling := by
  unfold spelt? Switch.ofLong? Switch.ofShort? at spelt
  cases long : Switch.all.find? fun switch => switch.long = spelling with
  | some switch => exact Or.inl ⟨switch, by simpa using List.find?_some long⟩
  | none =>
    rw [long] at spelt
    cases short : Switch.all.find? fun switch => switch.short? = some spelling with
    | some switch => exact Or.inr ⟨switch, by simpa using List.find?_some short⟩
    | none => simp [short] at spelt

theorem spelt?_shape {spelling : Text} {found : Switch × Bool} (spelt : spelt? spelling = some found) :
    (∃ s rest, spelling = .char '-' :: s :: rest) ∧ .char '=' ∉ spelling := by
  rcases of_spelt? spelt with ⟨switch, rfl⟩ | ⟨switch, short⟩
  · cases switch with
    | flag f => cases f <;> exact ⟨⟨_, _, rfl⟩, by decide⟩
    | parameter p => cases p <;> exact ⟨⟨_, _, rfl⟩, by decide⟩
  · cases switch with
    | flag f => cases f <;> cases short <;> exact ⟨⟨_, _, rfl⟩, by decide⟩
    | parameter p => cases p <;> cases short <;> exact ⟨⟨_, _, rfl⟩, by decide⟩

theorem ofText_spelt {spelling : Text} {switch : Switch} {isShort : Bool} (spelt : spelt? spelling = some (switch, isShort)) :
    ofText spelling = .use switch isShort none := by
  obtain ⟨⟨s, rest, rfl⟩, -⟩ := spelt?_shape spelt
  simp [ofText, spelt]

theorem ofText_unspelt {s : Symbol} {rest : Text} (unspelt : spelt? (.char '-' :: s :: rest) = none) :
    ofText (.char '-' :: s :: rest) = ofSpelling (.char '-' :: s :: rest) := by
  simp [ofText, unspelt]

theorem ofText_equals {spelling : Text} {switch : Switch} {isShort : Bool} (spelt : spelt? spelling = some (switch, isShort))
    (value : Text) : ofText (spelling ++ .char '=' :: value) = .use switch isShort (some ⟨true, value⟩) := by
  obtain ⟨⟨s, rest, rfl⟩, plain⟩ := spelt?_shape spelt
  have unspelt : spelt? (.char '-' :: s :: rest ++ .char '=' :: value) = none := by
    cases longer : spelt? (.char '-' :: s :: rest ++ .char '=' :: value) with
    | none => rfl
    | some found => exact absurd (by simp) (spelt?_shape longer).2
  have split : Text.cut? (.char '-' :: s :: rest ++ .char '=' :: value) [.char '='] = some (.char '-' :: s :: rest, value) :=
    Text.cut?_eq_some_iff.2 ⟨rfl, plain⟩
  have read : ofText (.char '-' :: s :: rest ++ .char '=' :: value) = ofSpelling (.char '-' :: s :: rest ++ .char '=' :: value) :=
    ofText_unspelt unspelt
  rw [read, ofSpelling, split]
  simp only [Option.bind_some, spelt, Option.map_some]

theorem spelt?_longer {p : Parameter} {spelling : Text} (short : (Switch.parameter p).short? = some spelling) (s : Symbol)
    (rest : Text) : spelt? (spelling ++ s :: rest) = none := by
  cases p <;> cases short <;>
    simp [spelt?, Switch.ofLong?, Switch.ofShort?, Switch.all, Switch.long, Switch.short?, Text.ofString]

theorem ofText_attached {p : Parameter} {spelling : Text} (short : (Switch.parameter p).short? = some spelling) {s : Symbol}
    (other : s ≠ .char '=') (rest : Text) :
    ofText (spelling ++ s :: rest) = .use (.parameter p) true (some ⟨false, s :: rest⟩) := by
  have unspelt := spelt?_longer short
  obtain ⟨letter, rfl, bare, single, found⟩ : ∃ letter, spelling = [.char '-', letter] ∧ letter ≠ .char '=' ∧
      letter ≠ .char '-' ∧ Switch.ofShort? spelling = some (.parameter p) := by
    cases p <;> cases short <;> exact ⟨_, rfl, by decide, by decide, rfl⟩
  have read : ofText ([.char '-', letter] ++ s :: rest) = ofSpelling ([.char '-', letter] ++ s :: rest) :=
    ofText_unspelt (unspelt s rest)
  -- What stands before an equals sign is longer than the spelling too.
  have cut : Text.cut? ([.char '-', letter] ++ s :: rest) [.char '='] =
      (Text.cut? rest [.char '=']).map fun parts => ([.char '-', letter] ++ s :: parts.1, parts.2) := by
    simp [Text.cut?_cons_symbol, bare, other, Function.comp_def]
  have double : ¬ separatorText.isPrefixOf ([.char '-', letter] ++ s :: rest) = true := by
    simp [separatorText, Text.ofString, List.isPrefixOf, Ne.symm single]
  have short_form : ofShort ([.char '-', letter] ++ s :: rest) = .use (.parameter p) true (some ⟨false, s :: rest⟩) := by
    simp [ofShort, found]
  rw [read, ofSpelling, cut]
  cases Text.cut? rest [.char '='] with
  | none => simp only [Option.map_none, Option.bind_none, if_neg double, short_form]
  | some parts =>
    simp only [Option.map_some, Option.bind_some, unspelt s parts.1, Option.map_none, if_neg double, short_form]

theorem ofTexts_cons {text : Text} (other : ofText text ≠ ofText separatorText) (rest : List Text) :
    ofTexts (text :: rest) = ofText text :: ofTexts rest := by
  rw [ofTexts, if_neg]
  rintro rfl
  exact other rfl

end Argument

/-- Arguments that give a parameter a value do nothing else. -/
theorem Gives.ofTexts_eq {rules : ArgumentRules} {p : Parameter} {value : Text} {given : List Text}
    (gives : Gives rules p value given) : Request.ofTexts given rules = Request.ofEvents .initial [] [.parameter p value] := by
  have single {text : Text} {isShort afterEquals : Bool}
      (read : Argument.ofText text = .use (.parameter p) isShort (some ⟨afterEquals, value⟩))
      (kept : Event.attachedValue rules p value = value) :
      Request.ofTexts [text] rules = Request.ofEvents .initial [] [.parameter p value] := by
    have does : Event.ofSwitch rules isShort (.parameter p) (some ⟨afterEquals, value⟩) = .ok ([.parameter p value], none) := by
      simp [Event.ofSwitch, Event.ofAttached, kept]
    rw [Request.ofTexts_eq, Argument.ofTexts_cons (by rw [read]; nofun), read, Argument.ofTexts, Event.ofArguments_use does]
    rfl
  cases gives with
  | @apart spelling isShort spelt plain =>
    have read := Argument.ofText_spelt spelt
    have waits : Event.ofSwitch rules isShort (.parameter p) none = .ok ([], some p) := rfl
    rw [Request.ofTexts_eq, Argument.ofTexts_cons (by rw [read]; nofun), Argument.ofTexts_cons (by rw [plain]; nofun), read, plain,
      Argument.ofTexts, Event.ofArguments_use_value waits]
    rfl
  | equals spelt kept => exact single (Argument.ofText_equals spelt value) kept
  | attached short nonempty bare kept =>
    obtain ⟨s, rest, rfl⟩ := List.exists_cons_of_ne_nil nonempty
    exact single (Argument.ofText_attached short (by simpa using bare) rest) kept

/-! ## Definitions -/

/-- A variable has the value of its last definition, or that of the environment if it has none. -/
theorem Settings.get?_bindings (settings : Settings) (environment : Variables) (name : Text) :
    (settings.bindings environment).get? name =
      (settings.assignments.reverse.lookup name).or (Variables.get? (if settings.noEnviron then [] else environment) name) := by
  unfold bindings
  generalize (if settings.noEnviron then [] else environment) = base
  induction settings.assignments generalizing base with
  | nil => rfl
  | cons pair rest ih =>
    have own : [pair].lookup name = if name = pair.1 then some pair.2 else none := Variables.get?_cons ..
    rw [List.foldl_cons, ih, Variables.get?_define, List.reverse_cons, List.lookup_append, own, Option.or_assoc]
    split <;> rfl

theorem Settings.get?_bindings_of_last {settings : Settings} {front back : List (Text × Text)} {name value : Text}
    (defined : settings.assignments = front ++ [(name, value)] ++ back) (last : ∀ pair ∈ back, pair.1 ≠ name)
    (environment : Variables) : (settings.bindings environment).get? name = some value := by
  have later : back.reverse.lookup name = none := by
    rw [List.lookup_eq_none_iff]
    intro pair member
    have other := last pair (List.mem_reverse.1 member)
    simpa using Ne.symm other
  simp [get?_bindings, defined, List.lookup_append, later]

end Command

end ShellTemplate
