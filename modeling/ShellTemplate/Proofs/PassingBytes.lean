import ShellTemplate.Proofs.ArgumentLists
import ShellTemplate.Proofs.Printing
import ShellTemplate.Proofs.Runs

/-!
# Bytes that pass through

Bytes on standard input whose dollar signs are escaped come out as they were, and so do the bytes that a variable
is defined as. Whether they are UTF-8 does not matter: what is no character is kept as stray bytes.
-/

namespace ShellTemplate

/-! ## Templates that expand to what is given -/

namespace Template

theorem expand_escapeDollars (lookup : Text → Option Text) (text : Text) : expand lookup text.escapeDollars = .ok text := by
  have scanned := @Plain.scan_escapeDollars (Plain.attempt maxNesting) false text [] 0 nofun (fun _ => nofun)
  rw [List.append_nil, Plain.scan_nil] at scanned
  have parsed : parse text.escapeDollars = .ok (ofPieces (literalPieces text)) :=
    parse_eq_ok_iff.2 ⟨_, _, scanned, by simp⟩
  rw [expand, parsed]
  cases text with
  | nil => rfl
  | cons s rest =>
    have literal := @ofPieces_literalPieces (s :: rest) (List.cons_ne_nil s rest) [] nofun
    rw [List.append_nil] at literal
    rw [literal]
    simp [Except.map, ofPieces]

theorem expand_name (lookup : Text → Option Text) {name : Text} (named : name.isName = true) :
    expand lookup (.char '$' :: name) = .ok ((lookup name).getD []) := by
  have ends : Text.endsName [] := nofun
  have opening : Opening.read name = .complete name .value name.length := by
    simpa using Opening.read_name named ends
  have found : Plain.attempt maxNesting 0 name = .found (.expression name .value) name.length [0] := Plain.attempt_complete opening
  have scanned : Plain.scanAll maxNesting (.char '$' :: name) =
      .closed [.expression (.expression name .value) (name.length + 1) [0]] (0 + 1 + name.length) := by
    rw [Plain.scanAll, Plain.scan_found found (Nat.le_refl _), List.drop_length, Plain.scan_nil]
    rfl
  have parsed : parse (.char '$' :: name) = .ok [.expression name .value] := parse_eq_ok_iff.2 ⟨_, _, scanned, rfl⟩
  rw [expand, parsed]
  simp [Except.map, Operator.apply]

end Template

namespace Text

theorem isStrict_of_isName {name : Text} (named : name.isName = true) : name.isStrict = true := by
  rw [isStrict, List.all_eq_true]
  intro s member
  have continues := continuesName_of_isName named member
  cases s with
  | char c => rfl
  | stray low => cases continues

/-- A name is decoded from its bytes up to an equals sign, and what stands behind it by itself. -/
theorem decode_definition {name : Text} (named : name.isName = true) (bytes : Bytes) :
    decode (name.encode ++ 0x3d :: bytes) = name ++ .char '=' :: decode bytes := by
  rw [decode_encode_append (isStrict_of_isName named), decode_low (by decide)]
  rfl

theorem decode_reference {name : Text} (named : name.isName = true) : decode (0x24 :: name.encode) = .char '$' :: name := by
  have alone := decode_encode_append (isStrict_of_isName named) []
  rw [List.append_nil] at alone
  rw [decode_low (by decide), alone]
  simp [decode, decodeOnto]

end Text

namespace Command

/-! ## Definitions as arguments -/

theorem assignment?_definition {name : Text} (named : name.isName = true) (value : Text) :
    assignment? (name ++ .char '=' :: value) = some (name, value) := by
  have split : (name ++ .char '=' :: value).cut? [.char '='] = some (name, value) :=
    Text.cut?_eq_some_iff.2 ⟨rfl, Text.not_mem_of_isName named rfl⟩
  rw [assignment?, split]
  cases name with
  | nil => cases named
  | cons first rest => rfl

/-- A definition of a name is a value in every spelling. -/
theorem Gives.definition (rules : ArgumentRules) {name : Text} (named : name.isName = true) (value : Text) {spelling : Text}
    {isShort : Bool} (spelt : Argument.spelt? spelling = some (.parameter .set, isShort)) :
    Gives rules .set (name ++ .char '=' :: value) [spelling, name ++ .char '=' :: value] ∧
      Gives rules .set (name ++ .char '=' :: value) [spelling ++ .char '=' :: (name ++ .char '=' :: value)] ∧
        ((Switch.parameter .set).short? = some spelling →
          Gives rules .set (name ++ .char '=' :: value) [spelling ++ (name ++ .char '=' :: value)]) := by
  cases name with
  | nil => cases named
  | cons first rest =>
    have starts := Text.continuesName_of_isName named List.mem_cons_self
    have dash : first ≠ .char '-' := by
      rintro rfl
      cases starts
    have bare : first ≠ .char '=' := by
      rintro rfl
      cases starts
    refine ⟨.apart spelt ?_, .equals spelt rfl, fun short => .attached short nofun (by simpa using bare) rfl⟩
    cases rest <;> simp [Argument.ofText, dash]

/-! ## Runs -/

/-- Whether a run ended well, said nothing that it was not asked for, and delivered bytes where its settings want them. -/
structure PassesThrough (machine : Machine) (settings : Settings) (bytes : Bytes) (outcome : Outcome) : Prop where
  status : outcome.status = 0
  silent : settings.verbose = false → outcome.errors = []
  delivers : ∃ written, Delivers machine bytes outcome (namedFile? settings.output) written

section
variable {machine : Machine}

theorem passesThrough_run {invocation : Invocation} {settings : Settings} {bytes : Bytes}
    (asked : Request.ofTexts invocation.arguments machine.rules = .ok (.expand settings))
    (unnamed : namedFile? settings.input = none)
    (admitted : ∀ path, namedFile? settings.output = some path → machine.refusal? .writing machine.files path = none)
    (expanded : Template.expand (settings.bindings invocation.environment).get? (Text.decode invocation.input) =
      .ok (Text.decode bytes)) :
    PassesThrough machine settings bytes (run machine invocation) := by
  obtain ⟨status, errors, written, delivers⟩ := delivers_run asked (.input unnamed) expanded admitted
  rw [Text.encode_decode] at delivers
  refine ⟨status, ?_, written, delivers⟩
  intro quiet
  rw [errors, Settings.remarks, quiet]
  rfl

/-- Bytes pass through a run unchanged, from standard input if their dollar signs are escaped, and from the last
    definition of a variable if the template is the variable. Only a machine that does not let the file for the result be
    written keeps them back. -/
theorem bytes_pass_through {front back : List Text} {first second : Settings}
    (askedFront : Request.ofTexts front machine.rules = .ok (.expand first))
    (askedBack : Request.ofTexts back machine.rules = .ok (.expand second))
    (unnamed : namedFile? (first.followedBy second).input = none)
    (admitted : ∀ path, namedFile? (first.followedBy second).output = some path →
      machine.refusal? .writing machine.files path = none)
    (environment : Variables) :
    (∀ bytes, PassesThrough machine (first.followedBy second) bytes
      (run machine ⟨front ++ back, bytes.escapeDollars, environment⟩)) ∧
    ∀ name bytes given, name.isName = true → Gives machine.rules .set (Text.decode (name.encode ++ 0x3d :: bytes)) given →
      (∀ pair ∈ second.assignments, pair.1 ≠ name) →
        PassesThrough machine (first.followedBy second) bytes
          (run machine ⟨front ++ given ++ back, 0x24 :: name.encode, environment⟩) := by
  constructor
  · intro bytes
    refine passesThrough_run ?_ unnamed admitted ?_
    · simp only [Request.ofTexts_append askedFront, askedBack]
      rfl
    · simp only [Text.editsAt_escapeDollars.decode_eq]
      exact Template.expand_escapeDollars _ _
  · intro name bytes given named gives last
    let pair := (name, Text.decode bytes)
    have defined : Request.ofTexts given machine.rules =
        .ok (.expand { Settings.initial with assignments := [pair] }) := by
      rw [gives.ofTexts_eq, Text.decode_definition named, Request.ofEvents, assignment?_definition named]
      rfl
    -- But for the definition the settings are those of the other arguments.
    let settings := { first.followedBy second with assignments := first.assignments ++ [pair] ++ second.assignments }
    have asked : Request.ofTexts (front ++ given ++ back) machine.rules = .ok (.expand settings) := by
      rw [Request.ofTexts_between askedFront defined, askedBack]
      simp [Except.map, Request.after, Settings.followedBy, Settings.initial, settings]
    have expanded : Template.expand (settings.bindings environment).get? (Text.decode (0x24 :: name.encode)) =
        .ok (Text.decode bytes) := by
      rw [Text.decode_reference named, Template.expand_name _ named, Settings.get?_bindings_of_last rfl last]
      rfl
    have passes : PassesThrough machine settings bytes
        (run machine ⟨front ++ given ++ back, 0x24 :: name.encode, environment⟩) :=
      passesThrough_run asked unnamed admitted expanded
    exact ⟨passes.status, passes.silent, passes.delivers⟩

end

theorem bytes_pass_through_surrogate :
    let machine := { Machine.ofWorking [] with rules := .later }
    let front := [Text.ofString "-s", Text.ofString "x=a"]
    let back := [Text.ofString "-o", Text.ofString "f"]
    let first : Settings := { Settings.initial with assignments := [([.char 'x'], [.char 'a'])] }
    let second : Settings := { Settings.initial with output := some (Text.ofString "f") }
    let name : Text := [.char 'x']
    -- A surrogate, which is no character, with a dollar sign in the midst of it.
    let bytes : Bytes := [0xed, 0x24, 0xa0, 0x80, 0x0d, 0x0a]
    let given := [Text.ofString "-s" ++ Text.decode (name.encode ++ 0x3d :: bytes)]
    Request.ofTexts front machine.rules = .ok (.expand first) ∧ Request.ofTexts back machine.rules = .ok (.expand second) ∧
      PassesThrough machine (first.followedBy second) bytes (run machine ⟨front ++ back, bytes.escapeDollars, []⟩) ∧
        PassesThrough machine (first.followedBy second) bytes
          (run machine ⟨front ++ given ++ back, 0x24 :: name.encode, []⟩) := by
  intro machine front back first second name bytes given
  have askedFront : Request.ofTexts front machine.rules = .ok (.expand first) := rfl
  have askedBack : Request.ofTexts back machine.rules = .ok (.expand second) := rfl
  have named : name.isName = true := rfl
  have gives : Gives machine.rules .set (Text.decode (name.encode ++ 0x3d :: bytes)) given := by
    simp only [given, Text.decode_definition named]
    exact (Gives.definition machine.rules named _ rfl).2.2 rfl
  have admitted : ∀ path, namedFile? (first.followedBy second).output = some path →
      machine.refusal? .writing machine.files path = none := by
    rintro path ⟨⟩
    rfl
  obtain ⟨read, defined⟩ := bytes_pass_through askedFront askedBack rfl admitted []
  exact ⟨askedFront, askedBack, read bytes, defined name bytes given named gives nofun⟩

end Command

end ShellTemplate
