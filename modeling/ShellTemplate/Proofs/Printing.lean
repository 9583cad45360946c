import ShellTemplate.Proofs.CanonicalReading
import ShellTemplate.Template.Printer

/-!
# Reading what is printed

The text of a canonical template is read to that template. Every node is printed to symbols that are
read as its pieces, whatever comes after them, and what is canonical about it is what makes them so.
-/

namespace ShellTemplate

namespace Text

/-- An integer is printed with digits and a sign. -/
theorem mem_ofInt {n : Int} {s : Symbol} (member : s ∈ ofInt n) :
    s = .char '-' ∨ ∃ c, s = .char c ∧ c.isDigit = true := by
  cases n with
  | ofNat m => exact .inr (isDigit_of_mem_ofNat member)
  | negSucc m =>
    rcases List.mem_cons.1 member with rfl | digit
    · exact .inl rfl
    · exact .inr (isDigit_of_mem_ofNat digit)

theorem not_mem_ofInt {c : Char} (sign : c ≠ '-') (digit : c.isDigit = false) (n : Int) :
    .char c ∉ ofInt n := by
  intro member
  rcases mem_ofInt member with same | ⟨d, same, isDigit⟩ <;> cases same
  · exact sign rfl
  · rw [digit] at isDigit
    cases isDigit

theorem ofInt_ne_nil (n : Int) : ofInt n ≠ [] := by
  cases n with
  | ofNat m => exact ofNat_ne_nil m
  | negSucc m => simp [ofInt]

end Text

namespace PayloadForm

theorem readSubstring_print {offset : Int} (readable : Operator.isReadable offset = true) :
    readSubstring (Text.ofInt offset) = .ok (.substring offset none) := by
  have whole : (Text.ofInt offset).cut? [.char ':'] = none :=
    Text.cut?_eq_none_iff.2 (Text.not_mem_ofInt (by decide) (by decide) offset)
  simp [readSubstring, whole, Text.toInt?_ofInt readable]

theorem readSubstring_print_count {offset count : Int} (readable : Operator.isReadable offset = true)
    (countReadable : Operator.isReadable count = true) (notNegative : 0 ≤ count) :
    readSubstring (Text.ofInt offset ++ .char ':' :: Text.ofInt count) = .ok (.substring offset (some count)) := by
  have parts : (Text.ofInt offset ++ .char ':' :: Text.ofInt count).cut? [.char ':'] = 
      some (Text.ofInt offset, Text.ofInt count) :=
    Text.cut?_eq_some_iff.2 ⟨rfl, Text.not_mem_ofInt (by decide) (by decide) offset⟩
  simp [readSubstring, parts, Text.toInt?_ofInt readable, Text.toInt?_ofInt countReadable, Int.not_lt.2 notNegative]

theorem readReplacement_print {which : Occurrence} {pattern replacement : Text} (plain : .char '/' ∉ pattern) :
    readReplacement which (pattern ++ .char '/' :: replacement) = .ok (.replace which pattern replacement) := by
  have parts : (pattern ++ .char '/' :: replacement).cut? [.char '/'] = some (pattern, replacement) :=
    Text.cut?_eq_some_iff.2 ⟨rfl, plain⟩
  simp [readReplacement, parts]

end PayloadForm

namespace Opening

theorem read_substring {name : Text} (named : name.isName) {offset : Int} {count : Option Int}
    (canonical : (Operator.substring offset count).isCanonical = true) (tail : Text) :
    read (.char '{' :: name ++ (Operator.substring offset count).payload ++ .char '}' :: tail) =
      .complete name (.substring offset count) (name.length + (Operator.substring offset count).payload.length + 2) := by
  have settled : ∀ rest, (Sigil.payload .substring).isSettledBy (Text.ofInt offset ++ rest) = true := by
    intro rest
    obtain ⟨s, more, text⟩ := List.exists_cons_of_ne_nil (Text.ofInt_ne_nil offset)
    have other : s ≠ .char '=' := by
      rintro rfl
      exact Text.not_mem_ofInt (by decide) (by decide) offset (text ▸ List.mem_cons_self)
    simp [Sigil.isSettledBy, text, other]
  have clean : ∀ n, .char '}' ∉ Text.ofInt n := Text.not_mem_ofInt (by decide) (by decide)
  cases count with
  | none =>
    have readable : Operator.isReadable offset = true := canonical
    have read := (read_form tail named (clean offset) (settled (.char '}' :: tail))).1 _ (PayloadForm.readSubstring_print readable)
    simpa [Operator.payload] using read
  | some count =>
    simp only [Operator.isCanonical, Bool.and_eq_true, decide_eq_true_eq] at canonical
    obtain ⟨⟨readable, countReadable⟩, notNegative⟩ := canonical
    have meaning : PayloadForm.substring.operator (Text.ofInt offset ++ .char ':' :: Text.ofInt count) =
        .ok (.substring offset (some count)) := PayloadForm.readSubstring_print_count readable countReadable notNegative
    have read := (read_form tail named (by simp [clean]) (by rw [List.append_assoc]; exact settled _)).1 _ meaning
    simpa [Operator.payload] using read

theorem read_replace {name : Text} (named : name.isName) {which : Occurrence} {pattern replacement : Text}
    (canonical : (Operator.replace which pattern replacement).isCanonical = true) (tail : Text) :
    read (.char '{' :: name ++ (Operator.replace which pattern replacement).payload ++ .char '}' :: tail) =
      .complete name (.replace which pattern replacement)
        (name.length + (Operator.replace which pattern replacement).payload.length + 2) := by
  simp only [Operator.isCanonical, Operator.isInner, Bool.and_eq_true, Bool.not_eq_true', List.contains_eq_mem,
    decide_eq_false_iff_not, Bool.or_eq_true, bne_iff_ne] at canonical
  obtain ⟨⟨⟨patternClean, replacementClean⟩, plain⟩, starts⟩ := canonical
  have settled : (Sigil.payload (.replace which)).isSettledBy
      (pattern ++ .char '/' :: replacement ++ .char '}' :: tail) = true := by
    cases which with
    | first =>
      have starts := starts.resolve_left (fun other => other rfl)
      cases pattern with
      | nil => cases starts
      | cons s more =>
        simp only [Operator.isCanonical.startsPlainly, Bool.and_eq_true, bne_iff_ne] at starts
        have slash : s ≠ .char '/' := fun same => plain (same ▸ List.mem_cons_self)
        simp_all [Sigil.isSettledBy]
    | _ => rfl
  have read := (read_form tail named (by simp [patternClean, replacementClean]) settled).1 _
    (PayloadForm.readReplacement_print plain)
  simpa [Operator.payload] using read

theorem read_remove {name : Text} (named : name.isName) {edge : Edge} {longest : Bool} {pattern : Text}
    (canonical : (Operator.remove edge longest pattern).isCanonical = true) (tail : Text) :
    read (.char '{' :: name ++ (Operator.remove edge longest pattern).payload ++ .char '}' :: tail) =
      .complete name (.remove edge longest pattern)
        (name.length + (Operator.remove edge longest pattern).payload.length + 2) := by
  simp only [Operator.isCanonical, Operator.isInner, Bool.and_eq_true, Bool.not_eq_true', List.contains_eq_mem,
    decide_eq_false_iff_not, Bool.or_eq_true, bne_iff_ne] at canonical
  obtain ⟨clean, starts⟩ := canonical
  have settled : (Sigil.payload (.remove edge longest)).isSettledBy (pattern ++ .char '}' :: tail) = true := by
    cases edge <;> cases longest <;> cases pattern <;> simp_all [Sigil.isSettledBy]
  have read := (read_form tail named clean settled).1 _ (by rfl)
  simpa [Operator.payload] using read

theorem read_length {name : Text} (named : name.isName) (tail : Text) :
    read (.char '{' :: .char '#' :: name ++ .char '}' :: tail) = .complete name .length (name.length + 3) := by
  have ends : Text.endsName (.char '}' :: tail) := by
    rintro s ⟨rfl⟩
    rfl
  have leading := Text.leadingName_append named ends
  have form : lengthForm (name ++ .char '}' :: tail) = .complete name .length (name.length + 3) := by
    rw [lengthForm, leading]
    cases name with
    | nil => cases named
    | cons first more =>
      dsimp only
      rw [List.drop_left]
      rfl
  exact form

theorem read_change_case {name : Text} (named : name.isName) (letters : LetterCase) (extent : Extent)
    (tail : Text) :
    read (.char '{' :: name ++ (Sigil.changeCase letters extent).text ++ .char '}' :: tail) =
      .complete name (.changeCase letters extent) (name.length + (Sigil.changeCase letters extent).text.length + 2) := by
  have settled : (Sigil.changeCase letters extent).isSettledBy (.char '}' :: tail) = true := by
    cases letters <;> cases extent <;> rfl
  rw [read_sigil named settled, ofSigil]
  simp
  omega

/-- What is printed for an expression without a body is read as it, whatever comes after it. -/
theorem read_print {name : Text} {operator : Operator} (named : name.isName)
    (canonical : operator.isCanonical = true) (tail : Text) :
    read (.char '{' :: operator.mark ++ name ++ operator.payload ++ .char '}' :: tail) =
      .complete name operator (operator.mark.length + name.length + operator.payload.length + 2) := by
  cases operator with
  | value =>
    have ends : Text.endsName (.char '}' :: tail) := by
      rintro s ⟨rfl⟩
      rfl
    simpa [Operator.mark, Operator.payload, afterName] using read_braced named ends
  | length => simpa [Operator.mark, Operator.payload, Nat.add_comm, Nat.add_left_comm] using read_length named tail
  | changeCase letters extent => simpa [Operator.mark, Operator.payload] using read_change_case named letters extent tail
  | substring offset count => simpa [Operator.mark] using read_substring named canonical tail
  | replace which pattern replacement => simpa [Operator.mark] using read_replace named canonical tail
  | remove edge longest pattern => simpa [Operator.mark] using read_remove named canonical tail

end Opening

namespace Template

/-- The pieces of the printed text of a literal. -/
def literalPieces (text : Text) : List Piece :=
  text.map fun s => if s = .char '$' then .escapedDollar else .symbol s

theorem ofPieces_literalPieces {text : Text} (nonempty : text ≠ []) {pieces : List Piece}
    (other : ∀ more rest, ofPieces pieces ≠ .literal more :: rest) :
    ofPieces (literalPieces text ++ pieces) = .literal text :: ofPieces pieces := by
  have symbol : ∀ (s : Symbol) pieces,
      ofPieces ((if s = .char '$' then Piece.escapedDollar else .symbol s) :: pieces) = consSymbol s (ofPieces pieces) := by
    intro s pieces
    split
    · rename_i dollar
      rw [dollar]
      rfl
    · rfl
  induction text with
  | nil => exact absurd rfl nonempty
  | cons s text ih =>
    rw [literalPieces, List.map_cons, List.cons_append, symbol]
    cases text with
    | nil =>
      rw [List.map_nil, List.nil_append]
      unfold consSymbol
      split
      · exact absurd (by assumption) (other _ _)
      · rfl
    | cons t text =>
      have rest := ih (List.cons_ne_nil t text)
      rw [literalPieces] at rest
      rw [rest]
      rfl

end Template

namespace Plain

theorem scan_escapeDollars {attempt : Nat → Text → Attempt} {inBody : Bool} {text tail : Text} {position : Nat}
    (clean : inBody = true → .char '}' ∉ text) (bare : text.getLast? = some (.char '\\') → tail.head? ≠ some (.char '$')) :
    scan attempt inBody 0 (text.escapeDollars ++ tail) position =
      (scan attempt inBody 0 tail (position + text.escapeDollars.length)).prepend (Template.literalPieces text) := by
  induction text generalizing position with
  | nil => simp [Text.escapeDollars, Template.literalPieces]
  | cons s text ih =>
    have clean' : inBody = true → .char '}' ∉ text := fun inside member => clean inside (List.mem_cons_of_mem s member)
    have bare' : text.getLast? = some (.char '\\') → tail.head? ≠ some (.char '$') := by
      intro last
      cases text with
      | nil => cases last
      | cons t text => exact bare (by simpa using last)
    have rest := fun position => @ih position clean' bare'
    by_cases dollar : s = .char '$'
    · subst dollar
      have printed : Text.escapeDollars (.char '$' :: text) = .char '\\' :: .char '$' :: Text.escapeDollars text := rfl
      rw [printed, List.cons_append, List.cons_append, scan_escape, rest, Scan.prepend_prepend, Nat.add_assoc, Nat.add_comm 2]
      rfl
    · have printed : Text.escapeDollars (s :: text) = s :: Text.escapeDollars text := by simp [Text.escapeDollars, dollar]
      have open_ : s = .char '}' → inBody = false := by
        rintro rfl
        cases inBody with
        | false => rfl
        | true => simp at clean
      have unescaped : s = .char '\\' → (Text.escapeDollars text ++ tail).head? ≠ some (.char '$') := by
        rintro rfl
        cases text with
        | nil => exact bare rfl
        | cons t text =>
          by_cases next : t = .char '$'
          · subst next
            simp [Text.escapeDollars]
          · simp [Text.escapeDollars, next]
      have own : Template.literalPieces (s :: text) = [.symbol s] ++ Template.literalPieces text := by
        simp [Template.literalPieces, dollar]
      rw [printed, List.cons_append, scan_symbol open_ unescaped dollar, rest, Scan.prepend_prepend, own, Nat.add_assoc,
        Nat.add_comm 1]
      rfl

theorem scan_braced {levels : Nat} {inBody : Bool} {inside tail : Text} {position : Nat} {node : Node}
    {starts : List Nat}
    (found : attempt levels position (.char '{' :: inside ++ .char '}' :: tail) = .found node (inside.length + 2) starts) :
    scan (attempt levels) inBody 0 (Text.braced inside ++ tail) position =
      (scan (attempt levels) inBody 0 tail (position + (Text.braced inside).length)).prepend
        [.expression node (inside.length + 3) starts] := by
  have text : Text.braced inside ++ tail = .char '$' :: (.char '{' :: inside ++ .char '}' :: tail) := by simp [Text.braced]
  have rest : (.char '{' :: inside ++ .char '}' :: tail).drop (inside.length + 2) = tail := by simp
  have place : position + 1 + (inside.length + 2) = position + (Text.braced inside).length := by
    simp [Text.braced]
    omega
  rw [text, scan_found found (attempt_fits levels found), rest, place]

/-- The printed text of an expression without a body is found, whatever comes after it. -/
theorem found_print {levels position : Nat} {name : Text} {operator : Operator} (named : name.isName)
    (canonical : operator.isCanonical = true) (tail : Text) :
    attempt (levels + 1) position (.char '{' :: (operator.mark ++ name ++ operator.payload) ++ .char '}' :: tail) =
      .found (.expression name operator) ((operator.mark ++ name ++ operator.payload).length + 2) [position] := by
  have opening := Opening.read_print named canonical tail
  have found : attempt (levels + 1) position _ = .found _ _ [position] := attempt_complete opening
  simpa [Nat.add_assoc] using found

/-- A default is found if its printed body is read to its pieces. -/
theorem found_print_default {levels position : Nat} {name body tail : Text} {trigger : Trigger}
    {inner : List Piece} (named : name.isName)
    (scanned : scan (attempt levels) true 0 (body ++ .char '}' :: tail) (position + 1 + (Opening.start name trigger).length) =
      (scan (attempt levels) true 0 (.char '}' :: tail)
        (position + 1 + (Opening.start name trigger).length + body.length)).prepend inner) :
    attempt (levels + 1) position (.char '{' :: (name ++ (Sigil.default trigger).text ++ body) ++ .char '}' :: tail) =
      .found (.default name trigger (Template.ofPieces inner)) ((name ++ (Sigil.default trigger).text ++ body).length + 2)
        (position :: inner.flatMap Piece.starts) := by
  rw [scan_closing] at scanned
  have found := attempt_closed (Opening.read_start named trigger _) (by rw [List.drop_left]; exact scanned)
  have text : .char '{' :: (name ++ (Sigil.default trigger).text ++ body) ++ .char '}' :: tail =
      Opening.start name trigger ++ (body ++ .char '}' :: tail) := by
    simp [Opening.start]
  rw [text, found]
  simp [Opening.start]
  omega

/-- What is printed for a canonical template is read to its nodes, if no `$` follows. -/
theorem scan_print {levels : Nat} {inBody : Bool} {nodes : List Node}
    (canonical : Template.isCanonical levels inBody nodes = true)
    {tail : Text} (plain : tail.head? ≠ some (.char '$')) (position : Nat) :
    ∃ pieces, Template.ofPieces pieces = nodes ∧
      scan (attempt levels) inBody 0 (Template.print nodes ++ tail) position =
        (scan (attempt levels) inBody 0 tail (position + (Template.print nodes).length)).prepend pieces := by
  induction levels using Nat.strongRecOn generalizing inBody nodes tail position with
  | _ levels ihLevels =>
    induction nodes generalizing position with
    | nil => exact ⟨[], rfl, by simp [Template.print]⟩
    | cons node nodes ih =>
      simp only [Template.isCanonical, Bool.and_eq_true] at canonical
      obtain ⟨⟨own, precedes⟩, after⟩ := canonical
      obtain ⟨pieces, rfl, scanned⟩ := ih after (position + node.print.length)
      have further : ∀ front,
          scan (attempt levels) inBody 0 (node.print ++ (Template.print (Template.ofPieces pieces) ++ tail)) position =
            (scan (attempt levels) inBody 0 (Template.print (Template.ofPieces pieces) ++ tail)
              (position + node.print.length)).prepend front →
          scan (attempt levels) inBody 0 (Template.print (node :: Template.ofPieces pieces) ++ tail) position =
            (scan (attempt levels) inBody 0 tail
              (position + (Template.print (node :: Template.ofPieces pieces)).length)).prepend (front ++ pieces) := by
        intro front first
        rw [Template.print, List.append_assoc, first, scanned, Scan.prepend_prepend, List.length_append, Nat.add_assoc]
      cases node with
      | literal text =>
        simp only [Node.isCanonical, Bool.and_eq_true, Bool.not_eq_true', Bool.and_eq_false_imp, List.contains_eq_mem,
          decide_eq_false_iff_not] at own
        obtain ⟨nonempty, clean⟩ := own
        have other : ∀ more rest, Template.ofPieces pieces ≠ .literal more :: rest := by
          intro more rest same
          rw [same] at precedes
          cases precedes
        refine ⟨Template.literalPieces text ++ pieces, ?_, further _ ?_⟩
        · exact Template.ofPieces_literalPieces (by simpa using nonempty) other
        · refine scan_escapeDollars clean ?_
          intro last
          cases nodes : Template.ofPieces pieces with
          | nil => simpa [Template.print] using plain
          | cons node rest =>
            rw [nodes] at precedes
            cases node <;> simp [Node.mayPrecede, last] at precedes
      | expression name operator =>
        simp only [Node.isCanonical, Bool.and_eq_true, decide_eq_true_eq] at own
        obtain ⟨⟨positive, named⟩, canonical⟩ := own
        obtain ⟨lower, rfl⟩ : ∃ lower, levels = lower + 1 := ⟨levels - 1, by omega⟩
        exact ⟨_, rfl, further [_] (scan_braced (found_print named canonical _))⟩
      | default name trigger body =>
        simp only [Node.isCanonical, Bool.and_eq_true, decide_eq_true_eq] at own
        obtain ⟨⟨positive, named⟩, inside⟩ := own
        obtain ⟨lower, rfl⟩ : ∃ lower, levels = lower + 1 := ⟨levels - 1, by omega⟩
        have closing : ∀ rest : Text, List.head? (.char '}' :: rest) ≠ some (.char '$') := by simp
        obtain ⟨inner, rfl, scanned⟩ := ihLevels lower (Nat.lt_succ_self lower) inside
          (closing (Template.print (Template.ofPieces pieces) ++ tail)) (position + 1 + (Opening.start name trigger).length)
        exact ⟨_, rfl, further [_] (scan_braced (found_print_default named scanned))⟩

end Plain

namespace Template

/-- The text that is printed for a canonical template is read to it. -/
theorem parse_print {template : Template} (canonical : isCanonical maxNesting false template = true) :
    parse (print template) = .ok template := by
  have ended : ([] : Text).head? ≠ some (.char '$') := by simp
  obtain ⟨pieces, rfl, scanned⟩ := Plain.scan_print canonical ended 0
  rw [List.append_nil, Plain.scan_nil] at scanned
  have closed : Plain.scanAll maxNesting (print (ofPieces pieces)) = .closed pieces (0 + (print (ofPieces pieces)).length) := by
    rw [Plain.scanAll, scanned]
    simp [Scan.prepend]
  exact parse_eq_ok_iff.2 ⟨pieces, _, closed, rfl⟩

theorem parse_print_in_default :
    let template : Template := [.literal [.char '$'], .default [.char 'b'] .unset
      [.expression [.char 'c'] (.substring (-2) (some 1)), .literal [.char '\\']]]
    isCanonical maxNesting false template = true ∧ parse (print template) = .ok template := by
  intro template
  have canonical : isCanonical maxNesting false template = true := by decide +kernel
  exact ⟨canonical, parse_print canonical⟩

end Template

end ShellTemplate
