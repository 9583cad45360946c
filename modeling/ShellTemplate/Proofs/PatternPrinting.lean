import ShellTemplate.Glob.Printer
import ShellTemplate.Proofs.PatternReading
import ShellTemplate.Proofs.Reaching

/-!
# Matching what is printed

The text of printable tokens is read as those tokens, whatever stands next to each other in it. So to
match the text is to be cut into pieces, one for each token.
-/

namespace ShellTemplate

namespace Text

/-- A separator is found at once behind a text without its first symbol. -/
theorem cut?_append_of_not_mem {first : Symbol} {before : Text} (absent : first ∉ before) (more after : Text) :
    cut? (before ++ first :: (more ++ after)) (first :: more) = some (before, after) := by
  induction before with
  | nil => simp [cut?_cons, List.isPrefixOf]
  | cons s before ih =>
    simp only [List.mem_cons, not_or] at absent
    rw [List.cons_append, cut?_cons, if_neg (by simp [List.isPrefixOf, absent.1]), ih absent.2]
    rfl

end Text

namespace Glob

theorem NamedClass.colon_not_mem_name (c : NamedClass) : .char ':' ∉ c.name := by
  cases c <;> decide

theorem className?_name (c : NamedClass) (rest : Text) :
    className? (.char '[') (.char ':' :: (c.name ++ .char ':' :: .char ']' :: rest)) = some c.name := by
  have cut : Text.cut? (c.name ++ .char ':' :: .char ']' :: rest) (Text.ofString ":]") = some (c.name, rest) :=
    Text.cut?_append_of_not_mem c.colon_not_mem_name [.char ']'] rest
  simp [className?, cut]

/-- The text of an item does not begin like the end of a bracket, a range or a negation. -/
theorem Item.print_eq_cons (item : Item) :
    ∃ s more, item.print = s :: more ∧ s ≠ .char ']' ∧ s ≠ .char '-' ∧ negates s = false := by
  cases item with
  | symbol s => exact ⟨_, _, rfl, by decide, by decide, by decide⟩
  | range low high => exact ⟨_, _, rfl, by decide, by decide, by decide⟩
  | named c => exact ⟨_, _, rfl, by decide, by decide, by decide⟩

/-- An item is read from its text, if that does not go on as a range. -/
theorem itemAt_print {item : Item} (printable : item.isPrintable = true) {s : Symbol} {more rest : Text}
    (print : item.print = s :: more) (plain : rest.head? ≠ some (.char '-')) :
    itemAt s (more ++ rest) = (some item, more.length) := by
  cases item with
  | symbol s =>
    cases print
    simp [itemAt_escape, symbolItem_plain plain]
  | range low high =>
    cases print
    have other : high ≠ .char ']' := by simpa [Item.isPrintable] using printable
    simp [itemAt_escape, symbolItem, other]
  | named c =>
    cases print
    have item := itemAt_class (className?_name c rest)
    simpa [NamedClass.ofName?_name] using item

/-- The printed items of a bracket are read up to the `]` behind them. -/
theorem itemsIn_print {items : List Item} (printable : ∀ item ∈ items, item.isPrintable = true) {first : Bool}
    (nonempty : first = true → items ≠ []) (rest : Text) :
    itemsIn first (items.flatMap Item.print ++ .char ']' :: rest) = some (items, (items.flatMap Item.print).length + 1) := by
  induction items generalizing first with
  | nil =>
    cases first with
    | true => exact absurd rfl (nonempty rfl)
    | false => exact itemsIn_closing rest
  | cons item items ih =>
    have further : itemsIn false (items.flatMap Item.print ++ .char ']' :: rest) =
        some (items, (items.flatMap Item.print).length + 1) :=
      ih (fun other member => printable other (List.mem_cons_of_mem _ member)) (by simp)
    have plain : (items.flatMap Item.print ++ .char ']' :: rest).head? ≠ some (.char '-') := by
      cases items with
      | nil => simp
      | cons next items =>
        obtain ⟨s, more, print, -, other, -⟩ := next.print_eq_cons
        simpa [print] using other
    obtain ⟨s, more, print, inside, -⟩ := item.print_eq_cons
    have here := itemAt_print (printable item List.mem_cons_self) print plain
    have whole : (item :: items).flatMap Item.print ++ .char ']' :: rest =
        s :: (more ++ (items.flatMap Item.print ++ .char ']' :: rest)) := by
      simp [print]
    rw [whole, itemsIn_cons (fun same => absurd same inside), here, List.drop_left, further]
    simp [print]
    omega

/-- What a bracket has in front of its items. -/
def negation (negated : Bool) : Text :=
  if negated then [.char '!'] else []

theorem bracketAt_print {negated : Bool} {items : List Item} (printable : ∀ item ∈ items, item.isPrintable = true)
    (nonempty : items ≠ []) (rest : Text) :
    bracketAt (negation negated ++ items.flatMap Item.print ++ .char ']' :: rest) =
      some (.bracket negated items, (negation negated ++ items.flatMap Item.print).length + 1) := by
  have read : itemsIn true (items.flatMap Item.print ++ .char ']' :: rest) = _ := itemsIn_print printable (fun _ => nonempty) rest
  cases negated with
  | true =>
    have mark : negates (.char '!') = true := by decide
    rw [negation, if_pos rfl, List.cons_append, List.cons_append, List.nil_append, bracketAt_negated mark, read]
    simp [Nat.add_comm]
  | false =>
    obtain ⟨item, others, rfl⟩ := List.exists_cons_of_ne_nil nonempty
    obtain ⟨s, more, print, -, -, plain⟩ := item.print_eq_cons
    have whole : (item :: others).flatMap Item.print ++ .char ']' :: rest =
        s :: (more ++ others.flatMap Item.print ++ .char ']' :: rest) := by
      simp [print]
    rw [negation, if_neg (by simp), List.nil_append, whole, bracketAt_plain plain, ← whole, read]
    simp

theorem tokens_print_append {token : Token} (printable : token.isPrintable = true) (rest : Text) :
    tokens (token.print ++ rest) = token :: tokens rest := by
  cases token with
  | star => exact tokens_cons (.char '*') rest
  | any => exact tokens_cons (.char '?') rest
  | literal s => exact tokens_cons (.char '\\') (s :: rest)
  | bracket negated items =>
    simp only [Token.isPrintable, Bool.and_eq_true, List.all_eq_true, Bool.not_eq_true', List.isEmpty_eq_false_iff] at printable
    have bracket : bracketAt (negation negated ++ items.flatMap Item.print ++ .char ']' :: rest) = _ :=
      bracketAt_print printable.2 printable.1 rest
    have whole : (Token.bracket negated items).print ++ rest =
        .char '[' :: (negation negated ++ items.flatMap Item.print ++ .char ']' :: rest) := by
      simp [Token.print, negation]
    generalize negation negated ++ items.flatMap Item.print = inside at bracket whole
    have behind : (inside ++ .char ']' :: rest).drop (inside.length + 1) = rest := by simp
    rw [whole, tokens_cons, tokenAt_bracket bracket, behind]

/-- The text of tokens is read as those tokens. -/
theorem tokens_print {list : List Token} (printable : ∀ token ∈ list, token.isPrintable = true) :
    tokens (printTokens list) = list := by
  induction list with
  | nil => rfl
  | cons token list ih =>
    have others := ih fun other member => printable other (List.mem_cons_of_mem _ member)
    have first := tokens_print_append (printable token List.mem_cons_self) (printTokens list)
    rw [others] at first
    exact first

theorem Token.takes_element (token : Token) : token.element.Takes = token.Takes := by
  funext piece
  cases token with
  | star => rfl
  | any => simp [Token.Takes, Token.element, Element.Takes]
  | literal s => simp [Token.Takes, Token.element, Element.Takes]
  | bracket negated items =>
    simp only [Token.Takes, Token.element, Element.Takes, bne_iff_ne, ne_eq, eq_iff_iff]
    refine exists_congr fun s => and_congr_right fun _ => ?_
    rw [← List.any_eq_true]
    cases items.any (·.contains s) <;> cases negated <;> simp

/-- A value matches the text of tokens if and only if it can be cut into pieces, one for each token in
    order. -/
theorem matchesPattern_print_iff {list : List Token} (printable : ∀ token ∈ list, token.isPrintable = true) (value : Text) :
    value.matchesPattern (printTokens list) = true ↔
      ∃ pieces : List Text, pieces.flatten = value ∧ List.Forall₂ Token.Takes list pieces := by
  rw [matchesPattern_iff, tokens_print printable, matches_iff_pieces]
  simp only [List.forall₂_map_left_iff, Token.takes_element]

theorem matchesPattern_print_iff_in_bracket :
    let list : List Token := [.star, .literal (.char '*'),
      .bracket true [.symbol (.char ']'), .range (.char '[') (.char '-'), .named .digit, .symbol (.char ':')]]
    let value := Text.ofString "a**-"
    (∀ token ∈ list, token.isPrintable = true) ∧
      (value.matchesPattern (printTokens list) = true ↔
        ∃ pieces : List Text, pieces.flatten = value ∧ List.Forall₂ Token.Takes list pieces) := by
  intro list value
  have printable : ∀ token ∈ list, token.isPrintable = true := by decide
  exact ⟨printable, matchesPattern_print_iff printable value⟩

end Glob

end ShellTemplate
