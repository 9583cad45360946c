import ShellTemplate.Proofs.PatternReading

/-!
# Negated brackets

A `!` or `^` behind the `[` of a bracket is one more symbol of it and turns its test around. It changes neither
where the bracket closes nor what is read behind it (`bracketAt_negating`), so that all other elements of the
pattern stay as they are (`elements_negating`).
-/

namespace ShellTemplate.Glob

/-- How far behind the `[` before a text the `]` stands that closes its bracket, if one does. -/
def closing? (rest : Text) : Option Nat :=
  (bracketAt rest).map (·.2)

/-- A bracket that is read ends with a `]`. -/
theorem closed_of_itemsIn {first : Bool} {text : Text} {items : List Item} {size : Nat}
    (read : itemsIn first text = some (items, size)) : ∃ before, size = before + 1 ∧ text[before]? = some (.char ']') := by
  induction text using Text.passInduction generalizing first items size with
  | ended => cases read
  | step s rest ih =>
    rcases closes_or_inside s first with ⟨rfl, rfl⟩ | inside
    · rw [itemsIn_closing] at read
      cases read
      exact ⟨0, rfl, rfl⟩
    · rw [itemsIn_cons inside] at read
      obtain ⟨⟨others, more⟩, later, same⟩ := Option.map_eq_some_iff.1 read
      obtain ⟨before, rfl, here⟩ := ih _ later
      cases same
      rw [List.getElem?_drop] at here
      refine ⟨(itemAt s rest).2 + before + 1, by omega, ?_⟩
      rw [List.getElem?_cons_succ]
      exact here

theorem getElem?_closing {rest : Text} {place : Nat} (closes : closing? rest = some place) :
    (.char '[' :: rest)[place]? = some (.char ']') := by
  cases rest with
  | nil => cases closes
  | cons s rest =>
    cases negated : negates s with
    | true =>
      rw [closing?, bracketAt_negated negated, Option.map_map] at closes
      obtain ⟨⟨items, size⟩, read, rfl⟩ := Option.map_eq_some_iff.1 closes
      obtain ⟨before, rfl, here⟩ := closed_of_itemsIn read
      show (.char '[' :: s :: rest)[1 + (before + 1)]? = some (.char ']')
      rw [Nat.add_comm, List.getElem?_cons_succ, List.getElem?_cons_succ]
      exact here
    | false =>
      rw [closing?, bracketAt_plain negated, Option.map_map] at closes
      obtain ⟨⟨items, size⟩, read, rfl⟩ := Option.map_eq_some_iff.1 closes
      obtain ⟨before, rfl, here⟩ := closed_of_itemsIn read
      exact here

section
variable {rest : Text} (unmarked : ∀ s ∈ rest.head?, negates s = false)
include unmarked

theorem bracketAt_unnegated : bracketAt rest = (itemsIn true rest).map fun parts => (.bracket false parts.1, parts.2) := by
  cases rest with
  | nil => rfl
  | cons s rest => exact bracketAt_plain (unmarked s rfl) rest

/-- With a mark of negation in front a bracket has the same items and is negated, and closes one symbol later. -/
theorem bracketAt_negating {mark : Symbol} (negating : negates mark = true) :
    bracketAt rest = none ∧ bracketAt (mark :: rest) = none ∨
      ∃ items size, bracketAt rest = some (.bracket false items, size) ∧
        bracketAt (mark :: rest) = some (.bracket true items, size + 1) := by
  rw [bracketAt_unnegated unmarked, bracketAt_negated negating]
  cases read : itemsIn true rest with
  | none => exact .inl ⟨rfl, rfl⟩
  | some parts => exact .inr ⟨parts.1, parts.2, rfl, by simp [Nat.add_comm]⟩

end

/-- A bracket is an element by itself, and the elements behind it are those of the text behind it. -/
theorem elements_bracket {rest : Text} {negated : Bool} {items : List Item} {size : Nat}
    (read : bracketAt rest = some (.bracket negated items, size)) :
    elements (.char '[' :: rest) = (Token.bracket negated items).element :: elements (rest.drop size) := by
  rw [elements, tokens_cons, tokenAt_bracket read]
  rfl

/-- A bracket closes with a `!` or `^` behind its `[` if and only if it closes without, and then one symbol later. Its
    element accepts what it did not accept before, and the elements behind it are the same. -/
theorem elements_negating {mark : Symbol} (negating : mark = .char '!' ∨ mark = .char '^') {rest : Text}
    (unmarked : rest.head? ≠ some (.char '!') ∧ rest.head? ≠ some (.char '^')) :
    closing? (mark :: rest) = (closing? rest).map (· + 1) ∧
      ∀ place ∈ closing? rest, (.char '[' :: rest)[place]? = some (.char ']') ∧
        ∃ accepts others, elements (.char '[' :: rest) = .one accepts :: others ∧
          elements (.char '[' :: mark :: rest) = .one (fun s => !accepts s) :: others := by
  have marks : negates mark = true := by simpa [negates] using negating
  have plain : ∀ s ∈ rest.head?, negates s = false := by
    intro s member
    rw [Option.mem_def.1 member] at unmarked
    simpa [negates] using unmarked
  rcases bracketAt_negating plain marks with ⟨unclosed, unclosed'⟩ | ⟨items, size, read, read'⟩
  · simp [closing?, unclosed, unclosed']
  · refine ⟨by simp [closing?, read, read'], fun place closes => ⟨getElem?_closing closes, ?_⟩⟩
    refine ⟨_, _, elements_bracket read, ?_⟩
    rw [elements_bracket read', List.drop_succ_cons]
    simp [Token.element]

/-- The bracket begins with a `]`, and holds a reversed range, a class without a known name and an escape. -/
theorem elements_negating_after_closing :
    let rest := Text.ofString "]z-a[:odd:]\\]--]**[x]"
    (Symbol.char '^' = .char '!' ∨ Symbol.char '^' = .char '^') ∧
      (rest.head? ≠ some (.char '!') ∧ rest.head? ≠ some (.char '^')) ∧ closing? rest = some 16 ∧
        closing? (.char '^' :: rest) = (closing? rest).map (· + 1) ∧
          ∀ place ∈ closing? rest, (.char '[' :: rest)[place]? = some (.char ']') ∧
            ∃ accepts others, elements (.char '[' :: rest) = .one accepts :: others ∧
              elements (.char '[' :: .char '^' :: rest) = .one (fun s => !accepts s) :: others := by
  intro rest
  have unmarked : rest.head? ≠ some (.char '!') ∧ rest.head? ≠ some (.char '^') := by decide
  exact ⟨.inr rfl, unmarked, by decide, elements_negating (.inr rfl) unmarked⟩

end ShellTemplate.Glob
