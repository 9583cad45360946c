import ShellTemplate.Glob.Pattern

/-!
# Patterns one token at a time

The tokens of a pattern are its first token and those of the text behind it (`tokens_cons`), and the
items of a bracket are read in the same way (`itemsIn_cons`), so that later proofs never unfold the
accumulators of the readers.
-/

namespace ShellTemplate.Glob

theorem tokensOnto_eq (done : List Token) (skip : Nat) (text : Text) :
    tokensOnto done skip text = done.reverse ++ tokens (text.drop skip) := by
  induction text generalizing done skip with
  | nil => simp [tokens, tokensOnto]
  | cons s rest ih =>
    cases skip with
    | succ skip => rw [tokensOnto, ih, List.drop_succ_cons]
    | zero =>
      have onto : ∀ done, tokensOnto done 0 (s :: rest) = tokensOnto ((tokenAt s rest).1 :: done) (tokenAt s rest).2 rest :=
        fun _ => rfl
      rw [List.drop_zero, tokens, onto, onto, ih, ih [_]]
      simp

theorem tokens_cons (s : Symbol) (rest : Text) :
    tokens (s :: rest) = (tokenAt s rest).1 :: tokens (rest.drop (tokenAt s rest).2) := by
  have onto : tokens (s :: rest) = tokensOnto [(tokenAt s rest).1] (tokenAt s rest).2 rest := rfl
  rw [onto, tokensOnto_eq]
  rfl

theorem symbolItem_plain {rest : Text} (plain : rest.head? ≠ some (.char '-')) (s : Symbol) :
    symbolItem s rest = (.symbol s, 0) := by
  unfold symbolItem
  split
  · exact absurd rfl plain
  · rfl

section
variable {s : Symbol} {rest : Text}

theorem itemAt_class {name : Text} (found : className? s rest = some name) :
    itemAt s rest = ((NamedClass.ofName? name).map .named, name.length + 3) := by
  simp [itemAt, found]

theorem itemAt_escape (t : Symbol) (rest : Text) :
    itemAt (.char '\\') (t :: rest) = (some (symbolItem t rest).1, (symbolItem t rest).2 + 1) := rfl

theorem itemAt_symbol (other : s ≠ .char '\\') (none : className? s rest = none) :
    itemAt s rest = (some (symbolItem s rest).1, (symbolItem s rest).2) := by
  simp only [itemAt, none]
  split
  · exact absurd rfl other
  · rfl

end

/-- The items of a bracket up to the `]` that closes it, and the number of symbols they take with it. -/
def itemsIn (first : Bool) (text : Text) : Option (List Item × Nat) :=
  readItems [] first 0 0 text

/-- A symbol closes the bracket or is in it. -/
theorem closes_or_inside (s : Symbol) (first : Bool) : s = .char ']' ∧ first = false ∨ (s = .char ']' → first = true) := by
  cases first with
  | true => exact .inr fun _ => rfl
  | false =>
    by_cases closing : s = .char ']'
    · exact .inl ⟨closing, rfl⟩
    · exact .inr fun same => absurd same closing

theorem not_closing {s : Symbol} {first : Bool} (inside : s = .char ']' → first = true) :
    ¬ (s = .char ']' && !first) = true :=
  Symbol.not_eq_and fun same => by simp [inside same]

theorem readItems_item (done : List Item) {first : Bool} (size : Nat) {s : Symbol} (inside : s = .char ']' → first = true)
    (rest : Text) :
    readItems done first size 0 (s :: rest) =
      readItems ((itemAt s rest).1.toList ++ done) false (size + 1) (itemAt s rest).2 rest := by
  rw [readItems, if_neg (not_closing inside)]

theorem readItems_eq (done : List Item) (first : Bool) (size skip : Nat) (text : Text) :
    readItems done first size skip text =
      (itemsIn first (text.drop skip)).map fun parts => (done.reverse ++ parts.1, size + skip + parts.2) := by
  induction text generalizing done first size skip with
  | nil => simp [itemsIn, readItems]
  | cons s rest ih =>
    cases skip with
    | succ skip => rw [readItems, ih, List.drop_succ_cons, Nat.add_right_comm, Nat.add_assoc]
    | zero =>
      rw [List.drop_zero, itemsIn]
      rcases closes_or_inside s first with ⟨rfl, rfl⟩ | inside
      · simp [readItems]
      · rw [readItems_item done size inside, readItems_item [] 0 inside, ih, ih (_ ++ [])]
        cases (itemAt s rest).1 <;> simp [Function.comp_def, Nat.add_assoc]

@[simp] theorem itemsIn_closing (rest : Text) : itemsIn false (.char ']' :: rest) = some ([], 1) := by
  simp [itemsIn, readItems]

theorem itemsIn_cons {first : Bool} {s : Symbol} (inside : s = .char ']' → first = true) (rest : Text) :
    itemsIn first (s :: rest) =
      (itemsIn false (rest.drop (itemAt s rest).2)).map fun parts =>
        ((itemAt s rest).1.toList ++ parts.1, 1 + (itemAt s rest).2 + parts.2) := by
  rw [itemsIn, readItems_item [] 0 inside, readItems_eq]
  cases (itemAt s rest).1 <;> simp

theorem bracketAt_negated {s : Symbol} (negated : negates s = true) (rest : Text) :
    bracketAt (s :: rest) = (itemsIn true rest).map fun parts => (.bracket true parts.1, 1 + parts.2) := by
  rw [bracketAt, if_pos negated, readItems_eq]
  simp [Function.comp_def]

theorem bracketAt_plain {s : Symbol} (plain : negates s = false) (rest : Text) :
    bracketAt (s :: rest) = (itemsIn true (s :: rest)).map fun parts => (.bracket false parts.1, parts.2) := by
  rw [bracketAt, if_neg (by simp [plain])]
  rfl

theorem tokenAt_bracket {rest : Text} {token : Token} {size : Nat} (bracket : bracketAt rest = some (token, size)) :
    tokenAt (.char '[') rest = (token, size) := by
  simp [tokenAt, bracket]

/-- A symbol that begins neither an escape nor a bracket is a token by itself. -/
theorem tokenAt_plain {s : Symbol} (escape : s ≠ .char '\\') (opens : s ≠ .char '[') :
    ∃ token, ∀ rest, tokenAt s rest = (token, 0) := by
  refine ⟨(tokenAt s []).1, fun rest => ?_⟩
  unfold tokenAt
  split <;> simp_all

end ShellTemplate.Glob
