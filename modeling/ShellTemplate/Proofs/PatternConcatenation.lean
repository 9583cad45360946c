import ShellTemplate.Glob.Closed
import ShellTemplate.Proofs.PatternReading
import ShellTemplate.Proofs.Reaching

/-!
# Patterns one after the other

The tokens of a closed pattern are the same whatever text comes behind it (`tokens_append`), so a closed
pattern and another one after it match the values of the first with values of the second behind them.
-/

namespace ShellTemplate

namespace Text

/-- What is cut at a pattern is what stands before it, the pattern, and what stands after it. -/
theorem eq_append_of_cut? {text pattern before after : Text} (found : text.cut? pattern = some (before, after)) :
    text = before ++ pattern ++ after := by
  induction text generalizing before with
  | nil =>
    cases pattern with
    | nil =>
      cases found
      rfl
    | cons s pattern => simp [cut?, cutOnto] at found
  | cons s rest ih =>
    rw [cut?_cons] at found
    split at found
    · rename_i here
      cases found
      exact (List.prefix_iff_eq_append.1 (List.isPrefixOf_iff_prefix.1 here)).symm
    · obtain ⟨⟨front, back⟩, later, same⟩ := Option.map_eq_some_iff.1 found
      cases same
      rw [ih later]
      simp

theorem length_le_of_cut? {text pattern before after : Text} (found : text.cut? pattern = some (before, after)) :
    pattern.length ≤ text.length := by
  rw [eq_append_of_cut? found]
  simp only [List.length_append]
  omega

/-- The first occurrence of a pattern stays the first when the text goes on. -/
theorem cut?_append {text pattern before after : Text} (found : text.cut? pattern = some (before, after)) (more : Text) :
    (text ++ more).cut? pattern = some (before, after ++ more) := by
  induction text generalizing before with
  | nil =>
    have short := length_le_of_cut? found
    obtain rfl : pattern = [] := List.eq_nil_of_length_eq_zero (Nat.le_zero.1 short)
    cases found
    cases more <;> simp [cut?, cutOnto]
  | cons s rest ih =>
    have short := length_le_of_cut? found
    rw [cut?_cons] at found
    rw [List.cons_append, cut?_cons]
    by_cases here : pattern.isPrefixOf (s :: rest) = true
    · have longer : pattern.isPrefixOf (s :: (rest ++ more)) = true := by
        rw [List.isPrefixOf_iff_prefix] at here ⊢
        exact here.trans (List.prefix_append (s :: rest) more)
      rw [if_pos here] at found
      cases found
      rw [if_pos longer, ← List.cons_append, List.drop_append_of_le_length short]
    · have shorter : ¬ pattern.isPrefixOf (s :: (rest ++ more)) = true := by
        rw [List.isPrefixOf_iff_prefix] at here ⊢
        intro longer
        exact here (List.prefix_of_prefix_length_le longer (List.prefix_append (s :: rest) more) short)
      rw [if_neg here] at found
      obtain ⟨⟨front, back⟩, later, same⟩ := Option.map_eq_some_iff.1 found
      cases same
      rw [if_neg shorter, ih later]
      rfl

end Text

namespace Glob

section
variable {s : Symbol} {rest : Text}

theorem itemsClosed_drop (first : Bool) (skip : Nat) (text : Text) :
    itemsClosed first skip text = itemsClosed first 0 (text.drop skip) := by
  induction text generalizing skip with
  | nil => simp [itemsClosed]
  | cons s rest ih =>
    cases skip with
    | zero => rfl
    | succ skip => rw [itemsClosed, ih, List.drop_succ_cons]

theorem itemsClosed_cons {first : Bool} (inside : s = .char ']' → first = true) :
    itemsClosed first 0 (s :: rest) = true ↔
      (beginsClass s rest = true → (className? s rest).isSome = true) ∧
        itemsClosed false 0 (rest.drop (itemAt s rest).2) = true := by
  rw [itemsClosed, if_neg (not_closing inside), itemsClosed_drop false, Bool.and_eq_true, Bool.or_eq_true, Bool.not_eq_true']
  cases beginsClass s rest <;> simp

theorem tokensClosed_drop (skip : Nat) (text : Text) : tokensClosed skip text = tokensClosed 0 (text.drop skip) := by
  induction text generalizing skip with
  | nil => simp [tokensClosed]
  | cons s rest ih =>
    cases skip with
    | zero => rfl
    | succ skip => rw [tokensClosed, ih, List.drop_succ_cons]

theorem isClosed_cons :
    isClosed (s :: rest) = true ↔ tokenClosed s rest = true ∧ isClosed (rest.drop (tokenAt s rest).2) = true := by
  rw [isClosed, tokensClosed, tokensClosed_drop, Bool.and_eq_true]
  rfl

/-- A bracket is closed by a `]`. -/
theorem bracket_mem_of_itemsClosed {first : Bool} {text : Text} (closed : itemsClosed first 0 text = true) :
    .char ']' ∈ text := by
  induction text using Text.passInduction generalizing first with
  | ended => cases closed
  | step s rest ih =>
    by_cases closing : s = .char ']'
    · simp [closing]
    · have later := ((itemsClosed_cons fun same => absurd same closing).1 closed).2
      exact List.mem_cons_of_mem _ (List.mem_of_mem_drop (ih _ later))

theorem symbolItem_append (closing : .char ']' ∈ rest) (more : Text) : symbolItem s (rest ++ more) = symbolItem s rest := by
  obtain ⟨t, tail, rfl⟩ := List.exists_cons_of_ne_nil (List.ne_nil_of_mem closing)
  by_cases dash : t = .char '-'
  · subst dash
    cases tail with
    | nil => simp at closing
    | cons high tail => rfl
  · have plain : ∀ tail, (t :: tail).head? ≠ some (.char '-') := by simpa using dash
    rw [List.cons_append, symbolItem_plain (plain _), symbolItem_plain (plain _)]

theorem className?_append {name : Text} (found : className? s rest = some name) (more : Text) :
    className? s (rest ++ more) = some name := by
  unfold className? at found
  split at found
  · rename_i inner
    obtain ⟨⟨front, back⟩, cut, rfl⟩ := Option.map_eq_some_iff.1 found
    simp [className?, Text.cut?_append cut more]
  · cases found

theorem className?_of_not_beginsClass (plain : beginsClass s rest = false) : className? s rest = none := by
  unfold className?
  split
  · simp [beginsClass] at plain
  · rfl

/-- An item is settled by the symbols up to a `]` behind it, if it is no class that is never closed. -/
theorem itemAt_append (settled : beginsClass s rest = true → (className? s rest).isSome = true)
    (closing : .char ']' ∈ rest.drop (itemAt s rest).2) (more : Text) : itemAt s (rest ++ more) = itemAt s rest := by
  cases begins : beginsClass s rest with
  | true =>
    obtain ⟨name, found⟩ := Option.isSome_iff_exists.1 (settled begins)
    rw [itemAt_class found, itemAt_class (className?_append found more)]
  | false =>
    obtain ⟨t, tail, rfl⟩ := List.exists_cons_of_ne_nil (List.ne_nil_of_mem (List.mem_of_mem_drop closing))
    by_cases escape : s = .char '\\'
    · subst escape
      rw [itemAt_escape, List.drop_succ_cons] at closing
      rw [List.cons_append, itemAt_escape, itemAt_escape, symbolItem_append (List.mem_of_mem_drop closing)]
    · have begins' : beginsClass s (t :: tail ++ more) = false := begins
      rw [itemAt_symbol escape (className?_of_not_beginsClass begins), itemAt_symbol escape (className?_of_not_beginsClass begins'),
        symbolItem_append (List.mem_of_mem_drop closing)]

/-- The items of a closed bracket are the same whatever comes behind it. -/
theorem itemsIn_append {first : Bool} {text : Text} (closed : itemsClosed first 0 text = true) (more : Text) :
    itemsIn first (text ++ more) = itemsIn first text ∧ ∃ items size, itemsIn first text = some (items, size) ∧ size ≤ text.length := by
  induction text using Text.passInduction generalizing first with
  | ended => cases closed
  | step s rest ih =>
    rcases closes_or_inside s first with ⟨rfl, rfl⟩ | inside
    · exact ⟨by simp, [], 1, by simp, by simp⟩
    · obtain ⟨settled, later⟩ := (itemsClosed_cons inside).1 closed
      have behind := bracket_mem_of_itemsClosed later
      have fits : (itemAt s rest).2 < rest.length := by
        have short := List.length_pos_of_mem behind
        rw [List.length_drop] at short
        omega
      obtain ⟨same, items, size, read, short⟩ := ih _ later
      rw [List.length_drop] at short
      rw [List.cons_append, itemsIn_cons inside, itemsIn_cons inside, itemAt_append settled behind,
        List.drop_append_of_le_length (Nat.le_of_lt fits), same, read]
      refine ⟨rfl, _, _, rfl, ?_⟩
      simp only [List.length_cons]
      omega

theorem bracketAt_append (closed : bracketClosed rest = true) (more : Text) :
    bracketAt (rest ++ more) = bracketAt rest ∧ ∃ token size, bracketAt rest = some (token, size) ∧ size ≤ rest.length := by
  cases rest with
  | nil => cases closed
  | cons s rest =>
    rw [bracketClosed] at closed
    cases negated : negates s with
    | true =>
      rw [if_pos negated] at closed
      obtain ⟨same, items, size, read, short⟩ := itemsIn_append closed more
      rw [List.cons_append, bracketAt_negated negated, bracketAt_negated negated, same, read]
      refine ⟨rfl, _, _, rfl, ?_⟩
      simp only [List.length_cons]
      omega
    | false =>
      rw [if_neg (by simp [negated])] at closed
      obtain ⟨same, items, size, read, short⟩ := itemsIn_append closed more
      rw [List.cons_append] at same
      rw [List.cons_append, bracketAt_plain negated, bracketAt_plain negated, same, read]
      exact ⟨rfl, _, _, rfl, short⟩

theorem tokenAt_append (closed : tokenClosed s rest = true) (more : Text) :
    tokenAt s (rest ++ more) = tokenAt s rest ∧ (tokenAt s rest).2 ≤ rest.length := by
  by_cases escape : s = .char '\\'
  · subst escape
    cases rest with
    | nil => cases closed
    | cons t rest => exact ⟨rfl, Nat.succ_le_succ (Nat.zero_le _)⟩
  · by_cases opens : s = .char '['
    · subst opens
      obtain ⟨same, token, size, read, short⟩ := bracketAt_append closed more
      rw [tokenAt_bracket (same.trans read), tokenAt_bracket read]
      exact ⟨rfl, short⟩
    · obtain ⟨token, plain⟩ := tokenAt_plain escape opens
      rw [plain, plain]
      exact ⟨rfl, Nat.zero_le _⟩

end

/-- The tokens of a closed pattern are the same whatever comes behind it. -/
theorem tokens_append {front : Text} (closed : isClosed front = true) (back : Text) :
    tokens (front ++ back) = tokens front ++ tokens back := by
  induction front using Text.passInduction with
  | ended => rfl
  | step s rest ih =>
    obtain ⟨own, later⟩ := isClosed_cons.1 closed
    obtain ⟨same, fits⟩ := tokenAt_append own back
    rw [List.cons_append, tokens_cons, same, List.drop_append_of_le_length fits, ih _ later, tokens_cons, List.cons_append]

/-- A closed pattern with another one behind it matches what the first one matches with what the second
    one matches behind that. -/
theorem matchesPattern_append_iff {front : Text} (closed : isClosed front = true) (back value : Text) :
    value.matchesPattern (front ++ back) = true ↔
      ∃ u w, value = u ++ w ∧ u.matchesPattern front = true ∧ w.matchesPattern back = true := by
  rw [matchesPattern_iff, tokens_append closed, List.map_append, matches_append_iff]
  refine exists_congr fun u => exists_congr fun w => and_congr_right fun _ => ?_
  rw [matchesPattern_iff, matchesPattern_iff]

theorem matchesPattern_append_iff_after_bracket :
    let front := Text.ofString "*[[:x:]-\\]a-]\\["
    let back := Text.ofString "*:]"
    let value := Text.ofString "-[[:]"
    isClosed front = true ∧
      (value.matchesPattern (front ++ back) = true ↔
        ∃ u w, value = u ++ w ∧ u.matchesPattern front = true ∧ w.matchesPattern back = true) := by
  intro front back value
  have closed : isClosed front = true := by decide
  exact ⟨closed, matchesPattern_append_iff closed back value⟩

end Glob

end ShellTemplate
