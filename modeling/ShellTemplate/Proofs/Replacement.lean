import Mathlib.Order.Bounds.Basic
import ShellTemplate.Template.Operation

/-!
# Replacing literal text

A text is cut at the leftmost occurrence of a pattern (`cut?_leftmost`). Replacing all occurrences goes on behind
that one (`replaceAll_cut`) and never looks at what it has written, so that a symbol that is new to a text
marks exactly the places that were replaced (`replaceAll_replaceAll`).
-/

namespace ShellTemplate

namespace Text

/-- The places at which a pattern occurs in a text. -/
def occurrences (text pattern : Text) : Set Nat :=
  {i | pattern <+: text.drop i}

theorem infix_of_mem_occurrences {text pattern : Text} {i : Nat} (member : i ∈ text.occurrences pattern) : pattern <:+: text :=
  List.IsInfix.trans (List.IsPrefix.isInfix member) (List.drop_suffix i text).isInfix

section
variable {pattern : Text} {s : Symbol} {rest : Text}

theorem zero_mem_occurrences {text : Text} : 0 ∈ text.occurrences pattern ↔ pattern <+: text := Iff.rfl

theorem succ_mem_occurrences {i : Nat} : i + 1 ∈ occurrences (s :: rest) pattern ↔ i ∈ rest.occurrences pattern := Iff.rfl

/-- Where a pattern does not begin a text, its first place is the first one behind the first symbol. -/
theorem isLeast_occurrences_cons (absent : ¬ pattern <+: s :: rest) {i : Nat} (least : IsLeast (rest.occurrences pattern) i) :
    IsLeast (occurrences (s :: rest) pattern) (i + 1) := by
  refine ⟨succ_mem_occurrences.2 least.1, fun j member => ?_⟩
  cases j with
  | zero => exact absurd (zero_mem_occurrences.1 member) absent
  | succ j => exact Nat.succ_le_succ (least.2 (succ_mem_occurrences.1 member))

end

/-- A text is cut at the first place at which the pattern occurs, if there is one. -/
theorem cut?_leftmost (text pattern : Text) :
    (∃ i, IsLeast (text.occurrences pattern) i ∧ text.cut? pattern = some (text.take i, text.drop (i + pattern.length))) ∨
      ¬ pattern <:+: text ∧ text.cut? pattern = none := by
  induction text with
  | nil =>
    cases pattern with
    | nil => exact .inl ⟨0, ⟨List.prefix_rfl, fun _ _ => Nat.zero_le _⟩, rfl⟩
    | cons t more => exact .inr ⟨by simp, rfl⟩
  | cons s rest ih =>
    rw [cut?_cons]
    by_cases begins : pattern <+: s :: rest
    · rw [if_pos (List.isPrefixOf_iff_prefix.2 begins)]
      exact .inl ⟨0, ⟨begins, fun _ _ => Nat.zero_le _⟩, by rw [Nat.zero_add, List.take_zero]⟩
    · rw [if_neg (mt List.isPrefixOf_iff_prefix.1 begins)]
      rcases ih with ⟨i, least, cut⟩ | ⟨absent, uncut⟩
      · refine .inl ⟨i + 1, isLeast_occurrences_cons begins least, ?_⟩
        rw [cut, Nat.add_right_comm, List.drop_succ_cons]
        rfl
      · refine .inr ⟨fun occurs => ?_, by rw [uncut]; rfl⟩
        rcases List.infix_cons_iff.1 occurs with here | later
        · exact begins here
        · exact absent later

section
variable {pattern : Text} (nonempty : pattern ≠ [])
include nonempty

/-- The pattern begins a text and is replaced there, or the first symbol of the text stays. -/
theorem replaceAll_step (replacement : Text) (s : Symbol) (rest : Text) :
    (∃ n, s :: rest = pattern ++ rest.drop n ∧
        replaceAll (s :: rest) pattern replacement = replacement ++ replaceAll (rest.drop n) pattern replacement) ∨
      replaceAll (s :: rest) pattern replacement = s :: replaceAll rest pattern replacement := by
  rw [replaceAll_cons nonempty]
  by_cases begins : pattern.isPrefixOf (s :: rest) = true
  · obtain ⟨t, more, rfl⟩ := List.exists_cons_of_ne_nil nonempty
    have split := List.prefix_iff_eq_append.1 (List.isPrefixOf_iff_prefix.1 begins)
    exact .inl ⟨more.length, split.symm, if_pos begins⟩
  · exact .inr (if_neg begins)

/-- Replacing all occurrences replaces the first one, and goes on behind it. -/
theorem replaceAll_cut (text replacement : Text) :
    text.replaceAll pattern replacement =
      match text.cut? pattern with
      | some (before, after) => before ++ replacement ++ after.replaceAll pattern replacement
      | none => text := by
  induction text with
  | nil =>
    have uncut : cut? [] pattern = none := by simp [cut?, cutOnto, nonempty]
    rw [replaceAll_nil, uncut]
  | cons s rest ih =>
    rw [replaceAll_cons nonempty, cut?_cons]
    by_cases begins : pattern.isPrefixOf (s :: rest) = true
    · obtain ⟨t, more, rfl⟩ := List.exists_cons_of_ne_nil nonempty
      simp [begins]
    · rw [if_neg begins, if_neg begins, ih]
      cases cut? rest pattern <;> rfl

/-- Replacing at the first place leaves the rest behind the pattern to be replaced by itself. -/
theorem replace_of_isLeast {text : Text} {i : Nat} (least : IsLeast (text.occurrences pattern) i) (replacement : Text) :
    text.replaceFirst pattern replacement = text.take i ++ replacement ++ text.drop (i + pattern.length) ∧
      text.replaceAll pattern replacement =
        text.take i ++ replacement ++ replaceAll (text.drop (i + pattern.length)) pattern replacement := by
  rcases cut?_leftmost text pattern with ⟨j, least', cut⟩ | ⟨absent, -⟩
  · obtain rfl := least'.unique least
    rw [replaceAll_cut nonempty, replaceFirst, if_neg (by simpa using nonempty), cut]
    exact ⟨rfl, rfl⟩
  · exact absurd (infix_of_mem_occurrences least.1) absent

end

theorem replace_of_absent {text pattern : Text} (absent : pattern = [] ∨ ¬ pattern <:+: text) (replacement : Text) :
    text.replaceFirst pattern replacement = text ∧ text.replaceAll pattern replacement = text := by
  by_cases empty : pattern = []
  · subst empty
    exact ⟨rfl, rfl⟩
  · rcases cut?_leftmost text pattern with ⟨i, least, -⟩ | ⟨-, uncut⟩
    · exact absurd (infix_of_mem_occurrences least.1) (absent.resolve_left empty)
    · rw [replaceAll_cut empty, replaceFirst, if_neg (by simpa using empty), uncut]
      exact ⟨rfl, rfl⟩

theorem replaceAll_self (text pattern : Text) : text.replaceAll pattern pattern = text := by
  by_cases empty : pattern = []
  · exact (replace_of_absent (.inl empty) pattern).2
  · induction text using passInduction with
    | ended => exact replaceAll_nil pattern pattern
    | step s rest ih =>
      rcases replaceAll_step empty pattern s rest with ⟨n, split, replaced⟩ | kept
      · rw [replaced, ih, ← split]
      · exact kept.trans (congrArg (s :: ·) (ih 0))

/-- A symbol that is not in a text marks the places at which a pattern was replaced by it. -/
theorem replaceAll_replaceAll {text : Text} {c : Symbol} (fresh : c ∉ text) (pattern : Text) :
    (text.replaceAll pattern [c]).replaceAll [c] pattern = text := by
  have marks : [c] ≠ [] := List.cons_ne_nil c []
  by_cases empty : pattern = []
  · have absent : ¬ [c] <:+: text := fun occurs => fresh (occurs.subset List.mem_cons_self)
    rw [(replace_of_absent (.inl empty) [c]).2, (replace_of_absent (.inr absent) pattern).2]
  · induction text using passInduction with
    | ended => rw [replaceAll_nil, replaceAll_nil]
    | step s rest ih =>
      obtain ⟨other, others⟩ := not_or.1 (mt List.mem_cons.2 fresh)
      have behind : ∀ n, replaceAll (replaceAll (rest.drop n) pattern [c]) [c] pattern = rest.drop n :=
        fun n => ih n fun member => others (List.mem_of_mem_drop member)
      rcases replaceAll_step empty [c] s rest with ⟨n, split, replaced⟩ | kept
      · rw [replaced, List.singleton_append, replaceAll_cons marks, if_pos (by simp [List.isPrefixOf])]
        exact (congrArg (pattern ++ ·) (behind n)).trans split.symm
      · rw [kept, replaceAll_cons marks, if_neg (by simpa [List.isPrefixOf] using other)]
        exact congrArg (s :: ·) (behind 0)

end Text

/-- Replacement leaves a value as it is where the pattern is empty or does not occur. Else it takes place at the
    leftmost occurrence, and replacing all goes on in what stands behind that one. So a pattern that replaces
    itself changes nothing, and what is replaced by a symbol that is new to the value can be put back. -/
theorem Operator.apply_replace_leftmost (value pattern replacement : Text) :
    (pattern = [] ∨ ¬ pattern <:+: value → (Operator.replace .first pattern replacement).apply value = value ∧
        (Operator.replace .all pattern replacement).apply value = value) ∧
      (pattern ≠ [] → pattern <:+: value → ∃ i, IsLeast (value.occurrences pattern) i ∧
        (Operator.replace .first pattern replacement).apply value =
          value.take i ++ replacement ++ value.drop (i + pattern.length) ∧
        (Operator.replace .all pattern replacement).apply value =
          value.take i ++ replacement ++
            (Operator.replace .all pattern replacement).apply (value.drop (i + pattern.length))) ∧
      (Operator.replace .all pattern pattern).apply value = value ∧
      ∀ c, c ∉ value →
        (Operator.replace .all [c] pattern).apply ((Operator.replace .all pattern [c]).apply value) = value := by
  refine ⟨fun absent => Text.replace_of_absent absent replacement, ?_, Text.replaceAll_self value pattern, ?_⟩
  · intro nonempty occurs
    rcases Text.cut?_leftmost value pattern with ⟨i, least, -⟩ | ⟨absent, -⟩
    · exact ⟨i, least, Text.replace_of_isLeast nonempty least replacement⟩
    · exact absurd occurs absent
  · intro c fresh
    exact Text.replaceAll_replaceAll fresh pattern

example : (Operator.replace .all (Text.ofString "ab") []).apply (Text.ofString "aabbab") = Text.ofString "ab" := by decide

end ShellTemplate
