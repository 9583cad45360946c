import Mathlib.Data.List.Forall2
import ShellTemplate.Glob.Meaning
import ShellTemplate.Glob.Pattern

/-!
# Reachable positions and matching

The table of the positions that elements can reach marks those in front of which the value matches
(`getElem?_reachable`), so the table decides what it means to match (`matchesPattern_iff`).
-/

namespace ShellTemplate.Glob

variable {α : Type}

section
variable {element : Element α} {elements : List (Element α)} {value : List α}

theorem matches_nil_iff : Matches [] value ↔ value = [] := by
  constructor
  · intro matched
    cases matched
    rfl
  · rintro rfl
    exact .nil

theorem matches_cons_iff :
    Matches (element :: elements) value ↔
      ∃ piece rest, value = piece ++ rest ∧ element.Takes piece ∧ Matches elements rest := by
  constructor
  · intro matched
    cases matched with
    | star piece tail => exact ⟨piece, _, rfl, trivial, tail⟩
    | one passes tail => exact ⟨[_], _, rfl, ⟨_, rfl, passes⟩, tail⟩
  · rintro ⟨piece, rest, rfl, taken, tail⟩
    cases element with
    | star => exact .star piece tail
    | one accepts =>
      obtain ⟨s, rfl, passes⟩ := taken
      exact .one passes tail

/-- Elements one after the other match values one after the other. -/
theorem matches_append_iff {front back : List (Element α)} :
    Matches (front ++ back) value ↔ ∃ u w, value = u ++ w ∧ Matches front u ∧ Matches back w := by
  induction front generalizing value with
  | nil =>
    simp only [List.nil_append, matches_nil_iff]
    constructor
    · intro matched
      exact ⟨[], value, rfl, rfl, matched⟩
    · rintro ⟨_, w, rfl, rfl, matched⟩
      exact matched
  | cons element front ih =>
    simp only [List.cons_append, matches_cons_iff, ih]
    constructor
    · rintro ⟨piece, _, rfl, taken, u, w, rfl, first, second⟩
      exact ⟨piece ++ u, w, by rw [List.append_assoc], ⟨piece, u, rfl, taken, first⟩, second⟩
    · rintro ⟨_, w, rfl, ⟨piece, u, rfl, taken, first⟩, second⟩
      exact ⟨piece, u ++ w, by rw [List.append_assoc], taken, u, w, rfl, first, second⟩

/-- To match is to be cut into pieces, one for each element. -/
theorem matches_iff_pieces :
    Matches elements value ↔ ∃ pieces : List (List α), pieces.flatten = value ∧ List.Forall₂ Element.Takes elements pieces := by
  induction elements generalizing value with
  | nil =>
    rw [matches_nil_iff]
    constructor
    · rintro rfl
      exact ⟨[], rfl, .nil⟩
    · rintro ⟨pieces, rfl, taken⟩
      cases taken
      rfl
  | cons element elements ih =>
    simp only [matches_cons_iff, ih]
    constructor
    · rintro ⟨piece, _, rfl, taken, pieces, rfl, others⟩
      exact ⟨piece :: pieces, rfl, .cons taken others⟩
    · rintro ⟨_, rfl, taken⟩
      cases taken with
      | cons own others => exact ⟨_, _, rfl, own, _, rfl, others⟩

/-- A second star takes nothing that the first one could not. -/
theorem matches_star_star : Matches (.star :: .star :: elements) value ↔ Matches (.star :: elements) value := by
  simp only [matches_cons_iff]
  constructor
  · rintro ⟨first, _, rfl, -, second, rest, rfl, -, tail⟩
    exact ⟨first ++ second, rest, by rw [List.append_assoc], trivial, tail⟩
  · rintro ⟨piece, rest, rfl, -, tail⟩
    exact ⟨piece, rest, rfl, trivial, [], rest, rfl, trivial, tail⟩

theorem matches_collapse : Matches (Element.collapse elements) value ↔ Matches elements value := by
  induction elements generalizing value with
  | nil => rfl
  | cons element elements ih =>
    rw [Element.collapse]
    split
    · rename_i stars
      rw [ih]
      cases elements with
      | nil => simp at stars
      | cons next rest =>
        cases element <;> cases next <;> simp [Element.isStar] at stars
        exact matches_star_star.symm
    · simp only [matches_cons_iff, ih]

end

/-- Whether a table has an entry for every position of a value, marked where what comes before it is
    `reached`. -/
structure Marks (table : List Bool) (value : List α) (reached : List α → Prop) : Prop where
  length : table.length = value.length + 1
  marked : ∀ k ≤ value.length, table[k]? = some true ↔ reached (value.take k)

namespace Element

theorem length_spread (seen : Bool) (table : List Bool) : (spread seen table).length = table.length := by
  induction table generalizing seen with
  | nil => rfl
  | cons entry table ih => simp [spread, ih]

theorem getElem?_spread {seen : Bool} {table : List Bool} {k : Nat} (inside : k < table.length) :
    (spread seen table)[k]? = some true ↔ seen = true ∨ ∃ j ≤ k, table[j]? = some true := by
  induction table generalizing seen k with
  | nil => cases inside
  | cons entry table ih =>
    cases k with
    | zero => simp [spread]
    | succ k =>
      rw [spread, List.getElem?_cons_succ, ih (Nat.lt_of_succ_lt_succ inside), Bool.or_eq_true, or_assoc]
      refine or_congr_right ?_
      constructor
      · rintro (here | ⟨j, le, later⟩)
        · exact ⟨0, Nat.zero_le _, by simpa using here⟩
        · exact ⟨j + 1, Nat.succ_le_succ le, by simpa using later⟩
      · rintro ⟨j, le, marked⟩
        cases j with
        | zero => exact .inl (by simpa using marked)
        | succ j => exact .inr ⟨j, Nat.le_of_succ_le_succ le, by simpa using marked⟩

end Element

section
variable {table : List Bool} {value : List α} {reached : List α → Prop}

/-- A star reaches every position from those before it. -/
theorem Marks.spread (marks : Marks table value reached) :
    Marks (Element.spread false table) value fun v => ∃ front piece, v = front ++ piece ∧ reached front := by
  refine ⟨(Element.length_spread false table).trans marks.length, ?_⟩
  intro k le
  have inside : k < table.length := by
    rw [marks.length]
    omega
  rw [Element.getElem?_spread inside]
  constructor
  · rintro (seen | ⟨j, before, marked⟩)
    · cases seen
    · refine ⟨value.take j, (value.take k).drop j, ?_, (marks.marked j (Nat.le_trans before le)).1 marked⟩
      have front : (value.take k).take j = value.take j := by rw [List.take_take, Nat.min_eq_left before]
      rw [← front, List.take_append_drop]
  · rintro ⟨front, piece, split, here⟩
    have size := congrArg List.length split
    rw [List.length_take, Nat.min_eq_left le, List.length_append] at size
    have start : value.take front.length = front := by
      have cut : (value.take k).take front.length = front := by rw [split, List.take_left]
      rwa [List.take_take, Nat.min_eq_left (by omega)] at cut
    exact .inr ⟨front.length, by omega, (marks.marked _ (by omega)).2 (by rwa [start])⟩

/-- A test reaches a position from the one before it. -/
theorem Marks.shift (marks : Marks table value reached) (accepts : α → Bool) :
    Marks (Element.shift accepts value table) value fun v => ∃ front s, v = front ++ [s] ∧ reached front ∧ accepts s = true := by
  refine ⟨by simp [Element.shift, marks.length], ?_⟩
  intro k le
  cases k with
  | zero => simp [Element.shift]
  | succ k =>
    have here : value[k]? = some value[k] := List.getElem?_eq_getElem le
    have last : value.take (k + 1) = value.take k ++ [value[k]] := by rw [List.take_add_one, here, Option.toList_some]
    have entry := marks.marked k (Nat.le_of_succ_le le)
    have bound : k < table.length := by
      rw [marks.length]
      omega
    rw [List.getElem?_eq_getElem bound, Option.some.injEq] at entry
    rw [Element.shift, List.getElem?_cons_succ, List.getElem?_zipWith, here, List.getElem?_eq_getElem bound]
    simp only [Option.some.injEq, Bool.and_eq_true, entry, last]
    constructor
    · rintro ⟨before, passes⟩
      exact ⟨value.take k, value[k], rfl, before, passes⟩
    · rintro ⟨front, s, split, before, passes⟩
      obtain ⟨same, single⟩ := List.append_inj' split rfl
      cases single
      exact ⟨same ▸ before, passes⟩

theorem Marks.congr {reached' : List α → Prop} (marks : Marks table value reached) (same : ∀ v, reached v ↔ reached' v) :
    Marks table value reached' :=
  ⟨marks.length, fun k le => (marks.marked k le).trans (same _)⟩

theorem Marks.advance (marks : Marks table value reached) (element : Element α) :
    Marks (Element.advance value table element) value
      fun v => ∃ front piece, v = front ++ piece ∧ reached front ∧ element.Takes piece := by
  cases element with
  | star => exact marks.spread.congr (by simp [Element.Takes])
  | one accepts =>
    refine (marks.shift accepts).congr fun v => ?_
    constructor
    · rintro ⟨front, s, split, before, passes⟩
      exact ⟨front, [s], split, before, s, rfl, passes⟩
    · rintro ⟨front, _, split, before, s, rfl, passes⟩
      exact ⟨front, s, split, before, passes⟩

/-- The elements lead on from what is reached before them. -/
theorem Marks.foldl (marks : Marks table value reached) (elements : List (Element α)) :
    Marks (elements.foldl (Element.advance value) table) value
      fun v => ∃ front back, v = front ++ back ∧ reached front ∧ Matches elements back := by
  induction elements generalizing table reached with
  | nil => exact marks.congr (by simp [matches_nil_iff])
  | cons element elements ih =>
    refine (ih (marks.advance element)).congr fun v => ?_
    simp only [matches_cons_iff]
    constructor
    · rintro ⟨_, back, rfl, ⟨front, piece, rfl, before, taken⟩, tail⟩
      exact ⟨front, piece ++ back, by rw [List.append_assoc], before, piece, back, rfl, taken, tail⟩
    · rintro ⟨front, _, rfl, before, piece, back, rfl, taken, tail⟩
      exact ⟨front ++ piece, back, by rw [List.append_assoc], ⟨front, piece, rfl, before, taken⟩, tail⟩

end

/-- At first nothing but the beginning of a value is reached. -/
theorem marks_start (value : List α) : Marks (true :: value.map fun _ => false) value (· = []) := by
  refine ⟨by simp, ?_⟩
  intro k le
  cases k with
  | zero => simp
  | succ k =>
    have nonempty : value ≠ [] := List.ne_nil_of_length_pos (Nat.zero_lt_of_lt le)
    simp [nonempty, List.getElem?_replicate]

theorem marks_reachable (elements : List (Element α)) (value : List α) :
    Marks (Element.reachable elements value) value (Matches elements) := by
  refine ((marks_start value).foldl elements).congr fun v => ?_
  constructor
  · rintro ⟨_, back, rfl, rfl, matched⟩
    exact matched
  · intro matched
    exact ⟨[], v, rfl, rfl, matched⟩

/-- An entry of the table is marked where the elements match what comes before it. -/
theorem getElem?_reachable {elements : List (Element α)} {value : List α} {k : Nat} (le : k ≤ value.length) :
    (Element.reachable elements value)[k]? = some true ↔ Matches elements (value.take k) :=
  (marks_reachable elements value).marked k le

theorem matchAll_iff {elements : List (Element α)} {value : List α} :
    Element.matchAll elements value = true ↔ Matches elements value := by
  have last : (Element.reachable elements value)[value.length]? = some true ↔ Matches elements (value.take value.length) :=
    getElem?_reachable (Nat.le_refl _)
  rw [List.take_length] at last
  rw [← last, Element.matchAll, List.getLastD_eq_getLast?, List.getLast?_eq_getElem?,
    (marks_reachable elements value).length, Nat.add_sub_cancel]
  cases (Element.reachable elements value)[value.length]? <;> simp

/-- A pattern as a whole is matched as its tokens are, one after the other. -/
theorem matchesPattern_iff {value pattern : Text} :
    value.matchesPattern pattern = true ↔ Matches ((tokens pattern).map Token.element) value := by
  rw [Text.matchesPattern, matchAll_iff, elements, matches_collapse]

end ShellTemplate.Glob
