import Mathlib.Data.List.Chain
import Mathlib.Data.List.Infix
import ShellTemplate.Proofs.Reaching

/-!
# Reachable positions and backtracking

One pass over the elements gives the same table as trying all pieces of every star on each leading part of a value
(`reachable_eq_backtrack`). A table is told by what it marks (`Marks.eq`), so whatever has the same meaning has the same
table, and neighbouring stars may be joined.
-/

namespace ShellTemplate.Glob

variable {α : Type}

theorem anyTail_iff {test : List α → Bool} {value : List α} :
    anyTail test value = true ↔ ∃ piece rest, value = piece ++ rest ∧ test rest = true := by
  induction value with
  | nil => simp [anyTail]
  | cons s value ih =>
    rw [anyTail, Bool.or_eq_true, ih]
    constructor
    · rintro (whole | ⟨piece, rest, rfl, passes⟩)
      · exact ⟨[], s :: value, rfl, whole⟩
      · exact ⟨s :: piece, rest, rfl, passes⟩
    · rintro ⟨piece, rest, split, passes⟩
      cases piece with
      | nil =>
        rw [List.nil_append] at split
        exact .inl (split ▸ passes)
      | cons t piece =>
        obtain ⟨rfl, tail⟩ := List.cons.inj split
        exact .inr ⟨piece, rest, tail, passes⟩

/-- Trying all pieces of every star finds out whether elements match a value. -/
theorem backtrack_iff {elements : List (Element α)} {value : List α} :
    backtrack elements value = true ↔ Matches elements value := by
  induction elements generalizing value with
  | nil => rw [backtrack, List.isEmpty_iff, matches_nil_iff]
  | cons element elements ih =>
    rw [matches_cons_iff]
    cases element with
    | star => simp only [backtrack, anyTail_iff, ih, Element.Takes, true_and]
    | one accepts =>
      cases value with
      | nil => simp [backtrack, Element.Takes]
      | cons s value =>
        rw [backtrack, Bool.and_eq_true, ih]
        constructor
        · rintro ⟨passes, tail⟩
          exact ⟨[s], value, rfl, ⟨s, rfl, passes⟩, tail⟩
        · rintro ⟨_, rest, split, ⟨t, rfl, passes⟩, tail⟩
          cases split
          exact ⟨passes, tail⟩

section
variable {table other : List Bool} {value : List α} {reached : List α → Prop}

/-- Tables that mark the same positions are the same. -/
theorem Marks.eq (marks : Marks table value reached) (others : Marks other value reached) : table = other := by
  refine List.ext_getElem (marks.length.trans others.length.symm) fun k inside inside' => ?_
  have le : k ≤ value.length := by
    rw [marks.length] at inside
    omega
  have same : table[k]? = some true ↔ other[k]? = some true := (marks.marked k le).trans (others.marked k le).symm
  rw [List.getElem?_eq_getElem inside, List.getElem?_eq_getElem inside', Option.some.injEq, Option.some.injEq] at same
  exact Bool.eq_iff_iff.2 same

theorem marks_inits {test : List α → Bool} (decides : ∀ v, test v = true ↔ reached v) :
    Marks (value.inits.map test) value reached := by
  refine ⟨by rw [List.length_map, List.length_inits], fun k le => ?_⟩
  have inside : k < value.inits.length := by
    rw [List.length_inits]
    omega
  rw [List.getElem?_map, List.getElem?_eq_getElem inside, List.getElem_inits, Option.map_some, Option.some.injEq, decides]

end

namespace Element

theorem head?_collapse (elements : List (Element α)) : (collapse elements).head?.any isStar = elements.head?.any isStar := by
  induction elements with
  | nil => rfl
  | cons element elements ih =>
    rw [collapse]
    split
    · rename_i stars
      rw [Bool.and_eq_true] at stars
      rw [ih, stars.2, List.head?_cons, Option.any_some, stars.1]
    · rfl

/-- Among joined elements no two neighbours are stars. -/
theorem isChain_collapse (elements : List (Element α)) :
    (collapse elements).IsChain fun a b => (a.isStar && b.isStar) = false := by
  induction elements with
  | nil => exact .nil
  | cons element elements ih =>
    rw [collapse]
    split
    · exact ih
    · rename_i apart
      refine List.isChain_cons.2 ⟨fun next first => ?_, ih⟩
      rw [← head?_collapse, first, Option.any_some] at apart
      exact Bool.not_eq_true _ ▸ apart

end Element

/-- The table of reachable positions has one entry for each leading part of a value, marked where that part can be cut into
    pieces, one for each element in order. It is the table that trying all pieces of every star on each leading part
    gives, and stays the same where neighbouring stars are joined, which leaves none. -/
theorem reachable_eq_backtrack (elements : List (Element α)) (value : List α) :
    (Element.reachable elements value).length = value.length + 1 ∧
      (∀ k, (Element.reachable elements value)[k]? = some true ↔ k ≤ value.length ∧
        ∃ pieces : List (List α), pieces.flatten = value.take k ∧ List.Forall₂ Element.Takes elements pieces) ∧
      Element.reachable elements value = value.inits.map (backtrack elements) ∧
      Element.reachable (Element.collapse elements) value = Element.reachable elements value ∧
      (Element.collapse elements).IsChain fun a b => (a.isStar && b.isStar) = false := by
  have marks := marks_reachable elements value
  refine ⟨marks.length, fun k => ?_, ?_, ?_, Element.isChain_collapse elements⟩
  · rw [← matches_iff_pieces]
    constructor
    · intro marked
      have inside : k < (Element.reachable elements value).length := (List.getElem?_eq_some_iff.1 marked).1
      have le : k ≤ value.length := by
        rw [marks.length] at inside
        omega
      exact ⟨le, (marks.marked k le).1 marked⟩
    · rintro ⟨le, matched⟩
      exact (marks.marked k le).2 matched
  · exact marks.eq (marks_inits fun v => backtrack_iff)
  · have joined := marks_reachable (Element.collapse elements) value
    exact (joined.congr fun v => matches_collapse).eq marks

end ShellTemplate.Glob
