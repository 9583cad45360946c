import Mathlib.Order.Bounds.Defs
import ShellTemplate.Proofs.Reaching

/-!
# Removing what matches

One pass over a value finds the sizes of exactly those leading parts of it that match by themselves
(`mem_leadingSizes`), and finds them in rising order, so that the first is the least of them and the last
the greatest (`leadingSize?_spec`). Trailing parts are found by reading backwards: matching has a mirror
image (`matches_reverse`).
-/

namespace ShellTemplate

/-- Whether a number is the one to choose among the sizes: the greatest if the longest part is asked for,
    and the least otherwise. -/
def IsExtreme (longest : Bool) (sizes : Set Nat) (k : Nat) : Prop :=
  if longest then IsGreatest sizes k else IsLeast sizes k

theorem IsExtreme.mem {longest : Bool} {sizes : Set Nat} {k : Nat} (extreme : IsExtreme longest sizes k) : k ∈ sizes := by
  cases longest with
  | true => exact extreme.1
  | false => exact extreme.1

/-- The ends of a list in rising order are the extremes of its members. -/
theorem isExtreme_of_end {sizes : List Nat} (rising : sizes.Pairwise (· < ·)) {longest : Bool} {k : Nat}
    (chosen : (if longest then sizes.getLast? else sizes.head?) = some k) : IsExtreme longest {j | j ∈ sizes} k := by
  cases longest with
  | true =>
    obtain ⟨others, rfl⟩ := List.getLast?_eq_some_iff.1 chosen
    have before := (List.pairwise_append.1 rising).2.2
    refine ⟨List.mem_append_right _ List.mem_cons_self, fun j member => ?_⟩
    rcases List.mem_append.1 member with earlier | last
    · exact Nat.le_of_lt (before j earlier k List.mem_cons_self)
    · exact Nat.le_of_eq (List.mem_singleton.1 last)
  | false =>
    obtain ⟨others, rfl⟩ := List.head?_eq_some_iff.1 chosen
    have behind := (List.pairwise_cons.1 rising).1
    refine ⟨List.mem_cons_self, fun j member => ?_⟩
    rcases List.mem_cons.1 member with first | later
    · exact Nat.le_of_eq first.symm
    · exact Nat.le_of_lt (behind j later)

namespace Glob

variable {α : Type}

section
variable {elements : List (Element α)} {value : List α}

/-- The sizes that are found are those of the leading parts that match. -/
theorem mem_leadingSizes {k : Nat} :
    k ∈ Element.leadingSizes elements value ↔ k ≤ value.length ∧ Matches elements (value.take k) := by
  have entry : k ∈ Element.leadingSizes elements value ↔ (Element.reachable elements value)[k]? = some true := by
    simp [Element.leadingSizes, List.mem_zipIdx_iff_getElem?]
  rw [entry]
  constructor
  · intro marked
    have inside : k < (Element.reachable elements value).length := (List.getElem?_eq_some_iff.1 marked).1
    rw [(marks_reachable elements value).length] at inside
    have le := Nat.le_of_lt_succ inside
    exact ⟨le, (getElem?_reachable le).1 marked⟩
  · rintro ⟨le, matched⟩
    exact (getElem?_reachable le).2 matched

/-- The sizes are found in rising order. -/
theorem pairwise_leadingSizes (elements : List (Element α)) (value : List α) :
    (Element.leadingSizes elements value).Pairwise (· < ·) := by
  have kept : (Element.leadingSizes elements value).Sublist ((Element.reachable elements value).zipIdx.map (·.2)) :=
    List.filter_sublist.map _
  rw [List.zipIdx_map_snd] at kept
  exact List.Pairwise.sublist kept List.pairwise_lt_range'

/-- The size that is chosen is the least or the greatest one of a leading part that matches, if there is one. -/
theorem leadingSize?_spec (longest : Bool) (elements : List (Element α)) (value : List α) :
    (∃ k, Element.leadingSize? longest elements value = some k ∧
        IsExtreme longest {j | j ≤ value.length ∧ Matches elements (value.take j)} k) ∨
      Element.leadingSize? longest elements value = none ∧ ∀ j ≤ value.length, ¬ Matches elements (value.take j) := by
  have rising := pairwise_leadingSizes elements value
  have members : {j | j ∈ Element.leadingSizes elements value} = {j | j ≤ value.length ∧ Matches elements (value.take j)} :=
    Set.ext fun j => mem_leadingSizes
  cases chosen : Element.leadingSize? longest elements value with
  | some k => exact .inl ⟨k, rfl, members ▸ isExtreme_of_end rising chosen⟩
  | none =>
    refine .inr ⟨rfl, fun j le matched => ?_⟩
    have empty : Element.leadingSizes elements value = [] := by
      cases longest with
      | true => exact List.getLast?_eq_none_iff.1 chosen
      | false => exact List.head?_eq_none_iff.1 chosen
    have member := mem_leadingSizes.2 ⟨le, matched⟩
    rw [empty] at member
    cases member

theorem Element.takes_reverse {element : Element α} {piece : List α} :
    element.Takes piece.reverse ↔ element.Takes piece := by
  cases element with
  | star => rfl
  | one accepts =>
    refine exists_congr fun s => and_congr_left fun _ => ?_
    rw [List.reverse_eq_iff, List.reverse_singleton]

/-- Elements read backwards match what is read backwards. -/
theorem matches_reverse : Matches elements.reverse value.reverse ↔ Matches elements value := by
  induction elements generalizing value with
  | nil => simp [matches_nil_iff]
  | cons element elements ih =>
    rw [List.reverse_cons, matches_append_iff, matches_cons_iff]
    constructor
    · rintro ⟨u, w, split, front, last⟩
      obtain ⟨piece, _, rfl, taken, rest⟩ := matches_cons_iff.1 last
      obtain rfl := matches_nil_iff.1 rest
      rw [List.reverse_eq_iff, List.append_nil, List.reverse_append] at split
      refine ⟨piece.reverse, u.reverse, split, Element.takes_reverse.2 taken, ih.1 ?_⟩
      rwa [List.reverse_reverse]
    · rintro ⟨piece, rest, rfl, taken, tail⟩
      refine ⟨rest.reverse, piece.reverse, List.reverse_append, ih.2 tail, ?_⟩
      exact matches_cons_iff.2 ⟨_, [], (List.append_nil _).symm, Element.takes_reverse.2 taken, .nil⟩

end

theorem matchesPattern_iff_elements {value pattern : Text} :
    value.matchesPattern pattern = true ↔ Matches (elements pattern) value := matchAll_iff

end Glob

namespace Text

open Glob

/-- The sizes of the leading parts of a text that match a pattern by themselves. -/
def leadingCuts (text pattern : Text) : Set Nat :=
  {k | k ≤ text.length ∧ matchesPattern (text.take k) pattern = true}

/-- The sizes of the trailing parts of a text that match a pattern by themselves. -/
def trailingCuts (text pattern : Text) : Set Nat :=
  {k | k ≤ text.length ∧ matchesPattern (text.drop (text.length - k)) pattern = true}

/-- What is removed in front is the shortest or the longest leading part that matches the pattern by
    itself. Nothing is removed if none does, the empty part included. -/
theorem removeLeading_cut (text pattern : Text) (longest : Bool) :
    (∃ k, IsExtreme longest (text.leadingCuts pattern) k ∧ text.removeLeading pattern longest = text.drop k) ∨
      (∀ k, k ∉ text.leadingCuts pattern) ∧ text.removeLeading pattern longest = text := by
  have cuts : text.leadingCuts pattern = {k | k ≤ text.length ∧ Matches (elements pattern) (text.take k)} := by
    simp only [leadingCuts, matchesPattern_iff_elements]
  rw [cuts]
  rcases leadingSize?_spec longest (elements pattern) text with ⟨k, chosen, extreme⟩ | ⟨missing, unmatched⟩
  · exact .inl ⟨k, extreme, by rw [removeLeading, chosen]⟩
  · exact .inr ⟨fun k ⟨le, matched⟩ => unmatched k le matched, by rw [removeLeading, missing]⟩

/-- What is removed at the end is the shortest or the longest trailing part that matches the pattern by
    itself. Nothing is removed if none does, the empty part included. -/
theorem removeTrailing_cut (text pattern : Text) (longest : Bool) :
    (∃ k, IsExtreme longest (text.trailingCuts pattern) k ∧
        text.removeTrailing pattern longest = text.take (text.length - k)) ∨
      (∀ k, k ∉ text.trailingCuts pattern) ∧ text.removeTrailing pattern longest = text := by
  have mirror : ∀ k, Matches (elements pattern).reverse (text.reverse.take k) ↔
      Matches (elements pattern) (text.drop (text.length - k)) := by
    intro k
    rw [List.take_reverse, matches_reverse]
  have cuts : text.trailingCuts pattern =
      {k | k ≤ text.reverse.length ∧ Matches (elements pattern).reverse (text.reverse.take k)} := by
    simp only [trailingCuts, matchesPattern_iff_elements, mirror, List.length_reverse]
  rw [cuts]
  rcases leadingSize?_spec longest (elements pattern).reverse text.reverse with ⟨k, chosen, extreme⟩ | ⟨missing, unmatched⟩
  · exact .inl ⟨k, extreme, by rw [removeTrailing, chosen]⟩
  · exact .inr ⟨fun k ⟨le, matched⟩ => unmatched k le matched, by rw [removeTrailing, missing]⟩

end Text

end ShellTemplate
