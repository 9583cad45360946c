import ShellTemplate.Proofs.PatternPrinting
import ShellTemplate.Proofs.Removal
import ShellTemplate.Template.Operation

/-!
# Patterns of escaped symbols

A pattern in which every symbol is escaped matches the text of these symbols and no other
(`matches_escape_iff`). So there is at most one size to choose where it is removed, and to remove it is to replace
the text by the empty one.
-/

namespace ShellTemplate

namespace Glob

/-- A text with a backslash before every symbol. -/
def escape (text : Text) : Text :=
  text.flatMap fun s => [.char '\\', s]

theorem escape_eq_printTokens (text : Text) : escape text = printTokens (text.map .literal) := by
  simp [escape, printTokens, List.flatMap_map, Token.print]

theorem tokens_escape (text : Text) : tokens (escape text) = text.map .literal := by
  have printable : ∀ token ∈ text.map Token.literal, token.isPrintable = true := by simp [Token.isPrintable]
  rw [escape_eq_printTokens, tokens_print printable]

/-- The elements of an escaped text match that text only. -/
theorem matches_escape_iff {text value : Text} : Matches (elements (escape text)) value ↔ value = text := by
  rw [elements, matches_collapse, tokens_escape]
  induction text generalizing value with
  | nil => exact matches_nil_iff
  | cons s rest ih =>
    rw [List.map_cons, List.map_cons, matches_cons_iff]
    constructor
    · rintro ⟨_, behind, rfl, ⟨t, rfl, same⟩, tail⟩
      rw [decide_eq_true_eq] at same
      rw [ih.1 tail, same, List.singleton_append]
    · rintro rfl
      exact ⟨[s], rest, rfl, ⟨s, rfl, decide_eq_true rfl⟩, ih.2 rfl⟩

/-- Where one value matches only, the size that is chosen is the size of that value, if it comes first. -/
theorem leadingSize?_of_single {α : Type} [BEq α] [LawfulBEq α] {elements : List (Element α)} {single : List α}
    (only : ∀ v, Matches elements v ↔ v = single) (longest : Bool) (value : List α) :
    Element.leadingSize? longest elements value = if single.isPrefixOf value then some single.length else none := by
  have taken : ∀ k, k ≤ value.length → (Matches elements (value.take k) ↔ single <+: value ∧ k = single.length) := by
    intro k le
    rw [only, List.prefix_iff_eq_take]
    constructor
    · intro same
      have size : k = single.length := by rw [← same, List.length_take, Nat.min_eq_left le]
      exact ⟨by rw [← size, same], size⟩
    · rintro ⟨begins, rfl⟩
      exact begins.symm
  rcases leadingSize?_spec longest elements value with ⟨k, chosen, extreme⟩ | ⟨missing, unmatched⟩
  · obtain ⟨le, matched⟩ := extreme.mem
    obtain ⟨begins, rfl⟩ := (taken k le).1 matched
    rw [chosen, if_pos (List.isPrefixOf_iff_prefix.2 begins)]
  · have other : ¬ single.isPrefixOf value = true := by
      intro begins
      have begins := List.isPrefixOf_iff_prefix.1 begins
      have le := begins.length_le
      exact unmatched _ le ((taken _ le).2 ⟨begins, rfl⟩)
    rw [missing, if_neg other]

end Glob

namespace Text

open Glob

theorem removeLeading_escape (value text : Text) (longest : Bool) :
    value.removeLeading (escape text) longest = value.replaceLeading text [] := by
  rw [removeLeading, leadingSize?_of_single (fun _ => matches_escape_iff), replaceLeading]
  by_cases begins : text.isPrefixOf value = true
  · rw [if_pos begins, if_pos begins, List.nil_append]
  · rw [if_neg begins, if_neg begins]

theorem removeTrailing_escape (value text : Text) (longest : Bool) :
    value.removeTrailing (escape text) longest = value.replaceTrailing text [] := by
  have only : ∀ v : Text, Matches (elements (escape text)).reverse v ↔ v = text.reverse := by
    intro v
    rw [← List.reverse_reverse v, matches_reverse, matches_escape_iff, List.reverse_inj]
  have ends : text.reverse.isPrefixOf value.reverse = text.isSuffixOf value := rfl
  rw [removeTrailing, leadingSize?_of_single only, replaceTrailing, ends, List.length_reverse]
  by_cases here : text.isSuffixOf value = true
  · rw [if_pos here, if_pos here, List.append_nil]
  · rw [if_neg here, if_neg here]

end Text

/-- To remove an escaped text at one end of a value, the shortest or the longest part, is to replace the text at
    that end by the empty one. -/
theorem Operator.apply_remove_escape (text value : Text) (longest : Bool) :
    (Operator.remove .leading longest (Glob.escape text)).apply value = (Operator.replace .leading text []).apply value ∧
      (Operator.remove .trailing longest (Glob.escape text)).apply value = (Operator.replace .trailing text []).apply value :=
  ⟨Text.removeLeading_escape value text longest, Text.removeTrailing_escape value text longest⟩

example : (Operator.remove .trailing true (Glob.escape (Text.ofString "*]\\"))).apply (Text.ofString "a*]\\") = [.char 'a'] := by
  decide

end ShellTemplate
