import ShellTemplate.Glob.Role
import ShellTemplate.Proofs.PatternConcatenation

/-!
# Escaping what is literal

A letter or digit of a pattern is literal already, so that a backslash before it changes neither the tokens
nor the items that are read (`tokens_backslash`). The exception is the upper end of a range, which is taken as
it is: with a backslash before it the range ends at the backslash. What changes is told at each level of
reading by one relation, `Backslash`, and one induction along the symbols before the backslash.
-/

namespace ShellTemplate

theorem Symbol.ne_of_isAlphanum {c x : Char} (ordinary : c.isAlphanum = true) (special : x.isAlphanum = false) :
    Symbol.char c ≠ .char x := by
  rintro ⟨rfl⟩
  rw [ordinary] at special
  cases special

namespace Glob

/-- What a backslash before a symbol changes in what is read, by the role of the symbol, `distance` symbols further
    on: `plain` is what is read without the backslash and `marked` with it, and the numbers are of the symbols that
    belong to what is read. The same is read, before the symbol or with the backslash as one more symbol of it;
    another thing is read; or something is read with the backslash if something is read without it. -/
inductive Backslash {α : Type} (distance : Nat) : Option Role → (plain marked : Option (α × Nat)) → Prop where
  | before {result : α} {size : Nat} (fits : size ≤ distance) : Backslash distance none (some (result, size)) (some (result, size))
  | leading {plain : Option (α × Nat)} (covers : ∀ parts ∈ plain, distance < parts.2) :
    Backslash distance (some .leading) plain (plain.map fun parts => (parts.1, parts.2 + 1))
  | upperEnd {plain marked : Option (α × Nat)} (other : ∀ parts ∈ plain, ∀ parts' ∈ marked, parts.1 ≠ parts'.1) :
    Backslash distance (some .upperEnd) plain marked
  | inside {role : Role} {plain marked : Option (α × Nat)} (both : plain.isSome = marked.isSome)
    (special : role = .escaped ∨ role = .inClass) : Backslash distance (some role) plain marked

/-- What is read further on is part of what is read here. -/
theorem Backslash.map {α β : Type} {distance : Nat} {role : Option Role} {plain marked : Option (α × Nat)}
    (change : Backslash distance role plain marked) {wrap : α → β} (injective : Function.Injective wrap) (more : Nat) :
    Backslash (more + distance) role (plain.map fun parts => (wrap parts.1, more + parts.2))
      (marked.map fun parts => (wrap parts.1, more + parts.2)) := by
  cases change with
  | before fits => exact .before (Nat.add_le_add_left fits more)
  | leading covers =>
    have same : ((plain.map fun parts => (parts.1, parts.2 + 1)).map fun parts => (wrap parts.1, more + parts.2)) =
        (plain.map fun parts => (wrap parts.1, more + parts.2)).map fun parts => (parts.1, parts.2 + 1) := by
      simp [Function.comp_def, Nat.add_assoc]
    rw [same]
    refine .leading fun parts member => ?_
    obtain ⟨parts, found, rfl⟩ := Option.map_eq_some_iff.1 member
    exact Nat.add_lt_add_left (covers parts found) more
  | upperEnd other =>
    refine .upperEnd fun parts member parts' member' same => ?_
    obtain ⟨parts, found, rfl⟩ := Option.map_eq_some_iff.1 member
    obtain ⟨parts', found', rfl⟩ := Option.map_eq_some_iff.1 member'
    exact other parts found parts' found' (injective same)
  | inside both special => exact .inside (by simpa using both) special

/-- What is read where something else may be read in its place: what comes of it plays no part, unless it is
    read without the backslash, or the backslash has it read. -/
theorem Backslash.getD {α : Type} {distance : Nat} {role : Option Role} {plain marked : Option (α × Nat)}
    (change : Backslash distance role plain marked) {place : α} (other : ∀ parts ∈ plain, parts.1 ≠ place)
    (other' : ∀ parts ∈ marked, parts.1 ≠ place) :
    Backslash distance
      (if plain.isSome then role else if role = some .upperEnd && marked.isSome then some .upperEnd else none)
      (some (plain.getD (place, 0))) (some (marked.getD (place, 0))) := by
  cases plain with
  | some parts =>
    cases change with
    | before fits => exact .before fits
    | leading covers => exact .leading covers
    | inside both special => exact .inside rfl special
    | upperEnd differ =>
      refine .upperEnd ?_
      rintro _ ⟨⟩ _ ⟨⟩
      cases marked with
      | none => exact other parts rfl
      | some parts' => exact differ parts rfl parts' rfl
  | none =>
    cases marked with
    | none =>
      rw [if_neg (by simp), if_neg (by simp)]
      exact .before (Nat.zero_le _)
    | some parts' =>
      cases change with
      | inside both => cases both
      | upperEnd differ =>
        refine .upperEnd ?_
        rintro _ ⟨⟩ _ ⟨⟩
        exact (other' parts' rfl).symm

/-- What a backslash before the symbol `c` changes in the item that begins with the symbol `s`, by the role of `c` in
    it: the item ends before `c`, the class has another name, longer by the backslash, the backslash is escaped
    itself, or the range ends at it. -/
inductive ItemBackslash (c : Symbol) (back : Text) (s : Symbol) (front : Text) : Option Role → Prop where
  | before (fits : (itemAt s (front ++ c :: back)).2 ≤ front.length)
    (same : itemAt s (front ++ .char '\\' :: c :: back) = itemAt s (front ++ c :: back)) : ItemBackslash c back s front none
  | inClass (covers : front.length < (itemAt s (front ++ c :: back)).2)
    (longer : (itemAt s (front ++ .char '\\' :: c :: back)).2 = (itemAt s (front ++ c :: back)).2 + 1)
    (begins : Text.ofString "[:" <+: s :: front) (ends : Text.ofString ":]" <:+: back) :
    ItemBackslash c back s front (some .inClass)
  | escaped (backslash : s = .char '\\') (next : front = []) : ItemBackslash c back s front (some .escaped)
  | upperEnd (low : Symbol) (plain : itemAt s (front ++ c :: back) = (some (.range low c), front.length + 1))
    (marked : itemAt s (front ++ .char '\\' :: c :: back) = (some (.range low (.char '\\')), front.length + 1))
    (dash : [.char '-'] <:+ s :: front) : ItemBackslash c back s front (some .upperEnd)

theorem cut?_classEnd (s : Symbol) (rest : Text) :
    Text.cut? (s :: rest) (Text.ofString ":]") =
      if s = .char ':' ∧ rest.head? = some (.char ']') then some ([], rest.drop 1)
      else (Text.cut? rest (Text.ofString ":]")).map fun parts => (s :: parts.1, parts.2) := by
  rw [Text.cut?_cons]
  have ends : (Text.ofString ":]").isPrefixOf (s :: rest) = true ↔ s = .char ':' ∧ rest.head? = some (.char ']') := by
    cases rest with
    | nil => simp [Text.ofString, List.isPrefixOf]
    | cons t rest => simpa [Text.ofString, List.isPrefixOf] using and_congr eq_comm eq_comm
  by_cases here : s = .char ':' ∧ rest.head? = some (.char ']')
  · rw [if_pos here, if_pos (ends.2 here)]
    rfl
  · rw [if_neg here, if_neg (mt ends.1 here)]

section
variable (c : Symbol) (back : Text)

theorem roleInItems_skip (first : Bool) (skip : Nat) (front : Text) :
    roleInItems c back first skip front = roleInItems c back first 0 (front.drop skip) := by
  induction front generalizing skip with
  | nil => cases skip <;> rfl
  | cons s front ih =>
    cases skip with
    | zero => rfl
    | succ skip => exact ih skip

theorem roleInItems_cons {first : Bool} {s : Symbol} (inside : s = .char ']' → first = true) (front : Text) :
    roleInItems c back first 0 (s :: front) =
      (roleInItem c back s front).or (roleInItems c back false 0 (front.drop (itemAt s (front ++ c :: back)).2)) := by
  rw [roleInItems, if_neg (not_closing inside), roleInItems_skip]
  cases roleInItem c back s front <;> rfl

end

theorem bracketAt_ne_literal {s : Symbol} {rest : Text} {parts : Token × Nat} (found : parts ∈ bracketAt rest) :
    parts.1 ≠ .literal s := by
  cases rest with
  | nil => cases found
  | cons t rest =>
    cases negated : negates t with
    | true =>
      rw [bracketAt_negated negated] at found
      obtain ⟨items, -, rfl⟩ := Option.map_eq_some_iff.1 found
      simp
    | false =>
      rw [bracketAt_plain negated] at found
      obtain ⟨items, -, rfl⟩ := Option.map_eq_some_iff.1 found
      simp

theorem drop_behind {front : Text} {n : Nat} (covers : front.length < n) (x c : Symbol) (back : Text) :
    (front ++ x :: c :: back).drop (n + 1) = (front ++ c :: back).drop n := by
  obtain ⟨m, rfl⟩ := Nat.exists_eq_add_of_lt covers
  rw [Nat.add_assoc _ m 1, Nat.add_assoc, List.drop_length_add_append, List.drop_length_add_append]
  rfl

section
variable {c : Char} (ordinary : c.isAlphanum = true) (back : Text)
include ordinary

/-- The end of a class is found where it was, further on by the backslash if that stands before it. -/
theorem cut?_backslash (inner : Text) :
    Text.cut? (inner ++ .char c :: back) (Text.ofString ":]") = none ∧
        Text.cut? (inner ++ .char '\\' :: .char c :: back) (Text.ofString ":]") = none ∨
      ∃ name marked after after', Text.cut? (inner ++ .char c :: back) (Text.ofString ":]") = some (name, after) ∧
        Text.cut? (inner ++ .char '\\' :: .char c :: back) (Text.ofString ":]") = some (marked, after') ∧
          (marked = name ∧ name.length + 2 ≤ inner.length ∨
            marked.length = name.length + 1 ∧ inner.length < name.length + 2 ∧ Text.ofString ":]" <:+: back) := by
  have colon : c ≠ ':' := by
    rintro rfl
    cases ordinary
  have closing : c ≠ ']' := by
    rintro rfl
    cases ordinary
  induction inner with
  | nil =>
    simp only [List.nil_append, cut?_classEnd, Symbol.char.injEq, colon, false_and, if_false]
    cases found : Text.cut? back (Text.ofString ":]") with
    | none => exact .inl ⟨rfl, rfl⟩
    | some parts =>
      have behind : Text.ofString ":]" <:+: back := ⟨parts.1, parts.2, (Text.eq_append_of_cut? found).symm⟩
      exact .inr ⟨_, _, _, _, rfl, rfl, .inr ⟨rfl, Nat.zero_lt_succ _, behind⟩⟩
  | cons t inner ih =>
    have head : ∀ (x : Char) (rest : Text), x ≠ ']' →
        ((inner ++ Symbol.char x :: rest).head? = some (.char ']') ↔ inner.head? = some (.char ']')) := by
      intro x rest other
      cases inner <;> simp [other]
    rw [List.cons_append, List.cons_append, cut?_classEnd, cut?_classEnd]
    simp only [head c _ closing, head '\\' _ (by decide)]
    by_cases ends : t = .char ':' ∧ inner.head? = some (.char ']')
    · simp only [if_pos ends]
      refine .inr ⟨_, _, _, _, rfl, rfl, .inl ⟨rfl, ?_⟩⟩
      obtain ⟨inner, rfl⟩ := List.head?_eq_some_iff.1 ends.2
      simp
    · simp only [if_neg ends]
      rcases ih with ⟨missing, missing'⟩ | ⟨name, marked, after, after', found, found', sizes⟩
      · exact .inl (by simp [missing, missing'])
      · refine .inr ⟨t :: name, t :: marked, after, after', by simp [found], by simp [found'], ?_⟩
        simpa [Nat.add_right_comm] using sizes

theorem className?_backslash (s : Symbol) (front : Text) :
    className? s (front ++ .char c :: back) = none ∧ className? s (front ++ .char '\\' :: .char c :: back) = none ∨
      ∃ name marked, className? s (front ++ .char c :: back) = some name ∧
        className? s (front ++ .char '\\' :: .char c :: back) = some marked ∧
          (marked = name ∧ name.length + 3 ≤ front.length ∨
            marked.length = name.length + 1 ∧ front.length < name.length + 3 ∧
              Text.ofString "[:" <+: s :: front ∧ Text.ofString ":]" <:+: back) := by
  have colon : c ≠ ':' := by
    rintro rfl
    cases ordinary
  by_cases begins : s = .char '[' ∧ front.head? = some (.char ':')
  · obtain ⟨rfl, first⟩ := begins
    obtain ⟨inner, rfl⟩ := List.head?_eq_some_iff.1 first
    have named : ∀ rest, className? (.char '[') (.char ':' :: rest) = (Text.cut? rest (Text.ofString ":]")).map (·.1) :=
      fun _ => rfl
    rw [List.cons_append, List.cons_append, named, named]
    rcases cut?_backslash ordinary back inner with ⟨missing, missing'⟩ | ⟨name, marked, after, after', found, found', sizes⟩
    · exact .inl (by simp [missing, missing'])
    · refine .inr ⟨name, marked, by simp [found], by simp [found'], ?_⟩
      rcases sizes with ⟨same, fits⟩ | ⟨longer, covers, behind⟩
      · exact .inl ⟨same, Nat.succ_le_succ fits⟩
      · exact .inr ⟨longer, Nat.succ_lt_succ covers, ⟨inner, rfl⟩, behind⟩
  · have plain : ∀ (x : Char) (rest : Text), x ≠ ':' → beginsClass s (front ++ .char x :: rest) = false := by
      intro x rest other
      cases front with
      | nil => simp [beginsClass, other]
      | cons t front => simpa [beginsClass] using begins
    exact .inl ⟨className?_of_not_beginsClass (plain c _ colon), className?_of_not_beginsClass (plain '\\' _ (by decide))⟩

theorem symbolItem_backslash (s : Symbol) (front : Text) :
    (symbolItem s (front ++ .char c :: back)).2 ≤ front.length ∧
        symbolItem s (front ++ .char '\\' :: .char c :: back) = symbolItem s (front ++ .char c :: back) ∨
      front = [.char '-'] ∧ symbolItem s (.char '-' :: .char c :: back) = (.range s (.char c), 2) ∧
        symbolItem s (.char '-' :: .char '\\' :: .char c :: back) = (.range s (.char '\\'), 2) := by
  have dash : c ≠ '-' := by
    rintro rfl
    cases ordinary
  have closing : c ≠ ']' := by
    rintro rfl
    cases ordinary
  cases front with
  | nil =>
    have plain : symbolItem s (.char c :: back) = (.symbol s, 0) := symbolItem_plain (by simp [dash]) s
    exact .inl ⟨by simp [plain], by rw [List.nil_append, List.nil_append, plain, symbolItem_plain (by simp)]⟩
  | cons t front =>
    by_cases range : t = .char '-'
    · subst range
      cases front with
      | nil => exact .inr ⟨rfl, by simp [symbolItem, closing], by simp [symbolItem]⟩
      | cons u front =>
        refine .inl ⟨?_, rfl⟩
        by_cases last : u = .char ']' <;> simp [symbolItem, last]
    · have plain : ∀ tail, symbolItem s (t :: tail) = (.symbol s, 0) := fun tail => symbolItem_plain (by simp [range]) s
      exact .inl ⟨by simp [plain], by rw [List.cons_append, List.cons_append, plain, plain]⟩

/-- What a backslash changes in an item that is no class, by what it changes in the item of the symbol that
    may be the lower end of a range. -/
theorem itemBackslash_of_no_class {s : Symbol} {front : Text} (missing : className? s (front ++ .char c :: back) = none)
    (missing' : className? s (front ++ .char '\\' :: .char c :: back) = none) :
    ItemBackslash (.char c) back s front (roleInItem (.char c) back s front) := by
  by_cases escape : s = .char '\\'
  · subst escape
    cases front with
    | nil =>
      have role : roleInItem (.char c) back (.char '\\') [] = some .escaped := by
        simp only [List.nil_append] at missing
        simp [roleInItem, itemAt_escape, missing]
      rw [role]
      exact .escaped rfl rfl
    | cons t front =>
      rcases symbolItem_backslash ordinary back t front with ⟨fits, same⟩ | ⟨rfl, plain, marked⟩
      · have role : roleInItem (.char c) back (.char '\\') (t :: front) = none := by simp [roleInItem, itemAt_escape, fits]
        rw [role]
        exact .before (Nat.succ_le_succ fits) (by simp [itemAt_escape, same])
      · have role : roleInItem (.char c) back (.char '\\') [t, .char '-'] = some .upperEnd := by
          simp only [List.cons_append, List.nil_append] at missing
          simp [roleInItem, itemAt_escape, plain, missing]
        rw [role]
        exact .upperEnd t (by simp [itemAt_escape, plain]) (by simp [itemAt_escape, marked]) (List.suffix_append [_, _] _)
  · have item := itemAt_symbol escape missing
    have item' := itemAt_symbol escape missing'
    rcases symbolItem_backslash ordinary back s front with ⟨fits, same⟩ | ⟨rfl, plain, marked⟩
    · have role : roleInItem (.char c) back s front = none := by simp [roleInItem, item, fits]
      rw [role]
      exact .before (by rwa [item]) (by rw [item, item', same])
    · have role : roleInItem (.char c) back s [.char '-'] = some .upperEnd := by
        simp only [List.cons_append, List.nil_append] at missing item
        simp [roleInItem, item, plain, missing]
      rw [role]
      simp only [List.cons_append, List.nil_append, plain, marked] at item item'
      exact .upperEnd s item item' (List.suffix_append [_] _)

theorem itemBackslash (s : Symbol) (front : Text) : ItemBackslash (.char c) back s front (roleInItem (.char c) back s front) := by
  rcases className?_backslash ordinary back s front with ⟨missing, missing'⟩ | ⟨name, marked, found, found', sizes⟩
  · exact itemBackslash_of_no_class ordinary back missing missing'
  · have item := itemAt_class found
    have item' := itemAt_class found'
    rcases sizes with ⟨rfl, fits⟩ | ⟨longer, covers, begins, ends⟩
    · have role : roleInItem (.char c) back s front = none := by simp [roleInItem, item, fits]
      rw [role]
      exact .before (by rwa [item]) (item'.trans item.symm)
    · have role : roleInItem (.char c) back s front = some .inClass := by
        simp [roleInItem, item, found, Nat.not_le.2 covers]
      rw [role]
      exact .inClass (by rwa [item]) (by rw [item, item', longer, Nat.add_right_comm]) begins ends

theorem tokenAt_ordinary : tokenAt (.char c) back = (.literal (.char c), 0) := by
  unfold tokenAt
  split <;> simp_all

theorem itemsIn_symbol (first : Bool) (rest : Text) :
    itemsIn first (.char c :: rest) =
      (itemsIn false (rest.drop (symbolItem (.char c) rest).2)).map fun parts =>
        ((symbolItem (.char c) rest).1 :: parts.1, 1 + (symbolItem (.char c) rest).2 + parts.2) := by
  have escape : Symbol.char c ≠ .char '\\' := Symbol.ne_of_isAlphanum ordinary (by decide)
  have closing : Symbol.char c ≠ .char ']' := Symbol.ne_of_isAlphanum ordinary (by decide)
  have opening : Symbol.char c ≠ .char '[' := Symbol.ne_of_isAlphanum ordinary (by decide)
  have unnamed : className? (.char c) rest = none := className?_of_not_beginsClass (by simp [beginsClass, opening])
  rw [itemsIn_cons (fun same => absurd same closing), itemAt_symbol escape unnamed]
  rfl

/-- What a backslash changes in the items of a bracket. -/
theorem itemsIn_backslash (first : Bool) (front : Text) :
    Backslash front.length (roleInItems (.char c) back first 0 front) (itemsIn first (front ++ .char c :: back))
      (itemsIn first (front ++ .char '\\' :: .char c :: back)) := by
  have dash : c ≠ '-' := by
    rintro rfl
    cases ordinary
  induction front using Text.passInduction generalizing first with
  | ended =>
    have marked : itemsIn first (.char '\\' :: .char c :: back) =
        (itemsIn first (.char c :: back)).map fun parts => (parts.1, parts.2 + 1) := by
      rw [itemsIn_cons (by simp), itemAt_escape, itemsIn_symbol ordinary, List.drop_succ_cons, Option.map_map]
      refine Option.map_congr fun parts _ => Prod.ext rfl ?_
      simp only [Function.comp_apply]
      omega
    rw [List.nil_append, List.nil_append, marked]
    refine .leading fun parts member => ?_
    rw [itemsIn_symbol ordinary] at member
    obtain ⟨others, -, rfl⟩ := Option.map_eq_some_iff.1 member
    simp only [List.length_nil]
    omega
  | step s front ih =>
    rcases closes_or_inside s first with ⟨rfl, rfl⟩ | inside
    · rw [List.cons_append, List.cons_append, itemsIn_closing, itemsIn_closing]
      exact .before (by simp)
    · rw [List.cons_append, List.cons_append, itemsIn_cons inside, itemsIn_cons inside, roleInItems_cons _ _ inside]
      have item := itemBackslash ordinary back s front
      generalize roleInItem (.char c) back s front = role at item
      cases item with
      | before fits same =>
        rw [same, List.drop_append_of_le_length fits, List.drop_append_of_le_length fits, Option.none_or]
        have further := (ih (itemAt s (front ++ .char c :: back)).2 false).map
          (List.append_right_injective (itemAt s (front ++ .char c :: back)).1.toList) (1 + (itemAt s (front ++ .char c :: back)).2)
        rw [List.length_drop] at further
        rw [List.length_cons, show front.length + 1 = 1 + (itemAt s (front ++ .char c :: back)).2 +
          (front.length - (itemAt s (front ++ .char c :: back)).2) by omega]
        exact further
      | inClass covers longer begins ends =>
        rw [longer, drop_behind covers]
        exact .inside (by simp) (.inr rfl)
      | escaped backslash next =>
        subst backslash next
        have own : symbolItem (.char '\\') (.char c :: back) = (.symbol (.char '\\'), 0) := symbolItem_plain (by simp [dash]) _
        rw [List.nil_append, List.nil_append, itemAt_escape, itemAt_escape, own, List.drop_succ_cons, List.drop_succ_cons,
          List.drop_zero, itemsIn_symbol ordinary false]
        exact .inside (by simp) (.inl rfl)
      | upperEnd low plain marked dash =>
        rw [plain, marked]
        refine .upperEnd fun parts member parts' member' same => ?_
        obtain ⟨others, -, rfl⟩ := Option.map_eq_some_iff.1 member
        obtain ⟨others', -, rfl⟩ := Option.map_eq_some_iff.1 member'
        obtain ⟨ends, -⟩ := List.cons.inj same
        cases ends
        cases ordinary

/-- What a backslash changes in a bracket. -/
theorem bracketAt_backslash (front : Text) :
    Backslash front.length (roleInBracket (.char c) back front) (bracketAt (front ++ .char c :: back))
      (bracketAt (front ++ .char '\\' :: .char c :: back)) := by
  have plain : negates (.char c) = false := by
    have exclamation : Symbol.char c ≠ .char '!' := Symbol.ne_of_isAlphanum ordinary (by decide)
    have caret : Symbol.char c ≠ .char '^' := Symbol.ne_of_isAlphanum ordinary (by decide)
    simp [negates, exclamation, caret]
  have wrapped : ∀ negated, Function.Injective (Token.bracket negated) := by
    rintro negated items items' ⟨⟩
    rfl
  have items := itemsIn_backslash ordinary back true
  cases front with
  | nil =>
    have role : roleInBracket (.char c) back [] = roleInItems (.char c) back true 0 [] := rfl
    rw [List.nil_append, List.nil_append, bracketAt_plain plain, bracketAt_plain (by decide), role]
    simpa using (items []).map (wrapped false) 0
  | cons s front =>
    rw [List.cons_append, List.cons_append]
    cases negated : negates s with
    | true =>
      rw [bracketAt_negated negated, bracketAt_negated negated, roleInBracket, if_pos negated, List.length_cons, Nat.add_comm]
      exact (items front).map (wrapped true) 1
    | false =>
      rw [bracketAt_plain negated, bracketAt_plain negated, roleInBracket, if_neg (by simp [negated])]
      simpa using (items (s :: front)).map (wrapped false) 0

/-- What a backslash changes in a token. -/
theorem tokenAt_backslash (s : Symbol) (front : Text) :
    Backslash front.length (roleInToken (.char c) back s front) (some (tokenAt s (front ++ .char c :: back)))
      (some (tokenAt s (front ++ .char '\\' :: .char c :: back))) := by
  by_cases escape : s = .char '\\'
  · subst escape
    cases front with
    | nil => exact .inside rfl (.inl rfl)
    | cons t front => exact .before (Nat.succ_le_succ (Nat.zero_le _))
  by_cases opens : s = .char '['
  · subst opens
    exact (bracketAt_backslash ordinary back front).getD (fun _ => bracketAt_ne_literal) (fun _ => bracketAt_ne_literal)
  · obtain ⟨token, plain⟩ := tokenAt_plain escape opens
    have role : roleInToken (.char c) back s front = none := by
      unfold roleInToken
      split <;> simp_all
    rw [plain, plain, role]
    exact .before (Nat.zero_le _)

end

theorem roleInTokens_skip (c : Symbol) (back : Text) (skip : Nat) (front : Text) :
    roleInTokens c back skip front = roleBetween (front.drop skip) c back := by
  induction front generalizing skip with
  | nil => cases skip <;> rfl
  | cons s front ih =>
    cases skip with
    | zero => rfl
    | succ skip => exact ih skip

theorem roleBetween_cons (s : Symbol) (front : Text) (c : Symbol) (back : Text) :
    roleBetween (s :: front) c back =
      (roleInToken c back s front).getD (roleBetween (front.drop (tokenAt s (front ++ c :: back)).2) c back) := by
  rw [roleBetween, roleInTokens, roleInTokens_skip]
  cases roleInToken c back s front <;> rfl

/-- A backslash before a letter or digit leaves the tokens of a pattern as they are if the symbol begins a
    token or an item, and changes them if it is the upper end of a range. -/
theorem tokens_backslash {c : Char} (ordinary : c.isAlphanum = true) (front back : Text) :
    (roleBetween front (.char c) back = .leading → tokens (front ++ .char '\\' :: .char c :: back) = tokens (front ++ .char c :: back)) ∧
      (roleBetween front (.char c) back = .upperEnd →
        tokens (front ++ .char '\\' :: .char c :: back) ≠ tokens (front ++ .char c :: back)) := by
  induction front using Text.passInduction with
  | ended =>
    refine ⟨fun _ => ?_, nofun⟩
    rw [List.nil_append, List.nil_append, tokens_cons, tokens_cons (.char c), tokenAt_ordinary ordinary]
    rfl
  | step s front ih =>
    have token := tokenAt_backslash ordinary back s front
    rw [roleBetween_cons, List.cons_append, List.cons_append, tokens_cons, tokens_cons]
    generalize roleInToken (.char c) back s front = role at token
    generalize tokenAt s (front ++ .char c :: back) = plain at token
    generalize tokenAt s (front ++ .char '\\' :: .char c :: back) = marked at token
    cases token with
    | @before result size fits =>
      rw [Option.getD_none, List.drop_append_of_le_length fits, List.drop_append_of_le_length fits]
      obtain ⟨same, other⟩ := ih size
      exact ⟨fun role => congrArg _ (same role), fun role equal => other role (List.cons.inj equal).2⟩
    | leading covers =>
      refine ⟨fun _ => ?_, nofun⟩
      rw [drop_behind (covers plain rfl)]
    | upperEnd differ =>
      refine ⟨nofun, fun _ equal => ?_⟩
      exact differ plain rfl marked rfl (List.cons.inj equal).1.symm
    | inside both special => rcases special with rfl | rfl <;> exact ⟨nofun, nofun⟩

/-- Where a symbol with a role stands: behind the backslash that escapes it, behind the dash of its range, or
    between `[:` and `:]`. -/
def Role.Fits (front back : Text) : Role → Prop
  | .leading => True
  | .escaped => [.char '\\'] <:+ front
  | .upperEnd => [.char '-'] <:+ front
  | .inClass => Text.ofString "[:" <:+: front ∧ Text.ofString ":]" <:+: back

theorem Role.Fits.of_suffix {front longer back : Text} {role : Role} (fits : role.Fits front back) (suffix : front <:+ longer) :
    role.Fits longer back := by
  cases role with
  | leading => trivial
  | escaped => exact List.IsSuffix.trans fits suffix
  | upperEnd => exact List.IsSuffix.trans fits suffix
  | inClass => exact ⟨fits.1.trans suffix.isInfix, fits.2⟩

section
variable {c : Char} (ordinary : c.isAlphanum = true) (back : Text)
include ordinary

theorem fits_of_roleInItem {s : Symbol} {front : Text} {role : Role} (found : roleInItem (.char c) back s front = some role) :
    role.Fits (s :: front) back := by
  have item := itemBackslash ordinary back s front
  rw [found] at item
  cases item with
  | inClass covers longer begins ends => exact ⟨begins.isInfix, ends⟩
  | escaped backslash next =>
    subst backslash next
    exact List.suffix_refl _
  | upperEnd low plain marked dash => exact dash

theorem fits_of_roleInItems {first : Bool} {front : Text} {role : Role}
    (found : roleInItems (.char c) back first 0 front = some role) : role.Fits front back := by
  induction front using Text.passInduction generalizing first with
  | ended =>
    cases found
    trivial
  | step s front ih =>
    rcases closes_or_inside s first with ⟨rfl, rfl⟩ | inside
    · simp [roleInItems] at found
    · rw [roleInItems_cons _ _ inside] at found
      rcases Option.or_eq_some_iff.1 found with here | ⟨-, later⟩
      · exact fits_of_roleInItem ordinary back here
      · exact (ih _ later).of_suffix ((List.drop_suffix _ front).trans (List.suffix_cons s front))

theorem fits_of_roleInBracket {front : Text} {role : Role} (found : roleInBracket (.char c) back front = some role) :
    role.Fits front back := by
  cases front with
  | nil =>
    cases found
    trivial
  | cons s front =>
    rw [roleInBracket] at found
    split at found
    · exact (fits_of_roleInItems ordinary back found).of_suffix (List.suffix_cons s front)
    · exact fits_of_roleInItems ordinary back found

theorem fits_of_roleInToken {s : Symbol} {front : Text} {role : Role} (found : roleInToken (.char c) back s front = some role) :
    role.Fits (s :: front) back := by
  unfold roleInToken at found
  split at found
  · cases front with
    | nil =>
      cases found
      exact List.suffix_refl _
    | cons t front => cases found
  · refine (fits_of_roleInBracket ordinary back ?_).of_suffix (List.suffix_cons _ front)
    split at found
    · exact found
    · split at found
      · rename_i unclosed
        cases found
        simp only [Bool.and_eq_true, decide_eq_true_eq] at unclosed
        exact unclosed.1
      · cases found
  · cases found

/-- A symbol has a role only where the role fits. -/
theorem fits_roleBetween (front : Text) : (roleBetween front (.char c) back).Fits front back := by
  induction front using Text.passInduction with
  | ended => trivial
  | step s front ih =>
    rw [roleBetween_cons]
    cases found : roleInToken (.char c) back s front with
    | some role => exact fits_of_roleInToken ordinary back found
    | none => exact (ih _).of_suffix ((List.drop_suffix _ front).trans (List.suffix_cons s front))

end

/-- A backslash before a letter or digit changes no match if the symbol begins a token or an item of a bracket.
    It has another role only behind a backslash that escapes it, between `[:` and `:]`, or as the upper end
    of a range, where the pattern is read as another one with the backslash. -/
theorem matchesPattern_backslash {c : Char} (ordinary : c.isAlphanum = true) (front back : Text) :
    (roleBetween front (.char c) back).Fits front back ∧
      (roleBetween front (.char c) back = .leading → ∀ value : Text,
        value.matchesPattern (front ++ .char '\\' :: .char c :: back) = value.matchesPattern (front ++ .char c :: back)) ∧
        (roleBetween front (.char c) back = .upperEnd →
          tokens (front ++ .char '\\' :: .char c :: back) ≠ tokens (front ++ .char c :: back)) := by
  obtain ⟨same, other⟩ := tokens_backslash ordinary front back
  refine ⟨fits_roleBetween ordinary back front, fun role value => ?_, other⟩
  rw [Text.matchesPattern, Text.matchesPattern, elements, elements, same role]

/-- The `k` is the lower end of a range in a negated bracket that a `]` begins. -/
theorem matchesPattern_backslash_in_bracket :
    let front := Text.ofString "*[!]b-d"
    let back := Text.ofString "-t]"
    let role := roleBetween front (.char 'k') back
    Char.isAlphanum 'k' = true ∧ role = .leading ∧ role.Fits front back ∧
      (role = .leading → ∀ value : Text,
        value.matchesPattern (front ++ .char '\\' :: .char 'k' :: back) = value.matchesPattern (front ++ .char 'k' :: back)) ∧
        (role = .upperEnd → tokens (front ++ .char '\\' :: .char 'k' :: back) ≠ tokens (front ++ .char 'k' :: back)) := by
  intro front back role
  have ordinary : Char.isAlphanum 'k' = true := by decide
  exact ⟨ordinary, by decide, matchesPattern_backslash ordinary front back⟩

/-- A backslash before the upper end of a range is taken for the upper end: the range from `a` to `z` becomes one
    that is empty. -/
theorem matchesPattern_ne_backslash_upperEnd :
    let front := Text.ofString "[a-"
    let back := Text.ofString "]"
    roleBetween front (.char 'z') back = .upperEnd ∧
      Text.matchesPattern (Text.ofString "m") (front ++ .char 'z' :: back) ≠
        Text.matchesPattern (Text.ofString "m") (front ++ .char '\\' :: .char 'z' :: back) := by
  decide

end Glob

end ShellTemplate
