import ShellTemplate.Text.Symbol

/-!
# Finding and replacing literal text

The first place where a pattern occurs, and replacement from left to right without overlaps.
-/

namespace ShellTemplate

namespace Text

/-- What stands before and after the first occurrence of the pattern in the text, which follows
    `done`, the part already passed, in reverse. -/
def cutOnto (done pattern : Text) : Text → Option (Text × Text)
  | [] => if pattern.isEmpty then some (done.reverse, []) else none
  | s :: rest =>
    if pattern.isPrefixOf (s :: rest) then some (done.reverse, (s :: rest).drop pattern.length)
    else cutOnto (s :: done) pattern rest

/-- What stands before and after the first occurrence of the pattern, if there is one. -/
def cut? (text pattern : Text) : Option (Text × Text) :=
  cutOnto [] pattern text

theorem cutOnto_eq (done pattern text : Text) :
    cutOnto done pattern text = (cutOnto [] pattern text).map fun parts => (done.reverse ++ parts.1, parts.2) := by
  induction text generalizing done with
  | nil => simp only [cutOnto]; split <;> simp
  | cons s rest ih =>
    simp only [cutOnto]
    split
    · simp
    · rw [ih (s :: done), ih [s]]
      cases cutOnto [] pattern rest <;> simp

/-- Cutting looks at one place after the other. -/
theorem cut?_cons (pattern : Text) (s : Symbol) (rest : Text) :
    cut? (s :: rest) pattern =
      if pattern.isPrefixOf (s :: rest) then some ([], (s :: rest).drop pattern.length)
      else (cut? rest pattern).map fun parts => (s :: parts.1, parts.2) := by
  unfold cut?
  rw [cutOnto, cutOnto_eq [s]]
  rfl

@[simp] theorem cut?_nil_symbol (separator : Symbol) : cut? [] [separator] = none := rfl

/-- Cutting at a single symbol looks at one symbol after the other. -/
theorem cut?_cons_symbol (separator s : Symbol) (rest : Text) :
    cut? (s :: rest) [separator] =
      if s = separator then some ([], rest)
      else (cut? rest [separator]).map fun parts => (s :: parts.1, parts.2) := by
  rw [cut?_cons]
  by_cases same : s = separator
  · subst same
    simp [List.isPrefixOf]
  · have other : ¬ separator = s := fun e => same e.symm
    simp [List.isPrefixOf, same, other]

/-- Replaces the occurrences of a pattern after `done`, the part already done, in reverse, and
    past the next `skip` symbols, which belong to the last occurrence. -/
def replaceOnto (done pattern replacement : Text) : (skip : Nat) → Text → Text
  | _, [] => done.reverse
  | skip + 1, _ :: rest => replaceOnto done pattern replacement skip rest
  | 0, s :: rest =>
    if pattern.isPrefixOf (s :: rest) then
      replaceOnto (replacement.reverse ++ done) pattern replacement (pattern.length - 1) rest
    else replaceOnto (s :: done) pattern replacement 0 rest

theorem replaceOnto_eq (done pattern replacement : Text) (skip : Nat) (text : Text) :
    replaceOnto done pattern replacement skip text =
      done.reverse ++ replaceOnto [] pattern replacement 0 (text.drop skip) := by
  induction text generalizing done skip with
  | nil => simp [replaceOnto]
  | cons s rest ih =>
    cases skip with
    | succ skip => rw [replaceOnto, ih, List.drop_succ_cons]
    | zero =>
      rw [List.drop_zero, replaceOnto, replaceOnto]
      split
      · rw [ih, ih (replacement.reverse ++ [])]
        simp
      · rw [ih, ih [s]]
        simp

/-- Replaces all occurrences of a pattern; an empty pattern occurs nowhere. -/
def replaceAll (text pattern replacement : Text) : Text :=
  if pattern.isEmpty then text else replaceOnto [] pattern replacement 0 text

@[simp] theorem replaceAll_nil (pattern replacement : Text) : replaceAll [] pattern replacement = [] := by
  simp [replaceAll, replaceOnto]

/-- Replacing looks at one place after the other. -/
theorem replaceAll_cons {pattern : Text} (nonempty : pattern ≠ []) (replacement : Text) (s : Symbol) (rest : Text) :
    replaceAll (s :: rest) pattern replacement =
      if pattern.isPrefixOf (s :: rest) then
        replacement ++ replaceAll (rest.drop (pattern.length - 1)) pattern replacement
      else s :: replaceAll rest pattern replacement := by
  have onto : ∀ text, replaceAll text pattern replacement = replaceOnto [] pattern replacement 0 text := by
    simp [replaceAll, nonempty]
  rw [onto, onto, onto, replaceOnto, replaceOnto_eq (_ ++ _), replaceOnto_eq [s]]
  simp

/-- Replaces the first occurrence of a pattern; an empty pattern occurs nowhere. -/
def replaceFirst (text pattern replacement : Text) : Text :=
  if pattern.isEmpty then text
  else
    match text.cut? pattern with
    | some (before, after) => before ++ replacement ++ after
    | none => text

/-- Replaces the pattern where the text begins with it. -/
def replaceLeading (text pattern replacement : Text) : Text :=
  if pattern.isPrefixOf text then replacement ++ text.drop pattern.length else text

/-- Replaces the pattern where the text ends with it. -/
def replaceTrailing (text pattern replacement : Text) : Text :=
  if pattern.isSuffixOf text then text.take (text.length - pattern.length) ++ replacement else text

end Text

end ShellTemplate
