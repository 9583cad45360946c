import ShellTemplate.Template.Evaluation

/-!
# Variables

Variables with their values, and the expansion of a text under them.
-/

namespace ShellTemplate

/-- Variables with their values, each name once. -/
abbrev Variables := List (Text × Text)

namespace Variables

/-- The value of a variable; none if it is unset. -/
def get? (bindings : Variables) (name : Text) : Option Text :=
  bindings.lookup name

/-- Gives a variable a value, in its place if there is one and at the end otherwise. -/
def define (name value : Text) : Variables → Variables
  | [] => [(name, value)]
  | (other, old) :: rest =>
    if other = name then (name, value) :: rest else (other, old) :: define name value rest

theorem get?_cons (first old other : Text) (rest : Variables) :
    get? ((first, old) :: rest) other = if other = first then some old else get? rest other := by
  unfold get?
  rw [List.lookup_cons]
  by_cases same : other = first
  · simp [same]
  · have different : (other == first) = false := beq_eq_false_iff_ne.2 same
    simp [same, different]

/-- A variable that has just been defined has that value, and the others keep theirs. -/
theorem get?_define (name value other : Text) (bindings : Variables) :
    (define name value bindings).get? other = if other = name then some value else bindings.get? other := by
  induction bindings with
  | nil => exact get?_cons ..
  | cons pair rest ih =>
    obtain ⟨first, old⟩ := pair
    rw [define]
    by_cases here : first = name
    · subst here
      rw [if_pos rfl, get?_cons, get?_cons]
      split <;> rfl
    · rw [if_neg here, get?_cons, get?_cons, ih]
      by_cases same : other = first
      · subst same
        rw [if_pos rfl, if_pos rfl, if_neg here]
      · rw [if_neg same, if_neg same]

/-- The variables in the order of their names. -/
def sorted (bindings : Variables) : Variables :=
  bindings.mergeSort fun a b => Text.le a.1 b.1

end Variables

/-- Expands a text under the variables given, or under the environment where none are given. -/
def Template.expandIn (environment : Variables) (given : Option Variables) (text : Text) : Except Fault Text :=
  expand (given.getD environment).get? text

end ShellTemplate
