import ShellTemplate.Template.Operation
import ShellTemplate.Template.Reading

/-!
# Evaluating templates

A template is evaluated from left to right, and each expression asks once for its variable. What
asking means is left open: a plain function, one that keeps a record of the names, or one that
fails on unknown names.
-/

namespace ShellTemplate

/-- The value that keeps a default from being used; none where the default takes over. -/
def Trigger.settled? : Trigger → Option Text → Option Text
  | .unset, value => value
  | .unsetOrEmpty, some [] => none
  | .unsetOrEmpty, value => value

section
variable {m : Type → Type} [Monad m]

mutual

/-- The text that a node stands for. -/
def Node.evaluate (lookup : Text → m (Option Text)) : Node → m Text
  | .literal text => pure text
  | .expression name operator => do
    let value ← lookup name
    pure (operator.apply (value.getD []))
  | .default name trigger body => do
    let value ← lookup name
    match trigger.settled? value with
    | some text => pure text
    | none => Template.evaluate lookup body

/-- The texts of all nodes, one after the other. -/
def Template.evaluate (lookup : Text → m (Option Text)) : List Node → m Text
  | [] => pure []
  | node :: rest => do
    let text ← node.evaluate lookup
    let more ← Template.evaluate lookup rest
    pure (text ++ more)

end

end

/-- A lookup that keeps a record of the names, the latest first. -/
def recorded (lookup : Text → Option Text) (name : Text) : StateM (List Text) (Option Text) := do
  modify (name :: ·)
  pure (lookup name)

/-- A lookup that keeps a record of the names, the latest first, and fails on an unknown name after
    it is recorded. -/
def strict (known : Text → Bool) (lookup : Text → Option Text) (name : Text) :
    ExceptT Text (StateM (List Text)) (Option Text) := do
  let value ← (recorded lookup name : StateM (List Text) (Option Text))
  if known name then pure value else throw name

namespace Template

/-- The text of a template under a lookup. -/
def render (lookup : Text → Option Text) (template : Template) : Text :=
  (evaluate (fun name => (pure (lookup name) : Id (Option Text))) template).run

@[simp] theorem render_nil (lookup : Text → Option Text) : render lookup [] = [] := rfl

theorem render_cons (lookup : Text → Option Text) (node : Node) (rest : Template) :
    render lookup (node :: rest) = render lookup [node] ++ render lookup rest := by
  simp [render, evaluate]

@[simp] theorem render_literal (lookup : Text → Option Text) (text : Text) :
    render lookup [.literal text] = text := by
  simp [render, evaluate, Node.evaluate]

@[simp] theorem render_expression (lookup : Text → Option Text) (name : Text) (operator : Operator) :
    render lookup [.expression name operator] = operator.apply ((lookup name).getD []) := by
  simp [render, evaluate, Node.evaluate]

/-- A default gives the value that settles it, and its body otherwise. -/
@[simp] theorem render_default (lookup : Text → Option Text) (name : Text) (trigger : Trigger) (body : Template) :
    render lookup [.default name trigger body] = (trigger.settled? (lookup name)).getD (render lookup body) := by
  simp only [render, evaluate, Node.evaluate]
  cases settled : trigger.settled? (lookup name) <;> simp [settled]

/-- The text of a template and the names asked for, in order. -/
def consult (lookup : Text → Option Text) (template : Template) : Text × List Text :=
  let (text, names) := (evaluate (recorded lookup) template).run []
  (text, names.reverse)

/-- The text of a template or the unknown name that was asked for, and the names asked for, in
    order. -/
def consultStrict (known : Text → Bool) (lookup : Text → Option Text) (template : Template) :
    Except Text Text × List Text :=
  let (result, names) := (evaluate (strict known lookup) template).run.run []
  (result, names.reverse)

/-- The text that a text expands to under a lookup, or the first fault of its template. -/
def expand (lookup : Text → Option Text) (text : Text) : Except Fault Text :=
  (parse text).map (render lookup)

end Template

end ShellTemplate
