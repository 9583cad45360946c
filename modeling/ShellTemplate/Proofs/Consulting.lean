import ShellTemplate.Template.Evaluation

/-!
# Which variables are asked for

The names that evaluating a template asks for follow from the template and from which variables are unset,
empty or neither. Beyond that no value has a part in it, and the values of variables that are not asked for
have no part in the text. Whatever a lookup does beside giving the values, to evaluate a template is to ask for
these names and to give the text at the end (`Template.evaluate_eq`).
-/

namespace ShellTemplate

/-- How a variable stands, its value left out. -/
inductive Standing where
  | unset
  | empty
  | filled
  deriving DecidableEq

/-- How a variable stands under a lookup. -/
def Standing.under (lookup : Text → Option Text) (name : Text) : Standing :=
  match lookup name with
  | none => .unset
  | some [] => .empty
  | some (_ :: _) => .filled

/-- Whether a default takes the place of a variable. -/
def Trigger.takesOver : Trigger → Standing → Bool
  | .unset, standing => standing = .unset
  | .unsetOrEmpty, standing => standing ≠ .filled

mutual

/-- The names that a node asks for: that of an expression once, and those of a body only where its default takes
    the place of the variable. -/
def Node.asks (standing : Text → Standing) : Node → List Text
  | .literal _ => []
  | .expression name _ => [name]
  | .default name trigger body =>
    name :: if trigger.takesOver (standing name) then Template.asks standing body else []

/-- The names that a template asks for, node after node. -/
def Template.asks (standing : Text → Standing) : List Node → List Text
  | [] => []
  | node :: rest => node.asks standing ++ Template.asks standing rest

end

theorem Trigger.takesOver_under (trigger : Trigger) (lookup : Text → Option Text) (name : Text) :
    trigger.takesOver (.under lookup name) = (trigger.settled? (lookup name)).isNone := by
  unfold Standing.under
  rcases lookup name with _ | _ | ⟨s, rest⟩ <;> cases trigger <;> rfl

section
variable {lookup : Text → Option Text} {name : Text} {trigger : Trigger}

theorem asks_default_settled {text : Text} (settled : trigger.settled? (lookup name) = some text) (body : Template) :
    Node.asks (.under lookup) (.default name trigger body) = [name] := by
  simp [Node.asks, Trigger.takesOver_under, settled]

theorem asks_default_taken (taken : trigger.settled? (lookup name) = none) (body : Template) :
    Node.asks (.under lookup) (.default name trigger body) = name :: Template.asks (.under lookup) body := by
  simp [Node.asks, Trigger.takesOver_under, taken]

end

/-! ## Evaluation as asking for names -/

section
variable {m : Type → Type} [Monad m]

/-- Whether a lookup with effects gives the values of a plain one, whatever else it does. -/
def AnswersAs (effectful : Text → m (Option Text)) (lookup : Text → Option Text) : Prop :=
  ∀ name, effectful name = do
    discard (effectful name)
    pure (lookup name)

/-- Asks for names one after the other. -/
def askAll (effectful : Text → m (Option Text)) (names : List Text) : m PUnit :=
  names.forM fun name => discard (effectful name)

variable {effectful : Text → m (Option Text)}

theorem askAll_nil : askAll effectful [] = pure ⟨⟩ := rfl

theorem askAll_cons (name : Text) (names : List Text) :
    askAll effectful (name :: names) = discard (effectful name) >>= fun _ => askAll effectful names := rfl

variable [LawfulMonad m]

theorem askAll_append (front back : List Text) :
    askAll effectful (front ++ back) = askAll effectful front >>= fun _ => askAll effectful back := List.forM_append

variable {lookup : Text → Option Text}

theorem AnswersAs.bind (answers : AnswersAs effectful lookup) (name : Text) {β : Type} (next : Option Text → m β) :
    effectful name >>= next = discard (effectful name) >>= fun _ => next (lookup name) :=
  calc effectful name >>= next
    _ = (discard (effectful name) >>= fun _ => pure (lookup name)) >>= next := by rw [← answers name]
    _ = discard (effectful name) >>= fun _ => next (lookup name) := by simp only [bind_assoc, pure_bind]

mutual

/-- To evaluate a node is to ask for its names, and to give its text at the end. -/
theorem Node.evaluate_eq (answers : AnswersAs effectful lookup) (node : Node) :
    node.evaluate effectful = askAll effectful (node.asks (.under lookup)) >>= fun _ => pure (Template.render lookup [node]) := by
  cases node with
  | literal text => simp [Node.evaluate, Node.asks, askAll_nil]
  | expression name operator => simp [Node.evaluate, Node.asks, answers.bind, askAll_nil, askAll_cons]
  | default name trigger body =>
    rw [Node.evaluate, answers.bind]
    cases settled : trigger.settled? (lookup name) with
    | some text => simp [askAll_nil, askAll_cons, settled, asks_default_settled settled]
    | none =>
      have inside := Template.evaluate_eq answers body
      simp [askAll_cons, settled, asks_default_taken settled, inside]

/-- To evaluate a template is to ask for its names, and to give its text at the end. -/
theorem Template.evaluate_eq (answers : AnswersAs effectful lookup) (template : Template) :
    Template.evaluate effectful template =
      askAll effectful (Template.asks (.under lookup) template) >>= fun _ => pure (Template.render lookup template) := by
  cases template with
  | nil => simp [Template.evaluate, Template.asks, askAll_nil]
  | cons node rest =>
    have first := Node.evaluate_eq answers node
    have later := Template.evaluate_eq answers rest
    rw [Template.evaluate, Template.asks, Template.render_cons, askAll_append, first]
    simp [later]

end

end

/-! ## The record of a lookup -/

theorem answersAs_recorded (lookup : Text → Option Text) : AnswersAs (recorded lookup) lookup := fun _ => rfl

theorem run_askAll_recorded (lookup : Text → Option Text) (asked names : List Text) :
    (askAll (recorded lookup) asked).run names = pure (⟨⟩, asked.reverse ++ names) := by
  induction asked generalizing names with
  | nil => rfl
  | cons name asked ih =>
    have later := ih (name :: names)
    rw [List.reverse_cons, List.append_assoc]
    exact later

/-- A template gives its text and adds the names that it asks for to the record, the latest first. -/
theorem Template.run_evaluate (lookup : Text → Option Text) (template : Template) (names : List Text) :
    (Template.evaluate (recorded lookup) template).run names =
      pure (Template.render lookup template, (Template.asks (.under lookup) template).reverse ++ names) := by
  rw [Template.evaluate_eq (answersAs_recorded lookup), StateT.run_bind, run_askAll_recorded]
  rfl

/-! ## What the text depends on -/

section
variable {first second : Text → Option Text}

mutual

theorem Node.render_congr (node : Node) (same : ∀ name ∈ node.asks (.under first), first name = second name) :
    Template.render first [node] = Template.render second [node] := by
  cases node with
  | literal text => simp
  | expression name operator =>
    have here := same name (by simp [Node.asks])
    simp [here]
  | default name trigger body =>
    have here := same name (by simp [Node.asks])
    cases settled : trigger.settled? (first name) with
    | some text => simp [← here, settled]
    | none =>
      rw [asks_default_taken settled] at same
      have inside := Template.render_congr body fun name asked => same name (List.mem_cons_of_mem _ asked)
      simp [← here, settled, inside]

/-- Lookups that agree on the names asked for give the same text. -/
theorem Template.render_congr (template : Template)
    (same : ∀ name ∈ Template.asks (.under first) template, first name = second name) :
    Template.render first template = Template.render second template := by
  cases template with
  | nil => rfl
  | cons node rest =>
    rw [Template.asks] at same
    have front := Node.render_congr node fun name asked => same name (List.mem_append_left _ asked)
    have back := Template.render_congr rest fun name asked => same name (List.mem_append_right _ asked)
    rw [Template.render_cons, front, back, ← Template.render_cons]

end

end

namespace Template

theorem consult_eq (lookup : Text → Option Text) (template : Template) :
    consult lookup template = (render lookup template, asks (.under lookup) template) := by
  unfold consult
  rw [run_evaluate]
  simp [pure]

/-- Two lookups under which every variable stands the same ask for the same names in the same order. If they also
    agree on the values of these names, they give the same text. -/
theorem consult_of_same_standing {first second : Text → Option Text}
    (agree : ∀ name, Standing.under first name = Standing.under second name) (template : Template) :
    (consult first template).2 = asks (.under first) template ∧
      (consult second template).2 = (consult first template).2 ∧
        ((∀ name ∈ (consult first template).2, first name = second name) →
          (consult first template).1 = (consult second template).1) := by
  have standing : Standing.under first = Standing.under second := funext agree
  rw [consult_eq, consult_eq]
  refine ⟨rfl, by rw [standing], ?_⟩
  intro same
  exact render_congr template same

theorem consult_of_same_standing_unasked :
    let lookup (value name : Text) : Option Text :=
      if name = [.char 'a'] then some [] else if name = [.char 'b'] then some value
      else if name = [.char 'c'] then some (Text.ofString "x") else none
    let first := lookup (Text.ofString "1")
    let second := lookup (Text.ofString "23")
    let template : Template := [.default [.char 'a'] .unset [.expression [.char 'b'] .value], .expression [.char 'c'] .value,
      .default [.char 'd'] .unsetOrEmpty [.expression [.char 'c'] .value]]
    (∀ name, Standing.under first name = Standing.under second name) ∧
      (consult second template).2 = [[.char 'a'], [.char 'c'], [.char 'd'], [.char 'c']] ∧
        (∀ name ∈ (consult first template).2, first name = second name) ∧
          (consult second template).1 = Text.ofString "xx" := by
  intro lookup first second template
  have agree : ∀ name, Standing.under first name = Standing.under second name := by
    intro name
    by_cases unasked : name = [.char 'b']
    · subst unasked
      rfl
    · simp [Standing.under, first, second, lookup, unasked]
  obtain ⟨asked, calls, text⟩ := consult_of_same_standing agree template
  have names : asks (.under first) template = [[.char 'a'], [.char 'c'], [.char 'd'], [.char 'c']] := rfl
  rw [names] at asked
  have same : ∀ name ∈ (consult first template).2, first name = second name := by
    rw [asked]
    decide
  exact ⟨agree, calls.trans asked, same, (text same).symm.trans rfl⟩

end Template

end ShellTemplate
