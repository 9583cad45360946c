import ShellTemplate.Proofs.Consulting

/-!
# Lookups that fail

A strict lookup makes an evaluation stop at the first unknown name that is asked for. Up to there it asks for
what it would ask for anyway, so that the names asked for decide whether it fails, and with which name
(`consultStrict_cases`).
-/

namespace ShellTemplate

/-- Names are all known, or there is a first one among them that is not. -/
theorem all_known_or_first_unknown (known : Text → Bool) (names : List Text) :
    (∀ name ∈ names, known name = true) ∨
      ∃ front name back, names = front ++ name :: back ∧ (∀ other ∈ front, known other = true) ∧ known name = false := by
  cases found : names.find? (fun name => !known name) with
  | none => exact .inl (by simpa using found)
  | some name =>
    obtain ⟨unknown, front, back, split, before⟩ := List.find?_eq_some_iff_append.1 found
    exact .inr ⟨front, name, back, split, by simpa using before, by simpa using unknown⟩

section
variable {known : Text → Bool} {lookup : Text → Option Text}

theorem answersAs_strict : AnswersAs (strict known lookup) lookup := by
  intro name
  unfold strict
  cases known name with
  | true => rfl
  | false => rfl

variable {β : Type} (next : ExceptT Text (StateM (List Text)) β) (record : List Text)

/-- Asking for a name records it, and goes on only if the name is known. -/
theorem run_discard_strict (name : Text) :
    (discard (strict known lookup name) >>= fun _ => next).run.run record =
      if known name = true then next.run.run (name :: record) else pure (.error name, name :: record) := by
  unfold strict
  cases known name with
  | true => rfl
  | false => rfl

/-- Asking for known names records them and goes on. -/
theorem run_askAll_strict {names : List Text} (all : ∀ name ∈ names, known name = true) :
    (askAll (strict known lookup) names >>= fun _ => next).run.run record = next.run.run (names.reverse ++ record) := by
  induction names generalizing record with
  | nil => rfl
  | cons name names ih =>
    obtain ⟨here, others⟩ := List.forall_mem_cons.1 all
    rw [askAll_cons, bind_assoc, run_discard_strict, if_pos here, ih _ others, List.reverse_cons, List.append_assoc]
    rfl

end

namespace Template

/-- An evaluation whose lookup fails on unknown names stops at the first of them among the names that are asked for
    without such failures, and fails with it. Where none of these names is unknown, it asks for all of
    them and gives the same text. -/
theorem consultStrict_cases (known : Text → Bool) (lookup : Text → Option Text) (template : Template) :
    (∃ front name back, (consult lookup template).2 = front ++ name :: back ∧ (∀ other ∈ front, known other = true) ∧
        known name = false ∧ consultStrict known lookup template = (.error name, front ++ [name])) ∨
      (∀ name ∈ (consult lookup template).2, known name = true) ∧
        consultStrict known lookup template = (.ok (consult lookup template).1, (consult lookup template).2) := by
  rw [consult_eq, consultStrict, evaluate_eq answersAs_strict]
  rcases all_known_or_first_unknown known (asks (.under lookup) template) with all | ⟨front, name, back, split, before, unknown⟩
  · refine .inr ⟨all, ?_⟩
    rw [run_askAll_strict _ _ all]
    show (Except.ok _, ((asks (.under lookup) template).reverse ++ []).reverse) = _
    rw [List.append_nil, List.reverse_reverse]
  · refine .inl ⟨front, name, back, split, before, unknown, ?_⟩
    have refused : ¬ known name = true := by simp [unknown]
    rw [split, askAll_append, bind_assoc, run_askAll_strict _ _ before, askAll_cons, bind_assoc, run_discard_strict, if_neg refused]
    show (Except.error name, (name :: (front.reverse ++ [])).reverse) = _
    rw [List.append_nil, List.reverse_cons, List.reverse_reverse]

/-- The variable `a` is known and unset, so that its default is taken and asks for `b`. -/
example :
    consultStrict (· ≠ [.char 'b']) (fun _ => none)
        [.default [.char 'a'] .unset [.literal [.char 'x'], .expression [.char 'b'] .value], .expression [.char 'c'] .value] =
      (.error [.char 'b'], [[.char 'a'], [.char 'b']]) := rfl

end Template

end ShellTemplate
