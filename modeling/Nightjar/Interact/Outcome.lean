import Nightjar.Interact.Prog

/-!
# Outcomes that do not depend on the state

`Ends p R`: from whatever state, the program returns or raises something that is in `R`. The rules
follow the constructors of a program, as those of `Triple` do.
-/

namespace Interact

namespace Prog

variable {σ ε α β ι : Type} {p : Prog σ ε α} {f : α → Prog σ ε β}

/-- However it is run, the program ends in this way. -/
def Ends (p : Prog σ ε α) (R : Except ε α → Prop) : Prop := ∀ s, R (p s).1

theorem ends_pure {a : α} {R : Except ε α → Prop} (post : R (.ok a)) :
    Ends (pure a : Prog σ ε α) R := fun _ => post

theorem ends_raise {e : ε} {R : Except ε α → Prop} (post : R (.error e)) :
    Ends (raise e : Prog σ ε α) R := fun _ => post

theorem ends_lift {r : Except ε α} {R : Except ε α → Prop} (post : R r) :
    Ends (lift r : Prog σ ε α) R := fun _ => post

theorem ends_modify (g : σ → σ) : Ends (modify g : Prog σ ε Unit) (· = .ok ()) := fun _ => rfl

theorem ends_raiseOption_none : Ends (raiseOption none : Prog σ ε Unit) (· = .ok ()) :=
  fun _ => rfl

theorem ends_conseq {Q R : Except ε α → Prop} (ends : Ends p Q) (post : ∀ r, Q r → R r) :
    Ends p R := fun s => post _ (ends s)

/-- A sequence ends as its second part does, or as the first raises. -/
theorem ends_bind {Q : Except ε α → Prop} {R : Except ε β → Prop} (first : Ends p Q)
    (returns : ∀ a, Q (.ok a) → Ends (f a) R) (raises : ∀ e, Q (.error e) → R (.error e)) :
    Ends (p >>= f) R := by
  intro s
  have ended := first s
  cases run : p s with
  | mk r s' =>
    rw [run] at ended
    cases r with
    | ok a =>
      rw [bind_of_returns run]
      exact returns a ended s'
    | error e =>
      rw [bind_of_raises run]
      exact raises e ended

/-- The first part returns a value that is known. -/
theorem ends_bind_ok {a : α} {R : Except ε β → Prop} (first : Ends p (· = .ok a))
    (rest : Ends (f a) R) : Ends (p >>= f) R := by
  refine ends_bind first ?_ ?_
  · intro b same
    cases same
    exact rest
  · intro e same
    cases same

/-- The first part returns a value of which something is known. -/
theorem ends_bind_where {Q : α → Prop} {R : Except ε β → Prop}
    (first : Ends p fun r => ∃ a, r = .ok a ∧ Q a) (rest : ∀ a, Q a → Ends (f a) R) :
    Ends (p >>= f) R := by
  refine ends_bind first ?_ ?_
  · intro a returned
    obtain ⟨b, same, known⟩ := returned
    cases same
    exact rest a known
  · intro e raised
    obtain ⟨b, same, -⟩ := raised
    cases same

/-- The first part raises an exception that is known. -/
theorem ends_bind_error {e : ε} {R : Except ε β → Prop} (first : Ends p (· = .error e))
    (post : R (.error e)) : Ends (p >>= f) R := by
  refine ends_bind first ?_ ?_
  · intro b same
    cases same
  · intro e' same
    cases same
    exact post

theorem ends_handle {h : ε → Prog σ ε α} {Q R : Except ε α → Prop} (body : Ends p Q)
    (returns : ∀ a, Q (.ok a) → R (.ok a)) (raises : ∀ e, Q (.error e) → Ends (h e) R) :
    Ends (handle p h) R := by
  intro s
  have ended := body s
  cases run : p s with
  | mk r s' =>
    rw [run] at ended
    cases r with
    | ok a =>
      rw [handle_of_returns run]
      exact returns a ended
    | error e =>
      rw [handle_of_raises run]
      exact raises e ended s'

/-- What is done at last changes nothing when it returns. -/
theorem ends_finally {q : Prog σ ε Unit} {R : Except ε α → Prop} (body : Ends p R)
    (last : Ends q (· = .ok ())) : Ends (finally_ p q) R := by
  intro s
  have ended := body s
  have done := last (p s).2
  simp only [finally_]
  cases run : p s with
  | mk r s' =>
    rw [run] at ended done
    cases after : q s' with
    | mk r' s'' =>
      rw [after] at done
      cases done
      exact ended

/-- A loop over items that come to an end leaves with the first that it leaves for. -/
theorem ends_forStream {body : ι → Prog σ ε (Option β)} {g : ι → Option β}
    (each : ∀ item, Ends (body item) (· = .ok (g item))) (items : List ι) :
    Ends (forStream body items .exhausted) (· = .ok (items.findSome? g)) := by
  induction items with
  | nil => exact ends_pure rfl
  | cons item items ih =>
    refine ends_bind_ok (each item) ?_
    rw [List.findSome?_cons]
    cases g item with
    | none => exact ih
    | some b => exact ends_pure rfl

end Prog

end Interact
