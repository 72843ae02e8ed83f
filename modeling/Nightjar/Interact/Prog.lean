/-!
# Programs that return or raise

A `Prog σ ε α` runs from a state, and ends in a state with either a value or an exception. It
is the shape of a sequential program in a language with exceptions whose every effect (a call,
an observation, a write) is a change of the state. The state is kept when an exception is
raised, so a handler sees what was done before it.

`Triple P p Q E` is the partial-correctness judgement with two postconditions: from a state in
`P` the program either returns with `Q` or raises with `E`. Every program here terminates, so
nothing is lost. The rules below follow the constructors of a program; `forStream` is the one
loop, over a finite stream that ends or raises.
-/

namespace Interact

/-- A program over states `σ` with exceptions `ε` and results `α`. -/
def Prog (σ ε α : Type) : Type := σ → Except ε α × σ

namespace Prog

variable {σ ε α β ι : Type}

/-- `pure` returns without touching the state; an exception of the first program of a sequence
    skips the second. -/
instance : Monad (Prog σ ε) where
  pure a := fun s => (.ok a, s)
  bind p f := fun s =>
    match p s with
    | (.ok a, s') => f a s'
    | (.error e, s') => (.error e, s')

/-- When the first program returns, the second runs from its state. -/
theorem bind_of_returns {p : Prog σ ε α} {f : α → Prog σ ε β} {s s' : σ} {a : α}
    (returns : p s = (.ok a, s')) : (p >>= f) s = f a s' := by
  simp only [bind, returns]

/-- When the first program raises, the sequence raises. -/
theorem bind_of_raises {p : Prog σ ε α} {f : α → Prog σ ε β} {s s' : σ} {e : ε}
    (raises : p s = (.error e, s')) : (p >>= f) s = (.error e, s') := by
  simp only [bind, raises]

/-- A sequence that returns is one of programs that return. -/
theorem returned_bind {p : Prog σ ε α} {f : α → Prog σ ε β} {s t : σ} {b : β}
    (returned : (p >>= f) s = (.ok b, t)) :
    ∃ a s', p s = (.ok a, s') ∧ f a s' = (.ok b, t) := by
  cases ran : p s with
  | mk outcome s' =>
    cases outcome with
    | ok a =>
      rw [bind_of_returns ran] at returned
      exact ⟨a, s', rfl, returned⟩
    | error e =>
      rw [bind_of_raises ran] at returned
      cases returned

/-- `raise e`. -/
def raise (e : ε) : Prog σ ε α := fun s => (.error e, s)

/-- `try p except e: h e`, the handler seeing the state `p` left. -/
def handle (p : Prog σ ε α) (h : ε → Prog σ ε α) : Prog σ ε α := fun s =>
  match p s with
  | (.ok a, s') => (.ok a, s')
  | (.error e, s') => h e s'

/-- `try p finally q`: `q` runs in either case, and its own exception replaces the outcome. -/
def finally_ (p : Prog σ ε α) (q : Prog σ ε Unit) : Prog σ ε α := fun s =>
  match p s with
  | (r, s') =>
    match q s' with
    | (.ok _, s'') => (r, s'')
    | (.error e, s'') => (.error e, s'')

/-- Read the state. -/
def read : Prog σ ε σ := fun s => (.ok s, s)

/-- Change the state. -/
def modify (f : σ → σ) : Prog σ ε Unit := fun s => (.ok (), f s)

/-- A pure computation that may fail. -/
def lift (r : Except ε α) : Prog σ ε α := fun s => (r, s)

/-- Raise when there is something to raise. -/
def raiseOption : Option ε → Prog σ ε Unit
  | none => pure ()
  | some e => raise e

/-- A program over a part of the state. -/
def zoom {τ : Type} (get : σ → τ) (set : τ → σ → σ) (p : Prog τ ε α) : Prog σ ε α := fun s =>
  match p (get s) with
  | (r, t) => (r, set t s)

theorem handle_of_returns {p : Prog σ ε α} {h : ε → Prog σ ε α} {s s' : σ} {a : α}
    (returns : p s = (.ok a, s')) : handle p h s = (.ok a, s') := by
  simp only [handle, returns]

theorem handle_of_raises {p : Prog σ ε α} {h : ε → Prog σ ε α} {s s' : σ} {e : ε}
    (raises : p s = (.error e, s')) : handle p h s = h e s' := by
  simp only [handle, raises]

theorem zoom_of_run {τ : Type} {get : σ → τ} {set : τ → σ → σ} {p : Prog τ ε α} {s : σ} {t : τ}
    {r : Except ε α} (run : p (get s) = (r, t)) : zoom get set p s = (r, set t s) := by
  simp only [zoom, run]

/-- How a finite stream ends: it is exhausted, or asking for the next item raises. -/
inductive Ending (ε : Type) where
  | exhausted
  | raised (e : ε)
  deriving DecidableEq, Repr

/-- `for item in stream: body`, with `body` leaving the loop by returning `some`; `none` is the
    `else` branch of the loop. -/
def forStream (body : ι → Prog σ ε (Option β)) : List ι → Ending ε → Prog σ ε (Option β)
  | [], .exhausted => pure none
  | [], .raised e => raise e
  | item :: items, ending => do
      match ← body item with
      | some b => pure (some b)
      | none => forStream body items ending

/-- From a state in `P`, `p` returns in `Q` or raises in `E`. -/
def Triple (P : σ → Prop) (p : Prog σ ε α) (Q : α → σ → Prop) (E : ε → σ → Prop) : Prop :=
  ∀ s, P s → match p s with
    | (.ok a, s') => Q a s'
    | (.error e, s') => E e s'

section Rules

variable {P K : σ → Prop} {Q Q' : α → σ → Prop} {R : β → σ → Prop} {E E' : ε → σ → Prop}
  {p : Prog σ ε α} {f : α → Prog σ ε β}

theorem triple_pure {a : α} (post : ∀ s, P s → Q a s) : Triple P (pure a) Q E :=
  fun s pre => post s pre

theorem triple_raise {e : ε} (post : ∀ s, P s → E e s) : Triple P (raise e) Q E :=
  fun s pre => post s pre

theorem triple_lift {r : Except ε α} (returns : ∀ a s, r = .ok a → P s → Q a s)
    (raises : ∀ e s, r = .error e → P s → E e s) : Triple P (lift r) Q E := by
  intro s pre
  cases r with
  | ok a => exact returns a s rfl pre
  | error e => exact raises e s rfl pre

theorem triple_modify {f : σ → σ} {Q : Unit → σ → Prop} (post : ∀ s, P s → Q () (f s)) :
    Triple P (modify f) Q E := fun s pre => post s pre

theorem triple_read {Q : σ → σ → Prop} (post : ∀ s, P s → Q s s) : Triple P read Q E :=
  fun s pre => post s pre

/-- Sequencing: the first program's postcondition is the second's precondition. -/
theorem triple_bind (first : Triple P p Q E) (second : ∀ a, Triple (Q a) (f a) R E) :
    Triple P (p >>= f) R E := by
  intro s pre
  have ran := first s pre
  simp only [bind]
  cases run : p s with
  | mk r s' =>
    rw [run] at ran
    cases r with
    | ok a => exact second a s' ran
    | error e => exact ran

/-- A read binds the state the continuation starts from. -/
theorem triple_bind_read {f : σ → Prog σ ε β}
    (rest : ∀ s, P s → Triple (fun t => t = s) (f s) R E) :
    Triple P (read >>= f) R E := fun s pre => rest s pre s rfl

/-- A handler starts where the body raised. -/
theorem triple_handle {h : ε → Prog σ ε α} (body : Triple P p Q E)
    (handler : ∀ e, Triple (E e) (h e) Q E') : Triple P (handle p h) Q E' := by
  intro s pre
  have ran := body s pre
  unfold handle
  cases run : p s with
  | mk r s' =>
    rw [run] at ran
    cases r with
    | ok a => exact ran
    | error e => exact handler e s' ran

theorem triple_conseq (strong : Triple K p Q' E') (pre : ∀ s, P s → K s)
    (post : ∀ a s, Q' a s → Q a s) (except : ∀ e s, E' e s → E e s) : Triple P p Q E := by
  intro s holds
  have ran := strong s (pre s holds)
  cases run : p s with
  | mk r s' =>
    rw [run] at ran
    cases r with
    | ok a => exact post a s' ran
    | error e => exact except e s' ran

theorem triple_pre (strong : Triple K p Q E) (pre : ∀ s, P s → K s) : Triple P p Q E :=
  triple_conseq strong pre (fun _ _ h => h) fun _ _ h => h

theorem triple_post (strong : Triple P p Q' E) (post : ∀ a s, Q' a s → Q a s) :
    Triple P p Q E :=
  triple_conseq strong (fun _ h => h) post fun _ _ h => h

theorem triple_except (strong : Triple P p Q E') (except : ∀ e s, E' e s → E e s) :
    Triple P p Q E :=
  triple_conseq strong (fun _ h => h) (fun _ _ h => h) except

/-- Two judgements of one program hold together. -/
theorem triple_and (first : Triple P p Q E) (second : Triple K p Q' E') :
    Triple (fun s => P s ∧ K s) p (fun a s => Q a s ∧ Q' a s) (fun e s => E e s ∧ E' e s) := by
  intro s ⟨pre, pre'⟩
  have ran := first s pre
  have ran' := second s pre'
  cases run : p s with
  | mk r s' =>
    rw [run] at ran ran'
    cases r with
    | ok a => exact ⟨ran, ran'⟩
    | error e => exact ⟨ran, ran'⟩

theorem triple_true : Triple P p (fun _ _ => True) (fun _ _ => True) := by
  intro s _
  cases run : p s with
  | mk r s' => cases r <;> trivial

/-- A precondition with a witness is met for each witness. -/
theorem triple_exists {κ : Type} {P : κ → σ → Prop} (each : ∀ k, Triple (P k) p Q E) :
    Triple (fun s => ∃ k, P k s) p Q E := fun s ⟨k, pre⟩ => each k s pre

/-- A fact of the precondition that does not speak of the state. -/
theorem triple_fact {φ : Prop} (given : φ → Triple P p Q E) :
    Triple (fun s => φ ∧ P s) p Q E := fun s ⟨fact, pre⟩ => given fact s pre

/-- A program may be followed from each state that the precondition allows. -/
theorem triple_from (each : ∀ s₀, P s₀ → Triple (fun s => s = s₀) p Q E) : Triple P p Q E :=
  fun s pre => each s pre s rfl

theorem triple_raiseOption {r : Option ε} {Q : Unit → σ → Prop}
    (returns : ∀ s, r = none → P s → Q () s)
    (raises : ∀ e s, r = some e → P s → E e s) : Triple P (raiseOption r) Q E := by
  intro s pre
  cases r with
  | none => exact returns s rfl pre
  | some e => exact raises e s rfl pre

/-- The loop rule, with an invariant that says which items were done. The loop is left with
    `some` through `Q`, falls through to its `else` branch with all items done, and an exception
    of the stream leaves the invariant, too. -/
theorem triple_forStream {body : ι → Prog σ ε (Option β)} {Q : β → σ → Prop}
    {I : List ι → σ → Prop} {ending : Ending ε} :
    ∀ (items done : List ι),
      (∀ before item after, items = before ++ item :: after →
        Triple (I (done ++ before)) (body item)
          (fun r s => match r with
            | some b => Q b s
            | none => I (done ++ before ++ [item]) s) E) →
      (∀ e s, ending = .raised e → I (done ++ items) s → E e s) →
      Triple (I done) (forStream body items ending)
        (fun r s => match r with
          | some b => Q b s
          | none => I (done ++ items) s) E := by
  intro items
  induction items with
  | nil =>
    intro done step raises
    rw [List.append_nil] at raises ⊢
    cases ending with
    | exhausted => exact triple_pure fun s pre => pre
    | raised e => exact triple_raise fun s pre => raises e s rfl pre
  | cons item items ih =>
    intro done step raises
    have first := step [] item items rfl
    rw [List.append_nil] at first
    refine triple_bind first fun r => ?_
    cases r with
    | some b => exact triple_pure fun s left => left
    | none =>
      rw [List.append_cons done item items] at raises ⊢
      refine ih (done ++ [item]) ?_ raises
      intro before next after split
      have later := step (item :: before) next after (by rw [split]; rfl)
      rwa [List.append_cons done item before] at later

/-- A program over a part of the state, from a postcondition about that part. -/
theorem triple_zoom {τ : Type} {get : σ → τ} {set : τ → σ → σ} {p : Prog τ ε α}
    (returns : ∀ s a t, P s → p (get s) = (.ok a, t) → Q a (set t s))
    (raises : ∀ s e t, P s → p (get s) = (.error e, t) → E e (set t s)) :
    Triple P (zoom get set p) Q E := by
  intro s pre
  unfold zoom
  cases run : p (get s) with
  | mk r t =>
    cases r with
    | ok a => exact returns s a t pre run
    | error e => exact raises s e t pre run

/-- A run is its outcome and the state it leaves. -/
theorem run_eq {s : σ} {r : Except ε α} (outcome : (p s).1 = r) : p s = (r, (p s).2) :=
  Prod.ext outcome rfl

/-- What a triple says of a run that returned. -/
theorem Triple.returned (triple : Triple P p Q E) {s s' : σ} {a : α} (pre : P s)
    (run : p s = (.ok a, s')) : Q a s' := by
  have ran := triple s pre
  rwa [run] at ran

/-- What a triple says of a run that raised. -/
theorem Triple.raised (triple : Triple P p Q E) {s s' : σ} {e : ε} (pre : P s)
    (run : p s = (.error e, s')) : E e s' := by
  have ran := triple s pre
  rwa [run] at ran

end Rules

end Prog

end Interact
