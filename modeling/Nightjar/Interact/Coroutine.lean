import Nightjar.Interact.Prog

/-!
# Coroutines

A coroutine awaits one operation after the other. It goes on with the value of the operation or
with the exception that the operation raised, and ends by returning or raising. `Follows` is a
coroutine after some replies; `Coro.run` is the sequential program in which every operation is
performed when it is awaited.
-/

namespace Interact

/-- A coroutine that awaits operations `O` with values `R`. -/
inductive Coro (O : Type) (R : O → Type) (ε α : Type) where
  | returned (a : α)
  | raised (e : ε)
  | await (op : O) (resume : Except ε (R op) → Coro O R ε α)

namespace Coro

variable {O : Type} {R : O → Type} {ε α β σ : Type}

/-- One after the other; an exception of the first skips the second. -/
def bind : Coro O R ε α → (α → Coro O R ε β) → Coro O R ε β
  | returned a, f => f a
  | raised e, _ => raised e
  | await op resume, f => await op fun reply => (resume reply).bind f

instance : Monad (Coro O R ε) where
  pure := returned
  bind := bind

/-- `await op`. -/
def perform (op : O) : Coro O R ε (R op) :=
  await op fun
    | .ok value => returned value
    | .error e => raised e

/-- A coroutine that has ended. -/
def ended : Except ε α → Coro O R ε α
  | .ok a => returned a
  | .error e => raised e

/-- The sequential program of a coroutine. -/
def run (perform : ∀ op, Prog σ ε (R op)) : Coro O R ε α → Prog σ ε α
  | returned a => fun s => (.ok a, s)
  | raised e => fun s => (.error e, s)
  | await op resume => fun s =>
    match perform op s with
    | (reply, s') => (resume reply).run perform s'

/-- The operations are awaited one after the other on some way through the coroutine. -/
def Awaits : Coro O R ε α → List O → Prop
  | _, [] => True
  | returned _, _ :: _ => False
  | raised _, _ :: _ => False
  | await op resume, o :: ops => o = op ∧ ∃ reply, (resume reply).Awaits ops

/-- What the coroutine raises is in `ok`, when the exceptions of its operations are. -/
def RaisesOnly (ok : ε → Prop) : Coro O R ε α → Prop
  | returned _ => True
  | raised e => ok e
  | await _ resume => ∀ reply, (∀ e, reply = .error e → ok e) → (resume reply).RaisesOnly ok

/-- A reply to an operation. -/
abbrev Reply (O : Type) (R : O → Type) (ε : Type) : Type := (op : O) × Except ε (R op)

/-- The coroutine after some replies. -/
inductive Follows (body : Coro O R ε α) : List (Reply O R ε) → Coro O R ε α → Prop
  | start : Follows body [] body
  | resume {replies : List (Reply O R ε)} {op : O} {resume : Except ε (R op) → Coro O R ε α}
      (reply : Except ε (R op)) (before : Follows body replies (await op resume)) :
      Follows body (replies ++ [⟨op, reply⟩]) (resume reply)

variable {body current : Coro O R ε α} {replies : List (Reply O R ε)}

/-- What is awaited after some replies is awaited after their operations. -/
theorem Follows.awaits (follows : Follows body replies current) :
    ∀ more, current.Awaits more → body.Awaits (replies.map Sigma.fst ++ more) := by
  induction follows with
  | start => exact fun _ awaits => awaits
  | @resume replies op resume reply before ih =>
    intro more awaits
    rw [List.map_append, List.append_assoc]
    exact ih (op :: more) ⟨rfl, reply, awaits⟩

theorem Awaits.nil (c : Coro O R ε α) : c.Awaits [] := by
  cases c <;> trivial

theorem Follows.raisesOnly {ok : ε → Prop} (follows : Follows body replies current)
    (raises : body.RaisesOnly ok)
    (replied : ∀ op e, (⟨op, .error e⟩ : Reply O R ε) ∈ replies → ok e) :
    current.RaisesOnly ok := by
  induction follows with
  | start => exact raises
  | @resume replies op resume reply before ih =>
    refine ih (fun op e member => replied op e (List.mem_append_left _ member)) reply ?_
    rintro e rfl
    exact replied op e (List.mem_append_right _ List.mem_cons_self)

section Perform

variable {op : O} {f : R op → Coro O R ε β} {ops : List O}

theorem awaits_pure {a : α} : (pure a : Coro O R ε α).Awaits ops ↔ ops = [] := by
  cases ops with
  | nil => exact iff_of_true trivial rfl
  | cons op ops => exact iff_of_false (fun awaits => awaits) nofun

theorem awaits_raised {e : ε} : (raised e : Coro O R ε α).Awaits ops ↔ ops = [] := by
  cases ops with
  | nil => exact iff_of_true trivial rfl
  | cons op ops => exact iff_of_false (fun awaits => awaits) nofun

/-- After an operation that returned its value comes what follows it. -/
theorem Awaits.of_perform (awaits : (perform op >>= f : Coro O R ε β).Awaits ops) :
    ops = [] ∨ ops = [op] ∨ ∃ value rest, ops = op :: rest ∧ (f value).Awaits rest := by
  cases ops with
  | nil => exact Or.inl rfl
  | cons first rest =>
    obtain ⟨rfl, reply, more⟩ := awaits
    cases reply with
    | ok value => exact Or.inr (Or.inr ⟨value, rest, rfl, more⟩)
    | error e => exact Or.inr (Or.inl (by rw [awaits_raised.mp more]))

theorem raisesOnly_perform {ok : ε → Prop} (rest : ∀ value, (f value).RaisesOnly ok) :
    (perform op >>= f : Coro O R ε β).RaisesOnly ok := by
  intro reply replied
  cases reply with
  | ok value => exact rest value
  | error e => exact replied e rfl

end Perform

section Sequential

variable {perform : ∀ op, Prog σ ε (R op)} {op : O}

/-- One coroutine after the other is one program after the other. -/
theorem run_bind (c : Coro O R ε α) (f : α → Coro O R ε β) :
    (c >>= f).run perform = c.run perform >>= fun a => (f a).run perform := by
  induction c with
  | returned a => rfl
  | raised e => rfl
  | await op resume ih =>
    funext s
    exact congrFun (ih (perform op s).1) (perform op s).2

theorem run_perform : (Coro.perform op : Coro O R ε (R op)).run perform = perform op := by
  funext s
  simp only [Coro.perform, run]
  cases ran : perform op s with
  | mk reply s' => cases reply <;> rfl

end Sequential

end Coro

end Interact
