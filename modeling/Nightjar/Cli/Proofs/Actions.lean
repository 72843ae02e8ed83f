import Nightjar.Interact.Outcome
import Nightjar.Runtime

/-!
# How the actions of a process end

The rules of `Ends` for what a process does: asking the environment, recording an event, waiting for
an item of a stream, giving a command to the vehicle and printing a line.
-/

namespace Nightjar

open Python Interact Exec

section Actions

variable {N : Type} {α ι : Type} {env : Env N}

theorem ends_ask {answer : List (Event N) → α} {a : α} (constant : ∀ trace, answer trace = a) :
    Prog.Ends (ask answer : Exec N α) (· = .ok a) := by
  intro s
  exact congrArg Except.ok (constant s.trace)

/-- What is asked may depend on the trace. -/
theorem ends_ask_then {β : Type} {answer : List (Event N) → α} {next : α → Exec N β}
    {R : Except PyExc β → Prop} (rest : ∀ trace, Prog.Ends (next (answer trace)) R) :
    Prog.Ends (ask answer >>= next) R := fun s => rest s.trace s

theorem ends_emit (event : Event N) : Prog.Ends (emit event : Exec N Unit) (· = .ok ()) :=
  Prog.ends_modify _

/-- A loop over an exhausted stream finds the first item that it accepts. -/
theorem ends_await (record : ι → Event N) (accept : ι → Bool) (items : List ι) :
    Prog.Ends
      (Prog.forStream
        (fun item => do
          emit (record item)
          pure (if accept item then some item else none))
        items .exhausted : Exec N (Option ι))
      (· = .ok (items.find? accept)) := by
  have found : items.find? accept =
      items.findSome? fun item => if accept item then some item else none :=
    List.find?_eq_findSome?_guard
  rw [found]
  exact Prog.ends_forStream
    (fun item => Prog.ends_bind_ok (ends_emit (record item)) (Prog.ends_pure rfl)) items

theorem ends_awaitItem (record : ι → Event N) (accept : ι → Bool) (items : List ι)
    (ended : PyExc) :
    Prog.Ends (awaitItem record accept ⟨items, .exhausted⟩ ended)
      (· = match items.find? accept with
        | some item => .ok item
        | none => .error ended) := by
  refine Prog.ends_bind_ok (ends_await record accept items) ?_
  cases items.find? accept with
  | none => exact Prog.ends_raise rfl
  | some item => exact Prog.ends_pure rfl

theorem ends_command {c : Command N} (succeeds : ∀ trace, env.command trace c = none) :
    Prog.Ends (command env c) (· = .ok ()) :=
  Prog.ends_bind_ok (ends_emit _) (Prog.ends_bind_ok (ends_ask succeeds)
    (Prog.ends_bind_ok Prog.ends_raiseOption_none (ends_emit _)))

theorem ends_printStdout (prints : ∀ trace line, env.stdout trace line = none) (line : String) :
    Prog.Ends (printStdout env line) (· = .ok ()) :=
  Prog.ends_bind_ok (ends_ask fun trace => prints trace line)
    (Prog.ends_bind_ok (ends_emit _) Prog.ends_raiseOption_none)

end Actions

end Nightjar
