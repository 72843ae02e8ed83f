import Mathlib.Data.List.Induction

/-!
# Runs of a transition system

`step s l t`: the label `l` can lead from `s` to `t`. The label says which party moves and how. A
run is the list of its labels, so that an invariant may speak of the labels so far
(`Run.invariant`), and the moment before some step of a run is read off with `Run.before`.
-/

namespace Interact

variable {S L : Type}

/-- The labels can lead from the first state to the last. -/
def Run (step : S → L → S → Prop) : S → List L → S → Prop
  | s, [], t => s = t
  | s, l :: labels, t => ∃ m, step s l m ∧ Run step m labels t

namespace Run

variable {step : S → L → S → Prop} {s₀ s t : S} {labels more : List L} {l : L}

theorem start : Run step s [] s := rfl

theorem append_iff :
    Run step s₀ (labels ++ more) t ↔ ∃ s, Run step s₀ labels s ∧ Run step s more t := by
  induction labels generalizing s₀ with
  | nil =>
    constructor
    · exact fun ran => ⟨s₀, start, ran⟩
    · rintro ⟨s, rfl, ran⟩
      exact ran
  | cons l labels ih =>
    constructor
    · rintro ⟨m, next, ran⟩
      obtain ⟨s, first, second⟩ := ih.mp ran
      exact ⟨s, ⟨m, next, first⟩, second⟩
    · rintro ⟨s, ⟨m, next, first⟩, second⟩
      exact ⟨m, next, ih.mpr ⟨s, first, second⟩⟩

theorem single_iff : Run step s [l] t ↔ step s l t := by
  constructor
  · rintro ⟨m, next, rfl⟩
    exact next
  · exact fun next => ⟨t, next, rfl⟩

theorem snoc_iff :
    Run step s₀ (labels ++ [l]) t ↔ ∃ s, Run step s₀ labels s ∧ step s l t :=
  append_iff.trans (exists_congr fun _ => and_congr_right fun _ => single_iff)

/-- A run goes on where another ended. -/
theorem append (first : Run step s₀ labels s) (second : Run step s more t) :
    Run step s₀ (labels ++ more) t :=
  append_iff.mpr ⟨s, first, second⟩

theorem cons (next : step s₀ l s) (rest : Run step s labels t) : Run step s₀ (l :: labels) t :=
  ⟨s, next, rest⟩

/-- The moment before a step, the step, and what follows it. -/
theorem before {past rest : List L} (ran : Run step s₀ (past ++ l :: rest) t) :
    ∃ s s', Run step s₀ past s ∧ step s l s' ∧ Run step s' rest t := by
  obtain ⟨s, first, s', next, others⟩ := append_iff.mp ran
  exact ⟨s, s', first, next, others⟩

/-- An invariant of the labels so far and the state: it holds at the start, and each step that a
    run can take keeps it. -/
theorem invariant {I : List L → S → Prop} (init : I [] s₀)
    (keeps : ∀ labels s l t, Run step s₀ labels s → I labels s → step s l t →
      I (labels ++ [l]) t) :
    ∀ {labels s}, Run step s₀ labels s → I labels s := by
  intro labels
  induction labels using List.reverseRecOn with
  | nil =>
    rintro s rfl
    exact init
  | append_singleton labels l ih =>
    intro s ran
    obtain ⟨m, first, next⟩ := snoc_iff.mp ran
    exact keeps labels m l s first (ih first) next

/-- A reflexive and transitive relation that every step respects holds between the ends. -/
theorem related {R : S → S → Prop} (refl : ∀ s, R s s) (trans : ∀ a b c, R a b → R b c → R a c)
    (keeps : ∀ s l t, step s l t → R s t) (ran : Run step s₀ labels s) : R s₀ s :=
  invariant (I := fun _ s => R s₀ s) (refl s₀)
    (fun _ s l t _ so_far next => trans s₀ s t so_far (keeps s l t next)) ran

end Run

end Interact
