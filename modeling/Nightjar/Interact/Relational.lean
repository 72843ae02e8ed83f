import Nightjar.Interact.Prog

/-!
# Two programs side by side

`Relates R p q Q E`: from states related by `R` both programs return, with results and states
related by `Q`, or both raise, with exceptions and states related by `E`. `Lockstep R p q` is the
case where the two return the same result or raise the same exception and stay related. There is
one rule for each combinator.
-/

namespace Interact

namespace Prog

variable {σ ε α β ι : Type}

/-- Two programs run to related outcomes. -/
def Relates (R : σ → σ → Prop) (p q : Prog σ ε α) (Q : α → α → σ → σ → Prop)
    (E : ε → ε → σ → σ → Prop) : Prop :=
  ∀ s t, R s t → match p s, q t with
    | (.ok a, s'), (.ok b, t') => Q a b s' t'
    | (.error e, s'), (.error f, t') => E e f s' t'
    | _, _ => False

/-- Two programs run to the same outcome and keep their states related. -/
def Lockstep (R : σ → σ → Prop) (p q : Prog σ ε α) : Prop :=
  Relates R p q (fun a b s t => a = b ∧ R s t) fun e f s t => e = f ∧ R s t

section Rules

variable {R R' : σ → σ → Prop} {p q : Prog σ ε α} {Q Q' : α → α → σ → σ → Prop}
  {Q₂ : β → β → σ → σ → Prop} {E E' : ε → ε → σ → σ → Prop} {f g : α → Prog σ ε β}

theorem relates_pure {a b : α} (post : ∀ s t, R s t → Q a b s t) :
    Relates R (pure a) (pure b) Q E :=
  fun s t pre => post s t pre

theorem relates_raise {e e' : ε} (post : ∀ s t, R s t → E e e' s t) :
    Relates R (raise e) (raise e') Q E :=
  fun s t pre => post s t pre

/-- Programs whose runs are known. -/
theorem relates_of_returns (runs : ∀ s t, R s t → ∃ a b s' t', p s = (.ok a, s') ∧
    q t = (.ok b, t') ∧ Q a b s' t') : Relates R p q Q E := by
  intro s t pre
  obtain ⟨a, b, s', t', left, right, post⟩ := runs s t pre
  rw [left, right]
  exact post

/-- Sequencing: what relates the results of the first programs is assumed of the second. -/
theorem relates_bind (first : Relates R p q Q E)
    (second : ∀ a b, Relates (Q a b) (f a) (g b) Q₂ E) : Relates R (p >>= f) (q >>= g) Q₂ E := by
  intro s t pre
  have ran := first s t pre
  simp only [bind]
  cases left : p s with
  | mk r s' =>
    cases right : q t with
    | mk r' t' =>
      rw [left, right] at ran
      cases r with
      | ok a =>
        cases r' with
        | ok b => exact second a b s' t' ran
        | error e => exact ran.elim
      | error e =>
        cases r' with
        | ok b => exact ran.elim
        | error e' => exact ran

/-- Programs that start by reading their states. -/
theorem relates_bind_read {f g : σ → Prog σ ε β}
    (rest : ∀ s t, R s t → Relates (fun s' t' => s' = s ∧ t' = t) (f s) (g t) Q₂ E) :
    Relates R (read >>= f) (read >>= g) Q₂ E :=
  fun s t pre => rest s t pre s t ⟨rfl, rfl⟩

/-- The handlers start where the bodies raised. -/
theorem relates_handle {h k : ε → Prog σ ε α} (body : Relates R p q Q E)
    (handler : ∀ e e', Relates (E e e') (h e) (k e') Q E') :
    Relates R (handle p h) (handle q k) Q E' := by
  intro s t pre
  have ran := body s t pre
  unfold handle
  cases left : p s with
  | mk r s' =>
    cases right : q t with
    | mk r' t' =>
      rw [left, right] at ran
      cases r with
      | ok a =>
        cases r' with
        | ok b => exact ran
        | error e => exact ran.elim
      | error e =>
        cases r' with
        | ok b => exact ran.elim
        | error e' => exact handler e e' s' t' ran

theorem relates_conseq (strong : Relates R' p q Q' E') (pre : ∀ s t, R s t → R' s t)
    (post : ∀ a b s t, Q' a b s t → Q a b s t) (except : ∀ e f s t, E' e f s t → E e f s t) :
    Relates R p q Q E := by
  intro s t holds
  have ran := strong s t (pre s t holds)
  cases left : p s with
  | mk r s' =>
    cases right : q t with
    | mk r' t' =>
      rw [left, right] at ran
      cases r with
      | ok a =>
        cases r' with
        | ok b => exact post a b s' t' ran
        | error e => exact ran.elim
      | error e =>
        cases r' with
        | ok b => exact ran.elim
        | error e' => exact except e e' s' t' ran

theorem relates_except (strong : Relates R p q Q E') (except : ∀ e f s t, E' e f s t → E e f s t) :
    Relates R p q Q E :=
  relates_conseq strong (fun _ _ h => h) (fun _ _ _ _ h => h) except

/-- A precondition with a witness is met for each witness. -/
theorem relates_exists {κ : Type} {R : κ → σ → σ → Prop} (each : ∀ k, Relates (R k) p q Q E) :
    Relates (fun s t => ∃ k, R k s t) p q Q E := fun s t ⟨k, pre⟩ => each k s t pre

/-- A fact of the precondition that does not speak of the states. -/
theorem relates_fact {φ : Prop} (given : φ → Relates R p q Q E) :
    Relates (fun s t => φ ∧ R s t) p q Q E := fun s t ⟨fact, pre⟩ => given fact s t pre

/-- What two related runs say of their outcomes. -/
theorem Relates.outcomes (relates : Relates R p q (fun a b s t => a = b ∧ R' s t)
    fun e f s t => e = f ∧ R' s t) {s t : σ} (pre : R s t) :
    (p s).1 = (q t).1 ∧ R' (p s).2 (q t).2 := by
  have ran := relates s t pre
  cases left : p s with
  | mk r s' =>
    cases right : q t with
    | mk r' t' =>
      rw [left, right] at ran
      cases r with
      | ok a =>
        cases r' with
        | ok b => exact ⟨congrArg Except.ok ran.1, ran.2⟩
        | error e => exact ran.elim
      | error e =>
        cases r' with
        | ok b => exact ran.elim
        | error e' => exact ⟨congrArg Except.error ran.1, ran.2⟩

end Rules

section Lockstep

variable {R : σ → σ → Prop} {p q : Prog σ ε α} {f g : α → Prog σ ε β}

theorem lockstep_pure (a : α) : Lockstep (ε := ε) R (pure a) (pure a) :=
  relates_pure fun _ _ pre => ⟨rfl, pre⟩

theorem lockstep_raise (e : ε) : Lockstep (α := α) R (raise e) (raise e) :=
  relates_raise fun _ _ pre => ⟨rfl, pre⟩

theorem lockstep_modify {m n : σ → σ} (keeps : ∀ s t, R s t → R (m s) (n t)) :
    Lockstep (ε := ε) R (modify m) (modify n) :=
  fun s t pre => ⟨rfl, keeps s t pre⟩

theorem lockstep_lift (r : Except ε α) : Lockstep R (lift r) (lift r) := by
  intro s t pre
  cases r with
  | ok a => exact ⟨rfl, pre⟩
  | error e => exact ⟨rfl, pre⟩

theorem lockstep_raiseOption (r : Option ε) : Lockstep R (raiseOption r) (raiseOption r) := by
  cases r with
  | none => exact lockstep_pure ()
  | some e => exact lockstep_raise e

theorem lockstep_bind (first : Lockstep R p q) (second : ∀ a, Lockstep R (f a) (g a)) :
    Lockstep R (p >>= f) (q >>= g) :=
  relates_bind first fun a _ => relates_fact fun same => same ▸ second a

theorem lockstep_handle {h k : ε → Prog σ ε α} (body : Lockstep R p q)
    (handler : ∀ e, Lockstep R (h e) (k e)) : Lockstep R (handle p h) (handle q k) :=
  relates_handle body fun e _ => relates_fact fun same => same ▸ handler e

/-- Two loops over the same stream. -/
theorem lockstep_forStream {body body' : ι → Prog σ ε (Option β)}
    (step : ∀ item, Lockstep R (body item) (body' item)) (ending : Ending ε) :
    ∀ items, Lockstep R (forStream body items ending) (forStream body' items ending) := by
  intro items
  induction items with
  | nil =>
    cases ending with
    | exhausted => exact lockstep_pure none
    | raised e => exact lockstep_raise e
  | cons item items ih =>
    refine lockstep_bind (step item) fun found => ?_
    cases found with
    | some b => exact lockstep_pure (some b)
    | none => exact ih

end Lockstep

end Prog

end Interact
