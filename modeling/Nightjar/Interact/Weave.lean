import Mathlib.Data.List.Basic

/-!
# Histories and traces

A trace records everything that happened; a history lists the steps of an abstract account of it.
`Weave steps noise base history trace` says that `trace` continues `base`, and that its further
events are the steps of `history`, in order, with noise between them. Whether an event is a given
step, or noise, may depend on the trace before it.

The rules say how a weave grows and composes, what a projection of the trace is in terms of the
history (`filterMap_eq`), and what lies before a given event (`split`). A history is `Guarded` when
each of its steps that makes a claim comes after what warrants it; its traces inherit that.
-/

namespace Interact

/-- The trace is the base, then the steps of the history with noise between them. -/
inductive Weave {A E : Type} (steps : List E → A → E → Prop) (noise : List E → E → Prop)
    (base : List E) : List A → List E → Prop
  | start : Weave steps noise base [] base
  | step {history trace a e} (woven : Weave steps noise base history trace)
      (matching : steps trace a e) : Weave steps noise base (history ++ [a]) (trace ++ [e])
  | noise {history trace e} (woven : Weave steps noise base history trace)
      (noisy : noise trace e) : Weave steps noise base history (trace ++ [e])

namespace Weave

variable {A E γ : Type} {steps : List E → A → E → Prop} {noise : List E → E → Prop}
  {base trace trace' : List E} {history history' : List A}

/-- A weave goes on where another ended. -/
theorem append (first : Weave steps noise base history trace)
    (second : Weave steps noise trace history' trace') :
    Weave steps noise base (history ++ history') trace' := by
  induction second with
  | start => rwa [List.append_nil]
  | step _ matching ih =>
    rw [← List.append_assoc]
    exact ih.step matching
  | noise _ noisy ih => exact ih.noise noisy

/-- The trace extends its base. -/
theorem base_prefix (woven : Weave steps noise base history trace) : base <+: trace := by
  induction woven with
  | start => exact List.prefix_rfl
  | step _ _ ih => exact ih.trans (List.prefix_append _ _)
  | noise _ _ ih => exact ih.trans (List.prefix_append _ _)

/-- A projection that the steps determine and that ignores the noise reads off the history. -/
theorem filterMap_eq (f : E → Option γ) (g : A → Option γ)
    (reads : ∀ t a e, steps t a e → f e = g a) (ignores : ∀ t e, noise t e → f e = none)
    (woven : Weave steps noise base history trace) :
    trace.filterMap f = base.filterMap f ++ history.filterMap g := by
  induction woven with
  | start => simp
  | step woven matching ih =>
    rw [List.filterMap_append, List.filterMap_append, ih, List.append_assoc]
    simp [List.filterMap_cons, reads _ _ _ matching]
  | noise woven noisy ih =>
    rw [List.filterMap_append, ih]
    simp [ignores _ _ noisy]

/-- Before an event after the base lies a part of the history; the event is noise or the next
    step. -/
theorem split (woven : Weave steps noise base history trace) :
    ∀ {before after : List E} {e : E}, trace = before ++ e :: after →
      base.length ≤ before.length →
      ∃ past rest, Weave steps noise base past before ∧
        ((noise before e ∧ history = past ++ rest) ∨
          ∃ a, steps before a e ∧ history = past ++ a :: rest) := by
  induction woven with
  | start =>
    intro before after e same long
    have shorter := congrArg List.length same
    simp only [List.length_append, List.length_cons] at shorter
    omega
  | @step history trace a last woven matching ih =>
    intro before after e same long
    rcases List.eq_nil_or_concat after with rfl | ⟨after', last', rfl⟩
    · obtain ⟨rfl, single⟩ := List.append_inj' same rfl
      cases single
      exact ⟨history, [], woven, Or.inr ⟨a, matching, rfl⟩⟩
    · rw [List.concat_eq_append, ← List.cons_append, ← List.append_assoc] at same
      obtain ⟨same', single⟩ := List.append_inj' same rfl
      cases single
      obtain ⟨past, rest, woven', next⟩ := ih same' long
      refine ⟨past, rest ++ [a], woven', ?_⟩
      rcases next with ⟨noisy, rfl⟩ | ⟨b, matching', rfl⟩
      · exact Or.inl ⟨noisy, by rw [List.append_assoc]⟩
      · exact Or.inr ⟨b, matching', by rw [List.append_assoc, List.cons_append]⟩
  | @noise history trace last woven noisy ih =>
    intro before after e same long
    rcases List.eq_nil_or_concat after with rfl | ⟨after', last', rfl⟩
    · obtain ⟨rfl, single⟩ := List.append_inj' same rfl
      cases single
      exact ⟨history, [], woven, Or.inl ⟨noisy, by rw [List.append_nil]⟩⟩
    · rw [List.concat_eq_append, ← List.cons_append, ← List.append_assoc] at same
      obtain ⟨same', single⟩ := List.append_inj' same rfl
      cases single
      exact ih same' long

/-- A weave can be taken apart at a step of its history. -/
theorem at_step (woven : Weave steps noise base history trace) :
    ∀ {past rest : List A} {a : A}, history = past ++ a :: rest →
      ∃ before e, Weave steps noise base past before ∧ steps before a e ∧
        Weave steps noise (before ++ [e]) rest trace := by
  induction woven with
  | start =>
    intro past rest a same
    cases past <;> cases same
  | @step history trace last e woven matching ih =>
    intro past rest a same
    rcases List.eq_nil_or_concat rest with rfl | ⟨rest', last', rfl⟩
    · obtain ⟨rfl, single⟩ := List.append_inj' same rfl
      cases single
      exact ⟨trace, e, woven, matching, .start⟩
    · rw [List.concat_eq_append, ← List.cons_append, ← List.append_assoc] at same
      obtain ⟨same', single⟩ := List.append_inj' same rfl
      cases single
      obtain ⟨before, e', first, matching', second⟩ := ih same'
      rw [List.concat_eq_append]
      exact ⟨before, e', first, matching', second.step matching⟩
  | noise woven noisy ih =>
    intro past rest a same
    obtain ⟨before, e', first, matching', second⟩ := ih same
    exact ⟨before, e', first, matching', second.noise noisy⟩

/-- An event after the base is noise or a step of the history. -/
theorem mem {e : E} (woven : Weave steps noise base history trace) :
    ∀ {later : List E}, trace = base ++ later → e ∈ later →
      (∃ t, noise t e) ∨ ∃ a ∈ history, ∃ t, steps t a e := by
  induction woven with
  | start =>
    intro later same member
    rw [List.self_eq_append_right.mp same] at member
    cases member
  | @step history trace a last woven matching ih =>
    intro later same member
    obtain ⟨earlier, rfl⟩ := woven.base_prefix
    rw [List.append_assoc, List.append_cancel_left_eq] at same
    rw [← same] at member
    rcases List.mem_append.mp member with old | new
    · rcases ih rfl old with noisy | ⟨b, past, happened⟩
      · exact Or.inl noisy
      · exact Or.inr ⟨b, List.mem_append_left _ past, happened⟩
    · rw [List.mem_singleton.mp new]
      exact Or.inr ⟨a, List.mem_append_right _ (List.mem_singleton_self _), _, matching⟩
  | @noise history trace last woven noisy ih =>
    intro later same member
    obtain ⟨earlier, rfl⟩ := woven.base_prefix
    rw [List.append_assoc, List.append_cancel_left_eq] at same
    rw [← same] at member
    rcases List.mem_append.mp member with old | new
    · exact ih rfl old
    · rw [List.mem_singleton.mp new]
      exact Or.inl ⟨_, noisy⟩

/-- The events of certain steps form a sublist of the trace, in the order of the history. -/
theorem sublist (event : A → Option E)
    (occurs : ∀ t a e e', steps t a e → event a = some e' → e = e')
    (woven : Weave steps noise base history trace) :
    (history.filterMap event).Sublist (trace.drop base.length) := by
  induction woven with
  | start => simp
  | @step history trace a e woven matching ih =>
    rw [List.filterMap_append, List.drop_append_of_le_length woven.base_prefix.length_le]
    refine ih.append ?_
    cases found : event a with
    | none => simp [found]
    | some e' =>
      rw [occurs _ _ _ _ matching found]
      simp [found]
  | @noise history trace e woven noisy ih =>
    rw [List.drop_append_of_le_length woven.base_prefix.length_le]
    exact ih.trans (List.sublist_append_left _ _)

end Weave

/-- Every step of a history that makes a claim comes after a history that guards it. -/
def Guarded {A : Type} (claims : A → Prop) (guard : List A → Prop) (history : List A) : Prop :=
  ∀ past a rest, history = past ++ a :: rest → claims a → guard past

section Guarded

variable {A E : Type} {claims : A → Prop} {guard : List A → Prop} {history rest : List A}
  {steps : List E → A → E → Prop} {noise : List E → E → Prop} {base trace : List E}

/-- Without claims there is nothing to guard. -/
theorem guarded_of_none (none : ∀ a ∈ history, ¬ claims a) : Guarded claims guard history := by
  intro past a rest split claimed
  refine absurd claimed (none a ?_)
  rw [split]
  exact List.mem_append_right _ List.mem_cons_self

/-- A further step is guarded by the history before it. -/
theorem Guarded.concat {a : A} (guarded : Guarded claims guard history)
    (last : claims a → guard history) : Guarded claims guard (history ++ [a]) := by
  intro past b rest split claimed
  rcases List.eq_nil_or_concat rest with rfl | ⟨rest', c, rfl⟩
  · obtain ⟨rfl, single⟩ := List.append_inj' split rfl
    cases single
    exact last claimed
  · rw [List.concat_eq_append, ← List.cons_append, ← List.append_assoc] at split
    obtain ⟨split', -⟩ := List.append_inj' split rfl
    exact guarded past b rest' split' claimed

/-- Steps without a claim may follow. -/
theorem Guarded.append (guarded : Guarded claims guard history) (none : ∀ a ∈ rest, ¬ claims a) :
    Guarded claims guard (history ++ rest) := by
  induction rest generalizing history with
  | nil => rwa [List.append_nil]
  | cons a rest ih =>
    rw [List.append_cons]
    refine ih (guarded.concat fun claimed => absurd claimed (none a List.mem_cons_self)) ?_
    exact fun b member => none b (List.mem_cons_of_mem _ member)

/-- Before an event that makes a claim the trace is woven from a history that guards it. -/
theorem Weave.guarded (woven : Weave steps noise base history trace)
    (guarded : Guarded claims guard history) {before after : List E} {e : E}
    (split : trace = before ++ e :: after) (long : base.length ≤ before.length)
    (loud : ¬ noise before e) (claimed : ∀ a, steps before a e → claims a) :
    ∃ past, Weave steps noise base past before ∧ guard past := by
  obtain ⟨past, rest, woven', ⟨noisy, -⟩ | ⟨a, matching, same⟩⟩ := woven.split split long
  · exact absurd noisy loud
  · exact ⟨past, woven', guarded past a rest same (claimed a matching)⟩

end Guarded

end Interact
