import Nightjar.Client.Proofs.Respond

/-!
# Mission ids

"Mission IDs are stable for retries of the same proposal, but rotate whenever the operator changes
the proposal." In every session the id of a request tells which mission was proposed, and two
requests have the same id just when the operator changed nothing in between.
-/

namespace Nightjar

open Python Interact Prog JavaScript

namespace Phase0Map

section Inputs

variable {N : Type}

/-- What the operator has put in, and what is drawn of it. -/
structure Inputs (N : Type) where
  missionId : UUID
  home : Option (LatLng N)
  dest : Option (LatLng N)
  alt : Slider
  homeMarker : Option (LatLng N)
  destMarker : Option (LatLng N)
  proposedLine : Option (List (LatLng N))
  fence : Option (LatLng N)

/-- The inputs on a page. -/
def Page.inputs (page : Page N) : Inputs N :=
  ⟨page.missionId, page.home, page.dest, page.alt, page.homeMarker, page.destMarker,
    page.proposedLine, page.fence⟩

variable [Field N] [LinearOrder N] [FloorRing N] [JsMath N]

/-- The same inputs make the same mission. -/
theorem buildMission_congr {p q : Page N} (same : p.inputs = q.inputs) :
    p.buildMission = q.buildMission := by
  have missionId : p.missionId = q.missionId := congrArg Inputs.missionId same
  have home : p.home = q.home := congrArg Inputs.home same
  have dest : p.dest = q.dest := congrArg Inputs.dest same
  have alt : p.alt = q.alt := congrArg Inputs.alt same
  simp only [Page.buildMission, missionId, home, dest, alt]

omit [FloorRing N] in
/-- A response changes what is shown and nothing that was put in. -/
theorem inputs_respond (js : Js N) (body : Loaded N) (page : Page N) :
    (Page.respond js body page).2.inputs = page.inputs := by
  have kept : KeptByAnswers fun after : Page N => after.inputs = page.inputs :=
    ⟨fun _ _ _ same => same, fun _ same => same, fun _ _ _ same => same, fun _ _ same => same,
      fun _ _ same => same⟩
  exact kept.respond js body rfl

end Inputs

section Steps

variable {N : Type} [Field N] [LinearOrder N] [FloorRing N] [JsMath N] {uuid : Nat → UUID}
  {js : Js N} {s t : Session N} {l : Label N}

/-- A mission is built from a home and a destination. -/
theorem points_of_buildMission {page : Page N} {p : Proposal N}
    (built : page.buildMission = .ok p) :
    ∃ home dest, page.home = some home ∧ page.dest = some dest := by
  cases home : page.home with
  | none => simp [Page.buildMission, home] at built
  | some h =>
    cases dest : page.dest with
    | none => simp [Page.buildMission, home, dest] at built
    | some d => exact ⟨h, d, rfl, rfl⟩

/-- It carries the current id. -/
theorem missionId_of_buildMission {page : Page N} {p : Proposal N}
    (built : page.buildMission = .ok p) : p.missionId = page.missionId := by
  obtain ⟨home, dest, is_home, is_dest⟩ := points_of_buildMission built
  simp only [Page.buildMission, is_home, is_dest] at built
  cases built
  rfl

namespace Session

/-- What a click on the button does: the mission that can be built is sent, with no other change of
    the inputs. -/
theorem submit_cases (s : Session N) :
    s.submit.uuids = s.uuids ∧ s.submit.page.inputs = s.page.inputs ∧
      ((∃ p, s.page.buildMission = .ok p ∧ s.submit.sent = s.sent ++ [p]) ∨
        s.submit.sent = s.sent) := by
  unfold submit
  dsimp only
  split
  · rename_i p built
    exact ⟨rfl, rfl, Or.inl ⟨p, built, rfl⟩⟩
  · exact ⟨rfl, rfl, Or.inr rfl⟩

omit [FloorRing N] in
theorem settle_keeps (js : Js N) (request : Nat) (answer : Option (Loaded N)) (s : Session N) :
    (s.settle js request answer).uuids = s.uuids ∧
      (s.settle js request answer).page.inputs = s.page.inputs ∧
      (s.settle js request answer).sent = s.sent := by
  cases answer with
  | none => exact ⟨rfl, rfl, rfl⟩
  | some body => exact ⟨rfl, inputs_respond js body s.page, rfl⟩

/-- A step in which the operator changes nothing. -/
theorem step_quiet (next : Step uuid js s l t) (quiet : l.Quiet) :
    t.uuids = s.uuids ∧ t.page.inputs = s.page.inputs ∧
      ((∃ p, s.page.buildMission = .ok p ∧ t.sent = s.sent ++ [p]) ∨ t.sent = s.sent) := by
  cases l with
  | click latlng => exact quiet.elim
  | slide alt => exact quiet.elim
  | reset => exact quiet.elim
  | submit =>
    simp only [Step, step] at next
    split at next
    · cases next
    · cases next
      exact s.submit_cases
  | settle request answer =>
    simp only [Step, step] at next
    split at next
    · cases next
      obtain ⟨uuids, inputs, sent⟩ := settle_keeps js request answer s
      exact ⟨uuids, inputs, Or.inr sent⟩
    · cases next

/-- A step in which the operator changes something sends nothing, and takes a fresh id unless it
    sets the first point. -/
theorem step_loud (next : Step uuid js s l t) (loud : ¬ l.Quiet) :
    t.sent = s.sent ∧
      ((t.uuids = s.uuids + 1 ∧ t.page.missionId = uuid s.uuids) ∨
        (s.page.home = none ∧ t.uuids = s.uuids ∧ t.page.missionId = s.page.missionId)) := by
  cases l with
  | submit => exact (loud trivial).elim
  | settle request answer => exact (loud trivial).elim
  | slide alt =>
    cases next
    exact ⟨rfl, Or.inl ⟨rfl, rfl⟩⟩
  | reset =>
    cases next
    exact ⟨rfl, Or.inl ⟨rfl, rfl⟩⟩
  | click latlng =>
    cases next
    unfold click
    cases home : s.page.home with
    | none => exact ⟨rfl, Or.inr ⟨rfl, rfl, rfl⟩⟩
    | some h => exact ⟨rfl, Or.inl ⟨rfl, rfl⟩⟩

/-- There is no destination without a home. -/
theorem step_dest (next : Step uuid js s l t) (before : s.page.home = none → s.page.dest = none) :
    t.page.home = none → t.page.dest = none := by
  by_cases quiet : l.Quiet
  · obtain ⟨-, same, -⟩ := step_quiet next quiet
    have home : t.page.home = s.page.home := congrArg Inputs.home same
    have dest : t.page.dest = s.page.dest := congrArg Inputs.dest same
    rw [home, dest]
    exact before
  · cases l with
    | submit => exact (quiet trivial).elim
    | settle request answer => exact (quiet trivial).elim
    | slide alt =>
      cases next
      exact before
    | reset =>
      cases next
      exact fun _ => rfl
    | click latlng =>
      cases next
      intro none
      unfold click at none ⊢
      cases home : s.page.home with
      | none => exact before home
      | some h =>
        rw [home] at none
        exact absurd (home.symm.trans none) (Option.some_ne_none h)

/-- No id is given back. -/
theorem step_uuids (next : Step uuid js s l t) : s.uuids ≤ t.uuids := by
  by_cases quiet : l.Quiet
  · obtain ⟨same, -, -⟩ := step_quiet next quiet
    omega
  · obtain ⟨-, ⟨more, -⟩ | ⟨-, same, -⟩⟩ := step_loud next quiet
    · omega
    · omega

/-- What holds of a session at any time: the current id is the last that was drawn, and a request
    with the current id is for the mission that would be sent now. -/
structure Inv (uuid : Nat → UUID) (s : Session N) : Prop where
  drawn : 0 < s.uuids
  current : s.page.missionId = uuid (s.uuids - 1)
  dest : s.page.home = none → s.page.dest = none
  ids : ∀ p ∈ s.sent, ∃ k < s.uuids, p.missionId = uuid k
  retries : ∀ p ∈ s.sent, p.missionId = s.page.missionId → s.page.buildMission = .ok p
  same : ∀ p ∈ s.sent, ∀ q ∈ s.sent, p.missionId = q.missionId → p = q

theorem inv_load (alt : Slider) : Inv uuid (.load uuid alt : Session N) where
  drawn := Nat.one_pos
  current := rfl
  dest _ := rfl
  ids p member := by cases member
  retries p member := by cases member
  same p member := by cases member

/-- A quiet step keeps it: what is sent is the mission that could be built, which is the one that
    was sent before with its id. -/
theorem Inv.step_quiet (inv : Inv uuid s) (next : Step uuid js s l t) (quiet : l.Quiet) :
    Inv uuid t := by
  obtain ⟨uuids, inputs, sent⟩ := Session.step_quiet next quiet
  have missionId : t.page.missionId = s.page.missionId := congrArg Inputs.missionId inputs
  have built := buildMission_congr inputs
  have member : ∀ p ∈ t.sent, p ∈ s.sent ∨ s.page.buildMission = .ok p := by
    intro p member
    rcases sent with ⟨q, mission, sent⟩ | sent
    · rw [sent] at member
      rcases List.mem_append.mp member with old | new
      · exact Or.inl old
      · rw [List.mem_singleton.mp new]
        exact Or.inr mission
    · rw [sent] at member
      exact Or.inl member
  have retries : ∀ p ∈ t.sent, p.missionId = s.page.missionId → s.page.buildMission = .ok p := by
    intro p sent id
    rcases member p sent with old | new
    · exact inv.retries p old id
    · exact new
  refine ⟨?_, ?_, step_dest next inv.dest, ?_, ?_, ?_⟩
  · rw [uuids]
    exact inv.drawn
  · rw [missionId, uuids]
    exact inv.current
  · intro p sent
    rw [uuids]
    rcases member p sent with old | new
    · exact inv.ids p old
    · have drawn := inv.drawn
      exact ⟨s.uuids - 1, by omega, (missionId_of_buildMission new).trans inv.current⟩
  · intro p sent id
    rw [built]
    exact retries p sent (id.trans missionId)
  · intro p sent q sent' id
    rcases member p sent with old | new
    · rcases member q sent' with old' | new'
      · exact inv.same p old q old' id
      · have again := retries p sent (id.trans (missionId_of_buildMission new'))
        exact Except.ok.inj (again.symm.trans new')
    · have again := retries q sent' (id.symm.trans (missionId_of_buildMission new))
      exact Except.ok.inj (new.symm.trans again)

/-- The first so many ids are different. -/
def Fresh (uuid : Nat → UUID) (count : Nat) : Prop := Set.InjOn uuid (Set.Iio count)

/-- A fresh id is that of no request. -/
theorem Inv.step_loud (fresh : Fresh uuid t.uuids) (inv : Inv uuid s)
    (next : Step uuid js s l t) (loud : ¬ l.Quiet) : Inv uuid t := by
  obtain ⟨sent, ⟨more, id⟩ | ⟨none, uuids, id⟩⟩ := Session.step_loud next loud
  · refine ⟨by omega, ?_, step_dest next inv.dest, ?_, ?_, ?_⟩
    · rw [id, more, Nat.add_sub_cancel]
    · intro p member
      rw [sent] at member
      obtain ⟨k, below, is_k⟩ := inv.ids p member
      exact ⟨k, by omega, is_k⟩
    · intro p member same
      rw [sent] at member
      obtain ⟨k, below, is_k⟩ := inv.ids p member
      have below_t : k ∈ Set.Iio t.uuids := Set.mem_Iio.mpr (by omega)
      have last : s.uuids ∈ Set.Iio t.uuids := Set.mem_Iio.mpr (by omega)
      have equal : k = s.uuids := fresh below_t last (is_k.symm.trans (same.trans id))
      omega
    · rw [sent]
      exact inv.same
  · -- Without a home nothing can have been sent with the current id.
    have unsent : ∀ p ∈ s.sent, p.missionId ≠ s.page.missionId := by
      intro p member same
      obtain ⟨home, dest, is_home, -⟩ := points_of_buildMission (inv.retries p member same)
      rw [none] at is_home
      cases is_home
    refine ⟨by rw [uuids]; exact inv.drawn, ?_, step_dest next inv.dest, ?_, ?_, ?_⟩
    · rw [id, uuids]
      exact inv.current
    · rw [sent, uuids]
      exact inv.ids
    · intro p member same
      rw [sent] at member
      exact absurd (same.trans id) (unsent p member)
    · rw [sent]
      exact inv.same

/-- It holds in every session. -/
theorem inv_of_run {alt : Slider} {labels : List (Label N)}
    (ran : Run (Step uuid js) (.load uuid alt) labels s) (fresh : Fresh uuid s.uuids) :
    Inv uuid s := by
  refine Run.invariant (I := fun _ s => Fresh uuid s.uuids → Inv uuid s) (fun _ => inv_load alt) ?_
    ran fresh
  intro labels s l t _ inv next fresh
  have inv := inv (fresh.mono (Set.Iio_subset_Iio (step_uuids next)))
  by_cases quiet : l.Quiet
  · exact inv.step_quiet next quiet
  · exact inv.step_loud fresh next quiet

/-- From a page with a home: the operator changes nothing, or a fresh id is taken. -/
theorem quiet_or_fresh (home : s.page.home ≠ none) {labels : List (Label N)}
    (ran : Run (Step uuid js) s labels t) :
    ((∀ l ∈ labels, l.Quiet) ∧ t.uuids = s.uuids ∧ t.page.inputs = s.page.inputs) ∨
      (¬ (∀ l ∈ labels, l.Quiet) ∧ s.uuids < t.uuids) := by
  refine Run.invariant (I := fun labels t => ((∀ l ∈ labels, Label.Quiet l) ∧ t.uuids = s.uuids ∧
    t.page.inputs = s.page.inputs) ∨ (¬ (∀ l ∈ labels, l.Quiet) ∧ s.uuids < t.uuids)) ?_ ?_ ran
  · exact Or.inl ⟨fun l member => absurd member List.not_mem_nil, rfl, rfl⟩
  · intro labels m l t _ so_far next
    rcases so_far with ⟨quiet, uuids, inputs⟩ | ⟨loud, more⟩
    · by_cases also : l.Quiet
      · obtain ⟨uuids', inputs', -⟩ := step_quiet next also
        refine Or.inl ⟨?_, uuids'.trans uuids, inputs'.trans inputs⟩
        intro other member
        rcases List.mem_append.mp member with earlier | last
        · exact quiet other earlier
        · rw [List.mem_singleton.mp last]
          exact also
      · have still : m.page.home ≠ none := by
          have same : m.page.home = s.page.home := congrArg Inputs.home inputs
          rw [same]
          exact home
        obtain ⟨-, ⟨fresh, -⟩ | ⟨none, -⟩⟩ := step_loud next also
        · refine Or.inr ⟨fun quiet => also (quiet l ?_), by omega⟩
          exact List.mem_append_right _ List.mem_cons_self
        · exact absurd none still
    · have kept := step_uuids next
      refine Or.inr ⟨fun quiet => loud fun other member => ?_, by omega⟩
      exact quiet other (List.mem_append_left _ member)

/-- **The mission id tells the proposal.** Two requests of a session with the same id propose the
    same mission. And the missions of two clicks on the button have the same id just when the
    operator changed nothing between them. -/
theorem missionId_tells {alt : Slider} {past between : List (Label N)}
    (first : Run (Step uuid js) (.load uuid alt) past s) (later : Run (Step uuid js) s between t)
    (fresh : Fresh uuid t.uuids) :
    (∀ p ∈ t.sent, ∀ q ∈ t.sent, p.missionId = q.missionId → p = q) ∧
      ∀ p q, s.page.buildMission = .ok p → t.page.buildMission = .ok q →
        (p.missionId = q.missionId ↔ ∀ l ∈ between, l.Quiet) ∧
          (p.missionId = q.missionId → p = q) := by
  have after := inv_of_run (first.append later) fresh
  have kept : s.uuids ≤ t.uuids :=
    Run.related (R := fun s t => s.uuids ≤ t.uuids) (fun _ => le_rfl)
      (fun _ _ _ => le_trans) (fun _ _ _ => step_uuids) later
  have before := inv_of_run first (fresh.mono (Set.Iio_subset_Iio kept))
  refine ⟨after.same, fun p q built built' => ?_⟩
  obtain ⟨home, dest, is_home, -⟩ := points_of_buildMission built
  have some_home : s.page.home ≠ none := by
    rw [is_home]
    exact Option.some_ne_none home
  have id := missionId_of_buildMission built
  have id' := missionId_of_buildMission built'
  rcases quiet_or_fresh some_home later with ⟨quiet, -, inputs⟩ | ⟨loud, more⟩
  · have same : p = q := by
      rw [buildMission_congr inputs, built] at built'
      exact Except.ok.inj built'
    exact ⟨⟨fun _ => quiet, fun _ => congrArg Proposal.missionId same⟩, fun _ => same⟩
  · have differ : p.missionId ≠ q.missionId := by
      intro same
      rw [id, id', before.current, after.current] at same
      have drawn := before.drawn
      have last : s.uuids - 1 ∈ Set.Iio t.uuids := Set.mem_Iio.mpr (by omega)
      have last' : t.uuids - 1 ∈ Set.Iio t.uuids := Set.mem_Iio.mpr (by omega)
      have equal := fresh last last' same
      omega
    exact ⟨⟨fun same => absurd same differ, fun quiet => absurd quiet loud⟩,
      fun same => absurd same differ⟩

end Session

end Steps

section Sample

/-- Ids that differ in their last digit. -/
def sampleUuid (n : Nat) : UUID := ⟨List.replicate 31 0 ++ [Fin.ofNat 16 n], rfl⟩

theorem fresh_sampleUuid : Session.Fresh sampleUuid 16 := by
  intro i below j below' same
  have digits := congrArg UUID.digits same
  have last : Fin.ofNat 16 i = Fin.ofNat 16 j := by simpa [sampleUuid] using digits
  have values := congrArg Fin.val last
  simp only [Fin.val_ofNat] at values
  have below := Set.mem_Iio.mp below
  have below' := Set.mem_Iio.mp below'
  omega

/-- The conversions of the language on strings and finite numbers. -/
def sampleJs : Js ℚ where
  string
    | some (.str text) => .ok text
    | _ => .ok "undefined"
  number
    | some (.float (.finite x)) => some x
    | some (.int i) => some i
    | _ => none

/-- A page with a home and a destination 11 metres to the north of it. -/
def samplePage : Session ℚ :=
  ((Session.load sampleUuid 8).click sampleUuid ⟨0, 0⟩).click sampleUuid ⟨1 / 10000, 0⟩

theorem run_samplePage :
    Run (Session.Step sampleUuid sampleJs) (.load sampleUuid 8)
      [.click ⟨0, 0⟩, .click ⟨1 / 10000, 0⟩] samplePage :=
  ⟨_, rfl, _, rfl, rfl⟩

/-- A request is tried again after a failure. -/
theorem missionId_tells_retry :
    ∃ t, Run (Session.Step sampleUuid sampleJs) samplePage [.submit, .settle 0 none] t ∧
      (∀ p ∈ t.sent, ∀ q ∈ t.sent, p.missionId = q.missionId → p = q) ∧
      ∃ p q, samplePage.page.buildMission = .ok p ∧ t.page.buildMission = .ok q ∧
        p.missionId = q.missionId ∧ p = q := by
  let t : Session ℚ := samplePage.submit.settle sampleJs 0 none
  have later : Run (Session.Step sampleUuid sampleJs) samplePage [.submit, .settle 0 none] t :=
    ⟨_, rfl, _, rfl, rfl⟩
  have few : Session.Fresh sampleUuid t.uuids :=
    fresh_sampleUuid.mono (Set.Iio_subset_Iio (by decide))
  obtain ⟨same, tells⟩ := Session.missionId_tells run_samplePage later few
  obtain ⟨iff, equal⟩ := tells _ _ rfl rfl
  have quiet : ∀ l ∈ ([.submit, .settle 0 none] : List (Label ℚ)), l.Quiet := by
    intro l member
    rcases List.mem_cons.mp member with rfl | later
    · trivial
    · rw [List.mem_singleton.mp later]
      trivial
  exact ⟨t, later, same, _, _, rfl, rfl, iff.mpr quiet, equal (iff.mpr quiet)⟩

end Sample

end Phase0Map

end Nightjar
