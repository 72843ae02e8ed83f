import Nightjar.Client.Proofs.MissionIds

/-!
# The markup of the result

The result box is HTML with texts of the service in it. Whatever the service answers, the tags in
the box are those that the script writes, each element is closed, and the texts are shown as they
are.
-/

namespace Nightjar

open Python Interact JavaScript JavaScript.Html

namespace Phase0Map

/-- The results of the script with no text of the service in them. -/
def blankResults : Template :=
  Page.unreachableTemplate ++ malformedTemplate [""] "" ++ decidedTemplate none "" "" ++
    decidedTemplate (some [""]) "" ""

/-- The fixed parts of a result are those of the blank ones. -/
theorem fixed_of_shown {template : Template} (shown : Shown template) :
    ∀ text, .fixed text ∈ template → .fixed text ∈ blankResults := by
  intro text member
  cases shown with
  | empty => cases member
  | unreachable => simp_all [blankResults]
  | malformed reasons authorization =>
    simp [malformedTemplate, reasonItems] at member
    simp [blankResults, malformedTemplate, reasonItems]
    tauto
  | decided rejection missionSha256 policySha256 =>
    cases rejection with
    | none =>
      simp [decidedTemplate, verdictTemplate] at member
      simp [blankResults, decidedTemplate, verdictTemplate]
      tauto
    | some reasons =>
      simp [decidedTemplate, verdictTemplate, reasonItems] at member
      simp [blankResults, decidedTemplate, verdictTemplate, reasonItems]
      tauto

section Parts

/-- A part of a result: it is read from the text and back to it, and leads from some open elements
    to others. -/
structure Part (before : List (List Char)) (part : Template) (after : List (List Char)) : Prop where
  closed : ∀ piece ∈ part, Piece.Closed piece
  nested : afterTags before part.marks = some after

variable {first middle last : List (List Char)} {part more : Template}

theorem Part.append (one : Part first part middle) (two : Part middle more last) :
    Part first (part ++ more) last where
  closed piece member := by
    rcases List.mem_append.mp member with left | right
    · exact one.closed piece left
    · exact two.closed piece right
  nested := by
    rw [Template.marks_append, afterTags_append, one.nested]
    exact two.nested

/-- A fixed part, by its characters. -/
theorem part_fixed {text : String} {chars : List Char} (is_text : text.toList = chars)
    (closed : (read .data chars).2 = .data)
    (nested : afterTags first (tags (read .data chars).1) = some last) :
    Part first [.fixed text] last where
  closed piece member := by
    rw [List.mem_singleton.mp member, Piece.Closed, is_text]
    exact closed
  nested := by
    rw [Template.marks, Template.tokens, List.flatMap_singleton, Piece.tokens, is_text]
    exact nested

/-- A text of the service opens and closes nothing. -/
theorem Part.escaped (text : String) (rest : Part first part last) :
    Part first (.escaped text :: part) last where
  closed piece member := by
    rcases List.mem_cons.mp member with is_text | later
    · rw [is_text]
      trivial
    · exact rest.closed piece later
  nested := by
    rw [Template.marks_escaped]
    exact rest.nested

theorem part_reasonItems (reasons : List String) :
    Part first (reasonItems reasons) first := by
  induction reasons with
  | nil => exact ⟨fun piece member => absurd member List.not_mem_nil, rfl⟩
  | cons reason reasons ih =>
    have opened : Part first [.fixed "<li>"] (['l', 'i'] :: first) :=
      part_fixed String.toList_ofList (by decide) (by cases first <;> rfl)
    have closed : Part (['l', 'i'] :: first) [.fixed "</li>"] first :=
      part_fixed String.toList_ofList (by decide) rfl
    exact (opened.append (closed.escaped reason)).append ih

/-- The open elements in a list of reasons. -/
def inReasons : List (List Char) := ["ul".toList, "div".toList]

set_option maxRecDepth 10000 in
theorem part_malformedTemplate (reasons : List String) (authorization : String) :
    Part [] (malformedTemplate reasons authorization) [] := by
  have head : Part [] [.fixed "
      <div class=\"verdict verdict--rejected\">
        <div class=\"verdict__head\">Malformed proposal</div>
        <ul class=\"reasons\">"] inReasons :=
    part_fixed String.toList_ofList (by decide) (by decide)
  have stamp : Part inReasons [.fixed "</ul>
        <div class=\"stamp-auth\">Authorization: "] ["div".toList, "div".toList] :=
    part_fixed String.toList_ofList (by decide) (by decide)
  have foot : Part ["div".toList, "div".toList] [.fixed "</div>
      </div>"] [] := part_fixed String.toList_ofList (by decide) (by decide)
  exact (head.append (part_reasonItems reasons)).append (stamp.append (foot.escaped authorization))

set_option maxRecDepth 10000 in
theorem part_verdictTemplate (rejection : Option (List String)) :
    Part [] (verdictTemplate rejection) ["div".toList] := by
  cases rejection with
  | none => exact part_fixed String.toList_ofList (by decide) (by decide)
  | some reasons =>
    have head : Part [] [.fixed "
    <div class=\"verdict verdict--rejected\">
      <div class=\"verdict__head\">Policy rejected</div>
      <ul class=\"reasons\">"] inReasons := part_fixed String.toList_ofList (by decide) (by decide)
    have foot : Part inReasons [.fixed "</ul>"] ["div".toList] :=
      part_fixed String.toList_ofList (by decide) (by decide)
    exact (head.append (part_reasonItems reasons)).append foot

set_option maxRecDepth 10000 in
theorem part_decidedTemplate (rejection : Option (List String))
    (missionSha256 policySha256 : String) :
    Part [] (decidedTemplate rejection missionSha256 policySha256) [] := by
  let inHash : List (List Char) := ["div".toList, "div".toList, "div".toList]
  have stamp : Part ["div".toList] [.fixed "
      <div class=\"stamp-auth\">Authorization: required — not granted</div>
      <div style=\"margin-top:12px\">
        <div class=\"row\"><span>mission_sha256</span><span></span></div>
        <div class=\"hash\">"] inHash := part_fixed String.toList_ofList (by decide) (by decide)
  have next : Part inHash [.fixed "</div>
        <div class=\"row\" style=\"margin-top:6px\"><span>policy_sha256</span><span></span></div>
        <div class=\"hash\">"] inHash := part_fixed String.toList_ofList (by decide) (by decide)
  have foot : Part inHash [.fixed "</div>
      </div>
    </div>"] [] := part_fixed String.toList_ofList (by decide) (by decide)
  exact (part_verdictTemplate rejection).append
    (stamp.append ((next.append (foot.escaped policySha256)).escaped missionSha256))

set_option maxRecDepth 10000 in
theorem part_of_shown {template : Template} (shown : Shown template) : Part [] template [] := by
  cases shown with
  | empty => exact ⟨fun piece member => absurd member List.not_mem_nil, rfl⟩
  | unreachable => exact part_fixed String.toList_ofList (by decide) (by decide)
  | malformed reasons authorization => exact part_malformedTemplate reasons authorization
  | decided rejection missionSha256 policySha256 =>
    exact part_decidedTemplate rejection missionSha256 policySha256

end Parts

section Sessions

variable {N : Type} [Field N] [LinearOrder N] [FloorRing N] [JsMath N] {uuid : Nat → UUID}
  {js : Js N} {s t : Session N} {l : Label N}

/-- What is in the box is kept by everything that is not a response, and a response puts in
    something that the script writes. -/
theorem Session.step_shown (shown : Shown s.page.result) (next : Step uuid js s l t) :
    Shown t.page.result := by
  have kept : KeptByAnswers fun page : Page N => Shown page.result :=
    ⟨fun _ _ _ shown => shown, fun _ shown => shown, fun _ _ shown _ => shown,
      fun _ _ shown => shown, fun _ _ shown => shown⟩
  cases l with
  | click latlng =>
    cases next
    unfold click
    cases s.page.home with
    | none => exact shown
    | some home => exact shown
  | slide alt =>
    cases next
    exact shown
  | reset =>
    cases next
    exact shown
  | submit =>
    simp only [Step, step] at next
    split at next
    · cases next
    · cases next
      unfold submit
      dsimp only
      split
      · exact shown
      · exact .unreachable
  | settle request answer =>
    simp only [Step, step] at next
    split at next
    · cases next
      cases answer with
      | none => exact .unreachable
      | some body => exact kept.respond js body shown
    · cases next

/-- **No response writes markup.** In every session, whatever the bodies of the responses are, the
    HTML of the result box is one of the script's own results, and a browser reads from it what the
    script means: the texts of the service as they are, only tags that the script writes, and all
    elements closed. -/
theorem result_markup {alt : Slider} {labels : List (Label N)}
    (ran : Run (Session.Step uuid js) (.load uuid alt) labels s) :
    ∃ tokens, read .data s.page.result.html.toList = (tokens, .data) ∧
      tokens = s.page.result.tokens ∧ Shown s.page.result ∧
      tags tokens ⊆ blankResults.marks ∧
      afterTags [] (tags tokens) = some [] := by
  have shown : Shown s.page.result :=
    Run.invariant (I := fun _ s => Shown s.page.result) .empty
      (fun _ _ _ _ _ so_far next => Session.step_shown so_far next) ran
  have part := part_of_shown shown
  exact ⟨_, Template.read_html part.closed, rfl, shown,
    Template.marks_subset (fixed_of_shown shown), part.nested⟩

end Sessions

section Sample

/-- A body with a tag in a reason. -/
def taggedBody : Loaded ℚ :=
  .obj [("error", .str "schema"), ("reasons", .arr [.str "<img src=x>"]),
    ("authorization", .str "REQUIRED_NOT_GRANTED")]

/-- The tag is shown as a text. -/
theorem result_markup_tagged :
    ∃ s, Run (Session.Step sampleUuid sampleJs) (.load sampleUuid 8)
        ([.click ⟨0, 0⟩, .click ⟨1 / 10000, 0⟩] ++ [.submit, .settle 0 (some taggedBody)]) s ∧
      s.page.result = malformedTemplate ["<img src=x>"] "REQUIRED_NOT_GRANTED" ∧
      tags (read .data s.page.result.html.toList).1 ⊆ blankResults.marks := by
  let s : Session ℚ := samplePage.submit.settle sampleJs 0 (some taggedBody)
  have ran : Run (Session.Step sampleUuid sampleJs) (.load sampleUuid 8)
      ([.click ⟨0, 0⟩, .click ⟨1 / 10000, 0⟩] ++ [.submit, .settle 0 (some taggedBody)]) s :=
    run_samplePage.append ⟨_, rfl, _, rfl, rfl⟩
  obtain ⟨tokens, is_read, -, -, own, -⟩ := result_markup ran
  refine ⟨s, ran, rfl, ?_⟩
  rw [is_read]
  exact own

end Sample

end Phase0Map

end Nightjar
