import Nightjar.Client.Session

/-!
# What a response can change

A response changes the wire, the result box, the dashed line and the button (`KeptByAnswers`),
whatever its body is and wherever the script throws; and the result is one that the script writes
(`Shown`).
-/

namespace Nightjar

open Python Interact Prog JavaScript

namespace Phase0Map

/-- The results that the script writes. -/
inductive Shown : Html.Template → Prop where
  | empty : Shown []
  | unreachable : Shown Page.unreachableTemplate
  | malformed (reasons : List String) (authorization : String) :
      Shown (malformedTemplate reasons authorization)
  | decided (rejection : Option (List String)) (missionSha256 policySha256 : String) :
      Shown (decidedTemplate rejection missionSha256 policySha256)

section Kept

variable {N : Type} {I : Page N → Prop}

/-- A property of the page that does not depend on what a response changes. -/
structure KeptByAnswers (I : Page N → Prop) : Prop where
  wire : ∀ page state label, I page → I (page.setWire state label)
  box : ∀ page, I page → I page.showResult
  result : ∀ page template, Shown template → I page → I { page with result := template }
  line : ∀ page line, I page → I { page with normalizedLine := line }
  button : ∀ page disabled, I page → I { page with sendDisabled := disabled }

/-- A part of the script that keeps a property, also when it throws. -/
def Keeps (I : Page N → Prop) {α : Type} (script : Script N α) : Prop :=
  Triple I script (fun _ => I) fun _ => I

theorem keeps_bind {α β : Type} {script : Script N α} {rest : α → Script N β}
    (first : Keeps I script) (second : ∀ a, Keeps I (rest a)) : Keeps I (script >>= rest) :=
  triple_bind first second

theorem keeps_lift {α : Type} (outcome : Except JsError α) : Keeps I (Prog.lift outcome) :=
  triple_lift (fun _ _ _ kept => kept) fun _ _ _ kept => kept

theorem keeps_modify {change : Page N → Page N} (keeps : ∀ page, I page → I (change page)) :
    Keeps I (Prog.modify change) :=
  triple_modify keeps

variable [Field N] [JsMath N]

theorem keeps_drawNormalized (kept : KeptByAnswers I) (js : Js N) (mission : Option (Loaded N)) :
    Keeps I (drawNormalized js mission) := by
  apply keeps_bind (keeps_modify fun page => kept.line page none)
  intro _
  apply keeps_bind (triple_read fun _ so_far => so_far)
  intro page
  cases page.home with
  | none => exact triple_raise fun _ so_far => so_far
  | some home =>
    refine keeps_bind (keeps_lift _) fun actions => ?_
    refine keeps_bind (keeps_lift _) fun items => ?_
    refine keeps_bind (keeps_lift _) fun points => ?_
    refine keeps_bind (keeps_lift _) fun line => ?_
    exact keeps_modify fun page => kept.line page (some line)

variable [LinearOrder N]

theorem keeps_render (kept : KeptByAnswers I) (js : Js N) (body : Loaded N) :
    Keeps I (render js body) := by
  apply keeps_bind (keeps_modify kept.box)
  intro _
  apply keeps_bind (keeps_lift _)
  intro error
  split
  · refine keeps_bind (keeps_lift _) fun reasons => ?_
    refine keeps_bind (keeps_lift _) fun texts => ?_
    refine keeps_bind (keeps_lift _) fun status => ?_
    refine keeps_bind (keeps_lift _) fun authorization => ?_
    exact keeps_modify fun page => kept.result page _ (.malformed texts authorization)
  · refine keeps_bind (keeps_lift _) fun rejection => ?_
    refine keeps_bind (keeps_lift _) fun missionHash => ?_
    refine keeps_bind (keeps_lift _) fun missionSha256 => ?_
    refine keeps_bind (keeps_lift _) fun policyHash => ?_
    refine keeps_bind (keeps_lift _) fun policySha256 => ?_
    refine keeps_bind (keeps_modify fun page => kept.result page _
      (.decided rejection missionSha256 policySha256)) fun _ => ?_
    exact keeps_bind (keeps_lift _) fun mission => keeps_drawNormalized kept js mission

/-- A response keeps such a property. -/
theorem KeptByAnswers.respond (kept : KeptByAnswers I) (js : Js N) (body : Loaded N)
    {page : Page N} (before : I page) : I (Page.respond js body page).2 := by
  have keeps : Keeps I (Page.respond js body) := by
    apply keeps_bind (keeps_modify fun page => kept.wire page "done" "Response received")
    intro _
    apply keeps_bind (keeps_render kept js body)
    intro _
    exact keeps_modify fun page => kept.button page false
  have ran := keeps page before
  cases run : Page.respond js body page with
  | mk outcome after =>
    rw [run] at ran
    cases outcome with
    | ok _ => exact ran
    | error _ => exact ran

omit [Field N] [JsMath N] [LinearOrder N] in
/-- So does a failure. -/
theorem KeptByAnswers.fail (kept : KeptByAnswers I) {page : Page N} (before : I page) :
    I page.fail :=
  kept.button _ false (kept.result _ _ .unreachable (kept.box _
    (kept.wire page "idle" "Unreachable" before)))

end Kept

end Phase0Map

end Nightjar
