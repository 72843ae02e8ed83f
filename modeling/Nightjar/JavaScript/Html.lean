import Mathlib.Data.List.Basic

/-!
# Text in HTML

A page puts texts that it does not control into HTML that it does. `read` is the part of a
browser's tokenizer that such HTML needs: tags, the characters between them, and the character
references that `escapeHtml` writes. A `Template` is HTML with holes for escaped texts; what is read
from it is what is read from its fixed parts, with the characters of the texts in the holes
(`Template.read_html`). So the tags do not depend on the texts.
-/

namespace JavaScript.Html

/-- What is read from HTML: a tag, or a character of the text. -/
inductive Token where
  | tag (inner : List Char)
  | char (c : Char)
  deriving DecidableEq, Repr

/-- Where the tokenizer is: in the text, in a tag, or in a character reference. -/
inductive Mode where
  | data
  | tag (inner : List Char)
  | reference (name : List Char)
  deriving DecidableEq, Repr

/-- The character that a reference stands for. -/
def referenced (name : List Char) : Option Char :=
  [("amp", '&'), ("lt", '<'), ("gt", '>'), ("quot", '"'), ("#39", '\'')].lookup (String.ofList name)

/-- One character is read. A reference that stands for nothing is text. -/
def Mode.step : Mode → Char → Mode × List Token
  | .data, '<' => (.tag [], [])
  | .data, '&' => (.reference [], [])
  | .data, c => (.data, [.char c])
  | .tag inner, '>' => (.data, [.tag inner])
  | .tag inner, c => (.tag (inner ++ [c]), [])
  | .reference name, ';' =>
    (.data, match referenced name with
      | some c => [.char c]
      | none => ('&' :: (name ++ [';'])).map .char)
  | .reference name, c => (.reference (name ++ [c]), [])

/-- The tokens of a text, and where the tokenizer is at its end. -/
def read : Mode → List Char → List Token × Mode
  | mode, [] => ([], mode)
  | mode, c :: text =>
    let next := mode.step c
    let rest := read next.1 text
    (next.2 ++ rest.1, rest.2)

theorem read_append (mode : Mode) (first second : List Char) :
    read mode (first ++ second) =
      ((read mode first).1 ++ (read (read mode first).2 second).1,
        (read (read mode first).2 second).2) := by
  induction first generalizing mode with
  | nil => rfl
  | cons c first ih => simp only [List.cons_append, read, ih, List.append_assoc]

/-- The reference that is written for a character. -/
def escapeChar : Char → List Char
  | '&' => ['&', 'a', 'm', 'p', ';']
  | '<' => ['&', 'l', 't', ';']
  | '>' => ['&', 'g', 't', ';']
  | '"' => ['&', 'q', 'u', 'o', 't', ';']
  | '\'' => ['&', '#', '3', '9', ';']
  | c => [c]

/-- `text.replace(/[&<>"']/g, …)`. -/
def escapeHtml (text : String) : String := String.ofList (text.toList.flatMap escapeChar)

/-- A character is read back from what is written for it. -/
theorem read_escapeChar (c : Char) : read .data (escapeChar c) = ([.char c], .data) := by
  unfold escapeChar
  split
  · decide
  · decide
  · decide
  · decide
  · decide
  · have step : Mode.step .data c = (.data, [.char c]) := by
      unfold Mode.step
      split <;> simp_all
    simp only [read, step, List.append_nil]

theorem read_escapeHtml (text : List Char) :
    read .data (text.flatMap escapeChar) = (text.map .char, .data) := by
  induction text with
  | nil => rfl
  | cons c text ih =>
    rw [List.flatMap_cons, read_append, read_escapeChar, ih]
    rfl

/-- A part of a template: a fixed text, or the place of an escaped one. -/
inductive Piece where
  | fixed (text : String)
  | escaped (text : String)
  deriving DecidableEq, Repr

namespace Piece

/-- The text that is put into the HTML. -/
def html : Piece → String
  | .fixed text => text
  | .escaped text => escapeHtml text

/-- What the part is meant to be read as. -/
def tokens : Piece → List Token
  | .fixed text => (read .data text.toList).1
  | .escaped text => text.toList.map .char

/-- A fixed text that ends outside of tags and references. -/
def Closed : Piece → Prop
  | .fixed text => (read .data text.toList).2 = .data
  | .escaped _ => True

instance (piece : Piece) : Decidable piece.Closed :=
  match piece with
  | .fixed text => inferInstanceAs (Decidable ((read .data text.toList).2 = .data))
  | .escaped _ => isTrue trivial

/-- A closed part is read as it is meant. -/
theorem read_html {piece : Piece} (closed : piece.Closed) :
    read .data piece.html.toList = (piece.tokens, .data) := by
  cases piece with
  | fixed text => exact Prod.ext rfl closed
  | escaped text =>
    have chars : (escapeHtml text).toList = text.toList.flatMap escapeChar := String.toList_ofList
    rw [html, chars, read_escapeHtml]
    rfl

end Piece

/-- The tags among tokens. -/
def tags (tokens : List Token) : List (List Char) :=
  tokens.filterMap fun
    | .tag inner => some inner
    | .char _ => none

@[simp] theorem tags_append (first second : List Token) :
    tags (first ++ second) = tags first ++ tags second :=
  List.filterMap_append

@[simp] theorem tags_chars (text : List Char) : tags (text.map .char) = [] := by
  induction text with
  | nil => rfl
  | cons c text ih => exact ih

/-! ## Elements -/

/-- The name of an opening tag. -/
def tagName (inner : List Char) : List Char := inner.takeWhile (· ≠ ' ')

/-- The names of the open elements, innermost first, after a tag. A closing tag closes the innermost
    element, and is refused when that has another name. -/
def afterTag : List (List Char) → List Char → Option (List (List Char))
  | top :: rest, '/' :: name => if top = name then some rest else none
  | [], '/' :: _ => none
  | stack, inner => some (tagName inner :: stack)

/-- The names of the open elements after some tags. -/
def afterTags : List (List Char) → List (List Char) → Option (List (List Char))
  | stack, [] => some stack
  | stack, inner :: rest => (afterTag stack inner).bind fun next => afterTags next rest

theorem afterTags_append (stack first second : List (List Char)) :
    afterTags stack (first ++ second) =
      (afterTags stack first).bind fun next => afterTags next second := by
  induction first generalizing stack with
  | nil => rfl
  | cons inner first ih =>
    rw [List.cons_append, afterTags, afterTags]
    cases afterTag stack inner with
    | none => rfl
    | some next => exact ih next

/-- HTML with places for escaped texts. -/
abbrev Template : Type := List Piece

namespace Template

/-- The HTML. -/
def html (template : Template) : String :=
  String.ofList (template.flatMap fun piece => piece.html.toList)

/-- What the template is meant to be read as. -/
def tokens (template : Template) : List Token := template.flatMap Piece.tokens

/-- **What is read from a template**: its fixed parts, and the texts in its places. -/
theorem read_html {template : Template} (closed : ∀ piece ∈ template, piece.Closed) :
    read .data template.html.toList = (template.tokens, .data) := by
  rw [html, String.toList_ofList]
  induction template with
  | nil => rfl
  | cons piece template ih =>
    obtain ⟨first, rest⟩ := List.forall_mem_cons.mp closed
    rw [List.flatMap_cons, read_append, Piece.read_html first, ih rest]
    rfl

theorem tokens_append (first second : Template) :
    tokens (first ++ second) = first.tokens ++ second.tokens :=
  List.flatMap_append

/-- The tags of a template: those of its fixed parts. -/
def marks (template : Template) : List (List Char) := tags template.tokens

theorem marks_append (first second : Template) :
    marks (first ++ second) = first.marks ++ second.marks := by
  rw [marks, tokens_append, tags_append]
  rfl

@[simp] theorem marks_escaped (text : String) (template : Template) :
    marks (.escaped text :: template) = template.marks := by
  rw [marks, tokens, List.flatMap_cons, tags_append]
  exact congrArg (· ++ _) (tags_chars text.toList)

/-- The tags of a template are those of its fixed parts, wherever these come from. -/
theorem marks_subset {template script : Template}
    (own : ∀ text, .fixed text ∈ template → .fixed text ∈ script) :
    template.marks ⊆ script.marks := by
  intro tag member
  obtain ⟨token, among, is_tag⟩ := List.mem_filterMap.mp member
  obtain ⟨piece, in_template, is_token⟩ := List.mem_flatMap.mp among
  cases piece with
  | fixed text =>
    exact List.mem_filterMap.mpr
      ⟨token, List.mem_flatMap.mpr ⟨_, own text in_template, is_token⟩, is_tag⟩
  | escaped text =>
    obtain ⟨c, -, is_char⟩ := List.mem_map.mp is_token
    rw [← is_char] at is_tag
    cases is_tag

end Template

end JavaScript.Html
