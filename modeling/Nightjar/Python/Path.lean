import Mathlib.Logic.Function.Basic
import Mathlib.Tactic.ByContra

/-!
# POSIX paths

`pathlib` on a POSIX platform without symbolic links: a path is absolute or relative and has
components, none of them empty or `.`. `resolve` makes a path absolute against the working
directory and removes `..`; a path that was absolute does not look at the directory
(`resolve_absolute`), and one that was relative always can (`resolve_relative`).
-/

namespace Python

/-- A path. -/
structure PosixPath where
  absolute : Bool
  parts : List String
  deriving DecidableEq

/-- A directory, by its components from the root. -/
structure Directory where
  parts : List String
  proper : ∀ part ∈ parts, part ≠ "" ∧ part ≠ "." ∧ part ≠ ".." ∧ '/' ∉ part.toList

namespace PosixPath

/-- `Path(text)`; the empty text is the current directory. A second slash at the start, which
    `resolve` drops, is not kept apart. -/
def ofString (text : String) : PosixPath where
  absolute := text.toList.head? = some '/'
  parts := ((text.toList.splitOn '/').map String.ofList).filter fun part =>
    part ≠ "" ∧ part ≠ "."

/-- `str(path)`. -/
def text (p : PosixPath) : String :=
  if p.absolute then "/" ++ "/".intercalate p.parts
  else if p.parts = [] then "." else "/".intercalate p.parts

/-- A component of a path. -/
def IsPart (part : String) : Prop := part ≠ "" ∧ part ≠ "." ∧ '/' ∉ part.toList

/-- An absolute path is read back from its text. -/
theorem ofString_text {p : PosixPath} (from_root : p.absolute = true)
    (parts : ∀ part ∈ p.parts, IsPart part) : ofString p.text = p := by
  have slash : p.text.toList = '/' :: ['/'].intercalate (p.parts.map String.toList) := by
    simp [text, from_root, String.toList_intercalate]
  have kept : p.parts.filter (fun part => part ≠ "" ∧ part ≠ ".") = p.parts := by
    rw [List.filter_eq_self]
    intro part member
    obtain ⟨some, here, -⟩ := parts part member
    simp [some, here]
  have back : (p.parts.map String.toList).map String.ofList = p.parts := by
    rw [List.map_map]
    exact (List.map_congr_left fun part _ => String.ofList_toList).trans (List.map_id p.parts)
  have absolute : (ofString p.text).absolute = p.absolute := by
    simp [ofString, slash, from_root]
  have names : (ofString p.text).parts = p.parts := by
    simp only [ofString, slash, List.splitOn_cons_eq_if_modifyHead, beq_self_eq_true, if_true,
      List.map_cons]
    rw [List.filter_cons_of_neg (by simp)]
    by_cases empty : p.parts = []
    · rw [empty]
      decide
    · have apart : ∀ name ∈ p.parts.map String.toList, '/' ∉ name := by
        intro name member
        obtain ⟨part, among, is_name⟩ := List.mem_map.mp member
        rw [← is_name]
        exact (parts part among).2.2
      rw [List.splitOn_intercalate '/' apart (by simpa using empty), back, kept]
  cases p
  exact congr (congrArg PosixPath.mk absolute) names

/-- `path / name`, for names without a slash. -/
def join (p : PosixPath) (names : List String) : PosixPath := { p with parts := p.parts ++ names }

/-- `expanduser`: a first component `~` is the given home, `~name` that user's home. `none` is
    `RuntimeError`, of an unknown user. -/
def expanduser (home : String) (userHome : String → Option String) (p : PosixPath) :
    Option PosixPath :=
  match p.absolute, p.parts with
  | false, first :: rest =>
    match first.toList with
    | '~' :: name =>
      match if name = [] then some home else userHome (String.ofList name) with
      | some directory => some ((ofString (if directory = "" then "/" else directory)).join rest)
      | none => none
    | _ => some p
  | _, _ => some p

/-- The directory that components lead to; there is nothing above the root. -/
def walk : List String → List String → List String
  | here, [] => here
  | here, part :: rest => walk (if part = ".." then here.dropLast else here ++ [part]) rest

/-- `resolve`. -/
def resolve (cwd : Directory) (p : PosixPath) : PosixPath where
  absolute := true
  parts := walk (if p.absolute then [] else cwd.parts) p.parts

theorem expanduser_absolute {p : PosixPath} (home : String) (userHome : String → Option String)
    (absolute : p.absolute = true) : p.expanduser home userHome = some p := by
  unfold expanduser
  rw [absolute]

theorem resolve_absolute {p : PosixPath} (absolute : p.absolute = true) (cwd cwd' : Directory) :
    p.resolve cwd = p.resolve cwd' := by
  simp [resolve, absolute]

/-- Components that are fewer than the directory is deep do not leave its first component. -/
theorem walk_head (top : String) (parts : List String) :
    ∀ here : List String, parts.length ≤ here.length →
      ∃ rest, walk (top :: here) parts = top :: rest := by
  induction parts with
  | nil => exact fun here _ => ⟨here, rfl⟩
  | cons part parts ih =>
    intro here deep
    rw [walk]
    by_cases up : part = ".."
    · have below : here ≠ [] := by
        rintro rfl
        cases deep
      rw [if_pos up, List.dropLast_cons_of_ne_nil below]
      exact ih here.dropLast (by simp at deep ⊢; omega)
    · rw [if_neg up, List.cons_append]
      exact ih (here ++ [part]) (by simp at deep ⊢; omega)

/-- The directory `/name/name/.../name`. -/
def nested (name : String) (depth : Nat)
    (proper : name ≠ "" ∧ name ≠ "." ∧ name ≠ ".." ∧ '/' ∉ name.toList) : Directory where
  parts := List.replicate depth name
  proper := by
    intro part member
    rw [List.eq_of_mem_replicate member]
    exact proper

/-- What a relative path resolves to depends on the directory. -/
theorem resolve_relative {p : PosixPath} (relative : p.absolute = false) :
    ∃ cwd cwd' : Directory, p.resolve cwd ≠ p.resolve cwd' := by
  refine ⟨nested "a" (p.parts.length + 1) (by decide), nested "b" (p.parts.length + 1) (by decide),
    fun same => ?_⟩
  have leads (name : String) := walk_head name p.parts (List.replicate p.parts.length name)
    (by simp)
  obtain ⟨rest, first⟩ := leads "a"
  obtain ⟨rest', second⟩ := leads "b"
  have parts := congrArg PosixPath.parts same
  simp only [resolve, nested, relative, List.replicate_succ] at parts
  simp only [Bool.false_eq_true, if_false, first, second, List.cons.injEq] at parts
  exact absurd parts.1 (by decide)

/-- A path that may not exist resolves the same from everywhere when it is absolute. -/
theorem resolve_independent_iff (p : Option PosixPath) :
    (∀ cwd cwd', p.map (resolve cwd) = p.map (resolve cwd')) ↔
      ∀ q, p = some q → q.absolute = true := by
  cases p with
  | none => exact ⟨fun _ _ same => (nomatch same), fun _ _ _ => rfl⟩
  | some q =>
    constructor
    · intro independent r same
      cases same
      by_contra relative
      obtain ⟨cwd, cwd', differ⟩ := resolve_relative (Bool.eq_false_iff.mpr relative)
      exact differ (Option.some.inj (independent cwd cwd'))
    · exact fun absolute cwd cwd' => congrArg some (resolve_absolute (absolute q rfl) cwd cwd')

theorem join_injective (names : List String) :
    Function.Injective fun p : PosixPath => p.join names := by
  intro p q same
  cases p
  cases q
  simpa [join] using same

end PosixPath

end Python
