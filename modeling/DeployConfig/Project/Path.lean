/-
  Paths of files and directories.

  A path is kept as it was written: nothing is normalised, so `//`, `.` and `..` stay.  Only the
  questions asked of a path look at its components.
-/
import DeployConfig.Text.Separated

namespace DeployConfig

/-- A path, as written. -/
structure Path where
  text : String
  deriving DecidableEq, Repr, Inhabited

namespace Path

/-- Whether the first character of some text is a slash. -/
def startsAtRoot (cs : List Char) : Bool := cs.head? == some '/'

/-- Whether a path starts at the root directory. -/
def isAbsolute (p : Path) : Bool := startsAtRoot p.text.toList

/-- The characters that stand between two joined paths: a slash, unless the first path is empty or
    ends in one. -/
def separator (cs : List Char) : List Char :=
  match cs.getLast? with
  | none => []
  | some c => if c == '/' then [] else ['/']

/-- The characters of a path joined onto another one. -/
def joinChars (base tail : List Char) : List Char :=
  if startsAtRoot tail then tail else base ++ separator base ++ tail

/-- A path seen from another one: an absolute path stands for itself, any other one is appended. -/
def join (base : Path) (tail : String) : Path :=
  ⟨String.ofList (joinChars base.text.toList tail.toList)⟩

/-- A path followed by each segment in turn. -/
def joinAll (base : Path) (segments : List String) : Path := segments.foldl join base

/-- The components of a path: its names between slashes, without empty ones and single dots. -/
def components (p : Path) : List (List Char) :=
  (Text.splitAt '/' p.text.toList).filter fun name => !name.isEmpty && name != ['.']

/-- The extension of a path: what follows the last dot of its last component, unless that dot
    starts the component. -/
def extension? (p : Path) : Option String :=
  match p.components.getLast? with
  | none => none
  | some name =>
    if name == ['.', '.'] then none
    else
      let after := (name.reverse.takeWhile (· != '.')).reverse
      let stem := (name.reverse.dropWhile (· != '.')).drop 1
      if stem.isEmpty then none else some (String.ofList after)

/-! ## Small laws -/

/-- A path joined with an absolute one is the absolute one. -/
theorem join_of_isAbsolute (base : Path) (tail : String)
    (h : isAbsolute ⟨tail⟩ = true) : base.join tail = ⟨tail⟩ := by
  simp only [isAbsolute] at h
  simp [join, joinChars, h, String.ofList_toList]

theorem startsAtRoot_joinChars {base : List Char} (tail : List Char)
    (h : startsAtRoot base = true) : startsAtRoot (joinChars base tail) = true := by
  simp only [joinChars]
  split
  · assumption
  · cases base with
    | nil => simp [startsAtRoot] at h
    | cons c rest => simpa [startsAtRoot] using h

/-- Whatever is joined onto an absolute path, the result is absolute. -/
theorem isAbsolute_join {base : Path} (tail : String) (h : base.isAbsolute = true) :
    (base.join tail).isAbsolute = true := by
  simp only [isAbsolute, join, String.toList_ofList] at *
  exact startsAtRoot_joinChars _ h

/-- Segments joined onto an absolute path leave it absolute. -/
theorem isAbsolute_joinAll {base : Path} (segments : List String) (h : base.isAbsolute = true) :
    (base.joinAll segments).isAbsolute = true := by
  induction segments generalizing base with
  | nil => exact h
  | cons segment rest ih => exact ih (isAbsolute_join segment h)

end Path

end DeployConfig
