/-
  Escaped entries are read back.

  A text may hold any keys and values, empty ones and ones of several lines among them, once every
  sign and all white space stands behind a backslash.  Reading such a text gives all entries in
  their order, those of a key that occurs again included (`parse_escapedText`).
-/
import DeployConfig.Proofs.Properties.Written

namespace DeployConfig.Properties

open DeployConfig.Text

/-! ## Escaping -/

/-- A character escaped: a letter stands for tab, line feed, carriage return and form feed, and a
    backslash stands in front of signs and of all other white space. -/
def escapeChar (c : Char) : List Char :=
  match letter? c with
  | some letter => ['\\', letter]
  | none => if isSign c || isBlank c then ['\\', c] else [c]

/-- A text escaped. -/
def escape (text : String) : List Char := text.toList.flatMap escapeChar

/-- The line of an entry. -/
def escapedLine (pair : String × String) : List Char := escape pair.1 ++ '=' :: escape pair.2

/-- The text of entries, with one line for each and line feeds between them. -/
def escapedText (pairs : List (String × String)) : String :=
  String.ofList (List.intercalate ['\n'] (pairs.map escapedLine))

/-! ## Reading back -/

theorem writes_escapeChar (c : Char) : Writes isPlainInKey [c] (escapeChar c) := by
  rw [escapeChar]
  cases special : letter? c with
  | some letter => exact .letter special
  | none =>
    show Writes isPlainInKey [c] (if isSign c || isBlank c then ['\\', c] else [c])
    split
    · rename_i marked
      exact .quoted special (by simpa using marked)
    · rename_i plain
      exact .itself (by simpa [isPlainInKey] using plain) .nil

/-- An escaped text writes the text, and might stand in a key. -/
theorem writes_escape (text : String) : Writes isPlainInKey text.toList (escape text) := by
  have written := Writes.flatMap writes_escapeChar text.toList
  rwa [List.flatMap_singleton'] at written

theorem writesEntry_escapedLine (pair : String × String) :
    WritesEntry pair (escapedLine pair) :=
  .intro (writes_escape pair.1) (writes_escape pair.2).inValue fun _ first =>
    ((writes_escape pair.2).of_mem_head? first).2.1

/-- **Escaped entries are read back** as they are, and in their order. -/
theorem parse_escapedText (pairs : List (String × String)) : parse (escapedText pairs) = pairs := by
  have written : List.Forall₂ WritesEntry pairs (pairs.map escapedLine) := by
    rw [List.forall₂_map_right_iff, List.forall₂_same]
    exact fun pair _ => writesEntry_escapedLine pair
  refine parse_of_writesEntry written ?_
  rw [escapedText, String.toList_ofList]
  refine lines_joined fun line member => ?_
  obtain ⟨pair, -, rfl⟩ := List.mem_map.1 member
  exact ⟨(writesEntry_escapedLine pair).inLine, by simp [escapedLine]⟩

example : escapedText [("#k", " v\\"), ("", "a\nu"), ("#k", "")] =
    "\\#k=\\ v\\\\\n=a\\nu\n\\#k=" := by decide

end DeployConfig.Properties
