/-
  Upper and lower case of text.

  The full Unicode mappings: one character may become several (`ß` becomes `SS`), and a capital
  sigma becomes the final form `ς` at the end of a word.  ASCII takes the short way, since nearly
  all configuration text is ASCII.
-/
import DeployConfig.Text.CaseTable

namespace DeployConfig.Text

/-- The character that a table of runs gives for a character, if it lists it. -/
def CaseRun.find? (runs : List CaseRun) (n : Nat) : Option Nat :=
  (runs.find? fun run => run.first ≤ n && n ≤ run.last && (n - run.first) % run.step == 0).map
    fun run => ((n : Int) + run.distance).toNat

/-- Whether a number lies in one of the ranges, ends included. -/
def inRanges (ranges : List (Nat × Nat)) (n : Nat) : Bool :=
  ranges.any fun range => range.1 ≤ n && n ≤ range.2

/-- The upper-case form of a character. -/
def upperChar (c : Char) : List Char :=
  let n := c.toNat
  if n < 0x80 then [if 0x61 ≤ n && n ≤ 0x7A then Char.ofNat (n - 0x20) else c]
  else match upperSpecial.lookup n with
    | some forms => forms.map Char.ofNat
    | none => [((CaseRun.find? upperRuns n).map Char.ofNat).getD c]

/-- The lower-case form of a character on its own. -/
def lowerChar (c : Char) : List Char :=
  let n := c.toNat
  if n < 0x80 then [if 0x41 ≤ n && n ≤ 0x5A then Char.ofNat (n + 0x20) else c]
  else match lowerSpecial.lookup n with
    | some forms => forms.map Char.ofNat
    | none => [((CaseRun.find? lowerRuns n).map Char.ofNat).getD c]

/-- Whether the nearest character that is no mark or sign is a cased letter. -/
def nextToCased (cs : List Char) : Bool :=
  match cs.dropWhile fun c => inRanges ignorableRanges c.toNat with
  | [] => false
  | c :: _ => inRanges casedRanges c.toNat

/-- Text in upper case. -/
def upper (s : String) : String := String.ofList (s.toList.flatMap upperChar)

/-- Characters in lower case, given the characters before them back to front.  A capital sigma
    that ends a word takes its final form. -/
def lowerAfter (before : List Char) : List Char → List Char
  | [] => []
  | c :: rest =>
    (if c.toNat == 0x3A3 then
      [if nextToCased before && !nextToCased rest then Char.ofNat 0x3C2 else Char.ofNat 0x3C3]
    else lowerChar c) ++ lowerAfter (c :: before) rest

/-- Text in lower case. -/
def lower (s : String) : String := String.ofList (lowerAfter [] s.toList)

end DeployConfig.Text
