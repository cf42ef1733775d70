/-
  Physical lines of text.

  A line ends at a line feed; a carriage return right before the line feed belongs to the line
  end.  Text after the last line feed is a line of its own unless it is empty, and there a final
  carriage return is ordinary text, because no line feed follows it.
-/

namespace DeployConfig.Text

/-- A line that ended in a line feed, given back to front, without the carriage return that may
    stand before the line feed. -/
def endedLine (reversed : List Char) : List Char :=
  match reversed with
  | '\r' :: rest => rest.reverse
  | line => line.reverse

/-- The physical lines of the text that follows the characters already read, which are given
    back to front. -/
def linesAfter (reversed : List Char) : List Char → List (List Char)
  | [] => if reversed.isEmpty then [] else [reversed.reverse]
  | '\n' :: rest => endedLine reversed :: linesAfter [] rest
  | c :: rest => linesAfter (c :: reversed) rest

/-- The physical lines of a text, without their line ends. -/
def lines (cs : List Char) : List (List Char) := linesAfter [] cs

/-! ## Small laws -/

/-- Characters without a line feed are read into the line that they belong to. -/
theorem linesAfter_append {line : List Char} (h : '\n' ∉ line) (reversed rest : List Char) :
    linesAfter reversed (line ++ rest) = linesAfter (line.reverse ++ reversed) rest := by
  induction line generalizing reversed with
  | nil => rfl
  | cons c cs ih =>
    simp only [List.mem_cons, not_or] at h
    rw [List.cons_append, linesAfter, ih h.2, List.reverse_cons, List.append_assoc]
    · rfl
    · exact Ne.symm h.1

/-- Lines are split off up to a line feed whatever follows it. -/
theorem linesAfter_lineFeed (reversed front rest : List Char) :
    linesAfter reversed (front ++ '\n' :: rest) =
      linesAfter reversed (front ++ ['\n']) ++ lines rest := by
  induction front generalizing reversed with
  | nil => rfl
  | cons c cs ih =>
    by_cases feed : c = '\n'
    · subst feed
      show endedLine reversed :: linesAfter [] (cs ++ '\n' :: rest) =
        endedLine reversed :: linesAfter [] (cs ++ ['\n']) ++ lines rest
      rw [ih, List.cons_append]
    · have read (more : List Char) :
          linesAfter reversed (c :: cs ++ more) = linesAfter (c :: reversed) (cs ++ more) := by
        rw [List.cons_append, linesAfter]
        exact feed
      rw [read, read, ih]

/-- A line that ends in no carriage return keeps its characters. -/
theorem endedLine_reverse {line : List Char} (h : line.getLast? ≠ some '\r') :
    endedLine line.reverse = line := by
  rw [endedLine.eq_def]
  split
  · rename_i rest reversed
    rw [← List.head?_reverse, reversed] at h
    exact absurd rfl h
  · exact List.reverse_reverse line

/-- A line feed ends a line. -/
theorem lines_append_of_getLast? {line : List Char} (inLine : '\n' ∉ line)
    (ends : line.getLast? ≠ some '\r') (rest : List Char) :
    lines (line ++ '\n' :: rest) = line :: lines rest := by
  rw [lines, linesAfter_append inLine, List.append_nil, linesAfter, endedLine_reverse ends]
  rfl

theorem lines_append {line : List Char} (h : '\n' ∉ line ∧ '\r' ∉ line) (rest : List Char) :
    lines (line ++ '\n' :: rest) = line :: lines rest :=
  lines_append_of_getLast? h.1 (fun last => h.2 (List.mem_of_getLast? last)) rest

/-- The last line needs no line feed unless it is empty. -/
theorem lines_of_not_mem {line : List Char} (h : '\n' ∉ line) (nonempty : line ≠ []) :
    lines line = [line] := by
  have read := linesAfter_append h [] []
  rw [List.append_nil, List.append_nil] at read
  rw [lines, read, linesAfter, List.reverse_reverse, if_neg]
  rwa [List.isEmpty_iff, List.reverse_eq_nil_iff]

/-- Lines that are each ended by a line feed are read back. -/
theorem lines_ended {ls : List (List Char)} (h : ∀ line ∈ ls, '\n' ∉ line ∧ '\r' ∉ line) :
    lines (ls.flatMap (· ++ ['\n'])) = ls := by
  induction ls with
  | nil => rfl
  | cons line rest ih =>
    obtain ⟨here, later⟩ := List.forall_mem_cons.1 h
    rw [List.flatMap_cons, List.append_assoc, List.singleton_append, lines_append here, ih later]

/-- Lines joined by line feeds are read back if none is empty. -/
theorem lines_joined {ls : List (List Char)}
    (h : ∀ line ∈ ls, ('\n' ∉ line ∧ '\r' ∉ line) ∧ line ≠ []) :
    lines (List.intercalate ['\n'] ls) = ls := by
  induction ls with
  | nil => rfl
  | cons line rest ih =>
    obtain ⟨⟨here, nonempty⟩, later⟩ := List.forall_mem_cons.1 h
    cases rest with
    | nil => rw [List.intercalate_singleton, lines_of_not_mem here.1 nonempty]
    | cons next rest =>
      rw [List.intercalate_cons_cons, List.append_assoc, List.singleton_append,
        lines_append here, ih later]

end DeployConfig.Text
