/-
  Logical lines.

  A reader of properties gathers a logical line from one physical line after the other, and to tell
  whether it goes on, it looks at all that it has gathered.  `Parted` says of each physical line
  alone where logical lines begin and end.

  1. **The crux** is that what has been gathered ends in an even number of backslashes once it has
     lost the one that made it go on.  So backslashes never count across lines, not even those of a
     line of nothing else (`logicalLines_some_cons`).
  2. **Texts**: physical lines can be parted in one way only, and one entry is read for each logical
     line (`logical_lines`).
-/
import Mathlib.Data.List.DropRight
import DeployConfig.Proofs.Properties.Written

namespace DeployConfig.Properties

open DeployConfig.Text

/-! ## Lines that go on -/

/-- A line goes on in the next one: it ends in an odd number of backslashes. -/
def GoesOn (line : List Char) : Prop :=
  ∃ front n, line = front ++ List.replicate (2 * n + 1) '\\' ∧ front.getLast? ≠ some '\\'

/-- Every line ends in some number of backslashes. -/
theorem exists_backslashes (line : List Char) :
    ∃ front k, line = front ++ List.replicate k '\\' ∧ front.getLast? ≠ some '\\' := by
  have all : ∀ c ∈ line.reverse.takeWhile (· == '\\'), c = '\\' := fun c member => by
    simpa using List.mem_takeWhile_imp member
  have parted := congrArg List.reverse (List.takeWhile_append_dropWhile (p := (· == '\\'))
    (l := line.reverse))
  rw [List.reverse_append, List.reverse_reverse, List.eq_replicate_of_mem all,
    List.reverse_replicate] at parted
  refine ⟨_, _, parted.symm, ?_⟩
  rw [List.getLast?_reverse]
  intro first
  have stops := List.head?_dropWhile_not (· == '\\') line.reverse
  rw [first] at stops
  exact absurd stops (by decide)

/-- The backslashes at the end of a line are counted. -/
theorem continues_append_replicate {front : List Char} (ends : front.getLast? ≠ some '\\')
    (k : Nat) :
    continues (front ++ List.replicate k '\\') = (k % 2 == 1) := by
  have all : (List.replicate k '\\').takeWhile (· == '\\') = List.replicate k '\\' := by
    simp
  have none : front.reverse.takeWhile (· == '\\') = [] := by
    rw [← List.head?_reverse] at ends
    cases back : front.reverse with
    | nil => rfl
    | cons c rest =>
      rw [back] at ends
      exact List.takeWhile_cons_of_neg (by simpa using ends)
  rw [continues, List.reverse_append, List.reverse_replicate, List.takeWhile_append, all,
    if_pos rfl, none, List.append_nil, List.length_replicate]

theorem continues_iff {line : List Char} : continues line = true ↔ GoesOn line := by
  constructor
  · intro odd
    obtain ⟨front, k, rfl, ends⟩ := exists_backslashes line
    rw [continues_append_replicate ends, beq_iff_eq] at odd
    exact ⟨front, k / 2, by rw [show 2 * (k / 2) + 1 = k by omega], ends⟩
  · rintro ⟨front, n, rfl, ends⟩
    rw [continues_append_replicate ends, beq_iff_eq]
    omega

instance : DecidablePred GoesOn := fun _ => decidable_of_iff _ continues_iff

/-- What a line adds to its logical line: one that goes on loses its last backslash. -/
def piece (line : List Char) : List Char := if GoesOn line then line.dropLast else line

/-- The piece of a line never goes on. -/
theorem continues_piece (line : List Char) : continues (piece line) = false := by
  rw [piece]
  split
  · rename_i goesOn
    obtain ⟨front, n, rfl, ends⟩ := goesOn
    rw [List.replicate_succ', ← List.append_assoc, List.dropLast_concat,
      continues_append_replicate ends, beq_eq_false_iff_ne]
    omega
  · rename_i stays
    exact Bool.eq_false_iff.2 (mt continues_iff.1 stays)

/-! ## One physical line -/

/-- A line, its start trimmed, at which no logical line begins: it is empty or a comment. -/
def Passed (line : List Char) : Prop :=
  line = [] ∨ line.head? = some '#' ∨ line.head? = some '!'

theorem isSkipped_iff {line : List Char} : isSkipped line = true ↔ Passed line := by
  cases line <;> simp [isSkipped, Passed]

instance : DecidablePred Passed := fun _ => decidable_of_iff _ isSkipped_iff

variable {gathered line : List Char} {rest : List (List Char)}

/-- What is gathered counts for nothing once it does not go on itself. -/
theorem continues_gathered (settled : continues gathered = false) (line : List Char) :
    continues (gathered ++ line) = continues line := by
  refine continues_append gathered line ?_
  rw [continues, beq_eq_false_iff_ne] at settled
  omega

/-- **One line is read on its own account**: whether it goes on, and what it adds to what has been
    gathered before it, does not depend on the latter. -/
theorem logicalLines_some_cons (settled : continues gathered = false)
    (trimmed : trimStart line = line) :
    logicalLines (some gathered) (line :: rest) =
      if GoesOn line then logicalLines (some (gathered ++ piece line)) rest
      else (gathered ++ piece line) :: logicalLines none rest := by
  rw [logicalLines, trimmed, Option.isNone_some, Bool.false_and, if_neg Bool.false_ne_true,
    Option.getD_some]
  simp only [continues_gathered settled, continues_iff]
  by_cases goesOn : GoesOn line
  · have written : line ≠ [] := by
      rintro rfl
      exact absurd goesOn (by decide)
    rw [if_pos goesOn, if_pos goesOn, piece, if_pos goesOn,
      List.dropLast_append_of_ne_nil written]
  · rw [if_neg goesOn, if_neg goesOn, piece, if_neg goesOn]

/-- A line that is not passed over is the first of a logical line. -/
theorem logicalLines_none_cons (starts : ¬Passed line) (trimmed : trimStart line = line) :
    logicalLines none (line :: rest) = logicalLines (some []) (line :: rest) := by
  have entered : isSkipped line = false := Bool.eq_false_iff.2 (mt isSkipped_iff.1 starts)
  simp only [logicalLines, trimmed, entered, Bool.and_false, Option.getD_none, Option.getD_some]

/-- Trimming the start of each line beforehand changes nothing. -/
theorem logicalLines_trimmed (pending : Option (List Char)) (ls : List (List Char)) :
    logicalLines pending (ls.map trimStart) = logicalLines pending ls := by
  have again (l : List Char) : trimStart (trimStart l) = trimStart l :=
    List.dropWhile_idempotent isBlank l
  induction ls generalizing pending with
  | nil => rfl
  | cons l ls ih => simp only [List.map_cons, logicalLines, again, ih]

/-! ## One logical line -/

/-- The lines of a logical line once it has begun, with the lines that follow it: it takes in the
    next one exactly if the line at hand goes on, as far as there are any. -/
inductive Whole : List (List Char) → List (List Char) → Prop where
  | last {line : List Char} {rest : List (List Char)} (ends : GoesOn line → rest = []) :
      Whole [line] rest
  | next {line : List Char} {group rest : List (List Char)} (goesOn : GoesOn line)
      (more : Whole group rest) : Whole (line :: group) rest

/-- The text of a logical line. -/
def joined (group : List (List Char)) : List Char := group.flatMap piece

/-- From any line on, there is a logical line. -/
theorem exists_whole (line : List Char) (rest : List (List Char)) :
    ∃ group after, rest = group ++ after ∧ Whole (line :: group) after := by
  induction rest generalizing line with
  | nil => exact ⟨[], [], rfl, .last fun _ => rfl⟩
  | cons next rest ih =>
    by_cases goesOn : GoesOn line
    · obtain ⟨group, after, rfl, whole⟩ := ih next
      exact ⟨next :: group, after, rfl, .next goesOn whole⟩
    · exact ⟨[], next :: rest, rfl, .last fun h => absurd h goesOn⟩

theorem Whole.ne_nil {group rest : List (List Char)} (whole : Whole group rest) : group ≠ [] := by
  cases whole <;> exact List.cons_ne_nil _ _

/-- A logical line ends at one place only. -/
theorem Whole.unique {group rest other after : List (List Char)} (whole : Whole group rest)
    (again : Whole other after) (same : group ++ rest = other ++ after) :
    group = other ∧ rest = after := by
  induction whole generalizing other with
  | last ends =>
    cases again with
    | last => exact ⟨congrArg ([·]) (List.cons.inj same).1, (List.cons.inj same).2⟩
    | next goesOn more =>
      -- The line goes on, so nothing follows it, but the other logical line has another line.
      obtain ⟨rfl, behind⟩ := List.cons.inj same
      rw [ends goesOn] at behind
      exact absurd (List.append_eq_nil_iff.1 behind.symm).1 more.ne_nil
  | next goesOn more ih =>
    cases again with
    | last ends =>
      obtain ⟨rfl, behind⟩ := List.cons.inj same
      rw [ends goesOn] at behind
      exact absurd (List.append_eq_nil_iff.1 behind).1 more.ne_nil
    | next _ more' =>
      obtain ⟨rfl, behind⟩ := List.cons.inj same
      obtain ⟨rfl, rfl⟩ := ih more' behind
      exact ⟨rfl, rfl⟩

/-- **A logical line is gathered from its lines**, and the reader starts afresh behind it. -/
theorem Whole.logicalLines_eq {group rest : List (List Char)} (whole : Whole group rest)
    (trimmed : ∀ line ∈ group, trimStart line = line) {gathered : List Char}
    (settled : continues gathered = false) :
    logicalLines (some gathered) (group ++ rest) =
      (gathered ++ joined group) :: logicalLines none rest := by
  induction whole generalizing gathered with
  | @last line rest ends =>
    rw [List.singleton_append, logicalLines_some_cons settled (trimmed line List.mem_cons_self),
      joined, List.flatMap_singleton]
    split
    · rename_i goesOn
      rw [ends goesOn]
      rfl
    · rfl
  | @next line group rest goesOn more ih =>
    obtain ⟨here, later⟩ := List.forall_mem_cons.1 trimmed
    have settled' : continues (gathered ++ piece line) = false := by
      rw [continues_gathered settled, continues_piece]
    rw [List.cons_append, logicalLines_some_cons settled here, if_pos goesOn, ih later settled',
      List.append_assoc]
    rfl

/-! ## All lines -/

/-- Lines, their starts trimmed, parted into the lines of each logical line; between these, empty
    lines and comments are passed over. -/
inductive Parted : List (List Char) → List (List (List Char)) → Prop where
  | nil : Parted [] []
  | passed {line : List Char} {rest : List (List Char)} {groups : List (List (List Char))}
      (skipped : Passed line) (later : Parted rest groups) : Parted (line :: rest) groups
  | entry {first : List Char} {group rest : List (List Char)} {groups : List (List (List Char))}
      (starts : ¬Passed first) (whole : Whole (first :: group) rest) (later : Parted rest groups) :
      Parted (first :: (group ++ rest)) ((first :: group) :: groups)

/-- Lines can be parted. -/
theorem exists_parted : (ls : List (List Char)) → ∃ groups, Parted ls groups
  | [] => ⟨[], .nil⟩
  | line :: rest => by
    by_cases skipped : Passed line
    · obtain ⟨groups, later⟩ := exists_parted rest
      exact ⟨groups, .passed skipped later⟩
    · obtain ⟨group, after, cut, whole⟩ := exists_whole line rest
      have shorter : after.length ≤ rest.length := by
        rw [cut, List.length_append]
        omega
      obtain ⟨groups, later⟩ := exists_parted after
      exact ⟨(line :: group) :: groups, cut ▸ .entry skipped whole later⟩
termination_by ls => ls.length
decreasing_by all_goals simp only [List.length_cons]; omega

/-- Lines can be parted in one way only. -/
theorem Parted.unique {ls : List (List Char)} {groups others : List (List (List Char))}
    (parted : Parted ls groups) (again : Parted ls others) : groups = others := by
  induction parted generalizing others with
  | nil =>
    cases again
    rfl
  | passed skipped _ ih =>
    cases again with
    | passed _ later => exact ih later
    | entry starts => exact absurd skipped starts
  | @entry first group rest groups starts whole _ ih =>
    generalize same : first :: (group ++ rest) = ls at again
    cases again with
    | nil => cases same
    | passed skipped =>
      obtain ⟨rfl, -⟩ := List.cons.inj same
      exact absurd skipped starts
    | entry _ whole' later =>
      obtain ⟨lines, rfl⟩ := whole.unique whole' same
      rw [lines, ih later]

/-- Logical lines are read one after the other as they are parted. -/
theorem Parted.logicalLines_eq {ls : List (List Char)} {groups : List (List (List Char))}
    (parted : Parted ls groups) (trimmed : ∀ line ∈ ls, trimStart line = line) :
    logicalLines none ls = groups.map joined := by
  induction parted with
  | nil => rfl
  | @passed line rest groups skipped _ ih =>
    obtain ⟨here, later⟩ := List.forall_mem_cons.1 trimmed
    rw [logicalLines, here, isSkipped_iff.2 skipped]
    exact ih later
  | @entry first group rest groups starts whole _ ih =>
    rw [← List.cons_append] at trimmed
    obtain ⟨inside, behind⟩ := List.forall_mem_append.1 trimmed
    rw [logicalLines_none_cons starts (inside first List.mem_cons_self), ← List.cons_append,
      whole.logicalLines_eq inside rfl, ih behind]
    rfl

/-- **Each physical line tells by itself where logical lines begin and end.**  The physical lines of
    a text, their starts trimmed, can be parted into logical lines in exactly one way, and a text is
    read as one entry for each of these, in their order: what the pieces of its lines write. -/
theorem logical_lines (text : String) :
    ∃ groups, (∀ others, Parted ((lines text.toList).map trimStart) others ↔ others = groups) ∧
      parse text = groups.map fun group => entry (joined group) := by
  obtain ⟨groups, parted⟩ := exists_parted ((lines text.toList).map trimStart)
  have trimmed : ∀ line ∈ (lines text.toList).map trimStart, trimStart line = line := by
    intro line member
    obtain ⟨l, -, rfl⟩ := List.mem_map.1 member
    exact List.dropWhile_idempotent isBlank l
  refine ⟨groups, fun others => ⟨fun again => again.unique parted, fun same => same ▸ parted⟩, ?_⟩
  rw [parse, ← logicalLines_trimmed, parted.logicalLines_eq trimmed, List.map_map]
  rfl

/-- Backslashes of two lines are not added up, an empty line ends an entry that it continues, and
    the end of the text ends the last one. -/
example : logicalLines none (lines "a=\\\\\\\n\\\n\n#b\\\n!c\\\n\nd\\".toList) =
    ["a=\\\\".toList, "d".toList] := by decide

end DeployConfig.Properties
