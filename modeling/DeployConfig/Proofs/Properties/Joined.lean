/-
  Joined texts.

  Texts of properties can be joined by line feeds into one text with the entries of all of them,
  unless the end of one runs into the next: a last line that goes on would take in a line of the
  next text, and a last carriage return would become part of a line end (`joined_texts`).

  1. **Lines**: the line feed behind a text ends its last line, be that empty or not, and the
     physical lines of the next text follow (`exists_ended`).
  2. **The crux** is that behind a line that does not go on nothing is pending, so the lines that
     follow are read as if they were the first ones (`logicalLines_append`).
  3. **Files**: laying the properties of some files over one another gives those of one file with
     the joined text (`ofText_intercalate`).
-/
import DeployConfig.Proofs.CommandLine.Precedence
import DeployConfig.Proofs.Properties.LogicalLines

namespace DeployConfig

/-! ## The last line -/

namespace Text

/-- What stands behind the last line feed of a text. -/
def lastLine (cs : List Char) : List Char := cs.rtakeWhile (· != '\n')

theorem not_mem_lastLine (cs : List Char) : '\n' ∉ lastLine cs := fun member => by
  have other := List.mem_rtakeWhile_imp member
  simp at other

/-- Before its last line, a text consists of lines that are ended. -/
theorem exists_ended (cs : List Char) : ∃ front, cs = front ++ lastLine cs ∧
    ∀ rest, lines (front ++ rest) = lines front ++ lines rest := by
  refine ⟨cs.rdropWhile (· != '\n'), List.rdropWhile_append_rtakeWhile.symm, fun rest => ?_⟩
  rcases List.eq_nil_or_concat' (cs.rdropWhile (· != '\n')) with none | ⟨front, c, some⟩
  · rw [none]
    rfl
  · have feed : c = '\n' := by
      have last := List.rdropWhile_last_not (· != '\n') cs (by simp [some])
      simpa [some] using last
    rw [some, feed, List.append_assoc, List.singleton_append]
    exact linesAfter_lineFeed [] front rest

end Text

open Text

namespace Properties

/-! ## Logical lines -/

/-- White space at the start of a line does not count. -/
theorem goesOn_trimStart {line : List Char} : GoesOn (trimStart line) ↔ GoesOn line := by
  rw [← continues_iff, ← continues_iff, ← Bool.eq_iff_iff]
  induction line with
  | nil => rfl
  | cons c rest ih =>
    rw [trimStart, List.dropWhile_cons]
    split
    · rename_i blank
      have other : c ≠ '\\' := by
        rintro rfl
        exact absurd blank (by decide)
      rw [continues_cons other]
      exact ih
    · rfl

/-- Pending text never goes on by itself. -/
def Settled (pending : Option (List Char)) : Prop :=
  ∀ gathered ∈ pending, continues gathered = false

theorem settled_none : Settled none := nofun

/-- A line that is read next gives some logical lines and leaves some text pending, whatever
    follows; nothing is pending behind a line that does not go on. -/
def ReadsLine (pending : Option (List Char)) (line : List Char) : Prop :=
  ∃ out left, Settled left ∧ (¬GoesOn line → left = none) ∧
    ∀ rest, logicalLines pending (line :: rest) = out ++ logicalLines left rest

variable {pending : Option (List Char)}

theorem readsLine_some {gathered line : List Char} (settled : continues gathered = false)
    (trimmed : trimStart line = line) : ReadsLine (some gathered) line := by
  by_cases goesOn : GoesOn line
  · refine ⟨[], some (gathered ++ piece line), ?_, absurd goesOn, fun rest => ?_⟩
    · rintro _ ⟨⟩
      rw [continues_gathered settled, continues_piece]
    · rw [logicalLines_some_cons settled trimmed, if_pos goesOn, List.nil_append]
  · refine ⟨[gathered ++ piece line], none, settled_none, fun _ => rfl, fun rest => ?_⟩
    rw [logicalLines_some_cons settled trimmed, if_neg goesOn, List.singleton_append]

theorem readsLine_of_trimmed (settled : Settled pending) {line : List Char}
    (trimmed : trimStart line = line) : ReadsLine pending line := by
  cases pending with
  | some gathered => exact readsLine_some (settled gathered rfl) trimmed
  | none =>
    by_cases skipped : Passed line
    · refine ⟨[], none, settled_none, fun _ => rfl, fun rest => ?_⟩
      rw [logicalLines, trimmed, isSkipped_iff.2 skipped]
      rfl
    · -- A line that is not passed over begins a logical line, in which nothing is gathered yet.
      have begun : ReadsLine (some []) line := readsLine_some rfl trimmed
      simpa only [ReadsLine, ← logicalLines_none_cons skipped trimmed] using begun

/-- **Any line** is read on its own, whatever is pending. -/
theorem readsLine (settled : Settled pending) (line : List Char) : ReadsLine pending line := by
  have trimmed : trimStart (trimStart line) = trimStart line :=
    List.dropWhile_idempotent isBlank line
  obtain ⟨out, left, settled', ended, read⟩ := readsLine_of_trimmed settled trimmed
  refine ⟨out, left, settled', fun stays => ended (mt goesOn_trimStart.1 stays), fun rest => ?_⟩
  rw [← read rest]
  simp only [logicalLines, trimmed]

/-- **Behind a line that does not go on**, the reader starts afresh. -/
theorem logicalLines_append (settled : Settled pending) (front : List (List Char))
    {last : List Char} (stays : ¬GoesOn last) (rest : List (List Char)) :
    logicalLines pending (front ++ last :: rest) =
      logicalLines pending (front ++ [last]) ++ logicalLines none rest := by
  induction front generalizing pending with
  | nil =>
    obtain ⟨out, left, -, ended, read⟩ := readsLine settled last
    rw [List.nil_append, List.nil_append, read, read, ended stays]
    simp [logicalLines]
  | cons line front ih =>
    obtain ⟨out, left, settled', -, read⟩ := readsLine settled line
    rw [List.cons_append, List.cons_append, read, read, ih settled', List.append_assoc]

/-- An empty line behind all others gives nothing. -/
theorem logicalLines_concat_nil (settled : Settled pending) (front : List (List Char)) :
    logicalLines pending (front ++ [[]]) = logicalLines pending front := by
  induction front generalizing pending with
  | nil =>
    cases pending with
    | none => rfl
    | some gathered =>
      have ends : continues gathered = false := settled gathered rfl
      simp [logicalLines, trimStart, ends]
  | cons line front ih =>
    obtain ⟨out, left, settled', -, read⟩ := readsLine settled line
    rw [List.cons_append, read, read, ih settled']

/-! ## Texts -/

/-- A text that another one may follow: its last line, unless a line feed has ended it, neither goes
    on nor ends in a carriage return. -/
def Closed (text : String) : Prop :=
  ¬GoesOn (lastLine text.toList) ∧ (lastLine text.toList).getLast? ≠ some '\r'

instance : DecidablePred Closed := fun _ => inferInstanceAs (Decidable (_ ∧ _))

/-- The logical lines of two texts with a line feed between them. -/
theorem logicalLines_lines_append {cs : List Char} (stays : ¬GoesOn (lastLine cs))
    (ends : (lastLine cs).getLast? ≠ some '\r') (ds : List Char) :
    logicalLines none (lines (cs ++ '\n' :: ds)) =
      logicalLines none (lines cs) ++ logicalLines none (lines ds) := by
  obtain ⟨front, parted, apart⟩ := exists_ended cs
  have inLine := not_mem_lastLine cs
  generalize lastLine cs = last at *
  -- With the line feed behind it, the last line is a line even if it is empty.
  have first : logicalLines none (lines front ++ [last]) = logicalLines none (lines cs) := by
    rw [parted, apart]
    by_cases empty : last = []
    · rw [empty, logicalLines_concat_nil settled_none]
      exact congrArg _ (List.append_nil _).symm
    · rw [lines_of_not_mem inLine empty]
  rw [← first, ← logicalLines_append settled_none (lines front) stays, parted, List.append_assoc,
    apart, lines_append_of_getLast? inLine ends]

/-- Two texts with a line feed between them have the entries of the one and then of the other. -/
theorem parse_append {a : String} (closed : Closed a) (b : String) :
    parse (a ++ "\n" ++ b) = parse a ++ parse b := by
  have characters : (a ++ "\n" ++ b).toList = a.toList ++ '\n' :: b.toList := by
    rw [String.toList_append, String.toList_append, List.append_assoc]
    rfl
  rw [parse, characters, logicalLines_lines_append closed.1 closed.2, List.map_append]
  rfl

/-- Texts joined by line feeds have the entries of all of them. -/
theorem parse_intercalate {texts : List String} (closed : ∀ text ∈ texts.dropLast, Closed text) :
    parse ("\n".intercalate texts) = (texts.map parse).flatten := by
  induction texts with
  | nil => rfl
  | cons a rest ih =>
    cases rest with
    | nil => simp
    | cons b rest =>
      obtain ⟨here, later⟩ := List.forall_mem_cons.1 closed
      rw [String.intercalate_cons_cons, parse_append here, ih later]
      rfl

theorem ofText_intercalate {texts : List String} (closed : ∀ text ∈ texts.dropLast, Closed text) :
    ofText ("\n".intercalate texts) = (texts.map ofText).foldl merge .empty := by
  have laid := foldl_merge_ofList [] (texts.map parse)
  rw [List.map_map] at laid
  rw [ofText, parse_intercalate closed]
  exact laid.symm

end Properties

namespace Source

theorem fileProperties_of_readable (source : Source) {s : Surroundings} {texts : List String}
    (readable : List.Forall₂ (fun path text => s.files.readText path = .ok text)
      source.properties texts) :
    source.fileProperties s.files = .ok ((texts.map Properties.ofText).foldl .merge .empty) := by
  have read := mapM_text_of_readable readable
  show (source.properties.mapM (text s)).bind _ = _
  rw [read]
  rfl

end Source

/-- **Joined texts have the entries of all of them.**  Let the last line of a text, if no line feed
    ends it, neither go on nor end in a carriage return.  Then a line feed and another text add the
    entries of the other text and change nothing else.  So if all files of properties can be read
    and all but the last one end in this way, they lead to the same properties as one file with
    their texts joined by line feeds. -/
theorem joined_texts :
    (∀ a b : String, Properties.Closed a →
      Properties.parse (a ++ "\n" ++ b) = Properties.parse a ++ Properties.parse b) ∧
    ∀ (source : Source) (s : Surroundings) (texts : List String) (path : Path),
      List.Forall₂ (fun path text => s.files.readText path = .ok text) source.properties texts →
      (∀ text ∈ texts.dropLast, Properties.Closed text) →
      s.files.readText path = .ok ("\n".intercalate texts) →
      ∃ p, source.fileProperties s.files = .ok p ∧
        { source with properties := [path] }.fileProperties s.files = .ok p := by
  refine ⟨fun a b closed => Properties.parse_append closed b, ?_⟩
  intro source s texts path readable closed whole
  refine ⟨_, Source.fileProperties_of_readable source readable, ?_⟩
  have one := Source.fileProperties_of_readable { source with properties := [path] }
    (.cons whole .nil)
  rw [one, ← Properties.ofText_intercalate closed]
  exact congrArg Except.ok (OrderedMap.ofList_toList _)

/-- A text whose last line is ended, one that ends in two backslashes, and a last one that would
    go on. -/
theorem joined_texts_with_backslashes :
    let low := "a=1\\\n 2\n#b\\\n"
    let middle := "a:3\nb \\\\"
    let high := "c=4\\"
    let s : Surroundings := {
      files := fun path => .file <| List.lookup path.text [("low", low), ("middle", middle),
        ("high", high), ("all", "\n".intercalate [low, middle, high])]
      workingDirectory := ⟨"/work"⟩
      environment := [] }
    let several : Source := { properties := [⟨"low"⟩, ⟨"middle"⟩, ⟨"high"⟩] }
    let one : Source := { properties := [⟨"all"⟩] }
    Properties.Closed low ∧ Properties.Closed middle ∧
      Properties.parse (low ++ "\n" ++ middle) = [("a", "12"), ("a", "3"), ("b", "\\")] ∧
      ∃ p, several.fileProperties s.files = .ok p ∧ one.fileProperties s.files = .ok p ∧
        p.toList = [("a", "3"), ("b", "\\"), ("c", "4")] := by
  intro low middle high s several one
  obtain ⟨append, files⟩ := joined_texts
  have closedLow : Properties.Closed low := by decide
  have closedMiddle : Properties.Closed middle := by decide
  have closed : ∀ text ∈ [low, middle, high].dropLast, Properties.Closed text :=
    List.forall_mem_cons.2 ⟨closedLow, List.forall_mem_singleton.2 closedMiddle⟩
  have readable : List.Forall₂ (fun path text => s.files.readText path = .ok text)
      several.properties [low, middle, high] := .cons rfl (.cons rfl (.cons rfl .nil))
  obtain ⟨p, merged, whole⟩ := files several s [low, middle, high] ⟨"all"⟩ readable closed rfl
  have held : ((several.fileProperties s.files).map (·.toList)).toOption =
      some [("a", "3"), ("b", "\\"), ("c", "4")] := by decide +kernel
  rw [merged] at held
  refine ⟨closedLow, closedMiddle, ?_, p, merged, whole, Option.some.inj held⟩
  rw [append low middle closedLow]
  decide +kernel

/-- A last line that goes on takes in the first line of the next text. -/
example : Properties.parse ("a=1\\" ++ "\n" ++ "b=2") = [("a", "1b=2")] := by decide +kernel

end DeployConfig
