/-
  The catalog tells what a snapshot reports.

  A row of the catalog is a name, a property key, a kind and the text of a default.  The row alone
  says what becomes of the setting (`CatalogRow.parse?`, `CatalogRow.default?`), and for every
  extension that edits lead to, the snapshot reports just that under the name of the row
  (`Extension.reported_by_catalog`): what the property of the key stands for, or else what was last
  assigned to the name, or else the default.  So the rows, the accessors, the binder and the
  snapshot, which are tables apart from each other, agree on every setting.

  1. **Rows**: what the texts of a row stand for, and that the settings agree with their rows.
  2. **Edits**: a sequence of edits is one walk over all the assignments that they make.
  3. **The crux** is the three tiers of a single setting, from the one rule of resolution.
-/
import DeployConfig.Proofs.Extension.Application
import DeployConfig.Proofs.Extension.Fields
import DeployConfig.Proofs.Text.Integer

namespace DeployConfig

open Bindable

/-! ## Rows -/

/-- The place that a text describes: a directory of the project, and segments behind slashes. -/
def Place.ofDescription? (text : String) : Option Place :=
  match Text.splitAt '/' text.toList with
  | [] => none
  | front :: segments =>
    ([.base, .build, .output].find? fun d : Directory => d.description.toList == front).map
      fun d => ⟨d, segments.map String.ofList⟩

namespace CatalogRow

/-- The texts that an enumerated row allows. -/
def choices (row : CatalogRow) : List String :=
  if row.name = "buildStrategy" then ["s2i", "docker", "jib", "buildpacks"]
  else if row.name = "resourceFileType" then ["json", "yaml"]
  else []

/-- The value that a text stands for at the kind of a row. -/
def parse? (row : CatalogRow) (text : String) : Option Value :=
  match row.kind with
  | .boolean => some (.boolean (isTrueWord text))
  | .integer => (Text.int? text.toList).bind fun n =>
    if -2147483648 ≤ n ∧ n ≤ 2147483647 then some (.integer (Int64.ofInt n)) else none
  | .enumeration => if text ∈ row.choices then some (.string text) else none
  | .string | .path => some (.string text)

/-- The value that the property of a row stands for; a path is seen from the base directory. -/
def parseProperty? (row : CatalogRow) (layout : Layout) (text : String) : Option Value :=
  row.parse? (if row.kind = .path then (layout.base.join text).text else text)

/-- The default of a row, none if the row has a dash, for the effective registry. -/
def default? (row : CatalogRow) (layout : Layout) (registry : Option Value) : Option Value :=
  if row.fallback = "-" then none
  else if row.fallback = "<registry>" then registry
  else match Place.ofDescription? row.fallback with
    | some place => some (.string (layout.place place).text)
    | none => row.parse? row.fallback

end CatalogRow

/-! ## Settings agree with their rows -/

namespace Properties

/-- The decimal text of a number is read as that number. -/
theorem read_decimal (key : String) (n : Int32) : read key (Text.decimal n.toInt) = .ok n :=
  read_eq_ok_iff.2 (parse?_int32_eq_some_iff.2 (Text.int?_decimal n.toInt))

/-- A text that is read as a member of an enumeration is the name of that member. -/
theorem name_of_read {α : Type} [Enumeration α] [Enumeration.Lawful α] {key text : String} {a : α}
    (h : read key text = .ok a) : Enumeration.name a = text :=
  Enumeration.name_of_ofName? (read_eq_ok_iff.1 h)

end Properties

namespace CatalogRow

/-- Numbers are read from properties as integers of 32 bits. -/
theorem parse?_of_read {row : CatalogRow} {key text : String} {n : Int32}
    (isInteger : row.kind = .integer) (read : Properties.read key text = .ok n) :
    row.parse? text = some ((Codec.integer Int32).write n) := by
  have low : -2147483648 ≤ FixedWidth.toInt n := FixedWidth.least_le n
  have high : FixedWidth.toInt n ≤ 2147483647 := FixedWidth.le_greatest n
  have written := Properties.parse?_int32_eq_some_iff.1 (Properties.read_eq_ok_iff.1 read)
  rw [parse?, isInteger]
  show (Text.int? text.toList).bind _ = _
  rw [written, Option.bind_some, if_pos (by omega)]
  rfl

/-- A default without a special meaning. -/
abbrev IsLiteral (text : String) : Prop :=
  text ≠ "-" ∧ text ≠ "<registry>" ∧ Place.ofDescription? text = none

/-- A default without a special meaning is read at the kind of its row. -/
theorem default?_literal {row : CatalogRow} {layout : Layout} {registry : Option Value}
    (literal : IsLiteral row.fallback) :
    row.default? layout registry = row.parse? row.fallback := by
  obtain ⟨dash, effective, place⟩ := literal
  rw [default?, if_neg dash, if_neg effective, place]

/-- A text whose first piece is not empty starts as that piece does. -/
theorem exists_of_splitAt {separator c : Char} {cs piece : List Char} {pieces : List (List Char)}
    (h : Text.splitAt separator cs = (c :: piece) :: pieces) : ∃ rest, cs = c :: rest := by
  cases cs with
  | nil => simp [Text.splitAt] at h
  | cons first rest =>
    simp only [Text.splitAt] at h
    split at h
    · cases h
    · split at h <;> cases h <;> exact ⟨rest, rfl⟩

theorem isLiteral_of_int? {text : String} {n : Int} (read : Text.int? text.toList = some n) :
    IsLiteral text := by
  have unread : Text.int? "-".toList = none ∧ Text.int? "<registry>".toList = none := by decide
  refine ⟨?_, ?_, ?_⟩
  · rintro rfl
    rw [unread.1] at read
    cases read
  · rintro rfl
    rw [unread.2] at read
    cases read
  · -- A directory is described by a text that starts with a bracket, and no number does.
    have bracket (d : Directory) : ∃ piece, d.description.toList = '<' :: piece := by
      cases d <;> exact ⟨_, rfl⟩
    rw [Place.ofDescription?]
    split
    · rfl
    · rename_i front segments parted
      rw [Option.map_eq_none_iff, List.find?_eq_none]
      intro d _ same
      obtain ⟨piece, starts⟩ := bracket d
      rw [← beq_iff_eq.1 same, starts] at parted
      obtain ⟨rest, written⟩ := exists_of_splitAt parted
      rw [written] at read
      cases read

theorem isLiteral_boolean (b : Bool) : IsLiteral (if b then "true" else "false") := by
  cases b <;> decide

end CatalogRow

/-- A property that reads gives what its row says. -/
theorem Setting.parseProperty?_row {s : Setting} {layout : Layout} {text : String}
    {held : Option Value} (read : s.read layout text = .ok held) :
    s.row.parseProperty? layout text = held := by
  cases s with
  | flag s => exact Except.ok.inj read
  | text s => exact Except.ok.inj read
  | path s => exact Except.ok.inj read
  | number s =>
    obtain ⟨n, parsed, rfl⟩ := except_map_eq_ok_iff.1 read
    exact CatalogRow.parse?_of_read rfl parsed
  | buildStrategy =>
    obtain ⟨a, parsed, rfl⟩ := except_map_eq_ok_iff.1 read
    cases Properties.name_of_read parsed
    cases a <;> rfl
  | resourceFileType =>
    obtain ⟨a, parsed, rfl⟩ := except_map_eq_ok_iff.1 read
    cases Properties.name_of_read parsed
    cases a <;> rfl

/-- A setting has the default that its row says. -/
theorem Extension.default?_row (e : Extension) (s : Setting) :
    s.row.default? e.project.layout (e.registry.map Value.string) = e.default? s := by
  cases s with
  | flag s =>
    have written : (Setting.flag s).row.fallback = if s.fallback then "true" else "false" := rfl
    have literal := CatalogRow.isLiteral_boolean s.fallback
    have word (b : Bool) : isTrueWord (if b then "true" else "false") = b := by cases b <;> decide
    rw [← written] at literal
    rw [CatalogRow.default?_literal literal, written]
    exact congrArg (fun b => some (Value.boolean b)) (word s.fallback)
  | number s =>
    have written : (Setting.number s).row.fallback = Text.decimal s.fallback.toInt := rfl
    have literal := CatalogRow.isLiteral_of_int? (Text.int?_decimal s.fallback.toInt)
    have read : (Setting.number s).row.parse? (Text.decimal s.fallback.toInt) =
        some ((Codec.integer Int32).write s.fallback) :=
      CatalogRow.parse?_of_read rfl (Properties.read_decimal s.key s.fallback)
    rw [← written] at literal
    rw [CatalogRow.default?_literal literal, written, read]
    rfl
  | text s => cases s <;> rfl
  | path s =>
    have described : Place.ofDescription? s.fallback.description = some s.fallback := by
      cases s <;> decide
    have special : s.fallback.description ≠ "-" ∧ s.fallback.description ≠ "<registry>" := by
      cases s <;> decide
    show CatalogRow.default? ⟨_, _, .path, s.fallback.description⟩ _ _ = _
    rw [CatalogRow.default?, if_neg special.1, if_neg special.2, described]
    rfl
  | buildStrategy => rfl
  | resourceFileType => rfl

namespace Extension

/-! ## Edits -/

/-- A change to what is declared for an extension. -/
inductive Edit where
  | apply (block : Block)
  | setBuildStrategy (strategy : BuildStrategy)
  | setResourceFileType (type : ResourceFileType)

/-- The extension after an edit, or why the edit fails. -/
def Edit.on (e : Extension) : Edit → Except BindError Extension
  | .apply block => (e.apply block).toExcept
  | .setBuildStrategy s => .ok (e.setBuildStrategy s)
  | .setResourceFileType t => .ok (e.setResourceFileType t)

/-- The extension after edits that all succeed. -/
def edited (e : Extension) (edits : List Edit) : Except BindError Extension :=
  edits.foldlM Edit.on e

/-- The assignments that an edit makes. -/
def Edit.assignments : Edit → Block
  | .apply block => block
  | .setBuildStrategy s => [("buildStrategy", .string (Enumeration.name s))]
  | .setResourceFileType t => [("resourceFileType", .string (Enumeration.name t))]

/-- An edit that succeeds walks over its assignments. -/
theorem walk_of_edit {e e' : Extension} {edit : Edit} (done : edit.on e = .ok e') :
    e'.project = e.project ∧ Walk e.declarations edit.assignments e'.declarations := by
  cases edit with
  | apply block =>
    obtain ⟨d, walk, rfl⟩ := apply_eq_ok_iff.1 (Outcome.toExcept_eq_ok_iff.1 done)
    exact ⟨rfl, walk⟩
  | setBuildStrategy s =>
    cases done
    exact ⟨rfl, .step (Declarations.assign?_eq_iff.2 (.buildStrategy s)) (.done _)⟩
  | setResourceFileType t =>
    cases done
    exact ⟨rfl, .step (Declarations.assign?_eq_iff.2 (.resourceFileType t)) (.done _)⟩

/-- **Edits that succeed walk over all their assignments, one edit after the other.** -/
theorem walk_of_edited {e e' : Extension} {edits : List Edit} (done : e.edited edits = .ok e') :
    e'.project = e.project ∧
      Walk e.declarations (edits.flatMap Edit.assignments) e'.declarations := by
  induction edits generalizing e with
  | nil =>
    cases done
    exact ⟨rfl, .done _⟩
  | cons edit rest ih =>
    obtain ⟨middle, first, later⟩ := except_bind_eq_ok_iff.1 done
    obtain ⟨project, walk⟩ := walk_of_edit first
    obtain ⟨project', walk'⟩ := ih later
    exact ⟨project'.trans project, walk.append walk'⟩

/-! ## The three tiers -/

/-- A snapshot reports the effective registry under its name. -/
theorem lookup_registry {e : Extension} {s : Snapshot} (resolved : e.resolveAll = .ok s) :
    (s.fields.lookup "registry").join = e.registry.map Value.string := by
  have reported : s.fields.lookup "registry" = some (s.value (.text .registry)) :=
    s.lookup_fields (.text .registry)
  have effective := (resolveAll_eq_ok_iff.1 resolved).1 (.text .registry)
  rw [reported, Option.join_some]
  exact (Except.ok.inj effective).symm

/-- **The catalog tells what a snapshot reports.**  However an extension came about, if all of it
    resolves, then for every row of the catalog the snapshot reports, under the name of the row,

    * what the property of its key stands for, if there is one and it is not blank;
    * otherwise the value of the last assignment of its name, as it was assigned;
    * otherwise its default. -/
theorem reported_by_catalog (layout : Layout) (p : Properties) (edits : List Edit)
    (e : Extension) (s : Snapshot) (done : edited ⟨⟨layout, p⟩, {}⟩ edits = .ok e)
    (resolved : e.resolveAll = .ok s) (row : CatalogRow) (listed : row ∈ catalog) :
    (∀ text, p.get? row.key = some text → Text.blank text = false →
      ∃ value, row.parseProperty? layout text = some value ∧
        s.fields.lookup row.name = some (some value)) ∧
    ((∀ text, p.get? row.key = some text → Text.blank text = true) →
      (∀ value, Block.get? (edits.flatMap Edit.assignments) row.name = some value →
        s.fields.lookup row.name = some (some value)) ∧
      (Block.get? (edits.flatMap Edit.assignments) row.name = none →
        s.fields.lookup row.name =
          some (row.default? layout (s.fields.lookup "registry").join))) := by
  rw [catalog_eq] at listed
  obtain ⟨setting, -, rfl⟩ := List.mem_map.1 listed
  obtain ⟨project, walk⟩ := walk_of_edited done
  obtain ⟨sameLayout, sameProperties⟩ : e.project.layout = layout ∧ e.properties = p := by
    rw [properties, project]
    exact ⟨rfl, rfl⟩
  have value := (resolveAll_eq_ok_iff.1 resolved).1 setting
  have reported : s.fields.lookup setting.row.name = some (s.value setting) :=
    s.lookup_fields setting
  constructor
  · -- The property overrides, so the setting has what the text stands for.
    intro text present filled
    have overridden : e.properties.override? setting.key = some text := by
      rw [sameProperties]
      exact Properties.override?_eq_some_iff.2 ⟨present, filled⟩
    rw [value_of_override overridden, sameLayout] at value
    rw [reported]
    cases held : s.value setting with
    | none => exact absurd (held ▸ value) (setting.read_ne_none layout text)
    | some v => exact ⟨v, Setting.parseProperty?_row (held ▸ value), rfl⟩
  · -- A blank property counts as unset, and the walk over the edits leaves the last assignment.
    intro blank
    have overridden : e.properties.override? setting.key = none := by
      cases found : e.properties.override? setting.key with
      | none => rfl
      | some text =>
        obtain ⟨present, filled⟩ := Properties.override?_eq_some_iff.1 found
        rw [sameProperties] at present
        rw [blank text present] at filled
        cases filled
    rw [value_of_no_override overridden] at value
    have declared : e.declarations.value? (.inl setting) =
        Block.get? (edits.flatMap Edit.assignments) setting.row.name := by
      rw [Declarations.value?_of_walk walk, Declarations.value?_empty, Option.or_none]
      rfl
    rw [declared] at value
    rw [reported, ← Except.ok.inj value]
    refine ⟨?_, ?_⟩
    · intro v assigned
      rw [assigned]
      rfl
    · intro unassigned
      rw [unassigned, Option.none_or, lookup_registry resolved, ← sameLayout, default?_row]

/-- A setting that two blocks assign is reported with its last value. -/
theorem reported_last_namespace :
    ∃ e s, edited ⟨⟨.conventional ⟨"/p"⟩, .ofList [("jkube.docker.registry", "quay.io")]⟩, {}⟩
        [.apply [("namespace", .string "a")], .setBuildStrategy .jib,
          .apply [("namespace", .string "b")]] = .ok e ∧
      e.resolveAll = .ok s ∧ s.fields.lookup "namespace" = some (some (.string "b")) := by
  let new : Extension :=
    ⟨⟨.conventional ⟨"/p"⟩, .ofList [("jkube.docker.registry", "quay.io")]⟩, {}⟩
  let edits : List Edit := [.apply [("namespace", .string "a")], .setBuildStrategy .jib,
    .apply [("namespace", .string "b")]]
  have resolves :
      ((new.edited edits).toOption.bind fun e => e.resolveAll.toOption).isSome = true := by
    decide
  cases done : new.edited edits with
  | error _ => simp [done, Except.toOption] at resolves
  | ok e =>
    cases resolved : e.resolveAll with
    | error _ => simp [done, resolved, Except.toOption] at resolves
    | ok s =>
      have tiers := reported_by_catalog _ _ edits e s done resolved
        ⟨"namespace", "jkube.namespace", .string, "-"⟩ (by decide)
      have unset : ∀ text, new.properties.get? "jkube.namespace" = some text →
          Text.blank text = true := by
        intro text present
        cases present
      exact ⟨e, s, rfl, resolved, (tiers.2 unset).1 _ rfl⟩

end Extension

end DeployConfig
