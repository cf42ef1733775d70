/-
  What a rejected assignment leaves.

  A kind of block keeps its targets if an assignment that fails leaves the target as it was; then
  binding that stops at an entry leaves what the entries before it made (`KeepsTargets`).

  1. **Binding that fails**: for every kind, binding stops at an entry that fails, or it goes
     through the whole block and reports the names that are not known.
  2. **The kinds**: all slots of all kinds but one read their field before they touch the target.
  3. **Options of processors** are the exception: they are set one by one as they are read.  A
     field that fails leaves those in front of the first one that cannot be read
     (`assign_config_failed_iff`), and nothing else of the target changes.

  All of it together is `rejected_assignments`.
-/
import DeployConfig.Proofs.Config.RoundTrip
import DeployConfig.Proofs.Extension.Direct

namespace DeployConfig

open Bindable

/-- A field that fails in a uniform slot leaves the target as it was. -/
theorem Slot.Uniform.unchanged {T : Type} {slot : Slot T} (uniform : slot.Uniform)
    {target changed : T} {field : Field} {error : BindError}
    (failed : slot.assign target field = ⟨changed, some error⟩) : changed = target := by
  obtain ⟨read, assigns⟩ := uniform
  rw [assigns] at failed
  cases what : read field with
  | error e =>
    rw [what] at failed
    cases failed
    rfl
  | ok change =>
    rw [what] at failed
    cases failed

/-! ## Binding that fails -/

namespace Bindable

variable {T : Type} [Bindable T]

/-- Binding after some unknown names that ends with an error stops at an entry that fails, or has
    walked over all entries with known names. -/
theorem bindRest_failed {target left : T} {unknown : List String} {block : Block}
    {error : BindError} (failed : bindRest target unknown block = ⟨left, some error⟩) :
    (∃ before name value after made, block = before ++ (name, value) :: after ∧
      Walk target (knownEntries T before) made ∧
        assign? made name value = some ⟨left, some error⟩) ∨
    (Walk target (knownEntries T block) left ∧ ∃ names, error = .unknownFields (kind T) names) := by
  induction block generalizing target unknown with
  | nil =>
    rw [bindRest] at failed
    split at failed
    · cases failed
    · cases failed
      exact .inr ⟨.done _, _, rfl⟩
  | cons entry rest ih =>
    obtain ⟨name, value⟩ := entry
    rw [bindRest] at failed
    split at failed
    · -- An unknown name is left out of the walk.
      rename_i notKnown
      have skipped (before : Block) :
          knownEntries T ((name, value) :: before) = knownEntries T before :=
        List.filter_cons_of_neg (by simp [(assign?_eq_none_iff target name value).1 notKnown])
      rcases ih failed with ⟨before, bad, held, after, made, rfl, walk, fails⟩ | ⟨walk, named⟩
      · exact .inl ⟨(name, value) :: before, bad, held, after, made, rfl, skipped before ▸ walk,
          fails⟩
      · exact .inr ⟨skipped rest ▸ walk, named⟩
    · -- An assignment that is taken is the first step of the walk.
      rename_i changed taken
      have kept (before : Block) :
          knownEntries T ((name, value) :: before) = (name, value) :: knownEntries T before :=
        List.filter_cons_of_pos (knows_of_answered taken)
      rcases ih failed with ⟨before, bad, held, after, made, rfl, walk, fails⟩ | ⟨walk, named⟩
      · exact .inl ⟨(name, value) :: before, bad, held, after, made, rfl,
          kept before ▸ .step taken walk, fails⟩
      · exact .inr ⟨kept rest ▸ .step taken walk, named⟩
    · rename_i changed e fails
      cases failed
      exact .inl ⟨[], name, value, rest, target, rfl, .done target, fails⟩

variable (T) in
/-- A kind of block whose targets an assignment that fails leaves as they were. -/
structure KeepsTargets : Prop where
  /-- What fails changes nothing. -/
  unchanged : ∀ (target changed : T) (name : String) (value : Value) (error : BindError),
    assign? target name value = some ⟨changed, some error⟩ → changed = target
  /-- Binding that fails leaves what the entries before the failing one made, or all entries if
      only names are unknown. -/
  stopped : ∀ (target left : T) (block : Block) (error : BindError),
    bindInto target block = ⟨left, some error⟩ →
      (∃ before name value after, block = before ++ (name, value) :: after ∧
        Walk target (knownEntries T before) left ∧
          assign? left name value = some ⟨left, some error⟩) ∨
      (Walk target (knownEntries T block) left ∧
        ∃ names, error = .unknownFields (kind T) names)

/-- That an assignment which fails changes nothing is enough. -/
theorem KeepsTargets.of_unchanged
    (unchanged : ∀ (target changed : T) (name : String) (value : Value) (error : BindError),
      assign? target name value = some ⟨changed, some error⟩ → changed = target) :
    KeepsTargets T := by
  refine ⟨unchanged, ?_⟩
  intro target left block error failed
  rcases bindRest_failed failed with ⟨before, name, value, after, made, parted, walk, fails⟩ | ended
  · have same : left = made := unchanged made left name value error fails
    subst same
    exact .inl ⟨before, name, value, after, parted, walk, fails⟩
  · exact .inr ended

/-- A kind whose slots change every target alike keeps its targets. -/
theorem keepsTargets_of_uniform [Uniform T] : KeepsTargets T := by
  refine .of_unchanged ?_
  intro target changed name value error failed
  exact (fails_of_failed failed).1

end Bindable

/-! ## The kinds -/

section Tables

variable {T α : Type}

theorem uniform_nil : ∀ slot ∈ ([] : List (Slot T)), slot.Uniform := by
  intro slot member
  cases member

/-- A slot that reads a part and then replaces it, in front of uniform ones. -/
theorem uniform_cons {name : String} {codec : Codec α} {set : T → α → T}
    {rest : List (Slot T)} (later : ∀ slot ∈ rest, slot.Uniform) :
    ∀ slot ∈ Slot.replacing name codec set :: rest, slot.Uniform := by
  intro slot member
  rcases List.mem_cons.1 member with rfl | member
  · exact Slot.uniform_replacing name codec set
  · exact later slot member

end Tables

instance : Uniform Access where
  uniform_slot := uniform_cons <| uniform_cons <| uniform_cons <| uniform_cons <| uniform_cons <|
    uniform_cons <| uniform_cons <| uniform_cons <| uniform_cons <| uniform_cons <| uniform_cons <|
    uniform_cons <| uniform_cons <| uniform_cons <| uniform_cons <| uniform_cons <| uniform_cons <|
    uniform_cons <| uniform_cons <| uniform_cons <| uniform_cons <| uniform_cons <| uniform_cons <|
    uniform_cons <| uniform_cons <| uniform_cons <| uniform_cons uniform_nil

instance : Uniform RegistryAuth where
  uniform_slot := uniform_cons <| uniform_cons <| uniform_cons <| uniform_cons <| uniform_cons <|
    uniform_cons uniform_nil

instance : Uniform Machine where
  uniform_slot := uniform_cons <| uniform_cons <| uniform_cons <| uniform_cons uniform_nil

instance : Uniform Mapping where
  uniform_slot := uniform_cons <| uniform_cons <| uniform_cons uniform_nil

instance : Uniform AssemblyFile where
  uniform_slot := uniform_cons <| uniform_cons uniform_nil

instance : Uniform Layer where
  uniform_slot := uniform_cons <| uniform_cons <| uniform_cons uniform_nil

instance : Uniform Assembly where
  uniform_slot := uniform_cons <| uniform_cons <| uniform_cons <| uniform_cons uniform_nil

instance : Uniform Build where
  uniform_slot := uniform_cons <| uniform_cons <| uniform_cons <| uniform_cons <| uniform_cons <|
    uniform_cons <| uniform_cons <| uniform_cons <| uniform_cons <| uniform_cons <| uniform_cons <|
    uniform_cons uniform_nil

instance : Uniform Image where
  uniform_slot := uniform_cons <| uniform_cons <| uniform_cons <| uniform_cons uniform_nil

instance : Uniform ConfigMapEntry where
  uniform_slot := uniform_cons <| uniform_cons <| uniform_cons uniform_nil

instance : Uniform ConfigMap where
  uniform_slot := uniform_cons <| uniform_cons <| uniform_cons uniform_nil

instance : Uniform Metadata where
  uniform_slot := uniform_cons <| uniform_cons <| uniform_cons <| uniform_cons <| uniform_cons <|
    uniform_cons uniform_nil

instance : Uniform Resources where
  uniform_slot := uniform_cons <| uniform_cons <| uniform_cons <| uniform_cons <| uniform_cons <|
    uniform_cons <| uniform_cons <| uniform_cons <| uniform_cons <| uniform_cons <|
    uniform_cons uniform_nil

/-! ## Options of processors -/

namespace Processors

/-- Options are set up to the first entry that cannot be read. -/
theorem setOptions_failed {p left : Processors} {kind : String} {entries : Block}
    {error : BindError} (failed : p.setOptions kind entries = ⟨left, some error⟩) :
    ∃ before bad after options, entries = before ++ bad :: after ∧
      before.mapM (readOptions kind) = .ok options ∧ readOptions kind bad = .error error ∧
        left = { p with config := p.config.insertAll options } := by
  induction entries generalizing p with
  | nil => cases failed
  | cons entry rest ih =>
    obtain ⟨name, value⟩ := entry
    rw [setOptions] at failed
    cases read : Field.stringMap ⟨kind, name, value⟩ with
    | error e =>
      rw [read] at failed
      cases failed
      refine ⟨[], (name, value), rest, [], rfl, rfl, ?_, rfl⟩
      rw [readOptions, read]
      rfl
    | ok map =>
      rw [read] at failed
      obtain ⟨before, bad, after, options, rfl, taken, fails, rfl⟩ := ih failed
      refine ⟨(name, value) :: before, bad, after, (name, map) :: options, rfl, ?_, fails, rfl⟩
      have first : readOptions kind (name, value) = .ok (name, map) := by
        rw [readOptions, read]
        rfl
      rw [List.mapM_cons, first, taken]
      rfl

/-- **What a rejected field of options leaves.**  It is no block, and the target is as it was; or it
    is a block with an entry that cannot be read, and the options in front of the first such entry
    are set. -/
theorem assign_config_failed_iff {p left : Processors} {value : Value} {error : BindError} :
    assign? p "config" value = some ⟨left, some error⟩ ↔
      (Field.block ⟨"processor", "config", value⟩ = .error error ∧ left = p) ∨
      ∃ before bad after options, value = .block (before ++ bad :: after) ∧
        before.mapM (readOptions "processor") = .ok options ∧
          readOptions "processor" bad = .error error ∧
            left = { p with config := p.config.insertAll options } := by
  have answered : assign? p "config" value =
      some (configSlot.assign p ⟨"processor", "config", value⟩) := rfl
  rw [answered, Option.some.injEq]
  constructor
  · intro failed
    rw [configSlot] at failed
    cases value with
    | block entries =>
      obtain ⟨before, bad, after, options, rfl, taken, fails, same⟩ := setOptions_failed failed
      exact .inr ⟨before, bad, after, options, rfl, taken, fails, same⟩
    | string _ | integer _ | float _ | boolean _ | list _ =>
      cases failed
      exact .inl ⟨rfl, rfl⟩
  · rintro (⟨noBlock, rfl⟩ | ⟨before, bad, after, options, rfl, taken, fails, rfl⟩)
    · cases value with
      | block entries => cases noBlock
      | string _ | integer _ | float _ | boolean _ | list _ =>
        cases noBlock
        rfl
    · show p.setOptions "processor" (before ++ bad :: after) = _
      rw [p.setOptions_append taken, setOptions]
      rw [readOptions] at fails
      cases read : Field.stringMap ⟨"processor", bad.1, bad.2⟩ with
      | error e =>
        rw [read] at fails
        cases fails
        rfl
      | ok map =>
        rw [read] at fails
        cases fails

/-- A rejected field other than the options leaves processors as they were. -/
theorem unchanged_of_ne {p changed : Processors} {name : String} {value : Value}
    {error : BindError} (failed : assign? p name value = some ⟨changed, some error⟩)
    (other : name ≠ "config") : changed = p := by
  obtain ⟨slot, known, rfl, assigned⟩ := exists_slot_of_assign? failed
  rcases List.mem_cons.1 known with rfl | known
  · exact (Slot.uniform_replacing ..).unchanged assigned
  rcases List.mem_cons.1 known with rfl | known
  · exact (Slot.uniform_replacing ..).unchanged assigned
  · cases List.mem_singleton.1 known
    exact absurd rfl other

end Processors

/-! ## Every kind -/

/-- An extension that fails to take a block is as the entries before the failing one made it, or all
    entries if only names are unknown. -/
theorem Extension.apply_failed {e left : Extension} {block : Block} {error : BindError}
    (failed : e.apply block = ⟨left, some error⟩) :
    left.project = e.project ∧
      ((∃ before name value after, block = before ++ (name, value) :: after ∧
        Walk e.declarations (knownEntries Declarations before) left.declarations ∧
          left.apply [(name, value)] = ⟨left, some error⟩) ∨
      (Walk e.declarations (knownEntries Declarations block) left.declarations ∧
        ∃ names, error = .unknownFields "kubernetes" names)) := by
  obtain ⟨d, bound, rfl⟩ := Extension.apply_eq_iff.1 failed
  refine ⟨rfl, ?_⟩
  have keeps : KeepsTargets Declarations := keepsTargets_of_uniform
  rcases keeps.stopped _ _ _ _ bound with ⟨before, name, value, after, parted, walk, fails⟩ | ended
  · exact .inl ⟨before, name, value, after, parted, walk, Extension.apply_eq (bindInto_one fails)⟩
  · exact .inr ended

/-- **What a rejected assignment leaves, for every kind.**

    * An assignment that fails leaves declarations, and whatever stands in a block of theirs, as
      they were, and binding that stops leaves what the entries before the failing one made.
      Processors alone are different.
    * An extension is as it was if an assignment to it fails, and as the entries before the failing
      one made it if a block does.
    * Processors are as they were if another field of theirs than the options fails.
    * A field of options fails because it is no block, and processors are as they were; or because
      of an entry that cannot be read, and the options in front of the first such entry are set.
    * Binding processors stops with what this assignment leaves of what the entries before it
      made. -/
theorem rejected_assignments (name : String) (value : Value) (block : Block) (error : BindError) :
    (KeepsTargets Access ∧ KeepsTargets Resources ∧ KeepsTargets Metadata ∧
      KeepsTargets ConfigMap ∧ KeepsTargets ConfigMapEntry ∧ KeepsTargets Image ∧
      KeepsTargets Build ∧ KeepsTargets Assembly ∧ KeepsTargets Layer ∧
      KeepsTargets AssemblyFile ∧ KeepsTargets Machine ∧ KeepsTargets RegistryAuth ∧
      KeepsTargets Mapping ∧ KeepsTargets Declared ∧ KeepsTargets Declarations) ∧
    (∀ e left : Extension, e.apply [(name, value)] = ⟨left, some error⟩ → left = e) ∧
    (∀ e left : Extension, e.apply block = ⟨left, some error⟩ →
      left.project = e.project ∧
        ((∃ before name value after, block = before ++ (name, value) :: after ∧
          Walk e.declarations (knownEntries Declarations before) left.declarations ∧
            left.apply [(name, value)] = ⟨left, some error⟩) ∨
        (Walk e.declarations (knownEntries Declarations block) left.declarations ∧
          ∃ names, error = .unknownFields "kubernetes" names))) ∧
    (∀ p left : Processors, assign? p name value = some ⟨left, some error⟩ → name ≠ "config" →
      left = p) ∧
    (∀ p left : Processors, assign? p "config" value = some ⟨left, some error⟩ ↔
      (Field.block ⟨"processor", "config", value⟩ = .error error ∧ left = p) ∨
      ∃ before bad after options, value = .block (before ++ bad :: after) ∧
        before.mapM (Processors.readOptions "processor") = .ok options ∧
          Processors.readOptions "processor" bad = .error error ∧
            left = { p with config := p.config.insertAll options }) ∧
    (∀ p left : Processors, bindInto p block = ⟨left, some error⟩ →
      (∃ before name value after made, block = before ++ (name, value) :: after ∧
        Walk p (knownEntries Processors before) made ∧
          assign? made name value = some ⟨left, some error⟩) ∨
      (Walk p (knownEntries Processors block) left ∧
        ∃ names, error = .unknownFields "processor" names)) := by
  refine ⟨⟨?_, ?_, ?_, ?_, ?_, ?_, ?_, ?_, ?_, ?_, ?_, ?_, ?_, ?_, ?_⟩, ?_, ?_, ?_, ?_, ?_⟩
  iterate 15 exact keepsTargets_of_uniform
  · intro e left failed
    obtain ⟨d, outcome, rfl⟩ := Extension.apply_eq_iff.1 failed
    rw [target_of_one_failed outcome]
  · intro e left failed
    exact Extension.apply_failed failed
  · intro p left failed other
    exact Processors.unchanged_of_ne failed other
  · intro p left
    exact Processors.assign_config_failed_iff
  · intro p left failed
    exact bindRest_failed failed

/-- A layer with a file keeps it when another file is misspelled, and takes no part of a list. -/
theorem rejected_assignments_misspelled :
    let held : Layer := { files := [{ source := some "a.jar" }] }
    let misspelled : Value := .block [("sorce", .string "b.jar")]
    let error : BindError := .unknownFields "file" ["sorce"]
    assign? held "file" misspelled = some ⟨held, some error⟩ ∧
      assign? held "files" (.list [.block [("source", .string "c.jar")], misspelled]) =
        some ⟨held, some error⟩ := by
  intro held misspelled error
  obtain ⟨⟨-, -, -, -, -, -, -, -, layer, -⟩, -⟩ := rejected_assignments "file" misspelled [] error
  have one : assign? held "file" misspelled =
      some ⟨((assign? held "file" misspelled).get rfl).target, some error⟩ := rfl
  have two : assign? held "files" (.list [.block [("source", .string "c.jar")], misspelled]) =
      some ⟨((assign? held "files" (.list [.block [("source", .string "c.jar")],
        misspelled])).get rfl).target, some error⟩ := rfl
  constructor
  · rw [layer.unchanged _ _ _ _ _ one] at one
    exact one
  · rw [layer.unchanged _ _ _ _ _ two] at two
    exact two

/-- The options of one processor are left when those of the next one are no block. -/
theorem options_before_rejected_entry :
    let options : Value := .block [("a", .block [("k", .string "v")]), ("b", .string "x")]
    let left : Processors := { config := .ofList [("a", .ofList [("k", "v")])] }
    let error : BindError := .typeMismatch "processor" "b" .block "string"
    assign? ({} : Processors) "config" options = some ⟨left, some error⟩ ∧
      bindInto ({} : Processors) [("config", options)] = ⟨left, some error⟩ ∧ left ≠ {} := by
  intro options left error
  exact ⟨rfl, rfl, by decide⟩

end DeployConfig
