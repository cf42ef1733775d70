/-
  What an assignment does to the declarations.

  A `kubernetes` block assigns plain values, fields that are one block each, and two collections.
  `Declarations.Assigned` says, case by case, what it can assign and what that leaves, and the field
  table does exactly this (`assign?_eq_iff`).  The fields of one kind share a case, so that a law
  about them is stated once for all of them.
-/
import DeployConfig.Proofs.Settings.RoundTrip
import DeployConfig.Extension.Declarations

namespace DeployConfig

open Bindable

namespace Declarations

/-! ## The fields that are one block each -/

/-- A field whose value is one block. -/
inductive Nested where
  | access
  | resources
  | enricher
  | generator
  | machine
  | authConfig
  deriving DecidableEq

namespace Nested

/-- The kind of block that the field holds. -/
abbrev Target : Nested → Type
  | access => Access
  | resources => Resources
  | enricher => Processors
  | generator => Processors
  | machine => Machine
  | authConfig => RegistryAuth

instance : (k : Nested) → Bindable k.Target
  | access => inferInstanceAs (Bindable Access)
  | resources => inferInstanceAs (Bindable Resources)
  | enricher => inferInstanceAs (Bindable Processors)
  | generator => inferInstanceAs (Bindable Processors)
  | machine => inferInstanceAs (Bindable Machine)
  | authConfig => inferInstanceAs (Bindable RegistryAuth)

instance : (k : Nested) → Writable k.Target
  | access => inferInstanceAs (Writable Access)
  | resources => inferInstanceAs (Writable Resources)
  | enricher => inferInstanceAs (Writable Processors)
  | generator => inferInstanceAs (Writable Processors)
  | machine => inferInstanceAs (Writable Machine)
  | authConfig => inferInstanceAs (Writable RegistryAuth)

instance : (k : Nested) → RoundTrip k.Target
  | access => inferInstanceAs (RoundTrip Access)
  | resources => inferInstanceAs (RoundTrip Resources)
  | enricher => inferInstanceAs (RoundTrip Processors)
  | generator => inferInstanceAs (RoundTrip Processors)
  | machine => inferInstanceAs (RoundTrip Machine)
  | authConfig => inferInstanceAs (RoundTrip RegistryAuth)

/-- The name under which a block assigns the field. -/
def name : Nested → String
  | access => "access"
  | resources => "resources"
  | enricher => "enricher"
  | generator => "generator"
  | machine => "machine"
  | authConfig => "authConfig"

/-- Where the field stands among the declarations. -/
def part : (k : Nested) → Part Declarations (Option k.Target)
  | access => accessPart
  | resources => resourcesPart
  | enricher => enricherPart
  | generator => generatorPart
  | machine => machinePart
  | authConfig => authConfigPart

/-- The slot of the field. -/
def slot (k : Nested) : Slot Declarations := .optional k.name (.nested k.Target) k.part

theorem slot_mem (k : Nested) : k.slot ∈ ownSlots := by
  cases k
  · exact List.mem_of_getElem? (i := 2) rfl
  · exact List.mem_of_getElem? (i := 3) rfl
  · exact List.mem_of_getElem? (i := 4) rfl
  · exact List.mem_of_getElem? (i := 5) rfl
  · exact List.mem_of_getElem? (i := 6) rfl
  · exact List.mem_of_getElem? (i := 7) rfl

/-- Setting one such field leaves the others as they were. -/
theorem get_set_of_ne {j k : Nested} (different : j ≠ k) (d : Declarations)
    (a : Option k.Target) : j.part.get (k.part.set d a) = j.part.get d := by
  cases j <;> cases k <;> first | rfl | exact absurd rfl different

theorem name_injective : Function.Injective name := by
  intro j k same
  cases j <;> cases k <;> first | rfl | exact absurd same (by decide)

end Nested

/-! ## The collections -/

/-- A field whose value is a collection of blocks. -/
inductive Collection where
  | images
  | mappings
  deriving DecidableEq

namespace Collection

/-- The kind of block that the collection holds. -/
abbrev Target : Collection → Type
  | images => Image
  | mappings => Mapping

instance : (k : Collection) → Bindable k.Target
  | images => inferInstanceAs (Bindable Image)
  | mappings => inferInstanceAs (Bindable Mapping)

instance : (k : Collection) → Writable k.Target
  | images => inferInstanceAs (Writable Image)
  | mappings => inferInstanceAs (Writable Mapping)

instance : (k : Collection) → RoundTrip k.Target
  | images => inferInstanceAs (RoundTrip Image)
  | mappings => inferInstanceAs (RoundTrip Mapping)

/-- The name of the whole collection. -/
def plural : Collection → String
  | images => "images"
  | mappings => "mappings"

/-- The name of one of its items. -/
def singular : Collection → String
  | images => imageName
  | mappings => mappingName

/-- Where the collection stands among the declarations. -/
def part : (k : Collection) → Part Declarations (Repeatable k.Target)
  | images => imagesPart
  | mappings => mappingsPart

/-- Setting one collection leaves the other one as it was. -/
theorem get_set_of_ne {j k : Collection} (different : j ≠ k) (d : Declarations)
    (c : Repeatable k.Target) : j.part.get (k.part.set d c) = j.part.get d := by
  cases j <;> cases k <;> first | rfl | exact absurd rfl different

theorem plural_injective : Function.Injective plural := by
  intro j k same
  cases j <;> cases k <;> first | rfl | exact absurd same (by decide)

theorem singular_injective : Function.Injective singular := by
  intro j k same
  cases j <;> cases k <;> first | rfl | exact absurd same (by decide)

/-- The slot of the plural name. -/
def pluralSlot (k : Collection) : Slot Declarations :=
  Declarations.pluralSlot k.plural k.singular k.part

/-- The slot of the singular name. -/
def singularSlot (k : Collection) : Slot Declarations :=
  Declarations.singularSlot k.singular k.part

theorem pluralSlot_mem (k : Collection) : k.pluralSlot ∈ ownSlots := by
  cases k
  · exact List.mem_of_getElem? (i := 8) rfl
  · exact List.mem_of_getElem? (i := 10) rfl

theorem singularSlot_mem (k : Collection) : k.singularSlot ∈ ownSlots := by
  cases k
  · exact List.mem_of_getElem? (i := 9) rfl
  · exact List.mem_of_getElem? (i := 11) rfl

end Collection

/-! ## Names -/

/-- A name that no plain value of the list has is the name of no plain value. -/
theorem plain_ne {name : String} (apart : ∀ i ∈ plains, i.name ≠ name) (i : Plain) :
    i.name ≠ name := apart i (mem_plains i)

theorem plain_ne_nested (i : Plain) (k : Nested) : i.name ≠ k.name :=
  plain_ne (by cases k <;> decide) i

theorem plain_ne_plural (i : Plain) (k : Collection) : i.name ≠ k.plural :=
  plain_ne (by cases k <;> decide) i

theorem plain_ne_singular (i : Plain) (k : Collection) : i.name ≠ k.singular :=
  plain_ne (by cases k <;> decide) i

theorem nested_ne_plural (j : Nested) (k : Collection) : j.name ≠ k.plural := by
  cases j <;> cases k <;> decide

theorem nested_ne_singular (j : Nested) (k : Collection) : j.name ≠ k.singular := by
  cases j <;> cases k <;> decide

theorem plural_ne_singular (j k : Collection) : j.plural ≠ k.singular := by
  cases j <;> cases k <;> decide

/-! ## The table -/

/-- The slot of the build strategy. -/
def buildStrategySlot : Slot Declarations :=
  .optional Setting.buildStrategy.name (.choice BuildStrategy) buildStrategyPart

/-- The slot of the resource file type. -/
def resourceFileTypeSlot : Slot Declarations :=
  .optional Setting.resourceFileType.name (.choice ResourceFileType) resourceFileTypePart

theorem distinct_slots : ((slots : List (Slot Declarations)).map Slot.name).Nodup := by decide

/-- The slots of the table, by the kind of field. -/
theorem mem_slots_cases {slot : Slot Declarations} (known : slot ∈ (slots : List (Slot Declarations))) :
    slot = buildStrategySlot ∨ slot = resourceFileTypeSlot ∨ (∃ k : Nested, slot = k.slot) ∨
      (∃ k : Collection, slot = k.pluralSlot ∨ slot = k.singularSlot) ∨
      ∃ inner ∈ (slots : List (Slot Declared)), slot = inner.lift settingsPart := by
  rcases List.mem_append.1 known with own | lifted
  · simp only [ownSlots, List.mem_cons, List.not_mem_nil, or_false] at own
    rcases own with rfl | rfl | rfl | rfl | rfl | rfl | rfl | rfl | rfl | rfl | rfl | rfl
    · exact .inl rfl
    · exact .inr (.inl rfl)
    · exact .inr (.inr (.inl ⟨.access, rfl⟩))
    · exact .inr (.inr (.inl ⟨.resources, rfl⟩))
    · exact .inr (.inr (.inl ⟨.enricher, rfl⟩))
    · exact .inr (.inr (.inl ⟨.generator, rfl⟩))
    · exact .inr (.inr (.inl ⟨.machine, rfl⟩))
    · exact .inr (.inr (.inl ⟨.authConfig, rfl⟩))
    · exact .inr (.inr (.inr (.inl ⟨.images, .inl rfl⟩)))
    · exact .inr (.inr (.inr (.inl ⟨.images, .inr rfl⟩)))
    · exact .inr (.inr (.inr (.inl ⟨.mappings, .inl rfl⟩)))
    · exact .inr (.inr (.inr (.inl ⟨.mappings, .inr rfl⟩)))
  · obtain ⟨inner, listed, rfl⟩ := List.mem_map.1 lifted
    exact .inr (.inr (.inr (.inr ⟨inner, listed, rfl⟩)))

/-! ## One assignment -/

/-- What a block can assign to the declarations, and what that leaves. -/
inductive Assigned (d : Declarations) : String → Value → Declarations → Prop where
  | settings {name : String} {value : Value} {changed : Declared}
      (assigned : Declared.Assigned d.settings name value changed) :
      Assigned d name value { d with settings := changed }
  | buildStrategy (s : BuildStrategy) : Assigned d Setting.buildStrategy.name
      ((Codec.choice BuildStrategy).write s) { d with buildStrategy := some s }
  | resourceFileType (t : ResourceFileType) : Assigned d Setting.resourceFileType.name
      ((Codec.choice ResourceFileType).write t) { d with resourceFileType := some t }
  | nested (k : Nested) {value : Value} {a : k.Target}
      (read : (Codec.nested k.Target).read ⟨blockName, k.name, value⟩ = .ok a) :
      Assigned d k.name value (k.part.set d (some a))
  | plural (k : Collection) {value : Value} {c : Repeatable k.Target}
      (replaced : (k.part.get d).replace ⟨blockName, k.plural, value⟩ k.singular = .ok c) :
      Assigned d k.plural value (k.part.set d c)
  | singular (k : Collection) {value : Value} {c : Repeatable k.Target}
      (extended : (k.part.get d).extend ⟨blockName, k.singular, value⟩ = .ok c) :
      Assigned d k.singular value (k.part.set d c)

/-- A lifted slot does to the whole what the slot does to the part. -/
theorem assign_lift_eq_iff {inner : Slot Declared} {d d' : Declarations} {f : Field} :
    (inner.lift settingsPart).assign d f = ⟨d', none⟩ ↔
      ∃ changed, inner.assign d.settings f = ⟨changed, none⟩ ∧
        d' = { d with settings := changed } := by
  show (inner.assign d.settings f).map _ = _ ↔ _
  obtain ⟨changed, error⟩ := inner.assign d.settings f
  simp only [Outcome.map, Outcome.mk.injEq]
  constructor
  · rintro ⟨rfl, rfl⟩
    exact ⟨changed, ⟨rfl, rfl⟩, rfl⟩
  · rintro ⟨_, ⟨rfl, rfl⟩, rfl⟩
    exact ⟨rfl, rfl⟩

/-- **The field table does what the cases say, and takes nothing else.** -/
theorem assign?_eq_iff {d d' : Declarations} {name : String} {value : Value} :
    assign? d name value = some ⟨d', none⟩ ↔ Assigned d name value d' := by
  constructor
  · intro taken
    obtain ⟨slot, known, rfl, assigned⟩ := exists_slot_of_assign? taken
    -- Each slot of the table gives one case; a slot of a setting gives the cases of settings.
    rcases mem_slots_cases known with
      rfl | rfl | ⟨k, rfl⟩ | ⟨k, rfl | rfl⟩ | ⟨inner, listed, rfl⟩
    · obtain ⟨s, rfl, rfl⟩ := Slot.assign_optional_eq_iff.1 assigned
      exact .buildStrategy s
    · obtain ⟨t, rfl, rfl⟩ := Slot.assign_optional_eq_iff.1 assigned
      exact .resourceFileType t
    · obtain ⟨a, read, rfl⟩ := Outcome.ofExcept_map_eq_iff.1 assigned
      exact .nested k read
    · obtain ⟨c, replaced, rfl⟩ := Outcome.ofExcept_map_eq_iff.1 assigned
      exact .plural k replaced
    · obtain ⟨c, extended, rfl⟩ := Outcome.ofExcept_map_eq_iff.1 assigned
      exact .singular k extended
    · obtain ⟨changed, inside, rfl⟩ := assign_lift_eq_iff.1 assigned
      have taken' : assign? d.settings inner.name value = some ⟨changed, none⟩ := by
        rw [assign?_of_mem Declared.distinct_slots listed]
        exact congrArg some inside
      exact .settings (Declared.assign?_eq_iff.1 taken')
  · intro assigned
    have answered {slot : Slot Declarations} (known : slot ∈ (slots : List (Slot Declarations)))
        (leaves : slot.assign d ⟨blockName, slot.name, value⟩ = ⟨d', none⟩) :
        assign? d slot.name value = some ⟨d', none⟩ := by
      rw [assign?_of_mem distinct_slots known]
      exact congrArg some leaves
    have own {slot : Slot Declarations} (known : slot ∈ ownSlots) :
        slot ∈ (slots : List (Slot Declarations)) := List.mem_append_left _ known
    cases assigned with
    | settings assigned =>
      obtain ⟨inner, known, rfl, inside⟩ :=
        exists_slot_of_assign? (Declared.assign?_eq_iff.2 assigned)
      have lifted : inner.lift settingsPart ∈ (slots : List (Slot Declarations)) :=
        List.mem_append_right _ (List.mem_map_of_mem known)
      exact answered lifted (assign_lift_eq_iff.2 ⟨_, inside, rfl⟩)
    | buildStrategy s =>
      exact answered (own (List.mem_of_getElem? (i := 0) rfl))
        (Slot.assign_optional_eq_iff.2 ⟨s, rfl, rfl⟩)
    | resourceFileType t =>
      exact answered (own (List.mem_of_getElem? (i := 1) rfl))
        (Slot.assign_optional_eq_iff.2 ⟨t, rfl, rfl⟩)
    | nested k read =>
      exact answered (own k.slot_mem) (Outcome.ofExcept_map_eq_iff.2 ⟨_, read, rfl⟩)
    | plural k replaced =>
      exact answered (own k.pluralSlot_mem) (Outcome.ofExcept_map_eq_iff.2 ⟨_, replaced, rfl⟩)
    | singular k extended =>
      exact answered (own k.singularSlot_mem) (Outcome.ofExcept_map_eq_iff.2 ⟨_, extended, rfl⟩)

/-! ## What it leaves in each field -/

/-- A plain value as it is written, if it is declared. -/
def value? (d : Declarations) : Plain → Option Value
  | .inl .buildStrategy => d.buildStrategy.map (Codec.choice BuildStrategy).write
  | .inl .resourceFileType => d.resourceFileType.map (Codec.choice ResourceFileType).write
  | i => d.settings.value? i

/-- Nothing is declared at first. -/
theorem value?_empty (i : Plain) : ({} : Declarations).value? i = none := by
  rcases i with (s | s | s | s | _ | _) | s <;> rfl

/-- All but the enumerated settings stand among the declared settings. -/
theorem value?_of_plainSlot? {i : Plain} (slotted : Declared.plainSlot? i ≠ none)
    (d : Declarations) : d.value? i = d.settings.value? i := by
  rcases i with (s | s | s | s | _ | _) | s <;> first | rfl | exact absurd rfl slotted

/-- A value that is declared somewhere can be assigned everywhere. -/
theorem exists_assigned_of_value? {d : Declarations} {i : Plain} {value : Value}
    (held : d.value? i = some value) (target : Declarations) :
    ∃ changed, Assigned target i.name value changed := by
  by_cases slotted : Declared.plainSlot? i = none
  · rcases i with (s | s | s | s | _ | _) | s
    case inl.buildStrategy =>
      obtain ⟨s, -, rfl⟩ := Option.map_eq_some_iff.1 held
      exact ⟨_, .buildStrategy s⟩
    case inl.resourceFileType =>
      obtain ⟨t, -, rfl⟩ := Option.map_eq_some_iff.1 held
      exact ⟨_, .resourceFileType t⟩
    all_goals cases slotted
  · rw [value?_of_plainSlot? slotted] at held
    obtain ⟨changed, assigned⟩ := Declared.exists_assigned_of_value? held target.settings
    exact ⟨_, .settings assigned⟩

/-- Declarations with the same plain values, blocks and collections are the same. -/
theorem ext_fields {d e : Declarations} (plain : ∀ i, d.value? i = e.value? i)
    (nested : ∀ k : Nested, k.part.get d = k.part.get e)
    (collection : ∀ k : Collection, k.part.get d = k.part.get e) : d = e := by
  have settings : d.settings = e.settings := Declared.ext_value? fun i => by
    by_cases slotted : Declared.plainSlot? i = none
    · rcases i with (s | s | s | s | _ | _) | s <;> first | rfl | cases slotted
    · rw [← value?_of_plainSlot? slotted, ← value?_of_plainSlot? slotted, plain]
  have strategy : d.buildStrategy = e.buildStrategy :=
    Option.map_injective (Codec.choice BuildStrategy).write_injective (plain (.inl .buildStrategy))
  have type : d.resourceFileType = e.resourceFileType :=
    Option.map_injective (Codec.choice ResourceFileType).write_injective
      (plain (.inl .resourceFileType))
  cases d
  cases e
  cases settings
  cases strategy
  cases type
  cases nested .access
  cases nested .resources
  cases nested .enricher
  cases nested .generator
  cases nested .machine
  cases nested .authConfig
  cases collection .images
  cases collection .mappings
  rfl

namespace Assigned

variable {d d' : Declarations} {name : String} {value : Value}

/-- An assignment leaves the plain value that it assigns, and every other one as it was. -/
theorem value? (assigned : Assigned d name value d') (i : Plain) :
    d'.value? i = if name = i.name then some value else d.value? i := by
  cases assigned with
  | @settings _ _ changed assigned =>
    -- A declared setting is none of the enumerated ones, so those keep their values.
    obtain ⟨j, declared, rfl⟩ := assigned.exists_plain
    by_cases slotted : Declared.plainSlot? i = none
    · have different : j.name ≠ i.name := fun same =>
        declared (Plain.name_injective same ▸ slotted)
      rw [if_neg different]
      rcases i with (s | s | s | s | _ | _) | s <;> first | rfl | cases slotted
    · rw [value?_of_plainSlot? slotted, value?_of_plainSlot? slotted]
      exact assigned.value? i
  | buildStrategy s =>
    refine Plain.view_eq_ite (i := .inl .buildStrategy) rfl ?_ i
    rintro ((_ | _ | _ | _ | _ | _) | _) other <;> first | rfl | exact absurd rfl other
  | resourceFileType t =>
    refine Plain.view_eq_ite (i := .inl .resourceFileType) rfl ?_ i
    rintro ((_ | _ | _ | _ | _ | _) | _) other <;> first | rfl | exact absurd rfl other
  | nested k read =>
    rw [if_neg (plain_ne_nested i k).symm]
    cases k <;> rcases i with (_ | _ | _ | _ | _ | _) | _ <;> rfl
  | plural k replaced =>
    rw [if_neg (plain_ne_plural i k).symm]
    cases k <;> rcases i with (_ | _ | _ | _ | _ | _) | _ <;> rfl
  | singular k extended =>
    rw [if_neg (plain_ne_singular i k).symm]
    cases k <;> rcases i with (_ | _ | _ | _ | _ | _) | _ <;> rfl

/-- An assignment of a field that is one block leaves what the block binds to, and any other
    assignment leaves the field as it was. -/
theorem get_nested (assigned : Assigned d name value d') (k : Nested) :
    k.part.get d' = if name = k.name
      then ((Codec.nested k.Target).read ⟨blockName, k.name, value⟩).toOption
      else k.part.get d := by
  cases assigned with
  | settings assigned =>
    obtain ⟨i, -, rfl⟩ := assigned.exists_plain
    rw [if_neg (plain_ne_nested i k)]
    cases k <;> rfl
  | buildStrategy s =>
    refine Eq.trans ?_ (if_neg (plain_ne_nested (.inl .buildStrategy) k)).symm
    cases k <;> rfl
  | resourceFileType t =>
    refine Eq.trans ?_ (if_neg (plain_ne_nested (.inl .resourceFileType) k)).symm
    cases k <;> rfl
  | nested j read =>
    by_cases same : j = k
    · subst same
      rw [if_pos rfl, read, j.part.get_set]
      rfl
    · rw [if_neg fun named => same (Nested.name_injective named),
        Nested.get_set_of_ne (Ne.symm same)]
  | plural j replaced =>
    rw [if_neg (nested_ne_plural k j).symm]
    cases k <;> cases j <;> rfl
  | singular j extended =>
    rw [if_neg (nested_ne_singular k j).symm]
    cases k <;> cases j <;> rfl

/-- A collection is replaced under its plural name, extended under its singular one, and left as it
    was under every other name. -/
theorem get_collection (assigned : Assigned d name value d') (k : Collection) :
    (name = k.plural ∧ (k.part.get d).replace ⟨blockName, name, value⟩ k.singular =
        .ok (k.part.get d')) ∨
      (name = k.singular ∧ (k.part.get d).extend ⟨blockName, name, value⟩ =
        .ok (k.part.get d')) ∨
      (name ≠ k.plural ∧ name ≠ k.singular ∧ k.part.get d' = k.part.get d) := by
  cases assigned with
  | settings assigned =>
    obtain ⟨i, -, rfl⟩ := assigned.exists_plain
    refine .inr (.inr ⟨plain_ne_plural i k, plain_ne_singular i k, ?_⟩)
    cases k <;> rfl
  | buildStrategy s =>
    refine .inr (.inr ⟨plain_ne_plural (.inl .buildStrategy) k,
      plain_ne_singular (.inl .buildStrategy) k, ?_⟩)
    cases k <;> rfl
  | resourceFileType t =>
    refine .inr (.inr ⟨plain_ne_plural (.inl .resourceFileType) k,
      plain_ne_singular (.inl .resourceFileType) k, ?_⟩)
    cases k <;> rfl
  | nested j read =>
    refine .inr (.inr ⟨nested_ne_plural j k, nested_ne_singular j k, ?_⟩)
    cases k <;> cases j <;> rfl
  | plural j replaced =>
    by_cases same : j = k
    · subst same
      exact .inl ⟨rfl, by rw [j.part.get_set]; exact replaced⟩
    · refine .inr (.inr ⟨?_, plural_ne_singular j k, ?_⟩)
      · exact fun named => same (Collection.plural_injective named)
      · exact Collection.get_set_of_ne (Ne.symm same) d _
  | singular j extended =>
    by_cases same : j = k
    · subst same
      exact .inr (.inl ⟨rfl, by rw [j.part.get_set]; exact extended⟩)
    · refine .inr (.inr ⟨(plural_ne_singular k j).symm, ?_, ?_⟩)
      · exact fun named => same (Collection.singular_injective named)
      · exact Collection.get_set_of_ne (Ne.symm same) d _

end Assigned

/-- A walk leaves, under each name, the last assignment of that name or else what stood there. -/
theorem value?_of_walk {d e : Declarations} {block : Block} (walk : Walk d block e) (i : Plain) :
    e.value? i = (block.get? i.name).or (d.value? i) := by
  have last : e.value? i = ((block.get? i.name).map some).getD (d.value? i) :=
    walk.view_eq_last fun _ _ _ _ _ taken => (assign?_eq_iff.1 taken).value? i
  rw [last]
  cases block.get? i.name <;> rfl

/-- A walk leaves, in a field that is one block, what its last assignment binds to. -/
theorem get_nested_of_walk {d e : Declarations} {block : Block} (walk : Walk d block e)
    (k : Nested) : k.part.get e = ((block.get? k.name).map fun value =>
      ((Codec.nested k.Target).read ⟨blockName, k.name, value⟩).toOption).getD (k.part.get d) :=
  walk.view_eq_last fun _ _ _ _ _ taken => (assign?_eq_iff.1 taken).get_nested k

end Declarations

end DeployConfig
