/-
  Declaring a field directly is applying a block that assigns only it.

  A structured field, a collection and an enumerated setting can each be declared on its own.  The
  direct ways bind afresh, append one item or replace a list, where a block goes through the field
  table; the outcomes are the same, with the same errors, and a failure leaves the extension as it
  was either way.

  1. **One entry**: a block of one entry does what its slot does, or else leaves everything.
  2. **Sections**: what a slot does at a block, or at a list of blocks, is the direct declaration.
  3. **Names**: a block takes just the names that the enumerations parse.
-/
import DeployConfig.Proofs.Binding.Forms
import DeployConfig.Proofs.Extension.Application

namespace DeployConfig

open Bindable

/-! ## Blocks of one entry -/

/-- A block of one entry has the outcome of its assignment. -/
theorem Bindable.bindInto_one {T : Type} [Bindable T] {target : T} {name : String} {value : Value}
    {outcome : Outcome T} (answered : assign? target name value = some outcome) :
    bindInto target [(name, value)] = outcome := by
  obtain ⟨changed, error⟩ := outcome
  rw [bindInto, bindRest, answered]
  cases error <;> rfl

/-- A block of one entry that fails leaves the target as it was. -/
theorem Bindable.target_of_one_failed {T : Type} [Bindable T] [Uniform T] {target changed : T}
    {name : String} {value : Value} {error : BindError}
    (failed : bindInto target [(name, value)] = ⟨changed, some error⟩) : changed = target := by
  cases answered : assign? target name value with
  | none =>
    rw [bindInto, bindRest, answered] at failed
    cases failed
    rfl
  | some outcome =>
    rw [bindInto_one answered] at failed
    subst failed
    exact (fails_of_failed answered).1

/-! ## Sections -/

/-- The name under which a block assigns a section. -/
def Declarations.Section.name : Declarations.Section → String
  | access => "access"
  | resources => "resources"
  | enricher => "enricher"
  | generator => "generator"
  | machine => "machine"
  | authConfig => "authConfig"
  | image => "image"
  | images => "images"
  | mapping => "mapping"
  | mappings => "mappings"

namespace Declarations.Collection

/-- A list of blocks under the plural name is assigned as a list. -/
theorem assign_pluralSlot_list (k : Collection) (d : Declarations) (kind name : String)
    (blocks : List Block) :
    k.pluralSlot.assign d ⟨kind, name, .list (blocks.map Value.block)⟩ =
      .ofExcept d (((k.part.get d).replaceWithList blocks).map (k.part.set d)) := by
  rw [← Repeatable.replace_list (k.part.get d) kind name k.singular blocks]
  rfl

/-- One block under the singular name is assigned as one more item. -/
theorem assign_singularSlot_block (k : Collection) (d : Declarations) (kind name : String)
    (block : Block) :
    k.singularSlot.assign d ⟨kind, name, .block block⟩ =
      .ofExcept d (((k.part.get d).append block).map (k.part.set d)) := by
  rw [← Repeatable.extend_block (k.part.get d) kind name block]
  rfl

end Declarations.Collection

/-! ## Names -/

/-- A field is read as a member of an enumeration if it is a text that parses. -/
theorem Field.choice_eq_ok_iff {α : Type} [Enumeration α] {f : Field} {a : α} :
    f.choice α = .ok a ↔ ∃ name, f.value = .string name ∧ Enumeration.parse α name = .ok a := by
  obtain ⟨kind, field, value⟩ := f
  cases value with
  | string name =>
    simp only [choice, Value.string.injEq, exists_eq_left']
    cases Enumeration.parse α name with
    | ok b => simp only [Except.ok.injEq]
    | error unknown => simp only [invalid, reduceCtorEq]
  | integer _ | float _ | boolean _ | list _ | block _ =>
    simp only [choice, mismatch, reduceCtorEq, false_and, exists_const]

namespace Extension

open Declarations

/-- A block of one entry has the outcome of its slot. -/
theorem apply_one {e : Extension} {slot : Slot Declarations} (known : slot ∈ ownSlots)
    {value : Value} {changed : Except BindError Declarations}
    (assigned : slot.assign e.declarations ⟨blockName, slot.name, value⟩ =
      .ofExcept e.declarations changed) : e.apply [(slot.name, value)] = e.redeclared changed := by
  have answered := assign?_of_mem distinct_slots (List.mem_append_left _ known) e.declarations value
  rw [apply, Declarations.apply, bindInto_one answered]
  show (slot.assign e.declarations ⟨blockName, slot.name, value⟩).map _ = _
  rw [assigned]
  cases changed <;> rfl

/-- A block under the name of a section declares the section. -/
theorem apply_section (e : Extension) (s : Section) (block : Block) :
    e.apply [(s.name, .block block)] = e.declare block s := by
  -- All slots bind the block as it is, but a singular name binds a list that holds only it.
  cases s with
  | access => exact apply_one Nested.access.slot_mem rfl
  | resources => exact apply_one Nested.resources.slot_mem rfl
  | enricher => exact apply_one Nested.enricher.slot_mem rfl
  | generator => exact apply_one Nested.generator.slot_mem rfl
  | machine => exact apply_one Nested.machine.slot_mem rfl
  | authConfig => exact apply_one Nested.authConfig.slot_mem rfl
  | images => exact apply_one Collection.images.pluralSlot_mem rfl
  | mappings => exact apply_one Collection.mappings.pluralSlot_mem rfl
  | image =>
    exact apply_one Collection.images.singularSlot_mem
      (Collection.images.assign_singularSlot_block _ _ _ block)
  | mapping =>
    exact apply_one Collection.mappings.singularSlot_mem
      (Collection.mappings.assign_singularSlot_block _ _ _ block)

/-- A block of one entry is accepted by the slot of an enumeration if its value is a name. -/
theorem apply_choice_eq_ok_iff {α : Type} [Enumeration α] {name : String}
    {part : Part Declarations (Option α)} (known : .optional name (.choice α) part ∈ ownSlots)
    {e e' : Extension} {value : Value} :
    e.apply [(name, value)] = ⟨e', none⟩ ↔ ∃ text a, value = .string text ∧
      Enumeration.parse α text = .ok a ∧
      e' = { e with declarations := part.set e.declarations (some a) } := by
  have outcome : e.apply [(name, value)] = .ofExcept e
      ((Field.choice α ⟨blockName, name, value⟩).map fun a =>
        { e with declarations := part.set e.declarations (some a) }) := by
    refine (apply_one known rfl).trans ?_
    show Outcome.ofExcept e (((Field.choice α ⟨blockName, name, value⟩).map _).map _) = _
    cases Field.choice α ⟨blockName, name, value⟩ <;> rfl
  rw [outcome, Outcome.ofExcept_map_eq_iff]
  constructor
  · rintro ⟨a, chosen, rfl⟩
    obtain ⟨text, rfl, parsed⟩ := Field.choice_eq_ok_iff.1 chosen
    exact ⟨text, a, rfl, parsed, rfl⟩
  · rintro ⟨text, a, rfl, parsed, rfl⟩
    exact ⟨a, Field.choice_eq_ok_iff.2 ⟨text, rfl, parsed⟩, rfl⟩

/-- **Declaring a field directly is applying a block that assigns only it.**

    * A section declared by one block, and a collection declared by a list of blocks, have the
      outcome, target and error alike, of the block with that one entry.
    * A block that assigns only an enumerated setting is accepted just if it assigns a text that
      parses, and leaves what setting the parsed member leaves.
    * Whatever the one entry is, if it fails the extension is as it was. -/
theorem direct_declarations_agree (e : Extension) :
    (∀ (s : Section) (block : Block), e.declare block s = e.apply [(s.name, .block block)]) ∧
    (∀ blocks, e.declareImages blocks = e.apply [("images", .list (blocks.map Value.block))]) ∧
    (∀ blocks, e.declareMappings blocks = e.apply [("mappings", .list (blocks.map Value.block))]) ∧
    (∀ value e', e.apply [("buildStrategy", value)] = ⟨e', none⟩ ↔ ∃ text s,
      value = .string text ∧ Enumeration.parse BuildStrategy text = .ok s ∧
        e' = e.setBuildStrategy s) ∧
    (∀ value e', e.apply [("resourceFileType", value)] = ⟨e', none⟩ ↔ ∃ text t,
      value = .string text ∧ Enumeration.parse ResourceFileType text = .ok t ∧
        e' = e.setResourceFileType t) ∧
    (∀ name value e' error, e.apply [(name, value)] = ⟨e', some error⟩ → e' = e) := by
  refine ⟨fun s block => (apply_section e s block).symm, fun blocks => ?_, fun blocks => ?_,
    fun value e' => ?_, fun value e' => ?_, fun name value e' error failed => ?_⟩
  · exact (apply_one Collection.images.pluralSlot_mem
      (Collection.images.assign_pluralSlot_list _ _ _ blocks)).symm
  · exact (apply_one Collection.mappings.pluralSlot_mem
      (Collection.mappings.assign_pluralSlot_list _ _ _ blocks)).symm
  · exact apply_choice_eq_ok_iff (List.mem_of_getElem? (i := 0) rfl)
  · exact apply_choice_eq_ok_iff (List.mem_of_getElem? (i := 1) rfl)
  · obtain ⟨d, outcome, rfl⟩ := apply_eq_iff.1 failed
    rw [target_of_one_failed outcome]

/-- A misspelled field of one image leaves nothing of the images, either way. -/
theorem direct_declarations_agree_misspelled :
    let new : Extension := ⟨⟨.conventional ⟨"/p"⟩, .empty⟩, {}⟩
    let images : Block :=
      [("app", .block [("name", .string "a")]), ("web", .block [("nmae", .string "b")])]
    let error : BindError := .unknownFields "image" ["nmae"]
    new.apply [("images", .block images)] = ⟨new, some error⟩ ∧
      new.declare images .images = ⟨new, some error⟩ := by
  intro new images error
  have failed : new.apply [("images", .block images)] =
      ⟨(new.apply [("images", .block images)]).target, some error⟩ := rfl
  obtain ⟨declares, -, -, -, -, unchanged⟩ := direct_declarations_agree new
  have applied : new.apply [("images", .block images)] = ⟨new, some error⟩ := by
    rw [unchanged _ _ _ _ failed] at failed
    exact failed
  exact ⟨applied, (declares .images images).trans applied⟩

end Extension

end DeployConfig
