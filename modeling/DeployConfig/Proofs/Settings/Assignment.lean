/-
  What an assignment does to the declared settings.

  `Declared.Assigned` says, case by case, what a block can assign to a setting and what that
  leaves.  The field table does exactly this (`assign?_eq_iff`), and everything else about declared
  settings is read off the cases: an assignment changes the setting of its name, which then holds
  the assigned value as it was written, and no other one (`Assigned.value?`).
-/
import DeployConfig.Proofs.Binding.RoundTrip
import DeployConfig.Proofs.Settings.Tables

namespace DeployConfig

open Bindable

/-! ## Slots of parts that may be unset -/

namespace Slot

variable {T α : Type} {codec : Codec α} {t t' : T} {f : Field}

/-- If the codec reads what it writes and nothing else, the slot takes the written values. -/
theorem assign_optional_eq_iff [codec.Lawful] [codec.Exact] {name : String}
    {part : Part T (Option α)} :
    (optional name codec part).assign t f = ⟨t', none⟩ ↔
      ∃ a, f.value = codec.write a ∧ t' = part.set t (some a) := by
  refine Outcome.ofExcept_map_eq_iff.trans (exists_congr fun a => and_congr_left fun _ => ?_)
  exact codec.read_eq_ok_iff.trans eq_comm

end Slot

namespace Declared

/-! ## One assignment -/

/-- What a block can assign to the declared settings, and what that leaves. -/
inductive Assigned (d : Declared) : String → Value → Declared → Prop where
  | flag (s : Flag) (a : Bool) : Assigned d s.name (Codec.boolean.write a)
      { d with flag := fun j => if j = s then some a else d.flag j }
  | number (s : NumberSetting) (a : Int32) : Assigned d s.name ((Codec.integer Int32).write a)
      { d with number := fun j => if j = s then some a else d.number j }
  | text (s : TextSetting) (a : String) : Assigned d s.name (Codec.string.write a)
      { d with text := fun j => if j = s then some a else d.text j }
  | path (s : PathSetting) (a : Path) : Assigned d s.name (Codec.path.write a)
      { d with path := fun j => if j = s then some a else d.path j }
  | blockText (s : BlockText) (a : String) : Assigned d s.name (Codec.string.write a)
      { d with blockText := fun j => if j = s then some a else d.blockText j }

/-- **The field table does what the cases say, and takes nothing else.** -/
theorem assign?_eq_iff {d d' : Declared} {name : String} {value : Value} :
    assign? d name value = some ⟨d', none⟩ ↔ Assigned d name value d' := by
  constructor
  · intro taken
    obtain ⟨slot, known, rfl, assigned⟩ := exists_slot_of_assign? taken
    obtain ⟨(s | s | s | s | _ | _) | s, found⟩ := mem_slots.1 known <;> cases found
    · obtain ⟨a, rfl, rfl⟩ := Slot.assign_optional_eq_iff.1 assigned
      exact .flag s a
    · obtain ⟨a, rfl, rfl⟩ := Slot.assign_optional_eq_iff.1 assigned
      exact .number s a
    · obtain ⟨a, rfl, rfl⟩ := Slot.assign_optional_eq_iff.1 assigned
      exact .text s a
    · obtain ⟨a, rfl, rfl⟩ := Slot.assign_optional_eq_iff.1 assigned
      exact .path s a
    · obtain ⟨a, rfl, rfl⟩ := Slot.assign_optional_eq_iff.1 assigned
      exact .blockText s a
  · intro assigned
    have answered (i : Plain) {slot : Slot Declared} (found : plainSlot? i = some slot)
        (leaves : slot.assign d ⟨kind Declared, slot.name, value⟩ = ⟨d', none⟩) :
        assign? d slot.name value = some ⟨d', none⟩ := by
      rw [assign?_of_mem distinct_slots (mem_slots.2 ⟨i, found⟩), leaves]
    cases assigned with
    | flag s a =>
      exact answered (.inl (.flag s)) rfl (Slot.assign_optional_eq_iff.2 ⟨a, rfl, rfl⟩)
    | number s a =>
      exact answered (.inl (.number s)) rfl (Slot.assign_optional_eq_iff.2 ⟨a, rfl, rfl⟩)
    | text s a =>
      exact answered (.inl (.text s)) rfl (Slot.assign_optional_eq_iff.2 ⟨a, rfl, rfl⟩)
    | path s a =>
      exact answered (.inl (.path s)) rfl (Slot.assign_optional_eq_iff.2 ⟨a, rfl, rfl⟩)
    | blockText s a =>
      exact answered (.inr s) rfl (Slot.assign_optional_eq_iff.2 ⟨a, rfl, rfl⟩)

/-- Only settings that have a slot are assigned here. -/
theorem Assigned.exists_plain {d d' : Declared} {name : String} {value : Value}
    (assigned : Assigned d name value d') : ∃ i, plainSlot? i ≠ none ∧ i.name = name := by
  cases assigned with
  | flag s => exact ⟨.inl (.flag s), Option.some_ne_none _, rfl⟩
  | number s => exact ⟨.inl (.number s), Option.some_ne_none _, rfl⟩
  | text s => exact ⟨.inl (.text s), Option.some_ne_none _, rfl⟩
  | path s => exact ⟨.inl (.path s), Option.some_ne_none _, rfl⟩
  | blockText s => exact ⟨.inr s, Option.some_ne_none _, rfl⟩

/-! ## The values as they are written -/

/-- A declared value as it is written; the enumerated settings are not declared here. -/
def value? (d : Declared) : Plain → Option Value
  | .inl (.flag s) => (d.flag s).map Codec.boolean.write
  | .inl (.number s) => (d.number s).map (Codec.integer Int32).write
  | .inl (.text s) => (d.text s).map Codec.string.write
  | .inl (.path s) => (d.path s).map Codec.path.write
  | .inl .buildStrategy => none
  | .inl .resourceFileType => none
  | .inr t => (d.blockText t).map Codec.string.write

/-- Declared settings with the same written values are the same. -/
theorem ext_value? {d e : Declared} (h : ∀ i, d.value? i = e.value? i) : d = e := by
  have flag : d.flag = e.flag := funext fun s =>
    Option.map_injective Codec.boolean.write_injective (h (.inl (.flag s)))
  have number : d.number = e.number := funext fun s =>
    Option.map_injective (Codec.integer Int32).write_injective (h (.inl (.number s)))
  have text : d.text = e.text := funext fun s =>
    Option.map_injective Codec.string.write_injective (h (.inl (.text s)))
  have path : d.path = e.path := funext fun s =>
    Option.map_injective Codec.path.write_injective (h (.inl (.path s)))
  have blockText : d.blockText = e.blockText := funext fun t =>
    Option.map_injective Codec.string.write_injective (h (.inr t))
  cases d
  cases e
  simp_all

/-- An assignment leaves the value that it assigns, and every other one as it was. -/
theorem Assigned.value? {d d' : Declared} {name : String} {value : Value}
    (assigned : Assigned d name value d') (j : Plain) :
    d'.value? j = if name = j.name then some value else d.value? j := by
  cases assigned with
  | flag s a =>
    refine Plain.view_eq_ite (i := .inl (.flag s)) (by simp [Declared.value?]) ?_ j
    rintro ((g | _ | _ | _ | _ | _) | _) other <;> first
      | rfl
      | exact congrArg (Option.map _) (if_neg fun same => other (by rw [same]))
  | number s a =>
    refine Plain.view_eq_ite (i := .inl (.number s)) (by simp [Declared.value?]) ?_ j
    rintro ((_ | g | _ | _ | _ | _) | _) other <;> first
      | rfl
      | exact congrArg (Option.map _) (if_neg fun same => other (by rw [same]))
  | text s a =>
    refine Plain.view_eq_ite (i := .inl (.text s)) (by simp [Declared.value?]) ?_ j
    rintro ((_ | _ | g | _ | _ | _) | _) other <;> first
      | rfl
      | exact congrArg (Option.map _) (if_neg fun same => other (by rw [same]))
  | path s a =>
    refine Plain.view_eq_ite (i := .inl (.path s)) (by simp [Declared.value?]) ?_ j
    rintro ((_ | _ | _ | g | _ | _) | _) other <;> first
      | rfl
      | exact congrArg (Option.map _) (if_neg fun same => other (by rw [same]))
  | blockText s a =>
    refine Plain.view_eq_ite (i := .inr s) (by simp [Declared.value?]) ?_ j
    rintro ((_ | _ | _ | _ | _ | _) | g) other <;> first
      | rfl
      | exact congrArg (Option.map _) (if_neg fun same => other (by rw [same]))

/-- A value that is declared somewhere can be assigned everywhere. -/
theorem exists_assigned_of_value? {d : Declared} {i : Plain} {value : Value}
    (held : d.value? i = some value) (target : Declared) :
    ∃ changed, Assigned target i.name value changed := by
  rcases i with (s | s | s | s | _ | _) | s
  case inl.buildStrategy => cases held
  case inl.resourceFileType => cases held
  all_goals obtain ⟨a, -, rfl⟩ := Option.map_eq_some_iff.1 held
  · exact ⟨_, .flag s a⟩
  · exact ⟨_, .number s a⟩
  · exact ⟨_, .text s a⟩
  · exact ⟨_, .path s a⟩
  · exact ⟨_, .blockText s a⟩

end Declared

end DeployConfig
