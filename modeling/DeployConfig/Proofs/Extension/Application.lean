/-
  What applying a block leaves, and what it answers.

  Every slot of a `kubernetes` block is uniform: the plain ones and the blocks because they read
  their field before they touch the target, the collections because a declaration has its effect on
  any collection or fails for any.  So no assignment that fails leaves a trace, and the general
  laws of binding say exactly what a block does to an extension (`Extension.apply_outcome`).
-/
import DeployConfig.Extension.Basic
import DeployConfig.Proofs.Binding.RepeatableRun
import DeployConfig.Proofs.Binding.Uniform
import DeployConfig.Proofs.Extension.Assignment

namespace DeployConfig

open Bindable

/-! ## The slots of a `kubernetes` block -/

instance : Uniform Declared where
  uniform_slot slot known := by
    obtain ⟨(s | s | s | s | _ | _) | s, found⟩ := Declared.mem_slots.1 known <;> cases found <;>
      exact Slot.uniform_optional ..

namespace Declarations

variable {T : Type} [Bindable T] (name singular : String)
  (part : Part Declarations (Repeatable T))

/-- A declaration of a collection that is made by a field, as a step that any collection can
    take. -/
theorem uniform_of_step (slot : Slot Declarations) (step : Field → Repeatable.Step)
    (assigns : ∀ d f, slot.assign d f =
      .ofExcept d (((step f).apply (part.get d)).map (part.set d))) : slot.Uniform := by
  refine Slot.uniform_of_read (fun field => (step field).effect)
    (fun effect d => part.set d (effect.on (part.get d))) ?_
  intro d field
  rw [assigns, Repeatable.Step.apply_eq]
  cases ((step field).effect : Except BindError (Repeatable.Effect T)) <;> rfl

theorem uniform_pluralSlot : (Declarations.pluralSlot name singular part).Uniform :=
  uniform_of_step part _ (.replace · singular) fun _ _ => rfl

theorem uniform_singularSlot : (Declarations.singularSlot name part).Uniform :=
  uniform_of_step part _ .extend fun _ _ => rfl

instance : Uniform Declarations where
  uniform_slot slot known := by
    rcases mem_slots_cases known with
      rfl | rfl | ⟨k, rfl⟩ | ⟨k, rfl | rfl⟩ | ⟨inner, listed, rfl⟩
    · exact Slot.uniform_optional ..
    · exact Slot.uniform_optional ..
    · exact Slot.uniform_optional ..
    · exact uniform_pluralSlot ..
    · exact uniform_singularSlot ..
    · exact (uniform_slot inner listed).lift settingsPart

end Declarations

namespace Extension

/-! ## Applying a block -/

/-- Applying a block changes nothing but the declarations. -/
theorem apply_eq {e : Extension} {block : Block} {d : Declarations} {error : Option BindError}
    (bound : bindInto e.declarations block = ⟨d, error⟩) :
    e.apply block = ⟨{ e with declarations := d }, error⟩ := by
  rw [apply, Declarations.apply, bound, Outcome.map]

theorem apply_eq_iff {e e' : Extension} {block : Block} {error : Option BindError} :
    e.apply block = ⟨e', error⟩ ↔
      ∃ d, bindInto e.declarations block = ⟨d, error⟩ ∧ e' = { e with declarations := d } := by
  constructor
  · intro applied
    refine ⟨_, ?_, (congrArg Outcome.target applied).symm⟩
    exact congrArg (Outcome.mk _) (congrArg Outcome.error applied)
  · rintro ⟨d, bound, rfl⟩
    exact apply_eq bound

/-- A block is accepted if it can be walked over. -/
theorem apply_eq_ok_iff {e e' : Extension} {block : Block} :
    e.apply block = ⟨e', none⟩ ↔
      ∃ d, Walk e.declarations block d ∧ e' = { e with declarations := d } :=
  apply_eq_iff.trans (exists_congr fun _ => and_congr_left' bindInto_eq_iff)

/-- **The outcome of applying a block.**

    * Whether an assignment fails, and with which error, does not depend on what is declared, and
      one that fails leaves everything as it was.
    * The first entry that fails gives the error, whatever names stand before it.  What is left is
      the extension with the entries before it applied in order, as far as their names are known.
    * If no entry fails, all entries with known names are applied in order.  The other names are the
      error, each once and in order of first occurrence, if there are any; otherwise there is no
      error and the whole block is applied. -/
theorem apply_outcome (e : Extension) (block : Block) :
    (∀ (d changed : Declarations) (name : String) (value : Value) (error : BindError),
      assign? d name value = some ⟨changed, some error⟩ →
        changed = d ∧ Fails Declarations (name, value) error) ∧
    (∀ (before after : Block) (entry : String × Value) (error : BindError),
      block = before ++ entry :: after → Unfailing Declarations before →
        Fails Declarations entry error →
        ∃ d, Walk e.declarations (knownEntries Declarations before) d ∧
          e.apply block = ⟨{ e with declarations := d }, some error⟩) ∧
    (Unfailing Declarations block → unknownNames Declarations block ≠ [] →
      ∃ d, Walk e.declarations (knownEntries Declarations block) d ∧
        e.apply block = ⟨{ e with declarations := d },
          some (.unknownFields "kubernetes" (unknownNames Declarations block))⟩) ∧
    (Unfailing Declarations block → unknownNames Declarations block = [] →
      ∃ d, Walk e.declarations block d ∧
        e.apply block = ⟨{ e with declarations := d }, none⟩) := by
  refine ⟨fun _ _ _ _ _ => fails_of_failed, ?_, ?_, ?_⟩
  · rintro before after entry error rfl unfailing fails
    obtain ⟨d, walk, bound⟩ := bindInto_of_fails unfailing fails e.declarations
    exact ⟨d, walk, apply_eq (bound after)⟩
  · intro unfailing some_unknown
    obtain ⟨d, walk, bound⟩ := bindInto_of_unfailing unfailing e.declarations
    rw [if_neg some_unknown] at bound
    exact ⟨d, walk, apply_eq bound⟩
  · intro unfailing all_known
    obtain ⟨d, -, bound⟩ := bindInto_of_unfailing unfailing e.declarations
    rw [if_pos all_known] at bound
    exact ⟨d, bindInto_eq_iff.1 bound, apply_eq bound⟩

/-- A wrong type wins over the unknown name in front of it, and what stands between the two is
    applied. -/
theorem apply_outcome_wrong_type :
    let new : Extension := ⟨⟨.conventional ⟨"/p"⟩, .empty⟩, {}⟩
    let before : Block := [("ofline", .boolean true), ("namespace", .string "a")]
    let error : BindError := .typeMismatch "kubernetes" "pushRetries" .integer "string"
    Unfailing Declarations before ∧ Fails Declarations ("pushRetries", .string "x") error ∧
      ∃ d, Walk ({} : Declarations) [("namespace", .string "a")] d ∧
        new.apply (before ++ [("pushRetries", .string "x"), ("namespace", .string "b")]) =
          ⟨{ new with declarations := d }, some error⟩ := by
  intro new before error
  have unfailing : Unfailing Declarations before := by
    intro entry member other fails
    have here := congrArg (Option.map Outcome.error) (fails {})
    rcases List.mem_cons.1 member with rfl | member
    · cases here
    · cases List.mem_singleton.1 member
      cases here
  have fails : Fails Declarations ("pushRetries", .string "x") error := fun _ => rfl
  exact ⟨unfailing, fails, (apply_outcome new _).2.1 before [("namespace", .string "b")] _ error rfl
    unfailing fails⟩

end Extension

end DeployConfig
