/-
  The declared settings go round, and with them every kind of block.

  The table of settings has one slot for each of some fifty names, so it is not gone through slot
  by slot.  Instead, every assignment that the written form holds is taken whatever the target is,
  and what a walk leaves is known name by name: the last assignment of the name, or else what stood
  there before.  A name is written at most once, so what the walk leaves is what was written.
-/
import DeployConfig.Proofs.Config.RoundTrip
import DeployConfig.Proofs.Settings.Assignment

namespace DeployConfig

open Bindable
open Writable (toBlock)

namespace Declared

/-- A walk leaves, under each name, the last assignment of that name or else what stood there. -/
theorem value?_of_walk {d e : Declared} {block : Block} (walk : Walk d block e) (i : Plain) :
    e.value? i = (block.get? i.name).or (d.value? i) := by
  have last : e.value? i = ((block.get? i.name).map some).getD (d.value? i) :=
    walk.view_eq_last fun _ _ _ _ _ taken => (assign?_eq_iff.1 taken).value? i
  rw [last]
  cases block.get? i.name <;> rfl

/-- **The written fields are those of all plain values with a slot**, each under its own name. -/
theorem fields_eq (d : Declared) : Writable.fields d =
    (plains.filter fun i => (plainSlot? i).isSome).map fun i => (i.name, d.value? i) := rfl

theorem mem_fields {d : Declared} {name : String} {held : Option Value} :
    (name, held) ∈ Writable.fields d ↔
      ∃ i : Plain, (plainSlot? i).isSome ∧ i.name = name ∧ d.value? i = held := by
  rw [fields_eq, List.mem_map]
  constructor
  · rintro ⟨i, listed, same⟩
    exact ⟨i, (List.mem_filter.1 listed).2, Prod.mk.inj same⟩
  · rintro ⟨i, slotted, rfl, rfl⟩
    exact ⟨i, List.mem_filter.2 ⟨mem_plains i, slotted⟩, rfl⟩

theorem distinct_fields (d : Declared) : ((Writable.fields d).map Prod.fst).Nodup := by
  rw [fields_eq, List.map_map]
  exact distinct_names.sublist (List.filter_sublist.map Plain.name)

/-- The written form has, under each name, the value that is declared. -/
theorem get?_toBlock (d : Declared) (i : Plain) : (toBlock d).get? i.name = d.value? i := by
  by_cases slotted : (plainSlot? i).isSome
  · exact Fields.get?_present d.distinct_fields (mem_fields.2 ⟨i, slotted, rfl, rfl⟩)
  · -- Only the enumerated settings have no slot, and no field has their name.
    have unwritten : (toBlock d).get? i.name = none := by
      rw [Option.eq_none_iff_forall_ne_some]
      intro value assigned
      have listed := Fields.mem_present.1 (Block.mem_of_get? assigned)
      obtain ⟨j, slotted', named, -⟩ := mem_fields.1 listed
      exact slotted (Plain.name_injective named ▸ slotted')
    rw [unwritten]
    rcases i with (s | s | s | s | _ | _) | s <;> first | rfl | exact absurd rfl slotted

/-- Everything that declared settings write is taken by any target. -/
theorem taken_of_mem_toBlock {d : Declared} {name : String} {value : Value}
    (member : (name, value) ∈ toBlock d) (target : Declared) :
    ∃ changed, assign? target name value = some ⟨changed, none⟩ := by
  obtain ⟨i, -, rfl, held⟩ := mem_fields.1 (Fields.mem_present.1 member)
  obtain ⟨changed, assigned⟩ := exists_assigned_of_value? held target
  exact ⟨changed, assign?_eq_iff.2 assigned⟩

instance : RoundTrip Declared where
  bind_toBlock d := by
    obtain ⟨e, walk⟩ : ∃ e, Walk (empty : Declared) (toBlock d) e :=
      Walk.exists_of_taken (fun _ member => taken_of_mem_toBlock member) empty
    have untouched (i : Plain) : (empty : Declared).value? i = none := by
      rcases i with (s | s | s | s | _ | _) | s <;> rfl
    have same : e = d := ext_value? fun i => by
      rw [value?_of_walk walk, get?_toBlock, untouched, Option.or_none]
    exact bind_eq_ok_iff.2 (same ▸ walk)

end Declared

/-- **Binding undoes writing, for every kind of block.** -/
theorem bind_toBlock_every_kind :
    (∀ a : Access, bind Access (toBlock a) = .ok a) ∧
    (∀ r : Resources, bind Resources (toBlock r) = .ok r) ∧
    (∀ m : Metadata, bind Metadata (toBlock m) = .ok m) ∧
    (∀ c : ConfigMap, bind ConfigMap (toBlock c) = .ok c) ∧
    (∀ e : ConfigMapEntry, bind ConfigMapEntry (toBlock e) = .ok e) ∧
    (∀ i : Image, bind Image (toBlock i) = .ok i) ∧
    (∀ b : Build, bind Build (toBlock b) = .ok b) ∧
    (∀ a : Assembly, bind Assembly (toBlock a) = .ok a) ∧
    (∀ l : Layer, bind Layer (toBlock l) = .ok l) ∧
    (∀ f : AssemblyFile, bind AssemblyFile (toBlock f) = .ok f) ∧
    (∀ m : Machine, bind Machine (toBlock m) = .ok m) ∧
    (∀ r : RegistryAuth, bind RegistryAuth (toBlock r) = .ok r) ∧
    (∀ p : Processors, bind Processors (toBlock p) = .ok p) ∧
    (∀ m : Mapping, bind Mapping (toBlock m) = .ok m) ∧
    (∀ d : Declared, bind Declared (toBlock d) = .ok d) :=
  ⟨bind_toBlock, bind_toBlock, bind_toBlock, bind_toBlock, bind_toBlock, bind_toBlock,
    bind_toBlock, bind_toBlock, bind_toBlock, bind_toBlock, bind_toBlock, bind_toBlock,
    bind_toBlock, bind_toBlock, bind_toBlock⟩

end DeployConfig
