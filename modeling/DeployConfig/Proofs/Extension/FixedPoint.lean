/-
  A snapshot is a fixed point of configuration.

  The block of a snapshot is taken whole by a new extension, whose declarations are then exactly
  what the snapshot amounts to (`apply_toBlock`).  Resolving them again gives the same snapshot:
  an override of the same properties decides as before, and without one the declared value stands.
  The one setting without a declared value is one that is unset, and it has no default, because
  the only default that depends on another setting is the registry, which always has a value.
-/
import DeployConfig.Proofs.Extension.Fields

namespace DeployConfig

open Bindable
open Declarations (Nested Collection)

/-! ## A written collection -/

/-- A collection is replaced by the items that are written, whatever it was before. -/
theorem Repeatable.replace_write {T : Type} [Bindable T] [Writable T] [RoundTrip T]
    (c : Repeatable T) (kind name singular : String) (items : List T) :
    c.replace ⟨kind, name, (Codec.nestedList T).write items⟩ singular = .ok ⟨some items⟩ := by
  have blocks : Field.blocks ⟨kind, name, (Codec.nestedList T).write items⟩ =
      .ok (items.map Writable.toBlock) := by
    have all : (items.map Writable.toValue).mapM Field.block? =
        some (items.map Writable.toBlock) := by
      rw [List.mapM_map]
      exact List.mapM_pure
    simp only [Field.blocks, Codec.nestedList, Writable.ofList, Field.items, all]
  have bound : Bindable.bindAll T (items.map Writable.toBlock) = .ok items :=
    Codec.mapM_map_eq_pure Bindable.bind_toBlock items
  show (Field.blocks _).bind c.replaceWithList = _
  rw [blocks]
  show (Bindable.bindAll T (items.map Writable.toBlock)).map ofList = _
  rw [bound]
  rfl

namespace Snapshot

/-! ## The fields of a snapshot -/

theorem plainField_mem (s : Snapshot) (i : Plain) : s.plainField i ∈ s.assignable := by
  refine List.mem_append_left _ (List.mem_map_of_mem ?_)
  cases i with
  | inl setting =>
    by_cases strategy : setting = .buildStrategy
    · exact strategy ▸ List.mem_cons_self
    by_cases type : setting = .resourceFileType
    · exact type ▸ List.mem_cons_of_mem _ List.mem_cons_self
    have listed : (.inl setting : Plain) ∈ order.map Sum.inl :=
      List.mem_map_of_mem (mem_order strategy type)
    exact List.mem_cons_of_mem _ (List.mem_cons_of_mem _ (List.mem_append_left _ listed))
  | inr t =>
    have listed : (.inr t : Plain) ∈ blockTexts.map Sum.inr :=
      List.mem_map_of_mem (mem_blockTexts t)
    exact List.mem_cons_of_mem _ (List.mem_cons_of_mem _ (List.mem_append_right _ listed))

theorem nestedField_mem (s : Snapshot) (k : Nested) : s.nestedField k ∈ s.assignable := by
  have listed : s.nestedField k ∈ s.sections := by cases k <;> simp [sections]
  exact List.mem_append_right _ listed

theorem collectionField_mem (s : Snapshot) (k : Collection) :
    s.collectionField k ∈ s.assignable := by
  have listed : s.collectionField k ∈ s.sections := by cases k <;> simp [sections]
  exact List.mem_append_right _ listed

theorem mem_assignable_cases {s : Snapshot} {field : String × Option Value}
    (member : field ∈ s.assignable) :
    (∃ i, s.plainField i = field) ∨ (∃ k, s.nestedField k = field) ∨
      ∃ k, s.collectionField k = field := by
  rcases List.mem_append.1 member with plain | structured
  · obtain ⟨i, -, same⟩ := List.mem_map.1 plain
    exact .inl ⟨i, same⟩
  · simp only [sections, List.mem_cons, List.not_mem_nil, or_false] at structured
    rcases structured with rfl | rfl | rfl | rfl | rfl | rfl | rfl | rfl
    · exact .inr (.inl ⟨_, rfl⟩)
    · exact .inr (.inl ⟨_, rfl⟩)
    · exact .inr (.inl ⟨_, rfl⟩)
    · exact .inr (.inl ⟨_, rfl⟩)
    · exact .inr (.inr ⟨_, rfl⟩)
    · exact .inr (.inl ⟨_, rfl⟩)
    · exact .inr (.inl ⟨_, rfl⟩)
    · exact .inr (.inr ⟨_, rfl⟩)

/-- The block of a snapshot assigns, under each name, what its field has. -/
theorem get?_toBlock {s : Snapshot} {name : String} {held : Option Value}
    (listed : (name, held) ∈ s.assignable) : s.toBlock.get? name = held := by
  rw [toBlock_eq]
  exact Fields.get?_present s.distinct_assignable listed

theorem distinct_toBlock (s : Snapshot) : (s.toBlock.map Prod.fst).Nodup := by
  rw [toBlock_eq]
  exact s.distinct_assignable.sublist (Fields.sublist_present _)

/-! ## Applying the block -/

/-- Whatever is declared already, each assignment of the block is taken. -/
theorem taken_of_mem_toBlock {s : Snapshot} {name : String} {value : Value}
    (member : (name, value) ∈ s.toBlock) (d : Declarations) :
    ∃ changed, assign? d name value = some ⟨changed, none⟩ := by
  rw [toBlock_eq, Fields.mem_present] at member
  rcases mem_assignable_cases member with ⟨i, same⟩ | ⟨k, same⟩ | ⟨k, same⟩
  · obtain ⟨rfl, held⟩ := Prod.mk.inj same
    obtain ⟨changed, assigned⟩ := Declarations.exists_assigned_of_value? held d
    exact ⟨changed, Declarations.assign?_eq_iff.2 assigned⟩
  · obtain ⟨rfl, held⟩ := Prod.mk.inj same
    obtain ⟨a, -, rfl⟩ := Option.map_eq_some_iff.1 held
    exact ⟨_, Declarations.assign?_eq_iff.2 (.nested k ((Codec.nested k.Target).read_write _ _ a))⟩
  · obtain ⟨rfl, held⟩ := Prod.mk.inj same
    obtain ⟨items, -, rfl⟩ := Option.map_eq_some_iff.1 held
    have replaced := (k.part.get d).replace_write Declarations.blockName k.plural k.singular items
    exact ⟨_, Declarations.assign?_eq_iff.2 (.plural k replaced)⟩

/-- No field of a snapshot has the singular name of a collection. -/
theorem singular_not_mem (s : Snapshot) (k : Collection) (value : Value) :
    (k.singular, value) ∉ s.toBlock := by
  intro member
  rw [toBlock_eq, Fields.mem_present] at member
  have listed : k.singular ∈ s.assignable.map Prod.fst := List.mem_map_of_mem member
  rw [names_assignable] at listed
  revert listed
  cases k <;> decide

/-- A walk over the block leaves what the snapshot amounts to. -/
theorem eq_declarations_of_walk {s : Snapshot} {d : Declarations}
    (walk : Walk ({} : Declarations) s.toBlock d) : d = s.declarations := by
  refine Declarations.ext_fields ?_ ?_ ?_
  · intro i
    rw [Declarations.value?_of_walk walk, get?_toBlock (s.plainField_mem i),
      Declarations.value?_empty, Option.or_none]
  · intro k
    rw [Declarations.get_nested_of_walk walk, get?_toBlock (s.nestedField_mem k)]
    cases k.part.get s.declarations with
    | none => cases k <;> rfl
    | some a =>
      show ((Codec.nested k.Target).read ⟨_, _, (Codec.nested k.Target).write a⟩).toOption = some a
      rw [(Codec.nested k.Target).read_write]
      rfl
  · intro k
    have last : k.part.get d = ((s.toBlock.get? k.plural).map fun _ =>
        k.part.get s.declarations).getD (k.part.get ({} : Declarations)) := by
      refine walk.view_eq_last fun t t' name value member taken => ?_
      rcases (Declarations.assign?_eq_iff.1 taken).get_collection k with
        ⟨rfl, replaced⟩ | ⟨rfl, -⟩ | ⟨other, -, same⟩
      · -- The block assigns the name once, so the value met here is the written collection.
        have held := get?_toBlock (s.collectionField_mem k)
        rw [Block.get?_eq_of_mem s.distinct_toBlock member] at held
        obtain ⟨items, stands, rfl⟩ := Option.map_eq_some_iff.1 held.symm
        rw [Repeatable.replace_write] at replaced
        rw [if_pos rfl, ← Except.ok.inj replaced, ← stands]
      · exact absurd member (s.singular_not_mem k value)
      · rw [if_neg other, same]
    rw [last, get?_toBlock (s.collectionField_mem k)]
    cases stands : (k.part.get s.declarations).items with
    | none =>
      show k.part.get ({} : Declarations) = ⟨(k.part.get s.declarations).items⟩
      rw [stands]
      cases k <;> rfl
    | some items => rfl

/-- **A new extension takes the block of a snapshot, and declares what the snapshot amounts to.** -/
theorem apply_toBlock (project : Project) (s : Snapshot) :
    (Extension.mk project {}).apply s.toBlock = ⟨⟨project, s.declarations⟩, none⟩ := by
  obtain ⟨d, walk⟩ : ∃ d, Walk ({} : Declarations) s.toBlock d :=
    Walk.exists_of_taken (fun _ member d => taken_of_mem_toBlock member d) {}
  have bound : ({} : Declarations).apply s.toBlock = ⟨d, none⟩ := bindInto_eq_iff.2 walk
  rw [Extension.apply, bound, eq_declarations_of_walk walk]
  rfl

end Snapshot

namespace Extension

/-! ## Resolving again -/

/-- What a snapshot amounts to resolves to the snapshot, under the same properties or none. -/
theorem resolveAll_declarations {e : Extension} {s : Snapshot} (resolved : e.resolveAll = .ok s)
    {properties : Properties} (which : properties = e.properties ∨ properties = .empty) :
    (Extension.mk ⟨e.project.layout, properties⟩ s.declarations).resolveAll = .ok s := by
  obtain ⟨values, -⟩ := resolveAll_eq_ok_iff.1 resolved
  refine resolveAll_eq_ok_iff.2 ⟨?_, rfl, fun _ => rfl, fun _ => rfl⟩
  intro setting
  cases overridden : properties.override? setting.key with
  | some text =>
    rcases which with rfl | rfl
    · rw [← values setting, value_of_override overridden]
      exact value_of_override overridden
    · cases overridden
  | none =>
    have free : (Extension.mk ⟨e.project.layout, properties⟩ s.declarations).properties.override?
        setting.key = none := overridden
    rw [value_of_no_override free, Snapshot.value?_declarations]
    cases held : s.value setting with
    | some v => rfl
    | none =>
      -- A setting without a value is declared nowhere and has no default in any extension.
      have unset : setting.isUnset = true := isUnset_of_value (held ▸ values setting)
      rw [default?_eq_none_iff.2 unset]
      rfl

/-- **A snapshot is a fixed point of configuration.**  Applied to a new extension over the same
    directories, its block is taken whole and resolves to the snapshot again, whether the project
    has the same properties or none. -/
theorem snapshot_fixed_point (e : Extension) (s : Snapshot) (resolved : e.resolveAll = .ok s)
    (properties : Properties) (which : properties = e.properties ∨ properties = .empty) :
    ∃ again, (Extension.mk ⟨e.project.layout, properties⟩ {}).apply s.toBlock = ⟨again, none⟩ ∧
      again.resolveAll = .ok s :=
  ⟨⟨⟨e.project.layout, properties⟩, s.declarations⟩, s.apply_toBlock _,
    resolveAll_declarations resolved which⟩

/-- An extension with an override, relative paths and an empty list of images goes round. -/
theorem snapshot_fixed_point_overridden :
    ∃ (e : Extension) (s : Snapshot), e.properties.get? "jkube.docker.registry" = some "quay.io" ∧
      e.declarations.settings.path .workDirectory = some ⟨"out"⟩ ∧
      e.declarations.images.items = some [] ∧ e.resolveAll = .ok s ∧
      ∃ again, (Extension.mk ⟨e.project.layout, .empty⟩ {}).apply s.toBlock = ⟨again, none⟩ ∧
        again.resolveAll = .ok s := by
  let e : Extension :=
    ⟨⟨.conventional ⟨"/p"⟩, .ofList [("jkube.docker.registry", "quay.io")]⟩,
      { settings := { path := fun _ => some ⟨"out"⟩ }, images := ⟨some []⟩ }⟩
  have resolves : e.resolveAll.isOk = true := by decide
  cases resolved : e.resolveAll with
  | error _ => simp [resolved, Except.isOk, Except.toBool] at resolves
  | ok s =>
    exact ⟨e, s, rfl, rfl, rfl, resolved, snapshot_fixed_point e s resolved .empty (.inr rfl)⟩

end Extension

end DeployConfig
