/-
  Lists inside a block follow the merge policy.

  Config maps, assemblies and layers hold a plain list under two names, and their tables say by
  themselves what an assignment does to it: the plural name replaces the list, the singular one
  appends to it.  A repeatable collection is told the same by declarations.  The two agree because
  a walk over the block simulates a run over the declarations in it.

  1. **One step**: an assignment that is taken is a declaration that succeeds, and changes the list
     as it changes any collection with the same items; or it has another name and leaves the list
     alone (`NestedList.declared_of_taken`).
  2. **The run**: by induction on the walk, list and collection hold the same items to the end
     (`NestedList.toList_run_of_walk`).
-/
import DeployConfig.Config.Image
import DeployConfig.Config.Resources
import DeployConfig.Proofs.Binding.Codec
import DeployConfig.Proofs.Binding.RepeatableRun
import DeployConfig.Proofs.Binding.Walk

namespace DeployConfig

open Bindable

/-- A slot leaves everything alone that replacing its part does not change. -/
theorem Slot.view_replacing {T α β : Type} {name : String} {codec : Codec α} {set : T → α → T}
    {view : T → β} (kept : ∀ t a, view (set t a) = view t) (t : T) (f : Field) :
    view ((replacing name codec set).assign t f).target = view t := by
  show view (Outcome.ofExcept t ((codec.read f).map (set t))).target = _
  cases codec.read f with
  | error e => rfl
  | ok a => exact kept t a

/-! ## Lists under two names -/

/-- A list in a kind of block, at first empty: one slot of the table replaces the list, another one
    appends an item to it, and the others leave it alone. -/
structure NestedList (T S : Type) [Bindable T] [Bindable S] [Writable S] where
  view : T → List S
  plural : String
  singular : String
  untouched : view empty = [] := by rfl
  distinct : ((slots : List (Slot T)).map Slot.name).Nodup := by decide
  two_slots : ∃ part : Part T (List S), part.get = view ∧
    Slot.whole plural (.nestedList S) part ∈ (slots : List (Slot T)) ∧
    .appending singular (.nested S) part ∈ (slots : List (Slot T))
  others : ∀ slot ∈ (slots : List (Slot T)), slot.name = plural ∨ slot.name = singular ∨
    ∀ t f, view (slot.assign t f).target = view t

namespace NestedList

variable {T S : Type} [Bindable T] [Bindable S] [Writable S]

/-- What an entry of a block declares for the list: blocks that replace it under the plural name, or
    one more block under the singular name. -/
def step? (k : NestedList T S) : String × Value → Option Repeatable.Step
  | (name, .list values) =>
    if name = k.plural then (values.mapM Field.block?).map .replaceWithList else none
  | (name, .block entries) => if name = k.singular then some (.append entries) else none
  | _ => none

/-- What the entries of a block declare for the list, in their order. -/
def steps (k : NestedList T S) (block : Block) : List Repeatable.Step := block.filterMap k.step?

/-- Items follow the merge policy if every entry of the block under one of the two names is a
    declaration that succeeds, and the items are those that a collection, undeclared at first, holds
    after all these declarations. -/
def Follows (k : NestedList T S) (block : Block) (items : List S) : Prop :=
  (∀ entry ∈ block, entry.1 = k.plural ∨ entry.1 = k.singular → ∃ step, k.step? entry = some step ∧
    ∃ effect, (step.effect : Except BindError (Repeatable.Effect S)) = .ok effect) ∧
  (Repeatable.run {} (k.steps block) : Repeatable S).toList = items

variable (k : NestedList T S)

/-! ## One assignment -/

theorem step?_plural (blocks : List Block) :
    k.step? (k.plural, .list (blocks.map Value.block)) = some (.replaceWithList blocks) := by
  rw [step?, if_pos rfl, Codec.mapM_block?]
  rfl

theorem step?_singular (entries : Block) :
    k.step? (k.singular, .block entries) = some (.append entries) := if_pos rfl

theorem step?_eq_none {name : String} (notPlural : name ≠ k.plural)
    (notSingular : name ≠ k.singular) (value : Value) : k.step? (name, value) = none := by
  cases value with
  | list values => exact if_neg notPlural
  | block entries => exact if_neg notSingular
  | string _ | integer _ | float _ | boolean _ => rfl

/-- **One assignment that is taken** is a declaration that succeeds, and that changes the list as it
    changes every collection of the same items, or it has another name and leaves the list alone. -/
theorem declared_of_taken {t t' : T} {name : String} {value : Value}
    (taken : assign? t name value = some ⟨t', none⟩) :
    (∃ step effect, k.step? (name, value) = some step ∧ step.effect = .ok effect ∧
      ∀ c : Repeatable S, c.toList = k.view t → (effect.on c).toList = k.view t') ∨
    (name ≠ k.plural ∧ name ≠ k.singular ∧ k.view t' = k.view t) := by
  obtain ⟨part, viewed, plural_mem, singular_mem⟩ := k.two_slots
  rw [← viewed]
  by_cases plural : name = k.plural
  · subst plural
    have assigned := (assign?_eq_some_iff_of_mem k.distinct plural_mem).1 taken
    obtain ⟨items, read, rfl⟩ := Outcome.ofExcept_map_eq_iff.1 assigned
    obtain ⟨blocks, rfl, bound⟩ := Codec.exists_blocks_of_read read
    refine .inl ⟨.replaceWithList blocks, .replaces items, k.step?_plural blocks, ?_, fun c _ => ?_⟩
    · rw [Repeatable.Step.effect, bound]
      rfl
    · exact (part.get_set t items).symm
  by_cases singular : name = k.singular
  · subst singular
    have assigned := (assign?_eq_some_iff_of_mem k.distinct singular_mem).1 taken
    obtain ⟨item, read, rfl⟩ := Outcome.ofExcept_map_eq_iff.1 assigned
    obtain ⟨entries, rfl, bound⟩ := Codec.exists_block_of_read read
    refine .inl ⟨.append entries, .appends [item], k.step?_singular entries, ?_, fun c same => ?_⟩
    · rw [Repeatable.Step.effect, bound]
      rfl
    · show c.toList ++ [item] = _
      rw [same, part.get_set]
  · obtain ⟨slot, known, rfl, assigned⟩ := exists_slot_of_assign? taken
    refine .inr ⟨plural, singular, ?_⟩
    rcases k.others slot known with isPlural | isSingular | alone
    · exact absurd isPlural plural
    · exact absurd isSingular singular
    · rw [viewed, ← alone t _, assigned]

/-! ## The run -/

/-- **A walk over a block simulates a run over the declarations in it**: a collection that starts
    with the items of the list ends with them. -/
theorem toList_run_of_walk {t u : T} {block : Block} (walk : Walk t block u) {c : Repeatable S}
    (same : c.toList = k.view t) : (c.run (k.steps block)).toList = k.view u := by
  induction walk generalizing c with
  | done => exact same
  | @step t t' u name value rest taken _ ih =>
    rcases k.declared_of_taken taken with ⟨step, effect, declares, succeeds, agree⟩ | ⟨p, s, alone⟩
    · rw [steps, List.filterMap_cons_some declares]
      show (Repeatable.run (c.after step).target (k.steps rest)).toList = _
      rw [Repeatable.after_of_ok c succeeds]
      exact ih (agree c same)
    · rw [steps, List.filterMap_cons_none (k.step?_eq_none p s value)]
      exact ih (same.trans alone.symm)

/-- Every entry of a walked block that is about the list is a declaration that succeeds. -/
theorem succeeds_of_walk {t u : T} {block : Block} (walk : Walk t block u) {entry : String × Value}
    (member : entry ∈ block) (about : entry.1 = k.plural ∨ entry.1 = k.singular) :
    ∃ step, k.step? entry = some step ∧
      ∃ effect, (step.effect : Except BindError (Repeatable.Effect S)) = .ok effect := by
  induction walk with
  | done => cases member
  | step taken _ ih =>
    rcases List.mem_cons.1 member with rfl | member
    · rcases k.declared_of_taken taken with ⟨step, effect, declares, succeeds, -⟩ | ⟨p, s, -⟩
      · exact ⟨step, declares, effect, succeeds⟩
      · exact absurd about (not_or.2 ⟨p, s⟩)
    · exact ih member

theorem follows_of_bind {block : Block} {t : T} (bound : bind T block = .ok t) :
    k.Follows block (k.view t) := by
  have walk := bind_eq_ok_iff.1 bound
  exact ⟨fun _ => k.succeeds_of_walk walk, k.toList_run_of_walk walk k.untouched.symm⟩

end NestedList

/-! ## The three lists -/

/-- The entries of a config map. -/
def ConfigMap.entryList : NestedList ConfigMap ConfigMapEntry where
  view := (·.entries)
  plural := "entries"
  singular := "entry"
  two_slots := ⟨_, rfl, .tail _ (.head _), .tail _ (.tail _ (.head _))⟩
  others slot known := by
    rcases known with _ | ⟨_, _ | ⟨_, _ | ⟨_, ⟨⟩⟩⟩⟩
    · exact .inr (.inr (Slot.view_replacing fun _ _ => rfl))
    · exact .inl rfl
    · exact .inr (.inl rfl)

/-- The layers of an assembly. -/
def Assembly.layerList : NestedList Assembly Layer where
  view := (·.layers)
  plural := "layers"
  singular := "layer"
  two_slots := ⟨_, rfl, .tail _ (.tail _ (.head _)), .tail _ (.tail _ (.tail _ (.head _)))⟩
  others slot known := by
    rcases known with _ | ⟨_, _ | ⟨_, _ | ⟨_, _ | ⟨_, ⟨⟩⟩⟩⟩⟩
    · exact .inr (.inr (Slot.view_replacing fun _ _ => rfl))
    · exact .inr (.inr (Slot.view_replacing fun _ _ => rfl))
    · exact .inl rfl
    · exact .inr (.inl rfl)

/-- The files of a layer. -/
def Layer.fileList : NestedList Layer AssemblyFile where
  view := (·.files)
  plural := "files"
  singular := "file"
  two_slots := ⟨_, rfl, .tail _ (.head _), .tail _ (.tail _ (.head _))⟩
  others slot known := by
    rcases known with _ | ⟨_, _ | ⟨_, _ | ⟨_, ⟨⟩⟩⟩⟩
    · exact .inr (.inr (Slot.view_replacing fun _ _ => rfl))
    · exact .inl rfl
    · exact .inr (.inl rfl)

/-- **Nested lists follow the merge policy.**  However the assignments of the two names are repeated
    and mixed with others, the entries of a config map, the layers of an assembly and the files of a
    layer are, whenever the block binds, what a collection holds after the same declarations. -/
theorem nested_lists_follow_merge_policy (block : Block) :
    (∀ map, bind ConfigMap block = .ok map → ConfigMap.entryList.Follows block map.entries) ∧
    (∀ assembly, bind Assembly block = .ok assembly →
      Assembly.layerList.Follows block assembly.layers) ∧
    (∀ layer, bind Layer block = .ok layer → Layer.fileList.Follows block layer.files) :=
  ⟨fun _ => ConfigMap.entryList.follows_of_bind, fun _ => Assembly.layerList.follows_of_bind,
    fun _ => Layer.fileList.follows_of_bind⟩

/-- A list of two entries behind a first one and before a last one, a list of no layers, and a layer
    of two files around its id. -/
theorem nested_lists_follow_merge_policy_mixed :
    let named (name : String) : Value := .block [("name", .string name)]
    let file (source : String) : Value := .block [("source", .string source)]
    let mapBlock : Block := [("entry", named "a"), ("name", .string "m"),
      ("entries", .list [named "b", named "c"]), ("entry", named "d")]
    let layerBlock : Block := [("file", file "s"), ("id", .string "l"), ("file", file "t")]
    let assemblyBlock : Block := [("layer", .block []), ("layers", .list []),
      ("layer", .block layerBlock), ("targetDir", .string "d")]
    ∃ map assembly layer, bind ConfigMap mapBlock = .ok map ∧
      bind Assembly assemblyBlock = .ok assembly ∧ bind Layer layerBlock = .ok layer ∧
      map.entries.map (·.name) = [some "b", some "c", some "d"] ∧
      assembly.layers = [layer] ∧ layer.files.map (·.source) = [some "s", some "t"] ∧
      ConfigMap.entryList.Follows mapBlock map.entries ∧
      Assembly.layerList.Follows assemblyBlock assembly.layers ∧
      Layer.fileList.Follows layerBlock layer.files := by
  intro named file mapBlock layerBlock assemblyBlock
  obtain ⟨ofMap, -, -⟩ := nested_lists_follow_merge_policy mapBlock
  obtain ⟨-, ofAssembly, -⟩ := nested_lists_follow_merge_policy assemblyBlock
  obtain ⟨-, -, ofLayer⟩ := nested_lists_follow_merge_policy layerBlock
  exact ⟨_, _, _, rfl, rfl, rfl, rfl, rfl, rfl, ofMap _ rfl, ofAssembly _ rfl, ofLayer _ rfl⟩

end DeployConfig
