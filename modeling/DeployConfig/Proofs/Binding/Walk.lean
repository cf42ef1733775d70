/-
  Walks over a block.

  Binding offers the assignments of a block to a target one after the other.  A walk is such a run
  in which every assignment is taken: it goes from one target to another, one step for each
  assignment, and it is exactly what binding without an error does (`bindInto_eq_iff`).

  What a walk does to a part of the target follows from what one step does to it.  The case met
  most often is a part that one name sets and no other name touches: after the walk it holds what
  the last assignment of that name gave it, and otherwise what it held before (`view_eq_last`).
-/
import Mathlib.Data.List.Nodup
import DeployConfig.Binding.Slot

namespace DeployConfig

/-! ## The last assignment of a name -/

/-- Among entries with names of their own, a name has the value of its entry. -/
theorem lookup_eq_of_mem {α : Type} {entries : List (String × α)}
    (distinct : (entries.map Prod.fst).Nodup) {name : String} {value : α}
    (h : (name, value) ∈ entries) : entries.lookup name = some value := by
  obtain ⟨before, after, rfl⟩ := List.append_of_mem h
  refine List.lookup_eq_some_iff.2 ⟨before, after, rfl, ?_⟩
  intro entry member
  rw [List.map_append] at distinct
  have different : entry.1 ≠ name :=
    (List.nodup_append.1 distinct).2.2 _ (List.mem_map_of_mem member) _ List.mem_cons_self
  simpa using Ne.symm different

/-- Among items with names of their own, an item is found by its name. -/
theorem find?_eq_of_mem {α : Type} (name : α → String) {items : List α}
    (distinct : (items.map name).Nodup) {item : α} (known : item ∈ items) :
    items.find? (fun other => name other == name item) = some item := by
  cases found : items.find? fun other => name other == name item with
  | none => exact absurd (List.find?_eq_none.1 found item known) (by simp)
  | some other =>
    have same : name other = name item := by simpa using List.find?_some found
    rw [List.inj_on_of_nodup_map distinct (List.mem_of_find?_eq_some found) known same]

namespace Block

/-- Of two blocks one after the other, the second one decides about the names that it assigns. -/
theorem get?_append (first second : Block) (name : String) :
    Block.get? (first ++ second) name = (second.get? name).or (first.get? name) := by
  simp only [Block.get?, List.reverse_append, List.lookup_append]

theorem get?_cons (other : String) (value : Value) (block : Block) (name : String) :
    Block.get? ((other, value) :: block) name =
      (block.get? name).or (if other = name then some value else none) := by
  rw [← List.singleton_append, get?_append]
  congr 1
  show List.lookup name [(other, value)] = _
  rw [OrderedMap.lookup_cons, List.lookup_nil]
  by_cases same : other = name
  · simp [same]
  · simp [same, Ne.symm same]

/-- The value of a name is the value of some entry of the block. -/
theorem mem_of_get? {block : Block} {name : String} {value : Value}
    (h : block.get? name = some value) : (name, value) ∈ block := by
  obtain ⟨later, earlier, parted, -⟩ := List.lookup_eq_some_iff.1 h
  have member : (name, value) ∈ block.reverse := by
    rw [parted]
    exact List.mem_append_right _ List.mem_cons_self
  exact List.mem_reverse.1 member

/-- In a block that assigns each name once, a name has the value of its entry. -/
theorem get?_eq_of_mem {block : Block} (distinct : (block.map Prod.fst).Nodup) {name : String}
    {value : Value} (h : (name, value) ∈ block) : block.get? name = some value := by
  refine lookup_eq_of_mem ?_ (List.mem_reverse.2 h)
  rw [List.map_reverse]
  exact List.nodup_reverse.2 distinct

end Block

/-! ## Fields that have a value -/

namespace Fields

theorem mem_present {fields : Fields} {name : String} {value : Value} :
    (name, value) ∈ fields.present ↔ (name, some value) ∈ fields := by
  simp only [present, List.mem_filterMap, Option.map_eq_some_iff, Prod.mk.injEq]
  constructor
  · rintro ⟨⟨other, held⟩, member, v, rfl, rfl, rfl⟩
    exact member
  · intro member
    exact ⟨(name, some value), member, value, rfl, rfl, rfl⟩

theorem sublist_present (fields : Fields) :
    (fields.present.map Prod.fst).Sublist (fields.map Prod.fst) := by
  induction fields with
  | nil => exact .slnil
  | cons field rest ih =>
    obtain ⟨name, held⟩ := field
    cases held with
    | none => exact ih.cons name
    | some value => exact ih.cons_cons name

/-- Of fields with names of their own, each one present has the value that it has. -/
theorem get?_present {fields : Fields} (distinct : (fields.map Prod.fst).Nodup) {name : String}
    {held : Option Value} (listed : (name, held) ∈ fields) : fields.present.get? name = held := by
  have only {other : Option Value} (member : (name, other) ∈ fields) : other = held :=
    congrArg Prod.snd (List.inj_on_of_nodup_map distinct member listed rfl)
  cases found : fields.present.get? name with
  | some value => exact only (mem_present.1 (Block.mem_of_get? found))
  | none =>
    cases held with
    | none => rfl
    | some value =>
      have distinct' := distinct.sublist (sublist_present fields)
      rw [Block.get?_eq_of_mem distinct' (mem_present.2 listed)] at found
      cases found

end Fields

theorem Outcome.toExcept_eq_ok_iff {T : Type} {outcome : Outcome T} {t : T} :
    outcome.toExcept = .ok t ↔ outcome = ⟨t, none⟩ := by
  obtain ⟨target, error⟩ := outcome
  cases error <;> simp [Outcome.toExcept]

/-- An assignment that gives a new target, if something can be read, leaves what was read. -/
theorem Outcome.ofExcept_map_eq_iff {S T : Type} {t t' : T} {x : Except BindError S} {f : S → T} :
    ofExcept t (x.map f) = ⟨t', none⟩ ↔ ∃ a, x = .ok a ∧ t' = f a := by
  cases x with
  | error e => simp [Except.map, ofExcept]
  | ok a => simp [Except.map, ofExcept, eq_comm]

namespace Bindable

variable {T : Type} [Bindable T]

/-! ## One assignment -/

/-- An assignment is answered by a slot of its name. -/
theorem exists_slot_of_assign? {target : T} {name : String} {value : Value} {outcome : Outcome T}
    (h : assign? target name value = some outcome) :
    ∃ slot ∈ (slots : List (Slot T)), slot.name = name ∧
      slot.assign target ⟨kind T, name, value⟩ = outcome := by
  obtain ⟨slot, found, rfl⟩ := Option.map_eq_some_iff.1 h
  exact ⟨slot, List.mem_of_find?_eq_some found, by simpa using List.find?_some found, rfl⟩

/-- In a table without repeated names, each slot answers the assignments of its name. -/
theorem assign?_of_mem (distinct : ((slots : List (Slot T)).map Slot.name).Nodup) {slot : Slot T}
    (known : slot ∈ (slots : List (Slot T))) (target : T) (value : Value) :
    assign? target slot.name value = some (slot.assign target ⟨kind T, slot.name, value⟩) := by
  have found : (slots : List (Slot T)).find? (fun s => s.name == slot.name) = some slot :=
    find?_eq_of_mem Slot.name distinct known
  simp only [assign?, found, Option.map_some]

/-- In such a table, what a name is answered with is what its slot assigns. -/
theorem assign?_eq_some_iff_of_mem (distinct : ((slots : List (Slot T)).map Slot.name).Nodup)
    {slot : Slot T} (known : slot ∈ (slots : List (Slot T))) {target : T} {value : Value}
    {outcome : Outcome T} : assign? target slot.name value = some outcome ↔
      slot.assign target ⟨kind T, slot.name, value⟩ = outcome := by
  rw [assign?_of_mem distinct known, Option.some.injEq]

/-! ## Walks -/

/-- Every assignment of a block is taken, and the walk over the block leads from one target to
    another. -/
inductive Walk : T → Block → T → Prop where
  | done (target : T) : Walk target [] target
  | step {target changed final : T} {name : String} {value : Value} {block : Block}
      (taken : assign? target name value = some ⟨changed, none⟩)
      (rest : Walk changed block final) : Walk target ((name, value) :: block) final

theorem addName_ne_nil (names : List String) (name : String) : addName names name ≠ [] := by
  simp only [addName]
  split
  · rename_i present
    intro h
    simp [h] at present
  · simp

/-- Without an error, no unknown name was met and every assignment was taken. -/
theorem bindRest_eq_iff {target final : T} {unknown : List String} {block : Block} :
    bindRest target unknown block = ⟨final, none⟩ ↔ unknown = [] ∧ Walk target block final := by
  -- Both sides follow the block; a name once found unknown stays so and forces an error at the end.
  induction block generalizing target unknown with
  | nil =>
    simp only [bindRest]
    split
    · rename_i h
      rw [List.isEmpty_iff] at h
      constructor
      · intro same
        cases same
        exact ⟨h, .done _⟩
      · rintro ⟨-, ⟨⟩⟩
        rfl
    · rename_i h
      simp_all
  | cons entry rest ih =>
    obtain ⟨name, value⟩ := entry
    simp only [bindRest]
    split
    · rename_i notKnown
      rw [ih]
      constructor
      · rintro ⟨h, -⟩
        exact absurd h (addName_ne_nil unknown name)
      · rintro ⟨-, walk⟩
        cases walk with
        | step taken => rw [notKnown] at taken; cases taken
    · rename_i changed taken
      rw [ih]
      refine and_congr_right fun _ => ⟨.step taken, fun walk => ?_⟩
      cases walk with
      | step taken' rest => rw [taken] at taken'; cases taken'; exact rest
    · rename_i changed e failed
      constructor
      · intro h
        cases h
      · rintro ⟨-, walk⟩
        cases walk with
        | step taken => rw [failed] at taken; cases taken

/-- **Binding without an error is a walk.** -/
theorem bindInto_eq_iff {target final : T} {block : Block} :
    bindInto target block = ⟨final, none⟩ ↔ Walk target block final := by
  simp [bindInto, bindRest_eq_iff]

theorem bind_eq_ok_iff {block : Block} {t : T} : bind T block = .ok t ↔ Walk empty block t := by
  rw [bind, Outcome.toExcept_eq_ok_iff, bindInto_eq_iff]

namespace Walk

/-- Walks over two blocks make a walk over both. -/
theorem append {target middle final : T} {first second : Block} (h : Walk target first middle)
    (next : Walk middle second final) : Walk target (first ++ second) final := by
  induction h with
  | done => exact next
  | step taken _ ih => exact .step taken (ih next)

/-- Assignments that every target takes can be walked over from any target. -/
theorem exists_of_taken {block : Block}
    (h : ∀ entry ∈ block, ∀ target : T, ∃ changed,
      assign? target entry.1 entry.2 = some ⟨changed, none⟩) (target : T) :
    ∃ final, Walk target block final := by
  induction block generalizing target with
  | nil => exact ⟨target, .done target⟩
  | cons entry rest ih =>
    obtain ⟨changed, taken⟩ := h entry List.mem_cons_self target
    obtain ⟨final, walk⟩ := ih (fun e member => h e (List.mem_cons_of_mem _ member)) changed
    exact ⟨final, .step taken walk⟩

/-! ## What a walk does to a part of the target -/

/-- A view that one name of the block sets and no other one touches holds, after a walk, what the
    last assignment of that name gave it, and otherwise what it held before. -/
theorem view_eq_last {β : Type} {view : T → β} {name : String} {read : Value → β}
    {target final : T} {block : Block} (walk : Walk target block final)
    (step : ∀ (t t' : T) (other : String) (value : Value), (other, value) ∈ block →
      assign? t other value = some ⟨t', none⟩ →
        view t' = if other = name then read value else view t) :
    view final = ((block.get? name).map read).getD (view target) := by
  induction walk with
  | done => rfl
  | @step target changed final other value block taken _ ih =>
    -- Either the rest of the block assigns the name again, or this step decides.
    rw [ih fun t t' o v member => step t t' o v (List.mem_cons_of_mem _ member),
      step _ _ _ _ List.mem_cons_self taken, Block.get?_cons]
    cases block.get? name with
    | some v => simp
    | none => by_cases same : other = name <;> simp [same]

end Walk

end Bindable

end DeployConfig
