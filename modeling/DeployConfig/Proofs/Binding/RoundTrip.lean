/-
  Binding undoes writing.

  How a kind of block is read and what it is written as are two descriptions of it: the table of
  slots and the list of fields.  Reading a written block goes through both together (`Restores`): a
  field without a value is left out of the block, and the target already holds what it should; a
  field with a value is read by the slot of its name, which puts the value in its place; a second
  slot for a part, such as the one that appends to a list, has no field at all.

  Each way to make a slot has one lemma that says which field restores its part.  A kind of block
  is restored by going through its table, and that works only as far as names, values and parts of
  the two descriptions fit.  The parts set so far never have to be told apart from the ones to come:
  that the part of a slot is still untouched holds by computation.
-/
import DeployConfig.Proofs.Binding.Codec
import DeployConfig.Proofs.Binding.Walk

namespace DeployConfig

namespace Bindable

variable {T : Type} [Bindable T]

/-- Going through some slots, with the fields that are written for them, leads from one target to
    another. -/
inductive Restores : List (Slot T) → Fields → T → T → Prop where
  | done (u : T) : Restores [] [] u u
  | pass {slot : Slot T} {rest : List (Slot T)} {fields : Fields} {u w : T}
      (next : Restores rest fields u w) : Restores (slot :: rest) fields u w
  | skip {slot : Slot T} {rest : List (Slot T)} {fields : Fields} {u w : T}
      (next : Restores rest fields u w) :
      Restores (slot :: rest) ((slot.name, none) :: fields) u w
  | put {slot : Slot T} {rest : List (Slot T)} {fields : Fields} {u v w : T} {value : Value}
      (assigned : slot.assign u ⟨kind T, slot.name, value⟩ = ⟨v, none⟩)
      (next : Restores rest fields v w) :
      Restores (slot :: rest) ((slot.name, some value) :: fields) u w

namespace Restores

variable {α : Type} {u w : T} {rest : List (Slot T)} {fields : Fields} {name : String}

/-- The fields written for slots of the table can be walked over. -/
theorem walk (distinct : ((slots : List (Slot T)).map Slot.name).Nodup)
    {ss : List (Slot T)} (restores : Restores ss fields u w)
    (known : ∀ slot ∈ ss, slot ∈ (slots : List (Slot T))) : Walk u fields.present w := by
  induction restores with
  | done => exact .done _
  | pass next ih => exact ih fun s member => known s (List.mem_cons_of_mem _ member)
  | skip next ih => exact ih fun s member => known s (List.mem_cons_of_mem _ member)
  | @put slot rest fields u v w value assigned next ih =>
    have taken : assign? u slot.name value = some ⟨v, none⟩ := by
      rw [assign?_of_mem distinct (known slot List.mem_cons_self), assigned]
    exact .step taken (ih fun s member => known s (List.mem_cons_of_mem _ member))

/-! ## How each way to make a slot restores its part -/

/-- A slot that replaces a part puts a written value there. -/
theorem put_replacing {codec : Codec α} [codec.Lawful] {set : T → α → T} {a : α}
    (next : Restores rest fields (set u a) w) :
    Restores (.replacing name codec set :: rest) ((name, some (codec.write a)) :: fields) u w := by
  refine .put ?_ next
  simp only [Slot.replacing, codec.read_write, Except.map, Outcome.ofExcept]

/-- A part that may be unset is restored if it is still unset. -/
theorem optional {codec : Codec α} [codec.Lawful] {part : Part T (Option α)} {held : Option α}
    (untouched : part.get u = none) (next : Restores rest fields (part.set u held) w) :
    Restores (.optional name codec part :: rest) ((name, held.map codec.write) :: fields) u w := by
  cases held with
  | none =>
    -- Nothing is written, and nothing has to be: the part is unset on both sides.
    rw [← untouched, part.set_get] at next
    exact .skip next
  | some a => exact put_replacing next

/-- A list is restored from its written items if it is still empty. -/
theorem list {codec : Codec (List α)} [codec.Lawful] {part : Part T (List α)} {write : α → Value}
    {items : List α} (written : codec.write items = Writable.ofList write items)
    (untouched : part.get u = []) (next : Restores rest fields (part.set u items) w) :
    Restores (.whole name codec part :: rest) ((name, Writable.list write items) :: fields)
      u w := by
  rw [Writable.list]
  split
  · rename_i empty
    rw [List.isEmpty_iff.1 empty, ← untouched, part.set_get] at next
    exact .skip next
  · rw [← written]
    exact put_replacing next

/-- A map is restored from its written entries if it is still empty. -/
theorem map {codec : Codec (OrderedMap α)} [codec.Lawful] {part : Part T (OrderedMap α)}
    {write : α → Value} {entries : OrderedMap α}
    (written : codec.write entries = Writable.ofMap write entries)
    (untouched : part.get u = .empty) (next : Restores rest fields (part.set u entries) w) :
    Restores (.whole name codec part :: rest) ((name, Writable.map write entries) :: fields)
      u w := by
  rw [Writable.map]
  split
  · rename_i empty
    rw [OrderedMap.eq_empty_of_isEmpty empty, ← untouched, part.set_get] at next
    exact .skip next
  · rw [← written]
    exact put_replacing next

/-- Nothing is written for the singular name of a list. -/
theorem appending {codec : Codec α} {part : Part T (List α)} (next : Restores rest fields u w) :
    Restores (.appending name codec part :: rest) fields u w := .pass next

end Restores

/-- A kind of block whose written form binds to what was written. -/
class RoundTrip (T : Type) [Bindable T] [Writable T] : Prop where
  bind_toBlock : ∀ t : T, bind T (Writable.toBlock t) = .ok t

export RoundTrip (bind_toBlock)

/-- A kind of block goes round if its slots have distinct names and restore every target from its
    written fields. -/
theorem RoundTrip.of_restores [Writable T]
    (distinct : ((slots : List (Slot T)).map Slot.name).Nodup)
    (restores : ∀ t : T, Restores slots (Writable.fields t) empty t) : RoundTrip T where
  bind_toBlock t := bind_eq_ok_iff.2 ((restores t).walk distinct fun _ known => known)

end Bindable

/-! ## Blocks inside blocks -/

namespace Codec

variable {T : Type} [Bindable T] [Writable T] [Bindable.RoundTrip T]

instance : (nested T).Lawful where
  read_write kind name t := by
    show (Field.block ⟨kind, name, .block (Writable.toBlock t)⟩).bind (Bindable.bind T) = _
    simp only [Field.block, Except.bind, Bindable.bind_toBlock]

instance : (nestedList T).Lawful where
  read_write kind name ts := by
    show List.mapM _ (ts.map Writable.toValue) = pure ts
    refine mapM_map_eq_pure ?_ ts
    intro t
    exact Bindable.bind_toBlock t

end Codec

end DeployConfig
