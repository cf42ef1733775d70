/-
  Binding when assignments may fail.

  A slot is uniform if a field alone says what becomes of it: it fails with some error, and then
  the target stays as it was, or it stands for a change that any target can undergo
  (`Slot.Uniform`).  In a kind of block whose slots are all uniform, an assignment is unknown to
  every target, fails for every target with one error, or is taken by every target
  (`assign?_cases`).

  1. **Slots**: every way to make a slot gives a uniform one.
  2. **Assignments**: the three cases, and what it means that an entry of a block fails.
  3. **The crux (`bindRest_append`)** is what binding does up to a point before which nothing
     fails: it walks over the entries with known names and gathers the other names, each once.  A
     failing entry right after that point ends the binding there and then, whatever was gathered.
-/
import DeployConfig.Proofs.Binding.Walk

namespace DeployConfig

/-! ## Slots that change every target alike -/

namespace Slot

variable {S T α : Type}

/-- A field of the slot fails for every target, or stands for a change that it makes to any. -/
def Uniform (slot : Slot T) : Prop :=
  ∃ read : Field → Except BindError (T → T), ∀ (target : T) (field : Field),
    slot.assign target field = .ofExcept target ((read field).map fun change => change target)

/-- A slot is uniform if it reads its field first and then only changes the target. -/
theorem uniform_of_read {slot : Slot T} (read : Field → Except BindError α) (change : α → T → T)
    (assigns : ∀ target field,
      slot.assign target field = .ofExcept target ((read field).map fun a => change a target)) :
    slot.Uniform := by
  refine ⟨fun field => (read field).map change, fun target field => ?_⟩
  rw [assigns]
  show _ = Outcome.ofExcept target (((read field).map change).map fun change => change target)
  cases read field <;> rfl

theorem uniform_replacing (name : String) (codec : Codec α) (set : T → α → T) :
    (replacing name codec set).Uniform :=
  uniform_of_read codec.read (fun a target => set target a) fun _ _ => rfl

theorem uniform_optional (name : String) (codec : Codec α) (part : Part T (Option α)) :
    (optional name codec part).Uniform := uniform_replacing ..

/-- A part changes as the whole does, and an unchanged part leaves the whole as it was. -/
theorem Uniform.lift {slot : Slot S} (uniform : slot.Uniform) (part : Part T S) :
    (slot.lift part).Uniform := by
  obtain ⟨read, assigns⟩ := uniform
  refine uniform_of_read read (fun change target => part.set target (change (part.get target))) ?_
  intro target field
  show (slot.assign (part.get target) field).map (part.set target) = _
  rw [assigns]
  cases read field with
  | error e => exact congrArg (Outcome.mk · (some e)) (part.set_get target)
  | ok change => rfl

end Slot

namespace Bindable

/-- A kind of block all of whose slots change every target alike. -/
class Uniform (T : Type) [Bindable T] : Prop where
  uniform_slot : ∀ slot ∈ (slots : List (Slot T)), slot.Uniform

export Uniform (uniform_slot)

variable (T : Type) [Bindable T]

/-- Whether a kind of block knows a name. -/
def knows (name : String) : Bool := (slots : List (Slot T)).any fun slot => slot.name == name

/-- The entries of a block with known names. -/
def knownEntries (block : Block) : Block := block.filter fun entry => knows T entry.1

/-- The names of a block that are not known, each once, in order of first occurrence. -/
def unknownNames (block : Block) : List String :=
  ((block.filter fun entry => !knows T entry.1).map Prod.fst).eraseDups

/-- An entry fails with an error, whatever the target is, and leaves the target as it was. -/
def Fails (entry : String × Value) (error : BindError) : Prop :=
  ∀ target : T, assign? target entry.1 entry.2 = some ⟨target, some error⟩

/-- No entry of a block fails; names that are not known may occur. -/
def Unfailing (block : Block) : Prop := ∀ entry ∈ block, ∀ error, ¬Fails T entry error

variable {T}

theorem assign?_eq_none_iff (target : T) (name : String) (value : Value) :
    assign? target name value = none ↔ knows T name = false := by
  rw [assign?, Option.map_eq_none_iff, List.find?_eq_none, knows, List.any_eq_false]

theorem knows_of_answered {target : T} {name : String} {value : Value} {outcome : Outcome T}
    (answered : assign? target name value = some outcome) : knows T name = true := by
  rw [← Bool.not_eq_false, ← assign?_eq_none_iff target name value, answered]
  exact Option.some_ne_none outcome

/-! ## One assignment -/

variable [Uniform T]

/-- **An assignment is unknown, fails, or is taken, and it is so for all targets alike.** -/
theorem assign?_cases (name : String) (value : Value) :
    (∀ target : T, assign? target name value = none) ∨
    (∃ error, ∀ target : T, assign? target name value = some ⟨target, some error⟩) ∨
    (∃ change : T → T, ∀ target, assign? target name value = some ⟨change target, none⟩) := by
  cases found : (slots : List (Slot T)).find? fun slot => slot.name == name with
  | none => exact .inl fun target => by simp only [assign?, found, Option.map_none]
  | some slot =>
    obtain ⟨read, assigns⟩ := uniform_slot slot (List.mem_of_find?_eq_some found)
    have answered (target : T) : assign? target name value =
        some (.ofExcept target ((read ⟨kind T, name, value⟩).map fun change => change target)) := by
      simp only [assign?, found, Option.map_some, assigns]
    cases what : read ⟨kind T, name, value⟩ with
    | error e => exact .inr (.inl ⟨e, fun target => by rw [answered, what]; rfl⟩)
    | ok change => exact .inr (.inr ⟨change, fun target => by rw [answered, what]; rfl⟩)

/-- What fails for one target fails for every target, and has left the one as it was. -/
theorem fails_of_failed {target changed : T} {name : String} {value : Value} {error : BindError}
    (failed : assign? target name value = some ⟨changed, some error⟩) :
    changed = target ∧ Fails T (name, value) error := by
  rcases assign?_cases (T := T) name value with unknown | ⟨other, fails⟩ | ⟨change, taken⟩
  · rw [unknown] at failed
    cases failed
  · rw [fails] at failed
    cases failed
    exact ⟨rfl, fails⟩
  · rw [taken] at failed
    cases failed

/-- What one target takes is taken by every target. -/
theorem taken_of_taken {target changed : T} {name : String} {value : Value}
    (taken : assign? target name value = some ⟨changed, none⟩) (other : T) :
    ∃ changed', assign? other name value = some ⟨changed', none⟩ := by
  rcases assign?_cases (T := T) name value with unknown | ⟨error, fails⟩ | ⟨change, takes⟩
  · rw [unknown] at taken
    cases taken
  · rw [fails] at taken
    cases taken
  · exact ⟨change other, takes other⟩

/-- Every entry of a block that some target walks over is taken by every target. -/
theorem Walk.taken {target final : T} {block : Block} (walk : Walk target block final)
    {entry : String × Value} (member : entry ∈ block) (other : T) :
    ∃ changed, assign? other entry.1 entry.2 = some ⟨changed, none⟩ := by
  induction walk with
  | done => cases member
  | step taken _ ih =>
    rcases List.mem_cons.1 member with rfl | member
    · exact taken_of_taken taken other
    · exact ih member

/-! ## Whole blocks -/

omit [Bindable T] [Uniform T] in
/-- Adding a name to the distinct ones so far keeps them distinct and in order. -/
theorem addName_eraseDups (names : List String) (name : String) :
    addName names.eraseDups name = (names ++ [name]).eraseDups := by
  rw [List.eraseDups_append]
  by_cases present : name ∈ names
  · simp [addName, List.removeAll, present]
  · have single : [name].eraseDups = [name] := rfl
    simp [addName, List.removeAll, present, single]

/-- Up to a point before which nothing fails, binding walks over the entries with known names and
    gathers the other names. -/
theorem bindRest_append {before : Block} (unfailing : Unfailing T before) (target : T)
    (gathered : List String) : ∃ changed, Walk target (knownEntries T before) changed ∧
      ∀ rest, bindRest target gathered.eraseDups (before ++ rest) =
        bindRest changed (gathered ++
          (before.filter fun entry => !knows T entry.1).map Prod.fst).eraseDups rest := by
  induction before generalizing target gathered with
  | nil => exact ⟨target, .done target, fun rest => by simp⟩
  | cons entry before ih =>
    obtain ⟨name, value⟩ := entry
    have later : Unfailing T before := fun e member => unfailing e (List.mem_cons_of_mem _ member)
    rcases assign?_cases (T := T) name value with unknown | ⟨error, fails⟩ | ⟨change, taken⟩
    · -- The name joins those gathered, and the target stays.
      obtain ⟨changed, walk, onward⟩ := ih later target (gathered ++ [name])
      have notKnown : knows T name = false :=
        (assign?_eq_none_iff target name value).1 (unknown target)
      refine ⟨changed, by simpa [knownEntries, notKnown] using walk, fun rest => ?_⟩
      simp only [List.cons_append, bindRest, unknown, addName_eraseDups, onward]
      simp [notKnown]
    · exact absurd fails (unfailing _ List.mem_cons_self error)
    · -- The entry is the first step of the walk.
      obtain ⟨changed, walk, onward⟩ := ih later (change target) gathered
      have known : knows T name = true := knows_of_answered (taken target)
      refine ⟨changed, by simpa [knownEntries, known] using Walk.step (taken target) walk,
        fun rest => ?_⟩
      simp only [List.cons_append, bindRest, taken, onward]
      simp [known]

/-- **The first entry that fails ends the binding**, with its error and with the entries with known
    names before it applied; names that are not known make no difference. -/
theorem bindInto_of_fails {before : Block} {entry : String × Value} {error : BindError}
    (unfailing : Unfailing T before) (fails : Fails T entry error) (target : T) :
    ∃ changed, Walk target (knownEntries T before) changed ∧
      ∀ after, bindInto target (before ++ entry :: after) = ⟨changed, some error⟩ := by
  obtain ⟨changed, walk, onward⟩ := bindRest_append unfailing target []
  refine ⟨changed, walk, fun after => ?_⟩
  have here : bindRest target [] (before ++ entry :: after) = _ := onward (entry :: after)
  rw [bindInto, here]
  simp only [bindRest, fails changed]

/-- **If nothing fails, all entries with known names are applied**, and the other names are the
    error, if there are any. -/
theorem bindInto_of_unfailing {block : Block} (unfailing : Unfailing T block) (target : T) :
    ∃ changed, Walk target (knownEntries T block) changed ∧
      bindInto target block = ⟨changed, if unknownNames T block = [] then none
        else some (.unknownFields (kind T) (unknownNames T block))⟩ := by
  obtain ⟨changed, walk, onward⟩ := bindRest_append unfailing target []
  refine ⟨changed, walk, ?_⟩
  have here : bindRest target [] (block ++ []) = _ := onward []
  rw [List.append_nil, List.nil_append] at here
  rw [bindInto, here, unknownNames]
  simp only [bindRest, List.isEmpty_iff]
  split <;> rfl

end Bindable

end DeployConfig
