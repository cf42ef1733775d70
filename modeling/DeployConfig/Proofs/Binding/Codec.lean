/-
  Codecs that read what they write.

  A codec is lawful if every written value is read back as it was, and exact if whatever it reads
  is written as it stood.  Lists, maps and nested blocks are lawful only: a command may be written
  as one text and a map may repeat a name.
-/
import Mathlib.Data.List.Nodup
import DeployConfig.Binding.Slot
import DeployConfig.Proofs.Steps

namespace DeployConfig

/-! ## Maps from their own entries -/

namespace OrderedMap

variable {α : Type}

/-- Two maps with the same entries are the same map. -/
theorem ext_entries {m n : OrderedMap α} (h : m.entries = n.entries) : m = n := by
  cases m
  cases n
  cases h
  rfl

/-- A key above all others is set at the end. -/
theorem insertEntry_of_above {key : String} {value : α} {entries : List (String × α)}
    (above : ∀ entry ∈ entries, entry.1 < key) :
    insertEntry key value entries = entries ++ [(key, value)] := by
  induction entries with
  | nil => rfl
  | cons first rest ih =>
    have less := above first List.mem_cons_self
    rw [insertEntry, if_neg (String.lt_asymm less),
      if_neg (fun same => String.lt_irrefl _ (same ▸ less)),
      ih fun entry member => above entry (List.mem_cons_of_mem _ member), List.cons_append]

/-- Entries in increasing key order, all above those of a map, are appended to it. -/
theorem entries_insertAll {map : OrderedMap α} {more : List (String × α)}
    (ordered : (map.entries ++ more).Pairwise (fun a b => a.1 < b.1)) :
    (map.insertAll more).entries = map.entries ++ more := by
  induction more generalizing map with
  | nil => exact (List.append_nil map.entries).symm
  | cons entry rest ih =>
    -- The next key is above all that are set, so it is set at the end.
    have above : ∀ e ∈ map.entries, e.1 < entry.1 := fun e member =>
      (List.pairwise_append.1 ordered).2.2 e member entry List.mem_cons_self
    have inserted : (map.insert entry.1 entry.2).entries = map.entries ++ [entry] :=
      insertEntry_of_above above
    rw [insertAll_cons, ih (by rw [inserted]; simpa using ordered), inserted]
    simp

/-- A map is the map of its own entries. -/
theorem ofList_toList (map : OrderedMap α) : ofList map.toList = map :=
  ext_entries (by
    show (empty.insertAll map.entries).entries = map.entries
    rw [entries_insertAll (by simpa [empty] using map.increasing)]
    rfl)

/-- A map without entries is the empty one. -/
theorem eq_empty_of_isEmpty {map : OrderedMap α} (h : map.isEmpty = true) : map = empty :=
  ext_entries (List.isEmpty_iff.1 h)

end OrderedMap

/-! ## Enumerations -/

namespace Enumeration

/-- An enumeration whose names are read as they are written, and all listed. -/
class Lawful (α : Type) [Enumeration α] : Prop where
  ofName?_name : ∀ a : α, ofName? (name a) = some a
  name_of_ofName? : ∀ {text : String} {a : α}, ofName? text = some a → name a = text
  expected_eq : ∃ members : List α, (∀ a, a ∈ members) ∧ expected α = members.map name

export Lawful (ofName?_name name_of_ofName?)

instance : Lawful BuildStrategy where
  ofName?_name a := by cases a <;> rfl
  name_of_ofName? {text a} named := by
    simp only [ofName?] at named
    split at named <;> cases named <;> rfl
  expected_eq := ⟨[.s2i, .docker, .jib, .buildpacks], fun a => by cases a <;> decide, rfl⟩

instance : Lawful ResourceFileType where
  ofName?_name a := by cases a <;> rfl
  name_of_ofName? {text a} named := by
    simp only [ofName?] at named
    split at named <;> cases named <;> rfl
  expected_eq := ⟨[.json, .yaml], fun a => by cases a <;> decide, rfl⟩

/-- The texts that name members are those that messages list. -/
theorem exists_ofName?_iff {α : Type} [Enumeration α] [Lawful α] {text : String} :
    (∃ a : α, ofName? text = some a) ↔ text ∈ expected α := by
  obtain ⟨members, all, listed⟩ := Lawful.expected_eq (α := α)
  rw [listed, List.mem_map]
  constructor
  · rintro ⟨a, named⟩
    exact ⟨a, all a, name_of_ofName? named⟩
  · rintro ⟨a, -, rfl⟩
    exact ⟨a, ofName?_name a⟩

end Enumeration

/-! ## Codecs -/

namespace Codec

/-- A codec that reads back every value that it writes. -/
class Lawful {α : Type} (codec : Codec α) : Prop where
  read_write : ∀ (kind name : String) (a : α), codec.read ⟨kind, name, codec.write a⟩ = .ok a

/-- A codec that writes whatever it reads as it stood. -/
class Exact {α : Type} (codec : Codec α) : Prop where
  write_of_read : ∀ {f : Field} {a : α}, codec.read f = .ok a → codec.write a = f.value

theorem read_write {α : Type} (codec : Codec α) [codec.Lawful] (kind name : String) (a : α) :
    codec.read ⟨kind, name, codec.write a⟩ = .ok a := Lawful.read_write kind name a

/-- A codec that is lawful and exact reads a value as what it would write as that value. -/
theorem read_eq_ok_iff {α : Type} (codec : Codec α) [codec.Lawful] [codec.Exact] {f : Field}
    {a : α} :
    codec.read f = .ok a ↔ codec.write a = f.value := by
  constructor
  · exact Exact.write_of_read
  · intro written
    obtain ⟨kind, name, value⟩ := f
    cases written
    exact codec.read_write kind name a

/-- A lawful codec writes different values differently. -/
theorem write_injective {α : Type} (codec : Codec α) [codec.Lawful] :
    Function.Injective codec.write := fun a b same => by
  have read := codec.read_write "" "" a
  rw [same, codec.read_write] at read
  exact (Except.ok.inj read).symm

/-- Written items that are read back one by one are read back as a list. -/
theorem mapM_map_eq_pure {m : Type → Type} [Monad m] [LawfulMonad m] {α β : Type} {read : β → m α}
    {write : α → β} (each : ∀ a, read (write a) = pure a) (list : List α) :
    (list.map write).mapM read = pure list := by
  have same : read ∘ write = pure := funext each
  rw [List.mapM_map, same]
  exact (List.mapM_pure (f := id)).trans (by rw [List.map_id])

instance : string.Lawful := ⟨fun _ _ _ => rfl⟩

instance : boolean.Lawful := ⟨fun _ _ _ => rfl⟩

instance : path.Lawful := ⟨fun _ _ _ => rfl⟩

/-- Integers of a width within 64 bits are written without loss. -/
theorem integer_lawful {α : Type} [FixedWidth α]
    (low : FixedWidth.least Int64 ≤ FixedWidth.least α)
    (high : FixedWidth.greatest α ≤ FixedWidth.greatest Int64) : (integer α).Lawful where
  read_write kind name a := by
    have least := FixedWidth.least_le a
    have greatest := FixedWidth.le_greatest a
    have kept : (Int64.ofInt (FixedWidth.toInt a)).toInt = FixedWidth.toInt a :=
      FixedWidth.toInt_ofInt (α := Int64) _ (by omega) (by omega)
    simp only [integer, Writable.ofInteger, Field.integer, kept, narrow_toInt]

instance : (integer Int32).Lawful := integer_lawful (by decide) (by decide)

instance : (integer UInt32).Lawful := integer_lawful (by decide) (by decide)

instance {α : Type} [Enumeration α] [Enumeration.Lawful α] : (choice α).Lawful where
  read_write kind name a := by
    simp only [choice, Field.choice, Enumeration.parse, Enumeration.ofName?_name]

/-- A list of texts is read back by any reader of items that takes each text as it is. -/
theorem items_ofList (kind name : String) (expected : Expectation)
    {read : Value → Option String} (each : ∀ text, read (.string text) = some text)
    (texts : List String) :
    Field.items ⟨kind, name, Writable.ofList .string texts⟩ expected read = .ok texts := by
  have all : (texts.map Value.string).mapM read = some texts := mapM_map_eq_pure each texts
  simp only [Field.items, Writable.ofList, all]

instance : strings.Lawful where
  read_write kind name texts := items_ofList kind name .listOfStrings (fun _ => rfl) texts

instance : ports.Lawful where
  read_write kind name texts := items_ofList kind name .listOfPorts (fun _ => rfl) texts

instance : command.Lawful where
  read_write := strings.read_write

instance : stringMap.Lawful where
  read_write kind name texts := by
    have all : (texts.toList.map fun entry => (entry.1, Value.string entry.2)).mapM
        (fun entry => entry.2.scalarText?.map fun text => (entry.1, text)) = some texts.toList := by
      refine mapM_map_eq_pure ?_ texts.toList
      intro entry
      rfl
    simp only [stringMap, Writable.ofMap, Field.stringMap, all]
    show Except.ok (OrderedMap.ofList texts.toList) = _
    rw [OrderedMap.ofList_toList]

instance : string.Exact where
  write_of_read {f a} h := by
    obtain ⟨kind, name, value⟩ := f
    cases value <;> first | cases h; rfl | cases h

instance : boolean.Exact where
  write_of_read {f a} h := by
    obtain ⟨kind, name, value⟩ := f
    cases value <;> first | cases h; rfl | cases h

instance : path.Exact where
  write_of_read {f a} h := by
    obtain ⟨kind, name, value⟩ := f
    cases value <;> first | cases h; rfl | cases h

instance {α : Type} [FixedWidth α] : (integer α).Exact where
  write_of_read {f a} h := by
    obtain ⟨kind, name, value⟩ := f
    cases value with
    | integer number =>
      simp only [integer, Field.integer] at h
      split at h
      · rename_i n narrowed
        cases h
        show Value.integer (Int64.ofInt (FixedWidth.toInt a)) = _
        rw [narrow_eq_ok_iff.1 narrowed, Int64.ofInt_toInt]
      · cases h
    | _ => cases h

instance {α : Type} [Enumeration α] [Enumeration.Lawful α] : (choice α).Exact where
  write_of_read {f a} h := by
    obtain ⟨kind, name, value⟩ := f
    cases value with
    | string text =>
      simp only [choice, Field.choice, Enumeration.parse] at h
      split at h
      · rename_i b parsed
        cases h
        split at parsed
        · rename_i found
          cases parsed
          show Value.string (Enumeration.name a) = _
          rw [Enumeration.name_of_ofName? found]
        · cases parsed
      · cases h
    | _ => cases h

/-! ## Blocks -/

/-- Blocks as values are read as these blocks. -/
theorem mapM_block? (blocks : List Block) :
    (blocks.map Value.block).mapM Field.block? = some blocks := by
  refine mapM_map_eq_pure ?_ blocks
  intro block
  rfl

/-- Values that are read item by item as blocks are blocks. -/
theorem exists_blocks_of_mapM {α : Type} {read : Block → Except BindError α}
    {otherwise : Except BindError α} (failure : ∀ a, otherwise ≠ .ok a) {values : List Value}
    {items : List α}
    (bound : (values.mapM fun value => match Field.block? value with
      | some entries => read entries
      | none => otherwise) = .ok items) :
    ∃ blocks : List Block, values = blocks.map Value.block ∧ blocks.mapM read = .ok items := by
  induction values generalizing items with
  | nil =>
    cases bound
    exact ⟨[], rfl, rfl⟩
  | cons value rest ih =>
    rw [List.mapM_cons] at bound
    obtain ⟨item, first, bound⟩ := except_bind_eq_ok_iff.1 bound
    obtain ⟨others, later, same⟩ := except_bind_eq_ok_iff.1 bound
    cases same
    obtain ⟨blocks, rfl, boundRest⟩ := ih later
    cases value with
    | block entries =>
      refine ⟨entries :: blocks, rfl, ?_⟩
      rw [List.mapM_cons, show read entries = .ok item from first, boundRest]
      rfl
    | string _ | integer _ | float _ | boolean _ | list _ => exact absurd first (failure item)

variable {T : Type} [Bindable T] [Writable T] {kind name : String} {value : Value}

/-- What a field that is one block reads is what its block binds to. -/
theorem exists_block_of_read {a : T} (read : (nested T).read ⟨kind, name, value⟩ = .ok a) :
    ∃ entries, value = .block entries ∧ Bindable.bind T entries = .ok a := by
  cases value with
  | block entries => exact ⟨entries, rfl, read⟩
  | string _ | integer _ | float _ | boolean _ | list _ => cases read

/-- What a field that is a list of blocks reads is what its blocks bind to. -/
theorem exists_blocks_of_read {items : List T}
    (read : (nestedList T).read ⟨kind, name, value⟩ = .ok items) :
    ∃ blocks, value = .list (blocks.map Value.block) ∧ Bindable.bindAll T blocks = .ok items := by
  cases value with
  | list values =>
    obtain ⟨blocks, rfl, bound⟩ := exists_blocks_of_mapM (fun _ other => by cases other) read
    exact ⟨blocks, rfl, bound⟩
  | string _ | integer _ | float _ | boolean _ | block _ => cases read

end Codec

end DeployConfig
