/-
  Maps from text to values, in key order.

  The entries stand in a list whose keys strictly increase, so each key occurs once, two maps with
  the same entries are the same map, and listing a map needs no sorting.  The order of keys is the
  order of their characters, which is also the order of their UTF-8 bytes.
-/

namespace DeployConfig

/-- A finite map from text to values, with its entries in increasing key order. -/
structure OrderedMap (α : Type) where
  entries : List (String × α) := []
  increasing : entries.Pairwise (fun a b => a.1 < b.1) := by exact List.Pairwise.nil
  deriving DecidableEq

namespace OrderedMap

variable {α : Type}

/-- The map without entries. -/
def empty : OrderedMap α := {}

instance : Inhabited (OrderedMap α) := ⟨empty⟩

/-- Entries with one key set to a value: an entry of that key is replaced, and otherwise a new one
    takes its place in the order. -/
def insertEntry (key : String) (value : α) : List (String × α) → List (String × α)
  | [] => [(key, value)]
  | entry :: rest =>
    if key < entry.1 then (key, value) :: entry :: rest
    else if key = entry.1 then (key, value) :: rest
    else entry :: insertEntry key value rest

/-- Setting a key adds no key but that one. -/
theorem mem_insertEntry {key : String} {value : α} {entries : List (String × α)}
    {entry : String × α} (h : entry ∈ insertEntry key value entries) :
    entry = (key, value) ∨ entry ∈ entries := by
  induction entries with
  | nil => simp_all [insertEntry]
  | cons first rest ih =>
    simp only [insertEntry] at h
    split at h
    · simpa using h
    · split at h
      · rcases List.mem_cons.1 h with h | h <;> simp [h]
      · rcases List.mem_cons.1 h with h | h
        · simp [h]
        · rcases ih h with h | h <;> simp [h]

/-- Setting a key keeps the keys in increasing order. -/
theorem pairwise_insertEntry (key : String) (value : α) {entries : List (String × α)}
    (h : entries.Pairwise (fun a b => a.1 < b.1)) :
    (insertEntry key value entries).Pairwise (fun a b => a.1 < b.1) := by
  induction entries with
  | nil => simp [insertEntry]
  | cons first rest ih =>
    obtain ⟨below, ordered⟩ := List.pairwise_cons.1 h
    simp only [insertEntry]
    split
    · rename_i less
      refine List.pairwise_cons.2 ⟨?_, h⟩
      intro entry member
      rcases List.mem_cons.1 member with rfl | member
      · exact less
      · exact String.lt_trans less (below entry member)
    · split
      · rename_i same
        exact List.pairwise_cons.2 ⟨fun entry member => same ▸ below entry member, ordered⟩
      · rename_i notLess different
        refine List.pairwise_cons.2 ⟨?_, ih ordered⟩
        intro entry member
        have later : first.1 < key := by
          rcases String.le_total key first.1 with le | le
          · exact absurd (String.le_antisymm le (String.not_lt.1 notLess)) different
          · exact String.not_le.1 fun le' => different (String.le_antisymm le' le)
        rcases mem_insertEntry member with rfl | member
        · exact later
        · exact below entry member

/-- The map with one key set to a value. -/
def insert (map : OrderedMap α) (key : String) (value : α) : OrderedMap α :=
  ⟨insertEntry key value map.entries, pairwise_insertEntry key value map.increasing⟩

/-- The map with every entry of a list set in turn, so that the last value of a key stays. -/
def insertAll (map : OrderedMap α) (entries : List (String × α)) : OrderedMap α :=
  entries.foldl (fun m entry => m.insert entry.1 entry.2) map

/-- The map of a list of entries, where the last value of a key stays. -/
def ofList (entries : List (String × α)) : OrderedMap α := empty.insertAll entries

/-- The entries in increasing key order. -/
def toList (map : OrderedMap α) : List (String × α) := map.entries

/-- The value of a key, if it is set. -/
def get? (map : OrderedMap α) (key : String) : Option α := map.entries.lookup key

/-- The number of keys that are set. -/
def size (map : OrderedMap α) : Nat := map.entries.length

/-- Whether no key is set. -/
def isEmpty (map : OrderedMap α) : Bool := map.entries.isEmpty

/-! ## What setting a key does to the view -/

theorem lookup_cons (other : String) (entry : String × α) (rest : List (String × α)) :
    (entry :: rest).lookup other = if other = entry.1 then some entry.2 else rest.lookup other := by
  obtain ⟨key, value⟩ := entry
  rw [List.lookup_cons]
  by_cases h : other = key
  · simp [h]
  · simp [h, beq_false_of_ne h]

theorem lookup_insertEntry (key : String) (value : α) (other : String)
    (entries : List (String × α)) :
    (insertEntry key value entries).lookup other =
      if other = key then some value else entries.lookup other := by
  induction entries with
  | nil => simp [insertEntry, lookup_cons]
  | cons first rest ih =>
    simp only [insertEntry]
    split
    · exact lookup_cons ..
    · split
      · rename_i same
        simp only [lookup_cons]
        grind
      · rename_i notLess different
        simp only [lookup_cons, ih]
        grind

/-- Setting a key gives it the value and leaves the other keys alone. -/
@[simp] theorem get?_insert (map : OrderedMap α) (key : String) (value : α) (other : String) :
    (map.insert key value).get? other = if other = key then some value else map.get? other :=
  lookup_insertEntry key value other map.entries

@[simp] theorem get?_empty (key : String) : (empty : OrderedMap α).get? key = none := rfl

@[simp] theorem insertAll_cons (map : OrderedMap α) (entry : String × α)
    (rest : List (String × α)) :
    map.insertAll (entry :: rest) = (map.insert entry.1 entry.2).insertAll rest := rfl

/-- Setting two lists of entries one after the other is setting them joined. -/
theorem insertAll_append (map : OrderedMap α) (first second : List (String × α)) :
    map.insertAll (first ++ second) = (map.insertAll first).insertAll second := by
  simp [insertAll, List.foldl_append]

end OrderedMap

end DeployConfig
