/-
  Layers of properties.

  A map shows, for every key, the last of all the values that were set for it, and nothing else can
  be told from it (`OrderedMap.ext_get?`).  So layers laid over one another, however many, are all
  their entries set one after the other (`Properties.merge_ofList`).  Whether a value is blank
  is not asked before the layers are one.
-/
import DeployConfig.Proofs.Binding.Codec
import DeployConfig.Proofs.Binding.Walk
import DeployConfig.Settings.Resolve

namespace DeployConfig

/-! ## What a map shows -/

namespace OrderedMap

variable {α : Type}

/-- Of entries set in a map, the last one of a key decides, and otherwise the map does. -/
theorem get?_insertAll (map : OrderedMap α) (entries : List (String × α)) (key : String) :
    (map.insertAll entries).get? key = ((ofList entries).get? key).or (map.get? key) := by
  induction entries generalizing map with
  | nil => rfl
  | cons entry rest ih =>
    -- Both sides set the first entry, one in the map and one in the empty map.
    show ((map.insert entry.1 entry.2).insertAll rest).get? key =
      (((empty.insert entry.1 entry.2).insertAll rest).get? key).or _
    rw [ih, ih (empty.insert entry.1 entry.2), Option.or_assoc, get?_insert, get?_insert]
    congr 1
    split <;> rfl

/-- Of two lists of entries one after the other, the second one decides about its keys. -/
theorem get?_ofList_append (front back : List (String × α)) (key : String) :
    (ofList (front ++ back)).get? key = ((ofList back).get? key).or ((ofList front).get? key) := by
  rw [ofList, insertAll_append, get?_insertAll]
  rfl

theorem get?_ofList_cons (entry : String × α) (rest : List (String × α)) (key : String) :
    (ofList (entry :: rest)).get? key =
      ((ofList rest).get? key).or (if key = entry.1 then some entry.2 else none) := by
  rw [ofList, insertAll_cons, get?_insertAll, get?_insert, get?_empty]

/-- A key that no entry has is not set. -/
theorem get?_ofList_of_absent {entries : List (String × α)} {key : String}
    (absent : ∀ entry ∈ entries, entry.1 ≠ key) : (ofList entries).get? key = none := by
  induction entries with
  | nil => rfl
  | cons entry rest ih =>
    rw [get?_ofList_cons, if_neg (Ne.symm (absent entry List.mem_cons_self)), Option.or_none]
    exact ih fun other member => absent other (List.mem_cons_of_mem _ member)

theorem distinct_keys (map : OrderedMap α) : (map.entries.map Prod.fst).Nodup := by
  refine List.pairwise_map.2 (map.increasing.imp fun {a b} less same => ?_)
  rw [same] at less
  exact String.lt_irrefl b.1 less

/-- The entries of a map are the values that it shows. -/
theorem mem_entries_iff {map : OrderedMap α} {key : String} {value : α} :
    (key, value) ∈ map.entries ↔ map.get? key = some value := by
  refine ⟨lookup_eq_of_mem map.distinct_keys, fun shown => ?_⟩
  obtain ⟨before, after, parted, -⟩ := List.lookup_eq_some_iff.1 shown
  rw [parted]
  exact List.mem_append_right _ List.mem_cons_self

/-- Maps that show the same are the same. -/
theorem ext_get? {m n : OrderedMap α} (same : ∀ key, m.get? key = n.get? key) : m = n := by
  -- The entries are the same up to their order, and the order of keys leaves only one.
  have perm : m.entries.Perm n.entries :=
    (List.perm_ext_iff_of_nodup m.distinct_keys.of_map n.distinct_keys.of_map).2 fun entry => by
      rw [mem_entries_iff, mem_entries_iff, same]
  have antisymm (a b : String × α) (_ : a ∈ m.entries) (_ : b ∈ n.entries) (less : a.1 < b.1)
      (greater : b.1 < a.1) : a = b := absurd greater (String.lt_asymm less)
  exact ext_entries (perm.eq_of_pairwise antisymm m.increasing n.increasing)

end OrderedMap

namespace Properties

/-! ## Layers -/

/-- **A layer laid over properties sets its entries in them.** -/
theorem merge_ofList (p : Properties) (entries : List (String × String)) :
    p.merge (OrderedMap.ofList entries) = p.insertAll entries :=
  OrderedMap.ext_get? fun key => by
    rw [merge, OrderedMap.get?_insertAll, OrderedMap.ofList_toList, OrderedMap.get?_insertAll]

/-- Layers laid over one another have the entries of all of them. -/
theorem foldl_merge_ofList (entries : List (String × String))
    (layers : List (List (String × String))) :
    (layers.map OrderedMap.ofList).foldl merge (OrderedMap.ofList entries) =
      OrderedMap.ofList (entries ++ layers.flatten) := by
  induction layers generalizing entries with
  | nil => rw [List.flatten_nil, List.append_nil]; rfl
  | cons layer rest ih =>
    have laid : merge (OrderedMap.ofList entries) (OrderedMap.ofList layer) =
        OrderedMap.ofList (entries ++ layer) := by
      rw [merge_ofList, OrderedMap.ofList, OrderedMap.ofList, OrderedMap.insertAll_append]
    rw [List.map_cons, List.foldl_cons, laid, ih, List.flatten_cons, List.append_assoc]

/-! ## Overrides -/

theorem override?_of_blank {p : Properties} {key value : String} (here : p.get? key = some value)
    (blank : Text.blank value = true) : p.override? key = none := by
  rw [override?, here, Option.filter_some, blank]
  rfl

theorem override?_congr {p q : Properties} {key : String} (same : p.get? key = q.get? key) :
    p.override? key = q.override? key := by
  rw [override?, override?, same]

/-- Of the value of a key, only whether and how it overrides counts for a choice. -/
theorem pick_congr {β : Type} {p q : Properties} {key : String}
    (same : p.override? key = q.override? key) (use : String → β) (otherwise : β) :
    p.pick key use otherwise = q.pick key use otherwise := by
  rw [pick, pick, same]

end Properties

end DeployConfig
