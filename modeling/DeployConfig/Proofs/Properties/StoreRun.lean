/-
  Runs over a property store.

  A store takes in values in six ways, and some of these gather a map of their own before they lay
  it over the store.  None of that shows: whatever a run consists of, the store holds what it would
  hold if all pairs had been written one by one (`last_written_wins`).

  1. **Specification**: `Step.writes` says which pairs a step contributes, with those of a key that
     occurs again, and without a word about maps.
  2. **One step** writes its pairs (`Step.apply_eq`).  The crux is the environment: a variable names
     one key of the catalog at most, so looking for the first one that fits finds all.
  3. **The run** writes the pairs of all steps (`run_eq`), by induction on the steps.  What a store
     shows, lists and counts follows from the pairs alone.
-/
import Mathlib.Data.List.Dedup
import DeployConfig.Proofs.CommandLine.Precedence
import DeployConfig.Proofs.Text.Bytes

namespace DeployConfig

/-! ## Maps after writes -/

namespace OrderedMap

variable {α : Type}

/-- Of pairs that are written, the last one of a key counts, and otherwise what was there. -/
theorem get?_insertAll_eq_lookup (map : OrderedMap α) (written : List (String × α)) (key : String) :
    (map.insertAll written).get? key = (written.reverse.lookup key).or (map.get? key) := by
  rw [get?_insertAll, get?_ofList]

theorem lookup_isSome_iff {entries : List (String × α)} {key : String} :
    (entries.lookup key).isSome ↔ key ∈ entries.map Prod.fst := by
  rw [List.lookup_isSome_iff, List.mem_map]
  exact exists_congr fun entry => and_congr_right fun _ => by rw [beq_iff_eq, eq_comm]

/-- A map holds one entry for each key that it held or that was written. -/
theorem size_insertAll (map : OrderedMap α) (written : List (String × α)) :
    (map.insertAll written).size = ((map.toList ++ written).map Prod.fst).dedup.length := by
  have sameKeys (key : String) : key ∈ (map.insertAll written).entries.map Prod.fst ↔
      key ∈ ((map.toList ++ written).map Prod.fst).dedup := by
    have reversed : key ∈ written.reverse.map Prod.fst ↔ key ∈ written.map Prod.fst := by
      rw [List.map_reverse, List.mem_reverse]
    rw [List.mem_dedup, List.map_append, List.mem_append, ← lookup_isSome_iff, ← get?,
      get?_insertAll_eq_lookup, Option.isSome_or, Bool.or_eq_true, lookup_isSome_iff, reversed,
      get?, lookup_isSome_iff, or_comm]
    rfl
  have perm : ((map.insertAll written).entries.map Prod.fst).Perm
      ((map.toList ++ written).map Prod.fst).dedup :=
    (List.perm_ext_iff_of_nodup (distinct_keys _) (List.nodup_dedup _)).2 sameKeys
  rw [← perm.length_eq, List.length_map, size]

end OrderedMap

namespace Properties

/-! ## Steps -/

/-- One way to take in values. -/
inductive Step where
  /-- A value is set in place. -/
  | set (key value : String)
  /-- A value is set while the store is built, and the store is handed on. -/
  | adding (key value : String)
  | merge (overlay : Properties)
  | extend (pairs : List (String × String))
  /-- The environment is picked over, and what is found is merged. -/
  | fromEnvironment (environment : List (String × String))
  /-- A file is loaded and merged. -/
  | load (files : Files) (path : Path)

/-- The store after a step.  A file that cannot be read is not merged. -/
def Step.apply (p : Properties) : Step → Properties
  | .set key value => p.insert key value
  | .adding key value => p.insert key value
  | .merge overlay => p.merge overlay
  | .extend pairs => p.insertAll pairs
  | .fromEnvironment environment => p.merge (ofEnvironment environment)
  | .load files path =>
    match files.readText path with
    | .ok text => p.merge (ofText text)
    | .error _ => p

/-- The store after some steps in turn. -/
def run (p : Properties) (steps : List Step) : Properties := steps.foldl Step.apply p

/-- The keys of the catalog that are read from variables of a name. -/
def keysNamed (name : String) : List String :=
  (catalog.map CatalogRow.key).filter fun key => environmentName key = name

/-- The pairs that a step writes, in order. -/
def Step.writes : Step → List (String × String)
  | .set key value => [(key, value)]
  | .adding key value => [(key, value)]
  | .merge overlay => overlay.toList
  | .extend pairs => pairs
  | .fromEnvironment environment =>
    environment.flatMap fun v => (keysNamed v.1).map fun key => (key, v.2)
  | .load files path =>
    match files.readText path with
    | .ok text => parse text
    | .error _ => []

/-! ## One step -/

/-- A variable names one key of the catalog at most. -/
theorem keysNamed_eq (name : String) : keysNamed name = (keyOfVariable? name).toList := by
  have distinct : (keysNamed name).Nodup :=
    (List.Nodup.of_map environmentName (by
      rw [List.map_map]
      exact distinct_environmentNames)).filter _
  have named (key : String) : key ∈ keysNamed name ↔ keyOfVariable? name = some key := by
    rw [keyOfVariable?_eq_some_iff, keysNamed, List.mem_filter, decide_eq_true_eq]
  cases known : keyOfVariable? name with
  | none =>
    refine List.eq_nil_iff_forall_not_mem.2 fun key member => ?_
    rw [named, known] at member
    cases member
  | some own =>
    -- The keys that fit are distinct and each is the one that is found, so it is the only one.
    refine List.perm_singleton.1 ((List.perm_ext_iff_of_nodup distinct (by simp)).2 fun key => ?_)
    rw [named, known, Option.some.injEq, List.mem_singleton, eq_comm]

/-- The environment gives the pairs of the variables that name a key. -/
theorem ofEnvironment_eq (environment : List (String × String)) :
    ofEnvironment environment = OrderedMap.ofList (Step.fromEnvironment environment).writes := by
  rw [ofEnvironment, Step.writes, List.filterMap_eq_flatMap_toList]
  simp only [keysNamed_eq, Option.toList_map]

/-- **A step writes its pairs** one by one. -/
theorem Step.apply_eq (p : Properties) (step : Step) : step.apply p = p.insertAll step.writes := by
  cases step with
  | set | adding | merge | extend => rfl
  | fromEnvironment environment => rw [apply, ofEnvironment_eq, merge_ofList]
  | load files path =>
    simp only [apply, writes]
    cases files.readText path with
    | ok text => exact merge_ofList p (parse text)
    | error => rfl

/-! ## Runs -/

/-- **A run writes the pairs of its steps**, one after the other. -/
theorem run_eq (p : Properties) (steps : List Step) :
    p.run steps = p.insertAll (steps.flatMap Step.writes) := by
  induction steps generalizing p with
  | nil => rfl
  | cons step rest ih =>
    show (step.apply p).run rest = _
    rw [ih, step.apply_eq, List.flatMap_cons, OrderedMap.insertAll_append]

/-- **The last pair that is written wins**, over whole runs.  Let a store take in values by any
    steps.  It holds what it would hold if the pairs of these steps had been written one by one, in
    the order of the steps: for each key the value that was written last, or else the one that was
    there.  It lists what it shows, the UTF-8 bytes of its keys strictly increase, and it counts the
    distinct keys that were there or were written. -/
theorem last_written_wins (start : Properties) (steps : List Step) :
    let written := steps.flatMap Step.writes
    let final := start.run steps
    final = written.foldl (fun p pair => p.insert pair.1 pair.2) start ∧
    (∀ key, final.get? key = (written.reverse.lookup key).or (start.get? key)) ∧
    (∀ key value, (key, value) ∈ final.toList ↔ final.get? key = some value) ∧
    (final.toList.map fun pair => Text.bytes pair.1).Pairwise (· < ·) ∧
    final.size = ((start.toList ++ written).map Prod.fst).dedup.length := by
  intro written final
  have flat : final = start.insertAll written := run_eq start steps
  refine ⟨flat, fun key => ?_, fun key value => OrderedMap.mem_entries_iff, ?_, ?_⟩
  · rw [flat, OrderedMap.get?_insertAll_eq_lookup]
  · exact List.pairwise_map.2 (final.increasing.imp Text.bytes_lt)
  · rw [flat, OrderedMap.size_insertAll]

/-- A file with a key that occurs again, and a variable that another step writes over. -/
example : (run .empty [
    .load (fun _ => .file (some "b=1\na=2\nb=3")) ⟨"low"⟩, .set "a" "4",
    .fromEnvironment [("JKUBE_OFFLINE", "5")], .merge (.ofList [("jkube.offline", "6")])]).toList =
      [("a", "4"), ("b", "3"), ("jkube.offline", "6")] := by
  decide +kernel

end Properties

end DeployConfig
