/-
  Precedence of the property layers.

  Properties given one by one win over the environment, the environment wins over files, and in each
  of the three the last entry of a key wins (`Source.precedence`).

  1. **Specification**: what each layer gives for a key is said about the arguments, the variables
     and the texts themselves, without the map that collects them.
  2. **The crux** is that the names of environment variables tell the keys of the catalog apart, so
     a variable sets the key that it is named for and no other (`keyOfVariable?_eq_some_iff`).
-/
import Mathlib.Data.List.Forall2
import DeployConfig.Proofs.CommandLine.Source

namespace DeployConfig

/-! ## What the layers give for a key -/

/-- What an argument gives for a key: the text behind its first equals sign, if the text in front of
    the sign, without the white space around it, is the key. -/
def definedBy? (key argument : String) : Option String :=
  if Text.trim (argument.toList.takeWhile (· != '=')) = key.toList then
    some (String.ofList (argument.toList.dropWhile (· != '=')).tail)
  else none

/-- What environment variables give for a key of the catalog: the value of the last one of its
    name. -/
def setByEnvironment? (key : String) (environment : List (String × String)) : Option String :=
  if key ∈ catalog.map CatalogRow.key then environment.reverse.lookup (environmentName key)
    else none

/-- What the texts of files give for a key: the value of its last entry in the last text that has
    one. -/
def setByTexts? (key : String) (texts : List String) : Option String :=
  texts.reverse.findSome? fun text => (Properties.parse text).reverse.lookup key

/-! ## The last entry of a key -/

theorem lookup_reverse_cons {α : Type} (entry : String × α) (rest : List (String × α))
    (key : String) :
    (entry :: rest).reverse.lookup key =
      (rest.reverse.lookup key).or (if key = entry.1 then some entry.2 else none) := by
  rw [List.reverse_cons, List.lookup_append, OrderedMap.lookup_cons, List.lookup_nil]

/-- A map of entries shows the last one of each key. -/
theorem OrderedMap.get?_ofList {α : Type} (entries : List (String × α)) (key : String) :
    (ofList entries).get? key = entries.reverse.lookup key := by
  induction entries with
  | nil => rfl
  | cons entry rest ih => rw [get?_ofList_cons, lookup_reverse_cons, ih]

/-- Without an entry, all other keys keep what they have. -/
theorem OrderedMap.get?_ofList_erase {α : Type} (front : List (String × α)) {entry : String × α}
    (back : List (String × α)) {key : String} (other : key ≠ entry.1) :
    (ofList (front ++ entry :: back)).get? key = (ofList (front ++ back)).get? key := by
  rw [get?_ofList_append, get?_ofList_cons, if_neg other, Option.or_none, get?_ofList_append]

/-! ## Files -/

theorem get?_texts (texts : List String) (key : String) :
    (OrderedMap.ofList (texts.map Properties.parse).flatten).get? key = setByTexts? key texts := by
  rw [setByTexts?]
  induction texts with
  | nil => rfl
  | cons text rest ih =>
    rw [List.map_cons, List.flatten_cons, OrderedMap.get?_ofList_append, ih,
      OrderedMap.get?_ofList, List.reverse_cons, List.findSome?_append, List.findSome?_singleton]

/-! ## The environment -/

/-- **A variable sets the key that it is named for**, and no other. -/
theorem keyOfVariable?_eq_some_iff {name key : String} :
    Properties.keyOfVariable? name = some key ↔
      key ∈ catalog.map CatalogRow.key ∧ environmentName key = name := by
  rw [Properties.keyOfVariable?, Option.map_eq_some_iff]
  constructor
  · rintro ⟨row, found, rfl⟩
    have member : row ∈ catalog := List.mem_of_find?_eq_some found
    have named := List.find?_some found
    exact ⟨List.mem_map.2 ⟨row, member, rfl⟩, beq_iff_eq.1 named⟩
  · rintro ⟨listed, rfl⟩
    obtain ⟨row, member, rfl⟩ := List.mem_map.1 listed
    exact ⟨row, find?_eq_of_mem (fun row : CatalogRow => environmentName row.key)
      distinct_environmentNames member, rfl⟩

/-- The first of some variables counts for the key that it sets, unless a later one does. -/
theorem get?_variableEntries_cons (v : String × String) (rest : List (String × String))
    (key : String) :
    (OrderedMap.ofList ((v :: rest).filterMap Properties.variableEntry?)).get? key =
      ((OrderedMap.ofList (rest.filterMap Properties.variableEntry?)).get? key).or
        (if Properties.keyOfVariable? v.1 = some key then some v.2 else none) := by
  have entry : Properties.variableEntry? v =
      (Properties.keyOfVariable? v.1).map fun own => (own, v.2) := rfl
  cases known : Properties.keyOfVariable? v.1 with
  | none =>
    -- A foreign variable makes no entry at all.
    rw [known, Option.map_none] at entry
    rw [List.filterMap_cons_none entry, if_neg (by simp), Option.or_none]
  | some own =>
    rw [known, Option.map_some] at entry
    rw [List.filterMap_cons_some entry, OrderedMap.get?_ofList_cons]
    simp only [Option.some.injEq, eq_comm]

theorem get?_environment (environment : List (String × String)) (key : String) :
    (OrderedMap.ofList (environment.filterMap Properties.variableEntry?)).get? key =
      setByEnvironment? key environment := by
  induction environment with
  | nil => simp [setByEnvironment?, OrderedMap.get?_ofList]
  | cons v rest ih =>
    rw [get?_variableEntries_cons, ih, setByEnvironment?, setByEnvironment?, lookup_reverse_cons]
    simp only [keyOfVariable?_eq_some_iff]
    by_cases listed : key ∈ catalog.map CatalogRow.key
    · simp only [listed, if_true, true_and]
    · simp only [listed, if_false, false_and, Option.or_none]

/-! ## Properties given one by one -/

theorem splitAtFirst_eq_some {separator : Char} {cs before after : List Char}
    (parted : Text.splitAtFirst separator cs = (before, some after)) :
    cs.takeWhile (· != separator) = before ∧ (cs.dropWhile (· != separator)).tail = after := by
  induction cs generalizing before with
  | nil => cases parted
  | cons c rest ih =>
    rw [Text.splitAtFirst] at parted
    by_cases here : c = separator
    · simp only [here, beq_self_eq_true, if_true, Prod.mk.injEq, Option.some.injEq] at parted
      simp [here, parted]
    · obtain ⟨front, behind, inner⟩ :
          ∃ front behind, Text.splitAtFirst separator rest = (front, behind) := ⟨_, _, rfl⟩
      simp only [beq_iff_eq, here, if_false, inner, Prod.mk.injEq] at parted
      obtain ⟨rfl, rfl⟩ := parted
      obtain ⟨taken, left⟩ := ih inner
      simp [here, taken, left]

/-- An argument that is accepted gives its value for its own key alone. -/
theorem definedBy?_of_define? {argument : String} {define : String × String}
    (accepted : Arguments.define? argument = some define) (key : String) :
    definedBy? key argument = if key = define.1 then some define.2 else none := by
  simp only [Arguments.define?] at accepted
  split at accepted
  · rename_i before after parted
    obtain ⟨taken, left⟩ := splitAtFirst_eq_some parted
    split at accepted
    · cases accepted
    · cases accepted
      -- Keys are compared as characters in one place and as texts in the other.
      have own : Text.trim before = key.toList ↔ key = String.ofList (Text.trim before) := by
        rw [← String.toList_inj, String.toList_ofList, eq_comm]
      simp only [definedBy?, taken, left, own]
  · cases accepted

theorem get?_defines {arguments : List String} {defines : List (String × String)}
    (accepted : List.Forall₂ (fun argument define => Arguments.define? argument = some define)
      arguments defines) (key : String) :
    (OrderedMap.ofList defines).get? key = arguments.reverse.findSome? (definedBy? key) := by
  induction accepted with
  | nil => rfl
  | cons here _ ih =>
    rw [OrderedMap.get?_ofList_cons, ih, List.reverse_cons, List.findSome?_append,
      List.findSome?_singleton, definedBy?_of_define? here]

/-! ## All layers -/

namespace Source

theorem mapM_text_of_readable {s : Surroundings} {paths : List Path} {texts : List String}
    (readable : List.Forall₂ (fun path text => s.files.readText path = .ok text) paths texts) :
    paths.mapM (text s) = .ok texts := by
  induction readable with
  | nil => rfl
  | @cons path written _ _ here _ ih =>
    have first : text s path = .ok written := by
      rw [text, here]
      rfl
    rw [List.mapM_cons, first, ih]
    rfl

/-- **Precedence of the layers.**  If all files of properties can be read and the properties given
    one by one are accepted,

    * the properties have for each key what the last argument for the key gives, or else, if the
      environment is asked for, what the last variable of its name holds, or else what the last
      entry of the key in the last file with one says, or else nothing;
    * a variable sets a key exactly if the catalog has the key and the variable has its name, so it
      never sets two keys or the wrong one;
    * and no entry of a layer counts for another key than its own. -/
theorem precedence {source : Source} {s : Surroundings} {arguments texts : List String}
    (readable : List.Forall₂ (fun path text => s.files.readText path = .ok text)
      source.properties texts)
    (accepted : List.Forall₂ (fun argument define => Arguments.define? argument = some define)
      arguments source.defines) :
    ∃ p, source.collect s = .ok p ∧
      (∀ key, p.get? key = (arguments.reverse.findSome? (definedBy? key)).or
        ((if source.fromEnvironment then setByEnvironment? key s.environment else none).or
          (setByTexts? key texts))) ∧
      (∀ name key, Properties.keyOfVariable? name = some key ↔
        key ∈ catalog.map CatalogRow.key ∧ environmentName key = name) ∧
      ∀ front entry back, source.entries s = .ok (front ++ entry :: back) →
        ∀ key, key ≠ entry.1 → p.get? key = (OrderedMap.ofList (front ++ back)).get? key := by
  have laid : source.entries s = .ok ((texts.map Properties.parse).flatten ++
      source.environmentEntries s ++ source.defines) := by
    rw [entries, mapM_text_of_readable readable]
    rfl
  refine ⟨OrderedMap.ofList _, by rw [collect_eq, laid]; rfl, fun key => ?_,
    fun name key => keyOfVariable?_eq_some_iff, fun front entry back parted key other => ?_⟩
  · have fromEnvironment : (OrderedMap.ofList (source.environmentEntries s)).get? key =
        if source.fromEnvironment then setByEnvironment? key s.environment else none := by
      rw [environmentEntries]
      split
      · exact get?_environment s.environment key
      · rfl
    rw [OrderedMap.get?_ofList_append, OrderedMap.get?_ofList_append, get?_texts, fromEnvironment,
      get?_defines accepted]
  · rw [laid] at parted
    rw [Except.ok.inj parted, OrderedMap.get?_ofList_erase front back other]

/-- Two files, three variables and two arguments, with keys that occur again in each layer. -/
theorem precedence_overlapping :
    let low := "jkube.profile=a\njkube.namespace=a\njkube.profile = b\n"
    let high := "jkube.namespace: b"
    let s : Surroundings := {
      files := fun path => .file (some (if path.text = "low" then low else high))
      workingDirectory := ⟨"/work"⟩
      environment := [("JKUBE_NAMESPACE", "c"), ("HOME", "/"), ("JKUBE_NAMESPACE", "d")] }
    let source : Source := {
      properties := [⟨"low"⟩, ⟨"high"⟩], fromEnvironment := true
      defines := [("jkube.offline", "e=f"), ("jkube.offline", "")] }
    ∃ p, source.collect s = .ok p ∧ p.get? "jkube.offline" = some "" ∧
      p.get? "jkube.namespace" = some "d" ∧ p.get? "jkube.profile" = some "b" ∧
      p.get? "HOME" = none := by
  intro low high s source
  have readable : List.Forall₂ (fun path text => s.files.readText path = .ok text)
      source.properties [low, high] := .cons rfl (.cons rfl .nil)
  have accepted : List.Forall₂ (fun argument define => Arguments.define? argument = some define)
      [" jkube.offline\t=e=f", "jkube.offline="] source.defines := .cons rfl (.cons rfl .nil)
  obtain ⟨p, collected, given, -, -⟩ := precedence readable accepted
  refine ⟨p, collected, ?_, ?_, ?_, ?_⟩ <;> rw [given] <;> decide +kernel

end Source

end DeployConfig
