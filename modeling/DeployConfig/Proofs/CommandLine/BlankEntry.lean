/-
  What a blank entry of a property layer does.

  A blank property counts as unset, but only once all layers are one.  So a blank entry does
  nothing where no other entry has its key, where a later one has it, or where the last one before
  it is blank as well; but the last entry of a key, if it is blank, takes the place of a value that
  an earlier entry gives, and the setting falls through to what is declared
  (`Source.settings_without_blank_entry`).

  1. **The crux** is one entry that is left out of a list of entries.
  2. **Layers**: an entry that is left out of one layer is left out of all the entries, or sets
     nothing.
-/
import DeployConfig.Proofs.CommandLine.Source
import DeployConfig.Proofs.Extension.Resolution

namespace DeployConfig

/-! ## One entry left out -/

/-- Properties that differ from others at most at a key that is blank there override alike, or have
    a value of that key that is not blank. -/
theorem Properties.override?_or_uncovered {p p' : Properties} {key value : String}
    (here : p.get? key = some value) (blank : Text.blank value = true)
    (others : ∀ other, other ≠ key → p'.get? other = p.get? other) :
    (∀ k, p'.override? k = p.override? k) ∨
      ∃ hidden, p'.get? key = some hidden ∧ Text.blank hidden = false := by
  have passed : p.override? key = none := override?_of_blank here blank
  cases found : p'.override? key with
  | none =>
    refine .inl fun k => ?_
    by_cases same : k = key
    · rw [same, found, passed]
    · exact override?_congr (others k same)
  | some hidden => exact .inr ⟨hidden, override?_eq_some_iff.1 found⟩

/-- A list of entries, and the same list without one entry whose value is blank. -/
inductive BlankDropped : List (String × String) → List (String × String) → Prop where
  | drop (front : List (String × String)) (key : String) {value : String}
      (back : List (String × String)) (blank : Text.blank value = true) :
      BlankDropped (front ++ (key, value) :: back) (front ++ back)

namespace BlankDropped

variable {es es' : List (String × String)}

theorem append_left (dropped : BlankDropped es es') (first : List (String × String)) :
    BlankDropped (first ++ es) (first ++ es') := by
  obtain ⟨front, key, back, blank⟩ := dropped
  rw [← List.append_assoc, ← List.append_assoc]
  exact .drop (first ++ front) key back blank

theorem append_right (dropped : BlankDropped es es') (last : List (String × String)) :
    BlankDropped (es ++ last) (es' ++ last) := by
  obtain ⟨front, key, back, blank⟩ := dropped
  rw [List.append_assoc, List.append_assoc, List.cons_append]
  exact .drop front key (back ++ last) blank

/-- A variable that is left out leaves out the entry that it sets, if it sets one. -/
theorem variableEntries (dropped : BlankDropped es es') :
    es'.filterMap Properties.variableEntry? = es.filterMap Properties.variableEntry? ∨
      BlankDropped (es.filterMap Properties.variableEntry?)
        (es'.filterMap Properties.variableEntry?) := by
  obtain @⟨front, name, value, back, blank⟩ := dropped
  rw [List.filterMap_append, List.filterMap_append]
  cases known : Properties.keyOfVariable? name with
  | none =>
    have unset : Properties.variableEntry? (name, value) = none := by
      rw [Properties.variableEntry?, known, Option.map_none]
    rw [List.filterMap_cons_none unset]
    exact .inl rfl
  | some key =>
    have set : Properties.variableEntry? (name, value) = some (key, value) := by
      rw [Properties.variableEntry?, known, Option.map_some]
    rw [List.filterMap_cons_some set]
    exact .inr (.drop _ key _ blank)

/-- **Without a blank entry everything overrides as it did, or a value comes to light** that the
    entry, as the last one of its key, had taken the place of. -/
theorem override?_or_uncovered (dropped : BlankDropped es es') :
    (∀ key, Properties.override? (OrderedMap.ofList es') key =
      Properties.override? (OrderedMap.ofList es) key) ∨
    ∃ key blank hidden, (OrderedMap.ofList es).get? key = some blank ∧ Text.blank blank = true ∧
      (OrderedMap.ofList es').get? key = some hidden ∧ Text.blank hidden = false ∧
      ∀ other, other ≠ key →
        (OrderedMap.ofList es').get? other = (OrderedMap.ofList es).get? other := by
  obtain @⟨front, key, value, back, blank⟩ := dropped
  have shown (k : String) : (OrderedMap.ofList (front ++ (key, value) :: back)).get? k =
      (((OrderedMap.ofList back).get? k).or (if k = key then some value else none)).or
        ((OrderedMap.ofList front).get? k) := by
    rw [OrderedMap.get?_ofList_append, OrderedMap.get?_ofList_cons]
  have shown' (k : String) : (OrderedMap.ofList (front ++ back)).get? k =
      ((OrderedMap.ofList back).get? k).or ((OrderedMap.ofList front).get? k) :=
    OrderedMap.get?_ofList_append front back k
  have others (k : String) (other : k ≠ key) : (OrderedMap.ofList (front ++ back)).get? k =
      (OrderedMap.ofList (front ++ (key, value) :: back)).get? k := by
    rw [shown, shown', if_neg other, Option.or_none]
  cases later : (OrderedMap.ofList back).get? key with
  | some text =>
    -- A later entry of the key decides with and without the blank one.
    refine .inl fun k => Properties.override?_congr ?_
    by_cases here : k = key
    · rw [here, shown, shown', later, Option.some_or, Option.some_or, Option.some_or]
    · exact others k here
  | none =>
    have last : (OrderedMap.ofList (front ++ (key, value) :: back)).get? key = some value := by
      rw [shown, later, Option.none_or, if_pos rfl, Option.some_or]
    rcases Properties.override?_or_uncovered last blank others with
      alike | ⟨hidden, present, filled⟩
    · exact .inl alike
    · exact .inr ⟨key, value, hidden, last, blank, present, filled, others⟩

end BlankDropped

/-- What a run sees before and after a blank entry is left out of one layer of its properties: of a
    file, while every other file that it reads stays as it is, of the environment, or of the
    properties given one by one. -/
inductive LayerDropped (source : Source) (s : Surroundings) : Source → Surroundings → Prop where
  | file {before after : List Path} {path : Path} {files : Files} {written written' : String}
      (listed : source.properties = before ++ path :: after)
      (read : s.files.readText path = .ok written) (read' : files.readText path = .ok written')
      (dropped : BlankDropped (Properties.parse written) (Properties.parse written'))
      (others : ∀ other ∈ ({ source with properties := before ++ after } : Source).paths
        s.workingDirectory, files other = s.files other) :
      LayerDropped source s source { s with files := files }
  | environment {environment : List (String × String)}
      (dropped : BlankDropped s.environment environment) :
      LayerDropped source s source { s with environment := environment }
  | define {defines : List (String × String)} (dropped : BlankDropped source.defines defines) :
      LayerDropped source s { source with defines := defines } s

namespace LayerDropped

variable {source source' : Source} {s s' : Surroundings}

/-- A layer does not matter to a source without its properties. -/
theorem bare_extension (dropped : LayerDropped source s source' s') :
    source'.bare.extension s' = source.bare.extension s := by
  cases dropped with
  | file listed read read' dropped others =>
    exact Source.extension_congr fun other member => others other (List.mem_append_right _ member)
  | environment dropped => rfl
  | define dropped => rfl

/-- A blank entry of a layer is one of the entries of the source, unless it sets nothing or the
    source has no entries because a file cannot be read. -/
theorem entries (dropped : LayerDropped source s source' s') :
    source'.entries s' = source.entries s ∨ ∃ es es', BlankDropped es es' ∧
      source.entries s = .ok es ∧ source'.entries s' = .ok es' := by
  cases dropped with
  | @file before after path files written written' listed read read' dropped others =>
    have others' : ∀ other ∈ before ++ after, files other = s.files other := fun other member =>
      others other (List.mem_append_left _ member)
    have front : before.mapM (Source.text { s with files := files }) =
        before.mapM (Source.text s) :=
      Source.mapM_text_congr fun other member => others' other (List.mem_append_left _ member)
    have back : after.mapM (Source.text { s with files := files }) =
        after.mapM (Source.text s) :=
      Source.mapM_text_congr fun other member => others' other (List.mem_append_right _ member)
    rw [Source.entries_of_read listed read, Source.entries_of_read listed read', front, back]
    cases before.mapM (Source.text s) with
    | error failure => exact .inl rfl
    | ok front =>
      cases after.mapM (Source.text s) with
      | error failure => exact .inl rfl
      | ok back =>
        have inFiles := (dropped.append_right (back.map Properties.parse).flatten).append_left
          (front.map Properties.parse).flatten
        have inAll :=
          (inFiles.append_right (source.environmentEntries s)).append_right source.defines
        exact .inr ⟨_, _, inAll, rfl, rfl⟩
  | @environment environment dropped =>
    have inEnvironment : source.environmentEntries { s with environment := environment } =
          source.environmentEntries s ∨
        BlankDropped (source.environmentEntries s)
          (source.environmentEntries { s with environment := environment }) := by
      rw [Source.environmentEntries, Source.environmentEntries]
      split
      · exact dropped.variableEntries
      · exact .inl rfl
    have sameText : Source.text { s with environment := environment } = Source.text s := rfl
    rw [Source.entries, Source.entries, sameText]
    cases source.properties.mapM (Source.text s) with
    | error failure => exact .inl rfl
    | ok texts =>
      rcases inEnvironment with same | inEnvironment
      · rw [same]
        exact .inl rfl
      · exact .inr ⟨_, _, (inEnvironment.append_left _).append_right _, rfl, rfl⟩
  | @define defines dropped =>
    rw [Source.entries, Source.entries]
    show Except.map _ (source.properties.mapM (Source.text s)) = _ ∨ _
    cases source.properties.mapM (Source.text s) with
    | error failure => exact .inl rfl
    | ok texts => exact .inr ⟨_, _, dropped.append_left _, rfl, rfl⟩

end LayerDropped

namespace Source

/-- **What blank entries of the layers do.**

    * Without a blank entry of a layer, all settings are as they were, or fail with the same error,
      unless its blank value had taken the place of a value of its key that is not blank and now
      comes to light; the other keys keep their values.
    * A blank entry that is the last one of its key takes the place of all those in front of it:
      whatever they give, nothing overrides the setting of the key. -/
theorem settings_without_blank_entry (source : Source) (s : Surroundings) :
    (∀ source' s', LayerDropped source s source' s' →
      source'.settings s' = source.settings s ∨
        ∃ p p' key blank hidden, source.collect s = .ok p ∧ source'.collect s' = .ok p' ∧
          p.get? key = some blank ∧ Text.blank blank = true ∧
          p'.get? key = some hidden ∧ Text.blank hidden = false ∧
          ∀ other, other ≠ key → p'.get? other = p.get? other) ∧
    (∀ front key value back, source.entries s = .ok (front ++ (key, value) :: back) →
      Text.blank value = true → (∀ entry ∈ back, entry.1 ≠ key) →
        ∃ p, source.collect s = .ok p ∧ p.override? key = none) := by
  have collected {source : Source} {s : Surroundings} {es : List (String × String)}
      (laid : source.entries s = .ok es) : source.collect s = .ok (OrderedMap.ofList es) := by
    rw [collect_eq, laid]
    rfl
  constructor
  · intro source' s' dropped
    rcases dropped.entries with same | ⟨es, es', one, laid, laid'⟩
    · -- The layers have the same entries, or the same file of theirs cannot be read.
      have sameProperties : source'.collect s' = source.collect s := by
        rw [collect_eq, collect_eq, same]
      refine .inl ?_
      rw [settings, settings, extension_eq, extension_eq source, sameProperties,
        dropped.bare_extension]
    · rcases one.override?_or_uncovered with alike | ⟨key, blank, hidden, uncovered⟩
      · exact .inl (settings_congr dropped.bare_extension (collected laid) (collected laid') alike)
      · exact .inr ⟨_, _, key, blank, hidden, collected laid, collected laid', uncovered⟩
  · intro front key value back laid blank last
    refine ⟨_, collected laid, Properties.override?_of_blank ?_ blank⟩
    rw [OrderedMap.get?_ofList_append, OrderedMap.get?_ofList_cons,
      OrderedMap.get?_ofList_of_absent last, Option.none_or, if_pos rfl, Option.some_or]

/-- Surroundings of which all that matters is a variable. -/
def offlineVariable : Surroundings :=
  ⟨fun _ => .absent, ⟨"/work"⟩, [("JKUBE_OFFLINE", "true")]⟩

/-- The source that reads the environment and lays properties over it. -/
def overEnvironment (defines : List (String × String)) : Source :=
  { fromEnvironment := true, defines }

/-- An empty property over the variable leaves the flag to its default; without it, the variable
    decides. -/
theorem flag_overEnvironment :
    (((overEnvironment [("jkube.offline", "")]).settings offlineVariable).map
      (·.flag .offline)).toOption = some false ∧
    (((overEnvironment []).settings offlineVariable).map (·.flag .offline)).toOption =
      some true := by
  decide

theorem settings_overEnvironment_ne : (overEnvironment []).settings offlineVariable ≠
    (overEnvironment [("jkube.offline", "")]).settings offlineVariable := by
  intro same
  obtain ⟨unset, set⟩ := flag_overEnvironment
  rw [same, unset] at set
  cases set

/-- The empty property takes the place of the variable. -/
theorem settings_without_blank_entry_offline :
    ∃ p p' key blank hidden,
      (overEnvironment [("jkube.offline", "")]).collect offlineVariable = .ok p ∧
      (overEnvironment []).collect offlineVariable = .ok p' ∧
      p.get? key = some blank ∧ Text.blank blank = true ∧
      p'.get? key = some hidden ∧ Text.blank hidden = false ∧
      ∀ other, other ≠ key → p'.get? other = p.get? other :=
  ((settings_without_blank_entry _ _).1 _ _ (.define (.drop [] "jkube.offline" [] rfl))).resolve_left
    settings_overEnvironment_ne

/-- Leaving a blank entry out of a layer can change the settings. -/
theorem blank_entry_counts : ¬∀ source s source' s', LayerDropped source s source' s' →
    source'.settings s' = source.settings s := by
  intro harmless
  exact settings_overEnvironment_ne (harmless _ _ _ _ (.define (.drop [] "jkube.offline" [] rfl)))

end Source

end DeployConfig
