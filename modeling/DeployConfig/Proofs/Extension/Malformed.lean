/-
  Malformed overrides.

  A snapshot takes the effective value of some fifty settings, each by the rule of resolution of its
  kind, and the first override that does not parse ends it.

  1. **Strict keys**: five properties have to have a form.  What it is, is said of the texts alone:
     the names of an enumeration, or decimal digits behind at most one sign in the range of 32 bits.
  2. **The five steps**: a snapshot fails as the first of them does (`error?_resolveAll`), and each
     one fails on account of its own key (`steps_explained`).
  3. **The whole run**: resolving all settings one after the other, by the full rule of each kind,
     fails as the five steps do, because every text is a truth value, a text and a path
     (`error?_run`).
-/
import DeployConfig.Proofs.Extension.Fields
import DeployConfig.Proofs.Text.Integer

namespace DeployConfig

open Declarations (Nested Collection)

/-! ## Strict keys -/

/-- A property key whose value has to have a form, and what the form is called in messages. -/
structure StrictKey where
  key : String
  kind : String
  Allows : String → Prop

/-- A text writes an integer of 32 bits. -/
def WritesInt32 (text : String) : Prop :=
  ∃ n, Text.WritesInt text.toList n ∧ -2147483648 ≤ n ∧ n ≤ 2147483647

/-- The strict keys, in the order in which a snapshot looks at them. -/
def strictKeys : List StrictKey := [
  ⟨"jkube.build.strategy", "build strategy", (· ∈ ["s2i", "docker", "jib", "buildpacks"])⟩,
  ⟨"jkube.resourceType", "resource file type", (· ∈ ["json", "yaml"])⟩,
  ⟨"jkube.serviceUrl.waitSeconds", "integer", WritesInt32⟩,
  ⟨"jkube.docker.push.retries", "integer", WritesInt32⟩,
  ⟨"jkube.docker.maxConnections", "integer", WritesInt32⟩]

namespace StrictKey

/-- The property of the key is there, is not blank and has not the form. -/
def Malformed (k : StrictKey) (p : Properties) (text : String) : Prop :=
  p.get? k.key = some text ∧ Text.blank text = false ∧ ¬ k.Allows text

/-- The complaint about a text under the key. -/
def complaint (k : StrictKey) (text : String) : PropertyError := ⟨k.key, k.kind, text⟩

/-- The failure of a step, if it fails, is the complaint about a malformed property of the key. -/
def Explains (k : StrictKey) (p : Properties) (failure : Option PropertyError) : Prop :=
  ∀ error, failure = some error ↔ ∃ text, k.Malformed p text ∧ error = k.complaint text

variable {k : StrictKey} {p : Properties} {failure : Option PropertyError}

theorem Explains.eq_none_iff (explains : k.Explains p failure) :
    failure = none ↔ ∀ text, ¬ k.Malformed p text := by
  constructor
  · intro none text malformed
    have failed := (explains (k.complaint text)).2 ⟨text, malformed, rfl⟩
    rw [none] at failed
    cases failed
  · intro formed
    cases failed : failure with
    | none => rfl
    | some error =>
      obtain ⟨text, malformed, -⟩ := (explains error).1 failed
      exact absurd malformed (formed text)

/-- A property is read at a type by the key that allows what the type can be read from. -/
theorem explains_pick {α : Type} [FromProperty α] (named : k.kind = FromProperty.kind α)
    (allows : ∀ text, k.Allows text ↔ ∃ a : α, FromProperty.parse? text = some a) (a : α) :
    k.Explains p (error? (p.pick k.key (Properties.read k.key) (.ok a))) := by
  intro error
  constructor
  · intro failed
    rw [Properties.pick] at failed
    cases overridden : p.override? k.key with
    | none =>
      rw [overridden] at failed
      cases failed
    | some text =>
      obtain ⟨present, filled⟩ := Properties.override?_eq_some_iff.1 overridden
      rw [overridden] at failed
      simp only [Properties.read] at failed
      cases parsed : (FromProperty.parse? text : Option α) with
      | some b =>
        rw [parsed] at failed
        cases failed
      | none =>
        rw [parsed] at failed
        refine ⟨text, ⟨present, filled, fun allowed => ?_⟩, ?_⟩
        · obtain ⟨b, parsed'⟩ := (allows text).1 allowed
          rw [parsed] at parsed'
          cases parsed'
        · rw [complaint, named]
          exact (Option.some.inj failed).symm
  · rintro ⟨text, ⟨present, filled, refused⟩, rfl⟩
    have overridden := Properties.override?_eq_some_iff.2 ⟨present, filled⟩
    have unparsed : (FromProperty.parse? text : Option α) = none := by
      cases parsed : (FromProperty.parse? text : Option α) with
      | none => rfl
      | some b => exact absurd ((allows text).2 ⟨b, parsed⟩) refused
    rw [Properties.pick, overridden, complaint, named]
    simp only [Properties.read, unparsed]
    rfl

end StrictKey

/-- The texts that are read as integers of 32 bits are those that write one. -/
theorem exists_parse_int32_iff {text : String} :
    (∃ m : Int32, FromProperty.parse? text = some m) ↔ WritesInt32 text := by
  constructor
  · rintro ⟨m, parsed⟩
    have low : -2147483648 ≤ FixedWidth.toInt m := FixedWidth.least_le m
    have high : FixedWidth.toInt m ≤ 2147483647 := FixedWidth.le_greatest m
    have written := Properties.parse?_int32_eq_some_iff.1 parsed
    exact ⟨FixedWidth.toInt m, Text.int?_eq_some_iff.1 written, low, high⟩
  · rintro ⟨n, writes, low, high⟩
    have kept : FixedWidth.toInt (FixedWidth.ofInt n : Int32) = n :=
      FixedWidth.toInt_ofInt n low high
    refine ⟨FixedWidth.ofInt n, Properties.parse?_int32_eq_some_iff.2 ?_⟩
    rw [kept]
    exact Text.int?_eq_some_iff.2 writes

/-- Of steps in turn that keys explain, the first one that fails does so on account of the first key
    whose property is malformed. -/
theorem StrictKey.findSome?_eq_some_iff {p : Properties} {keys : List StrictKey}
    {failures : List (Option PropertyError)}
    (explained : List.Forall₂ (fun k failure => k.Explains p failure) keys failures)
    {error : PropertyError} :
    failures.findSome? id = some error ↔ ∃ before k after text, keys = before ++ k :: after ∧
      (∀ other ∈ before, ∀ t, ¬ other.Malformed p t) ∧ k.Malformed p text ∧
      error = k.complaint text := by
  induction explained with
  | nil => simp
  | @cons k failure keys failures explains rest ih =>
    cases failed : failure with
    | none =>
      -- The first key is in order, so it stands before the one that the others find.
      have formed := explains.eq_none_iff.1 failed
      rw [List.findSome?_cons_of_isNone rfl, ih]
      constructor
      · rintro ⟨before, k', after, text, rfl, inOrder, malformed, rfl⟩
        refine ⟨k :: before, k', after, text, rfl, ?_, malformed, rfl⟩
        exact List.forall_mem_cons.2 ⟨formed, inOrder⟩
      · rintro ⟨before, k', after, text, parted, inOrder, malformed, rfl⟩
        cases before with
        | nil =>
          cases parted
          exact absurd malformed (formed text)
        | cons first before =>
          cases parted
          exact ⟨before, k', after, text, rfl, (List.forall_mem_cons.1 inOrder).2, malformed, rfl⟩
    | some found =>
      obtain ⟨text, malformed, same⟩ := (explains found).1 failed
      rw [List.findSome?_cons_of_isSome rfl]
      constructor
      · intro here
        cases here
        exact ⟨[], k, keys, text, rfl, by simp, malformed, same⟩
      · rintro ⟨before, k', after, text', parted, inOrder, malformed', rfl⟩
        cases before with
        | nil =>
          cases parted
          exact failed.symm.trans ((explains _).2 ⟨text', malformed', rfl⟩)
        | cons first before =>
          cases parted
          exact absurd malformed (inOrder k List.mem_cons_self text)

/-- Steps in turn that keys explain succeed if no property of the keys is malformed. -/
theorem StrictKey.findSome?_eq_none_iff {p : Properties} {keys : List StrictKey}
    {failures : List (Option PropertyError)}
    (explained : List.Forall₂ (fun k failure => k.Explains p failure) keys failures) :
    failures.findSome? id = none ↔ ∀ k ∈ keys, ∀ text, ¬ k.Malformed p text := by
  induction explained with
  | nil => simp
  | @cons k failure keys failures explains rest ih =>
    rw [List.forall_mem_cons, ← ih, ← explains.eq_none_iff]
    cases failure with
    | none => simp
    | some found => simp

namespace Extension

/-! ## The five steps -/

/-- The failures of the settings that have a strict key, in the order of the keys. -/
def steps (e : Extension) : List (Option PropertyError) := [
  error? e.buildStrategy, error? e.resourceFileType, error? (e.number .serviceUrlWaitTimeSeconds),
  error? (e.number .pushRetries), error? (e.number .maxConnections)]

/-- **A snapshot fails as the first of the five steps that fails.** -/
theorem error?_resolveAll (e : Extension) : error? e.resolveAll = e.steps.findSome? id := by
  simp only [resolveAll, steps]
  cases e.buildStrategy with
  | error _ => rfl
  | ok _ =>
    cases e.resourceFileType with
    | error _ => rfl
    | ok _ =>
      cases e.number .serviceUrlWaitTimeSeconds with
      | error _ => rfl
      | ok _ =>
        cases e.number .pushRetries with
        | error _ => rfl
        | ok _ => cases e.number .maxConnections <;> rfl

/-- Each step fails on account of its own key. -/
theorem steps_explained (e : Extension) :
    List.Forall₂ (fun k failure => k.Explains e.properties failure) strictKeys e.steps := by
  have strategy (text : String) : text ∈ ["s2i", "docker", "jib", "buildpacks"] ↔
      ∃ s : BuildStrategy, FromProperty.parse? text = some s :=
    (Enumeration.exists_ofName?_iff (α := BuildStrategy)).symm
  have type (text : String) : text ∈ ["json", "yaml"] ↔
      ∃ t : ResourceFileType, FromProperty.parse? text = some t :=
    (Enumeration.exists_ofName?_iff (α := ResourceFileType)).symm
  have int32 (text : String) : WritesInt32 text ↔ ∃ m : Int32, FromProperty.parse? text = some m :=
    exists_parse_int32_iff.symm
  refine .cons ?_ (.cons ?_ (.cons ?_ (.cons ?_ (.cons ?_ .nil))))
  · exact StrictKey.explains_pick rfl strategy _
  · exact StrictKey.explains_pick rfl type _
  · exact StrictKey.explains_pick rfl int32 _
  · exact StrictKey.explains_pick rfl int32 _
  · exact StrictKey.explains_pick rfl int32 _

/-! ## The whole run -/

/-- A setting resolved by the full rule of its kind. -/
def rule (e : Extension) : Setting → Except PropertyError (Option Value)
  | .flag s => (e.properties.resolve s.key (e.declarations.settings.flag s) s.fallback).map
    fun b => some (.boolean b)
  | .number s => (e.properties.resolve s.key (e.declarations.settings.number s) s.fallback).map
    fun n => some ((Codec.integer Int32).write n)
  | .text s =>
    match s.fallback with
    | .unset => (e.properties.resolveOptional s.key (e.declarations.settings.text s) none).map
      fun text => text.map Value.string
    | .literal fallback =>
      (e.properties.resolve s.key (e.declarations.settings.text s) fallback).map
        fun text => some (.string text)
    | .effectiveRegistry => do
      let registry ← e.properties.resolve TextSetting.registry.key
        (e.declarations.settings.text .registry) "docker.io"
      let text ← e.properties.resolve s.key (e.declarations.settings.text s) registry
      return some (.string text)
  | .path s => .ok (some (Codec.path.write (e.properties.resolvePath e.project.layout s.key
      (e.declarations.settings.path s) (e.project.layout.place s.fallback))))
  | .buildStrategy => (e.properties.resolveField Setting.buildStrategy.key
      e.declarations.plainBuildStrategy).map fun s => some ((Codec.choice BuildStrategy).write s)
  | .resourceFileType => (e.properties.resolveField Setting.resourceFileType.key
      e.declarations.plainResourceFileType).map
        fun t => some ((Codec.choice ResourceFileType).write t)

/-- Every text is read as a text. -/
theorem resolve_text (p : Properties) (key : String) (declared : Option String) (fallback : String) :
    p.resolve key declared fallback = .ok (p.pick key id (declared.getD fallback)) := by
  rw [Properties.resolve, Properties.apply_pick (fun t => (.ok t : Except PropertyError String))]
  rfl

/-- The full rule of a setting gives its effective value. -/
theorem rule_eq_value (e : Extension) (s : Setting) : e.rule s = e.value s := by
  cases s with
  | flag s =>
    show (e.properties.resolve s.key _ _).map _ = Except.ok (some (Value.boolean (e.flag s)))
    rw [Properties.resolve, e.properties.apply_pick (Except.map _), flag_eq,
      e.properties.apply_pick fun b => Except.ok (some (Value.boolean b))]
    rfl
  | text s =>
    have effective (fallback : String) :
        e.textOr s (some fallback) = some (e.properties.pick s.key id
          ((e.declarations.settings.text s).getD fallback)) := by
      rw [textOr_eq, e.properties.apply_pick some]
      cases e.declarations.settings.text s <;> rfl
    have registry : e.registry = some (e.properties.pick TextSetting.registry.key id
        ((e.declarations.settings.text .registry).getD "docker.io")) := by
      show e.textOr .registry (some "docker.io") = _
      rw [textOr_eq, e.properties.apply_pick some]
      cases e.declarations.settings.text .registry <;> rfl
    show _ = Except.ok ((e.text s).map Value.string)
    rw [text, rule]
    cases s.fallback with
    | unset =>
      show (e.properties.resolveOptional s.key _ none).map _ = Except.ok ((e.textOr s none).map _)
      rw [Properties.resolveOptional, e.properties.apply_pick (Except.map _), textOr_eq,
        e.properties.apply_pick fun t => Except.ok (Option.map Value.string t)]
      rfl
    | literal fallback =>
      show (e.properties.resolve s.key _ fallback).map _ =
        Except.ok ((e.textOr s (some fallback)).map Value.string)
      rw [resolve_text, effective]
      rfl
    | effectiveRegistry =>
      simp only [resolve_text, registry, effective]
      rfl
  | number s =>
    show _ = (e.number s).map _
    rw [number_eq]
    rfl
  | path s =>
    show _ = Except.ok (some (Codec.path.write (e.path s)))
    rw [path_eq]
    rfl
  | buildStrategy => rfl
  | resourceFileType => rfl

/-- The settings in the order in which a snapshot asks for them.  Whether builds need a Docker
    daemon depends on the build strategy, which is asked for a second time. -/
def sequence : List Setting :=
  .buildStrategy :: .resourceFileType :: .buildStrategy :: Snapshot.order

/-- Whether a setting has a strict key. -/
def isStrict : Setting → Bool
  | .number _ | .buildStrategy | .resourceFileType => true
  | _ => false

/-- A setting without a strict key always resolves. -/
theorem error?_value_of_not_strict (e : Extension) {s : Setting} (lenient : isStrict s = false) :
    error? (e.value s) = none := by
  cases s with
  | flag s => rfl
  | text s => rfl
  | path s => rfl
  | number s => cases lenient
  | buildStrategy => cases lenient
  | resourceFileType => cases lenient

/-- Settings in turn fail as those among them that have a strict key. -/
theorem error?_run_filter (e : Extension) (settings : List Setting) :
    error? (settings.mapM e.rule) =
      (settings.filter isStrict).findSome? fun s => error? (e.value s) := by
  rw [error?_mapM]
  induction settings with
  | nil => rfl
  | cons s rest ih =>
    rw [List.findSome?_cons, ih, rule_eq_value]
    cases strict : isStrict s with
    | false => rw [error?_value_of_not_strict e strict, List.filter_cons_of_neg (by simp [strict])]
    | true => rw [List.filter_cons_of_pos strict, List.findSome?_cons]

/-- **All settings resolved one after the other fail as the snapshot does.** -/
theorem error?_run (e : Extension) : error? (sequence.mapM e.rule) = error? e.resolveAll := by
  have strict : sequence.filter isStrict = [.buildStrategy, .resourceFileType, .buildStrategy,
      .number .serviceUrlWaitTimeSeconds, .number .pushRetries, .number .maxConnections] := by decide
  have strategy : error? (e.value .buildStrategy) = error? e.buildStrategy := error?_map ..
  have type : error? (e.value .resourceFileType) = error? e.resourceFileType := error?_map ..
  have number (n : NumberSetting) : error? (e.value (.number n)) = error? (e.number n) :=
    error?_map ..
  rw [error?_run_filter, strict, error?_resolveAll, steps]
  simp only [List.findSome?_cons, strategy, type, number, id]
  -- The strategy is asked for twice, but where it fails, it has failed before.
  cases error? e.buildStrategy with
  | none => rfl
  | some error => rfl

/-! ## The outcome -/

/-- A snapshot says whether builds need a Docker daemon. -/
theorem lookup_dockerAccessRequired (s : Snapshot) :
    s.fields.lookup "dockerAccessRequired" =
      some (some (.boolean s.buildStrategy.requiresDockerAccess)) := by
  refine lookup_eq_of_mem (Snapshot.distinct_fieldNames.sublist s.sublist_fields) ?_
  have derived : ("dockerAccessRequired", some (.boolean s.buildStrategy.requiresDockerAccess)) ∈
      s.derivedFields := List.mem_of_getElem? (i := 6) rfl
  exact List.mem_append_left _ (List.mem_append_left _ (List.mem_append_left _ derived))

/-- **When a snapshot fails, how it fails, and what it holds.**

    * There is a snapshot exactly if no property of a strict key is malformed, whatever the other
      properties are and whatever is declared.
    * Otherwise the error is the complaint about the first strict key whose property is malformed,
      with its text as it stands.
    * This is also how all settings in turn fail, each by its full rule.
    * Each field of a setting holds what the setting alone resolves to, and what is declared besides
      the settings is taken over.  Builds need a Docker daemon unless the effective strategy is
      `jib`. -/
theorem resolveAll_outcome (e : Extension) :
    ((∃ s, e.resolveAll = .ok s) ↔ ∀ k ∈ strictKeys, ∀ text, ¬ k.Malformed e.properties text) ∧
    (∀ error, e.resolveAll = .error error ↔ ∃ before k after text,
      strictKeys = before ++ k :: after ∧
      (∀ other ∈ before, ∀ t, ¬ other.Malformed e.properties t) ∧
      k.Malformed e.properties text ∧ error = ⟨k.key, k.kind, text⟩) ∧
    (∀ error, e.resolveAll = .error error ↔ sequence.mapM e.rule = .error error) ∧
    ∀ s, e.resolveAll = .ok s →
      (∀ setting, e.value setting = .ok (s.value setting) ∧ e.rule setting = e.value setting ∧
        s.fields.lookup setting.name = some (s.value setting)) ∧
      s.blockText = e.declarations.settings.blockText ∧
      (∀ k : Nested, k.part.get s.declarations = k.part.get e.declarations) ∧
      (∀ k : Collection, k.part.get s.declarations = k.part.get e.declarations) ∧
      ∃ strategy required, e.buildStrategy = .ok strategy ∧
        e.dockerAccessRequired = .ok required ∧
        s.fields.lookup "dockerAccessRequired" = some (some (.boolean required)) ∧
        (required = false ↔ strategy = .jib) := by
  refine ⟨?_, fun error => ?_, fun error => ?_, fun s resolved => ?_⟩
  · rw [← error?_eq_none_iff, error?_resolveAll]
    exact StrictKey.findSome?_eq_none_iff e.steps_explained
  · rw [← error?_eq_some_iff, error?_resolveAll]
    exact StrictKey.findSome?_eq_some_iff e.steps_explained
  · rw [← error?_eq_some_iff, ← error?_run, error?_eq_some_iff]
  · obtain ⟨values, texts, nested, collection⟩ := resolveAll_eq_ok_iff.1 resolved
    have strategy : e.buildStrategy = .ok s.buildStrategy :=
      (resolveAll_eq_ok_iff_parts.1 resolved).1
    refine ⟨fun setting => ⟨values setting, e.rule_eq_value setting, s.lookup_fields setting⟩,
      texts.symm, fun k => (nested k).symm, fun k => (collection k).symm, s.buildStrategy,
      s.buildStrategy.requiresDockerAccess, strategy, ?_, lookup_dockerAccessRequired s, ?_⟩
    · rw [dockerAccessRequired, strategy]
      rfl
    · cases s.buildStrategy <;> decide

/-- Of two malformed overrides, the build strategy is complained about, though the number of retries
    is no number either; a blank override of a strict key does no harm. -/
theorem resolveAll_outcome_two_malformed :
    let p : Properties := .ofList [("jkube.docker.push.retries", "abc"),
      ("jkube.docker.maxConnections", " "), ("jkube.build.strategy", "Jib")]
    let e : Extension := ⟨⟨.conventional ⟨"/p"⟩, p⟩, {}⟩
    let k : StrictKey :=
      ⟨"jkube.build.strategy", "build strategy", (· ∈ ["s2i", "docker", "jib", "buildpacks"])⟩
    k.Malformed p "Jib" ∧ e.resolveAll = .error ⟨"jkube.build.strategy", "build strategy", "Jib"⟩ := by
  intro p e k
  have malformed : k.Malformed p "Jib" := by
    refine ⟨rfl, by decide, ?_⟩
    show ¬ "Jib" ∈ ["s2i", "docker", "jib", "buildpacks"]
    decide
  obtain ⟨-, failed, -, -⟩ := resolveAll_outcome e
  exact ⟨malformed, (failed _).2 ⟨[], k, strictKeys.tail, "Jib", rfl, by simp, malformed, rfl⟩⟩

end Extension

end DeployConfig
