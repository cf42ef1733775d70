/-
  The three tiers of every setting.

  Each setting is resolved by a rule of its own kind.  Seen through written values, all of them are
  one rule (`Extension.value_eq`): a property that is not blank has to parse, and its value stands;
  otherwise the declared value stands, and otherwise the default.

  So what is not overridden or declared otherwise resolves as before (`Extension.value_congr`), and
  the snapshot depends on nothing else (`Extension.resolveAll_congr`).
-/
import DeployConfig.Extension.Snapshot
import DeployConfig.Proofs.Extension.Assignment
import DeployConfig.Proofs.Properties.Layers
import DeployConfig.Proofs.Steps

namespace DeployConfig

open Declarations (Nested Collection)

/-! ## Properties that override -/

namespace Properties

/-- A property overrides if it is there and not blank. -/
theorem override?_eq_some_iff {p : Properties} {key text : String} :
    p.override? key = some text ↔ p.get? key = some text ∧ Text.blank text = false := by
  simp [override?, Option.filter_eq_some_iff]

/-- What is done with the result of a choice can be done with either side of it. -/
theorem apply_pick {β γ : Type} (f : β → γ) (p : Properties) (key : String) (use : String → β)
    (otherwise : β) : f (p.pick key use otherwise) = p.pick key (fun text => f (use text))
      (f otherwise) := by
  unfold pick
  cases p.override? key <;> rfl

/-- A property is read as what its text parses to. -/
theorem read_eq_ok_iff {α : Type} [FromProperty α] {key text : String} {a : α} :
    read key text = .ok a ↔ FromProperty.parse? text = some a := by
  rw [read]
  cases (FromProperty.parse? text : Option α) with
  | none => simp
  | some b => simp

/-- A text parses to a number if the integer that it writes is that number. -/
theorem parse?_int32_eq_some_iff {text : String} {n : Int32} :
    FromProperty.parse? text = some n ↔ Text.int? text.toList = some (FixedWidth.toInt n) := by
  show (Text.int? text.toList).bind (fun m => (narrow Int32 m).toOption) = some n ↔ _
  rw [Option.bind_eq_some_iff]
  constructor
  · rintro ⟨m, written, narrowed⟩
    rw [written, narrow_eq_ok_iff.1 (toOption_eq_some_iff.1 narrowed)]
  · intro written
    exact ⟨_, written, toOption_eq_some_iff.2 (narrow_toInt n)⟩

end Properties

/-! ## The one rule -/

/-- Whether a setting has no default. -/
def Setting.isUnset : Setting → Bool
  | text s => s.fallback == .unset
  | _ => false

/-- What the text of a property stands for, in written form. -/
def Setting.read (layout : Layout) (text : String) : Setting → Except PropertyError (Option Value)
  | .flag _ => .ok (some (.boolean (isTrueWord text)))
  | .number s => (Properties.read s.key text).map fun n => some ((Codec.integer Int32).write n)
  | .text _ => .ok (some (.string text))
  | .path _ => .ok (some (Codec.path.write (layout.resolve text)))
  | .buildStrategy => (Properties.read Setting.buildStrategy.key text).map fun s =>
    some ((Codec.choice BuildStrategy).write s)
  | .resourceFileType => (Properties.read Setting.resourceFileType.key text).map fun t =>
    some ((Codec.choice ResourceFileType).write t)

/-- A property never leaves a setting unset. -/
theorem Setting.read_ne_none (s : Setting) (layout : Layout) (text : String) :
    s.read layout text ≠ .ok none := by
  have never {α : Type} (x : Except PropertyError α) (f : α → Value) :
      (x.map fun a => some (f a)) ≠ .ok none := by cases x <;> simp [Except.map]
  cases s with
  | flag s => simp [Setting.read]
  | text s => simp [Setting.read]
  | path s => simp [Setting.read]
  | number s => exact never _ _
  | buildStrategy => exact never _ _
  | resourceFileType => exact never _ _

namespace Extension

/-! ### What each accessor asks for -/

theorem flag_eq (e : Extension) (s : Flag) : e.flag s = e.properties.pick s.key isTrueWord
    ((e.declarations.settings.flag s).getD s.fallback) := by
  rw [flag, s.accessor_declared]
  rfl

theorem number_eq (e : Extension) (s : NumberSetting) : e.number s =
    e.properties.resolve s.key (e.declarations.settings.number s) s.fallback := by
  rw [number, s.accessor_declared]
  rfl

theorem textOr_eq (e : Extension) (s : TextSetting) (fallback : Option String) :
    e.textOr s fallback =
      e.properties.pick s.key some (e.declarations.settings.text s <|> fallback) := by
  rw [textOr, s.accessor_declared]
  rfl

theorem path_eq (e : Extension) (s : PathSetting) : e.path s =
    e.properties.resolvePath e.project.layout s.key (e.declarations.settings.path s)
      (e.project.layout.place s.fallback) := by
  rw [path, s.accessor_declared]
  rfl

/-- The registry always has a value. -/
theorem registry_ne_none (e : Extension) : e.registry ≠ none := by
  have fallback : e.registry = e.textOr .registry (some "docker.io") := rfl
  rw [fallback, textOr_eq]
  unfold Properties.pick
  cases e.properties.override? TextSetting.registry.key with
  | some text => exact Option.some_ne_none text
  | none => cases e.declarations.settings.text .registry <;> exact Option.some_ne_none _

/-- The default of a setting, in written form. -/
def default? (e : Extension) : Setting → Option Value
  | .flag s => some (.boolean s.fallback)
  | .number s => some ((Codec.integer Int32).write s.fallback)
  | .text s => match s.fallback with
    | .unset => none
    | .literal text => some (.string text)
    | .effectiveRegistry => e.registry.map Value.string
  | .path s => some (Codec.path.write (e.project.layout.place s.fallback))
  | .buildStrategy => some ((Codec.choice BuildStrategy).write default)
  | .resourceFileType => some ((Codec.choice ResourceFileType).write default)

/-- Whether there is a default does not depend on the extension. -/
theorem default?_eq_none_iff {e : Extension} {s : Setting} :
    e.default? s = none ↔ s.isUnset = true := by
  cases s with
  | text s =>
    simp only [default?, Setting.isUnset]
    cases s.fallback with
    | unset => simp
    | literal text => simp
    | effectiveRegistry => simp [e.registry_ne_none]
  | _ => simp [default?, Setting.isUnset]

/-- **A setting has the value of its property, or else the declared value, or else its default.** -/
theorem value_eq (e : Extension) (s : Setting) :
    e.value s = e.properties.pick s.key (fun text => s.read e.project.layout text)
      (.ok ((e.declarations.value? (.inl s)).or (e.default? s))) := by
  -- In each case the written form goes into the choice, and the two sides of it are compared.
  cases s with
  | flag s =>
    show Except.ok (some (Value.boolean (e.flag s))) = _
    rw [flag_eq, e.properties.apply_pick fun b => Except.ok (some (Value.boolean b))]
    congr 1
    show _ = Except.ok (((e.declarations.settings.flag s).map Value.boolean).or _)
    cases e.declarations.settings.flag s <;> rfl
  | number s =>
    show (e.number s).map _ = _
    rw [number_eq, Properties.resolve, e.properties.apply_pick (Except.map _)]
    congr 1
    show _ = Except.ok (((e.declarations.settings.number s).map (Codec.integer Int32).write).or _)
    cases e.declarations.settings.number s <;> rfl
  | text s =>
    show Except.ok ((e.text s).map Value.string) = _
    rw [text, textOr_eq, e.properties.apply_pick fun t => Except.ok (Option.map Value.string t)]
    congr 1
    show _ = Except.ok (((e.declarations.settings.text s).map Value.string).or _)
    cases e.declarations.settings.text s with
    | some t => rfl
    | none =>
      show _ = Except.ok (e.default? (.text s))
      simp only [default?]
      cases s.fallback <;> rfl
  | path s =>
    show Except.ok (some (Codec.path.write (e.path s))) = _
    rw [path_eq, Properties.resolvePath,
      e.properties.apply_pick fun p => Except.ok (some (Codec.path.write p))]
    congr 1
    show _ = Except.ok (((e.declarations.settings.path s).map Codec.path.write).or _)
    cases e.declarations.settings.path s <;> rfl
  | buildStrategy =>
    show (e.buildStrategy).map _ = _
    rw [buildStrategy, Properties.resolveField, e.properties.apply_pick (Except.map _)]
    congr 1
    show Except.ok (some ((Codec.choice BuildStrategy).write (e.declarations.buildStrategy.getD _))) =
      Except.ok ((e.declarations.buildStrategy.map (Codec.choice BuildStrategy).write).or _)
    cases e.declarations.buildStrategy <;> rfl
  | resourceFileType =>
    show (e.resourceFileType).map _ = _
    rw [resourceFileType, Properties.resolveField, e.properties.apply_pick (Except.map _)]
    congr 1
    show Except.ok (some ((Codec.choice ResourceFileType).write
        (e.declarations.resourceFileType.getD _))) =
      Except.ok ((e.declarations.resourceFileType.map (Codec.choice ResourceFileType).write).or _)
    cases e.declarations.resourceFileType <;> rfl

/-- An override decides alone. -/
theorem value_of_override {e : Extension} {s : Setting} {text : String}
    (h : e.properties.override? s.key = some text) : e.value s = s.read e.project.layout text := by
  rw [value_eq, Properties.pick, h]

/-- Without an override, the declared value stands, and otherwise the default. -/
theorem value_of_no_override {e : Extension} {s : Setting}
    (h : e.properties.override? s.key = none) :
    e.value s = .ok ((e.declarations.value? (.inl s)).or (e.default? s)) := by
  rw [value_eq, Properties.pick, h]

/-- A setting that resolves to nothing has no default. -/
theorem isUnset_of_value {e : Extension} {s : Setting} (h : e.value s = .ok none) :
    s.isUnset = true := by
  cases overridden : e.properties.override? s.key with
  | some text =>
    rw [value_of_override overridden] at h
    exact absurd h (s.read_ne_none e.project.layout text)
  | none =>
    rw [value_of_no_override overridden] at h
    exact default?_eq_none_iff.1 (Option.or_eq_none_iff.1 (Except.ok.inj h)).2

/-! ## What settings depend on -/

/-- Settings resolve alike in two extensions if each of them is known to, or is overridden and
    declared alike in both. -/
theorem value_congr {a b : Extension} (layout : a.project.layout = b.project.layout)
    (each : ∀ s : Setting, a.value s = b.value s ∨
      (a.properties.override? s.key = b.properties.override? s.key ∧
        a.declarations.value? (.inl s) = b.declarations.value? (.inl s))) (s : Setting) :
    a.value s = b.value s := by
  have of_default {t : Setting} (fallback : a.default? t = b.default? t) :
      a.value t = b.value t := by
    rcases each t with same | ⟨override, declared⟩
    · exact same
    · rw [value_eq, value_eq, layout, declared, fallback]
      exact Properties.pick_congr override _ _
  -- One default is the effective registry, which has a fixed default itself.
  have registry : a.registry = b.registry := by
    have same : a.value (.text .registry) = b.value (.text .registry) := of_default rfl
    exact Option.map_injective (fun _ _ => Value.string.inj) (Except.ok.inj same)
  refine of_default ?_
  cases s with
  | text t => simp only [default?, registry]
  | path t => simp only [default?, layout]
  | flag _ | number _ | buildStrategy | resourceFileType => rfl

/-- Extensions whose settings resolve alike and that declare the same beside them have the same
    snapshot, or fail with the same error. -/
theorem resolveAll_congr {a b : Extension} (values : ∀ s, a.value s = b.value s)
    (blockText : a.declarations.settings.blockText = b.declarations.settings.blockText)
    (nested : ∀ k : Nested, k.part.get a.declarations = k.part.get b.declarations)
    (collection : ∀ k : Collection, k.part.get a.declarations = k.part.get b.declarations) :
    a.resolveAll = b.resolveAll := by
  have written {α : Type} {x y : Except PropertyError α} (codec : Codec α) [codec.Lawful]
      (same : (x.map fun v => some (codec.write v)) = y.map fun v => some (codec.write v)) : x = y :=
    except_map_injective (fun _ _ h => codec.write_injective (Option.some.inj h)) same
  have flags : a.flag = b.flag := funext fun s =>
    Value.boolean.inj (Option.some.inj (Except.ok.inj (values (.flag s))))
  have numbers : a.number = b.number := funext fun s => written _ (values (.number s))
  have texts : a.text = b.text := funext fun s =>
    Option.map_injective (fun _ _ => Value.string.inj) (Except.ok.inj (values (.text s)))
  have paths : a.path = b.path := funext fun s =>
    Codec.path.write_injective (Option.some.inj (Except.ok.inj (values (.path s))))
  have strategy : a.buildStrategy = b.buildStrategy := written _ (values .buildStrategy)
  have type : a.resourceFileType = b.resourceFileType := written _ (values .resourceFileType)
  have access : a.declarations.access = b.declarations.access := nested .access
  have resources : a.declarations.resources = b.declarations.resources := nested .resources
  have enricher : a.declarations.enricher = b.declarations.enricher := nested .enricher
  have generator : a.declarations.generator = b.declarations.generator := nested .generator
  have machine : a.declarations.machine = b.declarations.machine := nested .machine
  have authConfig : a.declarations.authConfig = b.declarations.authConfig := nested .authConfig
  have images : a.declarations.images = b.declarations.images := collection .images
  have mappings : a.declarations.mappings = b.declarations.mappings := collection .mappings
  simp only [resolveAll, flags, numbers, texts, paths, strategy, type, blockText, access, resources,
    enricher, generator, machine, authConfig, images, mappings]

/-! ## Other properties -/

/-- The extension with other properties. -/
def withProperties (e : Extension) (p : Properties) : Extension :=
  { e with project := { e.project with properties := p } }

/-- Settings resolve alike under properties that override alike. -/
theorem resolveAll_withProperties {e : Extension} {p : Properties}
    (same : ∀ key, p.override? key = e.properties.override? key) :
    (e.withProperties p).resolveAll = e.resolveAll := by
  have values := value_congr (a := e.withProperties p) (b := e) rfl fun s => .inr ⟨same s.key, rfl⟩
  exact resolveAll_congr values rfl (fun _ => rfl) fun _ => rfl

end Extension

end DeployConfig
