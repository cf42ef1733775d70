/-
  Property overrides and declarations of the same value.

  A setting is given a value by a block or by a property, and each way has a decoder of its own: a
  block narrows an integer of 64 bits, reads a name or keeps a path as it is, where a property is a
  text that is parsed, or joined onto the base directory.

  1. **Two decoders**: for each kind of setting, the block takes a value exactly if the property
     takes its text, and they stand for the same (`Setting.SameReading`).
  2. **Two extensions**: then nothing tells the two ways apart, neither whether they are accepted
     nor what any setting resolves to (`Extension.interchangeable`).
  3. **Paths** are the exception: a relative one is joined by one way only.

  All of it together is `Extension.override_or_declare`.
-/
import DeployConfig.Proofs.Extension.Application
import DeployConfig.Proofs.Extension.Catalog
import DeployConfig.Proofs.Extension.Malformed

namespace DeployConfig

open Bindable
open Declarations (Assigned Nested Collection)

/-! ## Two ways to give a value -/

/-- The extension with one more property, in place of the one that has the key. -/
def Extension.overriding (e : Extension) (key text : String) : Extension :=
  e.withProperties (e.properties.insert key text)

/-- Assigning a value to a setting in a block and setting its property to a text are accepted alike,
    and unless a property overrides what is declared, they have the same effect. -/
structure Extension.Interchangeable (e : Extension) (s : Setting) (value : Value) (text : String) :
    Prop where
  accepted : (e.apply [(s.name, value)]).error = none ↔
    ∃ v, (e.overriding s.key text).value s = .ok v
  overridden : ∀ v, (e.overriding s.key text).value s = .ok v → v = some value
  declared : ∀ e', e.apply [(s.name, value)] = ⟨e', none⟩ → e.properties.override? s.key = none →
    e'.value s = .ok (some value)
  snapshot : ∀ e', e.apply [(s.name, value)] = ⟨e', none⟩ → e.properties.override? s.key = none →
    e'.resolveAll = (e.overriding s.key text).resolveAll

/-! ## Two decoders -/

/-- A block takes the value exactly if a property takes the text, and they stand for the same. -/
structure Setting.SameReading (s : Setting) (layout : Layout) (value : Value) (text : String) :
    Prop where
  taken : ∀ d : Declarations, (∃ d', Assigned d s.name value d') ↔ ∃ v, s.read layout text = .ok v
  same : ∀ v, s.read layout text = .ok v → v = some value

/-- Both decoders read through one codec if what the property parses to is what the codec writes as
    the value. -/
theorem Setting.SameReading.of_codec {s : Setting} {layout : Layout} {value : Value} {text : String}
    {α : Type} (codec : Codec α) (held : Declarations → Option α) (parsed : Except PropertyError α)
    (shown : ∀ d, d.value? (.inl s) = (held d).map codec.write)
    (reached : ∀ a, ∃ d, held d = some a)
    (read : s.read layout text = parsed.map fun a => some (codec.write a))
    (decoded : ∀ a, parsed = .ok a ↔ codec.write a = value) : s.SameReading layout value text where
  taken d := by
    rw [read]
    constructor
    · rintro ⟨d', assigned⟩
      have here : d'.value? (.inl s) = some value := (assigned.value? (.inl s)).trans (if_pos rfl)
      rw [shown] at here
      obtain ⟨a, -, written⟩ := Option.map_eq_some_iff.1 here
      exact ⟨_, except_map_eq_ok_iff.2 ⟨a, (decoded a).2 written, rfl⟩⟩
    · rintro ⟨v, ok⟩
      obtain ⟨a, found, -⟩ := except_map_eq_ok_iff.1 ok
      obtain ⟨source, holds⟩ := reached a
      have here : source.value? (.inl s) = some value := by
        rw [shown, holds, Option.map_some, (decoded a).1 found]
      exact Declarations.exists_assigned_of_value? here d
  same v ok := by
    rw [read] at ok
    obtain ⟨a, found, rfl⟩ := except_map_eq_ok_iff.1 ok
    rw [(decoded a).1 found]

namespace Properties

/-- The decimal text of an integer of 64 bits is read as the number that it is narrowed to. -/
theorem read_decimal_eq_ok_iff {key : String} {n : Int64} {a : Int32} :
    read key (Text.decimal n.toInt) = .ok a ↔ (Codec.integer Int32).write a = .integer n := by
  rw [read_eq_ok_iff, parse?_int32_eq_some_iff, Text.int?_decimal]
  show _ ↔ Value.integer (Int64.ofInt (FixedWidth.toInt a)) = .integer n
  constructor
  · intro same
    rw [← Option.some.inj same, Int64.ofInt_toInt]
  · intro written
    have low : -2147483648 ≤ FixedWidth.toInt a := FixedWidth.least_le a
    have high : FixedWidth.toInt a ≤ 2147483647 := FixedWidth.le_greatest a
    have wide : (Int64.ofInt (FixedWidth.toInt a)).toInt = FixedWidth.toInt a :=
      FixedWidth.toInt_ofInt (α := Int64) _ (Int.le_trans (by decide) low)
        (Int.le_trans high (by decide))
    rw [← Value.integer.inj written, wide]

/-- A text is read as the member of an enumeration that has it as its name. -/
theorem read_name_eq_ok_iff {α : Type} [Enumeration α] [Enumeration.Lawful α] {key text : String}
    {a : α} : read key text = .ok a ↔ (Codec.choice α).write a = .string text := by
  constructor
  · intro found
    exact congrArg Value.string (name_of_read found)
  · intro written
    have named : Enumeration.name a = text := Value.string.inj written
    rw [read_eq_ok_iff, ← named]
    exact Enumeration.ofName?_name a

end Properties

namespace Setting

variable (layout : Layout)

theorem sameReading_number (s : NumberSetting) (n : Int64) :
    (number s).SameReading layout (.integer n) (Text.decimal n.toInt) :=
  .of_codec (.integer Int32) (fun d => d.settings.number s) _ (fun _ => rfl)
    (fun a => ⟨{ settings := { number := fun _ => some a } }, rfl⟩) rfl
    fun _ => Properties.read_decimal_eq_ok_iff

theorem sameReading_text (s : TextSetting) (v : String) :
    (text s).SameReading layout (.string v) v := by
  refine .of_codec .string (fun d => d.settings.text s) (.ok v) (fun _ => rfl)
    (fun a => ⟨{ settings := { text := fun _ => some a } }, rfl⟩) rfl fun a => ?_
  show _ ↔ Value.string a = .string v
  rw [Except.ok.injEq, Value.string.injEq, eq_comm]

theorem sameReading_buildStrategy (v : String) :
    buildStrategy.SameReading layout (.string v) v :=
  .of_codec (.choice BuildStrategy) Declarations.buildStrategy _ (fun _ => rfl)
    (fun a => ⟨{ buildStrategy := some a }, rfl⟩) rfl fun _ => Properties.read_name_eq_ok_iff

theorem sameReading_resourceFileType (v : String) :
    resourceFileType.SameReading layout (.string v) v :=
  .of_codec (.choice ResourceFileType) Declarations.resourceFileType _ (fun _ => rfl)
    (fun a => ⟨{ resourceFileType := some a }, rfl⟩) rfl fun _ => Properties.read_name_eq_ok_iff

/-- A path that is absolute is not joined onto the base directory. -/
theorem sameReading_path (s : PathSetting) {v : String} (absolute : Path.isAbsolute ⟨v⟩ = true) :
    (path s).SameReading layout (.string v) v := by
  refine .of_codec .path (fun d => d.settings.path s) (.ok ⟨v⟩) (fun _ => rfl)
    (fun a => ⟨{ settings := { path := fun _ => some a } }, rfl⟩) ?_ fun a => ?_
  · show Except.ok (some (Codec.path.write (layout.base.join v))) = _
    rw [Path.join_of_isAbsolute _ _ absolute]
    rfl
  · obtain ⟨written⟩ := a
    show _ ↔ Value.string written = .string v
    rw [Except.ok.injEq, Path.mk.injEq, Value.string.injEq, eq_comm]

end Setting

/-! ## Two extensions -/

namespace Properties

theorem override?_insert_self (p : Properties) (key : String) {text : String}
    (filled : Text.blank text = false) : override? (p.insert key text) key = some text :=
  override?_eq_some_iff.2 ⟨by rw [OrderedMap.get?_insert, if_pos rfl], filled⟩

theorem override?_insert_of_ne (p : Properties) {key other : String} (different : other ≠ key)
    (text : String) : override? (p.insert key text) other = p.override? other :=
  override?_congr (by rw [OrderedMap.get?_insert, if_neg different])

end Properties

namespace Extension

variable {e e' : Extension} {s : Setting} {value : Value} {text : String} {d : Declarations}

/-- A block of one entry is accepted if its assignment is. -/
theorem apply_one_eq_ok_iff {name : String} : e.apply [(name, value)] = ⟨e', none⟩ ↔
    ∃ d, Assigned e.declarations name value d ∧ e' = { e with declarations := d } := by
  rw [apply_eq_ok_iff]
  refine exists_congr fun d => and_congr_left fun _ => ?_
  constructor
  · intro walk
    cases walk with
    | step taken rest =>
      cases rest
      exact Declarations.assign?_eq_iff.1 taken
  · intro assigned
    exact .step (Declarations.assign?_eq_iff.2 assigned) (.done d)

theorem apply_one_error_eq_none_iff {name : String} :
    (e.apply [(name, value)]).error = none ↔ ∃ d, Assigned e.declarations name value d := by
  constructor
  · intro accepted
    have applied : e.apply [(name, value)] = ⟨(e.apply [(name, value)]).target, none⟩ :=
      congrArg (Outcome.mk _) accepted
    obtain ⟨d, assigned, -⟩ := apply_one_eq_ok_iff.1 applied
    exact ⟨d, assigned⟩
  · rintro ⟨d, assigned⟩
    rw [apply_one_eq_ok_iff.2 ⟨d, assigned, rfl⟩]

/-- An override that is not blank decides, whatever is declared. -/
theorem value_overriding (e : Extension) (s : Setting) (filled : Text.blank text = false) :
    (e.overriding s.key text).value s = s.read e.project.layout text :=
  value_of_override (Properties.override?_insert_self e.properties s.key filled)

/-- An assigned value stands unless it is overridden. -/
theorem value_of_assigned (assigned : Assigned e.declarations s.name value d)
    (bare : e.properties.override? s.key = none) :
    ({ e with declarations := d } : Extension).value s = .ok (some value) := by
  have here : d.value? (.inl s) = some value := (assigned.value? (.inl s)).trans (if_pos rfl)
  have resolved : ({ e with declarations := d } : Extension).value s =
      .ok ((d.value? (.inl s)).or _) :=
    value_of_no_override bare
  rw [resolved, here, Option.some_or]

/-- What an assignment of a setting leaves beside the setting is what an override of it leaves. -/
theorem resolveAll_of_assigned (assigned : Assigned e.declarations s.name value d)
    (same : ({ e with declarations := d } : Extension).value s = (e.overriding s.key text).value s) :
    ({ e with declarations := d } : Extension).resolveAll = (e.overriding s.key text).resolveAll := by
  have others {i : Plain} (different : i ≠ .inl s) : d.value? i = e.declarations.value? i :=
    (assigned.value? i).trans (if_neg fun named => different (Plain.name_injective named.symm))
  refine resolveAll_congr (value_congr rfl fun t => ?_) ?_ (fun k => ?_) fun k => ?_
  · by_cases here : t = s
    · rw [here]
      exact .inl same
    · have key : t.key ≠ s.key := fun keys => here (Setting.key_injective keys)
      refine .inr ⟨(Properties.override?_insert_of_ne e.properties key text).symm, others ?_⟩
      exact fun plain => here (Sum.inl.inj plain)
  · funext t
    exact Option.map_injective Codec.string.write_injective (others Sum.inr_ne_inl)
  · exact (assigned.get_nested k).trans (if_neg (Declarations.plain_ne_nested (.inl s) k))
  · rcases assigned.get_collection k with ⟨named, -⟩ | ⟨named, -⟩ | ⟨-, -, left⟩
    · exact absurd named (Declarations.plain_ne_plural (.inl s) k)
    · exact absurd named (Declarations.plain_ne_singular (.inl s) k)
    · exact left

/-- **If both decoders take the same and read the same, the two ways are interchangeable.** -/
theorem interchangeable (reading : s.SameReading e.project.layout value text)
    (filled : Text.blank text = false) : e.Interchangeable s value text where
  accepted := by
    rw [apply_one_error_eq_none_iff, value_overriding e s filled]
    exact reading.taken e.declarations
  overridden v ok := by
    rw [value_overriding e s filled] at ok
    exact reading.same v ok
  declared e' applied bare := by
    obtain ⟨d, assigned, rfl⟩ := apply_one_eq_ok_iff.1 applied
    exact value_of_assigned assigned bare
  snapshot e' applied bare := by
    obtain ⟨d, assigned, rfl⟩ := apply_one_eq_ok_iff.1 applied
    obtain ⟨v, ok⟩ := (reading.taken e.declarations).1 ⟨d, assigned⟩
    refine resolveAll_of_assigned assigned ?_
    rw [value_of_assigned assigned bare, value_overriding e s filled, ok, reading.same v ok]

/-! ## All kinds of settings -/

/-- A setting is accepted from a block exactly if its property parses. -/
theorem accepted_iff {α : Type} {codec : Codec α} {parsed : Except PropertyError α}
    (reading : s.SameReading e.project.layout value text)
    (read : s.read e.project.layout text = parsed.map fun a => some (codec.write a)) :
    (e.apply [(s.name, value)]).error = none ↔ ∃ a, parsed = .ok a := by
  rw [apply_one_error_eq_none_iff, reading.taken, read]
  constructor
  · rintro ⟨v, ok⟩
    obtain ⟨a, found, -⟩ := except_map_eq_ok_iff.1 ok
    exact ⟨a, found⟩
  · rintro ⟨a, found⟩
    exact ⟨_, except_map_eq_ok_iff.2 ⟨a, found, rfl⟩⟩

/-- The integers that 32 bits hold. -/
theorem exists_int32_iff {n : Int} :
    (∃ a : Int32, n = FixedWidth.toInt a) ↔ -2147483648 ≤ n ∧ n ≤ 2147483647 := by
  constructor
  · rintro ⟨a, rfl⟩
    exact ⟨FixedWidth.least_le a, FixedWidth.le_greatest a⟩
  · rintro ⟨low, high⟩
    exact ⟨FixedWidth.ofInt n, (FixedWidth.toInt_ofInt n low high).symm⟩

/-- A path is accepted as it stands, and a property of the same text is seen from the base. -/
theorem path_declared_or_joined (e : Extension) (s : PathSetting) (v : String)
    (filled : Text.blank v = false) :
    ∃ e', e.apply [(s.name, .string v)] = ⟨e', none⟩ ∧
      (e.properties.override? s.key = none → e'.path s = ⟨v⟩) ∧
      (e.overriding s.key v).path s = e.project.layout.base.join v := by
  have assigned : Assigned e.declarations (Setting.path s).name (.string v) _ :=
    .settings (.path s ⟨v⟩)
  refine ⟨_, apply_one_eq_ok_iff.2 ⟨_, assigned, rfl⟩, fun bare => ?_, ?_⟩
  · have stands := value_of_assigned assigned bare
    exact Codec.path.write_injective (Option.some.inj (Except.ok.inj stands))
  · have joined := value_overriding e (.path s) filled
    exact Codec.path.write_injective (Option.some.inj (Except.ok.inj joined))

/-- **A block and a property that give a setting the same value agree.**

    * For numbers, the block assigns an integer of 64 bits and the property is its decimal text;
      both are accepted within 32 bits only.
    * For texts and enumerated settings, both have the same text; texts are always accepted, and the
      others just for the names of the members.
    * A path in a block is kept, and a path in a property is joined onto the base directory; an
      absolute one is the same either way. -/
theorem override_or_declare (e : Extension) :
    (∀ (s : NumberSetting) (n : Int64),
      e.Interchangeable (.number s) (.integer n) (Text.decimal n.toInt) ∧
      ((e.apply [(s.name, .integer n)]).error = none ↔
        -2147483648 ≤ n.toInt ∧ n.toInt ≤ 2147483647)) ∧
    (∀ (s : TextSetting) (v : String), Text.blank v = false →
      e.Interchangeable (.text s) (.string v) v ∧ (e.apply [(s.name, .string v)]).error = none) ∧
    (∀ v, Text.blank v = false → e.Interchangeable .buildStrategy (.string v) v ∧
      ((e.apply [("buildStrategy", .string v)]).error = none ↔
        v ∈ ["s2i", "docker", "jib", "buildpacks"])) ∧
    (∀ v, Text.blank v = false → e.Interchangeable .resourceFileType (.string v) v ∧
      ((e.apply [("resourceFileType", .string v)]).error = none ↔ v ∈ ["json", "yaml"])) ∧
    ∀ (s : PathSetting) (v : String), Text.blank v = false →
      (∃ e', e.apply [(s.name, .string v)] = ⟨e', none⟩ ∧
        (e.properties.override? s.key = none → e'.path s = ⟨v⟩) ∧
        (e.overriding s.key v).path s = e.project.layout.base.join v) ∧
      (Path.isAbsolute ⟨v⟩ = true → e.Interchangeable (.path s) (.string v) v) := by
  refine ⟨fun s n => ?_, fun s v filled => ?_, fun v filled => ?_, fun v filled => ?_,
    fun s v filled => ⟨path_declared_or_joined e s v filled, fun absolute => ?_⟩⟩
  · have reading := Setting.sameReading_number e.project.layout s n
    refine ⟨interchangeable reading (Text.blank_decimal _), (accepted_iff reading rfl).trans ?_⟩
    rw [← exists_int32_iff]
    refine exists_congr fun a => ?_
    rw [Properties.read_eq_ok_iff, Properties.parse?_int32_eq_some_iff, Text.int?_decimal,
      Option.some.injEq]
  · have reading := Setting.sameReading_text e.project.layout s v
    refine ⟨interchangeable reading filled, ?_⟩
    exact apply_one_error_eq_none_iff.2 ((reading.taken _).2 ⟨_, rfl⟩)
  · have reading := Setting.sameReading_buildStrategy e.project.layout v
    refine ⟨interchangeable reading filled, (accepted_iff reading rfl).trans ?_⟩
    refine Iff.trans (exists_congr fun a => Properties.read_eq_ok_iff) ?_
    exact Enumeration.exists_ofName?_iff (α := BuildStrategy)
  · have reading := Setting.sameReading_resourceFileType e.project.layout v
    refine ⟨interchangeable reading filled, (accepted_iff reading rfl).trans ?_⟩
    refine Iff.trans (exists_congr fun a => Properties.read_eq_ok_iff) ?_
    exact Enumeration.exists_ofName?_iff (α := ResourceFileType)
  · exact interchangeable (Setting.sameReading_path e.project.layout s absolute) filled

/-- Just above the range of 32 bits both ways are refused, and a relative path tells them apart. -/
theorem override_or_declare_limits :
    let e : Extension := ⟨⟨.conventional ⟨"/p"⟩, .empty⟩, {}⟩
    (e.apply [("pushRetries", .integer 2147483648)]).error ≠ none ∧
    (∀ v, (e.overriding "jkube.docker.push.retries" (Text.decimal 2147483648)).value
      (.number .pushRetries) ≠ .ok v) ∧
    (e.overriding "jkube.docker.push.retries" (Text.decimal 2147483647)).value
      (.number .pushRetries) = .ok (some (.integer 2147483647)) ∧
    Text.blank "work" = false ∧ ∃ e', e.apply [("workDirectory", .string "work")] = ⟨e', none⟩ ∧
      e'.path .workDirectory = ⟨"work"⟩ ∧
      (e.overriding "jkube.workDir" "work").path .workDirectory = ⟨"/p/work"⟩ := by
  intro e
  obtain ⟨number, -, -, -, path⟩ := override_or_declare e
  obtain ⟨above, aboveRange⟩ := number .pushRetries 2147483648
  obtain ⟨within, withinRange⟩ := number .pushRetries 2147483647
  have refused : (e.apply [("pushRetries", .integer 2147483648)]).error ≠ none := by
    intro accepted
    exact absurd (aboveRange.1 accepted).2 (by decide)
  have filled : Text.blank "work" = false := by decide
  obtain ⟨⟨e', applied, kept, joined⟩, -⟩ := path .workDirectory "work" filled
  refine ⟨refused, fun v ok => refused (above.accepted.2 ⟨v, ok⟩), ?_, filled, e', applied,
    kept rfl, joined.trans ?_⟩
  · obtain ⟨v, ok⟩ := within.accepted.1 (withinRange.2 (by decide))
    exact ok.trans (congrArg Except.ok (within.overridden v ok))
  · decide

end Extension

end DeployConfig
