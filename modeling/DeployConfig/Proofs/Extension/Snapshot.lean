/-
  What a snapshot holds and how it is written.

  A snapshot amounts to declarations: every setting declared at its effective value
  (`Snapshot.declarations`).  An extension has a snapshot exactly if every setting resolves, and the
  snapshot then holds what each setting resolves to and what is declared beside the settings
  (`Extension.resolveAll_eq_ok_iff`).
-/
import DeployConfig.Proofs.Extension.Resolution
import DeployConfig.Proofs.Steps

namespace DeployConfig

open Declarations (Nested Collection)

/-- Only a value that is `b` has the written form of `b`. -/
theorem Codec.map_write_eq_iff {α ε : Type} (codec : Codec α) [codec.Lawful] {x : Except ε α}
    {b : α} : (x.map fun a => some (codec.write a)) = .ok (some (codec.write b)) ↔ x = .ok b := by
  cases x with
  | error e => simp [Except.map]
  | ok a => simp [Except.map, codec.write_injective.eq_iff]

namespace Snapshot

/-- The written value of a setting, none if it is unset. -/
def value (s : Snapshot) : Setting → Option Value
  | .flag f => some (.boolean (s.flag f))
  | .number n => some ((Codec.integer Int32).write (s.number n))
  | .text t => (s.text t).map Value.string
  | .path p => some (Codec.path.write (s.path p))
  | .buildStrategy => some ((Codec.choice BuildStrategy).write s.buildStrategy)
  | .resourceFileType => some ((Codec.choice ResourceFileType).write s.resourceFileType)

/-- The settings that are not enumerated, in the order in which a snapshot writes them: that of the
    catalog, but with `forcePull` ahead of the registries. -/
def order : List Setting :=
  let (before, after) := (settings.filter fun s =>
    s != .buildStrategy && s != .resourceFileType && s != .flag .forcePull).span
      (· != .text .registry)
  before ++ .flag .forcePull :: after

/-- The declarations that a snapshot amounts to. -/
def declarations (s : Snapshot) : Declarations where
  settings := {
    flag := fun f => some (s.flag f)
    number := fun n => some (s.number n)
    text := s.text
    path := fun p => some (s.path p)
    blockText := s.blockText }
  buildStrategy := some s.buildStrategy
  resourceFileType := some s.resourceFileType
  access := s.access
  resources := s.resources
  enricher := s.enricher
  generator := s.generator
  images := ⟨s.images⟩
  machine := s.machine
  authConfig := s.authConfig
  mappings := ⟨s.mappings⟩

@[simp] theorem value?_declarations (s : Snapshot) (setting : Setting) :
    s.declarations.value? (.inl setting) = s.value setting := by
  cases setting <;> rfl

end Snapshot

namespace Extension

/-- What a snapshot holds, part by part. -/
theorem resolveAll_eq_ok_iff_parts {e : Extension} {s : Snapshot} :
    e.resolveAll = .ok s ↔
      e.buildStrategy = .ok s.buildStrategy ∧ e.resourceFileType = .ok s.resourceFileType ∧
      (∀ n, e.number n = .ok (s.number n)) ∧ e.flag = s.flag ∧ e.text = s.text ∧
      e.path = s.path ∧ e.declarations.settings.blockText = s.blockText ∧
      (∀ k : Nested, k.part.get e.declarations = k.part.get s.declarations) ∧
      (∀ k : Collection, k.part.get e.declarations = k.part.get s.declarations) := by
  constructor
  · intro h
    -- Five steps can fail; the rest of the snapshot is taken over as it is.
    obtain ⟨strategy', strategy, h⟩ := except_bind_eq_ok_iff.1 h
    obtain ⟨type', type, h⟩ := except_bind_eq_ok_iff.1 h
    obtain ⟨wait', wait, h⟩ := except_bind_eq_ok_iff.1 h
    obtain ⟨retries', retries, h⟩ := except_bind_eq_ok_iff.1 h
    obtain ⟨connections', connections, h⟩ := except_bind_eq_ok_iff.1 h
    cases h
    refine ⟨strategy, type, ?_, rfl, rfl, rfl, rfl, ?_, ?_⟩
    · intro n
      cases n <;> assumption
    · intro k
      cases k <;> rfl
    · intro k
      cases k <;> rfl
  · rintro ⟨strategy, type, number, flag, text, path, blockText, nested, collection⟩
    simp only [resolveAll, strategy, type, number, bind, Except.bind, pure, Except.pure]
    obtain ⟨_, _, _, _, _, _, _, _, _, _, _, _, _, _, _⟩ := s
    cases flag
    cases text
    cases path
    cases blockText
    cases nested .access
    cases nested .resources
    cases nested .enricher
    cases nested .generator
    cases nested .machine
    cases nested .authConfig
    cases congrArg Repeatable.items (collection .images)
    cases congrArg Repeatable.items (collection .mappings)
    congr 2
    funext n
    cases n <;> rfl

/-- **A snapshot exists if every setting resolves, and holds what each of them resolves to.** -/
theorem resolveAll_eq_ok_iff {e : Extension} {s : Snapshot} :
    e.resolveAll = .ok s ↔
      (∀ setting, e.value setting = .ok (s.value setting)) ∧
      e.declarations.settings.blockText = s.blockText ∧
      (∀ k : Nested, k.part.get e.declarations = k.part.get s.declarations) ∧
      (∀ k : Collection, k.part.get e.declarations = k.part.get s.declarations) := by
  rw [resolveAll_eq_ok_iff_parts]
  constructor
  · rintro ⟨strategy, type, number, flag, text, path, structured⟩
    refine ⟨?_, structured⟩
    intro setting
    cases setting with
    | flag f => simp only [value, Snapshot.value, flag]
    | number n => simp only [value, Snapshot.value, number, Except.map]
    | text t => simp only [value, Snapshot.value, text]
    | path p => simp only [value, Snapshot.value, path]
    | buildStrategy => simp only [value, Snapshot.value, strategy, Except.map]
    | resourceFileType => simp only [value, Snapshot.value, type, Except.map]
  · rintro ⟨values, structured⟩
    refine ⟨?_, ?_, ?_, ?_, ?_, ?_, structured⟩
    · exact (Codec.map_write_eq_iff _).1 (values .buildStrategy)
    · exact (Codec.map_write_eq_iff _).1 (values .resourceFileType)
    · intro n
      exact (Codec.map_write_eq_iff _).1 (values (.number n))
    · funext f
      have same := values (.flag f)
      simpa only [value, Snapshot.value, Except.ok.injEq, Option.some.injEq, Value.boolean.injEq]
        using same
    · funext t
      have same := values (.text t)
      simp only [value, Snapshot.value, Except.ok.injEq] at same
      exact Option.map_injective (fun _ _ => Value.string.inj) same
    · funext p
      have same := values (.path p)
      simp only [value, Snapshot.value, Except.ok.injEq, Option.some.injEq] at same
      exact Codec.path.write_injective same

end Extension

end DeployConfig
