/-
  Effective paths.

  A setting that is a path has one of three sources, and two of them start at the root directory,
  each on its own account: an override is joined onto the base directory unless it is absolute
  itself, and a default is a place inside one of the directories of the project, which all start
  with the base.  A declared path is kept as it stands.

  So a relative declaration that nothing overrides is the only way to an effective path that is not
  absolute (`Extension.effective_paths`).
-/
import DeployConfig.Proofs.Extension.Resolution

namespace DeployConfig

/-! ## Joined paths -/

namespace Path

/-- What stands between a path and the relative one that is joined onto it. -/
def slashAfter (base : Path) : String := if base.text.toList.getLast? = some '/' then "" else "/"

/-- A relative path joined onto an absolute one follows it, with one slash between them. -/
theorem text_join {base : Path} {tail : String} (absolute : base.isAbsolute = true)
    (relative : isAbsolute ⟨tail⟩ = false) :
    (base.join tail).text = base.text ++ base.slashAfter ++ tail := by
  have relativeTail : startsAtRoot tail.toList = false := relative
  have written : base.text.toList ≠ [] := by
    intro empty
    rw [isAbsolute, empty] at absolute
    cases absolute
  obtain ⟨last, ends⟩ := Option.ne_none_iff_exists'.1 (mt List.getLast?_eq_none_iff.1 written)
  have between : separator base.text.toList = base.slashAfter.toList := by
    rw [separator, slashAfter, ends]
    by_cases slash : last = '/' <;> simp [slash]
  apply String.toList_injective
  rw [join, joinChars, relativeTail, if_neg Bool.false_ne_true, String.toList_ofList, between,
    String.toList_append, String.toList_append]

end Path

/-! ## Places of a project -/

namespace Layout

theorem ofBase?_eq_some_iff {base : Path} {layout : Layout} :
    ofBase? base = some layout ↔ base.isAbsolute = true ∧ conventional base = layout := by
  rw [ofBase?]
  by_cases absolute : base.isAbsolute = true <;> simp [absolute]

/-- Every place in a project with an absolute base is absolute. -/
theorem isAbsolute_place {base : Path} (absolute : base.isAbsolute = true) (place : Place) :
    ((conventional base).place place).isAbsolute = true :=
  Path.isAbsolute_joinAll place.segments (isAbsolute_directory_conventional absolute place.directory)

end Layout

/-! ## The three sources of a path -/

namespace Properties

/-- No property of the key is there, or it is blank. -/
def Unset (p : Properties) (key : String) : Prop :=
  ∀ text, p.get? key = some text → Text.blank text = true

theorem override?_eq_none_iff {p : Properties} {key : String} :
    p.override? key = none ↔ p.Unset key := by
  simp [override?, Unset, Option.filter_eq_none_iff]

/-- A key is unset, or a text that is not blank overrides it. -/
theorem unset_or_override (p : Properties) (key : String) :
    p.Unset key ∨ ∃ text, p.get? key = some text ∧ Text.blank text = false := by
  cases overridden : p.override? key with
  | none => exact .inl (override?_eq_none_iff.1 overridden)
  | some text => exact .inr ⟨text, override?_eq_some_iff.1 overridden⟩

end Properties

namespace Extension

variable {e : Extension} {s : PathSetting}

theorem path_of_override {text : String} (present : e.properties.get? s.key = some text)
    (filled : Text.blank text = false) : e.path s = e.project.layout.base.join text := by
  rw [path_eq, Properties.resolvePath, Properties.pick,
    Properties.override?_eq_some_iff.2 ⟨present, filled⟩]
  rfl

theorem path_of_unset (unset : e.properties.Unset s.key) :
    e.path s = (e.declarations.settings.path s).getD (e.project.layout.place s.fallback) := by
  rw [path_eq, Properties.resolvePath, Properties.pick, Properties.override?_eq_none_iff.2 unset]

/-- **Effective paths are absolute**, those apart that are declared otherwise.  In a project with an
    absolute base, whatever its properties and declarations are:

    * A path is relative exactly if no property overrides it and it is declared as a relative one.
    * A declared path that is not overridden is kept as it stands.
    * An override that is relative follows the base directory, white space at its start and steps
      upwards included, and one that is absolute stands for itself. -/
theorem effective_paths {base : Path} {layout : Layout} (accepted : Layout.ofBase? base = some layout)
    (p : Properties) (d : Declarations) (s : PathSetting) :
    let effective := (Extension.mk ⟨layout, p⟩ d).path s
    (effective.isAbsolute = false ↔ p.Unset s.key ∧
      ∃ declared, d.settings.path s = some declared ∧ declared.isAbsolute = false) ∧
    (p.Unset s.key → ∀ declared, d.settings.path s = some declared → effective = declared) ∧
    ∀ text, p.get? s.key = some text → Text.blank text = false →
      effective = if Path.isAbsolute ⟨text⟩ then ⟨text⟩ else ⟨base.text ++ base.slashAfter ++ text⟩ := by
  intro effective
  obtain ⟨absolute, rfl⟩ := Layout.ofBase?_eq_some_iff.1 accepted
  have overridden {text : String} (present : p.get? s.key = some text)
      (filled : Text.blank text = false) : effective = base.join text :=
    path_of_override (e := ⟨⟨.conventional base, p⟩, d⟩) present filled
  have unset (h : p.Unset s.key) :
      effective = (d.settings.path s).getD ((Layout.conventional base).place s.fallback) :=
    path_of_unset (e := ⟨⟨.conventional base, p⟩, d⟩) h
  refine ⟨⟨fun relative => ?_, ?_⟩, fun h declared here => ?_, fun text present filled => ?_⟩
  · -- Neither an override nor a default can be relative, so the path was declared.
    rcases p.unset_or_override s.key with h | ⟨text, present, filled⟩
    · refine ⟨h, ?_⟩
      rw [unset h] at relative
      cases here : d.settings.path s with
      | some declared =>
        rw [here] at relative
        exact ⟨declared, rfl, relative⟩
      | none =>
        rw [here, Option.getD_none, Layout.isAbsolute_place absolute] at relative
        cases relative
    · rw [overridden present filled, Path.isAbsolute_join text absolute] at relative
      cases relative
  · rintro ⟨h, declared, here, relative⟩
    rwa [unset h, here]
  · rw [unset h, here, Option.getD_some]
  · rw [overridden present filled]
    cases rooted : Path.isAbsolute ⟨text⟩ with
    | true => exact Path.join_of_isAbsolute base text rooted
    | false => exact congrArg Path.mk (Path.text_join absolute rooted)

/-- A padded override that leads upwards follows the base directory, though the declared path is
    absolute; beside it, a relative declaration is kept. -/
theorem effective_paths_padded :
    let p : Properties := OrderedMap.empty.insert "jkube.workDir" " ../w"
    let d : Declarations := { settings := { path := fun
      | .workDirectory => some ⟨"/abs"⟩
      | .jsonLogDir => some ⟨"log"⟩
      | _ => none } }
    let e : Extension := ⟨⟨.conventional ⟨"/p"⟩, p⟩, d⟩
    Layout.ofBase? ⟨"/p"⟩ = some (.conventional ⟨"/p"⟩) ∧ e.path .workDirectory = ⟨"/p/ ../w"⟩ ∧
      e.path .jsonLogDir = ⟨"log"⟩ ∧ (e.path .resourceTargetDirectory).isAbsolute = true := by
  intro p d e
  have accepted : Layout.ofBase? ⟨"/p"⟩ = some (.conventional ⟨"/p"⟩) := by decide
  obtain ⟨-, -, overridden⟩ := effective_paths accepted p d .workDirectory
  obtain ⟨-, declared, -⟩ := effective_paths accepted p d .jsonLogDir
  obtain ⟨relative, -, -⟩ := effective_paths accepted p d .resourceTargetDirectory
  refine ⟨accepted, ?_, ?_, ?_⟩
  · exact (overridden " ../w" (by decide) (by decide)).trans (by decide)
  · exact declared (Properties.override?_eq_none_iff.1 (by decide)) ⟨"log"⟩ rfl
  · rw [← Bool.not_eq_false, relative]
    rintro ⟨-, declared, here, -⟩
    cases here

end Extension

end DeployConfig
