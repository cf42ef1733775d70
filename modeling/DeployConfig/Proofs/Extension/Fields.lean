/-
  The written fields of a snapshot.

  The names of the fields are fixed and distinct, though a structured field that is undeclared is
  left out.  So looking up the name of a setting finds its value, and nothing else
  (`lookup_fields`).

  Without the derived fields and the unset ones, the rest is a block of assignments
  (`Snapshot.toBlock`).  It consists of plain values, fields that are one block each and
  collections, each as the declarations of the snapshot hold it (`toBlock_eq`).
-/
import DeployConfig.Proofs.Extension.Snapshot

namespace DeployConfig

open Bindable
open Declarations (Nested Collection)

namespace Fields

theorem present_append (first second : Fields) :
    present (first ++ second) = first.present ++ second.present := List.filterMap_append

end Fields

namespace Snapshot

/-! ## The fields of plain values -/

/-- **A snapshot writes every setting under its own name.** -/
theorem settingFields_eq (s : Snapshot) :
    s.settingFields = order.map fun setting => (setting.name, s.value setting) := rfl

theorem blockTextFields_eq (s : Snapshot) :
    s.blockTextFields = blockTexts.map fun t => (t.name, (s.blockText t).map Value.string) := rfl

/-! ## Names -/

/-- All names that fields can have, in their order. -/
def fieldNames : List String :=
  ["runtimeMode", "platformMode", "resourceClassifier", "supportOauthClients", "buildStrategy",
    "resourceFileType", "dockerAccessRequired"] ++ order.map Setting.name ++
    blockTexts.map BlockText.name ++ ["access", "resources", "enricher", "generator", "images",
    "machine", "authConfig", "mappings"]

theorem distinct_fieldNames : fieldNames.Nodup := by decide

theorem sublist_structuredFields (s : Snapshot) :
    (s.structuredFields.map Prod.fst).Sublist ["access", "resources", "enricher", "generator",
      "images", "machine", "authConfig", "mappings"] := by
  have one (name : String) (o : Option Value) :
      (((o.map fun v => (name, some v)).toList).map Prod.fst).Sublist [name] := by
    cases o with
    | none => exact List.nil_sublist _
    | some v => exact List.Sublist.refl _
  simp only [structuredFields, List.map_append]
  exact (((((((one _ _).append (one _ _)).append (one _ _)).append (one _ _)).append
    (one _ _)).append (one _ _)).append (one _ _)).append (one _ _)

theorem sublist_fields (s : Snapshot) : (s.fields.map Prod.fst).Sublist fieldNames := by
  rw [fields, settingFields_eq, blockTextFields_eq]
  have settings : (order.map fun setting => (setting.name, s.value setting)).map Prod.fst =
      order.map Setting.name := by rw [List.map_map]; rfl
  have texts : (blockTexts.map fun t => (t.name, (s.blockText t).map Value.string)).map Prod.fst =
      blockTexts.map BlockText.name := by rw [List.map_map]; rfl
  simp only [List.map_append, settings, texts]
  exact (((List.Sublist.refl _).append (List.Sublist.refl _)).append
    (List.Sublist.refl _)).append s.sublist_structuredFields

/-! ## Looking up a setting -/

/-- The order of a snapshot has all settings but the enumerated ones. -/
theorem mem_order {setting : Setting} (strategy : setting ≠ .buildStrategy)
    (type : setting ≠ .resourceFileType) : setting ∈ order := by
  have all : ∀ s ∈ settings, s ≠ .buildStrategy → s ≠ .resourceFileType → s ∈ order := by decide
  exact all setting (mem_settings setting) strategy type

theorem mem_fields (s : Snapshot) (setting : Setting) :
    (setting.name, s.value setting) ∈ s.fields := by
  have before {field : String × Option Value} (h : field ∈ s.derivedFields) : field ∈ s.fields :=
    List.mem_append_left _ (List.mem_append_left _ (List.mem_append_left _ h))
  by_cases strategy : setting = .buildStrategy
  · subst strategy
    exact before (List.mem_of_getElem? (i := 4) rfl)
  by_cases type : setting = .resourceFileType
  · subst type
    exact before (List.mem_of_getElem? (i := 5) rfl)
  have listed := List.mem_map_of_mem (f := fun t => (t.name, s.value t)) (mem_order strategy type)
  rw [← settingFields_eq] at listed
  exact List.mem_append_left _ (List.mem_append_left _ (List.mem_append_right _ listed))

/-- **Under the name of a setting stands its value.** -/
theorem lookup_fields (s : Snapshot) (setting : Setting) :
    s.fields.lookup setting.name = some (s.value setting) :=
  lookup_eq_of_mem (distinct_fieldNames.sublist s.sublist_fields) (s.mem_fields setting)

/-! ## The snapshot as a block -/

/-- The fields that no block assigns: they follow from others or never change. -/
def derivedNames : List String :=
  ["runtimeMode", "platformMode", "resourceClassifier", "supportOauthClients",
    "dockerAccessRequired"]

/-- The fields of a snapshot that are set and not derived, as the assignments of a block. -/
def toBlock (s : Snapshot) : Block :=
  Fields.present (s.fields.filter fun field => field.1 ∉ derivedNames)

/-- The field of a plain value. -/
def plainField (s : Snapshot) (i : Plain) : String × Option Value :=
  (i.name, s.declarations.value? i)

/-- The field of one block. -/
def nestedField (s : Snapshot) (k : Nested) : String × Option Value :=
  (k.name, (k.part.get s.declarations).map (Codec.nested k.Target).write)

/-- The field of a collection. -/
def collectionField (s : Snapshot) (k : Collection) : String × Option Value :=
  (k.plural, (k.part.get s.declarations).items.map (Codec.nestedList k.Target).write)

/-- The plain values in the order in which a snapshot writes them. -/
def plainOrder : List Plain :=
  .inl .buildStrategy :: .inl .resourceFileType :: (order.map .inl ++ blockTexts.map .inr)

/-- The structured fields, declared or not. -/
def sections (s : Snapshot) : Fields :=
  [s.nestedField .access, s.nestedField .resources, s.nestedField .enricher,
    s.nestedField .generator, s.collectionField .images, s.nestedField .machine,
    s.nestedField .authConfig, s.collectionField .mappings]

/-- The fields that a block can assign, set or not. -/
def assignable (s : Snapshot) : Fields := plainOrder.map s.plainField ++ s.sections

/-- The names of the fields that a block can assign. -/
def assignableNames : List String := fieldNames.filter fun name => name ∉ derivedNames

theorem names_assignable (s : Snapshot) : s.assignable.map Prod.fst = assignableNames := by
  rw [assignable, List.map_append, List.map_map]
  rfl

theorem distinct_assignable (s : Snapshot) : (s.assignable.map Prod.fst).Nodup := by
  rw [names_assignable]
  exact distinct_fieldNames.filter _

/-- The enumerated settings are written among the derived fields. -/
theorem present_derivedFields (s : Snapshot) :
    Fields.present (s.derivedFields.filter fun field => field.1 ∉ derivedNames) =
      Fields.present [s.plainField (.inl .buildStrategy), s.plainField (.inl .resourceFileType)] :=
  rfl

/-- Fields whose names a block can assign stay when the derived ones are left out. -/
theorem filter_eq_self {fields : Fields}
    (named : ∀ field ∈ fields, field.1 ∈ assignableNames) :
    fields.filter (fun field => field.1 ∉ derivedNames) = fields :=
  List.filter_eq_self.2 fun field member => (List.mem_filter.1 (named field member)).2

/-- The plain fields behind the derived ones are those of the plain values. -/
theorem plain_eq (s : Snapshot) : s.settingFields ++ s.blockTextFields =
    (order.map Sum.inl ++ blockTexts.map Sum.inr).map s.plainField := by
  rw [settingFields_eq, blockTextFields_eq, List.map_append, List.map_map, List.map_map]
  refine congrArg (· ++ _) (List.map_congr_left fun setting _ => ?_)
  show _ = (setting.name, s.declarations.value? (.inl setting))
  rw [value?_declarations]

/-- The structured fields are the sections that are declared. -/
theorem structuredFields_eq (s : Snapshot) : s.structuredFields =
    s.sections.flatMap fun field => (field.2.map fun v => (field.1, some v)).toList := by
  simp only [structuredFields, sections, List.flatMap_cons, List.flatMap_nil, List.append_nil,
    List.append_assoc]
  rfl

theorem present_structuredFields (s : Snapshot) :
    s.structuredFields.present = s.sections.present := by
  rw [structuredFields_eq]
  induction s.sections with
  | nil => rfl
  | cons field rest ih =>
    obtain ⟨name, held⟩ := field
    rw [List.flatMap_cons, Fields.present_append, ih]
    cases held <;> rfl

/-- **The block of a snapshot has the fields that a block can assign and that are set.** -/
theorem toBlock_eq (s : Snapshot) : s.toBlock = s.assignable.present := by
  have plain : ((order.map Sum.inl ++ blockTexts.map Sum.inr).map s.plainField).filter
      (fun field => field.1 ∉ derivedNames) =
        (order.map Sum.inl ++ blockTexts.map Sum.inr).map s.plainField := by
    refine filter_eq_self fun field member => ?_
    obtain ⟨i, listed, rfl⟩ := List.mem_map.1 member
    rw [← names_assignable s, assignable, List.map_append]
    have ordered : i ∈ plainOrder := List.mem_cons_of_mem _ (List.mem_cons_of_mem _ listed)
    exact List.mem_append_left _ (List.mem_map_of_mem (List.mem_map_of_mem ordered))
  have structured : s.structuredFields.filter (fun field => field.1 ∉ derivedNames) =
      s.structuredFields := by
    refine filter_eq_self fun field member => ?_
    have listed : field.1 ∈ s.sections.map Prod.fst :=
      s.sublist_structuredFields.subset (List.mem_map_of_mem member)
    rw [← names_assignable s, assignable, List.map_append]
    exact List.mem_append_right _ listed
  rw [toBlock, fields, List.append_assoc s.derivedFields, plain_eq, List.filter_append,
    List.filter_append, plain, structured, Fields.present_append, Fields.present_append,
    present_derivedFields, present_structuredFields, ← Fields.present_append,
    ← Fields.present_append]
  rfl

end Snapshot

end DeployConfig
