/-
  Every kind of sub-configuration goes round.

  Each instance goes through the slots and the fields of its kind once, naming for each slot the way
  in which it was made.  A kind stands behind the kinds that its blocks hold, so that the instances
  of those make the slots of nested blocks lawful.
-/
import DeployConfig.Proofs.Binding.RoundTrip
import DeployConfig.Config.Access
import DeployConfig.Config.Image
import DeployConfig.Config.Machine
import DeployConfig.Config.Mapping
import DeployConfig.Config.Processors
import DeployConfig.Config.RegistryAuth
import DeployConfig.Config.Resources

namespace DeployConfig

open Bindable
open Bindable.Restores (done optional list map appending)

/-! ## Tables of plain fields -/

instance : RoundTrip Access := .of_restores (by decide) fun t =>
  optional rfl <| optional rfl <| optional rfl <| optional rfl <| optional rfl <| optional rfl <|
    optional rfl <| optional rfl <| optional rfl <| optional rfl <| optional rfl <| optional rfl <|
    optional rfl <| optional rfl <| optional rfl <| optional rfl <| optional rfl <| optional rfl <|
    optional rfl <| optional rfl <| optional rfl <| optional rfl <| optional rfl <| optional rfl <|
    list rfl rfl <| optional rfl <| optional rfl <| done t

instance : RoundTrip RegistryAuth := .of_restores (by decide) fun t =>
  optional rfl <| optional rfl <| optional rfl <| optional rfl <| map rfl rfl <| map rfl rfl <|
    done t

instance : RoundTrip Machine := .of_restores (by decide) fun t =>
  optional rfl <| optional rfl <| optional rfl <| map rfl rfl <| done t

instance : RoundTrip Mapping := .of_restores (by decide) fun t =>
  optional rfl <| optional rfl <| optional rfl <| done t

/-! ## Images -/

instance : RoundTrip AssemblyFile := .of_restores (by decide) fun t =>
  optional rfl <| optional rfl <| done t

instance : RoundTrip Layer := .of_restores (by decide) fun t =>
  optional rfl <| list rfl rfl <| appending <| done t

instance : RoundTrip Assembly := .of_restores (by decide) fun t =>
  optional rfl <| optional rfl <| list rfl rfl <| appending <| done t

instance : RoundTrip Build := .of_restores (by decide) fun t =>
  optional rfl <| optional rfl <| optional rfl <| optional rfl <| optional rfl <|
    list rfl rfl <| list rfl rfl <| map rfl rfl <| map rfl rfl <| list rfl rfl <| list rfl rfl <|
    optional rfl <| done t

instance : RoundTrip Image := .of_restores (by decide) fun t =>
  optional rfl <| optional rfl <| optional rfl <| optional rfl <| done t

/-! ## Resources -/

instance : RoundTrip ConfigMapEntry := .of_restores (by decide) fun t =>
  optional rfl <| optional rfl <| optional rfl <| done t

instance : RoundTrip ConfigMap := .of_restores (by decide) fun t =>
  optional rfl <| list rfl rfl <| appending <| done t

instance : RoundTrip Metadata := .of_restores (by decide) fun t =>
  map rfl rfl <| map rfl rfl <| map rfl rfl <| map rfl rfl <| map rfl rfl <| map rfl rfl <| done t

instance : RoundTrip Resources := .of_restores (by decide) fun t =>
  optional rfl <| optional rfl <| optional rfl <| optional rfl <| optional rfl <| map rfl rfl <|
    optional rfl <| optional rfl <| optional rfl <| list rfl rfl <| list rfl rfl <| done t

/-! ## Processors

  Options are added to the ones that a target has, processor by processor, so their slot is none of
  the plain ones. -/

namespace Processors

/-- The options of one processor, under its name. -/
def readOptions (kind : String) (entry : String × Value) :
    Except BindError (String × OrderedMap String) :=
  (Field.stringMap ⟨kind, entry.1, entry.2⟩).map fun options => (entry.1, options)

/-- Options that can be read are set in turn, and the entries behind them go on from there. -/
theorem setOptions_append (p : Processors) {kind : String} {before : Block}
    {options : List (String × OrderedMap String)}
    (read : before.mapM (readOptions kind) = .ok options) (rest : Block) :
    p.setOptions kind (before ++ rest) =
      setOptions { p with config := p.config.insertAll options } kind rest := by
  induction before generalizing p options with
  | nil =>
    cases read
    rfl
  | cons entry before ih =>
    obtain ⟨name, value⟩ := entry
    rw [List.mapM_cons] at read
    cases first : Field.stringMap ⟨kind, name, value⟩ with
    | error e =>
      rw [readOptions, first] at read
      cases read
    | ok map =>
      rw [readOptions, first] at read
      cases later : before.mapM (readOptions kind) with
      | error e =>
        rw [later] at read
        cases read
      | ok others =>
        rw [later] at read
        cases read
        rw [List.cons_append, setOptions, first]
        exact ih { p with config := p.config.insert name map } later

/-- Written options are set in turn. -/
theorem setOptions_written (p : Processors) (kind : String)
    (entries : List (String × OrderedMap String)) :
    p.setOptions kind (entries.map fun entry => (entry.1, Writable.ofMap .string entry.2)) =
      ⟨{ p with config := p.config.insertAll entries }, none⟩ := by
  have each (entry : String × OrderedMap String) :
      readOptions kind (entry.1, Writable.ofMap .string entry.2) = pure entry := by
    have read : Field.stringMap ⟨kind, entry.1, Writable.ofMap .string entry.2⟩ = .ok entry.2 :=
      Codec.stringMap.read_write kind entry.1 entry.2
    rw [readOptions, read]
    rfl
  have all := p.setOptions_append (Codec.mapM_map_eq_pure each entries) []
  rw [List.append_nil] at all
  exact all

/-- The options are restored if there are none yet. -/
theorem restores_config {u w : Processors} {options : OrderedMap (OrderedMap String)}
    {rest : List (Slot Processors)} {fields : Fields} (untouched : u.config = .empty)
    (next : Restores rest fields { u with config := options } w) :
    Restores (configSlot :: rest)
      (("config", Writable.map (Writable.ofMap .string) options) :: fields) u w := by
  rw [Writable.map]
  split
  · rename_i empty
    rw [OrderedMap.eq_empty_of_isEmpty empty, ← untouched] at next
    exact .skip next
  · refine .put ?_ next
    show u.setOptions _
      (options.toList.map fun entry => (entry.1, Writable.ofMap .string entry.2)) = _
    rw [setOptions_written, untouched]
    show (⟨{ u with config := .ofList options.toList }, none⟩ : Outcome Processors) = _
    rw [OrderedMap.ofList_toList]

instance : RoundTrip Processors := .of_restores (by decide) fun t =>
  list rfl rfl <| list rfl rfl <| restores_config rfl <| done t

end Processors

end DeployConfig
