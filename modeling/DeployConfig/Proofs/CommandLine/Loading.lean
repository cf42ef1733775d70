/-
  How loading ends.

  Both commands that work on a configuration load it first.  Loading makes checks one after the
  other: each file of properties is readable, the configuration file exists, its extension names a
  format, it is readable, it follows the grammar, it has a block of declarations, and that block
  binds.  `Source.Check.failure?` says of each check on its own why it fails, and the crux is that
  loading fails as the first of them that fails (`Source.error?_extension`); the base directory is
  seen from an absolute one, so that it is never relative.
-/
import DeployConfig.Proofs.CommandLine.Source
import DeployConfig.Proofs.Steps

namespace DeployConfig

namespace Source

/-! ## Checks -/

/-- A check that loading makes. -/
inductive Check where
  /-- A file of properties can be read. -/
  | properties (path : Path)
  /-- The configuration file that is named exists. -/
  | configuration
  /-- The extension of the document names a format. -/
  | format
  /-- The document can be read. -/
  | reading
  /-- The document follows the grammar of its format. -/
  | grammar
  /-- The document has a block of declarations. -/
  | declarations
  /-- The block of declarations binds. -/
  | binding

/-- The checks of the files of properties. -/
def fileChecks (source : Source) : List Check := source.properties.map .properties

/-- The checks of the configuration and its document, in the order in which they are made. -/
def documentChecks : List Check :=
  [.configuration, .format, .reading, .grammar, .declarations, .binding]

/-- The document of a source: the file that is named, or else the first default one, if there is
    such a file. -/
def chosen? (source : Source) (s : Surroundings) : Option Path :=
  (match source.config with
    | some path => [path]
    | none => defaultDocuments (source.baseDirectory s.workingDirectory)).find? s.files.isFile

/-- The format of the document, if its extension names one, and its text, if it can be read. -/
def written? (source : Source) (s : Surroundings) : Option (DocumentFormat × String) :=
  (source.chosen? s).bind fun path => (DocumentFormat.ofPath path).toOption.bind fun format =>
    (s.files.readText path).toOption.map fun text => (format, text)

/-- The block that the document writes, if it writes one. -/
def block? (source : Source) (s : Surroundings) : Option Block :=
  (source.written? s).bind fun written => (written.1.read written.2).toOption

/-- The value of the block of declarations in the document, if it has one. -/
def declared? (source : Source) (s : Surroundings) : Option Value :=
  (source.block? s).bind fun block => block.get? Declarations.blockName

/-- The declarations that a value makes. -/
def declarationsOf (value : Value) : Except BindError Declarations :=
  (Field.block ⟨"document", Declarations.blockName, value⟩).bind fun block =>
    (({} : Declarations).apply block).toExcept

/-- Why a check fails, if it can be made and does. -/
def Check.failure? (source : Source) (s : Surroundings) : Check → Option Failure
  | properties path => (error? (s.files.readText path)).map Failure.file
  | configuration => source.config.bind fun path =>
    if s.files.isFile path then none else some (.configurationNotFound path)
  | format => (source.chosen? s).bind fun path =>
    (error? (DocumentFormat.ofPath path)).map Failure.document
  | reading => (source.chosen? s).bind fun path =>
    (error? (s.files.readText path)).map fun e => .document (.file e)
  | grammar => (source.written? s).bind fun written =>
    (error? (written.1.read written.2)).map fun problem => .document (.invalid written.1 problem)
  | declarations => (source.block? s).bind fun block =>
    if (block.get? Declarations.blockName).isSome then none
      else some (.missingBlock Declarations.blockName)
  | binding => (source.declared? s).bind fun value =>
    (error? (declarationsOf value)).map Failure.binding

/-- No check finds a base directory that is relative. -/
theorem Check.failure?_ne_relativeBase (source : Source) (s : Surroundings) (check : Check)
    (base : Path) : check.failure? source s ≠ some (.relativeBase base) := by
  intro found
  cases check with
  | properties path =>
    obtain ⟨e, -, same⟩ := Option.map_eq_some_iff.1 found
    cases same
  | configuration | declarations =>
    obtain ⟨held, -, same⟩ := Option.bind_eq_some_iff.1 found
    split at same <;> cases same
  | format | reading | grammar | binding =>
    obtain ⟨held, -, found⟩ := Option.bind_eq_some_iff.1 found
    obtain ⟨e, -, same⟩ := Option.map_eq_some_iff.1 found
    cases same

/-! ## Loading -/

/-- Seen from an absolute directory, the base directory is absolute. -/
theorem isAbsolute_baseDirectory (source : Source) {workingDirectory : Path}
    (absolute : workingDirectory.isAbsolute = true) :
    (source.baseDirectory workingDirectory).isAbsolute = true := by
  rw [baseDirectory]
  split
  · exact Path.isAbsolute_join _ absolute
  · exact absolute

/-- The files of properties fail as the first of them that cannot be read. -/
theorem error?_fileProperties (source : Source) (s : Surroundings) :
    error? (source.fileProperties s.files) =
      source.fileChecks.findSome? (Check.failure? source s) := by
  have gathered : source.fileProperties s.files = (source.properties.mapM (text s)).map fun texts =>
      (texts.map Properties.ofText).foldl Properties.merge .empty := by
    show (source.properties.mapM (text s)).bind _ = _
    cases source.properties.mapM (text s) <;> rfl
  have each : (fun path => error? (text s path)) = Check.failure? source s ∘ .properties := by
    funext path
    exact error?_mapError _ _
  rw [gathered, error?_map, error?_mapM, each, fileChecks, List.findSome?_map]

/-- The project fails as its files of properties do. -/
theorem error?_project (source : Source) {s : Surroundings}
    (absolute : s.workingDirectory.isAbsolute = true) :
    error? (source.project s) = source.fileChecks.findSome? (Check.failure? source s) := by
  have based : Layout.ofBase? (source.baseDirectory s.workingDirectory) =
      some (.conventional (source.baseDirectory s.workingDirectory)) :=
    if_pos (source.isAbsolute_baseDirectory absolute)
  have collected : error? (source.project s) = error? (source.collect s) := by
    show error? ((source.collect s).bind _) = _
    rw [error?_bind]
    simp only [based]
    cases source.collect s <;> rfl
  have layered : error? (source.collect s) = error? (source.fileProperties s.files) := by
    show error? ((source.fileProperties s.files).bind _) = _
    rw [error?_bind]
    cases source.fileProperties s.files <;> rfl
  rw [collected, layered, error?_fileProperties]

/-- Declarations fail if the document has no block of them, or if that block does not bind. -/
theorem error?_ofDocument (project : Project) (block : Block) :
    error? (Extension.ofDocument project block) =
      (if (block.get? Declarations.blockName).isSome then none
        else some (.missingBlock Declarations.blockName)).or
      ((block.get? Declarations.blockName).bind fun value =>
        (error? (declarationsOf value)).map Failure.binding) := by
  rw [Extension.ofDocument, Extension.declarationBlock]
  cases block.get? Declarations.blockName with
  | none => rfl
  | some value =>
    show _ = (error? (declarationsOf value)).map Failure.binding
    rw [declarationsOf]
    simp only
    cases Field.block ⟨"document", Declarations.blockName, value⟩ with
    | error e => rfl
    | ok entries =>
      show error? ((Outcome.toExcept ((({} : Declarations).apply entries).map _)).mapError _) =
        (error? (({} : Declarations).apply entries).toExcept).map _
      obtain ⟨d, error⟩ := ({} : Declarations).apply entries
      cases error <;> rfl

/-- A document fails as the first of the checks about it that fails. -/
theorem error?_load {source : Source} {s : Surroundings} {path : Path}
    (chosen : source.chosen? s = some path) (project : Project) :
    error? (Extension.load s.files project path) =
      [Check.format, .reading, .grammar, .declarations, .binding].findSome?
        (Check.failure? source s) := by
  rw [Extension.load, Files.loadDocument]
  simp only [List.findSome?_cons, List.findSome?_nil, Check.failure?, declared?, block?, written?,
    chosen, Option.bind_some]
  -- Each step is made if those before it succeed.
  cases DocumentFormat.ofPath path with
  | error e => rfl
  | ok format =>
    cases s.files.readText path with
    | error e => rfl
    | ok text =>
      simp only [Except.toOption, Option.bind_some, Option.map_some, bind, Except.bind,
        Except.mapError]
      cases format.read text with
      | error problem => rfl
      | ok block =>
        show error? (Extension.ofDocument project block) = _
        rw [error?_ofDocument]
        simp only [error?_ok, Option.map_none, Option.bind_some]
        cases block.get? Declarations.blockName with
        | none => rfl
        | some value =>
          rw [Option.bind_some]
          cases declarationsOf value <;> rfl

/-- What follows the project fails as the first of the checks about the configuration and the
    document that fails. -/
theorem error?_document {source : Source} {s : Surroundings} (project : Project) :
    error? ((source.document? s).bind fun found => match found with
      | some path => Extension.load s.files project path
      | none => .ok ⟨project, {}⟩) =
      documentChecks.findSome? (Check.failure? source s) := by
  have loaded {path : Path} (named : Check.configuration.failure? source s = none)
      (chosen : source.chosen? s = some path) :
      error? (Extension.load s.files project path) =
        documentChecks.findSome? (Check.failure? source s) := by
    rw [documentChecks, List.findSome?_cons, named]
    exact error?_load chosen project
  cases config : source.config with
  | some path =>
    have named : Check.configuration.failure? source s =
        if s.files.isFile path then none else some (.configurationNotFound path) := by
      rw [Check.failure?, config, Option.bind_some]
    have found : source.document? s = if s.files.isFile path then .ok (some path)
        else .error (.configurationNotFound path) := by
      rw [document?, config]
    cases isFile : s.files.isFile path with
    | true =>
      rw [isFile, if_pos rfl] at named found
      have chosen : source.chosen? s = some path := by
        rw [chosen?, config]
        exact List.find?_cons_of_pos isFile
      simp only [found, Except.bind]
      exact loaded named chosen
    | false =>
      rw [isFile, if_neg Bool.false_ne_true] at named found
      rw [found, documentChecks, List.findSome?_cons, named]
      rfl
  | none =>
    have named : Check.configuration.failure? source s = none := by
      rw [Check.failure?, config]
      rfl
    have found : source.document? s = .ok (source.chosen? s) := by
      rw [document?, chosen?, config]
    rw [found]
    cases chosen : source.chosen? s with
    | some path =>
      simp only [Except.bind]
      exact loaded named chosen
    | none =>
      -- Without a document there is nothing more to check.
      simp only [Except.bind, error?_ok, documentChecks, List.findSome?_cons, List.findSome?_nil,
        Check.failure?, declared?, block?, written?, config, chosen, Option.bind_none]

/-- **Loading fails as the first check that fails.** -/
theorem error?_extension (source : Source) {s : Surroundings}
    (absolute : s.workingDirectory.isAbsolute = true) :
    error? (source.extension s) =
      (source.fileChecks ++ documentChecks).findSome? (Check.failure? source s) := by
  have parted : source.extension s = (source.project s).bind fun project =>
      (source.document? s).bind fun found => match found with
        | some path => Extension.load s.files project path
        | none => .ok ⟨project, {}⟩ := rfl
  rw [parted, error?_bind, List.findSome?_append, ← source.error?_project absolute]
  cases source.project s with
  | error failure => rfl
  | ok project => exact congrArg (Option.or none) (error?_document project)

end Source

end DeployConfig
