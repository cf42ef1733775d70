/-
  What a source leads to.

  A run reads the files of its source and no others (`Source.extension_congr`), and of their
  properties only what overrides decides about settings (`Source.settings_congr`).  The properties
  are the entries of all layers, set one after the other (`Source.collect_eq`).
-/
import Mathlib.Data.List.Find
import DeployConfig.CommandLine.Surroundings
import DeployConfig.Proofs.Extension.Resolution
import DeployConfig.Proofs.Properties.Layers

namespace DeployConfig

/-! ## The files of a source -/

theorem Files.readText_congr {files files' : Files} {path : Path}
    (same : files path = files' path) : files.readText path = files'.readText path := by
  rw [Files.readText, Files.readText, same]

theorem Files.isFile_congr {files files' : Files} {path : Path}
    (same : files path = files' path) : files.isFile path = files'.isFile path := by
  rw [Files.isFile, Files.isFile, same]

/-- Of all files, a document needs the one at its path. -/
theorem Extension.load_congr {files files' : Files} {path : Path} (same : files path = files' path)
    (project : Project) : load files project path = load files' project path := by
  rw [load, load, Files.loadDocument, Files.loadDocument, Files.readText_congr same]

namespace Source

/-- The text of a file of properties. -/
def text (s : Surroundings) (path : Path) : Except Failure String :=
  (s.files.readText path).mapError Failure.file

variable {source : Source} {s : Surroundings} {files : Files}

/-- Texts are read alike from files that are the same. -/
theorem mapM_text_congr {paths : List Path} (same : ∀ path ∈ paths, files path = s.files path) :
    paths.mapM (text { s with files := files }) = paths.mapM (text s) := by
  have each : paths.map (text { s with files := files }) = paths.map (text s) :=
    List.map_congr_left fun path member => by
      have read : files.readText path = s.files.readText path :=
        Files.readText_congr (same path member)
      rw [text, text, read]
  have gathered (read : Path → Except Failure String) :
      paths.mapM read = (paths.map read).mapM id := by
    rw [List.mapM_map]
    rfl
  rw [gathered, each, ← gathered]

/-- The document is found alike among files that are the same. -/
theorem document?_congr
    (same : ∀ path ∈ source.paths s.workingDirectory, files path = s.files path) :
    source.document? { s with files := files } = source.document? s := by
  have documents {path : Path} := fun member => same path (List.mem_append_right _ member)
  rw [document?, document?]
  cases config : source.config with
  | some path =>
    rw [config] at documents
    show (if files.isFile path then _ else _) = _
    rw [Files.isFile_congr (documents (List.mem_singleton.2 rfl))]
  | none =>
    rw [config] at documents
    refine congrArg Except.ok (List.find?_congr fun path member => ?_)
    exact Files.isFile_congr (documents member)

/-- The document is one of the files that the source may read. -/
theorem mem_paths_of_document? {path : Path} (found : source.document? s = .ok (some path)) :
    path ∈ source.paths s.workingDirectory := by
  refine List.mem_append_right _ ?_
  rw [document?] at found
  cases config : source.config with
  | some given =>
    simp only [config] at found
    split at found
    · cases found
      exact List.mem_singleton.2 rfl
    · cases found
  | none =>
    simp only [config] at found
    exact List.mem_of_find?_eq_some (Except.ok.inj found)

/-- **A run reads no files but its own**: those of its properties, and those that may be its
    document. -/
theorem extension_congr
    (same : ∀ path ∈ source.paths s.workingDirectory, files path = s.files path) :
    source.extension { s with files := files } = source.extension s := by
  have texts : source.properties.mapM (text { s with files := files }) =
      source.properties.mapM (text s) :=
    mapM_text_congr fun path member => same path (List.mem_append_left _ member)
  have fromFiles : source.fileProperties files = source.fileProperties s.files :=
    congrArg (fun read => read.bind fun texts =>
      .ok ((texts.map Properties.ofText).foldl Properties.merge .empty)) texts
  have sameProject : source.project { s with files := files } = source.project s := by
    rw [project, project, collect, collect, fromFiles]
  rw [extension, extension, sameProject, document?_congr same]
  -- Only the binds are taken apart here: `rfl` would go on to run the readers of both sides.
  cases source.project s with
  | error failure => simp only [bind, Except.bind]
  | ok project =>
    cases found : source.document? s with
    | error failure => simp only [bind, Except.bind]
    | ok document =>
      cases document with
      | none => simp only [bind, Except.bind]
      | some path =>
        simp only [bind, Except.bind]
        exact Extension.load_congr (same path (mem_paths_of_document? found)) project

end Source

/-! ## Settings under other properties -/

namespace Extension

/-- What a document declares does not depend on properties. -/
theorem ofDocument_withProperties (project : Project) (p : Properties) (document : Block) :
    ofDocument { project with properties := p } document =
      (ofDocument project document).map (·.withProperties p) := by
  rw [ofDocument, ofDocument]
  cases declarationBlock document with
  | error failure => rfl
  | ok block =>
    show (Outcome.toExcept ((({} : Declarations).apply block).map _)).mapError _ =
      ((Outcome.toExcept ((({} : Declarations).apply block).map _)).mapError _).map _
    obtain ⟨d, error⟩ := ({} : Declarations).apply block
    cases error <;> rfl

theorem load_withProperties (files : Files) (project : Project) (p : Properties) (path : Path) :
    load files { project with properties := p } path =
      (load files project path).map (·.withProperties p) := by
  unfold load
  generalize (files.loadDocument path).mapError Failure.document = document
  cases document with
  | error failure => rfl
  | ok document => exact ofDocument_withProperties project p document

end Extension

namespace Source

/-- The source without its properties. -/
def bare (source : Source) : Source :=
  { source with defines := [], properties := [], fromEnvironment := false }

/-- A source leads to the extension of its directories and its document, with its properties. -/
theorem extension_eq (source : Source) (s : Surroundings) :
    source.extension s = (source.collect s).bind fun p =>
      (source.bare.extension s).map (·.withProperties p) := by
  have nothing : source.bare.collect s = .ok .empty := rfl
  have base : source.bare.baseDirectory = source.baseDirectory := rfl
  have document : source.bare.document? s = source.document? s := rfl
  simp only [extension, project, nothing, base, document]
  -- The two sides fail at the same step with the same error, or load the same document.
  cases source.collect s with
  | error failure => rfl
  | ok p =>
    cases Layout.ofBase? (source.baseDirectory s.workingDirectory) with
    | none => rfl
    | some layout =>
      cases source.document? s with
      | error failure => rfl
      | ok found =>
        cases found with
        | none => rfl
        | some path =>
          simp only [bind, pure, Except.bind, Except.pure]
          exact Extension.load_withProperties s.files ⟨layout, .empty⟩ p path

/-- The properties of a source count for its settings by what overrides. -/
theorem settings_congr {source source' : Source} {s s' : Surroundings} {p p' : Properties}
    (sameBare : source'.bare.extension s' = source.bare.extension s)
    (collected : source.collect s = .ok p) (collected' : source'.collect s' = .ok p')
    (same : ∀ key, p'.override? key = p.override? key) :
    source'.settings s' = source.settings s := by
  rw [settings, settings, extension_eq, extension_eq source, sameBare, collected, collected']
  cases source.bare.extension s with
  | error failure => rfl
  | ok e =>
    show (e.withProperties p').resolveAll.mapError _ = (e.withProperties p).resolveAll.mapError _
    have alike : ((e.withProperties p).withProperties p').resolveAll =
        (e.withProperties p).resolveAll := Extension.resolveAll_withProperties same
    exact congrArg (Except.mapError _) alike

end Source

/-! ## The entries of a source -/

/-- The entry that an environment variable sets, if it sets one. -/
def Properties.variableEntry? (v : String × String) : Option (String × String) :=
  (keyOfVariable? v.1).map fun key => (key, v.2)

namespace Source

/-- The entries that the environment gives, if it is asked for any. -/
def environmentEntries (source : Source) (s : Surroundings) : List (String × String) :=
  if source.fromEnvironment then s.environment.filterMap Properties.variableEntry? else []

/-- The entries of all layers, in the order in which they are set. -/
def entries (source : Source) (s : Surroundings) : Except Failure (List (String × String)) :=
  (source.properties.mapM (text s)).map fun texts =>
    (texts.map Properties.parse).flatten ++ source.environmentEntries s ++ source.defines

/-- **The properties of a source are its entries, set one after the other.** -/
theorem collect_eq (source : Source) (s : Surroundings) :
    source.collect s = (source.entries s).map OrderedMap.ofList := by
  rw [collect, fileProperties, entries]
  show ((source.properties.mapM (text s)).bind _).bind _ = _
  cases source.properties.mapM (text s) with
  | error failure => rfl
  | ok texts =>
    have fromFiles : (texts.map Properties.ofText).foldl Properties.merge .empty =
        OrderedMap.ofList (texts.map Properties.parse).flatten := by
      rw [← List.nil_append (texts.map Properties.parse).flatten,
        ← Properties.foldl_merge_ofList [] (texts.map Properties.parse), List.map_map]
      rfl
    have fromEnvironment : (if source.fromEnvironment then Properties.ofEnvironment s.environment
        else .empty) = OrderedMap.ofList (source.environmentEntries s) := by
      rw [environmentEntries]
      split <;> rfl
    -- Each layer sets its entries in what the layers below it have set.
    show Except.ok _ = Except.ok _
    rw [fromFiles, fromEnvironment, Properties.merge_ofList, OrderedMap.ofList, OrderedMap.ofList,
      OrderedMap.insertAll_append, OrderedMap.insertAll_append]

/-- The entries of a source, around those of one of its files. -/
theorem entries_of_read {source : Source} {s : Surroundings} {before after : List Path}
    {path : Path} {written : String} (listed : source.properties = before ++ path :: after)
    (read : s.files.readText path = .ok written) :
    source.entries s = (before.mapM (text s)).bind fun front =>
      (after.mapM (text s)).map fun back =>
        (front.map Properties.parse).flatten
          ++ (Properties.parse written ++ (back.map Properties.parse).flatten)
          ++ source.environmentEntries s ++ source.defines := by
  have here : text s path = .ok written := by
    rw [text, read]
    rfl
  rw [entries, listed, List.mapM_append, List.mapM_cons, here]
  cases before.mapM (text s) with
  | error failure => rfl
  | ok front =>
    cases after.mapM (text s) with
    | error failure => rfl
    | ok back =>
      show Except.ok ((List.map _ (front ++ written :: back)).flatten ++ _ ++ _) = _
      rw [List.map_append, List.flatten_append, List.map_cons, List.flatten_cons]
      rfl

end Source

end DeployConfig
