/-
  How the commands end.

  A run makes two checks besides those of loading: the system tells the working directory, and the
  variables are text where they are read.  With these in their places, it stops at the first check
  that fails (`Host.error?_extension`).

  What the commands report follows (`Host.command_outcome`): they report the same failure of
  loading; without one, the manifest is always told, and the snapshot is, with the same manifest in
  it, exactly if every setting resolves.
-/
import DeployConfig.CommandLine.Report
import DeployConfig.Proofs.CommandLine.Loading
import DeployConfig.Proofs.Extension.Fields

namespace DeployConfig

/-! ## Runs -/

namespace Host

/-- A check that a run makes. -/
inductive Check where
  /-- The system tells the working directory. -/
  | workingDirectory
  /-- The variables are text, if the source reads them. -/
  | environment
  /-- A check that loading makes. -/
  | loading (check : Source.Check)

/-- The checks in the order in which they are made. -/
def checks (source : Source) : List Check :=
  .workingDirectory :: (source.fileChecks.map .loading ++
    .environment :: Source.documentChecks.map .loading)

/-- How a run stops at a check, if the check can be made and fails. -/
def Check.stop? (source : Source) (h : Host) : Check → Option Stop
  | workingDirectory => (error? h.workingDirectory).map fun problem =>
    .failure (.noWorkingDirectory problem)
  | environment => if source.fromEnvironment then h.foreign?.map .panic else none
  | loading check => h.workingDirectory.toOption.bind fun here =>
    (check.failure? source (h.within here)).map .failure

variable {source : Source} {h : Host} {here : Path}

/-- In a working directory, checks that loading makes stop a run with their failures. -/
theorem findSome?_loading (located : h.workingDirectory = .ok here) (checks : List Source.Check) :
    (checks.map Check.loading).findSome? (Check.stop? source h) =
      (checks.findSome? (Source.Check.failure? source (h.within here))).map
        Stop.failure := by
  rw [List.findSome?_map, List.map_findSome?]
  congr 1
  funext check
  simp only [Function.comp, Check.stop?, located, Except.toOption, Option.bind_some]

/-- Variables that are text, or that nothing reads, are no obstacle. -/
theorem surroundings_of_passed (located : h.workingDirectory = .ok here)
    (passed : Check.environment.stop? source h = none) :
    h.surroundings source = .ok (h.within here) := by
  have readable : (if source.fromEnvironment then h.foreign? else none) = none := by
    rw [Check.stop?] at passed
    split at passed
    · rename_i asked
      rw [if_pos asked, Option.map_eq_none_iff.1 passed]
    · rename_i unasked
      rw [if_neg unasked]
  simp only [surroundings, located, readable]
  rfl

/-- A variable that is no text breaks the run off once the files of properties are read. -/
theorem surroundings_of_stopped (located : h.workingDirectory = .ok here) {stop : Stop}
    (stopped : Check.environment.stop? source h = some stop) :
    h.surroundings source =
      ((source.fileProperties h.files).mapError Stop.failure).bind fun _ => .error stop := by
  rw [Check.stop?] at stopped
  split at stopped
  · rename_i asked
    obtain ⟨complaint, foreign, rfl⟩ := Option.map_eq_some_iff.1 stopped
    have unreadable : (if source.fromEnvironment then h.foreign? else none) = some complaint := by
      rw [if_pos asked, foreign]
    simp only [surroundings, located, unreadable]
    rfl
  · cases stopped

/-- **A run stops at the first check that fails.** -/
theorem error?_extension
    (absolute : ∀ here, h.workingDirectory = .ok here → here.isAbsolute = true) :
    error? (h.extension source) = (checks source).findSome? (Check.stop? source h) := by
  show error? ((h.surroundings source).bind fun s => (source.extension s).mapError _) = _
  rw [checks, List.findSome?_cons]
  cases located : h.workingDirectory with
  | error problem =>
    have stopped : Check.workingDirectory.stop? source h =
        some (.failure (.noWorkingDirectory problem)) := by
      rw [Check.stop?, located]
      rfl
    rw [stopped, surroundings, located]
    rfl
  | ok here =>
    have passed : Check.workingDirectory.stop? source h = none := by
      rw [Check.stop?, located]
      rfl
    have ofFiles : (source.fileChecks.map Check.loading).findSome? (Check.stop? source h) =
        (error? (source.fileProperties (h.within here).files)).map Stop.failure := by
      rw [findSome?_loading located, source.error?_fileProperties]
    rw [passed, List.findSome?_append, List.findSome?_cons, ofFiles]
    cases environment : Check.environment.stop? source h with
    | some stop =>
      rw [surroundings_of_stopped located environment]
      show _ = ((error? (source.fileProperties h.files)).map _).or _
      cases source.fileProperties h.files <;> rfl
    | none =>
      have loading : error? (source.extension (h.within here)) =
          (error? (source.fileProperties (h.within here).files)).or
            (Source.documentChecks.findSome? (Source.Check.failure? source (h.within here))) := by
        have based : (h.within here).workingDirectory.isAbsolute = true := absolute here located
        rw [source.error?_extension based, List.findSome?_append, source.error?_fileProperties]
      rw [surroundings_of_passed located environment, findSome?_loading located]
      show error? ((source.extension (h.within here)).mapError Stop.failure) = _
      rw [error?_mapError, loading, Option.map_or]

/-- No check stops a run on account of a relative base directory. -/
theorem Check.stop?_ne_relativeBase (check : Check) (base : Path) :
    check.stop? source h ≠ some (.failure (.relativeBase base)) := by
  intro found
  cases check with
  | workingDirectory =>
    obtain ⟨problem, -, same⟩ := Option.map_eq_some_iff.1 found
    cases same
  | environment =>
    rw [stop?] at found
    split at found
    · obtain ⟨complaint, -, same⟩ := Option.map_eq_some_iff.1 found
      cases same
    · cases found
  | loading check =>
    obtain ⟨here, -, found⟩ := Option.bind_eq_some_iff.1 found
    obtain ⟨failure, fails, same⟩ := Option.map_eq_some_iff.1 found
    cases same
    exact check.failure?_ne_relativeBase source _ base fails

/-- Only a variable that is no text, where variables are read, breaks a run off. -/
theorem Check.asked_of_stop? (check : Check) {complaint : String}
    (stops : check.stop? source h = some (.panic complaint)) :
    source.fromEnvironment = true ∧ h.foreign? = some complaint := by
  cases check with
  | workingDirectory =>
    obtain ⟨problem, -, same⟩ := Option.map_eq_some_iff.1 stops
    cases same
  | environment =>
    rw [stop?] at stops
    split at stops
    · rename_i asked
      obtain ⟨complaint, foreign, same⟩ := Option.map_eq_some_iff.1 stops
      cases same
      exact ⟨asked, foreign⟩
    · cases stops
  | loading check =>
    obtain ⟨here, -, found⟩ := Option.bind_eq_some_iff.1 stops
    obtain ⟨failure, -, same⟩ := Option.map_eq_some_iff.1 found
    cases same

/-- Settings are those of the extension. -/
theorem settings_eq (h : Host) (source : Source) : h.settings source =
    (h.extension source).bind fun e =>
      e.resolveAll.mapError fun error => .failure (.property error) := by
  rw [settings, extension]
  cases h.surroundings source with
  | error stop => rfl
  | ok s =>
    simp only [bind, Except.bind, Source.settings]
    cases source.extension s with
    | error failure => simp only [Except.mapError]
    | ok e =>
      simp only [Except.mapError]
      cases e.resolveAll <;> rfl

end Host

/-! ## Reports -/

/-- The manifest that a snapshot holds is the one that the extension applies. -/
theorem Snapshot.lookup_manifest {e : Extension} {snapshot : Snapshot}
    (resolved : e.resolveAll = .ok snapshot) :
    snapshot.fields.lookup "kubernetesManifest" =
      some (some (.string (e.path .kubernetesManifest).text)) := by
  obtain ⟨-, -, -, -, -, path, -⟩ := Extension.resolveAll_eq_ok_iff_parts.1 resolved
  rw [path]
  exact snapshot.lookup_fields (.path .kubernetesManifest)

namespace Report

theorem linesText_singleton (line : String) : linesText [line] = line ++ "\n" := by
  simp [linesText, String.join]

variable {source : Source} {h : Host} {stop : Stop} {e : Extension}

theorem resolve_of_stopped (stopped : h.extension source = .error stop) (format : OutputFormat) :
    ofExcept h.messages (resolve source format h) = ofStop h.messages stop := by
  rw [resolve, h.settings_eq, stopped]
  rfl

theorem manifest_of_stopped (stopped : h.extension source = .error stop) (openshift : Bool) :
    ofExcept h.messages (manifest source openshift h) = ofStop h.messages stop := by
  rw [manifest, stopped]
  rfl

/-- The snapshot is told if every setting resolves. -/
theorem resolve_of_loaded (loaded : h.extension source = .ok e) (format : OutputFormat) :
    ofExcept h.messages (resolve source format h) = match e.resolveAll with
      | .ok snapshot => { output := endedWithNewline (format.write snapshot.fields) }
      | .error error => { exitCode := 1, errors := "error: " ++ error.message ++ "\n" } := by
  rw [resolve, h.settings_eq, loaded]
  simp only [bind, Except.bind]
  cases e.resolveAll with
  | ok snapshot => rfl
  | error error =>
    simp only [Except.mapError, ofExcept, ofStop, linesText_singleton]
    rfl

/-- The manifest is told, whether or not settings resolve. -/
theorem manifest_of_loaded (loaded : h.extension source = .ok e) (openshift : Bool) :
    ofExcept h.messages (manifest source openshift h) =
      { output := (e.path .kubernetesManifest).text ++ "\n"
        errors := if openshift then linesText (Extension.flavourWarnings.map ("warning: " ++ ·))
          else "" } := by
  rw [manifest, loaded]
  simp only [bind, Except.bind, Extension.manifest, linesText_singleton]
  cases openshift <;> rfl

end Report

namespace Host

variable {h : Host} {resolving manifesting : List String} {verbose verbose' : Bool}
  {source : Source} {format : OutputFormat} {openshift : Bool}

/-- A command that the arguments ask for is reported on. -/
theorem run_eq {arguments : List String} {command : Command}
    (parsed : Arguments.parse h.baseDirectory? arguments = .ok ⟨verbose, some command⟩) :
    h.run arguments = { Report.ofCommand h command with traced := verbose } := by
  rw [run, parsed]

/-- **How the commands about one configuration end.**

    * If a check fails, the first one that does stops both commands alike.  A failure is the one
      error of both, they write nothing else, and it is never about a relative base directory.
      Only a source that reads the environment can break off, and does so at a variable that is no
      text.
    * If no check fails, the manifest is told, for either flavour of cluster.  The snapshot is told
      exactly if it resolves, and the manifest in it is the one that is told. -/
theorem command_outcome
    (absolute : ∀ here, h.workingDirectory = .ok here → here.isAbsolute = true)
    (resolve : Arguments.parse h.baseDirectory? resolving =
      .ok ⟨verbose, some (.resolve source format)⟩)
    (manifest : Arguments.parse h.baseDirectory? manifesting =
      .ok ⟨verbose', some (.manifest source openshift)⟩) :
    (∀ failure, (checks source).findSome? (Check.stop? source h) = some (.failure failure) →
      h.extension source = .error (.failure failure) ∧ (∀ base, failure ≠ .relativeBase base) ∧
      h.run resolving = ⟨1, "", "error: " ++ failure.message h.messages ++ "\n", verbose⟩ ∧
      h.run manifesting = ⟨1, "", "error: " ++ failure.message h.messages ++ "\n", verbose'⟩) ∧
    (∀ complaint, (checks source).findSome? (Check.stop? source h) = some (.panic complaint) →
      source.fromEnvironment = true ∧ h.foreign? = some complaint ∧
      h.run resolving = ⟨101, "", complaint, verbose⟩ ∧
      h.run manifesting = ⟨101, "", complaint, verbose'⟩) ∧
    ((checks source).findSome? (Check.stop? source h) = none →
      ∃ e, h.extension source = .ok e ∧
        h.run manifesting = ⟨0, (e.path .kubernetesManifest).text ++ "\n",
          if openshift then Report.linesText (Extension.flavourWarnings.map ("warning: " ++ ·))
            else "", verbose'⟩ ∧
        ((h.run resolving).exitCode = 0 ↔ ∃ snapshot, e.resolveAll = .ok snapshot) ∧
        (∀ snapshot, e.resolveAll = .ok snapshot →
          h.run resolving = ⟨0, endedWithNewline (format.write snapshot.fields), "", verbose⟩ ∧
          snapshot.fields.lookup "kubernetesManifest" =
            some (some (.string (e.path .kubernetesManifest).text))) ∧
        ∀ error, e.resolveAll = .error error →
          h.run resolving = ⟨1, "", "error: " ++ error.message ++ "\n", verbose⟩) := by
  have resolved : h.run resolving =
      { Report.ofExcept h.messages (Report.resolve source format h) with traced := verbose } :=
    run_eq resolve
  have told : h.run manifesting =
      { Report.ofExcept h.messages (Report.manifest source openshift h) with traced := verbose' } :=
    run_eq manifest
  rw [resolved, told]
  refine ⟨fun failure found => ?_, fun complaint found => ?_, fun found => ?_⟩
  · have named : ∀ base, failure ≠ .relativeBase base := by
      rintro base rfl
      obtain ⟨check, -, stops⟩ := List.exists_of_findSome?_eq_some found
      exact check.stop?_ne_relativeBase base stops
    rw [← error?_extension absolute] at found
    have stopped : h.extension source = .error (.failure failure) := error?_eq_some_iff.1 found
    rw [Report.resolve_of_stopped stopped, Report.manifest_of_stopped stopped, Report.ofStop,
      Report.linesText_singleton]
    exact ⟨stopped, named, rfl, rfl⟩
  · have asked : source.fromEnvironment = true ∧ h.foreign? = some complaint := by
      obtain ⟨check, -, stops⟩ := List.exists_of_findSome?_eq_some found
      exact check.asked_of_stop? stops
    rw [← error?_extension absolute] at found
    have stopped : h.extension source = .error (.panic complaint) := error?_eq_some_iff.1 found
    rw [Report.resolve_of_stopped stopped, Report.manifest_of_stopped stopped]
    exact ⟨asked.1, asked.2, rfl, rfl⟩
  · rw [← error?_extension absolute] at found
    obtain ⟨e, loaded⟩ := error?_eq_none_iff.1 found
    rw [Report.resolve_of_loaded loaded, Report.manifest_of_loaded loaded]
    refine ⟨e, loaded, rfl, ?_⟩
    cases settled : e.resolveAll with
    | ok snapshot =>
      refine ⟨iff_of_true rfl ⟨snapshot, rfl⟩, ?_, ?_⟩
      · intro same settles
        cases settles
        exact ⟨rfl, Snapshot.lookup_manifest settled⟩
      · intro error settles
        cases settles
    | error error =>
      refine ⟨iff_of_false ?_ ?_, ?_, ?_⟩
      · intro zero
        cases zero
      · rintro ⟨snapshot, settles⟩
        cases settles
      · intro snapshot settles
        cases settles
      · intro same settles
        cases settles
        rfl

/-- A host with a variable that is no text. -/
def foreign (files : Files) : Host where
  files := files
  workingDirectory := .ok ⟨"/work"⟩
  environ := [.text "HOME" "/root", .foreign "no text\n"]
  messages _ _ := ""

/-- A document that is there and may not be read is not passed over; a variable that is no text
    matters to those who read the environment, and before any document; and a number that is none
    matters only to the command that needs it. -/
theorem command_outcome_foreign :
    let locked : Host := foreign fun _ => ⟨true, .error (.other "Permission denied (os error 13)")⟩
    let bare : Host := foreign fun _ => .absent
    (locked.run ["resolve"] = ⟨1, "", "error: Filesystem error: I/O error at /work/kubext.toml: " ++
      "Permission denied (os error 13)\n", false⟩ ∧
    locked.run ["manifest"] = ⟨1, "", "error: Filesystem error: I/O error at /work/kubext.toml: " ++
      "Permission denied (os error 13)\n", false⟩) ∧
    (locked.run ["resolve", "--env"] = ⟨101, "", "no text\n", false⟩ ∧
    locked.run ["manifest", "--env"] = ⟨101, "", "no text\n", false⟩) ∧
    (bare.run ["resolve", "-D", "jkube.docker.push.retries=x"]).exitCode ≠ 0 ∧
    (bare.run ["manifest", "-D", "jkube.docker.push.retries=x"]).output =
      "/work/build/classes/java/main/META-INF/jkube/kubernetes.yml\n" := by
  intro locked bare
  have absolute {files : Files} :
      ∀ here, (foreign files).workingDirectory = .ok here → here.isAbsolute = true := by
    rintro here located
    cases located
    decide
  refine ⟨?_, ?_, ?_⟩
  · have resolve : Arguments.parse locked.baseDirectory? ["resolve"] =
        .ok ⟨false, some (.resolve {} .json)⟩ := by decide +kernel
    have manifest : Arguments.parse locked.baseDirectory? ["manifest"] =
        .ok ⟨false, some (.manifest {} false)⟩ := by decide +kernel
    obtain ⟨-, -, resolved, told⟩ := (command_outcome absolute resolve manifest).1
      (.document (.file ⟨⟨"/work/kubext.toml"⟩, .other "Permission denied (os error 13)"⟩))
      (by decide +kernel)
    exact ⟨resolved, told⟩
  · have resolve : Arguments.parse locked.baseDirectory? ["resolve", "--env"] =
        .ok ⟨false, some (.resolve { fromEnvironment := true } .json)⟩ := by decide +kernel
    have manifest : Arguments.parse locked.baseDirectory? ["manifest", "--env"] =
        .ok ⟨false, some (.manifest { fromEnvironment := true } false)⟩ := by decide +kernel
    obtain ⟨-, -, resolved, told⟩ :=
      (command_outcome absolute resolve manifest).2.1 "no text\n" (by decide +kernel)
    exact ⟨resolved, told⟩
  · have resolve : Arguments.parse bare.baseDirectory?
        ["resolve", "-D", "jkube.docker.push.retries=x"] = .ok
          ⟨false, some (.resolve { defines := [("jkube.docker.push.retries", "x")] } .json)⟩ := by
      decide +kernel
    have manifest : Arguments.parse bare.baseDirectory?
        ["manifest", "-D", "jkube.docker.push.retries=x"] = .ok
          ⟨false, some (.manifest { defines := [("jkube.docker.push.retries", "x")] } false)⟩ := by
      decide +kernel
    obtain ⟨e, found, told, resolved, -, -⟩ :=
      (command_outcome absolute resolve manifest).2.2 (by decide)
    cases found
    rw [told]
    refine ⟨fun zero => ?_, by decide⟩
    obtain ⟨snapshot, settled⟩ := resolved.1 zero
    cases settled

end Host

end DeployConfig
