import Runbook.Cli.Commands
import Runbook.Proofs.Workflow.Compiles

/-!
# Checking and running agree

Checking a workflow and running it begin alike: the workflow is found and compiled.  A check does
this with the usual settings and a run with those of its environment, and all that compiling asks of
the settings is how deep shared steps may call each other.

* `prepare` is the common beginning; `validate_eq` and `execute_eq` say so;
* `compileFile_congr` says that only the limit counts, and `prepare_of_limit_le` that a higher limit
  refuses no workflow;
* `GetsPast` and `FailsBefore` say of a run that it comes as far as a compiled workflow or fails
  before that, and `validate_agrees` compares a check with that.
-/

namespace Runbook.Cli

variable {site : Site} {projectDir selector directory : String} {options : RunOptions}
  {overrides : List (String × Value)}

/-! ## The common beginning -/

/-- Finds and compiles a workflow. -/
def prepare (site : Site) (config : Config) (projectDir selector : String) :
    Except Failure (WorkflowFile × Workflow) :=
  match findWorkflow site.files projectDir selector with
  | .error failure => .error failure
  | .ok file =>
    match compileFile site config file with
    | .error failure => .error failure
    | .ok w => .ok (file, w)

variable {config config' : Config} {file : WorkflowFile} {w : Workflow} {failure : Failure}

theorem prepare_eq_ok :
    prepare site config projectDir selector = .ok (file, w) ↔
      findWorkflow site.files projectDir selector = .ok file ∧
        compileFile site config file = .ok w := by
  unfold prepare
  cases findWorkflow site.files projectDir selector with
  | error failure => simp
  | ok found =>
    dsimp only
    rw [Except.ok.injEq]
    constructor
    · cases hcompile : compileFile site config found with
      | error failure =>
        intro h
        cases h
      | ok compiled =>
        intro h
        cases h
        exact ⟨rfl, hcompile⟩
    · rintro ⟨rfl, hcompile⟩
      rw [hcompile]

theorem prepare_eq_error :
    prepare site config projectDir selector = .error failure ↔
      findWorkflow site.files projectDir selector = .error failure ∨
        ∃ file, findWorkflow site.files projectDir selector = .ok file ∧
          compileFile site config file = .error failure := by
  unfold prepare
  cases findWorkflow site.files projectDir selector with
  | error failure => simp
  | ok found =>
    dsimp only
    cases hcompile : compileFile site config found with
    | error other => simp [hcompile]
    | ok compiled => simp [hcompile]

/-- A check gives what the beginning of a run with the usual settings gives. -/
theorem validate_eq :
    (validate site projectDir selector).result =
      match prepare site (.default projectDir) projectDir selector with
      | .error failure => .error failure.text
      | .ok _ => .ok () := by
  unfold validate prepare
  cases findWorkflow site.files projectDir selector with
  | error failure => rfl
  | ok file =>
    dsimp only
    cases compileFile site (.default projectDir) file <;> rfl

/-- A run that cannot begin fails and leaves everything as it is. -/
theorem execute_of_error (hread : options.overrides.mapM readOverride = .ok overrides)
    (h : prepare site (runConfig site projectDir options.port) projectDir selector
      = .error failure) :
    ∃ text, execute site projectDir selector options directory
      = (⟨text, .error failure.text⟩, site) := by
  unfold execute
  rw [hread]
  rcases prepare_eq_error.1 h with hfile | ⟨file, hfile, hcompile⟩
  · rw [hfile]
    exact ⟨"", rfl⟩
  · rw [hfile]
    dsimp only
    rw [hcompile]
    exact ⟨linesText (loadedLines file), rfl⟩

/-- A run that can begin does what the compiled workflow does. -/
theorem execute_of_ok (hread : options.overrides.mapM readOverride = .ok overrides)
    (h : prepare site (runConfig site projectDir options.port) projectDir selector
      = .ok (file, w)) :
    execute site projectDir selector options directory =
      let ran := runCompiled site (runConfig site projectDir options.port) w overrides directory
      (⟨linesText (loadedLines file), ran.1⟩, ran.2) := by
  obtain ⟨hfile, hcompile⟩ := prepare_eq_ok.1 h
  unfold execute
  rw [hread, hfile]
  dsimp only
  rw [hcompile]

/-! ## Settings -/

theorem runConfig_projectDir : (runConfig site projectDir options.port).projectDir = projectDir := by
  unfold runConfig
  cases options.port <;> rfl

/-- Of the settings compiling asks for the directory and the limit only. -/
theorem compileFile_congr (hdir : config.projectDir = config'.projectDir)
    (hlimit : config.maxSharedDepth = config'.maxSharedDepth) (file : WorkflowFile) :
    compileFile site config file = compileFile site config' file := by
  rw [compileFile, compileFile, Host.compile, Host.compile, hdir, hlimit]

/-- A higher limit refuses no workflow. -/
theorem compileFile_of_limit_le (hdir : config.projectDir = config'.projectDir)
    (hlimit : config.maxSharedDepth ≤ config'.maxSharedDepth)
    (h : compileFile site config file = .ok w) : ∃ w', compileFile site config' file = .ok w' := by
  have hkeyed := Library.ofFiles_keyed site.files config.projectDir
  rcases hcompile : file.definition.compile (some file.path)
    ⟨[], .ofFiles site.files config.projectDir, config.maxSharedDepth⟩ .empty with ⟨e | compiled, t⟩
  · have herror : compileFile site config file = .error e := congrArg Prod.fst hcompile
    rw [herror] at h
    cases h
  · obtain ⟨w', t', hmore⟩ :=
      file.definition.compiles_of_maxDepth_le (some file.path) hkeyed hlimit hcompile
    rw [hdir] at hmore
    exact ⟨w', congrArg Prod.fst hmore⟩

theorem prepare_congr (hdir : config.projectDir = config'.projectDir)
    (hlimit : config.maxSharedDepth = config'.maxSharedDepth) :
    prepare site config projectDir selector = prepare site config' projectDir selector := by
  unfold prepare
  cases findWorkflow site.files projectDir selector with
  | error failure => rfl
  | ok file =>
    dsimp only
    rw [compileFile_congr hdir hlimit]

/-- What can begin with one limit can begin with a higher one. -/
theorem prepare_of_limit_le (hdir : config.projectDir = config'.projectDir)
    (hlimit : config.maxSharedDepth ≤ config'.maxSharedDepth)
    (h : prepare site config projectDir selector = .ok (file, w)) :
    ∃ w', prepare site config' projectDir selector = .ok (file, w') := by
  obtain ⟨hfile, hcompile⟩ := prepare_eq_ok.1 h
  obtain ⟨w', hcompile'⟩ := compileFile_of_limit_le hdir hlimit hcompile
  exact ⟨w', prepare_eq_ok.2 ⟨hfile, hcompile'⟩⟩

/-! ## Agreement -/

/-- A run gets past finding and compiling its workflow: it does what the compiled workflow does. -/
def GetsPast (site : Site) (projectDir selector : String) (options : RunOptions)
    (directory : String) : Prop :=
  ∃ overrides file w, options.overrides.mapM readOverride = .ok overrides ∧
    prepare site (runConfig site projectDir options.port) projectDir selector = .ok (file, w) ∧
    execute site projectDir selector options directory =
      let ran := runCompiled site (runConfig site projectDir options.port) w overrides directory
      (⟨linesText (loadedLines file), ran.1⟩, ran.2)

/-- A run fails with a message when it finds and compiles its workflow, and changes nothing. -/
def FailsBefore (site : Site) (projectDir selector : String) (options : RunOptions)
    (directory message : String) : Prop :=
  ∃ failure text,
    prepare site (runConfig site projectDir options.port) projectDir selector = .error failure ∧
      failure.text = message ∧
      execute site projectDir selector options directory = (⟨text, .error message⟩, site)

theorem getsPast_iff (hread : options.overrides.mapM readOverride = .ok overrides) :
    GetsPast site projectDir selector options directory ↔
      ∃ file w,
        prepare site (runConfig site projectDir options.port) projectDir selector = .ok (file, w) := by
  constructor
  · rintro ⟨_, file, w, -, h, -⟩
    exact ⟨file, w, h⟩
  · rintro ⟨file, w, h⟩
    exact ⟨overrides, file, w, hread, h, execute_of_ok hread h⟩

theorem failsBefore_iff (hread : options.overrides.mapM readOverride = .ok overrides)
    {message : String} :
    FailsBefore site projectDir selector options directory message ↔
      ∃ failure, failure.text = message ∧
        prepare site (runConfig site projectDir options.port) projectDir selector
          = .error failure := by
  constructor
  · rintro ⟨failure, _, h, htext, -⟩
    exact ⟨failure, htext, h⟩
  · rintro ⟨failure, rfl, h⟩
    obtain ⟨text, hexecute⟩ := execute_of_error hread h
    exact ⟨failure, text, h, rfl, hexecute⟩

theorem validate_ok_iff :
    (validate site projectDir selector).result = .ok () ↔
      ∃ file w, prepare site (.default projectDir) projectDir selector = .ok (file, w) := by
  rw [validate_eq]
  cases prepare site (.default projectDir) projectDir selector with
  | error failure => simp
  | ok ready => exact ⟨fun _ => ⟨ready.1, ready.2, rfl⟩, fun _ => rfl⟩

theorem validate_error_iff {message : String} :
    (validate site projectDir selector).result = .error message ↔
      ∃ failure, failure.text = message ∧
        prepare site (.default projectDir) projectDir selector = .error failure := by
  rw [validate_eq]
  cases prepare site (.default projectDir) projectDir selector with
  | error failure => simp
  | ok ready => simp

/-- With the usual limit on calls in each other a workflow is found valid exactly if a run of it
gets past finding and compiling it, and both fail with the same message.  A workflow that is found
valid can also be run with a higher limit, and one that can be run with a lower limit is found
valid. -/
theorem validate_agrees (hread : options.overrides.mapM readOverride = .ok overrides) :
    let limit := (runConfig site projectDir options.port).maxSharedDepth
    let usual := (Config.default projectDir).maxSharedDepth
    (limit = usual →
      ((validate site projectDir selector).result = .ok () ↔
          GetsPast site projectDir selector options directory) ∧
        ∀ message, (validate site projectDir selector).result = .error message ↔
          FailsBefore site projectDir selector options directory message) ∧
      (usual ≤ limit → (validate site projectDir selector).result = .ok () →
        GetsPast site projectDir selector options directory) ∧
      (limit ≤ usual → GetsPast site projectDir selector options directory →
        (validate site projectDir selector).result = .ok ()) := by
  intro limit usual
  have hdir : (runConfig site projectDir options.port).projectDir
      = (Config.default projectDir).projectDir := runConfig_projectDir
  rw [validate_ok_iff, getsPast_iff hread]
  refine ⟨fun hlimit => ?_, ?_, ?_⟩
  · have hprepare : prepare site (runConfig site projectDir options.port) projectDir selector
        = prepare site (.default projectDir) projectDir selector := prepare_congr hdir hlimit
    refine ⟨by rw [hprepare], fun message => ?_⟩
    rw [validate_error_iff, failsBefore_iff hread, hprepare]
  · rintro hlimit ⟨file, w, h⟩
    exact ⟨file, prepare_of_limit_le hdir.symm hlimit h⟩
  · rintro hlimit ⟨file, w, h⟩
    exact ⟨file, prepare_of_limit_le hdir hlimit h⟩

/-- The files of a project with a workflow that calls a built-in shared step. -/
def announcingFiles : FileSystem :=
  ⟨.directory [("say.yaml", .file (Utf8.encode
    "name: say\nsteps:\n- name: a\n  tool: shared\n  uses: builtin:announce\n  inputs:\n    message: b")
    false)], []⟩

/-- The project in an environment. -/
def announcing (env : List (String × String)) : Site := .start announcingFiles env ()

/-- The workflow can be compiled with the usual limit, but not if there may be no calls. -/
theorem announcing_found :
    ∃ file, findWorkflow announcingFiles "/" "say.yaml" = .ok file ∧
      (∃ w, compileFile (announcing []) (.default "/") file = .ok w) ∧
      ∀ w, compileFile (announcing []) { projectDir := "/", maxSharedDepth := 0 } file ≠ .ok w := by
  have hcheck : (match findWorkflow announcingFiles "/" "say.yaml" with
      | .error _ => false
      | .ok file => (compileFile (announcing []) (.default "/") file).isOk &&
        !(compileFile (announcing []) { projectDir := "/", maxSharedDepth := 0 } file).isOk) = true :=
    by decide +kernel
  cases hfile : findWorkflow announcingFiles "/" "say.yaml" with
  | error failure =>
    rw [hfile] at hcheck
    cases hcheck
  | ok file =>
    rw [hfile] at hcheck
    dsimp only at hcheck
    rw [Bool.and_eq_true] at hcheck
    refine ⟨file, rfl, ?_, fun w hw => ?_⟩
    · cases hw : compileFile (announcing []) (.default "/") file with
      | error failure =>
        rw [hw] at hcheck
        exact absurd hcheck.1 Bool.false_ne_true
      | ok w => exact ⟨w, rfl⟩
    · rw [hw] at hcheck
      exact absurd hcheck.2 Bool.false_ne_true

theorem announcing_agrees :
    (validate (announcing []) "/" "say.yaml").result = .ok () ∧
      GetsPast (announcing []) "/" "say.yaml" {} "/values" := by
  obtain ⟨file, hfile, ⟨w, hw⟩, -⟩ := announcing_found
  have hvalid : (validate (announcing []) "/" "say.yaml").result = .ok () :=
    validate_ok_iff.2 ⟨file, w, prepare_eq_ok.2 ⟨hfile, hw⟩⟩
  have hread : ({} : RunOptions).overrides.mapM readOverride = .ok [] := rfl
  exact ⟨hvalid, ((validate_agrees hread).1 rfl).1.1 hvalid⟩

/-- Where the environment allows no calls of shared steps, a workflow with one is found valid, but a
run of it fails when it is compiled. -/
theorem announcing_disagrees :
    (validate (announcing [("CADENCE_MAX_SHARED_DEPTH", "0")]) "/" "say.yaml").result = .ok () ∧
      ¬ GetsPast (announcing [("CADENCE_MAX_SHARED_DEPTH", "0")]) "/" "say.yaml" {} "/values" := by
  obtain ⟨file, hfile, ⟨w, hw⟩, hnone⟩ := announcing_found
  refine ⟨validate_ok_iff.2 ⟨file, w, prepare_eq_ok.2 ⟨hfile, hw⟩⟩, ?_⟩
  rintro ⟨_, other, w', -, h, -⟩
  obtain ⟨hother, hw'⟩ := prepare_eq_ok.1 h
  obtain rfl : file = other := Except.ok.inj (hfile.symm.trans hother)
  refine hnone w' ((compileFile_congr ?_ ?_ file).trans hw')
  · rfl
  · rfl

end Runbook.Cli
