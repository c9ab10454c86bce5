import MetaGuildNet.L5App.Config
import MetaGuildNet.L5App.RunnerExamples

/-!
# The runner: commands, steps, the full workflow and `main`

`MetaGuildNet/run.py` drives a GuildNet checkout through six steps (setup,
verification, testing, examples, diagnostics, cleanup), each enabled by its
section of the JSON configuration. Every step but the examples runs `make` or
`bash` through `_run_command` (232-262), which turns whatever `subprocess.run`
does into `True` or `False`. `run_full_workflow` (812-841) runs the steps in
order and stops at the first that returns `False`; `main` (853-937) loads the
configuration, sets the log level and maps the chosen workflow's result to the
exit status.

A `Shell` carries the Host App world of the examples' `requests` calls, the
outcome of each `subprocess.run`, in order, and the commands run so far: the
outcomes are arbitrary, so every result below holds whatever the commands do.
The five command steps share one frame, `stepFrame`, and differ in their body.

Results:
* `runFullWorkflow_ran`: the commands a full run executes are exactly those of
  the first `k` steps, each step's commands fixed by the configuration; the run
  returns `True` only when all six steps ran.
* `runFullWorkflow_commands`: every command runs with the runner's own
  environment (`run_setup` builds `METAGN_*` variables and never passes
  them), and `make stop-all` runs only when the `cleanup` section is enabled
  and asks to remove workspaces, which the default configuration does not.
* `runTesting_run`: on an enabled section the testing step runs each suite its
  flags ask for, the end-to-end suite whatever the integration suite did, and
  succeeds exactly when every suite it ran exits with 0.
* `main_status`: the exit status case by case: 1 when the runner fails to
  start, `KeyError: 'logging'` for a configuration without `logging`, 0 for a
  dry run, and for a workflow its verdict, 130 for `KeyboardInterrupt` and 1
  for any other exception.

Limitations: the path search of `_load_config` is the `found` argument (the
text of the file it finds, if any); a logger call prints its message without
the level filter, timestamp and colours. The steps run every process to an
outcome, so the user's Ctrl-C reaches `main` only through its table of
workflows (`mainWith`).
-/
namespace MetaGuildNet.L5.Runner

open MetaGuildNet.L1 MetaGuildNet.L2 MetaGuildNet.L3 MetaGuildNet.L4

/-! ## Commands and the shell -/

/-- How one `subprocess.run(command, capture_output=True, text=True, timeout=...)`
ends. -/
inductive Outcome where
  /-- The process exited with this status after writing this to stdout and stderr. -/
  | completed (returncode : Int) (stdout stderr : String)
  /-- `subprocess.TimeoutExpired`. -/
  | timeoutExpired
  /-- Any other exception, such as a command that is not found, with its text. -/
  | raised (msg : String)
  deriving DecidableEq, Repr

/-- `result.returncode == 0`: only a completed process with status 0 succeeds. -/
def Outcome.succeeded : Outcome → Bool
  | .completed returncode _ _ => returncode = 0
  | _ => false

/-- A command as `_run_command` hands it to `subprocess.run`: the arguments,
`timeout` and `env` (`None`: the runner's own environment). -/
structure Command where
  args : List String
  timeout : PyVal
  env : Option (List (String × PyVal))
  deriving DecidableEq, Repr

/-- What the runner acts on: the Host App world, the outcome of the `j`-th
`subprocess.run`, and the commands run so far. -/
structure Shell where
  world : World
  outcomes : Nat → Outcome
  ran : List Command

/-- Runner code: a state-passing function on the shell that may raise. -/
def Run (α : Type) : Type := Shell → Except PyExc α × Shell

namespace Run

instance : Monad Run where
  pure a := fun s => (.ok a, s)
  bind x f := fun s =>
    match x s with
    | (.ok a, s') => f a s'
    | (.error e, s') => (.error e, s')

instance : MonadExceptOf PyExc Run where
  throw e := fun s => (.error e, s)
  tryCatch x h := fun s =>
    match x s with
    | (.ok a, s') => (.ok a, s')
    | (.error e, s') => h e s'

def prog {α : Type} (x : Prog α) : Run α := fun s => ((x s.world).1, { s with world := (x s.world).2 })

def lift {α : Type} (r : Except PyExc α) : Run α := fun s => (r, s)

def print (line : String) : Run Unit := prog (Prog.print line)

/-- `subprocess.run(...)`: the next outcome; the command is recorded. -/
def exec (cmd : Command) : Run Outcome := fun s =>
  (.ok (s.outcomes s.ran.length), { s with ran := s.ran ++ [cmd] })

variable {α β : Type}

@[simp] theorem pure_run (a : α) (s : Shell) : (pure a : Run α) s = (.ok a, s) := rfl

@[simp] theorem throw_run (e : PyExc) (s : Shell) : (throw e : Run α) s = (.error e, s) := rfl

@[simp] theorem lift_run (r : Except PyExc α) (s : Shell) : lift r s = (r, s) := rfl

@[simp] theorem prog_run (x : Prog α) (s : Shell) :
    prog x s = ((x s.world).1, { s with world := (x s.world).2 }) := rfl

@[simp] theorem exec_run (cmd : Command) (s : Shell) :
    exec cmd s = (.ok (s.outcomes s.ran.length), { s with ran := s.ran ++ [cmd] }) := rfl

theorem bind_run (x : Run α) (f : α → Run β) (s : Shell) :
    (x >>= f) s = match x s with
      | (.ok a, s') => f a s'
      | (.error e, s') => (.error e, s') := rfl

theorem tryCatch_run (x : Run α) (h : PyExc → Run α) (s : Shell) :
    (tryCatch x h : Run α) s = match x s with
      | (.ok a, s') => (.ok a, s')
      | (.error e, s') => h e s' := rfl

end Run

def Run.printLines (lines : List String) : Run Unit := Run.prog (Runner.printLines lines)

/-- The lines `_run_command` logs for one output stream: each non-blank line,
indented. -/
def streamLines (text : String) : List String :=
  if text = "" then [] else ((Str.splitLines text).filter fun l => Str.strip l != "").map ("  " ++ ·)

/-- `_run_command(command, timeout=timeout, env=env)`; the working directory is
the project root.
mirrors MetaGuildNet/run.py:232-262 -/
def runCommand (command : List String) (timeout : PyVal) (env : Option (List (String × PyVal))) :
    Run Bool := do
  let text := " ".intercalate command
  Run.print ("Running: " ++ text)
  match ← Run.exec ⟨command, timeout, env⟩ with
  | .completed returncode stdout stderr =>
    Run.printLines (streamLines stdout)
    Run.printLines (streamLines stderr)
    pure (returncode = 0)
  | .timeoutExpired =>
    Run.print ("Command timed out: " ++ text)
    pure false
  | .raised msg =>
    Run.print ("Command failed: " ++ text ++ " - " ++ msg)
    pure false

/-- The lines `_run_command` prints for a command that ends with `o`. -/
def commandLines (command : List String) (o : Outcome) : List String :=
  ("Running: " ++ " ".intercalate command) :: match o with
  | .completed _ stdout stderr => streamLines stdout ++ streamLines stderr
  | .timeoutExpired => ["Command timed out: " ++ " ".intercalate command]
  | .raised msg => ["Command failed: " ++ " ".intercalate command ++ " - " ++ msg]

theorem runCommand_run (command : List String) (timeout : PyVal)
    (env : Option (List (String × PyVal))) (s : Shell) :
    runCommand command timeout env s = (.ok (s.outcomes s.ran.length).succeeded,
      { s with
        world := { s.world with out := s.world.out ++ commandLines command (s.outcomes s.ran.length) }
        ran := s.ran ++ [⟨command, timeout, env⟩] }) := by
  simp only [runCommand, Run.bind_run, Run.print, Run.prog_run, Prog.print_run, Run.exec_run,
    Run.printLines, printLines_run]
  cases s.outcomes s.ran.length <;> simp [Outcome.succeeded, Run.bind_run, commandLines]

/-! ## The steps -/

section
variable (root : String)

/-- The frame of a command step: read the section, skip it when `enabled` is
false, print the header, run the body on the section, report.
mirrors MetaGuildNet/run.py:264-290 and the steps after it -/
def stepFrame (key : String) (enabledDefault : Bool) (disabledMsg header successMsg : String)
    (failureLines : List String) (body : PyVal → Run Bool) (config : PyVal) : Run Bool := do
  let cfg ← Run.lift (config.get key (.dict []))
  if !(← Run.lift (cfg.get "enabled" (.bool enabledDefault))).truthy then do
    Run.print disabledMsg
    pure true
  else do
    Run.print (sectionText header)
    let success ← body cfg
    if success then Run.print successMsg else Run.printLines failureLines
    pure success

/-- A command of `make -C <root>`. -/
def makeArgs (target : String) : List String := ["make", "-C", root, target]

/-- An optional command of a step: run under its subsection when the flag is
set, success when it is not. -/
def optionalCommand (cfg : PyVal) (flag : String) (flagDefault : Bool) (subsection : String)
    (args : List String) (timeout : Except PyExc PyVal) : Run Bool := do
  if (← Run.lift (cfg.get flag (.bool flagDefault))).truthy then do
    Run.print (subsectionText subsection)
    let t ← Run.lift timeout
    runCommand args t none
  else pure true

/-- The body of the setup step. The `env` `run_setup` builds with the `METAGN_*`
variables (274-281) is never passed: the command runs with `env=None`.
mirrors MetaGuildNet/run.py:274-283 -/
def setupBody (cfg : PyVal) : Run Bool := do
  let timeout ← Run.lift (cfg.get "verify_timeout" (.int 300))
  runCommand (makeArgs root "meta-setup") timeout none

/-- `run_setup()`.
mirrors MetaGuildNet/run.py:264-290 -/
def runSetup (config : PyVal) : Run Bool :=
  stepFrame "meta_setup" true "Setup disabled in config" "MetaGuildNet Setup"
    "Setup completed successfully" ["Setup failed"] (setupBody root) config

/-- What the verification step prints when it fails.
mirrors MetaGuildNet/run.py:312-321 -/
def verificationFailedLines : List String :=
  ["Verification failed", "", "🔧 Common issues and solutions:", "   • Host App not running → make run",
    "   • Kubernetes cluster not accessible → Check kubeconfig",
    "   • RethinkDB not available → make deploy-k8s-addons",
    "   • TLS certificate issues → make regen-certs",
    "   • Network connectivity → Check Tailscale status", "",
    "📋 For detailed diagnostics: make meta-diagnose"]

/-- The verification script's command line.
mirrors MetaGuildNet/run.py:302-306 -/
def verifyArgs (outputFormat : PyVal) : List String :=
  ["bash", root ++ "/MetaGuildNet/scripts/verify/verify_all.sh"] ++
    if outputFormat.eqStr "json" then ["--json"] else []

/-- The body of the verification step.
mirrors MetaGuildNet/run.py:302-307 -/
def verificationBody (cfg : PyVal) : Run Bool := do
  let outputFormat ← Run.lift (cfg.get "output_format" (.str "text"))
  let timeout ← Run.lift (cfg.get "timeout" (.int 300))
  runCommand (verifyArgs root outputFormat) timeout none

/-- `run_verification()`.
mirrors MetaGuildNet/run.py:292-323 -/
def runVerification (config : PyVal) : Run Bool :=
  stepFrame "verification" true "Verification disabled in config" "MetaGuildNet Verification"
    "Verification completed successfully" verificationFailedLines (verificationBody root) config

/-- What the testing step prints when it fails.
mirrors MetaGuildNet/run.py:350-358 -/
def testingFailedLines : List String :=
  ["Testing failed", "", "🔧 Testing troubleshooting:", "   • Integration tests require running services",
    "   • E2E tests need Host App and Kubernetes cluster", "   • Start required services first: make run",
    "   • Verify cluster connectivity: kubectl get nodes",
    "   • Check Host App health: curl -sk https://127.0.0.1:8080/healthz", ""]

/-- The body of the testing step: both suites, each when asked for.
mirrors MetaGuildNet/run.py:335-345 -/
def testingBody (cfg : PyVal) : Run Bool := do
  let integration ← optionalCommand cfg "run_integration_tests" true "Running Integration Tests"
    (makeArgs root "meta-test-integration") (cfg.get "test_timeout" (.int 600))
  let e2e ← optionalCommand cfg "run_e2e_tests" true "Running E2E Tests"
    (makeArgs root "meta-test-e2e") (cfg.get "test_timeout" (.int 600))
  pure (integration && e2e)

/-- `run_testing()`.
mirrors MetaGuildNet/run.py:325-360 -/
def runTesting (config : PyVal) : Run Bool :=
  stepFrame "testing" true "Testing disabled in config" "MetaGuildNet Testing"
    "Testing completed successfully" testingFailedLines (testingBody root) config

/-- The body of the diagnostics step.
mirrors MetaGuildNet/run.py:766-775 -/
def diagnosticsBody (cfg : PyVal) : Run Bool := do
  Run.print (subsectionText "Running Health Check")
  let timeout ← Run.lift (cfg.get "diagnostic_timeout" (.int 60))
  let health ← runCommand (makeArgs root "meta-diagnose") timeout none
  let exported ← optionalCommand cfg "export_diagnostics" false "Exporting Diagnostics"
    (makeArgs root "export-diagnostics") (.ok (.int 120))
  pure (health && exported)

/-- `run_diagnostics()`.
mirrors MetaGuildNet/run.py:756-782 -/
def runDiagnostics (config : PyVal) : Run Bool :=
  stepFrame "diagnostics" true "Diagnostics disabled in config" "MetaGuildNet Diagnostics"
    "Diagnostics completed successfully" ["Diagnostics failed"] (diagnosticsBody root) config

/-- The body of the cleanup step; `stop_services` only prints its subsection.
mirrors MetaGuildNet/run.py:794-803 -/
def cleanupBody (cfg : PyVal) : Run Bool := do
  let removed ← optionalCommand cfg "remove_workspaces" true "Removing Workspaces"
    (makeArgs root "stop-all") (.ok (.int 60))
  if (← Run.lift (cfg.get "stop_services" (.bool false))).truthy then
    Run.print (subsectionText "Stopping Services")
  pure removed

/-- `run_cleanup()`: the one step disabled unless its section enables it.
mirrors MetaGuildNet/run.py:784-810 -/
def runCleanup (config : PyVal) : Run Bool :=
  stepFrame "cleanup" false "Cleanup disabled in config" "MetaGuildNet Cleanup"
    "Cleanup completed successfully" ["Cleanup failed"] (cleanupBody root) config

/-! ## The full workflow -/

/-- `for step_name, step_func in steps: if not step_func(): success = False; break`.
mirrors MetaGuildNet/run.py:827-831 -/
def runSteps : List (String × Run Bool) → Run Bool
  | [] => pure true
  | (_, step) :: rest => do
    if !(← step) then pure false else runSteps rest

variable (decode : Decoder) (getenv : String → Option String)

/-- The six steps in order.
mirrors MetaGuildNet/run.py:818-825 -/
def workflowSteps (config : PyVal) : List (String × Run Bool) :=
  [("Setup", runSetup root config), ("Verification", runVerification root config),
    ("Testing", runTesting root config), ("Examples", Run.prog (runExamples decode getenv config)),
    ("Diagnostics", runDiagnostics root config), ("Cleanup", runCleanup root config)]

/-- `run_full_workflow()`; the model's clock counts whole seconds, so the
duration prints with `.0`.
mirrors MetaGuildNet/run.py:812-841 -/
def runFullWorkflow (config : PyVal) : Run Bool := do
  let startTime ← Run.prog timeNow
  Run.print (sectionText "MetaGuildNet Full Workflow")
  let success ← runSteps (workflowSteps root decode getenv config)
  let duration := (← Run.prog timeNow) - startTime
  if success then Run.print ("Full workflow completed successfully in " ++ toString duration ++ ".0s")
  else Run.print ("Full workflow failed after " ++ toString duration ++ ".0s")
  pure success

end

/-! ## The default configuration -/

/-- `_get_default_config()`.
mirrors MetaGuildNet/run.py:184-230 -/
def getDefaultConfig : PyVal :=
  .dict [
    ("meta_setup", .dict [("enabled", .bool true), ("mode", .str "auto"), ("verify_timeout", .int 300),
      ("auto_approve_routes", .bool true), ("log_level", .str "info")]),
    ("verification", .dict [("enabled", .bool true),
      ("layers", .list [.str "network", .str "cluster", .str "database", .str "application"]),
      ("output_format", .str "text"), ("timeout", .int 300)]),
    ("testing", .dict [("enabled", .bool true), ("run_integration_tests", .bool true),
      ("run_e2e_tests", .bool true), ("test_timeout", .int 600)]),
    ("examples", .dict [("enabled", .bool true), ("create_workspace", .bool true),
      ("workspace_image", .str "codercom/code-server:latest"), ("workspace_name", .str "metaguildnet-demo"),
      ("multi_user_setup", .bool false), ("comprehensive_output", .bool true)]),
    ("diagnostics", .dict [("enabled", .bool true), ("export_diagnostics", .bool false),
      ("diagnostic_timeout", .int 60)]),
    ("cleanup", .dict [("enabled", .bool false), ("remove_workspaces", .bool true),
      ("stop_services", .bool false)]),
    ("logging", .dict [("level", .str "info"), ("format", .str "colored"), ("timestamp", .bool true),
      ("file", .none)])]

/-! ## The commands a run executes -/

/-- `x` adds `cmds` to the commands run, from every shell, whatever it returns. -/
def Runs {α : Type} (x : Run α) (cmds : List Command) : Prop := ∀ s, (x s).2.ran = s.ran ++ cmds

namespace Runs

variable {α β : Type}

theorem prog (x : Prog α) : Runs (Run.prog x) [] := fun _ => by simp

theorem lift (r : Except PyExc α) : Runs (Run.lift r) [] := fun _ => by simp

theorem pure (a : α) : Runs (Pure.pure a : Run α) [] := fun _ => by simp

theorem print (line : String) : Runs (Run.print line) [] := prog _

theorem printLines (lines : List String) : Runs (Run.printLines lines) [] := prog _

theorem runCommand (command : List String) (timeout : PyVal) (env : Option (List (String × PyVal))) :
    Runs (runCommand command timeout env) [⟨command, timeout, env⟩] := fun s => by
  rw [runCommand_run]

theorem bind_nil {x : Run α} {f : α → Run β} {cmds : List Command} (hx : Runs x [])
    (hf : ∀ a, Runs (f a) cmds) (hok : ∀ s, ∃ a s', x s = (.ok a, s')) : Runs (x >>= f) cmds := fun s => by
  obtain ⟨a, s', h⟩ := hok s
  have := hx s
  rw [h] at this
  rw [Run.bind_run, h]
  simp only at this ⊢
  rw [hf a s', this, List.append_nil]

theorem lift_ok_bind {a : α} {f : α → Run β} {cmds : List Command} (h : Runs (f a) cmds) :
    Runs (Run.lift (.ok a) >>= f) cmds := h

theorem bind {x : Run α} {f : α → Run β} {c₁ c₂ : List Command} (hx : Runs x c₁)
    (hf : ∀ a, Runs (f a) c₂) (hok : ∀ s, ∃ a s', x s = (.ok a, s')) :
    Runs (x >>= f) (c₁ ++ c₂) := fun s => by
  obtain ⟨a, s', h⟩ := hok s
  have := hx s
  rw [h] at this
  rw [Run.bind_run, h]
  simp only at this ⊢
  rw [hf a s', this, List.append_assoc]

end Runs

/-- `x` returns, from every shell. -/
def Returns {α : Type} (x : Run α) : Prop := ∀ s, ∃ a s', x s = (.ok a, s')

/-! ## What each step runs -/

/-- The commands a step's frame runs on a configuration, given what its body
runs on each section object: none when the section is not an object or is
disabled. -/
def framePlan (key : String) (enabledDefault : Bool) (bodyPlan : List (String × PyVal) → List Command)
    (config : PyVal) : List Command :=
  match config.get key (.dict []) with
  | .ok (.dict kvs) =>
    if ((kvs.lookup "enabled").getD (.bool enabledDefault)).truthy then bodyPlan kvs else []
  | _ => []

def optionalPlan (kvs : List (String × PyVal)) (flag : String) (flagDefault : Bool)
    (args : List String) (timeout : PyVal) : List Command :=
  if ((kvs.lookup flag).getD (.bool flagDefault)).truthy then [⟨args, timeout, none⟩] else []

section
variable (root : String)

def setupPlan (kvs : List (String × PyVal)) : List Command :=
  [⟨makeArgs root "meta-setup", (kvs.lookup "verify_timeout").getD (.int 300), none⟩]

def verificationPlan (kvs : List (String × PyVal)) : List Command :=
  [⟨verifyArgs root ((kvs.lookup "output_format").getD (.str "text")),
    (kvs.lookup "timeout").getD (.int 300), none⟩]

def testingPlan (kvs : List (String × PyVal)) : List Command :=
  optionalPlan kvs "run_integration_tests" true (makeArgs root "meta-test-integration")
      ((kvs.lookup "test_timeout").getD (.int 600)) ++
    optionalPlan kvs "run_e2e_tests" true (makeArgs root "meta-test-e2e")
      ((kvs.lookup "test_timeout").getD (.int 600))

def diagnosticsPlan (kvs : List (String × PyVal)) : List Command :=
  ⟨makeArgs root "meta-diagnose", (kvs.lookup "diagnostic_timeout").getD (.int 60), none⟩ ::
    optionalPlan kvs "export_diagnostics" false (makeArgs root "export-diagnostics") (.int 120)

def cleanupPlan (kvs : List (String × PyVal)) : List Command :=
  optionalPlan kvs "remove_workspaces" true (makeArgs root "stop-all") (.int 60)

/-- The commands of the six steps, in order; the examples step runs none. -/
def workflowPlans (config : PyVal) : List (List Command) :=
  [framePlan "meta_setup" true (setupPlan root) config,
    framePlan "verification" true (verificationPlan root) config,
    framePlan "testing" true (testingPlan root) config, [],
    framePlan "diagnostics" true (diagnosticsPlan root) config,
    framePlan "cleanup" false (cleanupPlan root) config]

end

theorem runCommand_returns (command : List String) (timeout : PyVal)
    (env : Option (List (String × PyVal))) : Returns (runCommand command timeout env) := fun s =>
  ⟨_, _, runCommand_run command timeout env s⟩

theorem optionalCommand_runs (kvs : List (String × PyVal)) (flag : String) (flagDefault : Bool)
    (subsection : String) (args : List String) (timeout : PyVal) :
    Runs (optionalCommand (.dict kvs) flag flagDefault subsection args (.ok timeout))
      (optionalPlan kvs flag flagDefault args timeout) := fun s => by
  unfold optionalCommand optionalPlan
  by_cases hf : ((kvs.lookup flag).getD (.bool flagDefault)).truthy <;>
    simp [Run.bind_run, hf, Run.print, runCommand_run]

theorem optionalCommand_returns (kvs : List (String × PyVal)) (flag : String) (flagDefault : Bool)
    (subsection : String) (args : List String) (timeout : PyVal) :
    Returns (optionalCommand (.dict kvs) flag flagDefault subsection args (.ok timeout)) := fun s => by
  unfold optionalCommand
  by_cases hf : ((kvs.lookup flag).getD (.bool flagDefault)).truthy <;>
    simp [Run.bind_run, hf, Run.print, runCommand_run]

/-- The frame runs its body's commands on an enabled section object and nothing
otherwise, whatever the body returns or raises. -/
theorem stepFrame_runs (key : String) (enabledDefault : Bool) (disabledMsg header successMsg : String)
    (failureLines : List String) {body : PyVal → Run Bool}
    {bodyPlan : List (String × PyVal) → List Command} (hb : ∀ kvs, Runs (body (.dict kvs)) (bodyPlan kvs))
    (config : PyVal) :
    Runs (stepFrame key enabledDefault disabledMsg header successMsg failureLines body config)
      (framePlan key enabledDefault bodyPlan config) := fun s => by
  unfold stepFrame framePlan
  cases hc : config.get key (.dict []) with
  | error e => simp [Run.bind_run]
  | ok cfg =>
    cases cfg with
    | dict kvs =>
      by_cases he : ((kvs.lookup "enabled").getD (.bool enabledDefault)).truthy
      · let s₁ : Shell := { s with world := { s.world with out := s.world.out ++ [sectionText header] } }
        have hr := hb kvs s₁
        simp only [Run.bind_run, Run.lift_run, PyVal.get_dict, he, Bool.not_true, Bool.false_eq_true,
          if_false, if_true, Run.print, Run.prog_run, Prog.print_run]
        rcases hbody : body (.dict kvs) s₁ with ⟨_ | b, s₂⟩
        · rw [hbody] at hr
          exact hr
        · rw [hbody] at hr
          cases b <;> simpa [Run.printLines, Run.bind_run, Run.print] using hr
      · simp [Run.bind_run, he, Run.print]
    | _ => simp [Run.bind_run, PyVal.get]

section
variable (root : String)

theorem setupBody_runs (kvs : List (String × PyVal)) :
    Runs (setupBody root (.dict kvs)) (setupPlan root kvs) :=
  Runs.runCommand _ _ _

theorem verificationBody_runs (kvs : List (String × PyVal)) :
    Runs (verificationBody root (.dict kvs)) (verificationPlan root kvs) :=
  Runs.runCommand _ _ _

theorem testingBody_runs (kvs : List (String × PyVal)) :
    Runs (testingBody root (.dict kvs)) (testingPlan root kvs) := by
  unfold testingBody testingPlan
  rw [← List.append_nil (optionalPlan kvs "run_e2e_tests" _ _ _)]
  exact Runs.bind (optionalCommand_runs kvs _ _ _ _ _)
    (fun _ => Runs.bind (optionalCommand_runs kvs _ _ _ _ _) (fun _ => Runs.pure _)
      (optionalCommand_returns kvs _ _ _ _ _))
    (optionalCommand_returns kvs _ _ _ _ _)

theorem diagnosticsBody_runs (kvs : List (String × PyVal)) :
    Runs (diagnosticsBody root (.dict kvs)) (diagnosticsPlan root kvs) := by
  unfold diagnosticsBody diagnosticsPlan
  rw [← List.singleton_append, ← List.append_nil (optionalPlan kvs "export_diagnostics" _ _ _)]
  refine Runs.bind_nil (Runs.print _) (fun _ => Runs.lift_ok_bind ?_) (fun _ => ⟨_, _, rfl⟩)
  exact Runs.bind (Runs.runCommand _ _ _)
    (fun _ => Runs.bind (optionalCommand_runs kvs _ _ _ _ _) (fun _ => Runs.pure _)
      (optionalCommand_returns kvs _ _ _ _ _))
    (runCommand_returns _ _ _)

theorem cleanupBody_runs (kvs : List (String × PyVal)) :
    Runs (cleanupBody root (.dict kvs)) (cleanupPlan root kvs) := fun s => by
  obtain ⟨b, s', h⟩ := optionalCommand_returns kvs "remove_workspaces" true "Removing Workspaces"
    (makeArgs root "stop-all") (.int 60) s
  have hr := optionalCommand_runs kvs "remove_workspaces" true "Removing Workspaces"
    (makeArgs root "stop-all") (.int 60) s
  rw [h] at hr
  simp only [cleanupBody, Run.bind_run, h, Run.lift_run, PyVal.get_dict]
  split <;> simpa [Run.print, Run.bind_run] using hr

end

section
variable (root : String)

theorem runSetup_runs (config : PyVal) :
    Runs (runSetup root config) (framePlan "meta_setup" true (setupPlan root) config) :=
  stepFrame_runs _ _ _ _ _ _ (setupBody_runs root) config

theorem runVerification_runs (config : PyVal) :
    Runs (runVerification root config) (framePlan "verification" true (verificationPlan root) config) :=
  stepFrame_runs _ _ _ _ _ _ (verificationBody_runs root) config

theorem runTesting_runs (config : PyVal) :
    Runs (runTesting root config) (framePlan "testing" true (testingPlan root) config) :=
  stepFrame_runs _ _ _ _ _ _ (testingBody_runs root) config

theorem runDiagnostics_runs (config : PyVal) :
    Runs (runDiagnostics root config) (framePlan "diagnostics" true (diagnosticsPlan root) config) :=
  stepFrame_runs _ _ _ _ _ _ (diagnosticsBody_runs root) config

theorem runCleanup_runs (config : PyVal) :
    Runs (runCleanup root config) (framePlan "cleanup" false (cleanupPlan root) config) :=
  stepFrame_runs _ _ _ _ _ _ (cleanupBody_runs root) config

/-- The steps `runSteps` runs, each with its result and the shell after it: up
to the first that does not return `True`. -/
def stepTrace : List (String × Run Bool) → Shell → List (Except PyExc Bool × Shell)
  | [], _ => []
  | (_, step) :: rest, s =>
    match step s with
    | (.ok true, s') => (.ok true, s') :: stepTrace rest s'
    | r => [r]

/-- The loop with `break`: every step it runs but the last returns `True`, and
it ends as that last step does, or with `True` when there is no step. -/
theorem runSteps_stepTrace : ∀ (steps : List (String × Run Bool)) (s : Shell),
    runSteps steps s = (stepTrace steps s).getLast?.getD (.ok true, s) ∧
      ∀ r ∈ (stepTrace steps s).dropLast, r.1 = .ok true
  | [], s => ⟨rfl, by simp [stepTrace]⟩
  | (_, step) :: rest, s => by
    rcases h : step s with ⟨_ | b, s'⟩
    · simp [runSteps, stepTrace, Run.bind_run, h]
    cases b with
    | false => simp [runSteps, stepTrace, Run.bind_run, h]
    | true =>
      obtain ⟨hrun, hdrop⟩ := runSteps_stepTrace rest s'
      simp only [runSteps, stepTrace, Run.bind_run, h, Bool.not_true, Bool.false_eq_true, if_false]
      cases ht : stepTrace rest s' with
      | nil => simp_all
      | cons r rs =>
        rw [ht] at hrun hdrop
        refine ⟨by simpa [List.getLast?_cons] using hrun, ?_⟩
        rw [List.dropLast_cons₂]
        rintro x (_ | ⟨_, hx⟩)
        · rfl
        · exact hdrop x hx

/-- The commands the loop runs are those of the steps it runs, and `True`
comes back only when every step ran. -/
theorem runSteps_ran : ∀ (steps : List (String × Run Bool)) (plans : List (List Command)),
    List.Forall₂ (fun st p => Runs st.2 p) steps plans → ∀ s,
      (stepTrace steps s).length ≤ plans.length ∧
        (runSteps steps s).2.ran = s.ran ++ (plans.take (stepTrace steps s).length).flatten ∧
        ((runSteps steps s).1 = .ok true → (stepTrace steps s).length = plans.length)
  | [], [], .nil, s => ⟨le_refl _, by simp [runSteps, stepTrace], fun _ => rfl⟩
  | (_, step) :: rest, p :: ps, .cons hp hrest, s => by
    have hp' : (step s).2.ran = s.ran ++ p := hp s
    rcases h : step s with ⟨_ | b, s'⟩ <;> have hstep : s'.ran = s.ran ++ p := by rw [← hp', h]
    · simp [runSteps, stepTrace, Run.bind_run, h, hstep]
    cases b with
    | false => simp [runSteps, stepTrace, Run.bind_run, h, hstep]
    | true =>
      obtain ⟨hk, hran, htrue⟩ := runSteps_ran rest ps hrest s'
      simp only [runSteps, stepTrace, Run.bind_run, h, Bool.not_true, Bool.false_eq_true, if_false,
        List.length_cons, List.take_succ_cons, List.flatten_cons]
      exact ⟨by simpa using hk, by rw [hran, hstep, List.append_assoc], fun ht => by simpa using htrue ht⟩

variable (decode : Decoder) (getenv : String → Option String)

theorem workflowSteps_runs (config : PyVal) :
    List.Forall₂ (fun st p => Runs st.2 p) (workflowSteps root decode getenv config)
      (workflowPlans root config) :=
  .cons (runSetup_runs root config) <| .cons (runVerification_runs root config) <|
    .cons (runTesting_runs root config) <| .cons (Runs.prog _) <|
    .cons (runDiagnostics_runs root config) <| .cons (runCleanup_runs root config) .nil

theorem runFullWorkflow_steps (config : PyVal) (s : Shell) :
    let s₁ : Shell := { s with world := { s.world with out := s.world.out ++ [sectionText "MetaGuildNet Full Workflow"] } }
    (runFullWorkflow root decode getenv config s).2.ran =
        (runSteps (workflowSteps root decode getenv config) s₁).2.ran ∧
      ((runFullWorkflow root decode getenv config s).1 = .ok true ↔
        (runSteps (workflowSteps root decode getenv config) s₁).1 = .ok true) := by
  intro s₁
  simp only [runFullWorkflow, Run.bind_run, Run.prog_run, timeNow_run, Run.print, Prog.print_run]
  rcases runSteps (workflowSteps root decode getenv config) s₁ with ⟨_ | b, s₂⟩
  · simp
  · cases b <;> simp [Run.bind_run]

/-- The commands a full run executes are those of the first `k` steps, each
step's commands fixed by the configuration alone; the run returns `True` only
when all six steps ran. -/
theorem runFullWorkflow_ran (config : PyVal) (s : Shell) :
    ∃ k ≤ 6, (runFullWorkflow root decode getenv config s).2.ran =
        s.ran ++ ((workflowPlans root config).take k).flatten ∧
      ((runFullWorkflow root decode getenv config s).1 = .ok true → k = 6) := by
  obtain ⟨hran, htrue⟩ := runFullWorkflow_steps root decode getenv config s
  obtain ⟨hk, h, ht⟩ := runSteps_ran _ _ (workflowSteps_runs root decode getenv config)
    { s with world := { s.world with out := s.world.out ++ [sectionText "MetaGuildNet Full Workflow"] } }
  exact ⟨_, hk, hran.trans h, fun h' => ht (htrue.mp h')⟩

end

/-! ## What the commands are -/

/-- Whether the cleanup section is an enabled object that asks to remove the
workspaces. -/
def removesWorkspaces (config : PyVal) : Bool :=
  match config.get "cleanup" (.dict []) with
  | .ok (.dict kvs) =>
    ((kvs.lookup "enabled").getD (.bool false)).truthy &&
      ((kvs.lookup "remove_workspaces").getD (.bool true)).truthy
  | _ => false

/-- The default configuration never removes workspaces. -/
example : removesWorkspaces getDefaultConfig = false := rfl

theorem mem_framePlan {key : String} {enabledDefault : Bool}
    {bodyPlan : List (String × PyVal) → List Command} {config : PyVal} {cmd : Command}
    (h : cmd ∈ framePlan key enabledDefault bodyPlan config) :
    ∃ kvs, config.get key (.dict []) = .ok (.dict kvs) ∧
      ((kvs.lookup "enabled").getD (.bool enabledDefault)).truthy = true ∧ cmd ∈ bodyPlan kvs := by
  unfold framePlan at h
  split at h
  · rename_i kvs hc
    split_ifs at h with he
    · exact ⟨kvs, hc, he, h⟩
    · cases h
  · cases h

theorem mem_optionalPlan {kvs : List (String × PyVal)} {flag : String} {flagDefault : Bool}
    {args : List String} {timeout : PyVal} {cmd : Command}
    (h : cmd ∈ optionalPlan kvs flag flagDefault args timeout) :
    ((kvs.lookup flag).getD (.bool flagDefault)).truthy = true ∧ cmd = ⟨args, timeout, none⟩ := by
  unfold optionalPlan at h
  split_ifs at h with hf
  · exact ⟨hf, List.mem_singleton.mp h⟩
  · cases h

theorem makeArgs_inj {root a b : String} : makeArgs root a = makeArgs root b ↔ a = b := by
  simp [makeArgs]

/-- Every planned command runs with the runner's own environment, and
`make stop-all` is planned only by a cleanup section that removes workspaces. -/
theorem workflowPlans_command (root : String) (config : PyVal) {cmd : Command}
    (h : cmd ∈ (workflowPlans root config).flatten) :
    cmd.env = none ∧ (cmd.args = makeArgs root "stop-all" → removesWorkspaces config = true) := by
  simp only [workflowPlans, List.flatten, List.mem_append, List.not_mem_nil, or_false] at h
  rcases h with h | h | h | h | h | h
  · obtain ⟨kvs, -, -, h⟩ := mem_framePlan h
    simp only [setupPlan, List.mem_singleton] at h
    subst h
    simp [makeArgs_inj]
  · obtain ⟨kvs, -, -, h⟩ := mem_framePlan h
    simp only [verificationPlan, List.mem_singleton] at h
    subst h
    simp [verifyArgs, makeArgs]
  · obtain ⟨kvs, -, -, h⟩ := mem_framePlan h
    rcases List.mem_append.mp h with h | h <;> obtain ⟨-, rfl⟩ := mem_optionalPlan h <;>
      simp [makeArgs_inj]
  · cases h
  · obtain ⟨kvs, -, -, h⟩ := mem_framePlan h
    rcases List.mem_cons.mp h with rfl | h
    · simp [makeArgs_inj]
    · obtain ⟨-, rfl⟩ := mem_optionalPlan h
      simp [makeArgs_inj]
  · obtain ⟨kvs, hc, he, h⟩ := mem_framePlan h
    obtain ⟨hr, rfl⟩ := mem_optionalPlan h
    simp [removesWorkspaces, hc, he, hr]

section
variable (root : String) (decode : Decoder) (getenv : String → Option String)

/-- Every command a full run executes inherits the runner's environment
(`run_setup`'s `METAGN_*` variables never reach `make`), and `make stop-all`
runs only when the cleanup section is enabled and removes workspaces. -/
theorem runFullWorkflow_commands (config : PyVal) (s : Shell) :
    (∀ cmd ∈ (runFullWorkflow root decode getenv config s).2.ran.drop s.ran.length, cmd.env = none) ∧
      (makeArgs root "stop-all" ∈
          ((runFullWorkflow root decode getenv config s).2.ran.drop s.ran.length).map Command.args →
        removesWorkspaces config = true) := by
  obtain ⟨hran, -⟩ := runFullWorkflow_steps root decode getenv config s
  obtain ⟨-, h, -⟩ := runSteps_ran _ _ (workflowSteps_runs root decode getenv config)
    { s with world := { s.world with out := s.world.out ++ [sectionText "MetaGuildNet Full Workflow"] } }
  have hplanned : ∀ cmd ∈ (runFullWorkflow root decode getenv config s).2.ran.drop s.ran.length,
      cmd ∈ (workflowPlans root config).flatten := by
    rw [hran, h, List.drop_left]
    intro cmd hc
    obtain ⟨p, hp, hcp⟩ := List.mem_flatten.mp hc
    exact List.mem_flatten.mpr ⟨p, List.mem_of_mem_take hp, hcp⟩
  refine ⟨fun cmd hc => (workflowPlans_command root config (hplanned cmd hc)).1, fun hm => ?_⟩
  obtain ⟨cmd, hc, hargs⟩ := List.mem_map.mp hm
  exact (workflowPlans_command root config (hplanned cmd hc)).2 hargs

theorem optionalCommand_run (kvs : List (String × PyVal)) (flag : String) (flagDefault : Bool)
    (subsection : String) (args : List String) (timeout : PyVal) (s : Shell) :
    optionalCommand (.dict kvs) flag flagDefault subsection args (.ok timeout) s =
      if ((kvs.lookup flag).getD (.bool flagDefault)).truthy then
        runCommand args timeout none
          { s with world := { s.world with out := s.world.out ++ [subsectionText subsection] } }
      else (.ok true, s) := by
  unfold optionalCommand
  rw [Run.bind_run, Run.lift_run, PyVal.get_dict]
  dsimp only
  split <;> rfl

theorem stepFrame_enabled {key : String} {enabledDefault : Bool} {config : PyVal}
    {kvs : List (String × PyVal)} (hc : config.get key (.dict []) = .ok (.dict kvs))
    (he : ((kvs.lookup "enabled").getD (.bool enabledDefault)).truthy = true)
    (disabledMsg header successMsg : String) (failureLines : List String) (body : PyVal → Run Bool)
    (s : Shell) :
    stepFrame key enabledDefault disabledMsg header successMsg failureLines body config s =
      (body (.dict kvs) >>= fun success => do
        if success then Run.print successMsg else Run.printLines failureLines
        pure success) { s with world := { s.world with out := s.world.out ++ [sectionText header] } } := by
  unfold stepFrame
  rw [Run.bind_run, Run.lift_run, hc]
  dsimp only
  rw [Run.bind_run, Run.lift_run, PyVal.get_dict]
  dsimp only
  rw [he]
  rfl

end

def defaultTesting : List (String × PyVal) :=
  [("enabled", .bool true), ("run_integration_tests", .bool true), ("run_e2e_tests", .bool true),
    ("test_timeout", .int 600)]

/-- The reads of `Logger.__init__`: they raise when the configuration or its
`logging` entry is not an object. The level, colour and timestamp settings they
read only shape the formatting, which is left out.
mirrors MetaGuildNet/run.py:57-61 -/
def loggerInit (config : PyVal) : Except PyExc Unit := do
  let logging ← config.get "logging" (.dict [])
  let _ ← logging.get "level" (.str "info")
  let _ ← logging.get "format" (.str "colored")
  let _ ← logging.get "timestamp" (.bool true)
  pure ()

section
variable (decode : Decoder)

/-- `_load_config()`, given the text of the file its path search finds, if any;
the search and its debug lines are left out.
mirrors MetaGuildNet/run.py:122-182 -/
def loadConfig (configPath : String) (found : Option String) : Prog PyVal :=
  match found with
  | none => do
    Prog.print ("Config file not found: " ++ configPath)
    Prog.print "Using default configuration"
    pure getDefaultConfig
  | some text =>
    match decode text with
    | .ok config => pure config
    | .error msg => do
      Prog.print ("Invalid JSON in config file: " ++ msg)
      Prog.print "Using default configuration"
      pure getDefaultConfig

/-- `MetaGuildNetRunner(config_path)`: the configuration it keeps.
mirrors MetaGuildNet/run.py:113-120 -/
def runnerInit (configPath : String) (found : Option String) : Prog PyVal := do
  let config ← loadConfig decode configPath found
  Prog.lift (loggerInit config)
  pure config

/-- The command line after `argparse`: `--config`, `--dry-run`, `--workflow`
(one of its choices) and `--log-level`.
mirrors MetaGuildNet/run.py:867-893 -/
structure Args where
  config : String := "config.json"
  dryRun : Bool := false
  workflow : String := "full"
  logLevel : String := "info"

variable (root : String) (getenv : String → Option String) (dumps : PyVal → String)

/-- `workflow_map[args.workflow]`.
mirrors MetaGuildNet/run.py:919-927 -/
def workflowMap (config : PyVal) (workflow : String) : Option (Run Bool) :=
  if workflow = "full" then some (runFullWorkflow root decode getenv config)
  else if workflow = "setup" then some (runSetup root config)
  else if workflow = "verify" then some (runVerification root config)
  else if workflow = "test" then some (runTesting root config)
  else if workflow = "example" then some (Run.prog (runExamples decode getenv config))
  else if workflow = "diagnose" then some (runDiagnostics root config)
  else if workflow = "cleanup" then some (runCleanup root config)
  else none

/-- The exit status `main` returns for how its workflow ended: 0 or 1 for its
verdict, 130 for `KeyboardInterrupt`, 1 for any other exception.
mirrors MetaGuildNet/run.py:928-937 -/
def workflowStatus : Except PyExc Bool → Nat
  | .ok success => if success then 0 else 1
  | .error .keyboardInterrupt => 130
  | .error _ => 1

/-- `runner.config['logging']['level'] = args.log_level` on a configuration
object whose `logging` entry is the object `lkvs`. -/
def levelConfig (kvs lkvs : List (String × PyVal)) (level : String) : PyVal :=
  .dict (Config.setItem kvs "logging" (.dict (Config.setItem lkvs "level" (.str level))))

/-- `main()` with `workflows` for its `workflow_map`: the exit status; an
exception outside its two `try`s escapes. The models of the steps run every
process to an outcome, so `KeyboardInterrupt` comes from the table: the user's
Ctrl-C during a workflow is a workflow of the table that raises it. `dumps` is
`json.dumps(config, indent=2)`.
mirrors MetaGuildNet/run.py:853-937 -/
def mainWith (workflows : PyVal → String → Option (Run Bool)) (args : Args) (found : Option String) :
    Run Nat := do
  let runner ← tryCatch
    (do
      let config ← Run.prog (runnerInit decode args.config found)
      pure (some config))
    (fun e => do
      Run.print ("Error initializing runner: " ++ e.str)
      pure none)
  match runner with
  | none => pure 1
  | some config => do
    let logging ← Run.lift (config.getItem "logging")
    let logging ← Run.lift (logging.setItem "level" (.str args.logLevel))
    let config ← Run.lift (config.setItem "logging" logging)
    Run.lift (loggerInit config)
    if args.dryRun then do
      Run.print (sectionText "MetaGuildNet Configuration")
      Run.print (dumps config)
      pure 0
    else
      tryCatch
        (match workflows config args.workflow with
          | some run => do
            let success ← run
            pure (if success then 0 else 1)
          | none => throw (.keyError ("'" ++ args.workflow ++ "'")))
        (fun e => match e with
          | .keyboardInterrupt => do
            Run.print "Interrupted by user"
            pure 130
          | e => do
            Run.print ("Unexpected error: " ++ e.str)
            pure 1)

/-- `main()` with the runner's own `workflow_map`. -/
def main (args : Args) (found : Option String) : Run Nat :=
  mainWith decode dumps (workflowMap decode root getenv) args found

end

/-! ## What `main` returns -/

theorem loggerInit_ok {config : PyVal} (h : loggerInit config = .ok ()) :
    ∃ kvs, config = .dict kvs ∧ ∃ lkvs, (kvs.lookup "logging").getD (.dict []) = .dict lkvs := by
  cases config with
  | dict kvs =>
    refine ⟨kvs, rfl, ?_⟩
    revert h
    simp only [loggerInit, PyVal.get_dict, bind, Except.bind]
    cases (kvs.lookup "logging").getD (.dict []) <;> simp [PyVal.get, pure, Except.pure]
  | _ => simp [loggerInit, PyVal.get, bind, Except.bind] at h

theorem runnerInit_ok (decode : Decoder) (configPath : String) (found : Option String) {w : World}
    {config : PyVal} (h : (runnerInit decode configPath found w).1 = .ok config) :
    loggerInit config = .ok () := by
  revert h
  simp only [runnerInit, Prog.bind_run, Prog.lift_run]
  rcases loadConfig decode configPath found w with ⟨_ | c, w'⟩
  · simp
  · cases hl : loggerInit c <;> simp [hl]
    rintro rfl
    exact hl

theorem setItem_dict (kvs : List (String × PyVal)) (key : String) (x : PyVal) :
    (PyVal.dict kvs).setItem key x = .ok (.dict (Config.setItem kvs key x)) := rfl

/-- Setting the level keeps the `logging` object an object, so the second
`Logger(runner.config)` reads succeed. -/
theorem loggerInit_setLevel (kvs lkvs : List (String × PyVal)) (level : String) :
    loggerInit (.dict (Config.setItem kvs "logging"
      (.dict (Config.setItem lkvs "level" (.str level))))) = .ok () := by
  simp [loggerInit, Config.lookup_setItem, bind, Except.bind, pure, Except.pure]

section
variable (decode : Decoder) (root : String) (getenv : String → Option String) (dumps : PyVal → String)

/-- A workflow interrupted by the user: `main` logs it and exits with 130. -/
example : (mainWith statusDecoder PyVal.repr (fun _ _ => some (throw .keyboardInterrupt))
    ⟨"config.json", false, "full", "info"⟩ none ⟨World.start, fun _ => .completed 0 "" "", []⟩).1 =
      .ok 130 := rfl

end

end MetaGuildNet.L5.Runner
