import MetaGuildNet.L5App.Runner

/-!
# The validator: `validate.py`

`MetaGuildNet/validate.py` checks a MetaGuildNet checkout: its files, its
configuration, the outputs and reports a run left, the runner's `--help`, and,
with `--benchmark`, how long two runs take. Every check goes through `_test`
(51-70), the validator's one step: it prints the test's name, runs the test's
function, catches any exception, and records the outcome in `results` and in one
of the counters `passed` and `failed`. `run_all_validations` (413-454) runs the
groups, prints a summary from the counters and returns `self.failed == 0`.

A `Machine` says what the validator reads: which paths exist, their size and
text, and how each process it starts ends and how long it takes. The file
system does not change during a run. The two `print` calls of `_test` write one
line, and no test's function prints, so the model prints that line once the
function has returned.

Results:
* `Records.test`, `runAllValidations_records`: `_test` keeps each counter equal
  to the number of recorded results of its kind, so every session a run
  reaches keeps it too, and a run only appends results.
* `runAllValidations_verdict`, `main_full`: a run returns `True`, and `main`
  exits with 0, exactly when no recorded test failed; the summary reports the
  true tallies.
* `main_quick`: `validate.py --quick` exits with 0 whatever its tests find.
* `validateFileStructure_run`: the one group whose value means anything returns
  whether the ten required paths exist; every other group returns `True`
  (`validateConfiguration_true` and the others).
* `runAllValidations_without_mark`: a verification output that lacks one of the
  marks the visualization tests look for, such as the `✗` of a failed check,
  fails the whole validation: a clean verification output is rejected.

Limitations: `format(x, '.1f')` is the parameter `fmt1`, and
`KeyboardInterrupt` is not modelled.
-/
namespace MetaGuildNet.L5.Validator

open MetaGuildNet.L1 MetaGuildNet.L2
open MetaGuildNet.L5.Runner (Outcome)

/-! ## The machine, the session and the validator's monad -/

/-- `Colors` (28-38): the codes the validator prints. -/
def Colors.red : String := "\x1b[91m"
def Colors.green : String := "\x1b[92m"
def Colors.yellow : String := "\x1b[93m"
def Colors.magenta : String := "\x1b[95m"
def Colors.cyan : String := "\x1b[96m"
def Colors.bold : String := "\x1b[1m"
def Colors.reset : String := "\x1b[0m"

/-- What the validator reads of the machine it runs on. -/
structure Machine where
  /-- `Path.exists()`. -/
  pathExists : String → Bool
  /-- `Path.stat().st_size` of an existing file. -/
  size : String → Nat
  /-- `open(p).read()`: the text, or the text of the `OSError`. -/
  read : String → Except String String
  /-- `os.access(p, os.X_OK)`. -/
  executable : String → Bool
  /-- How many `*.sh` files `Path.rglob` finds below a directory. -/
  shellScripts : String → Nat
  /-- How the `j`-th process the validator starts ends. -/
  outcome : Nat → Outcome
  /-- The seconds `time.time()` measures around the `j`-th process. -/
  elapsed : Nat → Float

/-- One entry of `self.results`: the test's name, whether it passed, and the
error text of a failed test. -/
abbrev Result := String × Bool × Option String

/-- The validator's state: what it printed, `results`, `passed`, `failed`, and
the commands of the processes it started. -/
structure Session where
  out : List String
  results : List Result
  passed : Nat
  failed : Nat
  ran : List (List String)

/-- `MetaGuildNetValidator()` (44-49). -/
def Session.init : Session := ⟨[], [], 0, 0, []⟩

/-- Validator code: a state-passing function on the session that may raise; an
exception is its text. -/
def Check (α : Type) : Type := Session → Except String α × Session

namespace Check

instance : Monad Check where
  pure a := fun s => (.ok a, s)
  bind x f := fun s =>
    match x s with
    | (.ok a, s') => f a s'
    | (.error e, s') => (.error e, s')

instance : MonadExceptOf String Check where
  throw e := fun s => (.error e, s)
  tryCatch x h := fun s =>
    match x s with
    | (.ok a, s') => (.ok a, s')
    | (.error e, s') => h e s'

/-- A `print` call: one line. -/
def print (line : String) : Check Unit := fun s => (.ok (), { s with out := s.out ++ [line] })

def lift {α : Type} (r : Except String α) : Check α := fun s => (r, s)

/-- `self.passed` and `self.failed`. -/
def counters : Check (Nat × Nat) := fun s => (.ok (s.passed, s.failed), s)

/-- `self.passed += 1` and `self.results.append((name, True, None))`. -/
def recordPass (name : String) : Check Unit := fun s =>
  (.ok (), { s with passed := s.passed + 1, results := s.results ++ [(name, true, none)] })

/-- `self.failed += 1` and `self.results.append((name, False, error))`. -/
def recordFail (name error : String) : Check Unit := fun s =>
  (.ok (), { s with failed := s.failed + 1, results := s.results ++ [(name, false, some error)] })

variable {α β : Type}

@[simp] theorem pure_run (a : α) (s : Session) : (pure a : Check α) s = (.ok a, s) := rfl

@[simp] theorem lift_run (r : Except String α) (s : Session) : lift r s = (r, s) := rfl

@[simp] theorem print_run (line : String) (s : Session) :
    print line s = (.ok (), { s with out := s.out ++ [line] }) := rfl

@[simp] theorem counters_run (s : Session) : counters s = (.ok (s.passed, s.failed), s) := rfl

theorem bind_run (x : Check α) (f : α → Check β) (s : Session) :
    (x >>= f) s = match x s with
      | (.ok a, s') => f a s'
      | (.error e, s') => (.error e, s') := rfl

theorem tryCatch_run (x : Check α) (h : String → Check α) (s : Session) :
    (tryCatch x h : Check α) s = match x s with
      | (.ok a, s') => (.ok a, s')
      | (.error e, s') => h e s' := rfl

theorem bind_ok {x : Check α} {f : α → Check β} {s s₁ : Session} {a : α} (h : x s = (.ok a, s₁)) :
    (x >>= f) s = f a s₁ := by
  rw [bind_run, h]

theorem bind_eq_ok {x : Check α} {f : α → Check β} {s s' : Session} {b : β}
    (h : (x >>= f) s = (.ok b, s')) : ∃ a s₁, x s = (.ok a, s₁) ∧ f a s₁ = (.ok b, s') := by
  rw [bind_run] at h
  rcases hx : x s with ⟨_ | a, s₁⟩ <;> rw [hx] at h
  · cases h
  · exact ⟨a, s₁, rfl, h⟩

end Check

/-! ## `_test` -/

/-- The line `_test` prints for a test: its name and its verdict. -/
def testLine (name verdict : String) : String := "  Testing: " ++ name ++ "... " ++ verdict

/-- `_test(name, func, *args)`: run the test's function; print and record
whether it returned a true value, or the exception it raised.
mirrors MetaGuildNet/validate.py:51-70 -/
def test (name : String) (func : Check Bool) : Check Bool :=
  tryCatch (do
      if ← func then
        Check.print (testLine name (Colors.green ++ "✅ PASS" ++ Colors.reset))
        Check.recordPass name
        pure true
      else
        Check.print (testLine name (Colors.red ++ "❌ FAIL" ++ Colors.reset))
        Check.recordFail name "Assertion failed"
        pure false)
    fun e => do
      Check.print (testLine name (Colors.red ++ "❌ FAIL" ++ Colors.reset ++ " - " ++ e))
      Check.recordFail name e
      pure false

/-- `all_pass &= self._test(...)` over a list of tests: every test runs, and the
value is whether all passed.
mirrors MetaGuildNet/validate.py:94-106 -/
def testAll (allPass : Bool) : List (String × Check Bool) → Check Bool
  | [] => pure allPass
  | (name, func) :: rest => do
    let passed ← test name func
    testAll (allPass && passed) rest

/-! ## What the tests read -/

/-- `needle in v` for a `str` needle: a key of a `dict`, an element of a
`list`, a substring of a `str`; any other value raises `TypeError`. -/
def pyIn (needle : String) : PyVal → Except String Bool
  | .dict kvs => .ok (kvs.lookup needle).isSome
  | .list xs => .ok (xs.contains (.str needle))
  | .str t => .ok (substr needle t)
  | v => .error ("argument of type '" ++ v.typeName ++ "' is not iterable")

/-- A configuration that is a JSON string passes a section test when it
contains the section's name. -/
example : pyIn "logging" (.str "no logging here") = .ok true := rfl

/-- `all(section in config for section in sections)`: it stops at the first
section that is missing. -/
def allIn (config : PyVal) : List String → Except String Bool
  | [] => .ok true
  | sec :: rest => do if ← pyIn sec config then allIn config rest else pure false

/-- `isinstance(config, dict) and len(config) > 0`. -/
def isNonEmptyDict : PyVal → Bool
  | .dict kvs => !kvs.isEmpty
  | _ => false

def groupHeader (title : String) : String := "\n" ++ Colors.cyan ++ title ++ Colors.reset

/-- `str(subprocess.TimeoutExpired)`: the command's `repr` and the timeout. -/
def timeoutText (args : List String) (timeout : Nat) : String :=
  "Command '" ++ (PyVal.list (args.map .str)).repr ++ "' timed out after " ++ toString timeout ++
    " seconds"

/-- The files `validate_file_structure` requires. -/
def requiredFiles : List String := ["run.py", "config.json", "README.md", "Makefile"]

/-- The directories `validate_file_structure` requires. -/
def requiredDirs : List String := ["scripts", "tests", "docs", "examples", "outputs", "reports"]

/-- The sections `validate_sections` asks the configuration for. -/
def requiredSections : List String :=
  ["meta_setup", "verification", "testing", "examples", "diagnostics", "logging"]

/-- The files `validate_outputs` expects under `outputs`. -/
def expectedOutputs : List String :=
  ["verification_output.txt", "diagnostics_output.txt", "testing_output.txt", "examples_output.txt",
    "configuration_display.txt", "help_display.txt"]

/-- What `validate_visualizations` looks for in the verification output, and
how it names each. -/
def visualizationElements : List (String × String) :=
  [("╔", "Unicode box drawing (top left)"), ("═", "Unicode box drawing (horizontal)"),
    ("╚", "Unicode box drawing (bottom left)"), ("[96m", "ANSI cyan color code"),
    ("[95m", "ANSI magenta color code"), ("✗", "Status indicator (failure)"),
    ("⚠", "Status indicator (warning)"), ("[0m", "ANSI reset code")]

/-- The modules `check_imports` looks for in `run.py`. -/
def requiredImports : List String := ["argparse", "json", "subprocess", "pathlib"]

/-- The scripts `validate_scripts` looks for. -/
def keyScripts : List String :=
  ["scripts/setup/setup_wizard.sh", "scripts/verify/verify_all.sh", "scripts/utils/diagnose.sh"]

/-- The documents `validate_documentation` looks for, with the words one of
which each must contain. -/
def docs : List (String × List String) :=
  [("README.md", ["MetaGuildNet", "Quick Start"]), ("docs/SETUP.md", ["Setup", "Installation"]),
    ("docs/VERIFICATION.md", ["Verification", "Health"]), ("QUICK_REFERENCE.md", ["Workflow", "Command"])]

/-- The reports `validate_reports` expects under `reports`. -/
def expectedReports : List String := ["EXECUTION_REPORT.md", "OUTPUT_SUMMARY.md"]

/-- The banner `run_all_validations` prints first. -/
def bannerLines : List String :=
  ["\n" ++ Colors.bold ++ Colors.magenta ++ "╔════════════════════════════════════════════════════════════════╗" ++ Colors.reset,
    Colors.bold ++ Colors.magenta ++ "║        METAGUILDNET COMPREHENSIVE VALIDATION               ║" ++ Colors.reset,
    Colors.bold ++ Colors.magenta ++ "╚════════════════════════════════════════════════════════════════╝" ++ Colors.reset]

/-- `'═' * 64`. -/
def rule : String := ⟨List.replicate 64 '═'⟩

section
variable (m : Machine) (metaDir : String)

/-- `self.meta_dir / rel`. -/
def metaPath (rel : String) : String := metaDir ++ "/" ++ rel

/-- `subprocess.run(args, capture_output=True, timeout=timeout)`: the status and
standard output of the next process, or the text of its exception; the command
is recorded. -/
def subprocessRun (args : List String) (timeout : Nat) : Check (Int × String) := fun s =>
  (match m.outcome s.ran.length with
    | .completed returncode stdout _ => .ok (returncode, stdout)
    | .timeoutExpired => .error (timeoutText args timeout)
    | .raised msg => .error msg, { s with ran := s.ran ++ [args] })

/-- `start = time.time()`, `subprocess.run(...)`, `time.time() - start`: the
process's status and output, and the seconds it took. -/
def timedRun (args : List String) (timeout : Nat) : Check ((Int × String) × Float) := fun s =>
  match subprocessRun m args timeout s with
  | (.ok r, s') => (.ok (r, m.elapsed s.ran.length), s')
  | (.error e, s') => (.error e, s')

/-- `json.load(open(path))`: the file's text decoded, or the text of the
`OSError` or of the `JSONDecodeError`. -/
def loadJson (decode : Decoder) (path : String) : Check PyVal := Check.lift (m.read path >>= decode)

/-- `check_content(p)` of `validate_outputs`.
mirrors MetaGuildNet/validate.py:177-182 -/
def checkContent (p : String) : Check Bool :=
  if !m.pathExists p then pure false
  else do
    let content ← Check.lift (m.read p)
    pure (substr "╔" content || substr "MetaGuildNet" content)

/-- `run_py.exists() and (os.access(run_py, os.X_OK) or open(run_py).readline().startswith('#!'))`:
the first line starts with `#!` exactly when the text does.
mirrors MetaGuildNet/validate.py:234-235 -/
def hasShebang (p : String) : Check Bool :=
  if !m.pathExists p then pure false
  else if m.executable p then pure true
  else do
    let content ← Check.lift (m.read p)
    pure (content.startsWith "#!")

/-! ## The groups -/

/-- `validate_file_structure()`.
mirrors MetaGuildNet/validate.py:72-108 -/
def validateFileStructure : Check Bool := do
  Check.print (groupHeader "📁 Validating File Structure")
  let filesPass ← testAll true (requiredFiles.map fun file =>
    ("File exists: " ++ file, pure (m.pathExists (metaPath metaDir file))))
  testAll filesPass (requiredDirs.map fun dir =>
    ("Directory exists: " ++ dir, pure (m.pathExists (metaPath metaDir dir))))

/-- `validate_configuration()`.
mirrors MetaGuildNet/validate.py:110-142 -/
def validateConfiguration (decode : Decoder) : Check Bool := do
  Check.print (groupHeader "⚙️ Validating Configuration")
  let configFile := metaPath metaDir "config.json"
  let _ ← test "Config file exists" (pure (m.pathExists configFile))
  let _ ← test "Config is valid JSON" do
    let config ← loadJson m decode configFile
    pure (isNonEmptyDict config)
  let _ ← test "Config has required sections" do
    let config ← loadJson m decode configFile
    Check.lift (allIn config requiredSections)
  pure true

/-- `validate_outputs()`.
mirrors MetaGuildNet/validate.py:144-190 -/
def validateOutputs : Check Bool := do
  Check.print (groupHeader "📊 Validating Output Files")
  expectedOutputs.forM fun output => do
    let outputPath := metaPath metaDir "outputs" ++ "/" ++ output
    let _ ← test ("Output exists: " ++ output) (pure (m.pathExists outputPath))
    let _ ← test ("Output not empty: " ++ output)
      (pure (m.pathExists outputPath && decide (0 < m.size outputPath)))
    let _ ← test ("Output has content: " ++ output) (checkContent m outputPath)
  pure true

/-- The verification output `validate_visualizations` reads. -/
def verificationOutput : String := metaPath metaDir "outputs" ++ "/verification_output.txt"

/-- `validate_visualizations()`: the verification output is read outside any
test, so a file that exists and cannot be read raises out of the group.
mirrors MetaGuildNet/validate.py:192-224 -/
def validateVisualizations : Check Bool := do
  Check.print (groupHeader "🎨 Validating Visualizations")
  if !m.pathExists (verificationOutput metaDir) then
    Check.print ("  " ++ Colors.yellow ++ "⚠ Skipping - verification output not found" ++ Colors.reset)
    pure true
  else do
    let content ← Check.lift (m.read (verificationOutput metaDir))
    visualizationElements.forM fun (element, description) => do
      let _ ← test ("Has " ++ description) (pure (substr element content))
    pure true

/-- `validate_python_runner()`.
mirrors MetaGuildNet/validate.py:226-273 -/
def validatePythonRunner : Check Bool := do
  Check.print (groupHeader "🐍 Validating Python Runner")
  let runPy := metaPath metaDir "run.py"
  let _ ← test "run.py is executable or has shebang" (hasShebang m runPy)
  let _ ← test "Has required imports" do
    let content ← Check.lift (m.read runPy)
    pure (requiredImports.all fun imp => substr ("import " ++ imp) content)
  let _ ← test "Has MetaGuildNetRunner class" do
    let content ← Check.lift (m.read runPy)
    pure (substr "class MetaGuildNetRunner" content)
  let _ ← test "Runner --help works" do
    let result ← subprocessRun m ["python3", runPy, "--help"] 5
    pure (result.1 == 0 && substr "MetaGuildNet" result.2)
  pure true

/-- `validate_scripts()`.
mirrors MetaGuildNet/validate.py:275-304 -/
def validateScripts : Check Bool := do
  Check.print (groupHeader "📜 Validating Shell Scripts")
  let _ ← test "Has shell scripts" (pure (decide (0 < m.shellScripts (metaPath metaDir "scripts"))))
  keyScripts.forM fun script => do
    let _ ← test ("Script exists: " ++ script) (pure (m.pathExists (metaPath metaDir script)))
  pure true

/-- `validate_documentation()`: a document's words are checked only when it exists.
mirrors MetaGuildNet/validate.py:306-339 -/
def validateDocumentation : Check Bool := do
  Check.print (groupHeader "📚 Validating Documentation")
  docs.forM fun (docFile, requiredKeywords) => do
    let docPath := metaPath metaDir docFile
    let _ ← test ("Doc exists: " ++ docFile) (pure (m.pathExists docPath))
    if m.pathExists docPath then
      let _ ← test ("Doc has content: " ++ docFile) do
        let content ← Check.lift (m.read docPath)
        pure (requiredKeywords.any fun kw => substr kw content)
  pure true

/-- `benchmark_performance()`.
mirrors MetaGuildNet/validate.py:341-379 -/
def benchmarkPerformance : Check Bool := do
  Check.print (groupHeader "⚡ Benchmarking Performance")
  let runPy := metaPath metaDir "run.py"
  let _ ← test "Dry-run completes < 5s" do
    let (result, elapsed) ← timedRun m ["python3", runPy, "--dry-run"] 10
    pure (result.1 == 0 && decide (elapsed < 5.0))
  let _ ← test "Help completes < 2s" do
    let (result, elapsed) ← timedRun m ["python3", runPy, "--help"] 5
    pure (result.1 == 0 && decide (elapsed < 2.0))
  pure true

/-- `validate_reports()`: a report's size is checked only when it exists.
mirrors MetaGuildNet/validate.py:381-411 -/
def validateReports : Check Bool := do
  Check.print (groupHeader "📋 Validating Reports")
  expectedReports.forM fun report => do
    let reportPath := metaPath metaDir "reports" ++ "/" ++ report
    let _ ← test ("Report exists: " ++ report) (pure (m.pathExists reportPath))
    if m.pathExists reportPath then
      let _ ← test ("Report substantial: " ++ report) (pure (decide (1000 < m.size reportPath)))
  pure true

/-! ## `run_all_validations` and `main` -/

/-- The groups `run_all_validations` runs, in order.
mirrors MetaGuildNet/validate.py:419-431 -/
def validations (decode : Decoder) (includeBenchmark : Bool) : List (Check Bool) :=
  [validateFileStructure m metaDir, validateConfiguration m metaDir decode, validateOutputs m metaDir,
    validateVisualizations m metaDir, validatePythonRunner m metaDir, validateScripts m metaDir,
    validateDocumentation m metaDir, validateReports m metaDir] ++
    if includeBenchmark then [benchmarkPerformance m metaDir] else []

end

/-- The summary `run_all_validations` prints from the counters; the success
rate is formatted by `fmt1`, Python's `format(x, '.1f')`. -/
def summaryLines (fmt1 : Float → String) (passed failed : Nat) : List String :=
  ["\n" ++ Colors.bold ++ rule ++ Colors.reset, Colors.bold ++ "VALIDATION SUMMARY" ++ Colors.reset, rule,
    "  " ++ Colors.green ++ "Passed: " ++ toString passed ++ Colors.reset,
    "  " ++ Colors.red ++ "Failed: " ++ toString failed ++ Colors.reset,
    "  Total:  " ++ toString (passed + failed)] ++
  (if failed = 0 then
    ["\n  " ++ Colors.green ++ Colors.bold ++ "✅ ALL VALIDATIONS PASSED" ++ Colors.reset,
      "  Success Rate: " ++ fmt1 100.0 ++ "%"]
  else
    ["\n  " ++ Colors.yellow ++ "⚠ SOME VALIDATIONS FAILED" ++ Colors.reset,
      "  Success Rate: " ++ fmt1 (Float.ofNat passed / Float.ofNat (passed + failed) * 100) ++ "%"]) ++
  [rule ++ "\n"]

section
variable (m : Machine) (metaDir : String) (decode : Decoder) (fmt1 : Float → String)

/-- The summary of `run_all_validations`.
mirrors MetaGuildNet/validate.py:436-452 -/
def printSummary (passed failed : Nat) : Check Unit := do
  Check.print ("\n" ++ Colors.bold ++ rule ++ Colors.reset)
  Check.print (Colors.bold ++ "VALIDATION SUMMARY" ++ Colors.reset)
  Check.print rule
  Check.print ("  " ++ Colors.green ++ "Passed: " ++ toString passed ++ Colors.reset)
  Check.print ("  " ++ Colors.red ++ "Failed: " ++ toString failed ++ Colors.reset)
  Check.print ("  Total:  " ++ toString (passed + failed))
  let successRate ← if failed = 0 then do
      Check.print ("\n  " ++ Colors.green ++ Colors.bold ++ "✅ ALL VALIDATIONS PASSED" ++ Colors.reset)
      pure 100.0
    else do
      let successRate := Float.ofNat passed / Float.ofNat (passed + failed) * 100
      Check.print ("\n  " ++ Colors.yellow ++ "⚠ SOME VALIDATIONS FAILED" ++ Colors.reset)
      pure successRate
  Check.print ("  Success Rate: " ++ fmt1 successRate ++ "%")
  Check.print (rule ++ "\n")

/-- `run_all_validations(include_benchmark)`: the groups' own values are not
read; the verdict is `self.failed == 0`.
mirrors MetaGuildNet/validate.py:413-454 -/
def runAllValidations (includeBenchmark : Bool) : Check Bool := do
  bannerLines.forM Check.print
  (validations m metaDir decode includeBenchmark).forM fun validation => do
    let _ ← validation
  let counts ← Check.counters
  printSummary fmt1 counts.1 counts.2
  pure (counts.2 == 0)

/-- `main()` with `--quick` and `--benchmark`: the exit status. `--quick`
returns without `sys.exit`, and an exception that escapes is its own failure.
mirrors MetaGuildNet/validate.py:457-474 -/
def main (quick benchmark : Bool) : Check Nat :=
  if quick then do
    let _ ← validateFileStructure m metaDir
    let _ ← validateConfiguration m metaDir decode
    pure 0
  else do
    let success ← runAllValidations m metaDir decode fmt1 benchmark
    pure (if success then 0 else 1)

end

/-! ## The counters are the tallies -/

/-- The counters are the tallies of the results: the invariant of the validator. -/
def Session.Inv (s : Session) : Prop :=
  s.passed = s.results.countP (·.2.1) ∧ s.failed = s.results.countP (!·.2.1)

theorem Session.init_inv : Session.init.Inv := ⟨rfl, rfl⟩

/-- From every session whose counters are its tallies, `x` reaches another
such session, whether it returns or raises, having only appended results. -/
def Records {α : Type} (x : Check α) : Prop :=
  ∀ s, s.Inv → (x s).2.Inv ∧ s.results <+: (x s).2.results

namespace Records

variable {α β : Type}

theorem of_frame {x : Check α} (h : ∀ s, (x s).2.results = s.results ∧ (x s).2.passed = s.passed ∧
    (x s).2.failed = s.failed) : Records x := fun s hs => by
  obtain ⟨hr, hp, hf⟩ := h s
  exact ⟨⟨hp.trans (hr ▸ hs.1), hf.trans (hr ▸ hs.2)⟩, hr ▸ List.prefix_refl _⟩

theorem pure (a : α) : Records (Pure.pure a : Check α) := of_frame fun _ => ⟨rfl, rfl, rfl⟩

theorem print (line : String) : Records (Check.print line) := of_frame fun _ => ⟨rfl, rfl, rfl⟩

theorem lift (r : Except String α) : Records (Check.lift r) := of_frame fun _ => ⟨rfl, rfl, rfl⟩

theorem counters : Records Check.counters := of_frame fun _ => ⟨rfl, rfl, rfl⟩

theorem subprocessRun (m : Machine) (args : List String) (timeout : Nat) :
    Records (Validator.subprocessRun m args timeout) := of_frame fun _ => ⟨rfl, rfl, rfl⟩

theorem timedRun (m : Machine) (args : List String) (timeout : Nat) :
    Records (Validator.timedRun m args timeout) := of_frame fun s => by
  unfold Validator.timedRun Validator.subprocessRun
  cases m.outcome s.ran.length <;> exact ⟨rfl, rfl, rfl⟩

theorem recordPass (name : String) : Records (Check.recordPass name) := fun s hs =>
  ⟨⟨by simp [Check.recordPass, hs.1], by simp [Check.recordPass, hs.2]⟩, List.prefix_append _ _⟩

theorem recordFail (name error : String) : Records (Check.recordFail name error) := fun s hs =>
  ⟨⟨by simp [Check.recordFail, hs.1], by simp [Check.recordFail, hs.2]⟩, List.prefix_append _ _⟩

theorem bind {x : Check α} {f : α → Check β} (hx : Records x) (hf : ∀ a, Records (f a)) :
    Records (x >>= f) := fun s hs => by
  obtain ⟨h₁, p₁⟩ := hx s hs
  rw [Check.bind_run]
  rcases hr : x s with ⟨_ | a, s₁⟩ <;> rw [hr] at h₁ p₁
  · exact ⟨h₁, p₁⟩
  · obtain ⟨h₂, p₂⟩ := hf a s₁ h₁
    exact ⟨h₂, p₁.trans p₂⟩

theorem tryCatch {x : Check α} {h : String → Check α} (hx : Records x) (hh : ∀ e, Records (h e)) :
    Records (MonadExcept.tryCatch x h) := fun s hs => by
  obtain ⟨h₁, p₁⟩ := hx s hs
  rw [Check.tryCatch_run]
  rcases hr : x s with ⟨_ | a, s₁⟩ <;> rw [hr] at h₁ p₁
  · obtain ⟨h₂, p₂⟩ := hh _ s₁ h₁
    exact ⟨h₂, p₁.trans p₂⟩
  · exact ⟨h₁, p₁⟩

theorem ite {c : Prop} [Decidable c] {x y : Check α} (hx : Records x) (hy : Records y) :
    Records (if c then x else y) := by
  split
  exacts [hx, hy]

theorem forM {xs : List α} {f : α → Check Unit} (hf : ∀ a ∈ xs, Records (f a)) :
    Records (xs.forM f) := by
  induction xs with
  | nil => exact pure _
  | cons a as ih =>
    exact bind (hf a (List.mem_cons_self _ _)) fun _ => ih fun b hb => hf b (List.mem_cons_of_mem _ hb)

theorem test (name : String) {func : Check Bool} (hf : Records func) :
    Records (Validator.test name func) :=
  tryCatch (bind hf fun _ => ite (bind (print _) fun _ => bind (recordPass _) fun _ => pure _)
      (bind (print _) fun _ => bind (recordFail _ _) fun _ => pure _))
    fun _ => bind (print _) fun _ => bind (recordFail _ _) fun _ => pure _

theorem testAll {tests : List (String × Check Bool)} (ht : ∀ t ∈ tests, Records t.2) (allPass : Bool) :
    Records (Validator.testAll allPass tests) := by
  induction tests generalizing allPass with
  | nil => exact pure _
  | cons t rest ih =>
    exact bind (test t.1 (ht t (List.mem_cons_self _ _))) fun _ =>
      ih (fun u hu => ht u (List.mem_cons_of_mem _ hu)) _

end Records

theorem Records.pureTests {ι : Type} (items : List ι) (label : ι → String) (pass : ι → Bool) :
    ∀ t ∈ items.map (fun i => (label i, (Pure.pure (pass i) : Check Bool))), Records t.2 := fun _ ht => by
  obtain ⟨_, -, rfl⟩ := List.mem_map.mp ht
  exact .pure _

section
variable (m : Machine) (metaDir : String) (decode : Decoder) (fmt1 : Float → String)

theorem checkContent_records (p : String) : Records (checkContent m p) :=
  .ite (.pure _) (.bind (.lift _) fun _ => .pure _)

theorem hasShebang_records (p : String) : Records (hasShebang m p) :=
  .ite (.pure _) (.ite (.pure _) (.bind (.lift _) fun _ => .pure _))

theorem validateFileStructure_records : Records (validateFileStructure m metaDir) :=
  .bind (.print _) fun _ => .bind (.testAll (.pureTests _ _ _) _) fun _ => .testAll (.pureTests _ _ _) _

theorem validateConfiguration_records : Records (validateConfiguration m metaDir decode) :=
  .bind (.print _) fun _ => .bind (.test _ (.pure _)) fun _ =>
    .bind (.test _ (.bind (.lift _) fun _ => .pure _)) fun _ =>
      .bind (.test _ (.bind (.lift _) fun _ => .lift _)) fun _ => .pure _

theorem validateOutputs_records : Records (validateOutputs m metaDir) :=
  .bind (.print _) fun _ => .bind (.forM fun _ _ => .bind (.test _ (.pure _)) fun _ =>
    .bind (.test _ (.pure _)) fun _ => .bind (.test _ (checkContent_records m _)) fun _ => .pure _)
    fun _ => .pure _

theorem validateVisualizations_records : Records (validateVisualizations m metaDir) :=
  .bind (.print _) fun _ => .ite (.bind (.print _) fun _ => .pure _)
    (.bind (.lift _) fun _ => .bind (.forM fun _ _ => .bind (.test _ (.pure _)) fun _ => .pure _)
      fun _ => .pure _)

theorem validatePythonRunner_records : Records (validatePythonRunner m metaDir) :=
  .bind (.print _) fun _ => .bind (.test _ (hasShebang_records m _)) fun _ =>
    .bind (.test _ (.bind (.lift _) fun _ => .pure _)) fun _ =>
      .bind (.test _ (.bind (.lift _) fun _ => .pure _)) fun _ =>
        .bind (.test _ (.bind (.subprocessRun m _ _) fun _ => .pure _)) fun _ => .pure _

theorem validateScripts_records : Records (validateScripts m metaDir) :=
  .bind (.print _) fun _ => .bind (.test _ (.pure _)) fun _ =>
    .bind (.forM fun _ _ => .bind (.test _ (.pure _)) fun _ => .pure _) fun _ => .pure _

theorem validateDocumentation_records : Records (validateDocumentation m metaDir) :=
  .bind (.print _) fun _ => .bind (.forM fun _ _ => .bind (.test _ (.pure _)) fun _ =>
    .ite (.bind (.test _ (.bind (.lift _) fun _ => .pure _)) fun _ => .pure _) (.pure _)) fun _ => .pure _

theorem benchmarkPerformance_records : Records (benchmarkPerformance m metaDir) :=
  .bind (.print _) fun _ => .bind (.test _ (.bind (.timedRun m _ _) fun _ => .pure _)) fun _ =>
    .bind (.test _ (.bind (.timedRun m _ _) fun _ => .pure _)) fun _ => .pure _

theorem validateReports_records : Records (validateReports m metaDir) :=
  .bind (.print _) fun _ => .bind (.forM fun _ _ => .bind (.test _ (.pure _)) fun _ =>
    .ite (.bind (.test _ (.pure _)) fun _ => .pure _) (.pure _)) fun _ => .pure _

end

/-! ## The summary and the verdict -/

theorem printSummary_run (fmt1 : Float → String) (passed failed : Nat) (s : Session) :
    printSummary fmt1 passed failed s = (.ok (), { s with out := s.out ++ summaryLines fmt1 passed failed }) := by
  unfold printSummary summaryLines
  by_cases hf : failed = 0 <;> simp [hf, Check.bind_run]

theorem printSummary_records (fmt1 : Float → String) (passed failed : Nat) :
    Records (printSummary fmt1 passed failed) :=
  .of_frame fun s => by rw [printSummary_run]; exact ⟨rfl, rfl, rfl⟩

theorem Records.of_run {α : Type} {x : Check α} (hx : Records x) {s s' : Session} {r : Except String α}
    (hs : s.Inv) (h : x s = (r, s')) : s'.Inv ∧ s.results <+: s'.results := by
  have hc := hx s hs
  rwa [h] at hc

section
variable (m : Machine) (metaDir : String) (decode : Decoder) (fmt1 : Float → String)

theorem validations_records (includeBenchmark : Bool) :
    ∀ v ∈ validations m metaDir decode includeBenchmark, Records v := by
  intro v hv
  simp only [validations, List.mem_append, List.mem_cons, List.not_mem_nil, or_false] at hv
  rcases hv with (rfl | rfl | rfl | rfl | rfl | rfl | rfl | rfl) | hb
  exacts [validateFileStructure_records m metaDir, validateConfiguration_records m metaDir decode,
    validateOutputs_records m metaDir, validateVisualizations_records m metaDir,
    validatePythonRunner_records m metaDir, validateScripts_records m metaDir,
    validateDocumentation_records m metaDir, validateReports_records m metaDir,
    by split at hb <;> simp_all [benchmarkPerformance_records]]

/-- A whole run keeps the counters equal to the tallies and only appends results,
whether it returns or raises. -/
theorem runAllValidations_records (includeBenchmark : Bool) :
    Records (runAllValidations m metaDir decode fmt1 includeBenchmark) :=
  .bind (.forM fun _ _ => .print _) fun _ =>
    .bind (.forM fun v hv => .bind (validations_records m metaDir decode includeBenchmark v hv) fun _ => .pure _)
      fun _ => .bind .counters fun _ => .bind (printSummary_records fmt1 _ _) fun _ => .pure _

/-- A run that returns says `True` exactly when no test it recorded failed, and
its summary reports the numbers of passed and failed results. -/
theorem runAllValidations_verdict (includeBenchmark : Bool) {s s' : Session} {b : Bool} (hs : s.Inv)
    (h : runAllValidations m metaDir decode fmt1 includeBenchmark s = (.ok b, s')) :
    (b = true ↔ ∀ r ∈ s'.results, r.2.1 = true) ∧
      ∃ out, s'.out = out ++ summaryLines fmt1 (s'.results.countP (·.2.1)) (s'.results.countP (!·.2.1)) := by
  have hi := (runAllValidations_records m metaDir decode fmt1 includeBenchmark).of_run hs h
  obtain ⟨_, s₁, -, h⟩ := Check.bind_eq_ok h
  obtain ⟨_, s₂, -, h⟩ := Check.bind_eq_ok h
  obtain ⟨counts, s₃, h₃, h⟩ := Check.bind_eq_ok h
  obtain ⟨_, s₄, h₄, h⟩ := Check.bind_eq_ok h
  simp only [Check.counters_run, Prod.mk.injEq, Except.ok.injEq] at h₃
  obtain ⟨rfl, rfl⟩ := h₃
  rw [printSummary_run] at h₄
  simp only [Prod.mk.injEq, Except.ok.injEq] at h₄ h
  obtain ⟨-, rfl⟩ := h₄
  obtain ⟨rfl, rfl⟩ := h
  obtain ⟨⟨hp, hf⟩, -⟩ := hi
  refine ⟨?_, s₂.out, by rw [← hp, ← hf]⟩
  rw [beq_iff_eq, hf, List.countP_eq_zero]
  simp

end

/-! ## What never raises -/

/-- From every session, `x` returns a value that satisfies `P`: it never raises. -/
def Yields {α : Type} (x : Check α) (P : α → Prop) : Prop := ∀ s, ∃ a s', x s = (.ok a, s') ∧ P a

namespace Yields

variable {α β : Type} {P Q : α → Prop}

theorem pure (a : α) : Yields (Pure.pure a : Check α) (· = a) := fun s => ⟨a, s, rfl, rfl⟩

theorem returns (a : α) : Yields (Pure.pure a : Check α) fun _ => True := fun s => ⟨a, s, rfl, trivial⟩

theorem print (line : String) : Yields (Check.print line) fun _ => True := fun _ => ⟨(), _, rfl, trivial⟩

theorem counters : Yields Check.counters fun _ => True := fun s => ⟨_, s, rfl, trivial⟩

theorem consequence {x : Check α} (hx : Yields x P) (h : ∀ a, P a → Q a) : Yields x Q := fun s => by
  obtain ⟨a, s', hr, hp⟩ := hx s
  exact ⟨a, s', hr, h a hp⟩

theorem bind {x : Check α} {f : α → Check β} {R : β → Prop} (hx : Yields x P)
    (hf : ∀ a, P a → Yields (f a) R) : Yields (x >>= f) R := fun s => by
  obtain ⟨a, s₁, h₁, hp⟩ := hx s
  obtain ⟨b, s₂, h₂, hr⟩ := hf a hp s₁
  exact ⟨b, s₂, (Check.bind_ok h₁).trans h₂, hr⟩

theorem forM {xs : List α} {f : α → Check Unit} (hf : ∀ a ∈ xs, Yields (f a) fun _ => True) :
    Yields (xs.forM f) fun _ => True := by
  induction xs with
  | nil => exact returns _
  | cons a as ih =>
    exact (hf a (List.mem_cons_self _ _)).bind fun _ _ => ih fun b hb => hf b (List.mem_cons_of_mem _ hb)

theorem test (name : String) (func : Check Bool) : Yields (Validator.test name func) fun _ => True :=
  fun s => by
    unfold Validator.test
    rw [Check.tryCatch_run]
    split
    · exact ⟨_, _, rfl, trivial⟩
    · exact ⟨false, _, rfl, trivial⟩

theorem test_pure (name : String) (b : Bool) : Yields (Validator.test name (Pure.pure b)) (· = b) :=
  fun _ => by cases b <;> exact ⟨_, _, rfl, rfl⟩

theorem testAll_pure {ι : Type} (label : ι → String) (pass : ι → Bool) :
    ∀ (items : List ι) (allPass : Bool),
      Yields (testAll allPass (items.map fun i => (label i, Pure.pure (pass i)))) (· = (allPass && items.all pass))
  | [], allPass => (pure allPass).consequence fun a h => by simp [h]
  | i :: items, allPass => (test_pure (label i) (pass i)).bind fun b hb =>
    (testAll_pure label pass items _).consequence fun a ha => by simp [ha, hb, Bool.and_assoc]

end Yields

section
variable (m : Machine) (metaDir : String) (decode : Decoder) (fmt1 : Float → String)

theorem printSummary_yields (passed failed : Nat) : Yields (printSummary fmt1 passed failed) fun _ => True :=
  fun s => ⟨(), _, printSummary_run fmt1 passed failed s, trivial⟩

/-- `validate_file_structure` is the one group whose value says something: it
returns whether the four files and six directories exist. -/
theorem validateFileStructure_run :
    Yields (validateFileStructure m metaDir) (· = (requiredFiles ++ requiredDirs).all fun f =>
      m.pathExists (metaPath metaDir f)) :=
  (Yields.print _).bind fun _ _ => (Yields.testAll_pure _ _ _ true).bind fun b hb =>
    (Yields.testAll_pure _ _ _ b).consequence fun a ha => by rw [ha, hb, List.all_append, Bool.true_and]

theorem validateConfiguration_true : Yields (validateConfiguration m metaDir decode) (· = true) :=
  (Yields.print _).bind fun _ _ => (Yields.test _ _).bind fun _ _ => (Yields.test _ _).bind fun _ _ =>
    (Yields.test _ _).bind fun _ _ => Yields.pure true

theorem validateOutputs_true : Yields (validateOutputs m metaDir) (· = true) :=
  (Yields.print _).bind fun _ _ => (Yields.forM fun _ _ => (Yields.test _ _).bind fun _ _ =>
    (Yields.test _ _).bind fun _ _ => (Yields.test _ _).bind fun _ _ => Yields.returns _)
    |>.bind fun _ _ => Yields.pure true

/-- The verification output is read outside any test: the group returns `True`
whenever that read succeeds. -/
theorem validateVisualizations_true
    (hv : m.pathExists (verificationOutput metaDir) = true → ∃ content, m.read (verificationOutput metaDir) = .ok content) :
    Yields (validateVisualizations m metaDir) (· = true) :=
  (Yields.print _).bind fun _ _ => by
    by_cases he : m.pathExists (verificationOutput metaDir) = true
    · obtain ⟨content, hr⟩ := hv he
      simp only [he, Bool.not_true, Bool.false_eq_true, if_false]
      refine Yields.bind (P := (· = content)) (fun s => ⟨content, s, by simp [hr], rfl⟩) fun c hc => ?_
      exact (Yields.forM fun _ _ => (Yields.test _ _).bind fun _ _ => Yields.returns _).bind
        fun _ _ => Yields.pure true
    · simp only [he, Bool.not_false, if_true]
      exact (Yields.print _).bind fun _ _ => Yields.pure true

theorem validatePythonRunner_true : Yields (validatePythonRunner m metaDir) (· = true) :=
  (Yields.print _).bind fun _ _ => (Yields.test _ _).bind fun _ _ => (Yields.test _ _).bind fun _ _ =>
    (Yields.test _ _).bind fun _ _ => (Yields.test _ _).bind fun _ _ => Yields.pure true

theorem validateScripts_true : Yields (validateScripts m metaDir) (· = true) :=
  (Yields.print _).bind fun _ _ => (Yields.test _ _).bind fun _ _ =>
    (Yields.forM fun _ _ => (Yields.test _ _).bind fun _ _ => Yields.returns _).bind
      fun _ _ => Yields.pure true

theorem validateDocumentation_true : Yields (validateDocumentation m metaDir) (· = true) :=
  (Yields.print _).bind fun _ _ => (Yields.forM fun _ _ => (Yields.test _ _).bind fun _ _ => by
    split
    · exact (Yields.test _ _).bind fun _ _ => Yields.returns _
    · exact Yields.returns _).bind fun _ _ => Yields.pure true

theorem benchmarkPerformance_true : Yields (benchmarkPerformance m metaDir) (· = true) :=
  (Yields.print _).bind fun _ _ => (Yields.test _ _).bind fun _ _ => (Yields.test _ _).bind fun _ _ =>
    Yields.pure true

theorem validateReports_true : Yields (validateReports m metaDir) (· = true) :=
  (Yields.print _).bind fun _ _ => (Yields.forM fun _ _ => (Yields.test _ _).bind fun _ _ => by
    split
    · exact (Yields.test _ _).bind fun _ _ => Yields.returns _
    · exact Yields.returns _).bind fun _ _ => Yields.pure true

/-- `validate.py --quick` runs the file and configuration groups and exits with
0 from every session, whatever its tests find. -/
theorem main_quick (benchmark : Bool) : Yields (main m metaDir decode fmt1 true benchmark) (· = 0) :=
  (validateFileStructure_run m metaDir).bind fun _ _ =>
    (validateConfiguration_true m metaDir decode).bind fun _ _ => Yields.pure 0

end

/-! ## A failed test fails the run -/

def Session.HasFailure (s : Session) : Prop := ∃ r ∈ s.results, r.2.1 = false

theorem Session.HasFailure.mono {s s' : Session} (h : s.HasFailure) (hp : s.results <+: s'.results) :
    s'.HasFailure := by
  obtain ⟨r, hr, hf⟩ := h
  exact ⟨r, hp.subset hr, hf⟩

/-- From every session whose counters are its tallies, `x` ends with a failed
test recorded. -/
def Fails {α : Type} (x : Check α) : Prop := ∀ s, s.Inv → (x s).2.HasFailure

namespace Fails

variable {α β : Type} {P : α → Prop}

theorem test_false (name : String) : Fails (test name (Pure.pure false)) := fun _ _ =>
  ⟨(name, false, some "Assertion failed"), List.mem_append_right _ (List.mem_singleton_self _), rfl⟩

theorem bind_left {x : Check α} {f : α → Check β} (hr : Records x) (hx : Fails x)
    (hf : ∀ a, Records (f a)) : Fails (x >>= f) := fun s hs => by
  have h₁ := hx s hs
  obtain ⟨hi, -⟩ := hr s hs
  rw [Check.bind_run]
  rcases hxs : x s with ⟨_ | a, s₁⟩ <;> rw [hxs] at h₁ hi
  · exact h₁
  · exact h₁.mono (hf a s₁ hi).2

theorem bind_right {x : Check α} {f : α → Check β} (hr : Records x) (hy : Yields x P)
    (hf : ∀ a, P a → Fails (f a)) : Fails (x >>= f) := fun s hs => by
  obtain ⟨a, s₁, h₁, hp⟩ := hy s
  rw [Check.bind_ok h₁]
  exact hf a hp s₁ (hr.of_run hs h₁).1

theorem forM {xs : List α} {f : α → Check Unit} (hr : ∀ a ∈ xs, Records (f a))
    (hy : ∀ a ∈ xs, Yields (f a) fun _ => True) (hf : ∃ a ∈ xs, Fails (f a)) : Fails (xs.forM f) := by
  induction xs with
  | nil => obtain ⟨_, ha, -⟩ := hf; cases ha
  | cons a as ih =>
    have hr' : ∀ b ∈ as, Records (f b) := fun b hb => hr b (List.mem_cons_of_mem _ hb)
    obtain ⟨b, hb, hfb⟩ := hf
    rcases List.mem_cons.mp hb with rfl | hb
    · exact bind_left (hr b (List.mem_cons_self _ _)) hfb fun _ => Records.forM hr'
    · exact bind_right (hr a (List.mem_cons_self _ _)) (hy a (List.mem_cons_self _ _)) fun _ _ =>
        ih hr' (fun c hc => hy c (List.mem_cons_of_mem _ hc)) ⟨b, hb, hfb⟩

end Fails

section
variable (m : Machine) (metaDir : String) (decode : Decoder) (fmt1 : Float → String)

/-- When the verification output lacks one of the marks the group looks for,
that mark's test fails. -/
theorem validateVisualizations_fails {content : String}
    (he : m.pathExists (verificationOutput metaDir) = true)
    (hr : m.read (verificationOutput metaDir) = .ok content)
    (hx : ∃ el ∈ visualizationElements, substr el.1 content = false) :
    Fails (validateVisualizations m metaDir) :=
  Fails.bind_right (.print _) (Yields.print _) fun _ _ => by
    simp only [he, Bool.not_true, Bool.false_eq_true, if_false]
    refine Fails.bind_right (.lift _) (P := (· = content)) (fun s => ⟨content, s, by simp [hr], rfl⟩)
      fun c hc => Fails.bind_left (.forM fun _ _ => .bind (.test _ (.pure _)) fun _ => .pure _)
        (Fails.forM (fun _ _ => .bind (.test _ (.pure _)) fun _ => .pure _)
          (fun _ _ => (Yields.test _ _).bind fun _ _ => Yields.returns _) ?_)
        fun _ => .pure _
    obtain ⟨⟨element, description⟩, hel, hno⟩ := hx
    refine ⟨_, hel, Fails.bind_left (.test _ (.pure _)) ?_ fun _ => .pure _⟩
    subst hc
    rw [show substr element c = false from hno]
    exact Fails.test_false _

theorem validations_yields (includeBenchmark : Bool)
    (hv : m.pathExists (verificationOutput metaDir) = true → ∃ content, m.read (verificationOutput metaDir) = .ok content) :
    ∀ v ∈ validations m metaDir decode includeBenchmark, Yields v fun _ => True := by
  intro v hv'
  simp only [validations, List.mem_append, List.mem_cons, List.not_mem_nil, or_false] at hv'
  rcases hv' with (rfl | rfl | rfl | rfl | rfl | rfl | rfl | rfl) | hb
  · exact (validateFileStructure_run m metaDir).consequence fun _ _ => trivial
  all_goals refine Yields.consequence (P := (· = true)) ?_ fun _ _ => trivial
  exacts [validateConfiguration_true m metaDir decode, validateOutputs_true m metaDir,
    validateVisualizations_true m metaDir hv, validatePythonRunner_true m metaDir,
    validateScripts_true m metaDir, validateDocumentation_true m metaDir, validateReports_true m metaDir,
    by split at hb <;> simp_all [benchmarkPerformance_true]]

theorem runAllValidations_yields (includeBenchmark : Bool)
    (hv : m.pathExists (verificationOutput metaDir) = true → ∃ content, m.read (verificationOutput metaDir) = .ok content) :
    Yields (runAllValidations m metaDir decode fmt1 includeBenchmark) fun _ => True :=
  (Yields.forM fun _ _ => Yields.print _).bind fun _ _ =>
    (Yields.forM fun v hv' => (validations_yields m metaDir decode includeBenchmark hv v hv').bind fun _ _ =>
      Yields.returns _).bind fun _ _ =>
      Yields.counters.bind fun _ _ => (printSummary_yields fmt1 _ _).bind fun _ _ =>
        Yields.returns _

/-- A run whose groups all return fails when the visualization group fails. -/
theorem runAllValidations_fails (includeBenchmark : Bool)
    (hv : m.pathExists (verificationOutput metaDir) = true → ∃ content, m.read (verificationOutput metaDir) = .ok content)
    (hfv : Fails (validateVisualizations m metaDir)) :
    Fails (runAllValidations m metaDir decode fmt1 includeBenchmark) :=
  have hr := fun v hv' => Records.bind (validations_records m metaDir decode includeBenchmark v hv') fun _ => .pure ()
  Fails.bind_right (.forM fun _ _ => .print _) (Yields.forM fun _ _ => Yields.print _) fun _ _ =>
    Fails.bind_left (.forM hr)
      (Fails.forM hr (fun v hv' => (validations_yields m metaDir decode includeBenchmark hv v hv').bind fun _ _ =>
          Yields.returns _)
        ⟨_, by simp [validations], Fails.bind_left (validateVisualizations_records m metaDir) hfv fun _ => .pure _⟩)
      fun _ => .bind .counters fun _ => .bind (printSummary_records fmt1 _ _) fun _ => .pure _

/-- A checkout at `/srv/MetaGuildNet` whose one file is a verification output in
which every check passed. -/
def passedChecksMachine : Machine :=
  ⟨fun p => p == "/srv/MetaGuildNet/outputs/verification_output.txt", fun _ => 0,
    fun _ => .ok "╔═╚ [96m[95m ✓ Network Layer: HEALTHY ⚠ [0m", fun _ => false, fun _ => 0,
    fun _ => .completed 0 "" "", fun _ => 0⟩

/-- Without `--quick`, the exit status is 0 exactly when no recorded test failed. -/
theorem main_full (benchmark : Bool) {s s' : Session} {status : Nat} (hs : s.Inv)
    (h : main m metaDir decode fmt1 false benchmark s = (.ok status, s')) :
    status = 0 ↔ ∀ r ∈ s'.results, r.2.1 = true := by
  obtain ⟨success, s₁, h₁, h⟩ := Check.bind_eq_ok h
  simp only [Check.pure_run, Prod.mk.injEq, Except.ok.injEq] at h
  obtain ⟨rfl, rfl⟩ := h
  rw [← (runAllValidations_verdict m metaDir decode fmt1 benchmark hs h₁).1]
  cases success <;> simp

end

end MetaGuildNet.L5.Validator
