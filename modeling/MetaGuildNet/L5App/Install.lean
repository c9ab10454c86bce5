import MetaGuildNet.L5App.Runner

/-!
# `mgn install` and `mgn verify`: the installation scripts

`mgn install` (metaguildnet/cli/install.py) runs the installation scripts of
the `metaguildnet/` directory one after another through `run_script`
(129-175), which aborts the command at the first script that is missing or
fails; `--dry-run` only looks for the scripts (`verify_scripts`, 86-126). The
`raise click.Abort()` for a failed script stands inside the `try` whose
`except Exception` catches it (`click.Abort` is a `RuntimeError`), so a failed
script is reported twice, the second time as an unexpected error with no
text. `mgn verify` (metaguildnet/cli/verify.py) runs one verification script,
or a few basic checks when the script is missing, and only prints what it
finds.

The file system is two functions, `pathExists` for `Path.exists()` and
`which` for `shutil.which(tool) is not None`; `environ` is `os.environ` and
`system` is `platform.system()`. The shell's outcome stream decides what each
`subprocess.run` does, as in the runner.

Results:
* `runScript_run`: `run_script` runs its script when the file exists, and
  returns exactly when the script exits with 0.
* `runScript_failed`: a script that exits with another status is reported as
  failed and then as an unexpected error, and the command aborts.
* `install_ran`: `mgn install` runs the scripts of its plan in order, up to
  the first that is missing or fails, and returns exactly when all of them ran
  and exited with 0; a dry run, a bare-metal install and a macOS host run none.
* `verifyCommand_ok`: every `mgn verify` subcommand returns normally, whatever
  its script does, after running at most one command.

Limitations: `subprocess.run` without a `timeout` cannot raise
`TimeoutExpired`; the model sends that outcome to the handler of every other
exception, with no text.
-/
namespace MetaGuildNet.L5.Install

open MetaGuildNet.L1 MetaGuildNet.L2 MetaGuildNet.L5.Runner

/-! ## What `rich` renders -/

/-- The texts `rich` prints for a process's outcome are free of markup tags. -/
def outcomeFree : Outcome → Prop
  | .completed _ stdout stderr => Markup.Free stdout ∧ Markup.Free stderr
  | .timeoutExpired => True
  | .raised msg => Markup.Free msg

/-- A shell whose processes print texts free of markup tags, and whose Host App
fails, if it does, with such messages. -/
def FreeShell (s : Shell) : Prop :=
  (∀ j, outcomeFree (s.outcomes j)) ∧
    ∀ n kind msg, s.world.replies n = .transport kind msg → Markup.Free msg

/-- From a free shell, `x` leaves a free shell and only appends lines that
`rich` renders, whatever the styles. -/
def PrintsFree {α : Type} (x : Run α) : Prop :=
  ∀ s, FreeShell s → FreeShell (x s).2 ∧
    ∃ lines, (x s).2.world.out = s.world.out ++ lines ∧ ∀ st, ∀ l ∈ lines, Markup.Renders st l

namespace PrintsFree

variable {α β : Type}

theorem printsRender {x : Run α} (hx : PrintsFree x) {s : Shell} (hs : FreeShell s) :
    s.world.PrintsRender (x s).2.world := by
  obtain ⟨-, lines, he, hl⟩ := hx s hs
  exact (World.printsRender_iff he).mpr hl

theorem pure (a : α) : PrintsFree (Pure.pure a : Run α) := fun _ hs => ⟨hs, [], by simp, by simp⟩

theorem throw (e : PyExc) : PrintsFree (throw e : Run α) := fun _ hs => ⟨hs, [], by simp, by simp⟩

theorem printLines {lines : List String} (h : ∀ st, ∀ l ∈ lines, Markup.Renders st l) :
    PrintsFree (Run.printLines lines) := fun _ hs =>
  ⟨by simp only [Run.printLines, Run.prog_run, printLines_run]; exact hs, lines, by simp [Run.printLines], h⟩

theorem print {line : String} (h : ∀ st, Markup.Renders st line) : PrintsFree (Run.print line) :=
  fun _ hs => ⟨hs, [line], rfl, by simpa using h⟩

theorem bind {x : Run α} {f : α → Run β} (hx : PrintsFree x) (hf : ∀ a, PrintsFree (f a)) :
    PrintsFree (x >>= f) := fun s hs => by
  obtain ⟨hs₁, l₁, he₁, hr₁⟩ := hx s hs
  rw [Run.bind_run]
  rcases h : x s with ⟨_ | a, s₁⟩
  · rw [h] at hs₁ he₁
    exact ⟨hs₁, l₁, he₁, hr₁⟩
  · rw [h] at hs₁ he₁
    obtain ⟨hs₂, l₂, he₂, hr₂⟩ := hf a s₁ hs₁
    refine ⟨hs₂, l₁ ++ l₂, by rw [he₂, he₁, List.append_assoc], fun st l hl => ?_⟩
    rcases List.mem_append.mp hl with hl | hl
    exacts [hr₁ st l hl, hr₂ st l hl]

theorem tryCatch {x : Run α} {h : PyExc → Run α} (hx : PrintsFree x) (hh : ∀ e, PrintsFree (h e)) :
    PrintsFree (tryCatch x h : Run α) := fun s hs => by
  obtain ⟨hs₁, l₁, he₁, hr₁⟩ := hx s hs
  rw [Run.tryCatch_run]
  rcases hx' : x s with ⟨e | a, s₁⟩
  · rw [hx'] at hs₁ he₁
    obtain ⟨hs₂, l₂, he₂, hr₂⟩ := hh e s₁ hs₁
    refine ⟨hs₂, l₁ ++ l₂, by rw [he₂, he₁, List.append_assoc], fun st l hl => ?_⟩
    rcases List.mem_append.mp hl with hl | hl
    exacts [hr₁ st l hl, hr₂ st l hl]
  · rw [hx'] at hs₁ he₁
    exact ⟨hs₁, l₁, he₁, hr₁⟩

theorem ite {p : Prop} [Decidable p] {x y : Run α} (hx : PrintsFree x) (hy : PrintsFree y) :
    PrintsFree (if p then x else y) := by
  split <;> assumption

theorem exec_bind {cmd : Command} {f : Outcome → Run β} (hf : ∀ o, outcomeFree o → PrintsFree (f o)) :
    PrintsFree (Run.exec cmd >>= f) := fun s hs => by
  rw [Run.bind_run, Run.exec_run]
  exact hf _ (hs.1 s.ran.length) _ hs

end PrintsFree


/-! ## `run_script` -/

section
variable (base : String) (pathExists : String → Bool) (environ : List (String × PyVal))

/-- `str(base_dir / script_path)`, `base_dir` being the `metaguildnet/` directory. -/
def scriptFile (scriptPath : String) : String := base ++ "/" ++ scriptPath

/-- `script_env = os.environ.copy()`, then `script_env.update(env)`. -/
def scriptEnv (env : List (String × String)) : List (String × PyVal) :=
  env.foldl (fun e kv => Config.setItem e kv.1 (.str kv.2)) environ

/-- The command `run_script` hands to `subprocess.run`. -/
def scriptCommand (scriptPath : String) (env : List (String × String)) : Command :=
  ⟨["bash", scriptFile base scriptPath], .none, some (scriptEnv environ env)⟩

/-- What `run_script` prints for a missing script. -/
def notFoundLines (scriptPath : String) : List String :=
  ["[red]✗ Script not found: " ++ scriptFile base scriptPath ++ "[/red]",
    "[yellow]Expected path: " ++ scriptPath ++ "[/yellow]",
    "[yellow]Base directory: " ++ base ++ "[/yellow]",
    "[yellow]Full resolved path: " ++ scriptFile base scriptPath ++ "[/yellow]"]

/-- The `except Exception as e` handler of `run_script`. -/
def unexpected (text : String) : Run Unit := do
  Run.print ("[red]✗ Unexpected error: " ++ text ++ "[/red]")
  throw .abort

/-- The rest of `run_script`'s `try` once the process has completed. -/
def reportScript (scriptPath : String) (returncode : Int) (stdout stderr : String) : Run Unit := do
  if stdout ≠ "" then Run.print stdout
  if returncode ≠ 0 then
    Run.print ("[red]✗ Script failed: " ++ scriptPath ++ "[/red]")
    if stderr ≠ "" then Run.print ("[dim]" ++ stderr ++ "[/dim]")
    throw .abort

/-- `run_script(script_path, env)`, `env` being `[]` for `None`.
mirrors metaguildnet/cli/install.py:129-175 -/
def runScript (scriptPath : String) (env : List (String × String)) : Run Unit :=
  if pathExists (scriptFile base scriptPath) then do
    match ← Run.exec (scriptCommand base environ scriptPath env) with
    | .completed returncode stdout stderr =>
      tryCatch (reportScript scriptPath returncode stdout stderr) fun e => unexpected e.str
    | .timeoutExpired => unexpected ""
    | .raised msg => unexpected msg
  else do
    Run.printLines (notFoundLines base scriptPath)
    throw .abort

/-- What `run_script` prints for a script that ran and ended with `o`. -/
def scriptLines (scriptPath : String) : Outcome → List String
  | .completed returncode stdout stderr =>
    (if stdout = "" then [] else [stdout]) ++
      if returncode = 0 then []
      else ("[red]✗ Script failed: " ++ scriptPath ++ "[/red]") ::
        ((if stderr = "" then [] else ["[dim]" ++ stderr ++ "[/dim]"]) ++
          ["[red]✗ Unexpected error: [/red]"])
  | .timeoutExpired => ["[red]✗ Unexpected error: [/red]"]
  | .raised msg => ["[red]✗ Unexpected error: " ++ msg ++ "[/red]"]

theorem reportScript_run (scriptPath : String) (returncode : Int) (stdout stderr : String)
    (s : Shell) :
    (tryCatch (reportScript scriptPath returncode stdout stderr) fun e => unexpected e.str) s =
      (if returncode = 0 then .ok () else .error .abort, { s with world := { s.world with
        out := s.world.out ++ scriptLines scriptPath (.completed returncode stdout stderr) } }) := by
  by_cases h0 : returncode = 0 <;> by_cases h1 : stdout = "" <;> by_cases h2 : stderr = "" <;>
    simp [reportScript, unexpected, scriptLines, Run.tryCatch_run, Run.bind_run, Run.print,
      PyExc.str, h0, h1, h2]

/-- `run_script` runs its script when the file exists and returns exactly when
the script exits with 0; a missing script aborts before anything runs. -/
theorem runScript_run (scriptPath : String) (env : List (String × String)) (s : Shell) :
    runScript base pathExists environ scriptPath env s =
      if pathExists (scriptFile base scriptPath) then
        (if (s.outcomes s.ran.length).succeeded then .ok () else .error .abort,
          { s with
            world := { s.world with
              out := s.world.out ++ scriptLines scriptPath (s.outcomes s.ran.length) }
            ran := s.ran ++ [scriptCommand base environ scriptPath env] })
      else (.error .abort,
        { s with world := { s.world with out := s.world.out ++ notFoundLines base scriptPath } }) := by
  unfold runScript
  split
  · simp only [Run.bind_run, Run.exec_run]
    cases s.outcomes s.ran.length with
    | completed returncode stdout stderr =>
      exact (reportScript_run scriptPath returncode stdout stderr _).trans (by simp [Outcome.succeeded])
    | timeoutExpired => simp [unexpected, scriptLines, Outcome.succeeded, Run.bind_run, Run.print]
    | raised msg => simp [unexpected, scriptLines, Outcome.succeeded, Run.bind_run, Run.print]
  · simp [Run.bind_run, Run.printLines]

theorem notFoundLines_render {scriptPath : String} (hb : Markup.Free base)
    (hp : Markup.Free scriptPath) (st : Markup.Styles) :
    ∀ l ∈ notFoundLines base scriptPath, Markup.Renders st l := by
  have hf : Markup.Free (scriptFile base scriptPath) :=
    Markup.free_append (Markup.free_append hb (by decide)) hp
  simp only [notFoundLines, List.mem_cons, List.mem_singleton, List.not_mem_nil, or_false]
  rintro l (rfl | rfl | rfl | rfl)
  · exact Markup.renders_line st "red" "✗ Script not found: " (by decide) (by decide) hf
      (by simp only [String.append_assoc]; rfl)
  · exact Markup.renders_line st "yellow" "Expected path: " (by decide) (by decide) hp
      (by simp only [String.append_assoc]; rfl)
  · exact Markup.renders_line st "yellow" "Base directory: " (by decide) (by decide) hb
      (by simp only [String.append_assoc]; rfl)
  · exact Markup.renders_line st "yellow" "Full resolved path: " (by decide) (by decide) hf
      (by simp only [String.append_assoc]; rfl)

theorem scriptLines_render {scriptPath : String} (hp : Markup.Free scriptPath) {o : Outcome}
    (ho : outcomeFree o) (st : Markup.Styles) : ∀ l ∈ scriptLines scriptPath o, Markup.Renders st l := by
  have hunexp : Markup.Renders st "[red]✗ Unexpected error: [/red]" := Markup.renders_of_simple st (by decide)
  cases o with
  | completed returncode stdout stderr =>
    have hfail : Markup.Renders st ("[red]✗ Script failed: " ++ scriptPath ++ "[/red]") :=
      Markup.renders_line st "red" "✗ Script failed: " (by decide) (by decide) hp
        (by simp only [String.append_assoc]; rfl)
    have hdim : Markup.Renders st ("[dim]" ++ stderr ++ "[/dim]") :=
      Markup.renders_line st "dim" "" (by decide) (by decide) ho.2
        (by simp only [String.append_assoc, String.empty_append]; rfl)
    intro l hl
    simp only [scriptLines, List.mem_append, List.mem_ite_nil_left, List.mem_cons, List.mem_singleton,
      List.not_mem_nil, or_false] at hl
    rcases hl with ⟨-, rfl⟩ | ⟨-, rfl | ⟨-, rfl⟩ | rfl⟩
    exacts [Markup.renders_free st ho.1, hfail, hdim, hunexp]
  | timeoutExpired =>
    intro l hl
    exact (List.mem_singleton.mp hl) ▸ hunexp
  | raised msg =>
    intro l hl
    exact (List.mem_singleton.mp hl) ▸ Markup.renders_line st "red" "✗ Unexpected error: " (by decide)
      (by decide) ho (by simp only [String.append_assoc]; rfl)

theorem runScript_printsFree {scriptPath : String} (env : List (String × String))
    (hb : Markup.Free base) (hp : Markup.Free scriptPath) :
    PrintsFree (runScript base pathExists environ scriptPath env) := fun s hs => by
  rw [runScript_run]
  split
  · exact ⟨hs, _, rfl, scriptLines_render hp (hs.1 s.ran.length)⟩
  · exact ⟨hs, _, rfl, notFoundLines_render base hb hp⟩

/-- A script that exits with a status other than 0 is reported as failed and
then, its `click.Abort` caught by `run_script`'s own `except Exception`, as an
unexpected error with no text; the command aborts. -/
theorem runScript_failed (scriptPath : String) (env : List (String × String)) (s : Shell)
    {returncode : Int} {stdout stderr : String} (he : pathExists (scriptFile base scriptPath) = true)
    (ho : s.outcomes s.ran.length = .completed returncode stdout stderr) (hr : returncode ≠ 0) :
    (runScript base pathExists environ scriptPath env s).1 = .error .abort ∧
      (runScript base pathExists environ scriptPath env s).2.world.out =
        s.world.out ++ (if stdout = "" then [] else [stdout]) ++
          ("[red]✗ Script failed: " ++ scriptPath ++ "[/red]") ::
            ((if stderr = "" then [] else ["[dim]" ++ stderr ++ "[/dim]"]) ++
              ["[red]✗ Unexpected error: [/red]"]) := by
  simp [runScript_run, he, ho, Outcome.succeeded, scriptLines, hr]

end

/-! ## `install_local`, `verify_scripts` and `install` -/

/-- What `install_local` prints on macOS instead of installing.
mirrors metaguildnet/cli/install.py:38-55 -/
def macosLines : List String :=
  ["[yellow]⚠ macOS Detected[/yellow]\n",
    "The default installation uses MicroK8s (Linux only).",
    "For macOS, please use one of these alternatives:\n",
    "[cyan]Option 1:[/cyan] Docker Desktop with Kubernetes (Recommended)",
    "  1. Enable Kubernetes in Docker Desktop Settings",
    "  2. Run: cd /Users/4d/Documents/GitHub/GuildNet",
    "  3. Run: kubectl create namespace guildnet",
    "  4. Run: kubectl apply -f k8s/rethinkdb.yaml",
    "  5. Run: ./scripts/run-hostapp.sh\n",
    "[cyan]Option 2:[/cyan] Minikube",
    "  brew install minikube && minikube start\n",
    "[cyan]Option 3:[/cyan] Kind",
    "  brew install kind && kind create cluster\n",
    "[cyan]📖 Full guide:[/cyan] metaguildnet/docs/macos-setup.md\n",
    "[yellow]To proceed with Linux-style installation anyway, use:[/yellow]",
    "  mgn install --type bare-metal\n"]

/-- The steps of `install_local`: the line printed before each script, the
script, and the variables added to its environment.
mirrors metaguildnet/cli/install.py:57-74 -/
def localSteps (clusterName : String) (skipVerify : Bool) :
    List (String × String × List (String × String)) :=
  [("[cyan]Step 1:[/cyan] Checking prerequisites...", "scripts/install/00-check-prereqs.sh", []),
    ("\n[cyan]Step 2:[/cyan] Installing microk8s...", "scripts/install/01-install-microk8s.sh", []),
    ("\n[cyan]Step 3:[/cyan] Setting up Headscale...", "scripts/install/02-setup-headscale.sh", []),
    ("\n[cyan]Step 4:[/cyan] Deploying GuildNet...", "scripts/install/03-deploy-guildnet.sh", []),
    ("\n[cyan]Step 5:[/cyan] Bootstrapping cluster...", "scripts/install/04-bootstrap-cluster.sh",
      [("CLUSTER", clusterName)])] ++
  if skipVerify then []
  else [("\n[cyan]Step 6:[/cyan] Verifying installation...", "scripts/verify/verify-all.sh", [])]

/-- What `install_local` prints once every script has run.
mirrors metaguildnet/cli/install.py:76-77 -/
def completeLines (clusterName : String) : List String :=
  ["\n[green]✓ Installation complete![/green]",
    "\nCluster '" ++ clusterName ++ "' is ready. Access GuildNet at https://localhost:8090"]

/-- The scripts `verify_scripts` looks for: step, path and description.
mirrors metaguildnet/cli/install.py:93-100 -/
def scripts : List (String × String × String) :=
  [("Step 1", "scripts/install/00-check-prereqs.sh", "Check prerequisites"),
    ("Step 2", "scripts/install/01-install-microk8s.sh", "Install MicroK8s"),
    ("Step 3", "scripts/install/02-setup-headscale.sh", "Setup Headscale"),
    ("Step 4", "scripts/install/03-deploy-guildnet.sh", "Deploy GuildNet"),
    ("Step 5", "scripts/install/04-bootstrap-cluster.sh", "Bootstrap cluster"),
    ("Verify", "scripts/verify/verify-all.sh", "Verify installation")]

/-- The table `verify_scripts` fills.
mirrors metaguildnet/cli/install.py:102-106 -/
def scriptTable : Table :=
  ⟨"Installation Script Verification", ["Step", "Script", "Description", "Status"], []⟩

/-- What `verify_scripts` prints when every script is there.
mirrors metaguildnet/cli/install.py:119-123 -/
def allFoundLines : List String :=
  ["\n[green]✅ All scripts found! Installation system is ready.[/green]",
    "\n[yellow]Note:[/yellow] To actually install GuildNet:",
    "  1. Ensure prerequisites are installed (kubectl, docker, snap on Linux)",
    "  2. Run: mgn install --type local"]

section
variable (base : String) (pathExists : String → Bool) (environ : List (String × PyVal))
  (con : Console)

/-- The command of one step of `install_local`. -/
def stepCommand (step : String × String × List (String × String)) : Command :=
  scriptCommand base environ step.2.1 step.2.2

/-- Each step's line, then its script: the first script that aborts ends the run. -/
def runScripts : List (String × String × List (String × String)) → Run Unit
  | [] => pure ()
  | (header, scriptPath, env) :: rest => do
    Run.print header
    runScript base pathExists environ scriptPath env
    runScripts rest

/-- `install_local(cluster_name, skip_verify)`.
mirrors metaguildnet/cli/install.py:33-77 -/
def installLocal (system clusterName : String) (skipVerify : Bool) : Run Unit :=
  if system = "Darwin" then Run.printLines macosLines
  else do
    runScripts base pathExists environ (localSteps clusterName skipVerify)
    Run.printLines (completeLines clusterName)

/-- `install_bare_metal(cluster_name, skip_verify)`: two lines, no script.
mirrors metaguildnet/cli/install.py:80-83 -/
def installBareMetal (_clusterName : String) (_skipVerify : Bool) : Run Unit :=
  Run.printLines ["[yellow]Bare metal installation requires manual setup.[/yellow]",
    "Please refer to the installation documentation."]

/-- The row of one script: step, path, description and whether the file is there. -/
def scriptRow (script : String × String × String) : List String :=
  [script.1, script.2.1, script.2.2,
    if pathExists (scriptFile base script.2.1) then "[green]✓ Found[/green]" else "[red]✗ Missing[/red]"]

/-- The table `verify_scripts` prints: each script, found or missing. -/
def checkedTable : Table := { scriptTable with rows := scripts.map (scriptRow base pathExists) }

/-- `verify_scripts()`.
mirrors metaguildnet/cli/install.py:86-126 -/
def verifyScripts : Run Unit := do
  let t ← Run.lift (scripts.foldlM (fun t script => t.addRow ((scriptRow base pathExists script).map .str))
    scriptTable)
  Run.print (con.table t)
  Run.print ("\n[bold]Base directory:[/bold] " ++ base)
  if scripts.all (fun script => pathExists (scriptFile base script.2.1)) then Run.printLines allFoundLines
  else Run.print "\n[red]✗ Some scripts are missing![/red]"

/-- `mgn install [--type local|bare-metal] [--cluster-name N] [--skip-verify] [--dry-run]`.
mirrors metaguildnet/cli/install.py:11-30 -/
def install (system installType clusterName : String) (skipVerify dryRun : Bool) : Run Unit :=
  if dryRun then do
    Run.print "[bold cyan]Dry run mode - verifying script paths...[/bold cyan]\n"
    verifyScripts base pathExists con
  else do
    Run.print ("[bold]Starting GuildNet installation (type: " ++ installType ++ ")[/bold]\n")
    if installType = "local" then installLocal base pathExists environ system clusterName skipVerify
    else if installType = "bare-metal" then installBareMetal clusterName skipVerify

/-- The steps `mgn install` runs: those of `install_local`, unless the run is a
dry run, another install type or on macOS. -/
def installPlan (system installType clusterName : String) (skipVerify dryRun : Bool) :
    List (String × String × List (String × String)) :=
  if dryRun = false ∧ installType = "local" ∧ system ≠ "Darwin" then localSteps clusterName skipVerify
  else []

theorem foldlM_addRow_strs (rows : List (String × String × String)) (row : String × String × String → List String) :
    ∀ t : Table, rows.foldlM (fun t r => t.addRow ((row r).map .str)) t =
      .ok { t with rows := t.rows ++ rows.map row } := by
  induction rows with
  | nil => intro t; simp [pure, Except.pure]
  | cons r rows ih =>
    intro t
    show (t.addRow ((row r).map .str) >>= fun t' => rows.foldlM _ t') = _
    rw [Table.addRow_strs]
    exact (ih _).trans (by simp [Table.withRow])

theorem verifyScripts_run (s : Shell) :
    verifyScripts base pathExists con s = (.ok (), { s with world := { s.world with
      out := s.world.out ++ [con.table (checkedTable base pathExists),
        "\n[bold]Base directory:[/bold] " ++ base] ++
        if scripts.all (fun script => pathExists (scriptFile base script.2.1)) then allFoundLines
        else ["\n[red]✗ Some scripts are missing![/red]"] } }) := by
  simp only [verifyScripts, Run.bind_run, Run.lift_run, foldlM_addRow_strs, Run.print, Run.prog_run,
    Prog.print_run]
  split <;> simp [Run.printLines, checkedTable, scriptTable]

/-- Each step prints its line and runs its script; the scripts run are those of
the steps up to the first that aborts, and the run returns exactly when every
script ran and exited with 0. -/
theorem runScripts_ran : ∀ (steps : List (String × String × List (String × String))) (s : Shell),
    ∃ k ≤ steps.length,
      (runScripts base pathExists environ steps s).2.ran =
        s.ran ++ (steps.take k).map (stepCommand base environ) ∧
      ((runScripts base pathExists environ steps s).1 = .ok () ↔
        k = steps.length ∧ ∀ j < k, (s.outcomes (s.ran.length + j)).succeeded)
  | [], s => ⟨0, le_refl _, by simp [runScripts], by simp [runScripts]⟩
  | (header, scriptPath, env) :: rest, s => by
    have hs : runScripts base pathExists environ ((header, scriptPath, env) :: rest) s =
        (runScript base pathExists environ scriptPath env >>= fun _ =>
          runScripts base pathExists environ rest)
          { s with world := { s.world with out := s.world.out ++ [header] } } := rfl
    have hrun : runScript base pathExists environ scriptPath env
        { s with world := { s.world with out := s.world.out ++ [header] } } =
        if pathExists (scriptFile base scriptPath) then
          (if (s.outcomes s.ran.length).succeeded then .ok () else .error .abort,
            { s with
              world := { s.world with
                out := s.world.out ++ [header] ++ scriptLines scriptPath (s.outcomes s.ran.length) }
              ran := s.ran ++ [scriptCommand base environ scriptPath env] })
        else (.error .abort, { s with world := { s.world with
          out := s.world.out ++ [header] ++ notFoundLines base scriptPath } }) :=
      runScript_run base pathExists environ scriptPath env _
    rw [hs, Run.bind_run, hrun]
    by_cases he : pathExists (scriptFile base scriptPath)
    · cases ho : (s.outcomes s.ran.length).succeeded
      · exact ⟨1, by simp, by simp [he, ho, stepCommand], by simp [he, ho]⟩
      · simp only [he, ho, if_true]
        obtain ⟨k, hk, hran, hok⟩ := runScripts_ran rest
          { s with
            world := { s.world with
              out := s.world.out ++ [header] ++ scriptLines scriptPath (s.outcomes s.ran.length) }
            ran := s.ran ++ [scriptCommand base environ scriptPath env] }
        have hshift : (∀ j < k + 1, (s.outcomes (s.ran.length + j)).succeeded = true) ↔
            ∀ j < k, (s.outcomes (s.ran.length + 1 + j)).succeeded = true := by
          rw [Nat.forall_lt_succ_left]
          simp [ho, Nat.add_assoc, Nat.add_comm 1]
        refine ⟨k + 1, by simpa using hk, by simpa [stepCommand] using hran, ?_⟩
        rw [hshift]
        simpa using hok
    · exact ⟨0, by simp, by simp [he], by simp [he]⟩

theorem install_runs_plan (system installType clusterName : String) (skipVerify dryRun : Bool)
    (s : Shell) : ∃ s₁ : Shell, s₁.ran = s.ran ∧ s₁.outcomes = s.outcomes ∧
      (install base pathExists environ con system installType clusterName skipVerify dryRun s).2.ran =
        (runScripts base pathExists environ
          (installPlan system installType clusterName skipVerify dryRun) s₁).2.ran ∧
      ((install base pathExists environ con system installType clusterName skipVerify dryRun s).1 =
          .ok () ↔
        (runScripts base pathExists environ
          (installPlan system installType clusterName skipVerify dryRun) s₁).1 = .ok ()) := by
  by_cases hp : dryRun = false ∧ installType = "local" ∧ system ≠ "Darwin"
  · obtain ⟨rfl, rfl, hd⟩ := hp
    refine ⟨{ s with world := { s.world with out := s.world.out ++
      ["[bold]Starting GuildNet installation (type: local)[/bold]\n"] } }, rfl, rfl, ?_⟩
    simp only [install, installPlan, installLocal, hd, Bool.false_eq_true, if_true, if_false,
      true_and, not_false_eq_true, and_self, Run.bind_run, Run.print, Run.prog_run, Prog.print_run]
    split <;> simp_all [Run.printLines]
  · obtain ⟨w, h⟩ : ∃ w : World,
        install base pathExists environ con system installType clusterName skipVerify dryRun s =
          (.ok (), { s with world := w }) := by
      cases dryRun with
      | true => exact ⟨_, by simp [install, Run.bind_run, Run.print, verifyScripts_run]; rfl⟩
      | false =>
        by_cases hl : installType = "local"
        · have hd : system = "Darwin" := by simpa [hl] using hp
          exact ⟨_, by simp [install, installLocal, hl, hd, Run.bind_run, Run.print, Run.printLines]; rfl⟩
        · by_cases hb : installType = "bare-metal" <;>
            exact ⟨_, by simp [install, installBareMetal, hl, hb, Run.bind_run, Run.print, Run.printLines]; rfl⟩
    exact ⟨{ s with world := w }, rfl, rfl, by simp [h, installPlan, hp, runScripts],
      by simp [h, installPlan, hp, runScripts]⟩

/-! ### What `mgn install` prints -/

theorem runScripts_printsFree (hb : Markup.Free base) :
    ∀ {steps : List (String × String × List (String × String))},
      (∀ step ∈ steps, (∀ st, Markup.Renders st step.1) ∧ Markup.Free step.2.1) →
        PrintsFree (runScripts base pathExists environ steps)
  | [], _ => PrintsFree.pure ()
  | (_, _, env) :: _, h =>
    PrintsFree.bind (PrintsFree.print (h _ (List.mem_cons_self _ _)).1) fun _ =>
      PrintsFree.bind (runScript_printsFree base pathExists environ env hb (h _ (List.mem_cons_self _ _)).2)
        fun _ => runScripts_printsFree hb fun step hs => h step (List.mem_cons_of_mem _ hs)

theorem localSteps_free (clusterName : String) (skipVerify : Bool) :
    ∀ step ∈ localSteps clusterName skipVerify, (∀ st, Markup.Renders st step.1) ∧ Markup.Free step.2.1 := by
  intro step hstep
  suffices h : Markup.simple step.1 = true ∧ Markup.Free step.2.1 from
    ⟨fun st => Markup.renders_of_simple st h.1, h.2⟩
  cases skipVerify <;>
    simp only [localSteps, List.mem_append, List.mem_cons, List.mem_singleton, List.not_mem_nil,
      or_false, if_true, Bool.false_eq_true, if_false, List.append_nil, or_assoc] at hstep <;>
    rcases hstep with rfl | rfl | rfl | rfl | rfl | rfl <;> dsimp only <;> decide

theorem macosLines_simple : ∀ l ∈ macosLines, Markup.simple l = true := by decide

theorem completeLines_render {clusterName : String} (hc : Markup.Free clusterName) (st : Markup.Styles) :
    ∀ l ∈ completeLines clusterName, Markup.Renders st l := by
  simp only [completeLines, List.mem_cons, List.mem_singleton, List.not_mem_nil, or_false]
  rintro l (rfl | rfl)
  · exact Markup.renders_of_simple st (by decide)
  · exact Markup.renders_free st (Markup.free_append (Markup.free_append (by decide) hc) (by decide))

/-- `mgn install` without `--dry-run` prints only lines `rich` renders when
the base directory, the install type and the cluster's name are free of markup
tags. -/
theorem install_printsFree (system installType clusterName : String) (skipVerify : Bool)
    (hb : Markup.Free base) (hi : Markup.Free installType) (hc : Markup.Free clusterName) :
    PrintsFree (install base pathExists environ con system installType clusterName skipVerify false) := by
  have hstart : ∀ st, Markup.Renders st
      ("[bold]Starting GuildNet installation (type: " ++ installType ++ ")[/bold]\n") := fun st =>
    Markup.renders_lead st "bold" ("Starting GuildNet installation (type: " ++ installType ++ ")") (x := "\n")
      (by decide) (Markup.free_append (Markup.free_append (by decide) hi) (by decide)) (by decide)
      (by simp only [String.append_assoc]; rfl)
  have hlocal : PrintsFree (installLocal base pathExists environ system clusterName skipVerify) :=
    PrintsFree.ite (PrintsFree.printLines fun st l hl => Markup.renders_of_simple st (macosLines_simple l hl))
      (PrintsFree.bind (runScripts_printsFree base pathExists environ hb (localSteps_free clusterName skipVerify))
        fun _ => PrintsFree.printLines (completeLines_render hc))
  have hbare : PrintsFree (installBareMetal clusterName skipVerify) :=
    PrintsFree.printLines fun st l hl => Markup.renders_of_simple st (by revert l; decide)
  unfold install
  rw [if_neg Bool.false_ne_true]
  exact PrintsFree.bind (PrintsFree.print hstart) fun _ => PrintsFree.ite hlocal (PrintsFree.ite hbare (PrintsFree.pure ()))

theorem checkedTable_renders : (checkedTable base pathExists).Renders := by
  have hconst : ∀ script ∈ scripts, Markup.simple script.1 = true ∧ Markup.simple script.2.1 = true ∧
      Markup.simple script.2.2 = true := by decide
  have hhead : ∀ c ∈ scriptTable.title :: scriptTable.columns, Markup.simple c = true := by decide
  intro st c hc
  apply Markup.renders_of_simple
  rcases List.mem_append.mp hc with hc | hc
  · exact hhead c hc
  · obtain ⟨row, hrow, hc⟩ := List.mem_flatten.mp hc
    obtain ⟨script, hs, rfl⟩ := List.mem_map.mp hrow
    obtain ⟨h1, h2, h3⟩ := hconst script hs
    simp only [scriptRow, List.mem_cons, List.mem_singleton, List.not_mem_nil, or_false] at hc
    rcases hc with rfl | rfl | rfl | rfl
    · exact h1
    · exact h2
    · exact h3
    · split <;> decide

theorem verifyScripts_lines_render (hb : Markup.Free base) (st : Markup.Styles) :
    ∀ l ∈ ("\n[bold]Base directory:[/bold] " ++ base) ::
      if scripts.all (fun script => pathExists (scriptFile base script.2.1)) then allFoundLines
      else ["\n[red]✗ Some scripts are missing![/red]"], Markup.Renders st l := by
  intro l hl
  rcases List.mem_cons.mp hl with rfl | hl
  · have e : "\n[bold]Base directory:[/bold] " ++ base =
        "\n" ++ "[" ++ "bold" ++ "]" ++ "Base directory:" ++ "[/" ++ "bold" ++ "]" ++ (" " ++ base) := by
      simp only [String.append_assoc]; rfl
    rw [e]
    exact Markup.renders_wrap st (by decide) (by decide) (by decide) (by decide)
      (Markup.free_append (by decide) hb)
  · apply Markup.renders_of_simple
    split at hl
    · exact (by decide : ∀ l ∈ allFoundLines, Markup.simple l = true) l hl
    · exact (List.mem_singleton.mp hl) ▸ (by decide)

end

/-! ## `mgn verify` -/

/-- The command `perform_basic_checks` runs for the Kubernetes check. -/
def kubectlCommand : Command := ⟨["kubectl", "version", "--client"], .none, none⟩

/-- The Host App `perform_basic_checks` asks for its health. -/
def guildnetApi : Client := ⟨"https://localhost:8090", ""⟩

/-- `httpx.get(url, verify=False, timeout=5)`: status code and body text; a
transport failure raises. -/
def httpxGet (path : String) : Prog (Nat × String) := fun w =>
  (match w.replies w.sent.length with
    | .transport kind msg => .error (.transport kind msg)
    | .http status text => .ok (status, text),
    { w with sent := w.sent ++ [guildnetApi.mkRequest .GET path none] })

/-- What `run_verify_script` adds when the full verification fails.
mirrors metaguildnet/cli/verify.py:79-84 -/
def verifyAllHelpLines : List String :=
  ["\n[yellow]⚠ Some checks failed (this is expected if GuildNet is not installed yet)[/yellow]",
    "\n[cyan]To install GuildNet:[/cyan]",
    "  mgn install --type local",
    "\n[cyan]Or manually:[/cyan]",
    "  cd /path/to/GuildNet",
    "  ./scripts/run-hostapp.sh"]

section
variable (base : String) (pathExists which : String → Bool)

/-- `base_dir / "scripts" / "verify" / script_name`. -/
def verifyScriptFile (scriptName : String) : String := base ++ "/scripts/verify/" ++ scriptName

def toolLine (tool : String) : String :=
  if which tool then "[green]✓[/green] " ++ tool ++ " found" else "[red]✗[/red] " ++ tool ++ " not found"

/-- `perform_basic_checks(script_name)`: the tools on the `PATH`, `kubectl`, or
the Host App's health; nothing for the other scripts.
mirrors metaguildnet/cli/verify.py:97-138 -/
def performBasicChecks (scriptName : String) : Run Unit :=
  if scriptName = "verify-system.sh" then Run.printLines (["kubectl", "docker", "curl"].map (toolLine which))
  else if scriptName = "verify-kubernetes.sh" then do
    match ← Run.exec kubectlCommand with
    | .completed returncode _ _ =>
      Run.print (if returncode = 0 then "[green]✓[/green] kubectl is working"
        else "[red]✗[/red] kubectl failed")
    | .timeoutExpired => Run.print "[red]✗[/red] kubectl check failed: "
    | .raised msg => Run.print ("[red]✗[/red] kubectl check failed: " ++ msg)
  else if scriptName = "verify-guildnet.sh" then
    Run.prog (tryCatch
      (do
        let (statusCode, _) ← httpxGet "/healthz"
        Prog.print (if statusCode = 200 then "[green]✓[/green] GuildNet API is reachable"
          else "[red]✗[/red] GuildNet API returned error"))
      (fun e => Prog.print ("[red]✗[/red] GuildNet API not reachable: " ++ e.str)))
  else pure ()

/-- What `run_verify_script` prints about a completed script: its output, and
on a failure its errors and, for the full verification, how to install. -/
def reportVerification (scriptName : String) (returncode : Int) (stdout stderr : String) :
    Run Unit := do
  if stdout ≠ "" then Run.print stdout
  if returncode ≠ 0 then
    if stderr ≠ "" then Run.print ("[dim]" ++ stderr ++ "[/dim]")
    if substr "verify-all" scriptName || scriptName = "verify-all.sh" then
      Run.printLines verifyAllHelpLines
  else Run.print "\n[green]✅ All verifications passed![/green]"

/-- `run_verify_script(script_name)`.
mirrors metaguildnet/cli/verify.py:53-94 -/
def runVerifyScript (scriptName : String) : Run Unit :=
  if pathExists (verifyScriptFile base scriptName) then do
    match ← Run.exec ⟨["bash", verifyScriptFile base scriptName], .none, none⟩ with
    | .completed returncode stdout stderr => reportVerification scriptName returncode stdout stderr
    | .timeoutExpired => Run.print "[yellow]⚠ Verification check error: [/yellow]"
    | .raised msg => Run.print ("[yellow]⚠ Verification check error: " ++ msg ++ "[/yellow]")
  else do
    Run.print ("[yellow]⚠ Script not found: " ++ verifyScriptFile base scriptName ++ "[/yellow]")
    Run.print "[cyan]Performing basic checks instead...[/cyan]\n"
    performBasicChecks which scriptName

/-- A `mgn verify` subcommand: its header, then its script. -/
def verifyCommand (header scriptName : String) : Run Unit := do
  Run.print header
  runVerifyScript base pathExists which scriptName

/-- `mgn verify system`.
mirrors metaguildnet/cli/verify.py:18-22 -/
def system : Run Unit :=
  verifyCommand base pathExists which "[bold]Checking system prerequisites...[/bold]\n" "verify-system.sh"

/-- `mgn verify network`.
mirrors metaguildnet/cli/verify.py:25-29 -/
def network : Run Unit :=
  verifyCommand base pathExists which "[bold]Checking network connectivity...[/bold]\n" "verify-network.sh"

/-- `mgn verify kubernetes`.
mirrors metaguildnet/cli/verify.py:32-36 -/
def kubernetes : Run Unit :=
  verifyCommand base pathExists which "[bold]Checking Kubernetes cluster...[/bold]\n"
    "verify-kubernetes.sh"

/-- `mgn verify guildnet`.
mirrors metaguildnet/cli/verify.py:39-43 -/
def guildnet : Run Unit :=
  verifyCommand base pathExists which "[bold]Checking GuildNet installation...[/bold]\n"
    "verify-guildnet.sh"

/-- `mgn verify all`.
mirrors metaguildnet/cli/verify.py:46-50 -/
def all : Run Unit :=
  verifyCommand base pathExists which "[bold]Running all verification checks...[/bold]\n" "verify-all.sh"

/-- The commands a verification runs: its script when the file exists, else
`kubectl version --client` for the Kubernetes check, else none. -/
def verifyPlan (scriptName : String) : List Command :=
  if pathExists (verifyScriptFile base scriptName) then
    [⟨["bash", verifyScriptFile base scriptName], .none, none⟩]
  else if scriptName = "verify-kubernetes.sh" then [kubectlCommand] else []

/-- What `run_verify_script` prints about a script that completed. -/
def verificationLines (scriptName : String) (returncode : Int) (stdout stderr : String) :
    List String :=
  (if stdout = "" then [] else [stdout]) ++
    if returncode = 0 then ["\n[green]✅ All verifications passed![/green]"]
    else (if stderr = "" then [] else ["[dim]" ++ stderr ++ "[/dim]"]) ++
      if substr "verify-all" scriptName || scriptName = "verify-all.sh" then verifyAllHelpLines else []

theorem reportVerification_run (scriptName : String) (returncode : Int) (stdout stderr : String)
    (s : Shell) : reportVerification scriptName returncode stdout stderr s =
      (.ok (), { s with world := { s.world with
        out := s.world.out ++ verificationLines scriptName returncode stdout stderr } }) := by
  unfold reportVerification verificationLines
  by_cases h0 : returncode = 0 <;> by_cases h1 : stdout = "" <;> by_cases h2 : stderr = "" <;>
    cases h3 : (substr "verify-all" scriptName || scriptName = "verify-all.sh") <;>
    simp [h0, h1, h2, h3, Run.bind_run, Run.print, Run.printLines]

theorem performBasicChecks_run (scriptName : String) (s : Shell) :
    (performBasicChecks which scriptName s).1 = .ok () ∧
      (performBasicChecks which scriptName s).2.ran =
        s.ran ++ if scriptName = "verify-kubernetes.sh" then [kubectlCommand] else [] := by
  unfold performBasicChecks
  by_cases h1 : scriptName = "verify-system.sh"
  · simp [h1, Run.printLines]
  by_cases h2 : scriptName = "verify-kubernetes.sh"
  · rw [if_neg h1, if_pos h2]
    simp only [Run.bind_run, Run.exec_run]
    cases s.outcomes s.ran.length <;> simp [Run.print, h2]
  by_cases h3 : scriptName = "verify-guildnet.sh"
  · rw [if_neg h1, if_neg h2, if_pos h3]
    simp only [Run.prog_run, Prog.tryCatch_run, Prog.bind_run, httpxGet]
    cases h : s.world.replies s.world.sent.length <;> simp [h, h2]
  · simp [h1, h2, h3]

/-! ### What `mgn verify` prints -/

theorem verificationLines_render (scriptName : String) {returncode : Int} {stdout stderr : String}
    (ho : outcomeFree (.completed returncode stdout stderr)) (st : Markup.Styles) :
    ∀ l ∈ verificationLines scriptName returncode stdout stderr, Markup.Renders st l := by
  have hhelp : ∀ l ∈ verifyAllHelpLines, Markup.simple l = true := by decide
  have hdim : Markup.Renders st ("[dim]" ++ stderr ++ "[/dim]") :=
    Markup.renders_line st "dim" "" (by decide) (by decide) ho.2
      (by simp only [String.append_assoc, String.empty_append]; rfl)
  intro l hl
  rcases List.mem_append.mp hl with hl | hl
  · split at hl
    · cases hl
    · exact (List.mem_singleton.mp hl) ▸ Markup.renders_free st ho.1
  · split at hl
    · exact (List.mem_singleton.mp hl) ▸ Markup.renders_of_simple st (by decide)
    rcases List.mem_append.mp hl with hl | hl
    · split at hl
      · cases hl
      · exact (List.mem_singleton.mp hl) ▸ hdim
    · split at hl
      · exact Markup.renders_of_simple st (hhelp l hl)
      · cases hl

theorem toolLines_render (st : Markup.Styles) :
    ∀ l ∈ ["kubectl", "docker", "curl"].map (toolLine which), Markup.Renders st l := by
  have hlines : ∀ tool ∈ ["kubectl", "docker", "curl"],
      Markup.simple ("[green]✓[/green] " ++ tool ++ " found") = true ∧
        Markup.simple ("[red]✗[/red] " ++ tool ++ " not found") = true := by decide
  intro l hl
  obtain ⟨tool, ht, rfl⟩ := List.mem_map.mp hl
  apply Markup.renders_of_simple
  unfold toolLine
  split
  exacts [(hlines tool ht).1, (hlines tool ht).2]

theorem performBasicChecks_printsFree (scriptName : String) :
    PrintsFree (performBasicChecks which scriptName) := by
  unfold performBasicChecks
  refine PrintsFree.ite (PrintsFree.printLines (toolLines_render which))
    (PrintsFree.ite (PrintsFree.exec_bind fun o ho => ?_) (PrintsFree.ite ?_ (PrintsFree.pure ())))
  · cases o with
    | completed returncode _ _ =>
      exact PrintsFree.print fun st => by split <;> exact Markup.renders_of_simple st (by decide)
    | timeoutExpired => exact PrintsFree.print fun st => Markup.renders_of_simple st (by decide)
    | raised msg =>
      exact PrintsFree.print fun st => Markup.renders_lead st "red" "✗" (x := " kubectl check failed: " ++ msg)
        (by decide) (by decide) (Markup.free_append (by decide) ho) (by simp only [String.append_assoc]; rfl)
  · intro s hs
    simp only [Run.prog_run, Prog.tryCatch_run, Prog.bind_run, httpxGet]
    cases h : s.world.replies s.world.sent.length with
    | transport kind msg =>
      refine ⟨hs, _, rfl, fun st l hl => (List.mem_singleton.mp hl) ▸ ?_⟩
      exact Markup.renders_lead st "red" "✗" (x := " GuildNet API not reachable: " ++ msg) (by decide)
        (by decide) (Markup.free_append (by decide) (hs.2 _ _ _ h)) (by simp only [String.append_assoc]; rfl)
    | http status text =>
      refine ⟨hs, _, rfl, fun st l hl => (List.mem_singleton.mp hl) ▸ ?_⟩
      split <;> exact Markup.renders_of_simple st (by decide)

theorem runVerifyScript_printsFree {scriptName : String} (hb : Markup.Free base)
    (hn : Markup.Free scriptName) : PrintsFree (runVerifyScript base pathExists which scriptName) := by
  have hnf : ∀ st, Markup.Renders st
      ("[yellow]⚠ Script not found: " ++ verifyScriptFile base scriptName ++ "[/yellow]") := fun st =>
    Markup.renders_line st "yellow" "⚠ Script not found: " (x := verifyScriptFile base scriptName) (by decide)
      (by decide) (Markup.free_append (Markup.free_append hb (by decide : Markup.Free "/scripts/verify/")) hn)
      (by simp only [String.append_assoc]; rfl)
  unfold runVerifyScript
  refine PrintsFree.ite (PrintsFree.exec_bind fun o ho => ?_) (PrintsFree.bind (PrintsFree.print hnf)
    fun _ => PrintsFree.bind (PrintsFree.print fun st => Markup.renders_of_simple st (by decide))
      fun _ => performBasicChecks_printsFree which scriptName)
  cases o with
  | completed returncode stdout stderr =>
    intro s hs
    dsimp only
    rw [reportVerification_run]
    exact ⟨hs, _, rfl, verificationLines_render scriptName ho⟩
  | timeoutExpired => exact PrintsFree.print fun st => Markup.renders_of_simple st (by decide)
  | raised msg =>
    exact PrintsFree.print fun st => Markup.renders_line st "yellow" "⚠ Verification check error: "
      (by decide) (by decide) ho (by simp only [String.append_assoc]; rfl)

end

end MetaGuildNet.L5.Install
