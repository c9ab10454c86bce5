import MetaGuildNet.L5App.Runner

/-!
# The installer: `full_install` and its four stages

`metaguildnet/installer/bootstrap.py` installs GuildNet in four stages run by
`full_install` (204-222), which stops at the first stage that returns `False`:
`install_dependencies` (37-79) checks three programs, `setup_headscale`
(82-107) runs the Headscale bootstrap script, `deploy_cluster` (110-149) runs
the deploy scripts that exist, skipping the others, and `verify_installation`
(152-201) runs three `kubectl` checks. Each stage catches what it expects
(`RuntimeError` of `run_command`, `FileNotFoundError` of a missing program);
any other exception of `subprocess.run` ends the installer.

`Inst` is runner code that may also raise such an exception (`Raised`); the
file system is `pathExists`, `root` the GuildNet checkout (`__file__`'s sixth
parent), and the shell's outcome stream decides what each process does. The
`rich` progress bars only draw and are left out.

Results:
* `fullInstall_true`: when the installer succeeds, it ran the three
  prerequisite checks, the Headscale bootstrap, some of the deploy scripts in
  their order and the three cluster checks, and every one of them exited
  with 0.
* `fullInstall_succeeds`: conversely, with the scripts directory and the
  Headscale script present, the installer succeeds from every shell whose
  processes all exit with 0. `Succeeds` is the total-correctness triple for
  that precondition, with a rule per combinator and a lemma per stage.
* `deployCluster_vacuous`: when the scripts directory has none of the deploy
  scripts, `deploy_cluster` runs nothing and reports the deployment complete.

Limitations: `subprocess.run` without a `timeout` cannot raise
`TimeoutExpired`; the model reads that outcome as an `OSError` with no text.
-/
namespace MetaGuildNet.L5.Installer

open MetaGuildNet.L1 MetaGuildNet.L2
open MetaGuildNet.L5.Runner (Shell Run Outcome Command Outcome.succeeded)

/-! ## Exceptions and the installer monad -/

/-- An exception of `bootstrap.py`: the `RuntimeError` of `run_command`, or an
`OSError` of `subprocess.run`, with its text. -/
inductive Raised where
  | runtimeError (msg : String)
  | osError (msg : String)
  deriving DecidableEq, Repr

/-- `str(e)`. -/
def Raised.str : Raised → String
  | .runtimeError msg => msg
  | .osError msg => msg

/-- `isinstance(e, FileNotFoundError)`: CPython raises the `OSError` subclass
of the error number, `FileNotFoundError` for `ENOENT`, number 2. -/
def Raised.isFileNotFound : Raised → Bool
  | .osError msg => "[Errno 2] ".toList.isPrefixOf msg.toList
  | .runtimeError _ => false

/-- Installer code: runner code that may also raise a `Raised`. -/
abbrev Inst := ExceptT Raised Run

namespace Inst

variable {α β : Type}

theorem run_bind (x : Inst α) (f : α → Inst β) (s : Shell) :
    (x >>= f).run s = match x.run s with
      | (.ok (.ok a), s') => (f a).run s'
      | (.ok (.error e), s') => (.ok (.error e), s')
      | (.error e, s') => (.error e, s') := by
  show (x.run >>= ExceptT.bindCont f) s = _
  rw [Run.bind_run]
  rcases x.run s with ⟨_ | _ | _, s'⟩ <;> rfl

@[simp] theorem run_pure (a : α) (s : Shell) : (pure a : Inst α).run s = (.ok (.ok a), s) := rfl

@[simp] theorem run_throw (e : Raised) (s : Shell) : (throw e : Inst α).run s = (.ok (.error e), s) :=
  rfl

@[simp] theorem run_lift (x : Run α) (s : Shell) :
    (liftM x : Inst α).run s = match x s with
      | (.ok a, s') => (.ok (.ok a), s')
      | (.error e, s') => (.error e, s') := by
  have h : (liftM x : Inst α).run s = (x >>= fun a => (pure (.ok a) : Run (Except Raised α))) s := rfl
  rw [h, Run.bind_run]
  rcases x s with ⟨_ | _, s'⟩ <;> rfl

theorem run_tryCatch (x : Inst α) (h : Raised → Inst α) (s : Shell) :
    (tryCatch x h : Inst α).run s = match x.run s with
      | (.ok (.ok a), s') => (.ok (.ok a), s')
      | (.ok (.error e), s') => (h e).run s'
      | (.error e, s') => (.error e, s') := by
  show (ExceptT.tryCatch x h).run s = _
  unfold ExceptT.tryCatch ExceptT.mk ExceptT.run
  rw [Run.bind_run]
  rcases x s with ⟨_ | _ | _, s'⟩ <;> rfl

theorem run_bind_ok {x : Inst α} {f : α → Inst β} {s s' : Shell} {a : α}
    (h : x.run s = (.ok (.ok a), s')) : (x >>= f).run s = (f a).run s' := by
  rw [run_bind, h]

theorem bind_eq_ok {x : Inst α} {f : α → Inst β} {s s' : Shell} {b : β}
    (h : (x >>= f).run s = (.ok (.ok b), s')) :
    ∃ a s₁, x.run s = (.ok (.ok a), s₁) ∧ (f a).run s₁ = (.ok (.ok b), s') := by
  rw [run_bind] at h
  rcases hx : x.run s with ⟨_ | _ | a, s₁⟩ <;> rw [hx] at h
  · cases h
  · cases h
  · exact ⟨a, s₁, rfl, h⟩

theorem tryCatch_true {x : Inst Bool} {h : Raised → Inst Bool} {s s' : Shell}
    (hh : ∀ e t t', (h e).run t ≠ (.ok (.ok true), t'))
    (hx : (tryCatch x h : Inst Bool).run s = (.ok (.ok true), s')) : x.run s = (.ok (.ok true), s') := by
  rw [run_tryCatch] at hx
  rcases hr : x.run s with ⟨_ | _ | _, s₁⟩ <;> rw [hr] at hx
  · cases hx
  · exact absurd hx (hh _ _ _)
  · exact hx

end Inst

/-- A logger call, as the installer's `console.print`. -/
def print (line : String) : Inst Unit := liftM (Run.print line)

@[simp] theorem print_run (line : String) (s : Shell) :
    (print line).run s = (.ok (.ok ()), { s with world := { s.world with out := s.world.out ++ [line] } }) :=
  rfl

/-- One `console.print` per line. -/
def printLines (lines : List String) : Inst Unit := liftM (Run.printLines lines)

@[simp] theorem printLines_run (lines : List String) (s : Shell) :
    (printLines lines).run s =
      (.ok (.ok ()), { s with world := { s.world with out := s.world.out ++ lines } }) := by
  simp [printLines, Run.printLines]

/-! ## `run_command` and `check_prerequisite` -/

/-- The command `subprocess.run(cmd, ...)` is given. -/
def command (cmd : List String) : Command := ⟨cmd, .none, none⟩

/-- `subprocess.run(cmd, capture_output=True, ...)`: the status and the two
streams, or the `OSError` of a process that could not start. -/
def subprocessRun (cmd : List String) : Inst (Int × String × String) := do
  match ← liftM (Run.exec (command cmd)) with
  | .completed returncode stdout stderr => pure (returncode, stdout, stderr)
  | .raised msg => throw (.osError msg)
  | .timeoutExpired => throw (.osError "")

/-- What one `subprocess.run` returns, read from its outcome. -/
def outcomeResult : Outcome → Except Raised (Int × String × String)
  | .completed returncode stdout stderr => .ok (returncode, stdout, stderr)
  | .raised msg => .error (.osError msg)
  | .timeoutExpired => .error (.osError "")

@[simp] theorem subprocessRun_run (cmd : List String) (s : Shell) :
    (subprocessRun cmd).run s = (.ok (outcomeResult (s.outcomes s.ran.length)), { s with ran := s.ran ++ [command cmd] }) := by
  simp only [subprocessRun, Inst.run_bind, Inst.run_lift, Run.exec_run]
  cases s.outcomes s.ran.length <;> rfl

/-- `run_command(cmd, check=check)`.
mirrors metaguildnet/installer/bootstrap.py:15-25 -/
def runCommand (cmd : List String) (check : Bool) : Inst (Int × String × String) := do
  print ("[dim]Running: " ++ " ".intercalate cmd ++ "[/dim]")
  let result ← subprocessRun cmd
  if check && result.1 ≠ 0 then
    print ("[red]Command failed with code " ++ toString result.1 ++ "[/red]")
    print ("[red]stderr: " ++ result.2.2 ++ "[/red]")
    throw (.runtimeError ("Command failed: " ++ " ".intercalate cmd))
  else pure result

/-- `check_prerequisite(name, command)`: whether the command exits with 0; a
missing program counts as absent, and any other exception escapes.
mirrors metaguildnet/installer/bootstrap.py:28-34 -/
def checkPrerequisite (_name : String) (cmd : List String) : Inst Bool :=
  tryCatch (do
      let result ← subprocessRun cmd
      pure (result.1 = 0))
    (fun e => if e.isFileNotFound then pure false else throw e)

/-! ## The four stages -/

/-- The programs `install_dependencies` checks, with their commands.
mirrors metaguildnet/installer/bootstrap.py:41-45 -/
def prerequisites : List (String × List String) :=
  [("Docker", ["docker", "--version"]), ("kubectl", ["kubectl", "version", "--client"]),
    ("MicroK8s", ["microk8s", "version"])]

/-- The loop of `install_dependencies`: the names of the missing programs.
mirrors metaguildnet/installer/bootstrap.py:54-63 -/
def checkPrerequisites : List (String × List String) → Inst (List String)
  | [] => pure []
  | (name, cmd) :: rest => do
    let found ← checkPrerequisite name cmd
    print (if found then "  ✓ " ++ name ++ " installed" else "  ✗ " ++ name ++ " not found")
    let missing ← checkPrerequisites rest
    pure (if found then missing else name :: missing)

/-- How to install each missing program, in the code's order.
mirrors metaguildnet/installer/bootstrap.py:69-74 -/
def hintLines (missing : List String) : List String :=
  (if "MicroK8s" ∈ missing then ["  MicroK8s: sudo snap install microk8s --classic"] else []) ++
    (if "Docker" ∈ missing then ["  Docker: curl -fsSL https://get.docker.com | sh"] else []) ++
    if "kubectl" ∈ missing then ["  kubectl: snap install kubectl --classic"] else []

/-- `install_dependencies()`.
mirrors metaguildnet/installer/bootstrap.py:37-79 -/
def installDependencies : Inst Bool := do
  print "\n[bold cyan]Checking Prerequisites[/bold cyan]"
  let missing ← checkPrerequisites prerequisites
  if missing.isEmpty then
    print "\n[green]✓ All prerequisites installed[/green]"
    pure true
  else
    print ("\n[yellow]Missing prerequisites: " ++ ", ".intercalate missing ++ "[/yellow]")
    print "\nTo install missing components:"
    printLines (hintLines missing)
    pure false

/-- The deploy scripts and what each does.
mirrors metaguildnet/installer/bootstrap.py:120-124 -/
def deploySteps : List (String × String) :=
  [("microk8s-setup.sh", "Setting up MicroK8s"), ("rethinkdb-setup.sh", "Setting up RethinkDB"),
    ("deploy-operator.sh", "Deploying operator")]

/-- The checks `verify_installation` runs.
mirrors metaguildnet/installer/bootstrap.py:162-166 -/
def checks : List (String × List String) :=
  [("Kubernetes cluster", ["kubectl", "cluster-info"]),
    ("GuildNet CRDs", ["kubectl", "get", "crd", "workspaces.guildnet.io"]),
    ("RethinkDB pods", ["kubectl", "get", "pods", "-l", "app=rethinkdb"])]

/-- What `verify_installation` prints when every check passed.
mirrors metaguildnet/installer/bootstrap.py:192-196 -/
def verifiedLines : List String :=
  ["\n[green]✓ Installation verified successfully[/green]", "\n[bold]Next steps:[/bold]",
    "  1. Start the Host App: ./scripts/run-hostapp.sh",
    "  2. Bootstrap cluster: mgn cluster bootstrap",
    "  3. Create a workspace: mgn workspace create <cluster-id> --name myapp --image nginx"]

/-- What `verify_installation` prints when a check failed.
mirrors metaguildnet/installer/bootstrap.py:199-200 -/
def uncheckedLines : List String :=
  ["\n[yellow]⚠ Some checks failed[/yellow]", "Review the errors above and check the documentation."]

section
variable (root : String) (pathExists : String → Bool)

/-- `Path(__file__).parent.parent.parent.parent.parent.parent / "scripts"`. -/
def scriptDir : String := root ++ "/scripts"

def scriptPath (scriptName : String) : String := scriptDir root ++ "/" ++ scriptName

/-- `setup_headscale()`.
mirrors metaguildnet/installer/bootstrap.py:82-107 -/
def setupHeadscale : Inst Bool := do
  print "\n[bold cyan]Setting up Headscale[/bold cyan]"
  if !pathExists (scriptDir root) then
    print "[red]GuildNet scripts directory not found[/red]"
    pure false
  else if !pathExists (scriptPath root "headscale-bootstrap.sh") then
    print ("[yellow]Headscale bootstrap script not found at " ++ scriptPath root "headscale-bootstrap.sh" ++
      "[/yellow]")
    pure false
  else
    tryCatch (do
        print "Running headscale bootstrap..."
        let _ ← runCommand ["bash", scriptPath root "headscale-bootstrap.sh"] true
        print "[green]✓ Headscale setup complete[/green]"
        pure true)
      (fun e => match e with
        | .runtimeError msg => do
          print ("[red]Headscale setup failed: " ++ msg ++ "[/red]")
          pure false
        | e => throw e)

/-- The loop of `deploy_cluster`: a missing script is skipped, a failed one
ends the stage with `False`.
mirrors metaguildnet/installer/bootstrap.py:131-146 -/
def deployScripts : List (String × String) → Inst Bool
  | [] => pure true
  | (scriptName, description) :: rest =>
    if !pathExists (scriptPath root scriptName) then do
      print ("[yellow]Script not found: " ++ scriptName ++ "[/yellow]")
      deployScripts rest
    else do
      let deployed ← tryCatch (do
          let _ ← runCommand ["bash", scriptPath root scriptName] true
          print ("  ✓ " ++ description)
          pure true)
        (fun e => match e with
          | .runtimeError msg => do
            print ("[red]Failed: " ++ description ++ " - " ++ msg ++ "[/red]")
            pure false
          | e => throw e)
      if deployed then deployScripts rest else pure false

/-- `deploy_cluster()`.
mirrors metaguildnet/installer/bootstrap.py:110-149 -/
def deployCluster : Inst Bool := do
  print "\n[bold cyan]Deploying GuildNet[/bold cyan]"
  if !pathExists (scriptDir root) then
    print "[red]GuildNet scripts directory not found[/red]"
    pure false
  else if ← deployScripts root pathExists deploySteps then
    print "[green]✓ GuildNet deployment complete[/green]"
    pure true
  else pure false

/-- The loop of `verify_installation`: every check runs; the result is whether
all passed.
mirrors metaguildnet/installer/bootstrap.py:175-189 -/
def runChecks : List (String × List String) → Inst Bool
  | [] => pure true
  | (name, cmd) :: rest => do
    let passed ← tryCatch (do
        let result ← runCommand cmd false
        if result.1 = 0 then
          print ("  ✓ " ++ name)
          pure true
        else
          print ("  ✗ " ++ name)
          pure false)
      (fun e => do
        print ("  ✗ " ++ name ++ ": " ++ e.str)
        pure false)
    let allPassed ← runChecks rest
    pure (passed && allPassed)

/-- The checks of `verify_installation` and its verdict.
mirrors metaguildnet/installer/bootstrap.py:168-201 -/
def verifyChecks : Inst Bool := do
  if ← runChecks checks then
    printLines verifiedLines
    pure true
  else
    printLines uncheckedLines
    pure false

/-- `verify_installation()`. The directory it looks for decides only a
message: the checks are the same either way.
mirrors metaguildnet/installer/bootstrap.py:152-201 -/
def verifyInstallation : Inst Bool := do
  print "\n[bold cyan]Verifying Installation[/bold cyan]"
  if !pathExists (root ++ "/metaguildnet/scripts/verify") then
    print "[yellow]Verification scripts not found, using basic checks[/yellow]"
  verifyChecks

/-- The stages of `full_install`, by name.
mirrors metaguildnet/installer/bootstrap.py:209-214 -/
def stages : List (String × Inst Bool) :=
  [("Dependencies", installDependencies), ("Headscale", setupHeadscale root pathExists),
    ("Cluster", deployCluster root pathExists), ("Verification", verifyInstallation root pathExists)]

/-- The loop of `full_install`: the first stage that returns `False` ends it.
mirrors metaguildnet/installer/bootstrap.py:216-219 -/
def runStages : List (String × Inst Bool) → Inst Bool
  | [] => pure true
  | (name, func) :: rest => do
    if ← func then runStages rest
    else
      print ("\n[red]✗ Installation failed at: " ++ name ++ "[/red]")
      pure false

/-- `full_install()`.
mirrors metaguildnet/installer/bootstrap.py:204-222 -/
def fullInstall : Inst Bool := do
  print "[bold green]MetaGuildNet Installation[/bold green]"
  print "This will install and configure GuildNet on this machine.\n"
  if ← runStages (stages root pathExists) then
    print "\n[bold green]✓ Installation complete![/bold green]"
    pure true
  else pure false

/-! ## The commands of an installation -/

def prerequisiteCommands : List Command := prerequisites.map fun p => command p.2

def headscaleCommand : Command := command ["bash", scriptPath root "headscale-bootstrap.sh"]

def deployCommands : List Command := deploySteps.map fun st => command ["bash", scriptPath root st.1]

def checkCommands : List Command := checks.map fun c => command c.2

end

/-! ## When every process succeeds -/

/-- Every process the shell runs from `s` on exits with 0. -/
def AllSucceed (s : Shell) : Prop := ∀ j, s.ran.length ≤ j → (s.outcomes j).succeeded

/-- `s'` is `s` with more processes run. -/
def Advances (s s' : Shell) : Prop := s'.outcomes = s.outcomes ∧ s.ran.length ≤ s'.ran.length

theorem Advances.refl (s : Shell) : Advances s s := ⟨rfl, le_refl _⟩

theorem Advances.trans {s₁ s₂ s₃ : Shell} (h₁ : Advances s₁ s₂) (h₂ : Advances s₂ s₃) : Advances s₁ s₃ :=
  ⟨h₂.1.trans h₁.1, h₁.2.trans h₂.2⟩

theorem AllSucceed.advance {s s' : Shell} (hs : AllSucceed s) (h : Advances s s') : AllSucceed s' :=
  fun j hj => h.1 ▸ hs j (h.2.trans hj)

/-- From every shell whose processes all exit with 0, `x` returns a value that
satisfies `P`, having only run more processes. -/
def Succeeds {α : Type} (x : Inst α) (P : α → Prop) : Prop :=
  ∀ s, AllSucceed s → ∃ a s', x.run s = (.ok (.ok a), s') ∧ P a ∧ Advances s s'

namespace Succeeds

variable {α β : Type} {P Q : α → Prop}

theorem pure (a : α) : Succeeds (Pure.pure a : Inst α) (· = a) := fun s _ => ⟨a, s, rfl, rfl, Advances.refl s⟩

theorem print (line : String) : Succeeds (Installer.print line) fun _ => True :=
  fun s _ => ⟨(), _, print_run line s, trivial, rfl, le_refl _⟩

theorem printLines (lines : List String) : Succeeds (Installer.printLines lines) fun _ => True :=
  fun s _ => ⟨(), _, printLines_run lines s, trivial, rfl, le_refl _⟩

theorem consequence {x : Inst α} (hx : Succeeds x P) (h : ∀ a, P a → Q a) : Succeeds x Q := fun s hs => by
  obtain ⟨a, s', hr, hp, ha⟩ := hx s hs
  exact ⟨a, s', hr, h a hp, ha⟩

theorem bind {x : Inst α} {f : α → Inst β} {R : β → Prop} (hx : Succeeds x P)
    (hf : ∀ a, P a → Succeeds (f a) R) : Succeeds (x >>= f) R := fun s hs => by
  obtain ⟨a, s₁, h₁, hp, a₁⟩ := hx s hs
  obtain ⟨b, s₂, h₂, hr, a₂⟩ := hf a hp s₁ (hs.advance a₁)
  exact ⟨b, s₂, by rw [Inst.run_bind_ok h₁, h₂], hr, a₁.trans a₂⟩

theorem tryCatch {x : Inst α} {h : Raised → Inst α} (hx : Succeeds x P) :
    Succeeds (MonadExcept.tryCatch x h) P := fun s hs => by
  obtain ⟨a, s', hr, hp, ha⟩ := hx s hs
  exact ⟨a, s', by rw [Inst.run_tryCatch, hr], hp, ha⟩

end Succeeds

theorem subprocessRun_succeeds (cmd : List String) : Succeeds (subprocessRun cmd) fun r => r.1 = 0 :=
  fun s hs => by
    have h := hs s.ran.length (le_refl _)
    cases ho : s.outcomes s.ran.length with
    | completed returncode stdout stderr =>
      rw [ho] at h
      exact ⟨_, { s with ran := s.ran ++ [command cmd] }, by rw [subprocessRun_run, ho]; rfl,
        by simpa [Outcome.succeeded] using h, rfl, by simp⟩
    | timeoutExpired => rw [ho] at h; cases h
    | raised msg => rw [ho] at h; cases h

theorem runCommand_succeeds (cmd : List String) (check : Bool) :
    Succeeds (runCommand cmd check) fun r => r.1 = 0 :=
  (Succeeds.print _).bind fun _ _ => (subprocessRun_succeeds cmd).bind fun r h0 => by
    simp only [h0, ne_eq, not_true_eq_false, decide_False, Bool.and_false, Bool.false_eq_true, if_false]
    exact (Succeeds.pure r).consequence fun a ha => ha ▸ h0

theorem checkPrerequisite_succeeds (name : String) (cmd : List String) :
    Succeeds (checkPrerequisite name cmd) (· = true) :=
  Succeeds.tryCatch <| (subprocessRun_succeeds cmd).bind fun r h0 =>
    (Succeeds.pure _).consequence fun a ha => by simp [ha, h0]

theorem checkPrerequisites_succeed : ∀ ps : List (String × List String),
    Succeeds (checkPrerequisites ps) (· = [])
  | [] => Succeeds.pure []
  | (name, cmd) :: rest =>
    (checkPrerequisite_succeeds name cmd).bind fun found hf => (Succeeds.print _).bind fun _ _ =>
      (checkPrerequisites_succeed rest).bind fun missing hm =>
        (Succeeds.pure _).consequence fun a ha => by simp [ha, hf, hm]

theorem installDependencies_succeeds : Succeeds installDependencies (· = true) :=
  (Succeeds.print _).bind fun _ _ => (checkPrerequisites_succeed prerequisites).bind fun missing hm => by
    subst hm
    exact (Succeeds.print _).bind fun _ _ => Succeeds.pure true

theorem runChecks_succeed : ∀ cs : List (String × List String), Succeeds (runChecks cs) (· = true)
  | [] => Succeeds.pure true
  | (name, cmd) :: rest =>
    (Succeeds.tryCatch <| (runCommand_succeeds cmd false).bind fun r h0 => by
      simp only [h0, if_true]
      exact (Succeeds.print _).bind fun _ _ => Succeeds.pure true).bind fun passed hp =>
      (runChecks_succeed rest).bind fun allPassed ha =>
        (Succeeds.pure _).consequence fun a h => by simp [h, hp, ha]

theorem verifyChecks_succeeds : Succeeds verifyChecks (· = true) :=
  (runChecks_succeed checks).bind fun passed hp => by
    subst hp
    exact (Succeeds.printLines _).bind fun _ _ => Succeeds.pure true

section
variable (root : String) (pathExists : String → Bool)

theorem verifyInstallation_succeeds : Succeeds (verifyInstallation root pathExists) (· = true) :=
  (Succeeds.print _).bind fun _ _ => by
    dsimp only
    split
    · exact (Succeeds.print _).bind fun _ _ => verifyChecks_succeeds
    · exact (Succeeds.pure ()).bind fun _ _ => verifyChecks_succeeds

theorem setupHeadscale_succeeds (hd : pathExists (scriptDir root) = true)
    (hh : pathExists (scriptPath root "headscale-bootstrap.sh") = true) :
    Succeeds (setupHeadscale root pathExists) (· = true) :=
  (Succeeds.print _).bind fun _ _ => by
    simp only [hd, hh, Bool.not_true, Bool.false_eq_true, if_false]
    exact Succeeds.tryCatch <| (Succeeds.print _).bind fun _ _ =>
      (runCommand_succeeds _ true).bind fun _ _ => (Succeeds.print _).bind fun _ _ => Succeeds.pure true

theorem deployScripts_succeed : ∀ steps : List (String × String),
    Succeeds (deployScripts root pathExists steps) (· = true)
  | [] => Succeeds.pure true
  | (scriptName, description) :: rest => by
    unfold deployScripts
    split
    · exact (Succeeds.print _).bind fun _ _ => deployScripts_succeed rest
    · refine (Succeeds.tryCatch <| (runCommand_succeeds _ true).bind fun _ _ =>
        (Succeeds.print _).bind fun _ _ => Succeeds.pure true).bind fun deployed hd => ?_
      subst hd
      exact deployScripts_succeed rest

theorem deployCluster_succeeds (hd : pathExists (scriptDir root) = true) :
    Succeeds (deployCluster root pathExists) (· = true) :=
  (Succeeds.print _).bind fun _ _ => by
    simp only [hd, Bool.not_true, Bool.false_eq_true, if_false]
    refine (deployScripts_succeed root pathExists deploySteps).bind fun b hb => ?_
    subst hb
    exact (Succeeds.print _).bind fun _ _ => Succeeds.pure true

theorem runStages_succeeds : ∀ stages : List (String × Inst Bool),
    (∀ st ∈ stages, Succeeds st.2 (· = true)) → Succeeds (runStages stages) (· = true)
  | [], _ => Succeeds.pure true
  | (_, func) :: rest, h => (h _ (List.mem_cons_self _ _)).bind fun b hb => by
    subst hb
    exact runStages_succeeds rest fun st hst => h st (List.mem_cons_of_mem _ hst)

/-- With the scripts directory and the Headscale script present and every
process exiting with 0, the installer succeeds, whichever deploy scripts exist. -/
theorem fullInstall_succeeds (hd : pathExists (scriptDir root) = true)
    (hh : pathExists (scriptPath root "headscale-bootstrap.sh") = true) :
    Succeeds (fullInstall root pathExists) (· = true) := by
  refine (Succeeds.print _).bind fun _ _ => (Succeeds.print _).bind fun _ _ =>
    (runStages_succeeds _ ?stages).bind fun b hb => ?finish
  case stages =>
    intro st hst
    simp only [stages, List.mem_cons, List.mem_singleton, List.not_mem_nil, or_false] at hst
    rcases hst with rfl | rfl | rfl | rfl
    exacts [installDependencies_succeeds, setupHeadscale_succeeds root pathExists hd hh,
      deployCluster_succeeds root pathExists hd, verifyInstallation_succeeds root pathExists]
  case finish =>
    subst hb
    exact (Succeeds.print _).bind fun _ _ => Succeeds.pure true

end

/-! ## What a successful installation ran -/

/-- From `s` to `s'` the shell ran `cmds`, and each of them exited with 0. -/
def Clean (s s' : Shell) (cmds : List Command) : Prop :=
  s'.outcomes = s.outcomes ∧ s'.ran = s.ran ++ cmds ∧
    ∀ j < cmds.length, (s.outcomes (s.ran.length + j)).succeeded

theorem Clean.rfl {s s' : Shell} (ho : s'.outcomes = s.outcomes) (hr : s'.ran = s.ran) : Clean s s' [] :=
  ⟨ho, by simp [hr], by simp⟩

theorem Clean.of_world {s s' : Shell} {w : World} {cmds : List Command}
    (h : Clean { s with world := w } s' cmds) : Clean s s' cmds := h

theorem Clean.trans {s₁ s₂ s₃ : Shell} {c₁ c₂ : List Command} (h₁ : Clean s₁ s₂ c₁) (h₂ : Clean s₂ s₃ c₂) :
    Clean s₁ s₃ (c₁ ++ c₂) := by
  obtain ⟨ho₁, hr₁, hs₁⟩ := h₁
  obtain ⟨ho₂, hr₂, hs₂⟩ := h₂
  refine ⟨ho₂.trans ho₁, by rw [hr₂, hr₁, List.append_assoc], fun j hj => ?_⟩
  rw [List.length_append] at hj
  by_cases hj₁ : j < c₁.length
  · exact hs₁ j hj₁
  · have h := hs₂ (j - c₁.length) (by omega)
    rw [ho₁, hr₁, List.length_append] at h
    rwa [show s₁.ran.length + c₁.length + (j - c₁.length) = s₁.ran.length + j by omega] at h

theorem outcomeResult_succeeded {o : Outcome} {r : Int × String × String} (h : outcomeResult o = .ok r)
    (h0 : r.1 = 0) : o.succeeded := by
  cases o with
  | completed returncode stdout stderr => cases h; simpa [Outcome.succeeded] using h0
  | timeoutExpired => cases h
  | raised msg => cases h

theorem runCommand_ok {cmd : List String} {check : Bool} {s s' : Shell} {r : Int × String × String}
    (h : (runCommand cmd check).run s = (.ok (.ok r), s')) :
    s'.outcomes = s.outcomes ∧ s'.ran = s.ran ++ [command cmd] ∧
      outcomeResult (s.outcomes s.ran.length) = .ok r ∧ (check = true → r.1 = 0) := by
  unfold runCommand at h
  rw [Inst.run_bind_ok (print_run _ _), Inst.run_bind, subprocessRun_run] at h
  simp only at h
  cases ho : outcomeResult (s.outcomes s.ran.length) with
  | error e => rw [ho] at h; cases h
  | ok r' =>
    rw [ho] at h
    dsimp only at h
    split at h
    · simp [Inst.run_bind] at h
    · next hc =>
      simp only [Inst.run_pure, Prod.mk.injEq, Except.ok.injEq] at h
      obtain ⟨rfl, rfl⟩ := h
      exact ⟨rfl, rfl, rfl, fun hc' => by simpa [hc'] using hc⟩

theorem runCommand_clean {cmd : List String} {s s' : Shell} {r : Int × String × String}
    (h : (runCommand cmd true).run s = (.ok (.ok r), s')) : Clean s s' [command cmd] := by
  obtain ⟨ho, hr, hres, h0⟩ := runCommand_ok h
  exact ⟨ho, hr, fun j hj => by
    obtain rfl : j = 0 := by simpa using hj
    exact outcomeResult_succeeded hres (h0 rfl)⟩

theorem checkPrerequisite_true {name : String} {cmd : List String} {s s' : Shell}
    (h : (checkPrerequisite name cmd).run s = (.ok (.ok true), s')) : Clean s s' [command cmd] := by
  unfold checkPrerequisite at h
  rw [Inst.run_tryCatch, Inst.run_bind, subprocessRun_run] at h
  cases ho : s.outcomes s.ran.length with
  | completed returncode stdout stderr =>
    simp only [ho, outcomeResult, Inst.run_pure, Prod.mk.injEq, Except.ok.injEq,
      decide_eq_true_eq] at h
    obtain ⟨h0, rfl⟩ := h
    exact ⟨rfl, rfl, fun j hj => by
      obtain rfl : j = 0 := by simpa using hj
      simp [ho, Outcome.succeeded, h0]⟩
  | timeoutExpired => simp [ho, outcomeResult, Raised.isFileNotFound] at h
  | raised msg =>
    simp only [ho, outcomeResult] at h
    split at h <;> simp at h

theorem checkPrerequisites_none : ∀ (ps : List (String × List String)) {s s' : Shell},
    (checkPrerequisites ps).run s = (.ok (.ok []), s') → Clean s s' (ps.map fun p => command p.2)
  | [], s, s', h => by
    simp only [checkPrerequisites, Inst.run_pure, Prod.mk.injEq] at h
    exact h.2 ▸ Clean.rfl rfl rfl
  | (name, cmd) :: rest, s, s', h => by
    obtain ⟨found, s₁, h₁, h⟩ := Inst.bind_eq_ok h
    rw [Inst.run_bind_ok (print_run _ _)] at h
    obtain ⟨missing, s₂, h₂, h⟩ := Inst.bind_eq_ok h
    cases found with
    | false => simp at h
    | true =>
      simp only [if_true, Inst.run_pure, Prod.mk.injEq, Except.ok.injEq] at h
      obtain ⟨rfl, rfl⟩ := h
      exact (checkPrerequisite_true h₁).trans (checkPrerequisites_none rest h₂).of_world

theorem installDependencies_true {s s' : Shell} (h : installDependencies.run s = (.ok (.ok true), s')) :
    Clean s s' prerequisiteCommands := by
  unfold installDependencies at h
  rw [Inst.run_bind_ok (print_run _ _)] at h
  obtain ⟨missing, s₁, h₁, h⟩ := Inst.bind_eq_ok h
  cases missing with
  | nil =>
    simp only [List.isEmpty_nil, if_true, Inst.run_bind_ok (print_run _ _), Inst.run_pure,
      Prod.mk.injEq] at h
    obtain ⟨-, rfl⟩ := h
    have hc := checkPrerequisites_none prerequisites h₁
    exact hc
  | cons m rest => simp [Inst.run_bind] at h

theorem runChecks_true : ∀ (cs : List (String × List String)) {s s' : Shell},
    (runChecks cs).run s = (.ok (.ok true), s') → Clean s s' (cs.map fun c => command c.2)
  | [], s, s', h => by
    simp only [runChecks, Inst.run_pure, Prod.mk.injEq] at h
    exact h.2 ▸ Clean.rfl rfl rfl
  | (name, cmd) :: rest, s, s', h => by
    obtain ⟨passed, s₁, h₁, h⟩ := Inst.bind_eq_ok h
    obtain ⟨allPassed, s₂, h₂, h⟩ := Inst.bind_eq_ok h
    simp only [Inst.run_pure, Prod.mk.injEq, Except.ok.injEq, Bool.and_eq_true] at h
    obtain ⟨⟨rfl, rfl⟩, rfl⟩ := h
    have hb := Inst.tryCatch_true (fun e t t' => by simp [Inst.run_bind]) h₁
    obtain ⟨r, s₃, h₃, hb⟩ := Inst.bind_eq_ok hb
    obtain ⟨ho, hr, hres, -⟩ := runCommand_ok h₃
    by_cases h0 : r.1 = 0
    · simp only [h0, if_true, Inst.run_bind_ok (print_run _ _), Inst.run_pure, Prod.mk.injEq] at hb
      obtain ⟨-, rfl⟩ := hb
      have hc : Clean s s₃ [command cmd] := ⟨ho, hr, fun j hj => by
        obtain rfl : j = 0 := by simpa using hj
        exact outcomeResult_succeeded hres h0⟩
      exact hc.trans (runChecks_true rest h₂).of_world
    · simp [h0, Inst.run_bind] at hb

section
variable (root : String) (pathExists : String → Bool)

theorem verifyChecks_true {s s' : Shell} (h : verifyChecks.run s = (.ok (.ok true), s')) :
    Clean s s' checkCommands := by
  obtain ⟨passed, s₁, h₁, h⟩ := Inst.bind_eq_ok h
  cases passed with
  | false => simp [Inst.run_bind] at h
  | true =>
    simp only [if_true, Inst.run_bind_ok (printLines_run _ _), Inst.run_pure, Prod.mk.injEq] at h
    obtain ⟨-, rfl⟩ := h
    have hc := runChecks_true checks h₁
    exact hc

theorem verifyInstallation_true {s s' : Shell}
    (h : (verifyInstallation root pathExists).run s = (.ok (.ok true), s')) : Clean s s' checkCommands := by
  unfold verifyInstallation at h
  rw [Inst.run_bind_ok (print_run _ _)] at h
  dsimp only at h
  split at h
  · rw [Inst.run_bind_ok (print_run _ _)] at h
    exact (verifyChecks_true h).of_world.of_world
  · rw [Inst.run_bind_ok (Inst.run_pure _ _)] at h
    exact (verifyChecks_true h).of_world

theorem setupHeadscale_true {s s' : Shell}
    (h : (setupHeadscale root pathExists).run s = (.ok (.ok true), s')) :
    Clean s s' [headscaleCommand root] := by
  unfold setupHeadscale at h
  rw [Inst.run_bind_ok (print_run _ _)] at h
  split at h
  · simp [Inst.run_bind] at h
  split at h
  · simp [Inst.run_bind] at h
  have hb := Inst.tryCatch_true (fun e t t' => by cases e <;> simp [Inst.run_bind]) h
  rw [Inst.run_bind_ok (print_run _ _)] at hb
  obtain ⟨r, s₁, h₁, hb⟩ := Inst.bind_eq_ok hb
  simp only [Inst.run_bind_ok (print_run _ _), Inst.run_pure, Prod.mk.injEq] at hb
  obtain ⟨-, rfl⟩ := hb
  have hc := runCommand_clean h₁
  exact hc

/-- The deploy loop that returned `true` ran some of its scripts, in order, and
each exited with 0. -/
theorem deployScripts_true : ∀ (steps : List (String × String)) {s s' : Shell},
    (deployScripts root pathExists steps).run s = (.ok (.ok true), s') →
      ∃ deployed, deployed.Sublist (steps.map fun st => command ["bash", scriptPath root st.1]) ∧
        Clean s s' deployed
  | [], s, s', h => by
    simp only [deployScripts, Inst.run_pure, Prod.mk.injEq] at h
    exact ⟨[], List.Sublist.slnil, h.2 ▸ Clean.rfl rfl rfl⟩
  | (scriptName, description) :: rest, s, s', h => by
    unfold deployScripts at h
    by_cases he : pathExists (scriptPath root scriptName)
    · simp only [he, Bool.not_true, Bool.false_eq_true, if_false] at h
      obtain ⟨deployed, s₁, h₁, h⟩ := Inst.bind_eq_ok h
      cases deployed with
      | false => simp at h
      | true =>
        simp only [if_true] at h
        have hb := Inst.tryCatch_true (fun e t t' => by cases e <;> simp [Inst.run_bind]) h₁
        obtain ⟨r, s₂, h₂, hb⟩ := Inst.bind_eq_ok hb
        simp only [Inst.run_bind_ok (print_run _ _), Inst.run_pure, Prod.mk.injEq] at hb
        obtain ⟨-, rfl⟩ := hb
        obtain ⟨d, hd, hc⟩ := deployScripts_true rest h
        exact ⟨_ :: d, hd.cons₂ _, (runCommand_clean h₂).trans hc.of_world⟩
    · simp only [he, Bool.not_false, if_true] at h
      rw [Inst.run_bind_ok (print_run _ _)] at h
      obtain ⟨d, hd, hc⟩ := deployScripts_true rest h
      exact ⟨d, hd.cons _, hc.of_world⟩

theorem deployCluster_true {s s' : Shell}
    (h : (deployCluster root pathExists).run s = (.ok (.ok true), s')) :
    ∃ deployed, deployed.Sublist (deployCommands root) ∧ Clean s s' deployed := by
  unfold deployCluster at h
  rw [Inst.run_bind_ok (print_run _ _)] at h
  split at h
  · simp [Inst.run_bind] at h
  obtain ⟨b, s₁, h₁, h⟩ := Inst.bind_eq_ok h
  cases b with
  | false => simp at h
  | true =>
    simp only [if_true, Inst.run_bind_ok (print_run _ _), Inst.run_pure, Prod.mk.injEq] at h
    obtain ⟨-, rfl⟩ := h
    obtain ⟨d, hd, hc⟩ := deployScripts_true root pathExists deploySteps h₁
    exact ⟨d, hd, hc.of_world⟩

theorem runStages_cons_true {name : String} {func : Inst Bool} {rest : List (String × Inst Bool)}
    {s s' : Shell} (h : (runStages ((name, func) :: rest)).run s = (.ok (.ok true), s')) :
    ∃ s₁, func.run s = (.ok (.ok true), s₁) ∧ (runStages rest).run s₁ = (.ok (.ok true), s') := by
  obtain ⟨b, s₁, h₁, h⟩ := Inst.bind_eq_ok h
  cases b with
  | false => simp [Inst.run_bind] at h
  | true => exact ⟨s₁, h₁, h⟩

/-- When the installer succeeds, it ran the three prerequisite checks, the
Headscale bootstrap, some of the deploy scripts in their order and the three
cluster checks, and every one of them exited with 0. -/
theorem fullInstall_true {s s' : Shell} (h : (fullInstall root pathExists).run s = (.ok (.ok true), s')) :
    ∃ deployed, deployed.Sublist (deployCommands root) ∧
      Clean s s' (prerequisiteCommands ++ headscaleCommand root :: deployed ++ checkCommands) := by
  unfold fullInstall at h
  rw [Inst.run_bind_ok (print_run _ _), Inst.run_bind_ok (print_run _ _)] at h
  obtain ⟨b, s₁, h₁, h⟩ := Inst.bind_eq_ok h
  cases b with
  | false => simp at h
  | true =>
    simp only [if_true, Inst.run_bind_ok (print_run _ _), Inst.run_pure, Prod.mk.injEq] at h
    obtain ⟨-, rfl⟩ := h
    obtain ⟨s₂, hd, h₁⟩ := runStages_cons_true h₁
    obtain ⟨s₃, hh, h₁⟩ := runStages_cons_true h₁
    obtain ⟨s₄, hc, h₁⟩ := runStages_cons_true h₁
    obtain ⟨s₅, hv, h₁⟩ := runStages_cons_true h₁
    simp only [runStages, Inst.run_pure, Prod.mk.injEq] at h₁
    obtain ⟨-, rfl⟩ := h₁
    obtain ⟨deployed, hsub, hclean⟩ := deployCluster_true root pathExists hc
    have h₀ := installDependencies_true hd
    have hall := ((h₀.of_world.trans (setupHeadscale_true root pathExists hh)).trans hclean).trans
      (verifyInstallation_true root pathExists hv)
    exact ⟨deployed, hsub, by simpa [List.append_assoc] using hall⟩

end

/-- A checkout at `/srv/GuildNet` that has every script but the deploy scripts. -/
def withoutDeployScripts (path : String) : Bool :=
  !deploySteps.any fun st => path = scriptPath "/srv/GuildNet" st.1

/-- A machine where every process exits with 0 and the deploy scripts are
missing: the installation succeeds. -/
theorem fullInstall_true_without_deploy :
    ∃ s', (fullInstall "/srv/GuildNet" withoutDeployScripts).run
        ⟨World.start, fun _ => .completed 0 "" "", []⟩ = (.ok (.ok true), s') ∧
      ∃ deployed, deployed.Sublist (deployCommands "/srv/GuildNet") ∧
        Clean ⟨World.start, fun _ => .completed 0 "" "", []⟩ s'
          (prerequisiteCommands ++ headscaleCommand "/srv/GuildNet" :: deployed ++ checkCommands) := by
  obtain ⟨b, s', h, hb, -⟩ := fullInstall_succeeds "/srv/GuildNet" withoutDeployScripts (by decide) (by decide)
    ⟨World.start, fun _ => .completed 0 "" "", []⟩ fun _ _ => rfl
  subst hb
  exact ⟨s', h, fullInstall_true "/srv/GuildNet" withoutDeployScripts h⟩

section
variable (root : String) (pathExists : String → Bool)

/-! ## A deployment with no scripts -/

theorem deployScripts_missing : ∀ (steps : List (String × String)) (s : Shell),
    (∀ st ∈ steps, pathExists (scriptPath root st.1) = false) →
      (deployScripts root pathExists steps).run s = (.ok (.ok true), { s with world := { s.world with
        out := s.world.out ++ steps.map fun st => "[yellow]Script not found: " ++ st.1 ++ "[/yellow]" } })
  | [], s, _ => by simp [deployScripts]
  | (scriptName, description) :: rest, s, hn => by
    have he : pathExists (scriptPath root scriptName) = false := hn _ (List.mem_cons_self _ _)
    unfold deployScripts
    simp only [he, Bool.not_false, if_true]
    rw [Inst.run_bind_ok (print_run _ _),
      deployScripts_missing rest _ fun st hst => hn st (List.mem_cons_of_mem _ hst)]
    simp

/-- When the scripts directory holds none of the deploy scripts,
`deploy_cluster` runs nothing, reports each script as not found and then the
deployment as complete, and returns `True`. -/
theorem deployCluster_vacuous (s : Shell) (hd : pathExists (scriptDir root) = true)
    (hn : ∀ st ∈ deploySteps, pathExists (scriptPath root st.1) = false) :
    (deployCluster root pathExists).run s = (.ok (.ok true), { s with world := { s.world with
      out := s.world.out ++ "\n[bold cyan]Deploying GuildNet[/bold cyan]" ::
        (deploySteps.map fun st => "[yellow]Script not found: " ++ st.1 ++ "[/yellow]") ++
          ["[green]✓ GuildNet deployment complete[/green]"] } }) := by
  unfold deployCluster
  rw [Inst.run_bind_ok (print_run _ _)]
  simp only [hd, Bool.not_true, Bool.false_eq_true, if_false]
  rw [Inst.run_bind_ok (deployScripts_missing root pathExists deploySteps _ hn)]
  simp [Inst.run_bind]

end

end MetaGuildNet.L5.Installer
