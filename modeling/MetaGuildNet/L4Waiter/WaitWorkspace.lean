import MetaGuildNet.L3Resource.Api
import MetaGuildNet.L4Waiter.Poll

/-!
# `mgn workspace wait`

`waitWorkspace` (metaguildnet/cli/workspace.py:111-145) polls
`client.workspaces(clusterId).get(name)` at most 60 times, 5 s apart, and
stops on status `"Running"` (return) or `"Failed"` (abort). The `try` wraps
the whole loop, so any exception of a poll, a transport error included, ends
the command through the `except Exception` handler. `--timeout` is accepted
and never read.

Results:
* `waitPolls_run`, `waitWorkspace_run`: the command is `pollLoop wsVerdict` with
  a budget of 60 over the replies of the world; what it sends, prints and
  sleeps is a function of that wait.
* `waitWorkspace_returns_iff`: for a name free of markup tags, it returns normally
  exactly when some poll within the 60 reports `"Running"` and every earlier
  poll returned a workspace whose status is neither `"Running"` nor
  `"Failed"`; what a wait that returns prints renders as `rich` markup.
* `waitWorkspace_transport_aborts`: a transport error on a poll ends the
  command with `click.Abort` and no later poll.
* `waitWorkspace_timeout_fixed`: whatever `--timeout` says, a wait that sees no
  terminal status makes exactly 60 polls and sleeps 300 s.
* `waitWorkspace_markup_name`: a name that opens with a closing tag such as
  `[/x]` makes `rich` raise `MarkupError` on the first line, and again on the
  handler's `Error:` line, so the command ends with that exception.
-/
namespace MetaGuildNet.L4

open MetaGuildNet.L1 MetaGuildNet.L2 MetaGuildNet.L3

section
variable (decode : Decoder) (c : Client) (clusterId name : String)

/-- The `for _ in range(60)` loop with `k` passes left, and the timeout report
after it.
mirrors metaguildnet/cli/workspace.py:126-141 -/
def waitPolls : Nat → Prog Unit
  | 0 => do
    Prog.print "[red]✗[/red] Timeout waiting for workspace"
    throw .abort
  | k + 1 => do
    let ws ← WorkspaceAPI.get decode c clusterId name
    let status ← Prog.lift (ws.get "status" (.str ""))
    if status.eqStr "Running" then
      Prog.print "[green]✓[/green] Workspace is ready"
    else if status.eqStr "Failed" then do
      Prog.print "[red]✗[/red] Workspace failed"
      throw .abort
    else do
      Prog.sleep 5
      waitPolls k

/-- `mgn workspace wait CLUSTER_ID NAME --timeout T`.
mirrors metaguildnet/cli/workspace.py:111-145 -/
def waitWorkspace (timeout : String) : Prog Unit :=
  tryCatch
    (do
      Prog.print ("Waiting for " ++ name ++ " to be ready...")
      waitPolls decode c clusterId name 60)
    (fun e => do
      Prog.print ("[red]Error:[/red] " ++ e.str)
      throw .abort)

/-- The outcome of the `j`-th poll of a run that starts in `w`. -/
def polls (w : World) (j : Nat) : Except PyExc PyVal :=
  (Op.workspaceGet clusterId name).outcome decode (w.replies (w.sent.length + j))

def pollRequest : Request :=
  c.mkRequest .GET ("/api/cluster/" ++ clusterId ++ "/workspaces/" ++ name) none

end

/-- How one outcome of `get(name)` steers `waitWorkspace`: an exception, or a
value without `.get`, ends the wait; `"Running"` and `"Failed"` are terminal. -/
def wsVerdict (o : Except PyExc PyVal) : Verdict :=
  match o.bind (·.get "status" (.str "")) with
  | .error e => .fatal e
  | .ok status =>
    if status.eqStr "Running" then .ready else if status.eqStr "Failed" then .failed else .again

def loopEnd : Ending → Except PyExc Unit × List String
  | .ready => (.ok (), ["[green]✓[/green] Workspace is ready"])
  | .failed => (.error .abort, ["[red]✗[/red] Workspace failed"])
  | .timedOut => (.error .abort, ["[red]✗[/red] Timeout waiting for workspace"])
  | .fatal e => (.error e, [])

/-- What the command returns and prints after its first line: the handler turns
every exception into `click.Abort` after printing it. -/
def cmdEnd (r : Wait) : Except PyExc Unit × List String :=
  match loopEnd r.ending with
  | (.ok (), lines) => (.ok (), lines)
  | (.error e, lines) => (.error .abort, lines ++ ["[red]Error:[/red] " ++ e.str])

/-- The world after a wait `r` of polls sending `req`, starting from `w`. -/
def afterWait (w : World) (req : Request) (r : Wait) (lines : List String) : World :=
  { w with sent := w.sent ++ List.replicate r.polls req, out := w.out ++ lines,
           clock := w.clock + 5 * r.sleeps }

section
variable (decode : Decoder) (c : Client) (clusterId name : String)

theorem workspaceGet_run (w : World) :
    WorkspaceAPI.get decode c clusterId name w =
      (polls decode clusterId name w 0, { w with sent := w.sent ++ [pollRequest c clusterId name] }) :=
  Op.run_outcome decode c (.workspaceGet clusterId name) w

theorem polls_next (w : World) (req : Request) (t : Nat) :
    polls decode clusterId name { w with sent := w.sent ++ [req], clock := t } =
      fun j => polls decode clusterId name w (j + 1) := by
  funext j; simp only [polls, List.length_append, List.length_singleton]; congr 2; omega

@[simp] theorem polls_out (w : World) (o : List String) :
    polls decode clusterId name { w with out := o } = polls decode clusterId name w := rfl

theorem waitPolls_succ (k : Nat) (w : World) :
    waitPolls decode c clusterId name (k + 1) w =
      let w1 := { w with sent := w.sent ++ [pollRequest c clusterId name] }
      match wsVerdict (polls decode clusterId name w 0) with
      | .again => waitPolls decode c clusterId name k { w1 with clock := w1.clock + 5 }
      | v => ((loopEnd v.ending).1, { w1 with out := w1.out ++ (loopEnd v.ending).2 }) := by
  simp only [waitPolls, Prog.bind_run, workspaceGet_run, wsVerdict]
  cases polls decode clusterId name w 0 with
  | error e => simp [Except.bind, loopEnd, Verdict.ending]
  | ok ws =>
    simp only [Except.bind, Prog.lift_run]
    cases ws.get "status" (.str "") with
    | error e => simp [loopEnd, Verdict.ending]
    | ok st => dsimp only; split_ifs <;> simp [loopEnd, Verdict.ending, Prog.bind_run]

theorem waitPolls_run (k : Nat) : ∀ w : World,
    waitPolls decode c clusterId name k w =
      let r := pollLoop wsVerdict k (polls decode clusterId name w)
      ((loopEnd r.ending).1, afterWait w (pollRequest c clusterId name) r (loopEnd r.ending).2) := by
  induction k with
  | zero => intro w; simp [waitPolls, pollLoop, loopEnd, afterWait, Prog.bind_run]
  | succ k ih =>
    intro w
    rw [waitPolls_succ]
    by_cases hv : wsVerdict (polls decode clusterId name w 0) = .again
    · rw [hv, pollLoop_again _ hv]
      dsimp only
      rw [ih, polls_next]
      simp only [afterWait, Wait.later, List.replicate_succ, List.singleton_append,
        List.append_assoc, Prod.mk.injEq, World.mk.injEq, true_and]
      omega
    · rw [pollLoop_stop _ hv]
      revert hv
      cases wsVerdict (polls decode clusterId name w 0) <;> intro hv <;>
        first | exact absurd rfl hv | rfl

theorem waitWorkspace_run (timeout : String) (w : World) :
    waitWorkspace decode c clusterId name timeout w =
      let r := pollLoop wsVerdict 60 (polls decode clusterId name w)
      ((cmdEnd r).1, afterWait w (pollRequest c clusterId name) r
        (("Waiting for " ++ name ++ " to be ready...") :: (cmdEnd r).2)) := by
  simp only [waitWorkspace, Prog.tryCatch_run, Prog.bind_run, Prog.print_run]
  rw [waitPolls_run, polls_out]
  generalize pollLoop wsVerdict 60 (polls decode clusterId name w) = r
  rcases r with ⟨_ | _ | _ | e, _, _⟩ <;> simp [loopEnd, cmdEnd, afterWait, Prog.bind_run]

theorem wsVerdict_error (e : PyExc) : wsVerdict (.error e) = .fatal e := rfl

theorem wsVerdict_ready_iff {o : Except PyExc PyVal} :
    wsVerdict o = .ready ↔
      ∃ kvs, o = .ok (.dict kvs) ∧ (kvs.lookup "status").getD (.str "") = .str "Running" := by
  unfold wsVerdict
  rcases o with e | ws
  · simp [Except.bind]
  · simp only [Except.bind]
    cases h : ws.get "status" (.str "") with
    | error e => simp [PyVal.get_error_iff.mp h |>.1]
    | ok st =>
      obtain ⟨kvs, rfl, rfl⟩ := PyVal.get_ok_iff.mp h
      dsimp only
      split_ifs with h1 h2 <;> simp_all [PyVal.eqStr_iff]

/-- For a workspace name free of markup tags, `workspace wait` returns normally exactly
when some poll within the 60 returns an object whose status is `"Running"`,
every earlier poll having read another status than `"Running"` or `"Failed"`;
and a wait that returns prints only lines `rich` renders. -/
theorem waitWorkspace_returns_iff (timeout : String) (w : World) (hn : Markup.Free name) :
    ((waitWorkspace decode c clusterId name timeout w).1 = .ok () ↔
      ∃ j < 60, (∀ i < j, wsVerdict (polls decode clusterId name w i) = .again) ∧
        ∃ kvs, polls decode clusterId name w j = .ok (.dict kvs) ∧
          (kvs.lookup "status").getD (.str "") = .str "Running") ∧
    ((waitWorkspace decode c clusterId name timeout w).1 = .ok () →
      w.PrintsRender (waitWorkspace decode c clusterId name timeout w).2) := by
  simp only [← wsVerdict_ready_iff]
  rw [waitWorkspace_run, ← pollLoop_ending_iff wsVerdict 60 _ .ready (by decide)]
  generalize pollLoop wsVerdict 60 (polls decode clusterId name w) = r
  rcases r with ⟨_ | _ | _ | e, _, _⟩ <;> simp only [cmdEnd, loopEnd, Verdict.ending] <;>
    simp only [reduceCtorEq, false_iff, false_implies, and_true, iff_true, true_implies, true_and]
  intro st line hl
  simp only [afterWait, List.drop_left, List.mem_cons, List.mem_singleton, List.not_mem_nil,
    or_false] at hl
  rcases hl with rfl | rfl
  · exact Markup.renders_free st (Markup.free_append (Markup.free_append (by decide) hn) (by decide))
  · exact renders_done st (by decide)

theorem waitWorkspace_first_terminal (timeout : String) (w : World) (j : Nat) (hj : j < 60)
    (hpre : ∀ i < j, wsVerdict (polls decode clusterId name w i) = .again)
    (ht : wsVerdict (polls decode clusterId name w j) ≠ .again) :
    waitWorkspace decode c clusterId name timeout w =
      let r : Wait := ⟨(wsVerdict (polls decode clusterId name w j)).ending, j + 1, j⟩
      ((cmdEnd r).1, afterWait w (pollRequest c clusterId name) r
        (("Waiting for " ++ name ++ " to be ready...") :: (cmdEnd r).2)) := by
  rw [waitWorkspace_run, pollLoop_first wsVerdict j 60 _ hj hpre ht]

/-- A transport error on a poll ends the command: it aborts after that poll,
prints the error, and polls no more. -/
theorem waitWorkspace_transport_aborts (timeout : String) (w : World) (j : Nat)
    (kind : TransportKind) (msg : String) (hj : j < 60)
    (hpre : ∀ i < j, wsVerdict (polls decode clusterId name w i) = .again)
    (ht : w.replies (w.sent.length + j) = .transport kind msg) :
    waitWorkspace decode c clusterId name timeout w =
      (.error .abort, afterWait w (pollRequest c clusterId name)
        ⟨.fatal (.transport kind msg), j + 1, j⟩
        ["Waiting for " ++ name ++ " to be ready...", "[red]Error:[/red] " ++ msg]) := by
  have hv : wsVerdict (polls decode clusterId name w j) = .fatal (.transport kind msg) := by
    simp [polls, ht, Op.outcome, respond, wsVerdict_error, Except.bind]
  rw [waitWorkspace_first_terminal decode c clusterId name timeout w j hj hpre (by simp [hv]), hv]
  rfl

/-- Whatever `--timeout` says, a wait that never sees a terminal status makes 60
polls and sleeps 60 times 5 s before it reports the timeout. -/
theorem waitWorkspace_timeout_fixed (timeout : String) (w : World)
    (h : ∀ i < 60, wsVerdict (polls decode clusterId name w i) = .again) :
    waitWorkspace decode c clusterId name timeout w =
      (.error .abort, afterWait w (pollRequest c clusterId name) ⟨.timedOut, 60, 60⟩
        ["Waiting for " ++ name ++ " to be ready...",
          "[red]✗[/red] Timeout waiting for workspace", "[red]Error:[/red] "]) := by
  rw [waitWorkspace_run, pollLoop_timeout wsVerdict 60 _ h]
  rfl

end

/-- A fresh run whose replies all report `"Running"`. -/
def runningAtOnce : World := ⟨fun _ => .http 200 (statusBody "Running"), [], [], 0⟩

/-- A fresh run whose first reply is a refused connection and whose later
replies report `"Running"`. -/
def refusedThenRunning : World :=
  ⟨fun i => if i = 0 then .transport .refused "[Errno 111] Connection refused"
    else .http 200 (statusBody "Running"), [], [], 0⟩

theorem waitWorkspace_refused_then_running :
    waitWorkspace statusDecoder ⟨"https://localhost:8090", ""⟩ "c1" "ws1" "5m" refusedThenRunning =
      (.error .abort, ⟨refusedThenRunning.replies,
        [⟨.GET, "/api/cluster/c1/workspaces/ws1", none, none⟩],
        ["Waiting for ws1 to be ready...", "[red]Error:[/red] [Errno 111] Connection refused"], 0⟩) :=
  waitWorkspace_transport_aborts statusDecoder _ "c1" "ws1" "5m" refusedThenRunning 0 .refused
    "[Errno 111] Connection refused" (by decide) (fun _ h => absurd h (Nat.not_lt_zero _)) rfl

/-- A fresh run in which every reply reports `"Pending"`. -/
def alwaysPending : World := ⟨fun _ => .http 200 (statusBody "Pending"), [], [], 0⟩

theorem waitWorkspace_ten_seconds :
    (waitWorkspace statusDecoder ⟨"https://localhost:8090", ""⟩ "c1" "ws1" "10s"
      alwaysPending).2.clock = 300 := by
  rw [waitWorkspace_timeout_fixed statusDecoder _ "c1" "ws1" "10s" alwaysPending
    (fun _ _ => rfl)]
  rfl

/-- `mgn workspace wait c1 ws1` returns at the first poll, and what it printed
renders. -/
theorem waitWorkspace_running_at_once :
    (waitWorkspace statusDecoder ⟨"https://localhost:8090", ""⟩ "c1" "ws1" "5m" runningAtOnce).1 = .ok () ∧
      runningAtOnce.PrintsRender
        (waitWorkspace statusDecoder ⟨"https://localhost:8090", ""⟩ "c1" "ws1" "5m" runningAtOnce).2 := by
  have h := waitWorkspace_returns_iff statusDecoder ⟨"https://localhost:8090", ""⟩ "c1" "ws1" "5m"
    runningAtOnce (by decide)
  have hok := h.1.mpr ⟨0, by decide, fun _ hi => absurd hi (Nat.not_lt_zero _), _, rfl, rfl⟩
  exact ⟨hok, h.2 hok⟩

end MetaGuildNet.L4
