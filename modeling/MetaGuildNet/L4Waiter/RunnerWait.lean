import MetaGuildNet.L3Resource.Api
import MetaGuildNet.L4Waiter.Poll

/-!
# The runner's `_wait_for_workspace_ready`

`MetaGuildNetRunner._wait_for_workspace_ready` (MetaGuildNet/run.py:542-580)
polls `GET /api/servers/{id}` with `requests` while `waited < 120`, sleeping
5 s after each poll, so at `waited = 0, 5, ..., 115`. A 200 reply whose JSON
status is `"Running"` shows the workspace's details and returns `True`. A
request exception, a non-200 reply and every other status are logged and
polled again; `"Failed"` is one of those other statuses. After 24 polls the
function logs the timeout and returns `False`.

Results:
* `waitLoop_run`, `waitForWorkspaceReady_run`: the function is `pollLoop
  runnerVerdict` with a budget of 24; its result, requests and sleeps are
  those of that wait.
* `runnerVerdict_ne_failed`: no reply makes the runner stop as failed, so a
  `"Failed"` workspace is polled again until it reports `"Running"` or the
  budget ends (`waitForWorkspaceReady_failed_then_running`).
-/
namespace MetaGuildNet.L4

open MetaGuildNet.L1 MetaGuildNet.L2 MetaGuildNet.L3

/-- The Host App as `run.py` addresses it: `https://127.0.0.1:8080`, no token. -/
def hostApp : Client := ⟨"https://127.0.0.1:8080", ""⟩

/-- `requests.get(url, verify=False, timeout=10)`: status code and body text; a
transport failure raises. -/
def requestsGet (path : String) : Prog (Nat × String) := fun w =>
  (match w.replies w.sent.length with
    | .transport kind msg => .error (.transport kind msg)
    | .http status text => .ok (status, text),
    { w with sent := w.sent ++ [hostApp.mkRequest .GET path none] })

/-- What `except requests.exceptions.RequestException` catches: transport
failures and the `JSONDecodeError` of `response.json()` (a `RequestException`
subclass in `requests`). -/
def isRequestException : PyExc → Bool
  | .transport _ _ | .decodeError _ => true
  | _ => false

/-- The environment block of `_show_workspace_details`.
mirrors MetaGuildNet/run.py:593-600 -/
def showEnv (env : PyVal) : Prog Unit :=
  if env.truthy then do
    Prog.print "  🔧 Environment:"
    let vars ← Prog.lift env.iter
    Prog.forEach vars fun envVar => do
      let name ← Prog.lift (envVar.get "name" (.str "Unknown"))
      let value ← Prog.lift (envVar.get "value" (.str "***"))
      Prog.print ("    🔹 " ++ name.toStr ++ "=" ++ value.toStr)
  else pure ()

/-- The ports block of `_show_workspace_details`.
mirrors MetaGuildNet/run.py:602-607 -/
def showPorts (ports : PyVal) : Prog Unit :=
  if ports.truthy then do
    Prog.print "  🔌 Ports:"
    let ps ← Prog.lift ports.iter
    Prog.forEach ps fun port => do
      let number ← Prog.lift (port.get "port" (.str "N/A"))
      let protocol ← Prog.lift (port.get "protocol" (.str "tcp"))
      Prog.print ("    🔹 " ++ number.toStr ++ " (" ++ protocol.toStr ++ ")")
  else pure ()

/-- The access block of `_show_workspace_details`.
mirrors MetaGuildNet/run.py:609-617 -/
def showAccess (workspaceId password user : PyVal) : Prog Unit :=
  if workspaceId.truthy then do
    Prog.print "  🌐 Access:"
    Prog.print ("    🔗 URL: https://127.0.0.1:8080/proxy/server/" ++ workspaceId.toStr ++ "/")
    (if password.truthy then Prog.print ("    🔑 Password: " ++ password.toStr) else pure ())
    (if user.truthy then Prog.print ("    👤 User: " ++ user.toStr) else pure ())
  else pure ()

/-- mirrors MetaGuildNet/run.py:582-623 (`_show_workspace_details`) -/
def showWorkspaceDetails (workspaceData : PyVal) (workspaceName : String) (password user : PyVal) :
    Prog Unit := do
  let status ← Prog.lift (workspaceData.get "status" (.str "Unknown"))
  let statusIcon :=
    if status.eqStr "Running" then "🟢" else if status.eqStr "Pending" then "🟡" else "🔴"
  Prog.print ("Workspace Details for " ++ workspaceName ++ ":")
  Prog.print ("  " ++ statusIcon ++ " Status: " ++ status.toStr)
  let id ← Prog.lift (workspaceData.get "id" (.str "N/A"))
  Prog.print ("  🆔 ID: " ++ id.toStr)
  let name ← Prog.lift (workspaceData.get "name" (.str "N/A"))
  Prog.print ("  📝 Name: " ++ name.toStr)
  let image ← Prog.lift (workspaceData.get "image" (.str "N/A"))
  Prog.print ("  🖼️  Image: " ++ image.toStr)
  showEnv (← Prog.lift (workspaceData.get "env" (.list [])))
  showPorts (← Prog.lift (workspaceData.get "ports" (.list [])))
  let workspaceId ← Prog.lift (workspaceData.get "id" (.str ""))
  showAccess workspaceId password user
  Prog.print ("  📋 Logs: https://127.0.0.1:8080/api/servers/" ++ workspaceId.toStr ++ "/logs")
  Prog.print ""

theorem showEnv_quiet (env : PyVal) : Prog.Quiet (showEnv env) :=
  .ite (.bind (.print _) fun _ => .bind (.lift _) (.forEach fun _ =>
    .bind (.lift _) fun _ => .bind (.lift _) fun _ => .print _)) (.pure ())

theorem showPorts_quiet (ports : PyVal) : Prog.Quiet (showPorts ports) :=
  .ite (.bind (.print _) fun _ => .bind (.lift _) (.forEach fun _ =>
    .bind (.lift _) fun _ => .bind (.lift _) fun _ => .print _)) (.pure ())

theorem showAccess_quiet (workspaceId password user : PyVal) :
    Prog.Quiet (showAccess workspaceId password user) :=
  .ite (.bind (.print _) fun _ => .bind (.print _) fun _ =>
    .bind (.ite (.print _) (.pure ())) fun _ => .ite (.print _) (.pure ())) (.pure ())

theorem showWorkspaceDetails_quiet (workspaceData : PyVal) (workspaceName : String)
    (password user : PyVal) : Prog.Quiet (showWorkspaceDetails workspaceData workspaceName password user) :=
  .bind (.lift _) fun _ => .bind (.print _) fun _ => .bind (.print _) fun _ =>
    .bind (.lift _) fun _ => .bind (.print _) fun _ => .bind (.lift _) fun _ =>
    .bind (.print _) fun _ => .bind (.lift _) fun _ => .bind (.print _) fun _ =>
    .bind (.lift _) fun _ => .bind (showEnv_quiet _) fun _ => .bind (.lift _) fun _ =>
    .bind (showPorts_quiet _) fun _ => .bind (.lift _) fun _ =>
    .bind (showAccess_quiet _ _ _) fun _ => .bind (.print _) fun _ => .print _

section
variable (decode : Decoder) (workspaceId workspaceName : String) (password user : PyVal)

/-- One pass of the `while` body: `some b` when the function returns `b`,
`none` when it goes on to sleep and poll again.
mirrors MetaGuildNet/run.py:550-573 -/
def pollOnce (waited : Nat) : Prog (Option Bool) :=
  tryCatch
    (do
      let (statusCode, text) ← requestsGet ("/api/servers/" ++ workspaceId)
      if statusCode = 200 then do
        let workspaceData ← Prog.lift ((decode text).mapError .decodeError)
        let status ← Prog.lift (workspaceData.get "status" .none)
        if status.eqStr "Running" then do
          Prog.print ("✓ Workspace " ++ workspaceName ++ " is running!")
          showWorkspaceDetails workspaceData workspaceName password user
          return some true
        Prog.print ("  Status: " ++ status.toStr ++ " (waited " ++ toString waited ++ "s)")
        return none
      else do
        Prog.print ("  Failed to get status: " ++ toString statusCode)
        return none)
    (fun e =>
      if isRequestException e then do
        Prog.print ("  Request failed: " ++ e.str)
        return none
      else throw e)

/-- The `while waited < max_wait` loop and the timeout report after it.
mirrors MetaGuildNet/run.py:547-580 -/
def waitLoop (waited : Nat) : Prog Bool :=
  if waited < 120 then do
    match ← pollOnce decode workspaceId workspaceName password user waited with
    | some b => return b
    | none =>
      Prog.sleep 5
      waitLoop (waited + 5)
  else do
    Prog.print ("✗ Workspace " ++ workspaceName ++ " did not become ready within 120s")
    return false
termination_by 120 - waited

/-- `_wait_for_workspace_ready(workspace_id, workspace_name, password, user)`.
mirrors MetaGuildNet/run.py:542-580 -/
def waitForWorkspaceReady : Prog Bool := do
  Prog.print ("Waiting for workspace " ++ workspaceName ++ " to be ready...")
  waitLoop decode workspaceId workspaceName password user 0

end

/-- An exception inside the `try`: a request exception is logged and the loop
goes on, any other one leaves the function. -/
def caught (e : PyExc) : Verdict := if isRequestException e then .again else .fatal e

section
variable (decode : Decoder) (workspaceName : String) (password user : PyVal)

/-- How one reply steers the runner: only a 200 reply with status `"Running"`
ends the wait (as the details shown for it end); exceptions go to the handler;
everything else is polled again. -/
def runnerVerdict : Reply → Verdict
  | .transport kind msg => caught (.transport kind msg)
  | .http status text =>
    if status = 200 then
      match (decode text).mapError .decodeError with
      | .error e => caught e
      | .ok data =>
        match data.get "status" .none with
        | .error e => caught e
        | .ok st =>
          if st.eqStr "Running" then
            match (showWorkspaceDetails data workspaceName password user World.start).1 with
            | .ok () => .ready
            | .error e => caught e
          else .again
    else .again

end

def passResult : Verdict → Except PyExc (Option Bool)
  | .ready => .ok (some true)
  | .fatal e => .error e
  | _ => .ok none

def runnerEnd : Ending → Except PyExc Bool
  | .ready => .ok true
  | .fatal e => .error e
  | _ => .ok false

/-- No reply makes the runner's wait end as failed. -/
theorem runnerVerdict_ne_failed (decode : Decoder) (workspaceName : String) (password user : PyVal)
    (r : Reply) : runnerVerdict decode workspaceName password user r ≠ .failed := by
  unfold runnerVerdict caught
  repeat (first | split | simp)

section
variable (decode : Decoder) (workspaceId workspaceName : String) (password user : PyVal)

def runnerRequest : Request := hostApp.mkRequest .GET ("/api/servers/" ++ workspaceId) none

theorem pollOnce_run (waited : Nat) (w : World) :
    ∃ lines, pollOnce decode workspaceId workspaceName password user waited w =
      (passResult (runnerVerdict decode workspaceName password user (w.replies w.sent.length)),
        { w with sent := w.sent ++ [runnerRequest workspaceId], out := w.out ++ lines }) := by
  simp only [pollOnce, Prog.tryCatch_run, Prog.bind_run, requestsGet, runnerVerdict, caught]
  cases w.replies w.sent.length with
  | transport kind msg => exact ⟨_, by simp [isRequestException, passResult]; rfl⟩
  | http status text =>
    dsimp only
    split_ifs with h200
    · cases (decode text).mapError PyExc.decodeError with
      | error e =>
        by_cases hq : isRequestException e
        · exact ⟨_, by simp [hq, passResult, Prog.bind_run, runnerRequest]; rfl⟩
        · exact ⟨[], by simp [hq, passResult, Prog.bind_run, runnerRequest]⟩
      | ok data =>
        dsimp only
        cases hs : data.get "status" PyVal.none with
        | error e =>
          by_cases hq : isRequestException e
          · exact ⟨_, by simp [hs, hq, passResult, Prog.bind_run, runnerRequest]; rfl⟩
          · exact ⟨[], by simp [hs, hq, passResult, Prog.bind_run, runnerRequest]⟩
        | ok st =>
          simp only [hs, Prog.bind_run, Prog.lift_run]
          split_ifs with hr
          · simp only [Prog.bind_run, Prog.print_run]
            rw [(showWorkspaceDetails_quiet data workspaceName password user).run]
            cases hd : (showWorkspaceDetails data workspaceName password user World.start).1 with
            | ok u => exact ⟨_, by simp [passResult, runnerRequest]; rfl⟩
            | error e =>
              by_cases hq : isRequestException e
              · exact ⟨_, by simp [hq, passResult, Prog.bind_run, runnerRequest]; rfl⟩
              · exact ⟨_, by simp [hq, passResult, Prog.bind_run, runnerRequest]; rfl⟩
          · exact ⟨_, by simp [passResult, Prog.bind_run, runnerRequest]; rfl⟩
    · exact ⟨_, by simp [passResult, Prog.bind_run, runnerRequest]; rfl⟩

/-- The replies the polls of a run from `w` read. -/
def replyStream (w : World) (j : Nat) : Reply := w.replies (w.sent.length + j)

theorem replyStream_next (w : World) (req : Request) (o : List String) (t : Nat) :
    replyStream ⟨w.replies, w.sent ++ [req], o, t⟩ = fun j => replyStream w (j + 1) := by
  funext j; simp only [replyStream, List.length_append, List.length_singleton]; congr 1; omega

/-- `w'` is `w` after the wait `r`: the same replies, one request per poll, one
5-second sleep per interval. -/
def Waited (w w' : World) (r : Wait) : Prop :=
  w'.replies = w.replies ∧ w'.sent = w.sent ++ List.replicate r.polls (runnerRequest workspaceId) ∧
    w'.clock = w.clock + 5 * r.sleeps

theorem waitLoop_run : ∀ (n waited : Nat) (w : World), waited + 5 * n = 120 →
    let r := pollLoop (runnerVerdict decode workspaceName password user) n (replyStream w)
    (waitLoop decode workspaceId workspaceName password user waited w).1 = runnerEnd r.ending ∧
      Waited workspaceId w (waitLoop decode workspaceId workspaceName password user waited w).2 r
  | 0, waited, w, h => by
    rw [waitLoop, if_neg (by omega)]
    simp [pollLoop, runnerEnd, Waited, Prog.bind_run]
  | n + 1, waited, w, h => by
    obtain ⟨lines, hp⟩ := pollOnce_run decode workspaceId workspaceName password user waited w
    have hv := runnerVerdict_ne_failed decode workspaceName password user (replyStream w 0)
    rw [waitLoop, if_pos (by omega), Prog.bind_run, hp]
    by_cases ha : runnerVerdict decode workspaceName password user (replyStream w 0) = .again
    · have ha' : runnerVerdict decode workspaceName password user (w.replies w.sent.length) = .again := by
        simpa [replyStream] using ha
      simp only [ha', passResult, Prog.bind_run, Prog.sleep_run]
      obtain ⟨h1, h2, h3, h4⟩ := waitLoop_run n (waited + 5)
        ⟨w.replies, w.sent ++ [runnerRequest workspaceId], w.out ++ lines, w.clock + 5⟩ (by omega)
      rw [pollLoop_again _ ha]
      rw [replyStream_next] at h1 h3 h4
      refine ⟨h1, h2, ?_, ?_⟩
      · rw [h3]; simp [Wait.later, List.replicate_succ]
      · rw [h4]; simp only [Wait.later]; omega
    · rw [pollLoop_stop _ ha]
      revert ha hv
      simp only [replyStream, Nat.add_zero]
      cases runnerVerdict decode workspaceName password user (w.replies w.sent.length) <;>
        intro ha hv <;> simp_all [passResult, runnerEnd, Verdict.ending, Waited, Prog.bind_run]

theorem waitForWorkspaceReady_run (w : World) :
    let r := pollLoop (runnerVerdict decode workspaceName password user) 24 (replyStream w)
    (waitForWorkspaceReady decode workspaceId workspaceName password user w).1 = runnerEnd r.ending ∧
      Waited workspaceId w (waitForWorkspaceReady decode workspaceId workspaceName password user w).2 r :=
  waitLoop_run decode workspaceId workspaceName password user 24 0 _ rfl

/-- The runner returns `True` exactly when some poll among its 24 ends the wait
as ready (a 200 reply with status `"Running"` whose details display) and no
earlier poll ended it. -/
theorem waitForWorkspaceReady_true_iff (w : World) :
    (waitForWorkspaceReady decode workspaceId workspaceName password user w).1 = .ok true ↔
      ∃ j < 24, (∀ i < j, runnerVerdict decode workspaceName password user (replyStream w i) = .again) ∧
        runnerVerdict decode workspaceName password user (replyStream w j) = .ready := by
  rw [(waitForWorkspaceReady_run decode workspaceId workspaceName password user w).1,
    ← pollLoop_ending_iff _ 24 _ .ready (by decide)]
  generalize (pollLoop (runnerVerdict decode workspaceName password user) 24 (replyStream w)).ending = e
  cases e <;> simp [runnerEnd, Verdict.ending]

/-- A 200 reply whose status is `"Failed"` is polled again like any other. -/
theorem runnerVerdict_failed_again {text : String} {kvs : List (String × PyVal)}
    (hd : decode text = .ok (.dict kvs)) (hs : kvs.lookup "status" = some (.str "Failed")) :
    runnerVerdict decode workspaceName password user (.http 200 text) = .again := by
  simp [runnerVerdict, hd, hs, Except.mapError, PyVal.eqStr]

end

/-- A run whose first reply reports `"Failed"` and whose later replies report
`"Running"`. -/
def failedThenRunning : World :=
  ⟨fun i => if i = 0 then .http 200 (statusBody "Failed") else .http 200 (statusBody "Running"),
    [], [], 0⟩

/-- After a `"Failed"` poll the runner polls again and returns `True` on the
next `"Running"`. -/
theorem waitForWorkspaceReady_failed_then_running :
    (waitForWorkspaceReady statusDecoder "ws-1" "alice-ws" .none (.str "alice")
      failedThenRunning).1 = .ok true ∧
    (waitForWorkspaceReady statusDecoder "ws-1" "alice-ws" .none (.str "alice")
      failedThenRunning).2.sent.length = 2 := by
  obtain ⟨h1, -, h2, -⟩ :=
    waitForWorkspaceReady_run statusDecoder "ws-1" "alice-ws" .none (.str "alice") failedThenRunning
  have hfailed (i : Nat) (hi : i < 1) : runnerVerdict statusDecoder "alice-ws" .none (.str "alice")
      (replyStream failedThenRunning i) = .again := by
    rw [Nat.lt_one_iff.mp hi]
    exact runnerVerdict_failed_again statusDecoder "alice-ws" .none (.str "alice") rfl rfl
  rw [pollLoop_first _ 1 24 _ (by decide) hfailed (by decide)] at h1 h2
  exact ⟨by rw [h1]; rfl, by rw [h2]; rfl⟩

end MetaGuildNet.L4
