import MetaGuildNet.L4Waiter.RunnerWait
import MetaGuildNet.L5App.WorkspaceCli

/-!
# The runner's examples step

`MetaGuildNetRunner.run_examples` (MetaGuildNet/run.py:362-401) creates
workspaces on the Host App at `https://127.0.0.1:8080` with `requests`, as the
`examples` section of the configuration asks: the basic example (403-462) posts
one job to `/api/jobs` and waits for it with `_wait_for_workspace_ready`
(`L4Waiter.RunnerWait`); the comprehensive one (645-696) first checks
`/healthz` and, in dev mode (`METAGN_DEV_MODE=true`), only prints what it would
do; the multi-user one (464-540) posts one job per user and waits for each job
the Host App accepted.

The step only talks HTTP and prints, so it is a `Prog`. `int(time.time())`
reads the world's clock: in the model time passes only in `time.sleep`.
`getenv` is `os.environ.get`. A logger call prints its message; the level
filter, the timestamp and the colours of `Logger._format_message` are left out,
as in `L4Waiter.RunnerWait`.

Results:
* `runComprehensiveWorkspaceExample_dev`: in dev mode the comprehensive
  example succeeds without sending a request.
* `runComprehensiveWorkspaceExample_unhealthy`: when `/healthz` does not answer
  200, it fails after that one request and posts no job.
-/
namespace MetaGuildNet.L5.Runner

open MetaGuildNet.L1 MetaGuildNet.L2 MetaGuildNet.L3 MetaGuildNet.L4

/-! ## Logger texts and the `requests` calls -/

/-- The text `Logger.section` hands to the formatter: the message boxed, padded
to 38 characters.
mirrors MetaGuildNet/run.py:103-104 -/
def sectionText (message : String) : String :=
  "\n╔" ++ String.mk (List.replicate 40 '═') ++ "╗\n║ " ++
    message ++ String.mk (List.replicate (38 - message.length) ' ') ++ " ║\n╚" ++
    String.mk (List.replicate 40 '═') ++ "╝\n"

/-- The text `Logger.subsection` hands to the formatter.
mirrors MetaGuildNet/run.py:106-107 -/
def subsectionText (message : String) : String := "[" ++ message ++ "]"

def printLines (lines : List String) : Prog Unit := Prog.forEach lines Prog.print

/-- `int(time.time())`. -/
def timeNow : Prog Nat := fun w => (.ok w.clock, w)

/-- `requests.post(url, json=body, verify=False, timeout=30)`: status code and body
text; a transport failure raises. -/
def requestsPost (path : String) (body : PyVal) : Prog (Nat × String) := fun w =>
  (match w.replies w.sent.length with
    | .transport kind msg => .error (.transport kind msg)
    | .http status text => .ok (status, text),
    { w with sent := w.sent ++ [hostApp.mkRequest .POST path (some body)] })

/-- The job the examples post: a name, an image and one environment variable. -/
def jobSpec (name image : String) (env : String × String) : PyVal :=
  .dict [("name", .str name), ("image", .str image), ("env", .list [envItem env])]

def jobRequest (name image : String) (env : String × String) : Request :=
  hostApp.mkRequest .POST "/api/jobs" (some (jobSpec name image env))

def healthRequest : Request := hostApp.mkRequest .GET "/healthz" none

@[simp] theorem timeNow_run (w : World) : timeNow w = (.ok w.clock, w) := rfl

@[simp] theorem printLines_run (w : World) : ∀ lines : List String,
    printLines lines w = (.ok (), { w with out := w.out ++ lines })
  | [] => by simp [printLines, Prog.forEach]
  | line :: lines => by
    have ih := printLines_run { w with out := w.out ++ [line] } lines
    simp only [printLines, Prog.forEach, Prog.bind_run, Prog.print_run] at ih ⊢
    simp [ih]

section
variable (decode : Decoder)

/-! ## The basic example -/

/-- What the basic example prints when the request raises.
mirrors MetaGuildNet/run.py:451-461 -/
def basicTroubleshooting : List String :=
  ["", "🔧 Troubleshooting steps:", "   1. Check if Host App is running:",
    "      curl -sk https://127.0.0.1:8080/healthz", "   2. Start Host App if needed:",
    "      make run", "   3. Verify TLS certificates:",
    "      ls -la certs/  # Should have server.crt and server.key",
    "   4. Check Kubernetes connectivity:", "      kubectl get nodes", ""]

/-- `run_basic_workspace_example()`.
mirrors MetaGuildNet/run.py:403-462 -/
def runBasicWorkspaceExample : Prog Bool := do
  Prog.print (subsectionText "Running Basic Workspace Example")
  let workspaceName := "metaguildnet-demo-" ++ toString (← timeNow)
  let workspaceImage := "codercom/code-server:latest"
  let password := "example123"
  Prog.print ("Creating workspace: " ++ workspaceName)
  Prog.print ("Image: " ++ workspaceImage)
  Prog.print "Sending workspace creation request..."
  tryCatch
    (do
      let (statusCode, text) ←
        requestsPost "/api/jobs" (jobSpec workspaceName workspaceImage ("PASSWORD", password))
      if statusCode = 202 then do
        let workspaceData ← Prog.lift ((decode text).mapError .decodeError)
        let workspaceId ← Prog.lift (workspaceData.get "id" .none)
        if workspaceId.truthy then do
          Prog.print ("Workspace created successfully: " ++ workspaceId.toStr)
          waitForWorkspaceReady decode workspaceId.toStr workspaceName (.str password) .none
        else do
          Prog.print "No workspace ID in response"
          pure false
      else do
        Prog.print ("Failed to create workspace: " ++ toString statusCode)
        Prog.print ("Response: " ++ text)
        pure false)
    (fun e =>
      if isRequestException e then do
        Prog.print ("Request failed: " ++ e.str)
        printLines basicTroubleshooting
        pure false
      else throw e)

/-! ## The multi-user example -/

/-- The users of the multi-user example and their images, in the dict's order.
mirrors MetaGuildNet/run.py:469-473 -/
def exampleUsers : List (String × String) :=
  [("alice", "codercom/code-server:latest"), ("bob", "jupyter/scipy-notebook:latest"),
    ("charlie", "theiaide/theia-python:latest")]

/-- One pass of the creation loop: `some (user, id, name)` when the Host App
accepted the job with an id.
mirrors MetaGuildNet/run.py:478-512 -/
def createUserWorkspace (user image : String) : Prog (Option (String × PyVal × String)) := do
  let workspaceName := "workspace-" ++ user ++ "-" ++ toString (← timeNow)
  Prog.print ("Creating workspace for " ++ user ++ ":")
  Prog.print ("  Name: " ++ workspaceName)
  Prog.print ("  Image: " ++ image)
  tryCatch
    (do
      let (statusCode, text) ← requestsPost "/api/jobs" (jobSpec workspaceName image ("USER", user))
      if statusCode = 202 then do
        let workspaceData ← Prog.lift ((decode text).mapError .decodeError)
        let workspaceId ← Prog.lift (workspaceData.get "id" .none)
        if workspaceId.truthy then do
          Prog.print ("  ✓ Created: " ++ workspaceId.toStr)
          pure (some (user, workspaceId, workspaceName))
        else do
          Prog.print ("  ✗ Failed to get workspace ID for " ++ user)
          pure none
      else do
        Prog.print ("  ✗ Failed to create workspace for " ++ user ++ ": " ++ toString statusCode)
        pure none)
    (fun e =>
      if isRequestException e then do
        Prog.print ("  ✗ Request failed for " ++ user ++ ": " ++ e.str)
        pure none
      else throw e)

/-- The creation loop, `created_workspaces` in order.
mirrors MetaGuildNet/run.py:478-512 -/
def createUserWorkspaces : List (String × String) → Prog (List (String × PyVal × String))
  | [] => pure []
  | (user, image) :: rest => do
    let created ← createUserWorkspace decode user image
    let more ← createUserWorkspaces rest
    pure (created.toList ++ more)

/-- The waiting loop: how many of the created workspaces became ready.
mirrors MetaGuildNet/run.py:530-533 -/
def countReady : List (String × PyVal × String) → Prog Nat
  | [] => pure 0
  | (user, workspaceId, workspaceName) :: rest => do
    let ready ← waitForWorkspaceReady decode workspaceId.toStr workspaceName .none (.str user)
    let more ← countReady rest
    pure ((if ready then 1 else 0) + more)

end

/-- The lines of one workspace in the summary.
mirrors MetaGuildNet/run.py:632-637 -/
def summaryLines (ws : String × PyVal × String) : List String :=
  ["👤 " ++ ws.1 ++ ":", "  📝 Name: " ++ ws.2.2, "  🆔 ID: " ++ ws.2.1.toStr,
    "  🌐 URL: https://127.0.0.1:8080/proxy/server/" ++ ws.2.1.toStr ++ "/", ""]

/-- `_show_workspace_summary(workspaces)`.
mirrors MetaGuildNet/run.py:625-643 -/
def showWorkspaceSummary (workspaces : List (String × PyVal × String)) : Prog Unit := do
  Prog.print (sectionText "Workspace Summary")
  Prog.print ("Total workspaces created: " ++ toString workspaces.length)
  Prog.print ""
  printLines (workspaces.flatMap summaryLines)
  printLines ["Management Commands:",
    "  View all workspaces: curl -sk https://127.0.0.1:8080/api/servers | jq",
    "  Cleanup all workspaces: curl -sk -X POST https://127.0.0.1:8080/api/admin/stop-all",
    "  Delete specific workspace: curl -sk -X DELETE https://127.0.0.1:8080/api/servers/<workspace-id>",
    ""]

/-- What the multi-user example prints when no job was accepted.
mirrors MetaGuildNet/run.py:515-524 -/
def nothingCreatedLines : List String :=
  ["No workspaces created. Host App may not be running.", "", "🔧 Quick troubleshooting:",
    "   1. Verify Host App status:", "      curl -sk https://127.0.0.1:8080/healthz",
    "   2. Start Host App:", "      make run", "   3. Check logs for errors:",
    "      tail -f ~/.guildnet/state/logs/hostapp.log", ""]

section
variable (decode : Decoder)

/-- `run_multi_user_example()`.
mirrors MetaGuildNet/run.py:464-540 -/
def runMultiUserExample : Prog Bool := do
  Prog.print (subsectionText "Running Multi-User Setup Example")
  Prog.print ("Creating workspaces for " ++ toString exampleUsers.length ++ " users...")
  let created ← createUserWorkspaces decode exampleUsers
  if created.isEmpty then do
    printLines nothingCreatedLines
    pure false
  else do
    Prog.print ("Successfully created " ++ toString created.length ++ " workspaces")
    let readyCount ← countReady decode created
    Prog.print ("Workspaces ready: " ++ toString readyCount ++ "/" ++ toString created.length)
    showWorkspaceSummary created
    pure (readyCount > 0)

/-! ## The comprehensive example -/

/-- `_check_host_app_health()`: the bare `except` turns every failure into `False`.
mirrors MetaGuildNet/run.py:698-709 -/
def checkHostAppHealth : Prog Bool :=
  tryCatch
    (do
      let (statusCode, _) ← requestsGet "/healthz"
      pure (statusCode = 200))
    (fun _ => pure false)

def workspaceIcon (status : PyVal) : String :=
  if status.eqStr "Running" then "🟢" else if status.eqStr "Pending" then "🟡" else "🔴"

/-- `_show_current_workspace_status()`.
mirrors MetaGuildNet/run.py:711-737 -/
def showCurrentWorkspaceStatus : Prog Unit := do
  Prog.print (subsectionText "Current Workspace Status")
  tryCatch
    (do
      let (statusCode, text) ← requestsGet "/api/servers"
      if statusCode = 200 then do
        let workspaces ← Prog.lift ((decode text).mapError .decodeError)
        if workspaces.truthy then do
          Prog.print ("📊 Active workspaces: " ++ toString (← Prog.lift workspaces.len))
          Prog.forEach (← Prog.lift workspaces.iter) fun workspace => do
            let status ← Prog.lift (workspace.get "status" (.str "Unknown"))
            let name ← Prog.lift (workspace.get "name" (.str "Unknown"))
            Prog.print ("  " ++ workspaceIcon status ++ " " ++ name.toStr ++ ": " ++ status.toStr)
        else Prog.print "📭 No active workspaces"
      else Prog.print ("❌ Failed to get workspace list: " ++ toString statusCode))
    (fun e =>
      if isRequestException e then Prog.print ("Failed to check workspace status: " ++ e.str)
      else throw e)

/-- `_test_workspace_access()`: it only prints.
mirrors MetaGuildNet/run.py:739-754 -/
def testWorkspaceAccess : Prog Unit :=
  printLines [subsectionText "Testing Workspace Access", "🌐 Workspace Access Methods:",
    "  🔗 Web interface: https://127.0.0.1:8080",
    "  📡 API endpoints: /api/servers/<workspace-id>",
    "  📋 Logs endpoint: /api/servers/<workspace-id>/logs",
    "  🚪 Proxy access: /proxy/server/<workspace-id>/", "", "💡 Access patterns:",
    "  • Workspace URLs: https://127.0.0.1:8080/proxy/server/<id>/",
    "  • API queries: curl -sk https://127.0.0.1:8080/api/servers/<id>",
    "  • Log streaming: curl -sk https://127.0.0.1:8080/api/servers/<id>/logs"]

/-- What dev mode prints instead of running the example.
mirrors MetaGuildNet/run.py:653-665 -/
def devModeLines : List String :=
  ["Running in DEV MODE - demonstrating workspace example flow", "", "✓ Example demonstrates:",
    "  1. Workspace creation via API POST to /api/jobs", "  2. Status polling until Running state",
    "  3. Access URL generation", "  4. Cleanup via API DELETE", "",
    "To run this example for real:", "  1. Start Host App: make run",
    "  2. Ensure cluster is accessible",
    "  3. Run: python3 MetaGuildNet/run.py --workflow example", ""]

/-- What the comprehensive example prints when the Host App is not healthy.
mirrors MetaGuildNet/run.py:670-683 -/
def unhealthyLines : List String :=
  ["Host App is not running. Cannot create workspaces.", "", "💡 To start the Host App:",
    "   make run", "", "🔍 To check Host App status:", "   curl -sk https://127.0.0.1:8080/healthz",
    "", "📋 Prerequisites for workspace creation:", "   • Host App running on https://127.0.0.1:8080",
    "   • Valid TLS certificates (auto-generated if missing)", "   • Kubernetes cluster accessible",
    "   • RethinkDB service available", ""]

/-- `os.environ.get('METAGN_DEV_MODE', 'false').lower() == 'true'`, compared
character by character; `Char.toLower` lowers the ASCII letters, and no other
character lowers to one of `true`'s. -/
def devMode (getenv : String → Option String) : Bool :=
  ((getenv "METAGN_DEV_MODE").getD "false").toList.map Char.toLower = "true".toList

/-- `run_comprehensive_workspace_example()`.
mirrors MetaGuildNet/run.py:645-696 -/
def runComprehensiveWorkspaceExample (getenv : String → Option String) : Prog Bool := do
  Prog.print (subsectionText "Running Comprehensive Workspace Example")
  if devMode getenv then do
    printLines devModeLines
    pure true
  else if !(← checkHostAppHealth) then do
    printLines unhealthyLines
    pure false
  else if !(← runBasicWorkspaceExample decode) then pure false
  else do
    showCurrentWorkspaceStatus decode
    testWorkspaceAccess
    pure true

/-! ## The step -/

/-- What the step prints when an example failed.
mirrors MetaGuildNet/run.py:391-399 -/
def examplesFailedLines : List String :=
  ["Examples failed", "", "🔧 Example troubleshooting:", "   • Examples require Host App to be running",
    "   • Start Host App: make run",
    "   • Verify Host App health: curl -sk https://127.0.0.1:8080/healthz",
    "   • Check TLS certificates: ls -la certs/", "   • Ensure Kubernetes cluster is accessible", ""]

/-- `run_examples()` on the runner's configuration `runnerConfig`.
mirrors MetaGuildNet/run.py:362-401 -/
def runExamples (getenv : String → Option String) (runnerConfig : PyVal) : Prog Bool := do
  let config ← Prog.lift (runnerConfig.get "examples" (.dict []))
  if !(← Prog.lift (config.get "enabled" (.bool true))).truthy then do
    Prog.print "Examples disabled in config"
    pure true
  else do
    Prog.print (sectionText "MetaGuildNet Examples")
    let created ←
      if (← Prog.lift (config.get "create_workspace" (.bool true))).truthy then
        if (← Prog.lift (config.get "comprehensive_output" (.bool false))).truthy then
          runComprehensiveWorkspaceExample decode getenv
        else runBasicWorkspaceExample decode
      else pure true
    let multi ←
      if (← Prog.lift (config.get "multi_user_setup" (.bool false))).truthy then do
        Prog.print (subsectionText "Running Multi-User Setup")
        runMultiUserExample decode
      else pure true
    let success := created && multi
    if success then Prog.print "Examples completed successfully" else printLines examplesFailedLines
    pure success

/-! ## What the examples send -/

def healthy : Reply → Bool
  | .http status _ => status = 200
  | .transport _ _ => false

theorem checkHostAppHealth_run (w : World) :
    checkHostAppHealth w = (.ok (healthy (w.replies w.sent.length)),
      { w with sent := w.sent ++ [healthRequest] }) := by
  simp only [checkHostAppHealth, Prog.tryCatch_run, Prog.bind_run, requestsGet]
  cases w.replies w.sent.length <;> rfl

/-- In dev mode the comprehensive example succeeds without a request: it only
prints its subsection and the dev-mode lines. -/
theorem runComprehensiveWorkspaceExample_dev (getenv : String → Option String)
    (hd : devMode getenv = true) (w : World) :
    runComprehensiveWorkspaceExample decode getenv w = (.ok true, { w with
      out := w.out ++ subsectionText "Running Comprehensive Workspace Example" :: devModeLines }) := by
  simp only [runComprehensiveWorkspaceExample, hd, if_true, Prog.bind_run, Prog.print_run,
    printLines_run]
  simp

/-- Out of dev mode, a `/healthz` reply other than 200 ends the comprehensive
example with `False` after that one request, with the troubleshooting lines:
no job is posted. -/
theorem runComprehensiveWorkspaceExample_unhealthy (getenv : String → Option String)
    (hd : devMode getenv = false) (w : World) (hh : healthy (w.replies w.sent.length) = false) :
    runComprehensiveWorkspaceExample decode getenv w = (.ok false, { w with
      sent := w.sent ++ [healthRequest]
      out := w.out ++ subsectionText "Running Comprehensive Workspace Example" :: unhealthyLines }) := by
  simp only [runComprehensiveWorkspaceExample, hd, Prog.bind_run, Prog.print_run,
    Bool.false_eq_true, if_false, checkHostAppHealth_run]
  simp [hh, Prog.bind_run]

end

end MetaGuildNet.L5.Runner
