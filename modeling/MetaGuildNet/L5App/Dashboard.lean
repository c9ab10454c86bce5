import MetaGuildNet.L3Resource.Api
import MetaGuildNet.L5App.Render

/-!
# `Dashboard`: the monitoring dashboard of `metaguildnet.visualizer`

`Dashboard.update_layout` (metaguildnet/visualizer/dashboard.py:195-215)
fills a frame from four builders. Each builder is one `try/except Exception`
whose handler draws an `Error` row or panel. The builders reach the Host App
through three calls on their client: `list_clusters()`,
`list_workspaces(id)` and `health()`. `Calls` is that interface, and the
builders are modelled over any `Calls`, as the source writes them; the
functions a builder reads the calls' results with are those of
`L1Python.Value`. `now` is the stats panel's `datetime.now()` text and `fmt`
the `datetime` round trip of a `created_at` value (`none` where it raises).

`Client` (metaguildnet/api/client.py:161-229) defines neither
`list_clusters` nor `list_workspaces`, and its `health` attribute holds a
`HealthAPI` instance, which cannot be called (`clientAttrs`). `clientCalls`
are the three calls on a real `Client`.

A table that `rich` refused a row of keeps no part of that row here (`rich`
has appended the cells before the refused one to their columns).

Results:
* `createClusterTable_raise`, `createWorkspaceTable_raise`,
  `createHealthPanel_raise`, `createStatsPanel_raise`: a builder whose first
  call raises draws its error and sends nothing more.
* `updateLayout_client`: against a real `Client`, in every world, every
  region that shows data shows its error instead, and no request is sent.
-/
namespace MetaGuildNet.L5

open MetaGuildNet.L1 MetaGuildNet.L2 MetaGuildNet.L3

structure Calls where
  listClusters : Prog PyVal
  listWorkspaces : PyVal → Prog PyVal
  health : Prog PyVal

/-- A frame of the dashboard: the six regions `update_layout` fills. -/
structure Frame where
  header : Panel
  health : Panel
  stats : Panel
  clusters : Panel
  workspaces : Panel
  footer : Panel
  deriving DecidableEq, Repr

/-- `for x in xs: table.add_row(*cells(x))` inside a `try`: the table with the
rows added before the first exception, and that exception. -/
def addRows (cells : PyVal → Except PyExc (List PyVal)) : Table → List PyVal → Table × Option PyExc
  | t, [] => (t, none)
  | t, x :: xs =>
    match cells x >>= t.addRow with
    | .ok t' => addRows cells t' xs
    | .error e => (t, some e)

/-- The table after a `try` whose handler adds `errorRow (str(e))`. -/
def closeRows (errorRow : String → List String) : Table × Option PyExc → Table
  | (t, none) => t
  | (t, some e) => t.withRow (errorRow e.str)

/-! ## `create_cluster_table` -/

/-- mirrors metaguildnet/visualizer/dashboard.py:28-33 -/
def clusterTableHead : Table := ⟨"Clusters", ["Name", "ID", "Status", "Nodes", "Workspaces"], []⟩

/-- mirrors metaguildnet/visualizer/dashboard.py:50 -/
def clusterErrorRow (msg : String) : List String := ["Error", msg, "✗", "-", "-"]

/-- The cells of a cluster's row; `cluster.get("healthy", False)` is read
twice, as the source does. mirrors metaguildnet/visualizer/dashboard.py:39-48 -/
def clusterCells (cluster : PyVal) : Except PyExc (List PyVal) := do
  let statusColor := if (← cluster.get "healthy" (.bool false)).truthy then "green" else "red"
  let statusText := if (← cluster.get "healthy" (.bool false)).truthy then "●" else "○"
  let name ← cluster.get "name" (.str "Unknown")
  let shortId ← (← cluster.get "id" (.str "")).sliceTo 12
  let nodes ← cluster.get "node_count" (.str "?")
  let workspaces ← cluster.get "workspace_count" (.str "?")
  pure [name, shortId, .str ("[" ++ statusColor ++ "]" ++ statusText ++ "[/" ++ statusColor ++ "]"),
    .str nodes.toStr, .str workspaces.toStr]

/-- mirrors metaguildnet/visualizer/dashboard.py:26-52 -/
def createClusterTable (k : Calls) : Prog Table :=
  tryCatch
    (do
      let clusters ← k.listClusters
      let cs ← Prog.lift clusters.iter
      pure (closeRows clusterErrorRow (addRows clusterCells clusterTableHead cs)))
    (fun e => pure (clusterTableHead.withRow (clusterErrorRow e.str)))

/-! ## `create_workspace_table` -/

/-- mirrors metaguildnet/visualizer/dashboard.py:56-61 -/
def workspaceTableHead : Table := ⟨"Workspaces", ["Name", "Cluster", "Image", "Status", "Created"], []⟩

/-- mirrors metaguildnet/visualizer/dashboard.py:110 -/
def workspaceErrorRow (msg : String) : List String := ["Error", msg, "-", "✗", "-"]

/-- Each workspace tagged with its cluster's id, up to the first one that
cannot be tagged. mirrors metaguildnet/visualizer/dashboard.py:79-81 -/
def tagWorkspaces (cid : PyVal) : List PyVal → List PyVal
  | [] => []
  | ws :: rest =>
    match ws.setItem "_cluster_id" cid with
    | .ok ws' => ws' :: tagWorkspaces cid rest
    | .error _ => []

/-- One cluster's turn of the collection loop: its `cluster_map` entry, then
its workspaces; an exception inside the inner `try` keeps the workspaces
appended before it. mirrors metaguildnet/visualizer/dashboard.py:74-83 -/
def collectCluster (k : Calls) (acc : List PyVal × List (PyVal × PyVal)) (cluster : PyVal) :
    Prog (List PyVal × List (PyVal × PyVal)) := do
  let cid ← Prog.lift (cluster.get "id" .none)
  let name ← Prog.lift (cluster.get "name" (← Prog.lift (cid.sliceTo 12)))
  let clusterMap ← Prog.lift (dictSet acc.2 cid name)
  let tagged ← tryCatch
    (do
      let wsList ← k.listWorkspaces cid
      match wsList.iter with
      | .ok wss => pure (tagWorkspaces cid wss)
      | .error _ => pure [])
    (fun _ => pure [])
  pure (acc.1 ++ tagged, clusterMap)

/-- `for cluster in clusters:` over the collection loop. -/
def collectClusters (k : Calls) :
    List PyVal × List (PyVal × PyVal) → List PyVal → Prog (List PyVal × List (PyVal × PyVal))
  | acc, [] => pure acc
  | acc, cluster :: rest => do collectClusters k (← collectCluster k acc cluster) rest

/-- mirrors metaguildnet/visualizer/dashboard.py:87-91 -/
def workspaceStatusColor (status : PyVal) : Except PyExc PyVal :=
  dictGet [(.str "Running", .str "green"), (.str "Pending", .str "yellow"), (.str "Failed", .str "red")]
    status (.str "white")

/-- The `created_at` cell: a non-empty `str` is reformatted where `fmt`
parses it; anything else is kept (`.replace` of a non-`str` raises into the
`except: pass`). mirrors metaguildnet/visualizer/dashboard.py:94-100 -/
def createdCell (fmt : String → Option String) (created : PyVal) : PyVal :=
  match created with
  | .str s => if s = "" then created else ((fmt (s.replace "Z" "+00:00")).map PyVal.str).getD created
  | _ => created

/-- The cells of a workspace's row. mirrors metaguildnet/visualizer/dashboard.py:86-108 -/
def workspaceCells (fmt : String → Option String) (clusterMap : List (PyVal × PyVal))
    (clusterId : PyVal) (ws : PyVal) : Except PyExc (List PyVal) := do
  let status ← ws.get "status" (.str "Unknown")
  let statusColor ← workspaceStatusColor status
  let clusterName ← dictGet clusterMap (← ws.get "_cluster_id" clusterId) (.str "?")
  let created := createdCell fmt (← ws.get "created_at" (.str ""))
  let name ← ws.get "name" (.str "Unknown")
  let image ← (← ws.get "image" (.str "")).sliceTo 30
  pure [name, clusterName, image,
    .str ("[" ++ statusColor.toStr ++ "]" ++ status.toStr ++ "[/" ++ statusColor.toStr ++ "]"), created]

/-- The workspaces and `cluster_map` the table is drawn from.
mirrors metaguildnet/visualizer/dashboard.py:65-83 -/
def workspaceSource (k : Calls) (clusterId : Option String) :
    Prog (PyVal × List (PyVal × PyVal)) :=
  match clusterId with
  | some cid =>
    if cid ≠ "" then do
      let workspaces ← k.listWorkspaces (.str cid)
      pure (workspaces, [(.str cid, .str (cid.take 12))])
    else allClusters
  | none => allClusters
where
  allClusters : Prog (PyVal × List (PyVal × PyVal)) := do
    let clusters ← k.listClusters
    let cs ← Prog.lift clusters.iter
    let (workspaces, clusterMap) ← collectClusters k ([], []) cs
    pure (.list workspaces, clusterMap)

/-- mirrors metaguildnet/visualizer/dashboard.py:54-112 -/
def createWorkspaceTable (k : Calls) (fmt : String → Option String) (clusterId : Option String) :
    Prog Table :=
  tryCatch
    (do
      let (workspaces, clusterMap) ← workspaceSource k clusterId
      let shown ← Prog.lift ((← Prog.lift (workspaces.sliceTo 20)).iter)
      pure (closeRows workspaceErrorRow
        (addRows (workspaceCells fmt clusterMap ((clusterId.map PyVal.str).getD .none))
          workspaceTableHead shown)))
    (fun e => pure (workspaceTableHead.withRow (workspaceErrorRow e.str)))

/-! ## `create_health_panel` and `create_stats_panel` -/

/-- mirrors metaguildnet/visualizer/dashboard.py:120-124 -/
def healthColor (status : PyVal) : Except PyExc PyVal :=
  dictGet [(.str "healthy", .str "green"), (.str "degraded", .str "yellow"),
    (.str "unhealthy", .str "red")] status (.str "white")

/-- The component lines of the health panel. mirrors metaguildnet/visualizer/dashboard.py:132-137 -/
def componentLines : List (String × PyVal) → Except PyExc String
  | [] => .ok ""
  | (component, compStatus) :: rest => do
    let s ← textPiece compStatus
    let more ← componentLines rest
    pure ("  " ++ component ++ ": " ++ s ++ "\n" ++ more)

/-- mirrors metaguildnet/visualizer/dashboard.py:141 -/
def healthErrorPanel (msg : String) : Panel := ⟨.text ("Error: " ++ msg), some "System Health", some "red", none⟩

/-- mirrors metaguildnet/visualizer/dashboard.py:114-141 -/
def createHealthPanel (k : Calls) : Prog Panel :=
  tryCatch
    (do
      let health ← k.health
      Prog.lift (do
        let status ← health.get "status" (.str "unknown")
        let statusColor ← healthColor status
        let statusUpper ← status.upper
        let components ← health.get "components" (.dict [])
        let lines ← componentLines (← components.items)
        pure ⟨.text ("Overall Status: " ++ statusUpper ++ "\n\n" ++ lines), some "System Health",
          some statusColor.toStr, none⟩))
    (fun e => pure (healthErrorPanel e.str))

/-- The totals of the stats panel: workspaces, then nodes, for each cluster.
mirrors metaguildnet/visualizer/dashboard.py:150-152 -/
def addCounts : Int × Int → List PyVal → Except PyExc (Int × Int)
  | acc, [] => .ok acc
  | (workspaces, nodes), cluster :: rest => do
    let workspaces' ← PyVal.addTo workspaces (← cluster.get "workspace_count" (.int 0))
    let nodes' ← PyVal.addTo nodes (← cluster.get "node_count" (.int 0))
    addCounts (workspaces', nodes') rest

/-- mirrors metaguildnet/visualizer/dashboard.py:166 -/
def statsErrorPanel (msg : String) : Panel := ⟨.text ("Error: " ++ msg), some "Statistics", some "red", none⟩

/-- mirrors metaguildnet/visualizer/dashboard.py:143-166 -/
def createStatsPanel (k : Calls) (now : String) : Prog Panel :=
  tryCatch
    (do
      let clusters ← k.listClusters
      Prog.lift (do
        let (totalWorkspaces, totalNodes) ← addCounts (0, 0) (← clusters.iter)
        let n ← clusters.len
        pure ⟨.text ("Clusters: " ++ toString n ++ "\n" ++ "Nodes: " ++ toString totalNodes ++ "\n" ++
          "Workspaces: " ++ toString totalWorkspaces ++ "\n" ++ "\nUpdated: " ++ now),
          some "Statistics", some "blue", none⟩))
    (fun e => pure (statsErrorPanel e.str))

/-! ## `update_layout` -/

/-- mirrors metaguildnet/visualizer/dashboard.py:198-199 -/
def dashboardHeader : Panel := ⟨.text "GuildNet Dashboard", none, some "blue", none⟩

/-- mirrors metaguildnet/visualizer/dashboard.py:210-215 -/
def dashboardFooter : Panel :=
  ⟨.text "Press Ctrl+C to exit | Updates every 5 seconds", none, some "dim", none⟩

/-- mirrors metaguildnet/visualizer/dashboard.py:195-215 -/
def updateLayout (k : Calls) (fmt : String → Option String) (now : String) : Prog Frame := do
  let health ← createHealthPanel k
  let stats ← createStatsPanel k now
  let clusters ← createClusterTable k
  let workspaces ← createWorkspaceTable k fmt none
  pure ⟨dashboardHeader, health, stats, ⟨.table clusters, none, some "cyan", none⟩,
    ⟨.table workspaces, none, some "magenta", none⟩, dashboardFooter⟩

/-! ## The dashboard's calls on a `Client` -/

/-- What a `Client` has, by name: the attributes `__init__` sets, with the
class of the value each holds, and the methods of the class (`none`).
mirrors metaguildnet/api/client.py:161-229 -/
def clientAttrs : List (String × Option String) :=
  [("base_url", some "str"), ("token", some "str"), ("timeout", some "float"),
    ("verify", some "bool"), ("clusters", some "ClusterAPI"), ("health", some "HealthAPI"),
    ("workspaces", none), ("databases", none), ("_get", none), ("_post", none), ("_put", none),
    ("_delete", none), ("_request", none)]

/-- `client.<name>(...)`: a missing attribute raises `AttributeError`, an
attribute holding an instance that cannot be called raises `TypeError`, and a
method runs `method`. -/
def clientCall (name : String) (method : Prog PyVal) : Prog PyVal :=
  match clientAttrs.lookup name with
  | none => throw (.attributeError "Client" name)
  | some (some cls) => throw (.typeError ("'" ++ cls ++ "' object is not callable"))
  | some none => method

/-- The dashboard's calls on `Client(api_url, api_token)`; each call's
`method` is the resource method its name stands for.
mirrors metaguildnet/visualizer/dashboard.py:36, 66, 78, 117, 146 -/
def clientCalls (decode : Decoder) (c : Client) : Calls where
  listClusters := clientCall "list_clusters" (ClusterAPI.list decode c)
  listWorkspaces cid := clientCall "list_workspaces" (WorkspaceAPI.list decode c cid.toStr)
  health := clientCall "health" (HealthAPI.globalHealth decode c)

/-! ## Builders whose first call raises -/

section
variable {k : Calls} {w w' : World} {e : PyExc}

theorem createClusterTable_raise (h : k.listClusters w = (.error e, w')) :
    createClusterTable k w = (.ok (clusterTableHead.withRow (clusterErrorRow e.str)), w') := by
  rw [createClusterTable, Prog.tryCatch_error (Prog.bind_error h)]
  rfl

theorem createWorkspaceTable_raise (fmt : String → Option String)
    (h : k.listClusters w = (.error e, w')) :
    createWorkspaceTable k fmt none w =
      (.ok (workspaceTableHead.withRow (workspaceErrorRow e.str)), w') := by
  have hs : workspaceSource k none w = (.error e, w') := Prog.bind_error h
  rw [createWorkspaceTable, Prog.tryCatch_error (Prog.bind_error hs)]
  rfl

theorem createHealthPanel_raise (h : k.health w = (.error e, w')) :
    createHealthPanel k w = (.ok (healthErrorPanel e.str), w') := by
  rw [createHealthPanel, Prog.tryCatch_error (Prog.bind_error h)]
  rfl

theorem createStatsPanel_raise (now : String) (h : k.listClusters w = (.error e, w')) :
    createStatsPanel k now w = (.ok (statsErrorPanel e.str), w') := by
  rw [createStatsPanel, Prog.tryCatch_error (Prog.bind_error h)]
  rfl

end

/-- A real `Client` has no `list_clusters`. -/
theorem clientCalls_listClusters (decode : Decoder) (c : Client) :
    (clientCalls decode c).listClusters = throw (.attributeError "Client" "list_clusters") := rfl

/-- A real `Client`'s `health` is a `HealthAPI` instance, which cannot be called. -/
theorem clientCalls_health (decode : Decoder) (c : Client) :
    (clientCalls decode c).health = throw (.typeError "'HealthAPI' object is not callable") := rfl

/-- Against a real `Client`, in every world, the health, stats, clusters and
workspaces regions all show their error, and no request is sent. -/
theorem updateLayout_client (decode : Decoder) (c : Client) (fmt : String → Option String)
    (now : String) (w : World) :
    updateLayout (clientCalls decode c) fmt now w =
      (.ok ⟨dashboardHeader, healthErrorPanel "'HealthAPI' object is not callable",
        statsErrorPanel "'Client' object has no attribute 'list_clusters'",
        ⟨.table (clusterTableHead.withRow
          (clusterErrorRow "'Client' object has no attribute 'list_clusters'")), none, some "cyan", none⟩,
        ⟨.table (workspaceTableHead.withRow
          (workspaceErrorRow "'Client' object has no attribute 'list_clusters'")), none, some "magenta",
          none⟩,
        dashboardFooter⟩, w) := by
  have hl : (clientCalls decode c).listClusters w = (.error (.attributeError "Client" "list_clusters"), w) := by
    rw [clientCalls_listClusters]; rfl
  have hh : (clientCalls decode c).health w = (.error (.typeError "'HealthAPI' object is not callable"), w) := by
    rw [clientCalls_health]; rfl
  rw [updateLayout, Prog.bind_ok (createHealthPanel_raise hh), Prog.bind_ok (createStatsPanel_raise now hl),
    Prog.bind_ok (createClusterTable_raise hl), Prog.bind_ok (createWorkspaceTable_raise fmt hl)]
  rfl

end MetaGuildNet.L5
