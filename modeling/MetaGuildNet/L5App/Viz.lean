import MetaGuildNet.L3Resource.Api
import MetaGuildNet.L5App.Render

/-!
# `mgn viz`: one frame of the dashboard

`generate_dashboard` (metaguildnet/cli/viz.py:34-251) draws one frame: a
header with the time, a clusters panel, a workspaces panel and a footer. The
cluster query and everything drawn from its result sit in one
`try/except`; each cluster's row has a `try/except` of its own, whose handler
draws the row again with status `? Unknown`; the workspaces panel has its
own `try/except`. `now` is the header's `datetime.now()` text.

The handler of a row evaluates the row's first two cells again, so a row whose
cells raise (a cluster whose `id` is `null` or a number, or whose `name` is
not a string) raises out of its handler, and the outer handler replaces the
whole table, and the workspaces panel, by error panels. The outer handlers
choose their panel by `isinstance(e, ConnectionError)`, which no `httpx`
error is, and then by the text of the message, and every exception sets
`connection_error`, which selects the footer.

Results:
* `generateDashboard_ok`: a frame is drawn in every world: nothing raises out
  of `generate_dashboard`.
* `addClusterRows_run` and `generateDashboard_cluster_rows`: over clusters whose
  first cells render, the rows loop makes one health query and adds one row per
  cluster, in list order, each status read from its own query; the table is
  titled and the footer reports the count.
* `generateDashboard_row_error`: when the listed clusters include one whose
  row's cells raise, the clusters panel is an error panel and the workspaces
  panel says they cannot be loaded.
* `generateDashboard_list_error`: when the cluster query raises `e`, the
  clusters panel is `connectionPanel e`, the workspaces panel says they
  cannot be loaded and the footer says the API is not connected, whatever `e` is.
-/
namespace MetaGuildNet.L5

open MetaGuildNet.L1 MetaGuildNet.L2 MetaGuildNet.L3

/-- A frame: the four regions `generate_dashboard` fills. -/
structure Layout where
  header : Panel
  clusters : Panel
  workspaces : Panel
  footer : Panel
  deriving DecidableEq, Repr

/-! ## Panels -/

/-- mirrors metaguildnet/cli/viz.py:50-55 -/
def headerPanel (now : String) : Panel :=
  ⟨.text ("[bold cyan]MetaGuildNet Dashboard[/bold cyan] - " ++ now), none, none,
    some "bold white on blue"⟩

/-- mirrors metaguildnet/cli/viz.py:66-76 -/
def noClustersPanel : Panel :=
  ⟨.text ("[yellow]No clusters registered yet[/yellow]\n\n" ++ "To add a cluster:\n" ++
    "  mgn cluster bootstrap --kubeconfig /path/to/kubeconfig\n\n" ++
    "Or if GuildNet is not running:\n" ++ "  1. Start GuildNet Host App\n" ++
    "  2. Bootstrap your first cluster"), some "Clusters", none, none⟩

/-- The clusters table before its first row. mirrors metaguildnet/cli/viz.py:78-81 -/
def clusterTable : Table := ⟨"Clusters", ["ID", "Name", "Status"], []⟩

/-- The `except ConnectionError` panel. mirrors metaguildnet/cli/viz.py:106-120 -/
def hostAppDownPanel (msg : String) : Panel :=
  ⟨.text ("[red]GuildNet Host App not running[/red]\n\n" ++ "[yellow]To start GuildNet:[/yellow]\n" ++
    "  cd /path/to/GuildNet\n" ++ "  ./scripts/run-hostapp.sh\n\n" ++
    "Or use automated installation:\n" ++ "  mgn install --type local\n\n" ++
    "[dim]Error: " ++ msg ++ "[/dim]"), some "Connection Error", some "red", none⟩

/-- mirrors metaguildnet/cli/viz.py:125-139 -/
def cannotConnectPanel (msg : String) : Panel :=
  ⟨.text ("[red]Cannot connect to GuildNet API[/red]\n\n" ++
    "[yellow]Expected API URL:[/yellow] https://localhost:8090\n\n" ++ "[yellow]To fix:[/yellow]\n" ++
    "  1. Ensure GuildNet Host App is running\n" ++ "  2. Check MGN_API_URL environment variable\n" ++
    "  3. Verify network connectivity\n\n" ++ "Start GuildNet with:\n" ++
    "  ./scripts/run-hostapp.sh\n\n" ++ "[dim]Error: " ++ msg ++ "[/dim]"),
    some "Connection Error", some "red", none⟩

/-- mirrors metaguildnet/cli/viz.py:141-151 -/
def clustersErrorPanel (msg : String) : Panel :=
  ⟨.text ("[red]Error loading clusters:[/red]\n" ++ msg ++ "\n\n" ++ "[yellow]Check that:[/yellow]\n" ++
    "  • GuildNet Host App is running\n" ++ "  • API URL is correct (MGN_API_URL)\n" ++
    "  • Authentication token is valid (if required)"), some "Error", some "red", none⟩

/-- The panel the handlers of the cluster query draw for `e`.
mirrors metaguildnet/cli/viz.py:106-151 -/
def connectionPanel (e : PyExc) : Panel :=
  if e.isConnectionError then hostAppDownPanel e.str
  else if substr "Connection refused" e.str || substr "Errno 61" e.str then cannotConnectPanel e.str
  else clustersErrorPanel e.str

/-- mirrors metaguildnet/cli/viz.py:155-163 -/
def cannotLoadPanel : Panel :=
  ⟨.text ("[yellow]Cannot load workspaces[/yellow]\n\n" ++ "GuildNet API connection required\n\n" ++
    "[dim]Fix the connection error first[/dim]"), some "Workspaces", some "yellow", none⟩

/-- mirrors metaguildnet/cli/viz.py:177-187 -/
def noWorkspacesPanel (clusterId : PyVal) : Except PyExc Panel := do
  let short ← clusterId.sliceTo 12
  pure ⟨.text ("[yellow]No workspaces in cluster[/yellow]\n\n" ++ "Cluster: " ++ short.toStr ++
    "...\n\n" ++ "To create a workspace:\n" ++ "  mgn workspace create " ++ clusterId.toStr ++
    " \\\n" ++ "    --name my-workspace \\\n" ++ "    --image nginx:alpine"), some "Workspaces", none, none⟩

/-- The workspaces table before its first row. mirrors metaguildnet/cli/viz.py:189-193 -/
def workspaceTable : Table := ⟨"Workspaces", ["Name", "Image", "Status", "Ready"], []⟩

/-- mirrors metaguildnet/cli/viz.py:221-228 -/
def noClustersAvailablePanel : Panel :=
  ⟨.text ("[yellow]No clusters available[/yellow]\n\n" ++ "Bootstrap a cluster first:\n" ++
    "  mgn cluster bootstrap --kubeconfig /path/to/config"), some "Workspaces", none, none⟩

/-- mirrors metaguildnet/cli/viz.py:230-238 -/
def workspacesErrorPanel (msg : String) : Panel :=
  ⟨.text ("[red]Error loading workspaces:[/red]\n" ++ msg), some "Error", some "red", none⟩

/-- The footer's own text. mirrors metaguildnet/cli/viz.py:241-242 -/
def footerText (baseUrl : String) : String :=
  "[dim]API: " ++ baseUrl ++ " | Press Ctrl+C to exit | Refreshing every 5s[/dim]"

def notConnectedFooter (baseUrl : String) : Panel :=
  ⟨.text ("[yellow]⚠ Not connected to GuildNet API[/yellow] | " ++ footerText baseUrl), none, none,
    some "dim"⟩

/-- mirrors metaguildnet/cli/viz.py:240-249 -/
def footer (baseUrl : String) (connectionError : Bool) (clusters : PyVal) : Except PyExc Panel :=
  if connectionError then pure (notConnectedFooter baseUrl)
  else if clusters.truthy then do
    let n ← clusters.len
    pure ⟨.text ("[green]✓ Connected[/green] | " ++ toString n ++ " cluster(s) | " ++ footerText baseUrl),
      none, none, some "dim"⟩
  else pure ⟨.text (footerText baseUrl), none, none, some "dim"⟩

/-! ## The frame -/

/-- The first two cells of a cluster's row, as Python evaluates them:
`c.get("id", "")[:12] + "..."`, then `c.get("name", c.get("id", ""))`. -/
def idNameCells (cl : PyVal) : Except PyExc (List PyVal) := do
  let shortId ← (← cl.get "id" (.str "")).sliceTo 12
  let idCell ← shortId.addStr "..."
  let name ← cl.get "name" (← cl.get "id" (.str ""))
  pure [idCell, name]

/-- The status cell of a cluster whose health query returned `health`;
`health['recommendedAction']` is the value `.get` just found.
mirrors metaguildnet/cli/viz.py:86-91 -/
def healthStatus (health : PyVal) : Except PyExc String := do
  if (← health.get "k8sReachable" .none).truthy then pure "[green]✓ Healthy[/green]"
  else
    let action ← health.get "recommendedAction" .none
    pure (if action.truthy then "[red]✗ Unhealthy[/red]" ++ "\n[dim]" ++ action.toStr ++ "[/dim]"
      else "[red]✗ Unhealthy[/red]")

def unknownStatus : String := "[yellow]? Unknown[/yellow]"

/-- The handler of a row. mirrors metaguildnet/cli/viz.py:97-102 -/
def unknownRow (t : Table) (cl : PyVal) : Except PyExc Table := do
  let cells ← idNameCells cl
  t.addRow (cells ++ [.str unknownStatus])

/-- The texts of each workspace's row. mirrors metaguildnet/cli/viz.py:195-212 -/
def addWorkspaceRow (t : Table) (ws : PyVal) : Except PyExc Table := do
  let statusStr ← ws.get "status" (.str "Unknown")
  let statusDisplay : PyVal :=
    if statusStr.eqStr "Running" then .str "[green]Running[/green]"
    else if statusStr.eqStr "Pending" then .str "[yellow]Pending[/yellow]"
    else if statusStr.eqStr "Failed" then .str "[red]Failed[/red]"
    else statusStr
  let ready ← ws.get "readyReplicas" (.int 0)
  let name ← ws.get "name" (.str "")
  let image ← (← ws.get "image" (.str "")).sliceTo 40
  t.addRow [name, image, statusDisplay, .str ready.toStr]

/-- The cluster whose workspaces are shown: `--cluster`, else the first listed
cluster's `id`, else `None`. mirrors metaguildnet/cli/viz.py:166-171 -/
def workspaceClusterId (focus : Option String) (clusters : PyVal) : Except PyExc PyVal :=
  let focusVal : PyVal := (focus.map PyVal.str).getD .none
  if focusVal.truthy then pure focusVal
  else if clusters.truthy then do
    if 0 < (← clusters.len) then (← clusters.first).get "id" (.str "") else pure .none
  else pure .none

/-- What the cluster query leaves for the rest of the frame: `clusters`,
`connection_error` and the clusters panel. After an exception `clusters` is
not read again (both later readers test `connection_error` first), so the
handler leaves it at `[]`. -/
structure ClustersState where
  clusters : PyVal
  connectionError : Bool
  panel : Panel
  deriving DecidableEq, Repr

section
variable (decode : Decoder) (c : Client)

/-- The `try` body of a row: the health query, then the row with its status.
mirrors metaguildnet/cli/viz.py:84-96 -/
def healthRow (t : Table) (cl : PyVal) : Prog Table := do
  let clusterId ← Prog.lift (cl.get "id" (.str ""))
  let health ← HealthAPI.cluster decode c clusterId.toStr
  let status ← Prog.lift (healthStatus health)
  let cells ← Prog.lift (idNameCells cl)
  Prog.lift (t.addRow (cells ++ [.str status]))

/-- One turn of the rows loop: on any exception of the `try` body the handler
draws the row again with status unknown. mirrors metaguildnet/cli/viz.py:84-102 -/
def addClusterRow (t : Table) (cl : PyVal) : Prog Table :=
  tryCatch (healthRow decode c t cl) fun _ => Prog.lift (unknownRow t cl)

/-- `for c in clusters:` over the rows. -/
def addClusterRows : Table → List PyVal → Prog Table
  | t, [] => pure t
  | t, cl :: cls => do addClusterRows (← addClusterRow decode c t cl) cls

/-- The `try` body after the query: the clusters panel for the listed value.
mirrors metaguildnet/cli/viz.py:65-104 -/
def clustersPanel (clusters : PyVal) : Prog Panel :=
  if !clusters.truthy then pure noClustersPanel
  else do
    let cls ← Prog.lift clusters.iter
    let t ← addClusterRows decode c clusterTable cls
    let n ← Prog.lift clusters.len
    pure ⟨.table t, some ("Clusters (" ++ toString n ++ " total)"), none, none⟩

/-- mirrors metaguildnet/cli/viz.py:57-151 -/
def clustersSection : Prog ClustersState :=
  tryCatch
    (do
      let clusters ← ClusterAPI.list decode c
      let panel ← clustersPanel decode c clusters
      pure ⟨clusters, false, panel⟩)
    (fun e => pure ⟨.list [], true, connectionPanel e⟩)

/-- The `try` of the workspaces panel. mirrors metaguildnet/cli/viz.py:165-238 -/
def workspacesPanel (focus : Option String) (clusters : PyVal) : Prog Panel :=
  tryCatch
    (do
      let clusterId ← Prog.lift (workspaceClusterId focus clusters)
      if clusterId.truthy then do
        let workspaces ← WorkspaceAPI.list decode c clusterId.toStr
        if !workspaces.truthy then Prog.lift (noWorkspacesPanel clusterId)
        else Prog.lift (do
          let t ← (← workspaces.iter).foldlM addWorkspaceRow workspaceTable
          let n ← workspaces.len
          let short ← clusterId.sliceTo 12
          pure ⟨.table t, some ("Workspaces (" ++ toString n ++ " total) - Cluster: " ++
            short.toStr ++ "..."), none, none⟩)
      else pure noClustersAvailablePanel)
    (fun e => pure (workspacesErrorPanel e.str))

/-- One frame of `mgn viz [--cluster ID]`.
mirrors metaguildnet/cli/viz.py:34-251 -/
def generateDashboard (focus : Option String) (now : String) : Prog Layout := do
  let s ← clustersSection decode c
  let workspaces ← if s.connectionError then pure cannotLoadPanel
    else workspacesPanel decode c focus s.clusters
  let foot ← Prog.lift (footer c.baseUrl s.connectionError s.clusters)
  pure ⟨headerPanel now, s.panel, workspaces, foot⟩

end

/-! ## Every frame is drawn -/

theorem idNameCells_not_dict {cl : PyVal} (hcl : ∀ kvs, cl ≠ .dict kvs) :
    idNameCells cl = .error (.attributeError cl.typeName "get") := by
  have hget : cl.get "id" (.str "") = .error (.attributeError cl.typeName "get") :=
    PyVal.get_error_iff.mpr ⟨hcl, rfl⟩
  simp [idNameCells, hget, bind, Except.bind]

theorem footer_ok (baseUrl : String) {ce : Bool} {clusters : PyVal}
    (h : ce = true ∨ clusters.truthy = false ∨ ∃ xs, clusters = .list xs) :
    ∃ p, footer baseUrl ce clusters = .ok p := by
  unfold footer
  split
  · exact ⟨_, rfl⟩
  split
  · rcases h with h | h | ⟨xs, rfl⟩
    · contradiction
    · simp_all
    · exact ⟨_, rfl⟩
  · exact ⟨_, rfl⟩

section
variable (decode : Decoder) (c : Client)

/-- A row whose first two cells raise raises `e₀` out of its handler, whatever
its health query did. -/
theorem addClusterRow_cells_error {cl : PyVal} {e₀ : PyExc} (h : idNameCells cl = .error e₀)
    (t : Table) : Prog.Raises (addClusterRow decode c t cl) := fun w => by
  have hbody : Prog.Raises (healthRow decode c t cl) := by
    unfold healthRow
    exact Prog.Raises.bind_right fun _ => Prog.Raises.bind_right fun _ =>
      Prog.Raises.bind_right fun _ => Prog.Raises.bind_left (h ▸ Prog.Raises.lift_error e₀)
  obtain ⟨e, w', hb⟩ := hbody w
  exact ⟨e₀, w', by rw [addClusterRow, Prog.tryCatch_error hb, Prog.lift_run, unknownRow, h]; rfl⟩

/-- One such row makes the whole rows loop raise, wherever it stands. -/
theorem addClusterRows_raises {cl : PyVal} {e₀ : PyExc} (h : idNameCells cl = .error e₀) :
    ∀ {cls : List PyVal}, cl ∈ cls → ∀ t, Prog.Raises (addClusterRows decode c t cls)
  | _ :: _, .head _, t => by
    rw [addClusterRows]
    exact Prog.Raises.bind_left (addClusterRow_cells_error decode c h t)
  | _ :: _, .tail _ hm, t => by
    rw [addClusterRows]
    exact Prog.Raises.bind_right fun t' => addClusterRows_raises h hm t'

theorem clustersPanel_raises {cls : List PyVal} {cl : PyVal} {e₀ : PyExc} (hm : cl ∈ cls)
    (h : idNameCells cl = .error e₀) : Prog.Raises (clustersPanel decode c (.list cls)) := by
  have ht : (PyVal.list cls).truthy = true := by
    cases cls with
    | nil => cases hm
    | cons => rfl
  rw [clustersPanel, if_neg (by simp [ht]), PyVal.iter_list, Prog.lift_ok_bind]
  exact Prog.Raises.bind_left (addClusterRows_raises decode c h hm clusterTable)

theorem clustersPanel_list {clusters : PyVal} {w w' : World} {p : Panel}
    (h : clustersPanel decode c clusters w = (.ok p, w')) (ht : clusters.truthy = true) :
    ∃ xs, clusters = .list xs := by
  rw [clustersPanel, if_neg (by simp [ht])] at h
  obtain ⟨cls, w₁, hi, h⟩ := Prog.bind_eq_ok.mp h
  obtain ⟨t, w₂, hr, -⟩ := Prog.bind_eq_ok.mp h
  simp only [Prog.lift_run, Prod.mk.injEq] at hi
  by_contra hl
  obtain ⟨cl, hm, hcl⟩ := PyVal.iter_truthy_not_list hi.1 ht fun ys h => hl ⟨ys, h⟩
  obtain ⟨e, w₃, he⟩ := addClusterRows_raises decode c (idNameCells_not_dict hcl) hm clusterTable w₁
  rw [hr] at he
  cases he

theorem clustersSection_ok (w : World) :
    ∃ s w', clustersSection decode c w = (.ok s, w') ∧
      (s.connectionError = true ∨ s.clusters.truthy = false ∨ ∃ xs, s.clusters = .list xs) := by
  unfold clustersSection
  rw [Prog.tryCatch_run]
  split
  · rename_i s w' hb
    obtain ⟨v, w₁, -, hb⟩ := Prog.bind_eq_ok.mp hb
    obtain ⟨p, w₂, hp, hb⟩ := Prog.bind_eq_ok.mp hb
    cases hb
    refine ⟨_, _, rfl, .inr ?_⟩
    cases ht : v.truthy
    · exact .inl rfl
    · exact .inr (clustersPanel_list decode c hp ht)
  · exact ⟨_, _, rfl, .inl rfl⟩

theorem workspacesPanel_ok (focus : Option String) (clusters : PyVal) (w : World) :
    ∃ p w', workspacesPanel decode c focus clusters w = (.ok p, w') := by
  unfold workspacesPanel
  rw [Prog.tryCatch_run]
  split <;> exact ⟨_, _, rfl⟩

/-- A frame is drawn in every world: nothing raises out of `generate_dashboard`. -/
theorem generateDashboard_ok (focus : Option String) (now : String) (w : World) :
    ∃ l w', generateDashboard decode c focus now w = (.ok l, w') := by
  obtain ⟨s, w₁, hs, hinv⟩ := clustersSection_ok decode c w
  obtain ⟨foot, hf⟩ := footer_ok c.baseUrl hinv
  rw [generateDashboard, Prog.bind_ok hs]
  split
  · simp only [Prog.bind_run, Prog.pure_run, Prog.lift_run, hf]
    exact ⟨_, _, rfl⟩
  · obtain ⟨p, w₂, hp⟩ := workspacesPanel_ok decode c focus s.clusters w₁
    simp only [Prog.bind_run, hp, Prog.lift_run, hf]
    exact ⟨_, _, rfl⟩

/-! ## The rows of clusters whose cells render -/

def cellTexts (cl : PyVal) : Except PyExc (List String) := idNameCells cl >>= renderCells

def clusterIdOf (cl : PyVal) : String :=
  match cl.get "id" (.str "") with
  | .ok v => v.toStr
  | .error _ => ""

/-- The status cell of a row, from the reply to its health query: the health
status, or `? Unknown` when the query or the reading of its payload raised. -/
def rowStatus (decode : Decoder) (clusterId : String) (reply : Reply) : String :=
  match (Op.healthCluster clusterId).outcome decode reply with
  | .ok health =>
    match healthStatus health with
    | .ok status => status
    | .error _ => unknownStatus
  | .error _ => unknownStatus

/-- The rows of clusters whose first cells render as given, the `k`-th health
query answered by `replies (n + k)`. -/
def clusterRows (decode : Decoder) (replies : Nat → Reply) (n : Nat) :
    List (PyVal × List String) → List (List String)
  | [] => []
  | (cl, texts) :: rest =>
    (texts ++ [rowStatus decode (clusterIdOf cl) (replies n)]) :: clusterRows decode replies (n + 1) rest

def healthRequest (c : Client) (clusterId : String) : Request :=
  c.mkRequest .GET ("/api/cluster/" ++ clusterId ++ "/health") none

section
variable (decode : Decoder) (c : Client)

theorem addClusterRow_run {cl : PyVal} {texts : List String} (h : cellTexts cl = .ok texts)
    (t : Table) (w : World) :
    addClusterRow decode c t cl w =
      (.ok (t.withRow (texts ++ [rowStatus decode (clusterIdOf cl) (w.replies w.sent.length)])),
        { w with sent := w.sent ++ [healthRequest c (clusterIdOf cl)] }) := by
  obtain ⟨cells, hcells, hr⟩ : ∃ cells, idNameCells cl = .ok cells ∧ renderCells cells = .ok texts := by
    unfold cellTexts at h
    cases hc : idNameCells cl <;> simp_all [bind, Except.bind]
  obtain ⟨v, hv⟩ : ∃ v, cl.get "id" (.str "") = .ok v := by
    cases hg : cl.get "id" (.str "") with
    | ok v => exact ⟨v, rfl⟩
    | error e => simp [idNameCells, hg, bind, Except.bind] at hcells
  have hq := Op.run_outcome decode c (.healthCluster v.toStr) w
  have hid : clusterIdOf cl = v.toStr := by simp [clusterIdOf, hv]
  have hunknown : unknownRow t cl = .ok (t.withRow (texts ++ [unknownStatus])) := by
    rw [unknownRow, hcells]
    exact Table.addRow_append_str t hr _
  rw [hid, rowStatus]
  simp only [addClusterRow, healthRow, Prog.tryCatch_run, Prog.bind_run, Prog.lift_run, hv]
  rw [show HealthAPI.cluster decode c v.toStr w = _ from hq]
  have hreq : c.mkRequest (Op.healthCluster v.toStr).method (Op.healthCluster v.toStr).path
      (Op.healthCluster v.toStr).json = healthRequest c v.toStr := rfl
  cases (Op.healthCluster v.toStr).outcome decode (w.replies w.sent.length) with
  | error e => simp [hunknown, hreq]
  | ok health =>
    cases hs : healthStatus health <;> simp [hs, hunknown, hreq, hcells, Table.addRow_append_str t hr]

/-- The rows loop over clusters whose first cells render: one health query and
one row per cluster, in list order. -/
theorem addClusterRows_run (t : Table) : ∀ {cs : List PyVal} {textss : List (List String)} (w : World),
    List.Forall₂ (fun cl texts => cellTexts cl = .ok texts) cs textss →
    addClusterRows decode c t cs w =
      (.ok { t with rows := t.rows ++ clusterRows decode w.replies w.sent.length (cs.zip textss) },
        { w with sent := w.sent ++ cs.map fun cl => healthRequest c (clusterIdOf cl) })
  | [], [], w, .nil => by simp [addClusterRows, clusterRows]
  | cl :: cs, texts :: textss, w, .cons h hs => by
    rw [addClusterRows, Prog.bind_ok (addClusterRow_run decode c h t w),
      addClusterRows_run (t.withRow _) _ hs]
    simp only [Table.withRow, clusterRows, List.zip_cons_cons, List.map_cons, List.append_assoc,
      List.singleton_append, List.length_append, List.length_singleton]
    rfl

/-- When the cluster query lists a non-empty list of clusters whose first cells
all render, the clusters panel is the table with one row per cluster, in list
order, each row's status read from its own health query (`? Unknown` exactly
when that query or the reading of its payload raised), and the footer says the
API is connected, with the count. -/
theorem generateDashboard_cluster_rows (focus : Option String) (now : String) (w : World)
    {cs : List PyVal} {textss : List (List String)}
    (hlist : Op.clusterList.outcome decode (w.replies w.sent.length) = .ok (.list cs))
    (hne : cs ≠ []) (hcells : List.Forall₂ (fun cl texts => cellTexts cl = .ok texts) cs textss) :
    ∃ l w', generateDashboard decode c focus now w = (.ok l, w') ∧
      l.clusters = ⟨.table { clusterTable with
          rows := clusterRows decode w.replies (w.sent.length + 1) (cs.zip textss) },
        some ("Clusters (" ++ toString cs.length ++ " total)"), none, none⟩ ∧
      l.footer = ⟨.text ("[green]✓ Connected[/green] | " ++ toString cs.length ++ " cluster(s) | " ++
        footerText c.baseUrl), none, none, some "dim"⟩ := by
  have hl : ClusterAPI.list decode c w = _ := Op.run_outcome decode c .clusterList w
  rw [hlist] at hl
  have ht : (PyVal.list cs).truthy = true := by
    cases cs with
    | nil => exact absurd rfl hne
    | cons => rfl
  set P : Panel := ⟨.table { clusterTable with
    rows := clusterRows decode w.replies (w.sent.length + 1) (cs.zip textss) },
    some ("Clusters (" ++ toString cs.length ++ " total)"), none, none⟩
  obtain ⟨w₁, hpanel⟩ : ∃ w₁, clustersPanel decode c (.list cs) { w with sent := w.sent ++
      [c.mkRequest Op.clusterList.method Op.clusterList.path Op.clusterList.json] } = (.ok P, w₁) := by
    apply Exists.intro
    rw [clustersPanel, if_neg (by simp [ht]), PyVal.iter_list, Prog.lift_ok_bind,
      Prog.bind_ok (addClusterRows_run decode c clusterTable _ hcells)]
    simp only [List.length_append, List.length_singleton]
    rfl
  have hs : clustersSection decode c w = (.ok ⟨.list cs, false, P⟩, w₁) := by
    rw [clustersSection, Prog.tryCatch_run, Prog.bind_ok hl, Prog.bind_ok hpanel]
  obtain ⟨p, w₂, hp⟩ := workspacesPanel_ok decode c focus (.list cs) w₁
  refine ⟨⟨headerPanel now, _, p, _⟩, w₂, ?_, rfl, rfl⟩
  rw [generateDashboard, Prog.bind_ok hs]
  simp only [Bool.false_eq_true, if_false, Prog.bind_run, hp, Prog.lift_run, footer, ht, if_true,
    PyVal.len]
  rfl

end

/-- One cluster, `c2` named `core`, as the Host App lists it. -/
def coreBody : String :=
  "\x7b\"clusters\": [\x7b\"id\": \"c2\", \"name\": \"core\"\x7d]\x7d"

/-- A decoder that agrees with `json.loads` on `coreBody` and rejects every
other text. -/
def coreDecoder (t : String) : Except String PyVal :=
  if t = coreBody then .ok (.dict [("clusters", .list [.dict [("id", .str "c2"), ("name", .str "core")]])])
  else .error "Expecting value: line 1 column 1 (char 0)"

/-- `mgn viz` against a Host App listing the one cluster `c2`: its row is
`c2...`, `core` and the status read from the second reply. -/
theorem generateDashboard_core_cluster :
    ∃ l w', generateDashboard coreDecoder ⟨"https://localhost:8090", ""⟩ none "12:00:00"
        ⟨fun _ => .http 200 coreBody, [], [], 0⟩ = (.ok l, w') ∧
      l.clusters = ⟨.table { clusterTable with
          rows := clusterRows coreDecoder (fun _ => .http 200 coreBody) 1
            [(.dict [("id", .str "c2"), ("name", .str "core")], ["c2...", "core"])] },
        some ("Clusters (" ++ toString 1 ++ " total)"), none, none⟩ ∧
      l.footer = ⟨.text ("[green]✓ Connected[/green] | " ++ toString 1 ++ " cluster(s) | " ++
        footerText "https://localhost:8090"), none, none, some "dim"⟩ :=
  @generateDashboard_cluster_rows coreDecoder ⟨"https://localhost:8090", ""⟩ none "12:00:00"
    ⟨fun _ => .http 200 coreBody, [], [], 0⟩ [.dict [("id", .str "c2"), ("name", .str "core")]]
    [["c2...", "core"]] rfl (List.cons_ne_nil _ _) (.cons rfl .nil)

/-! ## What the frame shows when the cluster query or a row fails -/

/-- When the cluster query raises `e`, whatever `e` is, the clusters panel is
`connectionPanel e`, the workspaces cannot be loaded, and the footer says the
API is not connected. -/
theorem generateDashboard_list_error (focus : Option String) (now : String) (w : World)
    {e : PyExc} (he : Op.clusterList.outcome decode (w.replies w.sent.length) = .error e) :
    ∃ w', generateDashboard decode c focus now w =
      (.ok ⟨headerPanel now, connectionPanel e, cannotLoadPanel, notConnectedFooter c.baseUrl⟩, w') := by
  have hl : ClusterAPI.list decode c w = _ := Op.run_outcome decode c .clusterList w
  rw [he] at hl
  obtain ⟨w₁, hs⟩ : ∃ w₁, clustersSection decode c w = (.ok ⟨.list [], true, connectionPanel e⟩, w₁) :=
    ⟨_, by rw [clustersSection, Prog.tryCatch_error (Prog.bind_error hl)]; rfl⟩
  exact ⟨_, by rw [generateDashboard, Prog.bind_ok hs]; rfl⟩

end

/-- A read timeout is drawn with the generic error panel, a refused `401` with
the not-connected footer, and a `502` whose body mentions a refused connection
with the panel for an unreachable Host App. -/
theorem generateDashboard_misclassified :
    (∃ w', generateDashboard statusDecoder ⟨"https://localhost:8090", ""⟩ none "12:00:00"
        ⟨fun _ => .transport .readTimeout "timed out", [], [], 0⟩ =
      (.ok ⟨headerPanel "12:00:00", connectionPanel (.transport .readTimeout "timed out"),
        cannotLoadPanel, notConnectedFooter "https://localhost:8090"⟩, w')) ∧
    (∃ w', generateDashboard statusDecoder ⟨"https://localhost:8090", ""⟩ none "12:00:00"
        ⟨fun _ => .http 401 "", [], [], 0⟩ =
      (.ok ⟨headerPanel "12:00:00", connectionPanel .unauthorized, cannotLoadPanel,
        notConnectedFooter "https://localhost:8090"⟩, w')) ∧
    (∃ w', generateDashboard statusDecoder ⟨"https://localhost:8090", ""⟩ none "12:00:00"
        ⟨fun _ => .http 502 "connect: Connection refused", [], [], 0⟩ =
      (.ok ⟨headerPanel "12:00:00", connectionPanel (.apiError 502 "connect: Connection refused"),
        cannotLoadPanel, notConnectedFooter "https://localhost:8090"⟩, w')) ∧
    connectionPanel (.transport .readTimeout "timed out") = clustersErrorPanel "timed out" ∧
    connectionPanel (.apiError 502 "connect: Connection refused") =
      cannotConnectPanel "API error 502: connect: Connection refused" :=
  ⟨generateDashboard_list_error _ _ _ _ _ rfl, generateDashboard_list_error _ _ _ _ _ rfl,
    generateDashboard_list_error _ _ _ _ _ rfl, rfl, rfl⟩

section
variable (decode : Decoder) (c : Client)

/-- When the listed clusters include one whose row's first two cells raise (a
`null` or numeric `id`, a `name` that is not a string), the clusters table is
replaced by an error panel and the workspaces panel by `cannotLoadPanel`,
whatever the other clusters and their health queries are. -/
theorem generateDashboard_row_error (focus : Option String) (now : String) (w : World)
    {cls : List PyVal} {cl : PyVal} {e₀ : PyExc}
    (hlist : Op.clusterList.outcome decode (w.replies w.sent.length) = .ok (.list cls))
    (hm : cl ∈ cls) (hrow : idNameCells cl = .error e₀) :
    ∃ e w', generateDashboard decode c focus now w =
      (.ok ⟨headerPanel now, connectionPanel e, cannotLoadPanel, notConnectedFooter c.baseUrl⟩, w') := by
  have hl : ClusterAPI.list decode c w = _ := Op.run_outcome decode c .clusterList w
  rw [hlist] at hl
  obtain ⟨e, w₁, hp⟩ := clustersPanel_raises decode c hm hrow _
  have hs : clustersSection decode c w = (.ok ⟨.list [], true, connectionPanel e⟩, w₁) := by
    rw [clustersSection, Prog.tryCatch_error ((Prog.bind_ok hl).trans (Prog.bind_error hp))]
    rfl
  exact ⟨e, _, by rw [generateDashboard, Prog.bind_ok hs]; rfl⟩

end

/-- Two clusters, the first with `"id": null`, as the Host App lists them. -/
def nullIdBody : String :=
  "\x7b\"clusters\": [\x7b\"id\": null, \"name\": \"edge\"\x7d, \x7b\"id\": \"c2\", \"name\": \"core\"\x7d]\x7d"

/-- A decoder that agrees with `json.loads` on `nullIdBody` and rejects every
other text. -/
def nullIdDecoder (t : String) : Except String PyVal :=
  if t = nullIdBody then
    .ok (.dict [("clusters", .list [.dict [("id", .none), ("name", .str "edge")],
      .dict [("id", .str "c2"), ("name", .str "core")]])])
  else .error "Expecting value: line 1 column 1 (char 0)"

/-- `mgn viz` against a Host App listing a cluster whose `id` is `null`. -/
theorem generateDashboard_null_id :
    ∃ e w', generateDashboard nullIdDecoder ⟨"https://localhost:8090", ""⟩ none "12:00:00"
        ⟨fun _ => .http 200 nullIdBody, [], [], 0⟩ =
      (.ok ⟨headerPanel "12:00:00", connectionPanel e, cannotLoadPanel,
        notConnectedFooter "https://localhost:8090"⟩, w') :=
  generateDashboard_row_error _ _ _ _ _ rfl (List.mem_cons_self _ _) rfl

end MetaGuildNet.L5
