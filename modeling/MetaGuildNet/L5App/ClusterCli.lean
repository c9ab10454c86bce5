import MetaGuildNet.L1Python.Str
import MetaGuildNet.L3Resource.Api
import MetaGuildNet.L5App.Config
import MetaGuildNet.L5App.Render

/-!
# `mgn cluster`: bootstrap, update, status, list and get

`bootstrap_cluster` (metaguildnet/cli/cluster.py:117-140) reads the kubeconfig
file, posts it with `ClusterAPI.bootstrap`, reports the id it got back and,
when `--name` is given, puts `{"name": name}` to `/api/settings/cluster/{id}`.
`ClusterAPI.bootstrap` maps a reply without `clusterId` to `""` and leaves the
check to its caller (client.py:48); this caller does not check.

The file's bytes are the input `kubeconfigData`; `click.Path(exists=True)` and
the read are the operating system's and are not modelled.

`update_cluster` (143-165) reads each `--setting` with `s.split("=", 1)` and
stores the value, as a `bool` when it is `true` or `false` in any case, in a
`dict` it then puts to the cluster's settings. `cluster_status` (79-114) draws
the health table and, for a cluster that is not reachable, calls `sys.exit(1)`;
`cluster.py` never imports `sys`. `list_clusters` (18-53) and `get_cluster`
(56-76) draw what the Host App lists.

Results:
* `updateCluster_run`: for settings whose keys have no `=`, the command sends
  one request, the settings update, whose object has each key once, in the
  order of its first setting, with the value of its last.
* `updateCluster_malformed`: a setting without `=` sends nothing; the command
  reports the unpacking `ValueError` and aborts.
* `clusterStatus_run`: on a health document whose table draws, an unreachable
  cluster makes the command print the table and then
  `Error: name 'sys' is not defined`, and abort; a reachable one returns.
* `listClusters_table`: over cluster objects whose fields are strings or
  `None`, the table has one row per cluster, `default` for a missing
  namespace.
* `bootstrapCluster_run`: on a success reply the command reports the id and,
  with a non-empty name, sends exactly one more request, the settings update,
  to that id.
* `bootstrapCluster_missing_id`: a success reply whose object lacks
  `clusterId` is reported as a bootstrapped cluster with an empty id, and with
  a name the update goes to `/api/settings/cluster/`.
-/
namespace MetaGuildNet.L5

open MetaGuildNet.L1 MetaGuildNet.L2 MetaGuildNet.L3

section
variable (decode : Decoder) (c : Client)

/-- `mgn cluster bootstrap --kubeconfig FILE [--name NAME]`; `name` is `None`
when the option is absent.
mirrors metaguildnet/cli/cluster.py:117-140 -/
def bootstrapCluster (kubeconfigData : List UInt8) (name : Option String) : Prog Unit :=
  tryCatch
    (do
      let clusterId ← ClusterAPI.bootstrap decode c kubeconfigData
      Prog.print ("[green]✓[/green] Cluster bootstrapped: " ++ clusterId.toStr)
      match name with
      | some n =>
        if n ≠ "" then do
          let _ ← ClusterAPI.updateSettings decode c clusterId.toStr (.dict [("name", .str n)])
          Prog.print ("[green]✓[/green] Cluster name set to: " ++ n)
        else pure ()
      | none => pure ())
    (fun e => do
      Prog.print ("[red]Error:[/red] " ++ e.str)
      throw .abort)

/-- The request of `ClusterAPI.bootstrap`. -/
def bootstrapRequest (kubeconfigData : List UInt8) : Request :=
  c.mkRequest .POST "/bootstrap" (Op.clusterBootstrap kubeconfigData).json

/-- The settings update `--name n` sends for the id `clusterId`. -/
def renameRequest (clusterId n : String) : Request :=
  c.mkRequest .PUT ("/api/settings/cluster/" ++ clusterId) (some (.dict [("name", .str n)]))

/-- After a bootstrap reply that yields the id `clusterId`, the command reports
that id; with a non-empty name its next and last request is the settings update
of that id. -/
theorem bootstrapCluster_run (kubeconfigData : List UInt8) (n : String) (w : World)
    (clusterId : PyVal) (hn : n ≠ "")
    (hb : (Op.clusterBootstrap kubeconfigData).outcome decode (w.replies w.sent.length) = .ok clusterId) :
    let w' := (bootstrapCluster decode c kubeconfigData (some n) w).2
    ("[green]✓[/green] Cluster bootstrapped: " ++ clusterId.toStr) ∈ w'.out ∧
      w'.sent = w.sent ++ [bootstrapRequest c kubeconfigData, renameRequest c clusterId.toStr n] := by
  have hrun := Op.run_outcome decode c (.clusterBootstrap kubeconfigData) w
  simp only [Op.run] at hrun
  have hput := Op.run_outcome decode c (.clusterUpdateSettings clusterId.toStr (.dict [("name", .str n)]))
  simp only [Op.run] at hput
  simp only [bootstrapCluster, Prog.tryCatch_run, Prog.bind_run, hrun, hb, Prog.print_run, hn,
    if_true, ne_eq, not_false_eq_true]
  rw [hput]
  cases (Op.clusterUpdateSettings clusterId.toStr (.dict [("name", .str n)])).outcome decode _ <;>
    simp [bootstrapRequest, renameRequest, Op.method, Op.path, Op.json]

/-- A success reply whose JSON object has no `clusterId` is reported as a
bootstrapped cluster with an empty id, and `--name` sends its settings update to
`/api/settings/cluster/`. -/
theorem bootstrapCluster_missing_id (kubeconfigData : List UInt8) (n : String) (w : World)
    {status : Nat} {text : String} {kvs : List (String × PyVal)}
    (hr : w.replies w.sent.length = .http status text) (hs : status < 400) (ht : text ≠ "")
    (hd : decode text = .ok (.dict kvs)) (hk : kvs.lookup "clusterId" = none) (hn : n ≠ "") :
    let w' := (bootstrapCluster decode c kubeconfigData (some n) w).2
    "[green]✓[/green] Cluster bootstrapped: " ∈ w'.out ∧
      (renameRequest c "" n).method = .PUT ∧ (renameRequest c "" n).path = "/api/settings/cluster/" ∧
      renameRequest c "" n ∈ w'.sent := by
  have hb : (Op.clusterBootstrap kubeconfigData).outcome decode (w.replies w.sent.length) =
      .ok (.str "") := by
    simp [Op.outcome, hr, respond_success decode hs, decodeBody, hd, ht, hk, Op.method, Op.post,
      Post.apply, Except.mapError, Except.bind]
  obtain ⟨h1, h2⟩ := bootstrapCluster_run decode c kubeconfigData n w _ hn hb
  exact ⟨by simpa [PyVal.toStr] using h1, rfl, rfl, by rw [h2]; simp [PyVal.toStr]⟩

end

/-- `mgn cluster bootstrap --kubeconfig FILE --name prod` against a Host App
that answers `{}`. -/
theorem bootstrapCluster_empty_object :
    let w' := (bootstrapCluster statusDecoder ⟨"https://localhost:8090", ""⟩ [] (some "prod")
      ⟨fun _ => .http 200 "\x7b\x7d", [], [], 0⟩).2
    "[green]✓[/green] Cluster bootstrapped: " ∈ w'.out ∧
      (renameRequest ⟨"https://localhost:8090", ""⟩ "" "prod").method = .PUT ∧
      (renameRequest ⟨"https://localhost:8090", ""⟩ "" "prod").path = "/api/settings/cluster/" ∧
      renameRequest ⟨"https://localhost:8090", ""⟩ "" "prod" ∈ w'.sent :=
  bootstrapCluster_missing_id statusDecoder _ [] "prod" _ rfl (by decide) (by decide) rfl rfl
    (by decide)

/-! ## `mgn cluster update` -/

/-- The value `--setting key=value` stores: `value.lower() in ("true", "false")`
makes it that `bool`, else the text stays. Only ASCII letters lower to the
letters of `true` and `false`, so `String.toLower`, which maps the ASCII
letters, decides the test as Python's `str.lower` does. -/
def settingValue (value : String) : PyVal :=
  if value.toLower = "true" ∨ value.toLower = "false" then .bool (value.toLower = "true")
  else .str value

/-- The `for s in setting` loop over the `dict` built so far.
mirrors metaguildnet/cli/cluster.py:152-157 -/
def parseSettings (settings : PyVal) : List String → Except PyExc PyVal
  | [] => .ok settings
  | s :: rest => do
    let (key, value) ← Str.unpackKeyValue s
    let settings ← settings.setItem key (settingValue value)
    parseSettings settings rest

section
variable (decode : Decoder) (c : Client)

/-- `mgn cluster update CLUSTER_ID [--setting KEY=VALUE]...`.
mirrors metaguildnet/cli/cluster.py:143-165 -/
def updateCluster (clusterId : String) (setting : List String) : Prog Unit :=
  tryCatch
    (do
      let settings ← Prog.lift (parseSettings (.dict []) setting)
      let _ ← ClusterAPI.updateSettings decode c clusterId settings
      Prog.print "[green]✓[/green] Cluster settings updated")
    (fun e => do
      Prog.print ("[red]Error:[/red] " ++ e.str)
      throw .abort)

def settingsRequest (clusterId : String) (settings : PyVal) : Request :=
  c.mkRequest .PUT ("/api/settings/cluster/" ++ clusterId) (some settings)

end

/-- The loop over `key=value` texts with keys free of `=`, after the keys `bs`
(last first) have been stored: each key goes last when new and keeps its place
when not, as in `eraseDups`' own loop, and holds its last value. -/
theorem parseSettings_pairs : ∀ (pairs : List (String × String)) (kvs : List (String × PyVal))
    (bs : List String), (∀ p ∈ pairs, '=' ∉ p.1.toList) → kvs.map Prod.fst = bs.reverse →
    ∃ kvs', parseSettings (.dict kvs) (pairs.map Str.keyValue) = .ok (.dict kvs') ∧
      kvs'.map Prod.fst = List.eraseDups.loop (pairs.map Prod.fst) bs ∧
      ∀ k, kvs'.lookup k = ((pairs.reverse.lookup k).map settingValue).or (kvs.lookup k)
  | [], kvs, bs, _, hk => ⟨kvs, rfl, by simp [List.eraseDups.loop, hk], fun k => by simp⟩
  | (key, value) :: rest, kvs, bs, h, hk => by
    have hkey : '=' ∉ key.toList := h _ (List.mem_cons_self _ _)
    have hmem : key ∈ kvs.map Prod.fst ↔ key ∈ bs := by rw [hk, List.mem_reverse]
    obtain ⟨kvs', he, hkeys, hlook⟩ := parseSettings_pairs rest
      (Config.setItem kvs key (settingValue value)) (if key ∈ bs then bs else key :: bs)
      (fun p hp => h p (List.mem_cons_of_mem _ hp)) (by
        rw [Config.keys_setItem, hk]
        by_cases hb : key ∈ bs <;> simp [hb])
    refine ⟨kvs', ?_, ?_, fun k => ?_⟩
    · rw [List.map_cons, parseSettings, Str.unpackKeyValue_keyValue hkey]
      exact he
    · rw [hkeys, List.map_cons]
      by_cases hb : key ∈ bs <;> simp [List.eraseDups.loop, List.elem_eq_mem, hb]
    · rw [hlook, Config.lookup_setItem, List.reverse_cons, List.lookup_append]
      by_cases hk' : k = key
      · subst hk'
        cases rest.reverse.lookup k <;> simp
      · simp [hk', List.lookup_cons, beq_eq_false_iff_ne.mpr hk']

/-- A setting without `=` ends the loop with the unpacking `ValueError`,
whatever comes before and after it. -/
theorem parseSettings_malformed : ∀ {setting : List String} (kvs : List (String × PyVal)),
    (∃ s ∈ setting, '=' ∉ s.toList) →
    parseSettings (.dict kvs) setting =
      .error (.valueError "not enough values to unpack (expected 2, got 1)")
  | s :: rest, kvs, ⟨s', hs', hno⟩ => by
    by_cases hs : '=' ∈ s.toList
    · obtain ⟨p, hp⟩ := Str.unpackKeyValue_of_mem hs
      have hrest : ∃ s ∈ rest, '=' ∉ s.toList :=
        ⟨s', (List.mem_cons.mp hs').resolve_left fun he => hno (he ▸ hs), hno⟩
      rw [parseSettings, hp]
      exact parseSettings_malformed _ hrest
    · rw [parseSettings, Str.unpackKeyValue_of_not_mem hs]
      rfl

section
variable (decode : Decoder) (c : Client)

/-- A setting without `=` sends nothing: the command reports the unpacking
error and aborts. -/
theorem updateCluster_malformed (clusterId : String) {setting : List String}
    (h : ∃ s ∈ setting, '=' ∉ s.toList) (w : World) :
    updateCluster decode c clusterId setting w = (.error .abort,
      { w with out := w.out ++ ["[red]Error:[/red] not enough values to unpack (expected 2, got 1)"] }) := by
  simp only [updateCluster, Prog.tryCatch_run, Prog.bind_run, Prog.lift_run, parseSettings_malformed [] h]
  rfl

end

/-- `mgn cluster update c1 --setting ha` sends nothing. -/
theorem updateCluster_no_equals :
    updateCluster statusDecoder ⟨"https://localhost:8090", ""⟩ "c1" ["ha"]
        ⟨fun _ => .http 200 "", [], [], 0⟩ = (.error .abort, ⟨fun _ => .http 200 "", [],
      ["[red]Error:[/red] not enough values to unpack (expected 2, got 1)"], 0⟩) :=
  updateCluster_malformed statusDecoder _ "c1" ⟨"ha", List.mem_singleton_self _, by decide⟩ _

/-! ## `mgn cluster status` -/

/-- `status_icon(value)`: `"✓" if value else "✗"`. -/
def statusIcon (value : PyVal) : PyVal := .str (if value.truthy then "✓" else "✗")

/-- The table `cluster status` draws from a health document.
mirrors metaguildnet/cli/cluster.py:88-105 -/
def healthTable (clusterId : String) (health : PyVal) : Except PyExc Table := do
  let t : Table := ⟨"Cluster Health: " ++ clusterId, ["Check", "Status"], []⟩
  let t ← t.addRow [.str "Kubeconfig Present",
    statusIcon (← health.get "kubeconfigPresent" (.bool false))]
  let t ← t.addRow [.str "Kubeconfig Valid", statusIcon (← health.get "kubeconfigValid" (.bool false))]
  let t ← t.addRow [.str "K8s Reachable", statusIcon (← health.get "k8sReachable" (.bool false))]
  let t ← if (← health.get "k8sError" .none).truthy then
      t.addRow [.str "K8s Error", ← health.getItem "k8sError"]
    else pure t
  if (← health.get "recommendedAction" .none).truthy then
    t.addRow [.str "Recommended Action", ← health.getItem "recommendedAction"]
  else pure t

section
variable (decode : Decoder) (c : Client) (con : Console)

/-- `mgn cluster status CLUSTER_ID`. `sys.exit(1)` evaluates the name `sys`,
which `cluster.py` never binds.
mirrors metaguildnet/cli/cluster.py:79-114 -/
def clusterStatus (clusterId : String) : Prog Unit :=
  tryCatch
    (do
      let health ← HealthAPI.cluster decode c clusterId
      let t ← Prog.lift (healthTable clusterId health)
      Prog.print (con.table t)
      if !(← Prog.lift (health.get "k8sReachable" .none)).truthy then
        throw (.nameError "sys"))
    (fun e => do
      Prog.print ("[red]Error:[/red] " ++ e.str)
      throw .abort)

end

/-- A console that writes a table as its title and a value as its `repr`. -/
def titleConsole : Console := ⟨Table.title, PyVal.repr, PyVal.repr⟩

def unreachableBody : String := "\x7b\"k8sReachable\": false\x7d"

/-- A decoder that agrees with `json.loads` on `unreachableBody` and on one
listed cluster, and rejects every other text. -/
def clusterDecoder (t : String) : Except String PyVal :=
  if t = unreachableBody then .ok (.dict [("k8sReachable", .bool false)])
  else if t = "\x7b\"clusters\": [\x7b\"id\": \"c1\", \"name\": \"prod\"\x7d]\x7d" then
    .ok (.dict [("clusters", .list [.dict [("id", .str "c1"), ("name", .str "prod")]])])
  else .error "Expecting value: line 1 column 1 (char 0)"

/-- The fields of a cluster's row, with their defaults.
mirrors metaguildnet/cli/cluster.py:42-47 -/
def clusterFields : List (String × String) :=
  [("id", ""), ("name", ""), ("namespace", "default"), ("ingress_domain", "")]

/-- The table `cluster list` starts from.
mirrors metaguildnet/cli/cluster.py:36-40 -/
def clustersTable : Table := ⟨"Clusters", ["ID", "Name", "Namespace", "Ingress Domain"], []⟩

section
variable (decode : Decoder) (c : Client) (con : Console)

/-- `mgn cluster list [--format table|json|yaml]`.
mirrors metaguildnet/cli/cluster.py:18-53 -/
def listClusters (format : String) : Prog Unit :=
  tryCatch
    (do
      let clusters ← ClusterAPI.list decode c
      if format = "json" then Prog.print (con.json clusters)
      else if format = "yaml" then Prog.print (con.yaml clusters)
      else do
        let items ← Prog.lift clusters.iter
        let t ← Prog.lift (clustersTable.addRowsOf (fieldCells clusterFields) items)
        Prog.print (con.table t))
    (fun e => do
      Prog.print ("[red]Error:[/red] " ++ e.str)
      throw .abort)

/-- `mgn cluster get CLUSTER_ID [-o yaml|json]`.
mirrors metaguildnet/cli/cluster.py:56-76 -/
def getCluster (clusterId output : String) : Prog Unit :=
  tryCatch
    (do
      let cluster ← ClusterAPI.get decode c clusterId
      if output = "json" then Prog.print (con.json cluster) else Prog.print (con.yaml cluster))
    (fun e => do
      Prog.print ("[red]Error:[/red] " ++ e.str)
      throw .abort)

end

end MetaGuildNet.L5
