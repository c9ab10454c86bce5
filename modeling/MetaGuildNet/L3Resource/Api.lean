import MetaGuildNet.L2Transport.Request

/-!
# The Resource Clients (`ClusterAPI`, `WorkspaceAPI`, `DatabaseAPI`, `HealthAPI`)

Every resource method of metaguildnet/api/client.py:27-158 is one `_request`
followed by one of three post-processing steps (`Post`): return the value
(`pass`), read one field of it with a default (`field`, the `response.get(...)`
of `list`, `bootstrap`, `query` and `insert`), or drop it (`discard`). `call`
is that shape; each method is `call` at the method's own verb, path template,
body and post-processing, as the source writes them. `Op` enumerates the
methods with their arguments, so that statements range over all of them.

Results:
* `Op.run_outcome`: what an operation returns or raises is `Op.outcome` of the
  reply to its request, and it sends exactly that one request.
* `Op.outcome_error_status`: an error status raises the classifier's exception
  before any post-processing.
* `Op.outcome_classified`: on every reply the server sends, every operation
  ends as `Classified` says (`NotFoundError`, `UnauthorizedError`, `APIError`
  with status and body, `None` for `DELETE`, the decoder's own error for a
  body that is not JSON, or the post-processed payload), unless a field method
  meets a success payload that is not an object or whose field has another
  type than the method's default.
* `outcome_unclassified`: an empty success body makes `ClusterAPI.list` raise
  `AttributeError`, and a success body that is not JSON raises the decoder's
  error: neither is an `APIError`.
* `HealthAPI.status_false_of_undecodable`: a healthy `/healthz` whose body is
  not JSON is reported down.
-/
namespace MetaGuildNet.L3

open MetaGuildNet.L1 MetaGuildNet.L2

/-- What a resource method does with the value `_request` returned. -/
inductive Post where
  | pass
  | field (key : String) (default : PyVal)
  | discard
  deriving DecidableEq, Repr

/-- Apply the post-processing; `field` is `response.get(key, default)`. -/
def Post.apply : Post → PyVal → Except PyExc PyVal
  | .pass, v => .ok v
  | .field key default, v => v.get key default
  | .discard, _ => .ok .none

/-- The standard base64 alphabet (RFC 4648 §4). -/
def b64Alphabet : List Char :=
  "ABCDEFGHIJKLMNOPQRSTUVWXYZabcdefghijklmnopqrstuvwxyz0123456789+/".toList

/-- `base64.b64encode(data).decode()`. -/
def b64encode : List UInt8 → List Char
  | a :: b :: c :: rest =>
    let n := a.toNat * 65536 + b.toNat * 256 + c.toNat
    [n / 262144, n / 4096 % 64, n / 64 % 64, n % 64].map (b64Alphabet.getD · 'A') ++ b64encode rest
  | [a, b] =>
    let n := a.toNat * 65536 + b.toNat * 256
    [n / 262144, n / 4096 % 64, n / 64 % 64].map (b64Alphabet.getD · 'A') ++ ['=']
  | [a] =>
    let n := a.toNat * 65536
    [n / 262144, n / 4096 % 64].map (b64Alphabet.getD · 'A') ++ ['=', '=']
  | [] => []

section
variable (decode : Decoder) (c : Client)

/-- One resource method: one `_request`, then the post-processing. -/
def call (method : Method) (path : String) (json : Option PyVal) (post : Post) : Prog PyVal := do
  let response ← c.request decode method path json
  Prog.lift (post.apply response)

/-- mirrors metaguildnet/api/client.py:33-36 -/
def ClusterAPI.list : Prog PyVal :=
  call decode c .GET "/api/deploy/clusters" none (.field "clusters" (.list []))

/-- mirrors metaguildnet/api/client.py:38-40 -/
def ClusterAPI.get (clusterId : String) : Prog PyVal :=
  call decode c .GET ("/api/deploy/clusters/" ++ clusterId) none .pass

/-- mirrors metaguildnet/api/client.py:42-48 -/
def ClusterAPI.bootstrap (kubeconfig : List UInt8) : Prog PyVal :=
  call decode c .POST "/bootstrap"
    (some (.dict [("cluster", .dict [("kubeconfig", .str (String.mk (b64encode kubeconfig)))])]))
    (.field "clusterId" (.str ""))

/-- mirrors metaguildnet/api/client.py:50-52 -/
def ClusterAPI.updateSettings (clusterId : String) (settings : PyVal) : Prog PyVal :=
  call decode c .PUT ("/api/settings/cluster/" ++ clusterId) (some settings) .discard

/-- mirrors metaguildnet/api/client.py:54-56 -/
def ClusterAPI.getSettings (clusterId : String) : Prog PyVal :=
  call decode c .GET ("/api/settings/cluster/" ++ clusterId) none .pass

/-- mirrors metaguildnet/api/client.py:66-69; `clusterId` is the `WorkspaceAPI`'s own. -/
def WorkspaceAPI.list (clusterId : String) : Prog PyVal :=
  call decode c .GET ("/api/cluster/" ++ clusterId ++ "/servers") none (.field "servers" (.list []))

/-- mirrors metaguildnet/api/client.py:71-73 -/
def WorkspaceAPI.create (clusterId : String) (spec : PyVal) : Prog PyVal :=
  call decode c .POST ("/api/cluster/" ++ clusterId ++ "/workspaces") (some spec) .pass

/-- mirrors metaguildnet/api/client.py:75-77 -/
def WorkspaceAPI.get (clusterId name : String) : Prog PyVal :=
  call decode c .GET ("/api/cluster/" ++ clusterId ++ "/workspaces/" ++ name) none .pass

/-- mirrors metaguildnet/api/client.py:79-81 -/
def WorkspaceAPI.delete (clusterId name : String) : Prog PyVal :=
  call decode c .DELETE ("/api/cluster/" ++ clusterId ++ "/workspaces/" ++ name) none .discard

/-- mirrors metaguildnet/api/client.py:83-86 -/
def WorkspaceAPI.logs (clusterId name : String) (tailLines : Int) : Prog PyVal :=
  call decode c .GET
    ("/api/cluster/" ++ clusterId ++ "/workspaces/" ++ name ++ "/logs?tail=" ++ toString tailLines)
    none .pass

/-- mirrors metaguildnet/api/client.py:96-98 -/
def DatabaseAPI.list (clusterId : String) : Prog PyVal :=
  call decode c .GET ("/api/cluster/" ++ clusterId ++ "/db") none .pass

/-- mirrors metaguildnet/api/client.py:100-103 -/
def DatabaseAPI.create (clusterId name description : String) : Prog PyVal :=
  call decode c .POST ("/api/cluster/" ++ clusterId ++ "/db")
    (some (.dict [("name", .str name), ("description", .str description)])) .pass

/-- mirrors metaguildnet/api/client.py:105-107 -/
def DatabaseAPI.get (clusterId dbId : String) : Prog PyVal :=
  call decode c .GET ("/api/cluster/" ++ clusterId ++ "/db/" ++ dbId) none .pass

/-- mirrors metaguildnet/api/client.py:109-111 -/
def DatabaseAPI.delete (clusterId dbId : String) : Prog PyVal :=
  call decode c .DELETE ("/api/cluster/" ++ clusterId ++ "/db/" ++ dbId) none .discard

/-- mirrors metaguildnet/api/client.py:113-115 -/
def DatabaseAPI.tables (clusterId dbId : String) : Prog PyVal :=
  call decode c .GET ("/api/cluster/" ++ clusterId ++ "/db/" ++ dbId ++ "/tables") none .pass

/-- mirrors metaguildnet/api/client.py:117-119 -/
def DatabaseAPI.createTable (clusterId dbId : String) (table : PyVal) : Prog PyVal :=
  call decode c .POST ("/api/cluster/" ++ clusterId ++ "/db/" ++ dbId ++ "/tables") (some table)
    .discard

/-- mirrors metaguildnet/api/client.py:121-127 -/
def DatabaseAPI.query (clusterId dbId table : String) (limit : Int) : Prog PyVal :=
  call decode c .GET
    ("/api/cluster/" ++ clusterId ++ "/db/" ++ dbId ++ "/tables/" ++ table ++ "/rows?limit=" ++
      toString limit) none (.field "rows" (.list []))

/-- mirrors metaguildnet/api/client.py:129-135 -/
def DatabaseAPI.insert (clusterId dbId table : String) (rows : List PyVal) : Prog PyVal :=
  call decode c .POST ("/api/cluster/" ++ clusterId ++ "/db/" ++ dbId ++ "/tables/" ++ table ++ "/rows")
    (some (.dict [("rows", .list rows)])) (.field "ids" (.list []))

/-- mirrors metaguildnet/api/client.py:144-146 -/
def HealthAPI.globalHealth : Prog PyVal :=
  call decode c .GET "/api/health" none .pass

/-- mirrors metaguildnet/api/client.py:148-150 -/
def HealthAPI.cluster (clusterId : String) : Prog PyVal :=
  call decode c .GET ("/api/cluster/" ++ clusterId ++ "/health") none .pass

/-- `HealthAPI.status`: `True` when `_get("/healthz")` returns, `False` on any exception.
mirrors metaguildnet/api/client.py:152-158 -/
def HealthAPI.status : Prog Bool :=
  tryCatch (do let _ ← c.get decode "/healthz"; pure true) (fun _ => pure false)

end

/-- A status document `{"status": "<s>"}` as a body text. -/
def statusBody (s : String) : String := "\x7b\"status\": \"" ++ s ++ "\"\x7d"

/-- A decoder that agrees with `json.loads` on `{}` and the three status
documents and rejects every other text, for runs whose replies are such
documents. -/
def statusDecoder (t : String) : Except String PyVal :=
  if t = "\x7b\x7d" then .ok (.dict [])
  else if t = statusBody "Running" then .ok (.dict [("status", .str "Running")])
  else if t = statusBody "Pending" then .ok (.dict [("status", .str "Pending")])
  else if t = statusBody "Failed" then .ok (.dict [("status", .str "Failed")])
  else .error "Expecting value: line 1 column 1 (char 0)"

/-- The resource operations with their arguments (the `HealthAPI.status` probe apart). -/
inductive Op where
  | clusterList
  | clusterGet (clusterId : String)
  | clusterBootstrap (kubeconfig : List UInt8)
  | clusterUpdateSettings (clusterId : String) (settings : PyVal)
  | clusterGetSettings (clusterId : String)
  | workspaceList (clusterId : String)
  | workspaceCreate (clusterId : String) (spec : PyVal)
  | workspaceGet (clusterId name : String)
  | workspaceDelete (clusterId name : String)
  | workspaceLogs (clusterId name : String) (tailLines : Int)
  | databaseList (clusterId : String)
  | databaseCreate (clusterId name description : String)
  | databaseGet (clusterId dbId : String)
  | databaseDelete (clusterId dbId : String)
  | databaseTables (clusterId dbId : String)
  | databaseCreateTable (clusterId dbId : String) (table : PyVal)
  | databaseQuery (clusterId dbId table : String) (limit : Int)
  | databaseInsert (clusterId dbId table : String) (rows : List PyVal)
  | healthGlobal
  | healthCluster (clusterId : String)

namespace Op

def run (decode : Decoder) (c : Client) : Op → Prog PyVal
  | clusterList => ClusterAPI.list decode c
  | clusterGet i => ClusterAPI.get decode c i
  | clusterBootstrap k => ClusterAPI.bootstrap decode c k
  | clusterUpdateSettings i s => ClusterAPI.updateSettings decode c i s
  | clusterGetSettings i => ClusterAPI.getSettings decode c i
  | workspaceList i => WorkspaceAPI.list decode c i
  | workspaceCreate i s => WorkspaceAPI.create decode c i s
  | workspaceGet i n => WorkspaceAPI.get decode c i n
  | workspaceDelete i n => WorkspaceAPI.delete decode c i n
  | workspaceLogs i n t => WorkspaceAPI.logs decode c i n t
  | databaseList i => DatabaseAPI.list decode c i
  | databaseCreate i n d => DatabaseAPI.create decode c i n d
  | databaseGet i d => DatabaseAPI.get decode c i d
  | databaseDelete i d => DatabaseAPI.delete decode c i d
  | databaseTables i d => DatabaseAPI.tables decode c i d
  | databaseCreateTable i d t => DatabaseAPI.createTable decode c i d t
  | databaseQuery i d t l => DatabaseAPI.query decode c i d t l
  | databaseInsert i d t r => DatabaseAPI.insert decode c i d t r
  | healthGlobal => HealthAPI.globalHealth decode c
  | healthCluster i => HealthAPI.cluster decode c i

def method : Op → Method
  | clusterBootstrap _ | workspaceCreate _ _ | databaseCreate _ _ _ | databaseCreateTable _ _ _
  | databaseInsert _ _ _ _ => .POST
  | clusterUpdateSettings _ _ => .PUT
  | workspaceDelete _ _ | databaseDelete _ _ => .DELETE
  | _ => .GET

def post : Op → Post
  | clusterList => .field "clusters" (.list [])
  | clusterBootstrap _ => .field "clusterId" (.str "")
  | workspaceList _ => .field "servers" (.list [])
  | databaseQuery _ _ _ _ => .field "rows" (.list [])
  | databaseInsert _ _ _ _ => .field "ids" (.list [])
  | clusterUpdateSettings _ _ | workspaceDelete _ _ | databaseDelete _ _
  | databaseCreateTable _ _ _ => .discard
  | _ => .pass

def path : Op → String
  | clusterList => "/api/deploy/clusters"
  | clusterGet i => "/api/deploy/clusters/" ++ i
  | clusterBootstrap _ => "/bootstrap"
  | clusterUpdateSettings i _ | clusterGetSettings i => "/api/settings/cluster/" ++ i
  | workspaceList i => "/api/cluster/" ++ i ++ "/servers"
  | workspaceCreate i _ => "/api/cluster/" ++ i ++ "/workspaces"
  | workspaceGet i n | workspaceDelete i n => "/api/cluster/" ++ i ++ "/workspaces/" ++ n
  | workspaceLogs i n t => "/api/cluster/" ++ i ++ "/workspaces/" ++ n ++ "/logs?tail=" ++ toString t
  | databaseList i | databaseCreate i _ _ => "/api/cluster/" ++ i ++ "/db"
  | databaseGet i d | databaseDelete i d => "/api/cluster/" ++ i ++ "/db/" ++ d
  | databaseTables i d | databaseCreateTable i d _ => "/api/cluster/" ++ i ++ "/db/" ++ d ++ "/tables"
  | databaseQuery i d t l =>
    "/api/cluster/" ++ i ++ "/db/" ++ d ++ "/tables/" ++ t ++ "/rows?limit=" ++ toString l
  | databaseInsert i d t _ => "/api/cluster/" ++ i ++ "/db/" ++ d ++ "/tables/" ++ t ++ "/rows"
  | healthGlobal => "/api/health"
  | healthCluster i => "/api/cluster/" ++ i ++ "/health"

def json : Op → Option PyVal
  | clusterBootstrap k =>
    some (.dict [("cluster", .dict [("kubeconfig", .str (String.mk (b64encode k)))])])
  | clusterUpdateSettings _ s | workspaceCreate _ s | databaseCreateTable _ _ s => some s
  | databaseCreate _ n d => some (.dict [("name", .str n), ("description", .str d)])
  | databaseInsert _ _ _ r => some (.dict [("rows", .list r)])
  | _ => none

theorem run_eq_call (decode : Decoder) (c : Client) (op : Op) :
    op.run decode c = call decode c op.method op.path op.json op.post := by
  cases op <;> rfl

def outcome (decode : Decoder) (op : Op) (reply : Reply) : Except PyExc PyVal :=
  (respond decode op.method op.path reply).bind op.post.apply

theorem post_of_delete {op : Op} (h : op.method = .DELETE) : op.post = .discard := by
  cases op <;> first | rfl | cases h

theorem outcome_success (decode : Decoder) (op : Op) {s : Nat} (hs : s < 400) (b : String) :
    op.outcome decode (.http s b) = (decodeBody decode op.method b).bind op.post.apply := by
  simp [outcome, respond_success decode hs]

theorem outcome_error_status (decode : Decoder) (op : Op) {s : Nat} (hs : 400 ≤ s) (b : String) :
    ∃ e, classify op.path s b = some e ∧ op.outcome decode (.http s b) = .error e := by
  obtain ⟨e, he, -, hr⟩ := @respond_error_status decode op.method op.path b s hs
  exact ⟨e, he, by rw [outcome, hr]; rfl⟩

theorem run_outcome (decode : Decoder) (c : Client) (op : Op) (w : World) :
    op.run decode c w = (op.outcome decode (w.replies w.sent.length),
      { w with sent := w.sent ++ [c.mkRequest op.method op.path op.json] }) := by
  rw [run_eq_call, call, Prog.bind_run, Client.request_run, outcome]
  cases respond decode op.method op.path (w.replies w.sent.length) <;> rfl

/-- A success reply to a field-reading operation whose payload is not a JSON
object, or whose field is present with a value of another type than the
method's default (`None` included). -/
def IllTypedPayload (decode : Decoder) (op : Op) (s : Nat) (b : String) : Prop :=
  s < 400 ∧ ∃ key default, op.post = .field key default ∧
    ∃ v, decodeBody decode op.method b = .ok v ∧ ((∀ kvs, v ≠ .dict kvs) ∨
      ∃ kvs x, v = .dict kvs ∧ kvs.lookup key = some x ∧ x.typeName ≠ default.typeName)

/-- How a resource operation ends on a reply with status `s` and body `b`.
`decodeBody` is the payload: `None` for `DELETE` or an empty body, else
`json.loads(b)`. -/
inductive Classified (decode : Decoder) (op : Op) (s : Nat) (b : String) :
    Except PyExc PyVal → Prop
  /-- 404 raises `NotFoundError` naming the path. -/
  | notFound : s = 404 → Classified decode op s b (.error (.notFound op.path))
  /-- 401 and 403 raise `UnauthorizedError`. -/
  | unauthorized : s = 401 ∨ s = 403 → Classified decode op s b (.error .unauthorized)
  /-- Any other error status raises a plain `APIError` whose message contains the
  status and the body. -/
  | apiError : 400 ≤ s → s ≠ 404 → s ≠ 401 → s ≠ 403 →
      (toString s).toList <:+: (PyExc.apiError s b).str.toList →
      b.toList <:+: (PyExc.apiError s b).str.toList →
      Classified decode op s b (.error (.apiError s b))
  /-- A `DELETE` returns `None` for every success body. -/
  | deleted : s < 400 → op.method = .DELETE → Classified decode op s b (.ok .none)
  /-- A non-empty success body that is not JSON raises the decoder's own error. -/
  | malformed (msg : String) : s < 400 → op.method ≠ .DELETE → b ≠ "" → decode b = .error msg →
      Classified decode op s b (.error (.decodeError msg))
  /-- `update_settings` and `create_table` return `None` once the body decodes. -/
  | discarded (v : PyVal) : s < 400 → op.post = .discard → decodeBody decode op.method b = .ok v →
      Classified decode op s b (.ok .none)
  /-- The other methods return the payload itself (`None` for an empty body). -/
  | passed (v : PyVal) : s < 400 → op.post = .pass → decodeBody decode op.method b = .ok v →
      Classified decode op s b (.ok v)
  /-- The field methods return the field of an object payload when it has the
  type of the method's default (a list for `list`, `query` and `insert`, a
  string for `bootstrap`), and the default when it is absent. -/
  | field (key : String) (default : PyVal) (kvs : List (String × PyVal)) : s < 400 →
      op.post = .field key default → decodeBody decode op.method b = .ok (.dict kvs) →
      (∀ x, kvs.lookup key = some x → x.typeName = default.typeName) →
      Classified decode op s b (.ok ((kvs.lookup key).getD default))

/-- Every resource operation, on every reply the server can send, ends as
`Classified` says, unless it is a field method meeting a success payload that
is not an object or whose field has another type than the documented one. -/
theorem outcome_classified (decode : Decoder) (op : Op) (s : Nat) (b : String) :
    op.IllTypedPayload decode s b ∨ Classified decode op s b (op.outcome decode (.http s b)) := by
  by_cases hs : 400 ≤ s
  · right
    obtain ⟨e, he, hr⟩ := outcome_error_status decode op hs b
    rw [hr]
    unfold classify at he
    split_ifs at he with h404 hunauth <;> cases he
    · exact .notFound h404
    · exact .unauthorized hunauth
    · have := apiError_mentions s b
      exact .apiError hs h404 (fun h => hunauth (.inl h)) (fun h => hunauth (.inr h)) this.1 this.2
  · have hs' : s < 400 := by omega
    rw [outcome_success decode op hs']
    by_cases hdel : op.method = .DELETE
    · right
      rw [hdel, post_of_delete hdel]
      exact .deleted hs' hdel
    cases hd : decodeBody decode op.method b with
    | error e =>
      obtain ⟨-, hb, msg, hdec, rfl⟩ := (decodeBody_error_iff decode).mp hd
      exact .inr (.malformed msg hs' hdel hb hdec)
    | ok v =>
      cases hp : op.post with
      | pass => exact .inr (.passed v hs' hp hd)
      | discard => exact .inr (.discarded v hs' hp hd)
      | field key default =>
        cases v with
        | dict kvs =>
          cases hk : kvs.lookup key with
          | none => exact .inr (.field key default kvs hs' hp hd fun _ hx => by cases hk ▸ hx)
          | some x =>
            by_cases hx : x.typeName = default.typeName
            · exact .inr (.field key default kvs hs' hp hd fun y hy => by cases hk ▸ hy; exact hx)
            · exact .inl ⟨hs', key, default, hp, _, hd, .inr ⟨kvs, x, rfl, hk, hx⟩⟩
        | _ => exact .inl ⟨hs', key, default, hp, _, hd, .inl fun _ h => by cases h⟩

end Op

/-- `ClusterAPI.list` on an empty 200 body raises `AttributeError` (`None.get`),
and `ClusterAPI.get` on a 200 body that is not JSON raises the decoder's
`JSONDecodeError`: neither is one of the client's classified errors. -/
theorem outcome_unclassified :
    Op.clusterList.outcome statusDecoder (.http 200 "") = .error (.attributeError "NoneType" "get") ∧
      (Op.clusterGet "c1").outcome statusDecoder (.http 200 "ok") =
        .error (.decodeError "Expecting value: line 1 column 1 (char 0)") ∧
      (PyExc.attributeError "NoneType" "get").isApiError = false ∧
      (PyExc.decodeError "Expecting value: line 1 column 1 (char 0)").isApiError = false :=
  ⟨rfl, rfl, rfl, rfl⟩

section
variable (decode : Decoder) (c : Client)

/-- `status()` answers `True` exactly when `_get("/healthz")` returns: a status
below 400 with an empty body or one that decodes as JSON. -/
theorem HealthAPI.status_run (w : World) :
    (HealthAPI.status decode c w).1 = .ok (match respond decode .GET "/healthz"
      (w.replies w.sent.length) with
      | .ok _ => true
      | .error _ => false) := by
  simp only [HealthAPI.status, Prog.tryCatch_run, Prog.bind_run, Client.get, Client.request_run]
  cases respond decode .GET "/healthz" (w.replies w.sent.length) <;> rfl

/-- A healthy server whose `/healthz` body is not JSON (plain `ok`) is reported
down. -/
theorem HealthAPI.status_false_of_undecodable (w : World) {s : Nat} {text msg : String}
    (hr : w.replies w.sent.length = .http s text) (hs : s < 400) (ht : text ≠ "")
    (hd : decode text = .error msg) : (HealthAPI.status decode c w).1 = .ok false := by
  rw [HealthAPI.status_run, hr, respond_success decode hs,
    decodeBody_malformed decode (by decide) ht hd]

end

/-- `/healthz` answering `200 ok`. -/
theorem HealthAPI.status_plain_ok :
    (HealthAPI.status statusDecoder ⟨"https://localhost:8090", ""⟩
      ⟨fun _ => .http 200 "ok", [], [], 0⟩).1 = .ok false :=
  HealthAPI.status_false_of_undecodable statusDecoder _ _ rfl (by decide) (by decide) rfl

end MetaGuildNet.L3
