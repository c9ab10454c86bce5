import Mathlib.Data.String.Basic
import MetaGuildNet.L2Transport.Request
import MetaGuildNet.L5App.Config

/-!
# Start-up: the configuration layers and the client they build

Every `mgn` command first runs the group callback `cli`
(metaguildnet/cli/main.py:17-43). It loads the configuration with
`ConfigManager.load` (metaguildnet/config/manager.py:16-29): the built-in
defaults (`_load_defaults`, 38-53), the YAML file merged over them with `_merge`
when the file exists, and the variables `MGN_API_URL`, `MGN_API_TOKEN` and
`MGN_DEFAULT_CLUSTER` stored over that (`_apply_env_overrides`, 67-78). It then
stores the `--api-url` and `--token` options over the result and builds the
`Client` from `cfg["api"]`.

The two options are declared with `envvar=`, so click gives an absent option
the variable's value when that is set and non-empty (`optionValue`):
`MGN_API_URL` and `MGN_API_TOKEN` are read twice.

The file is an input: `none` when it does not exist, else the document
`yaml.safe_load` returned (`Document`), in which every mapping is a
`Node.mapping` with distinct keys. Floats, dates, and mapping keys of other
types than the `PyVal`s are left out, as is Python's `1 == True` between keys.
The environment is `getenv : String → Option String`.

Results:
* `invoke_ok_iff`: `mgn` starts exactly when the document is a mapping or
  false, its `api` entry is absent or a mapping, its `defaults` entry is absent
  or a mapping when `MGN_DEFAULT_CLUSTER` is set, and, unless a URL is given on
  the command line or in `MGN_API_URL`, its `api.base_url` is absent or a
  string. In every other case the callback raises and no command runs.
* `invoke_client`: when it starts, the client's base URL is the first of the
  non-empty `--api-url`, the non-empty `MGN_API_URL`, the file's
  `api.base_url` and `https://localhost:8090`, and its token likewise from
  `--token`, `MGN_API_TOKEN`, the file's `api.token` and `""`.
-/
namespace MetaGuildNet.L5.Config

open MetaGuildNet.L1 MetaGuildNet.L2

/-- A configuration value as `yaml.safe_load` builds it. -/
abbrev Yaml := Node PyVal PyVal

/-- A configuration `dict`: its items in insertion order. -/
abbrev Dict := List (PyVal × Yaml)

mutual
/-- Every mapping in the value has distinct keys, and every `dict` in it is a
mapping. -/
def Node.loadable : Yaml → Bool
  | .leaf (.dict _) => false
  | .leaf _ => true
  | .mapping items => decide (items.map Prod.fst).Nodup && loadableItems items

/-- `Node.loadable` for every value of a mapping. -/
def loadableItems : List (PyVal × Yaml) → Bool
  | [] => true
  | (_, n) :: rest => n.loadable && loadableItems rest
end

/-- A document `yaml.safe_load` returns. -/
structure Document where
  node : Yaml
  loadable : node.loadable = true

/-- `bool(value)`. -/
def Node.truthy : Yaml → Bool
  | .leaf v => v.truthy
  | .mapping items => !items.isEmpty

/-- `value.items()`: only a mapping has it. -/
def Node.items : Yaml → Except PyExc Dict
  | .mapping items => .ok items
  | .leaf v => .error (.attributeError v.typeName "items")

/-- `ConfigManager._load_defaults()`.
mirrors metaguildnet/config/manager.py:38-53 -/
def loadDefaults : Dict :=
  [(.str "api", .mapping [(.str "base_url", .leaf (.str "https://localhost:8090")),
      (.str "token", .leaf (.str "")), (.str "timeout", .leaf (.int 30))]),
    (.str "defaults", .mapping [(.str "cluster", .leaf (.str "")),
      (.str "format", .leaf (.str "table"))]),
    (.str "logging", .mapping [(.str "level", .leaf (.str "info"))])]

/-- `if x:` on a string that may be `None`: the string when it is set and
non-empty. -/
def ifSet (x : Option String) : Option String := x.filter (· != "")

@[simp] theorem ifSet_none : ifSet none = none := rfl

theorem ifSet_eq_some {x : Option String} {s : String} : ifSet x = some s ↔ x = some s ∧ s ≠ "" := by
  simp [ifSet]

/-- `n[key] = value`. -/
def Node.assign (n : Yaml) (key : String) (value : PyVal) : Except PyExc Yaml :=
  match n with
  | .mapping items => .ok (.mapping (setItem items (.str key) (.leaf value)))
  | .leaf v => (v.setItem key value).map .leaf

/-- `if x: config[sec][key] = x`. `config[sec]` is changed in place, so it keeps
its place among the keys. -/
def assignIfSet (config : Dict) (sec key : String) (x : Option String) : Except PyExc Dict :=
  match ifSet x with
  | none => .ok config
  | some s =>
    match config.lookup (.str sec) with
    | none => .error (.keyError ("'" ++ sec ++ "'"))
    | some n => (n.assign key (.str s)).map (setItem config (.str sec))

/-- `ConfigManager._apply_env_overrides(config)`.
mirrors metaguildnet/config/manager.py:67-78 -/
def applyEnvOverrides (config : Dict) (getenv : String → Option String) : Except PyExc Dict := do
  let config ← assignIfSet config "api" "base_url" (getenv "MGN_API_URL")
  let config ← assignIfSet config "api" "token" (getenv "MGN_API_TOKEN")
  assignIfSet config "defaults" "cluster" (getenv "MGN_DEFAULT_CLUSTER")

/-- `ConfigManager.load()`; `doc` is the file's document, `none` when there is
no file. `_merge(config, file_config)` first takes `file_config.items()`.
mirrors metaguildnet/config/manager.py:16-29 -/
def load (doc : Option Document) (getenv : String → Option String) : Except PyExc Dict := do
  let config ← match doc with
    | none => pure loadDefaults
    | some d => do
      let fileConfig := if d.node.truthy then d.node else .mapping []
      pure (merge loadDefaults (← fileConfig.items))
  applyEnvOverrides config getenv

/-- `cfg.get("api", {}).get(key, default)`. -/
def apiGet (cfg : Dict) (key : String) (default : PyVal) : Except PyExc Yaml :=
  match (cfg.lookup (.str "api")).getD (.mapping []) with
  | .mapping items => .ok ((items.lookup (.str key)).getD (.leaf default))
  | .leaf v => (v.get key default).map .leaf

mutual
/-- `repr(value)`. -/
def Node.repr : Yaml → String
  | .leaf v => v.repr
  | .mapping items => "\x7b" ++ reprItems items ++ "\x7d"

/-- The items of a mapping's `repr`. -/
def reprItems : List (PyVal × Yaml) → String
  | [] => ""
  | [(k, n)] => k.repr ++ ": " ++ n.repr
  | (k, n) :: rest => k.repr ++ ": " ++ n.repr ++ ", " ++ reprItems rest
end

/-- `str(value)`. -/
def Node.toStr : Yaml → String
  | .leaf v => v.toStr
  | n => n.repr

/-- What `Client._request` puts after `Bearer ` for a token, `""` when
`if self.token:` fails. `Client.token` holds this text, so `Client.mkRequest`
sends the header the Python client sends. -/
def tokenText (token : Yaml) : String := if token.truthy then token.toStr else ""

/-- `Client(base_url=..., token=...)`: `base_url.rstrip("/")` needs a `str`.
mirrors metaguildnet/api/client.py:164-177 -/
def clientOf (baseUrl token : Yaml) : Except PyExc Client :=
  match baseUrl with
  | .leaf (.str s) => .ok (Client.init s (tokenText token))
  | .leaf v => .error (.attributeError v.typeName "rstrip")
  | .mapping _ => .error (.attributeError "dict" "rstrip")

/-- The `cli` group callback, given the values click resolved for `--api-url`
and `--token`; it stores the configuration and the client in `ctx.obj`.
mirrors metaguildnet/cli/main.py:17-43 -/
def cli (doc : Option Document) (getenv : String → Option String) (apiUrl token : Option String) :
    Except PyExc (Dict × Client) := do
  let cfg ← load doc getenv
  let cfg ← assignIfSet cfg "api" "base_url" apiUrl
  let cfg ← assignIfSet cfg "api" "token" token
  let baseUrl ← apiGet cfg "base_url" (.str "https://localhost:8090")
  let tok ← apiGet cfg "token" (.str "")
  let client ← clientOf baseUrl tok
  pure (cfg, client)

/-- The value click gives an option declared with `envvar=`: the command-line
argument when given, else the variable when it is set and non-empty. -/
def optionValue (arg env : Option String) : Option String := arg.or (ifSet env)

/-- `mgn [--api-url URL] [--token TOKEN] ...`: click resolves the two options and
calls the callback. -/
def invoke (doc : Option Document) (getenv : String → Option String)
    (apiUrlArg tokenArg : Option String) : Except PyExc (Dict × Client) :=
  cli doc getenv (optionValue apiUrlArg (getenv "MGN_API_URL"))
    (optionValue tokenArg (getenv "MGN_API_TOKEN"))

/-! ## Documents -/

theorem bind_eq_ok {ε α β : Type} {x : Except ε α} {f : α → Except ε β} {b : β} :
    x >>= f = .ok b ↔ ∃ a, x = .ok a ∧ f a = .ok b := by
  cases x <;> simp [bind, Except.bind]

theorem loadableItems_lookup : ∀ {items : Dict} {k : PyVal} {n : Yaml},
    loadableItems items = true → items.lookup k = some n → n.loadable = true
  | [], _, _, _, hk => by simp at hk
  | (k', n') :: rest, k, n, h, hk => by
    simp only [loadableItems, Bool.and_eq_true] at h
    rw [List.lookup_cons] at hk
    split at hk
    · cases hk; exact h.1
    · exact loadableItems_lookup h.2 hk

theorem Node.loadable_mapping {items : Dict} (h : (Node.mapping items).loadable = true) :
    (items.map Prod.fst).Nodup ∧ loadableItems items = true := by
  simpa [Node.loadable] using h

theorem Node.loadable_leaf {v : PyVal} (h : (Node.leaf v : Yaml).loadable = true) :
    ∀ kvs, v ≠ .dict kvs := by
  rintro kvs rfl
  simp [Node.loadable] at h

/-- The items the file adds to the defaults: none without a file or for a false
document. -/
def fileItems : Option Document → Except PyExc Dict
  | none => .ok []
  | some d => (if d.node.truthy then d.node else .mapping []).items

theorem load_eq (doc : Option Document) (getenv : String → Option String) :
    load doc getenv = fileItems doc >>= fun o => applyEnvOverrides (merge loadDefaults o) getenv := by
  cases doc with
  | none => rfl
  | some d =>
    simp only [load, fileItems]
    cases (if d.node.truthy then d.node else .mapping []).items <;> rfl

theorem fileItems_loadable {doc : Option Document} {o : Dict} (h : fileItems doc = .ok o) :
    (Node.mapping o).loadable = true := by
  cases doc with
  | none => cases h; rfl
  | some d =>
    simp only [fileItems] at h
    split at h
    · cases hn : d.node with
      | leaf v => rw [hn] at h; cases h
      | mapping items => rw [hn] at h; cases h; exact hn ▸ d.loadable
    · cases h; rfl

/-! ## One store: `if x: config[sec][key] = x` -/

/-- `if x: m[key] = x` on a mapping's items. -/
def storeIfSet (m : Dict) (key : String) (x : Option String) : Dict :=
  match ifSet x with
  | some s => setItem m (.str key) (.leaf (.str s))
  | none => m

theorem lookup_storeIfSet (m : Dict) (key : String) (x : Option String) (k : PyVal) :
    (storeIfSet m key x).lookup k =
      if k = .str key then ((ifSet x).map (.leaf ∘ .str)).or (m.lookup k) else m.lookup k := by
  cases hx : ifSet x with
  | none => simp only [storeIfSet, hx]; split <;> rfl
  | some s => simp only [storeIfSet, hx, lookup_setItem]; split <;> rfl

theorem assignIfSet_unset {x : Option String} (h : ifSet x = none) (config : Dict) (sec key : String) :
    assignIfSet config sec key x = .ok config := by
  simp [assignIfSet, h]

theorem assignIfSet_mapping {config m : Dict} {sec : String}
    (h : config.lookup (.str sec) = some (.mapping m)) (key : String) (x : Option String) :
    ∃ config', assignIfSet config sec key x = .ok config' ∧
      config'.lookup (.str sec) = some (.mapping (storeIfSet m key x)) := by
  cases hx : ifSet x with
  | none => exact ⟨config, assignIfSet_unset hx .., by simpa [storeIfSet, hx] using h⟩
  | some s =>
    refine ⟨setItem config (.str sec) (.mapping (setItem m (.str key) (.leaf (.str s)))), ?_, ?_⟩
    · simp [assignIfSet, hx, h, Node.assign, Except.map]
    · simp [storeIfSet, hx, lookup_setItem]

theorem assignIfSet_leaf {config config' : Dict} {sec key : String} {x : Option String}
    {v : PyVal} (h : config.lookup (.str sec) = some (.leaf v)) (hv : ∀ kvs, v ≠ .dict kvs)
    (hok : assignIfSet config sec key x = .ok config') : ifSet x = none ∧ config' = config := by
  unfold assignIfSet at hok
  cases hx : ifSet x with
  | none => rw [hx] at hok; exact ⟨rfl, (Except.ok.inj hok).symm⟩
  | some s =>
    rw [hx] at hok
    simp only [h, Node.assign] at hok
    cases v with
    | dict kvs => exact absurd rfl (hv kvs)
    | _ => simp [PyVal.setItem, Except.map] at hok

theorem assignIfSet_frame {config config' : Dict} {sec key : String} {x : Option String}
    (hok : assignIfSet config sec key x = .ok config') {k : PyVal} (hk : k ≠ .str sec) :
    config'.lookup k = config.lookup k := by
  unfold assignIfSet at hok
  split at hok
  · cases hok; rfl
  · split at hok
    · cases hok
    · rename_i n _
      cases hn : n.assign key (.str ‹String›) with
      | error e => rw [hn] at hok; cases hok
      | ok n' =>
        rw [hn] at hok
        cases hok
        rw [lookup_setItem, if_neg hk]

theorem apiGet_mapping {config m : Dict} (h : config.lookup (.str "api") = some (.mapping m))
    (key : String) (default : PyVal) :
    apiGet config key default = .ok ((m.lookup (.str key)).getD (.leaf default)) := by
  simp [apiGet, h]

theorem apiGet_leaf {config : Dict} {v : PyVal} (h : config.lookup (.str "api") = some (.leaf v))
    (hv : ∀ kvs, v ≠ .dict kvs) (key : String) (default : PyVal) :
    apiGet config key default = .error (.attributeError v.typeName "get") := by
  cases v with
  | dict kvs => exact absurd rfl (hv kvs)
  | _ => simp [apiGet, h, PyVal.get, Except.map]

/-! ## The layers -/

def SectionOk (o : Dict) (sec : String) : Prop :=
  ∀ n, o.lookup (.str sec) = some n → n.isMapping = true

/-- The file's value at `api.key`. -/
def fileApi (o : Dict) (key : String) : Option Yaml :=
  match o.lookup (.str "api") with
  | some (.mapping items) => items.lookup (.str key)
  | _ => none

/-- The first of the non-empty command-line value and the non-empty variable. -/
def override (arg env : Option String) : Option String := (ifSet arg).or (ifSet env)

theorem merge_section {o dm : Dict} {sec : String} (ho : (o.map Prod.fst).Nodup)
    (hd : loadDefaults.lookup (.str sec) = some (.mapping dm)) :
    (merge loadDefaults o).lookup (.str sec) =
      match o.lookup (.str sec) with
      | some (.mapping a) => some (.mapping (merge dm a))
      | some (.leaf v) => some (.leaf v)
      | none => some (.mapping dm) := by
  rw [merge_lookup loadDefaults ho, hd]
  generalize o.lookup (.str sec) = r
  rcases r with _ | (_ | _) <;> rfl

theorem merged_api {o : Dict} (hl : (Node.mapping o).loadable = true) (ha : SectionOk o "api") :
    ∃ a0, (merge loadDefaults o).lookup (.str "api") = some (.mapping a0) ∧
      a0.lookup (.str "base_url") =
        some ((fileApi o "base_url").getD (.leaf (.str "https://localhost:8090"))) ∧
      a0.lookup (.str "token") = some ((fileApi o "token").getD (.leaf (.str ""))) := by
  obtain ⟨hnd, hitems⟩ := Node.loadable_mapping hl
  rw [@merge_section o _ "api" hnd rfl]
  cases hapi : o.lookup (.str "api") with
  | none => exact ⟨_, rfl, by simp only [fileApi, hapi]; rfl, by simp only [fileApi, hapi]; rfl⟩
  | some n =>
    cases n with
    | leaf v => exact absurd (ha _ hapi) (by simp [Node.isMapping])
    | mapping a =>
      have hand := (Node.loadable_mapping (loadableItems_lookup hitems hapi)).1
      refine ⟨_, rfl, ?_, ?_⟩ <;> simp only [merge_lookup _ hand, fileApi, hapi] <;>
        (cases a.lookup _ with
          | none => rfl
          | some n => cases n <;> rfl)

theorem ifSet_ifSet (x : Option String) : ifSet (ifSet x) = ifSet x := by
  cases x with
  | none => rfl
  | some s => by_cases h : s = "" <;> simp [ifSet, Option.filter_some, h]

theorem ifSet_optionValue_or (arg env : Option String) :
    (ifSet (optionValue arg env)).or (ifSet env) = override arg env := by
  cases arg with
  | none => simp [optionValue, override, ifSet_ifSet, Option.or_self]
  | some s => rfl

theorem lookup_apiStores_baseUrl (a0 : Dict) (u₁ t₁ u₂ t₂ : Option String) :
    (storeIfSet (storeIfSet (storeIfSet (storeIfSet a0 "base_url" u₁) "token" t₁)
      "base_url" u₂) "token" t₂).lookup (.str "base_url") =
      (((ifSet u₂).or (ifSet u₁)).map (.leaf ∘ .str)).or (a0.lookup (.str "base_url")) := by
  simp [lookup_storeIfSet, Option.map_or', Option.or_assoc]

theorem lookup_apiStores_token (a0 : Dict) (u₁ t₁ u₂ t₂ : Option String) :
    (storeIfSet (storeIfSet (storeIfSet (storeIfSet a0 "base_url" u₁) "token" t₁)
      "base_url" u₂) "token" t₂).lookup (.str "token") =
      (((ifSet t₂).or (ifSet t₁)).map (.leaf ∘ .str)).or (a0.lookup (.str "token")) := by
  simp [lookup_storeIfSet, Option.map_or', Option.or_assoc]

/-! ## The callback -/

theorem invoke_eq (doc : Option Document) (getenv : String → Option String)
    (apiUrlArg tokenArg : Option String) :
    invoke doc getenv apiUrlArg tokenArg = (do
      let o ← fileItems doc
      let cfg ← assignIfSet (merge loadDefaults o) "api" "base_url" (getenv "MGN_API_URL")
      let cfg ← assignIfSet cfg "api" "token" (getenv "MGN_API_TOKEN")
      let cfg ← assignIfSet cfg "defaults" "cluster" (getenv "MGN_DEFAULT_CLUSTER")
      let cfg ← assignIfSet cfg "api" "base_url" (optionValue apiUrlArg (getenv "MGN_API_URL"))
      let cfg ← assignIfSet cfg "api" "token" (optionValue tokenArg (getenv "MGN_API_TOKEN"))
      let baseUrl ← apiGet cfg "base_url" (.str "https://localhost:8090")
      let tok ← apiGet cfg "token" (.str "")
      let client ← clientOf baseUrl tok
      pure (cfg, client)) := by
  simp only [invoke, cli, load_eq, applyEnvOverrides, bind_assoc]

/-- What `cfg["api"]["base_url"]` holds when the client is built. -/
def baseUrlNode (o : Dict) (apiUrlArg env : Option String) : Yaml :=
  match override apiUrlArg env with
  | some u => .leaf (.str u)
  | none => (fileApi o "base_url").getD (.leaf (.str "https://localhost:8090"))

/-- What `cfg["api"]["token"]` holds when the client is built. -/
def tokenNode (o : Dict) (tokenArg env : Option String) : Yaml :=
  match override tokenArg env with
  | some t => .leaf (.str t)
  | none => (fileApi o "token").getD (.leaf (.str ""))

theorem getD_map_or_some {α : Type} (x : Option String) (f : String → α) (b d : α) :
    ((x.map f).or (some b)).getD d = match x with | some u => f u | none => b := by
  cases x <;> rfl

/-- With the file's `api` entry, and its `defaults` entry when `MGN_DEFAULT_CLUSTER`
is set, absent or mappings, every store succeeds and the callback builds the
client from what the layers leave at `api.base_url` and `api.token`. -/
theorem invoke_sections {doc : Option Document} {o : Dict} {getenv : String → Option String}
    (ho : fileItems doc = .ok o) (ha : SectionOk o "api")
    (hd : (ifSet (getenv "MGN_DEFAULT_CLUSTER")).isSome → SectionOk o "defaults")
    (apiUrlArg tokenArg : Option String) :
    ∃ cfg, invoke doc getenv apiUrlArg tokenArg =
      (clientOf (baseUrlNode o apiUrlArg (getenv "MGN_API_URL"))
        (tokenNode o tokenArg (getenv "MGN_API_TOKEN"))).map (cfg, ·) := by
  have hl := fileItems_loadable ho
  obtain ⟨a0, h0, hbu, htok⟩ := merged_api hl ha
  obtain ⟨c1, e1, h1⟩ := assignIfSet_mapping h0 "base_url" (getenv "MGN_API_URL")
  obtain ⟨c2, e2, h2⟩ := assignIfSet_mapping h1 "token" (getenv "MGN_API_TOKEN")
  obtain ⟨c3, e3, h3⟩ : ∃ c3, assignIfSet c2 "defaults" "cluster" (getenv "MGN_DEFAULT_CLUSTER") =
      .ok c3 ∧ c3.lookup (.str "api") = c2.lookup (.str "api") := by
    cases hc : ifSet (getenv "MGN_DEFAULT_CLUSTER") with
    | none => exact ⟨c2, assignIfSet_unset hc .., rfl⟩
    | some _ =>
      have hdo := hd (by simp [hc])
      obtain ⟨dm, hdm⟩ : ∃ m, (merge loadDefaults o).lookup (.str "defaults") = some (.mapping m) := by
        rw [@merge_section o _ "defaults" (Node.loadable_mapping hl).1 rfl]
        cases hdl : o.lookup (.str "defaults") with
        | none => exact ⟨_, rfl⟩
        | some n =>
          cases n with
          | leaf v => exact absurd (hdo _ hdl) (by simp [Node.isMapping])
          | mapping a => exact ⟨_, rfl⟩
      have hdm2 : c2.lookup (.str "defaults") = some (.mapping dm) := by
        rw [assignIfSet_frame e2 (by decide), assignIfSet_frame e1 (by decide), hdm]
      obtain ⟨c3, e3, -⟩ := assignIfSet_mapping hdm2 "cluster" (getenv "MGN_DEFAULT_CLUSTER")
      exact ⟨c3, e3, assignIfSet_frame e3 (by decide)⟩
  obtain ⟨c4, e4, h4⟩ :=
    assignIfSet_mapping (h3.trans h2) "base_url" (optionValue apiUrlArg (getenv "MGN_API_URL"))
  obtain ⟨c5, e5, h5⟩ :=
    assignIfSet_mapping h4 "token" (optionValue tokenArg (getenv "MGN_API_TOKEN"))
  refine ⟨c5, ?_⟩
  rw [invoke_eq, ho]
  simp only [bind, Except.bind, e1, e2, e3, e4, e5, apiGet_mapping h5,
    lookup_apiStores_baseUrl, lookup_apiStores_token, hbu, htok, ifSet_optionValue_or,
    getD_map_or_some, baseUrlNode, tokenNode, Function.comp]
  cases clientOf _ _ <;> rfl

/-- An `api` entry of the file that is not a mapping stops the callback: a store
into it raises `TypeError`, and without one `.get` on it raises `AttributeError`. -/
theorem invoke_api_leaf {doc : Option Document} {o : Dict} {v : PyVal}
    {getenv : String → Option String} (ho : fileItems doc = .ok o)
    (hv : o.lookup (.str "api") = some (.leaf v)) (apiUrlArg tokenArg : Option String)
    (r : Dict × Client) : invoke doc getenv apiUrlArg tokenArg ≠ .ok r := by
  intro h
  obtain ⟨hnd, hitems⟩ := Node.loadable_mapping (fileItems_loadable ho)
  have hvd := Node.loadable_leaf (loadableItems_lookup hitems hv)
  have h0 : (merge loadDefaults o).lookup (.str "api") = some (.leaf v) := by
    rw [@merge_section o _ "api" hnd rfl, hv]
  rw [invoke_eq, ho] at h
  simp only [bind_eq_ok] at h
  obtain ⟨_, ⟨⟩, c1, e1, c2, e2, c3, e3, c4, e4, c5, e5, b, eb, -⟩ := h
  obtain ⟨-, rfl⟩ := assignIfSet_leaf h0 hvd e1
  obtain ⟨-, rfl⟩ := assignIfSet_leaf h0 hvd e2
  have h3 := (assignIfSet_frame e3 (by decide)).trans h0
  obtain ⟨-, rfl⟩ := assignIfSet_leaf h3 hvd e4
  obtain ⟨-, rfl⟩ := assignIfSet_leaf h3 hvd e5
  rw [apiGet_leaf h3 hvd] at eb
  cases eb

/-- A `defaults` entry of the file that is not a mapping stops the callback when
`MGN_DEFAULT_CLUSTER` is set: `load` stores the cluster into it. -/
theorem invoke_defaults_leaf {doc : Option Document} {o : Dict} {v : PyVal}
    {getenv : String → Option String} (ho : fileItems doc = .ok o)
    (hv : o.lookup (.str "defaults") = some (.leaf v))
    (hc : (ifSet (getenv "MGN_DEFAULT_CLUSTER")).isSome) (apiUrlArg tokenArg : Option String)
    (r : Dict × Client) : invoke doc getenv apiUrlArg tokenArg ≠ .ok r := by
  intro h
  obtain ⟨hnd, hitems⟩ := Node.loadable_mapping (fileItems_loadable ho)
  have hvd := Node.loadable_leaf (loadableItems_lookup hitems hv)
  have h0 : (merge loadDefaults o).lookup (.str "defaults") = some (.leaf v) := by
    rw [@merge_section o _ "defaults" hnd rfl, hv]
  rw [invoke_eq, ho] at h
  simp only [bind_eq_ok] at h
  obtain ⟨_, ⟨⟩, c1, e1, c2, e2, c3, e3, -⟩ := h
  have h2 := (assignIfSet_frame e2 (by decide)).trans ((assignIfSet_frame e1 (by decide)).trans h0)
  rw [(assignIfSet_leaf h2 hvd e3).1] at hc
  cases hc

theorem clientOf_ok {baseUrl token : Yaml} {c : Client} (h : clientOf baseUrl token = .ok c) :
    ∃ s, baseUrl = .leaf (.str s) := by
  cases baseUrl with
  | leaf v => cases v <;> first | exact ⟨_, rfl⟩ | simp [clientOf] at h
  | mapping => simp [clientOf] at h

/-! ## When `mgn` starts, and with which client -/

/-- What the file's items `o` must satisfy for `mgn` to start. -/
structure Starts (o : Dict) (getenv : String → Option String) (apiUrlArg : Option String) :
    Prop where
  api : SectionOk o "api"
  defaults : (ifSet (getenv "MGN_DEFAULT_CLUSTER")).isSome → SectionOk o "defaults"
  baseUrl : override apiUrlArg (getenv "MGN_API_URL") = none →
    ∀ n, fileApi o "base_url" = some n → ∃ s, n = .leaf (.str s)

/-- The base URL the layers give: `--api-url`, `MGN_API_URL`, the file, the
default, the first that is set. -/
def baseUrlSpec (o : Dict) (apiUrlArg env : Option String) : String :=
  match override apiUrlArg env with
  | some u => u
  | none =>
    match fileApi o "base_url" with
    | some (.leaf (.str s)) => s
    | _ => "https://localhost:8090"

/-- The token text the layers give: `--token`, `MGN_API_TOKEN`, the file's
value, `""`. -/
def tokenSpec (o : Dict) (tokenArg env : Option String) : String :=
  match override tokenArg env with
  | some t => t
  | none => tokenText ((fileApi o "token").getD (.leaf (.str "")))

theorem override_ne_empty {arg env : Option String} {s : String} (h : override arg env = some s) :
    s ≠ "" := by
  rcases Option.or_eq_some.mp h with h | ⟨-, h⟩ <;> exact (ifSet_eq_some.mp h).2

theorem tokenText_tokenNode (o : Dict) (tokenArg env : Option String) :
    tokenText (tokenNode o tokenArg env) = tokenSpec o tokenArg env := by
  unfold tokenNode tokenSpec
  cases h : override tokenArg env with
  | none => rfl
  | some t =>
    simp [tokenText, Node.truthy, PyVal.truthy, Node.toStr, PyVal.toStr, String.isEmpty_iff,
      override_ne_empty h]

theorem clientOf_nodes {o : Dict} {apiUrlArg urlEnv : Option String}
    (hb : override apiUrlArg urlEnv = none →
      ∀ n, fileApi o "base_url" = some n → ∃ s, n = .leaf (.str s))
    (tokenArg tokenEnv : Option String) :
    clientOf (baseUrlNode o apiUrlArg urlEnv) (tokenNode o tokenArg tokenEnv) =
      .ok (Client.init (baseUrlSpec o apiUrlArg urlEnv) (tokenSpec o tokenArg tokenEnv)) := by
  rw [← tokenText_tokenNode]
  unfold baseUrlNode baseUrlSpec
  cases hu : override apiUrlArg urlEnv with
  | some u => rfl
  | none =>
    cases hf : fileApi o "base_url" with
    | none => rfl
    | some n => obtain ⟨s, rfl⟩ := hb hu n hf; rfl

/-- When `mgn` starts, the client connects to the first of the non-empty
`--api-url`, the non-empty `MGN_API_URL`, the file's `api.base_url` and
`https://localhost:8090`, with the first of the non-empty `--token`, the
non-empty `MGN_API_TOKEN`, the file's `api.token` and `""`. -/
theorem invoke_client {doc : Option Document} {o : Dict} {getenv : String → Option String}
    {apiUrlArg : Option String} (ho : fileItems doc = .ok o) (hs : Starts o getenv apiUrlArg)
    (tokenArg : Option String) :
    ∃ cfg, invoke doc getenv apiUrlArg tokenArg =
      .ok (cfg, Client.init (baseUrlSpec o apiUrlArg (getenv "MGN_API_URL"))
        (tokenSpec o tokenArg (getenv "MGN_API_TOKEN"))) := by
  obtain ⟨cfg, h⟩ := invoke_sections ho hs.api hs.defaults apiUrlArg tokenArg
  exact ⟨cfg, by rw [h, clientOf_nodes hs.baseUrl]; rfl⟩

/-- `mgn` starts exactly when the file's items satisfy `Starts`: in every other
case the group callback raises before any command runs. -/
theorem invoke_ok_iff (doc : Option Document) (getenv : String → Option String)
    (apiUrlArg tokenArg : Option String) :
    (∃ r, invoke doc getenv apiUrlArg tokenArg = .ok r) ↔
      ∃ o, fileItems doc = .ok o ∧ Starts o getenv apiUrlArg := by
  constructor
  · rintro ⟨r, h⟩
    obtain ⟨o, ho, -⟩ := bind_eq_ok.mp ((invoke_eq doc getenv apiUrlArg tokenArg).symm.trans h)
    have ha : SectionOk o "api" := fun n hn => by
      cases n with
      | mapping => rfl
      | leaf v => exact absurd h (invoke_api_leaf ho hn apiUrlArg tokenArg r)
    have hd : (ifSet (getenv "MGN_DEFAULT_CLUSTER")).isSome → SectionOk o "defaults" :=
      fun hc n hn => by
        cases n with
        | mapping => rfl
        | leaf v => exact absurd h (invoke_defaults_leaf ho hn hc apiUrlArg tokenArg r)
    refine ⟨o, ho, ha, hd, fun hu n hn => ?_⟩
    obtain ⟨cfg, hcfg⟩ := invoke_sections ho ha hd apiUrlArg tokenArg
    rw [hcfg] at h
    cases hc : clientOf (baseUrlNode o apiUrlArg (getenv "MGN_API_URL"))
        (tokenNode o tokenArg (getenv "MGN_API_TOKEN")) with
    | error e => rw [hc] at h; cases h
    | ok c => simpa [baseUrlNode, hu, hn] using clientOf_ok hc
  · rintro ⟨o, ho, hs⟩
    obtain ⟨cfg, h⟩ := invoke_sections ho hs.api hs.defaults apiUrlArg tokenArg
    exact ⟨_, by rw [h, clientOf_nodes hs.baseUrl]; rfl⟩

/-- The file `api: {base_url: "https://guild.example:8090/", token: s3cr3t}`. -/
def guildDocument : Document :=
  ⟨.mapping [(.str "api", .mapping [(.str "base_url", .leaf (.str "https://guild.example:8090/")),
    (.str "token", .leaf (.str "s3cr3t"))])], by decide⟩

/-- With that file and `MGN_API_TOKEN=envtok`, `mgn` connects to the file's URL
with the variable's token. -/
theorem invoke_client_guild :
    ∃ cfg, invoke (some guildDocument) (fun v => if v = "MGN_API_TOKEN" then some "envtok" else none)
      none none = .ok (cfg, Client.init "https://guild.example:8090/" "envtok") :=
  @invoke_client (some guildDocument) _
    (fun v => if v = "MGN_API_TOKEN" then some "envtok" else none) none rfl
    ⟨fun n h => by cases h; rfl, fun h => absurd h (by decide),
      fun _ n h => ⟨_, by cases h; rfl⟩⟩ none

end MetaGuildNet.L5.Config
