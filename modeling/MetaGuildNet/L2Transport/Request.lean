import MetaGuildNet.L1Python.Markup

/-!
# `Client._request`: one HTTP exchange and its classification

`Client._request` (metaguildnet/api/client.py:203-229) sends one request to
`base_url + path` and maps the reply:

| reply | result |
|---|---|
| no status line (refused, timeout, DNS, TLS) | the `httpx` error propagates |
| 404 | `NotFoundError("Resource not found: {path}")` |
| 401, 403 | `UnauthorizedError("Unauthorized")` |
| other `>= 400` | `APIError("API error {status}: {text}")` |
| `< 400`, `DELETE` | `None` |
| `< 400`, non-empty body | `response.json()` |
| `< 400`, empty body | `None` |

`response.json()` is the JSON decoder of the standard library; the model takes
it as a parameter (`Decoder`), so every result holds for every decoder.

The Host App and the network are the environment: `World.replies n` is the
reply to the `n`-th request a run sends, and `World.sent` logs the requests, so
a run is checked against every sequence of replies. `Prog` is client code
against that world: it may raise, and what it sent or printed stays.

Results:
* `respond_error_status`: a status `>= 400` raises the classifier's exception,
  one of the client's `APIError`s, whatever the method and body; `classify_*`
  say which one.
* `respond_success`: a status `< 400` yields `None` for `DELETE`, and otherwise
  the decoded body (`None` when empty).
* `apiError_mentions`: the `APIError` message contains the status and the body.
-/
namespace MetaGuildNet.L2

open MetaGuildNet.L1

inductive Method where
  | GET
  | POST
  | PUT
  | DELETE
  deriving DecidableEq, Repr

/-- What came back for one request: a transport failure or a status and body text. -/
inductive Reply where
  | transport (kind : TransportKind) (msg : String)
  | http (status : Nat) (text : String)
  deriving DecidableEq, Repr

/-- `json.loads` on a body text: the decoded value, or the decoder's error message. -/
abbrev Decoder := String → Except String PyVal

/-- The client configuration that shapes a request (client.py:164-177);
`timeout` and `verify` only reach `httpx`, whose behaviour the replies model. -/
structure Client where
  baseUrl : String
  token : String
  deriving DecidableEq, Repr

/-- `Client(base_url, token)`: one trailing run of `/` is stripped. -/
def Client.init (baseUrl token : String) : Client :=
  ⟨baseUrl.dropRightWhile (· = '/'), token⟩

/-- One request as sent: method, path after `base_url`, JSON body and the
`Authorization` header, if any. -/
structure Request where
  method : Method
  path : String
  json : Option PyVal
  auth : Option String
  deriving DecidableEq, Repr

/-- The request `_request(method, path, json=...)` sends; the bearer header only
when a token is configured (client.py:205-209). -/
def Client.mkRequest (c : Client) (method : Method) (path : String) (json : Option PyVal) :
    Request :=
  ⟨method, path, json, if c.token.isEmpty then none else some ("Bearer " ++ c.token)⟩

/-- The Error Classifier: the exception for an error status, `none` below 400.
mirrors metaguildnet/api/client.py:214-221 -/
def classify (path : String) (status : Nat) (text : String) : Option PyExc :=
  if status = 404 then some (.notFound path)
  else if status = 401 ∨ status = 403 then some .unauthorized
  else if status ≥ 400 then some (.apiError status text)
  else none

section
variable (decode : Decoder)

/-- A success body: `None` for `DELETE` or an empty text, else `response.json()`.
mirrors metaguildnet/api/client.py:223-229 -/
def decodeBody (method : Method) (text : String) : Except PyExc PyVal :=
  if method = .DELETE then .ok .none
  else if text = "" then .ok .none
  else (decode text).mapError .decodeError

/-- What `_request` returns, or raises, on a reply.
mirrors metaguildnet/api/client.py:211-229 -/
def respond (method : Method) (path : String) : Reply → Except PyExc PyVal
  | .transport kind msg => .error (.transport kind msg)
  | .http status text =>
    match classify path status text with
    | some e => .error e
    | none => decodeBody decode method text

theorem classify_404 (path text : String) : classify path 404 text = some (.notFound path) := rfl

theorem classify_unauthorized {path text : String} {s : Nat} (h : s = 401 ∨ s = 403) :
    classify path s text = some .unauthorized := by
  rcases h with rfl | rfl <;> rfl

theorem classify_other {path text : String} {s : Nat} (h4 : 400 ≤ s) (h404 : s ≠ 404)
    (h401 : s ≠ 401) (h403 : s ≠ 403) : classify path s text = some (.apiError s text) := by
  simp [classify, h404, h401, h403, h4]

theorem classify_success {path text : String} {s : Nat} (h : s < 400) :
    classify path s text = none := by
  unfold classify; split_ifs <;> first | rfl | (exfalso; omega)

theorem classify_isSome {path text : String} {s : Nat} :
    (classify path s text).isSome ↔ 400 ≤ s := by
  unfold classify; split_ifs with h1 h2 <;> simp only [Option.isSome_some, Option.isSome_none,
    Bool.false_eq_true, false_iff, true_iff] <;> omega

theorem classify_isApiError {path text : String} {s : Nat} {e : PyExc}
    (h : classify path s text = some e) : e.isApiError := by
  unfold classify at h; split_ifs at h <;> cases h <;> rfl

theorem apiError_mentions (s : Nat) (text : String) :
    (toString s).toList <:+: (PyExc.apiError s text).str.toList ∧
      text.toList <:+: (PyExc.apiError s text).str.toList := by
  simp only [PyExc.str, String.toList, String.data_append]
  exact ⟨⟨"API error ".toList, (": " ++ text).toList, by simp⟩, List.suffix_append _ _ |>.isInfix⟩

theorem respond_error_status {method : Method} {path text : String} {s : Nat} (h : 400 ≤ s) :
    ∃ e, classify path s text = some e ∧ e.isApiError ∧
      respond decode method path (.http s text) = .error e := by
  obtain ⟨e, he⟩ := Option.isSome_iff_exists.mp (classify_isSome.mpr h)
  exact ⟨e, he, classify_isApiError he, by simp [respond, he]⟩

theorem respond_success {method : Method} {path text : String} {s : Nat} (h : s < 400) :
    respond decode method path (.http s text) = decodeBody decode method text := by
  simp [respond, classify_success h]

@[simp] theorem decodeBody_delete (text : String) : decodeBody decode .DELETE text = .ok .none := rfl

theorem decodeBody_empty (method : Method) : decodeBody decode method "" = .ok .none := by
  simp [decodeBody]

theorem decodeBody_error_iff {method : Method} {text : String} {e : PyExc} :
    decodeBody decode method text = .error e ↔
      method ≠ .DELETE ∧ text ≠ "" ∧ ∃ msg, decode text = .error msg ∧ e = .decodeError msg := by
  unfold decodeBody
  by_cases hm : method = .DELETE <;> by_cases ht : text = "" <;> simp only [hm, ht, if_true,
    if_false, ne_eq, not_true_eq_false, not_false_eq_true, false_and, true_and, reduceCtorEq]
  cases decode text <;> simp [Except.mapError, eq_comm]

/-- A malformed success body raises the decoder's own error: it is not an `APIError`. -/
theorem decodeBody_malformed {method : Method} {text msg : String} (hm : method ≠ .DELETE)
    (ht : text ≠ "") (hd : decode text = .error msg) :
    decodeBody decode method text = .error (.decodeError msg) :=
  (decodeBody_error_iff decode).mpr ⟨hm, ht, msg, hd, rfl⟩

end

/-- The environment of a run: the reply to each request, in order, the requests
sent so far, the console lines printed so far and the seconds spent in
`time.sleep`. -/
structure World where
  replies : Nat → Reply
  sent : List Request
  out : List String
  clock : Nat

/-- Client code against the Host App: a state-passing function that may raise;
requests sent before a raise stay sent. -/
def Prog (α : Type) : Type := World → Except PyExc α × World

/-- The world before any request: no reply consumed, nothing printed or slept. -/
def World.start : World := ⟨fun _ => .http 0 "", [], [], 0⟩

namespace Prog

instance : Monad Prog where
  pure a := fun w => (.ok a, w)
  bind x f := fun w =>
    match x w with
    | (.ok a, w') => f a w'
    | (.error e, w') => (.error e, w')

instance : MonadExceptOf PyExc Prog where
  throw e := fun w => (.error e, w)
  tryCatch x h := fun w =>
    match x w with
    | (.ok a, w') => (.ok a, w')
    | (.error e, w') => h e w'

def lift {α : Type} (r : Except PyExc α) : Prog α := fun w => (r, w)

/-- `console.print(line)` (or a logger call). `rich` first renders the line's
markup, which raises `MarkupError` on a closing tag that matches nothing
(`Markup.render`); `print` writes the line, which is what `rich` does exactly
when the line renders, and the commands' results say when their lines do
(`World.PrintsRender`). -/
def print (line : String) : Prog Unit := fun w => (.ok (), { w with out := w.out ++ [line] })

/-- `time.sleep(seconds)`. -/
def sleep (seconds : Nat) : Prog Unit := fun w => (.ok (), { w with clock := w.clock + seconds })

/-- `for x in xs: body(x)`. -/
def forEach {α : Type} : List α → (α → Prog Unit) → Prog Unit
  | [], _ => pure ()
  | x :: xs, body => do body x; forEach xs body

variable {α β : Type}

@[simp] theorem pure_run (a : α) (w : World) : (pure a : Prog α) w = (.ok a, w) := rfl

@[simp] theorem throw_run (e : PyExc) (w : World) : (throw e : Prog α) w = (.error e, w) := rfl

@[simp] theorem lift_run (r : Except PyExc α) (w : World) : lift r w = (r, w) := rfl

@[simp] theorem print_run (line : String) (w : World) :
    print line w = (.ok (), { w with out := w.out ++ [line] }) := rfl

@[simp] theorem sleep_run (seconds : Nat) (w : World) :
    sleep seconds w = (.ok (), { w with clock := w.clock + seconds }) := rfl

theorem bind_run (x : Prog α) (f : α → Prog β) (w : World) :
    (x >>= f) w = match x w with
      | (.ok a, w') => f a w'
      | (.error e, w') => (.error e, w') := rfl

theorem tryCatch_run (x : Prog α) (h : PyExc → Prog α) (w : World) :
    (tryCatch x h : Prog α) w = match x w with
      | (.ok a, w') => (.ok a, w')
      | (.error e, w') => h e w' := rfl

theorem bind_ok {x : Prog α} {f : α → Prog β} {w w' : World} {a : α} (h : x w = (.ok a, w')) :
    (x >>= f) w = f a w' := by
  rw [bind_run, h]

theorem bind_error {x : Prog α} {f : α → Prog β} {w w' : World} {e : PyExc}
    (h : x w = (.error e, w')) : (x >>= f) w = (.error e, w') := by
  rw [bind_run, h]

@[simp] theorem lift_ok_bind (a : α) (f : α → Prog β) : (lift (.ok a) >>= f) = f a := rfl

theorem bind_eq_ok {x : Prog α} {f : α → Prog β} {w w' : World} {b : β} :
    (x >>= f) w = (.ok b, w') ↔ ∃ a w₁, x w = (.ok a, w₁) ∧ f a w₁ = (.ok b, w') := by
  rw [bind_run]
  rcases h : x w with ⟨_ | a, w₁⟩
  · simp
  · exact ⟨fun hf => ⟨a, w₁, rfl, hf⟩, fun ⟨_, _, he, hf⟩ => by cases he; exact hf⟩

theorem tryCatch_ok {x : Prog α} {h : PyExc → Prog α} {w w' : World} {a : α}
    (hx : x w = (.ok a, w')) : (tryCatch x h : Prog α) w = (.ok a, w') := by
  rw [tryCatch_run, hx]

theorem tryCatch_error {x : Prog α} {h : PyExc → Prog α} {w w' : World} {e : PyExc}
    (hx : x w = (.error e, w')) : (tryCatch x h : Prog α) w = h e w' := by
  rw [tryCatch_run, hx]

/-- `x` raises in every world. -/
def Raises (x : Prog α) : Prop := ∀ w, ∃ e w', x w = (.error e, w')

namespace Raises

theorem lift_error (e : PyExc) : Raises (Prog.lift (.error e) : Prog α) := fun w => ⟨e, w, rfl⟩

theorem bind_left {x : Prog α} {f : α → Prog β} (hx : Raises x) : Raises (x >>= f) := fun w => by
  obtain ⟨e, w', h⟩ := hx w
  exact ⟨e, w', bind_error h⟩

theorem bind_right {x : Prog α} {f : α → Prog β} (hf : ∀ a, Raises (f a)) :
    Raises (x >>= f) := fun w => by
  rcases h : x w with ⟨_ | a, w'⟩
  · exact ⟨_, w', bind_error h⟩
  · rw [bind_ok h]
    exact hf a w'

end Raises

/-- `x` only prints: it sends nothing, sleeps not, and what it returns and prints
does not depend on the world it runs in. -/
def Quiet (x : Prog α) : Prop :=
  ∃ r lines, ∀ w, x w = (r, { w with out := w.out ++ lines })

namespace Quiet

theorem pure (a : α) : Quiet (Pure.pure a : Prog α) := ⟨.ok a, [], fun _ => by simp⟩

theorem print (line : String) : Quiet (Prog.print line) := ⟨.ok (), [line], fun _ => rfl⟩

theorem lift (r : Except PyExc α) : Quiet (Prog.lift r) := ⟨r, [], fun _ => by simp⟩

theorem throw (e : PyExc) : Quiet (throw e : Prog α) := ⟨.error e, [], fun _ => by simp⟩

theorem bind {x : Prog α} {f : α → Prog β} (hx : Quiet x) (hf : ∀ a, Quiet (f a)) :
    Quiet (x >>= f) := by
  obtain ⟨r, l, hx⟩ := hx
  cases r with
  | error e => exact ⟨.error e, l, fun w => by rw [bind_run, hx]⟩
  | ok a =>
    obtain ⟨r', l', hf⟩ := hf a
    exact ⟨r', l ++ l', fun w => by rw [bind_run, hx]; dsimp only; rw [hf]; simp⟩

theorem ite {p : Prop} [Decidable p] {x y : Prog α} (hx : Quiet x) (hy : Quiet y) :
    Quiet (if p then x else y) := by
  split <;> assumption

theorem forEach {γ : Type} {body : γ → Prog Unit} (hb : ∀ a, Quiet (body a)) :
    ∀ xs, Quiet (Prog.forEach xs body)
  | [] => pure ()
  | x :: xs => bind (hb x) fun _ => forEach hb xs

theorem run {x : Prog α} (hx : Quiet x) (w : World) :
    x w = ((x World.start).1, { w with out := w.out ++ (x World.start).2.out }) := by
  obtain ⟨r, l, hx⟩ := hx
  rw [hx, hx]; simp [World.start]

end Quiet

end Prog

section
variable (decode : Decoder)

/-- `Client._request(method, path, json=...)`: send, log, classify the next reply.
mirrors metaguildnet/api/client.py:203-229 -/
def Client.request (c : Client) (method : Method) (path : String) (json : Option PyVal) :
    Prog PyVal := fun w =>
  (respond decode method path (w.replies w.sent.length),
    { w with sent := w.sent ++ [c.mkRequest method path json] })

/-- mirrors metaguildnet/api/client.py:187-189 (`_get`) -/
def Client.get (c : Client) (path : String) : Prog PyVal := c.request decode .GET path none

/-- mirrors metaguildnet/api/client.py:191-193 (`_post`) -/
def Client.post (c : Client) (path : String) (data : PyVal) : Prog PyVal :=
  c.request decode .POST path (some data)

/-- mirrors metaguildnet/api/client.py:195-197 (`_put`) -/
def Client.put (c : Client) (path : String) (data : PyVal) : Prog PyVal :=
  c.request decode .PUT path (some data)

/-- mirrors metaguildnet/api/client.py:199-201 (`_delete`) -/
def Client.delete (c : Client) (path : String) : Prog Unit := do
  let _ ← c.request decode .DELETE path none

theorem Client.request_run (c : Client) (method : Method) (path : String) (json : Option PyVal)
    (w : World) : c.request decode method path json w =
      (respond decode method path (w.replies w.sent.length),
        { w with sent := w.sent ++ [c.mkRequest method path json] }) := rfl

end

/-! ## What `rich` renders -/

/-- `rich` renders every line a run printed after `w`'s own, whatever the
styles: no `console.print` of the run raised `MarkupError`, and each wrote the
line `Prog.print` writes. -/
def World.PrintsRender (w w' : World) : Prop :=
  ∀ st, ∀ line ∈ w'.out.drop w.out.length, Markup.Renders st line

theorem World.printsRender_iff {w w' : World} {lines : List String} (h : w'.out = w.out ++ lines) :
    w.PrintsRender w' ↔ ∀ st, ∀ line ∈ lines, Markup.Renders st line := by
  simp [World.PrintsRender, h]

/-- The text a command reports for a result: the `str` of the value, or of the
exception. -/
def reported : Except PyExc PyVal → String
  | .ok v => v.toStr
  | .error e => e.str

theorem renders_error (st : Markup.Styles) {e : String} (h : Markup.Free e) :
    Markup.Renders st ("[red]Error:[/red] " ++ e) :=
  Markup.renders_lead st "red" "Error:" (x := " " ++ e) (by decide) (by decide) (Markup.free_append (by decide) h)
    (by simp only [String.append_assoc]; rfl)

theorem renders_done (st : Markup.Styles) {s : String} (h : Markup.Free s) :
    Markup.Renders st ("[green]✓[/green] " ++ s) :=
  Markup.renders_lead st "green" "✓" (x := " " ++ s) (by decide) (by decide) (Markup.free_append (by decide) h)
    (by simp only [String.append_assoc]; rfl)

end MetaGuildNet.L2
