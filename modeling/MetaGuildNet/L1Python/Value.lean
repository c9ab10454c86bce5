import Mathlib.Data.List.Infix

/-!
# Python values and exceptions as the client code sees them

Everything the CLI, the dashboards and the runner read from the Host App is a
decoded JSON document (`response.json()`), so a Python value here is a JSON
value: `None`, a `bool`, an `int`, a `str`, a `list` or a `dict` with string
keys, in insertion order. Non-integral JSON numbers behave like `int` in every
operation the modelled code applies to them (`.get`, `[:12]`, iteration, `str`),
so they are not a separate case.

The operations are the few the code applies to such values, each with the
exception CPython raises when the value has the wrong type:

* `get`: `d.get(k, default)`; `AttributeError` on anything but a `dict`.
* `sliceTo`: `v[:n]`; `TypeError` on `None`, `bool`, `int` and `dict`.
* `iter`: `for x in v`; a `dict` yields its keys, a `str` its characters.
* `keys`, `values`: `d.keys()`, `d.values()`, in insertion order.
* `truthy`, `toStr`, `repr`: `bool(v)`, `str(v)`, `repr(v)`.

`PyExc` lists the exception classes that reach a handler in the modelled code,
with the fields their messages are built from; `PyExc.str` is `str(e)`.
-/
namespace MetaGuildNet.L1

inductive PyVal where
  | none
  | bool (b : Bool)
  | int (n : Int)
  | str (s : String)
  | list (xs : List PyVal)
  | dict (kvs : List (String × PyVal))
  deriving Repr, Inhabited

namespace PyVal

mutual
/-- Equality of decoded values (nested, so written out by hand). -/
def decEq : (a b : PyVal) → Decidable (a = b)
  | none, none => isTrue rfl
  | bool a, bool b => if h : a = b then isTrue (h ▸ rfl) else isFalse (fun e => h (bool.inj e))
  | int a, int b => if h : a = b then isTrue (h ▸ rfl) else isFalse (fun e => h (int.inj e))
  | str a, str b => if h : a = b then isTrue (h ▸ rfl) else isFalse (fun e => h (str.inj e))
  | list a, list b => match decEqList a b with
    | isTrue h => isTrue (h ▸ rfl)
    | isFalse h => isFalse (fun e => h (list.inj e))
  | dict a, dict b => match decEqDict a b with
    | isTrue h => isTrue (h ▸ rfl)
    | isFalse h => isFalse (fun e => h (dict.inj e))
  | none, bool _ | none, int _ | none, str _ | none, list _ | none, dict _
  | bool _, none | bool _, int _ | bool _, str _ | bool _, list _ | bool _, dict _
  | int _, none | int _, bool _ | int _, str _ | int _, list _ | int _, dict _
  | str _, none | str _, bool _ | str _, int _ | str _, list _ | str _, dict _
  | list _, none | list _, bool _ | list _, int _ | list _, str _ | list _, dict _
  | dict _, none | dict _, bool _ | dict _, int _ | dict _, str _ | dict _, list _ =>
    isFalse (fun e => PyVal.noConfusion e)
def decEqList : (a b : List PyVal) → Decidable (a = b)
  | [], [] => isTrue rfl
  | x :: xs, y :: ys => match decEq x y, decEqList xs ys with
    | isTrue h1, isTrue h2 => isTrue (h1 ▸ h2 ▸ rfl)
    | isFalse h1, _ => isFalse (fun e => h1 (List.cons.inj e).1)
    | _, isFalse h2 => isFalse (fun e => h2 (List.cons.inj e).2)
  | [], _ :: _ | _ :: _, [] => isFalse (fun e => List.noConfusion e)
def decEqDict : (a b : List (String × PyVal)) → Decidable (a = b)
  | [], [] => isTrue rfl
  | (k, x) :: xs, (l, y) :: ys =>
    if hk : k = l then match decEq x y, decEqDict xs ys with
      | isTrue h1, isTrue h2 => isTrue (hk ▸ h1 ▸ h2 ▸ rfl)
      | isFalse h1, _ => isFalse (fun e => h1 (Prod.mk.inj (List.cons.inj e).1).2)
      | _, isFalse h2 => isFalse (fun e => h2 (List.cons.inj e).2)
    else isFalse (fun e => hk (Prod.mk.inj (List.cons.inj e).1).1)
  | [], _ :: _ | _ :: _, [] => isFalse (fun e => List.noConfusion e)
end

instance : DecidableEq PyVal := decEq

/-- `type(v).__name__`, as CPython spells it in its error messages. -/
def typeName : PyVal → String
  | none => "NoneType"
  | bool _ => "bool"
  | int _ => "int"
  | str _ => "str"
  | list _ => "list"
  | dict _ => "dict"

/-- `bool(v)`: the falsy values are `None`, `False`, `0` and the empty containers. -/
def truthy : PyVal → Bool
  | none => false
  | bool b => b
  | int n => n != 0
  | str s => !s.isEmpty
  | list xs => !xs.isEmpty
  | dict kvs => !kvs.isEmpty

/-- `v == "<lit>"`: only a `str` with that text compares equal. -/
def eqStr (v : PyVal) (lit : String) : Bool :=
  match v with
  | str s => s == lit
  | _ => false

/-- A hexadecimal digit as `%x` writes it, for `n < 16`. -/
def hexDigit (n : Nat) : Char := Char.ofNat (if n < 10 then 48 + n else 87 + n)

/-- One character of a `str`'s `repr` quoted with `q`: the quote and `\` behind
a backslash, `\t`, `\n` and `\r` by name, and the other characters that are
not printable in Latin-1 (the controls, `DEL` to `NBSP`, the soft hyphen) as
`\xhh`. CPython asks the Unicode database whether a character above U+00FF is
printable; the model takes every one to be. -/
def escapeChar (q : Char) (c : Char) : String :=
  if c = q ∨ c = '\\' then "\\" ++ c.toString
  else if c = '\t' then "\\t"
  else if c = '\n' then "\\n"
  else if c = '\r' then "\\r"
  else if c.toNat < 32 ∨ (127 ≤ c.toNat ∧ c.toNat ≤ 160) ∨ c.toNat = 173 then
    "\\x" ++ (hexDigit (c.toNat / 16)).toString ++ (hexDigit (c.toNat % 16)).toString
  else c.toString

/-- `repr(s)` for a `str`, as CPython's `str.__repr__` writes it: quoted with
`'`, or with `"` when `s` holds a `'` and no `"`. -/
def strRepr (s : String) : String :=
  let q := if s.toList.contains '\x27' && !s.toList.contains '"' then '"' else '\x27'
  q.toString ++ String.join (s.toList.map (escapeChar q)) ++ q.toString

example : strRepr "it's" = "\"it's\"" := by decide
example : strRepr "both ' and \"" = "'both \\' and \"'" := by decide
example : strRepr "x\x1b\xa0é\n" = "'x\\x1b\\xa0é\\n'" := by decide

mutual
/-- `repr(v)`. -/
def repr : PyVal → String
  | none => "None"
  | bool true => "True"
  | bool false => "False"
  | int n => toString n
  | str s => strRepr s
  | list xs => "[" ++ reprList xs ++ "]"
  | dict kvs => "\x7b" ++ reprDict kvs ++ "\x7d"
def reprList : List PyVal → String
  | [] => ""
  | [x] => repr x
  | x :: xs => repr x ++ ", " ++ reprList xs
def reprDict : List (String × PyVal) → String
  | [] => ""
  | [(k, v)] => strRepr k ++ ": " ++ repr v
  | (k, v) :: kvs => strRepr k ++ ": " ++ repr v ++ ", " ++ reprDict kvs
end

/-- `str(v)`, as an f-string interpolates it: the text of a `str`, else `repr(v)`. -/
def toStr : PyVal → String
  | str s => s
  | v => repr v

end PyVal

inductive TransportKind where
  | refused
  | connectTimeout
  | readTimeout
  | dns
  | tls
  deriving DecidableEq, Repr

/-- The exceptions that reach a handler in the modelled code.

* `notFound`, `unauthorized`, `apiError`: `NotFoundError`, `UnauthorizedError`,
  `APIError` (metaguildnet/api/client.py:9-24), with what `_request` builds
  their messages from.
* `transport`: an `httpx.TransportError` (or a `requests.RequestException`);
  neither library derives these from the builtin `ConnectionError`.
* `connectionError`: the builtin `ConnectionError`.
* `decodeError`: `json.JSONDecodeError` from `response.json()`.
* `attributeError`, `typeError`: CPython's, from a value of the wrong type;
  `keyError`, `indexError`: CPython's, from a subscript that finds nothing;
  `valueError`: CPython's, from unpacking the wrong number of items;
  `nameError`: CPython's, from a name the module never bound.
* `notRenderable`: `rich.errors.NotRenderableError` from `Table.add_row`.
* `abort`: `click.Abort`.
* `keyboardInterrupt`: `KeyboardInterrupt`, the user's Ctrl-C, which no
  `except Exception` catches. -/
inductive PyExc where
  | notFound (path : String)
  | unauthorized
  | apiError (status : Nat) (text : String)
  | transport (kind : TransportKind) (msg : String)
  | connectionError (msg : String)
  | decodeError (msg : String)
  | attributeError (type attr : String)
  | typeError (msg : String)
  | keyError (key : String)
  | indexError (msg : String)
  | valueError (msg : String)
  | nameError (name : String)
  | notRenderable (type : String)
  | abort
  | keyboardInterrupt
  deriving DecidableEq, Repr

namespace PyExc

/-- `str(e)`. -/
def str : PyExc → String
  | notFound path => "Resource not found: " ++ path
  | unauthorized => "Unauthorized"
  | apiError status text => "API error " ++ toString status ++ ": " ++ text
  | transport _ msg => msg
  | connectionError msg => msg
  | decodeError msg => msg
  | attributeError type attr => "'" ++ type ++ "' object has no attribute '" ++ attr ++ "'"
  | typeError msg => msg
  | keyError key => key
  | indexError msg => msg
  | valueError msg => msg
  | nameError name => "name '" ++ name ++ "' is not defined"
  | notRenderable type =>
    "unable to render " ++ type ++ "; a string or other renderable object is required"
  | abort => ""
  | keyboardInterrupt => ""

/-- `isinstance(e, APIError)`: the client's classified HTTP errors. -/
def isApiError : PyExc → Bool
  | notFound _ | unauthorized | apiError _ _ => true
  | _ => false

/-- `isinstance(e, ConnectionError)` for the builtin class. -/
def isConnectionError : PyExc → Bool
  | connectionError _ => true
  | _ => false

/-- No status line was obtained: the spec's transport error. -/
def isTransport : PyExc → Bool
  | transport _ _ => true
  | _ => false

end PyExc

namespace PyVal

/-- `v.get(key, default)`; only a `dict` has `.get`. -/
def get (v : PyVal) (key : String) (default : PyVal) : Except PyExc PyVal :=
  match v with
  | dict kvs => .ok ((kvs.lookup key).getD default)
  | _ => .error (.attributeError v.typeName "get")

/-- `v[:n]` for `n ≥ 0`: a prefix of a `str` or a `list`. -/
def sliceTo (v : PyVal) (n : Nat) : Except PyExc PyVal :=
  match v with
  | str s => .ok (str (s.take n))
  | list xs => .ok (list (xs.take n))
  | dict _ => .error (.typeError "unhashable type: 'slice'")
  | _ => .error (.typeError ("'" ++ v.typeName ++ "' object is not subscriptable"))

/-- `a + b` where `b` is a `str`: only a `str` on the left concatenates. -/
def addStr (a : PyVal) (b : String) : Except PyExc PyVal :=
  match a with
  | str s => .ok (str (s ++ b))
  | list _ => .error (.typeError "can only concatenate list (not \"str\") to list")
  | _ => .error (.typeError ("unsupported operand type(s) for +: '" ++ a.typeName ++ "' and 'str'"))

/-- `len(v)`. -/
def len (v : PyVal) : Except PyExc Nat :=
  match v with
  | str s => .ok s.length
  | list xs => .ok xs.length
  | dict kvs => .ok kvs.length
  | _ => .error (.typeError ("object of type '" ++ v.typeName ++ "' has no len()"))

/-- `v[0]`. A decoded object's keys are strings, so it has no key `0`. -/
def first (v : PyVal) : Except PyExc PyVal :=
  match v with
  | list (x :: _) => .ok x
  | list [] => .error (.indexError "list index out of range")
  | str s => match s.toList with
    | c :: _ => .ok (str (String.singleton c))
    | [] => .error (.indexError "string index out of range")
  | dict _ => .error (.keyError "0")
  | _ => .error (.typeError ("'" ++ v.typeName ++ "' object is not subscriptable"))

/-- Whether `v` can be a `dict` key. -/
def hashable : PyVal → Bool
  | list _ | dict _ => false
  | _ => true

/-- `v[key] = x` for a `str` key; a present key keeps its place. -/
def setItem (v : PyVal) (key : String) (x : PyVal) : Except PyExc PyVal :=
  match v with
  | dict kvs => .ok (dict (if (kvs.lookup key).isSome then
      kvs.map fun kv => if kv.1 = key then (key, x) else kv else kvs ++ [(key, x)]))
  | list _ => .error (.typeError "list indices must be integers or slices, not str")
  | _ => .error (.typeError ("'" ++ v.typeName ++ "' object does not support item assignment"))

/-- `n += v` on an `int` total: a `bool` counts as `0` or `1`. -/
def addTo (n : Int) (v : PyVal) : Except PyExc Int :=
  match v with
  | int m => .ok (n + m)
  | bool b => .ok (n + if b then 1 else 0)
  | _ => .error (.typeError ("unsupported operand type(s) for +=: 'int' and '" ++ v.typeName ++ "'"))

/-- `v.upper()`; `String.toUpper` maps the ASCII letters. -/
def upper (v : PyVal) : Except PyExc String :=
  match v with
  | str s => .ok s.toUpper
  | _ => .error (.attributeError v.typeName "upper")

/-- `v.items()`. -/
def items (v : PyVal) : Except PyExc (List (String × PyVal)) :=
  match v with
  | dict kvs => .ok kvs
  | _ => .error (.attributeError v.typeName "items")

/-- `v.keys()`. -/
def keys (v : PyVal) : Except PyExc (List String) :=
  match v with
  | dict kvs => .ok (kvs.map Prod.fst)
  | _ => .error (.attributeError v.typeName "keys")

/-- `v.values()`, in the order of the keys. -/
def values (v : PyVal) : Except PyExc (List PyVal) :=
  match v with
  | dict kvs => .ok (kvs.map Prod.snd)
  | _ => .error (.attributeError v.typeName "values")

/-- `v[key]` for a `str` key. -/
def getItem (v : PyVal) (key : String) : Except PyExc PyVal :=
  match v with
  | dict kvs =>
    match kvs.lookup key with
    | .some x => .ok x
    | .none => .error (.keyError ("'" ++ key ++ "'"))
  | list _ => .error (.typeError "list indices must be integers or slices, not str")
  | str _ => .error (.typeError "string indices must be integers, not 'str'")
  | _ => .error (.typeError ("'" ++ v.typeName ++ "' object is not subscriptable"))

/-- The items `for x in v` visits. -/
def iter (v : PyVal) : Except PyExc (List PyVal) :=
  match v with
  | list xs => .ok xs
  | dict kvs => .ok (kvs.map fun kv => str kv.1)
  | str s => .ok (s.toList.map fun c => str (String.singleton c))
  | _ => .error (.typeError ("'" ++ v.typeName ++ "' object is not iterable"))

@[simp] theorem get_dict (kvs : List (String × PyVal)) (key : String) (d : PyVal) :
    (dict kvs).get key d = .ok ((kvs.lookup key).getD d) := rfl

theorem get_ok_iff {v : PyVal} {key : String} {d r : PyVal} :
    v.get key d = .ok r ↔ ∃ kvs, v = dict kvs ∧ r = (kvs.lookup key).getD d := by
  cases v <;> simp [get, eq_comm]

theorem get_error_iff {v : PyVal} {key : String} {d : PyVal} {e : PyExc} :
    v.get key d = .error e ↔ (∀ kvs, v ≠ dict kvs) ∧ e = .attributeError v.typeName "get" := by
  cases v <;> simp [get, eq_comm]

@[simp] theorem sliceTo_str (s : String) (n : Nat) : (str s).sliceTo n = .ok (str (s.take n)) := rfl

@[simp] theorem addStr_str (s b : String) : (str s).addStr b = .ok (str (s ++ b)) := rfl

@[simp] theorem iter_list (xs : List PyVal) : (list xs).iter = .ok xs := rfl

theorem iter_truthy_not_list {v : PyVal} {xs : List PyVal} (h : v.iter = .ok xs)
    (ht : v.truthy = true) (hl : ∀ ys, v ≠ list ys) : ∃ x ∈ xs, ∀ kvs, x ≠ dict kvs := by
  cases v with
  | list ys => exact absurd rfl (hl ys)
  | dict kvs =>
    cases kvs with
    | nil => exact absurd ht (by decide)
    | cons => cases h; exact ⟨_, List.mem_cons_self _ _, fun _ h => by cases h⟩
  | str s =>
    obtain ⟨_ | _⟩ := s
    · exact absurd ht (by decide)
    · cases h; exact ⟨_, List.mem_cons_self _ _, fun _ h => by cases h⟩
  | none | bool _ | int _ => cases h

theorem eqStr_iff {v : PyVal} {lit : String} : v.eqStr lit = true ↔ v = str lit := by
  cases v <;> simp [eqStr]

end PyVal

theorem lookup_isSome_iff_mem {κ β : Type} [DecidableEq κ] {m : List (κ × β)} {k : κ} :
    (m.lookup k).isSome ↔ k ∈ m.map Prod.fst := by
  simp only [List.lookup_isSome_iff, beq_iff_eq, List.mem_map]
  exact ⟨fun ⟨p, hp, h⟩ => ⟨p, hp, h.symm⟩, fun ⟨p, hp, h⟩ => ⟨p, hp, h.symm⟩⟩

theorem mapM_ok_mem {α β ε : Type} {f : α → Except ε β} :
    ∀ {xs : List α} {ys : List β}, xs.mapM f = .ok ys → ∀ y ∈ ys, ∃ x ∈ xs, f x = .ok y
  | [], _, h => by cases h; simp
  | x :: xs, ys, h => by
    simp only [List.mapM_cons, bind, Except.bind] at h
    cases hx : f x with
    | error e => rw [hx] at h; cases h
    | ok y =>
      cases hxs : xs.mapM f with
      | error e => rw [hx, hxs] at h; cases h
      | ok ys' =>
        rw [hx, hxs] at h
        cases h
        intro z hz
        rcases List.mem_cons.mp hz with rfl | hz
        · exact ⟨x, List.mem_cons_self _ _, hx⟩
        · obtain ⟨x', hx', hf⟩ := mapM_ok_mem hxs z hz
          exact ⟨x', List.mem_cons_of_mem _ hx', hf⟩

/-- `a, b = xs`: exactly two items, or `ValueError` (Python 3.11's texts). -/
def unpack2 {α : Type} : List α → Except PyExc (α × α)
  | [a, b] => .ok (a, b)
  | [] => .error (.valueError "not enough values to unpack (expected 2, got 0)")
  | [_] => .error (.valueError "not enough values to unpack (expected 2, got 1)")
  | _ => .error (.valueError "too many values to unpack (expected 2)")

/-- `xs[i]` for a Python `list`. -/
def index (xs : List α) (i : Nat) : Except PyExc α :=
  match xs.get? i with
  | some x => .ok x
  | none => .error (.indexError "list index out of range")

/-- `m.get(key, default)` for a `dict` whose keys are any values. -/
def dictGet (m : List (PyVal × PyVal)) (key default : PyVal) : Except PyExc PyVal :=
  if key.hashable then .ok ((m.lookup key).getD default)
  else .error (.typeError ("unhashable type: '" ++ key.typeName ++ "'"))

/-- `m[key] = x` for a `dict` whose keys are any values; a present key keeps
its place. -/
def dictSet (m : List (PyVal × PyVal)) (key x : PyVal) : Except PyExc (List (PyVal × PyVal)) :=
  if key.hashable then
    .ok (if (m.lookup key).isSome then m.map (fun kv => if kv.1 = key then (key, x) else kv)
      else m ++ [(key, x)])
  else .error (.typeError ("unhashable type: '" ++ key.typeName ++ "'"))

/-- `needle in hay` for two `str`s. -/
def substr (needle hay : String) : Bool := decide (needle.toList <:+: hay.toList)

end MetaGuildNet.L1
