import Mathlib.Data.List.Infix
import Mathlib.Data.List.Nodup
import MetaGuildNet.L1Python.Value

/-!
# Layered configuration: `ConfigManager._merge`

`ConfigManager.load` (metaguildnet/config/manager.py:16-29) starts from the
built-in defaults and merges the YAML file over them with `_merge` (55-65).
`_merge` copies `base` into `result` and then, for each item of `override` in
order, stores at its key either the merge of the two values, when the key is
in `result` and both values are mappings, or the override's value. Storing at a
present key keeps its place; a new key goes last.

A YAML value is a `Node`: a mapping with its items in insertion order, or any
other value (`leaf`: a scalar or a sequence), which `_merge` never looks into.
Keys are any type with decidable equality, standing for Python's `==` on the
keys `yaml.safe_load` builds. A mapping that `yaml.safe_load` returns has
distinct keys at every level; `Mapping` carries that as its invariant. Aliases
that make a value contain itself are not trees and are left out.

`(p, x)` is a leaf of a value `n` when the key path `p` leads to the
non-mapping value `x` (`Node.HasLeaf`).

Results:
* `merge_lookup`: the value at a key after the merge, from the two inputs.
* `Mapping.merge`: the merge of two mappings has distinct keys at every level.
* `merge_leaf_iff`: the leaves of `_merge(base, override)` are the leaves of
  `override` and the leaves `(p, x)` of `base` such that `override` does not
  bind `p` and binds every bound strict prefix of `p` to a mapping.
-/
namespace MetaGuildNet.L5.Config

/-- A YAML value as `_merge` sees it. -/
inductive Node (κ α : Type) where
  | leaf (a : α)
  | mapping (items : List (κ × Node κ α))
  deriving Repr

variable {κ α β : Type} [DecidableEq κ]

/-- `result[key] = value` in a `dict`: a present key keeps its place, a new
one goes last. -/
def setItem (m : List (κ × β)) (key : κ) (x : β) : List (κ × β) :=
  if (m.lookup key).isSome then m.map fun kv => if kv.1 = key then (key, x) else kv
  else m ++ [(key, x)]

mutual
/-- `ConfigManager._merge(base, override)`: the loop over `override.items()`,
`base` standing for the copy `result` built so far.
mirrors metaguildnet/config/manager.py:55-65 -/
def merge (base : List (κ × Node κ α)) : List (κ × Node κ α) → List (κ × Node κ α)
  | [] => base
  | (key, value) :: rest => merge (setItem base key (mergeValue (base.lookup key) value)) rest

/-- What the loop stores at a key whose value in `result` is `current`.
mirrors metaguildnet/config/manager.py:60-63 -/
def mergeValue : Option (Node κ α) → Node κ α → Node κ α
  | some (.mapping b), .mapping o => .mapping (merge b o)
  | _, value => value
end

/-- The value at a key path, `n[k₁][k₂]...`: each step needs a mapping that
has the key. -/
def Node.find? : Node κ α → List κ → Option (Node κ α)
  | n, [] => some n
  | .leaf _, _ :: _ => none
  | .mapping items, k :: p => (items.lookup k).bind (·.find? p)

/-- `isinstance(n, dict)`. -/
def Node.isMapping : Node κ α → Bool
  | .mapping _ => true
  | .leaf _ => false

/-- `(p, x)` is a leaf of `n`: the path `p` leads to the non-mapping value `x`. -/
def Node.HasLeaf (n : Node κ α) (p : List κ) (x : α) : Prop := n.find? p = some (.leaf x)

/-- Every strict prefix of `p` that `n` binds, it binds to a mapping. -/
def Node.MappingAbove (n : Node κ α) (p : List κ) : Prop :=
  ∀ q, q <+: p → q ≠ p → ∀ m, n.find? q = some m → m.isMapping = true

/-- Every mapping in `n`, at any path, has distinct keys. -/
def Node.WellFormed (n : Node κ α) : Prop :=
  ∀ p items, n.find? p = some (.mapping items) → (items.map Prod.fst).Nodup

/-- A mapping as `yaml.safe_load` returns it. -/
structure Mapping (κ α : Type) [DecidableEq κ] where
  items : List (κ × Node κ α)
  wellFormed : (Node.mapping items).WellFormed

def Mapping.node (m : Mapping κ α) : Node κ α := .mapping m.items

/-! ## Storing at a key -/

theorem lookup_cons_ne {k k' : κ} (h : k ≠ k') (v : β) (m : List (κ × β)) :
    ((k', v) :: m).lookup k = m.lookup k := by
  simp [List.lookup_cons, beq_eq_false_iff_ne.mpr h]

theorem lookup_replace (key k : κ) (x : β) : ∀ m : List (κ × β),
    (m.map fun kv => if kv.1 = key then (key, x) else kv).lookup k =
      if k = key then (m.lookup key).map fun _ => x else m.lookup k
  | [] => by split <;> rfl
  | (k', v) :: m => by
    have ih := lookup_replace key k x m
    by_cases h' : k' = key
    · subst h'
      by_cases hk : k = k'
      · subst hk; simp
      · simp [hk, lookup_cons_ne hk, ih]
    · by_cases hk : k = k'
      · subst hk; simp [h']
      · simp only [List.map_cons, h', if_false, lookup_cons_ne hk, ih]
        split
        · rename_i hkey; subst hkey; rw [lookup_cons_ne (Ne.symm h')]
        · rfl

theorem lookup_setItem (m : List (κ × β)) (key k : κ) (x : β) :
    (setItem m key x).lookup k = if k = key then some x else m.lookup k := by
  unfold setItem
  split
  · rename_i hs
    rw [lookup_replace]
    split
    · obtain ⟨v, hv⟩ := Option.isSome_iff_exists.mp hs
      simp [hv]
    · rfl
  · rename_i hs
    rw [List.lookup_append]
    split
    · rename_i hk; subst hk
      simp [Option.not_isSome_iff_eq_none.mp hs]
    · rename_i hk
      simp [List.lookup_cons, beq_eq_false_iff_ne.mpr hk]

theorem keys_setItem (m : List (κ × β)) (key : κ) (x : β) :
    (setItem m key x).map Prod.fst =
      if key ∈ m.map Prod.fst then m.map Prod.fst else m.map Prod.fst ++ [key] := by
  unfold setItem
  by_cases h : key ∈ m.map Prod.fst
  · rw [if_pos (L1.lookup_isSome_iff_mem.mpr h), if_pos h, List.map_map]
    refine List.map_congr_left fun kv _ => ?_
    show (if kv.1 = key then (key, x) else kv).1 = kv.1
    split
    · exact (‹kv.1 = key›).symm
    · rfl
  · rw [if_neg (mt L1.lookup_isSome_iff_mem.mp h), if_neg h, List.map_append]
    rfl

theorem nodup_setItem {m : List (κ × β)} (h : (m.map Prod.fst).Nodup) (key : κ) (x : β) :
    ((setItem m key x).map Prod.fst).Nodup := by
  rw [keys_setItem]
  split
  · exact h
  · rename_i hk
    exact List.nodup_append.mpr ⟨h, List.nodup_singleton key, fun a ha hb => by
      rw [List.mem_singleton.mp hb] at ha; exact hk ha⟩

/-! ## The loop -/

theorem mergeValue_cases (current : Option (Node κ α)) (value : Node κ α) :
    (∃ b o, current = some (.mapping b) ∧ value = .mapping o ∧
      mergeValue current value = .mapping (merge b o)) ∨
    (mergeValue current value = value ∧ ∀ b o, current = some (.mapping b) → value ≠ .mapping o) := by
  rcases current with _ | (_ | b) <;> rcases value with _ | o
  all_goals first
    | exact .inl ⟨_, _, rfl, rfl, rfl⟩
    | exact .inr ⟨rfl, by simp⟩

/-- After the merge, a key of `override` holds what the loop stored for it,
and any other key holds its value in `base`. -/
theorem merge_lookup (base : List (κ × Node κ α)) {override : List (κ × Node κ α)}
    (ho : (override.map Prod.fst).Nodup) (k : κ) :
    (merge base override).lookup k =
      ((override.lookup k).map (mergeValue (base.lookup k))).or (base.lookup k) := by
  induction override generalizing base with
  | nil => simp [merge]
  | cons kv rest ih =>
    obtain ⟨key, value⟩ := kv
    rw [List.map_cons, List.nodup_cons] at ho
    rw [merge, ih _ ho.2]
    by_cases hk : k = key
    · subst hk
      have hnone : rest.lookup k = none :=
        Option.not_isSome_iff_eq_none.mp (mt L1.lookup_isSome_iff_mem.mp ho.1)
      simp [hnone, lookup_setItem]
    · simp [lookup_setItem, hk, lookup_cons_ne hk]

theorem merge_nodup {base : List (κ × Node κ α)} (hb : (base.map Prod.fst).Nodup) :
    ∀ override : List (κ × Node κ α), ((merge base override).map Prod.fst).Nodup
  | [] => hb
  | (key, value) :: rest => by
    rw [merge]
    exact merge_nodup (nodup_setItem hb _ _) rest

/-! ## Paths -/

@[simp] theorem Node.find?_nil (n : Node κ α) : n.find? [] = some n := by
  cases n <;> rfl

@[simp] theorem Node.find?_mapping_cons (items : List (κ × Node κ α)) (k : κ) (p : List κ) :
    (Node.mapping items).find? (k :: p) = (items.lookup k).bind (·.find? p) := rfl

theorem Node.WellFormed.nodup {items : List (κ × Node κ α)} (h : (Node.mapping items).WellFormed) :
    (items.map Prod.fst).Nodup :=
  h [] items rfl

theorem Node.WellFormed.lookup {items : List (κ × Node κ α)} (h : (Node.mapping items).WellFormed)
    {k : κ} {n : Node κ α} (hk : items.lookup k = some n) : n.WellFormed :=
  fun p m hp => h (k :: p) m (by simp [hk, hp])

theorem Node.mappingAbove_nil (n : Node κ α) : n.MappingAbove [] :=
  fun _ hq hne => absurd (List.prefix_nil.mp hq) hne

theorem Node.not_mappingAbove_leaf (a : α) (k : κ) (p : List κ) :
    ¬ (Node.leaf a : Node κ α).MappingAbove (k :: p) :=
  fun h => by simpa [Node.isMapping] using h [] (List.nil_prefix) (List.cons_ne_nil _ _).symm _ (Node.find?_nil _)

theorem Node.mappingAbove_cons (items : List (κ × Node κ α)) (k : κ) (p : List κ) :
    (Node.mapping items).MappingAbove (k :: p) ↔ ∀ v, items.lookup k = some v → v.MappingAbove p := by
  constructor
  · intro h v hv q hq hne m hm
    exact h (k :: q) (List.prefix_cons_inj k |>.mpr hq) (by simpa using hne) m (by simp [hv, hm])
  · intro h q hq hne m hm
    cases q with
    | nil =>
      cases hm
      rfl
    | cons k' q =>
      obtain ⟨rfl, hqp⟩ := List.cons_prefix_cons.mp hq
      obtain ⟨v, hv, hm⟩ := Option.bind_eq_some.mp hm
      exact h v hv q hqp (by simpa using hne) m hm

/-! ## The leaves of a merge -/

theorem merge_wellFormed : ∀ (p : List κ) {base override : List (κ × Node κ α)},
    (Node.mapping base).WellFormed → (Node.mapping override).WellFormed →
    ∀ items, (Node.mapping (merge base override)).find? p = some (.mapping items) →
      (items.map Prod.fst).Nodup
  | [], base, override, hb, ho, items, h => by
    cases h
    exact merge_nodup hb.nodup override
  | k :: p, base, override, hb, ho, items, h => by
    rw [Node.find?_mapping_cons, merge_lookup base ho.nodup] at h
    cases hv : override.lookup k with
    | none =>
      rw [hv, Option.map_none', Option.none_or] at h
      exact hb (k :: p) items h
    | some v =>
      rw [hv, Option.map_some', Option.or_some, Option.some_bind] at h
      rcases mergeValue_cases (base.lookup k) v with ⟨b, o, hbk, rfl, he⟩ | ⟨he, -⟩
      · rw [he] at h
        exact merge_wellFormed p (hb.lookup hbk) (ho.lookup hv) items h
      · rw [he] at h
        exact ho (k :: p) items (by simp [hv, h])

def Mapping.merge (base override : Mapping κ α) : Mapping κ α :=
  ⟨Config.merge base.items override.items, fun p => merge_wellFormed p base.wellFormed override.wellFormed⟩

theorem merge_hasLeaf_iff (x : α) : ∀ (p : List κ) (base override : List (κ × Node κ α)),
    (Node.mapping override).WellFormed →
    ((Node.mapping (merge base override)).HasLeaf p x ↔
      (Node.mapping override).HasLeaf p x ∨
        ((Node.mapping base).HasLeaf p x ∧ (Node.mapping override).find? p = none ∧
          (Node.mapping override).MappingAbove p))
  | [], base, override, _ => by simp [Node.HasLeaf]
  | k :: p, base, override, ho => by
    simp only [Node.HasLeaf, Node.find?_mapping_cons, merge_lookup base ho.nodup,
      Node.mappingAbove_cons]
    cases hv : override.lookup k with
    | none => simp
    | some v =>
      simp only [Option.map_some', Option.or_some, Option.some_bind, Option.some.injEq,
        forall_eq']
      rcases mergeValue_cases (base.lookup k) v with ⟨b, o, hbk, rfl, he⟩ | ⟨he, hno⟩
      · rw [he, hbk, Option.some_bind]
        exact merge_hasLeaf_iff x p b o (ho.lookup hv)
      · rw [he]
        refine ⟨.inl, fun h => h.elim id fun ⟨hb, hnone, habove⟩ => ?_⟩
        cases p with
        | nil => simp at hnone
        | cons k' p =>
          cases v with
          | leaf a => exact absurd habove (Node.not_mappingAbove_leaf a k' p)
          | mapping o =>
            obtain ⟨n, hn, hleaf⟩ := Option.bind_eq_some.mp hb
            cases n with
            | leaf a => simp [Node.find?] at hleaf
            | mapping b => exact absurd rfl (hno b o hn)

/-- The leaves of `_merge(base, override)` are exactly the leaves of
`override`, and the leaves `(p, x)` of `base` such that `override` does not
bind `p` and binds every bound strict prefix of `p` to a mapping. -/
theorem merge_leaf_iff (base override : Mapping κ α) (p : List κ) (x : α) :
    (base.merge override).node.HasLeaf p x ↔
      override.node.HasLeaf p x ∨
        (base.node.HasLeaf p x ∧ override.node.find? p = none ∧ override.node.MappingAbove p) :=
  merge_hasLeaf_iff x p base.items override.items override.wellFormed

example :
    merge ([("api", .mapping [("base_url", .leaf "https://localhost:8090"), ("token", .leaf "")]),
        ("logging", .mapping [("level", .leaf "info")])] : List (String × Node String String))
      [("api", .mapping [("token", .leaf "s3cr3t")]), ("logging", .leaf "debug")] =
      [("api", .mapping [("base_url", .leaf "https://localhost:8090"), ("token", .leaf "s3cr3t")]),
        ("logging", .leaf "debug")] := rfl

end MetaGuildNet.L5.Config
