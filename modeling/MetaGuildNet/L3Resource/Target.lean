import MetaGuildNet.L1Python.Str
import MetaGuildNet.L3Resource.Api
import Mathlib.Data.List.Basic
import Mathlib.Data.Nat.Digits

/-!
# The resource a request addresses

`_request` sends to `base_url + path` (metaguildnet/api/client.py:209), and
every resource method builds `path` by f-string interpolation of its arguments
(client.py:30-153): nothing is percent-encoded. The Host App reads the part
after the authority as RFC 3986 says: the fragment after the first `#` (§3.5),
the query after the first `?` (§3.4), the path split on `/` (§3.3), dot
segments removed (§5.2.4) and each segment percent-decoded (§2.1).
`parseTarget` is that reading and `Target.render` writes a target as text.
`Op.template` is the resource each operation is meant to address: its path
template with each argument as one whole segment, and its own query parameter.
The base URL is taken to be `scheme://authority`, as `Client.init` builds it
from `https://localhost:8090`.

Results:
* `parseTarget_render`: a clean target (plain segments, a query without `#`)
  is read back from its rendering.
* `Op.path_render`: every operation's path is the rendering of its template.
* `Op.parseTarget_path`: when every argument is a plain segment, the request
  each operation sends addresses exactly its template, and two such requests
  address the same resource only when their paths are the same text.
* `workspaceDelete_dotdot`: `WorkspaceAPI.delete("c", "../db/d")` addresses
  the resource of `DatabaseAPI.delete("c", "d")`.
-/
namespace MetaGuildNet.L3

structure Target where
  segments : List String
  query : Option String
  fragment : Option String
  deriving DecidableEq, Repr

/-! ## Reading a target -/

/-- Split at the first `c`: what precedes it and, when `c` occurs, what follows. -/
def splitAt (c : Char) : List Char → List Char × Option (List Char)
  | [] => ([], none)
  | x :: xs => if x = c then ([], some xs) else (x :: (splitAt c xs).1, (splitAt c xs).2)

/-- `remove_dot_segments` (RFC 3986 §5.2.4) over the segments of an absolute
path; `acc` holds the output so far, last segment first. A final `.` or `..`
leaves an empty last segment, the trailing `/` of the RFC's output. -/
def removeDotSegments (acc : List String) : List String → List String
  | [] => acc.reverse
  | s :: rest =>
    let acc' := if s = "." then acc else if s = ".." then acc.tail else s :: acc
    if (s = "." ∨ s = "..") ∧ rest = [] then ("" :: acc').reverse
    else removeDotSegments acc' rest

def hexValue (c : Char) : Option Nat :=
  if '0' ≤ c ∧ c ≤ '9' then some (c.toNat - '0'.toNat)
  else if 'a' ≤ c ∧ c ≤ 'f' then some (c.toNat - 'a'.toNat + 10)
  else if 'A' ≤ c ∧ c ≤ 'F' then some (c.toNat - 'A'.toNat + 10)
  else none

/-- Percent-decoding (RFC 3986 §2.1) of at most `n` characters: `%XY` with two
hex digits is the octet `0xXY`, read as the character of that code; a `%`
without two hex digits stands for itself. -/
def pctDecodeN : Nat → List Char → List Char
  | n + 1, c :: h :: l :: tail =>
    if c = '%' then
      match hexValue h, hexValue l with
      | some a, some b => Char.ofNat (16 * a + b) :: pctDecodeN n tail
      | _, _ => c :: pctDecodeN n (h :: l :: tail)
    else c :: pctDecodeN n (h :: l :: tail)
  | _, cs => cs

def pctDecode (cs : List Char) : List Char := pctDecodeN cs.length cs

/-- How the server reads `path[?query][#fragment]` of an absolute path. -/
def parseTarget (text : List Char) : Target :=
  let beforeFragment := splitAt '#' text
  let path := splitAt '?' beforeFragment.1
  ⟨(removeDotSegments [] (((path.1.drop 1).splitOn '/').map String.mk)).map
      fun s => ⟨pctDecode s.toList⟩,
    path.2.map String.mk, beforeFragment.2.map String.mk⟩

/-! ## Writing a target -/

/-- `c` and the text, when there is one. -/
def delimited (c : Char) : Option String → List Char
  | none => []
  | some s => c :: s.toList

/-- The text of a target: `/` and the segments joined by `/`, then `?query` and
`#fragment` when present. -/
def Target.render (t : Target) : List Char :=
  ('/' :: ['/'].intercalate (t.segments.map String.toList)) ++
    (delimited '?' t.query ++ delimited '#' t.fragment)

/-- The characters with a meaning in a path: its delimiters and the percent sign. -/
def pathSpecial : List Char := ['/', '?', '#', '%']

/-- A string that stands as one whole segment and is read back unchanged: no
delimiter, no `%`, and not a dot segment. -/
def plainSegment (s : String) : Prop :=
  (∀ c ∈ s.toList, c ∉ pathSpecial) ∧ s ≠ "." ∧ s ≠ ".."

instance : DecidablePred plainSegment := fun _ => inferInstanceAs (Decidable (_ ∧ _))

/-- A target that `parseTarget` reads back from its rendering. -/
structure Target.Clean (t : Target) : Prop where
  segments_ne_nil : t.segments ≠ []
  segments_plain : ∀ s ∈ t.segments, plainSegment s
  query_no_hash : ∀ q ∈ t.query, '#' ∉ q.toList

/-! ## The round trip -/

theorem splitAt_append {c : Char} : ∀ {xs : List Char}, c ∉ xs → ∀ ys : List Char,
    splitAt c (xs ++ ys) = (xs ++ (splitAt c ys).1, (splitAt c ys).2)
  | [], _, _ => rfl
  | x :: xs, h, ys => by
    simp only [List.mem_cons, not_or] at h
    simp [splitAt, Ne.symm h.1, splitAt_append h.2 ys]

theorem splitAt_delimited {c : Char} {xs : List Char} (h : c ∉ xs) (o : Option String) :
    splitAt c (xs ++ delimited c o) = (xs, o.map String.toList) := by
  cases o with
  | none => simpa [delimited, splitAt] using splitAt_append h []
  | some s => simp [splitAt_append h, delimited, splitAt]

theorem removeDotSegments_plain : ∀ (acc segs : List String), (∀ s ∈ segs, plainSegment s) →
    removeDotSegments acc segs = acc.reverse ++ segs
  | _, [], _ => by simp [removeDotSegments]
  | acc, s :: rest, h => by
    have hs := (h s (List.mem_cons_self _ _)).2
    rw [removeDotSegments, if_neg (by tauto), if_neg hs.1, if_neg hs.2,
      removeDotSegments_plain _ rest fun x hx => h x (List.mem_cons_of_mem _ hx)]
    simp

theorem pctDecodeN_of_not_mem : ∀ (n : Nat) {cs : List Char}, '%' ∉ cs → pctDecodeN n cs = cs
  | n + 1, c :: h :: l :: tail, hc => by
    have hrest : '%' ∉ h :: l :: tail := fun hm => hc (List.mem_cons_of_mem _ hm)
    rw [pctDecodeN, if_neg (fun e : c = '%' => hc (e ▸ List.mem_cons_self _ _)),
      pctDecodeN_of_not_mem n hrest]
  | 0, _, _ | _ + 1, [], _ | _ + 1, [_], _ | _ + 1, [_, _], _ => by simp [pctDecodeN]

theorem not_mem_intercalate {c : Char} (hc : c ≠ '/') {ls : List (List Char)} (h : ∀ l ∈ ls, c ∉ l) :
    c ∉ ['/'].intercalate ls := fun hm =>
  (L1.Str.mem_intercalate hm).elim hc fun ⟨l, hl, hcl⟩ => h l hl hcl

theorem not_mem_joined {c : Char} (hc : c ∈ pathSpecial) (hsl : c ≠ '/') {segs : List String}
    (h : ∀ s ∈ segs, plainSegment s) :
    c ∉ '/' :: ['/'].intercalate (segs.map String.toList) := by
  simp only [List.mem_cons, not_or]
  refine ⟨hsl, not_mem_intercalate hsl fun l hl => ?_⟩
  obtain ⟨s, hs, rfl⟩ := List.mem_map.mp hl
  exact fun hm => (h s hs).1 c hm hc

/-- Parsing the rendering of a clean target gives the target back. -/
theorem parseTarget_render (t : Target) (h : t.Clean) : parseTarget t.render = t := by
  obtain ⟨segs, query, fragment⟩ := t
  have hseg : '#' ∉ _ := not_mem_joined (by decide) (by decide) h.segments_plain
  have hq : '#' ∉ delimited '?' query := by
    cases query with
    | none => simp [delimited]
    | some q => simpa [delimited] using h.query_no_hash q rfl
  have hsplit : (List.intercalate ['/'] (segs.map String.toList)).splitOn '/' =
      segs.map String.toList :=
    List.splitOn_intercalate _ '/' (fun l hl => by
      obtain ⟨s, hs, rfl⟩ := List.mem_map.mp hl
      exact fun hm => (h.segments_plain s hs).1 '/' hm (by decide)) (by simpa using h.segments_ne_nil)
  simp only [parseTarget, Target.render, ← List.append_assoc]
  rw [splitAt_delimited fun hm => (List.mem_append.mp hm).elim hseg hq, splitAt_delimited
    (not_mem_joined (by decide) (by decide) h.segments_plain)]
  simp only [List.drop_succ_cons, List.drop_zero, hsplit, List.map_map, Option.map_map]
  rw [show (String.mk ∘ String.toList) = id from rfl, List.map_id,
    removeDotSegments_plain [] segs h.segments_plain]
  have hdec : ∀ s ∈ segs, (⟨pctDecode s.toList⟩ : String) = id s := fun s hs => by
    rw [pctDecode, pctDecodeN_of_not_mem _ fun hm => (h.segments_plain s hs).1 '%' hm (by decide)]
    rfl
  simp only [List.reverse_nil, List.nil_append, List.map_congr_left hdec, List.map_id,
    Option.map_id, id_eq]

/-! ## The resource each operation is meant to address -/

def templateWords : List String :=
  ["api", "deploy", "clusters", "bootstrap", "settings", "cluster", "servers", "workspaces",
    "logs", "db", "tables", "rows", "health"]

theorem templateWords_plain : ∀ s ∈ templateWords, plainSegment s := by decide

theorem digitChar_ne_hash : ∀ k : Nat, Nat.digitChar k ≠ '#'
  | 0 | 1 | 2 | 3 | 4 | 5 | 6 | 7 | 8 | 9 | 10 | 11 | 12 | 13 | 14 | 15 => by decide
  | k + 16 => by simp [Nat.digitChar]

theorem toDigitsCore_no_hash (b : Nat) :
    ∀ (fuel n : Nat) (ds : List Char), '#' ∉ ds → '#' ∉ Nat.toDigitsCore b fuel n ds
  | 0, _, _, h => h
  | fuel + 1, n, ds, h => by
    have hd : '#' ∉ Nat.digitChar (n % b) :: ds :=
      List.not_mem_cons_of_ne_of_not_mem (digitChar_ne_hash (n % b)).symm h
    rw [Nat.toDigitsCore]
    split
    · exact hd
    · exact toDigitsCore_no_hash b fuel _ _ hd

theorem hash_not_mem_toString (t : Int) : '#' ∉ (toString t).toList := by
  have hn : ∀ m : Nat, '#' ∉ (toString m).toList := fun m =>
    toDigitsCore_no_hash 10 (m + 1) m [] (List.not_mem_nil _)
  cases t with
  | ofNat m => exact hn m
  | negSucc m =>
    show '#' ∉ ("-" ++ toString (m + 1)).toList
    simpa [String.toList] using hn (m + 1)

namespace Op

def args : Op → List String
  | clusterList | clusterBootstrap _ | healthGlobal => []
  | clusterGet i | clusterUpdateSettings i _ | clusterGetSettings i | workspaceList i
  | workspaceCreate i _ | databaseList i | databaseCreate i _ _ | healthCluster i => [i]
  | workspaceGet i n | workspaceDelete i n | workspaceLogs i n _ => [i, n]
  | databaseGet i d | databaseDelete i d | databaseTables i d | databaseCreateTable i d _ => [i, d]
  | databaseQuery i d t _ | databaseInsert i d t _ => [i, d, t]

/-- The resource an operation is meant to address: its path template with each
argument as one whole segment, and its own query parameter. -/
def template : Op → Target
  | clusterList => ⟨["api", "deploy", "clusters"], none, none⟩
  | clusterGet i => ⟨["api", "deploy", "clusters", i], none, none⟩
  | clusterBootstrap _ => ⟨["bootstrap"], none, none⟩
  | clusterUpdateSettings i _ | clusterGetSettings i => ⟨["api", "settings", "cluster", i], none, none⟩
  | workspaceList i => ⟨["api", "cluster", i, "servers"], none, none⟩
  | workspaceCreate i _ => ⟨["api", "cluster", i, "workspaces"], none, none⟩
  | workspaceGet i n | workspaceDelete i n => ⟨["api", "cluster", i, "workspaces", n], none, none⟩
  | workspaceLogs i n t =>
    ⟨["api", "cluster", i, "workspaces", n, "logs"], some ("tail=" ++ toString t), none⟩
  | databaseList i | databaseCreate i _ _ => ⟨["api", "cluster", i, "db"], none, none⟩
  | databaseGet i d | databaseDelete i d => ⟨["api", "cluster", i, "db", d], none, none⟩
  | databaseTables i d | databaseCreateTable i d _ =>
    ⟨["api", "cluster", i, "db", d, "tables"], none, none⟩
  | databaseQuery i d t l =>
    ⟨["api", "cluster", i, "db", d, "tables", t, "rows"], some ("limit=" ++ toString l), none⟩
  | databaseInsert i d t _ => ⟨["api", "cluster", i, "db", d, "tables", t, "rows"], none, none⟩
  | healthGlobal => ⟨["api", "health"], none, none⟩
  | healthCluster i => ⟨["api", "cluster", i, "health"], none, none⟩

theorem path_render (op : Op) : op.path.toList = op.template.render := by
  cases op <;> simp [path, template, Target.render, delimited, List.intercalate, String.toList]

theorem template_segment (op : Op) :
    ∀ s ∈ op.template.segments, s ∈ templateWords ∨ s ∈ op.args := by
  intro s hs
  cases op <;> simp only [template, List.mem_cons, List.mem_singleton, List.not_mem_nil, or_false] at hs <;>
    rcases hs with rfl | rfl | rfl | rfl | rfl | rfl | rfl | rfl <;>
    first | exact .inl (by decide) | exact .inr (by simp [args])

theorem template_query (op : Op) : ∀ q ∈ op.template.query, '#' ∉ q.toList := by
  intro q hq
  cases op <;> cases hq <;> simpa [String.toList] using hash_not_mem_toString _

theorem template_clean (op : Op) (h : ∀ a ∈ op.args, plainSegment a) : op.template.Clean where
  segments_ne_nil := by cases op <;> simp [template]
  segments_plain s hs := (template_segment op s hs).elim (templateWords_plain s) (h s)
  query_no_hash := template_query op

/-- When every argument is a plain segment, the one request an operation sends
addresses exactly its template, and two such requests address one resource
only when their paths are the same text. -/
theorem parseTarget_path (decode : L2.Decoder) (c : L2.Client) (op : Op) (w : L2.World)
    (h : ∀ a ∈ op.args, plainSegment a) :
    (op.run decode c w).2.sent = w.sent ++ [c.mkRequest op.method op.path op.json] ∧
      parseTarget (c.mkRequest op.method op.path op.json).path.toList = op.template ∧
      ∀ op' : Op, (∀ a ∈ op'.args, plainSegment a) →
        (parseTarget (c.mkRequest op'.method op'.path op'.json).path.toList =
            parseTarget (c.mkRequest op.method op.path op.json).path.toList ↔ op'.path = op.path) := by
  have hop : parseTarget op.path.toList = op.template := by
    rw [path_render, parseTarget_render _ (template_clean op h)]
  refine ⟨by rw [run_outcome], hop, fun op' h' => ⟨fun he => ?_, fun he => by simp only [L2.Client.mkRequest, he]⟩⟩
  change parseTarget op'.path.toList = parseTarget op.path.toList at he
  rw [hop, path_render, parseTarget_render _ (template_clean op' h')] at he
  exact String.ext (show op'.path.toList = op.path.toList by rw [path_render, path_render, he])

/-- `WorkspaceAPI.get("c1", "ws1")` sends its one request to
`/api/cluster/c1/workspaces/ws1`. -/
theorem parseTarget_workspaceGet :
    (∀ a ∈ (workspaceGet "c1" "ws1").args, plainSegment a) ∧
      parseTarget (L2.Client.mkRequest ⟨"https://localhost:8090", ""⟩ (workspaceGet "c1" "ws1").method
          (workspaceGet "c1" "ws1").path (workspaceGet "c1" "ws1").json).path.toList =
        ⟨["api", "cluster", "c1", "workspaces", "ws1"], none, none⟩ :=
  ⟨by decide, (parseTarget_path statusDecoder ⟨"https://localhost:8090", ""⟩ _ L2.World.start (by decide)).2.1⟩

end Op

/-- The workspace name `../db/d` sends `WorkspaceAPI.delete` to the resource of
`DatabaseAPI.delete("c", "d")`. -/
theorem workspaceDelete_dotdot :
    parseTarget (Op.workspaceDelete "c" "../db/d").path.toList =
        parseTarget (Op.databaseDelete "c" "d").path.toList ∧
      (Op.workspaceDelete "c" "../db/d").method = (Op.databaseDelete "c" "d").method ∧
      (Op.workspaceDelete "c" "../db/d").path ≠ (Op.databaseDelete "c" "d").path := by
  decide

end MetaGuildNet.L3
