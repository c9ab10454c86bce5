import Mathlib.Data.List.Basic
import MetaGuildNet.L1Python.Value

/-!
# Python `str` methods on text

The CLI reads its option strings with `str.split(sep)` and `str.strip()`
(metaguildnet/cli/database.py:85-86). With a one-character separator
`split` is `List.splitOn` on the characters: the pieces between separators,
empty ones included, and `[""]` for the empty text. `strip()` removes the
leading and trailing characters for which `str.isspace()` holds.

Results:
* `split_intercalate`: `sep.join(ss).split(sep)` is `ss` when no piece
  contains `sep` and there is at least one piece.
* `strip_of_not_space`, `strip_intercalate`: a text with no whitespace is its
  own `strip()`.
-/
namespace MetaGuildNet.L1.Str

/-- `c.isspace()`: CPython's whitespace, the characters of Unicode category
`Zs` or of bidirectional class `WS`, `B` or `S` (Objects/unicodectype.c). -/
def isSpace (c : Char) : Bool :=
  let n := c.toNat
  (0x09 ≤ n && n ≤ 0x0D) || (0x1C ≤ n && n ≤ 0x20) || n == 0x85 || n == 0xA0 || n == 0x1680 ||
    (0x2000 ≤ n && n ≤ 0x200A) || n == 0x2028 || n == 0x2029 || n == 0x202F || n == 0x205F ||
    n == 0x3000

/-- `s.strip()`. -/
def strip (s : String) : String :=
  ⟨((s.toList.dropWhile isSpace).reverse.dropWhile isSpace).reverse⟩

/-- `s.split(sep)` for a one-character separator. -/
def split (s : String) (sep : Char) : List String :=
  (s.toList.splitOn sep).map String.mk

/-- The text `key=value` an option such as `--setting` or `--env` takes. -/
def keyValue (p : String × String) : String := p.1 ++ "=" ++ p.2

/-- The characters before the first `sep` and those after it, if there is one. -/
def splitFirst (sep : Char) : List Char → Option (List Char × List Char)
  | [] => none
  | c :: cs => if c = sep then some ([], cs) else (splitFirst sep cs).map fun p => (c :: p.1, p.2)

/-- `s.split(sep, 1)` for a one-character separator: the text before the first
`sep` and the rest, or `[s]` when `sep` does not occur. -/
def split1 (s : String) (sep : Char) : List String :=
  match splitFirst sep s.toList with
  | some (before, after) => [String.mk before, String.mk after]
  | none => [s]

/-- Where `str.splitlines()` ends a line: `\n`, `\v`, `\f`, `\r`, the file, group
and record separators, `NEL` and the line and paragraph separators. -/
def isLineBreak (c : Char) : Bool :=
  let n := c.toNat
  (0x0A ≤ n && n ≤ 0x0D) || (0x1C ≤ n && n ≤ 0x1E) || n == 0x85 || n == 0x2028 || n == 0x2029

/-- The lines of `cs`, the current one begun with `line`; `\r\n` ends one line. -/
def splitLinesGo : List Char → List Char → List String
  | [], line => if line.isEmpty then [] else [String.mk line]
  | '\r' :: '\n' :: rest, line => String.mk line :: splitLinesGo rest []
  | c :: rest, line =>
    if isLineBreak c then String.mk line :: splitLinesGo rest [] else splitLinesGo rest (line ++ [c])

/-- `s.splitlines()`: the lines without their ends, the last one only when it is
not empty. -/
def splitLines (s : String) : List String := splitLinesGo s.toList []

/-! ## Joining and splitting -/

theorem intercalate_go_toList (s : String) : ∀ (acc : String) (as : List String),
    (String.intercalate.go acc s as).toList = acc.toList ++ (as.map fun a => s.toList ++ a.toList).flatten
  | acc, [] => by simp [String.intercalate.go]
  | acc, a :: as => by
    rw [String.intercalate.go, intercalate_go_toList]
    simp [String.toList, List.append_assoc]

theorem flatten_intersperse_cons {α : Type} (c : α) : ∀ (x : List α) (xs : List (List α)),
    (List.intersperse [c] (x :: xs)).flatten = x ++ (xs.map (c :: ·)).flatten
  | x, [] => by simp
  | x, y :: ys => by simp [flatten_intersperse_cons c y ys]

theorem intercalate_toList (c : Char) (a : String) (as : List String) :
    (String.intercalate (String.singleton c) (a :: as)).toList =
      [c].intercalate ((a :: as).map String.toList) := by
  rw [String.intercalate, intercalate_go_toList, List.intercalate, List.map_cons, flatten_intersperse_cons]
  simp [String.toList, Function.comp_def]

theorem mem_intercalate {α : Type} {c x : α} : ∀ {ls : List (List α)},
    x ∈ [c].intercalate ls → x = c ∨ ∃ l ∈ ls, x ∈ l
  | [], h => by simp [List.intercalate] at h
  | [l], h => .inr ⟨l, List.mem_singleton_self l, by simpa [List.intercalate] using h⟩
  | l :: l' :: rest, h => by
    simp only [List.intercalate, List.intersperse_cons_cons, List.flatten_cons, List.mem_append,
      List.mem_singleton] at h
    rcases h with h | h | h
    · exact .inr ⟨l, List.mem_cons_self _ _, h⟩
    · exact .inl h
    · rcases @mem_intercalate α c x (l' :: rest) h with h | ⟨m, hm, hx⟩
      · exact .inl h
      · exact .inr ⟨m, List.mem_cons_of_mem _ hm, hx⟩

theorem split_intercalate (c : Char) {ss : List String} (hne : ss ≠ []) (h : ∀ s ∈ ss, c ∉ s.toList) :
    split (String.intercalate (String.singleton c) ss) c = ss := by
  obtain ⟨a, as, rfl⟩ := List.exists_cons_of_ne_nil hne
  rw [split, intercalate_toList, List.splitOn_intercalate _ c (by simpa using h) (by simp)]
  simp [Function.comp_def]

/-! ## Splitting once -/

theorem splitFirst_append {sep : Char} (after : List Char) :
    ∀ {before : List Char}, sep ∉ before → splitFirst sep (before ++ sep :: after) = some (before, after)
  | [], _ => by simp [splitFirst]
  | c :: cs, h => by
    have hc : c ≠ sep := fun hc => h (hc ▸ List.mem_cons_self _ _)
    simp [splitFirst, hc, splitFirst_append after (fun hm => h (List.mem_cons_of_mem _ hm))]

theorem splitFirst_eq_none {sep : Char} : ∀ {cs : List Char}, sep ∉ cs → splitFirst sep cs = none
  | [], _ => rfl
  | c :: cs, h => by
    have hc : c ≠ sep := fun hc => h (hc ▸ List.mem_cons_self _ _)
    simp [splitFirst, hc, splitFirst_eq_none (fun hm => h (List.mem_cons_of_mem _ hm))]

theorem splitFirst_of_mem {sep : Char} : ∀ {cs : List Char}, sep ∈ cs →
    ∃ before after, splitFirst sep cs = some (before, after)
  | c :: cs, h => by
    by_cases hc : c = sep
    · exact ⟨[], cs, by simp [splitFirst, hc]⟩
    · obtain ⟨b, a, hba⟩ := splitFirst_of_mem ((List.mem_cons.mp h).resolve_left (Ne.symm hc))
      exact ⟨c :: b, a, by simp [splitFirst, hc, hba]⟩

theorem split1_append {sep : Char} {key : String} (h : sep ∉ key.toList) (value : String) :
    split1 (key ++ String.singleton sep ++ value) sep = [key, value] := by
  have hs : (key ++ String.singleton sep ++ value).toList = key.toList ++ sep :: value.toList := by
    simp [String.toList, String.singleton]
  rw [split1, hs, splitFirst_append _ h]
  rfl

theorem split1_keyValue {p : String × String} (h : '=' ∉ p.1.toList) :
    split1 (keyValue p) '=' = [p.1, p.2] :=
  split1_append h p.2

theorem split1_of_not_mem {sep : Char} {s : String} (h : sep ∉ s.toList) : split1 s sep = [s] := by
  rw [split1, splitFirst_eq_none h]

theorem split1_of_mem {sep : Char} {s : String} (h : sep ∈ s.toList) : ∃ a b, split1 s sep = [a, b] := by
  obtain ⟨b, a, hba⟩ := splitFirst_of_mem h
  exact ⟨_, _, by rw [split1, hba]⟩

/-- `key, value = s.split("=", 1)`. -/
def unpackKeyValue (s : String) : Except PyExc (String × String) := unpack2 (split1 s '=')

theorem unpackKeyValue_keyValue {p : String × String} (h : '=' ∉ p.1.toList) :
    unpackKeyValue (keyValue p) = .ok p := by
  rw [unpackKeyValue, split1_keyValue h]
  rfl

theorem unpackKeyValue_of_mem {s : String} (h : '=' ∈ s.toList) : ∃ p, unpackKeyValue s = .ok p := by
  obtain ⟨a, b, hab⟩ := split1_of_mem h
  exact ⟨(a, b), by rw [unpackKeyValue, hab]; rfl⟩

theorem unpackKeyValue_of_not_mem {s : String} (h : '=' ∉ s.toList) :
    unpackKeyValue s = .error (.valueError "not enough values to unpack (expected 2, got 1)") := by
  rw [unpackKeyValue, split1_of_not_mem h]
  rfl

/-! ## Stripping -/

theorem dropWhile_of_forall {α : Type} {p : α → Bool} {l : List α} (h : ∀ x ∈ l, p x = false) :
    l.dropWhile p = l := by
  cases l with
  | nil => rfl
  | cons x xs => simp [List.dropWhile, h x (List.mem_cons_self _ _)]

theorem strip_of_not_space {s : String} (h : ∀ c ∈ s.toList, isSpace c = false) : strip s = s := by
  rw [strip, dropWhile_of_forall h, dropWhile_of_forall (by simpa using h), List.reverse_reverse]
  rfl

/-- Pieces with no whitespace, joined by a separator that is not whitespace,
are their own `strip()`. -/
theorem strip_intercalate {c : Char} (hc : isSpace c = false) {ss : List String} (hne : ss ≠ [])
    (h : ∀ s ∈ ss, ∀ ch ∈ s.toList, isSpace ch = false) :
    strip (String.intercalate (String.singleton c) ss) = String.intercalate (String.singleton c) ss := by
  obtain ⟨a, as, rfl⟩ := List.exists_cons_of_ne_nil hne
  refine strip_of_not_space fun ch hch => ?_
  rw [intercalate_toList] at hch
  rcases mem_intercalate hch with rfl | ⟨l, hl, hch⟩
  · exact hc
  · obtain ⟨s, hs, rfl⟩ := List.mem_map.mp hl
    exact h s hs ch hch

end MetaGuildNet.L1.Str
