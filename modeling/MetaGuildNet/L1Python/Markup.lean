import MetaGuildNet.L1Python.Str

/-!
# `rich` console markup (rich/markup.py, `render`)

`console.print(text)` renders `text` as console markup before it writes a
line, and so do the titles, headers and cells of a `rich` table. A tag is a
match of `RE_TAGS`, `((\\*)\[([a-z#/@][^[]*?)])`: a run of backslashes, `[`, a
first character among `a-z # / @`, and the shortest run without `[` up to the
first `]`. An odd run escapes the tag; an even one leaves it a tag. An opening
tag is pushed on `style_stack` under its normalised name; `[/name]` pops the
innermost open tag of that name and `[/]` the innermost of all. Two closings
raise `MarkupError`: one that matches no open tag, and `[/]` with nothing
open. Closing an `@` tag with parameters reads them with `literal_eval`, which
raises on a bad literal. Tags left open are closed silently at the end, and a
`[` that begins no tag is text.

`step` reads one character, so that a scan is `List.foldlM step` and the scan
of two texts is the scan of the first and then of the second. `Styles` holds
what the scan asks of `rich.style`: `Style.normalize`, and the message that
`literal_eval` raises for an `@` tag's parameters. The results hold for every
`Styles`.

Results:
* `scan_free`: a text in which no tag can begin (`Free`, such as
  `[Errno 111] Connection refused`) changes nothing but the position and the
  count of backslashes before it.
* `renders_free`, `renders_wrap`: a free text, and a line that puts a plain
  tag pair such as `[red]…[/red]` between free texts, render.
* `render_unmatched`, `render_close_after_pair`: a closing tag `[/name]` after
  a free text, or after a line's closed tag pair and a free text, raises
  `MarkupError` at that tag.
-/
namespace MetaGuildNet.L1.Markup

/-- What the scan asks of `rich.style`: `Style.normalize`, and the message of
the `MarkupError` raised on closing an `@` tag when `literal_eval` of its
parameters fails (`none` when it succeeds). -/
structure Styles where
  normalize : String → String
  metaError : String → Option String

/-- An open tag on `style_stack`: its normalised name and its parameters. -/
structure Tag where
  name : String
  parameters : Option String
  deriving DecidableEq, Repr

/-- Where the scan stands in `RE_TAGS`. -/
inductive Mode where
  | text
  /-- right after a `[` at `start`, with `esc` backslashes before it -/
  | opened (start esc : Nat)
  /-- inside the text `body` of a tag that begins at `start` -/
  | body (start esc : Nat) (body : List Char)
  deriving DecidableEq, Repr

/-- The scan before the character at `pos`. -/
structure State where
  pos : Nat
  /-- the backslashes right before `pos` -/
  backslashes : Nat
  mode : Mode
  /-- `style_stack`, innermost tag first -/
  stack : List Tag
  deriving DecidableEq, Repr

/-- `[a-z#/@]`, the first character of a tag. -/
def tagStart (c : Char) : Bool := ('a' ≤ c && c ≤ 'z') || c == '#' || c == '/' || c == '@'

/-- `pop_style(name)`: the innermost open tag of that name, and the stack
without it. -/
def popStyle (name : String) : List Tag → Option (Tag × List Tag)
  | [] => none
  | t :: ts => if t.name = name then some (t, ts) else (popStyle name ts).map fun p => (p.1, t :: p.2)

/-- Closing the open tag `t`: the parameters of an `@` tag go through
`literal_eval`.
mirrors rich/markup.py:172-203 -/
def closeTag (st : Styles) (t : Tag) : Except String Unit :=
  match t.parameters with
  | some p =>
    if t.name.startsWith "@" && p != "" then
      match st.metaError p with
      | some msg => .error msg
      | none => .ok ()
    else .ok ()
  | none => .ok ()

/-- The stack after the tag whose text is `body`, found at `start`, or the
message of the `MarkupError` it raises. `tag.markup` is `[` `body` `]`.
mirrors rich/markup.py:93-95, 151-208 -/
def applyTag (st : Styles) (start : Nat) (body : List Char) (stack : List Tag) :
    Except String (List Tag) :=
  let (name, parameters) : List Char × Option String :=
    match Str.splitFirst '=' body with
    | some (n, p) => (n, some (String.mk p))
    | none => (body, none)
  match name with
  | '/' :: rest =>
    let styleName := Str.strip (String.mk rest)
    if styleName = "" then
      match stack with
      | [] => .error ("closing tag '[/]' at position " ++ toString start ++ " has nothing to close")
      | t :: ts => (closeTag st t).map fun _ => ts
    else
      match popStyle (st.normalize styleName) stack with
      | none => .error ("closing tag '[" ++ String.mk body ++ "]' at position " ++ toString start ++
          " doesn't match any open tag")
      | some (t, ts) => (closeTag st t).map fun _ => ts
  | _ => .ok (⟨st.normalize (String.mk name), parameters⟩ :: stack)

/-- The mode a character leaves outside a tag: `[` may begin one. -/
def textMode (s : State) (c : Char) : Mode := if c = '[' then .opened s.pos s.backslashes else .text

/-- One character of the scan: `RE_TAGS.finditer` and the tag loop of `render`.
mirrors rich/markup.py:12-15, 71-101, 145-208 -/
def step (st : Styles) (s : State) (c : Char) : Except String State :=
  let next (mode : Mode) (stack : List Tag) : State :=
    ⟨s.pos + 1, if c = '\\' then s.backslashes + 1 else 0, mode, stack⟩
  match s.mode with
  | .text => .ok (next (textMode s c) s.stack)
  | .opened start esc =>
    if tagStart c then .ok (next (.body start esc [c]) s.stack) else .ok (next (textMode s c) s.stack)
  | .body start esc body =>
    if c = ']' then
      if esc % 2 = 1 then .ok (next .text s.stack) else (applyTag st start body s.stack).map (next .text)
    else if c = '[' then .ok (next (.opened s.pos s.backslashes) s.stack)
    else .ok (next (.body start esc (body ++ [c])) s.stack)

def init : State := ⟨0, 0, .text, []⟩

/-- `rich.markup.render(markup)`: `.ok ()` when it returns, or the message of
the `MarkupError` it raises.
mirrors rich/markup.py:104-224 -/
def render (st : Styles) (markup : String) : Except String Unit :=
  (markup.toList.foldlM (step st) init).map fun _ => ()

/-- `rich` renders the text without raising. -/
def Renders (st : Styles) (markup : String) : Prop := render st markup = .ok ()

/-- No tag can begin in the characters: each `[` is followed by a character
that cannot begin a tag, and the last one is not `[`. -/
def plain : List Char → Bool
  | [] => true
  | [c] => c != '['
  | c :: d :: cs => (c != '[' || !tagStart d) && plain (d :: cs)

/-- A text in which no tag can begin, such as `[Errno 111] Connection refused`. -/
def Free (s : String) : Prop := plain s.toList = true

instance (s : String) : Decidable (Free s) := inferInstanceAs (Decidable (plain s.toList = true))

/-- A tag name the commands write, such as `red` or `bold cyan`: it begins with
a letter and holds no `[`, `]`, `=` or outer whitespace. -/
def plainTag (n : String) : Bool :=
  match n.toList with
  | c :: cs => 'a' ≤ c && c ≤ 'z' && !cs.contains '[' && !cs.contains ']' && !n.toList.contains '=' &&
      Str.strip n == n
  | [] => false

/-- The backslashes right before the end of `cs`, `b` of them before it. -/
def backslashesAfter (b : Nat) : List Char → Nat
  | [] => b
  | c :: cs => backslashesAfter (if c = '\\' then b + 1 else 0) cs

/-! ## Scanning text and tags -/

variable (st : Styles)

theorem plain_append : ∀ {a b : List Char}, plain a = true → plain b = true → plain (a ++ b) = true
  | [], _, _, hb => hb
  | [c], [], ha, _ => ha
  | [c], d :: b, ha, hb => by
    simp only [plain, bne_iff_ne, ne_eq] at ha
    simp [plain, ha, hb]
  | c :: d :: a, b, ha, hb => by
    simp only [plain, Bool.and_eq_true] at ha
    simp only [List.cons_append, plain, Bool.and_eq_true]
    exact ⟨ha.1, plain_append ha.2 hb⟩

theorem plain_tail {c : Char} : ∀ {cs : List Char}, plain (c :: cs) = true → plain cs = true
  | [], _ => rfl
  | _ :: _, h => by simp only [plain, Bool.and_eq_true] at h; exact h.2

theorem plain_of_not_mem : ∀ {cs : List Char}, '[' ∉ cs → plain cs = true
  | [], _ => rfl
  | [c], h => by simpa [plain] using fun e : c = '[' => h (e ▸ List.mem_singleton_self c)
  | c :: d :: cs, h => by
    have hc : c ≠ '[' := fun e => h (e ▸ List.mem_cons_self _ _)
    simp only [plain, Bool.and_eq_true, Bool.or_eq_true, bne_iff_ne]
    exact ⟨.inl hc, plain_of_not_mem fun m => h (List.mem_cons_of_mem _ m)⟩

theorem free_append {a b : String} (ha : Free a) (hb : Free b) : Free (a ++ b) := by
  unfold Free at *
  simpa [String.toList] using plain_append ha hb

theorem step_text {s : State} (hs : s.mode = .text) {c : Char} (hc : c ≠ '[') :
    step st s c = .ok ⟨s.pos + 1, if c = '\\' then s.backslashes + 1 else 0, .text, s.stack⟩ := by
  simp [step, hs, textMode, hc]

theorem step_opened {s : State} {start esc : Nat} (hs : s.mode = .opened start esc) {c : Char}
    (hc : tagStart c = false) : step st s c = step st { s with mode := .text } c := by
  simp [step, hs, hc, textMode]

theorem scan_free : ∀ {cs : List Char}, plain cs = true → ∀ s : State, s.mode = .text →
    cs.foldlM (step st) s = .ok ⟨s.pos + cs.length, backslashesAfter s.backslashes cs, .text, s.stack⟩
  | [], _, ⟨_, _, _, _⟩, hs => by cases hs; rfl
  | c :: cs, h, s, hs => by
    rw [List.foldlM_cons]
    by_cases hc : c = '['
    · subst hc
      cases cs with
      | nil => simp [plain] at h
      | cons d cs =>
        have hd : tagStart d = false := by simp_all [plain]
        have h1 : step st s '[' = .ok ⟨s.pos + 1, 0, .opened s.pos s.backslashes, s.stack⟩ := by
          simp [step, hs, textMode]
        rw [h1]
        simp only [bind, Except.bind]
        rw [List.foldlM_cons, step_opened st rfl hd, ← List.foldlM_cons,
          scan_free (plain_tail h) ⟨s.pos + 1, 0, .text, s.stack⟩ rfl]
        simp only [List.length_cons, backslashesAfter, show ('[' : Char) ≠ '\\' by decide, if_false]
        congr 2
        omega
    · rw [step_text st hs hc]
      simp only [bind, Except.bind]
      rw [scan_free (plain_tail h) _ rfl]
      simp only [List.length_cons, backslashesAfter, Nat.add_assoc, Nat.add_comm 1]

theorem scan_body : ∀ {cs : List Char}, '[' ∉ cs → ']' ∉ cs →
    ∀ (s : State) {start esc : Nat} {body : List Char}, s.mode = .body start esc body →
      ∃ b, cs.foldlM (step st) s = .ok ⟨s.pos + cs.length, b, .body start esc (body ++ cs), s.stack⟩
  | [], _, _, ⟨_, b, _, _⟩, _, _, _, hs => ⟨b, by cases hs; simp only [List.append_nil]; rfl⟩
  | c :: cs, h, h', s, start, esc, body, hs => by
    have hc : c ≠ '[' := fun e => h (e ▸ List.mem_cons_self _ _)
    have hc' : c ≠ ']' := fun e => h' (e ▸ List.mem_cons_self _ _)
    obtain ⟨b, hb⟩ := scan_body (fun m => h (List.mem_cons_of_mem _ m))
      (fun m => h' (List.mem_cons_of_mem _ m)) ⟨s.pos + 1, if c = '\\' then s.backslashes + 1 else 0,
        .body start esc (body ++ [c]), s.stack⟩ rfl
    refine ⟨b, ?_⟩
    rw [List.foldlM_cons]
    simp only [step, hs, hc, hc', if_false, bind, Except.bind, hb]
    simp [Nat.add_assoc, Nat.add_comm 1]

theorem step_close {s : State} {start esc : Nat} {body : List Char} (hs : s.mode = .body start esc body) :
    step st s ']' = (if esc % 2 = 1 then .ok s.stack else applyTag st start body s.stack).map
      fun stack => ⟨s.pos + 1, 0, .text, stack⟩ := by
  simp only [step, hs, if_true, show (']' : Char) ≠ '\\' by decide, if_false]
  split_ifs <;> rfl

/-- A tag `[c cs]` read outside a tag: an odd run of backslashes before it
leaves the stack alone, and otherwise the tag acts on it. -/
theorem scan_tag {c : Char} {cs : List Char} (hc : tagStart c = true) (h : '[' ∉ cs) (h' : ']' ∉ cs)
    (s : State) (hs : s.mode = .text) :
    ('[' :: c :: cs ++ [']']).foldlM (step st) s =
      (if s.backslashes % 2 = 1 then .ok s.stack else applyTag st s.pos (c :: cs) s.stack).map
        fun stack => ⟨s.pos + cs.length + 3, 0, .text, stack⟩ := by
  have h1 : step st s '[' = .ok ⟨s.pos + 1, 0, .opened s.pos s.backslashes, s.stack⟩ := by
    simp [step, hs, textMode]
  have h2 : step st ⟨s.pos + 1, 0, .opened s.pos s.backslashes, s.stack⟩ c =
      .ok ⟨s.pos + 2, 0, .body s.pos s.backslashes [c], s.stack⟩ := by
    have hc' : c ≠ '\\' := by rintro rfl; cases hc
    simp [step, hc, hc']
  obtain ⟨b, hb⟩ := scan_body st h h' ⟨s.pos + 2, 0, .body s.pos s.backslashes [c], s.stack⟩ rfl
  rw [List.cons_append, List.cons_append, List.foldlM_cons, h1]
  simp only [bind, Except.bind]
  rw [List.foldlM_cons, h2]
  simp only [bind, Except.bind]
  rw [List.foldlM_append, hb]
  simp only [bind, Except.bind, List.foldlM_cons, List.foldlM_nil]
  rw [step_close st (s := ⟨s.pos + 2 + cs.length, b, .body s.pos s.backslashes ([c] ++ cs), s.stack⟩) rfl,
    show s.pos + 2 + cs.length + 1 = s.pos + cs.length + 3 by omega, List.singleton_append]
  split_ifs
  · rfl
  · cases applyTag st s.pos (c :: cs) s.stack <;> rfl

/-! ## The tags the commands write -/

theorem plainTag_spec {n : String} (hn : plainTag n = true) :
    ∃ c cs, n.toList = c :: cs ∧ tagStart c = true ∧ c ≠ '/' ∧ '[' ∉ n.toList ∧ ']' ∉ n.toList ∧
      '=' ∉ n.toList ∧ Str.strip n = n := by
  unfold plainTag at hn
  split at hn
  · next c cs hcs =>
    simp only [Bool.and_eq_true, decide_eq_true_eq, Bool.not_eq_true', List.contains_eq_any_beq,
      List.any_eq_false, beq_iff_eq] at hn
    obtain ⟨⟨⟨⟨⟨hlo, hhi⟩, hb⟩, hb'⟩, he⟩, hs⟩ := hn
    have hc : tagStart c = true := by simp [tagStart, hlo, hhi]
    refine ⟨c, cs, hcs, hc, fun e => by subst e; simp at hlo, ?_, ?_, fun m => he _ m rfl, hs⟩
    · rw [hcs]; rintro (_ | ⟨_, m⟩)
      · exact absurd hc (by decide)
      · exact hb _ m rfl
    · rw [hcs]; rintro (_ | ⟨_, m⟩)
      · exact absurd hc (by decide)
      · exact hb' _ m rfl
  · cases hn

theorem applyTag_open {n : String} (hn : plainTag n = true) (p : Nat) (stack : List Tag) :
    applyTag st p n.toList stack = .ok (⟨st.normalize n, none⟩ :: stack) := by
  obtain ⟨c, cs, hcs, -, hc, -, -, he, -⟩ := plainTag_spec hn
  unfold applyTag
  rw [Str.splitFirst_eq_none he]
  dsimp only
  split
  · next rest h => exact absurd (List.cons.inj (hcs.symm.trans h)).1 hc
  · rfl

theorem applyTag_close {n : String} (hn : plainTag n = true) (p : Nat) (ts : List Tag) :
    applyTag st p ('/' :: n.toList) (⟨st.normalize n, none⟩ :: ts) = .ok ts := by
  obtain ⟨c, cs, hcs, -, -, -, -, he, hs⟩ := plainTag_spec hn
  have hne : n ≠ "" := by rintro rfl; cases hcs
  have he' : '=' ∉ '/' :: n.toList := by simpa using he
  have hmk : String.mk n.toList = n := rfl
  unfold applyTag
  rw [Str.splitFirst_eq_none he']
  simp only [hmk, hs, hne, if_false, popStyle, if_true]
  rfl

theorem applyTag_unmatched {m : String} (hm : plainTag m = true) (p : Nat) :
    applyTag st p ('/' :: m.toList) [] =
      .error ("closing tag '[/" ++ m ++ "]' at position " ++ toString p ++ " doesn't match any open tag") := by
  obtain ⟨c, cs, hcs, -, -, -, -, he, hs⟩ := plainTag_spec hm
  have hne : m ≠ "" := by rintro rfl; cases hcs
  have he' : '=' ∉ '/' :: m.toList := by simpa using he
  have hmk : String.mk m.toList = m := rfl
  unfold applyTag
  rw [Str.splitFirst_eq_none he']
  simp only [hmk, hs, hne, if_false, popStyle]
  rfl

/-- `"[n]" ++ a ++ "[/n]"` read outside a tag, after an even run of
backslashes: `n` is opened and closed again, unless a run of backslashes at
the end of `a` escapes the closing tag. -/
theorem scan_pair {n : String} (hn : plainTag n = true) {a : List Char} (ha : plain a = true) (s : State)
    (hs : s.mode = .text) (he : s.backslashes % 2 = 0) :
    ('[' :: n.toList ++ ']' :: a ++ '[' :: '/' :: n.toList ++ [']']).foldlM (step st) s =
      .ok ⟨s.pos + 2 * n.length + a.length + 5, 0, .text,
        if backslashesAfter 0 a % 2 = 1 then ⟨st.normalize n, none⟩ :: s.stack else s.stack⟩ := by
  obtain ⟨c, cs, hcs, hc, -, hb, hb', -, -⟩ := plainTag_spec hn
  have hopen := scan_tag st hc (fun m => hb (hcs ▸ List.mem_cons_of_mem _ m))
    (fun m => hb' (hcs ▸ List.mem_cons_of_mem _ m)) s hs
  have ho : applyTag st s.pos (c :: cs) s.stack = .ok (⟨st.normalize n, none⟩ :: s.stack) := by
    rw [← hcs]; exact applyTag_open st hn s.pos s.stack
  rw [if_neg (by omega), ho] at hopen
  have e : '[' :: n.toList ++ ']' :: a ++ '[' :: '/' :: n.toList ++ [']'] =
      ('[' :: c :: cs ++ [']']) ++ a ++ ('[' :: '/' :: n.toList ++ [']']) := by
    rw [hcs]; simp
  have hclose := scan_tag st (c := '/') rfl hb hb' ⟨s.pos + cs.length + 3 + a.length,
      backslashesAfter 0 a, .text, ⟨st.normalize n, none⟩ :: s.stack⟩ rfl
  have hlen : n.toList.length = cs.length + 1 := by rw [hcs, List.length_cons]
  have hlen' : n.length = n.toList.length := rfl
  rw [e, List.foldlM_append, List.foldlM_append, hopen]
  simp only [Except.map, bind, Except.bind]
  rw [scan_free st ha _ rfl]
  simp only
  rw [hclose, applyTag_close st hn]
  split_ifs <;> simp only [Except.map] <;> congr 2 <;> omega

theorem renders_free {s : String} (h : Free s) : Renders st s := by
  unfold Renders render
  rw [scan_free st h init rfl]
  rfl

theorem scan_line {p a b : List Char} (hp : plain p = true) (hpe : backslashesAfter 0 p % 2 = 0)
    {n : String} (hn : plainTag n = true) (ha : plain a = true) (hb : plain b = true) :
    ∃ s, (p ++ ('[' :: n.toList ++ ']' :: a ++ '[' :: '/' :: n.toList ++ [']']) ++ b).foldlM (step st)
      init = .ok s := by
  rw [List.foldlM_append, List.foldlM_append, scan_free st hp init rfl]
  simp only [bind, Except.bind]
  rw [scan_pair st hn ha ⟨init.pos + p.length, backslashesAfter init.backslashes p, .text, init.stack⟩
    rfl hpe]
  exact ⟨_, scan_free st hb _ rfl⟩

theorem toList_wrap (p a b n : String) :
    (p ++ "[" ++ n ++ "]" ++ a ++ "[/" ++ n ++ "]" ++ b).toList =
      p.toList ++ ('[' :: n.toList ++ ']' :: a.toList ++ '[' :: '/' :: n.toList ++ [']']) ++ b.toList := by
  simp [String.toList]

/-- A line that puts a plain tag pair between free texts, after a text
that does not end in an odd run of backslashes, renders: how the commands
print `[red]Error:[/red] {e}`, `[dim]{timestamp}[/dim] {line}` and the like. -/
theorem renders_wrap {p a b : String} (hp : Free p) (hpe : backslashesAfter 0 p.toList % 2 = 0)
    {n : String} (hn : plainTag n = true) (ha : Free a) (hb : Free b) :
    Renders st (p ++ "[" ++ n ++ "]" ++ a ++ "[/" ++ n ++ "]" ++ b) := by
  obtain ⟨s, hs⟩ := scan_line st hp hpe hn ha hb
  unfold Renders render
  rw [toList_wrap, hs]
  rfl

theorem renders_tag {n a : String} (hn : plainTag n = true) (ha : Free a) :
    Renders st ("[" ++ n ++ "]" ++ a ++ "[/" ++ n ++ "]") := by
  simpa using renders_wrap st (p := "") (b := "") (by decide) (by decide) hn ha (by decide)

/-- The form most lines of the commands take, `[n]{pre}{x}[/n]`, renders when
the tag is plain and its texts are free. -/
theorem renders_line (n pre : String) {x line : String} (hn : plainTag n = true) (hpre : Free pre)
    (hx : Free x) (h : line = "[" ++ n ++ "]" ++ pre ++ x ++ "[/" ++ n ++ "]") : Renders st line := by
  rw [h, String.append_assoc _ pre x]
  exact renders_tag st hn (free_append hpre hx)

/-- A line that opens with a plain tag pair and goes on with a free text,
`[n]{a}[/n]{x}`, renders: how the commands print `[red]Error:[/red] {e}`. -/
theorem renders_lead (n a : String) {x line : String} (hn : plainTag n = true) (ha : Free a)
    (hx : Free x) (h : line = "[" ++ n ++ "]" ++ a ++ "[/" ++ n ++ "]" ++ x) : Renders st line := by
  have hw := renders_wrap st (p := "") (by decide) (by decide) hn ha hx
  rwa [String.empty_append, ← h] at hw

/-! ## Recognising the lines the commands print -/

/-- The parts `p`, `n`, `a`, `b` of a line `p [n] a [/n] b` whose texts `p` and
`a` hold no `[`. -/
def pairParts (cs : List Char) : Option (List Char × List Char × List Char × List Char) :=
  match cs.dropWhile (· != '[') with
  | '[' :: r =>
    match r.dropWhile (· != ']') with
    | ']' :: r' =>
      let n := r.takeWhile (· != ']')
      let rest := r'.dropWhile (· != '[')
      if ('[' :: '/' :: n ++ [']']).isPrefixOf rest then
        some (cs.takeWhile (· != '['), n, r'.takeWhile (· != '['), rest.drop (n.length + 3))
      else none
    | _ => none
  | _ => none

/-- A line `rich` renders whatever the styles, recognised: a free text, or
`p [n] a [/n] b` with a plain tag `n`, `p` and `a` without `[`, `b` free and
`p` not ending in an odd run of backslashes. -/
def simple (s : String) : Bool :=
  plain s.toList ||
    match pairParts s.toList with
    | some (p, n, _, b) => plainTag (String.mk n) && backslashesAfter 0 p % 2 == 0 && plain b
    | none => false

theorem not_mem_takeWhile (c : Char) (cs : List Char) : c ∉ cs.takeWhile (· != c) := fun h => by
  simpa using List.mem_takeWhile_imp h

theorem pairParts_spec {cs p n a b : List Char} (h : pairParts cs = some (p, n, a, b)) :
    cs = p ++ ('[' :: n ++ ']' :: a ++ '[' :: '/' :: n ++ [']']) ++ b ∧ '[' ∉ p ∧ '[' ∉ a := by
  unfold pairParts at h
  split at h
  · next r hr =>
    split at h
    · next r' hr' =>
      dsimp only at h
      split_ifs at h with hpre
      cases h
      obtain ⟨t, ht⟩ := List.isPrefixOf_iff_prefix.mp hpre
      refine ⟨?_, not_mem_takeWhile _ _, not_mem_takeWhile _ _⟩
      have e1 := List.takeWhile_append_dropWhile (· != '[') cs
      have e2 := List.takeWhile_append_dropWhile (· != ']') r
      have e3 := List.takeWhile_append_dropWhile (· != '[') r'
      rw [hr] at e1
      rw [hr'] at e2
      rw [← ht] at e3
      rw [← ht, List.drop_left' (by simp)]
      generalize cs.takeWhile (· != '[') = P at e1 ⊢
      generalize r.takeWhile (· != ']') = N at e2 e3 ⊢
      generalize r'.takeWhile (· != '[') = A at e3 ⊢
      subst e1 e2 e3
      simp
    · cases h
  · cases h

theorem renders_of_simple {s : String} (h : simple s = true) : Renders st s := by
  unfold simple at h
  rcases Bool.or_eq_true_iff.mp h with h | h
  · exact renders_free st h
  · split at h
    · next p n a b hparts =>
      obtain ⟨hcs, hp, ha⟩ := pairParts_spec hparts
      simp only [Bool.and_eq_true, beq_iff_eq] at h
      obtain ⟨⟨hn, hpe⟩, hb⟩ := h
      obtain ⟨t, ht⟩ := scan_line st (plain_of_not_mem hp) hpe (n := String.mk n) hn (plain_of_not_mem ha) hb
      unfold Renders render
      rw [hcs]
      exact congrArg (Except.map _) ht
    · cases h

theorem scan_unmatched {m : String} (hm : plainTag m = true) (s : State) (hs : s.mode = .text)
    (he : s.backslashes % 2 = 0) (hst : s.stack = []) (rest : List Char) :
    (('[' :: '/' :: m.toList ++ [']']) ++ rest).foldlM (step st) s =
      .error ("closing tag '[/" ++ m ++ "]' at position " ++ toString s.pos ++ " doesn't match any open tag") := by
  obtain ⟨c, cs, -, -, -, hb, hb', -, -⟩ := plainTag_spec hm
  rw [List.foldlM_append, scan_tag st (c := '/') rfl hb hb' s hs, if_neg (by omega), hst,
    applyTag_unmatched st hm]
  rfl

theorem toList_append (s t : String) : (s ++ t).toList = s.toList ++ t.toList := String.data_append s t

theorem toList_close (m rest : String) :
    ("[/" ++ m ++ "]" ++ rest).toList = ('[' :: '/' :: m.toList ++ [']']) ++ rest.toList := by
  simp [String.toList]

/-- A free text, then a closing tag `[/m]` that nothing opened: `MarkupError`
at that tag. -/
theorem render_unmatched {p : String} (hp : Free p) (hpe : backslashesAfter 0 p.toList % 2 = 0)
    {m : String} (hm : plainTag m = true) (rest : String) :
    render st (p ++ ("[/" ++ m ++ "]" ++ rest)) =
      .error ("closing tag '[/" ++ m ++ "]' at position " ++ toString p.length ++ " doesn't match any open tag") := by
  unfold render
  rw [toList_append p, toList_close, List.foldlM_append, scan_free st hp init rfl]
  simp only [bind, Except.bind]
  rw [scan_unmatched st hm ⟨init.pos + p.toList.length, backslashesAfter init.backslashes p.toList, .text,
    init.stack⟩ rfl hpe rfl]
  simp only [init, Nat.zero_add]
  rfl

/-- Once a line's tag pair is closed, a closing tag `[/m]` after a free text
raises `MarkupError` at that tag, whatever follows: nothing is open to match
it. -/
theorem render_close_after_pair {p a q : String} (hp : Free p) (hpe : backslashesAfter 0 p.toList % 2 = 0)
    {n m : String} (hn : plainTag n = true) (hm : plainTag m = true) (ha : Free a)
    (hae : backslashesAfter 0 a.toList % 2 = 0) (hq : Free q) (hqe : backslashesAfter 0 q.toList % 2 = 0)
    (rest : String) :
    render st (p ++ "[" ++ n ++ "]" ++ a ++ "[/" ++ n ++ "]" ++ (q ++ ("[/" ++ m ++ "]" ++ rest))) =
      .error ("closing tag '[/" ++ m ++ "]' at position " ++
        toString (p.length + 2 * n.length + a.length + 5 + q.length) ++ " doesn't match any open tag") := by
  unfold render
  rw [toList_wrap, toList_append q, toList_close, List.foldlM_append, List.foldlM_append, scan_free st hp init rfl]
  simp only [bind, Except.bind]
  rw [scan_pair st hn ha ⟨init.pos + p.toList.length, backslashesAfter init.backslashes p.toList, .text,
    init.stack⟩ rfl hpe, if_neg (by omega)]
  simp only
  rw [List.foldlM_append, scan_free st hq _ rfl]
  simp only [bind, Except.bind]
  rw [scan_unmatched st hm _ rfl hqe rfl]
  simp only [init, Nat.zero_add]
  rfl

end MetaGuildNet.L1.Markup
