import MetaGuildNet.L1Python.Markup

/-!
# What the dashboards draw with `rich`

Both dashboards build `rich` tables and panels. A table is kept as its title,
column headers and rows of cell texts; a panel as its content, title and
styles. Column styles, widths and justification only change how a frame is
drawn and are left out. `Table.add_row` is where a cell's Python value meets
`rich`: `None` is an empty cell, a `str` is its text, and any other value is
refused with `NotRenderableError` (rich/table.py, `add_row`). A row keeps
the cells it was given: `add_row` pads a short row with empty cells and gives
the extra cells of a long row new columns with an empty header, which is how
`Table.cellAt` and `Table.header` read a table.

`Console` is what `console.print` writes for what a command draws; the
commands' results hold for every console. `rich` renders the title, headers
and cells of a table as markup (`Table.Renders`).

Results:
* `Table.addRow_ok_iff`: a row is added exactly when its cells render, and
  then it is added last.
* `Table.addRowsOf_fields`: the rows loop of the list commands adds one row per
  object, each the texts of its fields, the default for a field it lacks.
-/
namespace MetaGuildNet.L5

open MetaGuildNet.L1

/-- A `rich.table.Table`. -/
structure Table where
  title : String
  columns : List String
  rows : List (List String)
  deriving DecidableEq, Repr

inductive Content where
  | text (s : String)
  | table (t : Table)
  deriving DecidableEq, Repr

/-- A `rich.panel.Panel`: content, `title`, `border_style` and `style`. -/
structure Panel where
  content : Content
  title : Option String
  borderStyle : Option String
  style : Option String
  deriving DecidableEq, Repr

/-- What `console.print` writes: `rich`'s text of a table, `print_json`'s text
of a value, and the text `yaml.dump(value)` gives. -/
structure Console where
  table : Table → String
  json : PyVal → String
  yaml : PyVal → String

/-- The texts `rich` renders as markup when it draws a table: its title, its
headers and its cells. -/
def Table.texts (t : Table) : List String := t.title :: t.columns ++ t.rows.flatten

/-- `rich` draws the table without raising `MarkupError`, whatever the styles. -/
def Table.Renders (t : Table) : Prop := ∀ st, ∀ s ∈ t.texts, Markup.Renders st s

def cell : PyVal → Except PyExc String
  | .none => .ok ""
  | .str s => .ok s
  | v => .error (.notRenderable v.typeName)

/-- What `text.append(v)` appends to a `rich.text.Text`: a `str`; any other
value raises. -/
def textPiece : PyVal → Except PyExc String
  | .str s => .ok s
  | _ => .error (.typeError "Only str or Text can be appended to Text")

/-- A table with one more row, as `add_row` adds a row of `str` cells. -/
def Table.withRow (t : Table) (row : List String) : Table := { t with rows := t.rows ++ [row] }

/-- The header `rich` draws over column `j`; a column that `add_row` adds for
the extra cells of a long row has the empty header. -/
def Table.header (t : Table) (j : Nat) : String := (t.columns.get? j).getD ""

/-- The text `rich` draws in row `i`, column `j`; `add_row` pads a short row
with empty cells. -/
def Table.cellAt (t : Table) (i j : Nat) : String := ((t.rows.get? i).bind (·.get? j)).getD ""

/-- The texts of a row's cells, left to right; the first cell `rich` refuses
raises. -/
def renderCells : List PyVal → Except PyExc (List String)
  | [] => .ok []
  | v :: vs => do
    let s ← cell v
    let ss ← renderCells vs
    pure (s :: ss)

/-- `table.add_row(*cells)`. -/
def Table.addRow (t : Table) (cells : List PyVal) : Except PyExc Table :=
  (renderCells cells).map fun row => { t with rows := t.rows ++ [row] }

/-- `[item.get(key, default) for key, default in fields]`. -/
def fieldCells (fields : List (String × String)) (item : PyVal) : Except PyExc (List PyVal) :=
  fields.mapM fun f => item.get f.1 (.str f.2)

/-- `for item in items: table.add_row(*cells(item))`; the first row that
raises ends the loop. -/
def Table.addRowsOf (cells : PyVal → Except PyExc (List PyVal)) : Table → List PyVal → Except PyExc Table
  | t, [] => .ok t
  | t, item :: rest => do
    let t' ← t.addRow (← cells item)
    Table.addRowsOf cells t' rest

@[simp] theorem renderCells_cons_str (s : String) (vs : List PyVal) :
    renderCells (.str s :: vs) = (renderCells vs).map (s :: ·) := by
  cases h : renderCells vs <;> simp [renderCells, cell, h, bind, Except.bind, Except.map, pure,
    Except.pure]

theorem renderCells_append_str (s : String) :
    ∀ vs : List PyVal, renderCells (vs ++ [.str s]) = (renderCells vs).map (· ++ [s])
  | [] => rfl
  | v :: vs => by
    rw [List.cons_append, renderCells, renderCells, renderCells_append_str s vs]
    cases cell v <;> cases renderCells vs <;> rfl

theorem Table.addRow_append_str (t : Table) {cells : List PyVal} {texts : List String}
    (h : renderCells cells = .ok texts) (s : String) :
    t.addRow (cells ++ [.str s]) = .ok (t.withRow (texts ++ [s])) := by
  rw [Table.addRow, renderCells_append_str, h]
  rfl

theorem Table.addRow_strs (t : Table) (ss : List String) :
    t.addRow (ss.map .str) = .ok (t.withRow ss) := by
  have h : ∀ ss : List String, renderCells (ss.map .str) = .ok ss := fun ss => by
    induction ss with
    | nil => rfl
    | cons s ss ih => rw [List.map_cons, renderCells_cons_str, ih]; rfl
  rw [Table.addRow, h]
  rfl

/-- A row is added, last, exactly when its cells render. -/
theorem Table.addRow_ok_iff {t t' : Table} {cells : List PyVal} :
    t.addRow cells = .ok t' ↔ ∃ row, renderCells cells = .ok row ∧ t' = { t with rows := t.rows ++ [row] } := by
  unfold Table.addRow
  cases renderCells cells <;> simp [Except.map, eq_comm]

/-! ## The list commands' rows -/

/-- The text `rich` draws for `item.get(key, default)` on an object whose field
renders: its `str`, nothing for `None`, the default when the key is absent. -/
def fieldText (kvs : List (String × PyVal)) (f : String × String) : String :=
  match kvs.lookup f.1 with
  | some (.str s) => s
  | some _ => ""
  | none => f.2

/-- A field that is absent, a `str` or `None` renders. -/
def fieldRenders : Option PyVal → Bool
  | some (.str _) | some .none | none => true
  | some _ => false

/-- Every field of `fields` the object has is a `str` or `None`. -/
def FieldsRender (fields : List (String × String)) (kvs : List (String × PyVal)) : Prop :=
  ∀ f ∈ fields, fieldRenders (kvs.lookup f.1) = true

instance (fields : List (String × String)) (kvs : List (String × PyVal)) :
    Decidable (FieldsRender fields kvs) :=
  inferInstanceAs (Decidable (∀ f ∈ fields, _))

theorem fieldCells_dict (fields : List (String × String)) (kvs : List (String × PyVal)) :
    fieldCells fields (.dict kvs) = .ok (fields.map fun f => (kvs.lookup f.1).getD (.str f.2)) := by
  induction fields with
  | nil => rfl
  | cons f fs ih =>
    simp only [fieldCells] at ih ⊢
    rw [List.mapM_cons, ih]
    rfl

theorem renderCells_map {α : Type} {g : α → PyVal} {h : α → String} :
    ∀ {xs : List α}, (∀ x ∈ xs, cell (g x) = .ok (h x)) → renderCells (xs.map g) = .ok (xs.map h)
  | [], _ => rfl
  | x :: xs, hx => by
    rw [List.map_cons, renderCells, hx x (List.mem_cons_self _ _),
      renderCells_map fun y hy => hx y (List.mem_cons_of_mem _ hy)]
    rfl

theorem renderCells_fields {fields : List (String × String)} {kvs : List (String × PyVal)}
    (h : FieldsRender fields kvs) :
    (fieldCells fields (.dict kvs)).bind renderCells = .ok (fields.map (fieldText kvs)) := by
  rw [fieldCells_dict]
  refine renderCells_map fun f hf => ?_
  have hr := h f hf
  unfold fieldText
  rcases hl : kvs.lookup f.1 with _ | (_ | _ | _ | _ | _ | _) <;> rw [hl] at hr <;>
    first | rfl | cases hr

/-- Over objects whose fields render, the loop adds one row per object, in
order, each the texts of its fields. -/
theorem Table.addRowsOf_fields (fields : List (String × String)) :
    ∀ (t : Table) (kvss : List (List (String × PyVal))), (∀ kvs ∈ kvss, FieldsRender fields kvs) →
      Table.addRowsOf (fieldCells fields) t (kvss.map .dict) =
        .ok { t with rows := t.rows ++ kvss.map fun kvs => fields.map (fieldText kvs) }
  | t, [], _ => by simp [Table.addRowsOf]
  | t, kvs :: kvss, h => by
    have hc := renderCells_fields (h kvs (List.mem_cons_self _ _))
    have ih := Table.addRowsOf_fields fields { t with rows := t.rows ++ [fields.map (fieldText kvs)] }
      kvss fun k hk => h k (List.mem_cons_of_mem _ hk)
    revert hc
    rw [List.map_cons, Table.addRowsOf]
    cases fieldCells fields (.dict kvs) with
    | error e => intro hc; cases hc
    | ok vs =>
      intro hc
      simp only [Except.bind] at hc
      simp only [bind, Except.bind, Table.addRow, hc, Except.map, ih, List.append_assoc,
        List.singleton_append, List.map_cons]

end MetaGuildNet.L5
