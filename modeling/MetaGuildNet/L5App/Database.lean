import MetaGuildNet.L1Python.Str
import MetaGuildNet.L3Resource.Api
import MetaGuildNet.L5App.Render

/-!
# `mgn db`: list, create, table create, query and insert

`query_table` (metaguildnet/cli/database.py:114-147) asks `DatabaseAPI.query`
for the rows of a table. In table format it heads the columns with the keys of
the first row and adds each row as `str(v) for v in row.values()`: a row's
cells are its values in its own key order, whatever the headers are.
`create_table` (71-111) reads `--schema name:type[:flag]*,...` into column
objects and posts them, with the table's name and primary key, to
`DatabaseAPI.create_table`. `insert_rows` (150-170) decodes `--data`, wraps a
value that is not a list as the one row, and reports `len(ids)` of the reply;
`list_dbs` (18-44) and `create_db` (47-62) draw and report what the Host App
returns.

`console.print(tbl)` and `console.print_json(data=rows)` draw `rich`
renderables: `queryTable` returns what it draws, and its text lines go to the
console as in the other commands.

Results:
* `queryTable_table`: on a non-empty list of row objects the command draws the
  table titled with the count, headed by the first row's keys, whose row `i`
  holds the `str` of row `i`'s values in row `i`'s own key order.
* `parseSchema_formatSchema`: the schema parser reads back every non-empty
  list of columns written as `name:type[:flag]*` joined by `,`: each column
  with its name and type and `True` for exactly the flags given.
-/
namespace MetaGuildNet.L5

open MetaGuildNet.L1 MetaGuildNet.L2 MetaGuildNet.L3

/-! ## `db query` -/

/-- What `db query` draws besides text: the rows as JSON, or a table. -/
inductive Drawn where
  | json (rows : PyVal)
  | table (t : Table)
  deriving DecidableEq, Repr

/-- The rows loop: one row per item, its cells the `str` of its values.
mirrors metaguildnet/cli/database.py:140-141 -/
def addValueRows (t : Table) : List PyVal → Except PyExc Table
  | [] => .ok t
  | row :: rest => do
    let vals ← row.values
    let t' ← t.addRow (vals.map fun v => .str v.toStr)
    addValueRows t' rest

section
variable (decode : Decoder) (c : Client)

/-- `mgn db query CLUSTER_ID DB_ID TABLE [--limit N] [--format table|json]`.
mirrors metaguildnet/cli/database.py:114-147 -/
def queryTable (clusterId dbId table : String) (limit : Int) (format : String) :
    Prog (Option Drawn) :=
  tryCatch
    (do
      let rows ← DatabaseAPI.query decode c clusterId dbId table limit
      if format = "json" then pure (some (.json rows))
      else if !rows.truthy then do
        Prog.print "No rows found"
        pure none
      else do
        let n ← Prog.lift rows.len
        let first ← Prog.lift rows.first
        let columns ← Prog.lift first.keys
        let items ← Prog.lift rows.iter
        let tbl ← Prog.lift (addValueRows ⟨table ++ " (" ++ toString n ++ " rows)", columns, []⟩ items)
        pure (some (.table tbl)))
    (fun e => do
      Prog.print ("[red]Error:[/red] " ++ e.str)
      throw .abort)

end

theorem addValueRows_dicts (t : Table) : ∀ rows : List (List (String × PyVal)),
    addValueRows t (rows.map .dict) =
      .ok { t with rows := t.rows ++ rows.map fun row => row.map fun kv => kv.2.toStr }
  | [] => by simp [addValueRows]
  | row :: rows => by
    have hrow : (row.map Prod.snd).map (fun v => PyVal.str v.toStr) =
        (row.map fun kv => kv.2.toStr).map .str := by simp
    rw [List.map_cons, addValueRows]
    simp only [PyVal.values, bind, Except.bind, hrow, Table.addRow_strs, addValueRows_dicts]
    simp [Table.withRow]

section
variable (decode : Decoder) (c : Client)

/-- On a non-empty list of row objects, `db query` in table format draws the
table titled with the count, headed by the first row's keys, whose row `i` is
the `str` of row `i`'s values in row `i`'s own key order. -/
theorem queryTable_table (clusterId dbId table : String) (limit : Int) {format : String}
    (w : World) {rows : List (List (String × PyVal))} (hne : rows ≠ []) (hf : format ≠ "json")
    (hq : (Op.databaseQuery clusterId dbId table limit).outcome decode (w.replies w.sent.length) =
      .ok (.list (rows.map .dict))) :
    ∃ w', queryTable decode c clusterId dbId table limit format w =
      (.ok (some (.table ⟨table ++ " (" ++ toString rows.length ++ " rows)",
        (rows.head hne).map Prod.fst, rows.map fun row => row.map fun kv => kv.2.toStr⟩)), w') := by
  have hrun : DatabaseAPI.query decode c clusterId dbId table limit w = _ :=
    Op.run_outcome decode c (.databaseQuery clusterId dbId table limit) w
  rw [hq] at hrun
  -- a non-empty list is truthy and `rows[0]` is its first row
  have hhead : (PyVal.list (rows.map .dict)).truthy = true ∧
      (PyVal.list (rows.map .dict)).first = .ok (.dict (rows.head hne)) := by
    cases rows with
    | nil => exact absurd rfl hne
    | cons => exact ⟨rfl, rfl⟩
  simp only [queryTable, Prog.tryCatch_run, Prog.bind_run, hrun, hf, if_false, hhead.1, hhead.2,
    Bool.not_true, Bool.false_eq_true, PyVal.len, PyVal.keys, PyVal.iter_list, Prog.lift_run,
    addValueRows_dicts, Prog.pure_run, List.length_map, List.nil_append]
  exact ⟨_, rfl⟩

end

/-- Two rows of a `users` table, the second with its keys in another order. -/
def swappedRowsBody : String :=
  "\x7b\"rows\": [\x7b\"id\": 1, \"name\": \"ada\"\x7d, \x7b\"name\": \"bob\", \"id\": 2\x7d]\x7d"

/-- A decoder that agrees with `json.loads` on `swappedRowsBody` and rejects
every other text. -/
def swappedRowsDecoder (t : String) : Except String PyVal :=
  if t = swappedRowsBody then
    .ok (.dict [("rows", .list [.dict [("id", .int 1), ("name", .str "ada")],
      .dict [("name", .str "bob"), ("id", .int 2)]])])
  else .error "Expecting value: line 1 column 1 (char 0)"

/-- `mgn db query c1 d1 users` when the second row lists `name` before `id`:
under the header `id` the table shows `bob`, and under `name` it shows `2`. -/
theorem queryTable_swapped_keys :
    ∃ t w', queryTable swappedRowsDecoder ⟨"https://localhost:8090", ""⟩ "c1" "d1" "users" 100 "table"
        ⟨fun _ => .http 200 swappedRowsBody, [], [], 0⟩ = (.ok (some (.table t)), w') ∧
      t.header 0 = "id" ∧ t.cellAt 1 0 = "bob" ∧ t.header 1 = "name" ∧ t.cellAt 1 1 = "2" := by
  obtain ⟨w', h⟩ := @queryTable_table swappedRowsDecoder ⟨"https://localhost:8090", ""⟩ "c1" "d1" "users"
    100 "table" ⟨fun _ => .http 200 swappedRowsBody, [], [], 0⟩
    [[("id", .int 1), ("name", .str "ada")], [("name", .str "bob"), ("id", .int 2)]]
    (List.cons_ne_nil _ _) (by decide) rfl
  exact ⟨_, w', h, rfl, rfl, rfl, rfl⟩

/-! ## `db table create` -/

/-- `col["<flag>"] = True` for a flag the parser knows; any other is skipped.
mirrors metaguildnet/cli/database.py:90-96 -/
def setFlag (col : PyVal) (flag : String) : Except PyExc PyVal :=
  if flag = "required" then col.setItem "required" (.bool true)
  else if flag = "unique" then col.setItem "unique" (.bool true)
  else if flag = "indexed" then col.setItem "indexed" (.bool true)
  else pure col

/-- One column definition, `name:type[:flag]*`.
mirrors metaguildnet/cli/database.py:86-98 -/
def parseColumn (colDef : String) : Except PyExc PyVal := do
  let parts := Str.split (Str.strip colDef) ':'
  let name ← index parts 0
  let type ← index parts 1
  let col := PyVal.dict [("name", .str name), ("type", .str type)]
  if parts.length > 2 then (parts.drop 2).foldlM setFlag col else pure col

/-- The `--schema` parser of `db table create`.
mirrors metaguildnet/cli/database.py:84-98 -/
def parseSchema (schema : String) : Except PyExc (List PyVal) :=
  (Str.split schema ',').mapM parseColumn

/-- The table spec `create_table` posts.
mirrors metaguildnet/cli/database.py:100-104 -/
def tableSpec (tableName primaryKey : String) (columns : List PyVal) : PyVal :=
  .dict [("name", .str tableName), ("primaryKey", .str primaryKey), ("schema", .list columns)]

section
variable (decode : Decoder) (c : Client)

/-- `mgn db table create CLUSTER_ID DB_ID TABLE_NAME --schema S [--primary-key K]`.
mirrors metaguildnet/cli/database.py:71-111 -/
def createTable (clusterId dbId tableName schema primaryKey : String) : Prog Unit :=
  tryCatch
    (do
      let columns ← Prog.lift (parseSchema schema)
      let _ ← DatabaseAPI.createTable decode c clusterId dbId (tableSpec tableName primaryKey columns)
      Prog.print ("[green]✓[/green] Table created: " ++ tableName))
    (fun e => do
      Prog.print ("[red]Error:[/red] " ++ e.str)
      throw .abort)

end

/-! ## The schema format and its reading -/

/-- A column flag of the schema (spec: `required?`, `unique?`, `indexed?`). -/
inductive Flag where
  | required
  | unique
  | indexed
  deriving DecidableEq, Repr

def Flag.text : Flag → String
  | required => "required"
  | unique => "unique"
  | indexed => "indexed"

/-- A schema column as the spec describes it: a name, a type and its flags. -/
structure ColumnSpec where
  name : String
  type : String
  flags : List Flag
  deriving DecidableEq, Repr

/-- `name:type[:flag]*`. -/
def ColumnSpec.format (col : ColumnSpec) : String :=
  String.intercalate ":" (col.name :: col.type :: col.flags.map Flag.text)

/-- The columns written one after another, joined by `,`. -/
def formatSchema (cols : List ColumnSpec) : String :=
  String.intercalate "," (cols.map ColumnSpec.format)

/-- The key a flag sets, with `True`. -/
def Flag.item (f : Flag) : String × PyVal := (f.text, .bool true)

/-- The column object the spec asks for: the name, the type, and `True` for
each flag given, once, in the order the flags first appear. -/
def ColumnSpec.toPy (col : ColumnSpec) : PyVal :=
  .dict ([("name", .str col.name), ("type", .str col.type)] ++ col.flags.eraseDups.map Flag.item)

/-- A name or a type the format can carry: non-empty, with no `,`, no `:` and
no whitespace. -/
def PlainWord (s : String) : Prop :=
  s ≠ "" ∧ ∀ ch ∈ s.toList, ch ≠ ',' ∧ ch ≠ ':' ∧ Str.isSpace ch = false

instance : DecidablePred PlainWord := fun _ => inferInstanceAs (Decidable (_ ∧ _))

theorem Flag.text_inj {f g : Flag} : f.text = g.text ↔ f = g := by
  cases f <;> cases g <;> decide

theorem Flag.text_plain (f : Flag) : ∀ ch ∈ f.text.toList, ch ≠ ',' ∧ ch ≠ ':' ∧ Str.isSpace ch = false := by
  cases f <;> decide

theorem setFlag_text (col : PyVal) (f : Flag) : setFlag col f.text = col.setItem f.text (.bool true) := by
  cases f <;> rfl

/-- The flags loop over the words of `fs`, after the flags `bs` (last first)
have set their keys: each new flag appends its key, a repeated one leaves the
column as it is; this is `eraseDups`' own loop. -/
theorem foldlM_setFlag (base : List (String × PyVal)) (hb : ∀ f : Flag, f.text ∉ base.map Prod.fst) :
    ∀ (fs bs : List Flag), (fs.map Flag.text).foldlM setFlag (.dict (base ++ bs.reverse.map Flag.item)) =
      .ok (.dict (base ++ (List.eraseDups.loop fs bs).map Flag.item))
  | [], bs => rfl
  | f :: fs, bs => by
    have hmem : f.text ∈ (base ++ bs.reverse.map Flag.item).map Prod.fst ↔ f ∈ bs := by
      simp [Flag.item, Flag.text_inj, hb f]
    rw [List.map_cons, List.foldlM_cons, setFlag_text]
    by_cases hf : f ∈ bs
    · -- a repeated flag: its key holds `True` already
      have hsame : (base ++ bs.reverse.map Flag.item).map
          (fun kv => if kv.1 = f.text then (f.text, PyVal.bool true) else kv) =
          base ++ bs.reverse.map Flag.item := by
        refine (List.map_congr_left fun kv hkv => ?_).trans (List.map_id _)
        split
        · rename_i hk
          rcases List.mem_append.mp hkv with hkv | hkv
          · exact absurd (hk ▸ List.mem_map_of_mem Prod.fst hkv) (hb f)
          · obtain ⟨g, -, rfl⟩ := List.mem_map.mp hkv
            rw [Flag.text_inj.mp hk]
            rfl
        · rfl
      simp only [PyVal.setItem, lookup_isSome_iff_mem.mpr (hmem.mpr hf), if_true, hsame]
      rw [show List.eraseDups.loop (f :: fs) bs = List.eraseDups.loop fs bs by
        simp [List.eraseDups.loop, List.elem_eq_mem, hf]]
      exact foldlM_setFlag base hb fs bs
    · -- a new flag: its key goes last
      simp only [PyVal.setItem, Bool.eq_false_iff.mpr (mt lookup_isSome_iff_mem.mp (mt hmem.mp hf)),
        Bool.false_eq_true, if_false]
      rw [show List.eraseDups.loop (f :: fs) bs = List.eraseDups.loop fs (f :: bs) by
          simp [List.eraseDups.loop, List.elem_eq_mem, hf],
        show base ++ bs.reverse.map Flag.item ++ [(f.text, PyVal.bool true)] =
          base ++ (f :: bs).reverse.map Flag.item by simp [Flag.item]]
      exact foldlM_setFlag base hb fs (f :: bs)

/-- The pieces of a column's text: its name, its type and its flag words. -/
def ColumnSpec.parts (col : ColumnSpec) : List String := col.name :: col.type :: col.flags.map Flag.text

theorem ColumnSpec.parts_plain {col : ColumnSpec} (hn : PlainWord col.name) (ht : PlainWord col.type) :
    ∀ s ∈ col.parts, ∀ ch ∈ s.toList, ch ≠ ',' ∧ ch ≠ ':' ∧ Str.isSpace ch = false := by
  intro s hs
  simp only [ColumnSpec.parts, List.mem_cons, List.mem_map] at hs
  rcases hs with rfl | rfl | ⟨f, -, rfl⟩
  · exact hn.2
  · exact ht.2
  · exact Flag.text_plain f

theorem ColumnSpec.comma_not_mem_format {col : ColumnSpec} (hn : PlainWord col.name)
    (ht : PlainWord col.type) : ',' ∉ col.format.toList := by
  intro hm
  rw [ColumnSpec.format, show (":" : String) = String.singleton ':' from rfl, Str.intercalate_toList] at hm
  rcases Str.mem_intercalate hm with h | ⟨l, hl, hc⟩
  · exact absurd h (by decide)
  · obtain ⟨s, hs, rfl⟩ := List.mem_map.mp hl
    exact (ColumnSpec.parts_plain hn ht s hs ',' hc).1 rfl

/-- The parser reads a written column back as the spec's column object. -/
theorem parseColumn_format {col : ColumnSpec} (hn : PlainWord col.name) (ht : PlainWord col.type) :
    parseColumn col.format = .ok col.toPy := by
  have hplain := ColumnSpec.parts_plain hn ht
  have hparts : Str.split (Str.strip col.format) ':' = col.parts := by
    rw [ColumnSpec.format, show (":" : String) = String.singleton ':' from rfl,
      Str.strip_intercalate (by decide) (List.cons_ne_nil _ _) fun s hs ch hch => (hplain s hs ch hch).2.2,
      Str.split_intercalate ':' (List.cons_ne_nil _ _) fun s hs hm => (hplain s hs ':' hm).2.1 rfl]
    rfl
  have hbase : ∀ f : Flag, f.text ∉ [("name", PyVal.str col.name), ("type", .str col.type)].map Prod.fst := by
    intro f; cases f <;> simp [Flag.text]
  have hfold := foldlM_setFlag _ hbase col.flags []
  simp only [List.reverse_nil, List.map_nil, List.append_nil] at hfold
  simp only [parseColumn, hparts, ColumnSpec.parts, index, List.get?, List.length_cons, List.drop,
    bind, Except.bind]
  split
  · rw [hfold]; rfl
  · cases h : col.flags with
    | nil => rw [ColumnSpec.toPy, h]; rfl
    | cons => simp_all

/-- The parser reads back every non-empty list of columns written as
`name:type[:flag]*` joined by `,`, where names and types are non-empty and
hold no `,`, `:` or whitespace: the same columns in the same order, each with
its name and type and `True` for exactly the flags given. -/
theorem parseSchema_formatSchema (cols : List ColumnSpec) (hne : cols ≠ [])
    (h : ∀ col ∈ cols, PlainWord col.name ∧ PlainWord col.type) :
    parseSchema (formatSchema cols) = .ok (cols.map ColumnSpec.toPy) := by
  rw [parseSchema, formatSchema, show ("," : String) = String.singleton ',' from rfl,
    Str.split_intercalate ',' (by simpa using hne) fun s hs => by
      obtain ⟨col, hcol, rfl⟩ := List.mem_map.mp hs
      exact ColumnSpec.comma_not_mem_format (h col hcol).1 (h col hcol).2]
  clear hne
  induction cols with
  | nil => rfl
  | cons col cols ih =>
    rw [List.map_cons, List.mapM_cons, parseColumn_format (h col (List.mem_cons_self _ _)).1
      (h col (List.mem_cons_self _ _)).2, ih fun c hc => h c (List.mem_cons_of_mem _ hc)]
    rfl

/-- `db table create --schema id:int:required:unique,email:text:indexed:indexed`. -/
theorem parseSchema_users :
    parseSchema "id:int:required:unique,email:text:indexed:indexed" =
      .ok [.dict [("name", .str "id"), ("type", .str "int"), ("required", .bool true),
          ("unique", .bool true)],
        .dict [("name", .str "email"), ("type", .str "text"), ("indexed", .bool true)]] :=
  parseSchema_formatSchema [⟨"id", "int", [.required, .unique]⟩, ⟨"email", "text", [.indexed, .indexed]⟩]
    (List.cons_ne_nil _ _) (by decide)

/-! ## `db list`, `db create` and `db insert` -/

/-- The fields of a database's row, with their defaults.
mirrors metaguildnet/cli/database.py:34-38 -/
def dbFields : List (String × String) := [("id", ""), ("name", ""), ("description", "")]

/-- `if not isinstance(rows, list): rows = [rows]`.
mirrors metaguildnet/cli/database.py:162-163 -/
def asRows : PyVal → List PyVal
  | .list xs => xs
  | v => [v]

section
variable (decode : Decoder) (c : Client) (con : Console)

/-- `mgn db list CLUSTER_ID`.
mirrors metaguildnet/cli/database.py:18-44 -/
def listDbs (clusterId : String) : Prog Unit :=
  tryCatch
    (do
      let dbs ← DatabaseAPI.list decode c clusterId
      let items ← Prog.lift dbs.iter
      let t ← Prog.lift ((⟨"Databases in " ++ clusterId, ["ID", "Name", "Description"], []⟩ :
        Table).addRowsOf (fieldCells dbFields) items)
      Prog.print (con.table t))
    (fun e => do
      Prog.print ("[red]Error:[/red] " ++ e.str)
      throw .abort)

/-- `mgn db create CLUSTER_ID NAME [--description D]`.
mirrors metaguildnet/cli/database.py:47-62 -/
def createDb (clusterId name description : String) : Prog Unit :=
  tryCatch
    (do
      let db ← DatabaseAPI.create decode c clusterId name description
      let shown ← Prog.lift (db.get "id" .none)
      Prog.print ("[green]✓[/green] Database created: " ++ shown.toStr))
    (fun e => do
      Prog.print ("[red]Error:[/red] " ++ e.str)
      throw .abort)

/-- `mgn db insert CLUSTER_ID DB_ID TABLE --data JSON`.
mirrors metaguildnet/cli/database.py:150-170 -/
def insertRows (clusterId dbId table data : String) : Prog Unit :=
  tryCatch
    (do
      let rows ← Prog.lift ((decode data).mapError .decodeError)
      let ids ← DatabaseAPI.insert decode c clusterId dbId table (asRows rows)
      let n ← Prog.lift ids.len
      Prog.print ("[green]✓[/green] Inserted " ++ toString n ++ " row(s)"))
    (fun e => do
      Prog.print ("[red]Error:[/red] " ++ e.str)
      throw .abort)

end

end MetaGuildNet.L5
