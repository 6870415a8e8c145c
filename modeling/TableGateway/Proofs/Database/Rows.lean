import Mathlib.Data.List.Forall2
import Mathlib.Data.List.Induction
import TableGateway.Proofs.Database.Exchange
import TableGateway.Proofs.Traversal
import TableGateway.Record.Lemmas

/-! # Rows as records

A result set may have several columns of one name, as a join has.  `Reads` says what record a row is
then read as: its columns are the names in the order in which they first occur, and each has the
value of the last cell of that name.  All cells must be readable, also those whose values are
replaced; where one is not, nothing is read but the error of the first (`FirstError`).

`ResultSet.recordsBy_outcome` says that the rows of a result are read one by one to such records or
not at all, and that its first row alone is read as it is among all.  It holds for every way to read
a cell, `Cell.value` among them, and so of what is fetched from a server. -/

namespace TableGateway

theorem eraseDups_of_nodup {α : Type} [BEq α] [LawfulBEq α] {as : List α} (h : as.Nodup) :
    as.eraseDups = as := by
  induction as with
  | nil => rfl
  | cons a as ih =>
      obtain ⟨hfresh, has⟩ := List.nodup_cons.mp h
      have hkept : as.filter (fun b => !b == a) = as := by
        rw [List.filter_eq_self]
        intro b hb
        simp [ne_of_mem_of_not_mem hb hfresh]
      rw [List.eraseDups_cons, hkept, ih has]

namespace Record

/-! ### Records of repeated columns -/

theorem ofList_concat (entries : List Entry) (e : Entry) :
    ofList (entries ++ [e]) = (ofList entries).insert e.1 e.2 := List.foldl_concat ..

/-- A column stands where it first occurred. -/
theorem columns_ofList (entries : List Entry) :
    (ofList entries).columns = (entries.map Prod.fst).eraseDups := by
  induction entries using List.reverseRecOn with
  | nil => rfl
  | append_singleton entries e ih =>
      rw [ofList_concat, columns_insert, ih, List.map_append, List.eraseDups_append,
        List.map_singleton]
      by_cases h : e.1 ∈ entries.map Prod.fst
      · simp [List.removeAll, h]
      · simp [List.removeAll, h, List.eraseDups_cons]

/-- A column has the value it was given last. -/
theorem get?_ofList (before : List Entry) {e : Entry} {after : List Entry}
    (h : ∀ later ∈ after, later.1 ≠ e.1) :
    (ofList (before ++ e :: after)).get? e.1 = some e.2 := by
  induction after using List.reverseRecOn with
  | nil => rw [ofList_concat, get?_insert, if_pos rfl]
  | append_singleton after last ih =>
      -- The last entry sets another column, so it can be taken off.
      obtain ⟨hafter, hlast⟩ := List.forall_mem_append.mp h
      rw [← List.cons_append, ← List.append_assoc, ofList_concat, get?_insert,
        if_neg (hlast last (List.mem_singleton_self last))]
      exact ih hafter

/-- A record is told from its columns and their values. -/
theorem eq_of_get?_eq {r s : Record} (hcolumns : r.columns = s.columns)
    (h : ∀ c ∈ r.columns, r.get? c = s.get? c) : r = s := by
  have hvalues : r.values = s.values := by
    apply List.map_injective_iff.mpr fun v w (h : some v = some w) => Option.some.inj h
    rw [← map_get?_columns, ← map_get?_columns, ← hcolumns]
    exact List.map_congr_left h
  apply ext
  rw [← zip_columns_values_append r [], ← zip_columns_values_append s [], hcolumns, hvalues]

end Record

namespace Database

variable {ε : Type}

/-- A cell with its column. -/
abbrev Field := Column × Cell

/-- The name of the column. -/
def Field.name (field : Field) : String := field.1.name

/-- Every cell of the row can be read. -/
def Readable (read : Column → Cell → Except ε Value) (fields : List Field) : Prop :=
  ∀ field ∈ fields, ∃ v, read field.1 field.2 = .ok v

/-- What a row of these columns is read as. -/
structure Reads (read : Column → Cell → Except ε Value) (columns : List Column) (row : List Cell)
    (record : Record) : Prop where
  readable : Readable read (columns.zip row)
  /-- The columns are the names, each where it occurs first. -/
  columns_eq : record.columns = (columns.map Column.name).eraseDups
  /-- A column has the value of the last cell of its name. -/
  get?_eq : ∀ (before : List Field) (field : Field) (after : List Field),
    columns.zip row = before ++ field :: after →
    (∀ later ∈ after, later.name ≠ field.name) →
    ∃ v, read field.1 field.2 = .ok v ∧ record.get? field.name = some v

/-- The first cell of the row that cannot be read, and why. -/
def FirstErrorIn (read : Column → Cell → Except ε Value) (fields : List Field) (e : ε) : Prop :=
  ∃ before field after, fields = before ++ field :: after ∧
    Readable read before ∧ read field.1 field.2 = .error e

/-- The first cell of all rows that cannot be read, row by row, and why. -/
def FirstError (read : Column → Cell → Except ε Value) (r : ResultSet) (e : ε) : Prop :=
  ∃ above row below, r.rows = above ++ row :: below ∧
    (∀ earlier ∈ above, Readable read (r.columns.zip earlier)) ∧
    FirstErrorIn read (r.columns.zip row) e

/-- Every row has a cell for each column. -/
def ResultSet.IsRectangular (r : ResultSet) : Prop :=
  ∀ row ∈ r.rows, row.length = r.columns.length

/-! ### Rows -/

/-- A cell as an entry of a record. -/
def Field.entryBy (read : Column → Cell → Except ε Value) (field : Field) : Except ε Entry :=
  (read field.1 field.2).map fun v => (field.name, v)

section row
variable {read : Column → Cell → Except ε Value} {columns : List Column} {row : List Cell}
  {fields : List Field} {entries : List Entry} {field : Field} {record : Record} {e : ε}

theorem Field.entryBy_eq_ok_iff {entry : Entry} :
    field.entryBy read = .ok entry ↔
      ∃ v, read field.1 field.2 = .ok v ∧ (field.name, v) = entry := by
  unfold entryBy
  cases read field.1 field.2 <;> simp [Except.map]

theorem Field.entryBy_eq_error_iff :
    field.entryBy read = .error e ↔ read field.1 field.2 = .error e := by
  unfold entryBy
  cases read field.1 field.2 <;> simp [Except.map]

theorem readable_iff :
    Readable read fields ↔ ∀ field ∈ fields, ∃ entry, Field.entryBy read field = .ok entry := by
  simp [Readable, Field.entryBy_eq_ok_iff]

theorem readRow_eq :
    readRow read columns row =
      ((columns.zip row).mapM (Field.entryBy read)).map Record.ofList := by
  have hentry : Field.entryBy read = fun (column, cell) => do
      return (column.name, ← read column cell) := by
    funext ⟨column, cell⟩
    exact (bind_pure_comp _ (read column cell)).symm
  rw [hentry]
  exact bind_pure_comp _ _

theorem names_of_mapM_entryBy (h : fields.mapM (Field.entryBy read) = .ok entries) :
    entries.map Prod.fst = fields.map Field.name := by
  rw [mapM_eq_ok_iff_forall₂] at h
  induction h with
  | nil => rfl
  | cons hentry _ ih =>
      obtain ⟨v, -, rfl⟩ := Field.entryBy_eq_ok_iff.mp hentry
      rw [List.map_cons, List.map_cons, ih]

theorem map_name_zip (hrow : row.length = columns.length) :
    (columns.zip row).map Field.name = columns.map Column.name := by
  have hfst := List.map_fst_zip (Nat.le_of_eq hrow.symm)
  rw [← hfst, List.map_map, hfst]
  rfl

theorem reads_of_readRow (hrow : row.length = columns.length)
    (h : readRow read columns row = .ok record) : Reads read columns row record := by
  rw [readRow_eq] at h
  cases hentries : (columns.zip row).mapM (Field.entryBy read) with
  | error e =>
      rw [hentries] at h
      cases h
  | ok entries =>
      rw [hentries] at h
      cases h
      refine ⟨?_, ?_, ?_⟩
      · exact readable_iff.mpr (exists_mapM_eq_ok_iff.mp ⟨entries, hentries⟩)
      · rw [Record.columns_ofList, names_of_mapM_entryBy hentries, map_name_zip hrow]
      · intro before field after hsplit hlast
        rw [hsplit] at hentries
        obtain ⟨above, entry, below, rfl, hentry, hbelow⟩ := mapM_append_cons_eq_ok hentries
        obtain ⟨v, hv, rfl⟩ := Field.entryBy_eq_ok_iff.mp hentry
        refine ⟨v, hv, Record.get?_ofList above fun later hlater => ?_⟩
        have hname : later.1 ∈ after.map Field.name :=
          names_of_mapM_entryBy hbelow ▸ List.mem_map_of_mem hlater
        obtain ⟨origin, horigin, heq⟩ := List.mem_map.mp hname
        exact heq ▸ hlast origin horigin

theorem exists_readRow_eq_ok_iff :
    (∃ record, readRow read columns row = .ok record) ↔ Readable read (columns.zip row) := by
  rw [readRow_eq, readable_iff, ← exists_mapM_eq_ok_iff]
  cases (columns.zip row).mapM (Field.entryBy read) <;> simp [Except.map]

/-- Every name has a last cell. -/
theorem exists_last_field {name : String} (h : name ∈ fields.map Field.name) :
    ∃ before field after, fields = before ++ field :: after ∧ field.name = name ∧
      ∀ later ∈ after, later.name ≠ name := by
  induction fields using List.reverseRecOn with
  | nil => cases h
  | append_singleton fields last ih =>
      by_cases hlast : last.name = name
      · exact ⟨fields, last, [], rfl, hlast, List.forall_mem_nil _⟩
      · rw [List.map_append, List.mem_append] at h
        have hfields : name ∈ fields.map Field.name :=
          h.resolve_right fun hname => hlast (List.mem_singleton.mp hname).symm
        obtain ⟨before, field, after, rfl, hfield, hafter⟩ := ih hfields
        refine ⟨before, field, after ++ [last], by simp, hfield, ?_⟩
        exact List.forall_mem_append.mpr ⟨hafter, List.forall_mem_singleton.mpr hlast⟩

/-- A row is read as one record only. -/
theorem Reads.unique (hrow : row.length = columns.length) {r s : Record}
    (hr : Reads read columns row r) (hs : Reads read columns row s) : r = s := by
  apply Record.eq_of_get?_eq (hr.columns_eq.trans hs.columns_eq.symm)
  intro name hname
  rw [hr.columns_eq, List.mem_eraseDups, ← map_name_zip hrow] at hname
  obtain ⟨before, field, after, hsplit, rfl, hafter⟩ := exists_last_field hname
  obtain ⟨v, hv, hget⟩ := hr.get?_eq before field after hsplit hafter
  obtain ⟨w, hw, hget'⟩ := hs.get?_eq before field after hsplit hafter
  rw [hv, Except.ok.injEq] at hw
  exact (hget.trans (congrArg some hw)).trans hget'.symm

theorem readRow_eq_ok_iff (hrow : row.length = columns.length) :
    readRow read columns row = .ok record ↔ Reads read columns row record := by
  refine ⟨reads_of_readRow hrow, fun h => ?_⟩
  obtain ⟨other, hother⟩ := exists_readRow_eq_ok_iff.mpr h.readable
  rw [hother, h.unique hrow (reads_of_readRow hrow hother)]

theorem readRow_eq_error_iff :
    readRow read columns row = .error e ↔ FirstErrorIn read (columns.zip row) e := by
  have hmap : readRow read columns row = .error e ↔
      (columns.zip row).mapM (Field.entryBy read) = .error e := by
    rw [readRow_eq]
    cases (columns.zip row).mapM (Field.entryBy read) <;> simp [Except.map]
  rw [hmap, mapM_eq_error_iff]
  simp only [Field.entryBy_eq_error_iff, ← readable_iff, FirstErrorIn]

end row

/-! ### Results -/

namespace ResultSet

variable {read : Column → Cell → Except ε Value} {r : ResultSet} {e : ε}

theorem recordsBy_eq_ok_iff (hcells : r.IsRectangular) {records : List Record} :
    r.recordsBy read = .ok records ↔ List.Forall₂ (Reads read r.columns) r.rows records := by
  rw [recordsBy, mapM_eq_ok_iff_forall₂]
  constructor
  · intro h
    have hrows := (List.forall₂_and_left r.rows records).mpr ⟨hcells, h⟩
    exact hrows.imp fun row record hrow => (readRow_eq_ok_iff hrow.1).mp hrow.2
  · intro h
    have hrows := (List.forall₂_and_left r.rows records).mpr ⟨hcells, h⟩
    exact hrows.imp fun row record hrow => (readRow_eq_ok_iff hrow.1).mpr hrow.2

theorem recordsBy_eq_error_iff : r.recordsBy read = .error e ↔ FirstError read r e := by
  rw [recordsBy, mapM_eq_error_iff]
  simp only [exists_readRow_eq_ok_iff, readRow_eq_error_iff, FirstError]

/-- The first row alone is read as it is among all. -/
theorem firstBy_of_recordsBy {records : List Record} (h : r.recordsBy read = .ok records) :
    r.firstBy read = .ok records.head? := by
  unfold recordsBy at h
  unfold firstBy
  cases hrows : r.rows with
  | nil =>
      rw [hrows] at h
      cases h
      rfl
  | cons row rows =>
      rw [hrows, mapM_eq_ok_iff_forall₂, List.forall₂_cons_left_iff] at h
      obtain ⟨record, rest, hrow, -, rfl⟩ := h
      show (readRow read r.columns row).map some = .ok (some record)
      rw [hrow]
      rfl

theorem firstBy_eq_none_iff : r.firstBy read = .ok none ↔ r.rows = [] := by
  unfold firstBy
  cases r.rows with
  | nil => simp
  | cons row rows => cases h : readRow read r.columns row <;> simp [Except.map, h]

theorem exists_recordsBy_eq_ok_iff :
    (∃ records, r.recordsBy read = .ok records) ↔
      ∀ row ∈ r.rows, Readable read (r.columns.zip row) := by
  simp only [recordsBy, exists_mapM_eq_ok_iff, exists_readRow_eq_ok_iff]

theorem columns_of_recordsBy (hcells : r.IsRectangular) {records : List Record}
    (h : r.recordsBy read = .ok records) {record : Record} (hrecord : record ∈ records) :
    record.columns = (r.columns.map Column.name).eraseDups := by
  rw [recordsBy, mapM_eq_ok_iff] at h
  have hmem : .ok record ∈ r.rows.map (readRow read r.columns) := h ▸ List.mem_map_of_mem hrecord
  obtain ⟨row, hrow, hread⟩ := List.mem_map.mp hmem
  exact (reads_of_readRow (hcells row hrow) hread).columns_eq

end ResultSet

/-! ### Fetching -/

/-- The server answers the statement with rows. -/
def Server.Returns {σ : Type} (server : Server σ) (session : Session) (statement : Statement)
    (pool : Pool σ) (r : ResultSet) : Prop :=
  (server.execute session statement.sql (statement.bindings.map Parameter.ofValue) pool.state).1 =
    .ok (.rows r)

theorem Server.Returns.fetch {σ : Type} {server : Server σ} {session : Session}
    {statement : Statement} {pool : Pool σ} {r : ResultSet}
    (h : server.Returns session statement pool r) :
    (server.sendOn session .fetchAll statement pool).1 =
        (r.recordsBy Cell.value).mapError .database ∧
      (server.sendOn session .fetchOptional statement pool).1 =
        (r.firstBy Cell.value).mapError .database := by
  unfold Returns at h
  rw [sendOn_eq, sendOn_eq, h]
  exact ⟨rfl, rfl⟩

/-- A result is read row by row.  Each row comes back as the one record it is read as, in the order
of the rows, and with all columns in their order where no name is repeated; or nothing comes back
but the error of the first cell that cannot be read.  Where all rows can be read, the first comes
back from `ResultSet.firstBy` as from `ResultSet.recordsBy`, and none if there is none.  The rows
that a server returns are fetched so, with their cells read as values. -/
theorem ResultSet.recordsBy_outcome (read : Column → Cell → Except ε Value) {r : ResultSet}
    (hcells : r.IsRectangular) :
    (∀ records, r.recordsBy read = .ok records ↔
      List.Forall₂ (Reads read r.columns) r.rows records) ∧
    ((r.columns.map Column.name).Nodup → ∀ records, r.recordsBy read = .ok records →
      ∀ record ∈ records, record.columns = r.columns.map Column.name) ∧
    ((∃ records, r.recordsBy read = .ok records) ↔
      ∀ row ∈ r.rows, Readable read (r.columns.zip row)) ∧
    (∀ e, r.recordsBy read = .error e ↔ FirstError read r e) ∧
    (∀ records, r.recordsBy read = .ok records → r.firstBy read = .ok records.head?) ∧
    (r.firstBy read = .ok none ↔ r.rows = []) ∧
    ∀ {σ : Type} (server : Server σ) (session : Session) (statement : Statement) (pool : Pool σ),
      server.Returns session statement pool r →
      (server.sendOn session .fetchAll statement pool).1 =
          (r.recordsBy Cell.value).mapError .database ∧
        (server.sendOn session .fetchOptional statement pool).1 =
          (r.firstBy Cell.value).mapError .database := by
  refine ⟨fun _ => recordsBy_eq_ok_iff hcells, ?distinct, exists_recordsBy_eq_ok_iff,
    fun _ => recordsBy_eq_error_iff, fun _ => firstBy_of_recordsBy, firstBy_eq_none_iff,
    fun _ _ _ _ => Server.Returns.fetch⟩
  intro hnodup records h record hrecord
  rw [columns_of_recordsBy hcells h hrecord, eraseDups_of_nodup hnodup]

/-- Of two columns of one name the second gives the value, in the place of the first, and of the
cells that cannot be read the first one is to blame. -/
theorem ResultSet.recordsBy_outcome_joined :
    let read : Column → Cell → Except String Value := fun column cell =>
      (cell.value column).mapError fun _ => column.name
    let id : Column := { name := "id", type := .longlong }
    let name : Column := { name := "name", type := .varChar }
    let price : Column := { name := "price", type := .newDecimal }
    let garbled : Cell := .bytes [255]
    let joined : ResultSet :=
      ⟨[id, name, id], [[.integer 1, .bytes [65], .integer 7], [.integer 2, .null, .null]]⟩
    let broken : ResultSet :=
      ⟨[id, price, id], [[.integer 1, .null, .integer 2], [.integer 3, garbled, garbled]]⟩
    let ana : Record := .ofList [("id", .int 7), ("name", .text "A")]
    let server : Server Unit := ⟨fun _ _ s => (.ok (), s), fun _ _ _ s => (.ok (.rows joined), s)⟩
    joined.IsRectangular ∧ broken.IsRectangular ∧
      List.Forall₂ (Reads read joined.columns) joined.rows
        [ana, .ofList [("id", .null), ("name", .null)]] ∧
      joined.firstBy read = .ok (some ana) ∧
      FirstError read broken "price" ∧
      (server.sendOn ⟨0⟩ .fetchOptional (.raw "SELECT * FROM a JOIN b" []) { state := () }).1 =
        .ok (some ana) := by
  intro read id name price garbled joined broken ana server
  have hjoined : joined.IsRectangular := by
    unfold IsRectangular
    decide
  have hbroken : broken.IsRectangular := by
    unfold IsRectangular
    decide
  obtain ⟨hrecords, -, -, -, hfirst, -, hfetch⟩ := recordsBy_outcome read hjoined
  obtain ⟨-, -, -, herror, -⟩ := recordsBy_outcome read hbroken
  have hread : joined.recordsBy read =
      .ok [ana, .ofList [("id", .null), ("name", .null)]] := by decide +kernel
  have hfailed : broken.recordsBy read = .error "price" := by decide +kernel
  have hvalue : joined.firstBy Cell.value = .ok (some ana) := by decide +kernel
  refine ⟨hjoined, hbroken, (hrecords _).mp hread, hfirst _ hread, (herror _).mp hfailed, ?_⟩
  rw [(hfetch server _ _ _ rfl).2, hvalue]
  rfl

end Database

end TableGateway
