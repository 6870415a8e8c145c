import TableGateway.Value

/-! # Records

A `Record` is a finite map from column names to values that remembers in which order its columns
first appeared.  It is what an insert or an update writes, where the order of the columns is the
order of the placeholders, and what a select returns, where it is the order of the select list.

The record is a list of entries with no column twice (`Record.nodup`).  Inserting a column that is
present replaces its value where it stands; a new column goes to the end; erasing and retaining keep
the order of what stays. -/

namespace TableGateway

/-- A column and its value. -/
abbrev Entry := String × Value

namespace Entry

/-- The entries with `column` set to `value`: in its place if the column is there, at the end
otherwise. -/
def put (column : String) (value : Value) : List Entry → List Entry
  | [] => [(column, value)]
  | entry :: rest =>
    if entry.1 = column then (column, value) :: rest else entry :: put column value rest

theorem mem_columns_put {column c : String} {value : Value} {entries : List Entry} :
    c ∈ (put column value entries).map Prod.fst ↔ c = column ∨ c ∈ entries.map Prod.fst := by
  induction entries with
  | nil => simp [put]
  | cons entry rest ih =>
    by_cases h : entry.1 = column
    · simp [put, h]
    · simp only [put, if_neg h, List.map_cons, List.mem_cons, ih]
      exact or_left_comm

theorem nodup_put {column : String} {value : Value} {entries : List Entry}
    (h : (entries.map Prod.fst).Nodup) : ((put column value entries).map Prod.fst).Nodup := by
  induction entries with
  | nil => simp [put]
  | cons entry rest ih =>
    rw [List.map_cons, List.nodup_cons] at h
    by_cases hc : entry.1 = column
    · simp only [put, if_pos hc, List.map_cons, List.nodup_cons]
      exact ⟨hc ▸ h.1, h.2⟩
    · simp only [put, if_neg hc, List.map_cons, List.nodup_cons, mem_columns_put]
      exact ⟨fun hm => hm.elim hc h.1, ih h.2⟩

end Entry

/-- An ordered map from columns to values. -/
structure Record where
  entries : List Entry
  nodup : (entries.map Prod.fst).Nodup
  deriving DecidableEq

namespace Record

/-- The record with no columns. -/
def empty : Record := ⟨[], List.nodup_nil⟩

instance : EmptyCollection Record := ⟨empty⟩
instance : Inhabited Record := ⟨empty⟩

/-! ### Reading -/

/-- The columns, in order. -/
def columns (r : Record) : List String := r.entries.map Prod.fst

/-- The values, in the order of their columns. -/
def values (r : Record) : List Value := r.entries.map Prod.snd

/-- The number of columns. -/
def size (r : Record) : Nat := r.entries.length

/-- Whether there are no columns. -/
def isEmpty (r : Record) : Bool := r.entries.isEmpty

/-- The value of a column. -/
def get? (r : Record) (column : String) : Option Value :=
  (r.entries.find? fun entry => entry.1 == column).map Prod.snd

/-- Whether a column is present. -/
def contains (r : Record) (column : String) : Bool := r.columns.contains column

/-! ### Editing -/

/-- Sets the value of a column. -/
def insert (r : Record) (column : String) (value : Value) : Record :=
  ⟨Entry.put column value r.entries, Entry.nodup_put r.nodup⟩

/-- The columns that pass a test. -/
def filter (r : Record) (keep : String → Bool) : Record :=
  ⟨r.entries.filter fun entry => keep entry.1,
    r.nodup.sublist (List.filter_sublist.map Prod.fst)⟩

/-- Removes a column. -/
def erase (r : Record) (column : String) : Record := r.filter (· != column)

/-- Keeps only the columns allowed, in their current order. -/
def retain (r : Record) (allowed : List String) : Record := r.filter allowed.contains

/-- Sets the value of a column and hands back the value it had. -/
def exchange (r : Record) (column : String) (value : Value) : Option Value × Record :=
  (r.get? column, r.insert column value)

/-- Removes a column and hands back the value it had. -/
def take (r : Record) (column : String) : Option Value × Record :=
  (r.get? column, r.erase column)

/-- The record of a list of entries; where a column is repeated, the first occurrence gives its
place and the last its value. -/
def ofList (entries : List Entry) : Record :=
  entries.foldl (fun r entry => r.insert entry.1 entry.2) empty

@[ext]
theorem ext {r s : Record} (h : r.entries = s.entries) : r = s := by
  cases r; cases s; simp_all

theorem entries_insert (r : Record) (column : String) (value : Value) :
    (r.insert column value).entries = Entry.put column value r.entries := rfl

theorem entries_filter (r : Record) (keep : String → Bool) :
    (r.filter keep).entries = r.entries.filter fun entry => keep entry.1 := rfl

theorem nodup_columns (r : Record) : r.columns.Nodup := r.nodup

theorem length_columns (r : Record) : r.columns.length = r.size := List.length_map ..

theorem length_values (r : Record) : r.values.length = r.size := List.length_map ..

end Record

end TableGateway
