import TableGateway.Record

/-! # Records and their views

What each edit of a record does to its columns and to the value of each column
(`Record.get?_insert`, `Record.get?_filter`), and that the two views of a record agree
(`Record.contains_iff`, `Record.get?_isSome`). -/

namespace TableGateway

namespace Entry

theorem find?_put {column c : String} {value : Value} {entries : List Entry} :
    ((put column value entries).find? fun e => e.1 == c).map Prod.snd =
      if column = c then some value else (entries.find? fun e => e.1 == c).map Prod.snd := by
  induction entries with
  | nil => by_cases h : column = c <;> simp [put, h]
  | cons entry rest ih =>
    by_cases hc : entry.1 = column
    · by_cases h : column = c <;> simp [put, hc, h]
    · by_cases he : entry.1 = c
      · have h : ¬column = c := fun h => hc (he.trans h.symm)
        rw [put, if_neg hc, if_neg h]
        simp [he]
      · simpa [put, hc, he] using ih

/-- Where no column is there twice, an entry is found under its column. -/
theorem find?_of_mem {entries : List Entry} (hnodup : (entries.map Prod.fst).Nodup) {e : Entry}
    (h : e ∈ entries) : entries.find? (fun f => f.1 == e.1) = some e := by
  induction entries with
  | nil => cases h
  | cons entry rest ih =>
    rw [List.map_cons, List.nodup_cons] at hnodup
    rcases List.mem_cons.mp h with rfl | h
    · simp
    · have hne : ¬entry.1 = e.1 := by
        intro heq
        exact hnodup.1 (heq ▸ List.mem_map_of_mem h)
      simp [hne, ih hnodup.2 h]

theorem columns_put {column : String} {value : Value} {entries : List Entry} :
    (put column value entries).map Prod.fst =
      if column ∈ entries.map Prod.fst then entries.map Prod.fst
      else entries.map Prod.fst ++ [column] := by
  induction entries with
  | nil => simp [put]
  | cons entry rest ih =>
    by_cases hc : entry.1 = column
    · simp [put, hc]
    · have hc' : ¬column = entry.1 := fun h => hc h.symm
      rw [put, if_neg hc, List.map_cons, ih]
      by_cases hm : column ∈ rest.map Prod.fst
      · have hn : column ∈ (entry :: rest).map Prod.fst := List.mem_cons_of_mem _ hm
        rw [if_pos hm, if_pos hn, List.map_cons]
      · have hn : column ∉ (entry :: rest).map Prod.fst := fun h =>
          (List.mem_cons.mp h).elim hc' hm
        rw [if_neg hm, if_neg hn, List.map_cons, List.cons_append]

/-- Setting a column that does not pass a test changes nothing about those that do. -/
theorem filter_put {column : String} {value : Value} {keep : String → Bool}
    (h : keep column = false) (entries : List Entry) :
    (put column value entries).filter (fun e => keep e.1) =
      entries.filter fun e => keep e.1 := by
  induction entries with
  | nil => simp [put, h]
  | cons entry rest ih =>
    by_cases hc : entry.1 = column
    · simp [put, hc, h]
    · rw [put, if_neg hc, List.filter_cons, List.filter_cons, ih]

end Entry

namespace Record

/-! ### Columns -/

theorem columns_insert (r : Record) (column : String) (value : Value) :
    (r.insert column value).columns =
      if column ∈ r.columns then r.columns else r.columns ++ [column] := Entry.columns_put

theorem columns_filter (r : Record) (keep : String → Bool) :
    (r.filter keep).columns = r.columns.filter keep := by
  simp [columns, filter, List.filter_map, Function.comp_def]

theorem columns_erase (r : Record) (column : String) :
    (r.erase column).columns = r.columns.filter (· != column) := columns_filter ..

theorem columns_retain (r : Record) (allowed : List String) :
    (r.retain allowed).columns = r.columns.filter allowed.contains := columns_filter ..

/-- Taking out a column that is not there changes nothing. -/
theorem erase_of_not_mem {r : Record} {column : String} (h : column ∉ r.columns) :
    r.erase column = r := by
  apply ext
  unfold erase
  rw [entries_filter, List.filter_eq_self]
  intro e he
  have hmem : e.1 ∈ r.columns := List.mem_map_of_mem he
  exact bne_iff_ne.mpr fun heq => h (heq ▸ hmem)

theorem columns_ne_nil {r : Record} (h : r.entries ≠ []) : r.columns ≠ [] := by
  unfold columns
  simpa using h

/-! ### Tests -/

theorem filter_filter (r : Record) (keep also : String → Bool) :
    (r.filter keep).filter also = r.filter fun c => also c && keep c := by
  apply ext
  simp only [entries_filter, List.filter_filter]

theorem filter_insert {column : String} {keep : String → Bool} (h : keep column = false)
    (r : Record) (value : Value) : (r.insert column value).filter keep = r.filter keep := by
  apply ext
  simp only [entries_filter, entries_insert]
  exact Entry.filter_put h r.entries

/-! ### Values -/

theorem get?_insert (r : Record) (column c : String) (value : Value) :
    (r.insert column value).get? c = if column = c then some value else r.get? c :=
  Entry.find?_put

theorem get?_filter (r : Record) (keep : String → Bool) (c : String) :
    (r.filter keep).get? c = if keep c then r.get? c else none := by
  simp only [get?, filter, List.find?_filter]
  by_cases h : keep c = true
  · rw [if_pos h]
    congr 2
    funext entry
    by_cases he : entry.1 = c <;> simp [he, h]
  · rw [if_neg h, Option.map_eq_none_iff, List.find?_eq_none]
    rintro entry - he
    simp only [Bool.decide_and, Bool.and_eq_true, decide_eq_true_eq, beq_iff_eq] at he
    exact h (he.2 ▸ he.1)

theorem get?_of_mem {r : Record} {e : Entry} (h : e ∈ r.entries) : r.get? e.1 = some e.2 := by
  rw [get?, Entry.find?_of_mem r.nodup h, Option.map_some]

theorem map_get?_columns (r : Record) : r.columns.map r.get? = r.values.map some := by
  unfold columns values
  rw [List.map_map, List.map_map]
  exact List.map_congr_left fun e he => get?_of_mem he

theorem contains_iff {r : Record} {column : String} :
    r.contains column = true ↔ column ∈ r.columns := by simp [contains]

theorem get?_isSome {r : Record} {column : String} :
    (r.get? column).isSome = true ↔ column ∈ r.columns := by
  simp only [get?, Option.isSome_map, List.find?_isSome, columns, List.mem_map, beq_iff_eq]

theorem contains_eq_isSome (r : Record) (column : String) :
    r.contains column = (r.get? column).isSome := by
  rw [Bool.eq_iff_iff, contains_iff, get?_isSome]

/-! ### Columns and values side by side -/

theorem zip_columns_values_append (r : Record) (rest : List Value) :
    r.columns.zip (r.values ++ rest) = r.entries := by
  unfold columns values
  induction r.entries with
  | nil => rfl
  | cons entry entries ih => rw [List.map_cons, List.map_cons, List.cons_append, List.zip_cons_cons, ih]

theorem length_values_eq_length_columns (r : Record) : r.values.length = r.columns.length := by
  rw [r.length_values, r.length_columns]

theorem drop_values_append (r : Record) (rest : List Value) :
    (r.values ++ rest).drop r.columns.length = rest := by
  rw [← r.length_values_eq_length_columns, List.drop_left]

theorem getElem?_values_append {r : Record} {before after : List Entry} {e : Entry}
    (h : r.entries = before ++ e :: after) (rest : List Value) :
    (r.values ++ rest)[before.length]? = some e.2 := by
  unfold values
  rw [h]
  simp

end Record

end TableGateway
