import Mathlib.Data.List.Lattice
import TableGateway.Record.Lemmas

/-! # Filtering records

A record is built of entries by setting one column after another.  A column that is set and passes
the test of a filter is set just as well behind the filter (`Record.filter_insert_of_kept`), and one
that does not pass leaves no trace in front of it (`Record.filter_insert`).  So it makes no
difference whether entries are filtered or the record made of them (`Record.filter_ofList`),
although repeated columns take their place from the first entry and their value from the last.

A record is made of its own entries (`Record.ofList_entries`).  `Record.retain_ofList` puts these
together for the filters that records come with. -/

namespace TableGateway

/-- Setting a column that passes a test does to those that pass what it does to all. -/
theorem Entry.filter_put_of_kept {column : String} {keep : String → Bool} (h : keep column = true)
    (value : Value) (entries : List Entry) :
    (put column value entries).filter (fun e => keep e.1) =
      put column value (entries.filter fun e => keep e.1) := by
  induction entries with
  | nil => simp [put, h]
  | cons entry rest ih =>
    by_cases hc : entry.1 = column
    · simp [put, hc, h]
    · by_cases hk : keep entry.1 = true
      · simp [put, hc, hk, ih]
      · simp [put, hc, hk, ih]

/-- A column that is not there yet goes to the end. -/
theorem Entry.put_of_not_mem {column : String} {entries : List Entry}
    (h : column ∉ entries.map Prod.fst) (value : Value) :
    put column value entries = entries ++ [(column, value)] := by
  induction entries with
  | nil => rfl
  | cons entry rest ih =>
    obtain ⟨hne, hrest⟩ := List.ne_and_not_mem_of_not_mem_cons h
    rw [put, if_neg (Ne.symm hne), ih hrest, List.cons_append]

namespace Record

/-! ### Filters and entries -/

theorem filter_insert_of_kept {column : String} {keep : String → Bool} (h : keep column = true)
    (r : Record) (value : Value) :
    (r.insert column value).filter keep = (r.filter keep).insert column value := by
  apply ext
  simp only [entries_filter, entries_insert]
  exact Entry.filter_put_of_kept h value r.entries

/-- Entries that do not pass may be left out before they are set. -/
theorem filter_foldl_insert (keep : String → Bool) : ∀ (entries : List Entry) (r : Record),
    (entries.foldl (fun r e => r.insert e.1 e.2) r).filter keep =
      (entries.filter fun e => keep e.1).foldl (fun r e => r.insert e.1 e.2) (r.filter keep)
  | [], _ => rfl
  | e :: entries, r => by
      rw [List.foldl_cons, filter_foldl_insert keep entries]
      by_cases h : keep e.1 = true
      · rw [filter_insert_of_kept h, List.filter_cons, if_pos h, List.foldl_cons]
      · rw [filter_insert (Bool.not_eq_true _ ▸ h), List.filter_cons, if_neg h]

theorem filter_ofList (keep : String → Bool) (entries : List Entry) :
    (ofList entries).filter keep = ofList (entries.filter fun e => keep e.1) :=
  filter_foldl_insert keep entries empty

/-! ### Records and their own entries -/

/-- Entries of columns that are neither there nor repeated are appended. -/
theorem entries_foldl_insert : ∀ (entries : List Entry) (r : Record),
    ((r.entries ++ entries).map Prod.fst).Nodup →
    (entries.foldl (fun r e => r.insert e.1 e.2) r).entries = r.entries ++ entries
  | [], r, _ => (List.append_nil r.entries).symm
  | e :: entries, r, h => by
      have hnew : e.1 ∉ r.entries.map Prod.fst := by
        rw [List.map_append, List.map_cons] at h
        exact fun hmem => (List.nodup_append.mp h).2.2 _ hmem _ List.mem_cons_self rfl
      have hentries : (r.insert e.1 e.2).entries = r.entries ++ [e] :=
        Entry.put_of_not_mem hnew e.2
      have hsplit : r.entries ++ e :: entries = (r.insert e.1 e.2).entries ++ entries := by
        rw [hentries, List.append_assoc, List.singleton_append]
      rw [hsplit] at h ⊢
      exact entries_foldl_insert entries _ h

theorem ofList_entries (r : Record) : ofList r.entries = r :=
  ext (entries_foldl_insert r.entries empty r.nodup)

/-! ### Filters in a row -/

theorem retain_retain (r : Record) (allowed also : List String) :
    (r.retain allowed).retain also = r.retain (allowed ∩ also) := by
  unfold retain
  rw [filter_filter]
  congr 1
  funext c
  rw [Bool.eq_iff_iff]
  simp [and_comm]

theorem retain_comm (r : Record) (allowed also : List String) :
    (r.retain allowed).retain also = (r.retain also).retain allowed := by
  unfold retain
  rw [filter_filter, filter_filter]
  simp only [Bool.and_comm]

/-- **Filtering and building.**  It makes no difference whether columns are filtered out of a record
or out of the entries it is made of, however often these repeat a column; a record is made of its
own entries; filters in a row are one filter, in whichever order; and an allowed column may be set
in front of a filter or behind it. -/
theorem retain_ofList (pairs : List Entry) (allowed also : List String) (column : String)
    (r : Record) :
    (ofList pairs).retain allowed = ofList (pairs.filter fun pair => pair.1 ∈ allowed) ∧
    ((ofList pairs).take column).2 = ofList (pairs.filter fun pair => pair.1 ≠ column) ∧
    ofList r.entries = r ∧
    (r.retain allowed).retain also = (r.retain also).retain allowed ∧
    (r.retain allowed).retain also = r.retain (allowed ∩ also) ∧
    (r.retain allowed).retain allowed = r.retain allowed ∧
    ∀ k ∈ allowed, ∀ v, (r.insert k v).retain allowed = (r.retain allowed).insert k v := by
  refine ⟨?_, ?_, r.ofList_entries, r.retain_comm allowed also, r.retain_retain allowed also, ?_,
    ?_⟩
  · have htest : (fun pair : Entry => decide (pair.1 ∈ allowed)) =
        fun pair => allowed.contains pair.1 := by
      funext pair
      rw [List.contains_eq_mem]
    rw [htest]
    exact filter_ofList allowed.contains pairs
  · have htest : (fun pair : Entry => decide (pair.1 ≠ column)) = fun pair => pair.1 != column := by
      funext pair
      rw [Bool.eq_iff_iff]
      simp
    rw [htest]
    exact filter_ofList (· != column) pairs
  · unfold retain
    rw [filter_filter]
    simp only [Bool.and_self]
  · intro k hk v
    exact filter_insert_of_kept (List.contains_iff_mem.mpr hk) r v

/-- Of a repeated column the first place and the last value outlive the filter, also where it is set
once more. -/
theorem retain_ofList_repeated :
    let pairs : List Entry :=
      [("b", .int 1), ("admin", .bool true), ("a", .null), ("b", .int 2), ("admin", .null)]
    let allowed : List String := ["a", "b"]
    (ofList pairs).retain allowed = ofList [("b", .int 1), ("a", .null), ("b", .int 2)] ∧
      ((ofList pairs).retain allowed).entries = [("b", .int 2), ("a", .null)] ∧
      "b" ∈ allowed ∧
      (((ofList pairs).insert "b" (.int 3)).retain allowed).entries =
        [("b", .int 3), ("a", .null)] := by
  intro pairs allowed
  have hb : "b" ∈ allowed := by decide
  have hkept : pairs.filter (fun pair => pair.1 ∈ allowed) =
      [("b", .int 1), ("a", .null), ("b", .int 2)] := by decide
  obtain ⟨hretain, -, -, -, -, -, hset⟩ := retain_ofList pairs allowed [] "" (ofList pairs)
  rw [hset "b" hb, hretain, hkept]
  exact ⟨rfl, by decide, hb, by decide⟩

end Record

end TableGateway
