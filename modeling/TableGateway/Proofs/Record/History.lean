import Mathlib.Data.List.Induction
import TableGateway.Record.Lemmas

/-! # What a record remembers of its history

An `Edit` is one of the ways to change a record, and `built` is what edits make of the empty record.
What that record shows is settled by what happened to each column: `history` breaks edits down into
`Event`s, which write a column or drop some, and `Present`, `Holds` and `Arrived` say of the events
alone whether a column is there, with which value, and since which moment.

An event changes the views of a record as it changes these (`mem_columns_apply`, `get?_apply`,
`columns_apply`), so the columns are those present, in the order in which they arrived, each with
the value last written (`views_built`). -/

namespace TableGateway.Record

/-! ### Events -/

/-- What happens to the columns of a record. -/
inductive Event where
  | write (column : String) (value : Value)
  | remove (column : String)
  /-- All columns are filtered out but those allowed. -/
  | retain (allowed : List String)
  deriving DecidableEq, Repr

namespace Event

/-- The event writes the column. -/
def Writes (column : String) : Event → Prop
  | write c _ => c = column
  | remove _ | retain _ => False

/-- The event removes the column or filters it out. -/
def Drops (column : String) : Event → Prop
  | write _ _ => False
  | remove c => c = column
  | retain allowed => column ∉ allowed

/-- Lets an event happen to a record. -/
def apply (r : Record) : Event → Record
  | write column value => r.insert column value
  | remove column => r.erase column
  | retain allowed => r.retain allowed

end Event

/-! ### What a history says of a column -/

/-- Some event was a start, and none since then was a stop. -/
def Since (start stop : Event → Prop) (events : List Event) : Prop :=
  ∃ before e after, events = before ++ e :: after ∧ start e ∧ ∀ later ∈ after, ¬stop later

/-- The column was written and has neither been removed nor filtered out since. -/
def Present (events : List Event) (column : String) : Prop :=
  Since (·.Writes column) (·.Drops column) events

/-- The column was last written with this value and has neither been removed nor filtered out
since. -/
def Holds (events : List Event) (column : String) (value : Value) : Prop :=
  Since (· = .write column value) (fun e => e.Drops column ∨ e.Writes column) events

/-- The column last went from absent to present at the event with this number. -/
def Arrived (events : List Event) (column : String) (moment : Nat) : Prop :=
  moment < events.length ∧ ¬Present (events.take moment) column ∧
    ∀ n, moment < n → n ≤ events.length → Present (events.take n) column

/-- The first column arrived before the second. -/
def Earlier (events : List Event) (a b : String) : Prop :=
  ∃ m n, Arrived events a m ∧ Arrived events b n ∧ m < n

theorem not_since_nil {start stop : Event → Prop} : ¬Since start stop [] := by
  rintro ⟨before, e, after, h, -⟩
  simp at h

theorem since_concat {start stop : Event → Prop} {events : List Event} {e : Event} :
    Since start stop (events ++ [e]) ↔ start e ∨ (Since start stop events ∧ ¬stop e) := by
  constructor
  · rintro ⟨before, d, after, h, hstart, hafter⟩
    rcases after.eq_nil_or_concat with rfl | ⟨between, last, rfl⟩
    · obtain ⟨-, rfl⟩ := List.append_singleton_inj.mp h
      exact .inl hstart
    · rw [List.concat_eq_append] at h hafter
      rw [← List.cons_append, ← List.append_assoc] at h
      obtain ⟨rfl, rfl⟩ := List.append_singleton_inj.mp h
      refine .inr ⟨⟨before, d, between, rfl, hstart, fun later hlater => ?_⟩, ?_⟩
      · exact hafter later (List.mem_append_left _ hlater)
      · exact hafter e (List.mem_append_right _ (List.mem_singleton_self e))
  · rintro (hstart | ⟨⟨before, d, after, rfl, hstart, hafter⟩, hstop⟩)
    · exact ⟨events, e, [], rfl, hstart, List.forall_mem_nil _⟩
    · refine ⟨before, d, after ++ [e], by simp, hstart, fun later hlater => ?_⟩
      rcases List.mem_append.mp hlater with hlater | hlater
      · exact hafter later hlater
      · rwa [List.mem_singleton.mp hlater]

section arrival
variable {events : List Event} {e : Event} {a b column : String} {m n : Nat}

theorem present_concat :
    Present (events ++ [e]) column ↔ e.Writes column ∨ (Present events column ∧ ¬e.Drops column) :=
  since_concat

theorem holds_concat {value : Value} :
    Holds (events ++ [e]) column value ↔
      e = .write column value ∨
        (Holds events column value ∧ ¬(e.Drops column ∨ e.Writes column)) := since_concat

/-- There is but one moment at which a column last arrived. -/
theorem Arrived.unique (hm : Arrived events column m) (hn : Arrived events column n) : m = n := by
  obtain ⟨hmlt, hmabsent, hmsince⟩ := hm
  obtain ⟨hnlt, hnabsent, hnsince⟩ := hn
  rcases Nat.lt_trichotomy m n with h | h | h
  · exact absurd (hmsince n h (by omega)) hnabsent
  · exact h
  · exact absurd (hnsince m h (by omega)) hmabsent

/-- A column that is still there has not arrived anew. -/
theorem Arrived.concat (h : Arrived events column m) (hpresent : Present (events ++ [e]) column) :
    Arrived (events ++ [e]) column m := by
  obtain ⟨hlt, habsent, hsince⟩ := h
  refine ⟨by simp; omega, ?_, fun n hn hle => ?_⟩
  · rwa [List.take_append_of_le_length (by omega)]
  · rw [List.length_append, List.length_singleton] at hle
    rcases Nat.lt_or_ge events.length n with hlast | hbefore
    · rwa [List.take_of_length_le (by simp; omega)]
    · rw [List.take_append_of_le_length hbefore]
      exact hsince n hn hbefore

/-- A column that was not there arrives with the event that writes it. -/
theorem arrived_concat_of_absent (habsent : ¬Present events column)
    (hpresent : Present (events ++ [e]) column) :
    Arrived (events ++ [e]) column events.length := by
  refine ⟨by simp, by rwa [List.take_left], fun n hn hle => ?_⟩
  rwa [List.take_of_length_le (by simp; omega)]

theorem exists_arrived (hpresent : Present events column) : ∃ n, Arrived events column n := by
  induction events using List.reverseRecOn with
  | nil => exact absurd hpresent not_since_nil
  | append_singleton events e ih =>
    by_cases h : Present events column
    · obtain ⟨n, hn⟩ := ih h
      exact ⟨n, hn.concat hpresent⟩
    · exact ⟨_, arrived_concat_of_absent h hpresent⟩

theorem Earlier.concat (h : Earlier events a b) (ha : Present (events ++ [e]) a)
    (hb : Present (events ++ [e]) b) : Earlier (events ++ [e]) a b := by
  obtain ⟨m, n, hm, hn, hlt⟩ := h
  exact ⟨m, n, hm.concat ha, hn.concat hb, hlt⟩

end arrival

/-! ### One event -/

section apply
variable (r : Record) (e : Event)

theorem mem_columns_apply (column : String) :
    column ∈ (e.apply r).columns ↔ e.Writes column ∨ (column ∈ r.columns ∧ ¬e.Drops column) := by
  cases e with
  | write c value =>
    simp only [Event.apply, Event.Writes, Event.Drops, not_false_eq_true, and_true]
    exact Entry.mem_columns_put.trans (or_congr_left eq_comm)
  | remove c =>
    have hne : column ≠ c ↔ ¬c = column := not_congr eq_comm
    simp only [Event.apply, Event.Writes, Event.Drops, columns_erase, List.mem_filter, false_or,
      bne_iff_ne, hne]
  | retain allowed =>
    simp only [Event.apply, Event.Writes, Event.Drops, columns_retain, List.mem_filter, false_or]
    simp

theorem get?_apply (column : String) (value : Value) :
    (e.apply r).get? column = some value ↔
      e = .write column value ∨
        (r.get? column = some value ∧ ¬(e.Drops column ∨ e.Writes column)) := by
  cases e with
  | write c v =>
    by_cases h : c = column
    · simp [Event.apply, Event.Writes, Event.Drops, get?_insert, h]
    · simp [Event.apply, Event.Writes, Event.Drops, get?_insert, h]
  | remove c =>
    have hfilter : (r.erase c).get? column = if column != c then r.get? column else none :=
      get?_filter ..
    rw [Event.apply, hfilter]
    by_cases h : c = column
    · simp [Event.Writes, Event.Drops, h]
    · have h' : ¬column = c := fun h' => h h'.symm
      simp [Event.Writes, Event.Drops, h, h']
  | retain allowed =>
    have hfilter : (r.retain allowed).get? column =
        if allowed.contains column then r.get? column else none := get?_filter ..
    by_cases h : column ∈ allowed
    · simp [Event.apply, Event.Writes, Event.Drops, hfilter, h]
    · simp [Event.apply, Event.Writes, Event.Drops, hfilter, h]

/-- The columns keep their order; a column that was absent comes last. -/
theorem columns_apply :
    (e.apply r).columns.Sublist r.columns ∨
      ∃ column, column ∉ r.columns ∧ (e.apply r).columns = r.columns ++ [column] := by
  cases e with
  | write column value =>
    have hcolumns := columns_insert r column value
    by_cases h : column ∈ r.columns
    · rw [if_pos h] at hcolumns
      exact .inl (hcolumns ▸ List.Sublist.refl _)
    · rw [if_neg h] at hcolumns
      exact .inr ⟨column, h, hcolumns⟩
  | remove column => exact .inl (columns_erase r column ▸ List.filter_sublist)
  | retain allowed => exact .inl (columns_retain r allowed ▸ List.filter_sublist)

end apply

/-! ### Any number of events -/

/-- The record that events leave of an empty one. -/
def replay (events : List Event) : Record := events.foldl Event.apply ∅

theorem replay_concat (events : List Event) (e : Event) :
    replay (events ++ [e]) = e.apply (replay events) := by
  rw [replay, List.foldl_append]
  rfl

theorem mem_columns_replay (events : List Event) (column : String) :
    column ∈ (replay events).columns ↔ Present events column := by
  induction events using List.reverseRecOn with
  | nil => exact iff_of_false List.not_mem_nil not_since_nil
  | append_singleton events e ih => rw [replay_concat, mem_columns_apply, present_concat, ih]

theorem get?_replay (events : List Event) (column : String) (value : Value) :
    (replay events).get? column = some value ↔ Holds events column value := by
  induction events using List.reverseRecOn with
  | nil => exact iff_of_false (by rintro ⟨⟩) not_since_nil
  | append_singleton events e ih => rw [replay_concat, get?_apply, ih, holds_concat]

/-- The columns stand in the order in which they arrived. -/
theorem pairwise_replay (events : List Event) :
    (replay events).columns.Pairwise (Earlier events) := by
  induction events using List.reverseRecOn with
  | nil => exact List.Pairwise.nil
  | append_singleton events e ih =>
    have hpresent : ∀ column ∈ (e.apply (replay events)).columns,
        Present (events ++ [e]) column := fun column h => by
      rwa [← mem_columns_replay, replay_concat]
    rw [replay_concat]
    rcases columns_apply (replay events) e with h | ⟨column, habsent, h⟩
    · refine (ih.sublist h).imp_of_mem fun ha hb hab => ?_
      exact hab.concat (hpresent _ ha) (hpresent _ hb)
    · rw [h] at hpresent ⊢
      rw [mem_columns_replay] at habsent
      have hlast := arrived_concat_of_absent habsent (hpresent column (by simp))
      refine List.pairwise_append.mpr ⟨?_, List.pairwise_singleton _ _, ?_⟩
      · refine ih.imp_of_mem fun ha hb hab => ?_
        exact hab.concat (hpresent _ (by simp [ha])) (hpresent _ (by simp [hb]))
      · intro a ha b hb
        obtain rfl := List.mem_singleton.mp hb
        obtain ⟨n, hn⟩ := exists_arrived ((mem_columns_replay events a).mp ha)
        exact ⟨n, _, hn.concat (hpresent a (by simp [ha])), hlast, hn.1⟩

/-! ### Edits -/

/-- One of the ways to change a record. -/
inductive Edit where
  | set (column : String) (value : Value)
  /-- Sets a column and hands back the value it had. -/
  | insert (column : String) (value : Value)
  /-- Removes a column and hands back the value it had. -/
  | remove (column : String)
  | retain (allowed : List String)
  /-- A record made of entries takes the place of the one there is. -/
  | replace (entries : List Entry)
  deriving DecidableEq, Repr

namespace Edit

/-- Makes an edit, with what it hands back. -/
def run (r : Record) : Edit → Option Value × Record
  | set column value => (none, r.insert column value)
  | insert column value => r.exchange column value
  | remove column => r.take column
  | retain allowed => (none, r.retain allowed)
  | replace entries => (none, .ofList entries)

/-- The edit hands back the value of the column. -/
def HandsBack (column : String) : Edit → Prop
  | insert c _ | remove c => c = column
  | set _ _ | retain _ | replace _ => False

/-- What an edit does to the columns, one after another.  Of a record that is replaced no column is
kept. -/
def events : Edit → List Event
  | set column value | insert column value => [.write column value]
  | remove column => [.remove column]
  | retain allowed => [.retain allowed]
  | replace entries => .retain [] :: entries.map fun entry => .write entry.1 entry.2

theorem run_snd (r : Record) (edit : Edit) : (edit.run r).2 = edit.events.foldl Event.apply r := by
  cases edit with
  | set column value => rfl
  | insert column value => rfl
  | remove column => rfl
  | retain allowed => rfl
  | replace entries =>
    have hempty : r.retain [] = ∅ := Record.ext (List.filter_eq_nil_iff.mpr (by simp))
    rw [events, List.foldl_cons, Event.apply, hempty, List.foldl_map]
    rfl

end Edit

/-- The record that edits make of an empty one. -/
def built (edits : List Edit) : Record := edits.foldl (fun r edit => (edit.run r).2) ∅

/-- What edits do to the columns, one after another. -/
def history (edits : List Edit) : List Event := edits.flatMap Edit.events

theorem built_eq_replay (edits : List Edit) : built edits = replay (history edits) := by
  unfold built replay history
  rw [List.foldl_flatMap]
  simp only [Edit.run_snd]

/-- **Records that are edited.**  Whatever the edits, no column is there twice, and the columns are
those that were written and neither removed nor filtered out since, in the order in which each last
went from absent to present.  Each has the value last written, in all views alike, and an edit that
hands back a value hands back the one that was there before it. -/
theorem views_built (edits : List Edit) :
    let r := built edits
    let events := history edits
    r.columns.Nodup ∧
    (∀ column, column ∈ r.columns ↔ Present events column) ∧
    (∀ column ∈ r.columns, ∃ moment, Arrived events column moment) ∧
    r.columns.Pairwise (fun a b => ∀ m n, Arrived events a m → Arrived events b n → m < n) ∧
    (∀ column value, r.get? column = some value ↔ Holds events column value) ∧
    (∀ entry ∈ r.entries, Holds events entry.1 entry.2) ∧
    r.columns = r.entries.map Prod.fst ∧ r.values = r.entries.map Prod.snd ∧
    r.columns.map r.get? = r.values.map some ∧
    r.columns.length = r.size ∧ r.values.length = r.size ∧
    (∀ column, r.contains column = true ↔ (r.get? column).isSome = true) ∧
    ∀ (edit : Edit) (column : String), edit.HandsBack column →
      (∀ value, (edit.run r).1 = some value ↔ Holds events column value) ∧
      ((edit.run r).1 = none ↔ ¬Present events column) := by
  intro r events
  have hr : r = replay events := built_eq_replay edits
  have hmem : ∀ column, column ∈ r.columns ↔ Present events column := fun column => by
    rw [hr, mem_columns_replay]
  have hget : ∀ column value, r.get? column = some value ↔ Holds events column value :=
    fun column value => by rw [hr, get?_replay]
  have habsent : ∀ column, r.get? column = none ↔ ¬Present events column := fun column => by
    rw [← hmem, ← get?_isSome, Option.not_isSome_iff_eq_none]
  refine ⟨r.nodup_columns, hmem, ?_, ?_, hget, ?_, rfl, rfl, r.map_get?_columns, r.length_columns,
    r.length_values, ?_, ?_⟩
  · intro column hcolumn
    exact exists_arrived ((hmem column).mp hcolumn)
  · have hearlier : r.columns.Pairwise (Earlier events) := hr ▸ pairwise_replay events
    refine hearlier.imp ?_
    rintro a b ⟨m, n, ha, hb, hlt⟩ m' n' ha' hb'
    rwa [ha'.unique ha, hb'.unique hb]
  · intro entry hentry
    exact (hget entry.1 entry.2).mp (get?_of_mem hentry)
  · intro column
    rw [contains_eq_isSome]
  · intro edit column hback
    have hreply : (edit.run r).1 = r.get? column := by
      cases edit with
      | insert c value => exact congrArg r.get? hback
      | remove c => exact congrArg r.get? hback
      | set c value => cases hback
      | retain allowed => cases hback
      | replace entries => cases hback
    rw [hreply]
    exact ⟨hget column, habsent column⟩

/-- A column that is set again keeps its place, unless it was removed in between. -/
example :
    (built [.set "a" (.int 1), .set "b" .null, .set "a" (.int 2)]).entries =
        [("a", .int 2), ("b", .null)] ∧
      (built [.set "a" (.int 1), .set "b" .null, .remove "a", .set "a" (.int 2)]).entries =
        [("b", .null), ("a", .int 2)] := by decide

end TableGateway.Record
