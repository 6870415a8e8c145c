import TableGateway.Database.Decoding
import TableGateway.Proofs.Text.Cutting
import TableGateway.Proofs.Text.Numbers

/-! # Dates and times as text

A cell of dates or times that can be decoded holds a `Moment`: a date, a time of day, or both, to the
microsecond.  Its value is the text of the moment (`Cell.Holds.value`).  Numbers are written in
digits, of any width, and marks that are no digits part them, so date, hour, minute and second are
told from the text; the parts of a second are not written.  Two cells thus come back as the same text
exactly if they hold the same moment to the second (`Cell.value_eq_iff_toSecond`), and a cell comes
back without loss only if it holds no parts of a second. -/

namespace TableGateway

open Text

namespace Text

/-- What stands before and behind the first occurrence of a character is told from the whole. -/
theorem append_cons_inj {x : Char} {s t rest rest' : List Char} (hs : x ∉ s) (ht : x ∉ t) :
    s ++ x :: rest = t ++ x :: rest' ↔ s = t ∧ rest = rest' := by
  have hcut : ∀ {s : List Char}, x ∉ s → ∀ rest, cutAt [x] (s ++ x :: rest) = some (s, rest) := by
    intro s hs rest
    have hself : cutAt [x] (x :: rest) = some ([], rest) := cutAt_self_append x [] rest
    rw [cutAt_append _ hs, hself, Option.map_some, List.append_nil]
  constructor
  · intro h
    have hcuts := hcut hs rest
    rw [h, hcut ht rest'] at hcuts
    cases hcuts
    exact ⟨rfl, rfl⟩
  · rintro ⟨rfl, rfl⟩
    rfl

theorem padded_inj {width n m : Nat} : padded width n = padded width m ↔ n = m := by
  constructor
  · intro h
    rw [← digitsValue_padded width n, h, digitsValue_padded]
  · rintro rfl
    rfl

theorem not_mem_padded {width n : Nat} {c : Char} (h : c.isDigit = false) :
    c ∉ padded width n := by
  intro hmem
  rw [isDigit_of_mem_padded hmem] at h
  cases h

end Text

namespace Database

/-! ### Moments -/

/-- A time of day.  In a leap second it is the sixtieth second of a minute. -/
structure TimeOfDay where
  hour : Nat
  minute : Nat
  second : Nat
  micros : Nat
  deriving DecidableEq, Repr

/-- The time of day on a clock, where a leap second is still counted to the second before. -/
def Clock.timeOfDay (c : Clock) : TimeOfDay where
  hour := c.hour.toNat
  minute := c.minute.toNat
  second := c.second.toNat + c.microseconds / 1000000
  micros := c.microseconds % 1000000

/-- A date, a time of day, or both. -/
inductive Moment where
  | dateTime (date : Date) (time : TimeOfDay)
  | date (date : Date)
  | time (time : TimeOfDay)
  deriving DecidableEq, Repr

/-- The time of day without the parts of its second. -/
def TimeOfDay.toSecond (t : TimeOfDay) : TimeOfDay := { t with micros := 0 }

/-- The moment without the parts of its second. -/
def Moment.toSecond : Moment → Moment
  | dateTime d t => dateTime d t.toSecond
  | date d => date d
  | time t => time t.toSecond

/-- The type of the columns whose cells are decoded to such moments. -/
def Moment.kind : Moment → CellType
  | dateTime _ _ => .dateTime
  | date _ => .date
  | time _ => .time

/-- A cell of a column of the type is decoded to the moment.  A date without a time of day is
midnight, and a negative length of time is taken for its time of day. -/
inductive Cell.Holds (type : CellType) : Cell → Moment → Prop
  | dateTime {date : Date} {clock : Option Clock} :
      type = .dateTime → date.isValid = true →
      (clock.getD {}).isRegular = true ∨ (clock.getD {}).isLeap = true →
      Holds type (.calendar (some (date, clock))) (.dateTime date (clock.getD {}).timeOfDay)
  | date {date : Date} {clock : Option Clock} :
      type = .date → date.isValid = true →
      Holds type (.calendar (some (date, clock))) (.date date)
  | midnight : type = .time → Holds type (.time none) (.time ⟨0, 0, 0, 0⟩)
  | time {span : Span} :
      type = .time → span.days = 0 → span.clock.isRegular = true →
      ¬(span.negative = true ∧ span.clock.isMidnight = true) →
      Holds type (.time (some span)) (.time span.clock.timeOfDay)

/-! ### Texts -/

/-- Hour, minute and second. -/
def TimeOfDay.text (t : TimeOfDay) : String :=
  String.ofList (padded 2 t.hour ++ ':' :: padded 2 t.minute ++ ':' :: padded 2 t.second)

theorem Clock.text_eq (c : Clock) : c.text = c.timeOfDay.text := rfl

/-- The date, the time of day, or both with a space between. -/
def Moment.text : Moment → String
  | dateTime d t => d.text ++ " " ++ t.text
  | date d => d.text
  | time t => t.text

theorem TimeOfDay.text_eq_iff {t u : TimeOfDay} : t.text = u.text ↔ t.toSecond = u.toSecond := by
  unfold text
  rw [String.ofList_inj]
  simp only [List.append_assoc, List.cons_append]
  have hcolon : Char.isDigit ':' = false := by decide
  rw [append_cons_inj (not_mem_padded hcolon) (not_mem_padded hcolon),
    append_cons_inj (not_mem_padded hcolon) (not_mem_padded hcolon), padded_inj, padded_inj,
    padded_inj]
  simp [toSecond]

/-- A year in digits, with a sign where four are not enough. -/
def yearText (year : Nat) : List Char :=
  (if 9999 < year then ['+'] else []) ++ padded 4 year

theorem yearText_inj {year other : Nat} : yearText year = yearText other ↔ year = other := by
  have hplus : ∀ n, '+' ∉ padded 4 n := fun n => not_mem_padded (by decide)
  refine ⟨fun h => ?_, fun h => h ▸ rfl⟩
  unfold yearText at h
  by_cases hyear : 9999 < year <;> by_cases hother : 9999 < other
  · rw [if_pos hyear, if_pos hother] at h
    exact padded_inj.mp (List.append_cancel_left h)
  · rw [if_pos hyear, if_neg hother] at h
    exact absurd (h ▸ List.mem_cons_self : '+' ∈ [] ++ padded 4 other) (hplus other)
  · rw [if_neg hyear, if_pos hother] at h
    exact absurd (h ▸ List.mem_cons_self : '+' ∈ [] ++ padded 4 year) (hplus year)
  · rw [if_neg hyear, if_neg hother] at h
    exact padded_inj.mp h

theorem not_mem_yearText {c : Char} (hplus : c ≠ '+') (h : c.isDigit = false) (year : Nat) :
    c ∉ yearText year := by
  intro hmem
  unfold yearText at hmem
  rcases List.mem_append.mp hmem with hsign | hdigit
  · split at hsign
    next => exact hplus (List.mem_singleton.mp hsign)
    next => cases hsign
  · exact not_mem_padded h hdigit

theorem Date.text_eq (d : Date) : d.text = String.ofList (yearText d.year.toNat ++
    '-' :: (padded 2 d.month.toNat ++ '-' :: padded 2 d.day.toNat)) := by
  simp only [Date.text, yearText, List.append_assoc, List.cons_append]

theorem Date.text_inj {d e : Date} : d.text = e.text ↔ d = e := by
  have hdash : Char.isDigit '-' = false := by decide
  have hplus : '-' ≠ '+' := by decide
  rw [Date.text_eq, Date.text_eq, String.ofList_inj,
    append_cons_inj (not_mem_yearText hplus hdash _) (not_mem_yearText hplus hdash _),
    append_cons_inj (not_mem_padded hdash) (not_mem_padded hdash), yearText_inj, padded_inj,
    padded_inj]
  cases d
  cases e
  simp [UInt16.toNat_inj, UInt8.toNat_inj]

theorem Date.not_mem_text (d : Date) : ' ' ∉ d.text.toList := by
  have hspace : Char.isDigit ' ' = false := by decide
  rw [Date.text_eq, String.toList_ofList]
  simp [not_mem_yearText, not_mem_padded, hspace]

theorem dateTime_text_eq_iff {d e : Date} {t u : TimeOfDay} :
    (Moment.dateTime d t).text = (Moment.dateTime e u).text ↔ d = e ∧ t.toSecond = u.toSecond := by
  rw [← Date.text_inj, ← TimeOfDay.text_eq_iff]
  simp only [Moment.text, ← String.toList_inj, String.toList_append]
  have hspace : " ".toList = [' '] := by decide
  simp only [hspace, List.append_assoc, List.singleton_append]
  exact append_cons_inj d.not_mem_text e.not_mem_text

/-- Moments of one kind have the same text if they are the same to the second. -/
theorem Moment.text_eq_iff : ∀ {m n : Moment}, m.kind = n.kind →
    (m.text = n.text ↔ m.toSecond = n.toSecond)
  | dateTime d t, dateTime e u, _ => by
      rw [dateTime_text_eq_iff, toSecond, toSecond, dateTime.injEq]
  | date d, date e, _ => by
      rw [toSecond, toSecond, date.injEq]
      exact Date.text_inj
  | time t, time u, _ => by
      rw [toSecond, toSecond, time.injEq]
      exact TimeOfDay.text_eq_iff

/-! ### Cells -/

theorem Moment.isUnsignable_kind : ∀ m : Moment, m.kind.isUnsignable = false
  | dateTime _ _ => rfl
  | date _ => rfl
  | time _ => rfl

/-- Columns of dates and times have no numbers. -/
theorem Column.unsigned?_eq_none (column : Column) (h : column.type.isUnsignable = false)
    (cell : Cell) : cell.unsigned? column = none := by
  simp [Cell.unsigned?, h]

namespace Cell

theorem Holds.kind {type : CellType} {cell : Cell} {m : Moment} (h : Holds type cell m) :
    m.kind = type := by
  cases h <;> exact (‹type = _›).symm

theorem Holds.value {column : Column} {cell : Cell} {m : Moment} (h : Holds column.type cell m) :
    cell.value column = .ok (.text m.text) := by
  have hunsigned := column.unsigned?_eq_none (h.kind ▸ m.isUnsignable_kind)
  cases h with
  | dateTime htype hdate hclock =>
      simp [Cell.value, isAbsent, signed?, hunsigned, float?, text?, dateTime?, htype, hdate,
        hclock, Moment.text, Clock.text_eq]
  | date htype hdate =>
      simp [Cell.value, isAbsent, signed?, hunsigned, float?, text?, dateTime?, date?, htype,
        hdate, Moment.text]
  | midnight htype =>
      have hclock : ({} : Clock).timeOfDay = ⟨0, 0, 0, 0⟩ := rfl
      simp [Cell.value, isAbsent, signed?, hunsigned, float?, text?, dateTime?, date?, clock?,
        Moment.text, Clock.text_eq, hclock]
  | time htype hdays hclock hzero =>
      simp [Cell.value, isAbsent, signed?, hunsigned, float?, text?, dateTime?, date?, clock?,
        hdays, hclock, hzero, Moment.text, Clock.text_eq]

end Cell

/-! ### Timestamps -/

theorem toByteArray_of_utf8? {bytes : Bytes} {s : String} (h : utf8? bytes = some s) :
    s.toByteArray = ⟨bytes.toArray⟩ := by
  unfold utf8? String.fromUTF8? at h
  split at h
  next hvalid =>
    cases h
    rfl
  next => cases h

/-- Bytes that are text are told from it. -/
theorem utf8?_inj {a b : Bytes} {s : String} (ha : utf8? a = some s) (hb : utf8? b = some s) :
    a = b := by
  have h := (toByteArray_of_utf8? ha).symm.trans (toByteArray_of_utf8? hb)
  exact congrArg Array.toList (ByteArray.mk.inj h)

theorem length_littleEndian : ∀ width n : Nat, (littleEndian width n).length = width
  | 0, _ => rfl
  | width + 1, n => by rw [littleEndian, List.length_cons, length_littleEndian width]

theorem littleEndian_inj : ∀ {width n m : Nat}, n < 256 ^ width → m < 256 ^ width →
    littleEndian width n = littleEndian width m → n = m
  | 0, n, m, hn, hm, _ => by omega
  | width + 1, n, m, hn, hm, h => by
      rw [littleEndian, littleEndian, List.cons.injEq] at h
      rw [Nat.pow_succ] at hn hm
      have hlow : n % 256 = m % 256 := by
        have hbyte := congrArg UInt8.toNat h.1
        simpa using hbyte
      have hhigh : n / 256 = m / 256 :=
        littleEndian_inj (Nat.div_lt_of_lt_mul (by omega)) (Nat.div_lt_of_lt_mul (by omega)) h.2
      omega

theorem Clock.microBytes_inj {c d : Clock} (h : c.microBytes = d.microBytes) :
    c.micros = d.micros := by
  unfold microBytes at h
  have hlength := congrArg List.length h
  cases hc : c.micros with
  | none =>
      cases hd : d.micros with
      | none => rfl
      | some n => simp [hc, hd, length_littleEndian] at hlength
  | some m =>
      cases hd : d.micros with
      | none => simp [hc, hd, length_littleEndian] at hlength
      | some n =>
          rw [hc, hd] at h
          exact congrArg some (UInt32.toNat_inj.mp (littleEndian_inj m.toNat_lt n.toNat_lt h))

theorem Clock.bytes_inj {c d : Clock} (h : c.bytes = d.bytes) : c = d := by
  obtain ⟨hclock, hmicros⟩ := List.append_inj h rfl
  have hmicros := microBytes_inj hmicros
  cases c
  cases d
  simp_all

/-- A clock that is sent is more than nothing. -/
theorem Clock.bytes_ne_nil (c : Clock) : c.bytes ≠ [] := by
  simp [bytes]

/-- A date and what stands behind it are told from the bytes that are sent. -/
theorem Cell.wire_calendar_inj {type : CellType} {a b : Date × Option Clock}
    (h : (calendar (some a)).wire type = (calendar (some b)).wire type) : a = b := by
  obtain ⟨⟨year, month, day⟩, clock⟩ := a
  obtain ⟨⟨year', month', day'⟩, clock'⟩ := b
  simp only [wire, counted, List.cons.injEq, List.append_assoc] at h
  obtain ⟨hyear, hrest⟩ := List.append_inj h.2 (by rw [length_littleEndian, length_littleEndian])
  have hyear := UInt16.toNat_inj.mp (littleEndian_inj year.toNat_lt year'.toNat_lt hyear)
  simp only [List.cons_append, List.nil_append, List.cons.injEq] at hrest
  obtain ⟨hmonth, hday, hclock⟩ := hrest
  have hclock : clock = clock' := by
    cases clock with
    | none =>
        cases clock' with
        | none => rfl
        | some d => exact absurd hclock.symm d.bytes_ne_nil
    | some c =>
        cases clock' with
        | none => exact absurd hclock c.bytes_ne_nil
        | some d => exact congrArg some (Clock.bytes_inj hclock)
  rw [hyear, hmonth, hday, hclock]

/-- A timestamp is not decoded: it is taken as it is sent, if that is text. -/
theorem Cell.value_timestamp {column : Column} (h : column.type = .timestamp)
    (a : Date × Option Clock) : (calendar (some a)).value column =
      match utf8? ((calendar (some a)).wire .timestamp) with
      | some s => .ok (.text s)
      | none => .error .undecodable := by
  have hunsigned := column.unsigned?_eq_none (by rw [h]; rfl)
  simp only [Cell.value, isAbsent, signed?, hunsigned, float?, text?, dateTime?, date?, clock?,
    blob?, h]
  cases utf8? ((calendar (some a)).wire .timestamp) <;> rfl

theorem Cell.timestamp_inj {column other : Column} (hcolumn : column.type = .timestamp)
    (hother : other.type = .timestamp) {a b : Date × Option Clock} {v : Value}
    (ha : (calendar (some a)).value column = .ok v)
    (hb : (calendar (some b)).value other = .ok v) : a = b := by
  rw [value_timestamp hcolumn] at ha
  rw [value_timestamp hother] at hb
  cases htext : utf8? ((calendar (some a)).wire .timestamp) with
  | none =>
      rw [htext] at ha
      cases ha
  | some s =>
      cases htext' : utf8? ((calendar (some b)).wire .timestamp) with
      | none =>
          rw [htext'] at hb
          cases hb
      | some t =>
          rw [htext] at ha
          rw [htext'] at hb
          cases ha
          cases hb
          exact wire_calendar_inj (utf8?_inj htext htext')

/-! ### What comes back -/

/-- **Dates and times come back to the second.**  The value of a cell that holds a moment is the text
of the moment, and cells of one type have the same value exactly if their moments are the same to
the second: the parts of a second are lost, and nothing else is.  A timestamp that comes back at all
comes back whole. -/
theorem Cell.value_eq_iff_toSecond {column other : Column} (htype : column.type = other.type) :
    (∀ x y m n, Holds column.type x m → Holds other.type y n →
      x.value column = .ok (.text m.text) ∧
        (x.value column = y.value other ↔ m.toSecond = n.toSecond)) ∧
    (column.type = .timestamp → ∀ a b v, (calendar (some a)).value column = .ok v →
      (calendar (some b)).value other = .ok v → a = b) := by
  refine ⟨fun x y m n hx hy => ?_, fun htimestamp a b v ha hb =>
    timestamp_inj htimestamp (htype ▸ htimestamp) ha hb⟩
  have hkind : m.kind = n.kind := hx.kind.trans (htype.trans hy.kind.symm)
  rw [hx.value, hy.value, ← Moment.text_eq_iff hkind]
  simp

/-- Two instants of one second come back alike, a leap second does not come back like the second
before it, and of two timestamps each comes back in its own way. -/
theorem Cell.value_eq_iff_toSecond_fractions :
    let column : Column := { name := "at", type := .dateTime }
    let cell (micros : UInt32) : Cell :=
      .calendar (some (⟨2024, 2, 29⟩, some ⟨23, 59, 59, some micros⟩))
    let moment (second micros : Nat) : Moment :=
      .dateTime ⟨2024, 2, 29⟩ ⟨23, 59, second, micros⟩
    let stamp : Column := { name := "at", type := .timestamp }
    let day (n : UInt8) : Cell := .calendar (some (⟨2048, 1, n⟩, none))
    Holds column.type (cell 250000) (moment 59 250000) ∧
      Holds column.type (cell 500000) (moment 59 500000) ∧
      Holds column.type (cell 1250000) (moment 60 250000) ∧
      (cell 250000).value column = .ok (.text "2024-02-29 23:59:59") ∧
      (cell 250000).value column = (cell 500000).value column ∧
      (cell 250000).value column ≠ (cell 1250000).value column ∧
      (day 2).value stamp = .ok (.text "\x04\x00\x08\x01\x02") ∧
      (day 3).value stamp ≠ .ok (.text "\x04\x00\x08\x01\x02") := by
  intro column cell moment stamp day
  have hquarter : Holds column.type (cell 250000) (moment 59 250000) :=
    .dateTime rfl (by decide) (.inl (by decide))
  have hhalf : Holds column.type (cell 500000) (moment 59 500000) :=
    .dateTime rfl (by decide) (.inl (by decide))
  have hleap : Holds column.type (cell 1250000) (moment 60 250000) :=
    .dateTime rfl (by decide) (.inr (by decide))
  obtain ⟨htext, hsame⟩ := (value_eq_iff_toSecond rfl).1 _ _ _ _ hquarter hhalf
  obtain ⟨-, hother⟩ := (value_eq_iff_toSecond rfl).1 _ _ _ _ hquarter hleap
  have hstring : (moment 59 250000).text = "2024-02-29 23:59:59" := by decide +kernel
  have hday : (day 2).value stamp = .ok (.text "\x04\x00\x08\x01\x02") := by decide +kernel
  refine ⟨hquarter, hhalf, hleap, hstring ▸ htext, hsame.mpr (by decide),
    hother.not.mpr (by decide), hday, fun hsecond => ?_⟩
  have htype : stamp.type = stamp.type := rfl
  exact absurd ((value_eq_iff_toSecond htype).2 rfl _ _ _ hday hsecond) (by decide)

/-- A moment is not told from its text. -/
theorem Cell.not_forall_value_ne :
    ¬∀ (column other : Column) (x y : Cell) (m n : Moment), column.type = other.type →
      Holds column.type x m → Holds other.type y n → m ≠ n → x.value column ≠ y.value other := by
  intro h
  let column : Column := { name := "at", type := .dateTime }
  let clock (micros : UInt32) : Clock := ⟨3, 4, 5, some micros⟩
  have hholds : ∀ micros : UInt32, (clock micros).isRegular = true →
      Holds column.type (.calendar (some (⟨2024, 1, 2⟩, some (clock micros))))
        (.dateTime ⟨2024, 1, 2⟩ (clock micros).timeOfDay) := fun micros hregular =>
    .dateTime rfl (by decide) (.inl hregular)
  refine h column column _ _ _ _ rfl (hholds 250000 (by decide)) (hholds 500000 (by decide))
    (by decide) ?_
  decide +kernel

end Database

end TableGateway
