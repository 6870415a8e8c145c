import Mathlib.Data.List.Induction
import Mathlib.Data.Nat.Digits.Lemmas
import TableGateway.Proofs.Database.Exchange
import TableGateway.Proofs.Database.Moments

/-! # Values sent and read back

The values of a statement are sent as parameters, one each and in their order.  `Parameter.Echo` says
that a cell holds a parameter unchanged in a column of the parameter's own type: such a cell is read
as the value that was sent (`Parameter.Echo.value_eq`), but for a truth value, which comes back as a
number.

`Cell.Number` says which whole number a cell holds, with a sign, without one or as bits.  It is read
as an integer as far as there are integers, and from there on as text (`Cell.Number.value_of_lt`,
`Cell.Number.value_of_le`), so different numbers are told apart (`Cell.Number.value_eq_iff`).

A cell is read as null if it is null, and also if it is the zero date, which is no date of the
calendar (`Cell.value_eq_null_iff`). -/

namespace TableGateway

/-- What a value comes back as.  There are no truth values in results, only numbers. -/
def Value.returned : Value → Value
  | .bool b => .int (if b then 1 else 0)
  | v => v

/-- The whole number that a value is, or that its digits are. -/
def Value.number? : Value → Option Int
  | .int k => some k.toInt
  | .text s => (Text.natural? s.toList).map Nat.cast
  | _ => none

namespace Database

/-! ### Parameters -/

/-- The value that the parameter was made from. -/
def Parameter.value : Parameter → Value
  | null => .null
  | tiny b => .bool b
  | longlong n => .int n
  | double x => .float x
  | varString s => .text s
  | blob bytes => .blob bytes

theorem Parameter.value_ofValue (v : Value) : (ofValue v).value = v := by
  cases v <;> rfl

/-- The parameters of a statement are its values, one each and in their order. -/
theorem Parameter.map_value_ofValue (vs : List Value) : (vs.map ofValue).map value = vs := by
  rw [List.map_map]
  exact List.map_id'' value_ofValue vs

/-- The bytes of a text in UTF-8. -/
def utf8 (s : String) : Bytes := s.toByteArray.data.toList

theorem utf8?_utf8 (s : String) : utf8? (utf8 s) = some s := by
  unfold utf8? utf8 String.fromUTF8?
  rw [Array.toArray_toList, dif_pos s.isValidUTF8]
  rfl

/-- The cell holds the parameter unchanged, and its column is of the parameter's own type.  A null is
of every type, and the type of a truth value may have a sign or not. -/
inductive Parameter.Echo : Parameter → Column → Cell → Prop
  | null {column : Column} : Echo .null column .null
  | tiny {column : Column} {b : Bool} :
      column.type = .tiny → Echo (.tiny b) column (.integer (if b then 1 else 0))
  | longlong {column : Column} {n : Int64} :
      column.type = .longlong → column.unsigned = false →
      Echo (.longlong n) column (.integer n.toInt)
  | double {column : Column} {x : Binary64} :
      column.type = .double → Echo (.double x) column (.double x)
  | varString {column : Column} {s : String} :
      column.type = .varString → column.binary = false →
      Echo (.varString s) column (.bytes (utf8 s))
  | blob {column : Column} {bytes : Bytes} :
      column.type = .blob → column.binary = true →
      Echo (.blob bytes) column (.bytes bytes)

/-! ### Numbers -/

/-- The number that bytes are to the base 256, the highest first. -/
def bytesNumber (bytes : Bytes) : Nat := Nat.ofDigits 256 (bytes.reverse.map UInt8.toNat)

theorem bytesNumber_concat (bytes : Bytes) (b : UInt8) :
    bytesNumber (bytes ++ [b]) = b.toNat + 256 * bytesNumber bytes := by
  simp [bytesNumber, Nat.ofDigits_cons]

theorem bytesNumber_lt (bytes : Bytes) : bytesNumber bytes < 256 ^ bytes.length := by
  have h := Nat.ofDigits_lt_base_pow_length (b := 256) (l := bytes.reverse.map UInt8.toNat)
    (by decide) (by
      intro digit hdigit
      obtain ⟨b, -, rfl⟩ := List.mem_map.mp hdigit
      exact b.toNat_lt)
  simpa [bytesNumber] using h

theorem toNat_bigEndian (bytes : Bytes) :
    (bigEndian bytes).toNat = bytesNumber bytes % 2 ^ 64 := by
  induction bytes using List.reverseRecOn with
  | nil => rfl
  | append_singleton bytes b ih =>
      have hstep : bigEndian (bytes ++ [b]) = bigEndian bytes * 256 + UInt64.ofNat b.toNat :=
        List.foldl_concat ..
      have hb := b.toNat_lt
      rw [hstep, bytesNumber_concat, UInt64.toNat_add, UInt64.toNat_mul, ih]
      simp
      omega

/-- The whole number in a cell, within what columns of whole numbers can hold. -/
inductive Cell.Number (column : Column) : Cell → Int → Prop
  | signed {n : Int} :
      column.type.isInteger = true → column.unsigned = false → -2 ^ 63 ≤ n → n < 2 ^ 63 →
      Number column (.integer n) n
  | unsigned {n : Int} :
      column.type.isInteger = true ∨ column.type = .year → column.unsigned = true →
      0 ≤ n → n < 2 ^ 64 → Number column (.integer n) n
  | bits {bytes : Bytes} :
      column.type = .bit → column.unsigned = true → bytes.length ≤ 8 →
      Number column (.bytes bytes) (bytesNumber bytes)

namespace Cell

variable {column : Column} {cell x y : Cell} {n m : Int}

theorem isAbsent_iff : cell.isAbsent = true ↔ cell = .null ∨ cell = .calendar none := by
  cases cell with
  | calendar date => cases date <;> simp [isAbsent]
  | _ => simp [isAbsent]

theorem null_ne_unsignedValue (u : UInt64) : .null ≠ unsignedValue u := by
  unfold unsignedValue
  split <;> exact Value.noConfusion

/-- No reading of a cell is null, so a cell must be absent for that. -/
theorem value_eq_null_iff :
    cell.value column = .ok .null ↔ cell = .null ∨ cell = .calendar none := by
  rw [← isAbsent_iff]
  refine ⟨fun h => ?_, fun h => if_pos h⟩
  unfold value at h
  split at h
  next habsent => exact habsent
  next =>
    dsimp only at h
    split at h
    next v hread =>
      cases h
      obtain ⟨reading, hmem, rfl : reading = some .null⟩ :=
        List.exists_of_findSome?_eq_some hread
      simp [eq_comm, null_ne_unsignedValue] at hmem
    next => cases h

/-- Of all cells that are not null only the zero date is read as if it were. -/
theorem null_iff_ne_zero :
    (cell.value column = .ok .null ↔ cell = .null) ↔ cell ≠ .calendar none := by
  rw [value_eq_null_iff]
  by_cases hzero : cell = .calendar none
  · simp [hzero]
  · simp [hzero]

theorem value_of_signed {k : Int64} (h : cell.signed? column = some k) :
    cell.value column = .ok (.int k) := by
  cases cell with
  | integer n => simp [value, isAbsent, h]
  | _ => simp [signed?] at h

/-- Where there is no sign, a whole number is read as such before it can be read as anything else. -/
theorem value_of_unsigned (hsign : column.unsigned = true) {u : UInt64}
    (h : cell.unsigned? column = some u) : cell.value column = .ok (unsignedValue u) := by
  have hpresent : cell.isAbsent = false := by
    cases cell with
    | null => simp [unsigned?] at h
    | calendar date => simp [unsigned?] at h
    | _ => rfl
  have hsigned : cell.signed? column = none := by
    cases cell <;> simp [signed?, hsign]
  simp [value, hpresent, hsigned, h]

/-- A whole number is read as itself, with a sign or without one. -/
theorem Number.read (h : Number column x n) :
    (∃ k : Int64, k.toInt = n ∧ x.value column = .ok (.int k)) ∨
      ∃ u : UInt64, u.toNat = n ∧ x.value column = .ok (unsignedValue u) := by
  cases h with
  | signed htype hsign hlower hupper =>
      have hread : (integer n).signed? column = some (.ofInt n) := by simp [signed?, htype, hsign]
      exact .inl ⟨_, Int64.toInt_ofInt_of_le hlower hupper, value_of_signed hread⟩
  | unsigned htype hsign hlower hupper =>
      have hread : (integer n).unsigned? column = some (.ofNat n.toNat) := by
        rcases htype with htype | htype <;> simp [unsigned?, CellType.isUnsignable, htype, hsign]
      have hlt : n.toNat < 2 ^ 64 := by omega
      refine .inr ⟨_, ?_, value_of_unsigned hsign hread⟩
      rw [UInt64.toNat_ofNat_of_lt' hlt, Int.toNat_of_nonneg hlower]
  | @bits bytes htype hsign hlength =>
      have hread : (Cell.bytes bytes).unsigned? column = some (bigEndian bytes) := by
        simp [unsigned?, CellType.isUnsignable, htype, hsign]
      have hpow : 256 ^ bytes.length ≤ 256 ^ 8 := Nat.pow_le_pow_right (by decide) hlength
      have hlt : bytesNumber bytes < 2 ^ 64 := (bytesNumber_lt bytes).trans_le hpow
      refine .inr ⟨_, ?_, value_of_unsigned hsign hread⟩
      rw [toNat_bigEndian, Nat.mod_eq_of_lt hlt]

theorem unsignedValue_of_lt {u : UInt64} (h : u.toNat < 2 ^ 63) :
    unsignedValue u = .int (.ofNat u.toNat) := if_pos h

theorem unsignedValue_of_le {u : UInt64} (h : 2 ^ 63 ≤ u.toNat) :
    unsignedValue u = .text u.toNat.repr := if_neg (Nat.not_lt.mpr h)

theorem Number.value_of_lt (h : Number column x n) (hn : n < 2 ^ 63) :
    ∃ k : Int64, k.toInt = n ∧ x.value column = .ok (.int k) := by
  rcases h.read with hsigned | ⟨u, hu, hvalue⟩
  · exact hsigned
  · have hlt : u.toNat < 2 ^ 63 := by omega
    refine ⟨.ofNat u.toNat, ?_, ?_⟩
    · rw [Int64.toInt_ofNat_of_lt hlt, hu]
    · rw [hvalue, unsignedValue_of_lt hlt]

/-- The integers end where the sign bit begins, and from there on the digits are given. -/
theorem Number.value_of_le (h : Number column x n) (hn : 2 ^ 63 ≤ n) :
    x.value column = .ok (.text n.toNat.repr) := by
  rcases h.read with ⟨k, hk, -⟩ | ⟨u, hu, hvalue⟩
  · have hlt := k.toInt_lt
    omega
  · have hle : 2 ^ 63 ≤ u.toNat := by omega
    rw [hvalue, unsignedValue_of_le hle, ← hu, Int.toNat_natCast]

/-- The number can be told from the value. -/
theorem Number.exists_value (h : Number column x n) :
    ∃ v, x.value column = .ok v ∧ v.number? = some n := by
  rcases lt_or_ge n (2 ^ 63) with hn | hn
  · obtain ⟨k, hk, hvalue⟩ := h.value_of_lt hn
    exact ⟨_, hvalue, congrArg some hk⟩
  · refine ⟨_, h.value_of_le hn, ?_⟩
    rw [Value.number?, Text.natural?_repr, Option.map_some, Int.toNat_of_nonneg (by omega)]

/-- A number that leaves the sign bit alone is the same with a sign and without one. -/
theorem number_of_nonneg (htype : column.type.isInteger = true) (hlower : 0 ≤ n)
    (hupper : n < 2 ^ 63) : Number column (integer n) n := by
  cases hsign : column.unsigned with
  | false => exact .signed htype hsign (by omega) hupper
  | true => exact .unsigned (.inl htype) hsign hlower (by omega)

theorem value_truth (htype : column.type = .tiny) (b : Bool) :
    (integer (if b then 1 else 0)).value column = .ok (.int (if b then 1 else 0)) := by
  have hinteger : column.type.isInteger = true := by rw [htype]; rfl
  have hlower : (0 : Int) ≤ if b then 1 else 0 := by cases b <;> decide
  have hupper : (if b then 1 else 0 : Int) < 2 ^ 63 := by cases b <;> decide
  obtain ⟨k, hk, hvalue⟩ := (number_of_nonneg hinteger hlower hupper).value_of_lt hupper
  obtain rfl : k = if b then 1 else 0 := Int64.toInt_inj.mp (hk.trans (by cases b <;> rfl))
  exact hvalue

/-- In one column, cells are read alike exactly if they hold the same number. -/
theorem Number.value_eq_iff (hx : Number column x n) (hy : Number column y m) :
    x.value column = y.value column ↔ n = m := by
  constructor
  · intro heq
    obtain ⟨v, hv, hn⟩ := hx.exists_value
    obtain ⟨w, hw, hm⟩ := hy.exists_value
    rw [hv, hw, Except.ok.injEq] at heq
    exact Option.some.inj (hn.symm.trans (heq ▸ hm))
  · rintro rfl
    rcases lt_or_ge n (2 ^ 63) with hn | hn
    · obtain ⟨k, hk, hx⟩ := hx.value_of_lt hn
      obtain ⟨l, hl, hy⟩ := hy.value_of_lt hn
      rw [hx, hy, Int64.toInt_inj.mp (hk.trans hl.symm)]
    · rw [hx.value_of_le hn, hy.value_of_le hn]

end Cell

/-! ### What comes back -/

/-- A parameter is read as the value that it was made from. -/
theorem Parameter.Echo.value_eq {v : Value} {column : Column} {cell : Cell}
    (h : (ofValue v).Echo column cell) : cell.value column = .ok v.returned := by
  cases v with
  | null =>
      cases h
      rfl
  | bool b =>
      cases h with
      | tiny htype => exact Cell.value_truth htype b
  | int n =>
      cases h with
      | longlong htype hsign =>
          apply Cell.value_of_signed
          simp [Cell.signed?, CellType.isInteger, htype, hsign]
  | float x =>
      cases h with
      | double htype =>
          have hunsigned := column.unsigned?_eq_none (by rw [htype]; rfl)
          simp [Cell.value, Cell.isAbsent, Cell.signed?, hunsigned, Cell.float?, Value.returned]
  | text s =>
      cases h with
      | varString htype hbinary =>
          have hunsigned := column.unsigned?_eq_none (by rw [htype]; rfl)
          have htext : (Cell.bytes (utf8 s)).text? column = some s := by
            simp [Cell.text?, CellType.isText, htype, hbinary, utf8?_utf8]
          simp [Cell.value, Cell.isAbsent, Cell.signed?, hunsigned, Cell.float?, htext,
            Value.returned]
  | blob bytes =>
      cases h with
      | blob htype hbinary =>
          -- The bytes may well be those of a text, but the column is not one of text.
          have hunsigned := column.unsigned?_eq_none (by rw [htype]; rfl)
          have htext : (Cell.bytes bytes).text? column = none := by simp [Cell.text?, hbinary]
          have hblob : (Cell.bytes bytes).blob? column = some bytes := by
            simp [Cell.blob?, CellType.isText, htype]
          simp [Cell.value, Cell.isAbsent, Cell.signed?, hunsigned, Cell.float?, htext,
            Cell.dateTime?, Cell.date?, Cell.clock?, hblob, Value.returned]

/-- What is sent with a statement are its values. -/
theorem Server.sendOn_parameters {σ : Type} (server : Server σ) (session : Session) (via : Via)
    (statement : Statement) (pool : Pool σ) : ∃ parameters,
      parameters.map Parameter.value = statement.bindings ∧
      (server.sendOn session via statement pool).2 =
        server.put (.statement session statement.sql parameters) pool :=
  ⟨_, Parameter.map_value_ofValue statement.bindings, server.sendOn_snd session via statement pool⟩

/-- **Values come back.**  A statement is sent with its values, one each and in their order, and a
value that is echoed in a column of its own type is read as itself, a truth value as a number.  A
cell is read as null exactly if it is null or the zero date, so that null is told from all else
exactly where the cell is not the zero date.  Whole numbers are read as themselves, as integers up to
the greatest integer and in digits from there on, and in one column no two numbers are read alike. -/
theorem values_returned (column : Column) (cell : Cell) :
    (∀ {σ : Type} (server : Server σ) (session : Session) (via : Via) (statement : Statement)
      (pool : Pool σ), ∃ parameters, parameters.map Parameter.value = statement.bindings ∧
        (server.sendOn session via statement pool).2 =
          server.put (.statement session statement.sql parameters) pool) ∧
    (∀ v : Value, (Parameter.ofValue v).Echo column cell → cell.value column = .ok v.returned) ∧
    (cell.value column = .ok .null ↔ cell = .null ∨ cell = .calendar none) ∧
    ((cell.value column = .ok .null ↔ cell = .null) ↔ cell ≠ .calendar none) ∧
    (∀ n : Int, cell.Number column n →
      (n < 2 ^ 63 → ∃ k : Int64, k.toInt = n ∧ cell.value column = .ok (.int k)) ∧
      (2 ^ 63 ≤ n → cell.value column = .ok (.text n.toNat.repr))) ∧
    ∀ (other : Cell) (n m : Int), cell.Number column n → other.Number column m →
      (cell.value column = other.value column ↔ n = m) :=
  ⟨fun server => server.sendOn_parameters, fun _ h => h.value_eq, Cell.value_eq_null_iff,
    Cell.null_iff_ne_zero, fun _ h => ⟨h.value_of_lt, h.value_of_le⟩,
    fun _ _ _ hx hy => hx.value_eq_iff hy⟩

/-- Truth values echoed with a sign and without one, the greatest integer and the number behind it, a
number in bits, and the zero date. -/
theorem values_returned_greatest :
    let flag : Column := { name := "flag", type := .tiny }
    let seen : Column := { name := "seen", type := .tiny, unsigned := true }
    let count : Column := { name := "count", type := .longlong, unsigned := true }
    let mask : Column := { name := "mask", type := .bit, unsigned := true }
    let born : Column := { name := "born", type := .date }
    let greatest : Cell := .integer (2 ^ 63 - 1)
    let behind : Cell := .integer (2 ^ 63)
    (Parameter.ofValue (.bool true)).Echo flag (.integer 1) ∧
      (Cell.integer 1).value flag = .ok (.int 1) ∧
      (Parameter.ofValue (.bool false)).Echo seen (.integer 0) ∧
      (Cell.integer 0).value seen = .ok (.int 0) ∧
      greatest.Number count (2 ^ 63 - 1) ∧ behind.Number count (2 ^ 63) ∧
      (∃ k : Int64, k.toInt = 2 ^ 63 - 1 ∧ greatest.value count = .ok (.int k)) ∧
      behind.value count = .ok (.text "9223372036854775808") ∧
      greatest.value count ≠ behind.value count ∧
      (Cell.bytes [1, 0]).Number mask 256 ∧
      (∃ k : Int64, k.toInt = 256 ∧ (Cell.bytes [1, 0]).value mask = .ok (.int k)) ∧
      (Cell.calendar none).value born = .ok .null := by
  intro flag seen count mask born greatest behind
  have hflag : (Parameter.ofValue (.bool true)).Echo flag (.integer 1) := .tiny rfl
  have hseen : (Parameter.ofValue (.bool false)).Echo seen (.integer 0) := .tiny rfl
  have hgreatest : greatest.Number count (2 ^ 63 - 1) :=
    .unsigned (.inl rfl) rfl (by decide) (by decide)
  have hbehind : behind.Number count (2 ^ 63) := .unsigned (.inl rfl) rfl (by decide) (by decide)
  have hmask : (Cell.bytes [1, 0]).Number mask 256 := .bits rfl rfl (by decide)
  have hdigits : (2 ^ 63 : Int).toNat.repr = "9223372036854775808" := by decide +kernel
  obtain ⟨-, hflagged, -⟩ := values_returned flag (.integer 1)
  obtain ⟨-, hunseen, -⟩ := values_returned seen (.integer 0)
  obtain ⟨-, -, -, -, hbelow, hapart⟩ := values_returned count greatest
  obtain ⟨-, -, -, -, habove, -⟩ := values_returned count behind
  obtain ⟨-, -, -, -, hmasked, -⟩ := values_returned mask (.bytes [1, 0])
  obtain ⟨-, -, hnull, -⟩ := values_returned born (.calendar none)
  refine ⟨hflag, hflagged _ hflag, hseen, hunseen _ hseen, hgreatest, hbehind, ?_, ?_, ?_, hmask,
    ?_, hnull.mpr (.inr rfl)⟩
  · exact (hbelow _ hgreatest).1 (by decide)
  · exact hdigits ▸ (habove _ hbehind).2 (by decide)
  · exact (hapart _ _ _ hgreatest hbehind).not.mpr (by decide)
  · exact (hmasked _ hmask).1 (by decide)

/-- The zero date is no null, but is read as one. -/
theorem not_forall_null_iff :
    ¬∀ (column : Column) (cell : Cell), cell.value column = .ok .null ↔ cell = .null := by
  intro h
  have hread : (Cell.calendar none).value { name := "born", type := .date } = .ok .null := by rfl
  exact Cell.noConfusion ((h _ _).mp hread)

end Database

end TableGateway
