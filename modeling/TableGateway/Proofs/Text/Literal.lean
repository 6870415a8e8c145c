import TableGateway.Proofs.Text.Cutting

/-! # Reading literals

How a literal is read.  Inside of it two quotes stand for one and a lone quote ends it; and where
escapes are on, as MySQL has them unless told otherwise, a backslash makes one escape with the
character behind it (`inside?`, `literal?`).

Without escapes the literal of a text is what is read as that text, and nothing else is
(`literal?_false_iff`), hence a list of literals is read back into its values, whatever commas,
quotes and parentheses are in them (`values?_iff`).

With escapes the literal of a text is read as that text if and only if the text is `Kept`, each
backslash of it being directly before `%` or `_` (`literal?_quoted_iff`).  If it is not, some
backslash is lost: reading never yields more backslashes than there were
(`count_backslash_of_inside?`). -/

namespace TableGateway.Text

/-! ### Readers -/

/-- The backslash. -/
def backslash : Char := '\\'

/-- What a backslash stands for together with the character behind it. -/
def escaped : Char → List Char
  | '0' => ['\x00']
  | 'b' => ['\x08']
  | 'n' => ['\n']
  | 'r' => ['\r']
  | 't' => ['\t']
  | 'Z' => ['\x1a']
  | '%' => [backslash, '%']
  | '_' => [backslash, '_']
  | c => [c]

/-- What a literal says, from behind its opening quote, and what stands behind its closing one. -/
def inside? (escapes : Bool) : List Char → Option (List Char × List Char)
  | [] => none
  | [c] => if c = quote then some ([], []) else none
  | c :: d :: rest =>
    if c = quote then
      if d = quote then (inside? escapes rest).map fun read => (quote :: read.1, read.2)
      else some ([], d :: rest)
    else if escapes = true ∧ c = backslash then
      (inside? escapes rest).map fun read => (escaped d ++ read.1, read.2)
    else (inside? escapes (d :: rest)).map fun read => (c :: read.1, read.2)

/-- What the literal at the start of a text says, and what stands behind it. -/
def literal? (escapes : Bool) : List Char → Option (String × List Char)
  | [] => none
  | c :: rest =>
    if c = quote then (inside? escapes rest).map fun read => (String.ofList read.1, read.2)
    else none

/-! ### Single steps -/

section steps
variable {escapes : Bool} {rest : List Char}

theorem inside?_closing (h : rest.head? ≠ some quote) :
    inside? escapes (quote :: rest) = some ([], rest) := by
  cases rest with
  | nil => rw [inside?, if_pos rfl]
  | cons d rest =>
      have hd : d ≠ quote := fun e => h (e ▸ List.head?_cons)
      rw [inside?, if_pos rfl, if_neg hd]

theorem inside?_quote_quote :
    inside? escapes (quote :: quote :: rest) =
      (inside? escapes rest).map fun read => (quote :: read.1, read.2) := by
  rw [inside?, if_pos rfl, if_pos rfl]

theorem inside?_backslash (d : Char) :
    inside? true (backslash :: d :: rest) =
      (inside? true rest).map fun read => (escaped d ++ read.1, read.2) := by
  rw [inside?, if_neg (by decide), if_pos ⟨rfl, rfl⟩]

theorem inside?_cons {c : Char} (hquote : c ≠ quote)
    (hescape : ¬(escapes = true ∧ c = backslash)) :
    inside? escapes (c :: rest) = (inside? escapes rest).map fun read => (c :: read.1, read.2) := by
  cases rest with
  | nil => simp [inside?, hquote]
  | cons d rest => rw [inside?, if_neg hquote, if_neg hescape]

/-- One character of the text is read back from inside of its literal, a quote like any other. -/
theorem inside?_doubled_cons {c : Char} (hescape : ¬(escapes = true ∧ c = backslash))
    (s t : List Char) :
    inside? escapes (doubled (c :: s) ++ t) =
      (inside? escapes (doubled s ++ t)).map fun read => (c :: read.1, read.2) := by
  by_cases hc : c = quote
  · rw [doubled, if_pos hc, hc]
    exact inside?_quote_quote
  · rw [doubled, if_neg hc]
    exact inside?_cons hc hescape

theorem literal?_quote (t : List Char) :
    literal? escapes (quote :: t) =
      (inside? escapes t).map fun read => (String.ofList read.1, read.2) := by
  rw [literal?, if_pos rfl]

theorem quoted_toList_append (s : String) (t : List Char) :
    (quoted s).toList ++ t = quote :: (doubled s.toList ++ quote :: t) := by
  rw [quoted, String.toList_ofList, List.cons_append, List.append_assoc, List.singleton_append]

/-- A text is read from its literal exactly if its characters are read from inside of it. -/
theorem literal?_quoted_append (s : String) :
    literal? escapes ((quoted s).toList ++ rest) = some (s, rest) ↔
      inside? escapes (doubled s.toList ++ quote :: rest) = some (s.toList, rest) := by
  rw [quoted_toList_append, literal?_quote]
  constructor
  · intro h
    obtain ⟨⟨w, t⟩, hread, heq⟩ := Option.map_eq_some_iff.mp h
    obtain ⟨rfl, rfl⟩ := Prod.mk.injEq .. ▸ heq
    rw [hread, String.toList_ofList]
  · intro h
    rw [h, Option.map_some, String.ofList_toList]

end steps

/-! ### Without escapes -/

theorem inside?_false_doubled {rest : List Char} (h : rest.head? ≠ some quote) :
    ∀ s : List Char, inside? false (doubled s ++ quote :: rest) = some (s, rest)
  | [] => inside?_closing h
  | c :: s => by
      have hescape : ¬(false = true ∧ c = backslash) := fun e => Bool.false_ne_true e.1
      rw [inside?_doubled_cons hescape, inside?_false_doubled h s]
      rfl

/-- What is read without escapes had its quotes doubled. -/
theorem doubled_of_inside? {t s rest : List Char} (h : inside? false t = some (s, rest)) :
    t = doubled s ++ quote :: rest ∧ rest.head? ≠ some quote := by
  fun_induction inside? false t generalizing s with
  | case1 => cases h
  | case2 =>
      cases h
      exact ⟨rfl, Option.some_ne_none _ |>.symm⟩
  | case3 => cases h
  | case4 rest ih =>
      obtain ⟨⟨s', rest'⟩, hread, heq⟩ := Option.map_eq_some_iff.mp h
      cases heq
      obtain ⟨rfl, hrest⟩ := ih hread
      exact ⟨by rw [doubled, if_pos rfl]; rfl, hrest⟩
  | case5 d rest hd =>
      cases h
      exact ⟨rfl, fun e => hd (Option.some.inj e)⟩
  | case6 c d rest hc hescape ih => cases hescape.1
  | case7 c d rest hc hescape ih =>
      obtain ⟨⟨s', rest'⟩, hread, heq⟩ := Option.map_eq_some_iff.mp h
      cases heq
      obtain ⟨htext, hrest⟩ := ih hread
      exact ⟨by rw [htext, doubled, if_neg hc]; rfl, hrest⟩

/-- Without escapes a text starts with a literal exactly if that is the literal of what is read. -/
theorem literal?_false_iff {t rest : List Char} {s : String} :
    literal? false t = some (s, rest) ↔
      t = (quoted s).toList ++ rest ∧ rest.head? ≠ some quote := by
  constructor
  · intro h
    cases t with
    | nil => cases h
    | cons c t =>
        by_cases hc : c = quote
        · rw [hc, literal?_quote] at h
          obtain ⟨⟨w, rest'⟩, hread, heq⟩ := Option.map_eq_some_iff.mp h
          cases heq
          obtain ⟨rfl, hrest⟩ := doubled_of_inside? hread
          exact ⟨by rw [quoted_toList_append, String.toList_ofList, hc], hrest⟩
        · rw [literal?, if_neg hc] at h
          cases h
  · rintro ⟨rfl, hrest⟩
    exact (literal?_quoted_append s).mpr (inside?_false_doubled hrest s.toList)

/-! ### Lists of literals -/

theorem length_of_literal? {t rest : List Char} {s : String}
    (h : literal? false t = some (s, rest)) : rest.length < t.length := by
  rw [(literal?_false_iff.mp h).1, quoted_toList_append]
  simp only [List.length_cons, List.length_append]
  omega

/-- What the literals of a text say that is one or more of them, parted by commas and spaces. -/
def literals? (t : List Char) : Option (List String) :=
  match _h : literal? false t with
  | some (s, []) => some [s]
  | some (s, ',' :: ' ' :: rest) => (literals? rest).map (s :: ·)
  | _ => none
termination_by t.length
decreasing_by
  have hlength := length_of_literal? _h
  simp only [List.length_cons] at hlength
  omega

/-- What the literals of a list say.  The empty text is the list of none. -/
def values? (list : String) : Option (List String) :=
  if list = "" then some [] else literals? list.toList

theorem literals?_last {t : List Char} {s : String} (h : literal? false t = some (s, [])) :
    literals? t = some [s] := by
  rw [literals?, h]

theorem literals?_cons {t rest : List Char} {s : String}
    (h : literal? false t = some (s, ',' :: ' ' :: rest)) :
    literals? t = (literals? rest).map (s :: ·) := by
  rw [literals?, h]
  rfl

theorem literals?_quoted : ∀ (s : String) (rest : List String),
    literals? (Sql.commaList ((s :: rest).map quoted)).toList = some (s :: rest)
  | s, [] => by
      have hread : literal? false ((quoted s).toList ++ []) = some (s, []) :=
        literal?_false_iff.mpr ⟨rfl, (Option.some_ne_none _).symm⟩
      rw [List.append_nil] at hread
      rw [List.map_singleton, Sql.commaList, String.intercalate_singleton, literals?_last hread]
  | s, next :: rest => by
      have hread (t : List Char) :
          literal? false ((quoted s).toList ++ ',' :: t) = some (s, ',' :: t) :=
        literal?_false_iff.mpr ⟨rfl, by simp [quote]⟩
      have ih := literals?_quoted next rest
      rw [List.map_cons] at ih
      rw [List.map_cons, List.map_cons, toList_commaList_cons_cons, literals?_cons (hread _), ih]
      rfl

theorem commaList_of_literals? {t : List Char} {values : List String}
    (h : literals? t = some values) :
    values ≠ [] ∧ t = (Sql.commaList (values.map quoted)).toList := by
  fun_induction literals? t generalizing values with
  | case1 t s hread =>
      cases h
      rw [(literal?_false_iff.mp hread).1, List.append_nil, List.map_singleton, Sql.commaList,
        String.intercalate_singleton]
      exact ⟨List.cons_ne_nil _ _, rfl⟩
  | case2 t s rest hread ih =>
      obtain ⟨values, hrest, rfl⟩ := Option.map_eq_some_iff.mp h
      obtain ⟨hne, rfl⟩ := ih hrest
      obtain ⟨next, values, rfl⟩ := List.exists_cons_of_ne_nil hne
      rw [(literal?_false_iff.mp hread).1]
      exact ⟨List.cons_ne_nil _ _, (toList_commaList_cons_cons _ _ _).symm⟩
  | case3 => cases h

/-- A list of literals is read back into its values, and no other text is read as them. -/
theorem values?_iff {list : String} {values : List String} :
    values? list = some values ↔ list = Sql.commaList (values.map quoted) := by
  have hempty : Sql.commaList (([] : List String).map quoted) = "" := String.intercalate_nil
  unfold values?
  split
  case isTrue h =>
    rw [h, Option.some.injEq]
    constructor
    · rintro rfl
      exact hempty.symm
    · intro hlist
      cases values with
      | nil => rfl
      | cons s rest =>
          have hread := literals?_quoted s rest
          rw [← hlist, literals?] at hread
          cases hread
  case isFalse h =>
    constructor
    · intro hread
      exact String.toList_inj.mp (commaList_of_literals? hread).2
    · rintro rfl
      cases values with
      | nil => exact absurd hempty h
      | cons s rest => exact literals?_quoted s rest

/-- No value is not the empty value, and what stands in a value parts nothing. -/
example : values? "" = some [] ∧ values? "''" = some [""] ∧
    values? "'a'', '')', 'b'" = some ["a', ')", "b"] := by
  decide +kernel

/-! ### With escapes -/

/-- Each backslash of the text stands directly before `%` or `_`. -/
def Kept : List Char → Prop
  | [] => True
  | c :: s => (c = backslash → s.head? = some '%' ∨ s.head? = some '_') ∧ Kept s

theorem kept_of_not_mem : ∀ {s : List Char}, backslash ∉ s → Kept s
  | [], _ => trivial
  | _ :: _, h =>
      have ⟨hc, hs⟩ := List.ne_and_not_mem_of_not_mem_cons h
      ⟨fun e => absurd e.symm hc, kept_of_not_mem hs⟩

/-- With the characters of an escape no backslash is gained. -/
theorem count_escaped_le (d : Char) :
    (escaped d).count backslash ≤ [backslash, d].count backslash := by
  unfold escaped
  split <;> simp [backslash]

/-- What is read has no more backslashes in it than the text it is read from. -/
theorem count_backslash_of_inside? {t w rest : List Char} (h : inside? true t = some (w, rest)) :
    (w ++ rest).count backslash ≤ t.count backslash := by
  fun_induction inside? true t generalizing w with
  | case1 => cases h
  | case2 =>
      cases h
      exact Nat.zero_le _
  | case3 => cases h
  | case4 t ih =>
      obtain ⟨⟨w, rest⟩, hread, heq⟩ := Option.map_eq_some_iff.mp h
      cases heq
      have hle := ih hread
      simp only [List.cons_append, List.count_cons] at hle ⊢
      omega
  | case5 d t hd =>
      cases h
      exact List.count_le_count_cons
  | case6 c d t hc hescape ih =>
      obtain ⟨⟨w, rest⟩, hread, heq⟩ := Option.map_eq_some_iff.mp h
      cases heq
      have hle := Nat.add_le_add (count_escaped_le d) (ih hread)
      rw [← List.count_append, ← List.count_append, ← List.append_assoc] at hle
      rw [hescape.2]
      exact hle
  | case7 c d t hc hescape ih =>
      obtain ⟨⟨w, rest⟩, hread, heq⟩ := Option.map_eq_some_iff.mp h
      cases heq
      rw [List.cons_append, List.count_cons, List.count_cons]
      exact Nat.add_le_add_right (ih hread) _

/-- An escape that keeps its backslash is one of two, where no backslash is gained behind it. -/
theorem escaped_append_eq_iff {d : Char} {w s : List Char}
    (h : w.count backslash ≤ s.count backslash) :
    escaped d ++ w = backslash :: d :: s ↔ (d = '%' ∨ d = '_') ∧ w = s := by
  constructor
  · intro heq
    unfold escaped at heq
    split at heq
    case h_7 => exact ⟨.inl rfl, (List.cons.inj (List.cons.inj heq).2).2⟩
    case h_8 => exact ⟨.inr rfl, (List.cons.inj (List.cons.inj heq).2).2⟩
    case h_9 =>
      -- the escape of a backslash, and so `w` would have one more of them than `s`
      obtain ⟨rfl, rfl⟩ := List.cons.inj heq
      rw [List.count_cons_self] at h
      omega
    all_goals exact absurd (List.cons.inj heq).1 (by decide)
  · rintro ⟨rfl | rfl, rfl⟩ <;> rfl

variable {rest : List Char}

theorem kept_cons {c : Char} (hc : c ≠ backslash) (s : List Char) : Kept (c :: s) ↔ Kept s :=
  ⟨And.right, fun h => ⟨fun e => absurd e hc, h⟩⟩

theorem kept_backslash_cons (d : Char) (s : List Char) :
    Kept (backslash :: d :: s) ↔ (d = '%' ∨ d = '_') ∧ Kept s := by
  have hhead : (d :: s).head? = some '%' ∨ (d :: s).head? = some '_' ↔ d = '%' ∨ d = '_' := by
    simp
  have hkept : d = '%' ∨ d = '_' → (Kept (d :: s) ↔ Kept s) := by
    rintro (rfl | rfl) <;> exact kept_cons (by decide) s
  constructor
  · rintro ⟨hnext, hs⟩
    have hd := hhead.mp (hnext rfl)
    exact ⟨hd, (hkept hd).mp hs⟩
  · rintro ⟨hd, hs⟩
    exact ⟨fun _ => hhead.mpr hd, (hkept hd).mpr hs⟩

/-- A backslash in front of a quote is lost. -/
theorem inside?_backslash_quote_ne (t s : List Char) :
    inside? true (backslash :: quote :: t) ≠ some (backslash :: s, rest) := by
  intro h
  rw [inside?_backslash] at h
  obtain ⟨read, -, heq⟩ := Option.map_eq_some_iff.mp h
  cases (Prod.mk.inj heq).1

/-- Of a backslash and another character than a quote both are read back from two escapes alone. -/
theorem inside?_backslash_iff {d : Char} (hd : d ≠ quote) (s : List Char) :
    inside? true (doubled (backslash :: d :: s) ++ quote :: rest) =
        some (backslash :: d :: s, rest) ↔
      (d = '%' ∨ d = '_') ∧ inside? true (doubled s ++ quote :: rest) = some (s, rest) := by
  have hbackslash : backslash ≠ quote := by decide
  have htext : doubled (backslash :: d :: s) ++ quote :: rest =
      backslash :: d :: (doubled s ++ quote :: rest) := by
    rw [doubled, if_neg hbackslash, doubled, if_neg hd]
    rfl
  rw [htext, inside?_backslash]
  constructor
  · intro h
    obtain ⟨⟨w, rest'⟩, hread, heq⟩ := Option.map_eq_some_iff.mp h
    obtain ⟨hw, rfl⟩ := Prod.mk.inj heq
    have hcount := count_backslash_of_inside? hread
    have hquote : quote ≠ backslash := by decide
    rw [List.count_append, List.count_append, count_doubled, if_neg hbackslash, Nat.one_mul,
      List.count_cons_of_ne hquote] at hcount
    obtain ⟨hescape, rfl⟩ := (escaped_append_eq_iff (Nat.le_of_add_le_add_right hcount)).mp hw
    exact ⟨hescape, hread⟩
  · rintro ⟨hescape, hread⟩
    rw [hread, Option.map_some, (escaped_append_eq_iff (Nat.le_refl _)).mpr ⟨hescape, rfl⟩]

theorem inside?_doubled_iff (h : rest.head? ≠ some quote) : ∀ s : List Char,
    inside? true (doubled s ++ quote :: rest) = some (s, rest) ↔ Kept s
  | [] => iff_of_true (inside?_closing h) trivial
  | c :: s => by
      by_cases hc : c = backslash
      · subst hc
        cases s with
        | nil =>
            have hkept : ¬Kept [backslash] := fun hkept => by simpa using hkept.1 rfl
            exact iff_of_false (inside?_backslash_quote_ne rest []) hkept
        | cons d s =>
            rw [kept_backslash_cons]
            by_cases hd : d = quote
            · subst hd
              have hkept : ¬((quote = '%' ∨ quote = '_') ∧ Kept s) := fun hkept =>
                absurd hkept.1 (by decide)
              exact iff_of_false (inside?_backslash_quote_ne _ _) hkept
            · rw [inside?_backslash_iff hd, inside?_doubled_iff h s]
      · have hcons : Function.Injective fun read : List Char × List Char =>
            (c :: read.1, read.2) := by
          rintro ⟨w, t⟩ ⟨w', t'⟩ heq
          cases heq
          rfl
        rw [kept_cons hc, ← inside?_doubled_iff h s, inside?_doubled_cons (fun e => hc e.2)]
        exact (Option.map_injective hcons).eq_iff (b := some (s, rest))

/-- With escapes a text is read back from its literal exactly if its backslashes are kept. -/
theorem literal?_quoted_iff {s : String} (h : rest.head? ≠ some quote) :
    literal? true ((quoted s).toList ++ rest) = some (s, rest) ↔ Kept s.toList := by
  rw [literal?_quoted_append, inside?_doubled_iff h]

end TableGateway.Text
