import Mathlib.Algebra.GroupWithZero.Nat
import TableGateway.Sql
import TableGateway.Text.Quoted

/-! # Placeholders outside of literals

A scan of SQL text from left to right in which every single quote opens or closes a literal, so a
doubled quote stays inside its literal.  `outside` keeps the characters outside of literals,
`placeholders` counts the placeholders among them.

Text without a quote leaves the scan where it was, hence counts add up behind such text
(`placeholders_append`); text without a placeholder adds nothing, wherever the scan stands
(`placeholders_append_markless`). -/

namespace TableGateway.Text

/-! ### The scan -/

/-- The characters outside of literals, in a scan that starts `inside` of one or not. -/
def outside : Bool → List Char → List Char
  | _, [] => []
  | inside, c :: rest =>
    if c = quote then outside (!inside) rest
    else if inside then outside inside rest
    else c :: outside inside rest

/-- Whether a scan ends inside of a literal. -/
def endsInside : Bool → List Char → Bool
  | inside, [] => inside
  | inside, c :: rest => endsInside (if c = quote then !inside else inside) rest

theorem outside_quote (inside : Bool) (s : List Char) :
    outside inside (quote :: s) = outside (!inside) s := by
  rw [outside, if_pos rfl]

theorem outside_cons {c : Char} (hc : c ≠ quote) (inside : Bool) (s : List Char) :
    outside inside (c :: s) = (if inside then [] else [c]) ++ outside inside s := by
  rw [outside, if_neg hc]
  cases inside <;> rfl

theorem endsInside_quote (inside : Bool) (s : List Char) :
    endsInside inside (quote :: s) = endsInside (!inside) s := by
  rw [endsInside, if_pos rfl]

theorem endsInside_cons {c : Char} (hc : c ≠ quote) (inside : Bool) (s : List Char) :
    endsInside inside (c :: s) = endsInside inside s := by
  rw [endsInside, if_neg hc]

theorem outside_append : ∀ (inside : Bool) (s t : List Char),
    outside inside (s ++ t) = outside inside s ++ outside (endsInside inside s) t
  | _, [], _ => rfl
  | inside, c :: s, t => by
      by_cases hc : c = quote
      · rw [hc, List.cons_append, outside_quote, outside_quote, endsInside_quote,
          outside_append (!inside) s t]
      · rw [List.cons_append, outside_cons hc, outside_cons hc, endsInside_cons hc,
          outside_append inside s t, List.append_assoc]

theorem endsInside_of_quoteless (inside : Bool) : ∀ {s : List Char}, quote ∉ s →
    endsInside inside s = inside
  | [], _ => rfl
  | c :: s, h => by
      have hc : c ≠ quote := fun e => h (e ▸ List.mem_cons_self)
      have hs : quote ∉ s := fun hm => h (List.mem_cons_of_mem _ hm)
      rw [endsInside_cons hc, endsInside_of_quoteless inside hs]

theorem mem_of_mem_outside {x : Char} : ∀ {inside : Bool} {s : List Char},
    x ∈ outside inside s → x ∈ s
  | _, [], h => h
  | inside, c :: s, h => by
      by_cases hc : c = quote
      · rw [hc, outside_quote] at h
        exact List.mem_cons_of_mem _ (mem_of_mem_outside h)
      · rw [outside_cons hc] at h
        rcases List.mem_append.mp h with h | h
        · cases inside with
          | true => cases h
          | false => exact List.mem_cons.mpr (.inl (List.mem_singleton.mp h))
        · exact List.mem_cons_of_mem _ (mem_of_mem_outside h)

/-! ### Texts without a character -/

/-- The character does not occur in the text. -/
def Lacks (x : Char) (s : String) : Prop := x ∉ s.toList

instance (x : Char) (s : String) : Decidable (Lacks x s) :=
  inferInstanceAs (Decidable (x ∉ s.toList))

variable {x : Char}

theorem lacks_append {s t : String} : Lacks x (s ++ t) ↔ Lacks x s ∧ Lacks x t := by
  unfold Lacks
  rw [String.toList_append, List.mem_append, not_or]

theorem commaList_cons_cons (s t : String) (rest : List String) :
    Sql.commaList (s :: t :: rest) = s ++ ", " ++ Sql.commaList (t :: rest) :=
  String.intercalate_cons_cons

theorem toList_commaList_cons_cons (s t : String) (rest : List String) :
    (Sql.commaList (s :: t :: rest)).toList =
      s.toList ++ ',' :: ' ' :: (Sql.commaList (t :: rest)).toList := by
  rw [commaList_cons_cons]
  simp

/-- A list has its parts in order, each but the first behind a comma. -/
theorem commaList_cons (s : String) : ∀ rest : List String,
    Sql.commaList (s :: rest) = s ++ String.join (rest.map (", " ++ ·))
  | [] => by
      rw [Sql.commaList, String.intercalate_singleton]
      exact String.append_empty.symm
  | t :: rest => by
      rw [commaList_cons_cons, commaList_cons t rest, List.map_cons, String.join_cons]
      simp only [String.append_assoc]

/-- A list around one of its parts. -/
theorem commaList_append_cons (s : String) (after : List String) : ∀ before : List String,
    Sql.commaList (before ++ s :: after) =
      String.join (before.map (· ++ ", ")) ++ (s ++ String.join (after.map (", " ++ ·)))
  | [] => by
      rw [List.nil_append, commaList_cons]
      exact String.empty_append.symm
  | first :: before => by
      have ih := commaList_append_cons s after before
      obtain ⟨next, rest, hnext⟩ : ∃ next rest, before ++ s :: after = next :: rest :=
        List.exists_cons_of_ne_nil (List.append_ne_nil_of_right_ne_nil _ (List.cons_ne_nil _ _))
      rw [List.cons_append, hnext, commaList_cons_cons, ← hnext, ih, List.map_cons,
        String.join_cons]
      exact String.append_assoc.symm

theorem lacks_commaList (hx : Lacks x ", ") :
    ∀ {parts : List String}, (∀ s ∈ parts, Lacks x s) → Lacks x (Sql.commaList parts)
  | [], _ => by
      rw [Sql.commaList, String.intercalate_nil]
      exact List.not_mem_nil
  | [s], h => by
      rw [Sql.commaList, String.intercalate_singleton]
      exact h s List.mem_cons_self
  | s :: t :: rest, h => by
      obtain ⟨hs, hrest⟩ := List.forall_mem_cons.mp h
      rw [commaList_cons_cons, lacks_append, lacks_append]
      exact ⟨⟨hs, hx⟩, lacks_commaList hx hrest⟩

/-! ### Counting -/

/-- The placeholder as a character. -/
def mark : Char := '?'

/-- The number of placeholders outside of literals. -/
def placeholders (sql : String) : Nat := (outside false sql.toList).count mark

theorem placeholders_of_markless {s : String} (h : Lacks mark s) : placeholders s = 0 :=
  List.count_eq_zero.mpr fun hm => h (mem_of_mem_outside hm)

/-- Behind text without a quote the scan starts anew. -/
theorem placeholders_append {s : String} (h : Lacks quote s) (t : String) :
    placeholders (s ++ t) = placeholders s + placeholders t := by
  unfold placeholders
  rw [String.toList_append, outside_append, endsInside_of_quoteless false h, List.count_append]

/-- Text without a placeholder adds none, even where the scan comes to it inside of a literal. -/
theorem placeholders_append_markless (s : String) {t : String} (h : Lacks mark t) :
    placeholders (s ++ t) = placeholders s := by
  have hzero : (outside (endsInside false s.toList) t.toList).count mark = 0 :=
    List.count_eq_zero.mpr fun hm => h (mem_of_mem_outside hm)
  unfold placeholders
  rw [String.toList_append, outside_append, List.count_append, hzero, Nat.add_zero]

/-- The placeholders of a list are those of its parts. -/
theorem placeholders_commaList : ∀ {parts : List String}, (∀ s ∈ parts, Lacks quote s) →
    placeholders (Sql.commaList parts) = (parts.map placeholders).sum
  | [], _ => by
      rw [Sql.commaList, String.intercalate_nil]
      rfl
  | [s], _ => by
      rw [Sql.commaList, String.intercalate_singleton, List.map_singleton, List.sum_singleton]
  | s :: t :: rest, h => by
      obtain ⟨hs, hrest⟩ := List.forall_mem_cons.mp h
      have hcomma : Lacks quote ", " ∧ placeholders ", " = 0 := by decide
      rw [commaList_cons_cons, String.append_assoc, placeholders_append hs,
        placeholders_append hcomma.1, hcomma.2, Nat.zero_add, placeholders_commaList hrest,
        List.map_cons, List.sum_cons]
      rfl

end TableGateway.Text
