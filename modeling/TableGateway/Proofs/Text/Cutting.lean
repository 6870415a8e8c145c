import Mathlib.Data.List.Basic
import TableGateway.Proofs.Text.Nesting

/-! # Names and cuts

A text made of names and fixed words is read from left to right: `behind?` takes an opening off,
`before?` a closing, and `cut?` parts the rest at the first place where a mark stands.  A name has
no space, no comma and no parenthesis in it, so a cut at a mark that starts with one of these never
falls into a name (`cut?_append`), whatever stands behind the mark. -/

namespace TableGateway.Text

/-! ### Names -/

/-- The characters of names: letters and digits of ASCII, and the underscore. -/
def isNameChar (c : Char) : Bool := c.isAlphanum || c == '_'

/-- The text is made of the characters of names. -/
def Named (s : String) : Prop := ∀ c ∈ s.toList, isNameChar c = true

instance (s : String) : Decidable (Named s) :=
  List.decidableBAll (isNameChar · = true) s.toList

theorem Named.lacks {s : String} {x : Char} (h : Named s) (hx : isNameChar x = false) :
    Lacks x s := by
  intro hmem
  have hname := h x hmem
  rw [hx] at hname
  cases hname

theorem Named.bare {s : String} (h : Named s) : Bare s := by
  intro c hc hstructural
  have hname := h c hc
  simp only [structural, List.mem_cons, List.not_mem_nil, or_false] at hstructural
  rcases hstructural with rfl | rfl | rfl | rfl <;> exact absurd hname (by decide)

/-- The name that a text starts with. -/
def leadingName (s : String) : String := String.ofList (s.toList.takeWhile isNameChar)

theorem leadingName_append {s t : String} {x : Char} {rest : List Char} (h : Named s)
    (ht : t.toList = x :: rest) (hx : isNameChar x = false) : leadingName (s ++ t) = s := by
  have hnone : t.toList.takeWhile isNameChar = [] := by
    rw [ht, List.takeWhile_cons_of_neg (by rw [hx]; exact Bool.false_ne_true)]
  unfold leadingName
  rw [String.toList_append, List.takeWhile_append_of_pos h, hnone, List.append_nil,
    String.ofList_toList]

/-! ### Openings and closings -/

/-- What stands behind an opening, if the text starts with it. -/
def behind? (opening s : String) : Option String :=
  (s.toList.dropPrefix? opening.toList).map String.ofList

/-- What stands before a closing, if the text ends with it. -/
def before? (closing s : String) : Option String :=
  (s.toList.dropSuffix? closing.toList).map String.ofList

theorem dropPrefix?_append (opening s : List Char) :
    (opening ++ s).dropPrefix? opening = some s :=
  List.dropPrefix?_eq_some_iff.mpr ⟨opening, rfl, beq_self_eq_true opening⟩

theorem dropPrefix?_cons_of_ne {c x : Char} (h : c ≠ x) (s mark : List Char) :
    (c :: s).dropPrefix? (x :: mark) = none := by
  simp [List.dropPrefix?, h]

theorem behind?_append (opening s : String) : behind? opening (opening ++ s) = some s := by
  unfold behind?
  rw [String.toList_append, dropPrefix?_append, Option.map_some, String.ofList_toList]

theorem behind?_eq_some_iff {opening s t : String} :
    behind? opening s = some t ↔ s = opening ++ t := by
  constructor
  · intro h
    obtain ⟨rest, hdrop, rfl⟩ := Option.map_eq_some_iff.mp h
    obtain ⟨start, hs, hstart⟩ := List.dropPrefix?_eq_some_iff.mp hdrop
    rw [beq_iff_eq] at hstart
    apply String.toList_inj.mp
    rw [hs, hstart, String.toList_append, String.toList_ofList]
  · rintro rfl
    exact behind?_append opening t

theorem before?_eq_some_iff {closing s t : String} :
    before? closing s = some t ↔ s = t ++ closing := by
  constructor
  · intro h
    obtain ⟨rest, hdrop, rfl⟩ := Option.map_eq_some_iff.mp h
    obtain ⟨stop, hs, hstop⟩ := List.dropSuffix?_eq_some_iff.mp hdrop
    rw [beq_iff_eq] at hstop
    apply String.toList_inj.mp
    rw [hs, hstop, String.toList_append, String.toList_ofList]
  · rintro rfl
    have hdrop : (t.toList ++ closing.toList).dropSuffix? closing.toList = some t.toList :=
      List.dropSuffix?_eq_some_iff.mpr ⟨closing.toList, rfl, beq_self_eq_true _⟩
    unfold before?
    rw [String.toList_append, hdrop, Option.map_some, String.ofList_toList]

/-- A text that starts with another character does not start with the opening. -/
theorem behind?_append_of_ne {opening other : String} {c x : Char} {rest rest' : List Char}
    (hopening : opening.toList = x :: rest) (hother : other.toList = c :: rest') (h : c ≠ x)
    (s : String) : behind? opening (other ++ s) = none := by
  unfold behind?
  rw [String.toList_append, hopening, hother, List.cons_append, dropPrefix?_cons_of_ne h,
    Option.map_none]

/-! ### Cuts -/

/-- The characters before and behind the first place where the mark stands. -/
def cutAt (mark : List Char) : List Char → Option (List Char × List Char)
  | [] => none
  | c :: s =>
    match (c :: s).dropPrefix? mark with
    | some after => some ([], after)
    | none => (cutAt mark s).map fun cut => (c :: cut.1, cut.2)

/-- The text before and behind the first place where the mark stands. -/
def cut? (mark s : String) : Option (String × String) :=
  (cutAt mark.toList s.toList).map fun cut => (String.ofList cut.1, String.ofList cut.2)

theorem cutAt_cons_of_none {mark s : List Char} {c : Char}
    (h : (c :: s).dropPrefix? mark = none) :
    cutAt mark (c :: s) = (cutAt mark s).map fun cut => (c :: cut.1, cut.2) := by
  rw [cutAt, h]

/-- Characters that the mark does not start with are passed over. -/
theorem cutAt_append {x : Char} {mark : List Char} (t : List Char) : ∀ {s : List Char}, x ∉ s →
    cutAt (x :: mark) (s ++ t) = (cutAt (x :: mark) t).map fun cut => (s ++ cut.1, cut.2)
  | [], _ => by
      rw [List.nil_append]
      exact (Option.map_id' ..).symm
  | c :: s, hs => by
      obtain ⟨hc, hs⟩ := List.ne_and_not_mem_of_not_mem_cons hs
      rw [List.cons_append, cutAt_cons_of_none (dropPrefix?_cons_of_ne (Ne.symm hc) _ _),
        cutAt_append t hs, Option.map_map]
      rfl

/-- Characters that start as the mark does and go on otherwise are passed over. -/
theorem cutAt_falseStart {x y z : Char} {mark s : List Char} (hne : z ≠ y) (hs : x ∉ z :: s)
    (t : List Char) :
    cutAt (x :: y :: mark) (x :: (z :: s ++ t)) =
      (cutAt (x :: y :: mark) t).map fun cut => (x :: (z :: s ++ cut.1), cut.2) := by
  have hnone : (x :: (z :: s ++ t)).dropPrefix? (x :: y :: mark) = none := by
    simp [List.dropPrefix?, hne]
  rw [cutAt_cons_of_none hnone, cutAt_append t hs, Option.map_map]
  rfl

theorem cutAt_self_append (x : Char) (mark t : List Char) :
    cutAt (x :: mark) (x :: mark ++ t) = some ([], t) := by
  have hdrop := dropPrefix?_append (x :: mark) t
  rw [List.cons_append] at hdrop ⊢
  rw [cutAt, hdrop]

variable {mark : String} {x : Char} {rest : List Char}

/-- Text without the character that the mark starts with is passed over. -/
theorem cut?_pass (hmark : mark.toList = x :: rest) {s : String} (hs : Lacks x s) (t : String) :
    cut? mark (s ++ t) = (cut? mark t).map fun cut => (s ++ cut.1, cut.2) := by
  unfold cut?
  rw [String.toList_append, hmark, cutAt_append _ hs, Option.map_map, Option.map_map]
  simp only [Function.comp_def, String.ofList_append, String.ofList_toList]

/-- Text that starts as the mark does and goes on otherwise is passed over. -/
theorem cut?_falseStart {y z : Char} {rest' : List Char} (hmark : mark.toList = x :: y :: rest)
    {s : String} (hs : s.toList = x :: z :: rest') (hne : z ≠ y) (hlacks : x ∉ z :: rest')
    (t : String) :
    cut? mark (s ++ t) = (cut? mark t).map fun cut => (s ++ cut.1, cut.2) := by
  obtain rfl : s = String.ofList (x :: z :: rest') := by rw [← hs, String.ofList_toList]
  unfold cut?
  rw [String.toList_append, String.toList_ofList, hmark, List.cons_append,
    cutAt_falseStart hne hlacks, Option.map_map, Option.map_map]
  simp only [Function.comp_def, ← List.cons_append, String.ofList_append]

theorem cut?_self_append (hmark : mark.toList = x :: rest) (t : String) :
    cut? mark (mark ++ t) = some ("", t) := by
  unfold cut?
  rw [String.toList_append, hmark, cutAt_self_append, Option.map_some, String.ofList_toList]

/-- A text without the character that the mark starts with is not cut. -/
theorem cut?_eq_none (hmark : mark.toList = x :: rest) {s : String} (hs : Lacks x s) :
    cut? mark s = none := by
  have hempty : cut? mark "" = none := rfl
  rw [← String.append_empty (s := s), cut?_pass hmark hs, hempty, Option.map_none]

/-- A text is cut at a mark when what stands before has no character that the mark starts with. -/
theorem cut?_append (hmark : mark.toList = x :: rest) {s : String} (hs : Lacks x s) (t : String) :
    cut? mark (s ++ (mark ++ t)) = some (s, t) := by
  rw [cut?_pass hmark hs, cut?_self_append hmark, Option.map_some, String.append_empty]

end TableGateway.Text
