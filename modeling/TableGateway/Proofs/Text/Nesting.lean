import Mathlib.Data.Int.Order.Basic
import TableGateway.Proofs.Text.Outside

/-! # Literals and parentheses

A scan of SQL text from left to right that knows its place: inside of a literal or not, and in how
many parentheses.  Every single quote opens or closes a literal, so a doubled quote stays inside of
its literal, and parentheses count outside of literals alone.  `scan` is the place at the end of a
text, `behindClosing` what stands behind the first return to depth zero, and `parts` reads a list in
one pair of parentheses back into its parts.

Text is `Closed` when a scan comes out of it at the place where it went in and meets no less than
the depth it started at.  Everything below is proved along a `Walk`, the way of a scan through such
text: the functions above pass over it (`Walk.scan_eq`, `Walk.behindClosing_append`,
`Walk.pieces_append`), and a literal is closed whatever it says (`closed_quoted`). -/

namespace TableGateway.Text

/-! ### The scan -/

/-- Where a scan stands. -/
structure Place where
  /-- Whether it is inside of a literal. -/
  inside : Bool
  /-- How many parentheses are open. -/
  depth : Int
  deriving DecidableEq, Repr

/-- The place behind one more character. -/
def Place.step (p : Place) (c : Char) : Place :=
  if c = quote then { p with inside := !p.inside }
  else if p.inside then p
  else if c = '(' then { p with depth := p.depth + 1 }
  else if c = ')' then { p with depth := p.depth - 1 }
  else p

/-- The place at the end of a text. -/
def scan (p : Place) (s : List Char) : Place := s.foldl Place.step p

/-- What stands behind the character that first brings the depth to zero, if one does. -/
def behindClosing : Place → List Char → Option (List Char)
  | _, [] => none
  | p, c :: rest => if (p.step c).depth = 0 then some rest else behindClosing (p.step c) rest

/-- The text cut at the commas outside of literals and in one pair of parentheses. -/
def pieces : Place → List Char → List (List Char)
  | _, [] => [[]]
  | p, c :: rest =>
    if p = ⟨false, 1⟩ ∧ c = ',' then [] :: pieces (p.step c) rest
    else (pieces (p.step c) rest).modifyHead (c :: ·)

/-- The text without the one space in front of it, if there is one. -/
def unspaced : List Char → List Char
  | ' ' :: rest => rest
  | s => s

/-- The parts of a list that stands in one pair of parentheses, each without the space behind its
comma. -/
def parts (body : String) : List String :=
  match pieces ⟨false, 1⟩ body.toList with
  | [] => []
  | first :: rest => String.ofList first :: rest.map fun piece => String.ofList (unspaced piece)

/-- The comma inside of the literal and the one inside of the type part nothing. -/
example : parts "a ENUM('x, y''', 'z'), b DECIMAL(8, 2)" =
    ["a ENUM('x, y''', 'z')", "b DECIMAL(8, 2)"] := by decide +kernel

/-! ### Text that a scan does not look at -/

/-- The characters that can move a scan or cut a text. -/
def structural : List Char := [quote, ',', '(', ')']

/-- The text has no quote, no comma and no parenthesis. -/
def Bare (s : String) : Prop := ∀ c ∈ s.toList, c ∉ structural

instance (s : String) : Decidable (Bare s) := List.decidableBAll (· ∉ structural) s.toList

theorem bare_append {s t : String} : Bare (s ++ t) ↔ Bare s ∧ Bare t := by
  unfold Bare
  rw [String.toList_append]
  exact List.forall_mem_append

theorem not_structural_of_isDigit {c : Char} (h : c.isDigit = true) : c ∉ structural := by
  intro hc
  simp only [structural, List.mem_cons, List.not_mem_nil, or_false] at hc
  rcases hc with rfl | rfl | rfl | rfl <;> exact absurd h (by decide)

/-! ### Single steps -/

theorem step_quote (inside : Bool) (d : Int) : Place.step ⟨inside, d⟩ quote = ⟨!inside, d⟩ := by
  rw [Place.step, if_pos rfl]

/-- Inside of a literal nothing but a quote counts. -/
theorem step_inside {c : Char} (hc : c ≠ quote) (d : Int) : Place.step ⟨true, d⟩ c = ⟨true, d⟩ := by
  rw [Place.step, if_neg hc, if_pos rfl]

theorem step_of_not_structural {c : Char} (hc : c ∉ structural) (p : Place) : p.step c = p := by
  simp only [structural, List.mem_cons, List.not_mem_nil, or_false, not_or] at hc
  obtain ⟨hquote, -, hopen, hclose⟩ := hc
  rw [Place.step, if_neg hquote, if_neg hopen, if_neg hclose, ite_self]

theorem step_comma (p : Place) : p.step ',' = p := by
  have hquote : ',' ≠ quote := by decide
  have hopen : ',' ≠ '(' := by decide
  have hclose : ',' ≠ ')' := by decide
  rw [Place.step, if_neg hquote, if_neg hopen, if_neg hclose, ite_self]

theorem step_open (d : Int) : Place.step ⟨false, d⟩ '(' = ⟨false, d + 1⟩ := rfl

theorem step_close (d : Int) : Place.step ⟨false, d⟩ ')' = ⟨false, d - 1⟩ := rfl

/-! ### Walks -/

/-- The way of a scan through a text, from place to place and never below the depth `d`.  Outside of
literals and at depth `d` itself there are commas only if they are allowed. -/
inductive Walk (commas : Bool) (d : Int) : Place → List Char → Place → Prop
  | nil (p : Place) : Walk commas d p [] p
  | cons {p q : Place} {c : Char} {s : List Char} :
      d ≤ (p.step c).depth → (c = ',' → p = ⟨false, d⟩ → commas = true) →
      Walk commas d (p.step c) s q → Walk commas d p (c :: s) q

namespace Walk

variable {commas : Bool} {d : Int} {p q r : Place} {s t : List Char}

theorem append (h : Walk commas d p s q) (h' : Walk commas d q t r) :
    Walk commas d p (s ++ t) r := by
  induction h with
  | nil p => exact h'
  | cons hdepth hcomma _ ih => exact .cons hdepth hcomma (ih h')

/-- One more character, other than a comma, in front of a walk. -/
theorem cons_of_step {c : Char} (hstep : p.step c = q) (hdepth : d ≤ q.depth) (hc : c ≠ ',')
    (h : Walk commas d q s r) : Walk commas d p (c :: s) r := by
  subst hstep
  exact .cons hdepth (fun e _ => absurd e hc) h

/-- A walk without commas is one where commas are allowed. -/
theorem allow (h : Walk false d p s q) : Walk commas d p s q := by
  induction h with
  | nil p => exact .nil p
  | cons hdepth hcomma _ ih => exact .cons hdepth (fun hc hp => by cases hcomma hc hp) ih

/-- Commas that are one level deeper do not count. -/
theorem lift (h : Walk commas (d + 1) p s q) (hp : d + 1 ≤ p.depth) : Walk false d p s q := by
  induction h with
  | nil p => exact .nil p
  | @cons p q c s hdepth _ _ ih =>
      refine .cons (by omega) (fun _ heq => ?_) (ih hdepth)
      rw [heq] at hp
      have hle : d + 1 ≤ d := hp
      omega

theorem scan_eq (h : Walk commas d p s q) : scan p s = q := by
  induction h with
  | nil p => rfl
  | cons _ _ _ ih => exact ih

theorem behindClosing_append (h : Walk commas d p s q) (hd : 0 < d) (t : List Char) :
    behindClosing p (s ++ t) = behindClosing q t := by
  induction h with
  | nil p => rfl
  | @cons p q c s hdepth _ _ ih =>
      have hne : (p.step c).depth ≠ 0 := by omega
      rw [List.cons_append, behindClosing, if_neg hne, ih]

/-- Nothing is cut along a walk without commas. -/
theorem pieces_append (h : Walk false 1 p s q) (t : List Char) :
    pieces p (s ++ t) = (pieces q t).modifyHead (s ++ ·) := by
  induction h with
  | nil p =>
      have hid : ([] ++ · : List Char → List Char) = id := rfl
      rw [List.nil_append, hid, List.modifyHead_id]
      rfl
  | @cons p q c s _ hcomma _ ih =>
      have hno : ¬(p = ⟨false, 1⟩ ∧ c = ',') := fun ⟨hp, hc⟩ => by cases hcomma hc hp
      rw [List.cons_append, pieces, if_neg hno, ih, List.modifyHead_modifyHead]
      rfl

end Walk

theorem walk_bare (commas : Bool) (d : Int) : ∀ {s : List Char}, (∀ c ∈ s, c ∉ structural) →
    Walk commas d ⟨false, d⟩ s ⟨false, d⟩
  | [], _ => .nil _
  | c :: s, h => by
      obtain ⟨hc, hs⟩ := List.forall_mem_cons.mp h
      have hstep : Place.step ⟨false, d⟩ c = ⟨false, d⟩ := step_of_not_structural hc _
      have hcomma : c ≠ ',' := fun e => hc (e ▸ by decide)
      exact .cons_of_step hstep le_rfl hcomma (walk_bare commas d hs)

/-- Inside of a literal a doubled quote leads out and back in at once, and no other character leads
anywhere. -/
theorem walk_doubled (commas : Bool) (d : Int) : ∀ s : List Char,
    Walk commas d ⟨true, d⟩ (doubled s) ⟨true, d⟩
  | [] => .nil _
  | c :: s => by
      have ih := walk_doubled commas d s
      by_cases hc : c = quote
      · have hout : Place.step ⟨true, d⟩ quote = ⟨false, d⟩ := step_quote true d
        have hback : Place.step ⟨false, d⟩ quote = ⟨true, d⟩ := step_quote false d
        have hcomma : quote ≠ ',' := by decide
        rw [doubled, if_pos hc]
        exact .cons_of_step hout le_rfl hcomma (.cons_of_step hback le_rfl hcomma ih)
      · rw [doubled, if_neg hc]
        refine .cons (by rw [step_inside hc]) (fun _ hp => by cases hp) ?_
        rw [step_inside hc]
        exact ih

/-! ### Closed text -/

/-- A scan from outside of literals comes back to where it started, at whatever depth. -/
def Closed (commas : Bool) (s : String) : Prop :=
  ∀ d : Int, Walk commas d ⟨false, d⟩ s.toList ⟨false, d⟩

variable {commas : Bool}

theorem Closed.allow {s : String} (h : Closed false s) : Closed commas s := fun d => (h d).allow

theorem Closed.append {s t : String} (hs : Closed commas s) (ht : Closed commas t) :
    Closed commas (s ++ t) := by
  intro d
  rw [String.toList_append]
  exact (hs d).append (ht d)

theorem Bare.closed {s : String} (h : Bare s) : Closed commas s := fun d => walk_bare commas d h

theorem closed_separator : Closed true ", " := by
  intro d
  have hlist : ", ".toList = [',', ' '] := by simp
  have hspace : ∀ c ∈ [' '], c ∉ structural := by
    intro c hc
    rw [List.mem_singleton.mp hc]
    decide
  rw [hlist]
  refine .cons ?_ (fun _ _ => rfl) ?_
  · rw [step_comma]
  · rw [step_comma]
    exact walk_bare true d hspace

/-- Parentheses close whatever list is in them. -/
theorem Closed.enclosed {s : String} (h : Closed true s) : Closed commas ("(" ++ s ++ ")") := by
  intro d
  have hlist : ("(" ++ s ++ ")").toList = '(' :: (s.toList ++ [')']) := by simp
  have hinner : Walk false d ⟨false, d + 1⟩ s.toList ⟨false, d + 1⟩ := (h (d + 1)).lift le_rfl
  have hlast : Place.step ⟨false, d + 1⟩ ')' = ⟨false, d⟩ := by
    rw [step_close, Int.add_sub_cancel]
  have hclose : Walk false d ⟨false, d + 1⟩ [')'] ⟨false, d⟩ :=
    .cons_of_step hlast le_rfl (by decide) (.nil _)
  have hdeeper : d ≤ d + 1 := by omega
  rw [hlist]
  exact .cons_of_step (step_open d) hdeeper (by decide) (hinner.append hclose).allow

/-- A literal is closed, whatever text it stands for. -/
theorem closed_quoted (s : String) : Closed commas (quoted s) := by
  intro d
  have hopen : Place.step ⟨false, d⟩ quote = ⟨true, d⟩ := step_quote false d
  have hclose : Place.step ⟨true, d⟩ quote = ⟨false, d⟩ := step_quote true d
  have hlast : Walk commas d ⟨true, d⟩ [quote] ⟨false, d⟩ :=
    .cons_of_step hclose le_rfl (by decide) (.nil _)
  rw [quoted, String.toList_ofList]
  exact .cons_of_step hopen le_rfl (by decide) ((walk_doubled commas d s.toList).append hlast)

theorem closed_intercalate {separator : String} (hsep : Closed commas separator) :
    ∀ {parts : List String}, (∀ s ∈ parts, Closed commas s) →
      Closed commas (separator.intercalate parts)
  | [], _ => by
      rw [String.intercalate_nil]
      exact fun d => .nil _
  | [s], h => by
      rw [String.intercalate_singleton]
      exact h s List.mem_cons_self
  | s :: t :: rest, h => by
      obtain ⟨hs, hrest⟩ := List.forall_mem_cons.mp h
      rw [String.intercalate_cons_cons]
      exact (hs.append hsep).append (closed_intercalate hsep hrest)

theorem closed_commaList {parts : List String} (h : ∀ s ∈ parts, Closed true s) :
    Closed true (Sql.commaList parts) := closed_intercalate closed_separator h

/-! ### Lists in parentheses -/

/-- A list in parentheses ends where its own parenthesis closes, and outside of literals. -/
theorem scan_enclosed {s : String} (h : Closed true s) :
    scan ⟨false, 0⟩ ("(" ++ s ++ ")").toList = ⟨false, 0⟩ ∧
      behindClosing ⟨false, 0⟩ ("(" ++ s ++ ")").toList = some [] := by
  have henclosed : Closed true ("(" ++ s ++ ")") := h.enclosed
  refine ⟨(henclosed 0).scan_eq, ?_⟩
  have hlist : ("(" ++ s ++ ")").toList = '(' :: (s.toList ++ [')']) := by simp
  have hopen : Place.step ⟨false, 0⟩ '(' = ⟨false, 1⟩ := rfl
  have hclose : (Place.step ⟨false, 1⟩ ')').depth = 0 := rfl
  rw [hlist, behindClosing, hopen, if_neg (by decide), (h 1).behindClosing_append (by decide),
    behindClosing, if_pos hclose]

/-- The pieces of a list are its parts, all but the first behind a space. -/
theorem pieces_commaList : ∀ {first : String} {rest : List String},
    (∀ s ∈ first :: rest, Closed false s) →
    pieces ⟨false, 1⟩ (Sql.commaList (first :: rest)).toList =
      first.toList :: rest.map fun s => ' ' :: s.toList
  | first, [], h => by
      have hwalk := h first List.mem_cons_self 1
      have hpieces := hwalk.pieces_append []
      rw [List.append_nil] at hpieces
      rw [Sql.commaList, String.intercalate_singleton, hpieces]
      simp [pieces]
  | first, second :: rest, h => by
      obtain ⟨hfirst, hrest⟩ := List.forall_mem_cons.mp h
      have ih := pieces_commaList hrest
      have hspace : Place.step ⟨false, 1⟩ ' ' = ⟨false, 1⟩ := rfl
      have hkeep : ¬((⟨false, 1⟩ : Place) = ⟨false, 1⟩ ∧ ' ' = ',') := by decide
      rw [toList_commaList_cons_cons, (hfirst 1).pieces_append, pieces, if_pos ⟨rfl, rfl⟩,
        step_comma, pieces, if_neg hkeep, hspace, ih]
      simp

/-- A list of closed parts is read back into its parts. -/
theorem parts_commaList {list : List String} (hne : list ≠ []) (h : ∀ s ∈ list, Closed false s) :
    parts (Sql.commaList list) = list := by
  cases list with
  | nil => exact absurd rfl hne
  | cons first rest =>
      unfold parts
      rw [pieces_commaList h]
      simp [Function.comp_def, unspaced]

end TableGateway.Text
