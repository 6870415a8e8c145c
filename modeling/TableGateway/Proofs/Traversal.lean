import Mathlib.Data.List.Forall2

/-! # Traversals that stop at the first error

What a step that can fail does to a list, one element after another: either every step succeeds and
the results stand in the order of the elements (`mapM_eq_ok_iff`), or the error is that of the first
element whose step fails (`mapM_eq_error_iff`). -/

namespace TableGateway

variable {α β ε : Type} {f : α → Except ε β}

theorem mapM_cons_of_error {a : α} {e : ε} (h : f a = .error e) (as : List α) :
    (a :: as).mapM f = .error e := by
  rw [List.mapM_cons, h]
  rfl

theorem mapM_cons_of_ok {a : α} {b : β} (h : f a = .ok b) (as : List α) :
    (a :: as).mapM f = (as.mapM f).map (b :: ·) := by
  rw [List.mapM_cons, h]
  cases as.mapM f with
  | error e => rfl
  | ok bs => rfl

theorem mapM_eq_ok_iff {as : List α} {bs : List β} :
    as.mapM f = .ok bs ↔ as.map f = bs.map .ok := by
  induction as generalizing bs with
  | nil => cases bs <;> simp [pure, Except.pure]
  | cons a as ih =>
      rw [List.map_cons]
      cases h : f a with
      | error e =>
          rw [mapM_cons_of_error h]
          cases bs <;> simp
      | ok b =>
          rw [mapM_cons_of_ok h]
          cases bs with
          | nil => cases as.mapM f <;> simp [Except.map]
          | cons c cs =>
              rw [List.map_cons, List.cons.injEq, ← ih, Except.ok.injEq]
              cases as.mapM f <;> simp [Except.map]

theorem mapM_eq_ok_iff_forall₂ {as : List α} {bs : List β} :
    as.mapM f = .ok bs ↔ List.Forall₂ (fun a b => f a = .ok b) as bs := by
  rw [mapM_eq_ok_iff, ← List.forall₂_eq_eq_eq, List.forall₂_map_left_iff,
    List.forall₂_map_right_iff]

/-- Where a traversal succeeds, so do its parts. -/
theorem mapM_append_cons_eq_ok {before after : List α} {a : α} {bs : List β}
    (h : (before ++ a :: after).mapM f = .ok bs) :
    ∃ bs₁ b bs₂, bs = bs₁ ++ b :: bs₂ ∧ f a = .ok b ∧ after.mapM f = .ok bs₂ := by
  rw [mapM_eq_ok_iff, List.map_append, List.map_cons] at h
  obtain ⟨bs₁, rest, rfl, -, hrest⟩ := List.map_eq_append_iff.mp h.symm
  obtain ⟨b, bs₂, rfl, hb, hbs₂⟩ := List.map_eq_cons_iff.mp hrest
  exact ⟨bs₁, b, bs₂, rfl, hb.symm, mapM_eq_ok_iff.mpr hbs₂.symm⟩

/-- A traversal succeeds if every step does. -/
theorem exists_mapM_eq_ok_iff {as : List α} :
    (∃ bs, as.mapM f = .ok bs) ↔ ∀ a ∈ as, ∃ b, f a = .ok b := by
  induction as with
  | nil => simp [pure, Except.pure]
  | cons a as ih =>
      rw [List.forall_mem_cons, ← ih]
      cases h : f a with
      | error e => simp [mapM_cons_of_error h]
      | ok b =>
          rw [mapM_cons_of_ok h]
          cases as.mapM f <;> simp [Except.map]

theorem mapM_eq_error_iff {as : List α} {e : ε} :
    as.mapM f = .error e ↔ ∃ before a after, as = before ++ a :: after ∧
      (∀ d ∈ before, ∃ b, f d = .ok b) ∧ f a = .error e := by
  induction as with
  | nil => simp [pure, Except.pure]
  | cons a as ih =>
      cases h : f a with
      | error g =>
          rw [mapM_cons_of_error h, Except.error.injEq]
          constructor
          · rintro rfl
            exact ⟨[], a, as, rfl, List.forall_mem_nil _, h⟩
          · rintro ⟨before, d, after, hsplit, hbefore, herror⟩
            -- The first element fails, so nothing can stand before the first that fails.
            cases before with
            | nil =>
                obtain ⟨rfl, -⟩ := List.cons.inj hsplit
                rw [h] at herror
                exact Except.error.inj herror
            | cons c before =>
                obtain ⟨rfl, -⟩ := List.cons.inj hsplit
                obtain ⟨b, hok⟩ := hbefore a List.mem_cons_self
                rw [h] at hok
                cases hok
      | ok b =>
          have hrest : (a :: as).mapM f = .error e ↔ as.mapM f = .error e := by
            rw [mapM_cons_of_ok h]
            cases as.mapM f <;> simp [Except.map]
          rw [hrest, ih]
          constructor
          · rintro ⟨before, d, after, rfl, hbefore, herror⟩
            exact ⟨a :: before, d, after, rfl,
              List.forall_mem_cons.mpr ⟨⟨b, h⟩, hbefore⟩, herror⟩
          · rintro ⟨before, d, after, hsplit, hbefore, herror⟩
            cases before with
            | nil =>
                obtain ⟨rfl, -⟩ := List.cons.inj hsplit
                rw [h] at herror
                cases herror
            | cons c before =>
                obtain ⟨rfl, rfl⟩ := List.cons.inj hsplit
                exact ⟨before, d, after, rfl, (List.forall_mem_cons.mp hbefore).2, herror⟩

end TableGateway
