import Mathlib.Data.List.Basic
import TableGateway.Inflection.Language

/-! # Where rules fit

A rule fits a word behind a stem if one of its endings is all that follows there (`Rule.FitsAt`).
`Inflects` says with no more than that what a table makes of a word: the first rule that fits
anywhere has its earliest place rewritten, and what stands in front of that place stays as it is.
`inflect` does just this (`inflects_inflect`), since a rule rewrites a word exactly if it fits
(`Rule.rewrite?_eq_none_iff`), and then at the earliest place (`Rule.exists_earliest`).

A rule whose endings all close with endings of an earlier rule is never reached, and the table does
the same without it (`inflect_of_shadowed`). -/

namespace TableGateway.Inflection

open Letter

theorem Letter.acceptsAll_append : ∀ {first second : List Letter} {text : List Char},
    acceptsAll (first ++ second) text = true →
      acceptsAll first (text.take first.length) = true ∧
        acceptsAll second (text.drop first.length) = true
  | [], _, _, h => ⟨rfl, h⟩
  | _ :: _, _, [], h => by simp [acceptsAll] at h
  | letter :: first, second, c :: text, h => by
      simp only [List.cons_append, acceptsAll, Bool.and_eq_true] at h
      obtain ⟨htake, hdrop⟩ := acceptsAll_append h.2
      simp only [List.length_cons, List.take_succ_cons, List.drop_succ_cons, acceptsAll,
        Bool.and_eq_true]
      exact ⟨⟨h.1, htake⟩, hdrop⟩

namespace Rule

variable {r : Rule} {stem rest word : List Char}

/-- What follows the stem is one of the rule's endings; a rule for whole words allows no stem. -/
def FitsAt (r : Rule) (stem rest : List Char) : Prop :=
  (r.whole = true → stem = []) ∧ ∃ e ∈ r.endings, acceptsAll (e.keep ++ e.drop) rest = true

/-- The rule fits the word at some place. -/
def Fits (r : Rule) (word : List Char) : Prop :=
  ∃ stem rest, word = stem ++ rest ∧ r.FitsAt stem rest

/-- The rule fits behind the stem, and no place where it fits comes earlier. -/
def Earliest (r : Rule) (stem rest : List Char) : Prop :=
  r.FitsAt stem rest ∧
    ∀ front back, front ++ back = stem ++ rest → r.FitsAt front back → stem <+: front

/-! ### One place -/

theorem rewriteHere?_eq_none_iff :
    r.rewriteHere? rest = none ↔ ∀ e ∈ r.endings, ¬acceptsAll (e.keep ++ e.drop) rest = true := by
  rw [rewriteHere?, List.findSome?_eq_none_iff]
  simp [Ending.rewrite?]

theorem not_fitsAt_nil_iff : ¬r.FitsAt [] rest ↔ r.rewriteHere? rest = none := by
  rw [rewriteHere?_eq_none_iff]
  simp [FitsAt]

/-- Where a rule rewrites, there is an ending in two parts, and the second gives way to the
suffix. -/
theorem exists_of_rewriteHere? {new : List Char} (h : r.rewriteHere? rest = some new) :
    ∃ e ∈ r.endings, ∃ kept dropped, rest = kept ++ dropped ∧ new = kept ++ r.suffix.toList ∧
      acceptsAll e.keep kept = true ∧ acceptsAll e.drop dropped = true := by
  obtain ⟨e, he, hrewrite⟩ := List.exists_of_findSome?_eq_some h
  unfold Ending.rewrite? at hrewrite
  split at hrewrite
  · rename_i hmeets
    obtain ⟨hkept, hdropped⟩ := acceptsAll_append hmeets
    obtain rfl := Option.some.inj hrewrite
    exact ⟨e, he, _, _, (List.take_append_drop _ _).symm, rfl, hkept, hdropped⟩
  · cases hrewrite

/-! ### All places of a word -/

theorem fits_nil_iff : r.Fits [] ↔ r.FitsAt [] [] := by
  constructor
  · rintro ⟨stem, rest, h, hfits⟩
    obtain ⟨rfl, rfl⟩ := List.append_eq_nil_iff.mp h.symm
    exact hfits
  · exact fun hfits => ⟨[], [], rfl, hfits⟩

theorem fits_cons_iff {c : Char} :
    r.Fits (c :: word) ↔ r.FitsAt [] (c :: word) ∨ ¬r.whole = true ∧ r.Fits word := by
  constructor
  · rintro ⟨stem, rest, h, hwhole, hmeets⟩
    cases stem with
    | nil =>
        obtain rfl : c :: word = rest := h
        exact .inl ⟨hwhole, hmeets⟩
    | cons d stem =>
        obtain ⟨rfl, rfl⟩ := List.cons.inj h
        have hpart : ¬r.whole = true := fun h => List.cons_ne_nil _ _ (hwhole h)
        exact .inr ⟨hpart, stem, rest, rfl, fun h => absurd h hpart, hmeets⟩
  · rintro (hfits | ⟨hpart, stem, rest, rfl, -, hmeets⟩)
    · exact ⟨[], c :: word, rfl, hfits⟩
    · exact ⟨c :: stem, rest, rfl, fun h => absurd h hpart, hmeets⟩

theorem rewrite?_eq_none_iff : r.rewrite? word = none ↔ ¬r.Fits word := by
  induction word with
  | nil => rw [fits_nil_iff, not_fitsAt_nil_iff, rewrite?]
  | cons c word ih =>
      rw [fits_cons_iff, not_or, not_fitsAt_nil_iff, rewrite?]
      cases r.rewriteHere? (c :: word) with
      | some new => simp
      | none => cases r.whole <;> simp [ih]

/-- The rule fits where it rewrites at once, and no place is earlier. -/
theorem earliest_nil {new : List Char} (h : r.rewriteHere? rest = some new) :
    r.Earliest [] rest := by
  have hfits : r.FitsAt [] rest := by
    by_contra hmiss
    rw [not_fitsAt_nil_iff.mp hmiss] at h
    cases h
  exact ⟨hfits, fun _ _ _ _ => List.nil_prefix⟩

/-- Where the rule does not fit the whole word, its earliest place is that in the rest. -/
theorem Earliest.cons {c : Char} (h : r.Earliest stem rest) (hpart : ¬r.whole = true)
    (hmiss : r.rewriteHere? (c :: (stem ++ rest)) = none) : r.Earliest (c :: stem) rest := by
  obtain ⟨⟨-, hmeets⟩, hearliest⟩ := h
  refine ⟨⟨fun h => absurd h hpart, hmeets⟩, fun front back hsplit hback => ?_⟩
  cases front with
  | nil =>
      -- An empty front would have the rule fit the whole word.
      obtain rfl : back = c :: (stem ++ rest) := hsplit
      exact absurd hback (not_fitsAt_nil_iff.mpr hmiss)
  | cons d front =>
      obtain ⟨rfl, htail⟩ := List.cons.inj hsplit
      have hprefix : stem <+: front :=
        hearliest front back htail ⟨fun h => absurd h hpart, hback.2⟩
      exact List.cons_prefix_cons.mpr ⟨rfl, hprefix⟩

/-- A rule rewrites a word at the earliest place where it fits. -/
theorem exists_earliest : ∀ {word out : List Char}, r.rewrite? word = some out →
    ∃ stem rest new, word = stem ++ rest ∧ out = stem ++ new ∧ r.Earliest stem rest ∧
      r.rewriteHere? rest = some new
  | [], out, h => ⟨[], [], out, rfl, rfl, earliest_nil h, h⟩
  | c :: word, out, h => by
      rw [rewrite?] at h
      cases hhere : r.rewriteHere? (c :: word) with
      | some new =>
          rw [hhere] at h
          obtain rfl := Option.some.inj h
          exact ⟨[], c :: word, new, rfl, rfl, earliest_nil hhere, hhere⟩
      | none =>
          simp only [hhere] at h
          split at h
          · cases h
          · rename_i hpart
            obtain ⟨rewritten, hrewrite, rfl⟩ := Option.map_eq_some_iff.mp h
            obtain ⟨stem, rest, new, rfl, rfl, hearliest, hnew⟩ := exists_earliest hrewrite
            exact ⟨c :: stem, rest, new, rfl, rfl, hearliest.cons hpart hhere, hnew⟩

end Rule

/-! ### What a table makes of a word -/

/-- A word and what a table makes of it. -/
inductive Inflects (rules : List Rule) : List Char → List Char → Prop
  /-- No rule fits. -/
  | unchanged {word : List Char} : (∀ r ∈ rules, ¬r.Fits word) → Inflects rules word word
  /-- No rule in front of this one fits, and it fits first behind the stem.  The stem stays, and of
  the ending the part that the rule keeps. -/
  | rewritten {before after : List Rule} {r : Rule} {e : Ending} {stem kept dropped : List Char} :
      rules = before ++ r :: after → (∀ q ∈ before, ¬q.Fits (stem ++ (kept ++ dropped))) →
      r.Earliest stem (kept ++ dropped) → e ∈ r.endings →
      acceptsAll e.keep kept = true → acceptsAll e.drop dropped = true →
      Inflects rules (stem ++ (kept ++ dropped)) (stem ++ (kept ++ r.suffix.toList))

theorem inflects_inflect (rules : List Rule) (word : List Char) :
    Inflects rules word (inflect rules word) := by
  unfold inflect
  cases h : rules.findSome? fun r => r.rewrite? word with
  | none =>
      have hnone := List.findSome?_eq_none_iff.mp h
      exact .unchanged fun r hr => Rule.rewrite?_eq_none_iff.mp (hnone r hr)
  | some out =>
      obtain ⟨before, r, after, hrules, hrewrite, hbefore⟩ := List.findSome?_eq_some_iff.mp h
      obtain ⟨stem, rest, new, rfl, rfl, hearliest, hnew⟩ := Rule.exists_earliest hrewrite
      obtain ⟨e, he, kept, dropped, rfl, rfl, hkept, hdropped⟩ := Rule.exists_of_rewriteHere? hnew
      exact .rewritten hrules (fun q hq => Rule.rewrite?_eq_none_iff.mp (hbefore q hq)) hearliest he
        hkept hdropped

/-! ### Rules that are never reached -/

/-- Whatever the second rule fits closes with an ending of the first. -/
def Rule.Shadows (first second : Rule) : Prop :=
  first.whole = false ∧
    ∀ e ∈ second.endings, ∃ d ∈ first.endings, d.keep ++ d.drop <:+ e.keep ++ e.drop

instance (first second : Rule) : Decidable (first.Shadows second) :=
  inferInstanceAs (Decidable (_ ∧ ∀ e ∈ _, _))

theorem Rule.Shadows.fits {first second : Rule} (h : first.Shadows second) {word : List Char}
    (hfits : second.Fits word) : first.Fits word := by
  obtain ⟨hwhole, htails⟩ := h
  obtain ⟨stem, rest, rfl, -, e, he, hmeets⟩ := hfits
  obtain ⟨d, hd, front, htail⟩ := htails e he
  rw [← htail] at hmeets
  refine ⟨stem ++ rest.take front.length, rest.drop front.length, ?_, ?_, d, hd,
    (acceptsAll_append hmeets).2⟩
  · rw [List.append_assoc, List.take_append_drop]
  · simp [hwhole]

/-- A rule behind one that shadows it may as well not be there. -/
theorem inflect_of_shadowed {before after : List Rule} {first second : Rule}
    (hfirst : first ∈ before) (hshadows : first.Shadows second) (word : List Char) :
    inflect (before ++ second :: after) word = inflect (before ++ after) word := by
  unfold inflect
  rw [List.findSome?_append, List.findSome?_append, List.findSome?_cons]
  cases h : before.findSome? fun r => r.rewrite? word with
  | some out => rfl
  | none =>
      have hnone : first.rewrite? word = none := List.findSome?_eq_none_iff.mp h first hfirst
      have hsecond : second.rewrite? word = none :=
        Rule.rewrite?_eq_none_iff.mpr fun hfits =>
          Rule.rewrite?_eq_none_iff.mp hnone (hshadows.fits hfits)
      rw [hsecond]

end TableGateway.Inflection
