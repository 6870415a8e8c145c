import TableGateway.Proofs.Inflection.Match

/-! # What rules make of endings

Over an alphabet, a rule of inflection makes finitely many `Change`s, each of one ending to another,
and whatever a rule does to a word is one of them behind a stem (`Rule.exists_change`).

A table looks at what stands in front of an ending only where it has longer endings, and `contexts`
are what those ask for there: behind any other stem, inflection stays within the ending
(`inflect_append_of_contexts`).  So finite checks settle which words one table brings back from
another.  `Undoes` is the check that every change is undone in words that have none of some barred
endings, and such words come back (`inflect_inflect`); `Loses` is the check that an ending becomes
another behind any stem (`inflect_inflect_append`).  Together they say just which words come back
(`inflect_inflect_iff`). -/

namespace TableGateway.Inflection

open Letter

/-- The word has the given ending. -/
def EndsIn (ending word : String) : Prop := ∃ stem, word = stem ++ ending

theorem endsIn_iff {ending word : String} : EndsIn ending word ↔ ending.toList <:+ word.toList := by
  constructor
  · rintro ⟨stem, rfl⟩
    rw [String.toList_append]
    exact List.suffix_append _ _
  · rintro ⟨stem, h⟩
    refine ⟨String.ofList stem, String.toList_inj.mp ?_⟩
    rw [String.toList_append, String.toList_ofList, h]

instance (ending word : String) : Decidable (EndsIn ending word) :=
  decidable_of_iff _ endsIn_iff.symm

/-! ### Texts over an alphabet -/

/-- The text has no letters but those of the alphabet. -/
def Over (letters text : List Char) : Prop := ∀ c ∈ text, c ∈ letters

-- The instance is named, since deciding this for every character there is takes too long.
instance (letters text : List Char) : Decidable (Over letters text) := List.decidableBAll _ text

variable {letters : List Char}

theorem over_append {first second : List Char} :
    Over letters (first ++ second) ↔ Over letters first ∧ Over letters second :=
  List.forall_mem_append

/-! ### Changes over an alphabet -/

/-- An ending and what becomes of it. -/
structure Change where
  before : List Char
  after : List Char
  deriving DecidableEq, Repr

/-- The texts over an alphabet that meet places. -/
def meeting (letters : List Char) : List Letter → List (List Char)
  | [] => [[]]
  | letter :: places =>
    (letters.filter letter.accepts).flatMap fun c => (meeting letters places).map (c :: ·)

/-- The changes that a rule makes over an alphabet. -/
def Rule.changes (letters : List Char) (r : Rule) : List Change :=
  r.endings.flatMap fun e => (meeting letters e.keep).flatMap fun kept =>
    (meeting letters e.drop).map fun dropped => ⟨kept ++ dropped, kept ++ r.suffix.toList⟩

theorem mem_meeting : ∀ {places : List Letter} {text : List Char},
    acceptsAll places text = true → Over letters text → text ∈ meeting letters places
  | [], [], _, _ => List.mem_singleton_self _
  | [], _ :: _, h, _ => by simp [acceptsAll] at h
  | _ :: _, [], h, _ => by simp [acceptsAll] at h
  | letter :: places, c :: text, h, hletters => by
      simp only [acceptsAll, Bool.and_eq_true] at h
      obtain ⟨hc, htext⟩ := List.forall_mem_cons.mp hletters
      refine List.mem_flatMap.mpr ⟨c, List.mem_filter.mpr ⟨hc, h.1⟩, ?_⟩
      exact List.mem_map_of_mem (mem_meeting h.2 htext)

namespace Rule

theorem mem_changes {r : Rule} {rest new : List Char} (h : r.rewriteHere? rest = some new)
    (hletters : Over letters rest) : ⟨rest, new⟩ ∈ r.changes letters := by
  obtain ⟨e, he, kept, dropped, rfl, rfl, hkept, hdropped⟩ := exists_of_rewriteHere? h
  obtain ⟨hkeptLetters, hdroppedLetters⟩ := over_append.mp hletters
  exact List.mem_flatMap.mpr ⟨e, he, List.mem_flatMap.mpr
    ⟨kept, mem_meeting hkept hkeptLetters, List.mem_map.mpr
      ⟨dropped, mem_meeting hdropped hdroppedLetters, rfl⟩⟩⟩

/-! ### One rule -/

/-- Whatever a rule does to a word is one of its changes, behind a stem. -/
theorem exists_change {r : Rule} {word out : List Char} (h : r.rewrite? word = some out)
    (hletters : Over letters word) :
    ∃ change ∈ r.changes letters, ∃ stem, word = stem ++ change.before ∧
      out = stem ++ change.after ∧ (r.whole = true → stem = []) := by
  obtain ⟨stem, rest, new, rfl, rfl, hearliest, hnew⟩ := exists_earliest h
  exact ⟨⟨rest, new⟩, mem_changes hnew (over_append.mp hletters).2, stem, rfl, rfl,
    hearliest.1.1⟩

theorem rewrite?_of_whole {r : Rule} {word : List Char} (hwhole : r.whole = true)
    (hhere : r.rewriteHere? word = none) : r.rewrite? word = none := by
  cases word with
  | nil => exact hhere
  | cons c rest => simp [rewrite?, hhere, hwhole]

/-- A rule that fits no text reaching into the stem does not see it. -/
theorem rewrite?_append {r : Rule} {text : List Char} : ∀ {stem : List Char},
    (∀ reach, reach ≠ [] → reach <:+ stem → r.rewriteHere? (reach ++ text) = none) →
    (r.whole = true → r.rewriteHere? text = none) →
    r.rewrite? (stem ++ text) = (r.rewrite? text).map (stem ++ ·)
  | [], _, _ => by
      rw [List.nil_append]
      exact Option.map_id'.symm
  | c :: stem, hreach, hwhole => by
      have hhere : r.rewriteHere? (c :: (stem ++ text)) = none :=
        hreach (c :: stem) (List.cons_ne_nil _ _) List.suffix_rfl
      rw [List.cons_append, rewrite?, hhere]
      by_cases h : r.whole = true
      · rw [rewrite?_of_whole h (hwhole h)]
        simp [h]
      · have hrest : r.rewrite? (stem ++ text) = (r.rewrite? text).map (stem ++ ·) :=
          rewrite?_append (fun reach hne hsuffix =>
            hreach reach hne (hsuffix.trans (List.suffix_cons _ _))) hwhole
        simp only [h, hrest, Option.map_map]
        rfl

/-- The rule that adds a suffix to any word. -/
theorem rewrite?_adding_nil (suffix : String) : ∀ word : List Char,
    (adding "" suffix).rewrite? word = some (word ++ suffix.toList)
  | [] => rfl
  | c :: word => by
      have hhere : (adding "" suffix).rewriteHere? (c :: word) = none := rfl
      rw [rewrite?, hhere]
      simp only [rewrite?_adding_nil suffix word]
      rfl

end Rule

/-! ### Tables of rules -/

theorem inflect_append {rules : List Rule} {stem text : List Char}
    (h : ∀ r ∈ rules, r.rewrite? (stem ++ text) = (r.rewrite? text).map (stem ++ ·)) :
    inflect rules (stem ++ text) = stem ++ inflect rules text := by
  unfold inflect
  induction rules with
  | nil => rfl
  | cons r rules ih =>
      obtain ⟨hr, hrules⟩ := List.forall_mem_cons.mp h
      rw [List.findSome?_cons, List.findSome?_cons, hr]
      cases r.rewrite? text with
      | some out => rfl
      | none => exact ih hrules

/-- What the endings of a rule ask for in front of a text, if they reach that far.  A rule for whole
words asks for nothing in front of its own ending. -/
def Rule.contexts (letters text : List Char) (r : Rule) : List (List Char) :=
  (r.changes letters).filterMap fun change =>
    if text <:+ change.before ∧ (change.before ≠ text ∨ r.whole = true) then
      some (change.before.take (change.before.length - text.length))
    else none

/-- What the endings of a table ask for in front of a text. -/
def contexts (letters : List Char) (rules : List Rule) (text : List Char) : List (List Char) :=
  rules.flatMap (Rule.contexts letters text)

theorem Rule.mem_contexts {r : Rule} {context text new : List Char}
    (h : r.rewriteHere? (context ++ text) = some new)
    (hletters : Over letters (context ++ text)) (hreach : context ≠ [] ∨ r.whole = true) :
    context ∈ r.contexts letters text := by
  refine List.mem_filterMap.mpr ⟨_, mem_changes h hletters, ?_⟩
  have hne : context ++ text ≠ text ∨ r.whole = true :=
    hreach.imp_left fun hne heq => hne (List.append_left_eq_self.mp heq)
  rw [if_pos ⟨List.suffix_append _ _, hne⟩]
  simp

/-- Behind a stem that ends in no context of a text, inflection stays within the text. -/
theorem inflect_append_of_contexts {rules : List Rule} {stem text : List Char}
    (hletters : Over letters (stem ++ text))
    (hcontexts : ∀ context ∈ contexts letters rules text, ¬context <:+ stem) :
    inflect rules (stem ++ text) = stem ++ inflect rules text := by
  apply inflect_append
  intro r hr
  have hmiss : ∀ context, context <:+ stem → context ≠ [] ∨ r.whole = true →
      r.rewriteHere? (context ++ text) = none := by
    intro context hsuffix hreach
    obtain ⟨stem, rfl⟩ := hsuffix
    cases h : r.rewriteHere? (context ++ text) with
    | none => rfl
    | some new =>
        rw [List.append_assoc] at hletters
        have hcontext := r.mem_contexts h (over_append.mp hletters).2 hreach
        have hmem : context ∈ contexts letters rules text := List.mem_flatMap.mpr ⟨r, hr, hcontext⟩
        exact absurd (List.suffix_append _ _) (hcontexts context hmem)
  exact r.rewrite?_append (fun context hne hsuffix => hmiss context hsuffix (.inl hne))
    fun hwhole => hmiss [] List.nil_suffix (.inr hwhole)

/-! ### From one table to another -/

/-- The table takes a change back behind every stem of a word without one of the barred endings:
what else it might look at in front of the new ending, with the old one behind it, has such an
ending. -/
def Change.Undone (letters : List Char) (rules : List Rule) (barred : List (List Char))
    (change : Change) : Prop :=
  inflect rules change.after = change.before ∧ Over letters change.after ∧
    ∀ context ∈ contexts letters rules change.after, ∃ ending ∈ barred,
      ending <:+ context ++ change.before

instance (letters : List Char) (rules : List Rule) (barred : List (List Char)) (change : Change) :
    Decidable (change.Undone letters rules barred) :=
  inferInstanceAs (Decidable (_ ∧ _ ∧ _))

/-- Every change of the table `there` is to an ending that is barred, or it is undone by the table
`back`; a change to a whole word need only be undone on that word. -/
def Undoes (letters : List Char) (there back : List Rule) (barred : List (List Char)) : Prop :=
  ∀ r ∈ there, ∀ change ∈ r.changes letters,
    (∃ ending ∈ barred, ending <:+ change.before) ∨
      r.whole = true ∧ inflect back change.after = change.before ∨
      change.Undone letters back barred

instance (letters : List Char) (there back : List Rule) (barred : List (List Char)) :
    Decidable (Undoes letters there back barred) :=
  inferInstanceAs (Decidable (∀ _ ∈ _, _))

/-- A table that fits every word makes one of its changes. -/
theorem exists_change_of_inflect {rules : List Rule} {suffix : String} {word : List Char}
    (hrule : Rule.adding "" suffix ∈ rules) (hletters : Over letters word) :
    ∃ r ∈ rules, ∃ change ∈ r.changes letters, ∃ stem, word = stem ++ change.before ∧
      inflect rules word = stem ++ change.after ∧ (r.whole = true → stem = []) := by
  cases h : rules.findSome? fun r => r.rewrite? word with
  | none =>
      have hnone := List.findSome?_eq_none_iff.mp h _ hrule
      rw [Rule.rewrite?_adding_nil] at hnone
      cases hnone
  | some out =>
      obtain ⟨r, hr, hrewrite⟩ := List.exists_of_findSome?_eq_some h
      have hinflect : inflect rules word = out := by rw [inflect, h, Option.getD_some]
      rw [hinflect]
      exact ⟨r, hr, r.exists_change hrewrite hletters⟩

/-- A word without a barred ending comes back. -/
theorem inflect_inflect {there back : List Rule} {barred : List (List Char)} {suffix : String}
    {word : List Char} (hrule : Rule.adding "" suffix ∈ there)
    (hundoes : Undoes letters there back barred) (hletters : Over letters word)
    (hbarred : ∀ ending ∈ barred, ¬ending <:+ word) :
    inflect back (inflect there word) = word := by
  obtain ⟨r, hr, change, hchange, stem, rfl, hinflect, hwhole⟩ :=
    exists_change_of_inflect hrule hletters
  rw [hinflect]
  rcases hundoes r hr change hchange with ⟨ending, hending, hsuffix⟩ | ⟨hword, hback⟩ | h
  · exact absurd (hsuffix.trans (List.suffix_append _ _)) (hbarred ending hending)
  · obtain rfl := hwhole hword
    exact hback
  · obtain ⟨hback, hafter, hcontexts⟩ := h
    have hfree : ∀ context ∈ contexts letters back change.after, ¬context <:+ stem := by
      -- With the old ending behind it, such a context would give the word a barred ending.
      rintro context hcontext ⟨front, rfl⟩
      obtain ⟨ending, hending, hsuffix⟩ := hcontexts context hcontext
      rw [List.append_assoc] at hbarred
      exact hbarred ending hending (hsuffix.trans (List.suffix_append _ _))
    have hnew : Over letters (stem ++ change.after) :=
      over_append.mpr ⟨(over_append.mp hletters).1, hafter⟩
    rw [inflect_append_of_contexts hnew hfree, hback]

/-- The tables make another ending of the given one, and neither looks at what stands in front. -/
def Loses (letters : List Char) (there back : List Rule) (ending : List Char) : Prop :=
  inflect back (inflect there ending) ≠ ending ∧ Over letters (inflect there ending) ∧
    contexts letters there ending = [] ∧ contexts letters back (inflect there ending) = []

instance (letters : List Char) (there back : List Rule) (ending : List Char) :
    Decidable (Loses letters there back ending) :=
  inferInstanceAs (Decidable (_ ∧ _ ∧ _ ∧ _))

/-- An ending that is lost is lost behind every stem, and the stem stays. -/
theorem inflect_inflect_append {there back : List Rule} {stem ending : List Char}
    (hloses : Loses letters there back ending) (hletters : Over letters (stem ++ ending)) :
    inflect there (stem ++ ending) = stem ++ inflect there ending ∧
      inflect back (inflect there (stem ++ ending)) =
        stem ++ inflect back (inflect there ending) := by
  obtain ⟨-, hinflected, hthere, hback⟩ := hloses
  have hnew : Over letters (stem ++ inflect there ending) :=
    over_append.mpr ⟨(over_append.mp hletters).1, hinflected⟩
  have hfirst : inflect there (stem ++ ending) = stem ++ inflect there ending :=
    inflect_append_of_contexts hletters (by simp [hthere])
  rw [hfirst]
  exact ⟨rfl, inflect_append_of_contexts hnew (by simp [hback])⟩

/-- A word with an ending that is lost does not come back. -/
theorem inflect_inflect_ne {there back : List Rule} {word ending : List Char}
    (hloses : Loses letters there back ending) (hletters : Over letters word)
    (hending : ending <:+ word) : inflect back (inflect there word) ≠ word := by
  obtain ⟨stem, rfl⟩ := hending
  rw [(inflect_inflect_append hloses hletters).2]
  intro heq
  exact hloses.1 (List.append_cancel_left heq)

/-- A word without one of the other endings comes back exactly if it has none that is lost. -/
theorem inflect_inflect_iff {there back : List Rule} {lost others : List (List Char)}
    {suffix : String} {word : List Char} (hrule : Rule.adding "" suffix ∈ there)
    (hundoes : Undoes letters there back (lost ++ others))
    (hlost : ∀ ending ∈ lost, Loses letters there back ending) (hletters : Over letters word)
    (hothers : ∀ ending ∈ others, ¬ending <:+ word) :
    inflect back (inflect there word) = word ↔ ∀ ending ∈ lost, ¬ending <:+ word := by
  constructor
  · intro h ending hending hends
    exact inflect_inflect_ne (hlost ending hending) hletters hends h
  · intro h
    refine inflect_inflect hrule hundoes hletters fun ending hending => ?_
    rcases List.mem_append.mp hending with hending | hending
    · exact h ending hending
    · exact hothers ending hending

end TableGateway.Inflection
