import TableGateway.Proofs.Inflection.Match

/-! # Capitals

Rules compare letters without regard to case, and a suffix is in small letters.  So a word and the
same word in small letters are inflected alike (`inflect_map_toLower`), and the capitals of the
outcome are those of what stands in front of the place that is rewritten, and of what the rule keeps
there (`toLower_inflected`). -/

namespace TableGateway.Inflection

open Letter

/-! ### Letters -/

theorem fold_toLower (c : Char) : fold c.toLower = fold c := by
  by_cases h : 'A'.val ≤ c.val ∧ c.val ≤ 'Z'.val
  · -- The capitals of ASCII are few enough to be tried one by one.
    have hlow : 65 ≤ c.toNat := UInt32.le_iff_toNat_le.mp h.1
    have hhigh : c.toNat ≤ 90 := UInt32.le_iff_toNat_le.mp h.2
    have hall : ∀ n, n ≤ 90 → 65 ≤ n → fold (Char.ofNat n).toLower = fold (Char.ofNat n) := by
      decide +kernel
    rw [← Char.ofNat_toNat c]
    exact hall c.toNat hhigh hlow
  · have hsame : c.toLower = c := dif_neg h
    rw [hsame]

namespace Letter

theorem accepts_toLower (letter : Letter) (c : Char) :
    letter.accepts c.toLower = letter.accepts c := by
  cases letter with
  | oneOf letters => rw [accepts, accepts, fold_toLower]
  | noneOf letters => rw [accepts, accepts, fold_toLower]

theorem acceptsAll_map_toLower : ∀ (letters : List Letter) (text : List Char),
    acceptsAll letters (text.map Char.toLower) = acceptsAll letters text
  | [], [] => rfl
  | [], _ :: _ => rfl
  | _ :: _, [] => rfl
  | letter :: letters, c :: text => by
      rw [List.map_cons, acceptsAll, acceptsAll, accepts_toLower, acceptsAll_map_toLower letters]

end Letter

/-! ### Rules with suffixes in small letters -/

/-- The suffix is in small letters. -/
def Rule.Small (r : Rule) : Prop := r.suffix.toList.map Char.toLower = r.suffix.toList

instance (r : Rule) : Decidable r.Small := inferInstanceAs (Decidable (_ = _))

variable {r : Rule}

theorem Rule.rewriteHere?_map_toLower (hsmall : r.Small) (text : List Char) :
    r.rewriteHere? (text.map Char.toLower) =
      (r.rewriteHere? text).map (List.map Char.toLower) := by
  unfold rewriteHere?
  rw [List.map_findSome?]
  congr 1
  funext e
  unfold Ending.rewrite?
  rw [Function.comp_apply, Letter.acceptsAll_map_toLower]
  split
  · rw [Option.map_some, List.map_append, List.map_take, hsmall]
  · rfl

theorem Rule.rewrite?_map_toLower (hsmall : r.Small) : ∀ word : List Char,
    r.rewrite? (word.map Char.toLower) = (r.rewrite? word).map (List.map Char.toLower)
  | [] => rewriteHere?_map_toLower hsmall []
  | c :: word => by
      have hhere := rewriteHere?_map_toLower hsmall (c :: word)
      rw [List.map_cons] at hhere ⊢
      rw [rewrite?, rewrite?, hhere]
      cases r.rewriteHere? (c :: word) with
      | some new => rfl
      | none =>
          simp only [Option.map_none]
          split
          · rfl
          · rw [rewrite?_map_toLower hsmall word, Option.map_map, Option.map_map]
            rfl

theorem inflect_map_toLower {rules : List Rule} (hsmall : ∀ r ∈ rules, r.Small)
    (word : List Char) :
    inflect rules (word.map Char.toLower) = (inflect rules word).map Char.toLower := by
  unfold inflect
  induction rules with
  | nil => rfl
  | cons r rules ih =>
      obtain ⟨hr, hrules⟩ := List.forall_mem_cons.mp hsmall
      rw [List.findSome?_cons, List.findSome?_cons, Rule.rewrite?_map_toLower hr]
      cases r.rewrite? word with
      | some out => rfl
      | none => exact ih hrules

/-! ### Words -/

theorem small_rules (language : Language) (number : Number) :
    ∀ r ∈ rules language number, r.Small := by
  cases language <;> cases number <;> decide

theorem toLower_inflect_rules (language : Language) (number : Number) (word : String) :
    (String.ofList (inflect (rules language number) word.toList)).toLower =
      String.ofList (inflect (rules language number) word.toLower.toList) := by
  unfold String.toLower
  rw [← String.toList_inj, String.toList_map, String.toList_ofList, String.toList_ofList,
    String.toList_map, inflect_map_toLower (small_rules language number)]

theorem inflects_toList (language : Language) (number : Number) (word : String) :
    Inflects (rules language number) word.toList
      (String.ofList (inflect (rules language number) word.toList)).toList := by
  rw [String.toList_ofList]
  exact inflects_inflect _ _

/-- **Capitals of inflected words.**  The forms of a word in small letters are the forms of the
word, in small letters.  Either no rule fits and the word stays as it is, or the first rule that
fits rewrites the earliest place where it does, and what stands in front of that place keeps its
capitals. -/
theorem toLower_inflected (language : Language) (word : String) :
    (pluralize language word).toLower = pluralize language word.toLower ∧
    (singularize language word).toLower = singularize language word.toLower ∧
    Inflects (rules language .plural) word.toList (pluralize language word).toList ∧
    Inflects (rules language .singular) word.toList (singularize language word).toList := by
  exact ⟨toLower_inflect_rules language .plural word, toLower_inflect_rules language .singular word,
    inflects_toList language .plural word, inflects_toList language .singular word⟩

/-- The long s and the capital a with tilde count as letters of endings, but stay as they are
elsewhere. -/
example : pluralize .portuguese "IRMÃO" = "IRMões" ∧ singularize .english "Kiſſeſ" = "Kiſſ" := by
  decide +kernel

end TableGateway.Inflection
