import TableGateway.Proofs.Inflection.Endings

/-! # Compound words

No ending of a rule has more than eight letters (`length_ending_le`), and a rule does not see what
stands in front of a text that is longer than its endings (`inflect_append_of_longer`).  So a table
with a long name, as of a compound, gets its key column from the last nine letters
(`inflected_append`).  Eight would not do: a rule for whole words fits a word of eight letters, but
not the same letters at the end of a compound. -/

namespace TableGateway.Inflection

/-! ### Texts longer than endings -/

theorem rewriteHere?_of_longer {r : Rule} {text : List Char}
    (h : ∀ e ∈ r.endings, e.keep.length + e.drop.length < text.length) :
    r.rewriteHere? text = none := by
  refine Rule.rewriteHere?_eq_none_iff.mpr fun e he hmeets => ?_
  have hlength : text.length = e.keep.length + e.drop.length := by
    rw [Letter.length_eq_of_acceptsAll hmeets, List.length_append]
  have hlonger := h e he
  omega

/-- Behind any stem, inflection stays within a text that is longer than all endings. -/
theorem inflect_append_of_longer {rules : List Rule} {stem text : List Char}
    (h : ∀ r ∈ rules, ∀ e ∈ r.endings, e.keep.length + e.drop.length < text.length) :
    inflect rules (stem ++ text) = stem ++ inflect rules text := by
  apply inflect_append
  intro r hr
  apply r.rewrite?_append
  · -- A text that reaches into the stem is longer still.
    intro reach _ _
    refine rewriteHere?_of_longer fun e he => ?_
    have hlonger := h r hr e he
    rw [List.length_append]
    omega
  · intro _
    exact rewriteHere?_of_longer (h r hr)

/-! ### The tables -/

theorem length_ending_le (language : Language) (number : Number) :
    ∀ r ∈ rules language number, ∀ e ∈ r.endings, e.keep.length + e.drop.length ≤ 8 := by
  cases language <;> cases number <;> decide

theorem inflect_rules_append (language : Language) (number : Number) {stem ending : String}
    (h : 9 ≤ ending.length) :
    String.ofList (inflect (rules language number) (stem ++ ending).toList) =
      stem ++ String.ofList (inflect (rules language number) ending.toList) := by
  have hlonger : ∀ r ∈ rules language number, ∀ e ∈ r.endings,
      e.keep.length + e.drop.length < ending.toList.length := by
    intro r hr e he
    have hle := length_ending_le language number r hr e he
    rw [String.length_toList]
    omega
  rw [String.toList_append, inflect_append_of_longer hlonger, String.ofList_append,
    String.ofList_toList]

/-! ### Words -/

theorem pluralize_append (language : Language) {stem ending : String} (h : 9 ≤ ending.length) :
    pluralize language (stem ++ ending) = stem ++ pluralize language ending :=
  inflect_rules_append language .plural h

theorem singularize_append (language : Language) {stem ending : String} (h : 9 ≤ ending.length) :
    singularize language (stem ++ ending) = stem ++ singularize language ending :=
  inflect_rules_append language .singular h

theorem exists_last_nine {word : String} (h : 9 ≤ word.length) :
    ∃ front last : String, word = front ++ last ∧ last.length = 9 := by
  refine ⟨String.ofList (word.toList.take (word.length - 9)),
    String.ofList (word.toList.drop (word.length - 9)), ?_, ?_⟩
  · rw [← String.toList_inj, String.toList_append, String.toList_ofList, String.toList_ofList,
      List.take_append_drop]
  · rw [← String.length_toList, String.toList_ofList, List.length_drop, String.length_toList]
    omega

/-- **Compound words.**  What stands in front of nine letters or more is neither seen nor changed
when a word is inflected, and the key column of a table is made from the last nine letters of the
table's name. -/
theorem inflected_append (language : Language) (stem ending : String) (h : 9 ≤ ending.length) :
    pluralize language (stem ++ ending) = stem ++ pluralize language ending ∧
    singularize language (stem ++ ending) = stem ++ singularize language ending ∧
    ∃ front last, stem ++ ending = front ++ last ∧ last.length = 9 ∧
      pluralize language (stem ++ ending) = front ++ pluralize language last ∧
      singularize language (stem ++ ending) = front ++ singularize language last ∧
      idColumn language (stem ++ ending) = front ++ idColumn language last := by
  have hword : 9 ≤ (stem ++ ending).length := by
    rw [String.length_append]
    omega
  obtain ⟨front, last, hsplit, hlast⟩ := exists_last_nine hword
  have hnine : 9 ≤ last.length := Nat.le_of_eq hlast.symm
  refine ⟨pluralize_append language h, singularize_append language h, front, last, hsplit, hlast,
    ?_⟩
  rw [hsplit, idColumn, idColumn, pluralize_append language hnine,
    singularize_append language hnine, String.append_assoc]
  exact ⟨rfl, rfl, rfl⟩

/-- Nine letters are enough, whatever their case and accents. -/
theorem inflected_append_microaplicacao :
    9 ≤ "aplicação".length ∧ 9 ≤ "CATEGORIES".length ∧
    pluralize .portuguese ("micro" ++ "aplicação") = "micro" ++ pluralize .portuguese "aplicação" ∧
    pluralize .portuguese "aplicação" = "aplicações" ∧
    singularize .english ("SUB" ++ "CATEGORIES") = "SUB" ++ singularize .english "CATEGORIES" ∧
    singularize .english "CATEGORIES" = "CATEGORy" ∧
    ∃ front last, "SUB" ++ "CATEGORIES" = front ++ last ∧ last.length = 9 ∧
      idColumn .english ("SUB" ++ "CATEGORIES") = front ++ idColumn .english last := by
  have haplicacao : 9 ≤ "aplicação".length := by decide
  have hcategories : 9 ≤ "CATEGORIES".length := by decide
  obtain ⟨hplural, -⟩ := inflected_append .portuguese "micro" "aplicação" haplicacao
  obtain ⟨-, hsingular, front, last, hsplit, hlast, -, -, hkey⟩ :=
    inflected_append .english "SUB" "CATEGORIES" hcategories
  exact ⟨haplicacao, hcategories, hplural, by decide +kernel, hsingular, by decide +kernel, front,
    last, hsplit, hlast, hkey⟩

/-- Eight letters are not enough to go by. -/
example : singularize .english "analyses" = "analysis" ∧
    singularize .english ("psycho" ++ "analyses") = "psychoanalyse" := by decide +kernel

end TableGateway.Inflection
