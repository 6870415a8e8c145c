import TableGateway.Proofs.Inflection.Endings

/-! # Nouns and the keys of their tables

A table named with the plural of a noun has the noun in its key column exactly when the noun is the
singular of its plural.  `singularize_pluralize_iff` reduces that to the checks on rules of
`Undoes` and `Loses`, and these are run for English, whose nouns in `e` and `s` are left aside, and
for Portuguese.  For French they are run without the rule that is never reached, which is the reason
why nouns in `eau` have no key. -/

namespace TableGateway.Inflection

/-! ### Alphabets -/

/-- The small letters of ASCII. -/
def smallLetters : List Char := "abcdefghijklmnopqrstuvwxyz".toList

/-- The small letters with accents that Portuguese has. -/
def accentedLetters : List Char := "áàâãçéêíóôõú".toList

theorem mem_smallLetters {c : Char} (h : c.isLower = true) : c ∈ smallLetters := by
  obtain ⟨hlow, hhigh⟩ := Bool.and_eq_true_iff.mp h
  have hlow : 97 ≤ c.toNat := UInt32.le_iff_toNat_le.mp (of_decide_eq_true hlow)
  have hhigh : c.toNat ≤ 122 := UInt32.le_iff_toNat_le.mp (of_decide_eq_true hhigh)
  have hall : ∀ n, n ≤ 122 → 97 ≤ n → Char.ofNat n ∈ smallLetters := by decide +kernel
  have hmem := hall c.toNat hhigh hlow
  rwa [Char.ofNat_toNat] at hmem

/-! ### Words and keys -/

theorem idColumn_eq_iff {language : Language} {table noun : String} :
    idColumn language table = noun ++ "_id" ↔ singularize language table = noun := by
  rw [idColumn, ← String.toList_inj, String.toList_append, String.toList_append,
    List.append_cancel_right_eq, String.toList_inj]

theorem toList_singularize_pluralize (language : Language) (word : String) :
    (singularize language (pluralize language word)).toList =
      inflect (rules language .singular) (inflect (rules language .plural) word.toList) := by
  rw [singularize, pluralize, String.toList_ofList, String.toList_ofList]

/-- Words without one of the other endings are brought back exactly if they have none that is
lost. -/
theorem singularize_pluralize_iff (lost others : List String) {language : Language}
    {letters : List Char} {suffix word : String}
    (hrule : Rule.adding "" suffix ∈ rules language .plural)
    (hundoes : Undoes letters (rules language .plural) (rules language .singular)
      ((lost ++ others).map String.toList))
    (hlost : ∀ ending ∈ lost,
      Loses letters (rules language .plural) (rules language .singular) ending.toList)
    (hletters : Over letters word.toList) (hothers : ∀ ending ∈ others, ¬EndsIn ending word) :
    singularize language (pluralize language word) = word ↔
      ∀ ending ∈ lost, ¬EndsIn ending word := by
  have hlostEndings : ∀ ending ∈ lost.map String.toList,
      Loses letters (rules language .plural) (rules language .singular) ending :=
    List.forall_mem_map.mpr hlost
  have hotherEndings : ∀ ending ∈ others.map String.toList, ¬ending <:+ word.toList :=
    List.forall_mem_map.mpr fun ending hending => mt endsIn_iff.mpr (hothers ending hending)
  rw [List.map_append] at hundoes
  rw [← String.toList_inj, toList_singularize_pluralize,
    inflect_inflect_iff hrule hundoes hlostEndings hletters hotherEndings]
  simp only [List.forall_mem_map, endsIn_iff]

/-! ### English -/

/-- The endings of English nouns that are not the singular of their plural. -/
def lostEnglish : List String := ["ax", "matrex", "vertex", "index", "movy", "sery"]

theorem undoes_english :
    Undoes smallLetters (rules .english .plural) (rules .english .singular)
      ((lostEnglish ++ ["e", "s"]).map String.toList) := by
  decide +kernel

theorem loses_english : ∀ ending ∈ lostEnglish,
    Loses smallLetters (rules .english .plural) (rules .english .singular) ending.toList := by
  decide +kernel

/-- **English nouns and the keys of their tables.**  A noun in small letters, with a last letter
other than `e` and `s`, is the singular of its plural, and so in the key column of the table named
with its plural, exactly if it has none of six endings. -/
theorem singularize_pluralize_english (word : String)
    (hletters : ∀ c ∈ word.toList, c.isLower = true) (he : ¬EndsIn "e" word)
    (hs : ¬EndsIn "s" word) :
    (singularize .english (pluralize .english word) = word ↔
      ∀ ending ∈ lostEnglish, ¬EndsIn ending word) ∧
    (idColumn .english (pluralize .english word) = word ++ "_id" ↔
      ∀ ending ∈ lostEnglish, ¬EndsIn ending word) := by
  have hothers : ∀ ending ∈ ["e", "s"], ¬EndsIn ending word := by
    intro ending hending
    rcases List.mem_pair.mp hending with rfl | rfl
    · exact he
    · exact hs
  have hcatch : Rule.adding "" "s" ∈ rules .english .plural := by decide
  rw [idColumn_eq_iff, and_self]
  exact singularize_pluralize_iff lostEnglish ["e", "s"] hcatch undoes_english loses_english
    (fun c hc => mem_smallLetters (hletters c hc)) hothers

/-- A gallery has its key; a nursery has not, for the singular of its plural is a plural still. -/
theorem singularize_pluralize_english_nursery :
    ((∀ c ∈ "nursery".toList, c.isLower = true) ∧ ¬EndsIn "e" "nursery" ∧ ¬EndsIn "s" "nursery") ∧
    singularize .english (pluralize .english "nursery") ≠ "nursery" ∧
    idColumn .english (pluralize .english "nursery") ≠ "nursery_id" ∧
    singularize .english (pluralize .english "gallery") = "gallery" ∧
    idColumn .english (pluralize .english "gallery") = "gallery_id" := by
  have hnursery : (∀ c ∈ "nursery".toList, c.isLower = true) ∧ ¬EndsIn "e" "nursery" ∧
      ¬EndsIn "s" "nursery" := ⟨by simp, by decide, by decide⟩
  have hgallery : (∀ c ∈ "gallery".toList, c.isLower = true) ∧ ¬EndsIn "e" "gallery" ∧
      ¬EndsIn "s" "gallery" := ⟨by simp, by decide, by decide⟩
  have hlost : ¬∀ ending ∈ lostEnglish, ¬EndsIn ending "nursery" := by decide
  have hkept : ∀ ending ∈ lostEnglish, ¬EndsIn ending "gallery" := by decide
  obtain ⟨hback, hkey⟩ :=
    singularize_pluralize_english "nursery" hnursery.1 hnursery.2.1 hnursery.2.2
  obtain ⟨hback', hkey'⟩ :=
    singularize_pluralize_english "gallery" hgallery.1 hgallery.2.1 hgallery.2.2
  exact ⟨hnursery, mt hback.mp hlost, mt hkey.mp hlost, hback'.mpr hkept, hkey'.mpr hkept⟩

/-! ### French -/

/-- The singulars of French that are ever made: the ending `aux` comes first and takes every word in
`eaux`. -/
def reachedFrench : List Rule := [.replacing "aux" "al", .replacing "s" ""]

theorem inflect_frenchSingular (word : List Char) :
    inflect (rules .french .singular) word = inflect reachedFrench word := by
  have hshadows : (Rule.replacing "aux" "al").Shadows (.replacing "eaux" "eau") := by decide
  exact inflect_of_shadowed (List.mem_singleton_self _) hshadows word

theorem undoes_french :
    Undoes smallLetters (rules .french .plural) reachedFrench (["eau".toList] ++ []) := by
  decide +kernel

theorem loses_french : Loses smallLetters (rules .french .plural) reachedFrench "eau".toList := by
  decide +kernel

/-- **French nouns and the keys of their tables.**  A noun in small letters is the singular of its
plural, and so in the key column of the table named with its plural, exactly if it does not end in
`eau`.  The plural of a noun that does is in `eaux`, but is taken for that of a noun in `al`. -/
theorem singularize_pluralize_french (word : String)
    (hletters : ∀ c ∈ word.toList, c.isLower = true) :
    (singularize .french (pluralize .french word) = word ↔ ¬EndsIn "eau" word) ∧
    (idColumn .french (pluralize .french word) = word ++ "_id" ↔ ¬EndsIn "eau" word) ∧
    ∀ stem, word = stem ++ "eau" →
      pluralize .french word = stem ++ "eaux" ∧
        singularize .french (pluralize .french word) = stem ++ "eal" := by
  have hsmall : Over smallLetters word.toList := fun c hc => mem_smallLetters (hletters c hc)
  have hback : singularize .french (pluralize .french word) = word ↔ ¬EndsIn "eau" word := by
    have hcatch : Rule.adding "" "s" ∈ rules .french .plural := by decide
    rw [← String.toList_inj, toList_singularize_pluralize, inflect_frenchSingular,
      inflect_inflect_iff hcatch undoes_french (List.forall_mem_singleton.mpr loses_french) hsmall
        (List.forall_mem_nil _), List.forall_mem_singleton, endsIn_iff]
  refine ⟨hback, idColumn_eq_iff.trans hback, ?_⟩
  rintro stem rfl
  rw [String.toList_append] at hsmall
  obtain ⟨hplural, hsingular⟩ := inflect_inflect_append loses_french hsmall
  constructor
  · rw [pluralize, String.toList_append, hplural, String.ofList_append, String.ofList_toList]
    rfl
  · rw [← String.toList_inj, toList_singularize_pluralize, inflect_frenchSingular,
      String.toList_append, hsingular, String.toList_append]
    rfl

/-- A horse has its key; a boat has not, for the singular of its plural is no noun. -/
theorem singularize_pluralize_french_bateau :
    (∀ c ∈ "bateau".toList, c.isLower = true) ∧ (∀ c ∈ "cheval".toList, c.isLower = true) ∧
    singularize .french (pluralize .french "bateau") ≠ "bateau" ∧
    idColumn .french (pluralize .french "bateau") ≠ "bateau_id" ∧
    pluralize .french "bateau" = "bateaux" ∧
    singularize .french (pluralize .french "bateau") = "bateal" ∧
    singularize .french (pluralize .french "cheval") = "cheval" ∧
    idColumn .french (pluralize .french "cheval") = "cheval_id" := by
  have hbateau : ∀ c ∈ "bateau".toList, c.isLower = true := by simp
  have hcheval : ∀ c ∈ "cheval".toList, c.isLower = true := by simp
  have hlost : EndsIn "eau" "bateau" := by decide
  have hkept : ¬EndsIn "eau" "cheval" := by decide
  obtain ⟨hback, hkey, hforms⟩ := singularize_pluralize_french "bateau" hbateau
  obtain ⟨hplural, hsingular⟩ := hforms "bat" rfl
  obtain ⟨hback', hkey', -⟩ := singularize_pluralize_french "cheval" hcheval
  exact ⟨hbateau, hcheval, fun h => hback.mp h hlost, fun h => hkey.mp h hlost, hplural, hsingular,
    hback'.mpr hkept, hkey'.mpr hkept⟩

/-- Not every French noun in small letters is the singular of its plural. -/
theorem not_forall_singularize_pluralize_french :
    ¬∀ word : String, (∀ c ∈ word.toList, c.isLower = true) →
      singularize .french (pluralize .french word) = word := by
  intro h
  have hword : singularize .french (pluralize .french "bateau") ≠ "bateau" := by decide +kernel
  exact hword (h "bateau" (by simp))

/-! ### Portuguese -/

/-- The endings of Portuguese nouns that are not the singular of their plural. -/
def lostPortuguese : List String := ["õe", "i", "n", "re", "se"]

theorem undoes_portuguese :
    Undoes (smallLetters ++ accentedLetters) (rules .portuguese .plural)
      (rules .portuguese .singular) ((lostPortuguese ++ []).map String.toList) := by
  decide +kernel

theorem loses_portuguese : ∀ ending ∈ lostPortuguese,
    Loses (smallLetters ++ accentedLetters) (rules .portuguese .plural)
      (rules .portuguese .singular) ending.toList := by
  decide +kernel

/-- **Portuguese nouns and the keys of their tables.**  A noun in small letters, with or without
accents, is the singular of its plural, and so in the key column of the table named with its plural,
exactly if it has none of five endings. -/
theorem singularize_pluralize_portuguese (word : String)
    (hletters : ∀ c ∈ word.toList, c.isLower = true ∨ c ∈ accentedLetters) :
    (singularize .portuguese (pluralize .portuguese word) = word ↔
      ∀ ending ∈ lostPortuguese, ¬EndsIn ending word) ∧
    (idColumn .portuguese (pluralize .portuguese word) = word ++ "_id" ↔
      ∀ ending ∈ lostPortuguese, ¬EndsIn ending word) := by
  have hplain : Over (smallLetters ++ accentedLetters) word.toList := by
    intro c hc
    exact List.mem_append.mpr ((hletters c hc).imp_left mem_smallLetters)
  have hcatch : Rule.adding "" "s" ∈ rules .portuguese .plural := by decide
  rw [idColumn_eq_iff, and_self]
  exact singularize_pluralize_iff lostPortuguese [] hcatch undoes_portuguese loses_portuguese
    hplain (List.forall_mem_nil _)

/-- A lemon has its key; a base has not, for its plural looks like one of a noun in `s`. -/
theorem singularize_pluralize_portuguese_base :
    (∀ c ∈ "base".toList, c.isLower = true ∨ c ∈ accentedLetters) ∧
    (∀ c ∈ "limão".toList, c.isLower = true ∨ c ∈ accentedLetters) ∧
    singularize .portuguese (pluralize .portuguese "base") ≠ "base" ∧
    idColumn .portuguese (pluralize .portuguese "base") ≠ "base_id" ∧
    singularize .portuguese (pluralize .portuguese "limão") = "limão" ∧
    idColumn .portuguese (pluralize .portuguese "limão") = "limão_id" := by
  have hall : ∀ {word : String},
      (word.toList.all fun c => c.isLower || accentedLetters.contains c) = true →
        ∀ c ∈ word.toList, c.isLower = true ∨ c ∈ accentedLetters := by
    intro word h c hc
    simpa using List.all_eq_true.mp h c hc
  have hbase : ∀ c ∈ "base".toList, c.isLower = true ∨ c ∈ accentedLetters := hall (by decide)
  have hlimao : ∀ c ∈ "limão".toList, c.isLower = true ∨ c ∈ accentedLetters := hall (by decide)
  have hlost : ¬∀ ending ∈ lostPortuguese, ¬EndsIn ending "base" := by decide
  have hkept : ∀ ending ∈ lostPortuguese, ¬EndsIn ending "limão" := by decide
  obtain ⟨hback, hkey⟩ := singularize_pluralize_portuguese "base" hbase
  obtain ⟨hback', hkey'⟩ := singularize_pluralize_portuguese "limão" hlimao
  exact ⟨hbase, hlimao, mt hback.mp hlost, mt hkey.mp hlost, hback'.mpr hkept, hkey'.mpr hkept⟩

end TableGateway.Inflection
