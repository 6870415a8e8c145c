import TableGateway.Inflection.Rule
import TableGateway.Rejection

/-! # Languages

A `Language` is a table of rules for plurals and one for singulars.  The tables lose information:
a word's plural need not have the word as its singular.

`singularize` names the thing that a table of a plural name holds, and `idColumn` the column that
identifies it. -/

namespace TableGateway.Inflection

open Letter

/-- The languages that have rules. -/
inductive Language where
  | english
  | french
  | portuguese
  deriving DecidableEq, Repr

namespace Language

/-- The two-letter tag. -/
def tag : Language → String
  | english => "en"
  | french => "fr"
  | portuguese => "pt"

instance : ToString Language := ⟨tag⟩

/-- The language with a tag, whose letters may be of either case. -/
def ofTag (tag : String) : Except Rejection Language :=
  let small := String.ofList (tag.toList.map Char.toLower)
  if small = "en" then .ok english
  else if small = "fr" then .ok french
  else if small = "pt" then .ok portuguese
  else .error (.unknownLanguage tag)

end Language

/-! ### The forms of rules -/

/-- The given ending is kept and the suffix added. -/
def Rule.adding (ending suffix : String) : Rule := ⟨[⟨spell ending, []⟩], suffix, false⟩

/-- The given ending is replaced by the suffix. -/
def Rule.replacing (ending suffix : String) : Rule := ⟨[⟨[], spell ending⟩], suffix, false⟩

/-- After any of the given stems, the given ending is replaced by the suffix. -/
def Rule.after (stems : List String) (ending suffix : String) : Rule :=
  ⟨stems.map fun stem => ⟨spell stem, spell ending⟩, suffix, false⟩

/-- After one character, the given ending is replaced by the suffix. -/
def Rule.afterLetter (letter : Letter) (ending suffix : String) : Rule :=
  ⟨[⟨[letter], spell ending⟩], suffix, false⟩

/-- Of the whole word, the given stem is kept and the ending after it replaced by the suffix. -/
def Rule.ofWord (stem ending suffix : String) : Rule := ⟨[⟨spell stem, spell ending⟩], suffix, true⟩

/-! ### Places that ask for one of several letters -/

/-- The letter before the ending of mouse and louse; a bar counts as one. -/
def mouseOnset : Letter := .oneOf ['m', '|', 'l']

/-- `l` or `r`. -/
def liquid : Letter := .oneOf ['l', 'r']

/-- The letter before the ending of datum and medium. -/
def neuterOnset : Letter := .oneOf ['t', 'i']

/-- Anything but `f`. -/
def notF : Letter := .noneOf ['f']

/-- Anything but a vowel or `y`. -/
def consonant : Letter := .noneOf ['a', 'e', 'i', 'o', 'u', 'y']

/-! ### The tables -/

/-- The plurals of English. -/
def englishPlural : List Rule :=
  [ .adding "quiz" "zes",
    .ofWord "ox" "" "en",
    .afterLetter mouseOnset "ouse" "ice",
    ⟨[⟨spell "matr", spell "ix"⟩, ⟨spell "matr", spell "ex"⟩, ⟨spell "vert", spell "ix"⟩,
      ⟨spell "vert", spell "ex"⟩, ⟨spell "ind", spell "ix"⟩, ⟨spell "ind", spell "ex"⟩],
      "ices", false⟩,
    .after ["x", "ch", "ss", "sh"] "" "es",
    ⟨[⟨[consonant], spell "y"⟩, ⟨spell "qu", spell "y"⟩], "ies", false⟩,
    .adding "hive" "s",
    ⟨[⟨[notF], spell "fe"⟩, ⟨[liquid], spell "f"⟩], "ves", false⟩,
    .replacing "sis" "ses",
    .afterLetter neuterOnset "um" "a",
    .after ["buffal", "tomat", "potat"] "o" "oes",
    .after ["bu"] "s" "ses",
    .after ["alias", "status"] "" "es",
    .after ["octop", "vir"] "us" "i",
    .after ["ax", "test"] "is" "es",
    .replacing "s" "s",
    .adding "" "s" ]

/-- The singulars of English. -/
def englishSingular : List Rule :=
  [ .after ["quiz"] "zes" "",
    .after ["matr", "vert", "ind"] "ices" "ix",
    .ofWord "ox" "en" "",
    .after ["alias", "status"] "es" "",
    .after ["octop", "vir"] "i" "us",
    .after ["cris", "ax", "test"] "es" "is",
    .after ["shoe"] "s" "",
    .after ["o"] "es" "",
    .after ["bus"] "es" "",
    .afterLetter mouseOnset "ice" "ouse",
    .after ["x", "ch", "ss", "sh"] "es" "",
    .after ["m"] "ovies" "ovie",
    .after ["s"] "eries" "eries",
    ⟨[⟨[consonant], spell "ies"⟩, ⟨spell "qu", spell "ies"⟩], "y", false⟩,
    .afterLetter liquid "ves" "f",
    .after ["tive"] "s" "",
    .after ["hive"] "s" "",
    .afterLetter notF "ves" "fe",
    .ofWord "analy" "ses" "sis",
    .afterLetter neuterOnset "a" "um",
    .replacing "s" "" ]

/-- The plurals of French. -/
def frenchPlural : List Rule :=
  [.replacing "al" "aux", .replacing "eau" "eaux", .adding "" "s"]

/-- The singulars of French. -/
def frenchSingular : List Rule :=
  [.replacing "aux" "al", .replacing "eaux" "eau", .replacing "s" ""]

/-- The plurals of Portuguese. -/
def portuguesePlural : List Rule :=
  [ .replacing "ão" "ões",
    .replacing "l" "is",
    .replacing "m" "ns",
    .replacing "r" "res",
    .replacing "s" "ses",
    .adding "" "s" ]

/-- The singulars of Portuguese. -/
def portugueseSingular : List Rule :=
  [ .replacing "ões" "ão",
    .replacing "is" "l",
    .replacing "ns" "m",
    .replacing "res" "r",
    .replacing "ses" "s",
    .replacing "s" "" ]

/-! ### Word forms -/

/-- The grammatical numbers. -/
inductive Number where
  | singular
  | plural
  deriving DecidableEq, Repr

/-- The rules that take a word to a number. -/
def rules : Language → Number → List Rule
  | .english, .plural => englishPlural
  | .english, .singular => englishSingular
  | .french, .plural => frenchPlural
  | .french, .singular => frenchSingular
  | .portuguese, .plural => portuguesePlural
  | .portuguese, .singular => portugueseSingular

/-- The plural of a word. -/
def pluralize (language : Language) (word : String) : String :=
  String.ofList (inflect (rules language .plural) word.toList)

/-- The singular of a word. -/
def singularize (language : Language) (word : String) : String :=
  String.ofList (inflect (rules language .singular) word.toList)

/-- The column that identifies the rows of a table with a plural name. -/
def idColumn (language : Language) (table : String) : String :=
  singularize language table ++ "_id"

example : pluralize .english "category" = "categories" := by decide +kernel
example : singularize .english "matrices" = "matrix" := by decide +kernel
example : singularize .english "taxes" = "taxis" := by decide +kernel
example : singularize .english "USERS" = "USER" := by decide +kernel
example : pluralize .french "bateau" = "bateaux" := by decide +kernel
example : singularize .portuguese "limões" = "limão" := by decide +kernel
example : idColumn .portuguese "contas" = "conta_id" := by decide +kernel

end TableGateway.Inflection
