import TableGateway.Inflection.Letter

/-! # Inflection rules

A `Rule` replaces the end of a word.  It has one or more endings, each a part that is kept as it
stands in the word and a part that is dropped, and a suffix that takes the place of what was
dropped.  Of several places where a rule fits, the earliest in the word counts, so the longest
ending wins.  `inflect` applies the first rule of a table that fits, and leaves a word that none
fits as it is. -/

namespace TableGateway.Inflection

/-- The end of a word: what stays, then what goes. -/
structure Ending where
  keep : List Letter := []
  drop : List Letter := []
  deriving DecidableEq, Repr

/-- A replacement of one of several endings by a suffix. -/
structure Rule where
  endings : List Ending
  suffix : String
  /-- Whether the ending must be the whole word. -/
  whole : Bool := false
  deriving DecidableEq, Repr

/-- The rest of a word, rewritten if it is exactly this ending. -/
def Ending.rewrite? (e : Ending) (suffix : String) (rest : List Char) : Option (List Char) :=
  if Letter.acceptsAll (e.keep ++ e.drop) rest then
    some (rest.take e.keep.length ++ suffix.toList)
  else none

namespace Rule

/-- The rest of a word, rewritten if it is exactly one of the rule's endings. -/
def rewriteHere? (r : Rule) (rest : List Char) : Option (List Char) :=
  r.endings.findSome? fun e => e.rewrite? r.suffix rest

/-- The word with its earliest fitting ending rewritten. -/
def rewrite? (r : Rule) : List Char → Option (List Char)
  | [] => r.rewriteHere? []
  | c :: rest =>
    match r.rewriteHere? (c :: rest) with
    | some rewritten => some rewritten
    | none => if r.whole then none else (r.rewrite? rest).map (c :: ·)

end Rule

/-- The word as the first fitting rule has it, or unchanged. -/
def inflect (rules : List Rule) (word : List Char) : List Char :=
  (rules.findSome? fun r => r.rewrite? word).getD word

end TableGateway.Inflection
