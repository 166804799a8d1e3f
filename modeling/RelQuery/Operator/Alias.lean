import RelQuery.Operator

/-!
# Words for operators

A query may spell operators as words such as `union` or `select_`. `symbolize` rewrites every word
to its symbol, in lower and in upper case, one word of the list after the other, wherever it stands
in the text, inside a longer name or a condition too.
-/

namespace RelQuery.Operator

/-- The spellings of operators in the order in which they are replaced. A spelling that ends in
another one comes before it. -/
def aliases : List (Text × Operator) :=
  [("select_".toList, select),
   ("project_".toList, project),
   ("union".toList, union),
   ("intersect".toList, intersect),
   ("difference".toList, difference),
   ("minus".toList, difference),
   ("thetajoin_".toList, thetaJoin),
   ("join_".toList, naturalJoin),
   ("cross_".toList, cartesian),
   (['*'], cartesian),
   (['X'], cartesian)]

/-- Replaces one spelling by its symbol, first as it is listed and then in upper case. -/
def replaceAlias (text : Text) (spelling : Text × Operator) : Text :=
  let symbol := [spelling.2.symbol]
  Text.replaceAll (spelling.1.map Char.toUpper) symbol (Text.replaceAll spelling.1 symbol text)

/-- Replaces every spelling of an operator by the operator's symbol. -/
def symbolize (text : Text) : Text :=
  aliases.foldl replaceAlias text

end RelQuery.Operator
