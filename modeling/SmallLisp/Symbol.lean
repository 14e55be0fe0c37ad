/-!
# Symbols

A symbol is a name. Two symbols are equal if their names are.
-/

namespace SmallLisp

/-- A name in a program. -/
structure Symbol where
  name : String
  deriving DecidableEq, Repr

end SmallLisp
