/-!
# Replacing parts of a text

Occurrences of a pattern are found from left to right and do not overlap, and what is put in
their place is not searched again.

## Main definitions

* `replaceAll`: every occurrence of a pattern replaced
* `pad`: every occurrence of a character set between spaces
-/

namespace SmallLisp.Text

/-- Replaces the occurrences of `pattern` in a text whose first `skip` characters belong to an
occurrence that was replaced before. -/
def replaceFrom (pattern new : List Char) : Nat → List Char → List Char
  | _, [] => []
  | skip + 1, _ :: cs => replaceFrom pattern new skip cs
  | 0, c :: cs =>
    if pattern.isPrefixOf (c :: cs) then
      new ++ replaceFrom pattern new (pattern.length - 1) cs
    else c :: replaceFrom pattern new 0 cs

/-- Every occurrence of the nonempty text `pattern` replaced by `new`. -/
def replaceAll (pattern new cs : List Char) : List Char :=
  replaceFrom pattern new 0 cs

/-- Every occurrence of `mark` set between two spaces. -/
def pad (mark : Char) (cs : List Char) : List Char :=
  cs.flatMap fun c => if c = mark then [' ', c, ' '] else [c]

/-! ## Small facts -/

@[simp] theorem replaceAll_nil (pattern new : List Char) : replaceAll pattern new [] = [] := rfl

@[simp] theorem pad_nil (mark : Char) : pad mark [] = [] := rfl

theorem pad_cons (mark c : Char) (cs : List Char) :
    pad mark (c :: cs) = (if c = mark then [' ', c, ' '] else [c]) ++ pad mark cs := by
  simp [pad]

theorem pad_append (mark : Char) (cs ds : List Char) :
    pad mark (cs ++ ds) = pad mark cs ++ pad mark ds := by
  simp [pad]

end SmallLisp.Text
