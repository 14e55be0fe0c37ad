/-!
# Blanks and words

Text is handled as a list of characters. Blank characters separate words, and the words of a
text are its maximal runs of other characters.

## Main definitions

* `isBlank`: the characters that separate words
* `strip`: a text without the blanks around it
* `words`: the maximal runs of characters that are not blank
* `joinWith`: texts put one after another with a separator between them
-/

namespace SmallLisp.Text

/-- The characters that separate words: the white space of the Unicode standard, together with
the four information separators. -/
def isBlank (c : Char) : Bool :=
  let n := c.toNat
  (0x09 ≤ n && n ≤ 0x0D) || (0x1C ≤ n && n ≤ 0x20) || n == 0x85 || n == 0xA0 || n == 0x1680 ||
    (0x2000 ≤ n && n ≤ 0x200A) || n == 0x2028 || n == 0x2029 || n == 0x202F || n == 0x205F ||
    n == 0x3000

/-- A text without the blanks around it. -/
def strip (cs : List Char) : List Char :=
  ((cs.dropWhile isBlank).reverse.dropWhile isBlank).reverse

/-- A word put in front of others, unless it is empty. -/
def pushWord (w : List Char) (ws : List (List Char)) : List (List Char) :=
  if w.isEmpty then ws else w :: ws

/-- One character read from the right: the word under way, and the words after it. -/
def wordStep (c : Char) (r : List Char × List (List Char)) : List Char × List (List Char) :=
  if isBlank c then ([], pushWord r.1 r.2) else (c :: r.1, r.2)

/-- The maximal runs of characters that are not blank, in order. -/
def words (cs : List Char) : List (List Char) :=
  let r := cs.foldr wordStep ([], [])
  pushWord r.1 r.2

/-- The texts of `ts` one after another, with `sep` between each two. -/
def joinWith (sep : String) (ts : List String) : String :=
  sep.intercalate ts

/-! ## Small facts -/

@[simp] theorem words_nil : words [] = [] := rfl

@[simp] theorem pushWord_nil (ws : List (List Char)) : pushWord [] ws = ws := rfl

@[simp] theorem pushWord_cons (c : Char) (w : List Char) (ws : List (List Char)) :
    pushWord (c :: w) ws = (c :: w) :: ws := rfl

end SmallLisp.Text
