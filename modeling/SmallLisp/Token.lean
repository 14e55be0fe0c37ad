import SmallLisp.Text.Blank
import SmallLisp.Text.Replace

/-!
# Tokens

A source text is cut into tokens: each parenthesis is a token of its own, and every other token
is a run of characters that are neither parentheses nor blank.

## Main definitions

* `Token`: an opening parenthesis, a closing one, or a word
* `tokenize`: the tokens of a text, by padding the parentheses and splitting at blanks
* `depth`: how many parentheses are opened and not closed
-/

namespace SmallLisp

/-- A lexical unit of the source. -/
inductive Token where
  | opening
  | closing
  | word (text : String)
  deriving DecidableEq, Repr

namespace Token

/-- The token a piece of text stands for. -/
def ofText (s : String) : Token :=
  if s = "(" then .opening else if s = ")" then .closing else .word s

/-- The text of a token. -/
def text : Token → String
  | .opening => "("
  | .closing => ")"
  | .word s => s

/-- What a token adds to the nesting depth. -/
def weight : Token → Int
  | .opening => 1
  | .closing => -1
  | .word _ => 0

@[simp] theorem text_ofText (s : String) : (ofText s).text = s := by
  unfold ofText
  split
  · simp_all [text]
  · split <;> simp_all [text]

end Token

/-- The tokens of a text: both parentheses are set between spaces, and the result is split at
blanks. -/
def tokenize (source : String) : List Token :=
  (Text.words (Text.pad ')' (Text.pad '(' source.toList))).map fun w =>
    Token.ofText (String.ofList w)

/-- The number of opening parentheses less the number of closing ones. -/
def depth (ts : List Token) : Int :=
  ts.foldr (fun t d => t.weight + d) 0

@[simp] theorem depth_nil : depth [] = 0 := rfl

@[simp] theorem depth_cons (t : Token) (ts : List Token) : depth (t :: ts) = t.weight + depth ts :=
  rfl

@[simp] theorem depth_append (ts us : List Token) : depth (ts ++ us) = depth ts + depth us := by
  induction ts with
  | nil => simp
  | cons t ts ih => rw [List.cons_append, depth_cons, depth_cons, ih, Int.add_assoc]

end SmallLisp
