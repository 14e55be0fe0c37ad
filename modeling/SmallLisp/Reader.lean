import SmallLisp.Error
import SmallLisp.Number.Literal
import SmallLisp.Token

/-!
# Reading programs

Tokens are read into values. A word is an integer if it can be, else a float, else a symbol, and
the tokens between two matching parentheses form a list. Forms may be nested only up to a given
depth.

## Main definitions

* `atom`: the value of a word
* `readFrom`: reads one form, given the lists that are open
* `readForm`: reads one form from the front of a list of tokens
* `readForms`: reads forms to the end
* `parse`: the only form of a text
* `parseAll`: all forms of a text
* `checkParens`: whether a text is enclosed in parentheses that balance in number
-/

namespace SmallLisp

/-- The value of a word. -/
def atom (word : String) : Value :=
  match Number.int? word with
  | some n => .int n
  | none =>
    match Number.float? word with
    | some x => .float x
    | none => .sym ⟨word⟩

/-- The outcome of reading one form: a value or an error, and the tokens that are left. -/
structure Reading where
  result : Except ReadError Value
  left : List Token

/-- Reads tokens up to the end of the form that was begun. The lists that are open are given
from the innermost to the outermost, each with its items in reverse. At most `limit` lists may be
open at a time. -/
def readFrom (limit : Nat) (lists : List (List Value)) : List Token → Reading
  | [] => ⟨.error (if lists.isEmpty then .endOfInput else .unclosed), []⟩
  | .opening :: ts =>
    if lists.length < limit then readFrom limit ([] :: lists) ts else ⟨.error .tooDeep, ts⟩
  | .closing :: ts =>
    match lists with
    | [] => ⟨.error .strayClosing, ts⟩
    | [items] => ⟨.ok (.list items.reverse), ts⟩
    | items :: next :: rest => readFrom limit ((.list items.reverse :: next) :: rest) ts
  | .word w :: ts =>
    match lists with
    | [] => ⟨.ok (atom w), ts⟩
    | items :: rest => readFrom limit ((atom w :: items) :: rest) ts

/-- Reads one form from the front of the tokens. -/
def readForm (limit : Nat) (ts : List Token) : Reading :=
  readFrom limit [] ts

/-- What is left after a form is shorter than what was there before. -/
theorem length_left_readFrom_lt (limit : Nat) (lists : List (List Value)) (ts : List Token)
    (h : ts ≠ []) : (readFrom limit lists ts).left.length < ts.length := by
  induction ts generalizing lists with
  | nil => exact absurd rfl h
  | cons t ts ih =>
    have step (ls : List (List Value)) :
        (readFrom limit ls ts).left.length < (t :: ts).length := by
      cases ts with
      | nil => simp [readFrom]
      | cons u us =>
        exact Nat.lt_succ_of_lt (ih ls (List.cons_ne_nil _ _))
    cases t with
    | opening =>
      simp only [readFrom]
      split
      · exact step _
      · simp
    | closing =>
      match lists with
      | [] => simp [readFrom]
      | [items] => simp [readFrom]
      | items :: next :: rest => exact step _
    | word w =>
      match lists with
      | [] => simp [readFrom]
      | items :: rest => exact step _

/-- The outcome of reading forms to the end: their values or an error, and the tokens that are
left. -/
structure Readings where
  results : Except ReadError (List Value)
  left : List Token

/-- Reads forms from the front of the tokens until none are left or one cannot be read. -/
def readForms (limit : Nat) (ts : List Token) : Readings :=
  match ts with
  | [] => ⟨.ok [], []⟩
  | t :: rest =>
    let reading := readForm limit (t :: rest)
    match reading.result with
    | .error e => ⟨.error e, reading.left⟩
    | .ok v =>
      let others := readForms limit reading.left
      ⟨others.results.map (v :: ·), others.left⟩
termination_by ts.length
decreasing_by
  exact length_left_readFrom_lt limit [] (t :: rest) (List.cons_ne_nil _ _)

/-- The only form of a text. -/
def parse (limit : Nat) (source : String) : Except ReadError Value :=
  let ts := tokenize source
  if ts.isEmpty then .error .emptyInput
  else
    let reading := readForm limit ts
    match reading.result with
    | .error e => .error e
    | .ok v =>
      match reading.left with
      | [] => .ok v
      | .closing :: _ => .error .closingAfter
      | left => .error (.trailing (Text.joinWith " " (left.map Token.text)))

/-- All forms of a text. -/
def parseAll (limit : Nat) (source : String) : Except ReadError (List Value) :=
  (readForms limit (tokenize source)).results

/-- Whether a text starts with an opening parenthesis, ends with a closing one, and has as many
of the one as of the other. -/
def checkParens (source : String) : Except ReadError Unit :=
  let ts := tokenize source
  if ts.isEmpty then .error .emptyInput
  else if ts.head? ≠ some .opening ∨ ts.getLast? ≠ some .closing then .error .notEnclosed
  else if depth ts ≠ 0 then .error (.unbalanced (depth ts))
  else .ok ()

end SmallLisp
