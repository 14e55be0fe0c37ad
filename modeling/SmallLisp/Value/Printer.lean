import SmallLisp.Error
import SmallLisp.Number.Text
import SmallLisp.Text.Blank

/-!
# Printed values

A value is printed for the user, or shown for inspection. Printed lists are written as programs
are, printed functions give no text, and texts stand without quotes. Inspection tells all sorts
of values apart. Neither succeeds if it meets an integer with too many digits.

Writing takes room on a stack, just as evaluation does. A value takes some places of the room, and
its items are written in what is left. So a value that is nested too deeply cannot be written.

## Main definitions

* `Style`: printed or inspected
* `Style.places`, `definitionPlaces`: the places that writing takes
* `Value.render`: the text of a value in a style, within a room
* `Value.print`, `Value.inspect`: the two styles
* `Value.plain`: the text of a value as a name or a message uses it
-/

namespace SmallLisp

/-- The two ways to write a value. -/
inductive Style where
  | printed
  | inspected
  deriving DecidableEq, Repr

/-- The places that a value takes when it is written, before those of its items. -/
def Style.places : Style → Nat
  | .printed => 3
  | .inspected => 1

/-- The places between a function and its body when the definition of the function is written. -/
def definitionPlaces : Nat := 2

/-- The definition of a function as it is read, given the text of the body. -/
def definitionText (name : Symbol) (params : List Symbol) (body : String) : String :=
  "(defun " ++ name.name ++ " (" ++ Text.joinWith " " (params.map Symbol.name) ++ ") " ++ body ++ ")"

/-- The text of a boolean. -/
def boolText : Style → Bool → String
  | .printed, b => if b then "#t" else "#f"
  | .inspected, b => if b then "True" else "False"

/-- The inspected items of a tuple. A single item is followed by a comma. -/
def tupleText : List String → String
  | [t] => "(" ++ t ++ ",)"
  | ts => "(" ++ Text.joinWith ", " ts ++ ")"

/-- The text of a list. -/
def listText : Style → List String → String
  | .printed, ts => "(" ++ Text.joinWith " " ts ++ ")"
  | .inspected, ts => "[" ++ Text.joinWith ", " ts ++ "]"

/-- The text of an integer. -/
def intText (n : Int) : Except TextFault String :=
  match Number.intText? n with
  | some t => .ok t
  | none => .error .digitLimit

namespace Value

mutual

/-- The text of a value, unless it holds an integer with too many digits or is nested too deeply for
the room. The items of a tuple are always inspected. -/
def render (style : Style) (room : Nat) (v : Value) : Except TextFault String :=
  if room < style.places then .error .stackExhausted
  else
    match v with
    | .int n => intText n
    | .float x => .ok (Number.floatText x)
    | .bool b => .ok (boolText style b)
    | .nothing => .ok "None"
    | .str s =>
      match style with
      | .printed => .ok s
      | .inspected => .ok (Text.quoted s)
    | .sym s =>
      match style with
      | .printed => .ok s.name
      | .inspected => .ok ("Symbol(" ++ Text.quoted s.name ++ ")")
    | .list vs => (renderAll style (room - style.places) vs).map (listText style)
    | .tuple vs => (renderAll .inspected (room - style.places) vs).map tupleText
    | .function _ name params body _ =>
      match style with
      | .printed => .ok ""
      | .inspected =>
        (render .printed (room - style.places - definitionPlaces) body).map fun t =>
          "<UserFunction " ++ definitionText name params t ++ ">"
    | .builtin b => .ok ("#<builtin " ++ b.name ++ ">")

/-- The texts of several values, each within the same room. The first that cannot be written
decides the fault. -/
def renderAll (style : Style) (room : Nat) : List Value → Except TextFault (List String)
  | [] => .ok []
  | v :: vs => do
    let t ← render style room v
    let ts ← renderAll style room vs
    pure (t :: ts)

end

/-- The text that is printed for a value, within a room. -/
def print (room : Nat) (v : Value) : Except TextFault String :=
  v.render .printed room

/-- The text that shows a value for inspection, within a room. -/
def inspect (room : Nat) (v : Value) : Except TextFault String :=
  v.render .inspected room

/-- The plain text of a value: texts and symbols as they are, functions by their definition, and
other values as for inspection. -/
def plain (room : Nat) : Value → Except TextFault String
  | .str s => .ok s
  | .sym s => .ok s.name
  | .function _ name params body _ =>
    (body.print (room - definitionPlaces)).map (definitionText name params)
  | v => v.inspect room

end Value

end SmallLisp
