import SmallLisp.Eval
import SmallLisp.Number.Literal

/-!
# Settings

The scoping mode and the bound on nesting can be set by variables of the surroundings. A variable
that is blank counts as not set.

## Main definitions

* `Variables`: the variables of the surroundings
* `setting`: the value of a variable, or a default
* `scopingSetting`, `limitSetting`: the two settings
* `RequestedLimit`: a bound on nesting as it is asked for
* `hostLimit`: the bound on nesting for a given limit
-/

namespace SmallLisp

/-- The variables of the surroundings, by name. -/
abbrev Variables := List (String × String)

/-- The name of the variable for the scoping mode. -/
def scopingVariable : String := "LISPLET_SCOPING"

/-- The name of the variable for the bound on nesting. -/
def limitVariable : String := "LISPLET_RECURSION_LIMIT"

/-- The bound on nesting that is set if nothing else is. -/
def defaultLimit : Int := 10000

/-- The value of a variable without the blanks around it, or a default if there is nothing
else. -/
def setting (vars : Variables) (name default : String) : String :=
  match vars.lookup name with
  | none => default
  | some raw =>
    let cs := Text.strip raw.toList
    if cs.isEmpty then default else String.ofList cs

/-- The scoping mode that the variables set. -/
def scopingSetting (vars : Variables) : Except SettingError Scoping :=
  let raw := String.ofList (Text.lower (setting vars scopingVariable "dynamic").toList)
  match Scoping.ofName? raw with
  | some mode => .ok mode
  | none => .error (.scopingVariable raw)

/-- The bound on nesting that the variables set, which has to be positive. -/
def limitSetting (vars : Variables) : Except SettingError Int :=
  let raw := setting vars limitVariable (toString defaultLimit)
  match Number.int? raw with
  | none => .error (.limitNotInteger raw)
  | some n => if n ≤ 0 then .error (.limitNotPositive n) else .ok n

/-- A bound on nesting as it is asked for. -/
inductive RequestedLimit where
  | unset
  | number (n : Int)
  /-- A bound is asked for and no number given. -/
  | withoutNumber
  deriving DecidableEq, Repr

/-- The bound on nesting that is asked for, or else the one that the variables set. -/
def RequestedLimit.value (limit : RequestedLimit) (vars : Variables) : Except SettingError Int :=
  match limit with
  | .unset => limitSetting vars
  | .number n => .ok n
  | .withoutNumber => .error .limitWithoutNumber

/-- The bound on nesting before any session is begun. -/
def initialHostLimit : Nat := 1000

/-- The largest bound on nesting. -/
def maxHostLimit : Int := 2147483647

/-- The bound on nesting once a session with a given limit is begun. It is only ever raised. -/
def hostLimit (limit : Int) : Except SettingError Nat :=
  if limit ≤ initialHostLimit then .ok initialHostLimit
  else if maxHostLimit < limit then .error .limitTooLarge
  else .ok limit.toNat

end SmallLisp
