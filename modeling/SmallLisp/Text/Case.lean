import SmallLisp.Text.CaseTable

/-!
# Upper and lower case

The full case mappings: one character may become several, and a capital sigma at the end of a
word becomes a final sigma.

## Main definitions

* `upper`: a text in upper case
* `lower`: a text in lower case
-/

namespace SmallLisp.Text

/-- The image of a character under a table of runs. -/
def shifted (runs : Array CaseRun) (n : Nat) : Nat :=
  match runs.find? fun r => r.first ≤ n && n ≤ r.last && (n - r.first) % r.step == 0 with
  | some r => (n + r.shift).toNat
  | none => n

/-- The image of a character: a special one if the table lists it, else that of the runs. -/
def caseImage (special : Array (Nat × List Nat)) (runs : Array CaseRun) (c : Char) : List Char :=
  match special.find? fun e => e.1 == c.toNat with
  | some e => e.2.map Char.ofNat
  | none => [Char.ofNat (shifted runs c.toNat)]

/-- Whether a character lies in one of the ranges. -/
def inRanges (ranges : Array (Nat × Nat)) (c : Char) : Bool :=
  ranges.any fun r => r.1 ≤ c.toNat && c.toNat ≤ r.2

/-- Whether the first character that is not passed over has a case. -/
def startsCased (cs : List Char) : Bool :=
  match cs.dropWhile (inRanges caseIgnorableRanges) with
  | [] => false
  | c :: _ => inRanges casedRanges c

/-- A text in upper case. -/
def upper (cs : List Char) : List Char :=
  cs.flatMap (caseImage upperSpecial upperRuns)

/-- A text in lower case, `before` being the characters in front of it from right to left. A
capital sigma is final if a cased character stands before it and none after it. -/
def lowerFrom (before : List Char) : List Char → List Char
  | [] => []
  | c :: cs =>
    let image :=
      if c.toNat = 0x3A3 then
        [Char.ofNat (if startsCased before && !startsCased cs then 0x3C2 else 0x3C3)]
      else caseImage lowerSpecial lowerRuns c
    image ++ lowerFrom (c :: before) cs

/-- A text in lower case. -/
def lower (cs : List Char) : List Char :=
  lowerFrom [] cs

end SmallLisp.Text
