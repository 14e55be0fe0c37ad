import SmallLisp.Text.Printable

/-!
# Quoted text

Text between quotes, as it is shown for inspection. The quote is single unless the text has
single quotes and no double ones. Backslashes, the quote itself and characters that are not
printable are escaped.

## Main definitions

* `quoteFor`: the quote a text is set in
* `escape`: how one character is written between quotes
* `quoted`: a text between quotes
-/

namespace SmallLisp.Text

/-- The lowercase hexadecimal digits of `n`, the last `width` of them. -/
def hexDigits (width n : Nat) : List Char :=
  (List.range width).reverse.map fun i => Nat.digitChar ((n >>> (4 * i)) % 16)

/-- The escape of a character that is not printable: two, four or eight hexadecimal digits. -/
def escapeCode (n : Nat) : List Char :=
  if n < 0x100 then '\\' :: 'x' :: hexDigits 2 n
  else if n < 0x10000 then '\\' :: 'u' :: hexDigits 4 n
  else '\\' :: 'U' :: hexDigits 8 n

/-- The quote a text is set in. -/
def quoteFor (cs : List Char) : Char :=
  if cs.contains '\'' && !cs.contains '"' then '"' else '\''

/-- How a character is written between the quotes `q`. -/
def escape (q c : Char) : List Char :=
  if c = q || c = '\\' then ['\\', c]
  else if c = '\n' then ['\\', 'n']
  else if c = '\r' then ['\\', 'r']
  else if c = '\t' then ['\\', 't']
  else if isPrintable c then [c]
  else escapeCode c.toNat

/-- A text between quotes. -/
def quoted (s : String) : String :=
  let cs := s.toList
  let q := quoteFor cs
  String.ofList (q :: cs.flatMap (escape q) ++ [q])

end SmallLisp.Text
