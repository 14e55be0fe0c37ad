import SmallLisp.Text.Replace

/-!
# Filling placeholders

A template may hold two placeholders: `~a` stands for a text, and `~a~%` for the text followed by
an end of line. They are filled in two passes, the longer one first. The second pass also sees what
the first one put in.

## Main definitions

* `fillPlaceholders`: both placeholders filled, in two passes
* `substitute`: both placeholders filled, in one pass that does not look at what it put in
-/

namespace SmallLisp

/-- The placeholder for a text followed by an end of line. -/
def linePlaceholder : List Char := ['~', 'a', '~', '%']

/-- The placeholder for a text. -/
def placeholder : List Char := ['~', 'a']

/-- The characters of a template with both placeholders filled. -/
def fillChars (template fill : List Char) : List Char :=
  Text.replaceAll placeholder fill (Text.replaceAll linePlaceholder (fill ++ ['\n']) template)

/-- A template with both placeholders filled. -/
def fillPlaceholders (template fill : String) : String :=
  String.ofList (fillChars template.toList fill.toList)

/-- The characters of a template with both placeholders filled from left to right. -/
def substituteChars (fill : List Char) : List Char → List Char
  | '~' :: 'a' :: '~' :: '%' :: cs => fill ++ '\n' :: substituteChars fill cs
  | '~' :: 'a' :: cs => fill ++ substituteChars fill cs
  | c :: cs => c :: substituteChars fill cs
  | [] => []

/-- A template with both placeholders filled from left to right. -/
def substitute (template fill : String) : String :=
  String.ofList (substituteChars fill.toList template.toList)

end SmallLisp
