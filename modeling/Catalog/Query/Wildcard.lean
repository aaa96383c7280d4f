import Catalog.Text.Regex

/-!
# Wildcards, edits and escapes

How the literal of a clause becomes what is searched for: a star stands for any characters and a
question mark for any one, a text without either is the beginning of what is wanted, and the
characters that mean something in an expression get a backslash.

## Main definitions

* `wildcardRegex`: the regular expression of a text with wildcards
* `editsFor`: how many edits a text allows
* `escapeExpression`: a text as an expression that has no other meaning
-/

namespace Catalog

/-- The part of a regular expression that stands for one character of a text with wildcards. -/
def wildcardPart (c : Char) : List Char :=
  if c == '*' then ['.', '*'] else if c == '?' then ['.'] else escapeRegexChar c

/-- The regular expression of characters with wildcards. -/
def wildcardChars (s : List Char) : List Char :=
  s.flatMap wildcardPart ++ if s.contains '*' || s.contains '?' then [] else ['.', '*']

/-- The regular expression of a text with wildcards. -/
def wildcardRegex (s : String) : String :=
  String.ofList (wildcardChars s.toList)

/-- The most edits that a fuzzy clause allows. -/
def mostEdits : Nat := 2

/-- The share of characters that has to stay in a fuzzy clause that is not cut into words. -/
def fuzzySimilarity : Float32 := 0.7

/-- How many edits a text allows if a share of its characters has to stay. -/
def editsFor (s : String) (similarity : Float32) : Nat :=
  min ((1 - similarity) * s.length.toFloat32).toUInt8.toNat mostEdits

/-- The characters that mean something in an expression. -/
def expressionSpecials : List Char :=
  ['+', '-', '&', '|', '!', '(', ')', '{', '}', '[', ']', '^', '"', '~', '*', '?', ':', '\\', '/']

/-- A text with a backslash before each character that means something in an expression. -/
def escapeExpression (s : String) : String :=
  String.ofList (s.toList.flatMap fun c => if expressionSpecials.contains c then ['\\', c] else [c])

end Catalog
