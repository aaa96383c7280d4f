import Catalog.Text.CharClass

/-!
# Blank characters

The characters of the Unicode property `White_Space`, and the two things done with them: trimming
a text at both ends and cutting it into words.

## Main definitions

* `isBlank`: the property
* `trim`: a text without the blanks at its ends
* `pieces`, `wordsBy`: a text cut at separators, with and without the empty pieces
-/

namespace Catalog

/-- Characters with the property `White_Space`. -/
def blankClass : CharClass where
  ranges := [
  (0x9, 0xd), (0x20, 0x20), (0x85, 0x85), (0xa0, 0xa0), (0x1680, 0x1680), (0x2000, 0x200a),
  (0x2028, 0x2029), (0x202f, 0x202f), (0x205f, 0x205f), (0x3000, 0x3000)]

/-- Whether a character is white space. -/
def isBlank (c : Char) : Bool :=
  blankClass.contains c

/-- The characters without the blanks in front. -/
def trimStart (s : List Char) : List Char :=
  s.dropWhile isBlank

/-- The characters without the blanks at either end. -/
def trimChars (s : List Char) : List Char :=
  (trimStart (trimStart s).reverse).reverse

/-- A text without the blanks at either end. -/
def trim (s : String) : String :=
  String.ofList (trimChars s.toList)

/-- A text of blanks only, such as the empty text. -/
def isBlankText (s : String) : Bool :=
  s.toList.all isBlank

/-- The pieces between separators, in order, empty ones included: one more than there are
separators. -/
def pieces (isSep : Char → Bool) : List Char → List (List Char)
  | [] => [[]]
  | c :: r =>
    if isSep c then [] :: pieces isSep r
    else match pieces isSep r with
      | [] => [[c]]
      | p :: ps => (c :: p) :: ps

/-- The maximal non-empty runs of characters that are no separator, in order. -/
def wordsBy (isSep : Char → Bool) (s : List Char) : List (List Char) :=
  (pieces isSep s).filter fun p => !p.isEmpty

/-- The words of a text: its maximal runs without white space. -/
def words (s : String) : List String :=
  (wordsBy isBlank s.toList).map String.ofList

end Catalog
