/-!
# Regular expressions

The fragment of regular expressions that queries use: characters and dots one after the other, each
of which may be repeated by a star. A backslash takes the meaning from the character after it. An
expression matches a whole text, and a dot is any character but a line feed.

## Main definitions

* `Regex`: an expression as its items
* `Regex.read?`: the expression of a text
* `Regex.accepts`: whether an expression matches a text
* `escapeRegexChar`: the text of the expression that matches just one character
-/

namespace Catalog

/-- What stands for one character. -/
inductive RegexAtom where
  | char (c : Char)
  /-- Any character but a line feed. -/
  | dot
  deriving DecidableEq, Repr

/-- Whether a character is one that an atom stands for. -/
def RegexAtom.accepts : RegexAtom → Char → Bool
  | .char d, c => d == c
  | .dot, c => c != '\n'

/-- An atom, once or any number of times. -/
structure RegexItem where
  atom : RegexAtom
  starred : Bool
  deriving DecidableEq, Repr

/-- An expression: its items from left to right. -/
structure Regex where
  items : List RegexItem
  deriving DecidableEq, Repr

/-- The characters that mean something else than themselves, or do so within brackets. -/
def regexSpecials : List Char :=
  ['\\', '.', '+', '*', '?', '(', ')', '|', '[', ']', '{', '}', '^', '$', '#', '&', '-', '~']

/-- A character, behind a backslash if it would mean something else. -/
def escapeRegexChar (c : Char) : List Char :=
  if regexSpecials.contains c then ['\\', c] else [c]

/-- Takes the star behind an atom, if there is one. -/
def takeStar : List Char → Bool × List Char
  | '*' :: r => (true, r)
  | r => (false, r)

/-- Reads items one by one; nothing if a text has parts outside the fragment. -/
def readRegexItems : Nat → List Char → Option (List RegexItem)
  | _, [] => some []
  | 0, _ => none
  | n + 1, '\\' :: c :: r =>
    if regexSpecials.contains c then
      let (starred, r) := takeStar r
      (readRegexItems n r).map (⟨.char c, starred⟩ :: ·)
    else none
  | n + 1, c :: r =>
    if c == '.' || !regexSpecials.contains c || c == '#' || c == '&' || c == '-' || c == '~' then
      let (starred, r) := takeStar r
      (readRegexItems n r).map (⟨if c == '.' then .dot else .char c, starred⟩ :: ·)
    else none

/-- The expression of a text. -/
def Regex.read? (s : String) : Option Regex :=
  (readRegexItems s.toList.length s.toList).map Regex.mk

/-- From what the items behind match of each end of a text, the longest first, to what they match
together with an atom in front. -/
def RegexAtom.extendOnce (a : RegexAtom) : List Char → List Bool → List Bool
  | c :: s, _ :: behind => (a.accepts c && behind.headD false) :: a.extendOnce s behind
  | _, _ => [false]

/-- The same for an atom in front that may be repeated. -/
def RegexAtom.extendStar (a : RegexAtom) : List Char → List Bool → List Bool
  | c :: s, b :: behind =>
    let rest := a.extendStar s behind
    (b || a.accepts c && rest.headD false) :: rest
  | _, behind => behind

/-- Which ends of a text items match, the longest end first. -/
def matchedEnds : List RegexItem → List Char → List Bool
  | [], s => s.map (fun _ => false) ++ [true]
  | i :: items, s =>
    if i.starred then i.atom.extendStar s (matchedEnds items s)
    else i.atom.extendOnce s (matchedEnds items s)

/-- Whether an expression matches a text. -/
def Regex.accepts (x : Regex) (s : List Char) : Bool :=
  (matchedEnds x.items s).headD false

end Catalog
