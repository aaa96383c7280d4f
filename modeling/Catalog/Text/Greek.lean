import Catalog.Text.LetterCase

/-!
# Greek folding

Greek words are compared by their sound: accents, case and the spellings of one vowel are folded
away. A pass rewrites vowel pairs and letters, strips the accents and lower-cases; passes repeat
until one changes nothing, since a rewritten letter may complete a new pair.

## Main definitions

* `Greek.foldSounds`: vowel pairs and vowels of one sound
* `Greek.stripAccents`: vowels without tonos and diaeresis
* `Greek.foldOnce`: one pass
* `Greek.normalize`: the passes repeated, where the text needs it
-/

namespace Catalog.Greek

/-- The first code point from which a text is taken to hold Greek. -/
def firstCode : Nat := 0x386

/-- Vowels, accented ones included, in either case. -/
def vowels : List Char :=
  "αάΑΆεέΕΈηήΗΉιίΐϊΙΊΪοόΟΌυύΰϋΥΎΫωώΩΏ".toList

/-- Consonants sounded with the voice, in either case. -/
def voiced : List Char :=
  "γΓβΒδΔζΖλΛμΜνΝρΡ".toList

/-- Forms of upsilon that may close a pair. -/
def upsilons : List Char :=
  "υύΥΎ".toList

/-- Forms of iota that may close a pair. -/
def iotas : List Char :=
  "ιίΙΊ".toList

/-- Whether what follows a pair with upsilon is sounded with the voice. A tau counts only in front
of a zeta. -/
def isVoiced (next after : Option Char) : Bool :=
  match next with
  | none => false
  | some c =>
    vowels.contains c || voiced.contains c ||
      ((c == 'τ' || c == 'Τ') && (after == some 'ζ' || after == some 'Ζ'))

/-- The consonant that an upsilon after alpha or epsilon sounds like. -/
def labial (upsilon : Char) (next after : Option Char) : Char :=
  let upper := upsilon == 'Υ' || upsilon == 'Ύ'
  if isVoiced next after then (if upper then 'Β' else 'β') else (if upper then 'Φ' else 'φ')

/-- The epsilon that a pair of alpha and iota sounds like. -/
def epsilonOf (iota : Char) : Char :=
  match iota with
  | 'ί' => 'έ'
  | 'Ι' => 'Ε'
  | 'Ί' => 'Έ'
  | _ => 'ε'

/-- The vowel that a lone vowel sounds like. -/
def foldLetter (c : Char) : Char :=
  match c with
  | 'η' | 'υ' => 'ι'
  | 'ή' | 'ύ' => 'ί'
  | 'Η' | 'Υ' => 'Ι'
  | 'Ή' | 'Ύ' => 'Ί'
  | 'ω' => 'ο'
  | 'ώ' => 'ό'
  | 'Ω' => 'Ο'
  | 'Ώ' => 'Ό'
  | c => c

/-- Whether a character is a plain alpha or epsilon. -/
def opensLabial (c : Char) : Bool :=
  c == 'α' || c == 'Α' || c == 'ε' || c == 'Ε'

/-- Whether a character is a plain alpha. -/
def isAlpha (c : Char) : Bool :=
  c == 'α' || c == 'Α'

/-- Whether a character is dropped before an iota: a plain epsilon, omicron or upsilon. -/
def yieldsToIota (c : Char) : Bool :=
  c == 'ε' || c == 'Ε' || c == 'ο' || c == 'Ο' || c == 'υ' || c == 'Υ'

/-- Rewrites the pairs of vowels, left to right, and the vowels that stand alone. -/
def foldSounds : List Char → List Char
  | [] => []
  | [c] => [foldLetter c]
  | c :: d :: r =>
    if opensLabial c && upsilons.contains d then
      c :: labial d r.head? r.tail.head? :: foldSounds r
    else if isAlpha c && iotas.contains d then epsilonOf d :: foldSounds r
    else if yieldsToIota c && iotas.contains d then d :: foldSounds r
    else foldLetter c :: foldSounds (d :: r)

/-- A vowel without its accent. -/
def stripAccent (c : Char) : Char :=
  match c with
  | 'ά' => 'α'
  | 'Ά' => 'Α'
  | 'έ' => 'ε'
  | 'Έ' => 'Ε'
  | 'ή' => 'η'
  | 'Ή' => 'Η'
  | 'ί' | 'ΐ' | 'ϊ' => 'ι'
  | 'Ί' | 'Ϊ' => 'Ι'
  | 'ό' => 'ο'
  | 'Ό' => 'Ο'
  | 'ύ' | 'ΰ' | 'ϋ' => 'υ'
  | 'Ύ' | 'Ϋ' => 'Υ'
  | 'ώ' => 'ω'
  | 'Ώ' => 'Ω'
  | c => c

/-- A text without accents. -/
def stripAccents (s : List Char) : List Char :=
  s.map stripAccent

/-- One pass: sounds, accents, case. -/
def foldOnce (s : List Char) : List Char :=
  lowercase (stripAccents (foldSounds s))

/-- Whether folding is called for: the text holds a Greek or later character, or a capital. -/
def needsFolding (s : List Char) : Bool :=
  s.any fun c => firstCode ≤ c.toNat || isUppercase c

/-- Repeats a step until it changes nothing, at most so many times. -/
def settle (step : List Char → List Char) : Nat → List Char → List Char
  | 0, s => s
  | n + 1, s => let t := step s; if t = s then s else settle step n t

/-- The passes that a text of a given length is allowed after the first. -/
def passBound (length : Nat) : Nat :=
  2 * length + 2

/-- The folded form of a text. -/
def normalize (s : List Char) : List Char :=
  if needsFolding s then settle foldOnce (passBound s.length) (foldOnce s) else s

/-- The folded form of a text, as a text. -/
def normalizeText (s : String) : String :=
  String.ofList (normalize s.toList)

end Catalog.Greek
