/-!
# Stems of English words

The stem of a lower-case English word: suffixes are dropped or exchanged in a few rounds. A rule
applies to the longest of its suffixes that the word ends in, and some only inside a region: `p1`
starts after the first consonant that follows a vowel, `p2` after the next one.

## Main definitions

* `Stem.Word`: a word with its two regions
* `Stem.english`: the stem of a word
-/

namespace Catalog.Stem

/-- Vowels. A `y` that sounds like a consonant is written `Y` while the rules run. -/
def isVowel (c : Char) : Bool :=
  "aeiouy".toList.contains c

/-- The letters that may stand before a suffix `li` that is dropped. -/
def takesLi (c : Char) : Bool :=
  "cdeghkmnrt".toList.contains c

/-- A word and where its two regions start. -/
structure Word where
  letters : List Char
  p1 : Nat
  p2 : Nat

/-- Words with a stem of their own. -/
def irregular : List (String × String) := [
  ("skis", "ski"), ("skies", "sky"), ("dying", "die"), ("lying", "lie"), ("tying", "tie"),
  ("idly", "idl"), ("gently", "gentl"), ("ugly", "ugli"), ("early", "earli"), ("only", "onli"),
  ("singly", "singl"), ("sky", "sky"), ("news", "news"), ("howe", "howe"), ("atlas", "atlas"),
  ("cosmos", "cosmos"), ("bias", "bias"), ("andes", "andes")]

/-- Words left alone once a plural ending is gone. -/
def invariable : List String :=
  ["inning", "outing", "canning", "herring", "earring", "proceed", "exceed", "succeed"]

/-- Marks each `y` that follows a vowel. -/
def markInner : List Char → List Char
  | [] => []
  | [c] => [c]
  | c :: d :: r =>
    if isVowel c && d == 'y' then c :: 'Y' :: markInner r else c :: markInner (d :: r)

/-- Marks each `y` that sounds like a consonant: the first letter, or one after a vowel. -/
def markY (w : List Char) : List Char :=
  match w with
  | 'y' :: r => 'Y' :: markInner r
  | w => markInner w

/-- How many letters lead up to and over the first consonant that follows a vowel. -/
def regionStart (w : List Char) : Option Nat :=
  let vowelless := w.takeWhile fun c => !isVowel c
  let rest := w.drop vowelless.length
  let vowels := rest.takeWhile isVowel
  if (rest.drop vowels.length).isEmpty then none
  else some (vowelless.length + vowels.length + 1)

/-- The beginnings after which the first region starts in any case. -/
def fixedBeginnings : List String := ["gener", "commun", "arsen"]

/-- A word with its regions, which are empty where a word has none. -/
def Word.ofLetters (w : List Char) : Word :=
  let n := w.length
  let p1? := match fixedBeginnings.find? fun p => p.toList.isPrefixOf w with
    | some p => some p.length
    | none => regionStart w
  match p1? with
  | none => ⟨w, n, n⟩
  | some p1 =>
    match regionStart (w.drop p1) with
    | none => ⟨w, p1, n⟩
    | some k => ⟨w, p1, p1 + k⟩

/-- The letters before the last `n`. -/
def Word.before (w : Word) (n : Nat) : List Char :=
  w.letters.take (w.letters.length - n)

/-- The word with its last `n` letters replaced. -/
def Word.replace (w : Word) (n : Nat) (ending : String) : Word :=
  { w with letters := w.before n ++ ending.toList }

/-- Whether the last `n` letters lie in the first region. -/
def Word.inR1 (w : Word) (n : Nat) : Bool :=
  n + w.p1 ≤ w.letters.length

/-- Whether the last `n` letters lie in the second region. -/
def Word.inR2 (w : Word) (n : Nat) : Bool :=
  n + w.p2 ≤ w.letters.length

/-- The first suffix of a list, longest first, that the word ends in. -/
def Word.suffix? (w : Word) (suffixes : List String) : Option String :=
  suffixes.find? fun s => s.toList.isSuffixOf w.letters

/-- Whether the letters end in a short syllable. -/
def endsShort (letters : List Char) : Bool :=
  match letters.reverse with
  | [b, a] => !isVowel b && isVowel a
  | c :: b :: a :: _ => !(isVowel c || "wxY".toList.contains c) && isVowel b && !isVowel a
  | _ => false

/-- Plural endings. -/
def dropPlural (w : Word) : Word :=
  match w.suffix? ["sses", "ied", "ies", "us", "ss", "s"] with
  | some "sses" => w.replace 4 "ss"
  | some "ied" | some "ies" => w.replace 3 (if 5 ≤ w.letters.length then "i" else "ie")
  | some "s" => if (w.before 2).any isVowel then w.replace 1 "" else w
  | _ => w

/-- The letter that a stem needs back, or the doubled one that it loses, after `ed` and `ing`. -/
def restoreStem (w : Word) : Word :=
  match w.suffix? ["at", "bl", "iz"] with
  | some _ => w.replace 0 "e"
  | none =>
    match w.suffix? ["bb", "dd", "ff", "gg", "mm", "nn", "pp", "rr", "tt"] with
    | some _ => w.replace 1 ""
    | none => if w.letters.length == w.p1 && endsShort w.letters then w.replace 0 "e" else w

/-- Endings of the past and the participle. -/
def dropParticiple (w : Word) : Word :=
  match w.suffix? ["eedly", "ingly", "edly", "eed", "ing", "ed"] with
  | none => w
  | some s =>
    let n := s.length
    if s == "eed" || s == "eedly" then (if w.inR1 n then w.replace n "ee" else w)
    else if (w.before n).any isVowel then restoreStem (w.replace n "") else w

/-- A last `y` after a consonant. -/
def softenY (w : Word) : Word :=
  match w.letters.reverse with
  | y :: c :: _ :: _ => if (y == 'y' || y == 'Y') && !isVowel c then w.replace 1 "i" else w
  | _ => w

/-- Replaces the longest suffix of a table that the word ends in, if it lies in the first
region. -/
def Word.rewriteR1 (w : Word) (table : List (String × String)) : Option (String × Word) :=
  (table.find? fun e => e.1.toList.isSuffixOf w.letters).bind fun e =>
    if w.inR1 e.1.length then some (e.1, w.replace e.1.length e.2) else none

/-- Long suffixes and their short forms. -/
def longSuffixes : List (String × String) := [
  ("ational", "ate"), ("fulness", "ful"), ("iveness", "ive"), ("ization", "ize"),
  ("ousness", "ous"), ("biliti", "ble"), ("lessli", "less"), ("tional", "tion"),
  ("alism", "al"), ("aliti", "al"), ("ation", "ate"), ("entli", "ent"), ("fulli", "ful"),
  ("iviti", "ive"), ("ousli", "ous"), ("abli", "able"), ("alli", "al"), ("anci", "ance"),
  ("ator", "ate"), ("enci", "ence"), ("izer", "ize"), ("bli", "ble"), ("ogi", "og"), ("li", "")]

/-- Shortens a long suffix. -/
def shortenSuffix (w : Word) : Word :=
  match w.rewriteR1 longSuffixes with
  | none => w
  | some (s, w') =>
    let last := (w.before s.length).getLast?
    if s == "ogi" then (if last == some 'l' then w' else w)
    else if s == "li" then (if last.any takesLi then w' else w)
    else w'

/-- Suffixes of the third rule. -/
def middleSuffixes : List (String × String) := [
  ("ational", "ate"), ("tional", "tion"), ("alize", "al"), ("ative", ""), ("icate", "ic"),
  ("iciti", "ic"), ("ical", "ic"), ("ness", ""), ("ful", "")]

/-- Shortens a suffix of the third rule. -/
def shortenMiddle (w : Word) : Word :=
  match w.rewriteR1 middleSuffixes with
  | none => w
  | some (s, w') => if s == "ative" && !w.inR2 5 then w else w'

/-- Suffixes that are dropped in the second region. -/
def droppedSuffixes : List String :=
  ["ement", "able", "ance", "ence", "ible", "ment", "ant", "ate", "ent", "ion", "ism", "iti",
    "ive", "ize", "ous", "al", "er", "ic"]

/-- Drops a suffix in the second region; `ion` only after `s` or `t`. -/
def dropSuffix (w : Word) : Word :=
  match w.suffix? droppedSuffixes with
  | none => w
  | some s =>
    let last := (w.before s.length).getLast?
    if !w.inR2 s.length then w
    else if s == "ion" && !(last == some 's' || last == some 't') then w
    else w.replace s.length ""

/-- A last `e`, or the second of two last `l`. -/
def dropLast (w : Word) : Word :=
  match w.letters.getLast? with
  | some 'e' =>
    if w.inR2 1 || (w.inR1 1 && !endsShort (w.before 1)) then w.replace 1 "" else w
  | some 'l' =>
    if w.inR2 1 && (w.before 1).getLast? == some 'l' then w.replace 1 "" else w
  | _ => w

/-- The rules in their order. -/
def Word.reduce (w : Word) : Word :=
  let w := dropPlural w
  if invariable.contains (String.ofList w.letters) then w
  else dropLast (dropSuffix (shortenMiddle (shortenSuffix (softenY (dropParticiple w)))))

/-- The stem of a lower-case English word. -/
def english (s : String) : String :=
  match irregular.find? fun e => e.1 == s with
  | some e => e.2
  | none =>
    if s.length < 3 then s
    else
      let w := (Word.ofLetters (markY s.toList)).reduce
      String.ofList (w.letters.map fun c => if c == 'Y' then 'y' else c)

end Catalog.Stem
