import Catalog.Text.Alphanumeric
import Catalog.Text.AsciiFold
import Catalog.Text.Blank
import Catalog.Text.Greek
import Catalog.Text.Stem

/-!
# Analyzers

An analyzer turns a text into the terms under which it is indexed. All cut the text into words,
drop the very long ones and lower-case the rest; they differ in what they fold afterwards.

## Main definitions

* `Language`, `Stemmer`, `Analyzer`: the analyzers there are
* `Analyzer.ofName`: an analyzer by its configured name
* `Analyzer.tokens`, `Analyzer.analyze`: the terms of a text, with and without their positions
* `Analyzer.foldLiteral`: the form in which a literal with wildcards is compared
-/

namespace Catalog

/-- A language with rules for stems. -/
inductive Language where
  | arabic | danish | dutch | english | finnish | french | german | greek | hungarian | italian
  | norwegian | portuguese | romanian | russian | spanish | swedish | tamil | turkish
  deriving DecidableEq, Repr

/-- The English name of a language. -/
def Language.name : Language → String
  | .arabic => "Arabic"
  | .danish => "Danish"
  | .dutch => "Dutch"
  | .english => "English"
  | .finnish => "Finnish"
  | .french => "French"
  | .german => "German"
  | .greek => "Greek"
  | .hungarian => "Hungarian"
  | .italian => "Italian"
  | .norwegian => "Norwegian"
  | .portuguese => "Portuguese"
  | .romanian => "Romanian"
  | .russian => "Russian"
  | .spanish => "Spanish"
  | .swedish => "Swedish"
  | .tamil => "Tamil"
  | .turkish => "Turkish"

/-- The language of a two-letter code. -/
def Language.ofCode? : String → Option Language
  | "ar" => some .arabic
  | "da" => some .danish
  | "nl" => some .dutch
  | "en" => some .english
  | "fi" => some .finnish
  | "fr" => some .french
  | "de" => some .german
  | "el" => some .greek
  | "hu" => some .hungarian
  | "it" => some .italian
  | "no" | "nb" => some .norwegian
  | "pt" => some .portuguese
  | "ro" => some .romanian
  | "ru" => some .russian
  | "es" => some .spanish
  | "sv" => some .swedish
  | "ta" => some .tamil
  | "tr" => some .turkish
  | _ => none

/-- What makes stems of the lower-case words of a language. -/
structure Stemmer where
  language : Language
  stem : String → String

/-- A stemmer for a language. There are rules for English only, and the words of other languages are
left as they are. -/
def Language.stemmer (l : Language) : Stemmer where
  language := l
  stem := if l = .english then Stem.english else id

/-- How texts are turned into terms. -/
inductive Analyzer where
  /-- Words in lower case. -/
  | standard
  /-- Words without diacritics, Greek ones by their sound, English function words dropped. -/
  | greek
  /-- Stems of the words of one language. -/
  | stemmed (stemmer : Stemmer)

/-- Why an analyzer is not to be had. -/
inductive AnalysisError where
  | unknownLanguage (name : String)
  deriving DecidableEq, Repr

/-- The text of an error. -/
def AnalysisError.message : AnalysisError → String
  | .unknownLanguage name => "No analyzer available for language: " ++ name

/-- An analyzer by name: blanks around it and the case of ASCII letters do not count. The stemmers
are those that are at hand. -/
def Analyzer.ofName (name : String) (stemmer : Language → Stemmer := Language.stemmer) :
    Except AnalysisError Analyzer :=
  match String.ofList ((trimChars name.toList).map Char.toLower) with
  | "standard" => .ok .standard
  | "greek" | "greek_aci" => .ok .greek
  | code =>
    match Language.ofCode? code with
    | some l => .ok (.stemmed (stemmer l))
    | none => .error (.unknownLanguage name)

/-- The text of an analyzer. -/
def Analyzer.display : Analyzer → String
  | .standard => "standard"
  | .greek => "greek"
  | .stemmed s => "stemmed(" ++ s.language.name ++ ")"

/-- English function words that carry no meaning of their own. -/
def stopWords : List String := [
  "a", "an", "and", "are", "as", "at", "be", "but", "by", "for", "if", "in", "into", "is", "it",
  "no", "not", "of", "on", "or", "such", "that", "the", "their", "then", "there", "these",
  "they", "this", "to", "was", "will", "with"]

/-- Words of this many bytes or more are not indexed. -/
def tokenByteLimit : Nat := 40

/-- The words of a text: its maximal runs of letters and digits. -/
def alphanumericWords (s : String) : List String :=
  (wordsBy (fun c => !isAlphanumeric c) s.toList).map String.ofList

/-- Each character of a word in lower case on its own, so that no sigma is a final one. -/
def lowerToken (s : String) : String :=
  String.ofList (s.toList.flatMap lowerChar)

/-- A last sigma in its final form. -/
def finalSigma (s : List Char) : List Char :=
  match s.reverse with
  | 'σ' :: r => ('ς' :: r).reverse
  | _ => s

/-- The Greek form of a token: folded, and with a final sigma at the end. -/
def greekToken (s : String) : String :=
  String.ofList (finalSigma (Greek.normalize s.toList))

/-- A term and its place among the words of its text. -/
structure Token where
  position : Nat
  text : String
  deriving DecidableEq, Repr

/-- What an analyzer makes of one word in lower case; nothing for a word it drops. -/
def Analyzer.term? (a : Analyzer) (word : String) : Option String :=
  match a with
  | .standard => some word
  | .greek =>
    let t := greekToken (String.ofList (foldToAscii word.toList))
    if stopWords.contains t then none else some t
  | .stemmed s => some (s.stem word)

/-- The terms of a text. A dropped word leaves its place empty. -/
def Analyzer.tokens (a : Analyzer) (text : String) : List Token :=
  (alphanumericWords text).zipIdx.filterMap fun (w, i) =>
    if w.utf8ByteSize < tokenByteLimit then (a.term? (lowerToken w)).map (Token.mk i) else none

/-- The terms of a text in order. -/
def Analyzer.analyze (a : Analyzer) (text : String) : List String :=
  (a.tokens text).map Token.text

/-- The form in which a literal of a like or fuzzy clause is compared; wildcards stay. -/
def Analyzer.foldLiteral (a : Analyzer) (text : String) : String :=
  match a with
  | .greek => Greek.normalizeText text
  | .standard | .stemmed _ => lowercaseText text

/-- How a text is cut before Greek folding. -/
inductive Splitter where
  /-- Runs of letters and digits. -/
  | alphanumeric
  /-- Runs without ASCII blanks. -/
  | blank
  /-- The whole text. -/
  | whole
  deriving DecidableEq, Repr

/-- White space of ASCII. -/
def isAsciiBlank (c : Char) : Bool :=
  c == ' ' || c == '\t' || c == '\n' || c == '\x0c' || c == '\r'

/-- The pieces of a text. -/
def Splitter.split : Splitter → String → List String
  | .alphanumeric, s => alphanumericWords s
  | .blank, s => (wordsBy isAsciiBlank s.toList).map String.ofList
  | .whole, s => [s]

/-- The Greek forms of the pieces of a text, which are lower-cased first if asked. -/
def greekTokens (splitter : Splitter) (lower : Bool) (text : String) : List String :=
  (splitter.split text).map fun w => greekToken (if lower then lowerToken w else w)

end Catalog
