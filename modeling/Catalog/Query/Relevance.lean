import Catalog.Query.Match

/-!
# Relevance

How well the entries of an index match a query. A term counts for more the rarer it is among all
entries, the more often an entry has it and the shorter the field is in which it stands; a
combination adds up what its parts give. Everything that is found by comparing terms one by one
counts the same.

## Main definitions

* `rarity`: the worth of a term by its rarity
* `lengthNorm`, `frequencyGain`: the share of it that an entry gets
* `Query.score`: the score of an entry
-/

namespace Catalog

-- sums start from the one zero, also where an algebra in scope has a numeral of its own
attribute [local instance (2000)] Zero.ofOfNat0

/-- How soon more occurrences of a term stop to count. -/
def saturation : Float32 := 1.2

/-- How much the length of a field counts. -/
def lengthShare : Float32 := 0.75

/-- The length of a field as it is kept: exactly below 40 terms, then with four binary digits. -/
def keptLength (n : Nat) : Nat :=
  if n < 40 then n
  else
    let unit := 2 ^ ((n - 24).log2 - 3)
    24 + (n - 24) / unit * unit

/-- The worth of a term that `count` of `total` entries have. -/
def rarity (total count : Nat) : Float32 :=
  Float32.log (1 + ((total - count : Nat).toFloat32 + 0.5) / (count.toFloat32 + 0.5))

/-- The entries that a score is relative to. -/
abbrev Corpus := List Entry

/-- The mean length of a field. -/
def Corpus.meanLength (c : Corpus) (field : String) : Float32 :=
  (c.map fun (e : Entry) => (e.terms field).length).sum.toFloat32 / c.length.toFloat32

/-- The worth of a value in a field. -/
def Corpus.rarity (c : Corpus) (field : String) (v : Payload) : Float32 :=
  Catalog.rarity c.length (c.countP fun e => (e.terms field).contains v)

/-- How much the length of a field takes away, by its mean length. -/
def lengthNorm (mean : Float32) (length : Nat) : Float32 :=
  saturation * (1 - lengthShare + lengthShare * (keptLength length).toFloat32 / mean)

/-- The share that a number of occurrences gets. -/
def frequencyGain (norm : Float32) (count : Nat) : Float32 :=
  count.toFloat32 / (count.toFloat32 + norm)

/-- The score of an entry by how often it has something of a given worth in a field. -/
def Corpus.weighed (c : Corpus) (field : String) (worth factor : Float32) (e : Entry) :
    Nat → Float32
  | 0 => 0
  | count =>
    worth * (1 + saturation) * factor *
      frequencyGain (lengthNorm (c.meanLength field) (e.terms field).length) count

/-- The worth of a phrase: that of its terms together. -/
def Corpus.phraseRarity (c : Corpus) (field : String) (terms : List PlacedTerm) : Float32 :=
  terms.foldl (fun x t => x + c.rarity field (.text t.text)) 0

namespace Query

mutual

/-- The score of an entry, with a factor in front, given all entries and those of its segment. What
does not match has none. -/
def score (c : Corpus) (among : List Entry) (e : Entry) (factor : Float32) : Query → Float32
  | .boost q x => score c among e (factor * x) q
  | .boolean parts =>
    if accepts among e (.boolean parts) then partScore c among e factor parts else 0
  | .term f v => c.weighed f (c.rarity f v) factor e ((e.terms f).count v)
  | .phrase f terms slop =>
    c.weighed f (c.phraseRarity f terms) factor e (e.phraseCount among f terms slop)
  | .phraseStart f terms last =>
    if !e.hasPhraseStart among f terms last then 0
    else if terms.length < 2 then 1
    else c.weighed f (c.phraseRarity f terms) factor e (e.phraseCount among f terms 0)
  | q => if accepts among e q then factor else 0

/-- The sum of the scores of the parts that are wanted. -/
def partScore (c : Corpus) (among : List Entry) (e : Entry) (factor : Float32) :
    List (Occur × Query) → Float32
  | [] => 0
  | (.mustNot, _) :: r => partScore c among e factor r
  | (_, q) :: r => score c among e factor q + partScore c among e factor r

end

end Query

end Catalog
