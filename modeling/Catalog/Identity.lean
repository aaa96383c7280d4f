import Catalog.Field.Value

/-!
# Generated identities

A record that is saved without an identity is given one. A generator draws identities from a state
that it hands on, so that a run is settled by the state it starts with.

## Main definitions

* `IdGenerator`: a source of identities
* `IdGenerator.ulid`: identities that begin with the time, in base 32
* `IdGenerator.short`: short identities of lower-case letters and digits
* `IdGenerator.numbered`: identities by number
-/

namespace Catalog

/-- A source of identities. -/
structure IdGenerator (σ : Type) where
  next : σ → RecordId × σ

/-- The digits of base 32, without letters that look like digits. -/
def base32Digits : List Char := "0123456789ABCDEFGHJKMNPQRSTVWXYZ".toList

/-- The digits of short identities. -/
def shortDigits : List Char := "abcdefghijklmnopqrstuvwxyz0123456789".toList

/-- The number of digits of an identity that begins with the time. -/
def ulidLength : Nat := 26

/-- The length of a short identity unless asked otherwise. -/
def defaultShortLength : Nat := 8

/-- The last `length` digits of a number, the highest first. -/
def digitsOf (alphabet : List Char) : Nat → Nat → List Char
  | 0, _ => []
  | length + 1, n =>
    digitsOf alphabet length (n / alphabet.length) ++ [alphabet.getD (n % alphabet.length) '0']

/-- The milliseconds since the epoch and a source of chance. -/
structure TimedChance where
  milliseconds : Nat
  chance : StdGen

namespace IdGenerator

/-- Identities of 48 bits of time in front of 80 bits of chance. -/
def ulid : IdGenerator TimedChance where
  next s :=
    let (low, chance) := randNat s.chance 0 (2 ^ (80 : Nat) - 1)
    (⟨String.ofList (digitsOf base32Digits ulidLength (s.milliseconds % 2 ^ (48 : Nat) * 2 ^ (80 : Nat) + low))⟩,
      { s with chance })

/-- Identities of a given length. -/
def short (length : Nat) : IdGenerator StdGen where
  next s :=
    let (n, s) := randNat s 0 (shortDigits.length ^ length - 1)
    (⟨String.ofList (digitsOf shortDigits length n)⟩, s)

/-- Identities with a number behind a label. -/
def numbered (label : String) : IdGenerator Nat where
  next n := (⟨label ++ toString (n + 1)⟩, n + 1)

/-- The next few identities. -/
def take {σ : Type} (g : IdGenerator σ) : Nat → σ → List RecordId
  | 0, _ => []
  | count + 1, s => let (id, s) := g.next s; id :: g.take count s

end IdGenerator

end Catalog
