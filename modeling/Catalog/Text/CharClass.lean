/-!
# Character classes

A class of characters given by closed ranges of code points, and membership in it. The classes
of the Unicode standard that the library consults are values of this type. A property of the
characters of a list is decided on the list.

## Main definitions

* `CharClass`: a list of closed ranges
* `CharClass.contains`: membership of a character
-/

namespace Catalog

/-- A set of characters, as closed ranges of code points in ascending order. -/
structure CharClass where
  ranges : List (Nat × Nat)

/-- A character is in the class when some range holds its code point. -/
def CharClass.contains (k : CharClass) (c : Char) : Bool :=
  k.ranges.any fun r => r.1 ≤ c.toNat && c.toNat ≤ r.2

theorem CharClass.contains_iff {k : CharClass} {c : Char} :
    k.contains c = true ↔ ∃ r ∈ k.ranges, r.1 ≤ c.toNat ∧ c.toNat ≤ r.2 := by
  simp [CharClass.contains]

-- Characters can also be enumerated, and a check over all of them does not end in time.
instance (priority := 2000) decidableForallMemChars (p : Char → Prop) [DecidablePred p]
    (l : List Char) : Decidable (∀ c, c ∈ l → p c) :=
  List.decidableBAll p l

instance (priority := 2000) decidableExistsMemChars (p : Char → Prop) [DecidablePred p]
    (l : List Char) : Decidable (∃ c, c ∈ l ∧ p c) :=
  List.decidableBEx p l

end Catalog
