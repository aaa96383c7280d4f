/-!
# Edits between texts

How far one text is from another: a character may be put in, taken out or replaced, and two
neighbours may change places, each for one edit. A pair that has changed places is not edited again.

## Main definitions

* `withinEdits`: whether a number of edits is enough
-/

namespace Catalog

/-- Whether `n` edits turn one list of characters into the other. -/
def withinEdits {α : Type} [BEq α] : Nat → List α → List α → Bool
  | n, [], t => t.length ≤ n
  | n, s, [] => s.length ≤ n
  | n, a :: s, b :: t =>
    a == b && withinEdits n s t ||
    match n with
    | 0 => false
    | n + 1 =>
      s.length ≤ t.length + (n + 1) && t.length ≤ s.length + (n + 1) &&
        (withinEdits n s t || withinEdits n s (b :: t) || withinEdits n (a :: s) t ||
          match s, t with
          | a' :: s', b' :: t' => a == b' && a' == b && withinEdits n s' t'
          | _, _ => false)
termination_by _ s t => s.length + t.length

end Catalog
