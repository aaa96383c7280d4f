/-!
# Powers of numbers

What is defined here is evaluated, so its powers are those of natural numbers and integers as they
come with the language. An algebra in scope has powers of its own, and in its presence they would be
taken instead. Exponents are given with their type, which leaves the instance to choose; within the
namespace it is the one that evaluates.
-/

namespace Catalog

attribute [scoped instance (2000)] instPowNat

end Catalog
