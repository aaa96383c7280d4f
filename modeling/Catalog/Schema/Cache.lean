import Catalog.Schema.Binding

/-!
# A cache of schemas

Schemas are resolved once for each record type and kept. A resolve looks an entry up; where there is
none it builds a schema, without holding the cache, and publishes it: the first schema published for
a type stays, and a later one is given up for it. Several resolves may be under way at a time, so
the steps are functions of their own.

## Main definitions

* `SchemaCache`: the entries, keyed by record type
* `SchemaCache.lookup?`, `SchemaCache.publish`, `SchemaCache.invalidate`: the steps
* `SchemaCache.resolve`: a resolve without others in between
-/

namespace Catalog

/-- The entries of a cache: a record type and what was published for it. -/
structure SchemaCache (τ σ : Type) where
  entries : List (τ × σ)

namespace SchemaCache

variable {τ σ : Type} [DecidableEq τ]

/-- The cache without entries. -/
def empty : SchemaCache τ σ := ⟨[]⟩

/-- The entry of a type. -/
def lookup? (c : SchemaCache τ σ) (t : τ) : Option σ :=
  (c.entries.find? fun e => e.1 = t).map Prod.snd

/-- Publishes a schema for a type unless there is one; also says which one stands now. -/
def publish (c : SchemaCache τ σ) (t : τ) (s : σ) : SchemaCache τ σ × σ :=
  match c.lookup? t with
  | some old => (c, old)
  | none => (⟨(t, s) :: c.entries⟩, s)

/-- Drops the entry of a type; also says whether there was one. -/
def invalidate (c : SchemaCache τ σ) (t : τ) : SchemaCache τ σ × Bool :=
  (⟨c.entries.filter fun e => e.1 ≠ t⟩, (c.lookup? t).isSome)

/-- The number of entries. -/
def size (c : SchemaCache τ σ) : Nat := c.entries.length

/-- Looks a type up, and builds and publishes its schema where there is none. A build that fails
leaves the cache as it was. -/
def resolve (c : SchemaCache τ σ) (t : τ) (build : Except SchemaError σ) :
    SchemaCache τ σ × Except SchemaError σ :=
  match c.lookup? t with
  | some s => (c, .ok s)
  | none =>
    match build with
    | .ok s => let (c', s') := c.publish t s; (c', .ok s')
    | .error e => (c, .error e)

end SchemaCache

end Catalog
