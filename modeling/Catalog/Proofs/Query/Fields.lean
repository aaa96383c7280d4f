import Catalog.Proofs.Query.Layout
import Catalog.Query.Match

/-!
# The fields that a query looks at

Whether a query accepts an entry depends on the postings in its fields only. Those of an expression
are the fields that it names, and the one that stands for parts that name none; what is read of an
escaped text names no field at all.

## Main definitions

* `Query.fields`, `Expression.namedFields`: the fields of a query and those that an expression names
* `Entry.only`: what is left of an entry in some fields
* `FieldScope.Finds`: a field that is found under one of some names

## Main results

* `Query.accepts_only`: a query looks at its fields only
* `Expression.finds_of_query?`: the fields of the query of a text
* `Expression.finds_of_query?_escapeExpression`: those of an escaped text
-/

namespace Catalog

/-! ### Queries -/

namespace Query

mutual

/-- The fields that a query looks at. -/
def fields : Query → List String
  | .empty | .all => []
  | .term f _ | .phrase f _ _ | .phraseStart f _ _ | .anyTerm f _ | .regex f _ | .fuzzy f _ _
  | .range f _ _ => [f]
  | .boost q _ => fields q
  | .boolean parts => partFields parts

/-- The fields of the parts of a combination. -/
def partFields : List (Occur × Query) → List String
  | [] => []
  | (_, q) :: r => fields q ++ partFields r

end

theorem partFields_map (o : Occur) (qs : List Query) :
    partFields (qs.map (o, ·)) = qs.flatMap fields := by
  induction qs with
  | nil => rfl
  | cons q qs ih => rw [List.map_cons, partFields, ih, List.flatMap_cons]

theorem fields_allOf (qs : List Query) : (allOf qs).fields = qs.flatMap fields := by
  rw [allOf, fields, partFields_map]

end Query

/-- An entry with nothing but its postings in some fields. -/
def Entry.only (e : Entry) (fs : List String) : Entry :=
  { e with postings := e.postings.filter fun p => fs.contains p.field }

section Only

variable {fs : List String} {f : String}

/-- What asks for postings in a field that is left sees no difference. -/
theorem Entry.filter_only (hf : f ∈ fs) (e : Entry) {keeps : Posting → Bool}
    (hkeeps : ∀ p, keeps p = true → p.field = f) :
    (e.only fs).postings.filter keeps = e.postings.filter keeps := by
  rw [Entry.only, List.filter_filter]
  refine List.filter_congr fun p _ => ?_
  cases hp : keeps p with
  | false => rfl
  | true => rw [hkeeps p hp, List.contains_iff_mem.mpr hf]; rfl

theorem Entry.terms_only (hf : f ∈ fs) (e : Entry) : (e.only fs).terms f = e.terms f := by
  rw [Entry.terms, Entry.filter_only hf e fun p hp => beq_iff_eq.mp hp, Entry.terms]

theorem Entry.places_only (hf : f ∈ fs) (e : Entry) (text : String) :
    (e.only fs).places f text = e.places f text := by
  have hkeeps (p : Posting) (hp : (p.field == f && p.term == .text text) = true) : p.field = f :=
    beq_iff_eq.mp (Bool.and_eq_true_iff.mp hp).1
  rw [Entry.places, Entry.filter_only hf e hkeeps, Entry.places]

theorem rarestFirst_only (hf : f ∈ fs) (among : List Entry) (terms : List PlacedTerm) :
    rarestFirst (among.map fun e => e.only fs) f terms = rarestFirst among f terms := by
  have hcount (t : PlacedTerm) :
      ((among.map fun e => e.only fs).countP fun e => (e.terms f).contains (.text t.text)) =
        among.countP fun e => (e.terms f).contains (.text t.text) := by
    rw [List.countP_map]
    exact List.countP_congr fun e _ => by rw [Function.comp_apply, Entry.terms_only hf]
  simp only [rarestFirst, hcount]

theorem expansions_only (hf : f ∈ fs) (among : List Entry) (start : String) :
    expansions (among.map fun e => e.only fs) f start = expansions among f start := by
  simp only [expansions, List.flatMap_map, Entry.terms_only hf]

theorem Entry.phraseCount_only (hf : f ∈ fs) (e : Entry) (among : List Entry)
    (terms : List PlacedTerm) (slop : Nat) :
    (e.only fs).phraseCount (among.map fun e => e.only fs) f terms slop =
      e.phraseCount among f terms slop := by
  simp only [Entry.phraseCount, rarestFirst_only hf, Entry.places_only hf]

theorem Entry.hasPhraseStart_only (hf : f ∈ fs) (e : Entry) (among : List Entry)
    (terms : List PlacedTerm) (last : PlacedTerm) :
    (e.only fs).hasPhraseStart (among.map fun e => e.only fs) f terms last =
      e.hasPhraseStart among f terms last := by
  simp only [Entry.hasPhraseStart, expansions_only hf, Entry.places_only hf]

mutual

/-- **A query looks at its fields only.** -/
theorem Query.accepts_only (among : List Entry) (e : Entry) : ∀ q : Query, q.fields ⊆ fs →
    q.accepts (among.map fun e => e.only fs) (e.only fs) = q.accepts among e
  | .empty, _ | .all, _ => rfl
  | .term f v, h | .anyTerm f v, h | .fuzzy f _ v, h | .range f _ v, h | .regex f v, h => by
    have hf : f ∈ fs := h (List.mem_singleton_self f)
    simp only [Query.accepts, Entry.terms_only hf]
  | .phrase f terms slop, h => by
    have hf : f ∈ fs := h (List.mem_singleton_self f)
    rw [Query.accepts, Query.accepts, Entry.phraseCount_only hf]
  | .phraseStart f terms last, h => by
    have hf : f ∈ fs := h (List.mem_singleton_self f)
    rw [Query.accepts, Query.accepts, Entry.hasPhraseStart_only hf]
  | .boost q _, h => Query.accepts_only among e q h
  | .boolean parts, h => by rw [Query.accepts, Query.accepts, Query.verdicts_only among e parts h]

theorem Query.verdicts_only (among : List Entry) (e : Entry) : ∀ parts : List (Occur × Query),
    Query.partFields parts ⊆ fs →
    Query.verdicts (among.map fun e => e.only fs) (e.only fs) parts = Query.verdicts among e parts
  | [], _ => rfl
  | (o, q) :: r, h => by
    obtain ⟨hq, hr⟩ := List.append_subset.mp h
    rw [Query.verdicts, Query.verdicts, Query.accepts_only among e q hq,
      Query.verdicts_only among e r hr]

end

end Only

/-! ### Meanings -/

namespace Meaning

mutual

/-- The fields of a meaning. -/
def fields : Meaning → List String
  | .leaf q => q.fields
  | .boost m _ => fields m
  | .clause parts => partFields parts

/-- The fields of the parts of a clause. -/
def partFields : List (Occur × Meaning) → List String
  | [] => []
  | (_, m) :: r => fields m ++ partFields r

end

theorem partFields_append (l l' : List (Occur × Meaning)) :
    partFields (l ++ l') = partFields l ++ partFields l' := by
  induction l with
  | nil => rfl
  | cons p l ih => rw [List.cons_append, partFields, partFields, ih, List.append_assoc]

theorem partFields_raised (o : Occur) (m : Meaning) : partFields (raised o m) = m.fields := by
  have hsingle : partFields [(o, m)] = m.fields := List.append_nil _
  cases m with
  | clause parts =>
    rw [raised]
    split
    · rfl
    · exact hsingle
  | _ => exact hsingle

mutual

theorem fields_simplified : ∀ m : Meaning, m.simplified.fields = m.fields
  | .leaf _ | .boost _ _ => rfl
  | .clause parts => by rw [simplified, fields, fields, partFields_simplifiedParts parts]

theorem partFields_simplifiedParts : ∀ parts : List (Occur × Meaning),
    partFields (simplifiedParts parts) = partFields parts
  | [] => rfl
  | (o, m) :: r => by
    rw [simplifiedParts, partFields_append, partFields_raised, fields_simplified m,
      partFields_simplifiedParts r, partFields]

end

mutual

/-- The empty parts, which a query leaves out, have no fields. -/
theorem fields_query? : ∀ m : Meaning, (m.query?.getD .empty).fields = m.fields
  | .leaf _ => rfl
  | .boost m _ => by rw [query?, Option.getD_some, Query.fields, fields_query? m, fields]
  | .clause parts => by
    rw [fields, ← partFields_partQueries parts, query?]
    split
    · next h => rw [h]; rfl
    · rfl

theorem partFields_partQueries : ∀ parts : List (Occur × Meaning),
    Query.partFields (partQueries parts) = partFields parts
  | [] => rfl
  | (o, m) :: r => by
    rw [partQueries, partFields, ← fields_query? m, ← partFields_partQueries r]
    cases m.query? with
    | none => rfl
    | some q => rfl

end

theorem fields_boosted (m : Meaning) (factor : Float) : (m.boosted factor).fields = m.fields := by
  rw [boosted]
  split
  · rfl
  · rw [fields]

end Meaning

theorem StoreField.fields_of_literal? {g : StoreField} {analyzer : Analyzer} {s : String}
    {slop : Nat} {isOpen : Bool} {m : Meaning} (h : g.literal? analyzer s slop isOpen = some m) :
    m.fields ⊆ [g.name] := by
  have hleaf {q : Query} (hq : q.fields = [g.name]) : (Meaning.leaf q).fields ⊆ [g.name] := by
    rw [Meaning.fields, hq]
    exact fun _ hf => hf
  unfold literal? at h
  split at h
  · obtain ⟨v, -, rfl⟩ := Option.map_eq_some_iff.mp h
    exact hleaf rfl
  · split at h
    · split at h
      · cases h
      · obtain rfl := Option.some.inj h
        exact List.nil_subset _
    · split at h
      · cases h
      · obtain rfl := Option.some.inj h
        exact hleaf rfl
    · split at h
      · obtain rfl := Option.some.inj h
        exact hleaf rfl
      · obtain rfl := Option.some.inj h
        exact hleaf rfl

/-! ### Expressions -/

/-- A field is found under one of some names. -/
def FieldScope.Finds (scope : FieldScope) (names : List String) (f : String) : Prop :=
  ∃ n ∈ names, ∃ g, scope.field? n = some g ∧ g.name = f

theorem FieldScope.Finds.mono {scope : FieldScope} {names names' : List String} {f : String}
    (h : scope.Finds names f) (hsub : names ⊆ names') : scope.Finds names' f := by
  obtain ⟨n, hn, hg⟩ := h
  exact ⟨n, hsub hn, hg⟩

namespace Expression

mutual

/-- The fields that an expression names. -/
def namedFields : Expression → List String
  | .literal f _ _ _ | .range f _ _ | .set f _ => f.toList
  | .all => []
  | .present f => [f]
  | .boost e _ => namedFields e
  | .clause parts => partNamedFields parts

/-- The fields that the parts of a clause name. -/
def partNamedFields : List (Option Occur × Expression) → List String
  | [] => []
  | (_, e) :: r => namedFields e ++ partNamedFields r

end

section Fields

variable {scope : FieldScope}

mutual

theorem finds_of_meaning? : ∀ {e : Expression} {m : Meaning}, e.meaning? scope = some m →
    ∀ f ∈ m.fields, scope.Finds (scope.defaultField :: e.namedFields) f
  | .literal field s slop isOpen, m, h, f, hf => by
    rw [meaning?, Option.bind_eq_bind, Option.bind_eq_some_iff] at h
    obtain ⟨g, hg, hm⟩ := h
    rw [List.mem_singleton.mp (StoreField.fields_of_literal? hm hf)]
    refine ⟨_, ?_, g, hg, rfl⟩
    cases field with
    | none => exact List.mem_cons_self ..
    | some n => exact List.mem_cons_of_mem _ (List.mem_singleton_self n)
  | .all, m, h, f, hf => by
    obtain rfl := Option.some.inj h
    cases hf
  | .range field lower upper, m, h, f, hf => by
    simp only [meaning?, Option.bind_eq_bind, Option.bind_eq_some_iff] at h
    obtain ⟨n, hn, g, hg, l, -, u, -, hm⟩ := h
    refine ⟨n, List.mem_cons_of_mem _ (Option.mem_toList.mpr hn), g, hg, ?_⟩
    split at hm
    · obtain rfl := Option.some.inj hm
      cases hf
    · obtain rfl := Option.some.inj hm
      exact (List.mem_singleton.mp hf).symm
  | .set field elements, m, h, f, hf => by
    simp only [meaning?, Option.bind_eq_bind, Option.bind_eq_some_iff] at h
    obtain ⟨n, hn, g, hg, values, -, hm⟩ := h
    obtain rfl := Option.some.inj hm
    exact ⟨n, List.mem_cons_of_mem _ (Option.mem_toList.mpr hn), g, hg,
      (List.mem_singleton.mp hf).symm⟩
  | .present _, m, h, f, hf => by cases h
  | .boost e factor, m, h, f, hf => by
    rw [meaning?, Option.map_eq_some_iff] at h
    obtain ⟨m', hm', rfl⟩ := h
    rw [Meaning.fields_boosted] at hf
    exact finds_of_meaning? hm' f hf
  | .clause parts, m, h, f, hf => by
    rw [meaning?, Option.map_eq_some_iff] at h
    obtain ⟨ms, hms, rfl⟩ := h
    exact finds_of_partMeanings? hms f hf

theorem finds_of_partMeanings? : ∀ {parts : List (Option Occur × Expression)}
    {ms : List (Occur × Meaning)}, partMeanings? scope parts = some ms →
    ∀ f ∈ Meaning.partFields ms, scope.Finds (scope.defaultField :: partNamedFields parts) f
  | [], ms, h, f, hf => by
    obtain rfl := Option.some.inj h
    cases hf
  | (o, e) :: r, ms, h, f, hf => by
    simp only [partMeanings?, Option.bind_eq_bind, Option.bind_eq_some_iff] at h
    obtain ⟨m, hm, rest, hrest, hms⟩ := h
    obtain rfl := Option.some.inj hms
    rcases List.mem_append.mp hf with hf | hf
    · refine (finds_of_meaning? hm f hf).mono (List.cons_subset_cons _ ?_)
      exact List.subset_append_left ..
    · refine (finds_of_partMeanings? hrest f hf).mono (List.cons_subset_cons _ ?_)
      exact List.subset_append_right ..

end

/-- **The fields of the query of a text** are found under the names in it, or under the name for
parts that have none. -/
theorem finds_of_query? {s : String} {q : Query} (h : query? scope s = some q) :
    ∃ e, read? s = some e ∧ (∃ m, e.meaning? scope = some m) ∧
      ∀ f ∈ q.fields, scope.Finds (scope.defaultField :: e.namedFields) f := by
  simp only [query?, Option.bind_eq_bind, Option.bind_eq_some_iff] at h
  obtain ⟨e, he, m, hm, hq⟩ := h
  refine ⟨e, he, ⟨m, hm⟩, fun f hf => ?_⟩
  split at hq
  · obtain rfl := Option.some.inj hq
    rw [Meaning.fields_query?, Meaning.fields_simplified] at hf
    exact finds_of_meaning? hm f hf
  · cases hq

end Fields

/-! ### Texts that name no field -/

theorem partNamedFields_eq (parts : List (Option Occur × Expression)) :
    partNamedFields parts = parts.flatMap fun p => p.2.namedFields := by
  induction parts with
  | nil => rfl
  | cons p parts ih =>
    obtain ⟨o, e⟩ := p
    rw [partNamedFields, ih, List.flatMap_cons]

theorem namedFields_clause (parts : List (Option Occur × Expression)) :
    (clause parts).namedFields = parts.flatMap fun p => p.2.namedFields := by
  rw [namedFields, partNamedFields_eq]

theorem namedFields_negated (e : Expression) : e.negated.namedFields = e.namedFields := by
  rw [negated, namedFields_clause, List.flatMap_singleton]

theorem namedFields_flattenPart (p : Option Occur × Expression) :
    (flattenPart p).2.namedFields = p.2.namedFields := by
  unfold flattenPart
  split
  · rw [namedFields_clause, List.flatMap_singleton]
  · rfl

theorem namedFields_flattened (e : Expression) : e.flattened.namedFields = e.namedFields := by
  cases e with
  | clause parts =>
    rw [flattened, namedFields_clause, namedFields_clause, List.flatMap_map]
    exact congrArg (List.flatMap · parts) (funext namedFields_flattenPart)
  | _ => rfl

theorem namedFields_signedPart (sign default : Option Occur) (e : Expression) :
    (signedPart sign default e).2.namedFields = e.namedFields := by
  unfold signedPart
  split
  · exact namedFields_negated e
  · rfl

theorem flatMap_namedFields_groups (parts : List JoinedPart) :
    (groups parts).flatten.flatMap (fun p => p.2.namedFields) =
      parts.flatMap fun p => p.2.2.namedFields := by
  rw [List.flatMap_def, List.flatMap_def, map_flatten_groups (g := fun p => p.2.2.namedFields)
    fun before sign e after => namedFields_signedPart sign (defaultOccur before after) e]

theorem namedFields_groupPart (g : List (Option Occur × Expression)) :
    (groupPart g).2.namedFields = g.flatMap fun p => p.2.namedFields := by
  unfold groupPart
  split
  · rw [List.flatMap_singleton]
  · exact namedFields_clause _

/-- Parts with junctions between them name what each of them names. -/
theorem namedFields_joined (parts : List JoinedPart) :
    (joined parts).namedFields = parts.flatMap fun p => p.2.2.namedFields := by
  rw [← flatMap_namedFields_groups]
  unfold joined
  split
  · next e h => rw [h, namedFields_negated]; exact (List.append_nil _).symm
  · next o e _ h => rw [h]; exact (List.append_nil _).symm
  · next g _ _ h => rw [h, namedFields_clause, List.flatten_singleton]
  · rw [namedFields_clause, List.flatMap_map, ← List.flatMap_id', List.flatMap_assoc]
    exact congrArg (List.flatMap · (groups parts)) (funext namedFields_groupPart)

theorem Reads.namedFields_eq {e : Expression} {p : PlainPart} (h : Reads e p) :
    e.namedFields = [] := by
  obtain ⟨x, -, rfl⟩ := h
  induction p.negations with
  | zero => rfl
  | succ n ih => rw [Function.iterate_succ_apply', namedFields_negated, ih]

/-- **What an escaped text asks for names no field.** -/
theorem namedFields_of_read?_escapeExpression {scope : FieldScope} {t : String} {e : Expression}
    (ht : isBlankText t = false) (h : read? (escapeExpression t) = some e) {m : Meaning}
    (hm : e.meaning? scope = some m) : e.namedFields = [] := by
  rcases exists_layout_of_read? ht h with hnone | ⟨l, ps, -, hreads, rfl⟩
  · have hmeaning := hnone scope
    rw [negativity, hm] at hmeaning
    cases hmeaning
  · rw [namedFields_flattened, namedFields_joined]
    clear ht h hm
    induction hreads with
    | nil => rfl
    | cons hpart _ ih => rw [List.flatMap_cons, ih, hpart.2.namedFields_eq, List.nil_append]

/-- **The fields of the query of an escaped text** are found under the name for parts that have
none. -/
theorem finds_of_query?_escapeExpression {scope : FieldScope} {t : String} {q : Query}
    (ht : isBlankText t = false) (h : query? scope (escapeExpression t) = some q) :
    ∀ f ∈ q.fields, scope.Finds [scope.defaultField] f := by
  obtain ⟨e, he, ⟨m, hm⟩, hfields⟩ := finds_of_query? h
  rwa [namedFields_of_read?_escapeExpression ht he hm] at hfields

end Expression

end Catalog
