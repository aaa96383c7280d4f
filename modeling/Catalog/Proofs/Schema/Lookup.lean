import Catalog.Proofs.Clause.Combination
import Catalog.Proofs.Clause.Range
import Catalog.Proofs.Query.Fields
import Catalog.Proofs.Results
import Catalog.Proofs.Schema.FieldNames
import Catalog.Sample.Clash

/-!
# Looking a property up

A property is looked up among the bindings of a schema, and the first one of its name is taken.
Resolving holds the names of fields against each other, not those of properties, so a property may
be bound twice as long as its fields have names of their own. The second binding is then kept in the
index but never found: every clause and every sort key leads to the field of the first.

## Main definitions

* `ClauseKind.field`: the field of a binding that a clause is about

## Main results

* `Schema.binding_eq_ok_iff`: a binding is looked up just if it is the first of its property
* `SearchScope.fields_of_propertyQuery`: the fields that the query of a clause looks at
* `Schema.lookups_of_build`: where clauses and sort keys lead, in any schema that is built
-/

namespace Catalog

variable {ρ : Type}

/-! ### The first binding of a property -/

/-- What is first of its kind is what a search finds. -/
theorem find?_eq_some_iff_of_append {α : Type} {p : α → Bool} {before after : List α} {a : α}
    (ha : p a = true) (hne : a ∉ before) :
    (before ++ a :: after).find? p = some a ↔ ∀ b ∈ before, p b = false := by
  rw [List.find?_append]
  cases hfind : before.find? p with
  | none =>
    refine iff_of_true ?_ fun b hb => Bool.eq_false_iff.mpr (List.find?_eq_none.mp hfind b hb)
    rw [Option.none_or, List.find?_cons_of_pos ha]
  | some b =>
    have hb : b ∈ before := List.mem_of_find?_eq_some hfind
    refine iff_of_false ?_ fun h => ?_
    · rw [Option.some_or, Option.some.injEq]
      rintro rfl
      exact hne hb
    · exact absurd (List.find?_some hfind) (Bool.eq_false_iff.mp (h b hb))

namespace Schema

variable {s : Schema ρ} {R : RecordType ρ} {b c : Binding}

theorem binding_eq_ok_iff_find? {property : String} : s.binding property = .ok b ↔
    s.bindings.find? (fun b => b.property == property) = some b := by
  rw [binding]
  cases s.bindings.find? fun b => b.property == property with
  | none => exact iff_of_false nofun nofun
  | some a => rw [Except.ok.injEq, Option.some.injEq]

theorem map_binding_zipWith (bindings : List Binding) (accessors : List (Accessor ρ)) :
    (bindings.zipWith Column.mk accessors).map Column.binding =
      bindings.take accessors.length := by
  induction bindings generalizing accessors with
  | nil => rw [List.zipWith_nil_left, List.map_nil, List.take_nil]
  | cons b bindings ih =>
    cases accessors with
    | nil => rw [List.zipWith_nil_right, List.map_nil, List.length_nil, List.take_zero]
    | cons a accessors =>
      rw [List.zipWith_cons_cons, List.map_cons, ih, List.length_cons, List.take_succ_cons]

/-- The bindings of a schema are those that its declarations resolve to, as far as there are
accessors. -/
theorem exists_of_build (h : build R = .ok s) :
    ∃ bindings, resolveBindings R.name (R.declarations.map Declaration.descriptor) = .ok bindings ∧
      s.bindings <+: bindings := by
  rw [build, ofDeclarations] at h
  cases hresolve : resolveBindings R.name (R.declarations.map Declaration.descriptor) with
  | error e => rw [hresolve] at h; cases h
  | ok bindings =>
    rw [hresolve] at h
    cases h
    rw [Schema.bindings, map_binding_zipWith]
    exact ⟨_, rfl, List.take_prefix ..⟩

/-- No name is taken by two bindings, nor twice by one. -/
theorem nodup_names_of_build (h : build R = .ok s) : (s.bindings.flatMap Binding.names).Nodup := by
  obtain ⟨bindings, hresolve, rest, rfl⟩ := exists_of_build h
  have hnames := (resolveBindings_eq_ok_iff.mp hresolve).2.names
  rw [List.flatMap_append] at hnames
  exact (List.nodup_append'.mp hnames).1

theorem pairwise_disjoint_of_build (h : build R = .ok s) :
    s.bindings.Pairwise fun b c => b.names.Disjoint c.names :=
  (List.nodup_flatMap.mp (nodup_names_of_build h)).2

/-- Different bindings of a schema have no name in common. -/
theorem disjoint_of_build (h : build R = .ok s) (hb : b ∈ s.bindings) (hc : c ∈ s.bindings)
    (hne : b ≠ c) : b.names.Disjoint c.names :=
  have : Std.Symm fun b c : Binding => b.names.Disjoint c.names :=
    ⟨fun _ _ hdisjoint => List.Disjoint.symm hdisjoint⟩
  (pairwise_disjoint_of_build h).forall hb hc hne

theorem field_ne_of_build (h : build R = .ok s) (hb : b ∈ s.bindings) (hc : c ∈ s.bindings)
    (hne : b ≠ c) : b.field ≠ c.field := by
  intro heq
  refine disjoint_of_build h hb hc hne (List.mem_cons_self ..) ?_
  rw [heq]
  exact List.mem_cons_self ..

/-- No binding of a schema stands there twice. -/
theorem nodup_bindings_of_build (h : build R = .ok s) : s.bindings.Nodup := by
  refine (pairwise_disjoint_of_build h).imp fun hdisjoint => ?_
  rintro rfl
  exact hdisjoint (List.mem_cons_self ..) (List.mem_cons_self ..)

/-- **A binding is looked up just if it is the first of its property.** -/
theorem binding_eq_ok_iff (h : build R = .ok s) {before after : List Binding}
    (hsplit : s.bindings = before ++ b :: after) :
    s.binding b.property = .ok b ↔ ∀ c ∈ before, c.property ≠ b.property := by
  have hnot : b ∉ before := by
    have hnodup := nodup_bindings_of_build h
    rw [hsplit, List.nodup_append'] at hnodup
    exact fun hb => hnodup.2.2 hb (List.mem_cons_self ..)
  rw [binding_eq_ok_iff_find?, hsplit, find?_eq_some_iff_of_append
    (p := fun c => c.property == b.property) (beq_self_eq_true b.property) hnot]
  exact forall₂_congr fun c _ => beq_eq_false_iff_ne

/-- Every binding is looked up just if no property is bound twice. -/
theorem forall_binding_eq_ok_iff (h : build R = .ok s) :
    (∀ b ∈ s.bindings, s.binding b.property = .ok b) ↔
      (s.bindings.map Binding.property).Nodup := by
  constructor
  · intro hall
    refine List.Nodup.map_on (fun b hb c hc heq => ?_) (nodup_bindings_of_build h)
    have hbc := hall b hb
    rw [heq, hall c hc] at hbc
    exact (Except.ok.inj hbc).symm
  · intro hnodup b hb
    obtain ⟨before, after, hsplit⟩ := List.append_of_mem hb
    refine (binding_eq_ok_iff h hsplit).mpr fun c hc heq => ?_
    rw [hsplit, List.map_append, List.nodup_append'] at hnodup
    refine hnodup.2.2 (List.mem_map_of_mem hc) ?_
    rw [heq]
    exact List.mem_cons_self ..

/-- A property is bound twice only where a field has a name of its own. -/
theorem field_ne_property_of_build (h : build R = .ok s) (hb : b ∈ s.bindings) (hc : c ∈ s.bindings)
    (hne : b ≠ c) (heq : b.property = c.property) :
    b.field ≠ b.property ∨ c.field ≠ c.property := by
  by_contra hnot
  obtain ⟨hbfield, hcfield⟩ := not_or.mp hnot
  refine field_ne_of_build h hb hc hne ?_
  rw [not_not.mp hbfield, heq, not_not.mp hcfield]

end Schema

/-! ### Where clauses lead -/

/-- The field of a binding that a clause is about. -/
def ClauseKind.field (b : Binding) : ClauseKind → String
  | .term _ | .like _ | .fuzzy _ => b.textField
  | .exact _ | .range _ | .inArea _ => b.rawField

/-- A field that the text of a term clause names itself. -/
def SearchScope.Names (scope : SearchScope) (kind : ClauseKind) (f : String) : Prop :=
  ∃ text e, kind = .term text ∧ Expression.read? text = some e ∧
    ∃ fields : FieldScope, fields.fields = scope.fields ∧ fields.Finds e.namedFields f

@[simp] theorem Query.fields_boosted (q : Query) (boost : Option Float32) :
    (q.boosted boost).fields = q.fields := by
  cases boost with
  | none => rfl
  | some factor => rw [boosted, fields]

theorem fields_of_wildcardQuery {field word : String} {q : Query}
    (h : wildcardQuery field word = .ok q) : q.fields = [field] := by
  simp only [wildcardQuery] at h
  split at h
  · obtain rfl := Except.ok.inj h
    rfl
  · cases h

namespace Binding

variable {b : Binding} {q : Query}

theorem fields_of_likeQuery {analyzer : Analyzer} {pattern : String}
    (h : b.likeQuery analyzer pattern = .ok q) : q.fields ⊆ [b.textField] := by
  unfold likeQuery at h
  split at h
  · obtain rfl := Except.ok.inj h
    exact List.nil_subset _
  · cases hqs : (b.likeWords analyzer pattern).mapM (wildcardQuery b.textField) with
    | error e => rw [hqs] at h; cases h
    | ok qs =>
      rw [hqs] at h
      obtain rfl := Except.ok.inj h
      rw [Query.fields_allOf]
      intro f hf
      obtain ⟨q, hq, hfield⟩ := List.mem_flatMap.mp hf
      obtain ⟨w, -, hw⟩ := (mem_iff_of_mapM hqs q).mp hq
      rwa [fields_of_wildcardQuery hw] at hfield

theorem fields_fuzzyQuery (b : Binding) (analyzer : Analyzer) (text : String) :
    (b.fuzzyQuery analyzer text).fields ⊆ [b.textField] := by
  unfold fuzzyQuery
  extract_lets isAnalyzed s
  split
  · exact List.nil_subset _
  · split
    · rw [Query.fields_allOf, List.flatMap_map]
      intro f hf
      obtain ⟨w, -, hfield⟩ := List.mem_flatMap.mp hf
      exact hfield
    · exact fun _ hf => hf

theorem fields_of_exactValue {literal : String}
    (h : ((b.exactValue literal).map (Query.term b.rawField)).mapError SearchError.clause = .ok q) :
    q.fields ⊆ [b.rawField] := by
  cases hv : b.exactValue literal with
  | error e => rw [hv] at h; cases h
  | ok v =>
    rw [hv] at h
    obtain rfl := Except.ok.inj h
    exact fun _ hf => hf

theorem fields_of_rangeQuery {bounds : RangeBounds}
    (h : (b.rangeQuery bounds).mapError SearchError.clause = .ok q) :
    q.fields ⊆ [b.rawField] := by
  cases hr : b.rangeQuery bounds with
  | error e => rw [hr] at h; cases h
  | ok r =>
    rw [hr] at h
    obtain rfl := Except.ok.inj h
    obtain ⟨-, l, u, rfl, -⟩ := b.exists_of_rangeQuery hr
    exact fun _ hf => hf

end Binding

/-- What is found under the name of a field of the index is that field. -/
theorem FieldScope.eq_of_finds_singleton {fields : List StoreField} {analyzer : Analyzer}
    {d n f : String} (hn : n ∈ fields.map StoreField.name)
    (h : FieldScope.Finds ⟨fields, analyzer, d⟩ [n] f) : f = n := by
  obtain ⟨m, hm, g, hg, rfl⟩ := h
  obtain rfl := List.mem_singleton.mp hm
  obtain ⟨g', hg', hname⟩ := List.mem_map.mp hn
  cases hfind : fields.find? fun f => f.name == m with
  | none => exact absurd (beq_iff_eq.mpr hname) (List.find?_eq_none.mp hfind g' hg')
  | some g₀ =>
    have hname₀ : (g₀.name == m) = true :=
      List.find?_some (p := fun f : StoreField => f.name == m) hfind
    simp only [field?, hfind, Option.orElse_eq_orElse, Option.orElse_some, Option.some.injEq] at hg
    rw [← hg]
    exact beq_iff_eq.mp hname₀

namespace SearchScope

variable {scope : SearchScope} {b : Binding} {q : Query}

/-- **What a term clause looks at**: the words of its property, and fields that its text names. -/
theorem fields_of_termQuery {text : String}
    (hindex : b.textField ∈ scope.fields.map StoreField.name) (h : scope.termQuery b text = .ok q) :
    ∀ f ∈ q.fields, f = b.textField ∨ scope.Names (.term text) f := by
  rw [termQuery] at h
  split at h
  · obtain rfl := Except.ok.inj h
    exact nofun
  · next hblank =>
    dsimp only at h
    split at h
    · next q' hq =>
      obtain rfl := Except.ok.inj h
      obtain ⟨e, he, -, hfields⟩ := Expression.finds_of_query? hq
      intro f hf
      obtain ⟨n, hn, hg⟩ := hfields f hf
      rcases List.mem_cons.mp hn with rfl | hn
      · have hdefault : FieldScope.Finds ⟨scope.fields, scope.analyzer, b.textField⟩
            [b.textField] f := ⟨_, List.mem_singleton_self _, hg⟩
        exact .inl (FieldScope.eq_of_finds_singleton hindex hdefault)
      · exact .inr ⟨text, e, rfl, he, _, rfl, n, hn, hg⟩
    · split at h
      · next q' hq =>
        obtain rfl := Except.ok.inj h
        intro f hf
        have hdefault := Expression.finds_of_query?_escapeExpression
          (Bool.eq_false_iff.mpr hblank) hq f hf
        exact .inl (FieldScope.eq_of_finds_singleton hindex hdefault)
      · cases h

/-- **What a clause about a property looks at**: its field of the binding that the property is
looked up as, and fields that the text of the clause names itself. -/
theorem fields_of_propertyQuery {c : Clause} (hb : scope.binding c.property = .ok b)
    (hindex : b.textField ∈ scope.fields.map StoreField.name)
    (h : scope.propertyQuery c = .ok q) :
    ∀ f ∈ q.fields, f = c.kind.field b ∨ scope.Names c.kind f := by
  have hclause {q : Query} (h : scope.clauseQuery b c.kind = .ok q) :
      ∀ f ∈ q.fields, f = c.kind.field b ∨ scope.Names c.kind f := by
    cases hkind : c.kind with
    | term text =>
      rw [hkind] at h
      exact fields_of_termQuery hindex h
    | like pattern =>
      rw [hkind] at h
      exact fun f hf => .inl (List.mem_singleton.mp (b.fields_of_likeQuery h hf))
    | fuzzy text =>
      rw [hkind] at h
      obtain rfl := Except.ok.inj h
      exact fun f hf => .inl (List.mem_singleton.mp (b.fields_fuzzyQuery _ _ hf))
    | exact literal =>
      rw [hkind] at h
      exact fun f hf => .inl (List.mem_singleton.mp (b.fields_of_exactValue h hf))
    | range bounds =>
      rw [hkind] at h
      exact fun f hf => .inl (List.mem_singleton.mp (b.fields_of_rangeQuery h hf))
    | inArea a => rw [hkind] at h; cases h
  obtain ⟨b', hb', hcompiled⟩ := exists_of_bind_eq_ok h
  obtain ⟨q', hq', hboosted⟩ := exists_of_bind_eq_ok hcompiled
  obtain rfl := Except.ok.inj (hb.symm.trans hb')
  obtain rfl := Except.ok.inj hboosted
  rw [Query.fields_boosted]
  exact hclause hq'

theorem fields_of_combinedQuery {parts : List (Occur × Query)} (h : combinedQuery parts = some q) :
    q.fields = parts.flatMap fun p => p.2.fields := by
  have hparts (parts : List (Occur × Query)) :
      Query.partFields parts = parts.flatMap fun p => p.2.fields := by
    induction parts with
    | nil => rfl
    | cons p parts ih => rw [Query.partFields, ih, List.flatMap_cons]
  unfold combinedQuery at h
  split at h
  · cases h
  · split at h
    · obtain rfl := Option.some.inj h
      rw [Query.fields, hparts, List.flatMap_append]
      exact List.append_nil _
    · obtain rfl := Option.some.inj h
      rw [Query.fields, hparts]

/-- The fields that a list of clauses looks at are those of its clauses. -/
theorem exists_of_fields_of_build {clauses : List Clause} {d : QueryDescriptor}
    (hbuild : scope.build clauses = .ok d) (hq : d.query = some q) {f : String}
    (hf : f ∈ q.fields) :
    ∃ c ∈ clauses, ∃ r, scope.propertyQuery c = .ok r ∧ f ∈ r.fields := by
  obtain ⟨parts, hparts, -, hcombined⟩ := exists_of_build hbuild
  rw [hq] at hcombined
  rw [fields_of_combinedQuery hcombined.symm] at hf
  obtain ⟨part, hpart, hf⟩ := List.mem_flatMap.mp hf
  obtain ⟨c, hc, hcpart⟩ := (mem_iff_of_mapM hparts part).mp hpart
  obtain ⟨r, hr, rfl⟩ := exists_of_partOf hcpart
  exact ⟨c, (mem_propertyClauses.mp hc).1, r, hr, hf⟩

end SearchScope

theorem Schema.binding_eq_ok_iff_scope {s : Schema ρ} {scope : SearchScope}
    (hscope : scope.bindings = s.bindings) {property : String} {b : Binding} :
    scope.binding property = .ok b ↔ s.binding property = .ok b := by
  rw [binding_eq_ok_iff_find?, ← hscope, SearchScope.binding]
  cases scope.bindings.find? fun b => b.property == property with
  | none => exact iff_of_false nofun nofun
  | some a => rw [Except.ok.injEq, Option.some.injEq]

/-- **Where clauses and sort keys lead.** In a schema that is built, a binding is looked up just if
it is the first of its property, so all are just if no property is bound twice. No two bindings have
a name in common, and only where a field has a name of its own can a property be bound twice. A sort
key leads to the field of the binding that its property is looked up as, and so do clauses about the
property, besides the fields that the text of a term clause names itself. -/
theorem Schema.lookups_of_build {R : RecordType ρ} {s : Schema ρ} (h : Schema.build R = .ok s) :
    (∀ before b after, s.bindings = before ++ b :: after →
      (s.binding b.property = .ok b ↔ ∀ c ∈ before, c.property ≠ b.property)) ∧
    ((∀ b ∈ s.bindings, s.binding b.property = .ok b) ↔
      (s.bindings.map Binding.property).Nodup) ∧
    (∀ b ∈ s.bindings, ∀ c ∈ s.bindings, b ≠ c → b.names.Disjoint c.names ∧
      (b.property = c.property → b.field ≠ b.property ∨ c.field ≠ c.property)) ∧
    ∀ scope : SearchScope, scope.bindings = s.bindings →
      (∀ f ∈ s.storeFields, f.name ∈ scope.fields.map StoreField.name) →
      ∀ property b, s.binding property = .ok b →
        (∀ isDescending, scope.sortKey ⟨property, isDescending⟩ =
          .ok ⟨b.field, b.kind, isDescending⟩) ∧
        ∀ clauses d q, (∀ c ∈ clauses, c.property = property) → scope.build clauses = .ok d →
          d.query = some q →
          ∀ f ∈ q.fields, ∃ c ∈ clauses, f = c.kind.field b ∨ scope.Names c.kind f := by
  refine ⟨fun before b after hsplit => binding_eq_ok_iff h hsplit, forall_binding_eq_ok_iff h,
    fun b hb c hc hne => ⟨disjoint_of_build h hb hc hne, field_ne_property_of_build h hb hc hne⟩,
    fun scope hscope hindex property b hb => ?_⟩
  have hlookup : scope.binding property = .ok b := (binding_eq_ok_iff_scope hscope).mpr hb
  have hmem : b ∈ s.bindings := List.mem_of_find?_eq_some (binding_eq_ok_iff_find?.mp hb)
  have htext : b.textField ∈ scope.fields.map StoreField.name := by
    obtain ⟨f, hf, hname⟩ := List.mem_map.mp b.textField_mem_fieldNames
    rw [← hname]
    refine hindex f ?_
    rw [Schema.storeFields, storeFieldsOf]
    exact List.mem_append_right _ (List.mem_flatMap.mpr ⟨b, hmem, hf⟩)
  refine ⟨fun isDescending => ?_, fun clauses d q hclauses hbuild hq f hf => ?_⟩
  · rw [SearchScope.sortKey, hlookup]
    rfl
  · obtain ⟨c, hc, r, hr, hf⟩ := SearchScope.exists_of_fields_of_build hbuild hq hf
    have hc' : scope.binding c.property = .ok b := by rw [hclauses c hc, hlookup]
    exact ⟨c, hc, SearchScope.fields_of_propertyQuery hc' htext hr f hf⟩

/-- The first part of a pair, bound twice: under a name of its own each time. -/
def twiceBound : RecordType (Clash.Pair String String) where
  name := "TwiceBound"
  blank := ⟨"", ""⟩
  declarations := [
    .storedAs "a" "first" Clash.Pair.a fun r v => { r with a := v },
    .storedAs "a" "second" Clash.Pair.a fun r v => { r with a := v }]

/-- The schema of a pair whose first part is bound twice. -/
def twiceBoundSchema : Schema (Clash.Pair String String) :=
  (Schema.build twiceBound).toOption.getD ⟨"", []⟩

/-- An exact clause on the part that is bound twice looks at the first of its fields. -/
theorem lookups_of_build_twiceBound :
    Schema.build twiceBound = .ok twiceBoundSchema ∧
      ∃ b q, twiceBoundSchema.binding "a" = .ok b ∧ b.field = "first" ∧
        (SearchScope.mk "TwiceBound" twiceBoundSchema.bindings twiceBoundSchema.storeFields
          .standard).build [{ property := "a", kind := .exact "x" }] = .ok ⟨some q, none⟩ ∧
        ∀ f ∈ q.fields, f = "first" := by
  have hbuild : Schema.build twiceBound = .ok twiceBoundSchema := rfl
  have hlookup : twiceBoundSchema.binding "a" = .ok ⟨"a", "first", .stored, .text⟩ := rfl
  obtain ⟨-, -, -, hlead⟩ := Schema.lookups_of_build hbuild
  obtain ⟨-, hclauses⟩ := hlead (SearchScope.mk "TwiceBound" twiceBoundSchema.bindings
    twiceBoundSchema.storeFields .standard) rfl (fun f hf => List.mem_map_of_mem hf) "a" _ hlookup
  refine ⟨hbuild, _, _, hlookup, rfl, rfl, fun f hf => ?_⟩
  obtain ⟨c, hc, hfield⟩ := hclauses [{ property := "a", kind := .exact "x" }] _ _
    (by simp) rfl rfl f hf
  obtain rfl := List.mem_singleton.mp hc
  rcases hfield with hfield | ⟨text, e, hkind, -⟩
  · exact hfield
  · cases hkind

/-- The second field of the part that is bound twice is never looked up. -/
theorem binding_ne_twiceBound :
    ∃ s, Schema.build twiceBound = .ok s ∧ ¬ (s.bindings.map Binding.property).Nodup ∧
      ∃ b ∈ s.bindings, b.field = "second" ∧ s.binding b.property ≠ .ok b := by
  refine ⟨twiceBoundSchema, rfl, by decide, ⟨"a", "second", .stored, .text⟩, by decide, rfl, ?_⟩
  have hfirst : twiceBoundSchema.binding "a" = .ok ⟨"a", "first", .stored, .text⟩ := rfl
  change twiceBoundSchema.binding "a" ≠ _
  rw [hfirst]
  decide

end Catalog
