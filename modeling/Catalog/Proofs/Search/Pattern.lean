import Catalog.Proofs.Clause.Combination
import Catalog.Proofs.Search.Chronology
import Catalog.Proofs.Search.Words
import Catalog.Proofs.Text.Regex.States
import Catalog.Proofs.Text.Wildcard

/-!
# What a like clause finds

A text that is not analyzed is kept as one term, and a like clause on it is one expression, that of
its pattern without the blanks at either end. So the clause finds the records whose text is like the
pattern as a whole, except those in which a line feed would have to fill a wildcard or follow. A
pattern whose expression has too many states is refused.

## Main definitions

* `PropertyType.text?`, `Property.text?`: the text that a record has

## Main results

* `Store.IsBuiltFor.terms_text`: the terms of a text that is not analyzed
* `Query.accepts_wildcardRegex_iff`: the entries that the expression of a pattern accepts
* `Store.IsBuiltFor.mem_ranking_like_iff`: the records that a like clause finds
* `Searcher.not_found_lineFeedShop`: a text that is like a pattern and is not found
-/

namespace Catalog

variable {σ ρ : Type}

/-! ### The texts of records -/

/-- The text that a value of the type has. -/
def PropertyType.text? : {α : Type} → PropertyType α → α → Option String
  | _, string => some
  | _, option t => fun a => a.bind t.text?
  | _, int8 | _, int16 | _, int32 | _, int64 | _, uint8 | _, uint16 | _, uint32 | _, uint64
  | _, double | _, single | _, recordId | _, moment | _, geoPoint
  | _, structured _ => fun _ => none

/-- A text is written as it is. -/
theorem PropertyType.toField_of_text {α : Type} {t : PropertyType α} (ht : t.kind = .text) (a : α) :
    t.toField a = .ok ((t.text? a).map .text) := by
  induction t with
  | string => rfl
  | option t ih =>
    cases a with
    | none => rfl
    | some a => exact ih ht a
  | _ => cases ht

/-- The text that a record has for a property. -/
def Property.text? (P : Property ρ) (r : ρ) : Option String :=
  P.type.text? (P.get r)

/-- **The text of a record is its only term** in the field of the text, if it is short enough. -/
theorem Store.IsBuiltFor.terms_text {s : Store ρ} {R : RecordDescription ρ} (h : s.IsBuiltFor R)
    {P : Property ρ} (hP : P ∈ R.properties) (htext : P.type.kind = .text) {r : ρ} {e : Entry}
    (he : s.IsEntryOf r e) (hfits : ∀ v ∈ P.text? r, v.utf8ByteSize ≤ longestTermBytes) :
    e.terms P.binding.field = ((P.text? r).map Payload.text).toList := by
  rw [h.terms_field hP he (PropertyType.toField_of_text htext (P.get r)), Option.map_map]
  · rfl
  · rintro v hv t ht
    obtain ⟨t', ht', rfl⟩ := Option.mem_map.mp hv
    obtain rfl := Payload.text.inj ht
    exact hfits t' ht'

/-! ### The expression of a pattern -/

theorem wildcardQuery_eq (field p : String) : wildcardQuery field p =
    if (Regex.mk (wildcardItems p.toList)).hasFewStates then .ok (.regex field (wildcardRegex p))
    else .error (.pattern (wildcardRegex p)) := by
  rw [wildcardQuery]
  simp only [read?_wildcardRegex, Option.any_some]

/-- **A pattern without wildcards is never refused** unless it is very long. -/
theorem hasFewStates_of_not_mem {p : List Char} (hstar : '*' ∉ p) (hmark : '?' ∉ p)
    (hlength : p.length ≤ 239) : (Regex.mk (wildcardItems p)).hasFewStates = true := by
  rw [wildcardItems_of_not_mem hstar hmark]
  refine hasFewStates_beginning p ?_
  rw [Regex.mostStates]
  omega

/-- **The expression of a pattern accepts an entry** with one term if the term is like the pattern
and has no more line feeds than the pattern. -/
theorem Query.accepts_wildcardRegex_iff {field p v : String} {e : Entry}
    (he : e.terms field = [.text v]) (among : List Entry) :
    (Query.regex field (wildcardRegex p)).accepts among e = true ↔
      IsLike (fun _ => True) p.toList v.toList ∧ v.toList.count '\n' = p.toList.count '\n' := by
  rw [← isLike_ne_lineFeed_iff, ← itemsAccept_wildcardItems_iff, Query.accepts, he]
  simp only [read?_wildcardRegex, List.any_cons, List.any_nil, Bool.or_false]
  rfl

theorem Query.accepts_wildcardRegex_of_nil {field p : String} {e : Entry}
    (he : e.terms field = []) (among : List Entry) :
    (Query.regex field (wildcardRegex p)).accepts among e = false := by
  rw [Query.accepts, he]
  simp only [read?_wildcardRegex, List.any_nil]

/-- The expression of a pattern accepts an entry of a record just if the record has a text that is
like the pattern and has no more line feeds than the pattern. -/
theorem Store.IsBuiltFor.accepts_wildcardRegex_iff {s : Store ρ} {R : RecordDescription ρ}
    (h : s.IsBuiltFor R) {P : Property ρ} (hP : P ∈ R.properties) (htext : P.type.kind = .text)
    {r : ρ} {e : Entry} (he : s.IsEntryOf r e)
    (hfits : ∀ v ∈ P.text? r, v.utf8ByteSize ≤ longestTermBytes) (p : String)
    (among : List Entry) :
    (Query.regex P.binding.field (wildcardRegex p)).accepts among e = true ↔
      ∃ v ∈ P.text? r, IsLike (fun _ => True) p.toList v.toList ∧
        v.toList.count '\n' = p.toList.count '\n' := by
  have hterms := h.terms_text hP htext he hfits
  cases hv : P.text? r with
  | none =>
    rw [hv] at hterms
    rw [Query.accepts_wildcardRegex_of_nil hterms]
    simp
  | some v =>
    rw [hv] at hterms
    rw [Query.accepts_wildcardRegex_iff hterms]
    simp

/-! ### Like clauses -/

/-- A like clause on a text that is not analyzed is the expression of its pattern. -/
theorem Binding.likeQuery_of_not_analyzed {b : Binding} (hrole : b.role ≠ .analyzed)
    {pattern : String} (hpattern : isBlankText pattern = false) (a : Analyzer) :
    b.likeQuery a pattern = (wildcardQuery b.field (trim pattern)).map fun q => .allOf [q] := by
  have hwords : b.likeWords a pattern = [trim pattern] := by
    rw [likeWords, if_neg (by simpa using hrole)]
    simp [trim_ne_empty hpattern]
  rw [likeQuery_of_likeWords hwords, textField, analysisField?, if_neg hrole, Option.getD_none]

/-- A like clause on a text that is not analyzed asks for the expression of its pattern, and is
refused just if the expression is. -/
theorem SearchScope.build_like_of_not_analyzed {scope : SearchScope} {b : Binding} {c : Clause}
    (hb : scope.binding c.property = .ok b) (hrole : b.role ≠ .analyzed) {pattern : String}
    (hkind : c.kind = .like pattern) (hpattern : isBlankText pattern = false) :
    scope.build [{ c with occur := .must }] = (wildcardQuery b.field (trim pattern)).map fun q =>
      ⟨some (.allOf [(Query.allOf [q]).boosted c.boost]), none⟩ := by
  have harea : c.area? = none := by rw [Clause.area?, hkind]
  rw [build_alone_eq harea, propertyQuery, hb, hkind]
  simp only [bind, Except.bind, clauseQuery, Binding.likeQuery_of_not_analyzed hrole hpattern]
  cases wildcardQuery b.field (trim pattern) <;> rfl

/-- **The records that a like clause finds.** A like clause on a text that is not analyzed is
refused just if the expression of its pattern, without blanks at either end, has too many states,
and one without wildcards has few unless it is very long. After any calls on a new index the clause
finds the document of a record if the document is there and the text of the record, if it is short
enough to be a term, is like the pattern and has no more line feeds than the pattern. -/
theorem Store.IsBuiltFor.mem_ranking_like_iff {s : Store ρ} {R : RecordDescription ρ}
    (h : s.IsBuiltFor R) {P : Property ρ} (hP : P ∈ R.properties) (htext : P.type.kind = .text)
    (hrole : P.binding.role ≠ .analyzed) (hname : s.scope.binding P.name = .ok P.binding)
    {c : Clause} (hproperty : c.property = P.name) {pattern : String}
    (hkind : c.kind = .like pattern) (hpattern : isBlankText pattern = false)
    (g : IdGenerator σ) (ids : σ) (calls : List (Call ρ)) :
    let index := (s.newWriter.runCalls s g ids calls).1.index
    let p := trim pattern
    let built := s.scope.build [{ c with occur := .must }]
    let isShort := (Regex.mk (wildcardItems p.toList)).hasFewStates
    ('*' ∉ p.toList → '?' ∉ p.toList → p.length ≤ 239 → isShort = true) ∧
    (isShort = false → built = .error (.pattern (wildcardRegex p))) ∧
    (isShort = true → ∃ q, built = .ok ⟨some q, none⟩ ∧
      ∀ (r : ρ) (implicit : Option RecordId) (doc : Document),
        s.schema.Admits implicit → s.schema.toDocument r implicit = .ok doc →
        (P.text? r = none → doc ∉ index.snapshot.ranking q) ∧
        ∀ v, P.text? r = some v → v.utf8ByteSize ≤ longestTermBytes →
          (doc ∈ index.snapshot.ranking q ↔ doc ∈ liveDocuments index.slots ∧
            IsLike (fun _ => True) p.toList v.toList ∧
            v.toList.count '\n' = p.toList.count '\n')) := by
  intro index p built isShort
  have hbuilt : built = (wildcardQuery P.binding.field p).map fun q =>
      ⟨some (.allOf [(Query.allOf [q]).boosted c.boost]), none⟩ :=
    SearchScope.build_like_of_not_analyzed (by rw [hproperty, hname]) hrole hkind hpattern
  rw [wildcardQuery_eq] at hbuilt
  refine ⟨hasFewStates_of_not_mem, fun hshort => ?_, fun hshort => ?_⟩
  · rw [hbuilt, if_neg (ne_true_of_eq_false hshort)]
    rfl
  · rw [if_pos hshort] at hbuilt
    refine ⟨_, hbuilt, fun r implicit doc himplicit hdoc => ?_⟩
    have hfound (hfits : ∀ v ∈ P.text? r, v.utf8ByteSize ≤ longestTermBytes) :
        doc ∈ index.snapshot.ranking (.allOf [(Query.allOf
            [.regex P.binding.field (wildcardRegex p)]).boosted c.boost]) ↔
          doc ∈ liveDocuments index.slots ∧ ∃ v ∈ P.text? r,
            IsLike (fun _ => True) p.toList v.toList ∧
              v.toList.count '\n' = p.toList.count '\n' := by
      refine Index.mem_ranking_iff_of_accepts fun slot hslot hdocument among => ?_
      have he := s.isEntryOf_of_mem_runCalls g ids calls himplicit hdoc slot hslot hdocument
      rw [Query.accepts_allOf_singleton, Query.accepts_boosted, Query.accepts_allOf_singleton]
      exact h.accepts_wildcardRegex_iff hP htext he hfits p among
    constructor
    · intro hnone hmem
      obtain ⟨-, v, hv, -⟩ := (hfound (by simp [hnone])).mp hmem
      rw [hnone] at hv
      cases hv
    · intro v hv hfits
      rw [hfound (by simpa [hv] using hfits), hv]
      simp

/-! ### Shops -/

/-- The category of shops, which is a text that is not analyzed. -/
def Searcher.shopCategory : Property Shop :=
  Shop.description.properties.get ⟨2, by decide⟩

/-- A bakery is found by a pattern for its category. -/
theorem Store.IsMadeFor.mem_ranking_like_iff_bakery :
    let r := Searcher.shopNamed "a" "" "bakery"
    let index := (shops.newWriter.runCalls shops (.numbered "s") 0
      [.operation (.save r)]).1.index
    ∃ doc q, shops.schema.toDocument r none = .ok doc ∧
      shops.scope.build [SearchScope.likeClause "category" " b*r? "] = .ok ⟨some q, none⟩ ∧
      doc ∈ index.snapshot.ranking q := by
  intro r index
  obtain ⟨doc, hdoc, hlive⟩ := exists_mem_liveDocuments_save_shop (r := r) (by rfl) 0
  have hlike : IsLike (fun _ => True) "b*r?".toList "bakery".toList := by
    rw [IsLike, if_pos (by decide)]
    exact .char (by decide) (by decide) (.star (r := "ake".toList) (fun _ _ => trivial)
      (.char (by decide) (by decide) (.mark trivial .nil)))
  obtain ⟨-, -, hbuilt⟩ := isMadeFor_shops.toIsBuiltFor.mem_ranking_like_iff
    (P := Searcher.shopCategory) (List.get_mem _ _) rfl (by decide) rfl
    (c := SearchScope.likeClause "category" " b*r? ") rfl rfl (by decide) (.numbered "s") 0
    [.operation (.save r)]
  obtain ⟨q, hq, hfinds⟩ := hbuilt (by decide +kernel)
  exact ⟨doc, q, hdoc, hq, ((hfinds r none doc (.inl rfl) hdoc).2 "bakery" rfl (by decide)).mpr
    ⟨hlive, hlike, by decide⟩⟩

namespace Searcher

/-- **A text that is like a pattern and is not found.** A star stands for any run of characters, but
not for one with a line feed. -/
theorem not_found_lineFeedShop :
    let x := ofShops [shopNamed "a" "" "a\nb"]
    IsLike (fun _ => True) "a*b".toList "a\nb".toList ∧
      (x.allPaged 1 20 []).toOption.map (·.hits.map (·.record.id.text)) = some ["a"] ∧
      (x.search [SearchScope.likeClause "category" "a*b"] 1 20 []).toOption.map
        (·.hits.map (·.record.id.text)) = some [] := by
  refine ⟨?_, by decide +kernel⟩
  rw [IsLike, if_pos (by decide)]
  exact .char (by decide) (by decide) (.star (r := ['\n']) (fun _ _ => trivial)
    (.char (by decide) (by decide) .nil))

end Searcher

end Catalog
