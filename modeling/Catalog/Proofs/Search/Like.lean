import Catalog.Proofs.Search.Ranking
import Catalog.Proofs.Store.Entries
import Catalog.Proofs.Text.Analyzer
import Catalog.Search.Searcher

/-!
# Like clauses on single words

A like clause whose literal is a word of an analyzed property becomes one expression, and the
records with just this word in the property are found by it if the word is not dropped and has the
same form in an index as in a query.

## Main definitions

* `Binding.wordQuery`: the query of a like clause on a word

## Main results

* `Binding.likeQuery_of_isShortWord`: a like clause on a word is compiled
* `Binding.accepts_wordQuery_iff`: the entries that its query accepts
* `Store.IsBuiltFor.like_word_iff`: the documents that a like clause on their word finds
-/

namespace Catalog

variable {σ ρ : Type}

namespace Binding

variable {b : Binding} {w : String}

/-- The query of a like clause on a word. -/
def wordQuery (b : Binding) (w : String) : Query :=
  if w = "" then .empty
  else .allOf [.regex b.textField (wildcardRegex (Analyzer.greek.foldLiteral w))]

theorem wildcardQuery_of_isShortWord (hw : IsShortWord w) (field : String) :
    wildcardQuery field (Analyzer.greek.foldLiteral w) =
      .ok (.regex field (wildcardRegex (Analyzer.greek.foldLiteral w))) := by
  rw [wildcardQuery]
  simp only [hw.read?_wildcardRegex, Option.any_some, hw.hasFewStates, if_true]

/-- **A like clause on a word is compiled**: its expression has few states. -/
theorem likeQuery_of_isShortWord (hb : b.role = .analyzed) (hw : IsShortWord w) :
    b.likeQuery .greek w = .ok (b.wordQuery w) := by
  have hrole : (b.role == .analyzed) = true := beq_iff_eq.mpr hb
  by_cases hne : w = ""
  · subst hne
    rw [likeQuery, likeWords, if_pos hrole, wordQuery, if_pos rfl]
    rfl
  · have hwords : words w = [w] := IsShortWord.wordsBy_eq hw.isBlank hne
    rw [likeQuery, likeWords, if_pos hrole, hwords, wordQuery, if_neg hne]
    simp only [List.map_cons, List.map_nil, List.mapM_cons, List.mapM_nil,
      wildcardQuery_of_isShortWord hw]
    rfl

/-- **The query of a word accepts the entries that have the word** if it is not dropped and has one
form in an index and in a query. -/
theorem accepts_wordQuery_iff (hw : IsShortWord w) {e : Entry}
    (he : e.terms b.textField = (Analyzer.greek.analyze w).map Payload.text)
    (among : List Entry) :
    (b.wordQuery w).accepts among e = true ↔
      Analyzer.greek.analyze w ≠ [] ∧ Greek.FoldsAlike w.toList := by
  by_cases hne : w = ""
  · subst hne
    rw [wordQuery, if_pos rfl, Query.accepts, IsShortWord.analyze_empty]
    simp
  · rw [wordQuery, if_neg hne, Query.accepts_allOf, List.all_cons, List.all_nil, Bool.and_true,
      Query.accepts]
    simp only [hw.read?_wildcardRegex, he, List.any_map]
    exact hw.any_accepts_analyze_greek_iff

end Binding

/-- The compiled form of a clause that is about the property of a binding and has to match. -/
theorem SearchScope.build_like {scope : SearchScope} {b : Binding} {property pattern : String}
    {q : Query} (hb : scope.binding property = .ok b)
    (hq : scope.clauseQuery b (.like pattern) = .ok q) :
    scope.build [{ property, kind := .like pattern }] = .ok ⟨some (.allOf [q]), none⟩ := by
  have hclause : scope.compileClause ⟨[], none⟩ { property, kind := .like pattern } =
      .ok ⟨[(.must, q)], none⟩ := by
    simp only [compileClause, hb, bind, Except.bind, hq]
    rfl
  rw [build, List.foldlM_cons, hclause]
  rfl

/-- **The documents that a like clause on their word finds.** A word of letters and digits that is
not too long has the folded word as its only term, or none, just if it is dropped or folds alike.
After any calls on a new index a like clause on the word finds a document of a record that has the
word in an analyzed property just if the document is there, and the word is not dropped and folds
alike. -/
theorem Store.IsBuiltFor.like_word_iff {s : Store ρ} {R : RecordDescription ρ}
    (h : s.IsBuiltFor R) (hgreek : s.config.analyzer = .greek) {P : Property ρ}
    (hP : P ∈ R.properties) (hrole : P.binding.role = .analyzed)
    (hname : s.scope.binding P.name = .ok P.binding) {w : String} (hw : IsShortWord w)
    (g : IdGenerator σ) (ids : σ) (ops : List (Operation ρ)) :
    let index := (s.newWriter.run s g ids ops).1.index
    (Analyzer.greek.analyze w = [] ∨ Analyzer.greek.analyze w = [Analyzer.greek.foldLiteral w] ↔
      Analyzer.greek.analyze w = [] ∨ Greek.FoldsAlike w.toList) ∧
    ∃ q, s.scope.build [{ property := P.name, kind := .like w }] = .ok ⟨some q, none⟩ ∧
      ∀ (r : ρ) (implicit : Option RecordId) (d : Document) (v : FieldValue),
        s.schema.Admits implicit → s.schema.toDocument r implicit = .ok d →
        P.type.toField (P.get r) = .ok (some v) → v.payload.toText = w →
        (d ∈ index.snapshot.ranking q ↔ d ∈ liveDocuments index.slots ∧
          Analyzer.greek.analyze w ≠ [] ∧ Greek.FoldsAlike w.toList) := by
  intro index
  refine ⟨hw.analyze_greek_eq_foldLiteral_iff, .allOf [P.binding.wordQuery w], ?_, ?_⟩
  · refine SearchScope.build_like hname ?_
    show P.binding.likeQuery s.config.analyzer w = _
    rw [hgreek, Binding.likeQuery_of_isShortWord hrole hw]
  · intro r implicit d v himplicit hd hv hword
    refine Index.mem_ranking_iff_of_accepts fun slot hslot hdocument among => ?_
    have hterms := h.terms_textField hP hrole himplicit hd hv .greek
    have hentry := (s.isEntry_of_mem_run g ids ops slot hslot).eq_ofDocument
    rw [hdocument, hgreek] at hentry
    rw [← hentry, hword] at hterms
    rw [Query.accepts_allOf, List.all_cons, List.all_nil, Bool.and_true]
    exact Binding.accepts_wordQuery_iff hw hterms among

namespace Store.IsMadeFor

/-- The name of shops, which is an analyzed property. -/
def shopName : Property Shop :=
  Shop.description.properties.get ⟨1, by decide⟩

/-- A shop with a Greek name. -/
def sophos : Shop := { Shop.blank with id := ⟨"s1"⟩, name := "Σοφός" }

theorem foldsAlike_sophos : Greek.FoldsAlike "Σοφός".toList :=
  Greek.foldsAlike_of_greek (by decide) (by decide) (by decide)

/-- A like clause on the name of a shop finds the shop once it has been saved. -/
theorem like_word_iff_sophos :
    let index := (shops.newWriter.run shops (.numbered "s") 0 [.save sophos]).1.index
    ∃ d q, shops.schema.toDocument sophos none = .ok d ∧
      shops.scope.build [{ property := "name", kind := .like "Σοφός" }] = .ok ⟨some q, none⟩ ∧
      d ∈ index.snapshot.ranking q := by
  intro index
  have hw : IsShortWord "Σοφός" := by decide
  obtain ⟨d, hd, hlive⟩ := exists_mem_liveDocuments_save_shop (r := sophos) (by rfl) 0
  have hkept : Analyzer.greek.analyze "Σοφός" ≠ [] := by
    rw [Ne, hw.analyze_greek_eq_nil_iff (by decide) foldsAlike_sophos]
    decide
  obtain ⟨-, q, hq, hfinds⟩ := isMadeFor_shops.toIsBuiltFor.like_word_iff rfl (P := shopName)
    (List.get_mem _ _) rfl rfl hw (.numbered "s") 0 [.save sophos]
  exact ⟨d, q, hd, hq, (hfinds sophos none d (.text "Σοφός") (.inl rfl) hd rfl rfl).mpr
    ⟨hlive, hkept, foldsAlike_sophos⟩⟩

end Store.IsMadeFor

end Catalog
