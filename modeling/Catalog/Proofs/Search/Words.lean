import Catalog.Proofs.Search.Combined
import Catalog.Proofs.Search.Like

/-!
# Searching for the words of a text

A search for the words of a text folds each word and looks for what begins with it in each of some
properties. So does a like clause on the word, if the property is analyzed; a like clause on any
other property takes its literal as it stands. There the search for a text is the one for the folded
word, and that is another one just if the word is not folded to itself.

## Main definitions

* `IsTextWord`: the words of a text
* `SearchScope.wordClause`: the like clause that asks for what a word of a text asks for
* `Searcher.ReturnsText`: a search for a text whose pages have the records of some places

## Main results

* `SearchScope.build_wordClause`: a like clause on a word is the expression of the folded word
* `SearchScope.exists_freeText`: what the words of a text find
* `Searcher.returnsText_words`: what they return, by what like clauses return alone
* `Searcher.not_returnsText_bakery`: a word that a like clause finds and the search for it does not
-/

namespace Catalog

/-- A word of a text: a longest run without blanks and hyphens that is not empty. -/
def IsTextWord (w text : String) : Prop :=
  IsWordOf isTextBreak w.toList text.toList

theorem isTextWord_iff {w text : String} :
    IsTextWord w text ↔ w.toList ∈ wordsBy isTextBreak text.toList :=
  mem_wordsBy_iff.symm

theorem mem_wordsBy_ofList {w : List Char} {text : String} :
    w ∈ wordsBy isTextBreak text.toList ↔ IsTextWord (.ofList w) text := by
  rw [isTextWord_iff, String.toList_ofList]

/-- A word between blanks and hyphens is one between blanks. -/
theorem IsTextWord.isBlank {w text : String} (h : IsTextWord w text) :
    ∀ c ∈ w.toList, isBlank c = false := by
  intro c hc
  have hbreak := h.forall_not_sep c hc
  rw [isTextBreak, Bool.or_eq_false_iff] at hbreak
  exact hbreak.1

theorem IsTextWord.ne_empty {w text : String} (h : IsTextWord w text) : w ≠ "" :=
  fun hw => h.ne_nil (by rw [hw]; rfl)

/-! ### Like clauses on words -/

section

variable {b : Binding} {a : Analyzer} {w : String}

/-- The literal of a like clause that stands for a word of a text. -/
def Binding.wordLiteral (b : Binding) (a : Analyzer) (w : String) : String :=
  if b.role = .analyzed then w else a.foldLiteral w

/-- The one word of a like clause on a word: folded, or taken as it stands. -/
theorem Binding.likeWords_eq (hw : ∀ c ∈ w.toList, isBlank c = false) (hne : w ≠ "") :
    b.likeWords a w = [if b.role = .analyzed then a.foldLiteral w else w] := by
  have hwords : words w = [w] := IsShortWord.wordsBy_eq hw hne
  have htrim : trim w = w := by rw [trim, trimChars_of_forall hw, String.ofList_toList]
  unfold likeWords
  by_cases hrole : b.role = .analyzed
  · rw [if_pos (beq_iff_eq.mpr hrole), if_pos hrole, hwords]
    rfl
  · rw [if_neg (by simpa using hrole), if_neg hrole, htrim]
    simp [hne]

/-- A like clause on one word is its expression. -/
theorem Binding.likeQuery_of_likeWords {pattern : String} (h : b.likeWords a pattern = [w]) :
    b.likeQuery a pattern = (wildcardQuery b.textField w).map fun q => .allOf [q] := by
  rw [likeQuery, h]
  simp only [List.mapM_cons, List.mapM_nil]
  cases wildcardQuery b.textField w <;> rfl

/-- **The one word of a like clause that stands for a word** is the folded word. -/
theorem Binding.likeWords_wordLiteral (hw : ∀ c ∈ w.toList, isBlank c = false) (hne : w ≠ "") :
    b.likeWords a (b.wordLiteral a w) = [a.foldLiteral w] := by
  unfold wordLiteral
  by_cases hrole : b.role = .analyzed
  · rw [if_pos hrole, likeWords_eq hw hne, if_pos hrole]
  · rw [if_neg hrole, likeWords_eq (a.isBlank_foldLiteral hw)
      (a.foldLiteral_eq_empty_iff.not.mpr hne), if_neg hrole]

end

namespace SearchScope

variable {scope : SearchScope} {property w text : String} {properties : List String}

/-- A like clause that has to match. -/
def likeClause (property literal : String) : Clause :=
  { property, kind := .like literal }

/-- The like clause that asks for what a word of a text asks for. -/
def wordClause (scope : SearchScope) (property w : String) : Clause :=
  match scope.binding property with
  | .ok b => likeClause property (b.wordLiteral scope.analyzer w)
  | .error _ => likeClause property w

/-- The query for a word of a text in a property. -/
def wordQuery (scope : SearchScope) (property w : String) : Except SearchError Query := do
  let b ← scope.binding property
  wildcardQuery b.textField (scope.analyzer.foldLiteral w)

/-- A like clause of one word that has to match is compiled to the expression of the word. -/
theorem build_likeClause {b : Binding} {literal u : String} (hb : scope.binding property = .ok b)
    (h : b.likeWords scope.analyzer literal = [u]) :
    scope.build [likeClause property literal] =
      (wildcardQuery b.textField u).map fun q => ⟨some (.allOf [.allOf [q]]), none⟩ := by
  have hquery : scope.clauseQuery b (.like literal) =
      (wildcardQuery b.textField u).map fun q => .allOf [q] := Binding.likeQuery_of_likeWords h
  cases hq : wildcardQuery b.textField u with
  | error e =>
    rw [hq] at hquery
    simp only [build, List.foldlM_cons, likeClause, compileClause, hb, bind, Except.bind, hquery]
    rfl
  | ok q =>
    rw [hq] at hquery
    rw [likeClause, build_like hb hquery]
    rfl

/-- A clause that has to match finds alone what it selects. -/
theorem findsAlone_iff_of_must {c : Clause} (hc : c.occur = .must) (p : Place) :
    scope.findsAlone c p = true ↔ ∃ d, scope.build [c] = .ok d ∧ d.selects p = true := by
  have hmust : { c with occur := .must } = c := by rw [← hc]
  rw [findsAlone, hmust]
  cases scope.build [c] with
  | ok d => simp
  | error e => simp

theorem selects_allOf_allOf (q : Query) (p : Place) :
    (⟨some (.allOf [.allOf [q]]), none⟩ : QueryDescriptor).selects p = q.finds p := by
  rw [Bool.eq_iff_iff]
  simp [QueryDescriptor.selects, QueryDescriptor.toQuery?, Query.finds_boolean, Query.allOf,
    combine_iff]

/-- What a like clause of one word finds. -/
theorem findsAlone_likeClause {b : Binding} {literal u : String}
    (hb : scope.binding property = .ok b) (h : b.likeWords scope.analyzer literal = [u])
    (p : Place) : scope.findsAlone (likeClause property literal) p = true ↔
      ∃ q, wildcardQuery b.textField u = .ok q ∧ q.finds p = true := by
  rw [findsAlone_iff_of_must rfl, build_likeClause hb h]
  cases wildcardQuery b.textField u with
  | ok q => simp [Except.map, selects_allOf_allOf]
  | error e => exact iff_of_false nofun nofun

/-- **The like clause for a word of a text** is compiled to the query for the word. -/
theorem build_wordClause (h : IsTextWord w text) :
    scope.build [scope.wordClause property w] =
      (scope.wordQuery property w).map fun q => ⟨some (.allOf [.allOf [q]]), none⟩ := by
  unfold wordClause wordQuery
  cases hb : scope.binding property with
  | error e =>
    simp only [build, List.foldlM_cons, likeClause, compileClause, hb]
    rfl
  | ok b =>
    simp only [bind, Except.bind]
    exact build_likeClause hb (Binding.likeWords_wordLiteral h.isBlank h.ne_empty)

theorem exists_build_wordClause_iff (h : IsTextWord w text) :
    (∃ d, scope.build [scope.wordClause property w] = .ok d) ↔
      ∃ q, scope.wordQuery property w = .ok q := by
  rw [build_wordClause h]
  cases scope.wordQuery property w with
  | ok q => exact iff_of_true ⟨_, rfl⟩ ⟨q, rfl⟩
  | error e => exact iff_of_false nofun nofun

theorem build_wordClause_eq_error_iff (h : IsTextWord w text) {e : SearchError} :
    scope.build [scope.wordClause property w] = .error e ↔
      scope.wordQuery property w = .error e := by
  rw [build_wordClause h]
  cases scope.wordQuery property w with
  | ok q => exact iff_of_false nofun nofun
  | error e' => simp [Except.map]

theorem wordClause_occur : (scope.wordClause property w).occur = .must := by
  unfold wordClause
  cases scope.binding property <;> rfl

/-- What a word of a text finds. -/
theorem findsAlone_wordClause (h : IsTextWord w text) (p : Place) :
    scope.findsAlone (scope.wordClause property w) p = true ↔
      ∃ q, scope.wordQuery property w = .ok q ∧ q.finds p = true := by
  rw [findsAlone_iff_of_must wordClause_occur, build_wordClause h]
  cases scope.wordQuery property w with
  | ok q => simp [Except.map, selects_allOf_allOf]
  | error e => exact iff_of_false nofun nofun

end SearchScope

/-! ### Free text -/

/-- A disjunction finds what one of its parts finds. -/
theorem Query.finds_anyOf (qs : List Query) (p : Place) :
    (Query.anyOf qs).finds p = true ↔ ∃ q ∈ qs, q.finds p = true := by
  rw [anyOf, finds_boolean, combine_iff]
  simp

namespace SearchScope

variable {scope : SearchScope} {text : String} {properties : List String}

/-- Without words or without properties there is nothing to search for. -/
theorem freeText_eq_none (h : (∀ w, ¬ IsTextWord w text) ∨ properties = []) :
    scope.freeText text properties = .ok none := by
  rw [freeText, if_pos]
  rcases h with hnone | rfl
  · have hempty : wordsBy isTextBreak text.toList = [] :=
      List.eq_nil_iff_forall_not_mem.mpr fun w hw => hnone _ (mem_wordsBy_ofList.mp hw)
    rw [hempty]
    rfl
  · exact Bool.or_true _

/-- The query for a word of a text in any of some properties. -/
def wordQueries (scope : SearchScope) (properties : List String) (w : List Char) :
    Except SearchError Query :=
  (properties.mapM fun property => scope.wordQuery property (.ofList w)).map .anyOf

section

variable {w : List Char} {q : Query}

theorem wordQueries_eq_ok_iff : scope.wordQueries properties w = .ok q ↔
    ∃ rs, (properties.mapM fun property => scope.wordQuery property (.ofList w)) = .ok rs ∧
      .anyOf rs = q := by
  unfold wordQueries
  cases properties.mapM fun property => scope.wordQuery property (.ofList w) with
  | error e => exact iff_of_false nofun nofun
  | ok rs => simp [Except.map]

/-- What the query for a word in any of some properties finds. -/
theorem finds_wordQueries (h : scope.wordQueries properties w = .ok q) (p : Place) :
    q.finds p = true ↔ ∃ property ∈ properties, ∃ r,
      scope.wordQuery property (.ofList w) = .ok r ∧ r.finds p = true := by
  obtain ⟨rs, hrs, rfl⟩ := wordQueries_eq_ok_iff.mp h
  simp only [Query.finds_anyOf, mem_iff_of_mapM hrs]
  constructor
  · rintro ⟨r, ⟨property, hproperty, hr⟩, hfinds⟩
    exact ⟨property, hproperty, r, hr, hfinds⟩
  · rintro ⟨property, hproperty, r, hr, hfinds⟩
    exact ⟨r, ⟨property, hproperty, hr⟩, hfinds⟩

theorem exists_wordQueries_iff : (∃ q, scope.wordQueries properties w = .ok q) ↔
    ∀ property ∈ properties, ∃ r, scope.wordQuery property (.ofList w) = .ok r := by
  constructor
  · rintro ⟨q, hq⟩ property hproperty
    obtain ⟨rs, hrs, -⟩ := wordQueries_eq_ok_iff.mp hq
    exact exists_of_mem_of_mapM (f := (scope.wordQuery · (.ofList w))) hrs hproperty
  · intro h
    obtain ⟨rs, hrs⟩ := exists_mapM_of_forall h
    exact ⟨.anyOf rs, wordQueries_eq_ok_iff.mpr ⟨rs, hrs, rfl⟩⟩

theorem exists_of_wordQueries_error {e : SearchError}
    (h : scope.wordQueries properties w = .error e) :
    ∃ property ∈ properties, scope.wordQuery property (.ofList w) = .error e := by
  unfold wordQueries at h
  cases hrs : properties.mapM fun property => scope.wordQuery property (.ofList w) with
  | ok rs => rw [hrs] at h; cases h
  | error e' =>
    rw [hrs] at h
    cases h
    exact exists_of_mapM_error hrs

end

/-- If all properties are there, the query for a text is that for its words. -/
theorem freeText_eq {bs : List Binding} (hbs : properties.mapM scope.binding = .ok bs)
    (hne : properties ≠ []) {w : String} (hw : IsTextWord w text) :
    scope.freeText text properties =
      ((wordsBy isTextBreak text.toList).mapM (scope.wordQueries properties)).map
        fun qs => some (.anyOf qs) := by
  have hwords : wordsBy isTextBreak text.toList ≠ [] := List.ne_nil_of_mem (isTextWord_iff.mp hw)
  have hqueries (w : List Char) : (bs.mapM fun b =>
      wildcardQuery b.textField (scope.analyzer.foldLiteral (.ofList w))).map .anyOf =
        scope.wordQueries properties w := by
    rw [mapM_of_mapM hbs]
    rfl
  rw [freeText, if_neg (by simp [hwords, hne])]
  simp only [hbs, bind, Except.bind, List.mapM_map, Function.comp_def, hqueries]
  cases (wordsBy isTextBreak text.toList).mapM (scope.wordQueries properties) <;> rfl

/-- **What the words of a text find**, if they can be searched for. -/
theorem exists_freeText {w : String} (hw : IsTextWord w text) (hne : properties ≠ [])
    (hqueries : ∀ property ∈ properties, ∀ w, IsTextWord w text →
      ∃ q, scope.wordQuery property w = .ok q) :
    ∃ q, scope.freeText text properties = .ok (some q) ∧ ∀ p, q.finds p = true ↔
      ∃ property ∈ properties, ∃ w, IsTextWord w text ∧
        ∃ r, scope.wordQuery property w = .ok r ∧ r.finds p = true := by
  obtain ⟨bs, hbs⟩ : ∃ bs, properties.mapM scope.binding = .ok bs := by
    refine exists_mapM_of_forall fun property hproperty => ?_
    obtain ⟨q, hq⟩ := hqueries property hproperty w hw
    cases hb : scope.binding property with
    | ok b => exact ⟨b, rfl⟩
    | error e => rw [wordQuery, hb] at hq; cases hq
  obtain ⟨qs, hqs⟩ := exists_mapM_of_forall (f := scope.wordQueries properties) fun w hw =>
    exists_wordQueries_iff.mpr fun property hproperty =>
      hqueries property hproperty _ (mem_wordsBy_ofList.mp hw)
  refine ⟨.anyOf qs, by rw [freeText_eq hbs hne hw, hqs]; rfl, fun p => ?_⟩
  rw [Query.finds_anyOf]
  constructor
  · rintro ⟨q, hq, hfinds⟩
    obtain ⟨w, hw, hquery⟩ := (mem_iff_of_mapM hqs q).mp hq
    obtain ⟨property, hproperty, hr⟩ := (finds_wordQueries hquery p).mp hfinds
    exact ⟨property, hproperty, .ofList w, mem_wordsBy_ofList.mp hw, hr⟩
  · rintro ⟨property, hproperty, w, hw, hr⟩
    rw [← String.ofList_toList (s := w)] at hw hr
    obtain ⟨q, hq⟩ := exists_of_mem_of_mapM hqs (mem_wordsBy_ofList.mpr hw)
    exact ⟨q, (mem_iff_of_mapM hqs q).mpr ⟨_, mem_wordsBy_ofList.mpr hw, hq⟩,
      (finds_wordQueries hq p).mpr ⟨property, hproperty, hr⟩⟩

/-- If a word cannot be searched for, nor can the text, for the reason that one of its words has. -/
theorem exists_freeText_error {w property : String} {e : SearchError} (hw : IsTextWord w text)
    (hp : property ∈ properties) (he : scope.wordQuery property w = .error e) :
    ∃ property ∈ properties, ∃ w, IsTextWord w text ∧ ∃ e, scope.wordQuery property w = .error e ∧
      scope.freeText text properties = .error e := by
  have hne : properties ≠ [] := List.ne_nil_of_mem hp
  cases hbs : properties.mapM scope.binding with
  | error e' =>
    obtain ⟨property', hproperty', hb⟩ := exists_of_mapM_error hbs
    have hwords : wordsBy isTextBreak text.toList ≠ [] :=
      List.ne_nil_of_mem (isTextWord_iff.mp hw)
    refine ⟨property', hproperty', w, hw, e', by rw [wordQuery, hb]; rfl, ?_⟩
    rw [freeText, if_neg (by simp [hwords, hne]), hbs]
    rfl
  | ok bs =>
    cases hqs : (wordsBy isTextBreak text.toList).mapM (scope.wordQueries properties) with
    | error e' =>
      obtain ⟨w', hw', hqueries⟩ := exists_of_mapM_error hqs
      obtain ⟨property', hproperty', hquery⟩ := exists_of_wordQueries_error hqueries
      refine ⟨property', hproperty', .ofList w', mem_wordsBy_ofList.mp hw', e', hquery, ?_⟩
      rw [freeText_eq hbs hne hw, hqs]
      rfl
    | ok qs =>
      rw [← String.ofList_toList (s := w)] at hw he
      obtain ⟨r, hr⟩ := exists_wordQueries_iff.mp
        (exists_of_mem_of_mapM hqs (mem_wordsBy_ofList.mpr hw)) property hp
      rw [he] at hr
      cases hr

end SearchScope

/-! ### What a word and its folded form tell apart -/

/-- The expression of a text without wildcards finds what has a term that begins with the text, if it
is the only one and has no blanks. -/
theorem finds_of_wildcardQuery {field word v : String} {q : Query} {p : Place}
    (hq : wildcardQuery field word = .ok q) (hstar : '*' ∉ word.toList) (hmark : '?' ∉ word.toList)
    (hv : ∀ c ∈ v.toList, isBlank c = false) (hp : p.entry.terms field = [.text v]) :
    q.finds p = true ↔ word.toList <+: v.toList := by
  have hregex : q = .regex field (wildcardRegex word) := by
    simp only [wildcardQuery] at hq
    split at hq <;> cases hq
    rfl
  rw [hregex, Query.finds, Query.accepts, read?_wildcardRegex,
    wildcardItems_of_not_mem hstar hmark, hp]
  have haccepts : (Regex.mk (beginningItems word.toList)).accepts v.toList = true ↔
      word.toList <+: v.toList := by
    rw [accepts_eq, itemsAccept_beginning_iff]
    constructor
    · rintro ⟨r, hr, -⟩
      exact ⟨r, hr.symm⟩
    · rintro ⟨r, hr⟩
      refine ⟨r, hr.symm, fun c hc => ?_⟩
      rintro rfl
      have hblank := hv '\n' (hr ▸ List.mem_append_right _ hc)
      exact absurd hblank (by decide)
  simpa [Payload.characters?] using haccepts

namespace SearchScope

variable {scope : SearchScope} {property w text : String} {b : Binding}

/-- If a word is folded to itself, or the property is analyzed, the clause for it is the like clause
on the word. -/
theorem wordClause_eq_likeClause (hb : scope.binding property = .ok b)
    (h : b.role = .analyzed ∨ scope.analyzer.foldLiteral w = w) :
    scope.wordClause property w = likeClause property w := by
  rw [wordClause, hb]
  simp only [Binding.wordLiteral]
  rcases h with hrole | hfold
  · rw [if_pos hrole]
  · rw [hfold, ite_self]

/-- **Where the two searches differ.** If a word without wildcards is not folded to itself, there is
a value that just one of them finds, where it is that of a property that is not analyzed. -/
theorem exists_findsAlone_ne (hb : scope.binding property = .ok b) (hrole : b.role ≠ .analyzed)
    (hw : IsTextWord w text) (hstar : '*' ∉ w.toList) (hmark : '?' ∉ w.toList)
    (hfold : scope.analyzer.foldLiteral w ≠ w)
    (hlike : ∃ d, scope.build [likeClause property w] = .ok d)
    (hword : ∃ d, scope.build [scope.wordClause property w] = .ok d) :
    ∃ v : String, ∀ p : Place, p.entry.terms b.textField = [.text v] →
      (scope.findsAlone (likeClause property w) p = true ↔
        ¬ scope.findsAlone (scope.wordClause property w) p = true) := by
  set folded := scope.analyzer.foldLiteral w with hfolded
  have hblank := hw.isBlank
  have hblank' : ∀ c ∈ folded.toList, isBlank c = false := scope.analyzer.isBlank_foldLiteral hblank
  have hstar' : '*' ∉ folded.toList :=
    scope.analyzer.not_mem_foldLiteral (by decide) (by decide) hstar
  have hmark' : '?' ∉ folded.toList :=
    scope.analyzer.not_mem_foldLiteral (by decide) (by decide) hmark
  have hwords : b.likeWords scope.analyzer w = [w] := by
    rw [Binding.likeWords_eq hblank hw.ne_empty, if_neg hrole]
  have hquery : scope.wordQuery property w = wildcardQuery b.textField folded := by
    simp only [wordQuery, hb, bind, Except.bind, hfolded]
  rw [build_likeClause hb hwords] at hlike
  rw [exists_build_wordClause_iff hw, hquery] at hword
  obtain ⟨q, hq⟩ : ∃ q, wildcardQuery b.textField w = .ok q := by
    cases hq : wildcardQuery b.textField w with
    | ok q => exact ⟨q, rfl⟩
    | error e =>
      obtain ⟨d, hd⟩ := hlike
      rw [hq] at hd
      cases hd
  obtain ⟨r, hr⟩ := hword
  have hlikes (p : Place) : scope.findsAlone (likeClause property w) p = true ↔
      q.finds p = true := by
    rw [findsAlone_likeClause hb hwords, hq]
    simp
  have hasks (p : Place) : scope.findsAlone (scope.wordClause property w) p = true ↔
      r.finds p = true := by
    rw [findsAlone_wordClause hw, hquery, hr]
    simp
  by_cases hbegins : folded.toList <+: w.toList
  · refine ⟨folded, fun p hp => ?_⟩
    rw [hlikes, hasks, finds_of_wildcardQuery hq hstar hmark hblank' hp,
      finds_of_wildcardQuery hr hstar' hmark' hblank' hp]
    refine iff_of_false (fun h => hfold ?_) (not_not_intro (List.prefix_refl _))
    exact String.toList_inj.mp (hbegins.eq_of_length (le_antisymm hbegins.length_le h.length_le))
  · refine ⟨w, fun p hp => ?_⟩
    rw [hlikes, hasks, finds_of_wildcardQuery hq hstar hmark hblank hp,
      finds_of_wildcardQuery hr hstar' hmark' hblank hp]
    exact iff_of_true (List.prefix_refl _) hbegins

end SearchScope

namespace Searcher

variable {ρ : Type} {x : Searcher ρ} {text : String} {properties : List String} {size : Nat}
  {sort : List SortOption} {keys : List SortKey}

open SearchScope (likeClause)

open scoped Classical in
/-- A search for the words of a text returns, over all its pages, the records of just the wanted
places, in some order. -/
def ReturnsText (x : Searcher ρ) (text : String) (properties : List String) (size : Nat)
    (sort : List SortOption) (wanted : Place → Prop) : Prop :=
  ∃ hits expected, (x.snapshot.places.filter (wanted ·)).mapM (x.hit ⟨none, none⟩) = .ok expected ∧
    readPages (x.searchText text properties · size sort) size = .ok hits ∧ hits.Perm expected

theorem searchText_eq_empty (hsort : x.store.scope.sortKeys sort = .ok keys)
    (h : (∀ w, ¬ IsTextWord w text) ∨ properties = []) (page : Int) :
    x.searchText text properties page size sort = .ok .empty := by
  rw [searchText, hsort, SearchScope.freeText_eq_none h]
  rfl

/-- A search for nothing has no pages. -/
theorem returnsText_of_eq_empty (hsize : 0 < size)
    (h : ∀ page, x.searchText text properties page size sort = .ok .empty)
    {wanted : Place → Prop} (hwanted : ∀ p, ¬ wanted p) :
    x.ReturnsText text properties size sort wanted := by
  have hzero : pageCount (ResultPage.empty : ResultPage ρ).total size = 0 := by
    rw [pageCount, if_neg hsize.ne']
    exact Nat.div_eq_of_lt (by show 0 + size - 1 < size; omega)
  refine ⟨[], [], ?_, ?_, .refl _⟩
  · rw [List.filter_eq_nil_iff.mpr fun p _ => by simpa using hwanted p]
    rfl
  · simp only [readPages, h, bind, Except.bind, hzero]
    rfl

/-- The query for a text returns the places that it finds. -/
theorem returnsText_of_finds_iff {q : Query} (hdecodes : x.Decodes)
    (hsort : x.store.scope.sortKeys sort = .ok keys) (hsize : 0 < size)
    (hcount : x.count ≤ x.store.config.maxResults) (hword : x.store.config.maxResults ≤ wordMax)
    (hq : x.store.scope.freeText text properties = .ok (some q)) {wanted : Place → Prop}
    (hwanted : ∀ p, q.finds p = true ↔ wanted p) :
    x.ReturnsText text properties size sort wanted := by
  obtain rfl : (fun p => q.finds p = true) = wanted := funext fun p => propext (hwanted p)
  have hpage (page : Int) : x.searchText text properties page size sort = x.resultPage
      (x.snapshot.candidates q none keys x.store.config.maxResults) page size := by
    rw [searchText, hsort, hq]
    rfl
  have hselects : (⟨some q, none⟩ : QueryDescriptor).selects = q.finds := by
    funext p
    simp [QueryDescriptor.selects, QueryDescriptor.toQuery?]
  obtain ⟨hits, expected, hexpected, hhits, hperm⟩ := exists_readPages_of_selects
    (d := ⟨some q, none⟩) hdecodes rfl hpage hsize hcount hword
  have hhit : x.hit ⟨some q, none⟩ = x.hit ⟨none, none⟩ := rfl
  rw [hhit, hselects] at hexpected
  exact ⟨hits, expected, by simpa using hexpected, hhits, hperm⟩

/-- **The words of a text return** what the like clauses for them find. -/
theorem returnsText_of_builds (hdecodes : x.Decodes) (hsort : x.store.scope.sortKeys sort = .ok keys)
    (hsize : 0 < size) (hcount : x.count ≤ x.store.config.maxResults)
    (hword : x.store.config.maxResults ≤ wordMax)
    (hbuild : ∀ property ∈ properties, ∀ w, IsTextWord w text →
      ∃ d, x.store.scope.build [x.store.scope.wordClause property w] = .ok d) :
    x.ReturnsText text properties size sort fun p => ∃ property ∈ properties, ∃ w,
      IsTextWord w text ∧ x.store.scope.findsAlone (x.store.scope.wordClause property w) p = true := by
  by_cases hnone : (∀ w, ¬ IsTextWord w text) ∨ properties = []
  · refine returnsText_of_eq_empty hsize (searchText_eq_empty hsort hnone) ?_
    rintro p ⟨property, hproperty, w, hw, -⟩
    rcases hnone with hnone | rfl
    · exact hnone w hw
    · cases hproperty
  · rw [not_or, not_forall_not] at hnone
    obtain ⟨⟨w, hw⟩, hne⟩ := hnone
    obtain ⟨q, hq, hfinds⟩ := SearchScope.exists_freeText hw hne fun property hp w hw =>
      (SearchScope.exists_build_wordClause_iff hw).mp (hbuild property hp w hw)
    refine returnsText_of_finds_iff hdecodes hsort hsize hcount hword hq fun p => ?_
    rw [hfinds]
    exact exists_congr fun property => and_congr_right fun _ => exists_congr fun w =>
      and_congr_right fun hw => (SearchScope.findsAlone_wordClause hw p).symm

/-- A like clause that is compiled returns what it finds. -/
theorem returns_of_must {c : Clause} (hdecodes : x.Decodes)
    (hsort : x.store.scope.sortKeys sort = .ok keys) (hsize : 0 < size)
    (hcount : x.count ≤ x.store.config.maxResults) (hword : x.store.config.maxResults ≤ wordMax)
    (hmust : c.occur = .must) (hbuild : ∃ d, x.store.scope.build [c] = .ok d) :
    x.Returns [c] size sort (x.store.scope.findsAlone c · = true) := by
  obtain ⟨d, hd⟩ := hbuild
  obtain ⟨q, hq⟩ := SearchScope.exists_toQuery? hd (List.cons_ne_nil _ _)
  refine returns_of_selects_iff hdecodes hd hsort hq hsize hcount hword fun p => ?_
  rw [SearchScope.findsAlone_iff_of_must hmust, hd]
  simp

/-- **What the search for the words of a text returns.** It returns nothing without words or without
properties. It returns what is found by the like clause on some word in some property, if all the
properties are analyzed or all the words are folded to themselves. In general the like clause on the
folded word takes the place of that on the word in a property that is not analyzed. For a word
without wildcards that is not folded to itself the two tell some value of such a property apart. If
one of the clauses cannot be compiled, the search fails as one of them does. -/
theorem returnsText_words (hdecodes : x.Decodes) (hsort : x.store.scope.sortKeys sort = .ok keys)
    (hsize : 0 < size) (hcount : x.count ≤ x.store.config.maxResults)
    (hword : x.store.config.maxResults ≤ wordMax) :
    let scope := x.store.scope
    ((∀ w, ¬ IsTextWord w text) ∨ properties = [] →
      ∀ page, x.searchText text properties page size sort = .ok .empty) ∧
    ((∀ property ∈ properties, ∀ w, IsTextWord w text →
        (∃ b, scope.binding property = .ok b ∧
          (b.role = .analyzed ∨ scope.analyzer.foldLiteral w = w)) ∧
        ∃ d, scope.build [likeClause property w] = .ok d) →
      x.ReturnsText text properties size sort (fun p => ∃ property ∈ properties, ∃ w,
        IsTextWord w text ∧ scope.findsAlone (likeClause property w) p = true) ∧
      ∀ property ∈ properties, ∀ w, IsTextWord w text → x.Returns [likeClause property w] size sort
        (scope.findsAlone (likeClause property w) · = true)) ∧
    ((∀ property ∈ properties, ∀ w, IsTextWord w text →
        ∃ d, scope.build [scope.wordClause property w] = .ok d) →
      x.ReturnsText text properties size sort (fun p => ∃ property ∈ properties, ∃ w,
        IsTextWord w text ∧ scope.findsAlone (scope.wordClause property w) p = true) ∧
      ∀ property ∈ properties, ∀ w, IsTextWord w text → x.Returns [scope.wordClause property w]
        size sort (scope.findsAlone (scope.wordClause property w) · = true)) ∧
    (∀ property ∈ properties, ∀ b, scope.binding property = .ok b → b.role ≠ .analyzed →
      ∀ w, IsTextWord w text → '*' ∉ w.toList → '?' ∉ w.toList →
        scope.analyzer.foldLiteral w ≠ w → (∃ d, scope.build [likeClause property w] = .ok d) →
        (∃ d, scope.build [scope.wordClause property w] = .ok d) →
        ∃ v : String, ∀ p : Place, p.entry.terms b.textField = [.text v] →
          (scope.findsAlone (likeClause property w) p = true ↔
            ¬ scope.findsAlone (scope.wordClause property w) p = true)) ∧
    ∀ property ∈ properties, ∀ w, IsTextWord w text → ∀ e,
      scope.build [scope.wordClause property w] = .error e →
      ∃ property ∈ properties, ∃ w, IsTextWord w text ∧ ∃ e,
        scope.build [scope.wordClause property w] = .error e ∧
        ∀ page, x.searchText text properties page size sort = .error e := by
  intro scope
  have hgeneral (hbuild : ∀ property ∈ properties, ∀ w, IsTextWord w text →
      ∃ d, scope.build [scope.wordClause property w] = .ok d) :=
    returnsText_of_builds hdecodes hsort hsize hcount hword hbuild
  have halone {c : Clause} (hmust : c.occur = .must) (hbuild : ∃ d, scope.build [c] = .ok d) :=
    returns_of_must hdecodes hsort hsize hcount hword hmust hbuild
  refine ⟨searchText_eq_empty hsort, fun hlike => ⟨?_, fun property hp w hw => ?_⟩,
    fun hbuild => ⟨hgeneral hbuild, fun property hp w hw => ?_⟩, ?_, ?_⟩
  · have heq : ∀ property ∈ properties, ∀ w, IsTextWord w text →
        scope.wordClause property w = likeClause property w := fun property hp w hw => by
      obtain ⟨⟨b, hb, hfold⟩, -⟩ := hlike property hp w hw
      exact SearchScope.wordClause_eq_likeClause hb hfold
    have hreturns := hgeneral fun property hp w hw => by
      rw [heq property hp w hw]
      exact (hlike property hp w hw).2
    refine (congrArg (x.ReturnsText text properties size sort) (funext fun p => propext ?_)).mp
      hreturns
    exact exists_congr fun property => and_congr_right fun hp => exists_congr fun w =>
      and_congr_right fun hw => by rw [heq property hp w hw]
  · exact halone rfl (hlike property hp w hw).2
  · exact halone SearchScope.wordClause_occur (hbuild property hp w hw)
  · intro property _ b hb hrole w hw hstar hmark hfold hlike hasks
    exact SearchScope.exists_findsAlone_ne hb hrole hw hstar hmark hfold hlike hasks
  · intro property hp w hw e he
    obtain ⟨property', hp', w', hw', e', he', hfails⟩ := SearchScope.exists_freeText_error hw hp
      ((SearchScope.build_wordClause_eq_error_iff hw).mp he)
    refine ⟨property', hp', w', hw', e',
      (SearchScope.build_wordClause_eq_error_iff hw').mpr he', fun page => ?_⟩
    rw [searchText, hsort, hfails]
    rfl

/-! ### Shops -/

/-- A shop of which the identity, the name and the category are known. -/
def shopNamed (text name category : String) : Shop :=
  { Shop.blank with id := ⟨text⟩, name, category }

/-- Shops in two categories. -/
def namedShops : Searcher Shop :=
  ofShops [shopNamed "a" "Old Bakery" "Bakery", shopNamed "b" "Corner shop" "grocery",
    shopNamed "c" "Millers" "bakery"]

/-- The words of a text find the shops that have one of them in their name. -/
theorem returnsText_words_namedShops :
    (namedShops.ReturnsText "MILL-old" ["name"] 1 [] fun p => ∃ property ∈ ["name"], ∃ w,
      IsTextWord w "MILL-old" ∧
        namedShops.store.scope.findsAlone (likeClause property w) p = true) ∧
    (readPages (namedShops.searchText "MILL-old" ["name"] · 1 []) 1).toOption.map
      (List.map (·.record.id.text)) = some ["a", "c"] := by
  have hdecodes : namedShops.Decodes := by decide +kernel
  have hsort : namedShops.store.scope.sortKeys [] = .ok [] := rfl
  refine ⟨((returnsText_words hdecodes hsort Nat.one_pos (by decide +kernel)
    (by decide +kernel)).2.1 ?_).1, by decide +kernel⟩
  intro property hproperty w hw
  obtain rfl := List.mem_singleton.mp hproperty
  have hwords : wordsBy isTextBreak "MILL-old".toList = ["MILL".toList, "old".toList] := by decide
  have hmem : w.toList ∈ ["MILL".toList, "old".toList] := hwords ▸ isTextWord_iff.mp hw
  have hbuild : ∀ w ∈ ["MILL", "old"],
      (namedShops.store.scope.build [likeClause "name" w]).isOk = true := by decide +kernel
  rw [List.mem_pair, String.toList_inj, String.toList_inj, ← List.mem_pair] at hmem
  exact ⟨⟨_, rfl, .inl rfl⟩, exists_of_isOk (hbuild w hmem)⟩

/-- A shop of the category of the text is not found by the search for the text, although a like
clause on the only word finds it. -/
theorem not_returnsText_bakery :
    let x := ofShops [shopNamed "a" "" "Bakery"]
    x.Decodes ∧ x.count ≤ x.store.config.maxResults ∧ x.store.config.maxResults ≤ wordMax ∧
      (∃ d, x.store.scope.build [likeClause "category" "Bakery"] = .ok d) ∧
      ¬ x.ReturnsText "Bakery" ["category"] 20 [] (fun p => ∃ property ∈ ["category"], ∃ w,
        IsTextWord w "Bakery" ∧
          x.store.scope.findsAlone (likeClause property w) p = true) := by
  intro x
  refine ⟨by decide +kernel, by decide +kernel, by decide +kernel,
    exists_of_isOk (by decide +kernel), ?_⟩
  rintro ⟨hits, expected, hexpected, hhits, hperm⟩
  have hnone : (readPages (x.searchText "Bakery" ["category"] · 20 []) 20).toOption.map
      List.length = some 0 := by decide +kernel
  have hfound : ∃ p ∈ x.snapshot.places,
      x.store.scope.findsAlone (likeClause "category" "Bakery") p = true := by decide +kernel
  -- nothing is returned, although there is a place that the like clause finds
  rw [hhits] at hnone
  obtain rfl : hits = [] := List.eq_nil_of_length_eq_zero (Option.some.inj hnone)
  obtain rfl : expected = [] := hperm.nil_eq.symm
  obtain ⟨p, hp, hfinds⟩ := hfound
  have hkept := List.filter_eq_nil_iff.mp (eq_nil_of_mapM_ok hexpected) p hp
  have hword : IsTextWord "Bakery" "Bakery" := isTextWord_iff.mpr (by decide)
  exact hkept (by simpa using ⟨"Bakery", hword, hfinds⟩)

end Searcher

end Catalog
