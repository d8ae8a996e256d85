import ScanIndex.Proofs.Store.Cascade
import ScanIndex.Proofs.Store.Relational

/-!
# Removing what a query accepts

Removing the documents that a query accepts, and removing those under the identifiers that are found
for the query, lead to the same store (`deleteWhere_eq_delete_keys`).  This is so in memory and in
tables, and in tables whatever they hold, as long as no identifier is used twice: `Tables.trees`
reads the documents of any tables, without the lines that have lost their coordinates, and a query
finds those that it accepts (`finds_trees`).

A list of identifiers counts only by the documents that it names, and may be cut into any pieces
(`DeletesNamed`).
-/

namespace ScanIndex

open Sql

/-! ### The documents of tables -/

namespace Sql.Tables

/-- The lines that a row of a line stands for, one for each row of its coordinates. -/
def linesAt (t : Tables) (l : LineRow) : List Line :=
  (t.coordinates.filter fun c => c.line = l.id).map fun c => ⟨l.id, l.text, ⟨c.id, c.corners⟩⟩

/-- The page at a row. -/
def pageAt (t : Tables) (p : PageRow) : Page :=
  ⟨p.id, p.number, (t.linesOf p.id).flatMap t.linesAt⟩

/-- The document at a row. -/
def documentAt (t : Tables) (d : DocumentRow) : Document :=
  ⟨d.id, d.file.bucket, d.file.key, (t.pagesOf d.id).map t.pageAt⟩

/-- The documents of the tables, in the order of their rows. -/
def trees (t : Tables) : List Document := t.documents.map t.documentAt

/-- No identifier of a document, a page or a line is used twice. -/
structure Keyed (t : Tables) : Prop where
  documents : (t.documents.map DocumentRow.id).Nodup
  pages : (t.pages.map PageRow.id).Nodup
  lines : (t.lines.map LineRow.id).Nodup

variable {t : Tables} {q : Query}

@[simp] theorem row_documentAt (t : Tables) (d : DocumentRow) :
  (t.documentAt d).row = d
  := rfl

theorem map_row_trees (t : Tables) :
  t.trees.map Document.row = t.documents
  := by
  rw [trees, List.map_map]
  exact List.map_id t.documents

theorem mem_linesOf {page : String} {l : LineRow} :
  l ∈ t.linesOf page ↔ l ∈ t.lines ∧ l.page = page
  := by
  rw [linesOf, List.mem_mergeSort, List.mem_filter, decide_eq_true_eq]

theorem mem_pagesOf {document : String} {p : PageRow} :
  p ∈ t.pagesOf document ↔ p ∈ t.pages ∧ p.document = document
  := by
  rw [pagesOf, List.mem_mergeSort, List.mem_filter, decide_eq_true_eq]

/-- A line filter accepts the document at a row exactly if its predicate is true of the row. -/
theorem answers_documentAt (t : Tables) (d : DocumentRow) :
  t.Answers (t.documentAt d)
  := by
  intro f
  rw [LineFilter.eval_expr, row_documentAt, Option.some.injEq, Bool.eq_iff_iff]
  simp only [LineFilter.accepts, LineFilter.acceptsRows, LineFilter.acceptsLine, List.any_eq_true,
    Bool.and_eq_true, decide_eq_true_eq]
  simp only [documentAt, pageAt, linesAt, List.mem_map, List.mem_flatMap, exists_exists_and_eq_and,
    List.mem_filter, decide_eq_true_eq, mem_linesOf, mem_pagesOf]
  constructor
  · rintro ⟨p, hp, l, hl, c, hc, hlp, hcl, hpd, hnumber, htext, hbounds⟩
    exact ⟨p, ⟨hp, hpd⟩, _, ⟨l, ⟨hl, hlp⟩, c, ⟨hc, hcl⟩, rfl⟩, ⟨hnumber, htext⟩, hbounds⟩
  · rintro ⟨p, ⟨hp, hpd⟩, _, ⟨l, ⟨hl, hlp⟩, c, ⟨hc, hcl⟩, rfl⟩, ⟨hnumber, htext⟩, hbounds⟩
    exact ⟨p, hp, l, hl, c, hc, hlp, hcl, hpd, hnumber, htext, hbounds⟩

/-- A query finds the documents of any tables that it accepts. -/
theorem finds_trees (t : Tables) (q : Query) :
  t.Finds q (t.trees.filter q.accepts)
  := by
  apply finds_filter t.map_row_trees.symm
  intro d hd
  obtain ⟨r, -, rfl⟩ := List.mem_map.1 hd
  apply Query.selects_expr_of_answers (t.answers_documentAt r) q

namespace Represents

variable {ds : List Document}

theorem keyed (h : t.Represents ds) :
  t.Keyed
  := by
  constructor
  · rw [h.documents, List.map_map]
    exact h.storable.documents
  · apply h.below.perm_page_ids.nodup_iff.2 h.storable.pages
  · apply h.below.perm_line_ids.nodup_iff.2 h.storable.lines

end Represents

/-! ### Documents of cleared tables -/

variable {gone : DocumentRow → Bool}

/-- Items of which none is lost are all found among those that are left. -/
theorem filter_not_filter {α : Type} {lost mine : α → Bool} {xs : List α}
    (h : ∀ x ∈ xs, mine x = true → lost x = false) :
  (xs.filter fun x => !lost x).filter mine = xs.filter mine
  := by
  rw [List.filter_filter]
  apply List.filter_congr
  intro x hx
  cases hmine : mine x with
  | false => rfl
  | true => rw [h x hx hmine, Bool.true_and, Bool.not_false]

namespace Keyed

theorem losesPage_eq (h : t.Keyed) {d : DocumentRow} (hd : d ∈ t.documents) {p : PageRow}
    (hp : p.document = d.id) :
  t.losesPage gone p = gone d
  := by
  rw [losesPage, hp, ← List.any_filter]
  apply any_filter_key_eq h.documents hd

theorem losesLine_eq (h : t.Keyed) {p : PageRow} (hp : p ∈ t.pages) {l : LineRow}
    (hl : l.page = p.id) :
  t.losesLine gone l = t.losesPage gone p
  := by
  rw [losesLine, hl, ← List.any_filter]
  apply any_filter_key_eq h.pages hp

theorem losesCoordinates_eq (h : t.Keyed) {l : LineRow} (hl : l ∈ t.lines) {c : CoordinatesRow}
    (hc : c.line = l.id) :
  t.losesCoordinates gone c = t.losesLine gone l
  := by
  rw [losesCoordinates, hc, ← List.any_filter]
  apply any_filter_key_eq h.lines hl

theorem pagesOf_cleared (h : t.Keyed) {d : DocumentRow} (hd : d ∈ t.documents)
    (hkept : gone d = false) :
  (t.cleared gone).pagesOf d.id = t.pagesOf d.id
  := by
  rw [pagesOf, pagesOf, cleared, filter_not_filter]
  intro p _ hp
  rw [h.losesPage_eq hd (of_decide_eq_true hp), hkept]

theorem linesOf_cleared (h : t.Keyed) {p : PageRow} (hp : p ∈ t.pages)
    (hkept : t.losesPage gone p = false) :
  (t.cleared gone).linesOf p.id = t.linesOf p.id
  := by
  rw [linesOf, linesOf, cleared, filter_not_filter]
  intro l _ hl
  rw [h.losesLine_eq hp (of_decide_eq_true hl), hkept]

theorem linesAt_cleared (h : t.Keyed) {l : LineRow} (hl : l ∈ t.lines)
    (hkept : t.losesLine gone l = false) :
  (t.cleared gone).linesAt l = t.linesAt l
  := by
  rw [linesAt, linesAt, cleared, filter_not_filter]
  intro c _ hc
  rw [h.losesCoordinates_eq hl (of_decide_eq_true hc), hkept]

/-- A page of a document that is not gone stays as it is, with all its lines. -/
theorem pageAt_cleared (h : t.Keyed) {p : PageRow} (hp : p ∈ t.pages)
    (hkept : t.losesPage gone p = false) :
  (t.cleared gone).pageAt p = t.pageAt p
  := by
  have hline : ∀ l ∈ t.linesOf p.id, (t.cleared gone).linesAt l = t.linesAt l := by
    intro l hl
    obtain ⟨hl, hpage⟩ := mem_linesOf.1 hl
    apply h.linesAt_cleared hl
    rw [h.losesLine_eq hp hpage, hkept]
  rw [pageAt, pageAt, h.linesOf_cleared hp hkept, List.flatMap_congr hline]

/-- A document that is not gone stays as it is, with all its pages. -/
theorem documentAt_cleared (h : t.Keyed) {d : DocumentRow} (hd : d ∈ t.documents)
    (hkept : gone d = false) :
  (t.cleared gone).documentAt d = t.documentAt d
  := by
  have hpage : ∀ p ∈ t.pagesOf d.id, (t.cleared gone).pageAt p = t.pageAt p := by
    intro p hp
    obtain ⟨hp, hdocument⟩ := mem_pagesOf.1 hp
    apply h.pageAt_cleared hp
    rw [h.losesPage_eq hd hdocument, hkept]
  rw [documentAt, documentAt, h.pagesOf_cleared hd hkept, List.map_congr_left hpage]

/-- The documents of cleared tables are those that are not gone, unchanged and in their places. -/
theorem trees_cleared (h : t.Keyed) (p : Document → Bool) :
  (t.cleared fun d => p (t.documentAt d)).trees = t.trees.filter fun d => !p d
  := by
  rw [trees, trees, List.filter_map]
  apply List.map_congr_left
  intro d hd
  obtain ⟨hd, hkept⟩ := List.mem_filter.1 hd
  apply h.documentAt_cleared hd
  rwa [Bool.not_eq_true'] at hkept

/-- Whether an identifier is that of an accepted document can be told from the row that has it. -/
theorem mem_accepted_ids_iff (h : t.Keyed) {d : DocumentRow} (hd : d ∈ t.documents) :
  d.id ∈ (t.trees.filter q.accepts).map Document.id ↔ q.accepts (t.documentAt d) = true
  := by
  have hids : (t.trees.map Document.id).Nodup := by
    rw [trees, List.map_map]
    exact h.documents
  have hmem : t.documentAt d ∈ t.trees := List.mem_map_of_mem hd
  rw [← any_filter_key_eq hids hmem q.accepts, List.mem_map, List.any_eq_true]
  simp only [decide_eq_true_eq]
  rfl

end Keyed

end Sql.Tables

/-! ### Two ways to remove -/

/-- The store is left in the same state by the removal of the documents that the query accepts and
by the removal of those under the identifiers that are found for it.  Then the query finds nothing,
and removing once more changes nothing. -/
structure RemovesAlike {σ : Type} [DocumentStore σ] (q : Query) (s s' : σ) : Prop where
  byQuery : DocumentStore.deleteWhere q s = (.ok (), s')
  byKeys : ∃ ids, DocumentStore.keys q s = .ok ids ∧ DocumentStore.delete ids s = (.ok (), s')
  noKeys : DocumentStore.keys q s' = .ok []
  noDocuments : DocumentStore.documents q s' = .ok []
  again : DocumentStore.deleteWhere q s' = (.ok (), s')

/-- Removing documents by a list of identifiers comes to the same as any calls, one after the other,
for lists that name the same ones of the identifiers in the store together.  So neither the order of
a list matters, nor what it repeats, nor what it names besides. -/
def DeletesNamed {σ : Type} [DocumentStore σ] (s : σ) (stored : List String) : Prop :=
  ∀ (ids : List String) (pieces : List (List String)),
    (∀ id ∈ stored, id ∈ pieces.flatten ↔ id ∈ ids) →
    (DocumentStore.delete ids s).1 = .ok ()
      ∧ pieces.foldl (fun s piece => (DocumentStore.delete piece s).2) s
        = (DocumentStore.delete ids s).2

namespace Memory

variable {m : Memory} {ids ids' : List String}

theorem delete_congr (h : ∀ id ∈ m.documents.map Document.id, id ∈ ids ↔ id ∈ ids') :
  m.delete ids = m.delete ids'
  := by
  rw [delete, delete, mk.injEq]
  apply List.filter_congr
  intro d hd
  simp only [h d.id (List.mem_map_of_mem hd)]

theorem foldl_delete (pieces : List (List String)) (m : Memory) :
  pieces.foldl (fun m piece => m.delete piece) m = m.delete pieces.flatten
  := by
  induction pieces generalizing m with
  | nil => exact m.delete_nil.symm
  | cons piece pieces ih =>
    rw [List.foldl_cons, ih, delete, delete, delete, mk.injEq, List.filter_filter]
    apply List.filter_congr
    intro d _
    simp [Bool.and_comm]

theorem deletesNamed (m : Memory) :
  DeletesNamed m (m.documents.map Document.id)
  := by
  intro ids pieces h
  refine ⟨rfl, ?_⟩
  change pieces.foldl (fun m piece => m.delete piece) m = m.delete ids
  rw [foldl_delete, delete_congr h]

theorem deleteWhere_eq_delete (h : (m.documents.map Document.id).Nodup) (q : Query) :
  m.deleteWhere q = m.delete ((m.select q).map Document.id)
  := by
  rw [deleteWhere, delete, mk.injEq]
  apply List.filter_congr
  intro d hd
  have hmem : d.id ∈ (m.select q).map Document.id ↔ q.accepts d = true := by
    rw [← any_filter_key_eq h hd q.accepts, List.mem_map, List.any_eq_true]
    simp only [decide_eq_true_eq]
    rfl
  rw [Bool.eq_iff_iff, decide_eq_true_eq, hmem, Bool.not_eq_true', Bool.not_eq_true]

theorem removesAlike (h : (m.documents.map Document.id).Nodup) (q : Query) :
  RemovesAlike q m ⟨m.documents.filter fun d => !q.accepts d⟩
  := by
  have hnone : (m.documents.filter fun d => !q.accepts d).filter q.accepts = [] := by
    simp [List.filter_filter]
  constructor
  case byQuery => rfl
  case byKeys =>
    refine ⟨_, rfl, ?_⟩
    change (Except.ok (), m.delete ((m.select q).map Document.id)) = _
    rw [← deleteWhere_eq_delete h]
    rfl
  case noKeys =>
    change Except.ok (((m.documents.filter fun d => !q.accepts d).filter q.accepts).map Document.id)
      = _
    rw [hnone]
    rfl
  case noDocuments => exact congrArg Except.ok hnone
  case again =>
    change (Except.ok (), Memory.mk _) = (Except.ok (), Memory.mk _)
    rw [List.filter_filter]
    simp only [Bool.and_self]

end Memory

/-- A query whose removal can be run can be run for every purpose. -/
theorem Query.Fits.of_removal {q : Query} (h : q.Fits .removal) (p : Purpose) :
  q.Fits p
  := by
  refine ⟨h.1, ?_⟩
  have hfits := h.2
  rw [Expr.fits] at hfits ⊢
  cases hdepth : q.expr.depth? with
  | none =>
    rw [hdepth] at hfits
    cases hfits
  | some d =>
    rw [hdepth] at hfits
    change decide (d.levelsFor .removal ≤ maxDepth) = true at hfits
    change decide (d.levelsFor p ≤ maxDepth) = true
    rw [decide_eq_true_iff] at hfits ⊢
    apply Nat.le_trans _ hfits
    cases p
    all_goals
      simp only [Depth.levelsFor]
      omega

namespace Relational

variable {t : Tables} {q : Query}

theorem delete_ofTables_eq_cleared (ids : List String) (t : Tables) :
  Relational.delete ids (ofTables t) = (.ok (), ofTables (t.cleared fun d => d.id ∈ ids))
  := by
  rw [delete_ofTables, Tables.foldl_dropDocuments, flatten_chunks]

/-- Calls with lists of identifiers, one after the other, clear the tables of all documents that
they name. -/
theorem foldl_delete_ofTables (pieces : List (List String)) (t : Tables) :
  pieces.foldl (fun s piece => (Relational.delete piece s).2) (ofTables t)
    = ofTables (t.cleared fun d => d.id ∈ pieces.flatten)
  := by
  rw [← Tables.foldl_dropDocuments]
  induction pieces generalizing t with
  | nil => rfl
  | cons piece pieces ih =>
    rw [List.foldl_cons, List.foldl_cons, delete_ofTables_eq_cleared, ih,
      Tables.dropDocuments_eq_cleared]

theorem deletesNamed (t : Tables) :
  DeletesNamed (ofTables t) (t.documents.map DocumentRow.id)
  := by
  intro ids pieces h
  change (Relational.delete ids (ofTables t)).1 = _ ∧ _ = (Relational.delete ids (ofTables t)).2
  rw [delete_ofTables_eq_cleared]
  refine ⟨rfl, ?_⟩
  apply (foldl_delete_ofTables pieces t).trans
  rw [Tables.cleared_congr]
  intro d hd
  simp only [h d.id (List.mem_map_of_mem hd)]

theorem deleteWhere_ofTables (ht : t.Keyed) (hfits : q.Fits .removal) :
  Relational.deleteWhere q (ofTables t)
    = (.ok (), ofTables (t.cleared fun d => q.accepts (t.documentAt d)))
  := by
  have hselect := (t.finds_trees q).select?_eq .removal
  rw [if_pos hfits] at hselect
  rw [Relational.deleteWhere, hselect]
  simp only [Tables.dropDocuments_eq_cleared]
  rw [Tables.cleared_congr]
  · rfl
  · intro d hd
    rw [Bool.eq_iff_iff, ← ht.mem_accepted_ids_iff hd, List.mem_map, List.any_map, List.any_eq_true]
    simp only [Function.comp_apply, decide_eq_true_eq]
    rfl

theorem removesAlike (ht : t.Keyed) (hfits : q.Fits .removal) :
  RemovesAlike q (ofTables t) (ofTables (t.cleared fun d => q.accepts (t.documentAt d)))
  := by
  have hfound := (t.cleared fun d => q.accepts (t.documentAt d)).finds_trees q
  have hnone : (t.trees.filter fun d => !q.accepts d).filter q.accepts = [] := by
    simp [List.filter_filter]
  rw [ht.trees_cleared, hnone] at hfound
  constructor
  case byQuery => exact deleteWhere_ofTables ht hfits
  case byKeys =>
    refine ⟨_, (t.finds_trees q).keys_eq.trans (if_pos (hfits.of_removal .keys)), ?_⟩
    change Relational.delete _ (ofTables t) = _
    rw [delete_ofTables_eq_cleared, Tables.cleared_congr]
    intro d hd
    simp only [ht.mem_accepted_ids_iff hd, Bool.decide_eq_true]
  case noKeys => exact hfound.keys_eq.trans (if_pos (hfits.of_removal .keys))
  case noDocuments => exact hfound.documents_eq.trans (if_pos (hfits.of_removal .documents))
  case again =>
    have hselect := hfound.select?_eq .removal
    rw [if_pos hfits] at hselect
    change Relational.deleteWhere q (ofTables _) = _
    rw [Relational.deleteWhere, hselect]
    simp only [Tables.dropDocuments_eq_cleared, List.map_nil, List.any_nil, Tables.cleared_none]
    rfl

/-- Tables that represent documents represent those that the query does not accept, once it has been
cleared of the others. -/
theorem represents_cleared {ds : List Document} (h : t.Represents ds) (hfits : q.Fits .removal) :
  (t.cleared fun d => q.accepts (t.documentAt d)).Represents (ds.filter fun d => !q.accepts d)
  := by
  have hs : (ofTables t).Represents ⟨ds⟩ := ⟨t, rfl, h⟩
  obtain ⟨s', hs', u, rfl, hu⟩ := hs.deleteWhere hfits
  rw [deleteWhere_ofTables h.keyed hfits, Prod.mk.injEq] at hs'
  cases hs'.2
  exact hu

end Relational

/-- Removing what a query accepts is removing what is found for it, in memory and in tables, and
exactly the accepted documents are gone, with all rows below them.  In tables this is so if the
removal can be run, and whatever they hold, as long as no identifier is used twice, which is so in
all tables that represent documents (`Represents.keyed`).  A list of identifiers counts by the
documents that it names, whichever the size of the pieces in which it is worked off. -/
theorem deleteWhere_eq_delete_keys :
  (∀ (m : Memory) (q : Query), (m.documents.map Document.id).Nodup →
      RemovesAlike q m ⟨m.documents.filter fun d => !q.accepts d⟩)
    ∧ (∀ (t : Tables) (q : Query), t.Keyed → q.Fits .removal →
      ∃ t', RemovesAlike q (Relational.ofTables t) (Relational.ofTables t')
        ∧ t' = t.cleared (fun d => q.accepts (t.documentAt d))
        ∧ t'.trees = t.trees.filter (fun d => !q.accepts d)
        ∧ ∀ ds, t.Represents ds → t'.Represents (ds.filter fun d => !q.accepts d))
    ∧ (∀ m : Memory, DeletesNamed m (m.documents.map Document.id))
    ∧ ∀ t : Tables, DeletesNamed (Relational.ofTables t) (t.documents.map DocumentRow.id)
      ∧ ∀ (size : Nat) (ids : List String), Relational.delete ids (Relational.ofTables t) = (.ok (),
        .ofTables ((chunks size ids).foldl (fun t chunk => t.dropDocuments fun id => id ∈ chunk) t))
  := by
  refine ⟨fun m q h => Memory.removesAlike h q, ?_, Memory.deletesNamed, ?_⟩
  · intro t q ht hfits
    refine ⟨_, Relational.removesAlike ht hfits, rfl, ht.trees_cleared q.accepts, ?_⟩
    intro ds h
    apply Relational.represents_cleared h hfits
  · intro t
    refine ⟨Relational.deletesNamed t, ?_⟩
    intro size ids
    rw [Relational.delete_ofTables_eq_cleared, Tables.foldl_dropDocuments, flatten_chunks]

/-- All documents in a bucket that have no line `total` on their second page are removed. -/
theorem deleteWhere_eq_delete_keys_denied :
  ∃ (d e : Document) (t' : Tables) (q : Query),
    d = ⟨"d", "b", "p.jpg", [⟨"p", 2, [⟨"l", "total", ⟨"c", .ofEdges 0 0 1 1⟩⟩]⟩]⟩
      ∧ e = ⟨"e", "b", "q.jpg", [⟨"q", 2, [⟨"m", "sum", ⟨"k", .ofEdges 0 0 1 1⟩⟩]⟩]⟩
      ∧ q = ⟨.not [.leaf (.line ⟨2, "total", []⟩)], some ["b", "b"]⟩
      ∧ RemovesAlike q (⟨[d, e]⟩ : Memory) ⟨[d]⟩
      ∧ RemovesAlike q (Relational.ofTables (.ofDocuments [d, e])) (Relational.ofTables t')
      ∧ t'.Represents [d]
  := by
  let d : Document := ⟨"d", "b", "p.jpg", [⟨"p", 2, [⟨"l", "total", ⟨"c", .ofEdges 0 0 1 1⟩⟩]⟩]⟩
  let e : Document := ⟨"e", "b", "q.jpg", [⟨"q", 2, [⟨"m", "sum", ⟨"k", .ofEdges 0 0 1 1⟩⟩]⟩]⟩
  let q : Query := ⟨.not [.leaf (.line ⟨2, "total", []⟩)], some ["b", "b"]⟩
  have hstorable : Storable [d, e] := by constructor <;> decide +kernel
  have hrepresents := Tables.represents_ofDocuments hstorable
  have hfits : q.Fits .removal := by decide +kernel
  have hleft : ([d, e].filter fun d => !q.accepts d) = [d] := by decide +kernel
  obtain ⟨hmemory, htables, -⟩ := deleteWhere_eq_delete_keys
  have halike : RemovesAlike q (⟨[d, e]⟩ : Memory) ⟨[d, e].filter fun d => !q.accepts d⟩ :=
    hmemory ⟨[d, e]⟩ q (by decide +kernel)
  obtain ⟨t', halike', -, -, hrepresents'⟩ :=
    htables (.ofDocuments [d, e]) q hrepresents.keyed hfits
  have hafter := hrepresents' [d, e] hrepresents
  rw [hleft] at hafter
  rw [hleft] at halike
  exact ⟨d, e, t', q, rfl, rfl, rfl, halike, halike', hafter⟩

end ScanIndex
