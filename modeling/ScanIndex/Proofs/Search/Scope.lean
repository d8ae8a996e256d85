import ScanIndex.Proofs.Search.Service
import ScanIndex.Proofs.Store.Deletion

/-!
# Searching in some buckets

A search that is confined to buckets lists what the search in all buckets lists under these
(`Memory.exists_search_within`, `Relational.exists_search_within`).  In tables this is so if the
statements can be run.  Tables that have lost coordinates may fail to answer; but if they answer the
search in all buckets, they answer the confined one, and in the same way
(`Relational.search_within_of_eq_ok`).
-/

namespace ScanIndex

open Sql

/-- The query is confined to the buckets of a scope beside its filter. -/
theorem Query.accepts_some (filter : Filter) (names : List String) (d : Document) :
  (⟨filter, some names⟩ : Query).accepts d
    = (decide (d.bucket ∈ names) && (⟨filter, none⟩ : Query).accepts d)
  := by
  rw [accepts, accepts, Bool.eq_iff_iff]
  simp [inScope]

/-- What a scope leaves of documents can be told from anything that tells their buckets. -/
theorem map_filter_accepts {β : Type} {f : Document → β} {p : β → Bool} {names : List String}
    (hp : ∀ d, p (f d) = decide (d.bucket ∈ names)) (filter : Filter) (ds : List Document) :
  (ds.filter (⟨filter, some names⟩ : Query).accepts).map f
    = ((ds.filter (⟨filter, none⟩ : Query).accepts).map f).filter p
  := by
  rw [List.filter_map, List.filter_filter]
  congr 1
  apply List.filter_congr
  intro d _
  rw [Query.accepts_some, Function.comp_apply, hp]

section

variable {σ : Type} [DocumentStore σ] {request : Json} {filter : Filter} {names : List String}
variable {w : World σ}

/-- A search in some buckets lists what the search in all buckets lists under these, if the store
answers both queries and the files of the documents say so. -/
theorem exists_search_within_of_files (hrequest : Filter.ofJson request = .ok filter)
    {ds es : List Document} (hds : DocumentStore.documents ⟨filter, none⟩ w.store = .ok ds)
    (hes : DocumentStore.documents ⟨filter, some names⟩ w.store = .ok es)
    (hfiles : es.map Document.file = (ds.map Document.file).filter fun f => f.bucket ∈ names) :
  ∃ g, (search request none w).1 = .ok g ∧ (search request (some names) w).1 = .ok (g.within names)
  := by
  refine ⟨_, search_eq_of_documents_eq_ok hrequest hds, ?_⟩
  rw [search_eq_of_documents_eq_ok hrequest hes, Buckets.ofDocuments_eq_within hfiles]

end

theorem Memory.exists_search_within {request : Json} {filter : Filter}
    (hrequest : Filter.ofJson request = .ok filter) (names : List String) (w : World Memory) :
  ∃ g, (search request none w).1 = .ok g ∧ (search request (some names) w).1 = .ok (g.within names)
  := by
  apply exists_search_within_of_files hrequest rfl rfl
  apply map_filter_accepts
  intro d
  rfl

/-! ### Tables -/

namespace Sql

variable {t : Tables} {rows : List DocumentRow}

/-- A document that is read from the rows of one document has its file. -/
theorem map_file_of_documentOfRows_eq_ok {d : DocumentRow} {ds : List Document}
    (h : documentOfRows (t.joinedRows d) = .ok ds) :
  ds.map Document.file = [d.file]
  := by
  rw [Tables.joinedRows, documentOfRows_map (orGap_ne_nil _)] at h
  obtain ⟨pages, -, h⟩ := eq_ok_of_bind_eq_ok h
  cases h
  rfl

/-- Documents are read one by one. -/
theorem assemble_joined_eq_ok_iff (hrows : (rows.map DocumentRow.id).Nodup) {ds : List Document} :
  assemble (t.joined rows) = .ok ds
    ↔ ∃ parts, List.Forall₂ (fun d part => documentOfRows (t.joinedRows d) = .ok part) rows parts
      ∧ parts.flatten = ds
  := by
  have hsplit : (t.joined rows).splitBy (fun r s => r.document.id = s.document.id)
      = rows.map t.joinedRows := by
    apply splitBy_flatMap_eq _ _ hrows
    · intro d _
      simp [Tables.joinedRows, orGap_ne_nil]
    · intro d _ r hr
      obtain ⟨p, -, rfl⟩ := List.mem_map.1 hr
      rfl
  rw [assemble, hsplit, List.mapM_map]
  constructor
  · intro h
    obtain ⟨parts, hparts, h⟩ := eq_ok_of_bind_eq_ok h
    cases h
    exact ⟨parts, mapM_eq_ok_iff.1 hparts, rfl⟩
  · rintro ⟨parts, hparts, rfl⟩
    have hmapM := mapM_eq_ok_iff.2 hparts
    change (List.mapM (fun d => documentOfRows (t.joinedRows d)) rows >>= fun ds => .ok ds.flatten)
      = _
    rw [hmapM]
    rfl

/-- Documents that are read have the files of their rows. -/
theorem map_file_of_assemble_eq_ok (hrows : (rows.map DocumentRow.id).Nodup) {ds : List Document}
    (h : assemble (t.joined rows) = .ok ds) :
  ds.map Document.file = rows.map DocumentRow.file
  := by
  obtain ⟨parts, hparts, rfl⟩ := (assemble_joined_eq_ok_iff hrows).1 h
  clear h hrows
  induction hparts with
  | nil => rfl
  | cons hpart _ ih =>
    rw [List.flatten_cons, List.map_append, ih, map_file_of_documentOfRows_eq_ok hpart]
    rfl

/-- If documents are read, then so are some of them. -/
theorem exists_assemble_filter_eq_ok (hrows : (rows.map DocumentRow.id).Nodup) {ds : List Document}
    (h : assemble (t.joined rows) = .ok ds) (p : DocumentRow → Bool) :
  ∃ es, assemble (t.joined (rows.filter p)) = .ok es
  := by
  obtain ⟨parts, hparts, -⟩ := (assemble_joined_eq_ok_iff hrows).1 h
  have hfilter : ∃ parts, List.Forall₂ (fun d part => documentOfRows (t.joinedRows d) = .ok part)
      (rows.filter p) parts := by
    clear h hrows
    induction hparts with
    | nil => exact ⟨[], .nil⟩
    | @cons d part rows parts hpart _ ih =>
      obtain ⟨kept, hkept⟩ := ih
      rw [List.filter_cons]
      split
      · exact ⟨part :: kept, .cons hpart hkept⟩
      · exact ⟨kept, hkept⟩
  obtain ⟨kept, hkept⟩ := hfilter
  refine ⟨kept.flatten, (assemble_joined_eq_ok_iff ?_).2 ⟨kept, hkept, rfl⟩⟩
  apply hrows.sublist (List.filter_sublist.map DocumentRow.id)

end Sql

namespace Relational

variable {request : Json} {filter : Filter} {names : List String} {w : World Relational}

/-- No identifier of a document is used twice, which is a rule of the table of documents. -/
def Keyed (s : Relational) : Prop := ∀ t, s.reach? = some t → (t.documents.map DocumentRow.id).Nodup

theorem Represents.keyed {s : Relational} {m : Memory} (h : s.Represents m) :
  s.Keyed
  := by
  rintro u hu
  obtain ⟨t, rfl, ht⟩ := h
  cases hu
  exact ht.keyed.documents

/-- If tables read the documents that a filter accepts, then they read those of them in some
buckets, if the statement can be run. -/
theorem exists_documents_within_ofTables {t : Tables}
    (hkeyed : (t.documents.map DocumentRow.id).Nodup) {ds : List Document}
    (hds : Relational.documents ⟨filter, none⟩ (ofTables t) = .ok ds)
    (hfits : (⟨filter, some names⟩ : Query).Fits .documents) :
  ∃ es, Relational.documents ⟨filter, some names⟩ (ofTables t) = .ok es
    ∧ es.map Document.file = (ds.map Document.file).filter fun f => f.bucket ∈ names
  := by
  have hrows : (t.trees.filter (⟨filter, some names⟩ : Query).accepts).map Document.row
      = ((t.trees.filter (⟨filter, none⟩ : Query).accepts).map Document.row).filter
        fun d => d.file.bucket ∈ names := by
    apply map_filter_accepts
    intro d
    rfl
  have hids : (((t.trees.filter (⟨filter, none⟩ : Query).accepts).map Document.row).map
      DocumentRow.id).Nodup := by
    rw [← t.map_row_trees] at hkeyed
    apply hkeyed.sublist ((List.filter_sublist.map Document.row).map DocumentRow.id)
  rw [(t.finds_trees _).documents_eq] at hds
  rw [(t.finds_trees _).documents_eq, if_pos hfits, hrows]
  split at hds
  next =>
    obtain ⟨es, hes⟩ := exists_assemble_filter_eq_ok hids hds fun d => d.file.bucket ∈ names
    refine ⟨es, hes, ?_⟩
    rw [map_file_of_assemble_eq_ok (hids.sublist (List.filter_sublist.map DocumentRow.id)) hes,
      map_file_of_assemble_eq_ok hids hds]
    symm
    apply List.filter_map
  next => cases hds

theorem exists_documents_within {s : Relational} (hkeyed : s.Keyed) {ds : List Document}
    (hds : Relational.documents ⟨filter, none⟩ s = .ok ds)
    (hfits : (⟨filter, some names⟩ : Query).Fits .documents) :
  ∃ es, Relational.documents ⟨filter, some names⟩ s = .ok es
    ∧ es.map Document.file = (ds.map Document.file).filter fun f => f.bucket ∈ names
  := by
  cases hreach : s.reach? with
  | none =>
    rw [documents, select?, hreach] at hds
    cases hds
  | some t =>
    rw [eq_ofTables_of_reach?_eq_some hreach] at hds ⊢
    apply exists_documents_within_ofTables (hkeyed t hreach) hds hfits

/-- If the search in all buckets is answered, then so is that in some of them, if its statement can
be run. -/
theorem search_within_of_eq_ok (hrequest : Filter.ofJson request = .ok filter)
    (hfits : (⟨filter, some names⟩ : Query).Fits .documents) (hkeyed : w.store.Keyed) {g : Buckets}
    (hg : (search request none w).1 = .ok g) :
  (search request (some names) w).1 = .ok (g.within names)
  := by
  cases hds : Relational.documents ⟨filter, none⟩ w.store with
  | error e =>
    rw [search_eq_of_documents_eq_error hrequest hds] at hg
    cases hg
  | ok ds =>
    obtain ⟨es, hes, hfiles⟩ := exists_documents_within hkeyed hds hfits
    obtain ⟨h, hh, hwithin⟩ := exists_search_within_of_files (w := w) hrequest hds hes hfiles
    rw [hg] at hh
    cases hh
    exact hwithin

/-- The statements of a filter can be run, for all buckets and for some. -/
structure Runs (filter : Filter) (names : List String) : Prop where
  all : (⟨filter, none⟩ : Query).Fits .documents
  some : (⟨filter, some names⟩ : Query).Fits .documents

theorem exists_search_within {m : Memory} (hkeeps : w.store.Represents m)
    (hrequest : Filter.ofJson request = .ok filter) (hruns : Runs filter names) :
  ∃ g, (search request none w).1 = .ok g ∧ (search request (some names) w).1 = .ok (g.within names)
  := by
  have hall := hkeeps.documents_eq ⟨filter, none⟩
  rw [if_pos hruns.all] at hall
  refine ⟨_, search_eq_of_documents_eq_ok hrequest hall, ?_⟩
  apply search_within_of_eq_ok hrequest hruns.some hkeeps.keyed
  apply search_eq_of_documents_eq_ok hrequest hall

/-- Tables that cannot be reached, or a statement that cannot be run, are an error. -/
theorem search_eq_error (hrequest : Filter.ofJson request = .ok filter)
    {scope : Option (List String)}
    (h : w.store.reach? = none ∨ ¬(⟨filter, scope⟩ : Query).Fits .documents) :
  (search request scope w).1 = .error (.store (.read .queryDocuments))
  := by
  apply search_eq_of_documents_eq_error hrequest
  change Relational.documents ⟨filter, scope⟩ w.store = _
  cases hreach : w.store.reach? with
  | none =>
    rw [documents, select?, hreach]
    rfl
  | some t =>
    have hfits := h.resolve_left (by simp [hreach])
    rw [eq_ofTables_of_reach?_eq_some hreach, (t.finds_trees _).documents_eq, if_neg hfits]

end Relational

end ScanIndex
