import ScanIndex.Proofs.Buckets
import ScanIndex.Proofs.Indexing.Run
import ScanIndex.Proofs.Search.Meeting
import ScanIndex.Proofs.Store.Relational
import ScanIndex.Search.Service

/-!
# Finding what was indexed

After batches that all succeed, a search lists exactly the live files in scope whose latest blocks
meet the request, each once (`search_after_batches`).  The store in memory answers every request,
and the store in tables every one whose statement it can run.
-/

namespace ScanIndex

open Sql

/-- The file is to be found after batches: its bucket is in scope, it is live, and the blocks of its
latest creation meet the request. -/
structure IsFound (engine : Engine) (batches : List (List ChangeEvent)) (t : SearchTree)
    (scope : Option (List String)) (f : File) : Prop where
  inScope : ∀ buckets, scope = some buckets → f.bucket ∈ buckets
  live : isLive batches f = true
  met : ∃ blocks, LatestBlocks engine (createdFiles batches.flatten) f blocks
    ∧ t.meets blocks = true

/-- The outcome of a search lists exactly the files to be found, each once under its bucket. -/
def ListsFound (engine : Engine) (batches : List (List ChangeEvent)) (t : SearchTree)
    (scope : Option (List String)) (r : Except SearchError Buckets) : Prop :=
  ∃ g, r = .ok g ∧ g.Orderly ∧ g.files.Nodup ∧ ∀ f, f ∈ g.files ↔ IsFound engine batches t scope f

theorem Query.inScope_iff {q : Query} {d : Document} :
  q.inScope d = true ↔ ∀ buckets, q.scope = some buckets → d.bucket ∈ buckets
  := by
  rw [inScope]
  cases q.scope with
  | none => simp
  | some buckets => simp

section

variable {σ : Type} [DocumentStore σ]

theorem search_eq_of_documents_eq_ok {request : Json} {scope : Option (List String)} {w : World σ}
    {filter : Filter} (hrequest : Filter.ofJson request = .ok filter) {ds : List Document}
    (hds : DocumentStore.documents ⟨filter, scope⟩ w.store = .ok ds) :
  (search request scope w).1 = .ok (Buckets.ofDocuments ds)
  := by
  rw [search, hrequest]
  simp [World.documents, hds]

theorem search_eq_of_documents_eq_error {request : Json} {scope : Option (List String)}
    {w : World σ} {filter : Filter} (hrequest : Filter.ofJson request = .ok filter) {e : StoreError}
    (he : DocumentStore.documents ⟨filter, scope⟩ w.store = .error e) :
  (search request scope w).1 = .error (.store e)
  := by
  rw [search, hrequest]
  simp [World.documents, he]

variable [LawfulStore σ] {engine : Engine} {ids : Supply} {batches : List (List ChangeEvent)}
variable {t : SearchTree} {filter : Filter} {scope : Option (List String)} {w : World σ}
variable {m : Memory}

/-- The documents that a request selects in an indexed world are those of the files to be found. -/
theorem Indexed.mem_files_select_iff
    (h : Indexed engine ids (isLive batches) (createdFiles batches.flatten) w m)
    (ht : t.compile = .ok filter) {f : File} :
  f ∈ (m.select ⟨filter, scope⟩).map Document.file ↔ IsFound engine batches t scope f
  := by
  rw [List.mem_map]
  constructor
  · rintro ⟨d, hd, rfl⟩
    obtain ⟨hd, haccepts⟩ := List.mem_filter.1 hd
    rw [Query.accepts, Bool.and_eq_true] at haccepts
    obtain ⟨blocks, i, hlatest, hpages⟩ := h.pages hd
    refine ⟨Query.inScope_iff.1 haccepts.1, (h.files d.file).1 (List.mem_map_of_mem hd), blocks,
      hlatest, ?_⟩
    rw [← SearchTree.accepts_eq_meets ht hpages]
    apply haccepts.2
  · rintro ⟨hscope, hlive, blocks, hlatest, hmeets⟩
    obtain ⟨d, hd, rfl⟩ := List.mem_map.1 ((h.files f).2 hlive)
    obtain ⟨blocks', i, hlatest', hpages⟩ := h.pages hd
    rw [hlatest.unique hlatest', ← SearchTree.accepts_eq_meets ht hpages] at hmeets
    refine ⟨d, List.mem_filter.2 ⟨hd, ?_⟩, rfl⟩
    rw [Query.accepts, Bool.and_eq_true]
    exact ⟨Query.inScope_iff.2 hscope, hmeets⟩

/-- A search in an indexed world whose store answers lists exactly the files to be found. -/
theorem Indexed.listsFound
    (h : Indexed engine ids (isLive batches) (createdFiles batches.flatten) w m)
    (ht : t.compile = .ok filter) {request : Json} (hrequest : Filter.ofJson request = .ok filter)
    {ds : List Document} (hds : DocumentStore.documents ⟨filter, scope⟩ w.store = .ok ds) :
  ListsFound engine batches t scope (search request scope w).1
  := by
  have hfiles : ds.map Document.file = (m.select ⟨filter, scope⟩).map Document.file := by
    have hplain := congrArg (List.map Document.file) (LawfulStore.documents h.keeps hds)
    simpa only [List.map_map, Function.comp_def, Document.file_plain] using hplain
  rw [search_eq_of_documents_eq_ok hrequest hds]
  refine ⟨_, rfl, Buckets.orderly_ofDocuments _, Buckets.nodup_files_ofDocuments _, ?_⟩
  intro f
  rw [Buckets.mem_files_ofDocuments, hfiles, h.mem_files_select_iff ht]

end

/-- What a search finds after batches that all succeed.  In memory, it always lists exactly the
files to be found; in tables, it does so if the statement of the query can be run, and fails
otherwise. -/
theorem search_after_batches (engine : Engine) {ids : Supply} (hids : Function.Injective ids)
    (batches : List (List ChangeEvent)) {request : Json} {filter : Filter}
    (hrequest : Filter.ofJson request = .ok filter) (scope : Option (List String)) :
  ∃ t, SearchTree.ofJson request = .ok t
    ∧ (∀ w, processAll? engine ids batches (.ofStore Memory.empty) = some w →
        ListsFound engine batches t scope (search request scope w).1)
    ∧ (∀ w, processAll? engine ids batches (.ofStore Relational.empty) = some w →
        (⟨filter, scope⟩ : Query).Fits .documents →
        ListsFound engine batches t scope (search request scope w).1)
    ∧ (∀ w, processAll? engine ids batches (.ofStore Relational.empty) = some w →
        ¬(⟨filter, scope⟩ : Query).Fits .documents →
        (search request scope w).1 = .error (.store (.read .queryDocuments)))
  := by
  obtain ⟨t, hparse, ht⟩ := eq_ok_of_bind_eq_ok hrequest
  use t, hparse
  refine ⟨?_, ?_, ?_⟩
  · intro w hw
    obtain ⟨m, hm⟩ := (Indexed.ofStore (rfl : Keeps Memory.empty .empty)).processAll? hids hw
    apply hm.listsFound ht hrequest rfl
  · intro w hw hfits
    obtain ⟨m, hm⟩ := (Indexed.ofStore Relational.represents_empty).processAll? hids hw
    have hds := Relational.Represents.documents_eq hm.keeps ⟨filter, scope⟩
    rw [if_pos hfits] at hds
    apply hm.listsFound ht hrequest hds
  · intro w hw hfits
    obtain ⟨m, hm⟩ := (Indexed.ofStore Relational.represents_empty).processAll? hids hw
    have hds := Relational.Represents.documents_eq hm.keeps ⟨filter, scope⟩
    rw [if_neg hfits] at hds
    apply search_eq_of_documents_eq_error hrequest hds

/-- A file that is created, removed and created again is found by the text of its line, in memory
and in tables. -/
theorem search_after_batches_recreated :
  ∃ (blocks : List Block) (batches : List (List ChangeEvent)) (request : Json) (f : File),
    blocks = [.ofPage "p" 2 ["l"], .ofLine "l" "total" ⟨0, 0, 1, 1⟩]
      ∧ batches = [[⟨"OBJECT_CREATED", f⟩], [⟨"OBJECT_REMOVED", f⟩], [⟨"OBJECT_CREATED", f⟩]]
      ∧ request = .object [("search", .object [
          ("coordinates", .array [.array [.number (.int 0), .number (.int 1)],
            .array [.number (.int 1), .number (.int 0)]]),
          ("page_number", .number (.int 2)), ("text", .string "total")])]
      ∧ (∃ w g,
        processAll? (fun _ _ => some (.ok blocks)) .strokes batches (.ofStore Memory.empty) = some w
          ∧ (search request (some ["b"]) w).1 = .ok g ∧ f ∈ g.files)
      ∧ ∃ w g,
        processAll? (fun _ _ => some (.ok blocks)) .strokes batches (.ofStore Relational.empty)
            = some w
          ∧ (search request (some ["b"]) w).1 = .ok g ∧ f ∈ g.files
  := by
  let blocks : List Block := [.ofPage "p" 2 ["l"], .ofLine "l" "total" ⟨0, 0, 1, 1⟩]
  let engine : Engine := fun _ _ => some (.ok blocks)
  let f : File := ⟨"b", "p.jpg"⟩
  let batches : List (List ChangeEvent) :=
    [[⟨"OBJECT_CREATED", f⟩], [⟨"OBJECT_REMOVED", f⟩], [⟨"OBJECT_CREATED", f⟩]]
  let request : Json := .object [("search", .object [
    ("coordinates", .array [.array [.number (.int 0), .number (.int 1)],
      .array [.number (.int 1), .number (.int 0)]]),
    ("page_number", .number (.int 2)), ("text", .string "total")])]
  have hmemory : (processAll? engine .strokes batches
      (.ofStore Memory.empty)).isSome = true := by decide +kernel
  have htables : (processAll? engine .strokes batches
      (.ofStore Relational.empty)).isSome = true := by decide +kernel
  have hcompiled : (match Filter.ofJson request with
      | .ok filter => decide ((⟨filter, some ["b"]⟩ : Query).Fits .documents)
      | .error _ => false) = true := by decide +kernel
  have hmeets : (match SearchTree.ofJson request with
      | .ok t => t.meets blocks
      | .error _ => false) = true := by decide +kernel
  obtain ⟨v, hv⟩ := Option.isSome_iff_exists.1 hmemory
  obtain ⟨w, hw⟩ := Option.isSome_iff_exists.1 htables
  cases hrequest : Filter.ofJson request with
  | error e =>
    rw [hrequest] at hcompiled
    cases hcompiled
  | ok filter =>
    rw [hrequest] at hcompiled
    obtain ⟨t, ht, hfirst, hsecond, -⟩ :=
      search_after_batches engine Supply.strokes_injective batches hrequest (some ["b"])
    rw [ht] at hmeets
    have hfound : IsFound engine batches t (some ["b"]) f := by
      refine ⟨?_, by decide +kernel, blocks, ⟨[f], [], by decide +kernel, by simp, rfl⟩, hmeets⟩
      rintro buckets ⟨⟩
      apply List.mem_cons_self
    obtain ⟨g, hg, -, -, hfiles⟩ := hfirst v hv
    obtain ⟨g', hg', -, -, hfiles'⟩ := hsecond w hw (of_decide_eq_true hcompiled)
    exact ⟨blocks, batches, request, f, rfl, rfl, rfl, ⟨v, g, hv, hg, (hfiles f).2 hfound⟩,
      w, g', hw, hg', (hfiles' f).2 hfound⟩

/-- A scope of too many buckets for one statement: the file is to be found, but the store in tables
fails. -/
theorem search_fails_beyond_binds :
  ∃ (batches : List (List ChangeEvent)) (request : Json) (t : SearchTree) (scope : List String)
      (w : World Relational) (f : File),
    batches = [[⟨"OBJECT_CREATED", ⟨"b", "p.jpg"⟩⟩]] ∧ request = .object [("and", .array [])]
      ∧ scope = List.replicate 32767 "b" ∧ SearchTree.ofJson request = .ok t
      ∧ processAll? (fun _ _ => some (.ok [])) .strokes batches (.ofStore .empty) = some w
      ∧ IsFound (fun _ _ => some (.ok [])) batches t (some scope) f
      ∧ (search request (some scope) w).1 = .error (.store (.read .queryDocuments))
  := by
  let batches : List (List ChangeEvent) := [[⟨"OBJECT_CREATED", ⟨"b", "p.jpg"⟩⟩]]
  let request : Json := .object [("and", .array [])]
  let scope := List.replicate 32767 "b"
  let f : File := ⟨"b", "p.jpg"⟩
  have hsome : (processAll? (fun _ _ => some (.ok [])) .strokes batches
      (.ofStore Relational.empty)).isSome = true := by decide +kernel
  obtain ⟨w, hw⟩ := Option.isSome_iff_exists.1 hsome
  have hrequest : Filter.ofJson request = .ok (.and []) := rfl
  have hbinds : (⟨.and [], some scope⟩ : Query).statement.binds.length = 32767 := by
    rw [Query.length_binds_of_scope, List.length_replicate]
    rfl
  have hfits : ¬(⟨.and [], some scope⟩ : Query).Fits .documents := by
    intro hfits
    have := hfits.1
    rw [hbinds] at this
    exact absurd this (by decide)
  have hfound : IsFound (fun _ _ => some (.ok [])) batches (.and []) (some scope) f := by
    refine ⟨?_, by decide +kernel, [], ⟨[], [], by decide +kernel, by simp, rfl⟩, rfl⟩
    rintro buckets ⟨⟩
    apply List.mem_replicate.2 ⟨by decide, rfl⟩
  obtain ⟨m, hm⟩ := (Indexed.ofStore Relational.represents_empty).processAll?
    Supply.strokes_injective hw
  have hds := Relational.Represents.documents_eq hm.keeps ⟨.and [], some scope⟩
  rw [if_neg hfits] at hds
  exact ⟨batches, request, .and [], scope, w, f, rfl, rfl, rfl, rfl, hw, hfound,
    search_eq_of_documents_eq_error hrequest hds⟩

end ScanIndex
