import Mathlib.Data.List.Nodup
import Mathlib.Data.List.Pairwise
import Mathlib.Data.String.Basic
import ScanIndex.Indexing.Process
import ScanIndex.Proofs.Buckets
import ScanIndex.Proofs.Change.Routing
import ScanIndex.Proofs.Store.Lawful

/-!
# Looking up the documents of removed files

The look-ups of a batch find exactly the documents of the removed files (`mem_found_iff`), however
the keys are cut into chunks (`mem_lookUps_found_iff`), and leave the store alone
(`resolve_eq_ok`).  `ascending` lists what they find without repetition.
-/

namespace ScanIndex

/-! ### Ascending lists -/

theorem mem_place {id x : String} {ids : List String} :
  x ∈ ascending.place id ids ↔ x = id ∨ x ∈ ids
  := by
  fun_induction ascending.place id ids with
  | case1 => simp
  | case2 => simp
  | case3 ys hlt => simp
  | case4 y ys hlt hne ih =>
    rw [List.mem_cons, ih, List.mem_cons]
    tauto

/-- Putting an item in its place keeps an ascending list ascending. -/
theorem pairwise_place {id : String} {ids : List String} (h : ids.Pairwise (· < ·)) :
  (ascending.place id ids).Pairwise (· < ·)
  := by
  fun_induction ascending.place id ids with
  | case1 => apply List.pairwise_singleton _ _
  | case2 y ys hlt => apply List.Pairwise.cons_cons_of_trans hlt h
  | case3 ys hlt => exact h
  | case4 y ys hlt hne ih =>
    obtain ⟨hy, hys⟩ := List.pairwise_cons.1 h
    refine List.pairwise_cons.2 ⟨?_, ih hys⟩
    intro z hz
    rcases mem_place.1 hz with rfl | hz
    · apply lt_of_le_of_ne (not_lt.1 hlt) (Ne.symm hne)
    · apply hy z hz

theorem mem_foldl_place {ids done : List String} {x : String} :
  x ∈ ids.foldl (fun done id => ascending.place id done) done ↔ x ∈ done ∨ x ∈ ids
  := by
  induction ids generalizing done with
  | nil => simp
  | cons id ids ih =>
    rw [List.foldl_cons, ih, mem_place, List.mem_cons]
    tauto

theorem pairwise_foldl_place {ids done : List String} (h : done.Pairwise (· < ·)) :
  (ids.foldl (fun done id => ascending.place id done) done).Pairwise (· < ·)
  := by
  induction ids generalizing done with
  | nil => exact h
  | cons id ids ih => apply ih (pairwise_place h)

@[simp] theorem mem_ascending {ids : List String} {x : String} :
  x ∈ ascending ids ↔ x ∈ ids
  := by
  rw [ascending, mem_foldl_place]
  simp

theorem pairwise_ascending (ids : List String) :
  (ascending ids).Pairwise (· < ·)
  := pairwise_foldl_place List.Pairwise.nil

theorem nodup_ascending (ids : List String) :
  (ascending ids).Nodup
  := (pairwise_ascending ids).imp ne_of_lt

/-! ### Look-ups -/

/-- A query for files accepts the documents of these files. -/
theorem Query.accepts_ofFiles {bucket : String} {keys : List String} {d : Document} :
  (Query.ofFiles bucket keys).accepts d = true ↔ d.bucket = bucket ∧ d.key ∈ keys
  := by
  simp [Query.ofFiles, Query.accepts, Query.inScope, Filter.accepts, Formula.holds,
    Condition.accepts, FileFilter.accepts]

/-- The queries that look up the documents of removed files, each with its bucket and for `size`
keys. -/
def lookUps (size : Nat) (deletes : Buckets) : List (String × Query) :=
  deletes.flatMap fun (bucket, keys) =>
    (chunks size keys).map fun chunk => (bucket, Query.ofFiles bucket chunk)

theorem lookUps_resolveChunk (deletes : Buckets) :
  lookUps resolveChunk deletes = resolveQueries deletes
  := rfl

/-- No look-up asks for more keys than it has room for. -/
theorem exists_keys_of_mem_lookUps {size : Nat} (hsize : 0 < size) {g : Buckets}
    {q : String × Query} (h : q ∈ lookUps size g) :
  ∃ keys : List String, keys.length ≤ size ∧ q.2 = Query.ofFiles q.1 keys
  := by
  obtain ⟨p, -, hq⟩ := List.mem_flatMap.1 h
  obtain ⟨chunk, hchunk, rfl⟩ := List.mem_map.1 hq
  exact ⟨chunk, length_le_of_mem_chunks hsize hchunk, rfl⟩

/-- Some look-up accepts a document exactly if its file is one of those to remove. -/
theorem exists_lookUps_accepts_iff (size : Nat) {g : Buckets} {d : Document} :
  (∃ q ∈ lookUps size g, q.2.accepts d = true) ↔ d.file ∈ g.files
  := by
  have hchunks (keys : List String) : (∃ chunk ∈ chunks size keys, d.key ∈ chunk)
      ↔ d.key ∈ keys := by
    rw [← List.mem_flatten, flatten_chunks]
  have hfiles : d.file ∈ g.files ↔ ∃ p ∈ g, d.bucket = p.1 ∧ d.key ∈ p.2 := by
    simp [Buckets.files, Document.file, eq_comm]
  rw [hfiles, lookUps]
  constructor
  · rintro ⟨q, hq, haccepts⟩
    obtain ⟨p, hp, hq⟩ := List.mem_flatMap.1 hq
    obtain ⟨chunk, hchunk, rfl⟩ := List.mem_map.1 hq
    obtain ⟨hbucket, hkey⟩ := Query.accepts_ofFiles.1 haccepts
    exact ⟨p, hp, hbucket, (hchunks p.2).1 ⟨chunk, hchunk, hkey⟩⟩
  · rintro ⟨p, hp, hbucket, hkey⟩
    obtain ⟨chunk, hchunk, hkey⟩ := (hchunks p.2).2 hkey
    use (p.1, Query.ofFiles p.1 chunk)
    constructor
    · apply List.mem_flatMap.2 ⟨p, hp, List.mem_map.2 ⟨chunk, hchunk, rfl⟩⟩
    · apply Query.accepts_ofFiles.2 ⟨hbucket, hkey⟩

/-- The identifiers that are looked up are those of the documents of the removed files. -/
theorem mem_lookUps_found_iff (size : Nat) {g : Buckets} {ds : List Document} {id : String} :
  id ∈ ((lookUps size g).flatMap fun q => (ds.filter q.2.accepts).map Document.id)
    ↔ ∃ d ∈ ds, d.file ∈ g.files ∧ d.id = id
  := by
  rw [List.mem_flatMap]
  constructor
  · rintro ⟨q, hq, hid⟩
    obtain ⟨d, hd, rfl⟩ := List.mem_map.1 hid
    obtain ⟨hd, haccepts⟩ := List.mem_filter.1 hd
    exact ⟨d, hd, (exists_lookUps_accepts_iff size).1 ⟨q, hq, haccepts⟩, rfl⟩
  · rintro ⟨d, hd, hfile, rfl⟩
    obtain ⟨q, hq, haccepts⟩ := (exists_lookUps_accepts_iff size).2 hfile
    exact ⟨q, hq, List.mem_map.2 ⟨d, List.mem_filter.2 ⟨hd, haccepts⟩, rfl⟩⟩

theorem mem_found_iff {g : Buckets} {m : Memory} {id : String} :
  id ∈ ((resolveQueries g).flatMap fun q => (m.select q.2).map Document.id)
    ↔ ∃ d ∈ m.documents, d.file ∈ g.files ∧ d.id = id
  := mem_lookUps_found_iff resolveChunk

section

variable {σ : Type} [DocumentStore σ]

/-- As far as the store answers, it finds those of the documents that a query accepts, in their
order. -/
def FindsAmong (s : σ) (ds : List Document) : Prop :=
  ∀ (q : Query) (found : List String), DocumentStore.keys q s = .ok found →
    found = (ds.filter q.accepts).map Document.id

variable {qs : List (String × Query)} {w w' : World σ} {found : List String}

/-- Look-ups that all succeed find the documents that their queries accept, and leave the store
alone. -/
theorem FindsAmong.resolve_eq_ok {ds : List Document} (hfinds : FindsAmong w.store ds)
    (h : resolve qs w = (.ok found, w')) :
  found = (qs.flatMap fun q => (ds.filter q.2.accepts).map Document.id)
    ∧ w' = { w with calls := w.calls ++ qs.map fun q => .keys q.2 }
  := by
  induction qs generalizing w found with
  | nil =>
    cases h
    exact ⟨rfl, by simp⟩
  | cons q qs ih =>
    obtain ⟨bucket, q⟩ := q
    rw [resolve, World.keys] at h
    cases hq : DocumentStore.keys q w.store with
    | error e =>
      rw [hq] at h
      cases h
    | ok first =>
      rw [hq] at h
      cases hrest : resolve qs (w.log (.keys q)) with
      | mk r v =>
        simp only [hrest] at h
        cases r with
        | error e => cases h
        | ok more =>
          cases h
          obtain ⟨rfl, rfl⟩ := ih (w := w.log (.keys q)) hfinds hrest
          rw [List.flatMap_cons, hfinds q first hq]
          exact ⟨rfl, by simp [World.log]⟩

variable [LawfulStore σ]

theorem LawfulStore.findsAmong {s : σ} {m : Memory} (h : Keeps s m) :
  FindsAmong s m.documents
  := fun _ _ => LawfulStore.keys h

/-- Look-ups that all succeed find what the documents in memory would, and leave the store alone. -/
theorem resolve_eq_ok {m : Memory} (hkeeps : Keeps w.store m) (h : resolve qs w = (.ok found, w')) :
  found = (qs.flatMap fun q => (m.select q.2).map Document.id)
    ∧ w' = { w with calls := w.calls ++ qs.map fun q => .keys q.2 }
  := (LawfulStore.findsAmong hkeeps).resolve_eq_ok h

end

end ScanIndex
