import ScanIndex.Proofs.Indexing.Batch
import ScanIndex.Proofs.Outcome

/-!
# Removed files

A batch removes the documents of removed files that were stored before it, also if it creates the
files as well (`removal_wins_over_stored`).  The documents to remove are looked up before the new
ones are stored, so a new file that the batch both creates and removes stays
(`created_file_outlives_removal`).
-/

namespace ScanIndex

/-- Deleting the documents under the identifiers of stored ones leaves no document of their files,
whatever documents are stored meanwhile. -/
theorem Memory.not_mem_files_of_mem_delete_upsert {m : Memory} {ds : List Document} {d : Document}
    {removed : List File} {doomed : List String}
    (hdoomed : ∀ e ∈ m.documents, e.file ∈ removed → e.id ∈ doomed)
    (hd : d ∈ ((m.upsert ds).delete doomed).documents) (hremoved : d.file ∈ removed) :
  d.file ∉ m.files ∧ d.file ∈ ds.map Document.file
  := by
  obtain ⟨hd, hid⟩ := List.mem_filter.1 hd
  rw [decide_eq_true_eq] at hid
  rcases id_cases_of_mem_upsert hd with ⟨e, he, hfile, heid⟩ | ⟨hnot, x, hx, hfile, -⟩
  · rw [← heid] at hid
    exact absurd (hdoomed e he (hfile ▸ hremoved)) hid
  · exact ⟨hnot, List.mem_map.2 ⟨x, hx, hfile⟩⟩

variable {σ : Type} [DocumentStore σ] [LawfulStore σ] {engine : Engine} {ids : Supply}
variable {m : Memory} {w w' : World σ}

/-- After a batch that succeeds, a removed file has a document only if it had none before and the
batch creates it, whatever the order of the events.  If identifiers never come up again, such a file
does have a document. -/
theorem removal_wins_over_stored {events : List ChangeEvent} {report : Report}
    (hkeeps : Keeps w.store m) (h : process engine ids events w = (some (.ok report), w')) :
  ∃ m', Keeps w'.store m'
    ∧ (∀ d ∈ m'.documents, d.file ∈ removedFiles events →
        d.file ∉ m.files ∧ d.file ∈ createdFiles events)
    ∧ (Separate ids w.drawn m → ∀ f ∈ removedFiles events,
        f ∈ m'.files ↔ f ∉ m.files ∧ f ∈ createdFiles events)
  := by
  obtain ⟨ds, doomed, hds, -, hdoomed, hkeeps', -, -⟩ := process_upsert_delete hkeeps h
  refine ⟨_, hkeeps', ?_, ?_⟩
  · intro d hd hremoved
    rw [← hds.map_file]
    refine Memory.not_mem_files_of_mem_delete_upsert ?_ hd hremoved
    intro e he hfile
    exact (hdoomed e.id).2 ⟨e, he, hfile, rfl⟩
  · intro hm f hremoved
    rw [hm.delete_upsert hds hdoomed, Memory.mem_files_afterBatch, hds.map_file]
    tauto

/-- A stored file is removed although the batch creates it again, and a new one is created. -/
theorem removal_wins_over_stored_recreated :
  ∃ (events : List ChangeEvent) (w w' : World Memory) (report : Report),
    events = [⟨"OBJECT_REMOVED", ⟨"b", "p.jpg"⟩⟩, ⟨"OBJECT_CREATED", ⟨"b", "p.jpg"⟩⟩,
        ⟨"OBJECT_CREATED", ⟨"b", "q.png"⟩⟩]
      ∧ w = .ofStore ⟨[⟨"d", "b", "p.jpg", []⟩]⟩
      ∧ process (fun _ _ => some (.ok [])) .strokes events w = (some (.ok report), w')
      ∧ ∀ d ∈ w'.store.documents, d.file ≠ ⟨"b", "p.jpg"⟩
  := by
  let events : List ChangeEvent := [⟨"OBJECT_REMOVED", ⟨"b", "p.jpg"⟩⟩,
    ⟨"OBJECT_CREATED", ⟨"b", "p.jpg"⟩⟩, ⟨"OBJECT_CREATED", ⟨"b", "q.png"⟩⟩]
  let w : World Memory := .ofStore ⟨[⟨"d", "b", "p.jpg", []⟩]⟩
  let w' := (process (fun _ _ => some (.ok [])) .strokes events w).2
  have hok : (process (fun _ _ => some (.ok [])) .strokes events w).1.map
      (Except.mapError ProcessError.code) = some (.ok ⟨2, 1, 0⟩) := by
    decide +kernel
  have hprocess : process (fun _ _ => some (.ok [])) .strokes events w = (_, w') :=
    Prod.ext (eq_ok_of_mapError_eq_ok hok) rfl
  obtain ⟨m', hkeeps, hremoved, -⟩ :=
    removal_wins_over_stored (rfl : Keeps w.store w.store) hprocess
  use events, w, w', ⟨2, 1, 0⟩, rfl, rfl, hprocess
  rw [show w'.store = m' from hkeeps]
  intro d hd hfile
  obtain ⟨hnot, -⟩ := hremoved d hd (by rw [hfile]; decide +kernel)
  apply hnot
  rw [hfile]
  decide +kernel

/-- A file that one batch both creates and removes is stored afterwards if it was not before. -/
theorem created_file_outlives_removal :
  ∃ (events : List ChangeEvent) (w w' : World Memory) (report : Report) (d : Document),
    events = [⟨"OBJECT_CREATED", ⟨"b", "p.jpg"⟩⟩, ⟨"OBJECT_REMOVED", ⟨"b", "p.jpg"⟩⟩]
      ∧ w = .ofStore .empty
      ∧ process (fun _ _ => some (.ok [])) .strokes events w = (some (.ok report), w')
      ∧ d ∈ w'.store.documents ∧ d.file ∈ removedFiles events
  := by
  let events : List ChangeEvent :=
    [⟨"OBJECT_CREATED", ⟨"b", "p.jpg"⟩⟩, ⟨"OBJECT_REMOVED", ⟨"b", "p.jpg"⟩⟩]
  let w : World Memory := .ofStore .empty
  let w' := (process (fun _ _ => some (.ok [])) .strokes events w).2
  let d : Document := ⟨"", "b", "p.jpg", []⟩
  have hok : (process (fun _ _ => some (.ok [])) .strokes events w).1.map
      (Except.mapError ProcessError.code) = some (.ok ⟨1, 0, 0⟩) := by
    decide +kernel
  have hprocess : process (fun _ _ => some (.ok [])) .strokes events w = (_, w') :=
    Prod.ext (eq_ok_of_mapError_eq_ok hok) rfl
  have hstored : d ∈ w'.store.documents := by decide +kernel
  use events, w, w', ⟨1, 0, 0⟩, d, rfl, rfl, hprocess, hstored
  decide +kernel

end ScanIndex
