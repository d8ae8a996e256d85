import ScanIndex.Proofs.Indexing.Stages
import ScanIndex.Proofs.Store.Upsert

/-!
# The effect of a batch

A batch that succeeds stores the documents of the created files and removes the documents that were
stored before of removed files (`process_eq_ok`).  The identifiers that are looked up before the new
documents are stored still name the right documents afterwards, because a stored document keeps its
identifier.
-/

namespace ScanIndex

/-- Documents of different files under different identifiers, none of which will be drawn from the
given place on. -/
structure Separate (ids : Supply) (drawn : Nat) (m : Memory) : Prop where
  files : m.files.Nodup
  documents : (m.documents.map Document.id).Nodup
  undrawn : ∀ d ∈ m.documents, ∀ n, drawn ≤ n → d.id ≠ ids n

/-- What a batch leaves: the new documents are stored, and then the documents that were there before
of removed files are taken away. -/
def Memory.afterBatch (ds : List Document) (removed : List File) (m : Memory) : Memory :=
  ⟨(m.upsert ds).documents.filter fun d => ¬(d.file ∈ m.files ∧ d.file ∈ removed)⟩

namespace Memory

variable {m : Memory} {ds : List Document} {removed : List File} {d : Document} {f : File}

/-! ### Documents after a batch -/

@[simp] theorem afterBatch_nil (m : Memory) :
  m.afterBatch [] [] = m
  := by
  simp [afterBatch, upsert]

theorem mem_afterBatch :
  d ∈ (m.afterBatch ds removed).documents
    ↔ d ∈ (m.upsert ds).documents ∧ ¬(d.file ∈ m.files ∧ d.file ∈ removed)
  := by
  rw [afterBatch, List.mem_filter, decide_eq_true_eq]

theorem files_upsert :
  (m.upsert ds).files
    = m.files ++ ((ds.map Document.file).filter fun f => f ∉ m.files).eraseDups
  := map_file_upsert ds m.documents

/-- After a batch, the files that stay are in their places, and new files follow as they first come
up. -/
theorem files_afterBatch :
  (m.afterBatch ds removed).files
    = (m.files.filter fun f => f ∉ removed)
      ++ ((ds.map Document.file).filter fun f => f ∉ m.files).eraseDups
  := by
  have hmap : (m.afterBatch ds removed).files
      = (m.upsert ds).files.filter fun f => ¬(f ∈ m.files ∧ f ∈ removed) := by
    change _ = ((m.upsert ds).documents.map Document.file).filter _
    rw [List.filter_map]
    rfl
  rw [hmap, files_upsert, List.filter_append]
  congr 1
  · apply List.filter_congr
    intro f hf
    simp [hf]
  · rw [List.filter_eq_self]
    intro f hf
    rw [List.mem_eraseDups, List.mem_filter, decide_eq_true_eq] at hf
    simp [hf.2]

theorem mem_files_afterBatch :
  f ∈ (m.afterBatch ds removed).files
    ↔ (f ∈ m.files ∧ f ∉ removed) ∨ (f ∈ ds.map Document.file ∧ ¬(f ∈ m.files ∧ f ∈ removed))
  := by
  rw [files_afterBatch, List.mem_append, List.mem_filter, List.mem_eraseDups, List.mem_filter,
    decide_eq_true_eq, decide_eq_true_eq]
  tauto

theorem nodup_files_afterBatch (h : m.files.Nodup) :
  (m.afterBatch ds removed).files.Nodup
  := by
  have hsublist : (m.afterBatch ds removed).documents.Sublist (m.upsert ds).documents :=
    List.filter_sublist
  apply (nodup_files_upsert h).sublist (hsublist.map Document.file)

end Memory

/-! ### Pages after a batch -/

section

variable {engine : Engine} {ids : Supply} {m : Memory} {fs removed : List File}
variable {ds : List Document} {c n k : Nat} {d : Document}

/-- A document of a file that was not recognised is left as it was. -/
theorem Recognised.mem_of_not_mem (h : Recognised engine ids c n fs ds k) (hm : m.files.Nodup)
    (hd : d ∈ (m.afterBatch ds removed).documents) (hfile : d.file ∉ fs) :
  d ∈ m.documents
  := by
  rcases Memory.mem_upsert hm (Memory.mem_afterBatch.1 hd).1 with
    ⟨hd, -⟩ | ⟨pre, x, post, rfl, hx, -, -⟩
  · exact hd
  · rw [← h.map_file] at hfile
    exact absurd (List.mem_map.2 ⟨x, by simp, hx⟩) hfile

/-- A document of a recognised file has the pages that are made from the blocks of the last call for
the file. -/
theorem Recognised.exists_latest_blocks (h : Recognised engine ids c n fs ds k)
    (hm : m.files.Nodup) (hd : d ∈ (m.afterBatch ds removed).documents) (hfile : d.file ∈ fs) :
  ∃ pre post blocks i, fs = pre ++ d.file :: post ∧ d.file ∉ post
    ∧ engine (c + pre.length) d.file = some (.ok blocks)
    ∧ d.pages = (Document.ofBlocks ids i d.file blocks).1.pages
  := by
  have hmap := h.map_file
  rcases Memory.mem_upsert hm (Memory.mem_afterBatch.1 hd).1 with
    ⟨-, hnot⟩ | ⟨pre, x, post, hds, hx, hpost, hpages⟩
  · rw [hmap] at hnot
    exact absurd hfile hnot
  · obtain ⟨blocks, i, hblocks, hxi⟩ := h.exists_blocks hds
    use pre.map Document.file, post.map Document.file, blocks, i
    rw [hds, List.map_append, List.map_cons, hx] at hmap
    rw [List.length_map, hpages, ← hx]
    exact ⟨hx ▸ hmap.symm, hx ▸ hpost, hblocks, congrArg Document.pages hxi⟩

end

/-! ### Identifiers after a batch -/

section

variable {engine : Engine} {ids : Supply} {m : Memory} {fs removed : List File}
variable {ds : List Document} {c n k : Nat} {d e : Document}

theorem Separate.weaken (hm : Separate ids n m) (hk : n ≤ k) :
  Separate ids k m
  := ⟨hm.files, hm.documents, fun d hd i hi => hm.undrawn d hd i (hk.trans hi)⟩

/-- A document goes on with the identifier of the document of its file that was stored before. -/
theorem Memory.id_eq_of_mem_afterBatch (hm : m.files.Nodup)
    (hd : d ∈ (m.afterBatch ds removed).documents) (he : e ∈ m.documents)
    (hfile : d.file = e.file) :
  d.id = e.id
  := id_eq_of_mem_upsert hm (mem_afterBatch.1 hd).1 he hfile

/-- Removing the documents under the identifiers that were looked up removes those that were stored
before of removed files. -/
theorem Separate.delete_upsert (hm : Separate ids n m) (h : Recognised engine ids c n fs ds k)
    {doomed : List String}
    (hdoomed : ∀ id, id ∈ doomed ↔ ∃ d ∈ m.documents, d.file ∈ removed ∧ d.id = id) :
  (m.upsert ds).delete doomed = m.afterBatch ds removed
  := by
  rw [Memory.delete, Memory.afterBatch]
  congr 1
  apply List.filter_congr
  intro d hd
  rw [decide_eq_decide, not_iff_not, hdoomed]
  rcases Memory.id_cases_of_mem_upsert hd with ⟨e, he, hfile, hid⟩ | ⟨hnot, x, hx, -, hid⟩
  · constructor
    · rintro ⟨y, hy, hremoved, hyid⟩
      have hye := List.inj_on_of_nodup_map hm.documents hy he (hyid.trans hid.symm)
      rw [← hfile, ← hye]
      exact ⟨List.mem_map_of_mem hy, hremoved⟩
    · rintro ⟨-, hremoved⟩
      exact ⟨e, he, hfile ▸ hremoved, hid⟩
  · constructor
    · rintro ⟨y, hy, -, hyid⟩
      obtain ⟨i, hi, -, hxid⟩ := h.id_eq hx
      exact absurd (hyid.trans (hid.symm.trans hxid)) (hm.undrawn y hy i hi)
    · rintro ⟨hfile, -⟩
      exact absurd hfile hnot

/-- The documents after a batch are separate again. -/
theorem Separate.afterBatch (hm : Separate ids n m) (h : Recognised engine ids c n fs ds k)
    (hids : Function.Injective ids) :
  Separate ids k (m.afterBatch ds removed)
  := by
  have hfiles : ((m.upsert ds).documents.map Document.file).Nodup :=
    Memory.nodup_files_upsert hm.files
  have hsublist : (m.afterBatch ds removed).documents.Sublist (m.upsert ds).documents :=
    List.filter_sublist
  have hk := h.le_drawn
  constructor
  · apply Memory.nodup_files_afterBatch hm.files
  · refine (List.Nodup.map_on ?_ hfiles.of_map).sublist (hsublist.map Document.id)
    intro d hd e he hid
    apply List.inj_on_of_nodup_map hfiles hd he
    rcases Memory.id_cases_of_mem_upsert hd with ⟨x, hx, hxd, hxid⟩ | ⟨-, x, hx, hxd, hxid⟩
    · rcases Memory.id_cases_of_mem_upsert he with ⟨y, hy, hye, hyid⟩ | ⟨-, y, hy, -, hyid⟩
      · rw [← hxd, ← hye]
        exact congrArg _ (List.inj_on_of_nodup_map hm.documents hx hy (by rw [hxid, hyid, hid]))
      · obtain ⟨i, hi, -, hyi⟩ := h.id_eq hy
        exact absurd (by rw [hxid, hid, ← hyid, hyi]) (hm.undrawn x hx i hi)
    · rcases Memory.id_cases_of_mem_upsert he with ⟨y, hy, -, hyid⟩ | ⟨-, y, hy, hye, hyid⟩
      · obtain ⟨i, hi, -, hxi⟩ := h.id_eq hx
        exact absurd (by rw [hyid, ← hid, ← hxid, hxi]) (hm.undrawn y hy i hi)
      · rw [← hxd, ← hye]
        exact congrArg _
          (List.inj_on_of_nodup_map (h.nodup_ids hids) hx hy (by rw [hxid, hyid, hid]))
  · intro d hd i hi
    rcases Memory.id_cases_of_mem_upsert (hsublist.subset hd)
      with ⟨x, hx, -, hxid⟩ | ⟨-, x, hx, -, hxid⟩
    · rw [← hxid]
      apply hm.undrawn x hx i (by omega)
    · obtain ⟨j, -, hj, hxj⟩ := h.id_eq hx
      intro hdi
      have := hids (hxj.symm.trans (hxid.trans hdi))
      omega

end

/-! ### The stages of a batch -/

section

variable {σ : Type} [DocumentStore σ] [LawfulStore σ] {engine : Engine} {ids : Supply}
variable {m : Memory} {w w' : World σ} {ds : List Document} {doomed : List String}

/-- The second world goes on from the first one without calling the engine, and keeps the
documents. -/
structure World.Reaches (w w' : World σ) (m : Memory) : Prop where
  keeps : Keeps w'.store m
  drawn : w'.drawn = w.drawn
  detected : w'.detected = w.detected

/-- Documents are stored first, then documents are removed. -/
theorem commit_eq_ok (h : commit ds doomed w = (.ok (), w')) (hkeeps : Keeps w.store m) :
  w.Reaches w' ((m.upsert ds).delete doomed)
  := by
  rcases commit_cases h with ⟨e, -, hr⟩ | ⟨v, q, hv, hw', hr⟩
  · cases hr
  · cases q with
    | error e => cases hr
    | ok u =>
      obtain ⟨hstored, hdrawn, hdetected⟩ := World.getsThrough_write hv
      obtain ⟨hremoved, hdrawn', hdetected'⟩ := World.getsThrough_write hw'
      exact ⟨hremoved.keeps_delete (hstored.keeps_upsert hkeeps), hdrawn'.trans hdrawn,
        hdetected'.trans hdetected⟩

/-- The documents of removed files are looked up before anything is stored, and reported by their
number. -/
theorem apply_eq_ok {plan : Plan} {report : Report} (h : apply ds plan w = (.ok report, w'))
    (hkeeps : Keeps w.store m) :
  ∃ doomed : List String, doomed.Nodup
    ∧ (∀ id, id ∈ doomed ↔ ∃ d ∈ m.documents, d.file ∈ plan.deletes.files ∧ d.id = id)
    ∧ w.Reaches w' ((m.upsert ds).delete doomed)
    ∧ report = ⟨ds.length, doomed.length, plan.skipped⟩
  := by
  rcases apply_cases h with ⟨e, -, hr⟩ | ⟨found, v, q, hresolve, hcommit, hr⟩
  · cases hr
  · cases q with
    | error e => cases hr
    | ok u =>
      cases hr
      obtain ⟨rfl, rfl⟩ := resolve_eq_ok hkeeps hresolve
      have hlogged : ({ w with calls := w.calls
          ++ (resolveQueries plan.deletes).map fun q => .keys q.2 } : World σ).detected
          = w.detected := by
        simp [World.detected, List.filterMap_map]
      have hreaches := commit_eq_ok hcommit hkeeps
      refine ⟨_, nodup_ascending _, ?_, ⟨hreaches.keeps, hreaches.drawn,
        hreaches.detected.trans hlogged⟩, rfl⟩
      intro id
      rw [mem_ascending, mem_found_iff]

/-- Identifiers that are looked up for removed files are as many as the stored files among these. -/
theorem Separate.length_doomed {n : Nat} {removed : List File} (hm : Separate ids n m)
    (hnodup : doomed.Nodup)
    (hdoomed : ∀ id, id ∈ doomed ↔ ∃ d ∈ m.documents, d.file ∈ removed ∧ d.id = id) :
  doomed.length = (m.files.filter fun f => f ∈ removed).length
  := by
  have hsublist : (m.documents.filter fun d => d.file ∈ removed).Sublist m.documents :=
    List.filter_sublist
  have hperm : doomed.Perm ((m.documents.filter fun d => d.file ∈ removed).map Document.id) := by
    rw [List.perm_ext_iff_of_nodup hnodup (hm.documents.sublist (hsublist.map Document.id))]
    intro id
    rw [hdoomed, List.mem_map]
    simp only [List.mem_filter, decide_eq_true_eq, and_assoc]
  rw [hperm.length_eq, List.length_map, Memory.files, List.filter_map, List.length_map]
  rfl

/-- The plan of a batch that is not refused asks for nothing exactly if no supported file is created
or removed. -/
theorem isEmpty_extend_iff {events : List ChangeEvent} :
  (Plan.empty.extend events).isEmpty = true
    ↔ createdFiles events = [] ∧ removedFiles events = []
  := by
  have hdeletes : (removedFiles events).foldl Buckets.push [] = [] ↔ removedFiles events = [] := by
    constructor
    · intro hnil
      rw [List.eq_nil_iff_forall_not_mem]
      intro f hf
      have hfile := Buckets.mem_files_foldl_push.2 (.inr hf : f ∈ Buckets.files [] ∨ _)
      rw [hnil] at hfile
      cases hfile
    · intro hnil
      rw [hnil]
      rfl
  simp [Plan.isEmpty, Plan.extend, Plan.empty, hdeletes]

/-- A batch that succeeds stores the documents of the created files, and then deletes those under
whose identifiers documents of removed files had been found before.  It need not be known of the
stored documents that they are separate. -/
theorem process_upsert_delete {events : List ChangeEvent} {report : Report}
    (hkeeps : Keeps w.store m) (h : process engine ids events w = (some (.ok report), w')) :
  ∃ ds doomed, Recognised engine ids w.detected.length w.drawn (createdFiles events) ds w'.drawn
    ∧ doomed.Nodup
    ∧ (∀ id, id ∈ doomed ↔ ∃ d ∈ m.documents, d.file ∈ removedFiles events ∧ d.id = id)
    ∧ Keeps w'.store ((m.upsert ds).delete doomed)
    ∧ w'.detected = w.detected ++ createdFiles events
    ∧ report = ⟨(createdFiles events).length, doomed.length, skippedCount events⟩
  := by
  rcases process_cases h with
    ⟨name, hr, -⟩ | ⟨hr | ⟨f, e, hr⟩, -, -⟩ | ⟨plan, ds, v, s, hroute, hrecognise, happly, hs⟩
  · cases hr
  · cases hr
  · cases hr
  · cases hs
    obtain ⟨hds, hstore, hcalls⟩ := recognise_eq_ok hrecognise
    obtain ⟨doomed, hnodup, hdoomed, hreaches, rfl⟩ := apply_eq_ok happly (hstore ▸ hkeeps)
    simp only [mem_files_deletes_of_route hroute] at hdoomed
    rw [upserts_of_route hroute] at hds hcalls
    have hlength := congrArg List.length hds.map_file
    rw [List.length_map] at hlength
    refine ⟨ds, doomed, hreaches.drawn ▸ hds, hnodup, hdoomed, hreaches.keeps, ?_, ?_⟩
    · rw [hreaches.detected]
      simp [World.detected, hcalls, List.filterMap_map]
    · rw [hlength, skipped_of_route hroute]

/-- What a batch that succeeds has done. -/
theorem process_eq_ok {events : List ChangeEvent} {report : Report} (hkeeps : Keeps w.store m)
    (hm : Separate ids w.drawn m)
    (h : process engine ids events w = (some (.ok report), w')) :
  ∃ ds, Recognised engine ids w.detected.length w.drawn (createdFiles events) ds w'.drawn
    ∧ Keeps w'.store (m.afterBatch ds (removedFiles events))
    ∧ w'.detected = w.detected ++ createdFiles events
    ∧ report = ⟨(createdFiles events).length,
        (m.files.filter fun f => f ∈ removedFiles events).length, skippedCount events⟩
  := by
  obtain ⟨ds, doomed, hds, hnodup, hdoomed, hkeeps, hdetected, hreport⟩ :=
    process_upsert_delete hkeeps h
  rw [hm.delete_upsert hds hdoomed] at hkeeps
  rw [hm.length_doomed hnodup hdoomed] at hreport
  exact ⟨ds, hds, hkeeps, hdetected, hreport⟩

omit [LawfulStore σ] in
/-- A batch without supported files to create or remove makes no call. -/
theorem process_eq_self {events : List ChangeEvent} {report : Report}
    (h : process engine ids events w = (some (.ok report), w'))
    (hcreated : createdFiles events = []) (hremoved : removedFiles events = []) :
  w' = w
  := by
  rw [process] at h
  cases hroute : route events with
  | error e =>
    rw [hroute] at h
    cases h
  | ok plan =>
    have hempty : plan.isEmpty = true := by
      rw [route_eq_ok hroute, isEmpty_extend_iff]
      exact ⟨hcreated, hremoved⟩
    rw [hroute] at h
    simp only [if_pos hempty] at h
    cases h
    rfl

/-- The exact effect of a batch that succeeds on documents that are separate before. -/
theorem process_effect {events : List ChangeEvent} {report : Report}
    (hids : Function.Injective ids) (hkeeps : Keeps w.store m) (hm : Separate ids w.drawn m)
    (h : process engine ids events w = (some (.ok report), w')) :
  ∃ m', Keeps w'.store m' ∧ Separate ids w'.drawn m'
    ∧ (∀ f, f ∈ m'.files ↔ (f ∈ m.files ∧ f ∉ removedFiles events)
        ∨ (f ∈ createdFiles events ∧ ¬(f ∈ m.files ∧ f ∈ removedFiles events)))
    ∧ (∀ d ∈ m'.documents, d.file ∈ createdFiles events →
        ∃ pre post blocks i, createdFiles events = pre ++ d.file :: post ∧ d.file ∉ post
          ∧ engine (w.detected.length + pre.length) d.file = some (.ok blocks)
          ∧ d.pages = (Document.ofBlocks ids i d.file blocks).1.pages)
    ∧ (∀ d ∈ m'.documents, d.file ∉ createdFiles events → d ∈ m.documents)
    ∧ (∀ d ∈ m'.documents, ∀ e ∈ m.documents, d.file = e.file → d.id = e.id)
    ∧ m'.files = (m.files.filter fun f => f ∉ removedFiles events)
        ++ ((createdFiles events).filter fun f => f ∉ m.files).eraseDups
    ∧ report = ⟨(createdFiles events).length,
        (m.files.filter fun f => f ∈ removedFiles events).length, skippedCount events⟩
    ∧ (createdFiles events = [] → removedFiles events = [] → w' = w)
  := by
  obtain ⟨ds, hds, hkeeps', -, hreport⟩ := process_eq_ok hkeeps hm h
  have hfiles := hds.map_file
  use m.afterBatch ds (removedFiles events), hkeeps', hm.afterBatch hds hids
  refine ⟨?_, ?_, ?_, ?_, ?_, hreport, process_eq_self h⟩
  · intro f
    rw [Memory.mem_files_afterBatch, hfiles]
  · intro d hd hcreated
    apply hds.exists_latest_blocks hm.files hd hcreated
  · intro d hd hfile
    apply hds.mem_of_not_mem hm.files hd hfile
  · intro d hd e he hfile
    apply Memory.id_eq_of_mem_upsert hm.files (Memory.mem_afterBatch.1 hd).1 he hfile
  · rw [Memory.files_afterBatch, hfiles]

theorem exists_eq_ok_of_matches {r : Attempt Report} (h : (r matches some (.ok _)) = true) :
  ∃ report, r = some (.ok report)
  := by
  split at h
  next report => exact ⟨report, rfl⟩
  next => cases h

/-- One of two stored files is removed, and the other one is created twice. -/
theorem process_effect_replaced :
  ∃ (events : List ChangeEvent) (w w' : World Memory) (report : Report),
    events = [⟨"OBJECT_REMOVED", ⟨"b", "p.jpg"⟩⟩, ⟨"OBJECT_CREATED", ⟨"b", "q.png"⟩⟩,
        ⟨"OBJECT_CREATED", ⟨"b", "q.png"⟩⟩, ⟨"OBJECT_MOVED", ⟨"b", "r.pdf"⟩⟩]
      ∧ w = .ofStore ⟨[⟨"d", "b", "p.jpg", []⟩, ⟨"e", "b", "q.png", [⟨"f", 1, []⟩]⟩]⟩
      ∧ process (fun _ _ => some (.ok [])) .strokes events w = (some (.ok report), w')
      ∧ report = ⟨2, 1, 1⟩ ∧ w'.store.files = [⟨"b", "q.png"⟩]
  := by
  let events : List ChangeEvent := [⟨"OBJECT_REMOVED", ⟨"b", "p.jpg"⟩⟩,
    ⟨"OBJECT_CREATED", ⟨"b", "q.png"⟩⟩, ⟨"OBJECT_CREATED", ⟨"b", "q.png"⟩⟩,
    ⟨"OBJECT_MOVED", ⟨"b", "r.pdf"⟩⟩]
  let w : World Memory :=
    .ofStore ⟨[⟨"d", "b", "p.jpg", []⟩, ⟨"e", "b", "q.png", [⟨"f", 1, []⟩]⟩]⟩
  have hm : Separate .strokes w.drawn w.store := by
    constructor
    · decide
    · decide
    · intro d hd n _ hid
      have hstrokes : d.id.toList.all (· = 'i') = true := by
        rw [hid]
        simp [Supply.strokes]
      have hnone : ∀ d ∈ w.store.documents, d.id.toList.all (· = 'i') = false := by decide
      rw [hnone d hd] at hstrokes
      cases hstrokes
  have hok : ((process (fun _ _ => some (.ok [])) .strokes events w).1 matches some (.ok _))
      = true := by
    decide +kernel
  cases hprocess : process (fun _ _ => some (.ok [])) .strokes events w with
  | mk r w' =>
    rw [hprocess] at hok
    obtain ⟨report, rfl⟩ := exists_eq_ok_of_matches hok
    obtain ⟨m', hkeeps, -, -, -, -, -, hfiles, hcounts, -⟩ :=
      process_effect Supply.strokes_injective rfl hm hprocess
    refine ⟨events, w, w', report, rfl, rfl, hprocess, ?_, ?_⟩
    · rw [hcounts]
      decide +kernel
    · rw [show w'.store = m' from hkeeps, hfiles]
      decide +kernel

end

end ScanIndex
