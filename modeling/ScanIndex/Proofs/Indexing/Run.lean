import ScanIndex.Proofs.Indexing.Batch

/-!
# Runs of batches

After batches that all succeed, exactly the live files are stored, each with the pages that are made
from the blocks of its latest creation (`Indexed.processAll?`).  Whether a file is live is told
batch by batch, and its latest creation is the last one in all batches.
-/

namespace ScanIndex

variable {σ : Type} [DocumentStore σ]

/-- Process batches, one after the other; the world after the last one, if all of them succeed. -/
def processAll? (engine : Engine) (ids : Supply) :
    List (List ChangeEvent) → World σ → Option (World σ)
  | [], w => some w
  | events :: batches, w =>
    match process engine ids events w with
    | (some (.ok _), w) => processAll? engine ids batches w
    | _ => none

/-- Whether a file is live after a batch, told from whether it was before. -/
def isLiveAfter (f : File) (live : Bool) (events : List ChangeEvent) : Bool :=
  live && f ∉ removedFiles events || f ∈ createdFiles events && !(live && f ∈ removedFiles events)

/-- The file is live after batches. -/
def isLive (batches : List (List ChangeEvent)) (f : File) : Bool :=
  batches.foldl (isLiveAfter f) false

/-- The blocks are what the engine returned for the last of the calls for a file, where it was
called once for each of the files. -/
def LatestBlocks (engine : Engine) (fs : List File) (f : File) (blocks : List Block) : Prop :=
  ∃ pre post, fs = pre ++ f :: post ∧ f ∉ post ∧ engine pre.length f = some (.ok blocks)

/-- The same items stand before a last occurrence, however the list is parted there. -/
theorem eq_of_append_cons_eq {α : Type} {x : α} {pre pre' post post' : List α} (h : x ∉ post)
    (h' : x ∉ post') (heq : pre ++ x :: post = pre' ++ x :: post') :
  pre = pre'
  := by
  rcases List.append_eq_append_iff.1 heq with ⟨a, ha, hb⟩ | ⟨a, ha, hb⟩
  · cases a with
    | nil => rw [ha, List.append_nil]
    | cons y a =>
      obtain ⟨rfl, rfl⟩ := List.cons.inj hb
      exact absurd (List.mem_append_right a List.mem_cons_self) h
  · cases a with
    | nil => rw [ha, List.append_nil]
    | cons y a =>
      obtain ⟨rfl, rfl⟩ := List.cons.inj hb
      exact absurd (List.mem_append_right a List.mem_cons_self) h'

/-- There are blocks of at most one latest call. -/
theorem LatestBlocks.unique {engine : Engine} {fs : List File} {f : File}
    {blocks blocks' : List Block} (h : LatestBlocks engine fs f blocks)
    (h' : LatestBlocks engine fs f blocks') :
  blocks = blocks'
  := by
  obtain ⟨pre, post, hfs, hpost, hblocks⟩ := h
  obtain ⟨pre', post', hfs', hpost', hblocks'⟩ := h'
  rw [eq_of_append_cons_eq hpost hpost' (hfs.symm.trans hfs'), hblocks'] at hblocks
  cases hblocks
  rfl

theorem LatestBlocks.append {engine : Engine} {fs : List File} {f : File} {blocks : List Block}
    (h : LatestBlocks engine fs f blocks) {gs : List File} (hf : f ∉ gs) :
  LatestBlocks engine (fs ++ gs) f blocks
  := by
  obtain ⟨pre, post, rfl, hpost, hblocks⟩ := h
  refine ⟨pre, post ++ gs, by simp, ?_, hblocks⟩
  rw [List.mem_append]
  tauto

/-- What can be told about a world in which batches have been processed: the documents of the live
files are kept, each with the pages made from the latest blocks of its file. -/
structure Indexed [LawfulStore σ] (engine : Engine) (ids : Supply) (live : File → Bool)
    (created : List File) (w : World σ) (m : Memory) : Prop where
  keeps : Keeps w.store m
  separate : Separate ids w.drawn m
  detected : w.detected = created
  files (f : File) : f ∈ m.files ↔ live f = true
  pages {d : Document} (hd : d ∈ m.documents) : ∃ blocks i,
    LatestBlocks engine created d.file blocks
      ∧ d.pages = (Document.ofBlocks ids i d.file blocks).1.pages

section

variable [LawfulStore σ] {engine : Engine} {ids : Supply} {live : File → Bool} {created : List File}
variable {w w' : World σ} {m : Memory}

/-- A batch that succeeds leads from one indexed world to the next. -/
theorem Indexed.process (h : Indexed engine ids live created w m) (hids : Function.Injective ids)
    {events : List ChangeEvent} {report : Report}
    (hok : process engine ids events w = (some (.ok report), w')) :
  ∃ m', Indexed engine ids (fun f => isLiveAfter f (live f) events)
    (created ++ createdFiles events) w' m'
  := by
  obtain ⟨ds, hds, hkeeps, hdetected, -⟩ := process_eq_ok h.keeps h.separate hok
  use m.afterBatch ds (removedFiles events)
  constructor
  · exact hkeeps
  · apply h.separate.afterBatch hds hids
  · rw [hdetected, h.detected]
  · intro f
    rw [Memory.mem_files_afterBatch, hds.map_file, h.files]
    cases hlive : live f <;> simp [isLiveAfter]
  · intro d hd
    by_cases hfile : d.file ∈ createdFiles events
    · obtain ⟨pre, post, blocks, i, hcreated, hpost, hblocks, hpages⟩ :=
        hds.exists_latest_blocks h.separate.files hd hfile
      refine ⟨blocks, i, ⟨created ++ pre, post, ?_, hpost, ?_⟩, hpages⟩
      · rw [hcreated, List.append_assoc]
      · rw [List.length_append, ← h.detected]
        exact hblocks
    · obtain ⟨blocks, i, hlatest, hpages⟩ := h.pages (hds.mem_of_not_mem h.separate.files hd hfile)
      exact ⟨blocks, i, hlatest.append hfile, hpages⟩

theorem createdFiles_append (events events' : List ChangeEvent) :
  createdFiles (events ++ events') = createdFiles events ++ createdFiles events'
  := by
  simp [createdFiles, filesNamed]

/-- Batches that all succeed lead from one indexed world to the last one. -/
theorem Indexed.processAll? (h : Indexed engine ids live created w m)
    (hids : Function.Injective ids) {batches : List (List ChangeEvent)}
    (hok : processAll? engine ids batches w = some w') :
  ∃ m', Indexed engine ids (fun f => batches.foldl (isLiveAfter f) (live f))
    (created ++ createdFiles batches.flatten) w' m'
  := by
  induction batches generalizing live created w m with
  | nil =>
    cases hok
    rw [List.flatten_nil]
    use m
    simpa [createdFiles, filesNamed] using h
  | cons events batches ih =>
    rw [ScanIndex.processAll?] at hok
    split at hok
    next report v hv =>
      obtain ⟨m', hm'⟩ := h.process hids hv
      rw [List.flatten_cons, createdFiles_append, ← List.append_assoc]
      apply ih hm' hok
    next => cases hok

/-- A store that keeps no documents is an indexed world to begin with. -/
theorem Indexed.ofStore {s : σ} (h : Keeps s .empty) :
  Indexed engine ids (fun _ => false) [] (.ofStore s) .empty
  := by
  constructor
  · exact h
  · exact ⟨List.nodup_nil, List.nodup_nil, by simp [Memory.empty]⟩
  · rfl
  · intro f
    simp [Memory.files, Memory.empty]
  · intro d hd
    cases hd

end

end ScanIndex
