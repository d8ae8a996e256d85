import ScanIndex.Proofs.Indexing.Leftover
import ScanIndex.Proofs.Outcome
import ScanIndex.Proofs.Transcript

/-!
# Batches that are delivered again

If a batch stops at any point, or does not, and succeeds when it is delivered again, the store ends
up like after one delivery that succeeds, up to the identifiers that are drawn
(`redelivery_converges`).  What the first delivery leaves is what some smaller batch does, and the
second one makes up for the rest.
-/

namespace ScanIndex

/-- The engine returns the same blocks for a file whenever it returns some. -/
def Engine.IsSteady (engine : Engine) : Prop :=
  ∀ f i j blocks blocks', engine i f = some (.ok blocks) → engine j f = some (.ok blocks') →
    blocks = blocks'

/-- Documents of one file that two batches create say the same, whatever was stored before. -/
theorem Recognised.tree_eq {engine : Engine} {ids : Supply} {m m' : Memory}
    {fs removed removed' : List File} {xs ys : List Document} {d e : Document}
    {c n k c' n' k' : Nat} (hsteady : engine.IsSteady) (hxs : Recognised engine ids c n fs xs k)
    (hys : Recognised engine ids c' n' fs ys k') (hm : m.files.Nodup) (hm' : m'.files.Nodup)
    (hd : d ∈ (m.afterBatch xs removed).documents) (he : e ∈ (m'.afterBatch ys removed').documents)
    (hfile : d.file = e.file) (hcreated : d.file ∈ fs) :
  d.tree = e.tree
  := by
  obtain ⟨_, _, blocks, i, -, -, hblocks, hpages⟩ := hxs.exists_latest_blocks hm hd hcreated
  rw [hfile] at hblocks hcreated
  obtain ⟨_, _, blocks', i', -, -, hblocks', hpages'⟩ := hys.exists_latest_blocks hm' he hcreated
  obtain rfl := hsteady _ _ _ _ _ hblocks hblocks'
  rw [Document.tree, hpages, Document.tree, hpages']
  exact (Document.tree_ofBlocks ids i _ blocks).trans (Document.tree_ofBlocks ids i' _ blocks).symm

/-- Two documents of one file that say the same.  They have the same identifier if the file was
stored before, and are equal if it is not among those that are created. -/
structure Document.SameUpToDrawn (m : Memory) (created : List File) (d e : Document) : Prop where
  file : d.file = e.file
  tree : d.tree = e.tree
  id : d.file ∈ m.files → d.id = e.id
  eq : d.file ∉ created → d = e

/-! ### Two batches, one after the other

The first one creates only some first files, and removes only some of those to remove. -/

section

variable {engine : Engine} {ids : Supply} {m : Memory} {first rest removed files : List File}
variable {ds xs ys : List Document} {d e : Document} {f : File} {c n k c' n' k' c'' n'' k'' : Nat}
variable (hdisjoint : ∀ f ∈ first ++ rest, f ∉ removed) (hfiles : ∀ f ∈ files, f ∈ removed)
include hdisjoint hfiles

/-- After the first batch, a file that is to be created is stored if it was before, or if it is one
of the first ones. -/
theorem mem_files_leftover_iff (hds : ds.map Document.file = first) (hf : f ∈ first ++ rest) :
  f ∈ (m.afterBatch ds files).files ↔ f ∈ m.files ∨ f ∈ first
  := by
  have hnot : f ∉ files := by
    intro hmem
    apply hdisjoint f hf (hfiles f hmem)
  rw [Memory.mem_files_afterBatch, hds]
  tauto

/-- After both batches, the files are those after the second one alone, and stand in the
same order. -/
theorem files_afterBatch_leftover (hds : ds.map Document.file = first)
    (hxs : xs.map Document.file = first ++ rest) (hys : ys.map Document.file = first ++ rest) :
  ((m.afterBatch ds files).afterBatch xs removed).files = (m.afterBatch ys removed).files
  := by
  have hold : ((m.afterBatch ds files).files.filter fun f => f ∉ removed)
      = (m.files.filter fun f => f ∉ removed) ++ (first.filter fun f => f ∉ m.files).eraseDups := by
    rw [Memory.files_afterBatch, List.filter_append, List.filter_filter, hds]
    congr 1
    · apply List.filter_congr
      intro f _
      have := hfiles f
      rw [Bool.eq_iff_iff, Bool.and_eq_true, decide_eq_true_eq, decide_eq_true_eq]
      tauto
    · rw [List.filter_eq_self]
      intro f hf
      rw [List.mem_eraseDups] at hf
      apply decide_eq_true (hdisjoint f (List.mem_append_left rest (List.mem_of_mem_filter hf)))
  have hnew : ((first ++ rest).filter fun f => f ∉ (m.afterBatch ds files).files)
      = (rest.filter fun f => f ∉ m.files).removeAll (first.filter fun f => f ∉ m.files) := by
    rw [List.filter_append, List.filter_eq_nil_iff.2, List.nil_append, List.removeAll,
      List.filter_filter]
    · apply List.filter_congr
      intro f hf
      have hleft :=
        mem_files_leftover_iff (m := m) hdisjoint hfiles hds (List.mem_append_right first hf)
      rw [Bool.eq_iff_iff, decide_eq_true_eq, hleft]
      simp only [Bool.and_eq_true, Bool.not_eq_true', List.elem_eq_mem, decide_eq_false_iff_not,
        List.mem_filter, decide_eq_true_eq]
      tauto
    · intro f hf
      have hleft :=
        mem_files_leftover_iff (m := m) hdisjoint hfiles hds (List.mem_append_left rest hf)
      rw [decide_eq_true_eq, not_not, hleft]
      apply Or.inr hf
  rw [Memory.files_afterBatch, hold, hxs, hnew, Memory.files_afterBatch, hys, List.append_assoc,
    ← List.eraseDups_append, ← List.filter_append]

/-- A document that is stored after both batches is, up to drawn identifiers, the one of its file
that is stored after the second batch alone. -/
theorem sameUpToDrawn_leftover (hm : m.files.Nodup) (hsteady : engine.IsSteady)
    (hds : Recognised engine ids c n first ds k)
    (hxs : Recognised engine ids c' n' (first ++ rest) xs k')
    (hys : Recognised engine ids c'' n'' (first ++ rest) ys k'')
    (hd : d ∈ ((m.afterBatch ds files).afterBatch xs removed).documents)
    (he : e ∈ (m.afterBatch ys removed).documents) (hfile : d.file = e.file) :
  d.SameUpToDrawn m (first ++ rest) e
  := by
  have hm' : (m.afterBatch ds files).files.Nodup := Memory.nodup_files_afterBatch hm
  have hunchanged : d.file ∉ first ++ rest → d = e := by
    intro hcreated
    have hold := hxs.mem_of_not_mem hm' hd hcreated
    have hnot : d.file ∉ first := by
      intro hmem
      apply hcreated (List.mem_append_left rest hmem)
    apply List.inj_on_of_nodup_map hm (hds.mem_of_not_mem hm hold hnot) _ hfile
    apply hys.mem_of_not_mem hm he (hfile ▸ hcreated)
  constructor
  · apply hfile
  · by_cases hcreated : d.file ∈ first ++ rest
    · apply Recognised.tree_eq hsteady hxs hys hm' hm hd he hfile hcreated
    · rw [hunchanged hcreated]
  · intro hstored
    obtain ⟨x, hx, hxd⟩ := List.mem_map.1 hstored
    have hleft : d.file ∈ (m.afterBatch ds files).files := by
      by_cases hcreated : d.file ∈ first ++ rest
      · apply (mem_files_leftover_iff hdisjoint hfiles hds.map_file hcreated).2 (.inl hstored)
      · apply List.mem_map_of_mem (hxs.mem_of_not_mem hm' hd hcreated)
    obtain ⟨y, hy, hyd⟩ := List.mem_map.1 hleft
    calc d.id
      _ = y.id := Memory.id_eq_of_mem_afterBatch hm' hd hy hyd.symm
      _ = x.id := Memory.id_eq_of_mem_afterBatch hm hy hx (hyd.trans hxd.symm)
      _ = e.id := (Memory.id_eq_of_mem_afterBatch hm he hx (hfile.symm.trans hxd.symm)).symm
  · apply hunchanged

end

/-- Documents in two lists are related in their order if those of one file are, and the files are
the same. -/
theorem forall₂_of_map_file_eq {R : Document → Document → Prop} {xs ys : List Document}
    (hfiles : xs.map Document.file = ys.map Document.file)
    (h : ∀ d ∈ xs, ∀ e ∈ ys, d.file = e.file → R d e) :
  List.Forall₂ R xs ys
  := by
  have hsame : List.Forall₂ (fun d e => d.file = e.file) xs ys := by
    rw [← List.forall₂_eq_eq_eq, List.forall₂_map_left_iff, List.forall₂_map_right_iff] at hfiles
    apply hfiles
  obtain ⟨hlength, hzip⟩ := List.forall₂_iff_zip.1 hsame
  apply List.forall₂_iff_zip.2 ⟨hlength, _⟩
  intro d e hmem
  obtain ⟨hd, he⟩ := List.of_mem_zip hmem
  apply h d hd e he (hzip hmem)

/-! ### Two deliveries -/

section

variable {σ : Type} [DocumentStore σ] [LawfulStore σ] [FailsInOrder σ] {engine : Engine}
variable {ids : Supply}
variable {m : Memory} {w w₁ v v' u u' : World σ}

/-- A batch is delivered, and ends in any way, and is delivered again, to a store that keeps what
was left, and succeeds.  Then the same documents are kept, in the same order and up to drawn
identifiers, as after one delivery that succeeds. -/
theorem redelivery_converges {events : List ChangeEvent} {r : Attempt Report}
    {report report' : Report} (hids : Function.Injective ids) (hsteady : engine.IsSteady)
    (hdisjoint : ∀ f ∈ createdFiles events, f ∉ removedFiles events) (hkeeps : Keeps w.store m)
    (hm : Separate ids w.drawn m) (hfirst : process engine ids events w = (r, w₁))
    (hleft : ∀ m, Keeps w₁.store m → Keeps v.store m) (hdrawn : w₁.drawn ≤ v.drawn)
    (hagain : process engine ids events v = (some (.ok report), v')) (hkeeps' : Keeps u.store m)
    (hdrawn' : w.drawn ≤ u.drawn) (honce : process engine ids events u = (some (.ok report'), u')) :
  ∃ m₂ m', Keeps v'.store m₂ ∧ Keeps u'.store m'
    ∧ List.Forall₂ (fun d e => d.SameUpToDrawn m (createdFiles events) e) m₂.documents m'.documents
  := by
  obtain ⟨first, rest, ds, k, files, hcreated, hds, hk, hfiles, hleftover⟩ :=
    process_leaves hkeeps hm hfirst
  have hm₁ : Separate ids v.drawn (m.afterBatch ds files) :=
    (hm.afterBatch hds hids).weaken (hk.trans hdrawn)
  obtain ⟨xs, hxs, hkeeps₂, -⟩ := process_eq_ok (hleft _ hleftover) hm₁ hagain
  obtain ⟨ys, hys, hkeeps'', -⟩ := process_eq_ok hkeeps' (hm.weaken hdrawn') honce
  use (m.afterBatch ds files).afterBatch xs (removedFiles events),
    m.afterBatch ys (removedFiles events), hkeeps₂, hkeeps''
  rw [hcreated] at hdisjoint hxs hys ⊢
  apply forall₂_of_map_file_eq
  · apply files_afterBatch_leftover hdisjoint hfiles hds.map_file hxs.map_file hys.map_file
  · intro d hd e he hfile
    apply sameUpToDrawn_leftover hdisjoint hfiles hm.files hsteady hds hxs hys hd he hfile

/-- Of two stored files, one is removed and the other one is created again, with a new one.  The
store gives way after the first document, is mended, and ends up with both created files. -/
theorem redelivery_converges_interrupted :
  ∃ (engine : Engine) (events : List ChangeEvent) (w w₁ v' u' : World (Interrupted Relational))
      (e : ProcessError) (m m₂ m' : Memory),
    events = [⟨"OBJECT_CREATED", ⟨"b", "r.png"⟩⟩, ⟨"OBJECT_REMOVED", ⟨"b", "p.jpg"⟩⟩,
        ⟨"OBJECT_CREATED", ⟨"b", "q.png"⟩⟩]
      ∧ m = ⟨[⟨"d", "b", "p.jpg", []⟩, ⟨"e", "b", "q.png", []⟩]⟩
      ∧ Keeps w.store m ∧ w.store.documents = some 1
      ∧ process engine .strokes events w = (some (.error e), w₁) ∧ e.code = "UPSERT_FAILED"
      ∧ process engine .strokes events { w₁ with store := w₁.store.mended }
        = (some (.ok ⟨2, 1, 0⟩), v')
      ∧ process engine .strokes events { w with store := w.store.mended }
        = (some (.ok ⟨2, 1, 0⟩), u')
      ∧ Keeps v'.store m₂ ∧ Keeps u'.store m'
      ∧ List.Forall₂ (fun d e => d.SameUpToDrawn m (createdFiles events) e) m₂.documents
        m'.documents
  := by
  let engine : Engine := fun _ _ => some (.ok [⟨"", .page, some 1, none, none, ["l"]⟩,
    ⟨"l", .line, none, some "total", none, []⟩])
  let events : List ChangeEvent := [⟨"OBJECT_CREATED", ⟨"b", "r.png"⟩⟩,
    ⟨"OBJECT_REMOVED", ⟨"b", "p.jpg"⟩⟩, ⟨"OBJECT_CREATED", ⟨"b", "q.png"⟩⟩]
  let m : Memory := ⟨[⟨"d", "b", "p.jpg", []⟩, ⟨"e", "b", "q.png", []⟩]⟩
  let w : World (Interrupted Relational) :=
    .ofStore ⟨(Relational.upsert m.documents .empty).2, some 1, none⟩
  let w₁ := (process engine .strokes events w).2
  let v : World (Interrupted Relational) := { w₁ with store := w₁.store.mended }
  let u : World (Interrupted Relational) := { w with store := w.store.mended }
  have hstored : Relational.upsert m.documents .empty = (.ok (), w.store.store) := by
    apply Prod.ext _ rfl
    decide +kernel
  have hkeeps : Keeps w.store m := Relational.represents_empty.upsert hstored
  have hsame : Keeps u.store m := hkeeps
  have hm : Separate .strokes w.drawn m := by
    constructor
    · decide
    · decide
    · intro d hd n _
      apply Supply.ne_strokes
      revert d
      decide
  have hsteady : engine.IsSteady := by
    rintro f i j blocks blocks' ⟨⟩ ⟨⟩
    rfl
  have hdisjoint : ∀ f ∈ createdFiles events, f ∉ removedFiles events := by decide
  have hleft : ∀ m, Keeps w₁.store m → Keeps v.store m := fun _ h => h
  have hfirst : (process engine .strokes events w).1.map (Except.mapError ProcessError.code)
      = some (.error "UPSERT_FAILED") := by
    decide +kernel
  have hagain : (process engine .strokes events v).1.map (Except.mapError ProcessError.code)
      = some (.ok ⟨2, 1, 0⟩) := by
    decide +kernel
  have honce : (process engine .strokes events u).1.map (Except.mapError ProcessError.code)
      = some (.ok ⟨2, 1, 0⟩) := by
    decide +kernel
  obtain ⟨e, hfirst, hcode⟩ := exists_eq_error_of_mapError_eq_error hfirst
  have hfirst : process engine .strokes events w = (_, w₁) := Prod.ext hfirst rfl
  have hagain : process engine .strokes events v = (_, _) :=
    Prod.ext (eq_ok_of_mapError_eq_ok hagain) rfl
  have honce : process engine .strokes events u = (_, _) :=
    Prod.ext (eq_ok_of_mapError_eq_ok honce) rfl
  obtain ⟨m₂, m', hkeeps₂, hkeeps', hforall⟩ :=
    redelivery_converges Supply.strokes_injective hsteady hdisjoint hkeeps hm hfirst hleft
      (Nat.le_refl w₁.drawn) hagain hsame (Nat.le_refl w.drawn) honce
  exact ⟨engine, events, w, w₁, _, _, e, m, m₂, m', rfl, rfl, hkeeps, rfl, hfirst, hcode, hagain,
    honce, hkeeps₂, hkeeps', hforall⟩

end

end ScanIndex
