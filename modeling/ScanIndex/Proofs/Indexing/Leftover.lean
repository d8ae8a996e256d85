import ScanIndex.Proofs.Indexing.Batch
import ScanIndex.Proofs.Store.Interruption

/-!
# What a batch leaves behind

However a batch ends, it leaves what a batch would that creates only some first ones of its files
and removes only some of the others (`process_leaves`).  This rests on stores that fail in order.
-/

namespace ScanIndex

variable {engine : Engine} {ids : Supply} {m : Memory} {fs removed : List File} {ds : List Document}
variable {c n k : Nat}

/-- The first ones of some documents are recognised from the first ones of their files. -/
theorem Recognised.take (h : Recognised engine ids c n fs ds k) (i : Nat) :
  ∃ j, j ≤ k ∧ Recognised engine ids c n (fs.take i) (ds.take i) j
  := by
  induction h generalizing i with
  | nil c n =>
    rw [List.take_nil, List.take_nil]
    use n, Nat.le_refl n, .nil c n
  | @cons c n k f fs ds blocks hblocks h ih =>
    cases i with
    | zero =>
      have hle := (Recognised.cons hblocks h).le_drawn
      use n, hle, .nil c n
    | succ i =>
      obtain ⟨j, hj, hds⟩ := ih i
      use j, hj
      apply Recognised.cons hblocks hds

/-- Removing documents under some identifiers that were looked up is removing those that were stored
before of some of the removed files. -/
theorem Separate.exists_delete_upsert (hm : Separate ids n m)
    (h : Recognised engine ids c n fs ds k) {gone : List String}
    (hgone : ∀ id ∈ gone, ∃ d ∈ m.documents, d.file ∈ removed ∧ d.id = id) :
  ∃ files, (∀ f ∈ files, f ∈ removed) ∧ (m.upsert ds).delete gone = m.afterBatch ds files
  := by
  use (m.documents.filter fun d => d.id ∈ gone).map Document.file
  have hfiles (f : File) : f ∈ (m.documents.filter fun d => d.id ∈ gone).map Document.file
      ↔ ∃ d ∈ m.documents, d.id ∈ gone ∧ d.file = f := by
    simp only [List.mem_map, List.mem_filter, decide_eq_true_eq, and_assoc]
  constructor
  · intro f hf
    obtain ⟨d, hd, hid, rfl⟩ := (hfiles f).1 hf
    obtain ⟨e, he, hremoved, heid⟩ := hgone d.id hid
    obtain rfl := List.inj_on_of_nodup_map hm.documents he hd heid
    apply hremoved
  · apply hm.delete_upsert h
    intro id
    constructor
    · intro hid
      obtain ⟨d, hd, -, rfl⟩ := hgone id hid
      use d, hd
      apply And.intro ((hfiles d.file).2 ⟨d, hd, hid, rfl⟩) rfl
    · rintro ⟨d, hd, hfile, rfl⟩
      obtain ⟨e, he, hid, hed⟩ := (hfiles d.file).1 hfile
      obtain rfl := List.inj_on_of_nodup_map hm.files he hd hed
      apply hid

/-! ### Stages that stop -/

section

variable {σ : Type} [DocumentStore σ] [LawfulStore σ] {w w' : World σ} {doomed : List String}

/-- A method that succeeds leaves the documents that `leaves` says for its items, and one that fails
those for some first ones of them. -/
structure Write.Leaves {α : Type} (p : Write σ α) (leaves : List α → Memory → Memory) : Prop where
  ok {xs : List α} {s s' : σ} {m : Memory} :
    GetsThrough p.run xs s s' → Keeps s m → Keeps s' (leaves xs m)
  error {xs : List α} {s s' : σ} {m : Memory} {e : StoreError} :
    Keeps s m → p.run xs s = (.error e, s') → ∃ n, Keeps s' (leaves (xs.take n) m)

/-- Whether it fails or not, a write leaves what a write of some first items does. -/
theorem World.keeps_write {α : Type} {p : Write σ α} {leaves : List α → Memory → Memory}
    {xs : List α} {r : Except StoreError Unit} (hp : p.Leaves leaves) (hkeeps : Keeps w.store m)
    (h : w.write p xs = (r, w')) :
  (∃ n, Keeps w'.store (leaves (xs.take n) m)) ∧ w'.drawn = w.drawn
  := by
  cases r with
  | ok u =>
    obtain ⟨hs, hdrawn, -⟩ := World.getsThrough_write h
    refine ⟨⟨xs.length, ?_⟩, hdrawn⟩
    rw [List.take_length]
    apply hp.ok hs hkeeps
  | error e =>
    obtain ⟨hs, hdrawn, -⟩ := World.write_eq_error h
    use hp.error hkeeps hs, hdrawn

variable [FailsInOrder σ]

theorem Write.leaves_upsert :
  (Write.upsert : Write σ Document).Leaves Memory.upsert
  := ⟨GetsThrough.keeps_upsert, FailsInOrder.upsert⟩

theorem Write.leaves_delete :
  (Write.delete : Write σ String).Leaves Memory.delete
  := ⟨GetsThrough.keeps_delete, FailsInOrder.delete⟩

/-- Some first documents are stored, and then documents are removed under some first identifiers. -/
theorem commit_leaves {r : Except ProcessError Unit} (hkeeps : Keeps w.store m)
    (h : commit ds doomed w = (r, w')) :
  (∃ i j, Keeps w'.store ((m.upsert (ds.take i)).delete (doomed.take j))) ∧ w'.drawn = w.drawn
  := by
  rcases commit_cases h with ⟨e, hw', -⟩ | ⟨v, q, hv, hw', -⟩
  · obtain ⟨⟨i, hleft⟩, hdrawn⟩ := World.keeps_write Write.leaves_upsert hkeeps hw'
    refine ⟨⟨i, 0, ?_⟩, hdrawn⟩
    rw [List.take_zero, Memory.delete_nil]
    apply hleft
  · obtain ⟨⟨i, hfirst⟩, hdrawn⟩ := World.keeps_write Write.leaves_upsert hkeeps hv
    obtain ⟨⟨j, hleft⟩, hdrawn'⟩ := World.keeps_write Write.leaves_delete hfirst hw'
    apply And.intro ⟨i, j, hleft⟩ (hdrawn'.trans hdrawn)

/-- Some first documents are stored, and then documents of removed files are removed that were
stored before. -/
theorem apply_leaves {plan : Plan} {r : Except ProcessError Report} (hkeeps : Keeps w.store m)
    (h : apply ds plan w = (r, w')) :
  ∃ i gone, (∀ id ∈ gone, ∃ d ∈ m.documents, d.file ∈ plan.deletes.files ∧ d.id = id)
    ∧ Keeps w'.store ((m.upsert (ds.take i)).delete gone) ∧ w'.drawn = w.drawn
  := by
  rcases apply_cases h with ⟨e, hresolve, -⟩ | ⟨found, v, q, hresolve, hcommit, -⟩
  · obtain ⟨hstore, hdrawn, -⟩ := resolve_cases hresolve
    use 0, []
    refine ⟨by simp, ?_, hdrawn⟩
    rw [List.take_zero, Memory.delete_nil, hstore]
    apply hkeeps
  · obtain ⟨hstore, hdrawn, -⟩ := resolve_cases hresolve
    obtain ⟨rfl, -⟩ := resolve_eq_ok hkeeps hresolve
    obtain ⟨⟨i, j, hleft⟩, hdrawn'⟩ := commit_leaves (hstore ▸ hkeeps) hcommit
    refine ⟨i, _, ?_, hleft, hdrawn'.trans hdrawn⟩
    intro id hid
    have hfound := List.mem_of_mem_take hid
    rw [mem_ascending, mem_found_iff] at hfound
    apply hfound

/-- However a batch ends, it leaves what a batch would that creates only some first ones of its
files and removes only some of the others. -/
theorem process_leaves {events : List ChangeEvent} {r : Attempt Report} (hkeeps : Keeps w.store m)
    (hm : Separate ids w.drawn m) (h : process engine ids events w = (r, w')) :
  ∃ first rest ds k files, createdFiles events = first ++ rest
    ∧ Recognised engine ids w.detected.length w.drawn first ds k ∧ k ≤ w'.drawn
    ∧ (∀ f ∈ files, f ∈ removedFiles events) ∧ Keeps w'.store (m.afterBatch ds files)
  := by
  have hnothing (hstore : w'.store = w.store) (hdrawn : w.drawn ≤ w'.drawn) :
      ∃ first rest ds k files, createdFiles events = first ++ rest
        ∧ Recognised engine ids w.detected.length w.drawn first ds k ∧ k ≤ w'.drawn
        ∧ (∀ f ∈ files, f ∈ removedFiles events) ∧ Keeps w'.store (m.afterBatch ds files) := by
    use [], createdFiles events, [], w.drawn, [], rfl, .nil _ _, hdrawn, by simp
    rw [Memory.afterBatch_nil, hstore]
    apply hkeeps
  rcases process_cases h with
    ⟨name, -, rfl⟩ | ⟨-, hstore, hdrawn⟩ | ⟨plan, ds, v, s, hroute, hrecognise, happly, -⟩
  · apply hnothing rfl (Nat.le_refl _)
  · apply hnothing hstore hdrawn
  · obtain ⟨hds, hstore, -⟩ := recognise_eq_ok hrecognise
    obtain ⟨i, gone, hgone, hleft, hdrawn⟩ := apply_leaves (hstore ▸ hkeeps) happly
    obtain ⟨k, hk, hfirst⟩ := hds.take i
    simp only [mem_files_deletes_of_route hroute] at hgone
    obtain ⟨files, hfiles, hafter⟩ := hm.exists_delete_upsert hfirst hgone
    rw [upserts_of_route hroute] at hfirst
    rw [hafter] at hleft
    use (createdFiles events).take i, (createdFiles events).drop i, ds.take i, k, files
    rw [List.take_append_drop, hdrawn]
    use rfl, hfirst, hk, hfiles, hleft

end

end ScanIndex
