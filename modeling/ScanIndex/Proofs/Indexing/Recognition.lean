import Mathlib.Logic.Function.Basic
import Mathlib.Tactic.Use
import ScanIndex.Indexing.Process

/-!
# Recognised documents

The engine is called once for each file, in order, up to the first one that it fails for
(`recognise_inv`), and each document is made from the blocks of its call (`Recognised`).  The
identifiers of the documents are drawn one after the other and differ from each other and from those
drawn before (`Recognised.id_eq`, `Recognised.nodup_ids`).
-/

namespace ScanIndex

variable {engine : Engine} {ids : Supply} {fs : List File} {ds : List Document} {c n k : Nat}

/-- The documents of files that are recognised from a call and a place in the supply of identifiers
on, and the place behind the last identifier that is drawn. -/
inductive Recognised (engine : Engine) (ids : Supply) :
    (call drawn : Nat) → List File → List Document → Nat → Prop
  | nil (c n : Nat) : Recognised engine ids c n [] [] n
  | cons {c n k : Nat} {f : File} {fs : List File} {ds : List Document} {blocks : List Block}
      (hblocks : engine c f = some (.ok blocks))
      (h : Recognised engine ids (c + 1) (Document.ofBlocks ids n f blocks).2 fs ds k) :
      Recognised engine ids c n (f :: fs) ((Document.ofBlocks ids n f blocks).1 :: ds) k

/-! ### Identifiers -/

/-- The supply that counts in strokes. -/
def Supply.strokes : Supply := fun n => String.ofList (List.replicate n 'i')

/-- Strokes never repeat. -/
theorem Supply.strokes_injective :
  Function.Injective strokes
  := by
  intro i j h
  simpa [strokes] using congrArg String.length h

/-- An identifier with any other letter is none of the strokes. -/
theorem Supply.ne_strokes {id : String} (h : id.toList.all (· = 'i') = false) (n : Nat) :
  id ≠ strokes n
  := by
  rintro rfl
  simp [strokes] at h

theorem le_snd_pagesOfBlocks (ids : Supply) (blocks : List Block) (n : Nat) (ps : List Block) :
  n ≤ (pagesOfBlocks ids blocks n ps).2
  := by
  induction ps generalizing n with
  | nil => apply Nat.le_refl n
  | cons p ps ih =>
    have := ih (n + 1 + 2 * (p.childLines blocks).length)
    simp only [pagesOfBlocks]
    omega

@[simp] theorem Document.file_ofBlocks (ids : Supply) (n : Nat) (f : File) (blocks : List Block) :
  (Document.ofBlocks ids n f blocks).1.file = f
  := rfl

/-- The identifier of a document is the last one that is drawn for it. -/
theorem Document.exists_id_ofBlocks (ids : Supply) (n : Nat) (f : File) (blocks : List Block) :
  ∃ i, n ≤ i ∧ (Document.ofBlocks ids n f blocks).1.id = ids i
    ∧ (Document.ofBlocks ids n f blocks).2 = i + 1
  := ⟨_, le_snd_pagesOfBlocks ids blocks n _, rfl, rfl⟩

namespace Recognised

theorem map_file (h : Recognised engine ids c n fs ds k) :
  ds.map Document.file = fs
  := by
  induction h with
  | nil => rfl
  | cons hblocks h ih => rw [List.map_cons, ih, Document.file_ofBlocks]

theorem le_drawn (h : Recognised engine ids c n fs ds k) :
  n ≤ k
  := by
  induction h with
  | nil => apply Nat.le_refl _
  | @cons c n k f fs ds blocks hblocks h ih =>
    obtain ⟨i, hi, -, hdrawn⟩ := Document.exists_id_ofBlocks ids n f blocks
    omega

/-- The identifier of a document is one of those that are drawn. -/
theorem id_eq (h : Recognised engine ids c n fs ds k) {d : Document} (hd : d ∈ ds) :
  ∃ i, n ≤ i ∧ i < k ∧ d.id = ids i
  := by
  induction h with
  | nil => cases hd
  | @cons c n k f fs ds blocks hblocks h ih =>
    obtain ⟨i, hi, hid, hdrawn⟩ := Document.exists_id_ofBlocks ids n f blocks
    have hk := h.le_drawn
    rcases List.mem_cons.1 hd with rfl | hd
    · exact ⟨i, hi, by omega, hid⟩
    · obtain ⟨j, hj, hjk, hjid⟩ := ih hd
      exact ⟨j, by omega, hjk, hjid⟩

theorem nodup_ids (h : Recognised engine ids c n fs ds k) (hids : Function.Injective ids) :
  (ds.map Document.id).Nodup
  := by
  induction h with
  | nil => apply List.nodup_nil
  | @cons c n k f fs ds blocks hblocks h ih =>
    obtain ⟨i, hi, hid, hdrawn⟩ := Document.exists_id_ofBlocks ids n f blocks
    rw [List.map_cons, List.nodup_cons]
    refine ⟨?_, ih⟩
    intro hmem
    obtain ⟨d, hd, hdid⟩ := List.mem_map.1 hmem
    obtain ⟨j, hj, -, hjid⟩ := h.id_eq hd
    have := hids (hid.symm.trans (hdid.symm.trans hjid))
    omega

/-- A document is made from the blocks of the call for its file. -/
theorem exists_blocks (h : Recognised engine ids c n fs ds k) {pre post : List Document}
    {d : Document} (hds : ds = pre ++ d :: post) :
  ∃ blocks i, engine (c + pre.length) d.file = some (.ok blocks)
    ∧ d = (Document.ofBlocks ids i d.file blocks).1
  := by
  induction h generalizing pre with
  | nil => exact absurd hds.symm (by simp)
  | @cons c n k f fs ds blocks hblocks h ih =>
    cases pre with
    | nil =>
      obtain ⟨rfl, -⟩ := List.cons.inj hds
      exact ⟨blocks, n, hblocks, rfl⟩
    | cons x pre =>
      obtain ⟨-, hds⟩ := List.cons.inj hds
      obtain ⟨blocks, i, hblocks, hd⟩ := ih hds
      refine ⟨blocks, i, ?_, hd⟩
      rw [List.length_cons, ← Nat.add_assoc, Nat.add_right_comm]
      exact hblocks

end Recognised

/-! ### Calls -/

variable {σ : Type}

theorem World.detected_log_detect (w : World σ) (f : File) :
  (w.log (.detect f)).detected = w.detected ++ [f]
  := by
  simp [World.detected, World.log]

/-- The engine is called once for each file, in order, up to the first one for which it does not
answer, or answers with an error.  The files before that one are recognised, and the store is not
touched. -/
theorem recognise_inv {r : Attempt (List Document)} {w w' : World σ}
    (h : recognise engine ids fs w = (r, w')) :
  ∃ pre post ds, fs = pre ++ post
    ∧ Recognised engine ids w.detected.length w.drawn pre ds w'.drawn ∧ w'.store = w.store
    ∧ ((post = [] ∧ r = some (.ok ds) ∧ w'.calls = w.calls ++ pre.map .detect)
      ∨ ∃ f rest, post = f :: rest ∧ w'.calls = w.calls ++ (pre ++ [f]).map .detect
        ∧ ((engine (w.detected.length + pre.length) f = none ∧ r = none)
          ∨ ∃ e, engine (w.detected.length + pre.length) f = some (.error e)
            ∧ r = some (.error (.parseFailed f e))))
  := by
  induction fs generalizing w w' r with
  | nil =>
    cases h
    exact ⟨[], [], [], rfl, .nil _ _, rfl, .inl ⟨rfl, rfl, by simp⟩⟩
  | cons f fs ih =>
    rcases hcall : engine w.detected.length f with _ | (e | blocks)
    · simp only [recognise, hcall] at h
      cases h
      exact ⟨[], f :: fs, [], rfl, .nil _ _, rfl, .inr ⟨f, fs, rfl, rfl, .inl ⟨hcall, rfl⟩⟩⟩
    · simp only [recognise, hcall] at h
      cases h
      exact ⟨[], f :: fs, [], rfl, .nil _ _, rfl, .inr ⟨f, fs, rfl, rfl, .inr ⟨e, hcall, rfl⟩⟩⟩
    · cases hrest : recognise engine ids fs { w.log (.detect f) with
          drawn := (Document.ofBlocks ids (w.log (.detect f)).drawn f blocks).2 } with
      | mk s v =>
        obtain ⟨pre, post, ds, rfl, hds, hstore, hend⟩ := ih hrest
        have hlength : (w.log (.detect f)).detected.length = w.detected.length + 1 := by
          rw [World.detected_log_detect, List.length_append, List.length_singleton]
        change Recognised engine ids (w.log (.detect f)).detected.length _ pre ds _ at hds
        rw [hlength] at hds
        simp only [recognise, hcall, hrest] at h
        rcases hend with ⟨rfl, rfl, hcalls⟩ | ⟨g, rest, rfl, hcalls, hstop⟩
        · cases h
          refine ⟨f :: pre, [], _, rfl, .cons hcall hds, hstore, .inl ⟨rfl, rfl, ?_⟩⟩
          rw [hcalls]
          simp [World.log]
        · have hcalls' : v.calls = w.calls ++ (f :: pre ++ [g]).map .detect := by
            rw [hcalls]
            simp [World.log]
          change (engine ((w.log (.detect f)).detected.length + pre.length) g = none ∧ _)
            ∨ (∃ e, engine ((w.log (.detect f)).detected.length + pre.length) g = _ ∧ _) at hstop
          rw [hlength, Nat.add_right_comm, Nat.add_assoc, ← List.length_cons (a := f)] at hstop
          rcases hstop with ⟨hg, rfl⟩ | ⟨e, hg, rfl⟩
          all_goals
            cases h
            refine ⟨f :: pre, g :: rest, _, rfl, .cons hcall hds, hstore,
              .inr ⟨g, rest, rfl, hcalls', ?_⟩⟩
          · apply Or.inl ⟨hg, rfl⟩
          · apply Or.inr ⟨e, hg, rfl⟩

/-- When all files are recognised, the engine has been called once for each of them, in order, and
the store has not been touched. -/
theorem recognise_eq_ok {w w' : World σ} (h : recognise engine ids fs w = (some (.ok ds), w')) :
  Recognised engine ids w.detected.length w.drawn fs ds w'.drawn ∧ w'.store = w.store
    ∧ w'.calls = w.calls ++ fs.map .detect
  := by
  obtain ⟨pre, post, ds', rfl, hds, hstore,
    ⟨rfl, hr, hcalls⟩ | ⟨f, rest, -, -, ⟨-, hr⟩ | ⟨e, -, hr⟩⟩⟩ := recognise_inv h
  · cases hr
    rw [List.append_nil]
    exact ⟨hds, hstore, hcalls⟩
  · cases hr
  · cases hr

/-- When a batch fails while its files are recognised, the engine has returned an error for one of
them, and has been called once for each one up to it, in order. -/
theorem recognise_eq_error {e : ProcessError} {w w' : World σ}
    (h : recognise engine ids fs w = (some (.error e), w')) :
  ∃ pre f post ds x, fs = pre ++ f :: post ∧ e = .parseFailed f x
    ∧ Recognised engine ids w.detected.length w.drawn pre ds w'.drawn
    ∧ engine (w.detected.length + pre.length) f = some (.error x) ∧ w'.store = w.store
    ∧ w'.calls = w.calls ++ (pre ++ [f]).map .detect
  := by
  obtain ⟨pre, post, ds, rfl, hds, hstore,
    ⟨-, hr, -⟩ | ⟨f, rest, rfl, hcalls, ⟨-, hr⟩ | ⟨x, hx, hr⟩⟩⟩ := recognise_inv h
  · cases hr
  · cases hr
  · cases hr
    exact ⟨pre, f, rest, ds, x, rfl, rfl, hds, hx, hstore, hcalls⟩

end ScanIndex
