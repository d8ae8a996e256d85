import ScanIndex.Proofs.Indexing.Batch
import ScanIndex.Proofs.Indexing.Drawing
import ScanIndex.Proofs.Outcome

/-!
# Batches never break a rule of the tables

The tables that batches are written to represent documents whose identifiers have been drawn
(`Written`), and go on doing so however a batch ends (`Written.process`).  Then the documents of the
next batch are accepted and its look-ups are small enough, so only the batch itself or the engine
can be at fault when it fails (`error_of_mem_outcomes`).
-/

namespace ScanIndex

open Sql

/-! ### Work that goes through -/

/-- The query for some files of a bucket can be run if it does not ask for too many of them. -/
theorem Query.fits_ofFiles {bucket : String} {keys : List String} (h : keys.length < maxBinds) :
  (Query.ofFiles bucket keys).Fits .keys
  := by
  constructor
  · rw [Query.length_binds_ofFiles]
    exact h
  · cases keys <;> rfl

/-- Look-ups can be run if none of them may ask for too many files. -/
theorem fits_of_mem_lookUps {size : Nat} (hsize : 0 < size) (hbound : size < maxBinds) {g : Buckets}
    {q : String × Query} (h : q ∈ lookUps size g) :
  q.2.Fits .keys
  := by
  obtain ⟨keys, hlength, hq⟩ := exists_keys_of_mem_lookUps hsize h
  rw [hq]
  apply Query.fits_ofFiles (Nat.lt_of_le_of_lt hlength hbound)

namespace Relational

variable {s : Relational} {m : Memory} {w : World Relational} {ds : List Document}
variable {doomed : List String}

theorem Represents.upsert_of_acceptsAll (h : s.Represents m) (haccepts : m.AcceptsAll ds) :
  ∃ s', Relational.upsert ds s = (.ok (), s') ∧ s'.Represents (m.upsert ds)
  := by
  rcases h.upsert_cases ds with ⟨-, hok, hrep⟩ | ⟨i, d, e, hd, -, hrefuses, -, -⟩
  · exact ⟨_, hok, hrep⟩
  · exact absurd hrefuses (haccepts i d hd)

/-- Accepted documents are stored, and any documents are removed. -/
theorem Represents.commit_eq_ok (h : w.store.Represents m) (haccepts : m.AcceptsAll ds) :
  ∃ w', commit ds doomed w = (.ok (), w')
  := by
  obtain ⟨s, hs, -⟩ := h.upsert_of_acceptsAll haccepts
  have hstored : ∃ v, w.write .upsert ds = (.ok (), v) := World.exists_write_eq_ok hs
  obtain ⟨v, hv⟩ := hstored
  have hrep : v.store.Represents (m.upsert ds) := (World.getsThrough_write hv).1.keeps_upsert h
  obtain ⟨t, ht, -⟩ := hrep.delete doomed
  have hremoved : ∃ x, v.write .delete doomed = (.ok (), x) := World.exists_write_eq_ok ht
  obtain ⟨x, hx⟩ := hremoved
  exact ⟨x, commit_of_writes hv hx⟩

/-- A plan whose documents are accepted is applied without a failure. -/
theorem Represents.apply_eq_ok (h : w.store.Represents m) (haccepts : m.AcceptsAll ds)
    (plan : Plan) :
  ∃ report w', apply ds plan w = (.ok report, w')
  := by
  have hkeys : ∀ q ∈ resolveQueries plan.deletes, ∃ ids,
      DocumentStore.keys q.2 w.store = .ok ids := by
    intro q hq
    use (m.select q.2).map Document.id
    rw [← lookUps_resolveChunk] at hq
    change Relational.keys q.2 w.store = _
    rw [h.keys_eq, if_pos (fits_of_mem_lookUps (by decide) (by decide) hq)]
  obtain ⟨found, v, hresolve⟩ := exists_resolve_eq_ok hkeys
  obtain ⟨hstore, -⟩ := resolve_cases hresolve
  have hrep : v.store.Represents m := hstore ▸ h
  have hcommit : ∃ w', commit ds (ascending found) v = (.ok (), w') := hrep.commit_eq_ok haccepts
  obtain ⟨w', hcommit⟩ := hcommit
  rw [apply, hresolve]
  simp only [hcommit]
  exact ⟨_, w', rfl⟩

end Relational

/-! ### The invariant of batches -/

/-- The tables represent the documents, all of whose identifiers have been drawn. -/
structure Written (ids : Supply) (w : World Relational) (m : Memory) : Prop where
  represents : w.store.Represents m
  drawn : m.DrawnBefore ids w.drawn

variable {engine : Engine} {ids : Supply} {w w' : World Relational} {m : Memory}

/-- However a batch ends, all identifiers in the tables have been drawn again.  If it fails, then
because of an event of an unknown name or of a file that is not recognised. -/
theorem Written.process (h : Written ids w m) (hids : Function.Injective ids)
    {events : List ChangeEvent} {r : Attempt Report}
    (hprocess : process engine ids events w = (r, w')) :
  (∃ m', Written ids w' m')
    ∧ ∀ e, r = some (.error e) →
        (∃ name, e = .event (.unsupported name)) ∨ ∃ f x, e = .parseFailed f x
  := by
  rcases process_cases hprocess with
    ⟨name, rfl, rfl⟩ | ⟨hr, hstore, hdrawn⟩ | ⟨plan, ds, v, s, -, hrecognise, happly, rfl⟩
  · refine ⟨⟨m, h⟩, ?_⟩
    rintro e ⟨⟩
    exact .inl ⟨name, rfl⟩
  · refine ⟨⟨m, hstore ▸ h.represents, h.drawn.weaken hdrawn⟩, ?_⟩
    rintro e rfl
    rcases hr with hr | ⟨f, x, hr⟩
    · cases hr
    · cases hr
      exact .inr ⟨f, x, rfl⟩
  · obtain ⟨hds, hstore, -⟩ := recognise_eq_ok hrecognise
    obtain ⟨haccepts, hafter⟩ := hds.acceptsAll hids h.drawn
    have hrep : v.store.Represents m := hstore ▸ h.represents
    obtain ⟨report, x, hok⟩ := hrep.apply_eq_ok haccepts plan
    obtain ⟨rfl, rfl⟩ := Prod.mk.inj (happly.symm.trans hok)
    obtain ⟨doomed, -, -, hreaches, -⟩ := apply_eq_ok hok hrep
    refine ⟨⟨(m.upsert ds).delete doomed, hreaches.keeps, ?_⟩, by simp⟩
    rw [hreaches.drawn]
    apply hafter.sublist List.filter_sublist

/-- The outcomes of batches that are processed one after the other, whatever comes of
those before. -/
def outcomes {σ : Type} [DocumentStore σ] (engine : Engine) (ids : Supply) :
    List (List ChangeEvent) → World σ → List (Attempt Report)
  | [], _ => []
  | events :: batches, w =>
    let (r, w) := process engine ids events w
    r :: outcomes engine ids batches w

/-- In a run of batches, only events of unknown names and files that are not recognised make a batch
fail. -/
theorem Written.fault_of_mem_outcomes (h : Written ids w m) (hids : Function.Injective ids)
    {batches : List (List ChangeEvent)} {e : ProcessError}
    (he : some (.error e) ∈ outcomes engine ids batches w) :
  (∃ name, e = .event (.unsupported name)) ∨ ∃ f x, e = .parseFailed f x
  := by
  induction batches generalizing w m with
  | nil => cases he
  | cons events batches ih =>
    cases hprocess : ScanIndex.process engine ids events w with
    | mk r v =>
      obtain ⟨⟨m', hm'⟩, hr⟩ := h.process hids hprocess
      rw [outcomes, hprocess] at he
      rcases List.mem_cons.1 he with he | he
      · exact hr e he.symm
      · exact ih hm' he

/-- Batches that start from empty tables never break a rule of the tables, whatever the engine
returns.  Only events of unknown names and files that are not recognised make a batch fail. -/
theorem error_of_mem_outcomes (engine : Engine) {ids : Supply} (hids : Function.Injective ids)
    (batches : List (List ChangeEvent)) {e : ProcessError}
    (he : some (.error e) ∈ outcomes engine ids batches (.ofStore Relational.empty)) :
  (∃ name, e = .event (.unsupported name)) ∨ ∃ f x, e = .parseFailed f x
  := by
  have hwritten : Written ids (.ofStore Relational.empty) .empty := by
    refine ⟨Relational.represents_empty, ?_⟩
    intro d hd
    cases hd
  exact hwritten.fault_of_mem_outcomes hids he

/-- One batch creates a file twice, the blocks of which refer to one line again and again, with a
box that is no box, and another one removes it; between them, a batch has an event of an unknown
name, and one a file that is refused. -/
theorem error_of_mem_outcomes_malformed :
  ∃ (engine : Engine) (batches : List (List ChangeEvent)) (e : ProcessError),
    engine 0 ⟨"b", "p.jpg"⟩ = some (.ok [⟨"", .page, some 0, none, none, ["l", "l", "?"]⟩,
        ⟨"", .page, none, none, none, ["l"]⟩,
        ⟨"l", .line, none, none, some ⟨0 / 0, -1, 2, 1 / 0⟩, []⟩])
      ∧ batches = [
          [⟨"OBJECT_CREATED", ⟨"b", "p.jpg"⟩⟩, ⟨"OBJECT_CREATED", ⟨"b", "p.jpg"⟩⟩],
          [⟨"OBJECT_MOVED", ⟨"b", "p.jpg"⟩⟩],
          [⟨"OBJECT_CREATED", ⟨"b", "q.png"⟩⟩],
          [⟨"OBJECT_REMOVED", ⟨"b", "p.jpg"⟩⟩, ⟨"OBJECT_CREATED", ⟨"b", "p.jpg"⟩⟩]]
      ∧ some (.error e) ∈ outcomes engine .strokes batches (.ofStore Relational.empty)
      ∧ ((∃ name, e = .event (.unsupported name)) ∨ ∃ f x, e = .parseFailed f x)
  := by
  let engine : Engine := fun _ f =>
    if f.key = "p.jpg" then
      some (.ok [⟨"", .page, some 0, none, none, ["l", "l", "?"]⟩,
        ⟨"", .page, none, none, none, ["l"]⟩,
        ⟨"l", .line, none, none, some ⟨0 / 0, -1, 2, 1 / 0⟩, []⟩])
    else some (.error (.rejected "detect" none))
  let batches : List (List ChangeEvent) := [
    [⟨"OBJECT_CREATED", ⟨"b", "p.jpg"⟩⟩, ⟨"OBJECT_CREATED", ⟨"b", "p.jpg"⟩⟩],
    [⟨"OBJECT_MOVED", ⟨"b", "p.jpg"⟩⟩],
    [⟨"OBJECT_CREATED", ⟨"b", "q.png"⟩⟩],
    [⟨"OBJECT_REMOVED", ⟨"b", "p.jpg"⟩⟩, ⟨"OBJECT_CREATED", ⟨"b", "p.jpg"⟩⟩]]
  have hmem : some (.error "PARSE_FAILED")
      ∈ (outcomes engine .strokes batches (.ofStore Relational.empty)).map
        fun r => r.map (Except.mapError ProcessError.code) := by
    decide +kernel
  obtain ⟨r, hr, hcode⟩ := List.mem_map.1 hmem
  obtain ⟨e, rfl, -⟩ := exists_eq_error_of_mapError_eq_error hcode
  use engine, batches, e, rfl, rfl, hr
  apply error_of_mem_outcomes engine Supply.strokes_injective batches hr

end ScanIndex
