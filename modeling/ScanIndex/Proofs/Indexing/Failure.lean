import ScanIndex.Proofs.Indexing.Stages
import ScanIndex.Proofs.Store.Interruption

/-!
# Batches that fail

A batch that fails has made the calls of the stages before the one that failed, and no others.
Nothing is written before all files are recognised and all look-ups are answered, and nothing is
removed before all documents are stored (`process_stops`).
-/

namespace ScanIndex

variable {σ : Type} [DocumentStore σ] {engine : Engine} {ids : Supply} {w w' : World σ}

/-- Every one of the identifiers was found by a look-up for the removed files of a batch. -/
def LookedUp (events : List ChangeEvent) (s : σ) (found : List String) : Prop :=
  ∃ plan, route events = .ok plan ∧ ∀ id ∈ found, ∃ q ∈ resolveQueries plan.deletes,
    ∃ answer, DocumentStore.keys q.2 s = .ok answer ∧ id ∈ answer

/-- What has been done by a batch that fails, for each of the errors that it can fail with.  For an
event that is not supported, no call has been made.  For a file that is not recognised, the engine
has been called for the created files up to this one.  For a look-up, the store has only been asked
for identifiers, and has failed to answer for removed files.  When storing fails, the first ones of
the documents of the batch have been stored.  When removing fails, all of them have, and the first
ones of the documents that were looked up are removed. -/
def StopsAt [LawfulStore σ] (engine : Engine) (ids : Supply) (events : List ChangeEvent)
    (w w' : World σ) : ProcessError → Prop
  | .event _ => w' = w
  | .parseFailed f x => ∃ pre post ds, createdFiles events = pre ++ f :: post
      ∧ Recognised engine ids w.detected.length w.drawn pre ds w'.drawn
      ∧ engine (w.detected.length + pre.length) f = some (.error x)
      ∧ w'.store = w.store ∧ w'.calls = w.calls ++ (pre ++ [f]).map .detect
  | .resolveFailed bucket x => ∃ plan query, ∃ queries : List Query, route events = .ok plan
      ∧ (bucket, query) ∈ resolveQueries plan.deletes ∧ DocumentStore.keys query w.store = .error x
      ∧ w'.store = w.store
      ∧ w'.calls = w.calls ++ ((createdFiles events).map .detect ++ queries.map .keys)
  | .upsertFailed x => ∃ ds n, ∃ queries : List Query,
      Recognised engine ids w.detected.length w.drawn (createdFiles events) ds w'.drawn
      ∧ DocumentStore.upsert ds w.store = (.error x, w'.store)
      ∧ GetsThrough DocumentStore.upsert (ds.take n) w.store w'.store
      ∧ (∀ m, Keeps w.store m → Keeps w'.store (m.upsert (ds.take n)))
      ∧ w'.calls
        = w.calls ++ ((createdFiles events).map .detect ++ queries.map .keys ++ [.upsert ds])
  | .deleteFailed x => ∃ ds s doomed n, ∃ queries : List Query,
      Recognised engine ids w.detected.length w.drawn (createdFiles events) ds w'.drawn
      ∧ GetsThrough DocumentStore.upsert ds w.store s
      ∧ LookedUp events w.store doomed ∧ DocumentStore.delete doomed s = (.error x, w'.store)
      ∧ GetsThrough DocumentStore.delete (doomed.take n) s w'.store
      ∧ (∀ m, Keeps w.store m → Keeps w'.store ((m.upsert ds).delete (doomed.take n))
        ∧ ∀ id ∈ doomed, ∃ d ∈ m.documents, d.file ∈ removedFiles events ∧ d.id = id)
      ∧ w'.calls = w.calls ++ ((createdFiles events).map .detect ++ queries.map .keys
        ++ (if ds.isEmpty then [] else [.upsert ds]) ++ [.delete doomed])

section

variable {ds : List Document} {doomed : List String}

/-- Either storing has failed, after the first ones of the documents were stored, or all have been
stored and removing has failed, after the first ones of the others were removed. -/
theorem commit_eq_error [StopsInOrder σ] {e : ProcessError}
    (h : commit ds doomed w = (.error e, w')) :
  w'.drawn = w.drawn
    ∧ ((∃ x n, e = .upsertFailed x ∧ DocumentStore.upsert ds w.store = (.error x, w'.store)
        ∧ GetsThrough DocumentStore.upsert (ds.take n) w.store w'.store
        ∧ w'.calls = w.calls ++ [.upsert ds])
      ∨ ∃ x s n, e = .deleteFailed x ∧ GetsThrough DocumentStore.upsert ds w.store s
        ∧ DocumentStore.delete doomed s = (.error x, w'.store)
        ∧ GetsThrough DocumentStore.delete (doomed.take n) s w'.store
        ∧ w'.calls = w.calls ++ (if ds.isEmpty then [] else [.upsert ds]) ++ [.delete doomed])
  := by
  rcases commit_cases h with ⟨x, hx, he⟩ | ⟨v, r, hv, hr, he⟩
  · cases he
    obtain ⟨hs, hdrawn, hcalls⟩ := World.write_eq_error hx
    obtain ⟨n, hn⟩ := StopsInOrder.upsert _ _ _ _ hs
    exact ⟨hdrawn, .inl ⟨x, n, rfl, hs, hn, hcalls⟩⟩
  · obtain ⟨hstored, hdrawn, -⟩ := World.getsThrough_write hv
    cases r with
    | ok u => cases he
    | error x =>
      cases he
      obtain ⟨hs, hdrawn', hcalls⟩ := World.write_eq_error hr
      obtain ⟨n, hn⟩ := StopsInOrder.delete _ _ _ _ hs
      rw [World.calls_write hv] at hcalls
      exact ⟨hdrawn'.trans hdrawn, .inr ⟨x, v.store, n, rfl, hstored, hs, hn, hcalls⟩⟩

end

theorem exists_deleteFailed_of_matches {r : Attempt Report}
    (h : (r matches some (.error (.deleteFailed _))) = true) :
  ∃ x, r = some (.error (.deleteFailed x))
  := by
  split at h
  next x => exact ⟨x, rfl⟩
  next => cases h

variable [LawfulStore σ] [StopsInOrder σ] {events : List ChangeEvent} {e : ProcessError}

/-- A batch whose files are recognised, and that then fails, has done what its error says. -/
theorem stopsAt_of_apply_eq_error {plan : Plan} {ds : List Document} {v : World σ}
    (hroute : route events = .ok plan)
    (hds : Recognised engine ids w.detected.length w.drawn (createdFiles events) ds v.drawn)
    (hstore : v.store = w.store) (hcalls : v.calls = w.calls ++ (createdFiles events).map .detect)
    (h : apply ds plan v = (.error e, w')) :
  StopsAt engine ids events w w' e
  := by
  rcases apply_cases h with ⟨x, hresolve, he⟩ | ⟨found, u, r, hresolve, hcommit, he⟩
  · cases he
    obtain ⟨hstore', -, ⟨asked, -, hcalls'⟩, -, herror⟩ := resolve_cases hresolve
    obtain ⟨⟨bucket, query⟩, hquery, y, rfl, hy⟩ := herror _ rfl
    rw [hstore] at hy hstore'
    refine ⟨plan, query, asked.map Prod.snd, hroute, hquery, hy, hstore', ?_⟩
    rw [hcalls', hcalls, List.map_map, List.append_assoc]
    rfl
  · obtain ⟨hstore', hdrawn, ⟨asked, -, hasked⟩, hfound, -⟩ := resolve_cases hresolve
    have hlooked : LookedUp events w.store (ascending found) := by
      refine ⟨plan, hroute, ?_⟩
      intro id hid
      rw [← hstore]
      apply hfound found rfl id (mem_ascending.1 hid)
    have hkeys : u.calls
        = w.calls ++ ((createdFiles events).map .detect ++ (asked.map Prod.snd).map .keys) := by
      rw [hasked, hcalls, List.map_map, List.append_assoc]
      rfl
    cases r with
    | ok u => cases he
    | error y =>
      cases he
      obtain ⟨hdrawn', ⟨x, n, rfl, hx, hn, hcalls'⟩ | ⟨x, s, n, rfl, hs, hx, hn, hcalls'⟩⟩ :=
        commit_eq_error hcommit
      all_goals rw [← hdrawn, ← hdrawn'] at hds
      · rw [hstore', hstore] at hx hn
        refine ⟨ds, n, asked.map Prod.snd, hds, hx, hn, ?_, ?_⟩
        · intro m hkeeps
          apply hn.keeps_upsert hkeeps
        · rw [hcalls', hkeys, List.append_assoc]
      · rw [hstore', hstore] at hs
        refine ⟨ds, s, ascending found, n, asked.map Prod.snd, hds, hs, hlooked, hx, hn, ?_, ?_⟩
        · intro m hkeeps
          constructor
          · apply hn.keeps_delete (hs.keeps_upsert hkeeps)
          · intro id hid
            obtain ⟨rfl, -⟩ := resolve_eq_ok (hstore ▸ hkeeps) hresolve
            rw [mem_ascending, mem_found_iff] at hid
            simpa only [mem_files_deletes_of_route hroute] using hid
        · rw [hcalls', hkeys]
          simp only [List.append_assoc]

/-- A batch that fails has not written before its time: it has done what its error says. -/
theorem process_stops (h : process engine ids events w = (some (.error e), w')) :
  StopsAt engine ids events w w' e
  := by
  cases hroute : route events with
  | error x =>
    rw [process, hroute] at h
    cases h
    exact rfl
  | ok plan =>
    rw [process_eq_carryOut hroute, carryOut] at h
    cases hrecognise : recognise engine ids plan.upserts w with
    | mk s v =>
      rw [hrecognise] at h
      rcases s with _ | (x | ds)
      · cases h
      · cases h
        obtain ⟨pre, f, post, ds, x, hfiles, rfl, hds, hx, hstore, hcalls⟩ :=
          recognise_eq_error hrecognise
        rw [upserts_of_route hroute] at hfiles
        exact ⟨pre, post, ds, hfiles, hds, hx, hstore, hcalls⟩
      · obtain ⟨hds, hstore, hcalls⟩ := recognise_eq_ok hrecognise
        rw [upserts_of_route hroute] at hds hcalls
        cases happly : apply ds plan v with
        | mk s x =>
          simp only [happly] at h
          cases h
          apply stopsAt_of_apply_eq_error hroute hds hstore hcalls happly

/-- A file is removed and another one created, in a store that gives way before it removes
anything.  The new file is stored, and only the document of the other one may be gone. -/
theorem process_stops_before_removal :
  ∃ (events : List ChangeEvent) (w w' : World (Interrupted Relational)) (x : StoreError)
      (m : Memory) (ds : List Document) (doomed : List String),
    events = [⟨"OBJECT_REMOVED", ⟨"b", "p.jpg"⟩⟩, ⟨"OBJECT_CREATED", ⟨"b", "q.png"⟩⟩]
      ∧ m = ⟨[⟨"d", "b", "p.jpg", []⟩, ⟨"e", "b", "r.png", []⟩]⟩
      ∧ Keeps w.store m ∧ w.store.chunks = some 0
      ∧ process (fun _ _ => some (.ok [])) .strokes events w = (some (.error (.deleteFailed x)), w')
      ∧ ds.map Document.file = [⟨"b", "q.png"⟩] ∧ (∀ id ∈ doomed, id = "d")
      ∧ Keeps w'.store ((m.upsert ds).delete doomed)
  := by
  let events : List ChangeEvent :=
    [⟨"OBJECT_REMOVED", ⟨"b", "p.jpg"⟩⟩, ⟨"OBJECT_CREATED", ⟨"b", "q.png"⟩⟩]
  let m : Memory := ⟨[⟨"d", "b", "p.jpg", []⟩, ⟨"e", "b", "r.png", []⟩]⟩
  let w : World (Interrupted Relational) :=
    .ofStore ⟨(Relational.upsert m.documents .empty).2, none, some 0⟩
  have hstored : Relational.upsert m.documents .empty = (.ok (), w.store.store) := by
    apply Prod.ext _ rfl
    decide +kernel
  have hkeeps : Keeps w.store m := Relational.represents_empty.upsert hstored
  have hfails : ((process (fun _ _ => some (.ok [])) .strokes events w).1
      matches some (.error (.deleteFailed _))) = true := by
    decide +kernel
  obtain ⟨x, hx⟩ := exists_deleteFailed_of_matches hfails
  have hprocess : process (fun _ _ => some (.ok [])) .strokes events w = (_, _) := Prod.ext hx rfl
  obtain ⟨ds, s, doomed, n, queries, hds, -, -, -, -, hleft, -⟩ := process_stops hprocess
  obtain ⟨hkeeps', hdoomed⟩ := hleft m hkeeps
  refine ⟨events, w, _, x, m, ds, doomed.take n, rfl, rfl, hkeeps, rfl, hprocess, hds.map_file, ?_,
    hkeeps'⟩
  intro id hid
  obtain ⟨d, hd, hfile, rfl⟩ := hdoomed id (List.mem_of_mem_take hid)
  have hremoved : ∀ d ∈ m.documents, d.file ∈ removedFiles events → d.id = "d" := by decide
  apply hremoved d hd hfile

end ScanIndex
