import ScanIndex.Proofs.Indexing.Recognition
import ScanIndex.Proofs.Indexing.Resolution

/-!
# How a batch can end

A batch is refused, or it ends while its files are recognised, or it is applied (`process_cases`).
Up to then the store is left alone.  `applyBy` applies a plan with look-ups for any number of keys.
-/

namespace ScanIndex

/-! ### Plans -/

/-- A batch is refused only for the name of an event. -/
theorem exists_unsupported_of_route_eq_error {events : List ChangeEvent} {e : EventError}
    (h : route events = .error e) :
  ∃ name, e = .unsupported name
  := by
  rw [route] at h
  generalize Plan.empty = p at h
  induction events generalizing p with
  | nil => cases h
  | cons event events ih =>
    rw [List.foldlM_cons] at h
    cases hadd : p.add event with
    | ok q =>
      rw [hadd] at h
      exact ih q h
    | error x =>
      rw [hadd] at h
      cases h
      rw [Plan.add] at hadd
      split at hadd
      next =>
        split at hadd
        next => cases hadd
        next =>
          split at hadd
          next => cases hadd
          next =>
            cases hadd
            exact ⟨_, rfl⟩
      next => cases hadd

section

variable {events : List ChangeEvent} {plan : Plan}

theorem upserts_of_route (h : route events = .ok plan) :
  plan.upserts = createdFiles events
  := by
  rw [route_eq_ok h]
  rfl

theorem mem_files_deletes_of_route (h : route events = .ok plan) (f : File) :
  f ∈ plan.deletes.files ↔ f ∈ removedFiles events
  := by
  rw [route_eq_ok h]
  apply Buckets.mem_files_foldl_push.trans
  simp [Plan.empty]

theorem skipped_of_route (h : route events = .ok plan) :
  plan.skipped = skippedCount events
  := by
  simp [route_eq_ok h, Plan.extend, Plan.empty]

end

/-! ### Stages -/

variable {σ : Type} {engine : Engine} {ids : Supply} {w w' : World σ}

/-- While files are recognised, the store is left alone.  If not all of them are, the engine has not
answered, or it has returned an error for one of them. -/
theorem recognise_cases {fs : List File} {r : Attempt (List Document)}
    (h : recognise engine ids fs w = (r, w')) :
  w'.store = w.store ∧ w.drawn ≤ w'.drawn
    ∧ (r = none ∨ (∃ f e, r = some (.error (.parseFailed f e))) ∨ ∃ ds, r = some (.ok ds))
  := by
  obtain ⟨pre, post, ds, -, hds, hstore, hend⟩ := recognise_inv h
  refine ⟨hstore, hds.le_drawn, ?_⟩
  rcases hend with ⟨-, hr, -⟩ | ⟨f, rest, -, -, ⟨-, hr⟩ | ⟨e, -, hr⟩⟩
  · apply Or.inr (.inr ⟨ds, hr⟩)
  · apply Or.inl hr
  · apply Or.inr (.inl ⟨f, e, hr⟩)

/-- A method that writes items to a store, and the call that stands for it in the log. -/
structure Write (σ α : Type) where
  run : List α → σ → Except StoreError Unit × σ
  call : List α → Call
  call_ne_detect (xs : List α) (f : File) : call xs ≠ .detect f

/-- Write items to the store, unless there are none. -/
def World.write {α : Type} (p : Write σ α) (xs : List α) (w : World σ) :
    Except StoreError Unit × World σ :=
  if xs.isEmpty then (.ok (), w)
  else
    let (r, s) := p.run xs w.store
    (r, { w.log (p.call xs) with store := s })

section

variable {α : Type} {p : Write σ α} {xs : List α} {r : Except StoreError Unit}

/-- Either there is nothing to write, or the method is called once. -/
theorem World.write_cases (h : w.write p xs = (r, w')) :
  (xs = [] ∧ r = .ok () ∧ w' = w)
    ∨ xs ≠ [] ∧ p.run xs w.store = (r, w'.store) ∧ w'.drawn = w.drawn
      ∧ w'.detected = w.detected ∧ w'.calls = w.calls ++ [p.call xs]
  := by
  rw [write] at h
  split at h
  next hempty =>
    cases h
    exact .inl ⟨List.isEmpty_iff.1 hempty, rfl, rfl⟩
  next hempty =>
    cases h
    refine .inr ⟨fun hnil => hempty (List.isEmpty_iff.2 hnil), rfl, rfl, ?_, rfl⟩
    have hcall := p.call_ne_detect xs
    cases hxs : p.call xs
    case detect f => exact absurd hxs (hcall f)
    all_goals simp [detected, log]

theorem World.calls_write (h : w.write p xs = (r, w')) :
  w'.calls = w.calls ++ if xs.isEmpty then [] else [p.call xs]
  := by
  rcases write_cases h with ⟨rfl, -, rfl⟩ | ⟨hxs, -, -, -, hcalls⟩
  · exact (List.append_nil _).symm
  · rwa [if_neg (by simpa using hxs)]

/-- A write succeeds if its method does. -/
theorem World.exists_write_eq_ok {s : σ} (h : p.run xs w.store = (.ok (), s)) :
  ∃ v, w.write p xs = (.ok (), v)
  := by
  rw [write]
  split
  next => exact ⟨w, rfl⟩
  next =>
    rw [h]
    exact ⟨_, rfl⟩

/-- A write that fails has called its method, which has failed. -/
theorem World.write_eq_error {e : StoreError} (h : w.write p xs = (.error e, w')) :
  p.run xs w.store = (.error e, w'.store) ∧ w'.drawn = w.drawn ∧ w'.calls = w.calls ++ [p.call xs]
  := by
  rcases write_cases h with ⟨-, hr, -⟩ | ⟨-, hs, hdrawn, -, hcalls⟩
  · cases hr
  · exact ⟨hs, hdrawn, hcalls⟩

/-- A write that succeeds has got through its items. -/
theorem World.getsThrough_write (h : w.write p xs = (.ok (), w')) :
  GetsThrough p.run xs w.store w'.store ∧ w'.drawn = w.drawn ∧ w'.detected = w.detected
  := by
  rcases write_cases h with ⟨rfl, -, rfl⟩ | ⟨-, hs, hdrawn, hdetected, -⟩
  · exact ⟨.inr ⟨rfl, rfl⟩, rfl, rfl⟩
  · exact ⟨.inl hs, hdrawn, hdetected⟩

end

variable [DocumentStore σ]

/-- Documents are stored. -/
def Write.upsert : Write σ Document := ⟨DocumentStore.upsert, .upsert, nofun⟩

/-- Documents are removed by their identifiers. -/
def Write.delete : Write σ String := ⟨DocumentStore.delete, .delete, nofun⟩

/-- Look-ups are made one after the other, up to the first that the store fails to answer, and leave
the store alone.  What they find are identifiers that the store has answered with. -/
theorem resolve_cases {qs : List (String × Query)} {r : Except ProcessError (List String)}
    (h : resolve qs w = (r, w')) :
  w'.store = w.store ∧ w'.drawn = w.drawn
    ∧ (∃ asked, asked <+: qs ∧ w'.calls = w.calls ++ asked.map fun q => .keys q.2)
    ∧ (∀ found, r = .ok found → ∀ id ∈ found,
        ∃ q ∈ qs, ∃ answer, DocumentStore.keys q.2 w.store = .ok answer ∧ id ∈ answer)
    ∧ ∀ e, r = .error e →
        ∃ q ∈ qs, ∃ x, e = .resolveFailed q.1 x ∧ DocumentStore.keys q.2 w.store = .error x
  := by
  induction qs generalizing w w' r with
  | nil =>
    cases h
    exact ⟨rfl, rfl, ⟨[], List.prefix_rfl, by simp⟩, by simp, by simp⟩
  | cons q qs ih =>
    obtain ⟨bucket, q⟩ := q
    rw [resolve, World.keys] at h
    cases hq : DocumentStore.keys q w.store with
    | error x =>
      rw [hq] at h
      cases h
      refine ⟨rfl, rfl, ⟨[(bucket, q)], by simp, rfl⟩, by simp, ?_⟩
      rintro e ⟨⟩
      exact ⟨_, List.mem_cons_self, x, rfl, hq⟩
    | ok first =>
      cases hrest : resolve qs (w.log (.keys q)) with
      | mk s v =>
        obtain ⟨hstore, hdrawn, ⟨asked, hasked, hcalls⟩, hok, herror⟩ := ih hrest
        have hcalls' : v.calls = w.calls ++ ((bucket, q) :: asked).map fun q => .keys q.2 := by
          rw [hcalls]
          simp [World.log]
        have hasked' := (List.prefix_cons_inj (bucket, q)).2 hasked
        simp only [hq, hrest] at h
        cases s with
        | ok more =>
          cases h
          refine ⟨hstore, hdrawn, ⟨_, hasked', hcalls'⟩, ?_, by simp⟩
          rintro found ⟨⟩ id hid
          rcases List.mem_append.1 hid with hid | hid
          · exact ⟨_, List.mem_cons_self, first, hq, hid⟩
          · obtain ⟨p, hp, answer, hanswer, hid⟩ := hok more rfl id hid
            exact ⟨p, List.mem_cons_of_mem _ hp, answer, hanswer, hid⟩
        | error e =>
          cases h
          refine ⟨hstore, hdrawn, ⟨_, hasked', hcalls'⟩, by simp, ?_⟩
          rintro e ⟨⟩
          obtain ⟨p, hp, x, hx⟩ := herror _ rfl
          exact ⟨p, List.mem_cons_of_mem _ hp, x, hx⟩

/-- If the store answers all queries, the look-ups succeed. -/
theorem exists_resolve_eq_ok {qs : List (String × Query)}
    (h : ∀ q ∈ qs, ∃ answer, DocumentStore.keys q.2 w.store = .ok answer) :
  ∃ found v, resolve qs w = (.ok found, v)
  := by
  cases hresolve : resolve qs w with
  | mk r v =>
    cases r with
    | ok found => exact ⟨found, v, rfl⟩
    | error e =>
      obtain ⟨-, -, -, -, herror⟩ := resolve_cases hresolve
      obtain ⟨q, hq, x, -, hx⟩ := herror e rfl
      obtain ⟨answer, hanswer⟩ := h q hq
      cases hx.symm.trans hanswer

/-- Either storing fails, and nothing is removed, or all is stored before anything is removed. -/
theorem commit_cases {ds : List Document} {doomed : List String} {r : Except ProcessError Unit}
    (h : commit ds doomed w = (r, w')) :
  (∃ e, w.write .upsert ds = (.error e, w') ∧ r = .error (.upsertFailed e))
    ∨ ∃ v q, w.write .upsert ds = (.ok (), v) ∧ v.write .delete doomed = (q, w')
      ∧ r = q.mapError .deleteFailed
  := by
  cases hv : w.write .upsert ds with
  | mk p v =>
    change (if ds.isEmpty then (.ok (), w) else w.upsert ds) = _ at hv
    rw [commit, hv] at h
    cases p with
    | error e =>
      cases h
      exact .inl ⟨e, rfl, rfl⟩
    | ok u =>
      cases hx : v.write .delete doomed with
      | mk q x =>
        change (if doomed.isEmpty then (.ok (), v) else v.delete doomed) = _ at hx
        simp only [hx] at h
        cases q with
        | error e =>
          cases h
          exact .inr ⟨v, .error e, rfl, hx, rfl⟩
        | ok u =>
          cases h
          exact .inr ⟨v, .ok (), rfl, hx, rfl⟩

/-- Documents are stored and removed by two writes. -/
theorem commit_of_writes {v : World σ} {ds : List Document} {doomed : List String}
    (hv : w.write .upsert ds = (.ok (), v)) (hw' : v.write .delete doomed = (.ok (), w')) :
  commit ds doomed w = (.ok (), w')
  := by
  change (if ds.isEmpty then (.ok (), w) else w.upsert ds) = _ at hv
  change (if doomed.isEmpty then (.ok (), v) else v.delete doomed) = _ at hw'
  rw [commit, hv]
  simp only [hw']

/-- Apply a plan with look-ups for `size` keys each. -/
def applyBy (size : Nat) (documents : List Document) (plan : Plan) (w : World σ) :
    Except ProcessError Report × World σ :=
  match resolve (lookUps size plan.deletes) w with
  | (.error e, w) => (.error e, w)
  | (.ok found, w) =>
    let doomed := ascending found
    match commit documents doomed w with
    | (.error e, w) => (.error e, w)
    | (.ok (), w) => (.ok ⟨documents.length, doomed.length, plan.skipped⟩, w)

theorem applyBy_resolveChunk (ds : List Document) (plan : Plan) (w : World σ) :
  applyBy resolveChunk ds plan w = apply ds plan w
  := rfl

/-- Either a look-up fails, or what is found is removed after the documents are stored. -/
theorem applyBy_cases {size : Nat} {ds : List Document} {plan : Plan}
    {r : Except ProcessError Report} (h : applyBy size ds plan w = (r, w')) :
  (∃ e, resolve (lookUps size plan.deletes) w = (.error e, w') ∧ r = .error e)
    ∨ ∃ found v q, resolve (lookUps size plan.deletes) w = (.ok found, v)
      ∧ commit ds (ascending found) v = (q, w')
      ∧ r = q.map fun _ => ⟨ds.length, (ascending found).length, plan.skipped⟩
  := by
  rw [applyBy] at h
  cases hresolve : resolve (lookUps size plan.deletes) w with
  | mk p v =>
    rw [hresolve] at h
    cases p with
    | error e =>
      cases h
      exact .inl ⟨e, rfl, rfl⟩
    | ok found =>
      cases hcommit : commit ds (ascending found) v with
      | mk q x =>
        simp only [hcommit] at h
        cases q with
        | error e =>
          cases h
          exact .inr ⟨found, v, .error e, rfl, hcommit, rfl⟩
        | ok u =>
          cases h
          exact .inr ⟨found, v, .ok (), rfl, hcommit, rfl⟩

theorem apply_cases {ds : List Document} {plan : Plan} {r : Except ProcessError Report}
    (h : apply ds plan w = (r, w')) :
  (∃ e, resolve (resolveQueries plan.deletes) w = (.error e, w') ∧ r = .error e)
    ∨ ∃ found v q, resolve (resolveQueries plan.deletes) w = (.ok found, v)
      ∧ commit ds (ascending found) v = (q, w')
      ∧ r = q.map fun _ => ⟨ds.length, (ascending found).length, plan.skipped⟩
  := by
  rw [← applyBy_resolveChunk] at h
  exact applyBy_cases h

/-- A plan that is applied does not fail by the fault of its batch. -/
theorem isClientError_of_apply_eq_error {ds : List Document} {plan : Plan} {e : ProcessError}
    (h : apply ds plan w = (.error e, w')) :
  e.isClientError = false
  := by
  rcases apply_cases h with ⟨x, hresolve, hx⟩ | ⟨found, v, q, -, hcommit, hq⟩
  · cases hx
    obtain ⟨-, -, -, -, herror⟩ := resolve_cases hresolve
    obtain ⟨query, -, x, rfl, -⟩ := herror e rfl
    rfl
  · rcases commit_cases hcommit with ⟨x, -, rfl⟩ | ⟨u, _ | x, -, -, rfl⟩
    · cases hq
      rfl
    · cases hq
      rfl
    · cases hq

/-- A plan that is carried out does not fail by the fault of its batch. -/
theorem isClientError_of_carryOut_eq_error {plan : Plan} {e : ProcessError}
    (h : carryOut engine ids plan w = (some (.error e), w')) :
  e.isClientError = false
  := by
  rw [carryOut] at h
  cases hrecognise : recognise engine ids plan.upserts w with
  | mk s v =>
    obtain ⟨-, -, rfl | ⟨f, x, rfl⟩ | ⟨ds, rfl⟩⟩ := recognise_cases hrecognise
    all_goals rw [hrecognise] at h
    · cases h
    · cases h
      rfl
    · cases happly : apply ds plan v with
      | mk t u =>
        simp only [happly] at h
        cases h
        exact isClientError_of_apply_eq_error happly

/-- A plan that asks for nothing is carried out without a call. -/
theorem carryOut_of_isEmpty {plan : Plan} (h : plan.isEmpty = true) :
  carryOut engine ids plan w = (some (.ok ⟨0, 0, plan.skipped⟩), w)
  := by
  obtain ⟨upserts, deletes, skipped⟩ := plan
  rw [Plan.isEmpty, Bool.and_eq_true, List.isEmpty_iff, List.isEmpty_iff] at h
  obtain ⟨rfl, rfl⟩ := h
  rfl

/-- A batch that is not refused is processed by carrying out its plan. -/
theorem process_eq_carryOut {events : List ChangeEvent} {plan : Plan}
    (h : route events = .ok plan) :
  process engine ids events w = carryOut engine ids plan w
  := by
  rw [process, h]
  simp only
  split
  next hempty => exact (carryOut_of_isEmpty hempty).symm
  next => rfl

/-- A batch is refused, or it ends while its files are recognised, or all of them are and the plan
is applied. -/
theorem process_cases {events : List ChangeEvent} {r : Attempt Report}
    (h : process engine ids events w = (r, w')) :
  (∃ name, r = some (.error (.event (.unsupported name))) ∧ w' = w)
    ∨ ((r = none ∨ ∃ f e, r = some (.error (.parseFailed f e)))
      ∧ w'.store = w.store ∧ w.drawn ≤ w'.drawn)
    ∨ ∃ plan ds v s, route events = .ok plan
      ∧ recognise engine ids plan.upserts w = (some (.ok ds), v)
      ∧ apply ds plan v = (s, w') ∧ r = some s
  := by
  cases hroute : route events with
  | error e =>
    obtain ⟨name, rfl⟩ := exists_unsupported_of_route_eq_error hroute
    rw [process, hroute] at h
    cases h
    exact .inl ⟨name, rfl, rfl⟩
  | ok plan =>
    rw [process_eq_carryOut hroute, carryOut] at h
    cases hrecognise : recognise engine ids plan.upserts w with
    | mk s v =>
      obtain ⟨hstore, hdrawn, hs⟩ := recognise_cases hrecognise
      rw [hrecognise] at h
      rcases hs with rfl | ⟨f, e, rfl⟩ | ⟨ds, rfl⟩
      · cases h
        exact .inr (.inl ⟨.inl rfl, hstore, hdrawn⟩)
      · cases h
        exact .inr (.inl ⟨.inr ⟨f, e, rfl⟩, hstore, hdrawn⟩)
      · cases happly : apply ds plan v with
        | mk s x =>
          simp only [happly] at h
          cases h
          exact .inr (.inr ⟨plan, ds, v, s, rfl, hrecognise, happly, rfl⟩)

end ScanIndex
