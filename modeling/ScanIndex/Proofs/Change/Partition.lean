import Mathlib.Data.List.Basic
import ScanIndex.Proofs.Buckets
import ScanIndex.Proofs.Change.Routing

/-!
# The parts of a batch

A batch that is not refused falls into three parts: the events that create files, those that remove
files, and those without a supported extension (`Plan.Partitions`).  Its plan says exactly this, and
no other plan does (`route_eq_ok_iff`).  Two batches behind each other have the plans of both,
joined under every bucket, or the error of the first that is refused (`route_append`).
-/

namespace ScanIndex

/-! ### Supported extensions -/

theorem isSuffixOf_toList_iff {s key : String} :
  s.toList.isSuffixOf key.toList = true ↔ ∃ stem, key = stem ++ s
  := by
  rw [List.isSuffixOf_iff_suffix]
  constructor
  · rintro ⟨stem, hstem⟩
    use String.ofList stem
    rw [← String.toList_inj, String.toList_append, String.toList_ofList, hstem]
  · rintro ⟨stem, rfl⟩
    rw [String.toList_append]
    apply List.suffix_append

/-- A key is supported exactly if it ends in one of three extensions, dot included. -/
theorem isSupported_iff {key : String} :
  isSupported key = true
    ↔ ∃ stem, key = stem ++ ".jpg" ∨ key = stem ++ ".jpeg" ∨ key = stem ++ ".png"
  := by
  simp only [isSupported, supportedSuffixes, List.any_cons, List.any_nil, Bool.or_false,
    Bool.or_eq_true, isSuffixOf_toList_iff, exists_or]

/-! ### The three parts -/

/-- The plan lists the three parts of the events: the files that are created, in their order; under
each bucket the keys that are removed, in their order, the buckets being exactly those of removed
files; and the number of the other events.  Each event counts once. -/
structure Plan.Partitions (p : Plan) (events : List ChangeEvent) : Prop where
  upserts : p.upserts = createdFiles events
  deletes (bucket : String) :
    p.deletes.keysOf bucket = ((removedFiles events).filter fun f => f.bucket = bucket).map File.key
  buckets (bucket : String) : bucket ∈ p.deletes.map Prod.fst
    ↔ ∃ f ∈ removedFiles events, f.bucket = bucket
  wellFormed : p.deletes.WellFormed
  skipped : p.skipped = skippedCount events
  total : p.upserts.length + p.deleteCount + p.skipped = events.length

/-- Events that are not refused are counted by the three parts. -/
theorem length_eq_of_forall_not_isUnsupported {events : List ChangeEvent}
    (h : ∀ e ∈ events, ¬e.IsUnsupported) :
  (createdFiles events).length + (removedFiles events).length + skippedCount events = events.length
  := by
  have hne : ChangeEvent.created ≠ ChangeEvent.removed := by decide
  simp only [createdFiles, removedFiles, filesNamed, skippedCount, List.length_map]
  induction events with
  | nil => rfl
  | cons e events ih =>
    rw [List.forall_mem_cons] at h
    have hrest := ih h.2
    by_cases hsupported : isSupported e.file.key = true
    · by_cases hcreated : e.name = ChangeEvent.created
      · simp [hsupported, hcreated, hne]
        omega
      · have hremoved : e.name = ChangeEvent.removed := by
          by_contra hremoved
          apply h.1 ⟨hsupported, hcreated, hremoved⟩
        simp [hsupported, hremoved, hne.symm]
        omega
    · simp [hsupported]
      omega

/-- The plan that is made from events which are not refused lists their parts. -/
theorem Plan.partitions_extend_empty {events : List ChangeEvent}
    (h : ∀ e ∈ events, ¬e.IsUnsupported) :
  (Plan.empty.extend events).Partitions events
  := by
  have hdeletes (b : String) : (Plan.empty.extend events).deletes.keysOf b
      = ((removedFiles events).filter fun f => f.bucket = b).map File.key :=
    Buckets.keysOf_foldl_push Buckets.wellFormed_nil (removedFiles events) b
  have hwell : (Plan.empty.extend events).deletes.WellFormed :=
    Buckets.wellFormed_nil.foldl_push (removedFiles events)
  have hskipped : (Plan.empty.extend events).skipped = skippedCount events := Nat.zero_add _
  constructor
  · rfl
  · exact hdeletes
  · intro b
    rw [hwell.mem_map_fst_iff, hdeletes, ne_eq, List.map_eq_nil_iff, List.filter_eq_nil_iff]
    simp
  · exact hwell
  · exact hskipped
  · have hsize : (Plan.empty.extend events).deleteCount = (removedFiles events).length :=
      (Buckets.size_foldl_push (removedFiles events) []).trans (Nat.zero_add _)
    rw [hskipped, hsize]
    apply length_eq_of_forall_not_isUnsupported h

/-- At most one plan lists the parts of a batch. -/
theorem Plan.Partitions.unique {p q : Plan} {events : List ChangeEvent} (hp : p.Partitions events)
    (hq : q.Partitions events) :
  p = q
  := by
  have hupserts := hp.upserts.trans hq.upserts.symm
  have hskipped := hp.skipped.trans hq.skipped.symm
  have hdeletes : p.deletes = q.deletes :=
    hp.wellFormed.ext hq.wellFormed fun b => (hp.deletes b).trans (hq.deletes b).symm
  cases p
  cases q
  simp_all

/-- The plan of a batch, which is not refused exactly if its supported events name kinds of change,
is the one that lists its parts. -/
theorem route_eq_ok_iff {events : List ChangeEvent} {p : Plan} :
  route events = .ok p ↔ (∀ e ∈ events, ¬e.IsUnsupported) ∧ p.Partitions events
  := by
  have hrefused : (∃ x, route events = .error x) ↔ ¬∀ e ∈ events, ¬e.IsUnsupported := by
    rw [route_eq_error_iff]
    simp
  constructor
  · intro h
    have hkinds : ∀ e ∈ events, ¬e.IsUnsupported := by
      by_contra hnot
      obtain ⟨x, hx⟩ := hrefused.2 hnot
      rw [h] at hx
      cases hx
    refine ⟨hkinds, ?_⟩
    rw [route_eq_ok h]
    apply Plan.partitions_extend_empty hkinds
  · rintro ⟨hkinds, hp⟩
    cases hr : route events with
    | error x => exact absurd hkinds (hrefused.1 ⟨x, hr⟩)
    | ok q =>
      rw [hp.unique (Plan.partitions_extend_empty hkinds), route_eq_ok hr]

/-! ### Two batches behind each other -/

/-- What two plans ask for together; under each bucket the keys of the second stand behind those of
the first. -/
def Plan.append (p q : Plan) : Plan where
  upserts := p.upserts ++ q.upserts
  deletes := p.deletes.append q.deletes
  skipped := p.skipped + q.skipped

section

variable {p q : Plan} {e : ChangeEvent}

theorem Plan.append_empty (p : Plan) :
  p.append Plan.empty = p
  := by
  simp [append, Plan.empty, Buckets.append]

theorem Plan.wellFormed_add (hp : p.deletes.WellFormed) (h : p.add e = .ok q) :
  q.deletes.WellFormed
  := by
  rw [add] at h
  split at h
  next =>
    split at h
    next =>
      cases h
      exact hp
    next =>
      split at h
      next =>
        cases h
        apply hp.push
      next => cases h
  next =>
    cases h
    exact hp

/-- One more event for the second plan is one more for both together. -/
theorem Plan.add_append (hp : p.deletes.WellFormed) (hq : q.deletes.WellFormed) (e : ChangeEvent) :
  (p.append q).add e = p.append <$> q.add e
  := by
  rw [add, add]
  split
  next =>
    split
    next => simp [append, Functor.map, Except.map]
    next =>
      split
      next =>
        simp only [append, Functor.map, Except.map, Buckets.append_push hp hq]
      next => rfl
  next => simp [append, Functor.map, Except.map, Nat.add_assoc]

/-- More events for the second plan are more for both together. -/
theorem Plan.foldlM_add_append (hp : p.deletes.WellFormed) (hq : q.deletes.WellFormed)
    (events : List ChangeEvent) :
  events.foldlM Plan.add (p.append q) = p.append <$> events.foldlM Plan.add q
  := by
  induction events generalizing q with
  | nil => rfl
  | cons e events ih =>
    rw [List.foldlM_cons, List.foldlM_cons, add_append hp hq]
    cases hadd : q.add e with
    | error x => rfl
    | ok q' => exact ih (wellFormed_add hq hadd)

end

/-- Routing two batches behind each other is joining their plans, or the error of the first of them
that is refused. -/
theorem route_append (events more : List ChangeEvent) :
  route (events ++ more) = (do
    let p ← route events
    let q ← route more
    return p.append q)
  := by
  rw [route, List.foldlM_append]
  change (route events >>= fun p => more.foldlM Plan.add p) = _
  cases hroute : route events with
  | error x => rfl
  | ok p =>
    have hp := (route_eq_ok_iff.1 hroute).2.wellFormed
    have hjoin := Plan.foldlM_add_append hp Buckets.wellFormed_nil (q := Plan.empty) more
    rw [Plan.append_empty] at hjoin
    change more.foldlM Plan.add p = _
    rw [hjoin, ← route]
    rfl

/-- A batch is accepted exactly if every event about a key with one of the three extensions names a
kind of change, and is otherwise refused with the name of the first such event that does not.  Its
plan lists the three parts of the batch, and the plan of two batches joins their plans, under each
bucket the keys of the second behind those of the first. -/
theorem route_partitions (events more : List ChangeEvent) :
  ((∃ p, route events = .ok p) ↔ ∀ e ∈ events,
      (∃ stem, e.file.key = stem ++ ".jpg" ∨ e.file.key = stem ++ ".jpeg"
        ∨ e.file.key = stem ++ ".png") →
      e.name = ChangeEvent.created ∨ e.name = ChangeEvent.removed)
    ∧ (∀ x, route events = .error x
      ↔ ∃ e : ChangeEvent, e.IsFirstUnsupported events ∧ x = .unsupported e.name)
    ∧ (∀ p, route events = .ok p → p.Partitions events)
    ∧ (route (events ++ more) = do
        let p ← route events
        let q ← route more
        return p.append q)
    ∧ ∀ p q, route events = .ok p → route more = .ok q →
        ∀ bucket, (p.append q).deletes.keysOf bucket
          = p.deletes.keysOf bucket ++ q.deletes.keysOf bucket
  := by
  refine ⟨?_, fun x => route_eq_error_iff_first, ?_, route_append events more, ?_⟩
  · have hkinds (e : ChangeEvent) : ¬e.IsUnsupported ↔ (isSupported e.file.key = true →
        e.name = ChangeEvent.created ∨ e.name = ChangeEvent.removed) := by
      rw [ChangeEvent.IsUnsupported]
      tauto
    simp only [← isSupported_iff, ← hkinds]
    constructor
    · rintro ⟨p, hp⟩
      exact (route_eq_ok_iff.1 hp).1
    · intro h
      exact ⟨_, route_eq_ok_iff.2 ⟨h, Plan.partitions_extend_empty h⟩⟩
  · intro p hp
    exact (route_eq_ok_iff.1 hp).2
  · intro p q hp hq b
    apply Buckets.keysOf_append (route_eq_ok_iff.1 hp).2.wellFormed
      (route_eq_ok_iff.1 hq).2.wellFormed

/-- Names do not matter where the extension is not supported, and a file that is removed twice is
listed twice. -/
example :
    (route [⟨"OBJECT_REMOVED", ⟨"b", "p.jpg"⟩⟩, ⟨"OBJECT_TAGGED", ⟨"b", "p.JPG"⟩⟩,
      ⟨"OBJECT_CREATED", ⟨"b", "jpg"⟩⟩, ⟨"OBJECT_REMOVED", ⟨"a", ".png"⟩⟩,
      ⟨"OBJECT_REMOVED", ⟨"b", "p.jpg"⟩⟩]).toOption
        = some ⟨[], [("a", [".png"]), ("b", ["p.jpg", "p.jpg"])], 2⟩ := by
  decide +kernel

end ScanIndex
