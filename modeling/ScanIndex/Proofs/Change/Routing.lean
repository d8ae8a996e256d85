import Mathlib.Tactic.Tauto
import ScanIndex.Change.Event

/-!
# What a batch asks for

A batch that is not refused asks to index the files that its events create and to remove the files
that its events remove, in the order of the events; only files with a supported extension count
(`route_eq_ok`).  A batch is refused exactly if one of its events is about such a file and names no
kind of change (`route_eq_error_iff`), with the name of the first such event
(`route_eq_error_iff_first`).
-/

namespace ScanIndex

/-- The supported files of the events of a name, in their order. -/
def filesNamed (name : String) (events : List ChangeEvent) : List File :=
  (events.filter fun e => isSupported e.file.key && e.name = name).map ChangeEvent.file

/-- The supported files that are created. -/
def createdFiles (events : List ChangeEvent) : List File := filesNamed ChangeEvent.created events

/-- The supported files that are removed. -/
def removedFiles (events : List ChangeEvent) : List File := filesNamed ChangeEvent.removed events

/-- The number of events without a supported extension. -/
def skippedCount (events : List ChangeEvent) : Nat :=
  (events.filter fun e => !isSupported e.file.key).length

/-- The plan with more events behind those that it was made from. -/
def Plan.extend (p : Plan) (events : List ChangeEvent) : Plan where
  upserts := p.upserts ++ createdFiles events
  deletes := (removedFiles events).foldl Buckets.push p.deletes
  skipped := p.skipped + skippedCount events

theorem Plan.extend_nil (p : Plan) :
  p.extend [] = p
  := by
  simp [extend, createdFiles, removedFiles, filesNamed, skippedCount]

/-- An event is added to a plan as one more event behind the others. -/
theorem Plan.extend_cons_of_add {p q : Plan} {e : ChangeEvent} (h : p.add e = .ok q)
    (events : List ChangeEvent) :
  p.extend (e :: events) = q.extend events
  := by
  have hne : ChangeEvent.created ≠ ChangeEvent.removed := by decide
  rw [add] at h
  split at h
  next hsupported =>
    split at h
    next hcreated =>
      cases h
      simp [extend, createdFiles, removedFiles, filesNamed, skippedCount, hsupported, hcreated, hne]
    next hcreated =>
      split at h
      next hremoved =>
        cases h
        simp [extend, createdFiles, removedFiles, filesNamed, skippedCount, hsupported, hremoved,
          hne.symm]
      next => cases h
  next hsupported =>
    cases h
    simp [extend, createdFiles, removedFiles, filesNamed, skippedCount, hsupported]
    omega

/-- The plan of a batch that is not refused. -/
theorem route_eq_ok {events : List ChangeEvent} {p : Plan} (h : route events = .ok p) :
  p = Plan.empty.extend events
  := by
  rw [route] at h
  generalize Plan.empty = q at h ⊢
  induction events generalizing q with
  | nil =>
    cases h
    apply (Plan.extend_nil _).symm
  | cons e events ih =>
    rw [List.foldlM_cons] at h
    cases ha : q.add e with
    | error x =>
      rw [ha] at h
      cases h
    | ok q' =>
      rw [ha] at h
      rw [Plan.extend_cons_of_add ha]
      apply ih q' h

/-- The event is about a file with a supported extension, and its name is that of no kind
of change. -/
def ChangeEvent.IsUnsupported (e : ChangeEvent) : Prop :=
  isSupported e.file.key = true ∧ e.name ≠ created ∧ e.name ≠ removed

theorem Plan.add_eq_error_iff {p : Plan} {e : ChangeEvent} {x : EventError} :
  p.add e = .error x ↔ e.IsUnsupported ∧ x = .unsupported e.name
  := by
  rw [add, ChangeEvent.IsUnsupported]
  by_cases hsupported : isSupported e.file.key = true
  · by_cases hcreated : e.name = ChangeEvent.created
    · simp [hsupported, hcreated]
    · by_cases hremoved : e.name = ChangeEvent.removed
      · rw [hremoved] at hcreated
        simp [hsupported, hcreated, hremoved]
      · simp [hsupported, hcreated, hremoved, eq_comm]
  · simp [hsupported]

/-- The event names no kind of change, and is the first one of the batch that does not. -/
def ChangeEvent.IsFirstUnsupported (e : ChangeEvent) (events : List ChangeEvent) : Prop :=
  ∃ before after, events = before ++ e :: after ∧ (∀ b ∈ before, ¬b.IsUnsupported) ∧ e.IsUnsupported

theorem ChangeEvent.isFirstUnsupported_cons_iff {e a : ChangeEvent} {events : List ChangeEvent} :
  e.IsFirstUnsupported (a :: events)
    ↔ (e = a ∧ a.IsUnsupported) ∨ (¬a.IsUnsupported ∧ e.IsFirstUnsupported events)
  := by
  constructor
  · rintro ⟨_ | ⟨b, before⟩, after, heq, hbefore, he⟩
    · cases heq
      exact .inl ⟨rfl, he⟩
    · cases heq
      rw [List.forall_mem_cons] at hbefore
      exact .inr ⟨hbefore.1, before, after, rfl, hbefore.2, he⟩
  · rintro (⟨rfl, he⟩ | ⟨ha, before, after, rfl, hbefore, he⟩)
    · exact ⟨[], events, rfl, by simp, he⟩
    · exact ⟨a :: before, after, rfl, List.forall_mem_cons.2 ⟨ha, hbefore⟩, he⟩

/-- A batch is refused exactly with the name of the first of its events that names no kind of
change. -/
theorem route_eq_error_iff_first {events : List ChangeEvent} {x : EventError} :
  route events = .error x
    ↔ ∃ e : ChangeEvent, e.IsFirstUnsupported events ∧ x = .unsupported e.name
  := by
  rw [route]
  generalize Plan.empty = p
  induction events generalizing p with
  | nil =>
    refine iff_of_false (by rintro ⟨⟩) ?_
    rintro ⟨e, ⟨_ | _, after, heq, -⟩, -⟩ <;> cases heq
  | cons a events ih =>
    rw [List.foldlM_cons]
    simp only [ChangeEvent.isFirstUnsupported_cons_iff]
    cases hadd : p.add a with
    | ok q =>
      have ha : ¬a.IsUnsupported := by
        intro ha
        rw [Plan.add_eq_error_iff.2 ⟨ha, rfl⟩] at hadd
        cases hadd
      simp only [ha, and_false, not_false_eq_true, true_and, false_or]
      exact ih q
    | error y =>
      obtain ⟨ha, rfl⟩ := Plan.add_eq_error_iff.1 hadd
      change Except.error _ = Except.error x ↔ _
      simp [ha, eq_comm]

/-- If some event names no kind of change, there is a first one. -/
theorem exists_isFirstUnsupported_iff {events : List ChangeEvent} :
  (∃ e : ChangeEvent, e.IsFirstUnsupported events) ↔ ∃ e ∈ events, e.IsUnsupported
  := by
  induction events with
  | nil =>
    refine iff_of_false ?_ (by simp)
    rintro ⟨e, _ | _, after, heq, -⟩ <;> cases heq
  | cons a events ih =>
    simp only [ChangeEvent.isFirstUnsupported_cons_iff, exists_or, exists_eq_left, exists_and_left,
      ih, List.mem_cons, exists_eq_or_imp]
    tauto

/-- A batch is refused exactly if one of its events names no kind of change. -/
theorem route_eq_error_iff {events : List ChangeEvent} :
  (∃ x, route events = .error x) ↔ ∃ e ∈ events, e.IsUnsupported
  := by
  rw [← exists_isFirstUnsupported_iff]
  simp only [route_eq_error_iff_first]
  constructor
  · rintro ⟨x, e, he, -⟩
    exact ⟨e, he⟩
  · rintro ⟨e, he⟩
    exact ⟨_, e, he, rfl⟩

end ScanIndex
