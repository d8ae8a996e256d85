import Mathlib.Data.List.Sort
import ScanIndex.Proofs.Indexing.Safety
import ScanIndex.Proofs.Store.Deletion
import ScanIndex.Proofs.Text.ByteOrder

/-!
# Look-ups and removals in pieces

The identifiers that a batch hands over to be removed are those of the documents of the removed
files that are stored before it, in the order of their bytes and each once (`IdentifiersOf`).  They
are the same for all sizes of look-ups, whatever keys are repeated and wherever the pieces end
(`handsOver_of_findsAmong`).

Removing documents from tables comes to running the statements for the pieces of the list one after
the other (`Relational.delete_eq_removeBy`).  None of these statements, and none of the look-ups of
a batch, has more operands for a larger batch than its piece has room for (`handsOver_identifiers`).
-/

namespace ScanIndex

open Sql

/-! ### The identifiers to remove -/

/-- The identifiers are those of the documents of the files, in the order of their bytes and each
once. -/
structure IdentifiersOf (rows : List DocumentRow) (g : Buckets) (ids : List String) : Prop where
  ascending : (ids.map Utf8.encode).Pairwise (· < ·)
  mem (id : String) : id ∈ ids ↔ ∃ d ∈ rows, d.file ∈ g.files ∧ d.id = id

section

variable {rows : List DocumentRow} {g : Buckets} {ids ids' : List String} {ds : List Document}

theorem IdentifiersOf.unique (h : IdentifiersOf rows g ids) (h' : IdentifiersOf rows g ids') :
  ids = ids'
  := by
  have hlt {xs : List String} (hxs : (xs.map Utf8.encode).Pairwise (· < ·)) :
      xs.Pairwise (· < ·) := by
    apply (List.pairwise_map.1 hxs).imp
    exact Utf8.encode_lt_encode_iff.1
  apply (hlt h.ascending).eq_of_mem_iff (hlt h'.ascending)
  intro id
  rw [h.mem, h'.mem]

/-- What look-ups find, listed in order, are the identifiers of the documents, whatever the size of
the look-ups. -/
theorem identifiersOf_ascending (size : Nat) (g : Buckets) (ds : List Document) :
  IdentifiersOf (ds.map Document.row) g
    (ascending ((lookUps size g).flatMap fun q => (ds.filter q.2.accepts).map Document.id))
  := by
  constructor
  · rw [List.pairwise_map]
    apply (pairwise_ascending _).imp
    exact Utf8.encode_lt_encode
  · intro id
    rw [mem_ascending, mem_lookUps_found_iff]
    simp only [List.mem_map, exists_exists_and_eq_and]
    rfl

end

/-! ### Handing over -/

/-- The lists of identifiers that calls hand over to be removed. -/
def handedOver (calls : List Call) : List (List String) :=
  calls.filterMap fun
    | .delete ids => some ids
    | _ => none

/-- The queries whose identifiers calls look up. -/
def askedFor (calls : List Call) : List Query :=
  calls.filterMap fun
    | .keys q => some q
    | _ => none

/-- The lists that have been handed over when work ends with the given outcome and `doomed` are the
identifiers to remove: this one list, if the work has come to the removal and there is something to
remove. -/
def dueRemovals {α : Type} (doomed : List String) : Attempt α → List (List String)
  | some (.ok _) => if doomed = [] then [] else [doomed]
  | some (.error (.deleteFailed _)) => [doomed]
  | _ => []

/-- The calls hand over the identifiers to remove, and nothing else, after look-ups for `size` keys
each, up to one that fails.  A report tells the number of these identifiers. -/
structure Resolves (size : Nat) (plan : Plan) (doomed : List String) (calls : List Call)
    (r : Attempt Report) : Prop where
  handedOver : handedOver calls = dueRemovals doomed r
  lookUps : askedFor calls <+: (lookUps size plan.deletes).map Prod.snd
  deleted : ∀ report, r = some (.ok report) → report.deleted = doomed.length

theorem dueRemovals_map {α β : Type} (doomed : List String) (f : α → β)
    (r : Except ProcessError α) :
  dueRemovals doomed (some (r.map f)) = dueRemovals doomed (some r)
  := by
  rcases r with e | a
  · cases e <;> rfl
  · rfl

theorem handedOver_append (cs cs' : List Call) :
  handedOver (cs ++ cs') = handedOver cs ++ handedOver cs'
  := List.filterMap_append

theorem askedFor_append (cs cs' : List Call) :
  askedFor (cs ++ cs') = askedFor cs ++ askedFor cs'
  := List.filterMap_append

theorem handedOver_detect (fs : List File) :
  handedOver (fs.map .detect) = []
  := by
  simp [handedOver]

theorem askedFor_detect (fs : List File) :
  askedFor (fs.map .detect) = []
  := by
  simp [askedFor]

theorem handedOver_keys (qs : List (String × Query)) :
  handedOver (qs.map fun q => .keys q.2) = []
  := by
  simp [handedOver]

theorem askedFor_keys (qs : List (String × Query)) :
  askedFor (qs.map fun q => .keys q.2) = qs.map Prod.snd
  := by
  simp [askedFor, List.filterMap_map]

section

variable {σ : Type} {w w' : World σ} {ds stored : List Document} {doomed : List String}
variable {size : Nat} {plan : Plan}

variable [DocumentStore σ]

theorem handedOver_commit {r : Except ProcessError Unit} (h : commit ds doomed w = (r, w')) :
  ∃ calls, w'.calls = w.calls ++ calls ∧ handedOver calls = dueRemovals doomed (some r)
    ∧ askedFor calls = []
  := by
  have hstored : handedOver (if ds.isEmpty then [] else [.upsert ds]) = []
      ∧ askedFor (if ds.isEmpty then [] else [.upsert ds]) = [] := by
    split <;> exact ⟨rfl, rfl⟩
  rcases commit_cases h with ⟨e, hv, rfl⟩ | ⟨v, q, hv, hw', rfl⟩
  · exact ⟨_, World.calls_write hv, hstored⟩
  · refine ⟨(if ds.isEmpty then [] else [.upsert ds])
      ++ (if doomed.isEmpty then [] else [.delete doomed]), ?_, ?_, ?_⟩
    · rw [World.calls_write hw', World.calls_write hv, List.append_assoc]
      rfl
    · rw [handedOver_append, hstored.1, List.nil_append]
      cases doomed with
      | nil =>
        cases hw'
        rfl
      | cons id ids => cases q <;> rfl
    · rw [askedFor_append, hstored.2]
      split <;> rfl

theorem resolves_applyBy (hfinds : FindsAmong w.store stored)
    (hdoomed : IdentifiersOf (stored.map Document.row) plan.deletes doomed)
    {r : Except ProcessError Report} (h : applyBy size ds plan w = (r, w')) :
  ∃ calls, w'.calls = w.calls ++ calls ∧ Resolves size plan doomed calls (some r)
  := by
  rcases applyBy_cases h with ⟨e, hresolve, rfl⟩ | ⟨found, v, q, hresolve, hcommit, rfl⟩
  · obtain ⟨-, -, ⟨asked, hprefix, hcalls⟩, -, herror⟩ := resolve_cases hresolve
    obtain ⟨query, -, x, rfl, -⟩ := herror e rfl
    refine ⟨_, hcalls, handedOver_keys asked, ?_, by simp⟩
    rw [askedFor_keys]
    apply hprefix.map
  · obtain ⟨rfl, rfl⟩ := hfinds.resolve_eq_ok hresolve
    have hsame := (identifiersOf_ascending size plan.deletes stored).unique hdoomed
    rw [hsame] at hcommit ⊢
    obtain ⟨calls, hcalls, hremoved, hnone⟩ := handedOver_commit hcommit
    refine ⟨_, hcalls.trans (List.append_assoc _ _ _), ?_, ?_, ?_⟩
    · rw [handedOver_append, handedOver_keys, List.nil_append, hremoved, dueRemovals_map]
    · refine ⟨[], ?_⟩
      rw [askedFor_append, hnone, askedFor_keys, List.append_nil, List.append_nil]
    · intro report hreport
      cases q with
      | error e => cases hreport
      | ok u =>
        cases hreport
        rfl

/-- Carry out a plan with look-ups for `size` keys each. -/
def carryOutBy (size : Nat) (engine : Engine) (ids : Supply) (plan : Plan) (w : World σ) :
    Attempt Report × World σ :=
  match recognise engine ids plan.upserts w with
  | (none, w) => (none, w)
  | (some (.error e), w) => (some (.error e), w)
  | (some (.ok documents), w) =>
    let (r, w) := applyBy size documents plan w
    (some r, w)

theorem carryOutBy_resolveChunk (engine : Engine) (ids : Supply) (plan : Plan) (w : World σ) :
  carryOutBy resolveChunk engine ids plan w = carryOut engine ids plan w
  := rfl

/-- Look-ups for `size` keys each all succeed, and what they find is `doomed` when it is listed in
order.  A plan never fails for one of them. -/
structure LooksUp (size : Nat) (plan : Plan) (doomed : List String) (w : World σ) : Prop where
  found : ∃ found v, resolve (lookUps size plan.deletes) w = (.ok found, v)
    ∧ ascending found = doomed
  ends : ∀ engine ids bucket e,
    (carryOutBy size engine ids plan w).1 ≠ some (.error (.resolveFailed bucket e))

/-- However a plan is carried out with look-ups for `size` keys each, the identifiers to remove are
`doomed`. -/
def HandsOver (size : Nat) (plan : Plan) (doomed : List String) (w : World σ) : Prop :=
  ∀ engine ids r w', carryOutBy size engine ids plan w = (r, w') →
    ∃ calls, w'.calls = w.calls ++ calls ∧ Resolves size plan doomed calls r

/-- The identifiers to remove depend on the documents that the store finds, and not on the size of
look-ups. -/
theorem handsOver_of_findsAmong (hfinds : FindsAmong w.store stored)
    (hdoomed : IdentifiersOf (stored.map Document.row) plan.deletes doomed) :
  HandsOver size plan doomed w
  := by
  intro engine ids r w' h
  rw [carryOutBy] at h
  cases hrecognise : recognise engine ids plan.upserts w with
  | mk s v =>
    obtain ⟨pre, post, ds, -, -, hstore, hend⟩ := recognise_inv hrecognise
    rw [hrecognise] at h
    rcases hend with ⟨-, rfl, hcalls⟩ | ⟨f, rest, -, hcalls, ⟨-, rfl⟩ | ⟨e, -, rfl⟩⟩
    · cases happly : applyBy size ds plan v with
      | mk t x =>
        simp only [happly] at h
        cases h
        rw [← hstore] at hfinds
        obtain ⟨calls, hcalls', hresolves⟩ := resolves_applyBy hfinds hdoomed happly
        rw [hcalls, List.append_assoc] at hcalls'
        refine ⟨_, hcalls', ?_, ?_, hresolves.deleted⟩
        · rw [handedOver_append, handedOver_detect, List.nil_append, hresolves.handedOver]
        · rw [askedFor_append, askedFor_detect, List.nil_append]
          exact hresolves.lookUps
    all_goals
      cases h
      refine ⟨_, hcalls, handedOver_detect _, ?_, by simp⟩
      rw [askedFor_detect]
      apply List.nil_prefix

section

variable (hkeys : ∀ q ∈ lookUps size plan.deletes, ∃ answer,
  DocumentStore.keys q.2 w.store = .ok answer)
include hkeys

/-- If the store answers all look-ups, a plan does not fail for one of them. -/
theorem applyBy_ne_resolveFailed (ds : List Document) (bucket : String) (e : StoreError) :
  (applyBy size ds plan w).1 ≠ .error (.resolveFailed bucket e)
  := by
  intro h
  obtain ⟨found, v, hfound⟩ := exists_resolve_eq_ok hkeys
  rcases applyBy_cases (Prod.ext h rfl) with ⟨x, hresolve, -⟩ | ⟨found', v', q, -, hcommit, hq⟩
  · cases hfound.symm.trans hresolve
  · rcases commit_cases hcommit with ⟨x, -, rfl⟩ | ⟨u, _ | x, -, -, rfl⟩
    all_goals cases hq

theorem carryOutBy_ne_resolveFailed (engine : Engine) (ids : Supply) (bucket : String)
    (e : StoreError) :
  (carryOutBy size engine ids plan w).1 ≠ some (.error (.resolveFailed bucket e))
  := by
  rw [carryOutBy]
  cases hrecognise : recognise engine ids plan.upserts w with
  | mk s v =>
    obtain ⟨hstore, -, rfl | ⟨f, x, rfl⟩ | ⟨ds, rfl⟩⟩ := recognise_cases hrecognise
    · simp
    · simp
    · rw [← hstore] at hkeys
      intro h
      apply applyBy_ne_resolveFailed hkeys ds bucket e (Option.some.inj h)

/-- If the store answers all look-ups, they find the identifiers to remove. -/
theorem looksUp_of_findsAmong (hfinds : FindsAmong w.store stored)
    (hdoomed : IdentifiersOf (stored.map Document.row) plan.deletes doomed) :
  LooksUp size plan doomed w
  := by
  constructor
  case found =>
    obtain ⟨found, v, hresolve⟩ := exists_resolve_eq_ok hkeys
    refine ⟨found, v, hresolve, ?_⟩
    rw [(hfinds.resolve_eq_ok hresolve).1]
    apply (identifiersOf_ascending size plan.deletes stored).unique hdoomed
  case ends =>
    intro engine ids bucket e
    apply carryOutBy_ne_resolveFailed hkeys

end

end

/-! ### Tables -/

namespace Relational

/-- The rows of the stored documents. -/
def rows (s : Relational) : List DocumentRow := (s.tables.getD .empty).documents

/-- The store finds the documents that its tables hold. -/
theorem findsAmong (s : Relational) :
  FindsAmong s (s.tables.getD .empty).trees
  := by
  intro q found h
  change Relational.keys q s = _ at h
  cases hreach : s.reach? with
  | none =>
    rw [Relational.keys, select?, hreach] at h
    cases h
  | some t =>
    rw [eq_ofTables_of_reach?_eq_some hreach, (t.finds_trees q).keys_eq] at h
    rw [eq_ofTables_of_reach?_eq_some hreach]
    split at h
    · cases h
      rfl
    · cases h

/-- Tables that can be reached answer a query that can be run. -/
theorem exists_keys_eq_ok {s : Relational} (hreach : s.reach?.isSome) {q : Query}
    (hfits : q.Fits .keys) :
  ∃ answer, Relational.keys q s = .ok answer
  := by
  obtain ⟨t, ht⟩ := Option.isSome_iff_exists.1 hreach
  rw [eq_ofTables_of_reach?_eq_some ht, (t.finds_trees q).keys_eq, if_pos hfits]
  exact ⟨_, rfl⟩

/-- The statement that removes the documents with the given identifiers. -/
def removal (ids : List String) : Statement :=
  ⟨"DELETE FROM documents WHERE id IN (" ++ placeholders ids.length ++ ")", ids.map .text⟩

/-- The statements that remove documents, chunk by chunk. -/
def removals (ids : List String) : List Statement := (chunks deleteChunk ids).map removal

/-- The store without the documents whose identifiers are among the values of a statement, if the
statement can be run. -/
def removed? (r : Statement) (s : Relational) : Option Relational :=
  if maxBinds < r.binds.length then none
  else s.reach?.map fun t =>
    ofTables (t.dropDocuments fun id => (Expr.memberOf (.text id) r.binds).isTrue)

/-- Run statements that remove documents one after the other, up to the first that cannot be run. -/
def removeBy : List Statement → Relational → Except StoreError Unit × Relational
  | [], s => (.ok (), s)
  | r :: rs, s =>
    match s.removed? r with
    | none => (.error (.write (.deleteChunk r.binds.length)), s)
    | some s => removeBy rs s

theorem length_binds_removal (ids : List String) :
  (removal ids).binds.length = ids.length
  := List.length_map _

theorem length_binds_of_mem_removals {ids : List String} {r : Statement} (h : r ∈ removals ids) :
  r.binds.length ≤ deleteChunk
  := by
  obtain ⟨chunk, hchunk, rfl⟩ := List.mem_map.1 h
  rw [length_binds_removal]
  apply length_le_of_mem_chunks (by decide) hchunk

theorem removed?_removal {ids : List String} (h : ids.length ≤ maxBinds) (s : Relational) :
  s.removed? (removal ids) = s.reach?.map fun t => ofTables (t.dropDocuments fun id => id ∈ ids)
  := by
  have hnamed : (fun id => (Expr.memberOf (.text id) (removal ids).binds).isTrue)
      = fun id => decide (id ∈ ids) := by
    funext id
    change (Expr.memberOf (.text id) (ids.map .text)).isTrue = _
    rw [Expr.memberOf_texts, Truth.isTrue_some, Bool.eq_iff_iff]
    simp
  rw [removed?, length_binds_removal, if_neg (Nat.not_lt_of_le h), hnamed]

theorem removeBy_map_removal {pieces : List (List String)}
    (h : ∀ ids ∈ pieces, ids.length ≤ maxBinds) (t : Tables) :
  removeBy (pieces.map removal) (ofTables t)
    = (.ok (), ofTables (pieces.foldl (fun t piece => t.dropDocuments fun id => id ∈ piece) t))
  := by
  have hreach (t : Tables) : (ofTables t).reach? = some t := rfl
  induction pieces generalizing t with
  | nil => rfl
  | cons piece pieces ih =>
    rw [List.forall_mem_cons] at h
    rw [List.map_cons, removeBy, removed?_removal h.1, hreach, Option.map_some, List.foldl_cons]
    apply ih h.2

/-- Documents are removed by their statements, of which none is too large. -/
theorem delete_eq_removeBy (ids : List String) (s : Relational) :
  Relational.delete ids s = removeBy (removals ids) s
  := by
  have hsmall : ∀ chunk ∈ chunks deleteChunk ids, chunk.length ≤ maxBinds := by
    intro chunk hchunk
    apply (length_le_of_mem_chunks (by decide) hchunk).trans (by decide)
  rw [removals]
  cases hreach : s.reach? with
  | some t =>
    rw [eq_ofTables_of_reach?_eq_some hreach, delete_ofTables, removeBy_map_removal hsmall]
  | none =>
    rw [Relational.delete, hreach]
    cases hchunks : chunks deleteChunk ids with
    | nil => rfl
    | cons chunk rest =>
      rw [hchunks, List.forall_mem_cons] at hsmall
      rw [List.map_cons, removeBy, removed?_removal hsmall.1, hreach, length_binds_removal]
      rfl

end Relational

/-! ### Exact removal -/

section

variable (plan : Plan)

theorem Memory.exists_handsOver (w : World Memory) :
  ∃ doomed, IdentifiersOf (w.store.documents.map Document.row) plan.deletes doomed
    ∧ ∀ size, HandsOver size plan doomed w ∧ LooksUp size plan doomed w
  := by
  have hfinds : FindsAmong w.store w.store.documents := LawfulStore.findsAmong rfl
  have hdoomed := identifiersOf_ascending resolveChunk plan.deletes w.store.documents
  refine ⟨_, hdoomed, ?_⟩
  intro size
  use handsOver_of_findsAmong hfinds hdoomed
  apply looksUp_of_findsAmong _ hfinds hdoomed
  intro q _
  exact ⟨_, rfl⟩

theorem Relational.exists_handsOver (w : World Relational) :
  ∃ doomed, IdentifiersOf w.store.rows plan.deletes doomed
    ∧ ∀ size, HandsOver size plan doomed w
      ∧ (w.store.reach?.isSome → 0 < size → size < maxBinds → LooksUp size plan doomed w)
  := by
  have hfinds := w.store.findsAmong
  have hdoomed :=
    identifiersOf_ascending resolveChunk plan.deletes (w.store.tables.getD .empty).trees
  rw [rows, ← Tables.map_row_trees]
  refine ⟨_, hdoomed, ?_⟩
  intro size
  use handsOver_of_findsAmong hfinds hdoomed
  intro hreach hsize hbound
  apply looksUp_of_findsAmong _ hfinds hdoomed
  intro q hq
  apply exists_keys_eq_ok hreach (fits_of_mem_lookUps hsize hbound hq)

/-- A plan hands over the identifiers of the stored documents of its files to be removed, in order
and each once, whatever the size of its look-ups.  Tables that can be reached answer the look-ups as
long as these can be run.  A look-up of a batch is for 500 keys in a bucket at most, and a statement
removes 500 documents at most. -/
theorem handsOver_identifiers :
  (∀ w : World Memory, ∃ doomed,
    IdentifiersOf (w.store.documents.map Document.row) plan.deletes doomed
      ∧ ∀ size, HandsOver size plan doomed w ∧ LooksUp size plan doomed w)
    ∧ (∀ w : World Relational, ∃ doomed, IdentifiersOf w.store.rows plan.deletes doomed
      ∧ ∀ size, HandsOver size plan doomed w
        ∧ (w.store.reach?.isSome → 0 < size → size < maxBinds → LooksUp size plan doomed w))
    ∧ (∀ (σ : Type) [DocumentStore σ] (engine : Engine) (ids : Supply) (events : List ChangeEvent)
      (w : World σ),
        route events = .ok plan
          → process engine ids events w = carryOutBy resolveChunk engine ids plan w)
    ∧ (∀ q ∈ resolveQueries plan.deletes, ∃ keys : List String, keys.length ≤ 500
      ∧ q.2 = Query.ofFiles q.1 keys ∧ q.2.statement.binds.length = keys.length + 1)
    ∧ ∀ ids, (∀ s, Relational.delete ids s = Relational.removeBy (Relational.removals ids) s)
      ∧ ∀ r ∈ Relational.removals ids, r.binds.length ≤ 500
  := by
  refine ⟨Memory.exists_handsOver plan, Relational.exists_handsOver plan, ?_, ?_, ?_⟩
  · intro σ _ engine ids events w hroute
    rw [process_eq_carryOut hroute, carryOutBy_resolveChunk]
  · intro q hq
    obtain ⟨keys, hlength, heq⟩ := exists_keys_of_mem_lookUps (by decide) hq
    refine ⟨keys, hlength, heq, ?_⟩
    rw [heq, Query.length_binds_ofFiles]
  · intro ids
    use Relational.delete_eq_removeBy ids
    intro r hr
    apply Relational.length_binds_of_mem_removals hr

end

/-- The document of a file that is removed twice is handed over once, also if it is looked
up twice. -/
theorem handsOver_identifiers_repeated :
  ∃ (events : List ChangeEvent) (plan : Plan) (ds : List Document) (w : World Memory)
      (v : World Relational),
    events = [⟨"OBJECT_REMOVED", ⟨"b", "p.jpg"⟩⟩, ⟨"OBJECT_REMOVED", ⟨"b", "q.png"⟩⟩,
        ⟨"OBJECT_REMOVED", ⟨"b", "p.jpg"⟩⟩, ⟨"OBJECT_REMOVED", ⟨"a", "p.jpg"⟩⟩]
      ∧ route events = .ok plan
      ∧ ds = [⟨"e", "a", "p.jpg", []⟩, ⟨"f", "a", "q.png", []⟩, ⟨"d", "b", "p.jpg", []⟩]
      ∧ w = .ofStore ⟨ds⟩ ∧ v = .ofStore (.ofTables (.ofDocuments ds))
      ∧ LooksUp 1 plan ["d", "e"] v ∧ LooksUp 500 plan ["d", "e"] v
      ∧ handedOver (process (fun _ _ => some (.ok [])) .strokes events w).2.calls = [["d", "e"]]
  := by
  let events : List ChangeEvent :=
    [⟨"OBJECT_REMOVED", ⟨"b", "p.jpg"⟩⟩, ⟨"OBJECT_REMOVED", ⟨"b", "q.png"⟩⟩,
      ⟨"OBJECT_REMOVED", ⟨"b", "p.jpg"⟩⟩, ⟨"OBJECT_REMOVED", ⟨"a", "p.jpg"⟩⟩]
  let plan : Plan := ⟨[], [("a", ["p.jpg"]), ("b", ["p.jpg", "q.png", "p.jpg"])], 0⟩
  let ds : List Document :=
    [⟨"e", "a", "p.jpg", []⟩, ⟨"f", "a", "q.png", []⟩, ⟨"d", "b", "p.jpg", []⟩]
  let w : World Memory := .ofStore ⟨ds⟩
  let v : World Relational := .ofStore (.ofTables (.ofDocuments ds))
  have hroute : route events = .ok plan := rfl
  have hlist : ascending ((lookUps 1 plan.deletes).flatMap fun q =>
      (ds.filter q.2.accepts).map Document.id) = ["d", "e"] := by
    decide +kernel
  have hdoomed := identifiersOf_ascending 1 plan.deletes ds
  rw [hlist] at hdoomed
  obtain ⟨hmemory, htables, hprocess, -⟩ := handsOver_identifiers plan
  obtain ⟨doomed, hw, hsize⟩ := hmemory w
  cases hdoomed.unique hw
  obtain ⟨doomed, hv, hsize'⟩ := htables v
  cases hdoomed.unique hv
  have hok : (process (fun _ _ => some (.ok [])) .strokes events w).1.map
      (Except.mapError ProcessError.code) = some (.ok ⟨0, 2, 0⟩) := by
    decide +kernel
  let w' := (process (fun _ _ => some (.ok [])) .strokes events w).2
  have hend : process (fun _ _ => some (.ok [])) .strokes events w = (_, w') :=
    Prod.ext (eq_ok_of_mapError_eq_ok hok) rfl
  rw [hprocess Memory _ _ events w hroute] at hend
  obtain ⟨calls, hcalls, hresolves⟩ := (hsize resolveChunk).1 _ _ _ _ hend
  use events, plan, ds, w, v, rfl, hroute, rfl, rfl, rfl
  refine ⟨(hsize' 1).2 rfl (by decide) (by decide), (hsize' 500).2 rfl (by decide) (by decide), ?_⟩
  change handedOver w'.calls = _
  rw [hcalls]
  exact hresolves.handedOver

end ScanIndex
