import ScanIndex.Proofs.Sql.Meaning
import ScanIndex.Proofs.Store.Insertion
import ScanIndex.Proofs.Store.Joining
import ScanIndex.Proofs.Store.Lawful
import ScanIndex.Proofs.Store.Removal
import ScanIndex.Store.Relational

/-!
# Tables as a store

A store in tables keeps the documents that its tables represent.  Storing a document goes through
exactly if the documents stay storable (`Represents.upsertOne_cases`), and a query that can be run
finds the rows of the documents that it accepts (`Represents.finds`).
-/

namespace ScanIndex

open Sql

namespace Sql.Tables

variable {t u : Tables} {pre post ds : List Document} {d e : Document}

/-! ### Storing a document -/

theorem insertDocument_of_file_eq (h : t.documents = ds.map Document.row) (he : e ∈ ds)
    (hfile : e.file = d.file) :
  t.insertDocument d.row = some t
  := by
  rw [insertDocument, if_pos]
  rw [h, List.any_map, List.any_eq_true]
  exact ⟨e, he, decide_eq_true hfile⟩

theorem insertDocument_of_forall_ne (h : t.documents = ds.map Document.row)
    (hfile : ∀ x ∈ ds, x.file ≠ d.file) :
  t.insertDocument d.row = if d.id ∈ ds.map Document.id then none
    else some { t with documents := (ds ++ [d]).map Document.row }
  := by
  have hany : (t.documents.any fun s => s.file = d.row.file) = false := by
    rw [h, List.any_map, List.any_eq_false]
    intro x hx hxd
    apply hfile x hx (of_decide_eq_true hxd)
  have hid : (t.documents.any fun s => s.id = d.row.id) = true ↔ d.id ∈ ds.map Document.id := by
    rw [h, List.any_map, List.any_eq_true, List.mem_map]
    simp only [Function.comp_apply, decide_eq_true_eq]
    rfl
  rw [insertDocument, if_neg (by simp [hany]), h, List.map_append]
  simp only [← hid, h]
  rfl

theorem documentOf?_middle (h : t.documents = (pre ++ e :: post).map Document.row)
    (hpre : ∀ x ∈ pre, x.file ≠ e.file) :
  t.documentOf? e.file = some e.row
  := by
  rw [documentOf?, h, List.map_append, List.find?_append, List.find?_eq_none.2]
  · simp [Document.row]
  · intro r hr hfile
    obtain ⟨x, hx, rfl⟩ := List.mem_map.1 hr
    apply hpre x hx (of_decide_eq_true hfile)

theorem filter_ne_id (hid : e.id ∉ ds.map Document.id) :
  (ds.filter fun x => !decide (x.id = e.id)) = ds
  := by
  rw [List.filter_eq_self]
  intro x hx
  rw [Bool.not_eq_true', decide_eq_false_iff_not]
  intro hxe
  apply hid (List.mem_map.2 ⟨x, hx, hxe⟩)

theorem filter_ne_id_middle (hid : e.id ∉ (pre ++ post).map Document.id) :
  ((pre ++ e :: post).filter fun x => !decide (x.id = e.id)) = pre ++ post
  := by
  rw [List.filter_append, List.filter_cons_of_neg (by simp), ← List.filter_append, filter_ne_id hid]

/-- Pages are inserted below the row of a document exactly if the document is storable with them,
and then the tables represent it in its place. -/
theorem insertPages_middle_cases (h : t.documents = (pre ++ e :: post).map Document.row)
    (hbelow : t.RowsBelow (pre ++ post)) (hs : Storable (pre ++ post))
    (hfile : e.file ∉ (pre ++ post).map Document.file)
    (hid : e.id ∉ (pre ++ post).map Document.id) :
  (∃ u, t.insertPages e.id 0 e.pages = some u ∧ u.Represents (pre ++ e :: post))
    ∨ t.insertPages e.id 0 e.pages = none ∧ ¬Storable (pre ++ e :: post)
  := by
  have hstorable := storable_middle_iff (d := e) hbelow
  by_cases hadmits : t.AdmitsPages e.pages
  · left
    use t.withPages e.pageRows e.pages, insertPages_eq_some_iff.2 ⟨hadmits, rfl⟩
    exact ⟨h, hbelow.withPages e, hstorable.2 ⟨hs, hfile, hid, hadmits⟩⟩
  · right
    constructor
    · rw [Option.eq_none_iff_forall_ne_some]
      intro u hu
      apply hadmits (insertPages_eq_some_iff.1 hu).1
    · intro hs
      apply hadmits (hstorable.1 hs).2.2.2

theorem upsertOne_eq (hinsert : t.insertDocument d.row = some u)
    (hfound : u.documentOf? d.file = some e.row) :
  Relational.upsertOne t d
    = match (u.dropPages fun id => id = e.id).insertPages e.id 0 d.pages with
      | none => .error (.write (.insertPages d.file))
      | some v => .ok v
  := by
  have hrow : (⟨d.id, d.file⟩ : DocumentRow) = d.row := rfl
  rw [Relational.upsertOne, hrow, hinsert]
  simp only [hfound, Option.map_some, Option.getD_some]
  rfl

/-- With the row of a document in place, the pages below it are replaced exactly if the result is
storable, and then the tables represent it. -/
theorem upsertOne_cases_of_insertDocument (hinsert : t.insertDocument d.row = some u)
    (h : u.documents = (pre ++ e :: post).map Document.row)
    (hbelow : (u.dropPages fun id => id = e.id).RowsBelow (pre ++ post))
    (hs : Storable (pre ++ post)) (hfile : e.file ∉ (pre ++ post).map Document.file)
    (hid : e.id ∉ (pre ++ post).map Document.id) (hfiles : e.file = d.file)
    (hpages : e.pages = d.pages) :
  (∃ v, Relational.upsertOne t d = .ok v ∧ v.Represents (pre ++ e :: post))
    ∨ (∃ x, Relational.upsertOne t d = .error x) ∧ ¬Storable (pre ++ e :: post)
  := by
  have hpre : ∀ x ∈ pre, x.file ≠ e.file := by
    intro x hx hxe
    apply hfile (List.mem_map.2 ⟨x, List.mem_append_left post hx, hxe⟩)
  have hfound := documentOf?_middle h hpre
  rw [hfiles] at hfound
  rw [upsertOne_eq hinsert hfound, ← hpages]
  have hdrop : (u.dropPages fun id => id = e.id).documents = (pre ++ e :: post).map Document.row :=
    h
  rcases insertPages_middle_cases hdrop hbelow hs hfile hid with ⟨v, hv, hrep⟩ | ⟨hv, hns⟩
  · rw [hv]
    exact .inl ⟨v, rfl, hrep⟩
  · rw [hv]
    exact .inr ⟨⟨_, rfl⟩, hns⟩

/-- A document is stored exactly if the documents are storable afterwards, and then the tables
represent them. -/
theorem Represents.upsertOne_cases (h : t.Represents ds) (d : Document) :
  (∃ u, Relational.upsertOne t d = .ok u ∧ u.Represents (Memory.insert d ds))
    ∨ (∃ x, Relational.upsertOne t d = .error x) ∧ ¬Storable (Memory.insert d ds)
  := by
  rcases Memory.forall_ne_or_eq_append d.file ds with hne | ⟨pre, e, post, rfl, hpre, he⟩
  · rw [Memory.insert_of_forall_ne hne]
    have hinsert := insertDocument_of_forall_ne h.documents hne
    by_cases hid : d.id ∈ ds.map Document.id
    · rw [if_pos hid] at hinsert
      have hrow : (⟨d.id, d.file⟩ : DocumentRow) = d.row := rfl
      refine .inr ⟨⟨.write (.insertDocument d.file), ?_⟩, ?_⟩
      · rw [Relational.upsertOne, hrow, hinsert]
      · intro hs
        have hnodup := hs.documents
        rw [List.map_append, List.map_singleton, List.nodup_append'] at hnodup
        apply hnodup.2.2 hid List.mem_cons_self
    · rw [if_neg hid] at hinsert
      have hfile : d.file ∉ ds.map Document.file := by
        intro hmem
        obtain ⟨x, hx, hxd⟩ := List.mem_map.1 hmem
        apply hne x hx hxd
      have hbelow := h.below.dropPages h.storable fun id => id = d.id
      rw [filter_ne_id hid] at hbelow
      apply upsertOne_cases_of_insertDocument hinsert rfl _ _ _ _ rfl rfl
      all_goals rw [List.append_nil]
      · exact ⟨hbelow.pages, hbelow.lines, hbelow.coordinates⟩
      · apply h.storable
      · exact hfile
      · exact hid
  · rw [Memory.insert_middle hpre he]
    have hinsert :=
      insertDocument_of_file_eq h.documents (List.mem_append_right pre List.mem_cons_self) he
    have hfiles := h.storable.files
    have hids := h.storable.documents
    rw [List.map_append, List.map_cons, List.nodup_middle, List.nodup_cons, ← List.map_append]
      at hfiles hids
    have hbelow := h.below.dropPages h.storable fun id => id = e.id
    rw [filter_ne_id_middle hids.1] at hbelow
    apply upsertOne_cases_of_insertDocument (e := { e with pages := d.pages }) hinsert _ hbelow _
      hfiles.1 hids.1 he rfl
    · rw [h.documents, List.map_append, List.map_append]
      rfl
    · apply h.storable.sublist
      apply (List.sublist_cons_self e post).append_left pre

/-- Documents that are stored one after the other without a failure are represented in the end. -/
theorem Represents.upsertAll {xs : List Document} (h : t.Represents ds)
    (hok : Relational.upsertAll xs t = (.ok (), u)) :
  u.Represents (xs.foldl (fun es d => Memory.insert d es) ds)
  := by
  induction xs generalizing t ds with
  | nil =>
    cases hok
    exact h
  | cons d xs ih =>
    rw [Relational.upsertAll] at hok
    rcases h.upsertOne_cases d with ⟨v, hv, hrep⟩ | ⟨⟨x, hx⟩, -⟩
    · rw [hv] at hok
      apply ih hrep hok
    · rw [hx] at hok
      cases hok

/-- Removing documents chunk by chunk removes all that are named. -/
theorem Represents.foldl_dropDocuments (h : t.Represents ds) (chunks : List (List String)) :
  (chunks.foldl (fun t chunk => t.dropDocuments fun id => id ∈ chunk) t).Represents
    (ds.filter fun d => d.id ∉ chunks.flatten)
  := by
  induction chunks generalizing t ds with
  | nil =>
    rw [List.foldl_nil, List.filter_eq_self.2]
    · exact h
    · simp
  | cons chunk chunks ih =>
    have hfilter : (ds.filter fun d => d.id ∉ (chunk :: chunks).flatten)
        = (ds.filter fun d => !decide (d.id ∈ chunk)).filter fun d => d.id ∉ chunks.flatten := by
      rw [List.filter_filter]
      apply List.filter_congr
      intro d _
      simp [Bool.and_comm]
    rw [List.foldl_cons, hfilter]
    apply ih (h.dropDocuments fun id => id ∈ chunk)

end Sql.Tables

/-! ### Selecting documents -/

/-- The statement of the query can be run for the purpose: it has few enough operands, and is not
too deep. -/
def Query.Fits (q : Query) (p : Purpose) : Prop :=
  q.statement.binds.length ≤ maxBinds ∧ q.expr.fits p = true

instance (q : Query) (p : Purpose) : Decidable (q.Fits p) :=
  inferInstanceAs (Decidable (_ ∧ _))

namespace Sql.Tables

variable {t : Tables} {ds : List Document} {q : Query}

/-- The statements of the query that can be run select the rows of the documents that are found. -/
def Finds (t : Tables) (q : Query) (found : List Document) : Prop :=
  ∀ p : Purpose,
    t.select? p q.statement = if q.Fits p then some (found.map Document.row) else none

theorem finds_filter {accepts : Document → Bool} (h : t.documents = ds.map Document.row)
    (hselects : ∀ d ∈ ds, q.expr.selects t d.row = accepts d) :
  t.Finds q (ds.filter accepts)
  := by
  intro p
  have hbind : Expr.bind? q.statement.clause q.statement.binds = some q.expr :=
    q.grammatical_expr.bind?_statement
  have hrows : t.documents.filter (q.expr.selects t) = (ds.filter accepts).map Document.row := by
    rw [h, List.filter_map]
    congr 1
    apply List.filter_congr hselects
  rw [Tables.select?, hbind]
  simp only [hrows]
  by_cases hbinds : maxBinds < q.statement.binds.length
  · rw [if_pos hbinds, if_neg]
    intro hfits
    apply Nat.not_le_of_lt hbinds hfits.1
  · rw [if_neg hbinds]
    simp [Query.Fits, Nat.le_of_not_lt hbinds]

/-- Tables that represent documents find those that the query accepts. -/
theorem Represents.finds (h : t.Represents ds) (q : Query) :
  t.Finds q (ds.filter q.accepts)
  := by
  apply finds_filter h.documents
  intro d hd
  apply Query.selects_expr (h.holds hd) q

variable {found : List Document}

theorem Finds.select?_eq (h : t.Finds q found) (p : Purpose) :
  (Relational.ofTables t).select? p q
    = if q.Fits p then some (t, found.map Document.row) else none
  := by
  have hreach : (Relational.ofTables t).reach? = some t := rfl
  rw [Relational.select?, hreach, Option.bind_eq_bind, Option.bind_some, h p]
  split <;> rfl

theorem Finds.documents_eq (h : t.Finds q found) :
  Relational.documents q (Relational.ofTables t)
    = if q.Fits .documents then assemble (t.joined (found.map Document.row))
      else .error (.read .queryDocuments)
  := by
  rw [Relational.documents, h.select?_eq]
  by_cases hfits : q.Fits .documents
  · rw [if_pos hfits, if_pos hfits]
  · rw [if_neg hfits, if_neg hfits]

theorem Finds.keys_eq (h : t.Finds q found) :
  Relational.keys q (Relational.ofTables t)
    = if q.Fits .keys then .ok (found.map Document.id) else .error (.read .queryKeys)
  := by
  rw [Relational.keys, h.select?_eq]
  by_cases hfits : q.Fits .keys
  · rw [if_pos hfits, if_pos hfits]
    simp only [List.map_map]
    rfl
  · rw [if_neg hfits, if_neg hfits]

end Sql.Tables

namespace Relational

/-- The tables of the store represent the documents. -/
def Represents (s : Relational) (m : Memory) : Prop :=
  ∃ t, s = ofTables t ∧ t.Represents m.documents

variable {s s' : Relational} {m : Memory}

theorem Represents.select?_eq (h : s.Represents m) (p : Purpose) (q : Query) :
  ∃ t : Tables, t.Represents m.documents ∧ s = ofTables t
    ∧ s.select? p q = if q.Fits p then some (t, (m.select q).map Document.row) else none
  := by
  obtain ⟨t, rfl, ht⟩ := h
  use t, ht, rfl
  apply (ht.finds q).select?_eq p

/-- A store whose tables can be reached is open. -/
theorem eq_ofTables_of_reach?_eq_some {t : Tables} (h : s.reach? = some t) :
  s = ofTables t
  := by
  obtain ⟨tables, isOpen⟩ := s
  cases isOpen with
  | false => cases h
  | true =>
    change tables = some t at h
    rw [h]
    rfl

theorem upsert_ofTables (ds : List Document) (t : Tables) :
  Relational.upsert ds (ofTables t) = ((upsertAll ds t).1, ofTables (upsertAll ds t).2)
  := by
  cases ds <;> rfl

theorem delete_ofTables (ids : List String) (t : Tables) :
  Relational.delete ids (ofTables t) = (.ok (), ofTables
    ((chunks deleteChunk ids).foldl (fun t chunk => t.dropDocuments fun id => id ∈ chunk) t))
  := by
  have hreach : (ofTables t).reach? = some t := rfl
  rw [Relational.delete, hreach]
  cases chunks deleteChunk ids <;> rfl

theorem Represents.upsert {ds : List Document} (h : s.Represents m)
    (hok : Relational.upsert ds s = (.ok (), s')) :
  s'.Represents (m.upsert ds)
  := by
  obtain ⟨t, rfl, ht⟩ := h
  rw [upsert_ofTables, Prod.mk.injEq] at hok
  obtain ⟨hok, rfl⟩ := hok
  exact ⟨_, rfl, ht.upsertAll (Prod.ext hok rfl)⟩

theorem Represents.delete (h : s.Represents m) (ids : List String) :
  ∃ s', Relational.delete ids s = (.ok (), s') ∧ s'.Represents (m.delete ids)
  := by
  obtain ⟨t, rfl, ht⟩ := h
  have hdrop := ht.foldl_dropDocuments (chunks deleteChunk ids)
  rw [flatten_chunks] at hdrop
  exact ⟨_, delete_ofTables ids t, _, rfl, hdrop⟩

theorem Represents.deleteWhere (h : s.Represents m) {q : Query} (hfits : q.Fits .removal) :
  ∃ s', Relational.deleteWhere q s = (.ok (), s') ∧ s'.Represents (m.deleteWhere q)
  := by
  obtain ⟨t, ht, rfl, hselect⟩ := h.select?_eq .removal q
  rw [if_pos hfits] at hselect
  have hdrop := ht.dropDocuments fun id => ((m.select q).map Document.row).any fun r => r.id = id
  have hfilter : (m.documents.filter fun d =>
      !(((m.select q).map Document.row).any fun r => r.id = d.id))
        = m.documents.filter fun d => !q.accepts d := by
    apply List.filter_congr
    intro d hd
    rw [List.any_map]
    exact congrArg Bool.not (any_filter_key_eq ht.storable.documents hd q.accepts)
  rw [hfilter] at hdrop
  rw [Relational.deleteWhere, hselect]
  exact ⟨_, rfl, _, rfl, hdrop⟩

theorem Represents.documents_eq (h : s.Represents m) (q : Query) :
  Relational.documents q s
    = if q.Fits .documents then .ok ((m.select q).map Document.plain)
      else .error (.read .queryDocuments)
  := by
  obtain ⟨t, rfl, ht⟩ := h
  rw [(ht.finds q).documents_eq, ht.assemble_joined List.filter_sublist]
  rfl

theorem Represents.keys_eq (h : s.Represents m) (q : Query) :
  Relational.keys q s
    = if q.Fits .keys then .ok ((m.select q).map Document.id) else .error (.read .queryKeys)
  := by
  obtain ⟨t, rfl, ht⟩ := h
  apply (ht.finds q).keys_eq

theorem Represents.count_eq (h : s.Represents m) :
  Relational.count s = .ok m.documents.length
  := by
  obtain ⟨t, rfl, ht⟩ := h
  change Except.ok t.documents.length = _
  rw [ht.documents, List.length_map]

instance : LawfulStore Relational where
  Keeps := Represents
  setup := by
    rintro s s' m ⟨t, rfl, ht⟩ ⟨⟩
    exact ⟨t, rfl, ht⟩
  upsert h hok := h.upsert hok
  delete := by
    intro s s' m ids h hok
    obtain ⟨u, hu, hrep⟩ := h.delete ids
    cases hok.symm.trans hu
    exact hrep
  deleteWhere := by
    intro s s' m q h hok
    by_cases hfits : q.Fits .removal
    · obtain ⟨u, hu, hrep⟩ := h.deleteWhere hfits
      cases hok.symm.trans hu
      exact hrep
    · obtain ⟨t, -, -, hselect⟩ := h.select?_eq .removal q
      rw [if_neg hfits] at hselect
      change Relational.deleteWhere q s = _ at hok
      rw [Relational.deleteWhere, hselect] at hok
      cases hok
  documents := by
    intro s m q ds h hok
    change Relational.documents q s = _ at hok
    rw [h.documents_eq] at hok
    split at hok
    · cases hok
      simp
    · cases hok
  keys := by
    intro s m q ids h hok
    change Relational.keys q s = _ at hok
    rw [h.keys_eq] at hok
    split at hok
    · cases hok
      rfl
    · cases hok
  count := by
    intro s m n h hok
    change Relational.count s = _ at hok
    rw [h.count_eq] at hok
    cases hok
    rfl

/-- The store that has just been set up represents no documents. -/
theorem represents_empty :
  empty.Represents .empty
  := by
  have hstorable : Storable [] := by constructor <;> decide
  exact ⟨_, rfl, Tables.represents_ofDocuments hstorable⟩

end Relational

end ScanIndex
