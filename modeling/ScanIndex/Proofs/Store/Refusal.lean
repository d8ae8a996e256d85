import ScanIndex.Proofs.Store.Interchange
import ScanIndex.Proofs.Store.Upsert

/-!
# Refused documents

`Memory.Refuses` says when the documents that are stored leave no room for one more.  A store in
tables stores documents one after the other up to the first that is refused, and is left as after
the ones before it (`Represents.upsert_cases`).  This holds in every state that calls can lead to
(`upsert_stops_at_first_refused`).
-/

namespace ScanIndex

open Sql

/-- A kind of rows below a document. -/
inductive RowKind where
  | page
  | line
  | coordinates
deriving DecidableEq

/-- The identifiers of the rows of a kind that a page takes. -/
def Page.ids (p : Page) : RowKind → List String
  | .page => [p.id]
  | .line => p.lines.map Line.id
  | .coordinates => p.lines.map fun l => l.coordinates.id

/-- The identifiers of the rows of a kind below a document. -/
def Document.idsBelow (d : Document) (k : RowKind) : List String := d.pages.flatMap fun p => p.ids k

theorem Document.idsBelow_page (d : Document) :
  d.idsBelow .page = d.pages.map Page.id
  := List.flatMap_pure_eq_map Page.id d.pages

theorem Document.idsBelow_line (d : Document) :
  d.idsBelow .line = d.lines.map Line.id
  := List.map_flatMap.symm

theorem Document.idsBelow_coordinates (d : Document) :
  d.idsBelow .coordinates = d.lines.map fun l => l.coordinates.id
  := List.map_flatMap.symm

/-- Why a document cannot be stored beside the documents that are. -/
inductive Memory.Refuses (m : Memory) (d : Document) : Prop
  /-- The file is a new one, and the identifier is taken by another document. -/
  | document (hfile : d.file ∉ m.files) (hid : d.id ∈ m.documents.map Document.id)
  /-- Two rows of a kind below the document have the same identifier. -/
  | repeated (k : RowKind) (h : ¬(d.idsBelow k).Nodup)
  /-- A row below the document has the identifier of a row of its kind below a document of another
  file. -/
  | taken (k : RowKind) {e : Document} {id : String} (he : e ∈ m.documents)
      (hfile : e.file ≠ d.file) (hid : id ∈ d.idsBelow k) (hused : id ∈ e.idsBelow k)
  /-- Some coordinate is no number. -/
  | emptyCell {l : Line} (hl : l ∈ d.lines) (h : hasEmptyCell l.coordinates.corners = true)

namespace Memory

variable {m : Memory} {d e : Document} {pre post ds : List Document}

theorem not_refuses_iff :
  ¬m.Refuses d
    ↔ (d.file ∉ m.files → d.id ∉ m.documents.map Document.id)
      ∧ (∀ k, (d.idsBelow k).Nodup)
      ∧ (∀ k, ∀ e ∈ m.documents, e.file ≠ d.file → (d.idsBelow k).Disjoint (e.idsBelow k))
      ∧ ∀ l ∈ d.lines, hasEmptyCell l.coordinates.corners = false
  := by
  constructor
  · intro h
    refine ⟨?_, ?_, ?_, ?_⟩
    · intro hfile hid
      exact h (.document hfile hid)
    · intro k
      by_contra hk
      exact h (.repeated k hk)
    · intro k e he hfile id hid hused
      exact h (.taken k he hfile hid hused)
    · intro l hl
      rw [← Bool.not_eq_true]
      intro hempty
      exact h (.emptyCell hl hempty)
  · rintro ⟨hid, hnodup, hdisjoint, hfull⟩ h
    cases h with
    | document hfile hused => exact hid hfile hused
    | repeated k hk => exact hk (hnodup k)
    | taken k he hfile hx hused => exact hdisjoint k _ he hfile hx hused
    | emptyCell hl hempty =>
      rw [hfull _ hl] at hempty
      cases hempty

/-! ### Refused, or storable -/

/-- The identifiers of the rows of a document are fresh among those of documents of other files. -/
theorem fresh_flatMap_iff (k : RowKind) :
  Fresh (d.idsBelow k) (ds.flatMap fun e => e.idsBelow k)
    ↔ (d.idsBelow k).Nodup ∧ ∀ e ∈ ds, (d.idsBelow k).Disjoint (e.idsBelow k)
  := by
  refine and_congr_right' ?_
  constructor
  · intro h e he id hid hused
    exact h hid (List.mem_flatMap.2 ⟨e, he, hused⟩)
  · intro h id hid hused
    obtain ⟨e, he, hused⟩ := List.mem_flatMap.1 hused
    exact h e he hid hused

/-- A document of a new file and with an identifier that is free is storable among others exactly if
the identifiers of its rows are fresh, and no coordinate is missing. -/
theorem storable_middle_iff_fresh (hs : Storable (pre ++ post))
    (hfile : d.file ∉ (pre ++ post).map Document.file)
    (hid : d.id ∉ (pre ++ post).map Document.id) :
  Storable (pre ++ d :: post)
    ↔ (∀ k, (d.idsBelow k).Nodup ∧ ∀ e ∈ pre ++ post, (d.idsBelow k).Disjoint (e.idsBelow k))
      ∧ ∀ l ∈ d.lines, hasEmptyCell l.coordinates.corners = false
  := by
  have hbelow := (Tables.represents_ofDocuments hs).below
  have hpages : (pagesIn (pre ++ post)).map Page.id
      = (pre ++ post).flatMap fun e => e.idsBelow .page := by
    simp only [pagesIn, List.map_flatMap, Document.idsBelow_page]
  have hlines : (linesIn (pre ++ post)).map Line.id
      = (pre ++ post).flatMap fun e => e.idsBelow .line := by
    simp only [linesIn, List.map_flatMap, Document.idsBelow_line]
  have hcoordinates : ((linesIn (pre ++ post)).map fun l => l.coordinates.id)
      = (pre ++ post).flatMap fun e => e.idsBelow .coordinates := by
    simp only [linesIn, List.map_flatMap, Document.idsBelow_coordinates]
  have hmiddle := Tables.storable_middle_iff (d := d) hbelow
  rw [hbelow.admitsPages_iff, hpages, hlines, hcoordinates, ← d.idsBelow_page] at hmiddle
  change Storable (pre ++ d :: post) ↔ _ ∧ _ ∧ _ ∧ _ ∧ Fresh (d.lines.map _) _
    ∧ Fresh (d.lines.map _) _ ∧ ∀ l ∈ d.lines, _ at hmiddle
  rw [← d.idsBelow_line, ← d.idsBelow_coordinates] at hmiddle
  simp only [fresh_flatMap_iff] at hmiddle
  rw [hmiddle]
  constructor
  · rintro ⟨-, -, -, hp, hl, hc, hfull⟩
    refine ⟨?_, hfull⟩
    rintro (_ | _ | _)
    · exact hp
    · exact hl
    · exact hc
  · rintro ⟨hfresh, hfull⟩
    exact ⟨hs, hfile, hid, hfresh .page, hfresh .line, hfresh .coordinates, hfull⟩

/-- A document of a new file is refused exactly if the documents would not be storable with it. -/
theorem storable_append_iff (hs : Storable ds) (hne : ∀ x ∈ ds, x.file ≠ d.file) :
  Storable (ds ++ [d]) ↔ ¬Refuses ⟨ds⟩ d
  := by
  have hfile : d.file ∉ ds.map Document.file := by
    intro hmem
    obtain ⟨x, hx, hxd⟩ := List.mem_map.1 hmem
    exact hne x hx hxd
  rw [not_refuses_iff]
  by_cases hid : d.id ∈ ds.map Document.id
  · constructor
    · intro h
      have hnodup := h.documents
      rw [List.map_append, List.map_singleton, List.nodup_append'] at hnodup
      exact absurd List.mem_cons_self (hnodup.2.2 hid)
    · rintro ⟨h, -⟩
      exact absurd hid (h hfile)
  · have hmiddle := @storable_middle_iff_fresh d ds []
    rw [List.append_nil] at hmiddle
    rw [hmiddle hs hfile hid]
    constructor
    · rintro ⟨hfresh, hfull⟩
      exact ⟨fun _ => hid, fun k => (hfresh k).1, fun k e he _ => (hfresh k).2 e he, hfull⟩
    · rintro ⟨-, hnodup, hdisjoint, hfull⟩
      exact ⟨fun k => ⟨hnodup k, fun e he => hdisjoint k e he (hne e he)⟩, hfull⟩

/-- A document of a stored file is refused exactly if the documents would not be storable with its
pages.  It goes on with the identifier of the stored one, so its own does not matter. -/
theorem storable_replace_iff (hs : Storable (pre ++ e :: post)) (he : e.file = d.file) :
  Storable (pre ++ { e with pages := d.pages } :: post) ↔ ¬Refuses ⟨pre ++ e :: post⟩ d
  := by
  have hfiles := hs.files
  have hids := hs.documents
  rw [List.map_append, List.map_cons, List.nodup_middle, List.nodup_cons, ← List.map_append]
    at hfiles hids
  have hothers : Storable (pre ++ post) := by
    apply hs.sublist
    apply (List.sublist_cons_self e post).append_left pre
  have hmem (x : Document) : x ∈ pre ++ post ↔ x ∈ pre ++ e :: post ∧ x.file ≠ d.file := by
    rw [List.perm_middle.mem_iff, List.mem_cons, ← he]
    constructor
    · intro hx
      refine ⟨.inr hx, ?_⟩
      intro hxe
      exact hfiles.1 (List.mem_map.2 ⟨x, hx, hxe⟩)
    · rintro ⟨rfl | hx, hxe⟩
      · exact absurd rfl hxe
      · exact hx
  have hstored : d.file ∈ files ⟨pre ++ e :: post⟩ :=
    List.mem_map.2 ⟨e, List.mem_append_right pre List.mem_cons_self, he⟩
  rw [storable_middle_iff_fresh (d := { e with pages := d.pages }) hothers hfiles.1 hids.1,
    not_refuses_iff]
  constructor
  · rintro ⟨hfresh, hfull⟩
    refine ⟨fun hnot => absurd hstored hnot, fun k => (hfresh k).1, ?_, hfull⟩
    intro k x hx hxd
    exact (hfresh k).2 x ((hmem x).2 ⟨hx, hxd⟩)
  · rintro ⟨-, hnodup, hdisjoint, hfull⟩
    refine ⟨?_, hfull⟩
    intro k
    refine ⟨hnodup k, ?_⟩
    intro x hx
    exact hdisjoint k x ((hmem x).1 hx).1 ((hmem x).1 hx).2

/-- A document is refused exactly if the documents would not be storable once it is stored. -/
theorem storable_insert_iff (hs : Storable ds) (d : Document) :
  Storable (insert d ds) ↔ ¬Refuses ⟨ds⟩ d
  := by
  rcases forall_ne_or_eq_append d.file ds with hne | ⟨pre, e, post, rfl, hpre, he⟩
  · rw [insert_of_forall_ne hne]
    apply storable_append_iff hs hne
  · rw [insert_middle hpre he]
    apply storable_replace_iff hs he

/-! ### Documents that are accepted one after the other -/

/-- No document is refused by the documents that are stored when its turn comes. -/
def AcceptsAll (m : Memory) (ds : List Document) : Prop :=
  ∀ i d, ds[i]? = some d → ¬(m.upsert (ds.take i)).Refuses d

theorem acceptsAll_nil (m : Memory) :
  m.AcceptsAll []
  := by
  intro i d hd
  cases hd

theorem acceptsAll_cons_iff :
  m.AcceptsAll (d :: ds) ↔ ¬m.Refuses d ∧ (m.upsert [d]).AcceptsAll ds
  := by
  constructor
  · intro h
    exact ⟨h 0 d rfl, fun i => h (i + 1)⟩
  · rintro ⟨hd, hds⟩ i x hx
    cases i with
    | zero =>
      cases hx
      exact hd
    | succ i => exact hds i x hx

end Memory

/-! ### Documents in tables -/

namespace Relational

variable {s s' : Relational} {m : Memory} {d : Document}

/-- Store documents one by one, each by a call of its own. -/
def upsertEach (ds : List Document) (s : Relational) : Relational :=
  ds.foldl (fun s d => (Relational.upsert [d] s).2) s

/-- A document is stored exactly if it is not refused, and one that is refused leaves no trace. -/
theorem Represents.upsert_one_cases (h : s.Represents m) (d : Document) :
  (¬m.Refuses d ∧ ∃ s', Relational.upsert [d] s = (.ok (), s') ∧ s'.Represents (m.upsert [d]))
    ∨ m.Refuses d ∧ ∃ e, Relational.upsert [d] s = (.error e, s)
  := by
  obtain ⟨t, rfl, ht⟩ := h
  have hstorable := Memory.storable_insert_iff ht.storable d
  rw [upsert_ofTables, upsertAll]
  rcases ht.upsertOne_cases d with ⟨u, hu, hrep⟩ | ⟨⟨e, he⟩, hns⟩
  · rw [hu]
    exact .inl ⟨hstorable.1 hrep.storable, _, rfl, u, rfl, hrep⟩
  · rw [he]
    refine .inr ⟨?_, e, rfl⟩
    by_contra hd
    exact hns (hstorable.2 hd)

/-- Documents are stored one after the other, up to the first failure. -/
theorem Represents.upsert_cons (h : s.Represents m) (d : Document) (ds : List Document) :
  Relational.upsert (d :: ds) s
    = match Relational.upsert [d] s with
      | (.ok (), s') => Relational.upsert ds s'
      | (.error e, s') => (.error e, s')
  := by
  obtain ⟨t, rfl, -⟩ := h
  rw [upsert_ofTables, upsert_ofTables, upsertAll, upsertAll]
  cases upsertOne t d with
  | ok u => exact (upsert_ofTables ds u).symm
  | error e => rfl

/-- Storing documents goes through if all are accepted.  Otherwise it fails at the first that is
refused, and the store is left as if just the ones before it had been stored. -/
theorem Represents.upsert_cases (h : s.Represents m) (ds : List Document) :
  (m.AcceptsAll ds ∧ Relational.upsert ds s = (.ok (), upsertEach ds s)
      ∧ (upsertEach ds s).Represents (m.upsert ds))
    ∨ ∃ i d e, ds[i]? = some d ∧ m.AcceptsAll (ds.take i) ∧ (m.upsert (ds.take i)).Refuses d
      ∧ Relational.upsert ds s = (.error e, upsertEach (ds.take i) s)
      ∧ (upsertEach (ds.take i) s).Represents (m.upsert (ds.take i))
  := by
  induction ds generalizing s m with
  | nil => exact .inl ⟨m.acceptsAll_nil, rfl, h⟩
  | cons d ds ih =>
    have hcons := h.upsert_cons d ds
    rcases h.upsert_one_cases d with ⟨hd, s', hs', hrep⟩ | ⟨hd, e, he⟩
    · rw [hs'] at hcons
      have heach (xs : List Document) : upsertEach (d :: xs) s = upsertEach xs s' := by
        rw [upsertEach, List.foldl_cons, hs']
        rfl
      rcases ih hrep with ⟨haccepts, hok, hrep'⟩ | ⟨i, x, e, hx, haccepts, hrefuses, herror, hrep'⟩
      · rw [heach]
        exact .inl ⟨Memory.acceptsAll_cons_iff.2 ⟨hd, haccepts⟩, hcons.trans hok, hrep'⟩
      · refine .inr ⟨i + 1, x, e, hx, ?_, hrefuses, ?_, ?_⟩
        · exact Memory.acceptsAll_cons_iff.2 ⟨hd, haccepts⟩
        · rw [List.take_succ_cons, heach]
          exact hcons.trans herror
        · rw [List.take_succ_cons, heach]
          exact hrep'
    · rw [he] at hcons
      exact .inr ⟨0, d, e, rfl, m.acceptsAll_nil, hd, hcons, h⟩

end Relational

/-! ### Every state that calls lead to -/

/-- A store after calls, one after the other, whether they fail or not. -/
def after {σ : Type} [DocumentStore σ] (cs : List StoreCall) (s : σ) : σ :=
  cs.foldl (fun s c => (c.run s).2) s

/-- The documents that a call leaves in tables, of those that were there.  Documents are stored up
to the first that is refused, and a removal takes place if its statement can be run. -/
def StoreCall.Leaves (m m' : Memory) : StoreCall → Prop
  | upsert ds => ∃ n, m.AcceptsAll (ds.take n)
      ∧ (∀ d, ds[n]? = some d → (m.upsert (ds.take n)).Refuses d) ∧ m' = m.upsert (ds.take n)
  | delete ids => m' = m.delete ids
  | deleteWhere q => m' = if q.Fits .removal then m.deleteWhere q else m
  | _ => m' = m

/-- The documents that calls leave in tables, one after the other. -/
def LeavesAll : List StoreCall → Memory → Memory → Prop
  | [], m, m' => m' = m
  | c :: cs, m, m'' => ∃ m', c.Leaves m m' ∧ LeavesAll cs m' m''

namespace Relational

variable {s : Relational} {m : Memory}

/-- After a call, even one that fails, the tables represent the documents that it leaves. -/
theorem Represents.run (h : s.Represents m) (c : StoreCall) :
  ∃ m', c.Leaves m m' ∧ (c.run s).2.Represents m'
  := by
  cases c with
  | setup =>
    obtain ⟨t, rfl, ht⟩ := h
    exact ⟨m, rfl, t, rfl, ht⟩
  | upsert ds =>
    change ∃ m', _ ∧ (Relational.upsert ds s).2.Represents m'
    rcases h.upsert_cases ds with ⟨haccepts, hok, hrep⟩
      | ⟨i, d, e, hd, haccepts, hrefuses, herror, hrep⟩
    · rw [hok]
      refine ⟨_, ⟨ds.length, ?_, by simp, rfl⟩, ?_⟩
      · rw [List.take_length]
        exact haccepts
      · rw [List.take_length]
        exact hrep
    · rw [herror]
      refine ⟨_, ⟨i, haccepts, ?_, rfl⟩, hrep⟩
      intro x hx
      cases hd.symm.trans hx
      exact hrefuses
  | delete ids =>
    obtain ⟨s', hs', hrep⟩ := h.delete ids
    change ∃ m', _ ∧ (Relational.delete ids s).2.Represents m'
    rw [hs']
    exact ⟨_, rfl, hrep⟩
  | deleteWhere q =>
    change ∃ m', m' = _ ∧ (Relational.deleteWhere q s).2.Represents m'
    by_cases hfits : q.Fits .removal
    · obtain ⟨s', hs', hrep⟩ := h.deleteWhere hfits
      rw [hs', if_pos hfits]
      exact ⟨_, rfl, hrep⟩
    · obtain ⟨t, -, -, hselect⟩ := h.select?_eq .removal q
      rw [Relational.deleteWhere, hselect, if_neg hfits, if_neg hfits]
      exact ⟨m, rfl, h⟩
  | documents q => exact ⟨m, rfl, h⟩
  | keys q => exact ⟨m, rfl, h⟩
  | count => exact ⟨m, rfl, h⟩

/-- After any calls, the tables represent the documents that they leave. -/
theorem Represents.after_leaves (h : s.Represents m) (cs : List StoreCall) :
  ∃ m', LeavesAll cs m m' ∧ (ScanIndex.after cs s).Represents m'
  := by
  induction cs generalizing s m with
  | nil => exact ⟨m, rfl, h⟩
  | cons c cs ih =>
    obtain ⟨v, hv, hrep⟩ := h.run c
    obtain ⟨m', hm', hrep'⟩ := ih hrep
    exact ⟨m', ⟨v, hv, hm'⟩, hrep'⟩

/-- After any calls, the tables represent documents. -/
theorem Represents.after (h : s.Represents m) (cs : List StoreCall) :
  ∃ m', (ScanIndex.after cs s).Represents m'
  := by
  obtain ⟨m', -, hrep⟩ := h.after_leaves cs
  use m'

/-- The identifier that comes with a document does not matter if its file is stored. -/
theorem Represents.upsert_of_mem_files (h : s.Represents m) {d : Document} (hd : d.file ∈ m.files)
    (id : String) :
  Relational.upsert [{ d with id := id }] s = Relational.upsert [d] s
  := by
  obtain ⟨t, rfl, ht⟩ := h
  rcases Memory.forall_ne_or_eq_append d.file m.documents with hne | ⟨pre, e, post, hds, hpre, he⟩
  · obtain ⟨x, hx, hxd⟩ := List.mem_map.1 hd
    exact absurd hxd (hne x hx)
  · have hdocuments := ht.documents
    rw [hds] at hdocuments
    have hmem : e ∈ pre ++ e :: post := List.mem_append_right pre List.mem_cons_self
    have hfound := Tables.documentOf?_middle hdocuments (by rw [he]; exact hpre)
    rw [he] at hfound
    have hone (x : Document) (hx : x.file = d.file) (hpages : x.pages = d.pages) :
        upsertOne t x = upsertOne t d := by
      rw [Tables.upsertOne_eq (Tables.insertDocument_of_file_eq hdocuments hmem (he.trans hx.symm))
          (by rw [hx]; exact hfound),
        Tables.upsertOne_eq (Tables.insertDocument_of_file_eq hdocuments hmem he) hfound, hx,
          hpages]
    rw [upsert_ofTables, upsert_ofTables, upsertAll, upsertAll, hone { d with id := id } rfl rfl]

/-- In every state that calls lead to, documents are stored one after the other up to the first that
is refused, if there is one; the store is left as if the documents before it had been stored one by
one.  The identifier of a document of a stored file never makes a difference. -/
theorem upsert_stops_at_first_refused (cs : List StoreCall) (ds : List Document) :
  ∃ s m, s = ScanIndex.after cs Relational.empty ∧ s.Represents m
    ∧ ((m.AcceptsAll ds ∧ Relational.upsert ds s = (.ok (), upsertEach ds s)
          ∧ (upsertEach ds s).Represents (m.upsert ds))
      ∨ ∃ i d e, ds[i]? = some d ∧ m.AcceptsAll (ds.take i) ∧ (m.upsert (ds.take i)).Refuses d
          ∧ Relational.upsert ds s = (.error e, upsertEach (ds.take i) s)
          ∧ (upsertEach (ds.take i) s).Represents (m.upsert (ds.take i)))
    ∧ ∀ d id, d.file ∈ m.files →
        Relational.upsert [{ d with id := id }] s = Relational.upsert [d] s
  := by
  obtain ⟨m, h⟩ := represents_empty.after cs
  refine ⟨_, m, rfl, h, h.upsert_cases ds, ?_⟩
  intro d id hd
  apply h.upsert_of_mem_files hd id

/-- A line of the second document has a taken identifier: the first document is stored, the page of
the second one leaves no trace, and the third is not tried. -/
example :
    let l : Line := ⟨"l", "total", ⟨"c", ⟨⟨0, 0⟩, ⟨1, 0⟩, ⟨0, 1⟩, ⟨1, 1⟩⟩⟩⟩
    let s := (Relational.upsert [⟨"d", "b", "p.jpg", [⟨"p", 1, [l]⟩]⟩] .empty).2
    let (r, s') := Relational.upsert [⟨"e", "b", "q.png", [⟨"q", 1, []⟩]⟩,
      ⟨"f", "b", "r.png", [⟨"r", 1, [l]⟩]⟩, ⟨"g", "b", "s.png", []⟩] s
    r = .error (.write (.insertPages ⟨"b", "r.png"⟩)) ∧ s'.rowCounts? = some [2, 2, 1, 1]
  := by
  decide +kernel

end Relational

end ScanIndex
