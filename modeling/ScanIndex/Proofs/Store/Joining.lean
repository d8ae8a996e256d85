import Mathlib.Data.List.Forall2
import Mathlib.Data.List.SplitBy
import ScanIndex.Proofs.Store.Layout
import ScanIndex.Store.Rows

/-!
# Reading documents back

The joined rows of stored documents are read as these documents, made plain (`assemble_joined`).
Rows of one document, and of one page, are neighbours, since a document has its rows in one piece
and no identifier comes back later.

If the coordinates of some lines are lost, reading stops at the first of these lines, in the order
of the documents, their pages and their lines (`assemble_joined_dropCoordinates`).
-/

namespace ScanIndex

/-- Pieces that are told apart by their keys are found again in their concatenation. -/
theorem splitBy_flatMap_eq {α β : Type} {f : α → List β} {id : α → String} {key : β → String}
    {xs : List α} (hne : ∀ x ∈ xs, f x ≠ []) (hkey : ∀ x ∈ xs, ∀ y ∈ f x, key y = id x)
    (hid : (xs.map id).Nodup) :
  (xs.flatMap f).splitBy (fun y z => key y = key z) = xs.map f
  := by
  rw [List.flatMap_def]
  apply List.splitBy_flatten
  · intro hnil
    obtain ⟨x, hx, hfx⟩ := List.mem_map.1 hnil
    apply hne x hx hfx
  · intro ys hys
    obtain ⟨x, hx, rfl⟩ := List.mem_map.1 hys
    apply List.Pairwise.isChain
    apply List.pairwise_of_forall_mem_list
    intro y hy z hz
    rw [hkey x hx y hy, hkey x hx z hz]
    apply decide_eq_true rfl
  · rw [List.isChain_map]
    apply List.Pairwise.isChain
    refine List.Pairwise.imp_of_mem ?_ (List.pairwise_map.1 hid)
    intro x y hx hy hxy
    use hne x hx, hne y hy
    rw [hkey x hx _ (List.getLast_mem _), hkey y hy _ (List.head_mem _)]
    exact decide_eq_false hxy

namespace Sql

/-! ### Rows in the order of their positions -/

theorem map_position_pageRows (document : String) (n : Nat) (ps : List Page) :
  (pageRows document n ps).map PageRow.position = List.range' n ps.length
  := by
  fun_induction pageRows document n ps with
  | case1 => rfl
  | case2 n p ps ih => rw [List.map_cons, ih, List.length_cons, List.range'_succ]

theorem length_pageRows (document : String) (n : Nat) (ps : List Page) :
  (pageRows document n ps).length = ps.length
  := by
  rw [← List.length_map, map_position_pageRows, List.length_range']

theorem map_position_lineRows (page : String) (n : Nat) (ls : List Line) :
  (lineRows page n ls).map LineRow.position = List.range' n ls.length
  := by
  fun_induction lineRows page n ls with
  | case1 => rfl
  | case2 n l ls ih => rw [List.map_cons, ih, List.length_cons, List.range'_succ]

theorem length_lineRows (page : String) (n : Nat) (ls : List Line) :
  (lineRows page n ls).length = ls.length
  := by
  rw [← List.length_map, map_position_lineRows, List.length_range']

/-- Sorting by positions gives the list that is in their order already. -/
theorem mergeSort_eq_of_perm {α : Type} {position : α → Nat} {xs ys : List α} (h : xs.Perm ys)
    {n k : Nat} (hys : ys.map position = List.range' n k) :
  xs.mergeSort (fun x y => position x ≤ position y) = ys
  := by
  have hlt : (ys.map position).Pairwise (· < ·) := by
    rw [hys]
    exact List.pairwise_lt_range'
  have hinj : ∀ x ∈ ys, ∀ y ∈ ys, position x = position y → x = y := by
    intro x hx y hy
    apply List.inj_on_of_nodup_map (hlt.imp Nat.ne_of_lt) hx hy
  have hperm := (List.mergeSort_perm xs fun x y => position x ≤ position y).trans h
  have hsorted : (xs.mergeSort fun x y => position x ≤ position y).Pairwise
      fun x y => position x ≤ position y := by
    apply (List.pairwise_mergeSort _ _ xs).imp of_decide_eq_true
    · intro x y z hxy hyz
      apply decide_eq_true (Nat.le_trans (of_decide_eq_true hxy) (of_decide_eq_true hyz))
    · intro x y
      rw [Bool.or_eq_true, decide_eq_true_eq, decide_eq_true_eq]
      apply Nat.le_total _ _
  have hascending : ys.Pairwise fun x y => position x ≤ position y :=
    (List.pairwise_map.1 hlt).imp Nat.le_of_lt
  apply List.Perm.eq_of_pairwise _ hsorted hascending hperm
  intro x y hx hy hxy hyx
  exact hinj x (hperm.mem_iff.1 hx) y hy (Nat.le_antisymm hxy hyx)

/-! ### Rows below a document -/

theorem perm_filter_of_mem_iff {α : Type} {xs ys : List α} {p : α → Bool} (hxs : xs.Nodup)
    (hys : ys.Nodup) (h : ∀ x, x ∈ xs ∧ p x = true ↔ x ∈ ys) :
  (xs.filter p).Perm ys
  := by
  rw [List.perm_ext_iff_of_nodup (hxs.filter p) hys]
  intro x
  rw [List.mem_filter, h]

namespace Tables.RowsBelow

variable {t : Tables} {ds : List Document} {d : Document}

theorem pagesOf_eq (h : t.RowsBelow ds) (hs : Storable ds) (hd : d ∈ ds) :
  t.pagesOf d.id = d.pageRows
  := by
  have hposition : d.pageRows.map PageRow.position = List.range' 0 d.pages.length :=
    map_position_pageRows d.id 0 d.pages
  have hnodup : (d.pageRows.map PageRow.position).Nodup := by
    rw [hposition]
    exact List.nodup_range'
  apply mergeSort_eq_of_perm _ hposition
  apply perm_filter_of_mem_iff
  · apply (h.perm_page_ids.nodup_iff.2 hs.pages).of_map
  · exact hnodup.of_map
  · intro r
    rw [← (h.holds hs hd).pages, decide_eq_true_eq]

theorem linesOf_eq (h : t.RowsBelow ds) (hs : Storable ds) (hd : d ∈ ds) {p : Page}
    (hp : p ∈ d.pages) :
  t.linesOf p.id = p.lineRows
  := by
  have hposition : p.lineRows.map LineRow.position = List.range' 0 p.lines.length :=
    map_position_lineRows p.id 0 p.lines
  have hnodup : (p.lineRows.map LineRow.position).Nodup := by
    rw [hposition]
    exact List.nodup_range'
  apply mergeSort_eq_of_perm _ hposition
  apply perm_filter_of_mem_iff
  · apply (h.perm_line_ids.nodup_iff.2 hs.lines).of_map
  · apply hnodup.of_map
  · intro r
    rw [← (h.holds hs hd).lines hp, decide_eq_true_eq]

/-- The one row of coordinates of a line. -/
theorem filter_coordinates_eq (h : t.RowsBelow ds) (hs : Storable ds) (hd : d ∈ ds) {l : Line}
    (hl : l ∈ d.lines) :
  (t.coordinates.filter fun c => c.line = l.id) = [l.coordinatesRow]
  := by
  apply List.perm_singleton.1
  apply perm_filter_of_mem_iff
  · apply (h.perm_coordinates_ids.nodup_iff.2 hs.coordinates).of_map
  · apply List.nodup_singleton _
  · intro c
    rw [List.mem_singleton, ← (h.holds hs hd).coordinates hl, decide_eq_true_eq]

/-- A line stands beside its row of coordinates, or alone if that is lost. -/
theorem lineParts_dropCoordinates (h : t.RowsBelow ds) (hs : Storable ds) (hd : d ∈ ds) {l : Line}
    (hl : l ∈ d.lines) {r : LineRow} (hr : r.id = l.id) (lost : String → Bool) :
  (t.dropCoordinates lost).lineParts r = [⟨r, if lost l.id then none else some l.coordinatesRow⟩]
  := by
  have hfilter : ((t.dropCoordinates lost).coordinates.filter fun c => c.line = l.id)
      = [l.coordinatesRow].filter fun c => !lost c.line := by
    rw [← h.filter_coordinates_eq hs hd hl, List.filter_filter, dropCoordinates, List.filter_filter]
    simp only [Bool.and_comm]
  have hline : l.coordinatesRow.line = l.id := rfl
  rw [Tables.lineParts, hr, hfilter, List.filter_singleton, hline]
  cases lost l.id <;> rfl

end Tables.RowsBelow

/-! ### Reading the rows -/

theorem filterMap_orGap {α β : Type} {f : Option α → β} {g : β → Option α} (hg : ∀ x, g (f x) = x)
    (xs : List α) :
  ((orGap xs).map f).filterMap g = xs
  := by
  cases xs with
  | nil => simp [orGap, hg]
  | cons x xs => simp [orGap, List.filterMap_map, Function.comp_def, hg]

theorem orGap_ne_nil {α : Type} (xs : List α) :
  orGap xs ≠ []
  := by
  cases xs <;> simp [orGap]

theorem pageOfParts_map {r : PageRow} {ls : List (Option LinePart)} (hne : ls ≠ []) :
  pageOfParts (ls.map (PagePart.mk r))
    = ((ls.map (PagePart.mk r)).filterMap PagePart.line).mapM LinePart.toLine >>= fun lines =>
      .ok [⟨r.id, r.number, lines⟩]
  := by
  cases ls with
  | nil => exact absurd rfl hne
  | cons l ls => rfl

theorem documentOfRows_map {r : DocumentRow} {ps : List (Option PagePart)} (hne : ps ≠ []) :
  documentOfRows (ps.map (JoinedRow.mk r))
    = ((((ps.map (JoinedRow.mk r)).filterMap JoinedRow.page).splitBy fun p q =>
        p.page.id = q.page.id).mapM pageOfParts) >>= fun pages =>
      .ok [⟨r.id, r.file.bucket, r.file.key, pages.flatten⟩]
  := by
  cases ps with
  | nil => exact absurd rfl hne
  | cons p ps => rfl

section

variable {α β : Type} {lost : String → Bool}

/-- The outcome of reading what lines belong to, `a`: the failure to read the first of the lines
that is lost, if there is one. -/
def readingOf (lost : String → Bool) (ls : List Line) (a : α) : Except StoreError α :=
  match ls.find? fun l => lost l.id with
  | some l => .error (.decode (.readLine l.id))
  | none => .ok a

theorem readingOf_eq_ok {ls : List Line} (h : ∀ l ∈ ls, lost l.id = false) (a : α) :
  readingOf lost ls a = .ok a
  := by
  have hfind : (ls.find? fun l => lost l.id) = none := by
    rw [List.find?_eq_none]
    intro l hl
    rw [h l hl]
    exact Bool.false_ne_true
  rw [readingOf, hfind]

theorem readingOf_eq_error {ls : List Line} {l : Line} (h : (ls.find? fun l => lost l.id) = some l)
    (a : α) :
  readingOf lost ls a = .error (.decode (.readLine l.id))
  := by
  rw [readingOf, h]

theorem map_readingOf (f : α → β) (ls : List Line) (a : α) :
  (readingOf lost ls a >>= fun a => .ok (f a)) = readingOf lost ls (f a)
  := by
  rw [readingOf, readingOf]
  cases ls.find? fun l => lost l.id <;> rfl

theorem readingOf_append (ls ms : List Line) (a : α) (f : α → β) :
  (readingOf lost ls a >>= fun a => readingOf lost ms (f a)) = readingOf lost (ls ++ ms) (f a)
  := by
  rw [readingOf, readingOf, List.find?_append]
  cases ls.find? fun l => lost l.id <;> rfl

/-- If what an item is read from is read up to the first lost line of the item, then items are read
one after the other up to the first lost line of all. -/
theorem mapM_readingOf {γ : Type} {f : γ → Except StoreError β} {lines : α → List Line} {g : α → β}
    {rows : List γ} {xs : List α}
    (h : List.Forall₂ (fun r x => f r = readingOf lost (lines x) (g x)) rows xs) :
  rows.mapM f = readingOf lost (xs.flatMap lines) (xs.map g)
  := by
  induction h with
  | nil => rfl
  | @cons r x rows xs hr _ ih =>
    rw [List.mapM_cons, hr, ih, List.flatMap_cons, List.map_cons,
      ← readingOf_append _ _ (g x) fun y => y :: xs.map g]
    congr 1
    funext y
    apply map_readingOf

/-- The rows of lines, each with its coordinates unless they are lost, are read as the lines, made
plain. -/
theorem mapM_toLine_lineRows {f : LineRow → List LinePart} {page : String} {n : Nat}
    {ls : List Line} (hf : ∀ l ∈ ls, ∀ r : LineRow, r.id = l.id →
      f r = [⟨r, if lost l.id then none else some l.coordinatesRow⟩]) :
  ((lineRows page n ls).flatMap f).mapM LinePart.toLine = readingOf lost ls (ls.map Line.plain)
  := by
  have hrows : List.Forall₂ (fun r l => LinePart.toLine r = readingOf lost [l] l.plain)
      ((lineRows page n ls).flatMap f) ls := by
    induction ls generalizing n with
    | nil => exact .nil
    | cons l ls ih =>
      rw [List.forall_mem_cons] at hf
      rw [lineRows, List.flatMap_cons, hf.1 _ rfl, List.singleton_append]
      refine .cons ?_ (ih hf.2)
      rw [readingOf, List.find?_singleton]
      cases lost l.id <;> rfl
  rw [mapM_readingOf hrows, List.flatMap_singleton']

/-- The rows of pages are read as the pages, made plain, if each of them is. -/
theorem mapM_pageRows {f : PageRow → Except StoreError (List Page)} {document : String} {n : Nat}
    {ps : List Page}
    (hf : ∀ p ∈ ps, ∀ r : PageRow, r.id = p.id → r.number = p.number →
      f r = readingOf lost p.lines [p.plain]) :
  (pageRows document n ps).mapM f
    = readingOf lost (ps.flatMap Page.lines) (ps.map fun p => [p.plain])
  := by
  apply mapM_readingOf
  induction ps generalizing n with
  | nil => exact .nil
  | cons p ps ih =>
    rw [List.forall_mem_cons] at hf
    exact .cons (hf.1 _ rfl rfl) (ih hf.2)

end

namespace Tables.RowsBelow

variable {t : Tables} {ds : List Document} {d : Document}

theorem pageOfParts_pageParts (h : t.RowsBelow ds) (hs : Storable ds) (hd : d ∈ ds) {p : Page}
    (hp : p ∈ d.pages) {r : PageRow} (hid : r.id = p.id) (hnumber : r.number = p.number)
    (lost : String → Bool) :
  pageOfParts ((t.dropCoordinates lost).pageParts r) = readingOf lost p.lines [p.plain]
  := by
  have hlines : (((t.dropCoordinates lost).linesOf r.id).flatMap
      (t.dropCoordinates lost).lineParts).mapM LinePart.toLine
        = readingOf lost p.lines (p.lines.map Line.plain) := by
    have hrows : (t.dropCoordinates lost).linesOf p.id = p.lineRows := h.linesOf_eq hs hd hp
    rw [hid, hrows]
    apply mapM_toLine_lineRows
    intro l hl r hr
    apply h.lineParts_dropCoordinates hs hd (List.mem_flatMap.2 ⟨p, hp, hl⟩) hr
  rw [pageParts, pageOfParts_map (orGap_ne_nil _), filterMap_orGap (fun _ => rfl), hlines, hid,
    hnumber, map_readingOf]
  rfl

theorem documentOfRows_joinedRows (h : t.RowsBelow ds) (hs : Storable ds) (hd : d ∈ ds)
    (lost : String → Bool) :
  documentOfRows ((t.dropCoordinates lost).joinedRows d.row) = readingOf lost d.lines [d.plain]
  := by
  have hids : (d.pageRows.map PageRow.id).Nodup := by
    have hpages := hs.pages
    rw [pagesIn, List.map_flatMap, List.nodup_flatMap] at hpages
    rw [Document.pageRows, map_id_pageRows]
    apply hpages.1 d hd
  have hsplit : ((d.pageRows.flatMap (t.dropCoordinates lost).pageParts).splitBy fun p q =>
      p.page.id = q.page.id) = d.pageRows.map (t.dropCoordinates lost).pageParts := by
    apply splitBy_flatMap_eq _ _ hids
    · intro r _
      simp [pageParts, orGap_ne_nil]
    · intro r _ part hpart
      obtain ⟨l, -, rfl⟩ := List.mem_map.1 hpart
      rfl
  have hpages : (d.pageRows.map (t.dropCoordinates lost).pageParts).mapM pageOfParts
      = readingOf lost d.lines (d.pages.map fun p => [p.plain]) := by
    rw [List.mapM_map]
    apply mapM_pageRows
    intro p hp r hid hnumber
    apply h.pageOfParts_pageParts hs hd hp hid hnumber
  have hpagesOf : (t.dropCoordinates lost).pagesOf d.row.id = d.pageRows := h.pagesOf_eq hs hd
  rw [joinedRows, hpagesOf, documentOfRows_map (orGap_ne_nil _), filterMap_orGap (fun _ => rfl),
    hsplit, hpages, map_readingOf, ← List.flatMap_def, ← List.map_eq_flatMap]
  rfl

end Tables.RowsBelow

/-- The joined rows of some of the stored documents are read as these documents, made plain, unless
the coordinates of a line of theirs are lost. -/
theorem Tables.Represents.assemble_joined_dropCoordinates {t : Tables} {ds es : List Document}
    (h : t.Represents ds) (hes : es.Sublist ds) (lost : String → Bool) :
  assemble ((t.dropCoordinates lost).joined (es.map Document.row))
    = readingOf lost (linesIn es) (es.map Document.plain)
  := by
  have hsplit : ((es.flatMap fun d => (t.dropCoordinates lost).joinedRows d.row).splitBy fun r s =>
      r.document.id = s.document.id)
        = es.map fun d => (t.dropCoordinates lost).joinedRows d.row := by
    apply splitBy_flatMap_eq _ _ (h.storable.sublist hes).documents
    · intro d _
      simp [joinedRows, orGap_ne_nil]
    · intro d _ r hr
      obtain ⟨p, -, rfl⟩ := List.mem_map.1 hr
      rfl
  have hread : ∀ d ∈ es, documentOfRows ((t.dropCoordinates lost).joinedRows d.row)
      = readingOf lost d.lines [d.plain] := by
    intro d hd
    apply h.below.documentOfRows_joinedRows h.storable (hes.subset hd)
  have hmapM := mapM_readingOf (List.forall₂_same.2 hread)
  rw [assemble, joined, List.flatMap_map, hsplit, List.mapM_map]
  change (List.mapM (fun d => documentOfRows ((t.dropCoordinates lost).joinedRows d.row)) es
    >>= fun ds => .ok ds.flatten) = _
  rw [hmapM, map_readingOf, ← List.flatMap_def, ← List.map_eq_flatMap]
  rfl

/-- The joined rows of some of the stored documents are read as these documents, made plain. -/
theorem Tables.Represents.assemble_joined {t : Tables} {ds es : List Document}
    (h : t.Represents ds) (hes : es.Sublist ds) :
  assemble (t.joined (es.map Document.row)) = .ok (es.map Document.plain)
  := by
  have hnone : t.dropCoordinates (fun _ => false) = t := by
    simp [dropCoordinates]
  have hread := h.assemble_joined_dropCoordinates hes fun _ => false
  rw [hnone] at hread
  apply hread.trans
  apply readingOf_eq_ok
  intro l _
  rfl

end Sql

end ScanIndex
