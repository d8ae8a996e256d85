import ScanIndex.Proofs.Store.Layout

/-!
# Removals

Removing documents removes exactly the rows below them (`Represents.dropDocuments`), because an
identifier leads from a row below a document to one document only.
-/

namespace ScanIndex

/-- The items made from the items of a list that satisfy `p`, if `q` carries `p` over to what is
made. -/
theorem filter_flatMap_eq {α β : Type} {f : α → List β} {p : α → Bool} {q : β → Bool} {xs : List α}
    (h : ∀ x ∈ xs, ∀ y ∈ f x, q y = p x) :
  (xs.flatMap f).filter q = (xs.filter p).flatMap f
  := by
  induction xs with
  | nil => rfl
  | cons x xs ih =>
    rw [List.forall_mem_cons] at h
    rw [List.flatMap_cons, List.filter_append, ih h.2, List.filter_cons]
    by_cases hx : p x = true
    · rw [if_pos hx, List.flatMap_cons, List.filter_eq_self.2]
      intro y hy
      apply (h.1 y hy).trans hx
    · rw [if_neg hx, List.filter_eq_nil_iff.2]
      · rfl
      · intro y hy hq
        apply hx ((h.1 y hy).symm.trans hq)

/-- Whether a key belongs to an item that satisfies `p` can be told from the one item with
that key. -/
theorem any_filter_key_eq {α : Type} {key : α → String} {xs : List α} (h : (xs.map key).Nodup)
    {x : α} (hx : x ∈ xs) (p : α → Bool) :
  ((xs.filter p).any fun y => key y = key x) = p x
  := by
  rw [Bool.eq_iff_iff, List.any_eq_true]
  constructor
  · rintro ⟨y, hy, hkey⟩
    obtain ⟨hy, hp⟩ := List.mem_filter.1 hy
    rw [← List.inj_on_of_nodup_map h hy hx (of_decide_eq_true hkey)]
    exact hp
  · intro hp
    exact ⟨x, List.mem_filter.2 ⟨hx, hp⟩, decide_eq_true rfl⟩

namespace Sql

namespace Tables

variable {t : Tables} {ds : List Document}

/-- Removing the pages of documents leaves the rows below the others: a row goes exactly with the
document that it is below. -/
theorem RowsBelow.dropPages (h : t.RowsBelow ds) (hs : Storable ds) (p : String → Bool) :
  (t.dropPages p).RowsBelow (ds.filter fun d => !p d.id)
  := by
  have hpages : (t.pages.map PageRow.id).Nodup := h.perm_page_ids.nodup_iff.2 hs.pages
  have hlines : (t.lines.map LineRow.id).Nodup := h.perm_line_ids.nodup_iff.2 hs.lines
  have hpage {d : Document} (hd : d ∈ ds) {q : Page} (hq : q ∈ d.pages) :
      ((t.pages.filter fun r => p r.document).any fun r => r.id = q.id) = p d.id := by
    obtain ⟨r, hr, hid, hdocument, -⟩ := exists_mem_pageRows d.id 0 hq
    obtain ⟨hr, -⟩ := ((h.holds hs hd).pages r).2 hr
    rw [← hid, any_filter_key_eq hpages hr, hdocument]
  have hline {d : Document} (hd : d ∈ ds) {l : Line} (hl : l ∈ d.lines) :
      ((t.lines.filter fun r =>
        (t.pages.filter fun r => p r.document).any fun s => s.id = r.page).any fun r => r.id = l.id)
        = p d.id := by
    obtain ⟨q, hq, hl⟩ := List.mem_flatMap.1 hl
    obtain ⟨r, hr, hid, hpageid, -⟩ := exists_mem_lineRows q.id 0 hl
    obtain ⟨hr, -⟩ := ((h.holds hs hd).lines hq r).2 hr
    rw [← hid, any_filter_key_eq hlines hr, hpageid, hpage hd hq]
  constructor
  · apply (h.pages.filter _).trans
    rw [filter_flatMap_eq]
    intro d hd r hr
    obtain ⟨-, -, -, hdocument, -⟩ := exists_of_mem_pageRows hr
    rw [hdocument]
  · apply (h.lines.filter _).trans
    rw [filter_flatMap_eq]
    intro d hd r hr
    obtain ⟨q, hq, hr⟩ := List.mem_flatMap.1 hr
    obtain ⟨-, -, -, hpageid, -⟩ := exists_of_mem_lineRows hr
    rw [hpageid]
    exact congrArg Bool.not (hpage hd hq)
  · apply (h.coordinates.filter _).trans
    rw [filter_flatMap_eq]
    intro d hd r hr
    obtain ⟨l, hl, rfl⟩ := List.mem_map.1 hr
    exact congrArg Bool.not (hline hd hl)

/-- Removing documents leaves the others as they are. -/
theorem Represents.dropDocuments (h : t.Represents ds) (p : String → Bool) :
  (t.dropDocuments p).Represents (ds.filter fun d => !p d.id)
  := by
  have hids : (t.documents.map DocumentRow.id).Nodup := by
    rw [h.documents, List.map_map]
    apply h.storable.documents
  have hgone : ∀ d ∈ ds,
      ((t.documents.filter fun r => p r.id).any fun r => r.id = d.id) = p d.id := by
    intro d hd
    have hrow : d.row ∈ t.documents := by
      rw [h.documents]
      apply List.mem_map_of_mem hd
    apply any_filter_key_eq hids hrow fun r => p r.id
  constructor
  · rw [Tables.dropDocuments, h.documents, List.filter_map]
    rfl
  · have hbelow := h.below.dropPages h.storable fun id =>
      (t.documents.filter fun r => p r.id).any fun r => r.id = id
    have hfilter : (ds.filter fun d =>
        !((t.documents.filter fun r => p r.id).any fun r => r.id = d.id))
          = ds.filter fun d => !p d.id := by
      apply List.filter_congr
      intro d hd
      rw [hgone d hd]
    rw [hfilter] at hbelow
    exact ⟨hbelow.pages, hbelow.lines, hbelow.coordinates⟩
  · apply h.storable.sublist List.filter_sublist

end Tables

end Sql

end ScanIndex
