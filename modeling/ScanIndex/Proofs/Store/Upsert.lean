import Mathlib.Data.List.Induction
import Mathlib.Tactic.Tauto
import ScanIndex.Proofs.Store.Lawful

/-!
# Storing documents in a list

Documents that are stored in a list take the places of those of their files, and those of new files
follow in the order in which they first come up (`map_file_upsert`).  A stored document has the
pages of the last document of its file (`mem_upsert`), and the identifier of the first
(`id_cases_of_mem_upsert`).
-/

namespace ScanIndex

namespace Memory

variable {d e : Document} {ds : List Document}

/-- The files of the documents. -/
def files (m : Memory) : List File := m.documents.map Document.file

theorem map_file_insert (d : Document) (ds : List Document) :
  (insert d ds).map Document.file
    = if d.file ∈ ds.map Document.file then ds.map Document.file
      else ds.map Document.file ++ [d.file]
  := by
  rcases forall_ne_or_eq_append d.file ds with hne | ⟨pre, e, post, rfl, hpre, he⟩
  · rw [insert_of_forall_ne hne, if_neg, List.map_append, List.map_singleton]
    intro hmem
    obtain ⟨x, hx, hxd⟩ := List.mem_map.1 hmem
    apply hne x hx hxd
  · rw [insert_middle hpre he, if_pos]
    · rw [List.map_append, List.map_append]
      rfl
    · rw [← he]
      apply List.mem_map_of_mem (List.mem_append_right pre List.mem_cons_self)

/-- The files after storing documents: the old ones in their places, then the new ones as they first
come up. -/
theorem map_file_upsert (xs ds : List Document) :
  (xs.foldl (fun es d => insert d es) ds).map Document.file
    = ds.map Document.file
      ++ ((xs.map Document.file).filter fun f => f ∉ ds.map Document.file).eraseDups
  := by
  induction xs generalizing ds with
  | nil => simp
  | cons x xs ih =>
    rw [List.foldl_cons, ih, map_file_insert, List.map_cons]
    by_cases hx : x.file ∈ ds.map Document.file
    · rw [if_pos hx, List.filter_cons_of_neg (by simpa using hx)]
    · rw [if_neg hx, List.filter_cons_of_pos (by simpa using hx), List.eraseDups_cons,
        List.filter_filter, List.append_assoc, List.singleton_append]
      congr 3
      apply List.filter_congr
      intro f _
      rw [Bool.eq_iff_iff]
      simp only [decide_eq_true_eq, Bool.and_eq_true, Bool.not_eq_true', beq_eq_false_iff_ne,
        List.mem_append, List.mem_singleton]
      tauto

/-- The documents that are stored when one more is. -/
theorem mem_insert (h : (ds.map Document.file).Nodup) :
  e ∈ insert d ds
    ↔ (e ∈ ds ∧ e.file ≠ d.file) ∨ (∃ x ∈ ds, x.file = d.file ∧ e = { x with pages := d.pages })
      ∨ (d.file ∉ ds.map Document.file ∧ e = d)
  := by
  rcases forall_ne_or_eq_append d.file ds with hne | ⟨pre, x, post, rfl, hpre, hx⟩
  · have hfile : d.file ∉ ds.map Document.file := by
      intro hmem
      obtain ⟨x, hx, hxd⟩ := List.mem_map.1 hmem
      apply hne x hx hxd
    rw [insert_of_forall_ne hne, List.mem_append, List.mem_singleton]
    constructor
    · rintro (he | rfl)
      · exact .inl ⟨he, hne e he⟩
      · exact .inr (.inr ⟨hfile, rfl⟩)
    · rintro (⟨he, -⟩ | ⟨x, hx, hxd, -⟩ | ⟨-, rfl⟩)
      · exact .inl he
      · exact absurd hxd (hne x hx)
      · exact .inr rfl
  · have hothers : ∀ y ∈ pre ++ post, y.file ≠ d.file := by
      rw [List.map_append, List.map_cons, List.nodup_middle, List.nodup_cons, ← List.map_append]
        at h
      intro y hy hyd
      apply h.1 (List.mem_map.2 ⟨y, hy, hyd.trans hx.symm⟩)
    have hmiddle (y z : Document) : y ∈ pre ++ z :: post ↔ y = z ∨ y ∈ pre ++ post := by
      rw [List.perm_middle.mem_iff, List.mem_cons]
    have hmem : d.file ∈ (pre ++ x :: post).map Document.file :=
      List.mem_map.2 ⟨x, List.mem_append_right pre List.mem_cons_self, hx⟩
    rw [insert_middle hpre hx, hmiddle]
    constructor
    · rintro (rfl | he)
      · exact .inr (.inl ⟨x, (hmiddle x x).2 (.inl rfl), hx, rfl⟩)
      · exact .inl ⟨(hmiddle e x).2 (.inr he), hothers e he⟩
    · rintro (⟨he, hed⟩ | ⟨y, hy, hyd, rfl⟩ | ⟨hnot, -⟩)
      · rcases (hmiddle e x).1 he with rfl | he
        · exact absurd hx hed
        · exact .inr he
      · rcases (hmiddle y x).1 hy with rfl | hy
        · exact .inl rfl
        · exact absurd hyd (hothers y hy)
      · exact absurd hmem hnot

theorem nodup_files_upsert {xs : List Document} (h : (ds.map Document.file).Nodup) :
  ((xs.foldl (fun es d => insert d es) ds).map Document.file).Nodup
  := by
  induction xs generalizing ds with
  | nil => exact h
  | cons x xs ih =>
    apply ih
    rw [map_file_insert]
    split
    next => exact h
    next hx =>
      rw [List.nodup_append']
      exact ⟨h, List.nodup_singleton _, List.disjoint_singleton.2 hx⟩

/-- A document that is stored after storing documents is an old one of a file without new documents,
or it has the pages of the last new document of its file. -/
theorem mem_upsert {xs : List Document} (h : (ds.map Document.file).Nodup)
    (he : e ∈ xs.foldl (fun es d => insert d es) ds) :
  (e ∈ ds ∧ e.file ∉ xs.map Document.file)
    ∨ ∃ pre x post, xs = pre ++ x :: post ∧ x.file = e.file ∧ e.file ∉ post.map Document.file
        ∧ e.pages = x.pages
  := by
  induction xs using List.reverseRecOn generalizing e with
  | nil => exact .inl ⟨he, by simp⟩
  | append_singleton xs x ih =>
    rw [List.foldl_append, List.foldl_cons, List.foldl_nil, mem_insert (nodup_files_upsert h)] at he
    rcases he with ⟨he, hne⟩ | ⟨y, hy, hyx, rfl⟩ | ⟨hnot, rfl⟩
    · rcases ih he with ⟨he, hnot⟩ | ⟨pre, y, post, rfl, hy, hpost, hpages⟩
      · refine .inl ⟨he, ?_⟩
        rw [List.map_append, List.mem_append, List.map_singleton, List.mem_singleton]
        tauto
      · refine .inr ⟨pre, y, post ++ [x], by simp, hy, ?_, hpages⟩
        rw [List.map_append, List.mem_append, List.map_singleton, List.mem_singleton]
        tauto
    · exact .inr ⟨xs, x, [], rfl, hyx.symm, by simp, rfl⟩
    · exact .inr ⟨xs, e, [], rfl, rfl, by simp, rfl⟩

theorem id_cases_of_mem_insert (he : e ∈ insert d ds) :
  (∃ x ∈ ds, x.file = e.file ∧ x.id = e.id) ∨ d.file ∉ ds.map Document.file ∧ e = d
  := by
  rcases forall_ne_or_eq_append d.file ds with hne | ⟨pre, x, post, rfl, hpre, hx⟩
  · rw [insert_of_forall_ne hne, List.mem_append, List.mem_singleton] at he
    rcases he with he | rfl
    · exact .inl ⟨e, he, rfl, rfl⟩
    · refine .inr ⟨?_, rfl⟩
      intro hmem
      obtain ⟨x, hx, hxe⟩ := List.mem_map.1 hmem
      exact hne x hx hxe
  · rw [insert_middle hpre hx, List.perm_middle.mem_iff, List.mem_cons] at he
    left
    rcases he with rfl | he
    · exact ⟨x, List.mem_append_right pre List.mem_cons_self, rfl, rfl⟩
    · exact ⟨e, List.perm_middle.mem_iff.2 (List.mem_cons_of_mem x he), rfl, rfl⟩

/-- The identifier of a stored document is that of a document of its file that was stored before, or
that of a new one. -/
theorem id_cases_of_mem_upsert {m : Memory} {xs : List Document}
    (he : e ∈ (m.upsert xs).documents) :
  (∃ d ∈ m.documents, d.file = e.file ∧ d.id = e.id)
    ∨ e.file ∉ m.files ∧ ∃ x ∈ xs, x.file = e.file ∧ x.id = e.id
  := by
  change e ∈ xs.foldl (fun es d => insert d es) m.documents at he
  induction xs using List.reverseRecOn generalizing e with
  | nil => exact .inl ⟨e, he, rfl, rfl⟩
  | append_singleton xs x ih =>
    rw [List.foldl_append, List.foldl_cons, List.foldl_nil] at he
    rcases id_cases_of_mem_insert he with ⟨y, hy, hye, hyid⟩ | ⟨hnot, rfl⟩
    · rcases ih hy with ⟨z, hz, hzy, hzid⟩ | ⟨hnot, z, hz, hzy, hzid⟩
      · exact .inl ⟨z, hz, hzy.trans hye, hzid.trans hyid⟩
      · rw [hye] at hnot hzy
        exact .inr ⟨hnot, z, List.mem_append_left _ hz, hzy, hzid.trans hyid⟩
    · rw [map_file_upsert, List.mem_append, not_or] at hnot
      exact .inr ⟨hnot.1, e, by simp, rfl, rfl⟩

/-- A document goes on with the identifier of the document of its file that was stored before. -/
theorem id_eq_of_mem_upsert {m : Memory} (h : m.files.Nodup) {xs : List Document}
    (he : e ∈ (m.upsert xs).documents) (hd : d ∈ m.documents) (hfile : e.file = d.file) :
  e.id = d.id
  := by
  rcases id_cases_of_mem_upsert he with ⟨x, hx, hxfile, hxid⟩ | ⟨hnot, -⟩
  · rw [← hxid, List.inj_on_of_nodup_map h hx hd (hxfile.trans hfile)]
  · exact absurd (List.mem_map.2 ⟨d, hd, hfile.symm⟩) hnot

end Memory

end ScanIndex
