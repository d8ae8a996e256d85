import ScanIndex.Proofs.Store.Layout
import ScanIndex.Store.Memory

/-!
# Stores that keep documents

`LawfulStore σ` says of a store that its methods, when they succeed, do to the documents that it
keeps what the methods of `Memory` do to a list of documents, and answer in the same way, up to the
signs of zeros.
-/

namespace ScanIndex

/-- A store that keeps documents like a list in memory, as far as its methods succeed. -/
class LawfulStore (σ : Type) [DocumentStore σ] where
  /-- The store keeps the documents of the list, in its order. -/
  Keeps : σ → Memory → Prop
  setup {s s' : σ} {m : Memory} : Keeps s m → DocumentStore.setup s = (.ok (), s') → Keeps s' m
  upsert {s s' : σ} {m : Memory} {ds : List Document} :
    Keeps s m → DocumentStore.upsert ds s = (.ok (), s') → Keeps s' (m.upsert ds)
  delete {s s' : σ} {m : Memory} {ids : List String} :
    Keeps s m → DocumentStore.delete ids s = (.ok (), s') → Keeps s' (m.delete ids)
  deleteWhere {s s' : σ} {m : Memory} {q : Query} :
    Keeps s m → DocumentStore.deleteWhere q s = (.ok (), s') → Keeps s' (m.deleteWhere q)
  documents {s : σ} {m : Memory} {q : Query} {ds : List Document} :
    Keeps s m → DocumentStore.documents q s = .ok ds →
      ds.map Document.plain = (m.select q).map Document.plain
  keys {s : σ} {m : Memory} {q : Query} {ids : List String} :
    Keeps s m → DocumentStore.keys q s = .ok ids → ids = (m.select q).map Document.id
  count {s : σ} {m : Memory} {n : Nat} :
    Keeps s m → DocumentStore.count s = .ok n → n = m.documents.length

export LawfulStore (Keeps)

/-- The method gets through the items, and leaves the second state; it need not be called if there
are none. -/
def GetsThrough {σ α : Type} (f : List α → σ → Except StoreError Unit × σ) (xs : List α)
    (s s' : σ) : Prop :=
  f xs s = (.ok (), s') ∨ xs = [] ∧ s' = s

namespace Memory

instance : LawfulStore Memory where
  Keeps s m := s = m
  setup := by rintro s s' m rfl ⟨⟩; rfl
  upsert := by rintro s s' m ds rfl ⟨⟩; rfl
  delete := by rintro s s' m ids rfl ⟨⟩; rfl
  deleteWhere := by rintro s s' m q rfl ⟨⟩; rfl
  documents := by rintro s m q ds rfl ⟨⟩; rfl
  keys := by rintro s m q ids rfl ⟨⟩; rfl
  count := by rintro s m n rfl ⟨⟩; rfl

@[simp] theorem delete_nil (m : Memory) :
  m.delete [] = m
  := by
  simp [delete]

/-! ### Storing a document in a list -/

variable {d e : Document} {pre post ds : List Document}

theorem insert_of_forall_ne (h : ∀ x ∈ ds, x.file ≠ d.file) :
  insert d ds = ds ++ [d]
  := by
  induction ds with
  | nil => rfl
  | cons x ds ih =>
    rw [List.forall_mem_cons] at h
    rw [insert, if_neg, ih h.2]
    · rfl
    · rw [Document.isFile_iff]
      apply h.1

theorem insert_middle (hpre : ∀ x ∈ pre, x.file ≠ d.file) (he : e.file = d.file) :
  insert d (pre ++ e :: post) = pre ++ { e with pages := d.pages } :: post
  := by
  induction pre with
  | nil => rw [List.nil_append, insert, if_pos (Document.isFile_iff.2 he), List.nil_append]
  | cons x pre ih =>
    rw [List.forall_mem_cons] at hpre
    rw [List.cons_append, insert, if_neg, ih hpre.2]
    · rfl
    · rw [Document.isFile_iff]
      apply hpre.1

/-- A list either has no document of a file, or has a first one. -/
theorem forall_ne_or_eq_append (f : File) (ds : List Document) :
  (∀ x ∈ ds, x.file ≠ f)
    ∨ ∃ pre e post, ds = pre ++ e :: post ∧ (∀ x ∈ pre, x.file ≠ f) ∧ e.file = f
  := by
  induction ds with
  | nil => exact .inl (by simp)
  | cons x ds ih =>
    by_cases hx : x.file = f
    · exact .inr ⟨[], x, ds, rfl, by simp, hx⟩
    · rcases ih with h | ⟨pre, e, post, rfl, hpre, he⟩
      · exact .inl (List.forall_mem_cons.2 ⟨hx, h⟩)
      · exact .inr ⟨x :: pre, e, post, rfl, List.forall_mem_cons.2 ⟨hx, hpre⟩, he⟩

end Memory

section

variable {σ : Type} [DocumentStore σ] [LawfulStore σ] {s s' : σ} {m : Memory}

/-- A store that gets through documents keeps them. -/
theorem GetsThrough.keeps_upsert {ds : List Document}
    (h : GetsThrough DocumentStore.upsert ds s s') (hkeeps : Keeps s m) :
  Keeps s' (m.upsert ds)
  := by
  rcases h with h | ⟨rfl, rfl⟩
  · apply LawfulStore.upsert hkeeps h
  · exact hkeeps

/-- A store that gets through identifiers does not keep the documents under them. -/
theorem GetsThrough.keeps_delete {ids : List String}
    (h : GetsThrough DocumentStore.delete ids s s') (hkeeps : Keeps s m) :
  Keeps s' (m.delete ids)
  := by
  rcases h with h | ⟨rfl, rfl⟩
  · apply LawfulStore.delete hkeeps h
  · rw [Memory.delete_nil]
    exact hkeeps

end

end ScanIndex
