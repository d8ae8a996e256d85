import ScanIndex.Proofs.Store.Refusal

/-!
# Documents that replace others

Storing documents in a list leaves the old documents in their places, and behind them stands the
first document of every new file.  Each has the pages of the last new document of its file, if there
is one (`documents_upsert`).  So storing the same documents again changes nothing
(`upsert_upsert`).  Whatever calls are made, no list has two documents of one file
(`nodup_files_after`).
-/

namespace ScanIndex

/-- The pages of the last of the documents that are made from the file, if there is one. -/
def latestPages? (xs : List Document) (f : File) : Option (List Page) :=
  (xs.filter fun x => x.file = f).getLast?.map Document.pages

/-- The document, with the pages of the last of `xs` that is made from its file, if there is one. -/
def Document.updated (xs : List Document) (d : Document) : Document :=
  { d with pages := (latestPages? xs d.file).getD d.pages }

/-- The first document of every file, in their order. -/
def firstDocuments : List Document → List Document
  | [] => []
  | d :: ds => d :: (firstDocuments ds).filter fun e => e.file ≠ d.file

section

variable {f : File} {d : Document} {xs : List Document}

theorem latestPages?_append (xs ys : List Document) (f : File) :
  latestPages? (xs ++ ys) f = (latestPages? ys f).or (latestPages? xs f)
  := by
  rw [latestPages?, List.filter_append, List.getLast?_append, Option.map_or]
  rfl

theorem latestPages?_eq_none_iff :
  latestPages? xs f = none ↔ f ∉ xs.map Document.file
  := by
  simp [latestPages?]

@[simp] theorem Document.file_updated (xs : List Document) (d : Document) :
  (d.updated xs).file = d.file
  := rfl

theorem Document.updated_of_not_mem (h : d.file ∉ xs.map Document.file) :
  d.updated xs = d
  := by
  rw [updated, latestPages?_eq_none_iff.2 h]
  rfl

theorem map_updated_of_forall_not_mem {ds : List Document}
    (h : ∀ d ∈ ds, d.file ∉ xs.map Document.file) :
  ds.map (Document.updated xs) = ds
  := by
  rw [List.map_congr_left (g := id), List.map_id]
  intro d hd
  apply Document.updated_of_not_mem (h d hd)

theorem Document.updated_append (xs ys : List Document) (d : Document) :
  d.updated (xs ++ ys) = (d.updated xs).updated ys
  := by
  rw [updated, latestPages?_append, updated, file_updated]
  cases latestPages? ys d.file <;> rfl

theorem Document.updated_updated (xs : List Document) (d : Document) :
  (d.updated xs).updated xs = d.updated xs
  := by
  rw [updated, file_updated, updated]
  cases latestPages? xs d.file <;> rfl

/-- The last of some documents has the latest pages of its file. -/
theorem Document.updated_append_self (xs : List Document) (d : Document) :
  d.updated (xs ++ [d]) = d
  := by
  rw [updated, latestPages?_append]
  simp [latestPages?]

theorem mem_map_file_firstDocuments :
  f ∈ (firstDocuments xs).map Document.file ↔ f ∈ xs.map Document.file
  := by
  induction xs with
  | nil => rfl
  | cons x xs ih =>
    rw [firstDocuments, List.map_cons, List.map_cons, List.mem_cons, List.mem_cons, ← ih]
    by_cases hf : f = x.file
    · simp [hf]
    · rw [or_iff_right hf, or_iff_right hf]
      simp only [List.mem_map, List.mem_filter, decide_eq_true_eq]
      constructor
      · rintro ⟨y, ⟨hy, -⟩, hyf⟩
        exact ⟨y, hy, hyf⟩
      · rintro ⟨y, hy, rfl⟩
        exact ⟨y, ⟨hy, hf⟩, rfl⟩

/-- One more document at the end is the first of its file, unless there was one before. -/
theorem firstDocuments_append_singleton (xs : List Document) (x : Document) :
  firstDocuments (xs ++ [x])
    = firstDocuments xs ++ if x.file ∈ xs.map Document.file then [] else [x]
  := by
  induction xs with
  | nil => rfl
  | cons y xs ih =>
    rw [List.cons_append, firstDocuments, ih, firstDocuments, List.filter_append, List.cons_append]
    congr 2
    by_cases hy : x.file = y.file
    · by_cases hx : x.file ∈ xs.map Document.file <;> simp_all
    · by_cases hx : x.file ∈ xs.map Document.file <;> simp_all

/-- One more document at the end is the first of a new file, unless its file is an old one, or came
up before. -/
theorem filter_firstDocuments_append_singleton (old : List File) (xs : List Document)
    (x : Document) :
  ((firstDocuments (xs ++ [x])).filter fun d => d.file ∉ old)
    = ((firstDocuments xs).filter fun d => d.file ∉ old)
      ++ if x.file ∈ old ∨ x.file ∈ xs.map Document.file then [] else [x]
  := by
  rw [firstDocuments_append_singleton, List.filter_append]
  congr 1
  by_cases hold : x.file ∈ old
  · by_cases hx : x.file ∈ xs.map Document.file <;> simp [hold]
  · by_cases hx : x.file ∈ xs.map Document.file <;> simp_all

end

namespace Memory

variable {m : Memory} {d : Document} {ds xs : List Document}

/-- Storing one document in a list without repeated files changes the pages of the document of its
file, or adds it at the end. -/
theorem insert_eq (h : (ds.map Document.file).Nodup) :
  insert d ds = if d.file ∈ ds.map Document.file then ds.map (Document.updated [d]) else ds ++ [d]
  := by
  have hkeep {zs : List Document} (hzs : ∀ x ∈ zs, x.file ≠ d.file) :
      zs.map (Document.updated [d]) = zs := by
    apply map_updated_of_forall_not_mem
    simpa using hzs
  rcases forall_ne_or_eq_append d.file ds with hne | ⟨pre, e, post, rfl, hpre, he⟩
  · rw [insert_of_forall_ne hne, if_neg]
    rw [List.mem_map]
    rintro ⟨x, hx, hxd⟩
    apply hne x hx hxd
  · have hpost : ∀ x ∈ post, x.file ≠ d.file := by
      rw [List.map_append, List.map_cons, List.nodup_middle, List.nodup_cons, List.mem_append,
        not_or] at h
      intro x hx hxd
      apply h.1.2
      rw [he, ← hxd]
      apply List.mem_map_of_mem hx
    have hupdated : e.updated [d] = { e with pages := d.pages } := by
      simp [Document.updated, latestPages?, he]
    rw [insert_middle hpre he, if_pos, List.map_append, List.map_cons, hkeep hpre, hkeep hpost,
      hupdated]
    rw [List.mem_map]
    exact ⟨e, by simp, he⟩

/-- The files after storing documents are the old ones and those of the documents. -/
theorem mem_files_upsert_iff {f : File} :
  f ∈ (m.upsert xs).files ↔ f ∈ m.files ∨ f ∈ xs.map Document.file
  := by
  rw [files, upsert, map_file_upsert, List.mem_append, List.mem_eraseDups, List.mem_filter,
    decide_eq_true_eq]
  change f ∈ m.files ∨ _ ∧ f ∉ m.files ↔ _
  tauto

/-- After storing documents, the old ones stand in their places, and behind them the first document
of every new file, each with the pages of the last new document of its file, if there is one. -/
theorem documents_upsert (h : m.files.Nodup) (xs : List Document) :
  (m.upsert xs).documents
    = (m.documents ++ (firstDocuments xs).filter fun x => x.file ∉ m.files).map
        (Document.updated xs)
  := by
  induction xs using List.reverseRecOn with
  | nil =>
    rw [map_updated_of_forall_not_mem (by simp)]
    simp [upsert, firstDocuments]
  | append_singleton xs x ih =>
    have hstep : (m.upsert (xs ++ [x])).documents = insert x (m.upsert xs).documents := by
      simp [upsert]
    have hfiles : ((m.upsert xs).documents.map Document.file).Nodup := nodup_files_upsert h
    have hmem : x.file ∈ (m.upsert xs).documents.map Document.file
        ↔ x.file ∈ m.files ∨ x.file ∈ xs.map Document.file := mem_files_upsert_iff
    have hupdated : Document.updated (xs ++ [x]) = Document.updated [x] ∘ Document.updated xs :=
      funext (Document.updated_append xs [x])
    rw [hstep, insert_eq hfiles, filter_firstDocuments_append_singleton]
    by_cases hx : x.file ∈ m.files ∨ x.file ∈ xs.map Document.file
    · rw [if_pos hx, if_pos (hmem.2 hx), ih, List.append_nil, List.map_map, hupdated]
    · have hothers : ∀ d ∈ (m.upsert xs).documents, d.file ∉ [x].map Document.file := by
        intro d hd hdx
        apply hx
        rw [← hmem, ← List.mem_singleton.1 hdx]
        apply List.mem_map_of_mem hd
      rw [if_neg hx, if_neg (mt hmem.1 hx), ← List.append_assoc, List.map_append,
        List.map_singleton, x.updated_append_self, hupdated, ← List.map_map, ← ih,
        map_updated_of_forall_not_mem hothers]

/-- Storing the same documents again changes nothing. -/
theorem upsert_upsert (h : m.files.Nodup) (xs : List Document) :
  (m.upsert xs).upsert xs = m.upsert xs
  := by
  have hfiles : (m.upsert xs).files.Nodup := nodup_files_upsert h
  have hold : ((firstDocuments xs).filter fun x => x.file ∉ (m.upsert xs).files) = [] := by
    rw [List.filter_eq_nil_iff]
    intro x hx
    rw [decide_eq_true_eq, not_not, mem_files_upsert_iff, ← mem_map_file_firstDocuments]
    apply Or.inr (List.mem_map_of_mem hx)
  have hupdated : Document.updated xs ∘ Document.updated xs = Document.updated xs :=
    funext (Document.updated_updated xs)
  have hdocuments : ((m.upsert xs).upsert xs).documents = (m.upsert xs).documents := by
    rw [documents_upsert hfiles, hold, List.append_nil, documents_upsert h, List.map_map, hupdated]
  exact congrArg Memory.mk hdocuments

/-! ### Every state that calls lead to -/

theorem nodup_files_run (h : m.files.Nodup) (c : StoreCall) :
  (c.run m).2.files.Nodup
  := by
  cases c with
  | setup => exact h
  | upsert ds => exact nodup_files_upsert h
  | delete ids => exact h.sublist (List.filter_sublist.map _)
  | deleteWhere q => exact h.sublist (List.filter_sublist.map _)
  | documents q => exact h
  | keys q => exact h
  | count => exact h

theorem nodup_files_after (h : m.files.Nodup) (cs : List StoreCall) :
  (after cs m).files.Nodup
  := by
  induction cs generalizing m with
  | nil => exact h
  | cons c cs ih => exact ih (nodup_files_run h c)

/-- Storing documents in a list without repeated files leaves the old documents in their places and
puts the first document of every new file behind them.  All keep their identifiers, and those of a
stored file take the pages of the last document of the file.  No file is repeated, and nothing
changes when the same documents are stored again.  No call repeats a file in a list that was empty
at first. -/
theorem upsert_replaces_in_place :
  (∀ m : Memory, m.files.Nodup → ∀ xs : List Document,
      (m.upsert xs).files.Nodup
      ∧ (m.upsert xs).documents
          = m.documents.map (Document.updated xs)
            ++ ((firstDocuments xs).filter fun x => x.file ∉ m.files).map (Document.updated xs)
      ∧ (m.upsert xs).upsert xs = m.upsert xs)
    ∧ ∀ cs : List StoreCall, (after cs Memory.empty).files.Nodup
  := by
  constructor
  · intro m h xs
    refine ⟨nodup_files_upsert h, ?_, upsert_upsert h xs⟩
    rw [documents_upsert h, List.map_append]
  · intro cs
    apply nodup_files_after
    exact List.nodup_nil

/-- A stored file is among the new documents once, and a new file twice. -/
theorem upsert_replaces_in_place_repeated :
  let m : Memory := ⟨[⟨"d", "b", "p.jpg", []⟩, ⟨"e", "b", "q.jpg", []⟩]⟩
  let xs : List Document :=
    [⟨"x", "b", "r.png", [⟨"r", 1, []⟩]⟩, ⟨"y", "b", "p.jpg", [⟨"p", 1, []⟩]⟩,
      ⟨"z", "b", "r.png", [⟨"s", 1, []⟩]⟩]
  m.files.Nodup ∧ (m.upsert xs).files.Nodup
    ∧ (m.upsert xs).documents
        = [⟨"d", "b", "p.jpg", [⟨"p", 1, []⟩]⟩, ⟨"e", "b", "q.jpg", []⟩,
          ⟨"x", "b", "r.png", [⟨"s", 1, []⟩]⟩]
    ∧ (m.upsert xs).upsert xs = m.upsert xs
  := by
  intro m xs
  have hfiles : m.files.Nodup := by decide +kernel
  obtain ⟨hnodup, hdocuments, hagain⟩ := upsert_replaces_in_place.1 m hfiles xs
  refine ⟨hfiles, hnodup, ?_, hagain⟩
  rw [hdocuments]
  decide +kernel

end Memory

end ScanIndex
