import Mathlib.Data.List.Nodup
import Mathlib.Data.List.Pairwise
import Mathlib.Data.String.Basic
import Mathlib.Tactic.Tauto
import ScanIndex.Buckets

/-!
# The files under buckets

`Buckets.files` lists the files of keys under buckets.  Adding files to buckets adds just these
files (`mem_files_modify`), and collecting the files of documents gives each of them once, under
buckets in ascending order (`mem_files_ofDocuments`, `orderly_ofDocuments`).

Buckets that are `WellFormed` are determined by the keys under each bucket (`WellFormed.ext`).
Files that are pushed stand behind the keys of their buckets, in their order and with repetitions
(`keysOf_foldl_push`), and `Buckets.append` puts the keys of two buckets behind each other
(`keysOf_append`).  `Buckets.within` keeps some of the buckets, which are those of the documents in
them (`ofDocuments_eq_within`).
-/

namespace ScanIndex.Buckets

variable {g h : Buckets} {bucket key : String} {change : List String → List String} {f x : File}

/-- The files of keys under buckets. -/
def files (g : Buckets) : List File := g.flatMap fun (bucket, keys) => keys.map (File.mk bucket)

@[simp] theorem files_nil :
  files [] = []
  := rfl

@[simp] theorem files_cons (bucket : String) (keys : List String) (g : Buckets) :
  files ((bucket, keys) :: g) = keys.map (File.mk bucket) ++ g.files
  := List.flatMap_cons

/-! ### Membership -/

theorem mem_map_mk_iff {keys : List String} :
  x ∈ keys.map (File.mk bucket) ↔ x.bucket = bucket ∧ x.key ∈ keys
  := by
  rw [List.mem_map]
  constructor
  · rintro ⟨key, hkey, rfl⟩
    exact ⟨rfl, hkey⟩
  · rintro ⟨rfl, hkey⟩
    exact ⟨x.key, hkey, rfl⟩

/-- A change that adds one key adds its file. -/
theorem mem_files_modify (hchange : ∀ keys k, k ∈ change keys ↔ k ∈ keys ∨ k = f.key) :
  x ∈ (modify f.bucket change g).files ↔ x ∈ g.files ∨ x = f
  := by
  have hf : x = f ↔ x.bucket = f.bucket ∧ x.key = f.key := by
    cases x
    cases f
    simp
  fun_induction modify f.bucket change g with
  | case1 =>
    simp only [files_cons, files_nil, List.append_nil, mem_map_mk_iff, hchange, hf]
    simp
  | case2 b keys rest hlt =>
    simp only [files_cons, List.mem_append, mem_map_mk_iff, hchange, hf]
    simp
    tauto
  | case3 keys rest hlt =>
    simp only [files_cons, List.mem_append, mem_map_mk_iff, hchange, hf]
    tauto
  | case4 b keys rest hlt hne ih =>
    simp only [files_cons, List.mem_append, ih, or_assoc]

theorem mem_files_push :
  x ∈ (g.push f).files ↔ x ∈ g.files ∨ x = f
  := by
  apply mem_files_modify
  simp

theorem mem_files_adjoin :
  x ∈ (g.adjoin f).files ↔ x ∈ g.files ∨ x = f
  := by
  apply mem_files_modify
  intro keys k
  split
  next hmem =>
    constructor
    · exact .inl
    · rintro (hk | rfl)
      · exact hk
      · exact hmem
  next => simp

theorem mem_files_foldl_push {fs : List File} :
  x ∈ (fs.foldl push g).files ↔ x ∈ g.files ∨ x ∈ fs
  := by
  induction fs generalizing g with
  | nil => simp
  | cons f fs ih => rw [List.foldl_cons, ih, mem_files_push, List.mem_cons, or_assoc]

/-- The files that are collected from documents are those of the documents. -/
theorem mem_files_ofDocuments {ds : List Document} :
  x ∈ (ofDocuments ds).files ↔ x ∈ ds.map Document.file
  := by
  have hfold (g : Buckets) : x ∈ (ds.foldl (fun g d => g.adjoin d.file) g).files
      ↔ x ∈ g.files ∨ x ∈ ds.map Document.file := by
    induction ds generalizing g with
    | nil => simp
    | cons d ds ih =>
      rw [List.foldl_cons, ih, mem_files_adjoin, List.map_cons, List.mem_cons, or_assoc]
  rw [ofDocuments, hfold]
  simp

/-! ### Order and repetition -/

/-- The buckets are in ascending order, each once, and no key is repeated. -/
structure Orderly (g : Buckets) : Prop where
  buckets : (g.map Prod.fst).Pairwise (· < ·)
  keys : ∀ p ∈ g, p.2.Nodup

theorem mem_map_fst_modify {b : String} :
  b ∈ (modify bucket change g).map Prod.fst ↔ b = bucket ∨ b ∈ g.map Prod.fst
  := by
  fun_induction modify bucket change g with
  | case1 => simp
  | case2 => simp
  | case3 => simp
  | case4 c keys rest hlt hne ih =>
    simp only [List.map_cons, List.mem_cons, ih]
    tauto

theorem pairwise_map_fst_modify (h : (g.map Prod.fst).Pairwise (· < ·)) :
  ((modify bucket change g).map Prod.fst).Pairwise (· < ·)
  := by
  fun_induction modify bucket change g with
  | case1 => apply List.pairwise_singleton _ _
  | case2 c keys rest hlt => apply List.Pairwise.cons_cons_of_trans hlt h
  | case3 => exact h
  | case4 c keys rest hlt hne ih =>
    obtain ⟨hc, hrest⟩ := List.pairwise_cons.1 h
    refine List.pairwise_cons.2 ⟨?_, ih hrest⟩
    intro b hb
    rcases mem_map_fst_modify.1 hb with rfl | hb
    · apply lt_of_le_of_ne (not_lt.1 hlt) (Ne.symm hne)
    · apply hc b hb

theorem nodup_keys_modify (h : ∀ p ∈ g, p.2.Nodup)
    (hchange : ∀ keys : List String, keys.Nodup → (change keys).Nodup) :
  ∀ p ∈ modify bucket change g, p.2.Nodup
  := by
  have hnil := hchange [] List.nodup_nil
  fun_induction modify bucket change g with
  | case1 => simpa using hnil
  | case2 => exact List.forall_mem_cons.2 ⟨hnil, h⟩
  | case3 =>
    rw [List.forall_mem_cons] at h
    exact List.forall_mem_cons.2 ⟨hchange _ h.1, h.2⟩
  | case4 c keys rest hlt hne ih =>
    rw [List.forall_mem_cons] at h
    exact List.forall_mem_cons.2 ⟨h.1, ih h.2⟩

theorem Orderly.adjoin (h : g.Orderly) (f : File) :
  (g.adjoin f).Orderly
  := by
  refine ⟨pairwise_map_fst_modify h.buckets, nodup_keys_modify h.keys ?_⟩
  intro keys hkeys
  split
  next => exact hkeys
  next hmem =>
    rw [List.nodup_append']
    exact ⟨hkeys, List.nodup_singleton _, List.disjoint_singleton.2 hmem⟩

theorem orderly_ofDocuments (ds : List Document) :
  (ofDocuments ds).Orderly
  := by
  have hfold {g : Buckets} (hg : g.Orderly) :
      (ds.foldl (fun g d => g.adjoin d.file) g).Orderly := by
    induction ds generalizing g with
    | nil => exact hg
    | cons d ds ih => apply ih (hg.adjoin d.file)
  apply hfold ⟨List.Pairwise.nil, by simp⟩

/-- No file stands twice under orderly buckets. -/
theorem Orderly.nodup_files (h : g.Orderly) :
  g.files.Nodup
  := by
  rw [files, List.nodup_flatMap]
  constructor
  · intro p hp
    apply (h.keys p hp).map
    intro k l hkl
    cases hkl
    rfl
  · refine (List.pairwise_map.1 h.buckets).imp ?_
    intro p q hpq x hxp hxq
    rw [mem_map_mk_iff] at hxp hxq
    apply ne_of_lt hpq (hxp.1.symm.trans hxq.1)

theorem nodup_files_ofDocuments (ds : List Document) :
  (ofDocuments ds).files.Nodup
  := (orderly_ofDocuments ds).nodup_files

/-! ### The keys of a bucket -/

/-- The buckets are in ascending order, each once, and none is without keys. -/
structure WellFormed (g : Buckets) : Prop where
  buckets : (g.map Prod.fst).Pairwise (· < ·)
  keys : ∀ p ∈ g, p.2 ≠ []

theorem wellFormed_nil :
  WellFormed []
  := ⟨List.Pairwise.nil, by simp⟩

theorem keysOf_eq_nil (hbucket : bucket ∉ g.map Prod.fst) :
  g.keysOf bucket = []
  := by
  induction g with
  | nil => rfl
  | cons p g ih =>
    rw [List.map_cons, List.mem_cons, not_or] at hbucket
    rw [keysOf, if_neg hbucket.1, ih hbucket.2]

/-- A bucket that comes before all others is not listed. -/
theorem keysOf_eq_nil_of_lt (hbucket : ∀ b ∈ g.map Prod.fst, bucket < b) :
  g.keysOf bucket = []
  := by
  apply keysOf_eq_nil
  intro hmem
  apply lt_irrefl bucket (hbucket bucket hmem)

/-- A change of one bucket leaves the keys under the others as they are. -/
theorem keysOf_modify (hg : (g.map Prod.fst).Pairwise (· < ·)) (b : String) :
  (modify bucket change g).keysOf b = if b = bucket then change (g.keysOf b) else g.keysOf b
  := by
  fun_induction modify bucket change g with
  | case1 => rfl
  | case2 c keys rest hlt =>
    rw [keysOf]
    split
    next hb =>
      rw [hb, keysOf_eq_nil_of_lt]
      rw [List.map_cons, List.pairwise_cons] at hg
      rw [List.map_cons, List.forall_mem_cons]
      exact ⟨hlt, fun d hd => hlt.trans (hg.1 d hd)⟩
    next => rfl
  | case3 keys rest hlt =>
    rw [keysOf, keysOf]
    split <;> rfl
  | case4 c keys rest hlt hne ih =>
    rw [List.map_cons, List.pairwise_cons] at hg
    rw [keysOf, keysOf, ih hg.2]
    by_cases hb : b = c
    · rw [if_pos hb, if_pos hb, if_neg]
      rw [hb]
      exact Ne.symm hne
    · rw [if_neg hb, if_neg hb]

theorem WellFormed.modify (hg : g.WellFormed) (hchange : ∀ keys, change keys ≠ []) :
  (modify bucket change g).WellFormed
  := by
  refine ⟨pairwise_map_fst_modify hg.buckets, ?_⟩
  have hkeys := hg.keys
  fun_induction Buckets.modify bucket change g with
  | case1 => simpa using hchange []
  | case2 => exact List.forall_mem_cons.2 ⟨hchange [], hkeys⟩
  | case3 =>
    rw [List.forall_mem_cons] at hkeys
    exact List.forall_mem_cons.2 ⟨hchange _, hkeys.2⟩
  | case4 c keys rest hlt hne ih =>
    rw [List.forall_mem_cons] at hkeys
    exact List.forall_mem_cons.2
      ⟨hkeys.1, ih ⟨(List.pairwise_cons.1 hg.buckets).2, hkeys.2⟩ hkeys.2⟩

/-- The entries of well-formed buckets are the buckets that have keys, with their keys. -/
theorem WellFormed.mem_iff (hg : g.WellFormed) {p : String × List String} :
  p ∈ g ↔ g.keysOf p.1 = p.2 ∧ p.2 ≠ []
  := by
  obtain ⟨hbuckets, hkeys⟩ := hg
  induction g with
  | nil => simp [keysOf, eq_comm]
  | cons q g ih =>
    obtain ⟨b, keys⟩ := q
    rw [List.map_cons, List.pairwise_cons] at hbuckets
    rw [List.forall_mem_cons] at hkeys
    rw [List.mem_cons, ih hbuckets.2 hkeys.2, keysOf]
    by_cases hp : p.1 = b
    · have hnone : keysOf p.1 g = [] := by
        apply keysOf_eq_nil_of_lt
        rw [hp]
        exact hbuckets.1
      rw [if_pos hp, hnone]
      constructor
      · rintro (rfl | ⟨hnil, hne⟩)
        · exact ⟨rfl, hkeys.1⟩
        · exact absurd hnil.symm hne
      · rintro ⟨hkeys, -⟩
        exact .inl (Prod.ext hp hkeys.symm)
    · rw [if_neg hp, or_iff_right]
      rintro rfl
      apply hp rfl

theorem WellFormed.mem_map_fst_iff (hg : g.WellFormed) :
  bucket ∈ g.map Prod.fst ↔ g.keysOf bucket ≠ []
  := by
  rw [List.mem_map]
  constructor
  · rintro ⟨p, hp, rfl⟩
    obtain ⟨hkeys, hne⟩ := hg.mem_iff.1 hp
    rw [hkeys]
    exact hne
  · intro hne
    exact ⟨(bucket, g.keysOf bucket), hg.mem_iff.2 ⟨rfl, hne⟩, rfl⟩

/-- Well-formed buckets with the same keys under every bucket are the same. -/
theorem WellFormed.ext (hg : g.WellFormed) (hh : h.WellFormed)
    (hkeys : ∀ b, g.keysOf b = h.keysOf b) :
  g = h
  := by
  have hlt (p q : String × List String) (hpq : p.1 < q.1) (hqp : q.1 < p.1) : p = q :=
    absurd (hpq.trans hqp) (lt_irrefl p.1)
  have hgs := List.pairwise_map.1 hg.buckets
  have hhs := List.pairwise_map.1 hh.buckets
  have hmem (p : String × List String) : p ∈ g ↔ p ∈ h := by
    rw [hg.mem_iff, hh.mem_iff, hkeys]
  have hperm : g.Perm h :=
    (List.perm_ext_iff_of_nodup (hgs.imp fun hpq => ne_of_apply_ne Prod.fst (ne_of_lt hpq))
      (hhs.imp fun hpq => ne_of_apply_ne Prod.fst (ne_of_lt hpq))).2 hmem
  apply hperm.eq_of_pairwise (fun p q _ _ => hlt p q) hgs hhs

/-! ### Pushing files -/

theorem WellFormed.push (hg : g.WellFormed) (f : File) :
  (g.push f).WellFormed
  := by
  apply hg.modify
  simp

theorem keysOf_push (hg : g.WellFormed) (f : File) (b : String) :
  (g.push f).keysOf b = g.keysOf b ++ if f.bucket = b then [f.key] else []
  := by
  rw [push, keysOf_modify hg.buckets]
  by_cases hb : f.bucket = b
  · rw [if_pos hb.symm, if_pos hb]
  · rw [if_neg (Ne.symm hb), if_neg hb, List.append_nil]

theorem WellFormed.foldl_push (hg : g.WellFormed) (fs : List File) :
  (fs.foldl Buckets.push g).WellFormed
  := by
  induction fs generalizing g with
  | nil => exact hg
  | cons f fs ih => apply ih (hg.push f)

/-- Files that are pushed stand behind the keys of their buckets, in their order. -/
theorem keysOf_foldl_push (hg : g.WellFormed) (fs : List File) (b : String) :
  (fs.foldl push g).keysOf b = g.keysOf b ++ (fs.filter fun f => f.bucket = b).map File.key
  := by
  induction fs generalizing g with
  | nil => simp
  | cons f fs ih =>
    rw [List.foldl_cons, ih (hg.push f), keysOf_push hg, List.append_assoc, List.filter_cons]
    by_cases hb : f.bucket = b <;> simp [hb]

theorem size_cons (bucket : String) (keys : List String) (g : Buckets) :
  size ((bucket, keys) :: g) = keys.length + g.size
  := by
  rw [size, List.flatMap_cons, List.length_append, size]

theorem size_push (g : Buckets) (f : File) :
  (g.push f).size = g.size + 1
  := by
  rw [push]
  fun_induction modify f.bucket (fun keys => keys ++ [f.key]) g with
  | case1 => rfl
  | case2 =>
    simp only [size_cons, List.nil_append, List.length_singleton]
    omega
  | case3 =>
    simp only [size_cons, List.length_append, List.length_singleton]
    omega
  | case4 b keys rest hlt hne ih => rw [size_cons, size_cons, ih, Nat.add_assoc]

theorem size_foldl_push (fs : List File) (g : Buckets) :
  (fs.foldl push g).size = g.size + fs.length
  := by
  induction fs generalizing g with
  | nil => rfl
  | cons f fs ih =>
    rw [List.foldl_cons, ih, size_push, List.length_cons, Nat.add_assoc, Nat.add_comm 1]

/-! ### Joining buckets -/

/-- The keys of both, under each bucket those of `h` behind those of `g`. -/
def append (g h : Buckets) : Buckets :=
  h.foldl (fun g p => modify p.1 (fun keys => keys ++ p.2) g) g

section

variable (join : List String → List String → List String)

/-- Buckets into which the keys of others are joined, bucket by bucket, are well-formed again. -/
theorem WellFormed.foldl_modify (hg : g.WellFormed) (hh : h.WellFormed)
    (hjoin : ∀ more keys : List String, more ≠ [] → join more keys ≠ []) :
  (h.foldl (fun g p => Buckets.modify p.1 (join p.2) g) g).WellFormed
  := by
  have hkeys := hh.keys
  clear hh
  induction h generalizing g with
  | nil => exact hg
  | cons p h ih =>
    rw [List.forall_mem_cons] at hkeys
    apply ih (hg.modify _) hkeys.2
    intro keys
    apply hjoin p.2 keys hkeys.1

/-- Under each bucket, the keys that are listed there are joined into the others. -/
theorem keysOf_foldl_modify (hg : g.WellFormed) (hh : h.WellFormed)
    (hjoin : ∀ keys, join [] keys = keys) (b : String) :
  (h.foldl (fun g p => modify p.1 (join p.2) g) g).keysOf b = join (h.keysOf b) (g.keysOf b)
  := by
  have hascending := hg.buckets
  have hbuckets := hh.buckets
  clear hg hh
  induction h generalizing g with
  | nil => exact (hjoin _).symm
  | cons p h ih =>
    rw [List.map_cons, List.pairwise_cons] at hbuckets
    rw [List.foldl_cons, ih (pairwise_map_fst_modify hascending) hbuckets.2,
      keysOf_modify hascending, keysOf]
    by_cases hb : b = p.1
    · rw [if_pos hb, if_pos hb, keysOf_eq_nil_of_lt (g := h), hjoin]
      rw [hb]
      exact hbuckets.1
    · rw [if_neg hb, if_neg hb]

end

theorem WellFormed.append (hg : g.WellFormed) (hh : h.WellFormed) :
  (g.append h).WellFormed
  := by
  apply hg.foldl_modify (fun more keys => keys ++ more) hh
  intro more keys hmore hnil
  apply hmore (List.append_eq_nil_iff.1 hnil).2

/-- Joined buckets have the keys of both under each bucket, behind each other. -/
theorem keysOf_append (hg : g.WellFormed) (hh : h.WellFormed) (b : String) :
  (g.append h).keysOf b = g.keysOf b ++ h.keysOf b
  := keysOf_foldl_modify (fun more keys => keys ++ more) hg hh List.append_nil b

/-- Pushing a file behind the second of two joined buckets is pushing it behind both. -/
theorem append_push (hg : g.WellFormed) (hh : h.WellFormed) (f : File) :
  (g.append h).push f = g.append (h.push f)
  := by
  apply ((hg.append hh).push f).ext (hg.append (hh.push f))
  intro b
  rw [keysOf_push (hg.append hh), keysOf_append hg hh, keysOf_append hg (hh.push f), keysOf_push hh,
    List.append_assoc]

/-! ### Some of the buckets -/

/-- The buckets that are among the names, with their keys. -/
def within (names : List String) (g : Buckets) : Buckets := g.filter fun p => p.1 ∈ names

theorem keysOf_within (names : List String) (g : Buckets) (b : String) :
  (g.within names).keysOf b = if b ∈ names then g.keysOf b else []
  := by
  induction g with
  | nil => simp [within, keysOf]
  | cons p g ih =>
    rw [within] at ih
    rw [within, List.filter_cons, keysOf]
    by_cases hp : p.1 ∈ names
    · rw [if_pos (decide_eq_true hp), keysOf, ih]
      by_cases hb : b = p.1
      · rw [if_pos hb, if_pos hb, hb, if_pos hp]
      · rw [if_neg hb, if_neg hb]
    · rw [if_neg (by simpa using hp), ih]
      by_cases hb : b = p.1
      · rw [hb, if_neg hp, if_neg hp]
      · rw [if_neg hb]

theorem WellFormed.within (hg : g.WellFormed) (names : List String) :
  (g.within names).WellFormed
  := by
  refine ⟨hg.buckets.sublist (List.filter_sublist.map Prod.fst), ?_⟩
  intro p hp
  apply hg.keys p (List.mem_of_mem_filter hp)

theorem WellFormed.adjoin (hg : g.WellFormed) (f : File) :
  (g.adjoin f).WellFormed
  := by
  apply hg.modify
  intro keys
  split
  next hmem => exact List.ne_nil_of_mem hmem
  next => simp

theorem keysOf_adjoin (hg : g.WellFormed) (f : File) (b : String) :
  (g.adjoin f).keysOf b = if b = f.bucket then
      if f.key ∈ g.keysOf b then g.keysOf b else g.keysOf b ++ [f.key]
    else g.keysOf b
  := keysOf_modify hg.buckets b

/-- A file of one of the buckets is added to it. -/
theorem within_adjoin_of_mem (hg : g.WellFormed) {names : List String} (hf : f.bucket ∈ names) :
  (g.adjoin f).within names = (g.within names).adjoin f
  := by
  apply ((hg.adjoin f).within names).ext ((hg.within names).adjoin f)
  intro b
  rw [keysOf_within, keysOf_adjoin hg, keysOf_adjoin (hg.within names), keysOf_within]
  by_cases hb : b = f.bucket
  · rw [hb, if_pos hf, if_pos rfl, if_pos rfl, if_pos hf]
  · rw [if_neg hb, if_neg hb]

/-- A file of another bucket makes no difference. -/
theorem within_adjoin_of_not_mem (hg : g.WellFormed) {names : List String} (hf : f.bucket ∉ names) :
  (g.adjoin f).within names = g.within names
  := by
  apply ((hg.adjoin f).within names).ext (hg.within names)
  intro b
  rw [keysOf_within, keysOf_within, keysOf_adjoin hg]
  by_cases hb : b = f.bucket
  · rw [hb, if_neg hf, if_neg hf]
  · rw [if_neg hb]

theorem ofDocuments_eq_foldl (ds : List Document) :
  ofDocuments ds = (ds.map Document.file).foldl adjoin []
  := List.foldl_map.symm

/-- The files of documents in some buckets are those under these buckets. -/
theorem foldl_adjoin_filter (hg : g.WellFormed) (names : List String) (fs : List File) :
  (fs.filter fun f => f.bucket ∈ names).foldl adjoin (g.within names)
    = (fs.foldl adjoin g).within names
  := by
  induction fs generalizing g with
  | nil => rfl
  | cons f fs ih =>
    rw [List.foldl_cons, ← ih (hg.adjoin f), List.filter_cons]
    by_cases hf : f.bucket ∈ names
    · rw [if_pos (decide_eq_true hf), List.foldl_cons, within_adjoin_of_mem hg hf]
    · rw [if_neg (by simpa using hf), within_adjoin_of_not_mem hg hf]

/-- Collecting the files in some buckets is collecting all files, and keeping these buckets. -/
theorem ofDocuments_eq_within {ds es : List Document} {names : List String}
    (h : es.map Document.file = (ds.map Document.file).filter fun f => f.bucket ∈ names) :
  ofDocuments es = (ofDocuments ds).within names
  := by
  rw [ofDocuments_eq_foldl, ofDocuments_eq_foldl, ← foldl_adjoin_filter wellFormed_nil, h]
  rfl

end ScanIndex.Buckets
