import Mathlib.Data.List.Basic
import Mathlib.Data.List.Induction
import Mathlib.Data.List.Nodup
import ScanIndex.Proofs.Buckets
import ScanIndex.Proofs.Text.ByteOrder

/-!
# Files grouped by their buckets

Buckets group files if they list each of them once, the buckets in the order of their bytes and the
keys under a bucket in the order in which they first come up (`Buckets.Groups`).  At most one list
of buckets does (`Groups.unique`), and collecting the files of documents gives it
(`groups_ofDocuments`).

`Buckets.union` adds the keys of other buckets that are not there yet.  Buckets that group files are
made into those that group more of them (`Groups.union`), so that the files of documents may be
collected in parts.
-/

namespace ScanIndex.Buckets

variable {g h : Buckets} {fs gs : List File} {keys more : List String} {bucket : String}

/-! ### Keys as they first come up -/

/-- The keys are those of the files in the bucket, as they first come up. -/
structure ListsKeys (bucket : String) (fs : List File) (keys : List String) : Prop where
  mem (key : String) : key ∈ keys ↔ ⟨bucket, key⟩ ∈ fs
  order : keys.Pairwise fun k l => fs.idxOf ⟨bucket, k⟩ < fs.idxOf ⟨bucket, l⟩

theorem ListsKeys.nodup (h : ListsKeys bucket fs keys) :
  keys.Nodup
  := by
  apply h.order.imp
  rintro k l hlt rfl
  apply lt_irrefl _ hlt

theorem ListsKeys.unique (h : ListsKeys bucket fs keys) (h' : ListsKeys bucket fs more) :
  keys = more
  := by
  have hperm : keys.Perm more := by
    rw [List.perm_ext_iff_of_nodup h.nodup h'.nodup]
    intro key
    rw [h.mem, h'.mem]
  apply hperm.eq_of_pairwise _ h.order h'.order
  intro k l _ _ hkl hlk
  exact absurd hlk (lt_asymm hkl)

/-- The keys of more files are added behind the others, unless they are there. -/
theorem ListsKeys.append (h : ListsKeys bucket fs keys) (h' : ListsKeys bucket gs more) :
  ListsKeys bucket (fs ++ gs) (keys ++ more.filter fun k => k ∉ keys)
  := by
  have hnew : ∀ k ∈ more.filter (fun k => k ∉ keys), (⟨bucket, k⟩ : File) ∉ fs := by
    intro k hk
    rw [List.mem_filter, decide_eq_true_eq, h.mem] at hk
    exact hk.2
  constructor
  · intro key
    rw [List.mem_append, List.mem_append, List.mem_filter, decide_eq_true_eq, h.mem, h'.mem]
    tauto
  · rw [List.pairwise_append]
    refine ⟨?_, ?_, ?_⟩
    · apply h.order.imp_of_mem
      intro k l hk hl hlt
      rwa [List.idxOf_append_of_mem ((h.mem k).1 hk), List.idxOf_append_of_mem ((h.mem l).1 hl)]
    · apply (h'.order.sublist List.filter_sublist).imp_of_mem
      intro k l hk hl hlt
      rw [List.idxOf_append_of_notMem (hnew k hk), List.idxOf_append_of_notMem (hnew l hl)]
      apply Nat.add_lt_add_left hlt
    · intro k hk l hl
      have hlt := List.idxOf_lt_length_of_mem ((h.mem k).1 hk)
      rw [List.idxOf_append_of_mem ((h.mem k).1 hk), List.idxOf_append_of_notMem (hnew l hl)]
      apply Nat.lt_add_right _ hlt

/-! ### Files under their buckets -/

/-- The buckets list the files, each once: the buckets are those of the files, in the order of
their bytes, and under each of them stand the keys of its files, in the order in which they first
come up. -/
structure Groups (g : Buckets) (fs : List File) : Prop where
  buckets (bucket : String) : bucket ∈ g.map Prod.fst ↔ ∃ f ∈ fs, f.bucket = bucket
  ascending : (g.map fun p => Utf8.encode p.1).Pairwise (· < ·)
  nonempty : ∀ p ∈ g, p.2 ≠ []
  keys : ∀ p ∈ g, ∀ key, key ∈ p.2 ↔ ⟨p.1, key⟩ ∈ fs
  nodup : ∀ p ∈ g, p.2.Nodup
  order : ∀ p ∈ g, p.2.Pairwise fun k l => fs.idxOf ⟨p.1, k⟩ < fs.idxOf ⟨p.1, l⟩

theorem Groups.wellFormed (hg : g.Groups fs) :
  g.WellFormed
  := by
  refine ⟨?_, hg.nonempty⟩
  have hascending := hg.ascending
  rw [List.pairwise_map] at hascending ⊢
  apply hascending.imp
  intro p q hpq
  apply Utf8.encode_lt_encode_iff.1 hpq

theorem Groups.listsKeys (hg : g.Groups fs) (bucket : String) :
  ListsKeys bucket fs (g.keysOf bucket)
  := by
  by_cases hbucket : bucket ∈ g.map Prod.fst
  · have hmem : (bucket, g.keysOf bucket) ∈ g :=
      hg.wellFormed.mem_iff.2 ⟨rfl, hg.wellFormed.mem_map_fst_iff.1 hbucket⟩
    exact ⟨hg.keys _ hmem, hg.order _ hmem⟩
  · rw [keysOf_eq_nil hbucket]
    rw [hg.buckets] at hbucket
    refine ⟨?_, List.Pairwise.nil⟩
    intro key
    constructor
    · intro hmem
      cases hmem
    · intro hmem
      exact absurd ⟨_, hmem, rfl⟩ hbucket

/-- Well-formed buckets group the files if the keys under each bucket are those of its files. -/
theorem WellFormed.groups (hg : g.WellFormed) (hkeys : ∀ b, ListsKeys b fs (g.keysOf b)) :
  g.Groups fs
  := by
  have hlists : ∀ p ∈ g, ListsKeys p.1 fs p.2 := by
    intro p hp
    rw [← (hg.mem_iff.1 hp).1]
    apply hkeys
  constructor
  case buckets =>
    intro bucket
    rw [hg.mem_map_fst_iff]
    constructor
    · intro hne
      obtain ⟨key, hmem⟩ := List.exists_mem_of_ne_nil _ hne
      exact ⟨_, ((hkeys bucket).mem key).1 hmem, rfl⟩
    · rintro ⟨f, hmem, rfl⟩
      apply List.ne_nil_of_mem (((hkeys f.bucket).mem f.key).2 hmem)
  case ascending =>
    rw [List.pairwise_map]
    apply (List.pairwise_map.1 hg.buckets).imp
    intro p q hpq
    apply Utf8.encode_lt_encode hpq
  case nonempty => exact hg.keys
  case keys => exact fun p hp => (hlists p hp).mem
  case nodup => exact fun p hp => (hlists p hp).nodup
  case order => exact fun p hp => (hlists p hp).order

/-- At most one list of buckets groups files. -/
theorem Groups.unique (hg : g.Groups fs) (hh : h.Groups fs) :
  g = h
  := by
  apply hg.wellFormed.ext hh.wellFormed
  intro b
  apply (hg.listsKeys b).unique (hh.listsKeys b)

/-! ### Adding to buckets -/

/-- The keys of both, under each bucket those of `h` that are not there yet behind those of `g`. -/
def union (g h : Buckets) : Buckets :=
  h.foldl (fun g p => modify p.1 (fun keys => keys ++ p.2.filter fun k => k ∉ keys) g) g

theorem WellFormed.union (hg : g.WellFormed) (hh : h.WellFormed) :
  (g.union h).WellFormed
  := by
  apply hg.foldl_modify (fun more keys => keys ++ more.filter fun k => k ∉ keys) hh
  rintro more (_ | ⟨key, keys⟩) hmore
  · simpa using hmore
  · simp

theorem keysOf_union (hg : g.WellFormed) (hh : h.WellFormed) (b : String) :
  (g.union h).keysOf b = g.keysOf b ++ (h.keysOf b).filter fun k => k ∉ g.keysOf b
  := keysOf_foldl_modify (fun more keys => keys ++ more.filter fun k => k ∉ keys) hg hh
    List.append_nil b

theorem Groups.union (hg : g.Groups fs) (hh : h.Groups gs) :
  (g.union h).Groups (fs ++ gs)
  := by
  apply (hg.wellFormed.union hh.wellFormed).groups
  intro b
  rw [keysOf_union hg.wellFormed hh.wellFormed]
  apply (hg.listsKeys b).append (hh.listsKeys b)

theorem groups_singleton (f : File) :
  Groups [(f.bucket, [f.key])] [f]
  := by
  obtain ⟨bucket, key⟩ := f
  constructor <;> simp [eq_comm]

theorem adjoin_eq_union (g : Buckets) (f : File) :
  g.adjoin f = g.union [(f.bucket, [f.key])]
  := by
  rw [adjoin, union, List.foldl_cons, List.foldl_nil]
  congr 1
  funext keys
  by_cases hkey : f.key ∈ keys <;> simp [hkey]

/-! ### The files of documents -/

/-- Collecting the files of documents groups them. -/
theorem groups_ofDocuments (ds : List Document) :
  (ofDocuments ds).Groups (ds.map Document.file)
  := by
  induction ds using List.reverseRecOn with
  | nil => constructor <;> simp [ofDocuments]
  | append_singleton ds d ih =>
    rw [ofDocuments, List.foldl_append, List.foldl_cons, List.foldl_nil, List.map_append,
      List.map_singleton, adjoin_eq_union]
    apply ih.union (groups_singleton d.file)

theorem ofDocuments_append (ds es : List Document) :
  ofDocuments (ds ++ es) = (ofDocuments ds).union (ofDocuments es)
  := by
  have hgroups := groups_ofDocuments (ds ++ es)
  rw [List.map_append] at hgroups
  apply hgroups.unique ((groups_ofDocuments ds).union (groups_ofDocuments es))

/-- Collecting the files of documents gives the buckets that group them, and no others.  The files
of two lists of documents are collected by collecting those of the first, and adding under each
bucket the keys of the second that are not there yet. -/
theorem eq_ofDocuments_iff_groups (ds es : List Document) :
  (∀ g, g = ofDocuments ds ↔ g.Groups (ds.map Document.file))
    ∧ ofDocuments (ds ++ es) = (ofDocuments ds).union (ofDocuments es)
    ∧ ∀ b, (ofDocuments (ds ++ es)).keysOf b
      = (ofDocuments ds).keysOf b
        ++ ((ofDocuments es).keysOf b).filter fun k => k ∉ (ofDocuments ds).keysOf b
  := by
  have hunion := ofDocuments_append ds es
  refine ⟨?_, hunion, ?_⟩
  · intro g
    constructor
    · rintro rfl
      apply groups_ofDocuments
    · intro hg
      apply hg.unique (groups_ofDocuments ds)
  · intro b
    rw [hunion]
    apply keysOf_union (groups_ofDocuments ds).wellFormed (groups_ofDocuments es).wellFormed

example :
  ofDocuments [⟨"d", "b2", "z.jpg", []⟩, ⟨"e", "b1", "q.jpg", []⟩, ⟨"f", "b2", "a.jpg", []⟩,
      ⟨"g", "b1", "p.jpg", []⟩, ⟨"h", "b2", "z.jpg", []⟩]
    = [("b1", ["q.jpg", "p.jpg"]), ("b2", ["z.jpg", "a.jpg"])]
  := by
  decide +kernel

end ScanIndex.Buckets
