import ScanIndex.Proofs.Geometry
import ScanIndex.Proofs.Indexing.Recognition
import ScanIndex.Proofs.Store.Refusal

/-!
# Drawn identifiers

The identifiers of a document that is made from blocks are drawn one after the other
(`DrawnFrom.ofBlocks`), so those of each kind differ from each other and from all that were drawn
before.  Documents whose identifiers have been drawn, `Memory.DrawnBefore`, therefore accept the
documents of a batch (`Recognised.acceptsAll`), whatever the blocks are.
-/

namespace ScanIndex

variable {ids : Supply} {n i j k : Nat} {x : String} {xs ys : List String}

/-- The identifiers are drawn one after the other, from place `n` on and before place `k`; some
places may be passed over. -/
inductive DrawnFrom (ids : Supply) : Nat → Nat → List String → Prop
  | nil {n k : Nat} (h : n ≤ k) : DrawnFrom ids n k []
  | cons {n i k : Nat} {xs : List String} (hi : n ≤ i) (h : DrawnFrom ids (i + 1) k xs) :
      DrawnFrom ids n k (ids i :: xs)

namespace DrawnFrom

theorem le (h : DrawnFrom ids n k xs) :
  n ≤ k
  := by
  induction h with
  | nil h => exact h
  | cons hi h ih => omega

theorem weaken_left (h : DrawnFrom ids n k xs) (hj : j ≤ n) :
  DrawnFrom ids j k xs
  := by
  cases h with
  | nil h => exact .nil (hj.trans h)
  | cons hi h => exact .cons (hj.trans hi) h

theorem weaken_right (h : DrawnFrom ids n k xs) (hj : k ≤ j) :
  DrawnFrom ids n j xs
  := by
  induction h with
  | nil h => exact .nil (h.trans hj)
  | cons hi h ih => exact .cons hi (ih hj)

theorem singleton (h : n < k) :
  DrawnFrom ids n k [ids n]
  := .cons (Nat.le_refl n) (.nil h)

theorem append (h : DrawnFrom ids n j xs) (h' : DrawnFrom ids j k ys) :
  DrawnFrom ids n k (xs ++ ys)
  := by
  induction h with
  | nil h => exact h'.weaken_left h
  | cons hi h ih => exact .cons hi (ih h')

theorem exists_of_mem (h : DrawnFrom ids n k xs) (hx : x ∈ xs) :
  ∃ i, n ≤ i ∧ i < k ∧ x = ids i
  := by
  induction h with
  | nil => cases hx
  | cons hi h ih =>
    have hk := h.le
    rcases List.mem_cons.1 hx with rfl | hx
    · exact ⟨_, hi, by omega, rfl⟩
    · obtain ⟨j, hj, hjk, hxj⟩ := ih hx
      exact ⟨j, by omega, hjk, hxj⟩

theorem nodup (h : DrawnFrom ids n k xs) (hids : Function.Injective ids) :
  xs.Nodup
  := by
  induction h with
  | nil => exact List.nodup_nil
  | cons hi h ih =>
    refine List.nodup_cons.2 ⟨?_, ih⟩
    intro hmem
    obtain ⟨j, hj, -, hij⟩ := h.exists_of_mem hmem
    have := hids hij
    omega

end DrawnFrom

/-! ### Documents from blocks -/

theorem drawnFrom_lines (ids : Supply) (n : Nat) (bs : List Block) :
  DrawnFrom ids n (n + 2 * bs.length) ((linesOfBlocks ids n bs).map Line.id)
    ∧ DrawnFrom ids n (n + 2 * bs.length) ((linesOfBlocks ids n bs).map fun l => l.coordinates.id)
  := by
  induction bs generalizing n with
  | nil => exact ⟨.nil (Nat.le_refl n), .nil (Nat.le_refl n)⟩
  | cons b bs ih =>
    have hlength : n + 2 * (b :: bs).length = n + 2 + 2 * bs.length := by
      rw [List.length_cons]
      omega
    obtain ⟨hlines, hcoordinates⟩ := ih (n + 2)
    rw [hlength]
    constructor
    · exact .cons (Nat.le_refl n) (hlines.weaken_left (by omega))
    · exact .cons (Nat.le_succ n) hcoordinates

/-- The identifiers of a page are drawn from its place on. -/
theorem drawnFrom_page (ids : Supply) (n : Nat) (number : Int64) (bs : List Block)
    (kind : RowKind) :
  DrawnFrom ids n (n + 1 + 2 * bs.length)
    ((⟨ids n, number, linesOfBlocks ids (n + 1) bs⟩ : Page).ids kind)
  := by
  obtain ⟨hlines, hcoordinates⟩ := drawnFrom_lines ids (n + 1) bs
  cases kind with
  | page => exact .singleton (by omega)
  | line => exact hlines.weaken_left (by omega)
  | coordinates => exact hcoordinates.weaken_left (by omega)

theorem drawnFrom_pages (ids : Supply) (blocks : List Block) (n : Nat) (ps : List Block)
    (kind : RowKind) :
  DrawnFrom ids n (pagesOfBlocks ids blocks n ps).2
    ((pagesOfBlocks ids blocks n ps).1.flatMap fun p => p.ids kind)
  := by
  induction ps generalizing n with
  | nil => exact .nil (Nat.le_refl n)
  | cons p ps ih => exact (drawnFrom_page ids n _ _ kind).append (ih _)

/-- The identifiers of the rows of a kind below a document are drawn one after the other while it is
made. -/
theorem DrawnFrom.ofBlocks (ids : Supply) (n : Nat) (f : File) (blocks : List Block)
    (kind : RowKind) :
  DrawnFrom ids n (Document.ofBlocks ids n f blocks).2
    ((Document.ofBlocks ids n f blocks).1.idsBelow kind)
  := (drawnFrom_pages ids blocks n _ kind).weaken_right (Nat.le_succ _)

theorem hasEmptyCell_of_mem_linesOfBlocks {bs : List Block} {l : Line}
    (h : l ∈ linesOfBlocks ids n bs) :
  Sql.hasEmptyCell l.coordinates.corners = false
  := by
  induction bs generalizing n with
  | nil => cases h
  | cons b bs ih =>
    rcases List.mem_cons.1 h with rfl | h
    · apply hasEmptyCell_ofBox
    · exact ih h

theorem hasEmptyCell_of_mem_pagesOfBlocks {blocks ps : List Block} {p : Page} {l : Line}
    (hp : p ∈ (pagesOfBlocks ids blocks n ps).1) (hl : l ∈ p.lines) :
  Sql.hasEmptyCell l.coordinates.corners = false
  := by
  induction ps generalizing n with
  | nil => cases hp
  | cons q ps ih =>
    rcases List.mem_cons.1 hp with rfl | hp
    · exact hasEmptyCell_of_mem_linesOfBlocks hl
    · exact ih hp

/-! ### Documents under drawn identifiers -/

/-- All identifiers of the documents, and of the rows below them, have been drawn before
place `n`. -/
def Memory.DrawnBefore (ids : Supply) (n : Nat) (m : Memory) : Prop :=
  ∀ d ∈ m.documents,
    (∃ i < n, d.id = ids i) ∧ ∀ kind, ∀ x ∈ d.idsBelow kind, ∃ i < n, x = ids i

namespace Memory.DrawnBefore

variable {m m' : Memory} {f : File} {blocks : List Block}

theorem weaken (h : m.DrawnBefore ids n) (hk : n ≤ k) :
  m.DrawnBefore ids k
  := by
  intro d hd
  obtain ⟨⟨i, hi, hid⟩, hbelow⟩ := h d hd
  refine ⟨⟨i, by omega, hid⟩, ?_⟩
  intro kind x hx
  obtain ⟨j, hj, hxj⟩ := hbelow kind x hx
  exact ⟨j, by omega, hxj⟩

theorem sublist (h : m.DrawnBefore ids n) (hs : m'.documents.Sublist m.documents) :
  m'.DrawnBefore ids n
  := fun d hd => h d (hs.subset hd)

/-- An identifier that is yet to be drawn differs from those that have been. -/
theorem ne_of_le (hids : Function.Injective ids) (hx : ∃ i < n, x = ids i) (hj : n ≤ j) :
  x ≠ ids j
  := by
  obtain ⟨i, hi, rfl⟩ := hx
  intro hij
  have := hids hij
  omega

/-- A document that is made from blocks is not refused. -/
theorem not_refuses (h : m.DrawnBefore ids n) (hids : Function.Injective ids) (f : File)
    (blocks : List Block) :
  ¬m.Refuses (Document.ofBlocks ids n f blocks).1
  := by
  rw [Memory.not_refuses_iff]
  refine ⟨?_, ?_, ?_, ?_⟩
  · rintro - hmem
    obtain ⟨i, hi, hid, -⟩ := Document.exists_id_ofBlocks ids n f blocks
    obtain ⟨d, hd, hdid⟩ := List.mem_map.1 hmem
    exact ne_of_le hids (h d hd).1 hi (hdid.trans hid)
  · intro kind
    exact (DrawnFrom.ofBlocks ids n f blocks kind).nodup hids
  · intro kind e he _ x hx hused
    obtain ⟨i, hi, -, hxi⟩ := (DrawnFrom.ofBlocks ids n f blocks kind).exists_of_mem hx
    exact ne_of_le hids ((h e he).2 kind x hused) hi hxi
  · intro l hl
    obtain ⟨p, hp, hl⟩ := List.mem_flatMap.1 hl
    exact hasEmptyCell_of_mem_pagesOfBlocks hp hl

/-- Once a document that is made from blocks is stored, all identifiers have been drawn again. -/
theorem upsert (h : m.DrawnBefore ids n) (f : File) (blocks : List Block) :
  (m.upsert [(Document.ofBlocks ids n f blocks).1]).DrawnBefore ids
    (Document.ofBlocks ids n f blocks).2
  := by
  obtain ⟨i, hi, hid, hdrawn⟩ := Document.exists_id_ofBlocks ids n f blocks
  have hold := h.weaken (k := (Document.ofBlocks ids n f blocks).2) (by omega)
  have hbelow (kind : RowKind) (x : String)
      (hx : x ∈ (Document.ofBlocks ids n f blocks).1.idsBelow kind) :
      ∃ i < (Document.ofBlocks ids n f blocks).2, x = ids i := by
    obtain ⟨j, -, hj, hxj⟩ := (DrawnFrom.ofBlocks ids n f blocks kind).exists_of_mem hx
    exact ⟨j, hj, hxj⟩
  intro d hd
  change d ∈ Memory.insert _ m.documents at hd
  rcases forall_ne_or_eq_append (Document.ofBlocks ids n f blocks).1.file m.documents with
    hne | ⟨pre, e, post, hm, hpre, he⟩
  · rw [insert_of_forall_ne hne, List.mem_append, List.mem_singleton] at hd
    rcases hd with hd | rfl
    · exact hold d hd
    · exact ⟨⟨i, by omega, hid⟩, hbelow⟩
  · rw [hm, insert_middle hpre he, List.perm_middle.mem_iff, List.mem_cons] at hd
    have hmem {x : Document} (hx : x ∈ e :: (pre ++ post)) : x ∈ m.documents := by
      rw [hm, List.perm_middle.mem_iff]
      exact hx
    rcases hd with rfl | hd
    · exact ⟨(hold e (hmem List.mem_cons_self)).1, hbelow⟩
    · exact hold d (hmem (List.mem_cons_of_mem e hd))

end Memory.DrawnBefore

/-- The documents of recognised files are accepted one after the other, and afterwards all
identifiers have been drawn. -/
theorem Recognised.acceptsAll {engine : Engine} {c : Nat} {fs : List File} {ds : List Document}
    (h : Recognised engine ids c n fs ds k) (hids : Function.Injective ids) {m : Memory}
    (hm : m.DrawnBefore ids n) :
  m.AcceptsAll ds ∧ (m.upsert ds).DrawnBefore ids k
  := by
  induction h generalizing m with
  | nil => exact ⟨m.acceptsAll_nil, hm⟩
  | @cons c n k f fs ds blocks hblocks h ih =>
    obtain ⟨haccepts, hdrawn⟩ := ih (hm.upsert f blocks)
    exact ⟨Memory.acceptsAll_cons_iff.2 ⟨hm.not_refuses hids f blocks, haccepts⟩, hdrawn⟩

end ScanIndex
