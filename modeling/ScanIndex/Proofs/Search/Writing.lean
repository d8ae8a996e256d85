import ScanIndex.Proofs.FloatValue
import ScanIndex.Proofs.Search.Grammar
import ScanIndex.Search.Region

/-!
# Writing search requests

A tree with finite coordinates mirrors what it is written as, so it is read back
(`mirrors_toJson`).  The numbers of a JSON value are finite (`Json.isFinite`), and so are the
coordinates of the tree that is read from it, integers included (`Mirrors.isFinite`).  Writing a
request that has been read thus gives a request for the same tree, and for the same filter
(`ofJson_toJson_same_filter`).
-/

namespace ScanIndex

open Json (named)

/-! ### Finite numbers -/

/-- The number is finite, as every integer is. -/
def Number.isFinite : Number → Bool
  | int _ => true
  | float x => x.isFinite

namespace Json

mutual

/-- Every number in the value is finite. -/
def isFinite : Json → Bool
  | number n => n.isFinite
  | array items => areFinite items
  | object fields => haveFinite fields
  | _ => true

/-- Every number in the items is finite. -/
def areFinite : List Json → Bool
  | [] => true
  | v :: vs => isFinite v && areFinite vs

/-- Every number in the values of the fields is finite. -/
def haveFinite : List (String × Json) → Bool
  | [] => true
  | (_, v) :: fs => isFinite v && haveFinite fs

end

theorem areFinite_iff {items : List Json} :
  areFinite items = true ↔ ∀ v ∈ items, v.isFinite = true
  := by
  induction items with
  | nil => simp [areFinite]
  | cons v vs ih => rw [areFinite, Bool.and_eq_true, ih, List.forall_mem_cons]

theorem haveFinite_iff {fields : List (String × Json)} :
  haveFinite fields = true ↔ ∀ f ∈ fields, f.2.isFinite = true
  := by
  induction fields with
  | nil => simp [haveFinite]
  | cons f fs ih => rw [haveFinite, Bool.and_eq_true, ih, List.forall_mem_cons]

end Json

/-- The float nearest to an integer is finite, and so is the float of every finite number. -/
theorem Number.isFinite_toFloat {n : Number} (h : n.isFinite = true) :
  n.toFloat.isFinite = true
  := by
  cases n with
  | int n =>
    rw [toFloat, Decoder.floatOfInt]
    split
    · apply isFinite_neg (ScanIndex.isFinite_toFloat _)
    · apply ScanIndex.isFinite_toFloat
  | float x => apply h

/-- The coordinates of the rectangle are finite. -/
def Rectangle.isFinite (r : Rectangle) : Bool :=
  r.first.x.isFinite && r.first.y.isFinite && r.second.x.isFinite && r.second.y.isFinite

/-- The coordinates of all terms of the tree are finite. -/
def SearchTree.isFinite (t : SearchTree) : Bool := t.leaves.all fun s => s.rectangle.isFinite

/-! ### Trees that are written -/

/-- A term mirrors the fields that it is written as. -/
theorem SearchTerm.exists_toJson_eq {t : SearchTerm} (h : t.rectangle.isFinite = true) :
  ∃ fields, t.toJson = .object fields ∧ t.Mirrors fields
  := by
  simp only [Rectangle.isFinite, Bool.and_eq_true] at h
  obtain ⟨⟨⟨ha, hb⟩, hc⟩, hd⟩ := h
  have hrectangle : t.rectangle.toJson = .array [
      .array [.number (.float t.rectangle.first.x), .number (.float t.rectangle.first.y)],
      .array [.number (.float t.rectangle.second.x), .number (.float t.rectangle.second.y)]] := by
    rw [Rectangle.toJson, Json.ofFloat, Json.ofFloat, Json.ofFloat, Json.ofFloat, if_pos ha,
      if_pos hb, if_pos hc, if_pos hd]
  refine ⟨_, rfl, ?_, ?_, ?_⟩
  · exact .inr ⟨.string t.text, by simp [named], rfl⟩
  · exact .inr ⟨.ofInt t.pageNumber.toInt, by simp [named], rfl⟩
  · exact .inr ⟨_, by simp [named], _, _, _, _, hrectangle, rfl⟩

/-- A term that mirrors fields with finite numbers has finite coordinates. -/
theorem SearchTerm.Mirrors.isFinite {fields : List (String × Json)} {t : SearchTerm}
    (h : t.Mirrors fields) (hfields : ∀ f ∈ fields, f.2.isFinite = true) :
  t.rectangle.isFinite = true
  := by
  obtain ⟨-, hzero⟩ | ⟨v, hv, a, b, c, d, hshape, hr⟩ := h.rectangle
  · rw [hzero]
    decide
  · have hmem : v ∈ named "coordinates" fields := by
      rw [hv]
      apply List.mem_cons_self
    have hfinite := hfields _ (Json.mem_named_iff.1 hmem)
    simp only [hshape, Json.isFinite, Json.areFinite, Bool.and_true, Bool.and_eq_true] at hfinite
    obtain ⟨⟨ha, hb⟩, hc, hd⟩ := hfinite
    rw [hr, Rectangle.isFinite, Number.isFinite_toFloat ha, Number.isFinite_toFloat hb,
      Number.isFinite_toFloat hc, Number.isFinite_toFloat hd]
    rfl

namespace SearchTree

theorem isFinite_iff {t : SearchTree} :
  t.isFinite = true ↔ ∀ s ∈ t.leaves, s.rectangle.isFinite = true
  := List.all_eq_true

mutual

/-- A tree with finite coordinates mirrors what it is written as. -/
theorem mirrors_toJson :
  ∀ {t : SearchTree}, (∀ s ∈ t.leaves, s.rectangle.isFinite = true) → Mirrors t.toJson t
  | .leaf s, h => by
      obtain ⟨fields, hfields, hs⟩ := SearchTerm.exists_toJson_eq (h s List.mem_cons_self)
      rw [toJson, hfields]
      apply Mirrors.leaf hs
  | .and _, h => .and (mirrors_toItems h)
  | .or _, h => .or (mirrors_toItems h)
  | .not _, h => .not (mirrors_toItems h)

theorem mirrors_toItems :
  ∀ {ts : List SearchTree}, (∀ s ∈ Formula.leavesOfList ts, s.rectangle.isFinite = true) →
    List.Forall₂ Mirrors (toItems ts) ts
  | [], _ => .nil
  | _ :: _, h =>
      .cons (mirrors_toJson fun s hs => h s (List.mem_append_left _ hs))
        (mirrors_toItems fun s hs => h s (List.mem_append_right _ hs))

end

/-! ### Trees that are read -/

theorem isFinite_of_forall₂ {items : List Json} {ts : List SearchTree}
    (h : List.Forall₂ Mirrors items ts)
    (hitems : ∀ v ∈ items, ∀ t, Mirrors v t → ∀ s ∈ t.leaves, s.rectangle.isFinite = true) :
  ∀ s ∈ Formula.leavesOfList ts, s.rectangle.isFinite = true
  := by
  induction h with
  | nil => simp [Formula.leavesOfList]
  | cons ht _ ih =>
    rw [List.forall_mem_cons] at hitems
    rw [Formula.leavesOfList, List.forall_mem_append]
    exact ⟨hitems.1 _ ht, ih hitems.2⟩

/-- A tree that mirrors a value with finite numbers has finite coordinates. -/
theorem Mirrors.isFinite {j : Json} {t : SearchTree} (h : Mirrors j t) (hj : j.isFinite = true) :
  ∀ s ∈ t.leaves, s.rectangle.isFinite = true
  := by
  induction j using node_induction generalizing t with
  | h j ih =>
    have hitems {key : String} {items : List Json} (hkey : j = .object [(key, .array items)]) :
        ∀ v ∈ items, ∀ t, Mirrors v t → ∀ s ∈ t.leaves, s.rectangle.isFinite = true := by
      rw [hkey, Json.isFinite, Json.haveFinite, Json.haveFinite, Json.isFinite, Bool.and_true,
        Json.areFinite_iff] at hj
      intro v hv t ht
      apply ih key items hkey v hv ht (hj v hv)
    cases h with
    | leaf hs =>
      simp only [Json.isFinite, Json.haveFinite, Bool.and_true, Json.haveFinite_iff] at hj
      simp only [Formula.leaves, List.mem_singleton, forall_eq]
      apply hs.isFinite hj
    | and hparts => apply isFinite_of_forall₂ hparts (hitems rfl)
    | or hparts => apply isFinite_of_forall₂ hparts (hitems rfl)
    | not hparts => apply isFinite_of_forall₂ hparts (hitems rfl)

/-- A tree with finite coordinates is read back from what it is written as.  A value that is
read, and written again, is read as the same tree, and stands for the same filter, or has the
same error. -/
theorem ofJson_toJson_same_filter :
  (∀ t : SearchTree, t.isFinite = true → ofJson t.toJson = .ok t)
    ∧ ∀ (j : Json) (t : SearchTree), j.isFinite = true → ofJson j = .ok t →
        ofJson t.toJson = .ok t ∧ Filter.ofJson t.toJson = Filter.ofJson j
  := by
  have hback (t : SearchTree) (ht : t.isFinite = true) : ofJson t.toJson = .ok t :=
    ofJson_eq_ok_iff.2 (mirrors_toJson (isFinite_iff.1 ht))
  refine ⟨hback, ?_⟩
  intro j t hj hread
  have ht := hback t (isFinite_iff.2 ((ofJson_eq_ok_iff.1 hread).isFinite hj))
  refine ⟨ht, ?_⟩
  rw [Filter.ofJson, Filter.ofJson, ht, hread]

/-- A request with integers for coordinates, no page number and a field too many reads as a tree,
and so does what that is written as. -/
theorem ofJson_toJson_same_filter_integers :
  ∃ (j : Json) (t : SearchTree),
    j = .object [("and", .array [
      .object [("not", .array [])],
      .object [("search", .object [
        ("color", .null),
        ("coordinates", .array [.array [.ofInt 0, .ofInt 1],
          .array [.number (.float 0.5), .ofInt (-2)]]),
        ("text", .string "total")])]])]
    ∧ t = .and [.not [], .leaf ⟨"total", 0, ⟨⟨0, 1⟩, ⟨0.5, -2⟩⟩⟩]
    ∧ ofJson t.toJson = .ok t ∧ Filter.ofJson t.toJson = Filter.ofJson j
  := by
  refine ⟨_, _, rfl, rfl, ofJson_toJson_same_filter.1 _ ?_,
    (ofJson_toJson_same_filter.2 _ _ ?_ ?_).2⟩
  · decide +kernel
  · decide +kernel
  · rfl

end SearchTree

end ScanIndex
