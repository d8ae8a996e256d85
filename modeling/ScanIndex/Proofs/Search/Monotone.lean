import ScanIndex.Proofs.Search.Extent

/-!
# Wider and narrower rectangles

A request accepts more documents if its rectangles grow below an even number of `not` and shrink
below an odd number (`SearchTree.accepts_of_signed`).  `Formula.Signed` relates two formulas of one
shape whose leaves are related in a way that depends on which of the two it is, and the truth values
of such formulas are in the order that the leaves give (`Formula.Signed.oriented_holds`).
-/

namespace ScanIndex

/-- The relation for `true`, and the converse one for `false`. -/
def oriented {α : Type} (r : α → α → Prop) : Bool → α → α → Prop
  | true, a, b => r a b
  | false, a, b => r b a

namespace Formula

variable {α β γ δ : Type}

mutual

/-- Two formulas have the same shape, and related leaves in the same places, where the relation is
that of the given sign below an even number of `not`, and that of the other sign below an odd
number. -/
inductive Signed (r : Bool → α → β → Prop) : Bool → Formula α → Formula β → Prop where
  | leaf {e : Bool} {a : α} {b : β} (h : r e a b) : Signed r e (.leaf a) (.leaf b)
  | and {e : Bool} {fs : List (Formula α)} {gs : List (Formula β)} (h : SignedLists r e fs gs) :
    Signed r e (.and fs) (.and gs)
  | or {e : Bool} {fs : List (Formula α)} {gs : List (Formula β)} (h : SignedLists r e fs gs) :
    Signed r e (.or fs) (.or gs)
  | not {e : Bool} {fs : List (Formula α)} {gs : List (Formula β)} (h : SignedLists r (!e) fs gs) :
    Signed r e (.not fs) (.not gs)

/-- The formulas of two lists are related one by one, with the same sign. -/
inductive SignedLists (r : Bool → α → β → Prop) :
    Bool → List (Formula α) → List (Formula β) → Prop where
  | nil {e : Bool} : SignedLists r e [] []
  | cons {e : Bool} {f : Formula α} {g : Formula β} {fs : List (Formula α)} {gs : List (Formula β)}
    (h : Signed r e f g) (hs : SignedLists r e fs gs) : SignedLists r e (f :: fs) (g :: gs)

end

section

variable {r : Bool → α → β → Prop} {s : Bool → γ → δ → Prop} {g : α → γ → Prop} {g' : β → δ → Prop}

mutual

/-- If two leaves can be replaced on both sides of a relation, then so can the leaves of two
formulas. -/
theorem Signed.replace (hr : ∀ e a b c d, r e a b → g a c → g' b d → s e c d) :
  ∀ {e : Bool} {t : Formula α} {u : Formula β} {t' : Formula γ} {u' : Formula δ},
    Signed r e t u → Related g t t' → Related g' u u' → Signed s e t' u'
  | _, _, _, _, _, .leaf h, .leaf ht, .leaf hu => .leaf (hr _ _ _ _ _ h ht hu)
  | _, _, _, _, _, .and h, .and ht, .and hu => .and (h.replace hr ht hu)
  | _, _, _, _, _, .or h, .or ht, .or hu => .or (h.replace hr ht hu)
  | _, _, _, _, _, .not h, .not ht, .not hu => .not (h.replace hr ht hu)

theorem SignedLists.replace (hr : ∀ e a b c d, r e a b → g a c → g' b d → s e c d) :
  ∀ {e : Bool} {ts : List (Formula α)} {us : List (Formula β)} {ts' : List (Formula γ)}
      {us' : List (Formula δ)},
    SignedLists r e ts us → RelatedLists g ts ts' → RelatedLists g' us us' → SignedLists s e ts' us'
  | _, _, _, _, _, .nil, .nil, .nil => .nil
  | _, _, _, _, _, .cons h hs, .cons ht hts, .cons hu hus =>
    .cons (h.replace hr ht hu) (hs.replace hr hts hus)

end

end

/-! ### Truth values in order -/

section

variable {e x x' y y' : Bool}

theorem oriented_not (h : oriented (· ≤ ·) (!e) x y) :
  oriented (· ≤ ·) e (!x) (!y)
  := by
  have hnot : ∀ a b : Bool, a ≤ b → (!b) ≤ (!a) := by decide
  cases e with
  | true => exact hnot y x h
  | false => exact hnot x y h

theorem oriented_and (h : oriented (· ≤ ·) e x y) (h' : oriented (· ≤ ·) e x' y') :
  oriented (· ≤ ·) e (x && x') (y && y')
  := by
  cases e with
  | true => exact inf_le_inf h h'
  | false => exact inf_le_inf h h'

theorem oriented_or (h : oriented (· ≤ ·) e x y) (h' : oriented (· ≤ ·) e x' y') :
  oriented (· ≤ ·) e (x || x') (y || y')
  := by
  cases e with
  | true => exact sup_le_sup h h'
  | false => exact sup_le_sup h h'

end

section

variable {r : Bool → α → β → Prop} {p : α → Bool} {q : β → Bool}

mutual

/-- The truth values of two formulas are in the order that those of related leaves are in. -/
theorem Signed.oriented_holds (hr : ∀ e a b, r e a b → oriented (· ≤ ·) e (p a) (q b)) :
  ∀ {e : Bool} {t : Formula α} {u : Formula β}, Signed r e t u →
    oriented (· ≤ ·) e (t.holds p) (u.holds q)
  | _, _, _, .leaf h => hr _ _ _ h
  | _, _, _, .and h => (h.oriented_allHold_anyHolds hr).1
  | _, _, _, .or h => (h.oriented_allHold_anyHolds hr).2
  | _, _, _, .not h => oriented_not (h.oriented_allHold_anyHolds hr).2

theorem SignedLists.oriented_allHold_anyHolds
    (hr : ∀ e a b, r e a b → oriented (· ≤ ·) e (p a) (q b)) :
  ∀ {e : Bool} {ts : List (Formula α)} {us : List (Formula β)}, SignedLists r e ts us →
    oriented (· ≤ ·) e (allHold p ts) (allHold q us)
      ∧ oriented (· ≤ ·) e (anyHolds p ts) (anyHolds q us)
  | e, _, _, .nil => by cases e <;> exact ⟨le_refl _, le_refl _⟩
  | _, _, _, .cons h hs => by
      have hfirst := h.oriented_holds hr
      obtain ⟨hall, hany⟩ := hs.oriented_allHold_anyHolds hr
      rw [allHold, allHold, anyHolds, anyHolds]
      apply And.intro (oriented_and hfirst hall) (oriented_or hfirst hany)

end

end

end Formula

/-! ### Regions -/

namespace Region

variable {r s : Region}

/-- The points of the closed region. -/
def area (r : Region) : Set Point :=
  {p | (r.left ≤ p.x ∧ p.x ≤ r.right) ∧ r.top ≤ p.y ∧ p.y ≤ r.bottom}

/-- A proper region lies within another one exactly if so does each of its edges: two opposite
corners tell all four. -/
theorem area_subset_iff (h : r.isProper = true) :
  r.area ⊆ s.area ↔ (s.left ≤ r.left ∧ r.right ≤ s.right) ∧ s.top ≤ r.top ∧ r.bottom ≤ s.bottom
  := by
  obtain ⟨hx, hy⟩ := isProper_iff.1 h
  have hx := float_le_of_lt hx
  have hy := float_le_of_lt hy
  obtain ⟨hleft, hright, -⟩ := le_iff_rank_le.1 hx
  obtain ⟨htop, hbottom, -⟩ := le_iff_rank_le.1 hy
  constructor
  · intro hsubset
    have hfirst : (⟨r.left, r.top⟩ : Point) ∈ s.area :=
      hsubset ⟨⟨float_le_refl hleft, hx⟩, float_le_refl htop, hy⟩
    have hlast : (⟨r.right, r.bottom⟩ : Point) ∈ s.area :=
      hsubset ⟨⟨hx, float_le_refl hright⟩, hy, float_le_refl hbottom⟩
    exact ⟨⟨hfirst.1.1, hlast.1.2⟩, hfirst.2.1, hlast.2.2⟩
  · rintro ⟨⟨hsleft, hsright⟩, hstop, hsbottom⟩ p ⟨⟨hpleft, hpright⟩, hptop, hpbottom⟩
    exact ⟨⟨float_le_trans hsleft hpleft, float_le_trans hpright hsright⟩,
      float_le_trans hstop hptop, float_le_trans hpbottom hsbottom⟩

/-- The bounds of a region as inequalities. -/
theorem all_holds_bounds_iff {c : Corners} :
  (r.bounds.all fun b => b.holds c) = true ↔
    r.left ≤ c.bottomRight.x ∧ c.topLeft.x ≤ r.right ∧ r.top ≤ c.bottomLeft.y
      ∧ c.topRight.y ≤ r.bottom
  := by
  simp only [bounds, List.all_cons, List.all_nil, Bool.and_true, Bool.and_eq_true]
  simp only [Bound.holds, Comparison.holds, decide_eq_true_eq]
  rfl

/-- Corners that satisfy the bounds of a proper region satisfy those of any region around it. -/
theorem all_holds_bounds_mono (h : r.isProper = true) (hsubset : r.area ⊆ s.area) {c : Corners}
    (hc : (r.bounds.all fun b => b.holds c) = true) :
  (s.bounds.all fun b => b.holds c) = true
  := by
  obtain ⟨⟨hleft, hright⟩, htop, hbottom⟩ := (area_subset_iff h).1 hsubset
  obtain ⟨hcleft, hcright, hctop, hcbottom⟩ := all_holds_bounds_iff.1 hc
  exact all_holds_bounds_iff.2 ⟨float_le_trans hleft hcleft, float_le_trans hcright hright,
    float_le_trans htop hctop, float_le_trans hcbottom hbottom⟩

end Region

/-! ### Terms and requests -/

/-- Two terms ask for the same text on pages of the same number, and the region of the first lies
within that of the second. -/
structure SearchTerm.Within (t u : SearchTerm) : Prop where
  text : t.text = u.text
  pageNumber : t.pageNumber = u.pageNumber
  area : t.rectangle.region.area ⊆ u.rectangle.region.area

/-- A term accepts what a term within it accepts. -/
theorem SearchTerm.Within.accepts_le {t u : SearchTerm} (h : t.Within u) {c c' : Condition}
    (hc : t.compile = .ok c) (hc' : u.compile = .ok c') (d : Document) :
  c.accepts d ≤ c'.accepts d
  := by
  obtain ⟨⟨-, -, -, hproper⟩, rfl⟩ := compile_eq_ok_iff.1 hc
  obtain ⟨-, rfl⟩ := compile_eq_ok_iff.1 hc'
  have hline (p : Page) (l : Line) (hl : t.lineFilter.acceptsLine p l = true) :
      u.lineFilter.acceptsLine p l = true := by
    rw [LineFilter.acceptsLine, Bool.and_eq_true, Bool.and_eq_true] at hl ⊢
    obtain ⟨⟨hnumber, htext⟩, hbounds⟩ := hl
    refine ⟨⟨?_, ?_⟩, Region.all_holds_bounds_mono hproper h.area hbounds⟩
    · rwa [lineFilter, ← h.pageNumber]
    · rwa [lineFilter, ← h.text]
  rw [Bool.le_iff_imp]
  simp only [Condition.accepts, LineFilter.accepts, List.any_eq_true]
  rintro ⟨p, hp, l, hl, hacceptsLine⟩
  exact ⟨p, hp, l, hl, hline p l hacceptsLine⟩

/-- A request whose regions are the wider ones below an even number of `not`, and the narrower ones
below an odd number, accepts every document that the other request accepts. -/
theorem SearchTree.accepts_of_signed {t u : SearchTree} {filter filter' : Filter}
    (h : Formula.Signed (oriented SearchTerm.Within) true t u)
    (hfilter : t.compile = .ok filter) (hfilter' : u.compile = .ok filter') {d : Document}
    (hd : filter.accepts d = true) :
  filter'.accepts d = true
  := by
  have hterm (e : Bool) (a b : SearchTerm) (c c' : Condition)
      (hab : oriented SearchTerm.Within e a b) (hc : a.compile = .ok c) (hc' : b.compile = .ok c') :
      oriented (· ≤ ·) e (c.accepts d) (c'.accepts d) := by
    cases e with
    | true => exact hab.accepts_le hc hc' d
    | false => exact hab.accepts_le hc' hc d
  have hsigned := h.replace hterm (Formula.related_of_traverse_eq_ok hfilter)
    (Formula.related_of_traverse_eq_ok hfilter')
  apply Bool.le_iff_imp.1 (hsigned.oriented_holds fun _ _ _ hcc' => hcc') hd

/-- One rectangle grows, and another one, below a `not`, shrinks; a line has corners that no box
has. -/
theorem SearchTree.accepts_of_signed_denied :
  ∃ (tree : Float → SearchTree) (d : Document) (filter filter' : Filter),
    tree = (fun v => .and [.leaf ⟨"total", 2, ⟨⟨0.25, v⟩, ⟨v, 0.25⟩⟩⟩,
        .not [.leaf ⟨"sum", 2, ⟨⟨v, 0⟩, ⟨1, 1⟩⟩⟩, .or []]])
      ∧ d = ⟨"d", "b", "p.jpg", [⟨"p", 2, [⟨"l", "total", ⟨"c", .ofEdges 0 0 0.5 0.5⟩⟩,
        ⟨"m", "sum", ⟨"k", ⟨⟨9, 9⟩, ⟨9, 9⟩, ⟨0, 0⟩, ⟨0, 0⟩⟩⟩⟩]⟩]⟩
      ∧ (tree 0.5).compile = .ok filter ∧ (tree 0.75).compile = .ok filter'
      ∧ filter.accepts d = true ∧ filter'.accepts d = true
  := by
  let tree : Float → SearchTree := fun v => .and [.leaf ⟨"total", 2, ⟨⟨0.25, v⟩, ⟨v, 0.25⟩⟩⟩,
    .not [.leaf ⟨"sum", 2, ⟨⟨v, 0⟩, ⟨1, 1⟩⟩⟩, .or []]]
  let d : Document := ⟨"d", "b", "p.jpg", [⟨"p", 2, [⟨"l", "total", ⟨"c", .ofEdges 0 0 0.5 0.5⟩⟩,
    ⟨"m", "sum", ⟨"k", ⟨⟨9, 9⟩, ⟨9, 9⟩, ⟨0, 0⟩, ⟨0, 0⟩⟩⟩⟩]⟩]⟩
  have hwider : SearchTerm.Within ⟨"total", 2, ⟨⟨0.25, 0.5⟩, ⟨0.5, 0.25⟩⟩⟩
      ⟨"total", 2, ⟨⟨0.25, 0.75⟩, ⟨0.75, 0.25⟩⟩⟩ := by
    refine ⟨rfl, rfl, (Region.area_subset_iff ?_).2 ⟨⟨?_, ?_⟩, ?_, ?_⟩⟩ <;> decide +kernel
  have hnarrower : SearchTerm.Within ⟨"sum", 2, ⟨⟨0.75, 0⟩, ⟨1, 1⟩⟩⟩
      ⟨"sum", 2, ⟨⟨0.5, 0⟩, ⟨1, 1⟩⟩⟩ := by
    refine ⟨rfl, rfl, (Region.area_subset_iff ?_).2 ⟨⟨?_, ?_⟩, ?_, ?_⟩⟩ <;> decide +kernel
  have hsigned : Formula.Signed (oriented SearchTerm.Within) true (tree 0.5) (tree 0.75) := by
    apply Formula.Signed.and
    apply Formula.SignedLists.cons (.leaf hwider)
    apply Formula.SignedLists.cons (.not (.cons (.leaf hnarrower) (.cons (.or .nil) .nil))) .nil
  have hcompiled : (tree 0.5).compile.isOk = true
      ∧ (tree 0.75).compile.isOk = true := by decide +kernel
  have haccepts : ((tree 0.5).compile.toOption.any fun f => f.accepts d) = true := by decide +kernel
  cases hfilter : (tree 0.5).compile with
  | error e =>
    rw [hfilter] at hcompiled
    cases hcompiled.1
  | ok filter =>
    cases hfilter' : (tree 0.75).compile with
    | error e =>
      rw [hfilter'] at hcompiled
      cases hcompiled.2
    | ok filter' =>
      rw [hfilter] at haccepts
      have haccepts : filter.accepts d = true := haccepts
      refine ⟨tree, d, filter, filter', rfl, rfl, hfilter, hfilter', haccepts, ?_⟩
      apply accepts_of_signed hsigned hfilter hfilter' haccepts

end ScanIndex
