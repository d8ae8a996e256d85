import ScanIndex.Proofs.Search.Extent
import ScanIndex.Proofs.Search.Writing

/-!
# What is wrong with a request

A term is checked in a fixed order, and reports the first check that it fails
(`SearchTerm.Reports`).  A request with a node at fault is refused for its structure, whatever is
wrong with its terms.  Any other request is refused exactly if a term is not valid, with what the
first such term reports, from left to right, and otherwise becomes a filter of its shape
(`Filter.ofJson_reports`).
-/

namespace ScanIndex

/-! ### Terms -/

namespace SearchTerm

/-- The right edge or the greater `y` is zero. -/
def EndsAtZero (t : SearchTerm) : Prop :=
  (t.rectangle.second.x == 0) = true
    ∨ (greater t.rectangle.first.y t.rectangle.second.y == 0) = true

/-- The left edge does not come before the right one, or the `y` are equal, or one of them is no
number. -/
def IsMisplaced (t : SearchTerm) : Prop :=
  ¬t.rectangle.first.x < t.rectangle.second.x ∨ (t.rectangle.first.y == t.rectangle.second.y) = true
    ∨ t.rectangle.first.y.isNaN = true ∨ t.rectangle.second.y.isNaN = true

/-- The term passes every check. -/
structure IsValid (t : SearchTerm) : Prop where
  text : t.text ≠ ""
  pageNumber : t.pageNumber ≠ 0
  ends : ¬t.EndsAtZero
  placed : ¬t.IsMisplaced

/-- The error of the first check that the term fails. -/
inductive Reports (t : SearchTerm) : QueryError → Prop
  | missingText (h : t.text = "") : Reports t .missingText
  | pageZero (htext : t.text ≠ "") (h : t.pageNumber = 0) : Reports t .pageZero
  | bottomCoordZero (htext : t.text ≠ "") (hpage : t.pageNumber ≠ 0) (h : t.EndsAtZero) :
    Reports t .bottomCoordZero
  | coordMisplaced (htext : t.text ≠ "") (hpage : t.pageNumber ≠ 0) (hends : ¬t.EndsAtZero)
    (h : t.IsMisplaced) : Reports t .coordMisplaced

/-- The first of the terms that is not valid reports the error. -/
def FirstReport (ts : List SearchTerm) (e : QueryError) : Prop :=
  ∃ before t after, ts = before ++ t :: after ∧ (∀ s ∈ before, s.IsValid) ∧ t.Reports e

/-- The condition asks for the lines with the text of the term, on the pages of its number, that
meet the rectangle of the term; its edges are in order. -/
def Becomes (t : SearchTerm) (c : Condition) : Prop :=
  ∃ left top right bottom,
    left = t.rectangle.first.x ∧ right = t.rectangle.second.x
    ∧ (top = t.rectangle.first.y ∧ bottom = t.rectangle.second.y
        ∨ top = t.rectangle.second.y ∧ bottom = t.rectangle.first.y)
    ∧ left < right ∧ top < bottom
    ∧ c = .line ⟨t.pageNumber, t.text, [⟨.bottomRight, .x, .ge, left⟩, ⟨.topLeft, .x, .le, right⟩,
        ⟨.bottomLeft, .y, .ge, top⟩, ⟨.topRight, .y, .le, bottom⟩]⟩

variable {t : SearchTerm} {e : QueryError} {c : Condition} {r : Region}

theorem endsAtZero_iff :
  (t.rectangle.region.right == 0 || t.rectangle.region.bottom == 0) = true ↔ t.EndsAtZero
  := Bool.or_eq_true_iff

theorem isProper_iff_not_isMisplaced :
  t.rectangle.region.isProper = true ↔ ¬t.IsMisplaced
  := by
  rw [Region.isProper_iff, IsMisplaced, not_or, not_not]
  refine and_congr_right' ?_
  exact lesser_lt_greater_iff.trans float_lt_or_gt_iff

/-- A term is valid, or reports an error. -/
theorem isValid_or_reports (t : SearchTerm) :
  t.IsValid ∨ ∃ e, t.Reports e
  := by
  by_cases htext : t.text = ""
  · exact .inr ⟨_, .missingText htext⟩
  by_cases hpage : t.pageNumber = 0
  · exact .inr ⟨_, .pageZero htext hpage⟩
  by_cases hends : t.EndsAtZero
  · exact .inr ⟨_, .bottomCoordZero htext hpage hends⟩
  by_cases hplaced : t.IsMisplaced
  · exact .inr ⟨_, .coordMisplaced htext hpage hends hplaced⟩
  exact .inl ⟨htext, hpage, hends, hplaced⟩

theorem IsValid.validate_eq (h : t.IsValid) :
  t.validate = .ok t.rectangle.region
  := by
  rw [validate, if_neg h.text, if_neg h.pageNumber, if_neg (mt endsAtZero_iff.1 h.ends),
    if_pos (isProper_iff_not_isMisplaced.2 h.placed)]

theorem Reports.validate_eq (h : t.Reports e) :
  t.validate = .error e
  := by
  cases h with
  | missingText h => rw [validate, if_pos h]
  | pageZero htext h => rw [validate, if_neg htext, if_pos h]
  | bottomCoordZero htext hpage h =>
    rw [validate, if_neg htext, if_neg hpage, if_pos (endsAtZero_iff.2 h)]
  | coordMisplaced htext hpage hends h =>
    rw [validate, if_neg htext, if_neg hpage, if_neg (mt endsAtZero_iff.1 hends),
      if_neg (mt isProper_iff_not_isMisplaced.1 (not_not_intro h))]

theorem validate_eq_error_iff :
  t.validate = .error e ↔ t.Reports e
  := by
  constructor
  · intro h
    obtain hvalid | ⟨e', he'⟩ := t.isValid_or_reports
    · rw [hvalid.validate_eq] at h
      cases h
    · rw [he'.validate_eq] at h
      cases h
      exact he'
  · exact Reports.validate_eq

theorem validate_eq_ok_iff :
  t.validate = .ok r ↔ t.IsValid ∧ r = t.rectangle.region
  := by
  constructor
  · intro h
    obtain hvalid | ⟨e, he⟩ := t.isValid_or_reports
    · rw [hvalid.validate_eq] at h
      cases h
      exact ⟨hvalid, rfl⟩
    · rw [he.validate_eq] at h
      cases h
  · rintro ⟨h, rfl⟩
    exact h.validate_eq

theorem not_isValid_iff :
  ¬t.IsValid ↔ ∃ e, t.Reports e
  := by
  constructor
  · apply t.isValid_or_reports.resolve_left
  · rintro ⟨e, he⟩ hvalid
    rw [← validate_eq_error_iff, hvalid.validate_eq] at he
    cases he

/-- The region of a valid term has its edges in order, and they are the coordinates of the
rectangle. -/
theorem IsValid.region_cases (h : t.IsValid) :
  t.rectangle.region.left < t.rectangle.region.right
    ∧ t.rectangle.region.top < t.rectangle.region.bottom
    ∧ (t.rectangle.region.top = t.rectangle.first.y
      ∧ t.rectangle.region.bottom = t.rectangle.second.y
        ∨ t.rectangle.region.top = t.rectangle.second.y
          ∧ t.rectangle.region.bottom = t.rectangle.first.y)
  := by
  obtain ⟨hx, hy⟩ := Region.isProper_iff.1 (isProper_iff_not_isMisplaced.2 h.placed)
  refine ⟨hx, hy, ?_⟩
  rcases lesser_lt_greater_iff.1 hy with hlt | hgt
  · exact .inl (lesser_greater_of_lt hlt)
  · exact .inr (lesser_greater_of_gt hgt)

/-- A valid term has numbers for coordinates. -/
theorem IsValid.isNaN_eq_false (h : t.IsValid) :
  ∀ x ∈ [t.rectangle.first.x, t.rectangle.first.y, t.rectangle.second.x, t.rectangle.second.y],
    x.isNaN = false
  := by
  obtain ⟨hx, hy, -⟩ := h.region_cases
  obtain ⟨hleft, hright, -⟩ := lt_iff_rank_lt.1 hx
  obtain ⟨hfirst, hsecond⟩ := isNaN_of_lesser_lt_greater hy
  simp only [List.forall_mem_cons]
  exact ⟨hleft, hfirst, hright, hsecond, by simp⟩

theorem compile_eq_error_iff :
  t.compile = .error e ↔ t.Reports e
  := by
  rw [compile, ← validate_eq_error_iff]
  cases t.validate <;> simp [Except.map]

theorem exists_compile_eq_ok_iff :
  (∃ c, t.compile = .ok c) ↔ t.IsValid
  := by
  rw [← not_iff_not, not_isValid_iff]
  simp only [← compile_eq_error_iff]
  cases t.compile <;> simp

/-- A valid term stands for one condition, for the lines that meet its rectangle. -/
theorem compile_eq_ok_iff_becomes :
  t.compile = .ok c ↔ t.IsValid ∧ t.Becomes c
  := by
  constructor
  · intro h
    have hvalid := exists_compile_eq_ok_iff.1 ⟨c, h⟩
    obtain ⟨hx, hy, hedges⟩ := hvalid.region_cases
    obtain ⟨-, rfl⟩ := compile_eq_ok_iff.1 h
    exact ⟨hvalid, _, _, _, _, rfl, rfl, hedges, hx, hy, rfl⟩
  · rintro ⟨hvalid, _, top, _, bottom, rfl, rfl, hedges, hx, hy, rfl⟩
    obtain ⟨c, hc⟩ := exists_compile_eq_ok_iff.2 hvalid
    rw [hc]
    obtain ⟨-, rfl⟩ := compile_eq_ok_iff.1 hc
    have hregion : t.rectangle.region.top = top ∧ t.rectangle.region.bottom = bottom := by
      rcases hedges with ⟨rfl, rfl⟩ | ⟨rfl, rfl⟩
      · apply lesser_greater_of_lt hy
      · apply lesser_greater_of_gt hy
    rw [lineFilter, Region.bounds, hregion.1, hregion.2]
    rfl

end SearchTerm

/-! ### Requests -/

namespace SearchTree

variable {t : SearchTree} {e : QueryError} {f : Filter}

/-- A tree is refused with what the first of its terms that is not valid reports. -/
theorem compile_eq_error_iff :
  t.compile = .error e ↔ SearchTerm.FirstReport t.leaves e
  := by
  rw [compile, Formula.traverse_eq_error_iff, mapM_eq_error_iff]
  simp only [SearchTerm.exists_compile_eq_ok_iff, SearchTerm.compile_eq_error_iff]
  rfl

/-- A tree becomes a filter of its shape, with the conditions that its terms stand for. -/
theorem compile_eq_ok_iff :
  t.compile = .ok f ↔ Formula.Related (fun s c => s.IsValid ∧ s.Becomes c) t f
  := by
  simp only [← SearchTerm.compile_eq_ok_iff_becomes]
  exact ⟨Formula.related_of_traverse_eq_ok, Formula.Related.traverse_eq_ok⟩

theorem exists_compile_eq_error_iff :
  (∃ e, t.compile = .error e) ↔ ∃ s ∈ t.leaves, ¬s.IsValid
  := by
  constructor
  · rintro ⟨e, h⟩
    obtain ⟨before, s, after, hleaves, -, hs⟩ := compile_eq_error_iff.1 h
    refine ⟨s, ?_, SearchTerm.not_isValid_iff.2 ⟨e, hs⟩⟩
    rw [hleaves]
    apply List.mem_append_right before List.mem_cons_self
  · rintro ⟨s, hs, hvalid⟩
    cases h : t.leaves.mapM SearchTerm.compile with
    | error e => exact ⟨e, Formula.traverse_eq_error_iff.2 h⟩
    | ok cs =>
      obtain ⟨c, -, hc⟩ := exists_mem_of_mapM_eq_ok h hs
      exact absurd (SearchTerm.exists_compile_eq_ok_iff.1 ⟨c, hc⟩) hvalid

variable {j : Json}

/-- A fault is one of the structure of a request. -/
theorem Fault.code_mem (h : Fault j e) :
  e.code ∈ ["TYPE_INCORRECT", "TOO_MANY_ATTRS", "KEY_UNSUPPORTED"]
  := by
  cases h <;> simp [QueryError.code]

theorem exists_firstFault {js : List Json} (h : ∃ k ∈ js, ¬Sound k) :
  ∃ e, FirstFault js e
  := by
  by_contra hnone
  rw [not_exists] at hnone
  obtain ⟨k, hk, hfault⟩ := h
  exact hfault (forall_sound_iff.2 hnone k hk)

theorem forall_sound_of_ofJson_eq_ok (h : ofJson j = .ok t) :
  ∀ k ∈ nodes j, Sound k
  := by
  rw [forall_sound_iff]
  intro e he
  rw [← ofJson_eq_error_iff, h] at he
  cases he

theorem filter_ofJson_of_eq_ok (h : ofJson j = .ok t) :
  Filter.ofJson j = t.compile
  := by
  rw [Filter.ofJson, h]
  rfl

theorem filter_ofJson_of_eq_error (h : ofJson j = .error e) :
  Filter.ofJson j = .error e
  := by
  rw [Filter.ofJson, h]
  rfl

end SearchTree

theorem isNaN_of_isFinite {x : Float} (h : x.isFinite = true) :
  x.isNaN = false
  := by
  change x.toModel.unpack.isFinite = true at h
  change x.toModel.unpack.isNaN = false
  cases hx : x.toModel.unpack with
  | notANumber =>
    rw [hx] at h
    cases h
  | _ => rfl

/-- The numbers of a JSON value are finite, so a term that is read from one is misplaced exactly if
the edges are out of order, or the `y` are equal. -/
theorem SearchTerm.isMisplaced_iff_of_isFinite {t : SearchTerm} (h : t.rectangle.isFinite = true) :
  t.IsMisplaced ↔ ¬t.rectangle.first.x < t.rectangle.second.x
    ∨ (t.rectangle.first.y == t.rectangle.second.y) = true
  := by
  simp only [Rectangle.isFinite, Bool.and_eq_true] at h
  obtain ⟨⟨⟨-, hfirst⟩, -⟩, hsecond⟩ := h
  simp only [IsMisplaced, isNaN_of_isFinite hfirst, isNaN_of_isFinite hsecond, Bool.false_eq_true,
    or_false]

/-- A request with a node at fault, wherever it is, is refused for the structure of the first such
node.  Any other request is refused exactly if one of its terms is not valid, as the first such term
reports, and otherwise becomes a filter of its shape, whose conditions are for the rectangles of the
terms.  The checks of a term say the same whatever its coordinates are, and no term with a
coordinate that is no number is valid. -/
theorem Filter.ofJson_reports :
  (∀ j : Json,
      ((∃ k ∈ SearchTree.nodes j, ¬SearchTree.Sound k) →
        ∃ e, SearchTree.FirstFault (SearchTree.nodes j) e ∧ SearchTree.ofJson j = .error e
          ∧ ofJson j = .error e ∧ e.code ∈ ["TYPE_INCORRECT", "TOO_MANY_ATTRS", "KEY_UNSUPPORTED"])
      ∧ ((∀ k ∈ SearchTree.nodes j, SearchTree.Sound k) →
        ∃ t, SearchTree.ofJson j = .ok t ∧ SearchTree.Mirrors j t
          ∧ ((∃ e, ofJson j = .error e) ↔ ∃ s ∈ t.leaves, ¬s.IsValid)
          ∧ (∀ e, ofJson j = .error e ↔ SearchTerm.FirstReport t.leaves e)
          ∧ (∀ f, ofJson j = .ok f ↔ Formula.Related (fun s c => s.IsValid ∧ s.Becomes c) t f)
          ∧ (j.isFinite = true → ∀ s ∈ t.leaves, s.IsMisplaced
            ↔ ¬s.rectangle.first.x < s.rectangle.second.x
              ∨ (s.rectangle.first.y == s.rectangle.second.y) = true)))
    ∧ ∀ t : SearchTerm,
        (∀ e, t.validate = .error e ↔ t.Reports e)
        ∧ (t.IsValid → ∃ r, t.validate = .ok r)
        ∧ ∀ r, t.validate = .ok r → t.IsValid ∧ r.left < r.right ∧ r.top < r.bottom
            ∧ r.left = t.rectangle.first.x ∧ r.right = t.rectangle.second.x
            ∧ (r.top = t.rectangle.first.y ∧ r.bottom = t.rectangle.second.y
                ∨ r.top = t.rectangle.second.y ∧ r.bottom = t.rectangle.first.y)
            ∧ ∀ x ∈ [t.rectangle.first.x, t.rectangle.first.y, t.rectangle.second.x,
                t.rectangle.second.y], x.isNaN = false
  := by
  refine ⟨fun j => ⟨?_, ?_⟩, fun t => ⟨?_, ?_, ?_⟩⟩
  · intro hfault
    obtain ⟨e, he⟩ := SearchTree.exists_firstFault hfault
    have hread := SearchTree.ofJson_eq_error_iff.2 he
    refine ⟨e, he, hread, SearchTree.filter_ofJson_of_eq_error hread, ?_⟩
    obtain ⟨_, _, _, -, -, hfirst⟩ := he
    apply hfirst.code_mem
  · intro hsound
    rw [SearchTree.forall_sound_iff] at hsound
    cases hread : SearchTree.ofJson j with
    | error e => exact absurd (SearchTree.ofJson_eq_error_iff.1 hread) (hsound e)
    | ok t =>
      have hmirrors := SearchTree.ofJson_eq_ok_iff.1 hread
      rw [SearchTree.filter_ofJson_of_eq_ok hread]
      refine ⟨t, rfl, hmirrors, SearchTree.exists_compile_eq_error_iff, ?_, ?_, ?_⟩
      · intro e
        apply SearchTree.compile_eq_error_iff
      · intro f
        apply SearchTree.compile_eq_ok_iff
      · intro hj s hs
        apply SearchTerm.isMisplaced_iff_of_isFinite (hmirrors.isFinite hj s hs)
  · intro e
    apply SearchTerm.validate_eq_error_iff
  · intro hvalid
    exact ⟨_, hvalid.validate_eq⟩
  · intro r hr
    obtain ⟨hvalid, rfl⟩ := SearchTerm.validate_eq_ok_iff.1 hr
    obtain ⟨hx, hy, hedges⟩ := hvalid.region_cases
    exact ⟨hvalid, hx, hy, rfl, rfl, hedges, hvalid.isNaN_eq_false⟩

/-- A term without text is passed over for the unknown key that stands behind it and deeper, and
behind a valid term the one without a page number is reported, and not the one without text. -/
theorem Filter.ofJson_reports_first :
  let valid : Json := .object [("search", .object [("text", .string "a"), ("page_number", .ofInt 1),
    ("coordinates", .array [.array [.ofInt 0, .ofInt 1], .array [.ofInt 1, .ofInt 0]])])]
  let unpaged : Json := .object [("search", .object [("text", .string "a")])]
  let blank : Json := .object [("search", .object [])]
  let unknown : Json := .object [("nor", .array [])]
  (∃ e, ofJson (.object [("and", .array [blank, .object [("or", .array [unknown])]])]) = .error e
      ∧ e.code ∈ ["TYPE_INCORRECT", "TOO_MANY_ATTRS", "KEY_UNSUPPORTED"])
    ∧ ofJson (.object [("and", .array [.object [("not", .array [valid])], unpaged, blank])])
      = .error .pageZero
  := by
  intro valid unpaged blank unknown
  constructor
  · have hunknown : ¬SearchTree.Sound unknown := fun h => h _ (.unknown (by decide) (by decide))
    have hmem : unknown ∈ SearchTree.nodes
        (.object [("and", .array [blank, .object [("or", .array [unknown])]])]) := by
      simp [SearchTree.nodes, SearchTree.nodesOfItems, SearchTree.IsJoint, blank, unknown]
    obtain ⟨e, -, -, he, hcode⟩ := (ofJson_reports.1 _).1 ⟨unknown, hmem, hunknown⟩
    exact ⟨e, he, hcode⟩
  · have hread : SearchTree.ofJson
        (.object [("and", .array [.object [("not", .array [valid])], unpaged, blank])])
      = .ok (.and [.not [.leaf ⟨"a", 1, ⟨⟨0, 1⟩, ⟨1, 0⟩⟩⟩], .leaf ⟨"a", 0, .zero⟩,
        .leaf ⟨"", 0, .zero⟩]) := rfl
    obtain ⟨t, ht, -, -, herror, -⟩ :=
      (ofJson_reports.1 _).2 (SearchTree.forall_sound_of_ofJson_eq_ok hread)
    rw [hread] at ht
    cases ht
    rw [herror]
    refine ⟨[⟨"a", 1, ⟨⟨0, 1⟩, ⟨1, 0⟩⟩⟩], ⟨"a", 0, .zero⟩, [⟨"", 0, .zero⟩], rfl, ?_,
      .pageZero (by decide) rfl⟩
    intro s hs
    rw [List.mem_singleton.1 hs]
    refine ⟨by decide, by decide, ?_, ?_⟩
    · rw [SearchTerm.EndsAtZero]
      decide +kernel
    · rw [SearchTerm.IsMisplaced]
      decide +kernel

end ScanIndex
