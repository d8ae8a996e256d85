import ScanIndex.Proofs.Store.Layout

/-!
# Insertions

An insertion of pages goes through exactly if the tables admit them, and puts their rows at the ends
of the tables (`insertPages_eq_some_iff`).  There they stand for the pages of a document at any
place among the others (`RowsBelow.withPages`).
-/

namespace ScanIndex

/-- The identifiers differ from each other and from the used ones. -/
def Fresh (ids used : List String) : Prop := ids.Nodup ∧ ids.Disjoint used

namespace Fresh

variable {id : String} {ids ids' used : List String}

theorem nil_iff :
  Fresh [] used ↔ True
  := by
  simp [Fresh]

theorem singleton_iff :
  Fresh [id] used ↔ id ∉ used
  := by
  simp [Fresh]

theorem append_iff :
  Fresh (ids ++ ids') used ↔ Fresh ids used ∧ Fresh ids' (used ++ ids)
  := by
  simp only [Fresh, List.nodup_append', List.disjoint_append_left, List.disjoint_append_right]
  have hcomm : ids.Disjoint ids' ↔ ids'.Disjoint ids := List.disjoint_comm
  rw [hcomm]
  tauto

theorem nodup_append_iff :
  (used ++ ids).Nodup ↔ used.Nodup ∧ Fresh ids used
  := by
  rw [List.nodup_append', Fresh, List.disjoint_comm]

theorem perm_right {used' : List String} (h : used.Perm used') :
  Fresh ids used ↔ Fresh ids used'
  := by
  simp only [Fresh, List.Disjoint, h.mem_iff]

end Fresh

namespace Sql

namespace Tables

/-! ### Lines -/

/-- The tables have room for the lines: every identifier is free, no line has coordinates already,
and no coordinate is missing. -/
structure AdmitsLines (t : Tables) (ls : List Line) : Prop where
  lines : Fresh (ls.map Line.id) (t.lines.map LineRow.id)
  coordinates : Fresh (ls.map fun l => l.coordinates.id) (t.coordinates.map CoordinatesRow.id)
  bare : Fresh (ls.map Line.id) (t.coordinates.map CoordinatesRow.line)
  full : ∀ l ∈ ls, hasEmptyCell l.coordinates.corners = false

/-- The tables with the rows of lines at their ends. -/
def withLines (t : Tables) (rows : List LineRow) (ls : List Line) : Tables :=
  { t with
    lines := t.lines ++ rows
    coordinates := t.coordinates ++ ls.map Line.coordinatesRow }

theorem withLines_withLines (t : Tables) (rows rows' : List LineRow) (ls ls' : List Line) :
  (t.withLines rows ls).withLines rows' ls' = t.withLines (rows ++ rows') (ls ++ ls')
  := by
  simp [withLines]

theorem insertLine_eq_some_iff {t u : Tables} {r : LineRow} :
  t.insertLine r = some u
    ↔ r.id ∉ t.lines.map LineRow.id ∧ { t with lines := t.lines ++ [r] } = u
  := by
  simp [insertLine]

theorem insertCoordinates_eq_some_iff {t u : Tables} {r : CoordinatesRow} :
  t.insertCoordinates r = some u
    ↔ r.id ∉ t.coordinates.map CoordinatesRow.id ∧ r.line ∉ t.coordinates.map CoordinatesRow.line
      ∧ hasEmptyCell r.corners = false
      ∧ { t with coordinates := t.coordinates ++ [{ r with corners := r.corners.plain }] } = u
  := by
  simp [insertCoordinates]
  grind

theorem admitsLines_nil (t : Tables) :
  t.AdmitsLines []
  := ⟨Fresh.nil_iff.2 trivial, Fresh.nil_iff.2 trivial, Fresh.nil_iff.2 trivial, by simp⟩

theorem admitsLines_singleton_iff {t : Tables} {l : Line} :
  t.AdmitsLines [l]
    ↔ l.id ∉ t.lines.map LineRow.id ∧ l.coordinates.id ∉ t.coordinates.map CoordinatesRow.id
      ∧ l.id ∉ t.coordinates.map CoordinatesRow.line
      ∧ hasEmptyCell l.coordinates.corners = false
  := by
  constructor
  · rintro ⟨hl, hc, hb, hf⟩
    exact ⟨Fresh.singleton_iff.1 hl, Fresh.singleton_iff.1 hc, Fresh.singleton_iff.1 hb,
      hf l List.mem_cons_self⟩
  · rintro ⟨hl, hc, hb, hf⟩
    exact ⟨Fresh.singleton_iff.2 hl, Fresh.singleton_iff.2 hc, Fresh.singleton_iff.2 hb,
      by simpa using hf⟩

theorem admitsLines_append_iff (t : Tables) {rows : List LineRow} {ls : List Line} (ls' : List Line)
    (hrows : rows.map LineRow.id = ls.map Line.id) :
  t.AdmitsLines (ls ++ ls') ↔ t.AdmitsLines ls ∧ (t.withLines rows ls).AdmitsLines ls'
  := by
  have hids : (t.withLines rows ls).lines.map LineRow.id
      = t.lines.map LineRow.id ++ ls.map Line.id := by
    rw [withLines, List.map_append, hrows]
  have hcoordinates : (t.withLines rows ls).coordinates.map CoordinatesRow.id
      = t.coordinates.map CoordinatesRow.id ++ ls.map fun l => l.coordinates.id := by
    simp [withLines, Line.coordinatesRow]
  have hlines : (t.withLines rows ls).coordinates.map CoordinatesRow.line
      = t.coordinates.map CoordinatesRow.line ++ ls.map Line.id := by
    simp [withLines, Line.coordinatesRow]
  constructor
  · rintro ⟨hl, hc, hb, hf⟩
    rw [List.map_append, Fresh.append_iff] at hl hc hb
    rw [List.forall_mem_append] at hf
    refine ⟨⟨hl.1, hc.1, hb.1, hf.1⟩, ?_, ?_, ?_, hf.2⟩
    · rw [hids]
      apply hl.2
    · rw [hcoordinates]
      apply hc.2
    · rw [hlines]
      apply hb.2
  · rintro ⟨⟨hl, hc, hb, hf⟩, hl', hc', hb', hf'⟩
    rw [hids] at hl'
    rw [hcoordinates] at hc'
    rw [hlines] at hb'
    refine ⟨?_, ?_, ?_, List.forall_mem_append.2 ⟨hf, hf'⟩⟩
    all_goals rw [List.map_append, Fresh.append_iff]
    · exact ⟨hl, hl'⟩
    · exact ⟨hc, hc'⟩
    · exact ⟨hb, hb'⟩

/-- Lines are inserted exactly if the tables admit them. -/
theorem insertLines_eq_some_iff {page : String} {n : Nat} {ls : List Line} {t u : Tables} :
  t.insertLines page n ls = some u
    ↔ t.AdmitsLines ls ∧ t.withLines (lineRows page n ls) ls = u
  := by
  induction ls generalizing n t with
  | nil => simp [insertLines, admitsLines_nil, withLines, lineRows]
  | cons l ls ih =>
    have hrow : [⟨l.id, page, l.text, n⟩].map LineRow.id = [l].map Line.id := rfl
    have hadmits := t.admitsLines_append_iff ls hrow
    have hcons := t.withLines_withLines [⟨l.id, page, l.text, n⟩] (lineRows page (n + 1) ls) [l] ls
    rw [List.singleton_append, admitsLines_singleton_iff] at hadmits
    rw [List.singleton_append, List.singleton_append] at hcons
    rw [hadmits, lineRows, ← hcons]
    simp only [insertLines, Option.bind_eq_bind, Option.bind_eq_some_iff, insertLine_eq_some_iff,
      insertCoordinates_eq_some_iff, ih]
    constructor
    · rintro ⟨_, ⟨hl, rfl⟩, _, ⟨hc, hb, hf, rfl⟩, hls, rfl⟩
      exact ⟨⟨⟨hl, hc, hb, hf⟩, hls⟩, rfl⟩
    · rintro ⟨⟨⟨hl, hc, hb, hf⟩, hls⟩, rfl⟩
      exact ⟨_, ⟨hl, rfl⟩, _, ⟨hc, hb, hf, rfl⟩, hls, rfl⟩

/-! ### Pages -/

/-- The tables have room for the pages and for their lines. -/
structure AdmitsPages (t : Tables) (ps : List Page) : Prop where
  pages : Fresh (ps.map Page.id) (t.pages.map PageRow.id)
  lines : t.AdmitsLines (ps.flatMap Page.lines)

/-- The tables with the rows of pages, and of the lines of the pages, at their ends. -/
def withPages (t : Tables) (rows : List PageRow) (ps : List Page) : Tables :=
  { t.withLines (ps.flatMap Page.lineRows) (ps.flatMap Page.lines) with
    pages := t.pages ++ rows }

theorem withPages_withPages (t : Tables) (rows rows' : List PageRow) (ps ps' : List Page) :
  (t.withPages rows ps).withPages rows' ps' = t.withPages (rows ++ rows') (ps ++ ps')
  := by
  simp [withPages, withLines]

theorem insertPage_eq_some_iff {t u : Tables} {r : PageRow} :
  t.insertPage r = some u
    ↔ r.id ∉ t.pages.map PageRow.id ∧ { t with pages := t.pages ++ [r] } = u
  := by
  simp [insertPage]

theorem map_id_pageLineRows (p : Page) :
  p.lineRows.map LineRow.id = p.lines.map Line.id
  := map_id_lineRows p.id 0 p.lines

theorem admitsLines_congr {t u : Tables} {ls : List Line} (hlines : t.lines = u.lines)
    (hcoordinates : t.coordinates = u.coordinates) :
  t.AdmitsLines ls ↔ u.AdmitsLines ls
  := by
  constructor
  · rintro ⟨hl, hc, hb, hf⟩
    exact ⟨hlines ▸ hl, hcoordinates ▸ hc, hcoordinates ▸ hb, hf⟩
  · rintro ⟨hl, hc, hb, hf⟩
    exact ⟨hlines ▸ hl, hcoordinates ▸ hc, hcoordinates ▸ hb, hf⟩

theorem admitsPages_cons_iff (t : Tables) {row : PageRow} {p : Page} (ps : List Page)
    (hrow : row.id = p.id) :
  t.AdmitsPages (p :: ps)
    ↔ (p.id ∉ t.pages.map PageRow.id ∧ t.AdmitsLines p.lines)
      ∧ (t.withPages [row] [p]).AdmitsPages ps
  := by
  have hpages : Fresh ((p :: ps).map Page.id) (t.pages.map PageRow.id)
      ↔ p.id ∉ t.pages.map PageRow.id
        ∧ Fresh (ps.map Page.id) ((t.withPages [row] [p]).pages.map PageRow.id) := by
    rw [List.map_cons, ← List.singleton_append, Fresh.append_iff, Fresh.singleton_iff, ← hrow]
    simp [withPages]
  have hlines : t.AdmitsLines ((p :: ps).flatMap Page.lines)
      ↔ t.AdmitsLines p.lines ∧ (t.withPages [row] [p]).AdmitsLines (ps.flatMap Page.lines) := by
    rw [List.flatMap_cons, t.admitsLines_append_iff _ (map_id_pageLineRows p)]
    refine and_congr_right' (admitsLines_congr ?_ ?_)
    all_goals simp [withPages, withLines]
  constructor
  · rintro ⟨hp, hl⟩
    rw [hpages] at hp
    rw [hlines] at hl
    exact ⟨⟨hp.1, hl.1⟩, hp.2, hl.2⟩
  · rintro ⟨⟨hp, hl⟩, hps⟩
    exact ⟨hpages.2 ⟨hp, hps.pages⟩, hlines.2 ⟨hl, hps.lines⟩⟩

/-- Pages are inserted exactly if the tables admit them. -/
theorem insertPages_eq_some_iff {document : String} {n : Nat} {ps : List Page} {t u : Tables} :
  t.insertPages document n ps = some u
    ↔ t.AdmitsPages ps ∧ t.withPages (pageRows document n ps) ps = u
  := by
  induction ps generalizing n t with
  | nil =>
    have hnil : t.AdmitsPages [] := ⟨Fresh.nil_iff.2 trivial, t.admitsLines_nil⟩
    simp [insertPages, hnil, withPages, withLines, pageRows]
  | cons p ps ih =>
    have hrow : (⟨p.id, document, p.number, n⟩ : PageRow).id = p.id := rfl
    have hadmits := t.admitsPages_cons_iff ps hrow
    have hcons :=
      t.withPages_withPages [⟨p.id, document, p.number, n⟩] (pageRows document (n + 1) ps) [p] ps
    rw [List.singleton_append, List.singleton_append] at hcons
    have hpage (row : PageRow) :
        ({ t with pages := t.pages ++ [row] } : Tables).withLines (lineRows p.id 0 p.lines) p.lines
          = t.withPages [row] [p] := by
      simp [withPages, withLines, Page.lineRows]
    have hlines (row : PageRow) :
        ({ t with pages := t.pages ++ [row] } : Tables).AdmitsLines p.lines
          ↔ t.AdmitsLines p.lines :=
      admitsLines_congr rfl rfl
    rw [hadmits, pageRows, ← hcons]
    simp only [insertPages, Option.bind_eq_bind, Option.bind_eq_some_iff, insertPage_eq_some_iff,
      insertLines_eq_some_iff, ih]
    constructor
    · rintro ⟨_, ⟨hp, rfl⟩, _, ⟨hl, rfl⟩, hps, rfl⟩
      rw [hpage] at hps ⊢
      exact ⟨⟨⟨hp, (hlines _).1 hl⟩, hps⟩, rfl⟩
    · rintro ⟨⟨⟨hp, hl⟩, hps⟩, rfl⟩
      refine ⟨_, ⟨hp, rfl⟩, _, ⟨(hlines _).2 hl, rfl⟩, ?_⟩
      rw [hpage]
      exact ⟨hps, rfl⟩

/-! ### Documents -/

/-- Tables that hold the rows below some documents admit pages whose identifiers are free among
these. -/
theorem RowsBelow.admitsPages_iff {t : Tables} {ds : List Document} (h : t.RowsBelow ds)
    {ps : List Page} :
  t.AdmitsPages ps
    ↔ Fresh (ps.map Page.id) ((pagesIn ds).map Page.id)
      ∧ Fresh ((ps.flatMap Page.lines).map Line.id) ((linesIn ds).map Line.id)
      ∧ Fresh ((ps.flatMap Page.lines).map fun l => l.coordinates.id)
          ((linesIn ds).map fun l => l.coordinates.id)
      ∧ ∀ l ∈ ps.flatMap Page.lines, hasEmptyCell l.coordinates.corners = false
  := by
  rw [← Fresh.perm_right h.perm_page_ids, ← Fresh.perm_right h.perm_line_ids,
    ← Fresh.perm_right h.perm_coordinates_ids]
  have hbare : Fresh ((ps.flatMap Page.lines).map Line.id) (t.coordinates.map CoordinatesRow.line)
      ↔ Fresh ((ps.flatMap Page.lines).map Line.id) (t.lines.map LineRow.id) :=
    Fresh.perm_right (h.perm_coordinates_lines.trans h.perm_line_ids.symm)
  constructor
  · rintro ⟨hp, hl, hc, -, hf⟩
    exact ⟨hp, hl, hc, hf⟩
  · rintro ⟨hp, hl, hc, hf⟩
    exact ⟨hp, hl, hc, hbare.2 hl, hf⟩

theorem flatMap_middle_perm {α β : Type} (f : α → List β) (pre : List α) (x : α) (post : List α) :
  ((pre ++ x :: post).flatMap f).Perm ((pre ++ post).flatMap f ++ f x)
  := by
  apply (List.perm_middle.flatMap_right f).trans
  rw [List.flatMap_cons]
  apply List.perm_append_comm

/-- The rows of the pages of a document, put at the ends, stand for the document at any place. -/
theorem RowsBelow.withPages {t : Tables} {pre post : List Document} (h : t.RowsBelow (pre ++ post))
    (d : Document) :
  (t.withPages d.pageRows d.pages).RowsBelow (pre ++ d :: post)
  := by
  constructor
  · apply (h.pages.append_right _).trans (flatMap_middle_perm _ pre d post).symm
  · apply (h.lines.append_right _).trans (flatMap_middle_perm _ pre d post).symm
  · apply (h.coordinates.append_right _).trans (flatMap_middle_perm _ pre d post).symm

/-- Documents are storable with another one if its file, its identifier and those below it are
free. -/
theorem storable_middle_iff {pre post : List Document} {d : Document} {t : Tables}
    (h : t.RowsBelow (pre ++ post)) :
  Storable (pre ++ d :: post)
    ↔ Storable (pre ++ post) ∧ d.file ∉ (pre ++ post).map Document.file
      ∧ d.id ∉ (pre ++ post).map Document.id ∧ t.AdmitsPages d.pages
  := by
  have hpages : ((pagesIn (pre ++ d :: post)).map Page.id).Nodup ↔
      ((pagesIn (pre ++ post)).map Page.id).Nodup
        ∧ Fresh (d.pages.map Page.id) ((pagesIn (pre ++ post)).map Page.id) := by
    rw [← Fresh.nodup_append_iff, ← List.map_append]
    apply ((flatMap_middle_perm Document.pages pre d post).map Page.id).nodup_iff
  have hlines : ((linesIn (pre ++ d :: post)).map Line.id).Nodup ↔
      ((linesIn (pre ++ post)).map Line.id).Nodup
        ∧ Fresh (d.lines.map Line.id) ((linesIn (pre ++ post)).map Line.id) := by
    rw [← Fresh.nodup_append_iff, ← List.map_append]
    apply ((flatMap_middle_perm Document.lines pre d post).map Line.id).nodup_iff
  have hcoordinates : ((linesIn (pre ++ d :: post)).map fun l => l.coordinates.id).Nodup ↔
      ((linesIn (pre ++ post)).map fun l => l.coordinates.id).Nodup
        ∧ Fresh (d.lines.map fun l => l.coordinates.id)
            ((linesIn (pre ++ post)).map fun l => l.coordinates.id) := by
    rw [← Fresh.nodup_append_iff, ← List.map_append]
    apply ((flatMap_middle_perm Document.lines pre d post).map _).nodup_iff
  have hfull : (∀ l ∈ linesIn (pre ++ d :: post), hasEmptyCell l.coordinates.corners = false) ↔
      (∀ l ∈ linesIn (pre ++ post), hasEmptyCell l.coordinates.corners = false)
        ∧ ∀ l ∈ d.lines, hasEmptyCell l.coordinates.corners = false := by
    rw [← List.forall_mem_append]
    simp only [linesIn, (flatMap_middle_perm Document.lines pre d post).mem_iff]
  rw [h.admitsPages_iff]
  constructor
  · rintro ⟨hf, hd, hp, hl, hc, he⟩
    rw [List.map_append, List.map_cons, List.nodup_middle, List.nodup_cons, ← List.map_append]
      at hf hd
    rw [hpages] at hp
    rw [hlines] at hl
    rw [hcoordinates] at hc
    rw [hfull] at he
    exact ⟨⟨hf.2, hd.2, hp.1, hl.1, hc.1, he.1⟩, hf.1, hd.1, hp.2, hl.2, hc.2, he.2⟩
  · rintro ⟨⟨hf, hd, hp, hl, hc, he⟩, hfile, hid, hp', hl', hc', he'⟩
    refine ⟨?_, ?_, hpages.2 ⟨hp, hp'⟩, hlines.2 ⟨hl, hl'⟩, hcoordinates.2 ⟨hc, hc'⟩,
      hfull.2 ⟨he, he'⟩⟩
    all_goals rw [List.map_append, List.map_cons, List.nodup_middle, List.nodup_cons,
      ← List.map_append]
    · exact ⟨hfile, hf⟩
    · exact ⟨hid, hd⟩

end Tables

end Sql

end ScanIndex
