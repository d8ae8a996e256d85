import ScanIndex.Sql.Tables

/-!
# What the removal of documents takes along

Tables that are `cleared` of documents have lost these documents, the pages of these, the lines of
those and their coordinates, and all other rows stand as before.  Removing documents clears the
tables of them, whatever else the tables hold (`dropDocuments_eq_cleared`).  Tables that are cleared
of some documents and then of others are cleared of both (`cleared_cleared`), so it does not matter
in which pieces documents are removed (`foldl_dropDocuments`).
-/

namespace ScanIndex.Sql.Tables

/-- The page belongs to a document that is gone. -/
def losesPage (t : Tables) (gone : DocumentRow → Bool) (p : PageRow) : Bool :=
  t.documents.any fun d => gone d && d.id = p.document

/-- The line belongs to a page that is lost with its document. -/
def losesLine (t : Tables) (gone : DocumentRow → Bool) (l : LineRow) : Bool :=
  t.pages.any fun p => t.losesPage gone p && p.id = l.page

/-- The coordinates belong to a line that is lost with its page. -/
def losesCoordinates (t : Tables) (gone : DocumentRow → Bool) (c : CoordinatesRow) : Bool :=
  t.lines.any fun l => t.losesLine gone l && l.id = c.line

/-- The tables, without the documents that are gone and all rows below them. -/
def cleared (t : Tables) (gone : DocumentRow → Bool) : Tables where
  documents := t.documents.filter fun d => !gone d
  pages := t.pages.filter fun p => !t.losesPage gone p
  lines := t.lines.filter fun l => !t.losesLine gone l
  coordinates := t.coordinates.filter fun c => !t.losesCoordinates gone c

variable {t : Tables} {gone gone' : DocumentRow → Bool}

theorem dropDocuments_eq_cleared (p : String → Bool) :
  t.dropDocuments p = t.cleared fun d => p d.id
  := by
  simp only [dropDocuments, dropPages, dropLines, dropCoordinates, cleared, losesPage, losesLine,
    losesCoordinates, List.any_filter]

/-- What is cleared depends on the documents of the tables only. -/
theorem cleared_congr (h : ∀ d ∈ t.documents, gone d = gone' d) :
  t.cleared gone = t.cleared gone'
  := by
  have hpage : t.losesPage gone = t.losesPage gone' := by
    funext p
    rw [losesPage, losesPage, Bool.eq_iff_iff, List.any_eq_true, List.any_eq_true]
    refine exists_congr fun d => and_congr_right fun hd => ?_
    rw [h d hd]
  have hline : t.losesLine gone = t.losesLine gone' := by
    funext l
    rw [losesLine, losesLine, hpage]
  have hcoordinates : t.losesCoordinates gone = t.losesCoordinates gone' := by
    funext c
    rw [losesCoordinates, losesCoordinates, hline]
  have hdocuments : (t.documents.filter fun d => !gone d)
      = t.documents.filter fun d => !gone' d := by
    apply List.filter_congr
    intro d hd
    rw [h d hd]
  rw [cleared, cleared, hdocuments, hpage, hline, hcoordinates]

/-- Tables that nothing is gone from stay as they are. -/
theorem cleared_none (t : Tables) :
  t.cleared (fun _ => false) = t
  := by
  have hany {α : Type} (xs : List α) : (xs.any fun _ => false) = false := by simp
  have hfilter {α : Type} (xs : List α) : (xs.filter fun _ => true) = xs := by simp
  simp only [cleared, losesPage, losesLine, losesCoordinates, Bool.false_and, hany, Bool.not_false,
    hfilter]

/-- Some item is lost at once exactly if it is lost first, or later from what is left. -/
theorem any_or_any_filter {α : Type} (p q r : α → Bool) (xs : List α) :
  ((xs.any fun x => p x && r x) || (xs.filter fun x => !p x).any fun x => q x && r x)
    = xs.any fun x => (p x || q x) && r x
  := by
  rw [List.any_filter]
  induction xs with
  | nil => rfl
  | cons x xs ih =>
    rw [List.any_cons, List.any_cons, List.any_cons, ← ih]
    cases p x <;> cases q x <;> cases r x <;> simp

/-- Clearing tables of some documents, and then of others, is clearing them of both. -/
theorem cleared_cleared (t : Tables) (gone gone' : DocumentRow → Bool) :
  (t.cleared gone).cleared gone' = t.cleared fun d => gone d || gone' d
  := by
  have hpage (p : PageRow) : (t.losesPage gone p || (t.cleared gone).losesPage gone' p)
      = t.losesPage (fun d => gone d || gone' d) p :=
    any_or_any_filter gone gone' (fun d => d.id = p.document) t.documents
  have hline (l : LineRow) : (t.losesLine gone l || (t.cleared gone).losesLine gone' l)
      = t.losesLine (fun d => gone d || gone' d) l := by
    rw [losesLine, losesLine, losesLine]
    simp only [← hpage]
    apply any_or_any_filter (t.losesPage gone) ((t.cleared gone).losesPage gone')
      (fun p => p.id = l.page)
  have hcoordinates (c : CoordinatesRow) :
      (t.losesCoordinates gone c || (t.cleared gone).losesCoordinates gone' c)
        = t.losesCoordinates (fun d => gone d || gone' d) c := by
    rw [losesCoordinates, losesCoordinates, losesCoordinates]
    simp only [← hline]
    apply any_or_any_filter (t.losesLine gone) ((t.cleared gone).losesLine gone')
      (fun l => l.id = c.line)
  have hfilter {α : Type} (p q : α → Bool) (xs : List α) :
      (xs.filter fun x => !(p x || q x)) = (xs.filter fun x => !p x).filter fun x => !q x := by
    simp only [List.filter_filter, Bool.not_or, Bool.and_comm]
  symm
  rw [cleared]
  simp only [← hpage, ← hline, ← hcoordinates, hfilter]
  rfl

/-- Removing documents piece by piece removes all that are named, at once. -/
theorem foldl_dropDocuments (pieces : List (List String)) (t : Tables) :
  pieces.foldl (fun t piece => t.dropDocuments fun id => id ∈ piece) t
    = t.cleared fun d => d.id ∈ pieces.flatten
  := by
  induction pieces generalizing t with
  | nil => exact t.cleared_none.symm
  | cons piece pieces ih =>
    rw [List.foldl_cons, ih, dropDocuments_eq_cleared, cleared_cleared]
    simp only [List.flatten_cons, List.mem_append, Bool.decide_or]

end ScanIndex.Sql.Tables
