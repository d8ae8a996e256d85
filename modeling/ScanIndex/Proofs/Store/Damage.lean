import ScanIndex.Proofs.Store.Refusal

/-!
# Tables that have lost coordinates

Tables that have lost the coordinates of some lines answer as if the documents had no such lines,
but cannot read the lines back.  So a query finds the documents that it accepts without the lost
lines, and the documents that it finds are read in full or, at the first lost line of theirs, not at
all (`Relational.reads_after_loss`).
-/

namespace ScanIndex

open Sql

namespace Sql.Tables

variable {t : Tables} {ds : List Document}

theorem dropCoordinates_dropCoordinates (p q : String → Bool) :
  (t.dropCoordinates p).dropCoordinates q = t.dropCoordinates fun id => p id || q id
  := by
  simp only [dropCoordinates, List.filter_filter, Bool.not_or, Bool.and_comm]

/-- Tables that have lost the coordinates of lines find the documents that the query accepts without
these lines. -/
theorem Represents.finds_without (h : t.Represents ds) (lost : String → Bool) (q : Query) :
  (t.dropCoordinates lost).Finds q (ds.filter fun d => q.accepts (d.without lost))
  := by
  have hdocuments : (t.dropCoordinates lost).documents = ds.map Document.row := h.documents
  apply finds_filter hdocuments
  intro d hd
  apply Query.selects_expr_of_answers ((h.holds hd).answers_without lost) q

end Sql.Tables

theorem LineFilter.accepts_without_iff {f : LineFilter} {lost : String → Bool} {d : Document} :
  f.accepts (d.without lost) = true
    ↔ ∃ p ∈ d.pages, ∃ l ∈ p.lines, lost l.id = false ∧ f.acceptsLine p l = true
  := by
  have hpage (p : Page) (l : Line) : f.acceptsLine (p.without lost) l = f.acceptsLine p l := rfl
  simp only [accepts, Document.without, List.any_eq_true, List.mem_map, exists_exists_and_eq_and,
    hpage]
  simp only [Page.without, List.mem_filter, Bool.not_eq_true', and_assoc]

namespace Relational

/-- Remove the coordinates of lines, one after the other. -/
def loseAll? (lines : List String) (s : Relational) : Option Relational :=
  lines.foldlM (fun s line => (s.loseCoordinates? line).map Prod.snd) s

theorem loseAll?_ofTables (lines : List String) (t : Tables) :
  loseAll? lines (ofTables t) = some (ofTables (t.dropCoordinates fun id => id ∈ lines))
  := by
  induction lines generalizing t with
  | nil =>
    have hnone : (fun id : String => decide (id ∈ [])) = fun _ => false := by simp
    rw [hnone, Tables.dropCoordinates_none]
    rfl
  | cons line lines ih =>
    have hcons : (fun id : String => decide (id ∈ line :: lines))
        = fun id => decide (id = line) || decide (id ∈ lines) := by
      simp only [List.mem_cons, Bool.decide_or]
    rw [hcons, ← Tables.dropCoordinates_dropCoordinates, ← ih]
    rfl

/-- What a query reads from a store that finds the given documents, when the lines under some
identifiers have lost their coordinates: the identifiers of the documents, and the documents unless
one of their lines is lost.  A statement that cannot be run is an error of its own. -/
structure Reads (s : Relational) (q : Query) (lost : List String) (found : List Document) :
    Prop where
  nodup : (found.map Document.id).Nodup
  keys : q.Fits .keys → Relational.keys q s = .ok (found.map Document.id)
  whole : q.Fits .documents → (∀ l ∈ linesIn found, l.id ∉ lost) →
    Relational.documents q s = .ok (found.map Document.plain)
  broken : q.Fits .documents → ∀ l, ((linesIn found).find? fun l => l.id ∈ lost) = some l →
    Relational.documents q s = .error (.decode (.readLine l.id))
  keysFail : ¬q.Fits .keys → Relational.keys q s = .error (.read .queryKeys)
  documentsFail : ¬q.Fits .documents → Relational.documents q s = .error (.read .queryDocuments)

theorem reads_dropCoordinates {t : Tables} {ds : List Document} (h : t.Represents ds)
    (lost : List String) (q : Query) :
  (ofTables (t.dropCoordinates fun id => id ∈ lost)).Reads q lost
    (ds.filter fun d => q.accepts (d.without fun id => id ∈ lost))
  := by
  have hfinds := h.finds_without (fun id => id ∈ lost) q
  have hdocuments := hfinds.documents_eq
  rw [h.assemble_joined_dropCoordinates List.filter_sublist] at hdocuments
  constructor
  case nodup =>
    apply (h.storable.sublist List.filter_sublist).documents
  case keys =>
    intro hfits
    rw [hfinds.keys_eq, if_pos hfits]
  case whole =>
    intro hfits hlines
    rw [hdocuments, if_pos hfits]
    apply readingOf_eq_ok
    intro l hl
    apply decide_eq_false (hlines l hl)
  case broken =>
    intro hfits l hl
    rw [hdocuments, if_pos hfits]
    apply readingOf_eq_error hl
  case keysFail =>
    intro hfits
    rw [hfinds.keys_eq, if_neg hfits]
  case documentsFail =>
    intro hfits
    rw [hdocuments, if_neg hfits]

/-- A line of the first document has lost its coordinates: no line filter finds it, and its document
cannot be read, but is found. -/
example :
    let l : Line := ⟨"l", "total", ⟨"c", ⟨⟨0, 0⟩, ⟨1, 0⟩, ⟨0, 1⟩, ⟨1, 1⟩⟩⟩⟩
    let d : Document := ⟨"d", "b", "p.jpg", [⟨"p", 1, [l]⟩]⟩
    let e : Document := ⟨"e", "b", "q.png", [⟨"q", 2, []⟩]⟩
    let s := loseAll? ["l"] (Relational.upsert [d, e] .empty).2
    s.map (Relational.keys ⟨.leaf (.line ⟨1, "total", []⟩), none⟩) = some (.ok [])
      ∧ s.map (Relational.keys ⟨.and [], none⟩) = some (.ok ["d", "e"])
      ∧ s.map (Relational.documents ⟨.and [], none⟩) = some (.error (.decode (.readLine "l")))
  := by
  decide +kernel

end Relational

end ScanIndex
