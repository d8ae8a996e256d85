import ScanIndex.Proofs.Http.Service
import ScanIndex.Proofs.Search.Scope
import ScanIndex.Proofs.Text.Pieces

/-!
# Searching in some buckets over HTTP

The parameter `buckets` of a search lists names between commas, with blanks around them
(`ListsName`).  The response to a search with the parameter is that to the search without it,
restricted to the buckets of these names (`Restricts`), or the same response if there are no names
(`search_within`).
-/

namespace ScanIndex

namespace Http

/-! ### Names between commas -/

/-- The name stands in a list between commas, with blanks around it. -/
def ListsName (list name : String) : Prop :=
  name ≠ "" ∧ ∃ piece, IsPiece ',' list.toList piece ∧ IsTrimmed piece name.toList

theorem mem_namesOf_iff {list name : String} :
  name ∈ namesOf list ↔ ListsName list name
  := by
  rw [namesOf, List.mem_filter, decide_eq_true_eq, and_comm, ListsName, List.mem_map]
  simp only [mem_pieces_iff, ← trimmed_eq_iff]
  apply and_congr_right
  intro _
  constructor
  · rintro ⟨piece, hpiece, rfl⟩
    exact ⟨piece, hpiece, String.toList_ofList.symm⟩
  · rintro ⟨piece, hpiece, hname⟩
    exact ⟨piece, hpiece, by rw [hname, String.ofList_toList]⟩

/-! ### Responses -/

variable {σ : Type} [DocumentStore σ] {s : Service} {r : Request} {list : String}

/-- The response that lists keys under buckets. -/
def listing (g : Buckets) : Response :=
  (Response.success (bucketsJson g)).withHeader "access-control-allow-origin" "*"

/-- The one response restricts the other to some buckets: either both list keys under buckets, or
they report the same error. -/
def Restricts (names : List String) (whole part : Response) : Prop :=
  (∃ g : Buckets, whole = listing g ∧ part = listing (g.within names))
    ∨ whole.status ≠ 200 ∧ part = whole

/-- The request asks for a search, and has one parameter `buckets`. -/
structure Request.AsksWithin (r : Request) (list : String) : Prop where
  method : r.method = "POST"
  path : (splitTarget r.target).1 = "/search"
  buckets : ((formFields (splitTarget r.target).2).filter fun f => f.1 = "buckets")
    = [("buckets", list)]

/-- The same request for a search without parameters. -/
def Request.everywhere (r : Request) : Request := { r with target := "/search" }

/-- The response to a request for a search. -/
theorem respond_of_search (hmethod : r.method = "POST")
    (hpath : (splitTarget r.target).1 = "/search") {scope : Option (List String)}
    (hscope : bucketsOf (splitTarget r.target).2 = .ok scope) (s : Service) (w : World σ) :
  respond s r w
    = ((handleBody s r w (handleSearch scope)).1.withHeader "access-control-allow-origin" "*",
      (handleBody s r w (handleSearch scope)).2)
  := by
  cases hsplit : splitTarget r.target with
  | mk path query =>
    rw [hsplit] at hpath hscope
    simp only at hpath hscope
    subst hpath
    rw [respond, hsplit]
    simp [hmethod, Route.ofPath?, handle, hscope]

theorem respond_everywhere (hmethod : r.method = "POST") (s : Service) (w : World σ) :
  respond s r.everywhere w
    = ((handleBody s r w (handleSearch none)).1.withHeader "access-control-allow-origin" "*",
      (handleBody s r w (handleSearch none)).2)
  := by
  have hpath : (splitTarget r.everywhere.target).1 = "/search" := by
    change (splitTarget "/search").1 = _
    decide +kernel
  have hscope : bucketsOf (splitTarget r.everywhere.target).2 = .ok none := by
    change bucketsOf (splitTarget "/search").2 = _
    have hquery : (splitTarget "/search").2 = "" := by decide +kernel
    rw [hquery]
    rfl
  have hmethod : r.everywhere.method = "POST" := hmethod
  apply respond_of_search hmethod hpath hscope

theorem Request.AsksWithin.respond_eq (h : r.AsksWithin list) (s : Service) (w : World σ) :
  respond s r w
    = ((handleBody s r w (handleSearch
        (if namesOf list = [] then none else some (namesOf list)))).1.withHeader
        "access-control-allow-origin" "*",
      (handleBody s r w (handleSearch (if namesOf list = [] then none else some (namesOf list)))).2)
  := by
  apply respond_of_search h.method h.path
  rw [bucketsOf, h.buckets]

/-- The response to the outcome of a search. -/
def searchResponse : Except SearchError Buckets → Response
  | .ok g => .success (bucketsJson g)
  | .error e => searchFailure e

theorem fst_handleSearch (scope : Option (List String)) (j : Json) (w : World σ) :
  (handleSearch scope j w).1 = searchResponse (search j scope w).1
  := by
  rw [handleSearch]
  cases search j scope w with
  | mk outcome v => cases outcome <;> rfl

/-- If searches in some buckets find what is found under these in all buckets, then the response to
a request that is confined to them restricts the response to the request in all buckets. -/
theorem restricts_handleBody {names : List String} {w : World σ}
    (h : ∀ j filter, bodyValue? r.body = some j → Filter.ofJson j = .ok filter →
      ∃ g, (search j none w).1 = .ok g ∧ (search j (some names) w).1 = .ok (g.within names)) :
  Restricts names
    ((handleBody s r w (handleSearch none)).1.withHeader "access-control-allow-origin" "*")
    ((handleBody s r w (handleSearch (some names))).1.withHeader "access-control-allow-origin" "*")
  := by
  have hsame {response : Response} (hstatus : response.status ≠ 200) :
      Restricts names (response.withHeader "access-control-allow-origin" "*")
        (response.withHeader "access-control-allow-origin" "*") := .inr ⟨hstatus, rfl⟩
  rw [handleBody, handleBody]
  split
  next =>
    apply hsame
    simp [Response.plain]
  next =>
    split
    next =>
      cases hvalue : bodyValue? r.body with
      | none =>
        apply hsame
        simp [Response.failure, Response.json]
      | some j =>
        simp only [fst_handleSearch]
        cases hrequest : Filter.ofJson j with
        | error e =>
          simp only [search, hrequest, searchResponse]
          apply hsame
          simp [searchFailure, Response.failure, Response.json]
        | ok filter =>
          obtain ⟨g, hwhole, hpart⟩ := h j filter hvalue hrequest
          rw [hwhole, hpart]
          exact .inl ⟨g, rfl, rfl⟩
    next =>
      apply hsame
      simp [Response.failure, Response.json]

variable {w : World σ}

/-- A parameter without names makes no difference. -/
theorem Request.AsksWithin.respond_eq_everywhere (h : r.AsksWithin list)
    (hnone : namesOf list = []) :
  respond s r w = respond s r.everywhere w
  := by
  rw [h.respond_eq, respond_everywhere h.method, if_pos hnone]

/-- The response to a request with names, if searches in these buckets find what is found under them
in all buckets. -/
theorem Request.AsksWithin.restricts (h : r.AsksWithin list) (hsome : namesOf list ≠ [])
    (hsearch : ∀ j filter, bodyValue? r.body = some j → Filter.ofJson j = .ok filter →
      ∃ g, (search j none w).1 = .ok g
        ∧ (search j (some (namesOf list)) w).1 = .ok (g.within (namesOf list))) :
  Restricts (namesOf list) (respond s r.everywhere w).1 (respond s r w).1
  := by
  rw [h.respond_eq, respond_everywhere h.method, if_neg hsome]
  apply restricts_handleBody hsearch

end Http

/-- What a search in some buckets lists, in memory and in tables, and how a request over HTTP is
answered that confines it to some buckets.  Tables are asked for documents by statements that can be
run, or the search fails; if they have lost coordinates, it may fail for all buckets only. -/
theorem search_within :
  (∀ (w : World Memory) (request : Json) (filter : Filter) (names : List String),
      Filter.ofJson request = .ok filter →
      ∃ g, (search request none w).1 = .ok g
        ∧ (search request (some names) w).1 = .ok (g.within names))
    ∧ (∀ (w : World Relational) (request : Json) (filter : Filter) (names : List String),
      Filter.ofJson request = .ok filter →
      (∀ m, w.store.Represents m → Relational.Runs filter names →
        ∃ g, (search request none w).1 = .ok g
          ∧ (search request (some names) w).1 = .ok (g.within names))
      ∧ (∀ g, w.store.Keyed → (⟨filter, some names⟩ : Query).Fits .documents →
        (search request none w).1 = .ok g
          → (search request (some names) w).1 = .ok (g.within names))
      ∧ ∀ scope, w.store.reach? = none ∨ ¬(⟨filter, scope⟩ : Query).Fits .documents →
        (search request scope w).1 = .error (.store (.read .queryDocuments)))
    ∧ ∀ (s : Http.Service) (r : Http.Request) (list : String), r.AsksWithin list →
      (∀ name, name ∈ Http.namesOf list ↔ Http.ListsName list name)
      ∧ ((∀ name, ¬Http.ListsName list name) →
        (∀ w : World Memory, Http.respond s r w = Http.respond s r.everywhere w)
          ∧ ∀ w : World Relational, Http.respond s r w = Http.respond s r.everywhere w)
      ∧ ((∃ name, Http.ListsName list name) →
        (∀ w : World Memory,
          Http.Restricts (Http.namesOf list) (Http.respond s r.everywhere w).1
            (Http.respond s r w).1)
        ∧ ∀ (w : World Relational) (m : Memory), w.store.Represents m →
          (∀ j filter, Http.bodyValue? r.body = some j → Filter.ofJson j = .ok filter →
            Relational.Runs filter (Http.namesOf list)) →
          Http.Restricts (Http.namesOf list) (Http.respond s r.everywhere w).1
            (Http.respond s r w).1)
  := by
  refine ⟨?_, ?_, ?_⟩
  · intro w request filter names hrequest
    apply Memory.exists_search_within hrequest
  · intro w request filter names hrequest
    refine ⟨?_, ?_, ?_⟩
    · intro m hm hruns
      apply Relational.exists_search_within hm hrequest hruns
    · intro g hkeyed hfits hg
      apply Relational.search_within_of_eq_ok hrequest hfits hkeyed hg
    · intro scope hunanswered
      apply Relational.search_eq_error hrequest hunanswered
  · intro s r list hasks
    refine ⟨fun name => Http.mem_namesOf_iff, ?_, ?_⟩
    · intro hnone
      have hnames : Http.namesOf list = [] := by
        rw [List.eq_nil_iff_forall_not_mem]
        intro name hname
        apply hnone name (Http.mem_namesOf_iff.1 hname)
      exact ⟨fun w => hasks.respond_eq_everywhere hnames,
        fun w => hasks.respond_eq_everywhere hnames⟩
    · rintro ⟨name, hname⟩
      have hnames : Http.namesOf list ≠ [] := List.ne_nil_of_mem (Http.mem_namesOf_iff.2 hname)
      constructor
      · intro w
        apply hasks.restricts hnames
        intro j filter _ hrequest
        apply Memory.exists_search_within hrequest
      · intro w m hm hruns
        apply hasks.restricts hnames
        intro j filter hvalue hrequest
        apply Relational.exists_search_within hm hrequest (hruns j filter hvalue hrequest)

/-- Files of two buckets, of which a request names one twice, and one that is not there. -/
theorem search_within_repeated :
  ∃ (ds : List Document) (s : Http.Service) (r : Http.Request),
    ds = [⟨"d", "a", "p.jpg", []⟩, ⟨"e", "b", "q.jpg", []⟩]
      ∧ s = ⟨none, fun _ _ => none, .strokes, fun _ => ""⟩
      ∧ r = ⟨"POST", "/search?x=1&buckets=+b%2C%2Cc,b", [], Utf8.encode "\x7b\"not\": []\x7d"⟩
      ∧ Http.Restricts ["b", "c", "b"]
        (Http.respond s r.everywhere (.ofStore (⟨ds⟩ : Memory))).1
        (Http.respond s r (.ofStore (⟨ds⟩ : Memory))).1
      ∧ Http.Restricts ["b", "c", "b"]
        (Http.respond s r.everywhere (.ofStore (Relational.ofTables (.ofDocuments ds)))).1
        (Http.respond s r (.ofStore (Relational.ofTables (.ofDocuments ds)))).1
      ∧ (Http.respond s r (.ofStore (⟨ds⟩ : Memory))).1 = Http.listing [("b", ["q.jpg"])]
  := by
  let ds : List Document := [⟨"d", "a", "p.jpg", []⟩, ⟨"e", "b", "q.jpg", []⟩]
  let s : Http.Service := ⟨none, fun _ _ => none, .strokes, fun _ => ""⟩
  let r : Http.Request :=
    ⟨"POST", "/search?x=1&buckets=+b%2C%2Cc,b", [], Utf8.encode "\x7b\"not\": []\x7d"⟩
  have hpath : (Http.splitTarget r.target).1 = "/search" := by decide +kernel
  have hbuckets : ((formFields (Http.splitTarget r.target).2).filter fun f => f.1 = "buckets")
      = [("buckets", " b,,c,b")] := by decide +kernel
  have hnames : Http.namesOf " b,,c,b" = ["b", "c", "b"] := by decide +kernel
  have hstorable : Storable ds := by constructor <;> decide +kernel
  have hvalue : ((Http.bodyValue? r.body).all fun j => (Filter.ofJson j).toOption.all fun filter =>
      decide ((⟨filter, none⟩ : Query).Fits .documents)
        && decide ((⟨filter, some ["b", "c", "b"]⟩ : Query).Fits .documents))
          = true := by decide +kernel
  have hanswer : (Http.respond s r (.ofStore (⟨ds⟩ : Memory))).1
      = Http.listing [("b", ["q.jpg"])] := by
    decide +kernel
  obtain ⟨-, -, hhttp⟩ := search_within
  obtain ⟨hlists, -, hsome⟩ := hhttp s r " b,,c,b" ⟨rfl, hpath, hbuckets⟩
  rw [hnames] at hlists hsome
  obtain ⟨hmemory, htables⟩ := hsome ⟨"b", (hlists "b").1 List.mem_cons_self⟩
  refine ⟨ds, s, r, rfl, rfl, rfl, hmemory (.ofStore ⟨ds⟩), ?_, hanswer⟩
  apply htables (.ofStore (Relational.ofTables (.ofDocuments ds))) ⟨ds⟩
    ⟨_, rfl, Sql.Tables.represents_ofDocuments hstorable⟩
  intro j filter hj hfilter
  rw [hj, Option.all_some, hfilter] at hvalue
  change (_ && _) = true at hvalue
  rw [Bool.and_eq_true, decide_eq_true_iff, decide_eq_true_iff] at hvalue
  exact ⟨hvalue.1, hvalue.2⟩

/-- A list of too many buckets for one statement: the search in all buckets finds the file, and the
search in the one that is named over and over fails. -/
theorem search_within_fails_beyond_binds :
  ∃ (d : Document) (s : Relational) (w : World Relational) (request : Json) (names : List String),
    d = ⟨"b/p.jpg", "b", "p.jpg", []⟩ ∧ Relational.upsert [d] .empty = (.ok (), s) ∧ w = .ofStore s
      ∧ request = .object [("and", .array [])] ∧ names = List.replicate 32767 "b"
      ∧ (search request none w).1 = .ok [("b", ["p.jpg"])]
      ∧ (search request (some names) w).1 = .error (.store (.read .queryDocuments))
  := by
  let d : Document := ⟨"b/p.jpg", "b", "p.jpg", []⟩
  let s : Relational := (Relational.upsert [d] .empty).2
  let names := List.replicate 32767 "b"
  have hupsert : (Relational.upsert [d] .empty).1 = .ok () := by decide +kernel
  have hwhole : (search (.object [("and", .array [])]) none (.ofStore s)).1.toOption
      = some [("b", ["p.jpg"])] := by decide +kernel
  have hbinds : (⟨.and [], some names⟩ : Query).statement.binds.length = 32767 := by
    rw [Query.length_binds_of_scope, List.length_replicate]
    rfl
  have hfits : ¬(⟨.and [], some names⟩ : Query).Fits .documents := by
    intro hfits
    have hle := hfits.1
    rw [hbinds] at hle
    exact absurd hle (by decide)
  have hrequest : Filter.ofJson (.object [("and", .array [])]) = .ok (.and []) := rfl
  refine ⟨d, s, .ofStore s, _, names, rfl, Prod.ext hupsert rfl, rfl, rfl, rfl, ?_, ?_⟩
  · cases hs : (search (.object [("and", .array [])]) none (.ofStore s)).1 with
    | error e =>
      rw [hs] at hwhole
      cases hwhole
    | ok g =>
      rw [hs] at hwhole
      cases hwhole
      rfl
  · apply Relational.search_eq_error hrequest (.inr hfits)

end ScanIndex
