import ScanIndex.Http.Service
import ScanIndex.Proofs.Indexing.Replies
import ScanIndex.Store.Faulty
import ScanIndex.Store.Memory

/-!
# What the service answers, and when

A request that reaches the search or the events is answered with one of four statuses
(`outcome_respond`):

* 401 if it is not authorized;
* 400 if it is authorized and its body is refused;
* 500 if neither is the case and a call to the engine or to the store is not answered well;
* 200 if all calls are.

In the first two cases no call is made.  A search never changes the store.
-/

namespace ScanIndex.Http

/-- What handles the value of a request: a search, confined to some buckets if a scope is given, or
a batch of change events. -/
inductive Handler where
  | search (scope : Option (List String))
  | events

/-- The request reaches the handler: it has its method and its path, a query string that can be
read, and a body that is not too long. -/
def Request.Reaches (r : Request) : Handler → Prop
  | .search scope => r.method = "POST" ∧ (splitTarget r.target).1 = "/search"
      ∧ r.body.length ≤ maxBody ∧ bucketsOf (splitTarget r.target).2 = .ok scope
  | .events => r.method = "POST" ∧ (splitTarget r.target).1 = "/events" ∧ r.body.length ≤ maxBody

namespace Handler

/-- The handler refuses the value.  A batch is refused if it cannot be read, and also if one of its
events is about a supported file and names no kind of change. -/
def Refuses : Handler → Json → Prop
  | search _, j => ∃ e, Filter.ofJson j = .error e
  | events, j => (∃ e, readBatch j = .error e)
      ∨ ∃ batch, readBatch j = .ok batch ∧ ∃ e ∈ batch, e.IsUnsupported

/-- The body holds no value, or one that the handler refuses. -/
def RefusesBody (handler : Handler) (body : List UInt8) : Prop :=
  bodyValue? body = none ∨ ∃ j, bodyValue? body = some j ∧ handler.Refuses j

variable {σ : Type} [DocumentStore σ]

/-- Handle a value. -/
def answer (s : Service) : Handler → Json → World σ → Response × World σ
  | search scope => handleSearch scope
  | events => handleEvents s

end Handler

/-- The status of the response to a request that is not refused. -/
def statusOf : Reply → Nat
  | .answered => 200
  | .failed => 500
  | .unanswered => 500

variable {σ : Type} [DocumentStore σ]

theorem respond_of_reaches {r : Request} {handler : Handler} (hreaches : r.Reaches handler)
    (s : Service) (w : World σ) :
  (respond s r w).1.status = (handleBody s r w (handler.answer s)).1.status
    ∧ (respond s r w).2 = (handleBody s r w (handler.answer s)).2
  := by
  cases hsplit : splitTarget r.target with
  | mk path query =>
    rw [respond, hsplit]
    cases handler with
    | search scope =>
      obtain ⟨hmethod, hpath, -, hscope⟩ := hreaches
      rw [hsplit] at hpath hscope
      simp only at hpath hscope
      subst hpath
      simp [hmethod, Route.ofPath?, handle, hscope, Handler.answer, Response.withHeader]
    | events =>
      obtain ⟨hmethod, hpath, -⟩ := hreaches
      rw [hsplit] at hpath
      simp only at hpath
      subst hpath
      simp [hmethod, Route.ofPath?, handle, Handler.answer, Response.withHeader]

theorem Request.Reaches.length_body_le {r : Request} {handler : Handler} (h : r.Reaches handler) :
  r.body.length ≤ maxBody
  := by
  cases handler with
  | search scope => exact h.2.2.1
  | events => exact h.2.2

/-! ### Handlers -/

/-- A search leaves the store alone. -/
theorem store_handleSearch (scope : Option (List String)) (j : Json) (w : World σ) :
  (handleSearch scope j w).2.store = w.store
  := by
  rw [handleSearch, search]
  cases Filter.ofJson j with
  | error e => rfl
  | ok filter =>
    simp only [World.documents]
    cases DocumentStore.documents ⟨filter, scope⟩ w.store with
    | error e => rfl
    | ok ds => rfl

/-- A search that is not refused asks the store for documents. -/
theorem leads_handleSearch (engine : Engine) {scope : Option (List String)} {j : Json}
    {filter : Filter} (h : Filter.ofJson j = .ok filter) (w : World σ) :
  ∃ cs reply, Leads engine w cs reply (handleSearch scope j w).2
    ∧ (handleSearch scope j w).1.status = statusOf reply
  := by
  have hcall := leads_documents engine w ⟨filter, scope⟩
  cases hdocuments : w.documents ⟨filter, scope⟩ with
  | mk r v =>
    simp only [handleSearch, search, h, hdocuments]
    rw [hdocuments] at hcall
    cases r
    all_goals exact ⟨_, _, hcall, rfl⟩

/-- A batch that is not refused is handled by the calls that carry out its plan. -/
theorem leads_handleEvents (s : Service) {j : Json} {batch : List ChangeEvent}
    (hbatch : readBatch j = .ok batch) {plan : Plan} (hroute : route batch = .ok plan)
    (w : World σ) :
  ∃ cs reply, Leads s.engine w cs reply (handleEvents s j w).2
    ∧ (handleEvents s j w).1.status = statusOf reply
  := by
  simp only [handleEvents, hbatch, process_eq_carryOut hroute]
  cases hcarry : carryOut s.engine s.ids plan w with
  | mk r w' =>
    obtain ⟨cs, hcs⟩ := leads_carryOut hcarry
    rcases r with _ | (e | report)
    · exact ⟨cs, _, hcs, rfl⟩
    · refine ⟨cs, _, hcs, ?_⟩
      simp [processFailure, isClientError_of_carryOut_eq_error hcarry, Response.failure,
        Response.json, statusOf, Reply.of]
    · exact ⟨cs, _, hcs, rfl⟩

/-- A value is refused without a call, or it is handled by calls that end as the status says. -/
theorem Handler.answer_cases (handler : Handler) (s : Service) (j : Json) (w : World σ) :
  (handler.Refuses j ∧ (handler.answer s j w).1.status = 400 ∧ (handler.answer s j w).2 = w)
    ∨ ¬handler.Refuses j ∧ ∃ cs reply, Leads s.engine w cs reply (handler.answer s j w).2
      ∧ (handler.answer s j w).1.status = statusOf reply
  := by
  cases handler with
  | search scope =>
    cases hfilter : Filter.ofJson j with
    | error e =>
      left
      refine ⟨⟨e, hfilter⟩, ?_⟩
      simp [answer, handleSearch, ScanIndex.search, hfilter, searchFailure, Response.failure,
        Response.json]
    | ok filter =>
      right
      constructor
      · rintro ⟨e, he⟩
        rw [hfilter] at he
        cases he
      · exact leads_handleSearch s.engine hfilter w
  | events =>
    cases hbatch : readBatch j with
    | error e =>
      left
      refine ⟨.inl ⟨e, hbatch⟩, ?_⟩
      simp [answer, handleEvents, hbatch, Response.failure, Response.json]
    | ok batch =>
      cases hroute : route batch with
      | error e =>
        left
        refine ⟨.inr ⟨batch, hbatch, route_eq_error_iff.1 ⟨e, hroute⟩⟩, ?_⟩
        simp [answer, handleEvents, hbatch, process, hroute, processFailure,
          ProcessError.isClientError, Response.failure, Response.json]
      | ok plan =>
        right
        constructor
        · rintro (⟨e, he⟩ | ⟨batch', hbatch', hunsupported⟩)
          · rw [hbatch] at he
            cases he
          · rw [hbatch] at hbatch'
            cases hbatch'
            obtain ⟨e, he⟩ := route_eq_error_iff.2 hunsupported
            rw [hroute] at he
            cases he
        · exact leads_handleEvents s hbatch hroute w

/-! ### Requests -/

section

variable {r : Request}

/-- A request is not let through, or its body is refused, or it is handled by calls that end as the
status says. -/
theorem handleBody_cases (handler : Handler) (hlength : r.body.length ≤ maxBody) (s : Service)
    (w : World σ) :
  (authorized s.secret r = false ∧ (handleBody s r w (handler.answer s)).1.status = 401
      ∧ (handleBody s r w (handler.answer s)).2 = w)
    ∨ (authorized s.secret r = true ∧ handler.RefusesBody r.body
      ∧ (handleBody s r w (handler.answer s)).1.status = 400
      ∧ (handleBody s r w (handler.answer s)).2 = w)
    ∨ (authorized s.secret r = true ∧ ¬handler.RefusesBody r.body
      ∧ ∃ cs reply, Leads s.engine w cs reply (handleBody s r w (handler.answer s)).2
        ∧ (handleBody s r w (handler.answer s)).1.status = statusOf reply)
  := by
  rw [handleBody, if_neg (Nat.not_lt.2 hlength)]
  cases hauthorized : authorized s.secret r with
  | false => exact .inl ⟨rfl, rfl, rfl⟩
  | true =>
    right
    cases hvalue : bodyValue? r.body with
    | none => exact .inl ⟨rfl, .inl hvalue, rfl, rfl⟩
    | some j =>
      rcases handler.answer_cases s j w with ⟨hrefuses, hstatus, hw⟩ | ⟨haccepts, hcalls⟩
      · exact .inl ⟨rfl, .inr ⟨j, hvalue, hrefuses⟩, hstatus, hw⟩
      · refine .inr ⟨rfl, ?_, hcalls⟩
        rintro (hnone | ⟨j', hj', hrefuses⟩)
        · rw [hvalue] at hnone
          cases hnone
        · rw [hvalue] at hj'
          cases hj'
          exact haccepts hrefuses

theorem store_handleBody_search (s : Service) (r : Request) (w : World σ)
    (scope : Option (List String)) :
  (handleBody s r w (Handler.answer s (.search scope))).2.store = w.store
  := by
  rw [handleBody]
  split
  · rfl
  · split
    · split
      · rfl
      · apply store_handleSearch
    · rfl

/-- The response and the new world are what a request to a handler should come to, and the new world
has come about by the given calls. -/
structure IsOutcome (s : Service) (handler : Handler) (r : Request) (w : World σ) (made : List Call)
    (response : Response) (w' : World σ) : Prop where
  calls : w'.calls = w.calls ++ made
  store : w'.store = (w.moment.after made).store
  unauthorized : response.status = 401 ↔ authorized s.secret r = false
  refused : response.status = 400 ↔ authorized s.secret r = true ∧ handler.RefusesBody r.body
  failed : response.status = 500 ↔ authorized s.secret r = true ∧ ¬handler.RefusesBody r.body
    ∧ (.failed ∈ replies s.engine w.moment made ∨ .unanswered ∈ replies s.engine w.moment made)
  succeeded : response.status = 200 ↔ authorized s.secret r = true ∧ ¬handler.RefusesBody r.body
    ∧ ∀ reply ∈ replies s.engine w.moment made, reply = .answered
  unchanged : response.status = 400 ∨ response.status = 401 → w' = w
  search : ∀ scope, handler = .search scope → w'.store = w.store

/-- The outcome of every request that reaches a handler. -/
theorem outcome_respond {handler : Handler} (hreaches : r.Reaches handler) (s : Service)
    (w : World σ) :
  ∃ made, IsOutcome s handler r w made (respond s r w).1 (respond s r w).2
  := by
  cases hrespond : respond s r w with
  | mk response w' =>
    obtain ⟨hstatus, hw⟩ := respond_of_reaches hreaches s w
    have hsearch : ∀ scope, handler = .search scope → w'.store = w.store := by
      rintro scope rfl
      rw [← store_handleBody_search s r w scope, ← hw, hrespond]
    have hcases := handleBody_cases handler hreaches.length_body_le s w
    rw [← hstatus, ← hw, hrespond] at hcases
    dsimp only at hcases
    rcases hcases with ⟨hauthorized, h, rfl⟩ | ⟨hauthorized, hrefuses, h, rfl⟩
        | ⟨hauthorized, haccepts, made, reply, hmade, h⟩
    · use []
      constructor
      all_goals simp [h, hauthorized, Moment.after, World.moment]
    · use []
      constructor
      all_goals simp [h, hauthorized, hrefuses, Moment.after, World.moment]
    · have hfailed := hmade.mem_replies_iff (r := .failed) (by simp)
      have hunanswered := hmade.mem_replies_iff (r := .unanswered) (by simp)
      use made
      constructor
      case calls => exact hmade.calls
      case store => exact congrArg Moment.store hmade.moment
      case search => exact hsearch
      all_goals
        simp only [h, hauthorized, haccepts, hfailed, hunanswered, hmade.forall_answered_iff]
        cases reply
        all_goals simp [statusOf]

/-- A file is created, and the store fails to store it. -/
theorem outcome_respond_out_of_order :
  let s : Service := ⟨some "s3cret", fun _ _ => some (.ok []), .strokes, fun _ => ""⟩
  let r : Request :=
    ⟨"POST", "http://index/events?x=1#top", [("Authorization", Utf8.encode "Bearer s3cret")],
      Utf8.encode ("[\x7b\"event_name\": \"OBJECT_CREATED\", "
        ++ "\"bucket\": \"b\", \"key\": \"p.jpg\"\x7d]")⟩
  let w : World (Faulty Memory) := .ofStore ⟨Memory.empty, [.upsert]⟩
  r.Reaches .events ∧ (respond s r w).1.status = 500
    ∧ ∃ made, IsOutcome s .events r w made (respond s r w).1 (respond s r w).2
  := by
  intro s r w
  have hpath : (splitTarget r.target).1 = "/events" := by decide +kernel
  have hlength : r.body.length ≤ maxBody := by decide +kernel
  have hreaches : r.Reaches .events := ⟨rfl, hpath, hlength⟩
  have hstatus : (respond s r w).1.status = 500 := by decide +kernel
  exact ⟨hreaches, hstatus, outcome_respond hreaches s w⟩

end

end ScanIndex.Http
