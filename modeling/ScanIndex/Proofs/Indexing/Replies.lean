import ScanIndex.Proofs.Indexing.Stages

/-!
# The replies to calls

The log of a world says which calls were made, and `replies` how each of them ended.  Work on a
batch that is not refused is done if all its calls are answered, fails if the last one fails, and
goes without an outcome if the last one goes unanswered (`leads_carryOut`).
-/

namespace ScanIndex

/-- How a call ends. -/
inductive Reply where
  | answered
  | failed
  | unanswered
deriving DecidableEq

/-- How something ends that has the given outcome, if it has one. -/
def Reply.of {ε α : Type} : Option (Except ε α) → Reply
  | some (.ok _) => answered
  | some (.error _) => failed
  | none => unanswered

@[simp] theorem Reply.of_map {ε α β : Type} (f : α → β) (r : Except ε α) :
  Reply.of (some (r.map f)) = Reply.of (some r)
  := by
  cases r <;> rfl

@[simp] theorem Reply.of_mapError {ε ε' α : Type} (f : ε → ε') (r : Except ε α) :
  Reply.of (some (r.mapError f)) = Reply.of (some r)
  := by
  cases r <;> rfl

/-- All that the reply to a call depends on: the number of the calls to the engine so far, and the
store. -/
structure Moment (σ : Type) where
  detected : Nat
  store : σ

variable {σ : Type}

/-- The moment of a world. -/
def World.moment (w : World σ) : Moment σ := ⟨w.detected.length, w.store⟩

variable [DocumentStore σ]

/-- How a call ends that is made at a moment. -/
def Call.reply (engine : Engine) (m : Moment σ) : Call → Reply
  | detect f => .of (engine m.detected f)
  | upsert ds => .of (some (DocumentStore.upsert ds m.store).1)
  | delete ids => .of (some (DocumentStore.delete ids m.store).1)
  | keys q => .of (some (DocumentStore.keys q m.store))
  | documents q => .of (some (DocumentStore.documents q m.store))

/-- The moment after a call. -/
def Moment.next (m : Moment σ) : Call → Moment σ
  | .detect _ => { m with detected := m.detected + 1 }
  | .upsert ds => { m with store := (DocumentStore.upsert ds m.store).2 }
  | .delete ids => { m with store := (DocumentStore.delete ids m.store).2 }
  | .keys _ => m
  | .documents _ => m

/-- The moment after calls that are made one after the other. -/
def Moment.after (m : Moment σ) (cs : List Call) : Moment σ := cs.foldl next m

/-- How calls end that are made one after the other. -/
def replies (engine : Engine) : Moment σ → List Call → List Reply
  | _, [] => []
  | m, c :: cs => c.reply engine m :: replies engine (m.next c) cs

theorem replies_append (engine : Engine) (m : Moment σ) (cs cs' : List Call) :
  replies engine m (cs ++ cs') = replies engine m cs ++ replies engine (m.after cs) cs'
  := by
  induction cs generalizing m with
  | nil => rfl
  | cons c cs ih =>
    rw [List.cons_append, replies, ih, replies, List.cons_append]
    rfl

/-- Calls lead from one world to another.  They are all answered, or else one of them ends with the
given reply and the others are answered. -/
structure Leads (engine : Engine) (w : World σ) (cs : List Call) (reply : Reply) (w' : World σ) :
    Prop where
  calls : w'.calls = w.calls ++ cs
  moment : w'.moment = w.moment.after cs
  only : ∀ r ∈ replies engine w.moment cs, r = .answered ∨ r = reply
  given : reply = .answered ∨ reply ∈ replies engine w.moment cs

namespace Leads

variable {engine : Engine} {w v w' : World σ} {cs cs' : List Call} {reply : Reply}

theorem refl (engine : Engine) (w : World σ) :
  Leads engine w [] .answered w
  := ⟨by simp, rfl, by simp [replies], .inl rfl⟩

theorem single {c : Call} (hcalls : w'.calls = w.calls ++ [c])
    (hmoment : w'.moment = w.moment.next c) :
  Leads engine w [c] (c.reply engine w.moment) w'
  := ⟨hcalls, hmoment, by simp [replies], by simp [replies]⟩

/-- What is called after calls that are all answered decides how the whole ends. -/
theorem trans (h : Leads engine w cs .answered v) (h' : Leads engine v cs' reply w') :
  Leads engine w (cs ++ cs') reply w'
  := by
  have hreplies : replies engine w.moment (cs ++ cs')
      = replies engine w.moment cs ++ replies engine v.moment cs' := by
    rw [replies_append, h.moment]
  constructor
  · rw [h'.calls, h.calls, List.append_assoc]
  · rw [h'.moment, h.moment, Moment.after, Moment.after, Moment.after, List.foldl_append]
  · intro r hr
    rw [hreplies, List.mem_append] at hr
    rcases hr with hr | hr
    · rcases h.only r hr with hr | hr
      all_goals exact .inl hr
    · exact h'.only r hr
  · rw [hreplies, List.mem_append]
    rcases h'.given with hreply | hreply
    · exact .inl hreply
    · exact .inr (.inr hreply)

theorem mem_replies_iff (h : Leads engine w cs reply w') {r : Reply} (hr : r ≠ .answered) :
  r ∈ replies engine w.moment cs ↔ r = reply
  := by
  constructor
  · intro hmem
    exact (h.only r hmem).resolve_left hr
  · rintro rfl
    exact h.given.resolve_left hr

theorem forall_answered_iff (h : Leads engine w cs reply w') :
  (∀ r ∈ replies engine w.moment cs, r = .answered) ↔ reply = .answered
  := by
  constructor
  · intro hall
    rcases h.given with hreply | hreply
    · exact hreply
    · exact hall reply hreply
  · rintro rfl r hr
    rcases h.only r hr with hr | hr
    all_goals exact hr

end Leads

/-! ### Single calls -/

section

variable (engine : Engine) (w : World σ)

theorem leads_detect (f : File) (n : Nat) :
  Leads engine w [.detect f] (.of (engine w.detected.length f))
    { w.log (.detect f) with drawn := n }
  := by
  apply Leads.single rfl
  change Moment.mk (w.log (.detect f)).detected.length w.store = _
  rw [World.detected_log_detect, List.length_append]
  rfl

theorem leads_keys (q : Query) :
  Leads engine w [.keys q] (.of (some (w.keys q).1)) (w.keys q).2
  := by
  apply Leads.single rfl
  simp [World.moment, World.keys, World.detected, World.log, Moment.next]

theorem leads_documents (q : Query) :
  Leads engine w [.documents q] (.of (some (w.documents q).1)) (w.documents q).2
  := by
  apply Leads.single rfl
  simp [World.moment, World.documents, World.detected, World.log, Moment.next]

end

/-! ### Stages -/

variable {engine : Engine} {ids : Supply} {w w' : World σ}

/-- Files are recognised by calls to the engine. -/
theorem leads_recognise {fs : List File} {r : Attempt (List Document)}
    (h : recognise engine ids fs w = (r, w')) :
  ∃ cs, Leads engine w cs (.of r) w'
  := by
  induction fs generalizing w r w' with
  | nil =>
    cases h
    exact ⟨[], .refl engine w⟩
  | cons f fs ih =>
    have hcall := leads_detect engine w f
    rw [recognise] at h
    rcases hanswer : engine w.detected.length f with _ | (e | blocks)
    all_goals
      rw [hanswer] at hcall
      simp only [hanswer] at h
    · cases h
      exact ⟨_, hcall w.drawn⟩
    · cases h
      exact ⟨_, hcall w.drawn⟩
    · have hcall := hcall (Document.ofBlocks ids w.drawn f blocks).2
      cases hrest : recognise engine ids fs
          { w.log (.detect f) with drawn := (Document.ofBlocks ids w.drawn f blocks).2 } with
      | mk s v =>
        obtain ⟨cs, hcs⟩ := ih hrest
        rw [World.log] at hrest
        simp only [World.log, hrest] at h
        rcases s with _ | (e | ds)
        all_goals
          cases h
          exact ⟨_, hcall.trans hcs⟩

theorem leads_resolve (engine : Engine) {qs : List (String × Query)}
    {r : Except ProcessError (List String)} (h : resolve qs w = (r, w')) :
  ∃ cs, Leads engine w cs (.of (some r)) w'
  := by
  induction qs generalizing w r w' with
  | nil =>
    cases h
    exact ⟨[], .refl engine w⟩
  | cons q qs ih =>
    obtain ⟨bucket, q⟩ := q
    have hcall := leads_keys engine w q
    cases hkeys : w.keys q with
    | mk p v =>
      rw [hkeys] at hcall
      rw [resolve, hkeys] at h
      cases p with
      | error e =>
        cases h
        exact ⟨_, hcall⟩
      | ok first =>
        cases hrest : resolve qs v with
        | mk s u =>
          obtain ⟨cs, hcs⟩ := ih hrest
          simp only [hrest] at h
          cases s
          all_goals
            cases h
            exact ⟨_, hcall.trans hcs⟩

/-- A write is done by one call, or without a call if there is nothing to write. -/
theorem leads_write (engine : Engine) {α : Type} {p : Write σ α} {xs : List α}
    {r : Except StoreError Unit}
    (hreply : (p.call xs).reply engine w.moment = .of (some (p.run xs w.store).1))
    (hnext : w.moment.next (p.call xs) = { w.moment with store := (p.run xs w.store).2 })
    (h : w.write p xs = (r, w')) :
  ∃ cs, Leads engine w cs (.of (some r)) w'
  := by
  rcases World.write_cases h with ⟨-, rfl, rfl⟩ | ⟨-, hs, -, hdetected, hcalls⟩
  · exact ⟨[], .refl engine w'⟩
  · rw [hs] at hreply hnext
    rw [← hreply]
    refine ⟨_, .single hcalls ?_⟩
    rw [hnext, World.moment, hdetected]
    rfl

theorem leads_commit (engine : Engine) {ds : List Document} {doomed : List String}
    {r : Except ProcessError Unit} (h : commit ds doomed w = (r, w')) :
  ∃ cs, Leads engine w cs (.of (some r)) w'
  := by
  rcases commit_cases h with ⟨e, hstored, rfl⟩ | ⟨v, q, hstored, hremoved, rfl⟩
  · exact leads_write engine rfl rfl hstored
  · obtain ⟨cs, hcs⟩ := leads_write engine rfl rfl hstored
    obtain ⟨cs', hcs'⟩ := leads_write engine rfl rfl hremoved
    rw [Reply.of_mapError]
    exact ⟨_, hcs.trans hcs'⟩

theorem leads_apply (engine : Engine) {ds : List Document} {plan : Plan}
    {r : Except ProcessError Report} (h : apply ds plan w = (r, w')) :
  ∃ cs, Leads engine w cs (.of (some r)) w'
  := by
  rcases apply_cases h with ⟨e, hresolve, rfl⟩ | ⟨found, v, q, hresolve, hcommit, rfl⟩
  · exact leads_resolve engine hresolve
  · obtain ⟨cs, hcs⟩ := leads_resolve engine hresolve
    obtain ⟨cs', hcs'⟩ := leads_commit engine hcommit
    rw [Reply.of_map]
    exact ⟨_, hcs.trans hcs'⟩

/-- A plan is carried out by calls that end as its outcome says. -/
theorem leads_carryOut {plan : Plan} {r : Attempt Report}
    (h : carryOut engine ids plan w = (r, w')) :
  ∃ cs, Leads engine w cs (.of r) w'
  := by
  rw [carryOut] at h
  cases hrecognise : recognise engine ids plan.upserts w with
  | mk s v =>
    obtain ⟨cs, hcs⟩ := leads_recognise hrecognise
    rw [hrecognise] at h
    rcases s with _ | (e | ds)
    · cases h
      exact ⟨cs, hcs⟩
    · cases h
      exact ⟨cs, hcs⟩
    · cases happly : apply ds plan v with
      | mk t u =>
        obtain ⟨cs', hcs'⟩ := leads_apply engine happly
        simp only [happly] at h
        cases h
        exact ⟨_, hcs.trans hcs'⟩

end ScanIndex
