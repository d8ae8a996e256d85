import ScanIndex.Proofs.Store.Refusal
import ScanIndex.Store.Faulty

/-!
# Stores that fail

`StopsInOrder σ` says of a store what is left when it fails to store or to remove documents: the
state that its method leaves when it gets through the first ones, in their order.  This holds for
documents in memory and in tables, in every state, and stays true when methods are out of order
(`Faulty`) or give way in the middle of a call (`Interrupted`).  `FailsInOrder σ` says the same of
the documents that are kept.
-/

namespace ScanIndex

/-- The method works off its items in order: when it fails, it has got through the ones before some
place, and has left the others alone. -/
def WorksInOrder {σ α : Type} (f : List α → σ → Except StoreError Unit × σ) : Prop :=
  ∀ (xs : List α) (s s' : σ) (e : StoreError), f xs s = (.error e, s') →
    ∃ n, GetsThrough f (xs.take n) s s'

/-- A store that stores documents in order, and removes them in the order of their identifiers. -/
class StopsInOrder (σ : Type) [DocumentStore σ] : Prop where
  upsert : WorksInOrder (DocumentStore.upsert (σ := σ))
  delete : WorksInOrder (DocumentStore.delete (σ := σ))

/-- A store that goes on keeping documents when it fails to store or to remove some. -/
class FailsInOrder (σ : Type) [DocumentStore σ] [LawfulStore σ] : Prop where
  /-- The documents before some place have been stored. -/
  upsert {s s' : σ} {m : Memory} {ds : List Document} {e : StoreError} :
    Keeps s m → DocumentStore.upsert ds s = (.error e, s') → ∃ n, Keeps s' (m.upsert (ds.take n))
  /-- The documents under the identifiers before some place have been removed. -/
  delete {s s' : σ} {m : Memory} {ids : List String} {e : StoreError} :
    Keeps s m → DocumentStore.delete ids s = (.error e, s') → ∃ n, Keeps s' (m.delete (ids.take n))

section

variable {σ : Type} {s : σ}

theorem getsThrough_take_zero {α : Type} {f : List α → σ → Except StoreError Unit × σ}
    {xs : List α} :
  GetsThrough f (xs.take 0) s s
  := .inr ⟨List.take_zero, rfl⟩

variable [DocumentStore σ] [LawfulStore σ]

instance [StopsInOrder σ] : FailsInOrder σ where
  upsert := by
    intro s s' m ds e h herror
    obtain ⟨n, hn⟩ := StopsInOrder.upsert ds s s' e herror
    use n
    apply hn.keeps_upsert h
  delete := by
    intro s s' m ids e h herror
    obtain ⟨n, hn⟩ := StopsInOrder.delete ids s s' e herror
    use n
    apply hn.keeps_delete h

end

/-- Documents in memory never fail. -/
instance : StopsInOrder Memory where
  upsert := by rintro ds s s' e ⟨⟩
  delete := by rintro ids s s' e ⟨⟩

namespace Relational

variable {s s' : Relational} {ds : List Document} {e : StoreError}

/-- Documents are stored in tables up to the first failure. -/
theorem exists_upsertAll_take {t u : Sql.Tables} (h : upsertAll ds t = (.error e, u)) :
  ∃ n, upsertAll (ds.take n) t = (.ok (), u)
  := by
  induction ds generalizing t with
  | nil => cases h
  | cons d ds ih =>
    rw [upsertAll] at h
    cases hd : upsertOne t d with
    | ok v =>
      rw [hd] at h
      obtain ⟨n, hn⟩ := ih h
      use n + 1
      rw [List.take_succ_cons, upsertAll, hd]
      exact hn
    | error x =>
      rw [hd] at h
      cases h
      use 0
      rfl

/-- Either the tables cannot be reached, or storing fails in the tables. -/
theorem upsert_eq_error (h : Relational.upsert ds s = (.error e, s')) :
  s' = s ∨ ∃ t u, s = ofTables t ∧ s' = ofTables u ∧ upsertAll ds t = (.error e, u)
  := by
  cases ds with
  | nil => cases h
  | cons d ds =>
    obtain ⟨tables, isOpen⟩ := s
    cases isOpen with
    | false =>
      cases h
      exact .inl rfl
    | true =>
      cases tables with
      | none =>
        cases h
        exact .inl rfl
      | some t =>
        change Relational.upsert (d :: ds) (ofTables t) = _ at h
        rw [upsert_ofTables, Prod.mk.injEq] at h
        obtain ⟨herror, rfl⟩ := h
        exact .inr ⟨t, _, rfl, rfl, Prod.ext herror rfl⟩

/-- Removing documents fails only if the tables cannot be reached. -/
theorem delete_eq_error {ids : List String} (h : Relational.delete ids s = (.error e, s')) :
  s' = s
  := by
  rw [Relational.delete] at h
  split at h
  next => cases h
  next =>
    cases h
    rfl
  next => cases h

instance : StopsInOrder Relational where
  upsert := by
    intro ds s s' e herror
    rcases upsert_eq_error herror with rfl | ⟨t, u, rfl, rfl, hall⟩
    · use 0
      apply getsThrough_take_zero
    · obtain ⟨n, hn⟩ := exists_upsertAll_take hall
      use n
      left
      apply (upsert_ofTables _ t).trans
      rw [hn]
  delete := by
    intro ids s s' e herror
    obtain rfl := delete_eq_error herror
    use 0
    apply getsThrough_take_zero

end Relational

/-! ### Methods out of order -/

namespace Faulty

variable {σ : Type} {s s' : Faulty σ} {method : StoreMethod} {e : StoreError}

/-- A method that is out of order fails and changes nothing, and any other one is run on
the store. -/
theorem change_cases {f : σ → Except StoreError Unit × σ} {r : Except StoreError Unit}
    (h : change method e f s = (r, s')) :
  (r = .error e ∧ s' = s)
    ∨ method ∉ s.broken ∧ f s.store = (r, s'.store) ∧ s' = { s with store := s'.store }
  := by
  rw [change] at h
  split at h
  next =>
    cases h
    exact .inl ⟨rfl, rfl⟩
  next hworks =>
    cases h
    exact .inr ⟨hworks, rfl, rfl⟩

theorem change_eq_ok {f : σ → Except StoreError Unit × σ} (h : change method e f s = (.ok (), s')) :
  f s.store = (.ok (), s'.store)
  := by
  rcases change_cases h with ⟨hr, -⟩ | ⟨-, hf, -⟩
  · cases hr
  · exact hf

theorem look_eq_ok {α : Type} {f : σ → Except StoreError α} {a : α}
    (h : look method e f s = .ok a) :
  f s.store = .ok a
  := by
  rw [look] at h
  split at h
  next => cases h
  next => exact h

section

variable [DocumentStore σ] [LawfulStore σ]

/-- The store with methods out of order keeps what the store keeps. -/
instance : LawfulStore (Faulty σ) where
  Keeps s m := Keeps s.store m
  setup h hok := LawfulStore.setup h (change_eq_ok hok)
  upsert h hok := LawfulStore.upsert h (change_eq_ok hok)
  delete h hok := LawfulStore.delete h (change_eq_ok hok)
  deleteWhere h hok := LawfulStore.deleteWhere h (change_eq_ok hok)
  documents h hok := LawfulStore.documents h (look_eq_ok hok)
  keys h hok := LawfulStore.keys h (look_eq_ok hok)
  count h hok := LawfulStore.count h (look_eq_ok hok)

end

theorem worksInOrder_change {α : Type} {f : List α → σ → Except StoreError Unit × σ}
    (hf : WorksInOrder f) :
  WorksInOrder fun xs => change method e (f xs)
  := by
  intro xs s s' x h
  rcases change_cases h with ⟨-, rfl⟩ | ⟨hworks, herror, hs⟩
  · use 0
    apply getsThrough_take_zero
  · obtain ⟨n, hn⟩ := hf _ _ _ _ herror
    use n
    rcases hn with hn | ⟨hn, hstore⟩
    · left
      simp only [change, if_neg hworks, hn]
      rw [← hs]
    · right
      rw [hs, hstore]
      exact ⟨hn, rfl⟩

instance [DocumentStore σ] [StopsInOrder σ] : StopsInOrder (Faulty σ) where
  upsert := worksInOrder_change StopsInOrder.upsert
  delete := worksInOrder_change StopsInOrder.delete

end Faulty

/-! ### Calls that give way -/

/-- A store that gives way in the middle of a call, after some documents are stored, or some chunks
of identifiers are worked off. -/
structure Interrupted (σ : Type) where
  store : σ
  /-- The number of documents that a call stores before it gives way, if it does. -/
  documents : Option Nat
  /-- The number of chunks of identifiers that a call works off before it gives way, if it does. -/
  chunks : Option Nat

namespace Interrupted

variable {σ : Type}

/-- The store that does not give way any more. -/
def mended (s : Interrupted σ) : Interrupted σ := ⟨s.store, none, none⟩

/-- Run a method on items up to a limit, and give way if there are more. -/
def upTo {α : Type} (limit : Option Nat) (f : List α → σ → Except StoreError Unit × σ) (xs : List α)
    (s : Interrupted σ) : Except StoreError Unit × Interrupted σ :=
  let n := limit.getD xs.length
  match f (xs.take n) s.store with
  | (.error e, store) => (.error e, { s with store := store })
  | (.ok (), store) =>
    (if xs.length ≤ n then .ok () else .error (.write .outOfOrder), { s with store := store })

/-- Run a method that changes the store. -/
def change (f : σ → Except StoreError Unit × σ) (s : Interrupted σ) :
    Except StoreError Unit × Interrupted σ :=
  let (r, store) := f s.store
  (r, { s with store := store })

instance [DocumentStore σ] : DocumentStore (Interrupted σ) where
  setup := change DocumentStore.setup
  upsert ds s := upTo s.documents DocumentStore.upsert ds s
  delete ids s := upTo (s.chunks.map fun n => n * Relational.deleteChunk) DocumentStore.delete ids s
  deleteWhere q := change (DocumentStore.deleteWhere q)
  documents q s := DocumentStore.documents q s.store
  keys q s := DocumentStore.keys q s.store
  count s := DocumentStore.count s.store

variable {s s' : Interrupted σ} {α : Type} {limit : Option Nat} {xs : List α}

theorem upTo_eq_ok {f : List α → σ → Except StoreError Unit × σ}
    (h : upTo limit f xs s = (.ok (), s')) :
  f xs s.store = (.ok (), s'.store)
  := by
  cases hf : f (xs.take (limit.getD xs.length)) s.store with
  | mk q store =>
    simp only [upTo, hf] at h
    cases q with
    | error e => cases h
    | ok u =>
      simp only at h
      split at h
      next hlength =>
        cases h
        rw [List.take_of_length_le hlength] at hf
        exact hf
      next => cases h

/-- A method that fails gets through the items up to a place, where it gives way, or fails among
them. -/
theorem upTo_eq_error {f : List α → σ → Except StoreError Unit × σ} {e : StoreError}
    (h : upTo limit f xs s = (.error e, s')) :
  s' = { s with store := s'.store } ∧ ∃ n, (∀ l ∈ limit, n ≤ l)
    ∧ (f (xs.take n) s.store = (.ok (), s'.store) ∨ f (xs.take n) s.store = (.error e, s'.store))
  := by
  cases hf : f (xs.take (limit.getD xs.length)) s.store with
  | mk q store =>
    have hlimit : ∀ l ∈ limit, limit.getD xs.length ≤ l := by
      rintro l rfl
      rfl
    simp only [upTo, hf] at h
    cases q with
    | error e =>
      cases h
      exact ⟨rfl, _, hlimit, .inr hf⟩
    | ok u =>
      simp only at h
      split at h
      next => cases h
      next =>
        cases h
        exact ⟨rfl, _, hlimit, .inl hf⟩

/-- A method does not give way if there are not too many items. -/
theorem getsThrough_upTo {f : List α → σ → Except StoreError Unit × σ}
    (hlimit : ∀ l ∈ limit, xs.length ≤ l) (hs : s' = { s with store := s'.store })
    (hf : GetsThrough f xs s.store s'.store) :
  GetsThrough (upTo limit f) xs s s'
  := by
  rcases hf with hf | ⟨rfl, hstore⟩
  · have hlength : xs.length ≤ limit.getD xs.length := by
      cases limit with
      | none => apply Nat.le_refl
      | some l => apply hlimit l rfl
    left
    simp only [upTo, List.take_of_length_le hlength, hf, if_pos hlength]
    rw [← hs]
  · right
    rw [hs, hstore]
    exact ⟨rfl, rfl⟩

/-- A method that works off items in order also does so if it gives way. -/
theorem worksInOrder_upTo {f : List α → σ → Except StoreError Unit × σ} (hf : WorksInOrder f)
    (limit : Interrupted σ → Option Nat) :
  WorksInOrder fun xs s => upTo (limit s) f xs s
  := by
  intro xs s s' e h
  obtain ⟨hs, n, hlimit, hn | hn⟩ := upTo_eq_error h
  · have hlength (l : Nat) (hl : l ∈ limit s) : (xs.take n).length ≤ l :=
      (List.length_take_le n xs).trans (hlimit l hl)
    use n
    apply getsThrough_upTo hlength hs (.inl hn)
  · obtain ⟨k, hk⟩ := hf _ _ _ _ hn
    rw [List.take_take] at hk
    have hlength (l : Nat) (hl : l ∈ limit s) : (xs.take (min k n)).length ≤ l :=
      (List.length_take_le _ xs).trans ((Nat.min_le_right k n).trans (hlimit l hl))
    use min k n
    apply getsThrough_upTo hlength hs hk

theorem change_eq {f : σ → Except StoreError Unit × σ} {r : Except StoreError Unit}
    (h : change f s = (r, s')) :
  f s.store = (r, s'.store)
  := by
  cases h
  rfl

section

variable [DocumentStore σ] [LawfulStore σ]

/-- The store that gives way keeps what the store keeps. -/
instance : LawfulStore (Interrupted σ) where
  Keeps s m := Keeps s.store m
  setup h hok := LawfulStore.setup h (change_eq hok)
  upsert h hok := LawfulStore.upsert h (upTo_eq_ok hok)
  delete h hok := LawfulStore.delete h (upTo_eq_ok hok)
  deleteWhere h hok := LawfulStore.deleteWhere h (change_eq hok)
  documents h hok := LawfulStore.documents (σ := σ) h hok
  keys h hok := LawfulStore.keys (σ := σ) h hok
  count h hok := LawfulStore.count (σ := σ) h hok

end

instance [DocumentStore σ] [StopsInOrder σ] : StopsInOrder (Interrupted σ) where
  upsert := worksInOrder_upTo StopsInOrder.upsert fun s => s.documents
  delete :=
    worksInOrder_upTo StopsInOrder.delete fun s => s.chunks.map fun n => n * Relational.deleteChunk

end Interrupted

end ScanIndex
