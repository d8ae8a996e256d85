import ScanIndex.Proofs.Outcome
import ScanIndex.Proofs.Store.Relational

/-!
# Interchangeable stores

A `StoreCall` is one use of a store.  A lawful store answers a call like the list in memory that it
keeps (`run_eq_of_keeps`), and so it answers a sequence of calls (`answers_eq_of_keeps`), as long as
no call fails.  Only the signs of zeros may be lost in an answer.
-/

namespace ScanIndex

/-- A use of a store. -/
inductive StoreCall where
  | setup
  | upsert (ds : List Document)
  | delete (ids : List String)
  | deleteWhere (q : Query)
  | documents (q : Query)
  | keys (q : Query)
  | count

/-- What a store returns. -/
inductive StoreAnswer where
  /-- Nothing is returned but that the store is done. -/
  | done
  | documents (ds : List Document)
  | keys (ids : List String)
  | count (n : Nat)
deriving DecidableEq

/-- The answer, without the signs of zeros. -/
def StoreAnswer.plain : StoreAnswer → StoreAnswer
  | done => done
  | documents ds => documents (ds.map Document.plain)
  | keys ids => keys ids
  | count n => count n

/-- The answers, without the signs of zeros. -/
def plainAnswers (as : List (Except StoreError StoreAnswer)) :
    List (Except StoreError StoreAnswer) :=
  as.map fun a => a.map StoreAnswer.plain

section Runs

variable {σ : Type} [DocumentStore σ]

/-- The answer of a store to a call, and the store afterwards. -/
def StoreCall.run : StoreCall → σ → Except StoreError StoreAnswer × σ
  | setup, s => ((DocumentStore.setup s).1.map fun _ => .done, (DocumentStore.setup s).2)
  | upsert ds, s =>
    ((DocumentStore.upsert ds s).1.map fun _ => .done, (DocumentStore.upsert ds s).2)
  | delete ids, s =>
    ((DocumentStore.delete ids s).1.map fun _ => .done, (DocumentStore.delete ids s).2)
  | deleteWhere q, s =>
    ((DocumentStore.deleteWhere q s).1.map fun _ => .done, (DocumentStore.deleteWhere q s).2)
  | documents q, s => ((DocumentStore.documents q s).map .documents, s)
  | keys q, s => ((DocumentStore.keys q s).map .keys, s)
  | count, s => ((DocumentStore.count s).map .count, s)

/-- The answers of a store to calls, one after the other. -/
def answers : List StoreCall → σ → List (Except StoreError StoreAnswer)
  | [], _ => []
  | c :: cs, s => (c.run s).1 :: answers cs (c.run s).2

end Runs

theorem plainAnswers_cons (a : Except StoreError StoreAnswer)
    (as : List (Except StoreError StoreAnswer)) :
  plainAnswers (a :: as) = a.map StoreAnswer.plain :: plainAnswers as
  := List.map_cons

section

variable {σ : Type} [DocumentStore σ] [LawfulStore σ]

/-- A call that does not fail is answered as in memory, up to the signs of zeros, and the store goes
on keeping the same documents. -/
theorem run_eq_of_keeps {s : σ} {m : Memory} (h : Keeps s m) {c : StoreCall} {a : StoreAnswer}
    (hok : (c.run s).1 = .ok a) :
  (c.run m).1.map StoreAnswer.plain = .ok a.plain ∧ Keeps (c.run s).2 (c.run m).2
  := by
  cases c with
  | setup =>
    obtain ⟨⟨⟩, hr, rfl⟩ := eq_ok_of_map_eq_ok hok
    exact ⟨rfl, LawfulStore.setup h (Prod.ext hr rfl)⟩
  | upsert ds =>
    obtain ⟨⟨⟩, hr, rfl⟩ := eq_ok_of_map_eq_ok hok
    exact ⟨rfl, LawfulStore.upsert h (Prod.ext hr rfl)⟩
  | delete ids =>
    obtain ⟨⟨⟩, hr, rfl⟩ := eq_ok_of_map_eq_ok hok
    exact ⟨rfl, LawfulStore.delete h (Prod.ext hr rfl)⟩
  | deleteWhere q =>
    obtain ⟨⟨⟩, hr, rfl⟩ := eq_ok_of_map_eq_ok hok
    exact ⟨rfl, LawfulStore.deleteWhere h (Prod.ext hr rfl)⟩
  | documents q =>
    obtain ⟨ds, hr, rfl⟩ := eq_ok_of_map_eq_ok hok
    rw [StoreAnswer.plain, LawfulStore.documents h hr]
    exact ⟨rfl, h⟩
  | keys q =>
    obtain ⟨ids, hr, rfl⟩ := eq_ok_of_map_eq_ok hok
    rw [LawfulStore.keys h hr]
    exact ⟨rfl, h⟩
  | count =>
    obtain ⟨n, hr, rfl⟩ := eq_ok_of_map_eq_ok hok
    rw [LawfulStore.count h hr]
    exact ⟨rfl, h⟩

/-- As long as no call fails, calls are answered as in memory, up to the signs of zeros. -/
theorem answers_eq_of_keeps {s : σ} {m : Memory} (h : Keeps s m) (cs : List StoreCall) (n : Nat)
    (hok : ∀ a ∈ (answers cs s).take n, a.isOk = true) :
  plainAnswers ((answers cs s).take n) = plainAnswers ((answers cs m).take n)
  := by
  induction cs generalizing s m n with
  | nil => rfl
  | cons c cs ih =>
    cases n with
    | zero => rfl
    | succ n =>
      rw [answers, List.take_succ_cons, List.forall_mem_cons] at hok
      rw [answers, answers, List.take_succ_cons, List.take_succ_cons, plainAnswers_cons,
        plainAnswers_cons]
      cases ha : (c.run s).1 with
      | error e =>
        rw [ha] at hok
        cases hok.1
      | ok a =>
        obtain ⟨hm, hkeeps⟩ := run_eq_of_keeps h ha
        rw [hm, ih hkeeps n hok.2]
        rfl

end

/-- As long as no call of the store in tables fails, it answers like the store in memory, up to the
signs of zeros. -/
theorem Relational.answers_eq_memory (cs : List StoreCall) (n : Nat)
    (hok : ∀ a ∈ (answers cs Relational.empty).take n, a.isOk = true) :
  plainAnswers ((answers cs Relational.empty).take n)
    = plainAnswers ((answers cs Memory.empty).take n)
  := answers_eq_of_keeps Relational.represents_empty cs n hok

/-- The pages of a file are replaced, by some with a negative zero, the document is found under its
first identifier, and removed. -/
theorem Relational.answers_eq_memory_replaced :
  ∃ cs : List StoreCall,
    cs = [.setup, .upsert [⟨"d", "b", "p.jpg", [⟨"p", 1, []⟩]⟩,
        ⟨"e", "b", "p.jpg",
          [⟨"q", 2, [⟨"l", "total", ⟨"c", ⟨⟨-0, 0⟩, ⟨1, 0⟩, ⟨-0, 1⟩, ⟨1, 1⟩⟩⟩⟩]⟩]⟩],
      .documents (.ofFiles "b" ["p.jpg"]), .delete ["d", "d"], .keys .everything, .count]
      ∧ (∀ a ∈ (answers cs Relational.empty).take 6, a.isOk = true)
      ∧ plainAnswers ((answers cs Relational.empty).take 6)
        = plainAnswers ((answers cs Memory.empty).take 6)
  := by
  refine ⟨_, rfl, ?_, ?_⟩
  · decide +kernel
  · apply Relational.answers_eq_memory _ 6 (by decide +kernel)

end ScanIndex
