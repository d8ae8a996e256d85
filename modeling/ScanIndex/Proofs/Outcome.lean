import Mathlib.Data.List.Forall2

/-!
# Outcomes that may be errors

How an outcome of a composed computation comes about from the outcomes of its parts.
-/

namespace ScanIndex

variable {α β ε : Type}

theorem eq_ok_of_map_eq_ok {r : Except ε α} {f : α → β} {y : β} (h : f <$> r = .ok y) :
  ∃ x, r = .ok x ∧ f x = y
  := by
  cases r with
  | error e => cases h
  | ok x =>
    cases h
    exact ⟨x, rfl, rfl⟩

theorem map_eq_error_iff {r : Except ε α} {f : α → β} {e : ε} :
  f <$> r = .error e ↔ r = .error e
  := by
  cases r <;> simp [Functor.map, Except.map]

theorem eq_ok_of_bind_eq_ok {r : Except ε α} {f : α → Except ε β} {y : β} (h : r >>= f = .ok y) :
  ∃ x, r = .ok x ∧ f x = .ok y
  := by
  cases r with
  | error e => cases h
  | ok x => exact ⟨x, rfl, h⟩

theorem eq_error_of_bind_eq_error {r : Except ε α} {f : α → Except ε β} {e : ε}
    (h : r >>= f = .error e) :
  r = .error e ∨ ∃ x, r = .ok x ∧ f x = .error e
  := by
  cases r with
  | error e' =>
    cases h
    exact .inl rfl
  | ok x => exact .inr ⟨x, rfl, h⟩

theorem mapM_eq_ok_iff {f : α → Except ε β} {xs : List α} {ys : List β} :
  xs.mapM f = .ok ys ↔ List.Forall₂ (fun x y => f x = .ok y) xs ys
  := by
  induction xs generalizing ys with
  | nil => simp [pure, Except.pure, eq_comm]
  | cons x xs ih =>
    rw [List.mapM_cons, List.forall₂_cons_left_iff]
    constructor
    · intro h
      obtain ⟨y, hy, h⟩ := eq_ok_of_bind_eq_ok h
      obtain ⟨zs, hzs, h⟩ := eq_ok_of_bind_eq_ok h
      cases h
      exact ⟨y, zs, hy, ih.1 hzs, rfl⟩
    · rintro ⟨y, zs, hy, hzs, rfl⟩
      rw [hy, ih.2 hzs]
      rfl

theorem exists_mem_of_mapM_eq_ok {f : α → Except ε β} {xs : List α} {ys : List β}
    (h : xs.mapM f = .ok ys) {x : α} (hx : x ∈ xs) :
  ∃ y ∈ ys, f x = .ok y
  := by
  rw [mapM_eq_ok_iff] at h
  induction h with
  | nil => cases hx
  | cons hy _ ih =>
    rcases List.mem_cons.1 hx with rfl | hx
    · exact ⟨_, List.mem_cons_self, hy⟩
    · obtain ⟨y, hmem, hxy⟩ := ih hx
      exact ⟨y, List.mem_cons_of_mem _ hmem, hxy⟩

/-- A list of computations fails as the first of them that does. -/
theorem mapM_eq_error_iff {f : α → Except ε β} {xs : List α} {e : ε} :
  xs.mapM f = .error e
    ↔ ∃ before x after, xs = before ++ x :: after ∧ (∀ y ∈ before, ∃ z, f y = .ok z)
      ∧ f x = .error e
  := by
  induction xs with
  | nil =>
    refine iff_of_false (by rintro ⟨⟩) ?_
    rintro ⟨_ | _, _, _, h, -⟩ <;> cases h
  | cons x xs ih =>
    rw [List.mapM_cons]
    constructor
    · intro h
      rcases eq_error_of_bind_eq_error h with hx | ⟨y, hy, h⟩
      · exact ⟨[], x, xs, rfl, by simp, hx⟩
      · rcases eq_error_of_bind_eq_error h with hxs | ⟨ys, -, h⟩
        · obtain ⟨before, z, after, rfl, hbefore, hz⟩ := ih.1 hxs
          exact ⟨x :: before, z, after, rfl, List.forall_mem_cons.2 ⟨⟨y, hy⟩, hbefore⟩, hz⟩
        · cases h
    · rintro ⟨_ | ⟨y, before⟩, z, after, h, hbefore, hz⟩
      · cases h
        rw [hz]
        rfl
      · cases h
        rw [List.forall_mem_cons] at hbefore
        obtain ⟨⟨w, hw⟩, hbefore⟩ := hbefore
        rw [hw, ih.2 ⟨before, z, after, rfl, hbefore, hz⟩]
        rfl

/-- Computations that fail alike either both give a value or neither does. -/
theorem exists_eq_ok_iff_of_eq_error_iff {r : Except ε α} {s : Except ε β}
    (h : ∀ e, r = .error e ↔ s = .error e) :
  (∃ x, r = .ok x) ↔ ∃ y, s = .ok y
  := by
  cases r with
  | error e => simp [(h e).1 rfl]
  | ok x =>
    cases s with
    | error e => simpa using h e
    | ok y => simp

/-- An outcome can be told to be a value without looking at errors. -/
theorem eq_ok_of_mapError_eq_ok {r : Option (Except ε α)} {f : ε → β} {x : α}
    (h : r.map (Except.mapError f) = some (.ok x)) :
  r = some (.ok x)
  := by
  rcases r with _ | (e | y)
  · cases h
  · cases h
  · cases h
    rfl

theorem exists_eq_error_of_mapError_eq_error {r : Option (Except ε α)} {f : ε → β} {y : β}
    (h : r.map (Except.mapError f) = some (.error y)) :
  ∃ e, r = some (.error e) ∧ f e = y
  := by
  rcases r with _ | (e | x)
  · cases h
  · cases h
    exact ⟨e, rfl, rfl⟩
  · cases h

end ScanIndex
