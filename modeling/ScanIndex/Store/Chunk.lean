/-!
# Lists in chunks

`chunks n xs` cuts a list into pieces of `n` items, of which the last may be shorter.
-/

namespace ScanIndex

/-- The pieces of `n` items of a list; single items if `n` is zero. -/
def chunks {α : Type} (n : Nat) : List α → List (List α)
  | [] => []
  | x :: xs => (x :: xs.take (n - 1)) :: chunks n (xs.drop (n - 1))
termination_by xs => xs.length
decreasing_by
  simp only [List.length_drop, List.length_cons]
  omega

/-- The pieces of a list make up the list. -/
theorem flatten_chunks {α : Type} (n : Nat) (xs : List α) :
  (chunks n xs).flatten = xs
  := by
  fun_induction chunks n xs with
  | case1 => rfl
  | case2 x xs ih => rw [List.flatten_cons, ih, List.cons_append, List.take_append_drop]

/-- No piece is longer than `n` items, if `n` is positive. -/
theorem length_le_of_mem_chunks {α : Type} {n : Nat} (hn : 0 < n) {xs ys : List α}
    (h : ys ∈ chunks n xs) :
  ys.length ≤ n
  := by
  fun_induction chunks n xs with
  | case1 => cases h
  | case2 x xs ih =>
    rcases List.mem_cons.1 h with rfl | h
    · simp only [List.length_cons, List.length_take]
      omega
    · exact ih h

end ScanIndex
