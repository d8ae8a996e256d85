import Mathlib.Data.List.TakeWhile
import ScanIndex.Text.Blank
import ScanIndex.Text.Pieces

/-!
# Texts without the blanks around them, and in pieces

Trimming takes the blanks off both ends of a text, and leaves the rest as it is (`trimmed_eq_iff`).
Texts that differ only in the blanks around them are trimmed to the same text
(`trimmed_append_append`).

A text is split into what stands between two separators or ends of the text (`mem_pieces_iff`).
-/

namespace ScanIndex

/-! ### Blanks around a text -/

/-- All characters are blank. -/
def AllBlank (cs : List Char) : Prop := ∀ c ∈ cs, isBlank c = true

/-- What is left of a text without the blanks at its ends: neither its first nor its last character
is blank. -/
structure IsTrimmed (cs ds : List Char) : Prop where
  within : ∃ l r, cs = l ++ ds ++ r ∧ AllBlank l ∧ AllBlank r
  first : ∀ c ∈ ds.head?, isBlank c = false
  last : ∀ c ∈ ds.getLast?, isBlank c = false

section

variable {l r cs ds : List Char}

theorem AllBlank.reverse (h : AllBlank l) :
  AllBlank l.reverse
  := by
  intro c hc
  apply h c (List.mem_reverse.1 hc)

theorem dropWhile_append_of_allBlank (h : AllBlank l) (cs : List Char) :
  (l ++ cs).dropWhile isBlank = cs.dropWhile isBlank
  := by
  rw [List.dropWhile_append, List.dropWhile_eq_nil_iff.2 h, List.isEmpty_nil, if_pos rfl]

/-- Blanks around a text do not count. -/
theorem trimmed_append_append (hl : AllBlank l) (hr : AllBlank r) (cs : List Char) :
  trimmed (l ++ cs ++ r) = trimmed cs
  := by
  rw [trimmed, List.append_assoc, dropWhile_append_of_allBlank hl, List.dropWhile_append]
  split
  next hcs =>
    rw [List.isEmpty_iff] at hcs
    rw [trimmed, hcs, List.dropWhile_eq_nil_iff.2 hr]
  next =>
    rw [List.reverse_append, dropWhile_append_of_allBlank hr.reverse, trimmed]

theorem allBlank_takeWhile (cs : List Char) :
  AllBlank (cs.takeWhile isBlank)
  := fun _ hc => List.mem_takeWhile_imp hc

/-- The text from its first character on that is not blank is the trimmed text with blanks behind
it. -/
theorem exists_dropWhile_eq_trimmed_append (cs : List Char) :
  ∃ r, cs.dropWhile isBlank = trimmed cs ++ r ∧ AllBlank r
  := by
  refine ⟨((cs.dropWhile isBlank).reverse.takeWhile isBlank).reverse, ?_,
    (allBlank_takeWhile _).reverse⟩
  rw [trimmed, ← List.reverse_append, List.takeWhile_append_dropWhile, List.reverse_reverse]

/-- What is trimmed has no blank at either end. -/
theorem isTrimmed_trimmed (cs : List Char) :
  IsTrimmed cs (trimmed cs)
  := by
  have hdrop (cs : List Char) : ∀ c ∈ (cs.dropWhile isBlank).head?, isBlank c = false := by
    intro c hc
    have hfirst := List.head?_dropWhile_not isBlank cs
    rw [Option.mem_def.1 hc] at hfirst
    exact hfirst
  obtain ⟨r, hcs, hr⟩ := exists_dropWhile_eq_trimmed_append cs
  refine ⟨⟨cs.takeWhile isBlank, r, ?_, allBlank_takeWhile cs, hr⟩, ?_, ?_⟩
  · rw [List.append_assoc, ← hcs, List.takeWhile_append_dropWhile]
  · intro c hc
    apply hdrop cs
    rw [hcs, List.head?_append, Option.mem_def.1 hc]
    rfl
  · intro c hc
    rw [trimmed, List.getLast?_reverse] at hc
    apply hdrop _ c hc

/-- A text whose first and last characters are not blank is not changed. -/
theorem trimmed_eq_self (hfirst : ∀ c ∈ cs.head?, isBlank c = false)
    (hlast : ∀ c ∈ cs.getLast?, isBlank c = false) :
  trimmed cs = cs
  := by
  have hdrop {ds : List Char} (hds : ∀ c ∈ ds.head?, isBlank c = false) :
      ds.dropWhile isBlank = ds := by
    cases ds with
    | nil => rfl
    | cons c ds => rw [List.dropWhile_cons_of_neg (Bool.eq_false_iff.1 (hds c rfl))]
  rw [trimmed, hdrop hfirst, hdrop, List.reverse_reverse]
  rwa [List.head?_reverse]

/-- The trimmed text is the one text without blanks at its ends that the text has between blanks. -/
theorem trimmed_eq_iff :
  trimmed cs = ds ↔ IsTrimmed cs ds
  := by
  constructor
  · rintro rfl
    apply isTrimmed_trimmed
  · rintro ⟨⟨l, r, rfl, hl, hr⟩, hfirst, hlast⟩
    rw [trimmed_append_append hl hr, trimmed_eq_self hfirst hlast]

end

/-! ### Pieces between separators -/

/-- A piece of a text without `c`, between two `c` or ends of the text. -/
structure IsPiece (c : Char) (cs p : List Char) : Prop where
  not_mem : c ∉ p
  between : ∃ before after, cs = before ++ p ++ after ∧ (before = [] ∨ ∃ b, before = b ++ [c])
    ∧ (after = [] ∨ ∃ a, after = c :: a)

section

variable {c : Char} {cs p : List Char}

theorem pieces_ne_nil (c : Char) (cs : List Char) :
  pieces c cs ≠ []
  := by
  fun_cases pieces c cs <;> simp

theorem pieces_of_not_mem (h : c ∉ cs) :
  pieces c cs = [cs]
  := by
  induction cs with
  | nil => rfl
  | cons x cs ih =>
    rw [List.mem_cons, not_or] at h
    rw [pieces, if_neg (Ne.symm h.1), ih h.2]

/-- The pieces before and behind a separator. -/
theorem pieces_append_cons (c : Char) (b a : List Char) :
  pieces c (b ++ c :: a) = pieces c b ++ pieces c a
  := by
  induction b with
  | nil =>
    change (if c = c then [] :: pieces c a else _) = _
    rw [if_pos rfl]
    rfl
  | cons x b ih =>
    rw [List.cons_append, pieces, pieces, ih]
    split
    next => rfl
    next =>
      cases hb : pieces c b with
      | nil => exact absurd hb (pieces_ne_nil c b)
      | cons p ps => rfl

theorem mem_pieces_iff :
  p ∈ pieces c cs ↔ IsPiece c cs p
  := by
  constructor
  · intro h
    induction hn : cs.length using Nat.strong_induction_on generalizing cs with
    | _ n ih =>
      by_cases hc : c ∈ cs
      · obtain ⟨b, a, rfl, hb⟩ := List.eq_append_cons_of_mem hc
        rw [pieces_append_cons, pieces_of_not_mem hb, List.singleton_append, List.mem_cons] at h
        rcases h with rfl | h
        · exact ⟨hb, [], c :: a, rfl, .inl rfl, .inr ⟨a, rfl⟩⟩
        · obtain ⟨hp, before, after, rfl, hbefore, hafter⟩ :=
            ih a.length (by simp [← hn]; omega) h rfl
          refine ⟨hp, b ++ c :: before, after, by simp, .inr ?_, hafter⟩
          rcases hbefore with rfl | ⟨b', rfl⟩
          · exact ⟨b, rfl⟩
          · exact ⟨b ++ c :: b', by simp⟩
      · rw [pieces_of_not_mem hc, List.mem_singleton] at h
        rw [h]
        exact ⟨hc, [], [], by simp, .inl rfl, .inl rfl⟩
  · rintro ⟨hp, before, after, rfl, hbefore, hafter⟩
    have hlast : p ∈ pieces c (before ++ p) := by
      rcases hbefore with rfl | ⟨b, rfl⟩
      · rw [List.nil_append, pieces_of_not_mem hp]
        apply List.mem_singleton_self
      · rw [List.append_assoc, List.singleton_append, pieces_append_cons, pieces_of_not_mem hp]
        apply List.mem_append_right _ (List.mem_singleton_self p)
    rcases hafter with rfl | ⟨a, rfl⟩
    · rwa [List.append_nil]
    · rw [pieces_append_cons]
      apply List.mem_append_left _ hlast

end

end ScanIndex
