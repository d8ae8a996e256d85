import Mathlib.Data.Set.Basic
import ScanIndex.Formula
import ScanIndex.Proofs.Outcome

/-!
# Formulas as sets, and formulas of one shape

If every leaf stands for a set, a formula stands for a set too, its `extent`: conjunctions are
intersections, disjunctions unions, and `not` is the complement of a union.  A formula holds exactly
in the elements of its extent (`holds_iff_mem_extent`).

Two formulas of one shape are `Related` by a relation of their leaves.  Such formulas have the same
truth value if related leaves do (`Related.holds_eq`).  A formula is related to what its leaves are
replaced by (`related_of_traverse_eq_ok`), so replacing leaves keeps its truth value if it keeps
theirs (`holds_of_traverse_eq_ok`), and replacing leaves by related ones keeps formulas related
(`Related.exists_traverse_eq_ok`).
-/

namespace ScanIndex

namespace Formula

variable {α β γ δ ε : Type}

mutual

/-- The set that a formula stands for if each of its leaves stands for a set. -/
def extent (s : α → Set γ) : Formula α → Set γ
  | leaf a => s a
  | and parts => extentOfAll s parts
  | or parts => extentOfAny s parts
  | not parts => (extentOfAny s parts)ᶜ

/-- The intersection of the sets that the formulas of a list stand for. -/
def extentOfAll (s : α → Set γ) : List (Formula α) → Set γ
  | [] => Set.univ
  | f :: fs => extent s f ∩ extentOfAll s fs

/-- The union of the sets that the formulas of a list stand for. -/
def extentOfAny (s : α → Set γ) : List (Formula α) → Set γ
  | [] => ∅
  | f :: fs => extent s f ∪ extentOfAny s fs

end

section

variable {s : α → Set γ} {x : γ}

mutual

/-- A formula holds exactly if it stands for a set with the given element, if so does each leaf. -/
theorem holds_iff_mem_extent {p : α → Bool} (hp : ∀ a, p a = true ↔ x ∈ s a) :
  ∀ t : Formula α, t.holds p = true ↔ x ∈ t.extent s
  | leaf a => hp a
  | and parts => (allHold_iff_anyHolds_iff hp parts).1
  | or parts => (allHold_iff_anyHolds_iff hp parts).2
  | not parts => by
      rw [holds, extent, Set.mem_compl_iff, ← (allHold_iff_anyHolds_iff hp parts).2,
        Bool.not_eq_true', Bool.not_eq_true]

theorem allHold_iff_anyHolds_iff {p : α → Bool} (hp : ∀ a, p a = true ↔ x ∈ s a) :
  ∀ ts : List (Formula α),
    (allHold p ts = true ↔ x ∈ extentOfAll s ts) ∧ (anyHolds p ts = true ↔ x ∈ extentOfAny s ts)
  | [] => by simp [allHold, extentOfAll, anyHolds, extentOfAny]
  | t :: ts => by
      obtain ⟨hall, hany⟩ := allHold_iff_anyHolds_iff hp ts
      rw [allHold, extentOfAll, anyHolds, extentOfAny, Bool.and_eq_true, Bool.or_eq_true,
        Set.mem_inter_iff, Set.mem_union, holds_iff_mem_extent hp t, hall, hany]
      exact ⟨Iff.rfl, Iff.rfl⟩

end

end

/-! ### Formulas of one shape -/

mutual

/-- Two formulas have the same shape, and related leaves in the same places. -/
inductive Related (r : α → β → Prop) : Formula α → Formula β → Prop where
  | leaf {a : α} {b : β} (h : r a b) : Related r (.leaf a) (.leaf b)
  | and {fs : List (Formula α)} {gs : List (Formula β)} (h : RelatedLists r fs gs) :
    Related r (.and fs) (.and gs)
  | or {fs : List (Formula α)} {gs : List (Formula β)} (h : RelatedLists r fs gs) :
    Related r (.or fs) (.or gs)
  | not {fs : List (Formula α)} {gs : List (Formula β)} (h : RelatedLists r fs gs) :
    Related r (.not fs) (.not gs)

/-- The formulas of two lists are related one by one. -/
inductive RelatedLists (r : α → β → Prop) : List (Formula α) → List (Formula β) → Prop where
  | nil : RelatedLists r [] []
  | cons {f : Formula α} {g : Formula β} {fs : List (Formula α)} {gs : List (Formula β)}
    (h : Related r f g) (hs : RelatedLists r fs gs) : RelatedLists r (f :: fs) (g :: gs)

end

mutual

/-- Related formulas have the same truth value if related leaves do. -/
theorem Related.holds_eq {r : α → β → Prop} {p : α → Bool} {q : β → Bool}
    (hr : ∀ a b, r a b → p a = q b) :
  ∀ {t : Formula α} {u : Formula β}, Related r t u → t.holds p = u.holds q
  | _, _, .leaf h => hr _ _ h
  | _, _, .and h => (h.allHold_eq_anyHolds_eq hr).1
  | _, _, .or h => (h.allHold_eq_anyHolds_eq hr).2
  | _, _, .not h => congrArg Bool.not (h.allHold_eq_anyHolds_eq hr).2

theorem RelatedLists.allHold_eq_anyHolds_eq {r : α → β → Prop} {p : α → Bool} {q : β → Bool}
    (hr : ∀ a b, r a b → p a = q b) :
  ∀ {ts : List (Formula α)} {us : List (Formula β)}, RelatedLists r ts us →
    allHold p ts = allHold q us ∧ anyHolds p ts = anyHolds q us
  | _, _, .nil => ⟨rfl, rfl⟩
  | _, _, .cons h hs => by
      obtain ⟨hall, hany⟩ := hs.allHold_eq_anyHolds_eq hr
      rw [allHold, allHold, anyHolds, anyHolds, h.holds_eq hr, hall, hany]
      exact ⟨rfl, rfl⟩

end

/-! ### Replacing leaves -/

section

variable {g : α → Except ε β}

mutual

/-- A formula whose leaves are replaced has the same shape as before. -/
theorem related_of_traverse_eq_ok :
  ∀ {t : Formula α} {u : Formula β}, traverse g t = .ok u → Related (fun a b => g a = .ok b) t u
  | leaf a, u, h => by
      rw [traverse] at h
      obtain ⟨b, hb, rfl⟩ := eq_ok_of_map_eq_ok h
      exact .leaf hb
  | and parts, u, h => by
      rw [traverse] at h
      obtain ⟨us, hus, rfl⟩ := eq_ok_of_map_eq_ok h
      apply Related.and (relatedLists_of_traverseList_eq_ok hus)
  | or parts, u, h => by
      rw [traverse] at h
      obtain ⟨us, hus, rfl⟩ := eq_ok_of_map_eq_ok h
      apply Related.or (relatedLists_of_traverseList_eq_ok hus)
  | not parts, u, h => by
      rw [traverse] at h
      obtain ⟨us, hus, rfl⟩ := eq_ok_of_map_eq_ok h
      apply Related.not (relatedLists_of_traverseList_eq_ok hus)

theorem relatedLists_of_traverseList_eq_ok :
  ∀ {ts : List (Formula α)} {us : List (Formula β)}, traverseList g ts = .ok us →
    RelatedLists (fun a b => g a = .ok b) ts us
  | [], us, h => by
      cases h
      apply RelatedLists.nil
  | t :: ts, us, h => by
      rw [traverseList] at h
      obtain ⟨v, hv, h⟩ := eq_ok_of_bind_eq_ok h
      obtain ⟨vs, hvs, h⟩ := eq_ok_of_bind_eq_ok h
      cases h
      apply RelatedLists.cons (related_of_traverse_eq_ok hv)
        (relatedLists_of_traverseList_eq_ok hvs)

end

mutual

/-- If every leaf can be replaced, then the leaves of the formula can. -/
theorem Related.traverse_eq_ok :
  ∀ {t : Formula α} {u : Formula β}, Related (fun a b => g a = .ok b) t u → traverse g t = .ok u
  | _, _, .leaf h => congrArg (leaf <$> ·) h
  | _, _, .and h => congrArg (and <$> ·) h.traverseList_eq_ok
  | _, _, .or h => congrArg (or <$> ·) h.traverseList_eq_ok
  | _, _, .not h => congrArg (not <$> ·) h.traverseList_eq_ok

theorem RelatedLists.traverseList_eq_ok :
  ∀ {ts : List (Formula α)} {us : List (Formula β)}, RelatedLists (fun a b => g a = .ok b) ts us →
    traverseList g ts = .ok us
  | _, _, .nil => rfl
  | _, _, .cons h hs => by
      rw [traverseList, h.traverse_eq_ok, hs.traverseList_eq_ok]
      rfl

end

mutual

/-- Replacing the leaves of a formula fails as it does for the list of its leaves. -/
theorem traverse_eq_error_iff {e : ε} :
  ∀ {t : Formula α}, traverse g t = .error e ↔ t.leaves.mapM g = .error e
  | leaf a => by
      rw [traverse, leaves, List.mapM_cons, List.mapM_nil]
      cases g a <;> simp [Functor.map, Except.map, bind, Except.bind, pure, Except.pure]
  | and parts => by rw [traverse, leaves, map_eq_error_iff, traverseList_eq_error_iff]
  | or parts => by rw [traverse, leaves, map_eq_error_iff, traverseList_eq_error_iff]
  | not parts => by rw [traverse, leaves, map_eq_error_iff, traverseList_eq_error_iff]

theorem traverseList_eq_error_iff {e : ε} :
  ∀ {ts : List (Formula α)}, traverseList g ts = .error e ↔ (leavesOfList ts).mapM g = .error e
  | [] => by simp [traverseList, leavesOfList, pure, Except.pure]
  | t :: ts => by
      have ht (e : ε) : traverse g t = .error e ↔ t.leaves.mapM g = .error e :=
        traverse_eq_error_iff
      rw [traverseList, leavesOfList, List.mapM_append]
      cases hu : traverse g t with
      | error e' =>
        rw [(ht e').1 hu]
        simp [bind, Except.bind]
      | ok u =>
        obtain ⟨bs, hbs⟩ := (exists_eq_ok_iff_of_eq_error_iff ht).1 ⟨u, hu⟩
        rw [hbs]
        change (u :: ·) <$> traverseList g ts = .error e
          ↔ (bs ++ ·) <$> (leavesOfList ts).mapM g = .error e
        rw [map_eq_error_iff, map_eq_error_iff, traverseList_eq_error_iff]

end

/-- A formula whose leaves are replaced has the same truth value as before if so have the leaves. -/
theorem holds_of_traverse_eq_ok {p : β → Bool} {q : α → Bool} (hg : ∀ a b, g a = .ok b → p b = q a)
    {t : Formula α} {u : Formula β} (h : traverse g t = .ok u) :
  u.holds p = t.holds q
  := by
  symm
  apply (related_of_traverse_eq_ok h).holds_eq
  intro a b hb
  apply (hg a b hb).symm

end

section

variable {r : α → β → Prop} {s : γ → δ → Prop} {g : α → γ → Prop} {g' : β → δ → Prop}

mutual

/-- If a leaf that is related to two others completes them to a square, then so does a formula. -/
theorem Related.exists_square (hg : ∀ a b c, r a b → g a c → ∃ d, g' b d ∧ s c d) :
  ∀ {t : Formula α} {t' : Formula β} {u : Formula γ}, Related r t t' → Related g t u →
    ∃ u', Related g' t' u' ∧ Related s u u'
  | _, _, _, .leaf h, .leaf hc => by
      obtain ⟨d, hd, hs⟩ := hg _ _ _ h hc
      exact ⟨_, .leaf hd, .leaf hs⟩
  | _, _, _, .and h, .and hu => by
      obtain ⟨us, hus, hs⟩ := h.exists_square hg hu
      exact ⟨_, .and hus, .and hs⟩
  | _, _, _, .or h, .or hu => by
      obtain ⟨us, hus, hs⟩ := h.exists_square hg hu
      exact ⟨_, .or hus, .or hs⟩
  | _, _, _, .not h, .not hu => by
      obtain ⟨us, hus, hs⟩ := h.exists_square hg hu
      exact ⟨_, .not hus, .not hs⟩

theorem RelatedLists.exists_square (hg : ∀ a b c, r a b → g a c → ∃ d, g' b d ∧ s c d) :
  ∀ {ts : List (Formula α)} {ts' : List (Formula β)} {us : List (Formula γ)},
    RelatedLists r ts ts' → RelatedLists g ts us →
    ∃ us', RelatedLists g' ts' us' ∧ RelatedLists s us us'
  | _, _, _, .nil, .nil => ⟨[], .nil, .nil⟩
  | _, _, _, .cons h hs, .cons hu hus => by
      obtain ⟨v, hv, hrelated⟩ := h.exists_square hg hu
      obtain ⟨vs, hvs, hrelateds⟩ := hs.exists_square hg hus
      exact ⟨_, .cons hv hvs, .cons hrelated hrelateds⟩

end

end

/-- If the leaves of a formula can be replaced, and so can related leaves, and by related ones, then
the leaves of a related formula can be replaced, and the results are related. -/
theorem Related.exists_traverse_eq_ok {ε' : Type} {g : α → Except ε γ} {g' : β → Except ε' δ}
    {r : α → β → Prop} {s : γ → δ → Prop}
    (hg : ∀ a b c, r a b → g a = .ok c → ∃ d, g' b = .ok d ∧ s c d)
    {t : Formula α} {t' : Formula β} {u : Formula γ} (h : Related r t t')
    (hu : traverse g t = .ok u) :
  ∃ u', traverse g' t' = .ok u' ∧ Related s u u'
  := by
  obtain ⟨u', hu', hs⟩ := h.exists_square hg (related_of_traverse_eq_ok hu)
  exact ⟨u', hu'.traverse_eq_ok, hs⟩

end Formula

end ScanIndex
