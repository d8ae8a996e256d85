import Mathlib.Data.List.Forall2
import Mathlib.Data.List.Nodup
import ScanIndex.Proofs.Text.ByteOrder
import ScanIndex.Proofs.Text.Pieces
import ScanIndex.Signing.Authorization

/-!
# Presentations of headers

Headers are presented alike by two lists if these differ only in the order of the headers, in the
letter case of their names and in blanks around their values (`PresentsAlike`).  Lists of headers
with different names that are presented alike have one canonical form
(`canonicalHeaders_eq_of_presentsAlike`): it has each header once, with its name in lower case and
its value without blanks around it, and the names in the order of their bytes
(`isCanonicalOf_canonicalHeaders`).
-/

namespace ScanIndex

/-! ### Letter case -/

/-- Two characters are the same, or the same letter of ASCII in upper and in lower case. -/
def SameLetter (c d : Char) : Prop :=
  c = d ∨ c.isUpper = true ∧ d.toNat = c.toNat + 32 ∨ d.isUpper = true ∧ c.toNat = d.toNat + 32

/-- Two texts differ at most in the case of letters of ASCII. -/
def SameLetters (s t : String) : Prop := List.Forall₂ SameLetter s.toList t.toList

theorem isUpper_iff {c : Char} :
  c.isUpper = true ↔ 65 ≤ c.toNat ∧ c.toNat ≤ 90
  := by
  change decide (c.val ≥ 'A'.val ∧ c.val ≤ 'Z'.val) = true ↔ _
  rw [decide_eq_true_iff]
  rfl

theorem toNat_toLower (c : Char) :
  c.toLower.toNat = if c.isUpper = true then c.toNat + 32 else c.toNat
  := by
  by_cases h : c.isUpper = true
  · have hbounds := isUpper_iff.1 h
    have hval : c.toLower.val = c.val + 32 := congrArg Char.val (dif_pos (of_decide_eq_true h))
    change c.toLower.val.toNat = _
    rw [if_pos h, hval, UInt32.toNat_add]
    apply Nat.mod_eq_of_lt
    change c.toNat + 32 < 4294967296
    omega
  · have hself : c.toLower = c := dif_neg fun hc => h (decide_eq_true hc)
    rw [if_neg h, hself]

theorem toLower_eq_self {c : Char} (h : c.isUpper = false) :
  c.toLower = c
  := by
  rw [← Char.toNat_inj, toNat_toLower, if_neg (Bool.eq_false_iff.1 h)]

theorem isUpper_toLower (c : Char) :
  c.toLower.isUpper = false
  := by
  rw [Bool.eq_false_iff, Ne, isUpper_iff, toNat_toLower]
  split
  next h =>
    have hbounds := isUpper_iff.1 h
    omega
  next h => exact fun hbounds => h (isUpper_iff.2 hbounds)

theorem toLower_eq_toLower_iff {c d : Char} :
  c.toLower = d.toLower ↔ SameLetter c d
  := by
  rw [SameLetter, ← Char.toNat_inj, ← Char.toNat_inj, toNat_toLower, toNat_toLower]
  split
  all_goals
    next hc =>
      split
      all_goals
        next hd =>
          rw [isUpper_iff] at hc hd
          simp only [isUpper_iff]
          omega

theorem lowerAscii_eq_lowerAscii_iff {s t : String} :
  lowerAscii s = lowerAscii t ↔ SameLetters s t
  := by
  rw [lowerAscii, lowerAscii, String.ofList_inj, SameLetters]
  rw [← List.forall₂_eq_eq_eq, List.forall₂_map_left_iff, List.forall₂_map_right_iff]
  simp only [toLower_eq_toLower_iff]

/-- A text in lower case has the same letters, and none in upper case. -/
theorem eq_lowerAscii_iff {s t : String} :
  t = lowerAscii s ↔ SameLetters s t ∧ ∀ c ∈ t.toList, c.isUpper = false
  := by
  constructor
  · rintro rfl
    have hlower : (lowerAscii s).toList = s.toList.map Char.toLower := String.toList_ofList
    constructor
    · rw [SameLetters, hlower, List.forall₂_map_right_iff, List.forall₂_same]
      intro c _
      rw [← toLower_eq_toLower_iff, toLower_eq_self (isUpper_toLower c)]
    · rw [hlower, List.forall_mem_map]
      intro c _
      apply isUpper_toLower
  · rintro ⟨hletters, hlower⟩
    have hself : lowerAscii t = t := by
      rw [lowerAscii, List.map_congr_left (g := id), List.map_id, String.ofList_toList]
      intro c hc
      apply toLower_eq_self (hlower c hc)
    rw [lowerAscii_eq_lowerAscii_iff.2 hletters, hself]

/-! ### Headers -/

/-- Two texts differ at most in blanks around them. -/
def SameCore (s t : String) : Prop :=
  ∃ core l r l' r', s.toList = l ++ core ++ r ∧ t.toList = l' ++ core ++ r'
    ∧ AllBlank l ∧ AllBlank r ∧ AllBlank l' ∧ AllBlank r'

theorem trimBlanks_eq_trimBlanks_iff {s t : String} :
  trimBlanks s = trimBlanks t ↔ SameCore s t
  := by
  constructor
  · intro h
    obtain ⟨l, r, hs, hl, hr⟩ := (isTrimmed_trimmed s.toList).within
    obtain ⟨l', r', ht, hl', hr'⟩ := (isTrimmed_trimmed t.toList).within
    rw [trimBlanks, trimBlanks, String.ofList_inj] at h
    rw [← h] at ht
    exact ⟨_, l, r, l', r', hs, ht, hl, hr, hl', hr'⟩
  · rintro ⟨core, l, r, l', r', hs, ht, hl, hr, hl', hr'⟩
    rw [trimBlanks, trimBlanks, hs, ht, trimmed_append_append hl hr, trimmed_append_append hl' hr']

/-- Two headers differ at most in the case of letters of their names and in blanks around their
values. -/
structure SameHeader (h k : String × String) : Prop where
  name : SameLetters h.1 k.1
  value : SameCore h.2 k.2

/-- Two lists present headers alike: in some order, these are the same headers. -/
def PresentsAlike (hs ks : List (String × String)) : Prop :=
  ∃ ms, hs.Perm ms ∧ List.Forall₂ SameHeader ms ks

/-- No two headers have the same name, whatever the case of its letters. -/
def DistinctNames (hs : List (String × String)) : Prop :=
  hs.Pairwise fun h k => ¬SameLetters h.1 k.1

/-- The second header is the first one with its name in lower case and without blanks around its
value. -/
structure IsNormalised (h k : String × String) : Prop where
  name : SameLetters h.1 k.1
  lower : ∀ c ∈ k.1.toList, c.isUpper = false
  value : IsTrimmed h.2.toList k.2.toList

/-- The second list has the headers of the first one, each once and normalised, and their names are
in the order of their bytes. -/
structure IsCanonicalOf (hs ks : List (String × String)) : Prop where
  headers : ∃ ms, hs.Perm ms ∧ List.Forall₂ IsNormalised ms ks
  ascending : (ks.map fun k => Utf8.encode k.1).Pairwise (· < ·)

namespace Signable

variable {h k : String × String} {hs ks : List (String × String)}

theorem isNormalised_normalised (h : String × String) :
  IsNormalised h (normalised h)
  := by
  obtain ⟨hname, hlower⟩ := eq_lowerAscii_iff.1 (rfl : lowerAscii h.1 = lowerAscii h.1)
  refine ⟨hname, hlower, trimmed_eq_iff.1 ?_⟩
  rw [normalised, trimBlanks, String.toList_ofList]

theorem normalised_eq_normalised_iff :
  normalised h = normalised k ↔ SameHeader h k
  := by
  rw [normalised, normalised, Prod.mk.injEq, lowerAscii_eq_lowerAscii_iff,
    trimBlanks_eq_trimBlanks_iff]
  constructor
  · rintro ⟨hname, hvalue⟩
    exact ⟨hname, hvalue⟩
  · intro hsame
    exact ⟨hsame.name, hsame.value⟩

/-- Headers that are presented alike are the same when they are normalised, up to their order. -/
theorem perm_map_normalised (h : PresentsAlike hs ks) :
  (hs.map normalised).Perm (ks.map normalised)
  := by
  obtain ⟨ms, hperm, hsame⟩ := h
  have hmap : ms.map normalised = ks.map normalised := by
    clear hperm
    induction hsame with
    | nil => rfl
    | cons hfirst _ ih =>
      rw [List.map_cons, List.map_cons, normalised_eq_normalised_iff.2 hfirst, ih]
  rw [← hmap]
  apply hperm.map

theorem nodup_names_iff :
  ((hs.map normalised).map Prod.fst).Nodup ↔ DistinctNames hs
  := by
  rw [List.Nodup, List.pairwise_map, List.pairwise_map, DistinctNames]
  simp only [Ne, normalised, lowerAscii_eq_lowerAscii_iff]

/-- Canonical headers are the normalised ones in another order. -/
theorem canonicalHeaders_perm (hs : List (String × String)) :
  (canonicalHeaders hs).Perm (hs.map normalised)
  := List.mergeSort_perm _ _

/-- The names of canonical headers ascend, if they are different. -/
theorem pairwise_canonicalHeaders (h : DistinctNames hs) :
  (canonicalHeaders hs).Pairwise fun h k => h.1 < k.1
  := by
  have hsorted : (canonicalHeaders hs).Pairwise fun h k => h.1 ≤ k.1 := by
    apply (List.pairwise_mergeSort _ _ (hs.map normalised)).imp of_decide_eq_true
    · intro a b c hab hbc
      apply decide_eq_true (le_trans (of_decide_eq_true hab) (of_decide_eq_true hbc))
    · intro a b
      rw [Bool.or_eq_true, decide_eq_true_eq, decide_eq_true_eq]
      apply le_total
  have hnodup : ((canonicalHeaders hs).map Prod.fst).Nodup :=
    ((canonicalHeaders_perm hs).map Prod.fst).nodup_iff.2 (nodup_names_iff.2 h)
  apply hsorted.imp₂ _ (List.pairwise_map.1 hnodup)
  intro h k hle hne
  apply lt_of_le_of_ne hle hne

/-- Canonical headers are the headers in some order, normalised. -/
theorem exists_perm_map_normalised (hs : List (String × String)) :
  ∃ ms, hs.Perm ms ∧ ms.map normalised = canonicalHeaders hs
  := by
  refine ⟨hs.mergeSort fun h k => (normalised h).1 ≤ (normalised k).1,
    (List.mergeSort_perm hs _).symm, ?_⟩
  apply List.map_mergeSort
  intro h _ k _
  rfl

/-- The canonical headers have each header once, and their names in the order of their bytes. -/
theorem isCanonicalOf_canonicalHeaders (h : DistinctNames hs) :
  IsCanonicalOf hs (canonicalHeaders hs)
  := by
  constructor
  case headers =>
    obtain ⟨ms, hperm, hmap⟩ := exists_perm_map_normalised hs
    refine ⟨ms, hperm, ?_⟩
    rw [← hmap, List.forall₂_map_right_iff, List.forall₂_same]
    intro h _
    apply isNormalised_normalised
  case ascending =>
    rw [List.pairwise_map]
    apply (pairwise_canonicalHeaders h).imp
    intro h k hlt
    apply Utf8.encode_lt_encode hlt

theorem DistinctNames.of_presentsAlike (hdistinct : DistinctNames hs) (h : PresentsAlike hs ks) :
  DistinctNames ks
  := by
  rw [← nodup_names_iff] at hdistinct ⊢
  apply ((perm_map_normalised h).map Prod.fst).nodup_iff.1 hdistinct

/-- Headers with different names that are presented alike have the same canonical form. -/
theorem canonicalHeaders_eq_of_presentsAlike (hdistinct : DistinctNames hs)
    (h : PresentsAlike hs ks) :
  canonicalHeaders hs = canonicalHeaders ks
  := by
  have hperm := (canonicalHeaders_perm hs).trans
    ((perm_map_normalised h).trans (canonicalHeaders_perm ks).symm)
  have hascending := pairwise_canonicalHeaders hdistinct
  have hascending' := pairwise_canonicalHeaders (DistinctNames.of_presentsAlike hdistinct h)
  apply hperm.eq_of_pairwise _ hascending hascending'
  intro a b _ _ hab hba
  apply absurd (hab.trans hba) (lt_irrefl a.1)

end Signable

end ScanIndex
