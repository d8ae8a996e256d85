import Mathlib.Data.List.Basic
import ScanIndex.Json.Decode
import ScanIndex.Proofs.Outcome

/-!
# What decoders accept

For each decoder, the values that it accepts and what it makes of them.  A record reads the fields
of an object one after the other: it accepts them exactly if no field of the record comes up twice,
each is decoded, and the record can be put together from them (`Record.ofFields_eq_ok_iff`).
-/

namespace ScanIndex

/-- The number as a float. -/
def Number.toFloat : Number → Float
  | int n => Decoder.floatOfInt n
  | float x => x

namespace Decoder

variable {j : Json}

theorem string_eq_ok_iff {s : String} :
  string j = .ok s ↔ j = .string s
  := by
  cases j <;> simp [string]

theorem int64_eq_ok_iff {n : Int64} :
  int64 j = .ok n ↔ j = .ofInt n.toInt
  := by
  constructor
  · intro h
    unfold int64 at h
    split at h
    next k =>
      split at h
      next hk =>
        cases h
        rw [Int64.toInt_ofInt_of_le hk.1 hk.2]
        rfl
      next => cases h
    next => cases h
  · rintro rfl
    have hle := n.le_toInt
    have hlt := n.toInt_lt
    rw [Json.ofInt, int64, if_pos ⟨hle, hlt⟩, Int64.ofInt_toInt]

theorem float_eq_ok_iff {x : Float} :
  float j = .ok x ↔ ∃ n : Number, j = .number n ∧ x = n.toFloat
  := by
  constructor
  · intro h
    unfold float at h
    split at h
    next k =>
      cases h
      exact ⟨.int k, rfl, rfl⟩
    next =>
      cases h
      exact ⟨.float x, rfl, rfl⟩
    next => cases h
  · rintro ⟨n, rfl, rfl⟩
    cases n <;> rfl

/-- A pair is read from an array of exactly two items. -/
theorem pair_eq_ok_iff {α : Type} {item : Decoder α} {p : α × α} :
  pair item j = .ok p ↔ ∃ a b, j = .array [a, b] ∧ item a = .ok p.1 ∧ item b = .ok p.2
  := by
  constructor
  · intro h
    unfold pair at h
    split at h
    next => cases h
    next a =>
      obtain ⟨x, -, h⟩ := eq_ok_of_bind_eq_ok h
      cases h
    next a b =>
      obtain ⟨x, hx, h⟩ := eq_ok_of_bind_eq_ok h
      obtain ⟨y, hy, h⟩ := eq_ok_of_bind_eq_ok h
      cases h
      exact ⟨a, b, rfl, hx, hy⟩
    next a b c rest _ =>
      obtain ⟨x, -, h⟩ := eq_ok_of_bind_eq_ok h
      obtain ⟨y, -, h⟩ := eq_ok_of_bind_eq_ok h
      cases h
    next => cases h
  · rintro ⟨a, b, rfl, ha, hb⟩
    rw [pair, ha, hb]
    rfl

end Decoder

/-! ### Fields of objects -/

namespace Json

/-- The values of all fields of the given name. -/
def named (name : String) (fields : List (String × Json)) : List Json :=
  (fields.filter fun f => f.1 = name).map Prod.snd

variable {name : String} {fields : List (String × Json)}

theorem mem_named_iff {v : Json} :
  v ∈ named name fields ↔ (name, v) ∈ fields
  := by
  simp [named]

theorem lookup_eq_head? (name : String) (fields : List (String × Json)) :
  lookup name fields = (named name fields).head?
  := by
  induction fields with
  | nil => rfl
  | cons f fields ih =>
    obtain ⟨k, v⟩ := f
    rw [lookup, ih, named, named, List.filter_cons]
    by_cases hk : k = name <;> simp [hk]

theorem named_cons_self (name : String) (v : Json) (fields : List (String × Json)) :
  named name ((name, v) :: fields) = v :: named name fields
  := by
  simp [named]

theorem named_cons_of_ne {k : String} (h : k ≠ name) (v : Json) (fields : List (String × Json)) :
  named name ((k, v) :: fields) = named name fields
  := by
  simp [named, h]

end Json

open Json (named)

namespace Record

variable {α β : Type} {fields : List (String × Json)}

/-- The visit of fields finds nothing wrong exactly if the fields of the record pass their checks,
have not come up before, and do not come up twice. -/
theorem visit_eq_ok_iff (r : Record α) (seen : List String) (fields : List (String × Json)) :
  r.visit seen fields = .ok ()
    ↔ ∀ name ∈ r.names, (∀ v ∈ named name fields, name ∉ seen ∧ r.check name v = .ok ())
      ∧ (named name fields).length ≤ 1
  := by
  induction fields generalizing seen with
  | nil => simp [visit, named]
  | cons f fields ih =>
    obtain ⟨k, v⟩ := f
    rw [visit]
    by_cases hk : k ∈ r.names
    · rw [if_pos hk]
      by_cases hseen : k ∈ seen
      · rw [if_pos hseen]
        refine iff_of_false (by simp) ?_
        intro h
        apply ((h k hk).1 v (by rw [Json.named_cons_self]; apply List.mem_cons_self)).1 hseen
      · rw [if_neg hseen]
        constructor
        · intro h
          obtain ⟨⟨⟩, hcheck, h⟩ := eq_ok_of_bind_eq_ok h
          rw [ih] at h
          intro name hname
          obtain ⟨hchecks, hlength⟩ := h name hname
          by_cases hkn : k = name
          · subst hkn
            have hnone : named k fields = [] := by
              apply List.eq_nil_iff_forall_not_mem.2
              intro w hw
              apply (hchecks w hw).1 List.mem_cons_self
            rw [Json.named_cons_self, hnone]
            simp [hseen, hcheck]
          · rw [Json.named_cons_of_ne hkn]
            refine ⟨?_, hlength⟩
            intro w hw
            obtain ⟨hnew, hw⟩ := hchecks w hw
            exact ⟨fun hmem => hnew (List.mem_cons_of_mem k hmem), hw⟩
        · intro h
          have hself := h k hk
          rw [Json.named_cons_self, List.length_cons] at hself
          have hnone : named k fields = [] := List.length_eq_zero_iff.1 (by omega)
          rw [(hself.1 v List.mem_cons_self).2]
          change r.visit (k :: seen) fields = .ok ()
          rw [ih]
          intro name hname
          by_cases hkn : k = name
          · subst hkn
            simp [hnone]
          · obtain ⟨hchecks, hlength⟩ := h name hname
            rw [Json.named_cons_of_ne hkn] at hchecks hlength
            refine ⟨?_, hlength⟩
            intro w hw
            obtain ⟨hnew, hw⟩ := hchecks w hw
            refine ⟨?_, hw⟩
            rw [List.mem_cons, not_or]
            exact ⟨fun hnk => hkn hnk.symm, hnew⟩
    · rw [if_neg hk, ih]
      refine forall₂_congr ?_
      intro name hname
      have hkn : k ≠ name := by
        rintro rfl
        apply hk hname
      rw [Json.named_cons_of_ne hkn]

/-- The fields of an object are read as a record exactly if no field of the record comes up twice,
each passes its check, and the record can be put together. -/
theorem ofFields_eq_ok_iff {r : Record α} {a : α} :
  r.ofFields fields = .ok a
    ↔ (∀ name ∈ r.names, (∀ v ∈ named name fields, r.check name v = .ok ())
        ∧ (named name fields).length ≤ 1)
      ∧ r.collect (fun name => (named name fields).head?) = .ok a
  := by
  have hvisit := r.visit_eq_ok_iff [] fields
  simp only [List.not_mem_nil, not_false_eq_true, true_and] at hvisit
  rw [← hvisit, ofFields, funext fun name => Json.lookup_eq_head? name fields]
  cases hr : r.visit [] fields with
  | error e => exact iff_of_false (by rintro ⟨⟩) (by rintro ⟨⟨⟩, -⟩)
  | ok u => exact (and_iff_right rfl).symm

theorem check_ap_eq_ok_iff {r : Record (α → β)} {s : Record α} {name : String} {v : Json} :
  (r.ap s).check name v = .ok () ↔ r.check name v = .ok () ∧ s.check name v = .ok ()
  := by
  change (r.check name v >>= fun _ => s.check name v) = .ok () ↔ _
  cases r.check name v with
  | error e => exact iff_of_false (by rintro ⟨⟩) (by rintro ⟨⟨⟩, -⟩)
  | ok u => exact (and_iff_right rfl).symm

theorem check_one_eq_ok_iff {value : Decoder α} {absent short : Option α} {k name : String}
    {v : Json} :
  (one k value absent short).check name v = .ok () ↔ (name = k → ∃ a, value v = .ok a)
  := by
  change (if name = k then (fun _ => ()) <$> value v else .ok ()) = .ok () ↔ _
  by_cases hname : name = k
  · rw [if_pos hname]
    cases value v <;> simp [hname, Functor.map, Except.map]
  · simp [hname]

theorem check_fieldD_eq_ok_iff {value : Decoder α} {default : α} {k name : String} {v : Json} :
  (fieldD k value default).check name v = .ok () ↔ (name = k → ∃ a, value v = .ok a)
  := check_one_eq_ok_iff

theorem collect_ap_eq_ok_iff {r : Record (α → β)} {s : Record α} {look : String → Option Json}
    {b : β} :
  (r.ap s).collect look = .ok b ↔ ∃ f a, r.collect look = .ok f ∧ s.collect look = .ok a ∧ f a = b
  := by
  constructor
  · intro h
    obtain ⟨f, hf, h⟩ := eq_ok_of_bind_eq_ok h
    obtain ⟨a, ha, h⟩ := eq_ok_of_bind_eq_ok h
    cases h
    exact ⟨f, a, hf, ha, rfl⟩
  · rintro ⟨f, a, hf, ha, rfl⟩
    change (r.collect look >>= fun f => s.collect look >>= fun a => .ok (f a)) = _
    rw [hf, ha]
    rfl

theorem collect_fieldD_eq_ok_iff {value : Decoder α} {default a : α} {name : String}
    {look : String → Option Json} :
  (fieldD name value default).collect look = .ok a
    ↔ look name = none ∧ a = default ∨ ∃ v, look name = some v ∧ value v = .ok a
  := by
  simp only [fieldD, one]
  cases look name with
  | none => simp [eq_comm]
  | some v => simp

end Record

end ScanIndex
