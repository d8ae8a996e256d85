import ScanIndex.Proofs.Json.Decode

/-!
# Records with required fields

A record whose fields all must be there is read from two kinds of values: objects in which each of
the fields comes up once, and arrays of the fields in the order of their declaration
(`Json.IsRecord`).  It is read from exactly these if the values of the fields are decoded
(`Record.Requires.decoder_eq_ok_iff`).
-/

namespace ScanIndex

open Json (named)

/-- The value is an object with one field of each name, among others, or an array of just the
fields; `vs` are the values of the fields, in the order of the names. -/
def Json.IsRecord (names : List String) (vs : List Json) : Json → Prop
  | .object fields => names.map (fun name => named name fields) = vs.map fun v => [v]
  | .array items => items = vs ∧ vs.length = names.length
  | _ => False

/-- What a value has for a field of a record with fields of the given names. -/
def Json.part? (names : List String) (name : String) : Json → Option Json
  | .object fields => lookup name fields
  | .array items => items[names.idxOf name]?
  | _ => none

theorem Json.IsRecord.part?_eq {names : List String} {vs : List Json} {j : Json}
    (h : j.IsRecord names vs) (hnames : names.Nodup) {i : Nat} (hi : i < names.length) :
  j.part? names names[i] = vs[i]?
  := by
  cases j with
  | object fields =>
    have hnamed := congrArg (fun l => l[i]?.bind List.head?) h
    simp only [List.getElem?_map, List.getElem?_eq_getElem hi, Option.map_some, Option.bind_some]
      at hnamed
    rw [part?, lookup_eq_head?, hnamed]
    cases vs[i]? <;> rfl
  | array items =>
    rw [part?, hnames.idxOf_getElem, h.1]
  | null => cases h
  | bool => cases h
  | number => cases h
  | string => cases h

namespace Record

variable {α β : Type} {r : Record α}

/-- All fields of a record must be there, and it is put together from their values as `P` says. -/
structure Requires (r : Record α) (P : List Json → α → Prop) : Prop where
  checked : ∀ look a, r.collect look = .ok a → ∀ name v,
    look name = some v → r.check name v = .ok ()
  collect : ∀ look a, r.collect look = .ok a ↔ ∃ vs, r.names.map look = vs.map some ∧ P vs a
  take : ∀ missing used items a used' rest, r.take missing used items = .ok (a, used', rest)
    ↔ ∃ vs, vs.length = r.names.length ∧ used + vs.length = used' ∧ vs ++ rest = items ∧ P vs a

theorem requires_pure (a : α) :
  (pure a).Requires fun vs b => vs = [] ∧ a = b
  := by
  constructor
  case checked =>
    intro look b _ name v _
    rfl
  case collect =>
    intro look b
    simp [pure]
  case take =>
    intro missing used items b used' rest
    constructor
    · intro h
      cases h
      exact ⟨[], rfl, rfl, rfl, rfl, rfl⟩
    · rintro ⟨_, -, rfl, rfl, rfl, rfl⟩
      rfl

theorem collect_field_eq_ok_iff {value : Decoder α} {name : String} {look : String → Option Json}
    {a : α} :
  (field name value).collect look = .ok a ↔ ∃ v, look name = some v ∧ value v = .ok a
  := by
  simp only [field, one]
  cases look name <;> simp

theorem take_field_eq_ok_iff {value : Decoder α} {name : String} {missing : Nat → DecodeError}
    {used used' : Nat} {items rest : List Json} {a : α} :
  (field name value).take missing used items = .ok (a, used', rest)
    ↔ ∃ v, items = v :: rest ∧ used' = used + 1 ∧ value v = .ok a
  := by
  cases items with
  | nil => simp [field, one]
  | cons v items =>
    change (fun a => (a, used + 1, items)) <$> value v = _ ↔ _
    cases hv : value v with
    | error e => simp [Functor.map, Except.map, hv]
    | ok b =>
      constructor
      · intro h
        cases h
        exact ⟨v, rfl, rfl, hv⟩
      · rintro ⟨w, h, rfl, hw⟩
        cases h
        rw [hv] at hw
        cases hw
        rfl

theorem take_ap_eq_ok_iff {r : Record (α → β)} {s : Record α} {missing : Nat → DecodeError}
    {used used' : Nat} {items rest : List Json} {b : β} :
  (r.ap s).take missing used items = .ok (b, used', rest)
    ↔ ∃ f n between a, r.take missing used items = .ok (f, n, between)
        ∧ s.take missing n between = .ok (a, used', rest) ∧ f a = b
  := by
  constructor
  · intro h
    obtain ⟨⟨f, n, between⟩, hf, h⟩ := eq_ok_of_bind_eq_ok h
    obtain ⟨⟨a, n', rest'⟩, ha, h⟩ := eq_ok_of_bind_eq_ok h
    cases h
    exact ⟨f, n, between, a, hf, ha, rfl⟩
  · rintro ⟨f, n, between, a, hf, ha, rfl⟩
    simp only [ap, hf]
    change (s.take missing n between >>= fun x => _) = _
    rw [ha]
    rfl

/-- One more field that must be there. -/
theorem Requires.ap_field {r : Record (α → β)} {P : List Json → (α → β) → Prop} (h : r.Requires P)
    (name : String) (value : Decoder α) :
  (r.ap (.field name value)).Requires fun vs b =>
    ∃ us v f a, vs = us ++ [v] ∧ P us f ∧ value v = .ok a ∧ f a = b
  := by
  have hnames : (r.ap (.field name value)).names = r.names ++ [name] := rfl
  constructor
  case checked =>
    intro look b hb k v hv
    obtain ⟨f, a, hf, ha, -⟩ := collect_ap_eq_ok_iff.1 hb
    rw [check_ap_eq_ok_iff]
    refine ⟨h.checked look f hf k v hv, check_one_eq_ok_iff.2 ?_⟩
    rintro rfl
    obtain ⟨w, hw, ha⟩ := collect_field_eq_ok_iff.1 ha
    rw [hv] at hw
    cases hw
    exact ⟨a, ha⟩
  case collect =>
    intro look b
    rw [collect_ap_eq_ok_iff, hnames, List.map_append, List.map_singleton]
    simp only [h.collect, collect_field_eq_ok_iff]
    constructor
    · rintro ⟨f, a, ⟨us, hus, hf⟩, ⟨v, hv, ha⟩, rfl⟩
      exact ⟨us ++ [v], by rw [hus, hv, List.map_append, List.map_singleton], us, v, f, a, rfl, hf,
        ha, rfl⟩
    · rintro ⟨_, hvs, us, v, f, a, rfl, hf, ha, rfl⟩
      rw [List.map_append, List.map_singleton] at hvs
      obtain ⟨hus, hv⟩ := List.append_inj' hvs rfl
      exact ⟨f, a, ⟨us, hus, hf⟩, ⟨v, List.singleton_inj.1 hv, ha⟩, rfl⟩
  case take =>
    intro missing used items b used' rest
    rw [take_ap_eq_ok_iff, hnames, List.length_append, List.length_singleton]
    simp only [h.take, take_field_eq_ok_iff]
    constructor
    · rintro ⟨f, _, _, a, ⟨us, hlength, rfl, rfl, hf⟩, ⟨v, rfl, rfl, ha⟩, rfl⟩
      refine ⟨us ++ [v], ?_, ?_, ?_, us, v, f, a, rfl, hf, ha, rfl⟩
      · rw [List.length_append, hlength, List.length_singleton]
      · rw [List.length_append, List.length_singleton, Nat.add_assoc]
      · rw [List.append_assoc, List.singleton_append]
    · rintro ⟨_, hlength, rfl, rfl, us, v, f, a, rfl, hf, ha, rfl⟩
      rw [List.length_append, List.length_singleton, Nat.add_right_cancel_iff] at hlength
      refine ⟨f, _, _, a, ⟨us, hlength, rfl, ?_, hf⟩, ⟨v, rfl, ?_, ha⟩, rfl⟩
      · rw [List.append_assoc, List.singleton_append]
      · rw [List.length_append, List.length_singleton, Nat.add_assoc]

section

variable {P : List Json → α → Prop} {a : α}

/-- A record is read from the fields of an object exactly if each of its own comes up once. -/
theorem Requires.ofFields_eq_ok_iff (h : r.Requires P) {fields : List (String × Json)} :
  r.ofFields fields = .ok a
    ↔ ∃ vs, (r.names.map fun name => named name fields) = (vs.map fun v => [v]) ∧ P vs a
  := by
  rw [Record.ofFields_eq_ok_iff]
  constructor
  · rintro ⟨hfields, ha⟩
    obtain ⟨vs, hvs, ha⟩ := (h.collect _ a).1 ha
    refine ⟨vs, ?_, ha⟩
    have hlists := congrArg (List.map Option.toList) hvs
    rw [List.map_map, List.map_map] at hlists
    refine Eq.trans (List.map_congr_left ?_) hlists
    intro name hname
    have hlength := (hfields name hname).2
    change named name fields = (named name fields).head?.toList
    cases hnamed : named name fields with
    | nil => rfl
    | cons v vs =>
      rw [hnamed, List.length_cons] at hlength
      rw [List.eq_nil_of_length_eq_zero (Nat.le_zero.1 (Nat.le_of_succ_le_succ hlength))]
      rfl
  · rintro ⟨vs, hvs, ha⟩
    have hheads := congrArg (List.map List.head?) hvs
    rw [List.map_map, List.map_map] at hheads
    have ha := (h.collect (fun name => (named name fields).head?) a).2 ⟨vs, hheads, ha⟩
    refine ⟨?_, ha⟩
    intro name hname
    have hmem := List.mem_map_of_mem (f := fun name => named name fields) hname
    rw [hvs, List.mem_map] at hmem
    obtain ⟨v, -, hv⟩ := hmem
    rw [← hv]
    refine ⟨?_, Nat.le_refl 1⟩
    intro w hw
    apply h.checked _ a ha
    rw [← hv, List.mem_singleton.1 hw]
    rfl

/-- A record is read from the items of an array exactly if they are its fields. -/
theorem Requires.ofItems_eq_ok_iff (h : r.Requires P) {name : String} {items : List Json} :
  r.ofItems name items = .ok a ↔ items.length = r.names.length ∧ P items a
  := by
  constructor
  · intro ha
    obtain ⟨⟨b, used, rest⟩, htake, ha⟩ := eq_ok_of_bind_eq_ok ha
    obtain ⟨vs, hlength, -, rfl, hb⟩ := (h.take _ _ _ _ _ _).1 htake
    cases rest with
    | nil =>
      cases ha
      rw [List.append_nil]
      exact ⟨hlength, hb⟩
    | cons v rest => cases ha
  · rintro ⟨hlength, ha⟩
    have htake :=
      (h.take (fun n => .wrongLength n (.recordOfSize name r.names.length)) 0 items a _ []).2
        ⟨items, hlength, rfl, List.append_nil items, ha⟩
    rw [ofItems, htake]
    rfl

/-- A record whose fields must all be there is read exactly from the values that have them. -/
theorem Requires.decoder_eq_ok_iff (h : r.Requires P) {name : String} {j : Json} :
  r.decoder name j = .ok a ↔ ∃ vs, j.IsRecord r.names vs ∧ P vs a
  := by
  cases j with
  | object fields => apply h.ofFields_eq_ok_iff
  | array items =>
    rw [decoder, h.ofItems_eq_ok_iff]
    constructor
    · rintro ⟨hlength, ha⟩
      exact ⟨items, ⟨rfl, hlength⟩, ha⟩
    · rintro ⟨_, ⟨rfl, hlength⟩, ha⟩
      exact ⟨hlength, ha⟩
  | null => simp [decoder, Json.IsRecord]
  | bool => simp [decoder, Json.IsRecord]
  | number => simp [decoder, Json.IsRecord]
  | string => simp [decoder, Json.IsRecord]

end

section

variable {γ : Type} {name k l : String} {value : Decoder α} {value' : Decoder γ} {j : Json} {b : β}

theorem decoder_singleton_eq_ok_iff {f : α → β} :
  decoder name ((pure f).ap (field k value)) j = .ok b
    ↔ ∃ v a, j.IsRecord [k] [v] ∧ value v = .ok a ∧ f a = b
  := by
  have h := (requires_pure f).ap_field k value
  rw [h.decoder_eq_ok_iff]
  constructor
  · rintro ⟨_, hj, _, v, _, a, rfl, ⟨rfl, rfl⟩, ha, rfl⟩
    exact ⟨v, a, hj, ha, rfl⟩
  · rintro ⟨v, a, hj, ha, rfl⟩
    exact ⟨[v], hj, [], v, f, a, rfl, ⟨rfl, rfl⟩, ha, rfl⟩

theorem decoder_pair_eq_ok_iff {f : α → γ → β} :
  decoder name (((pure f).ap (field k value)).ap (field l value')) j = .ok b
    ↔ ∃ v w a c, j.IsRecord [k, l] [v, w] ∧ value v = .ok a ∧ value' w = .ok c ∧ f a c = b
  := by
  have h := ((requires_pure f).ap_field k value).ap_field l value'
  rw [h.decoder_eq_ok_iff]
  constructor
  · rintro ⟨_, hj, _, w, _, c, rfl, ⟨_, v, _, a, rfl, ⟨rfl, rfl⟩, ha, rfl⟩, hc, rfl⟩
    exact ⟨v, w, a, c, hj, ha, hc, rfl⟩
  · rintro ⟨v, w, a, c, hj, ha, hc, rfl⟩
    exact ⟨[v, w], hj, [v], w, f a, c, rfl, ⟨[], v, f, a, rfl, ⟨rfl, rfl⟩, ha, rfl⟩, hc, rfl⟩

end

end Record

end ScanIndex
