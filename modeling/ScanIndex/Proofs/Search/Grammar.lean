import Mathlib.Data.List.Forall2
import Mathlib.Tactic.MkIffOfInductiveProp
import Mathlib.Tactic.Tauto
import ScanIndex.Proofs.Json.Decode
import ScanIndex.Search.Syntax

/-!
# The grammar of search requests

A request is given by a grammar (`IsRequest`), independently of how it is read: every node is an
object with one field, `search` with the object of a term (`IsTerm`), or `and`, `or` or `not` with
an array of requests.  A request mirrors its tree node for node (`Mirrors`).

A value that is no request has a node at fault.  What is wrong with a node is fixed by the node
alone (`Fault`), and the error of a value is that of the first node at fault, where the nodes of a
value are listed depth first, from left to right (`nodes`, `FirstFault`).  Reading accepts exactly
the requests, gives the trees that they mirror, and refuses everything else with the error of its
first fault (`ofJson_outcomes`).
-/

namespace ScanIndex

open Json (named)

/-! ### Terms -/

/-- A field of an object is left out, or comes up once, with a value of the given form. -/
def Json.IsOptional (name : String) (form : Json → Prop) (fields : List (String × Json)) : Prop :=
  named name fields = [] ∨ ∃ v, named name fields = [v] ∧ form v

/-- A field of an object is left out and stands for the default, or comes up once, with a value that
stands for `a`. -/
def Json.Gives {α : Type} (name : String) (stands : Json → α → Prop) (default : α)
    (fields : List (String × Json)) (a : α) : Prop :=
  named name fields = [] ∧ a = default ∨ ∃ v, named name fields = [v] ∧ stands v a

namespace SearchTerm

/-- The fields are those of a term, and possibly others: if they are there, `text` is a string,
`page_number` an integer of 64 bits with sign, and `coordinates` an array of two arrays of two
numbers. -/
structure IsTerm (fields : List (String × Json)) : Prop where
  text : Json.IsOptional "text" (fun v => ∃ s, v = .string s) fields
  pageNumber :
    Json.IsOptional "page_number"
      (fun v => ∃ n : Int, v = .ofInt n ∧ -0x8000000000000000 ≤ n ∧ n < 0x8000000000000000) fields
  rectangle :
    Json.IsOptional "coordinates"
      (fun v => ∃ a b c d : Number,
        v = .array [.array [.number a, .number b], .array [.number c, .number d]]) fields

/-- The fields are those of the term `t`, and possibly others; those that are missing stand for an
empty text, page zero, and coordinates that are zero. -/
structure Mirrors (fields : List (String × Json)) (t : SearchTerm) : Prop where
  text : Json.Gives "text" (fun v s => v = .string s) "" fields t.text
  pageNumber : Json.Gives "page_number" (fun v n => v = .ofInt n.toInt) 0 fields t.pageNumber
  rectangle :
    Json.Gives "coordinates"
      (fun v r => ∃ a b c d : Number,
        v = .array [.array [.number a, .number b], .array [.number c, .number d]]
        ∧ r = ⟨⟨a.toFloat, b.toFloat⟩, ⟨c.toFloat, d.toFloat⟩⟩)
      .zero fields t.rectangle

end SearchTerm

/-- Fields are of the right form exactly if they give something. -/
theorem Json.isOptional_iff_exists_gives {α : Type} {name : String} {form : Json → Prop}
    {stands : Json → α → Prop} (default : α) {fields : List (String × Json)}
    (h : ∀ v, form v ↔ ∃ a, stands v a) :
  IsOptional name form fields ↔ ∃ a, Gives name stands default fields a
  := by
  constructor
  · rintro (hnone | ⟨v, hv, hform⟩)
    · exact ⟨default, .inl ⟨hnone, rfl⟩⟩
    · obtain ⟨a, ha⟩ := (h v).1 hform
      exact ⟨a, .inr ⟨v, hv, ha⟩⟩
  · rintro ⟨a, ⟨hnone, -⟩ | ⟨v, hv, ha⟩⟩
    · exact .inl hnone
    · exact .inr ⟨v, hv, (h v).2 ⟨a, ha⟩⟩

/-- A field that may be left out is read exactly as what it gives. -/
theorem Json.gives_iff {α : Type} {name : String} {value : Decoder α} {default : α}
    {fields : List (String × Json)} {a : α} :
  Gives name (fun v a => value v = .ok a) default fields a
    ↔ ((∀ v ∈ named name fields, ∃ a, value v = .ok a) ∧ (named name fields).length ≤ 1)
      ∧ (Record.fieldD name value default).collect (fun name => (named name fields).head?) = .ok a
  := by
  rw [Record.collect_fieldD_eq_ok_iff, Gives]
  constructor
  · rintro (⟨hnone, rfl⟩ | ⟨v, hv, ha⟩)
    · simp [hnone]
    · simp [hv, ha]
  · rintro ⟨⟨-, hlength⟩, hcollect⟩
    rcases hnamed : named name fields with _ | ⟨v, _ | ⟨w, vs⟩⟩
    · simpa [hnamed] using hcollect
    · simpa [hnamed] using hcollect
    · rw [hnamed, List.length_cons, List.length_cons] at hlength
      omega

theorem Rectangle.decoder_eq_ok_iff {j : Json} {r : Rectangle} :
  decoder j = .ok r
    ↔ ∃ a b c d : Number, j = .array [.array [.number a, .number b], .array [.number c, .number d]]
      ∧ r = ⟨⟨a.toFloat, b.toFloat⟩, ⟨c.toFloat, d.toFloat⟩⟩
  := by
  constructor
  · intro h
    obtain ⟨⟨p, q⟩, hpair, rfl⟩ := eq_ok_of_map_eq_ok h
    obtain ⟨u, v, rfl, hu, hv⟩ := Decoder.pair_eq_ok_iff.1 hpair
    obtain ⟨_, _, rfl, ha, hb⟩ := Decoder.pair_eq_ok_iff.1 hu
    obtain ⟨_, _, rfl, hc, hd⟩ := Decoder.pair_eq_ok_iff.1 hv
    obtain ⟨a, rfl, hx⟩ := Decoder.float_eq_ok_iff.1 ha
    obtain ⟨b, rfl, hy⟩ := Decoder.float_eq_ok_iff.1 hb
    obtain ⟨c, rfl, hz⟩ := Decoder.float_eq_ok_iff.1 hc
    obtain ⟨d, rfl, hw⟩ := Decoder.float_eq_ok_iff.1 hd
    refine ⟨a, b, c, d, rfl, ?_⟩
    rw [ofPairs, hx, hy, hz, hw]
  · rintro ⟨a, b, c, d, rfl, rfl⟩
    have hfloat (n : Number) : Decoder.float (.number n) = .ok n.toFloat :=
      Decoder.float_eq_ok_iff.2 ⟨n, rfl, rfl⟩
    simp only [decoder, Decoder.pair, hfloat]
    rfl

namespace SearchTerm

variable {fields : List (String × Json)}

theorem check_record_eq_ok_iff {name : String} {v : Json} :
  record.check name v = .ok ()
    ↔ (name = "text" → ∃ s, Decoder.string v = .ok s)
      ∧ (name = "page_number" → ∃ n, Decoder.int64 v = .ok n)
      ∧ (name = "coordinates" → ∃ r, Rectangle.decoder v = .ok r)
  := by
  have hpure : (Record.pure SearchTerm.mk).check name v = .ok () := rfl
  rw [record, Record.check_ap_eq_ok_iff, Record.check_ap_eq_ok_iff, Record.check_ap_eq_ok_iff,
    Record.check_fieldD_eq_ok_iff, Record.check_fieldD_eq_ok_iff, Record.check_fieldD_eq_ok_iff,
    and_iff_right hpure, and_assoc]

theorem collect_record_eq_ok_iff {look : String → Option Json} {t : SearchTerm} :
  record.collect look = .ok t
    ↔ (Record.fieldD "text" .string "").collect look = .ok t.text
      ∧ (Record.fieldD "page_number" .int64 0).collect look = .ok t.pageNumber
      ∧ (Record.fieldD "coordinates" Rectangle.decoder .zero).collect look = .ok t.rectangle
  := by
  rw [record]
  constructor
  · intro h
    obtain ⟨f, r, hf, hr, rfl⟩ := Record.collect_ap_eq_ok_iff.1 h
    obtain ⟨g, n, hg, hn, rfl⟩ := Record.collect_ap_eq_ok_iff.1 hf
    obtain ⟨k, s, hk, hs, rfl⟩ := Record.collect_ap_eq_ok_iff.1 hg
    cases hk
    exact ⟨hs, hn, hr⟩
  · rintro ⟨hs, hn, hr⟩
    refine Record.collect_ap_eq_ok_iff.2 ⟨SearchTerm.mk t.text t.pageNumber, _, ?_, hr, rfl⟩
    refine Record.collect_ap_eq_ok_iff.2 ⟨SearchTerm.mk t.text, _, ?_, hn, rfl⟩
    apply Record.collect_ap_eq_ok_iff.2 ⟨SearchTerm.mk, _, rfl, hs, rfl⟩

/-- Fields are read exactly as the term that they mirror. -/
theorem ofFields_eq_ok_iff {t : SearchTerm} :
  record.ofFields fields = .ok t ↔ Mirrors fields t
  := by
  have hmirrors : Mirrors fields t
      ↔ Json.Gives "text" (fun v s => Decoder.string v = .ok s) "" fields t.text
        ∧ Json.Gives "page_number" (fun v n => Decoder.int64 v = .ok n) 0 fields t.pageNumber
        ∧ Json.Gives "coordinates"
          (fun v r => Rectangle.decoder v = .ok r) .zero fields t.rectangle := by
    simp only [Decoder.string_eq_ok_iff, Decoder.int64_eq_ok_iff, Rectangle.decoder_eq_ok_iff]
    exact ⟨fun h => ⟨h.text, h.pageNumber, h.rectangle⟩, fun h => ⟨h.1, h.2.1, h.2.2⟩⟩
  have hnames : record.names = ["text", "page_number", "coordinates"] := rfl
  rw [hmirrors, Json.gives_iff, Json.gives_iff, Json.gives_iff, Record.ofFields_eq_ok_iff, hnames,
    collect_record_eq_ok_iff]
  simp only [check_record_eq_ok_iff, List.mem_cons, List.not_mem_nil, forall_eq_or_imp,
    String.reduceEq, forall_true_left, IsEmpty.forall_iff, implies_true, and_true, true_and]
  tauto

/-- An integer is in the range of 64 bits with sign exactly if it is an integer of 64 bits with
sign. -/
theorem exists_int64_iff {v : Json} :
  (∃ n : Int, v = .ofInt n ∧ -0x8000000000000000 ≤ n ∧ n < 0x8000000000000000)
    ↔ ∃ n : Int64, v = .ofInt n.toInt
  := by
  constructor
  · rintro ⟨n, rfl, hle, hlt⟩
    use Int64.ofInt n
    rw [Int64.toInt_ofInt_of_le hle hlt]
  · rintro ⟨n, rfl⟩
    exact ⟨n.toInt, rfl, n.le_toInt, n.toInt_lt⟩

theorem exists_rectangle_iff {v : Json} :
  (∃ a b c d : Number, v = .array [.array [.number a, .number b], .array [.number c, .number d]])
    ↔ ∃ (r : Rectangle) (a b c d : Number),
        v = .array [.array [.number a, .number b], .array [.number c, .number d]]
        ∧ r = ⟨⟨a.toFloat, b.toFloat⟩, ⟨c.toFloat, d.toFloat⟩⟩
  := by
  constructor
  · rintro ⟨a, b, c, d, rfl⟩
    exact ⟨_, a, b, c, d, rfl, rfl⟩
  · rintro ⟨-, a, b, c, d, rfl, -⟩
    exact ⟨a, b, c, d, rfl⟩

/-- Fields are those of a term exactly if they mirror one. -/
theorem isTerm_iff_exists_mirrors :
  IsTerm fields ↔ ∃ t, Mirrors fields t
  := by
  constructor
  · rintro ⟨htext, hpage, hrectangle⟩
    obtain ⟨s, hs⟩ := (Json.isOptional_iff_exists_gives "" fun v => Iff.rfl).1 htext
    obtain ⟨n, hn⟩ := (Json.isOptional_iff_exists_gives 0 fun v => exists_int64_iff).1 hpage
    obtain ⟨r, hr⟩ :=
      (Json.isOptional_iff_exists_gives .zero fun v => exists_rectangle_iff).1 hrectangle
    exact ⟨⟨s, n, r⟩, hs, hn, hr⟩
  · rintro ⟨t, htext, hpage, hrectangle⟩
    refine ⟨?_, ?_, ?_⟩
    · apply (Json.isOptional_iff_exists_gives "" fun v => Iff.rfl).2 ⟨_, htext⟩
    · apply (Json.isOptional_iff_exists_gives 0 fun v => exists_int64_iff).2 ⟨_, hpage⟩
    · apply (Json.isOptional_iff_exists_gives .zero fun v => exists_rectangle_iff).2 ⟨_, hrectangle⟩

theorem exists_ofFields_eq_error (h : ¬IsTerm fields) :
  ∃ e, record.ofFields fields = .error e
  := by
  cases hfields : record.ofFields fields with
  | error e => exact ⟨e, rfl⟩
  | ok t =>
    rw [ofFields_eq_ok_iff] at hfields
    cases h (isTerm_iff_exists_mirrors.2 ⟨t, hfields⟩)

end SearchTerm

/-! ### Nodes -/

namespace SearchTree

/-- The keys of the nodes that have parts. -/
def IsJoint (key : String) : Prop := key = "and" ∨ key = "or" ∨ key = "not"

instance : DecidablePred IsJoint :=
  fun key => inferInstanceAs (Decidable (key = "and" ∨ key = "or" ∨ key = "not"))

/-- The values that are search requests. -/
@[mk_iff]
inductive IsRequest : Json → Prop where
  | search {fields : List (String × Json)} (h : SearchTerm.IsTerm fields) :
    IsRequest (.object [("search", .object fields)])
  | joint {key : String} {items : List Json} (hkey : IsJoint key) (h : ∀ j ∈ items, IsRequest j) :
    IsRequest (.object [(key, .array items)])

/-- A value mirrors a tree node for node, and the parts of every node are in the same order. -/
@[mk_iff]
inductive Mirrors : Json → SearchTree → Prop where
  | leaf {fields : List (String × Json)} {t : SearchTerm} (h : t.Mirrors fields) :
    Mirrors (.object [("search", .object fields)]) (.leaf t)
  | and {items : List Json} {parts : List SearchTree} (h : List.Forall₂ Mirrors items parts) :
    Mirrors (.object [("and", .array items)]) (.and parts)
  | or {items : List Json} {parts : List SearchTree} (h : List.Forall₂ Mirrors items parts) :
    Mirrors (.object [("or", .array items)]) (.or parts)
  | not {items : List Json} {parts : List SearchTree} (h : List.Forall₂ Mirrors items parts) :
    Mirrors (.object [("not", .array items)]) (.not parts)

/-- What is wrong with a node, whatever its parts are. -/
inductive Fault : Json → QueryError → Prop where
  | noObject {j : Json} (h : ∀ fields, j ≠ .object fields) :
    Fault j (.typeIncorrect (.nodeKind j.kind))
  | empty : Fault (.object []) (.typeIncorrect .emptyNode)
  | tooMany {fields : List (String × Json)} (h : 1 < fields.length) :
    Fault (.object fields) (.tooManyAttrs fields.length)
  | unknown {key : String} {j : Json} (hsearch : key ≠ "search") (hjoint : ¬IsJoint key) :
    Fault (.object [(key, j)]) (.keyUnsupported key)
  | noTermObject {j : Json} (h : ∀ fields, j ≠ .object fields) :
    Fault (.object [("search", j)]) (.typeIncorrect (.searchKind j.kind))
  | noTerm {fields : List (String × Json)} {e : DecodeError} (h : ¬SearchTerm.IsTerm fields)
    (he : SearchTerm.record.ofFields fields = .error e) :
    Fault (.object [("search", .object fields)]) (.typeIncorrect (.search e))
  | noArray {key : String} {j : Json} (hkey : IsJoint key) (h : ∀ items, j ≠ .array items) :
    Fault (.object [(key, j)]) (.typeIncorrect (.listKind key j.kind))

/-- Nothing is wrong with a node, whatever its parts are. -/
def Sound (j : Json) : Prop := ∀ e, ¬Fault j e

mutual

/-- The nodes of a value depth first, from left to right. -/
def nodes : Json → List Json
  | .object [(key, .array items)] =>
    .object [(key, .array items)] :: if IsJoint key then nodesOfItems items else []
  | j => [j]

/-- The nodes of the items of an array. -/
def nodesOfItems : List Json → List Json
  | [] => []
  | j :: js => nodes j ++ nodesOfItems js

end

/-- The first node at fault among those of a list is wrong as `e` says. -/
def FirstFault (js : List Json) (e : QueryError) : Prop :=
  ∃ before j after, js = before ++ j :: after ∧ (∀ k ∈ before, Sound k) ∧ Fault j e

/-! ### The first fault of a list -/

theorem firstFault_cons_iff {j : Json} {js : List Json} {e : QueryError} :
  FirstFault (j :: js) e ↔ Fault j e ∨ Sound j ∧ FirstFault js e
  := by
  constructor
  · rintro ⟨_ | ⟨k, before⟩, i, after, hjs, hbefore, hi⟩
    · cases hjs
      exact .inl hi
    · cases hjs
      rw [List.forall_mem_cons] at hbefore
      exact .inr ⟨hbefore.1, before, i, after, rfl, hbefore.2, hi⟩
  · rintro (hj | ⟨hj, before, i, after, rfl, hbefore, hi⟩)
    · exact ⟨[], j, js, rfl, by simp, hj⟩
    · exact ⟨j :: before, i, after, rfl, List.forall_mem_cons.2 ⟨hj, hbefore⟩, hi⟩

theorem not_firstFault_nil {e : QueryError} :
  ¬FirstFault [] e
  := by
  rintro ⟨_ | _, _, _, h, -⟩ <;> cases h

theorem firstFault_append_iff {js ks : List Json} {e : QueryError} :
  FirstFault (js ++ ks) e ↔ FirstFault js e ∨ (∀ j ∈ js, Sound j) ∧ FirstFault ks e
  := by
  induction js with
  | nil => simp [not_firstFault_nil]
  | cons j js ih =>
    rw [List.cons_append, firstFault_cons_iff, firstFault_cons_iff, ih, List.forall_mem_cons]
    tauto

/-- A list has a node at fault, unless all its nodes are sound. -/
theorem forall_sound_iff {js : List Json} :
  (∀ j ∈ js, Sound j) ↔ ∀ e, ¬FirstFault js e
  := by
  induction js with
  | nil => simp [not_firstFault_nil]
  | cons j js ih =>
    rw [List.forall_mem_cons, ih]
    simp only [firstFault_cons_iff, not_or, not_and, forall_and]
    exact ⟨fun h => ⟨h.1, fun e _ => h.2 e⟩, fun h => ⟨h.1, fun e => h.2 e h.1⟩⟩

/-! ### Reading a node -/

variable {j : Json} {key : String} {items : List Json} {t : SearchTree} {e : QueryError}

theorem sound_search {fields : List (String × Json)} (hfields : SearchTerm.IsTerm fields) :
  Sound (.object [("search", .object fields)])
  := by
  intro e h
  cases h with
  | noObject h => apply h _ rfl
  | tooMany h => simp at h
  | unknown hsearch => apply hsearch rfl
  | noTermObject h => apply h _ rfl
  | noTerm h => apply h hfields
  | noArray hkey => simp [IsJoint] at hkey

theorem IsJoint.sound (hkey : IsJoint key) :
  Sound (.object [(key, .array items)])
  := by
  intro e h
  cases h with
  | noObject h => apply h _ rfl
  | tooMany h => simp at h
  | unknown _ hjoint => apply hjoint hkey
  | noTermObject => simp [IsJoint] at hkey
  | noArray _ h => apply h _ rfl

theorem nodes_joint (hkey : IsJoint key) :
  nodes (.object [(key, .array items)]) = .object [(key, .array items)] :: nodesOfItems items
  := by
  rw [nodes, if_pos hkey]

/-- Reading a node with parts reads its parts, which mirror the parts of the tree. -/
theorem IsJoint.exists_join (hkey : IsJoint key) :
  ∃ join : List SearchTree → SearchTree,
    (∀ items, ofJson (.object [(key, .array items)]) = join <$> ofItems items)
    ∧ ∀ items t, Mirrors (.object [(key, .array items)]) t
        ↔ ∃ parts, join parts = t ∧ List.Forall₂ Mirrors items parts
  := by
  obtain rfl | rfl | rfl := hkey
  · refine ⟨.and, fun items => by rw [ofJson], fun items t => ?_⟩
    simp [mirrors_iff, and_comm, eq_comm]
  · refine ⟨.or, fun items => by rw [ofJson], fun items t => ?_⟩
    simp [mirrors_iff, and_comm, eq_comm]
  · refine ⟨.not, fun items => by rw [ofJson], fun items t => ?_⟩
    simp [mirrors_iff, and_comm, eq_comm]

/-- A value that is at fault is refused with the error of its fault. -/
theorem Fault.ofJson_eq (h : Fault j e) :
  ofJson j = .error e
  := by
  cases h with
  | noObject h => rw [ofJson] <;> simp [h]
  | empty => rw [ofJson]
  | @tooMany fields h =>
    rcases fields with _ | ⟨f, _ | ⟨g, fields⟩⟩
    · simp at h
    · simp at h
    · rw [ofJson] <;> simp
  | unknown hsearch hjoint =>
    simp only [IsJoint, not_or] at hjoint
    rw [ofJson] <;> simp_all
  | noTermObject h =>
    rw [ofJson, SearchTerm.ofJson]
    · rfl
    · exact h
  | noTerm _ he =>
    rw [ofJson, SearchTerm.ofJson, he]
    rfl
  | noArray hkey h => obtain rfl | rfl | rfl := hkey <;> rw [ofJson] <;> simp [h]

theorem Fault.nodes_eq (h : Fault j e) :
  nodes j = [j]
  := by
  cases h with
  | noObject h => rw [nodes]; simp [h]
  | empty => rw [nodes]; simp
  | @tooMany fields h =>
    rcases fields with _ | ⟨f, _ | ⟨g, fields⟩⟩
    · simp at h
    · simp at h
    · rw [nodes]
      simp
  | @unknown key j hsearch hjoint =>
    cases j <;> simp [nodes, hjoint]
  | @noTermObject j h => cases j <;> simp [nodes, IsJoint]
  | noTerm => rw [nodes]; simp
  | @noArray key j hkey h => cases j <;> simp_all [nodes]

theorem ofJson_search_eq_ok_iff {fields : List (String × Json)} :
  ofJson (.object [("search", .object fields)]) = .ok t
    ↔ ∃ u, SearchTerm.Mirrors fields u ∧ .leaf u = t
  := by
  simp only [ofJson, SearchTerm.ofJson, ← SearchTerm.ofFields_eq_ok_iff]
  cases SearchTerm.record.ofFields fields <;> simp [Functor.map, Except.map]

/-- A value is a node for a term, a node with parts, or at fault. -/
theorem node_cases (j : Json) :
  (∃ fields, SearchTerm.IsTerm fields ∧ j = .object [("search", .object fields)])
    ∨ (∃ key items, IsJoint key ∧ j = .object [(key, .array items)])
    ∨ ∃ e, Fault j e
  := by
  cases j with
  | object fields =>
    rcases fields with _ | ⟨⟨key, j⟩, _ | ⟨f, fields⟩⟩
    · exact .inr (.inr ⟨_, .empty⟩)
    · by_cases hsearch : key = "search"
      · subst hsearch
        cases j with
        | object fields =>
          by_cases hfields : SearchTerm.IsTerm fields
          · exact .inl ⟨fields, hfields, rfl⟩
          · obtain ⟨e, he⟩ := SearchTerm.exists_ofFields_eq_error hfields
            exact .inr (.inr ⟨_, .noTerm hfields he⟩)
        | _ => exact .inr (.inr ⟨_, .noTermObject (by simp)⟩)
      · by_cases hjoint : IsJoint key
        · cases j with
          | array items => exact .inr (.inl ⟨key, items, hjoint, rfl⟩)
          | _ => exact .inr (.inr ⟨_, .noArray hjoint (by simp)⟩)
        · exact .inr (.inr ⟨_, .unknown hsearch hjoint⟩)
    · exact .inr (.inr ⟨_, .tooMany (by simp)⟩)
  | _ => exact .inr (.inr ⟨_, .noObject (by simp)⟩)

/-- What holds of a node if it holds of its parts holds of every value. -/
theorem node_induction {P : Json → Prop}
    (h : ∀ j, (∀ key items, j = .object [(key, .array items)] → ∀ v ∈ items, P v) → P j)
    (j : Json) :
  P j
  := by
  apply h
  intro key items hj v hv
  apply node_induction h v
termination_by sizeOf j
decreasing_by
  have hlt := List.sizeOf_lt_of_mem hv
  simp [hj]
  omega

/-! ### Reading a value -/

theorem ofItems_cons_eq_ok_iff {js : List Json} {ts : List SearchTree} :
  ofItems (j :: js) = .ok ts
    ↔ ∃ t us, ofJson j = .ok t ∧ ofItems js = .ok us ∧ ts = t :: us
  := by
  rw [ofItems]
  constructor
  · intro h
    obtain ⟨t, ht, h⟩ := eq_ok_of_bind_eq_ok h
    obtain ⟨us, hus, h⟩ := eq_ok_of_bind_eq_ok h
    cases h
    exact ⟨t, us, ht, hus, rfl⟩
  · rintro ⟨t, us, ht, hus, rfl⟩
    rw [ht, hus]
    rfl

theorem ofItems_cons_eq_error_iff {js : List Json} :
  ofItems (j :: js) = .error e
    ↔ ofJson j = .error e ∨ (∃ t, ofJson j = .ok t) ∧ ofItems js = .error e
  := by
  rw [ofItems]
  cases ofJson j with
  | error e' => simp [bind, Except.bind]
  | ok t => cases ofItems js <;> simp [bind, Except.bind, pure, Except.pure]

theorem ofItems_eq_ok_iff (h : ∀ v ∈ items, ∀ t, ofJson v = .ok t ↔ Mirrors v t)
    {ts : List SearchTree} :
  ofItems items = .ok ts ↔ List.Forall₂ Mirrors items ts
  := by
  induction items generalizing ts with
  | nil => simp [ofItems, eq_comm]
  | cons v vs ih =>
    rw [List.forall_mem_cons] at h
    rw [ofItems_cons_eq_ok_iff, List.forall₂_cons_left_iff]
    refine exists₂_congr fun t us => ?_
    rw [h.1, ih h.2]

theorem Mirrors.sound (h : Mirrors j t) :
  Sound j
  := by
  cases h with
  | leaf h => apply sound_search (SearchTerm.isTerm_iff_exists_mirrors.2 ⟨_, h⟩)
  | and => apply IsJoint.sound (.inl rfl)
  | or => apply IsJoint.sound (.inr (.inl rfl))
  | not => apply IsJoint.sound (.inr (.inr rfl))

theorem IsRequest.sound (h : IsRequest j) :
  Sound j
  := by
  cases h with
  | search h => apply sound_search h
  | joint hkey => apply hkey.sound

/-- A value is read as a tree exactly if it mirrors the tree. -/
theorem ofJson_eq_ok_iff :
  ofJson j = .ok t ↔ Mirrors j t
  := by
  induction j using node_induction generalizing t with
  | h j ih =>
    obtain ⟨fields, hfields, rfl⟩ | ⟨key, items, hkey, rfl⟩ | ⟨e, he⟩ := node_cases j
    · rw [ofJson_search_eq_ok_iff]
      simp [mirrors_iff, eq_comm]
    · obtain ⟨join, hread, hmirrors⟩ := hkey.exists_join
      rw [hread, hmirrors]
      have hitems {ts} : ofItems items = .ok ts ↔ _ :=
        ofItems_eq_ok_iff fun v hv t => ih key items rfl v hv
      simp only [← hitems]
      cases ofItems items <;> simp [Functor.map, Except.map]
    · rw [he.ofJson_eq]
      refine iff_of_false (by simp) fun h => h.sound e he

theorem forall_exists_iff_exists_forall₂ {α β : Type} {r : α → β → Prop} {as : List α} :
  (∀ a ∈ as, ∃ b, r a b) ↔ ∃ bs, List.Forall₂ r as bs
  := by
  induction as with
  | nil => simp
  | cons a as ih =>
    simp only [List.forall_mem_cons, List.forall₂_cons_left_iff, ih]
    constructor
    · rintro ⟨⟨b, hb⟩, bs, hbs⟩
      exact ⟨_, b, bs, hb, hbs, rfl⟩
    · rintro ⟨_, b, bs, hb, hbs, -⟩
      exact ⟨⟨b, hb⟩, bs, hbs⟩

/-- A value is a request exactly if it mirrors some tree. -/
theorem isRequest_iff_exists_mirrors :
  IsRequest j ↔ ∃ t, Mirrors j t
  := by
  induction j using node_induction with
  | h j ih =>
    obtain ⟨fields, hfields, rfl⟩ | ⟨key, items, hkey, rfl⟩ | ⟨e, he⟩ := node_cases j
    · obtain ⟨t, ht⟩ := SearchTerm.isTerm_iff_exists_mirrors.1 hfields
      exact iff_of_true (.search hfields) ⟨_, .leaf ht⟩
    · obtain ⟨join, -, hmirrors⟩ := hkey.exists_join
      have hjoint : IsRequest (.object [(key, .array items)]) ↔ ∀ v ∈ items, IsRequest v := by
        rw [isRequest_iff]
        simp [hkey]
      rw [hjoint, forall₂_congr fun v hv => ih key items rfl v hv, forall_exists_iff_exists_forall₂]
      simp only [hmirrors]
      tauto
    · refine iff_of_false (fun h => h.sound e he) ?_
      rintro ⟨t, ht⟩
      apply ht.sound e he

/-- An array is refused with the error of the first fault among the nodes of its items. -/
theorem ofItems_eq_error_iff
    (h : ∀ v ∈ items, ∀ e, ofJson v = .error e ↔ FirstFault (nodes v) e) :
  ofItems items = .error e ↔ FirstFault (nodesOfItems items) e
  := by
  induction items with
  | nil => simp [ofItems, nodesOfItems, not_firstFault_nil]
  | cons v vs ih =>
    rw [List.forall_mem_cons] at h
    have hok : (∃ t, ofJson v = .ok t) ↔ ∀ e, ofJson v ≠ .error e := by
      cases ofJson v <;> simp
    rw [ofItems_cons_eq_error_iff, nodesOfItems, firstFault_append_iff, forall_sound_iff, hok, h.1,
      ih h.2]
    simp only [ne_eq, h.1]

/-- A value is refused with the error of the first fault among its nodes. -/
theorem ofJson_eq_error_iff :
  ofJson j = .error e ↔ FirstFault (nodes j) e
  := by
  induction j using node_induction generalizing e with
  | h j ih =>
    obtain ⟨fields, hfields, rfl⟩ | ⟨key, items, hkey, rfl⟩ | ⟨e', he⟩ := node_cases j
    · obtain ⟨t, ht⟩ := SearchTerm.isTerm_iff_exists_mirrors.1 hfields
      have hnodes : nodes (.object [("search", .object fields)])
          = [.object [("search", .object fields)]] := by
        rw [nodes]
        simp
      rw [ofJson_search_eq_ok_iff.2 ⟨t, ht, rfl⟩, hnodes, firstFault_cons_iff]
      simp [sound_search hfields e, not_firstFault_nil]
    · obtain ⟨join, hread, -⟩ := hkey.exists_join
      have hitems {e} : ofItems items = .error e ↔ _ :=
        ofItems_eq_error_iff fun v hv e => ih key items rfl v hv
      have hmap : join <$> ofItems items = .error e ↔ ofItems items = .error e := by
        cases ofItems items <;> simp [Functor.map, Except.map]
      rw [hread, nodes_joint hkey, firstFault_cons_iff, hmap, hitems]
      have hsound : Sound (.object [(key, .array items)]) := hkey.sound
      simp [hsound, hsound e]
    · have hsound : ¬Sound j := fun h => h e' he
      rw [he.nodes_eq, firstFault_cons_iff, he.ofJson_eq]
      constructor
      · rintro ⟨⟩
        exact .inl he
      · rintro (h | ⟨h, -⟩)
        · rw [← he.ofJson_eq, h.ofJson_eq]
        · cases hsound h

/-- Reading accepts exactly the requests.  It gives the tree that a request mirrors, and refuses
everything else with the error of the first node at fault, depth first and from left to right. -/
theorem ofJson_outcomes (j : Json) :
  ((∃ t, ofJson j = .ok t) ↔ IsRequest j)
    ∧ (∀ t, ofJson j = .ok t ↔ Mirrors j t)
    ∧ ∀ e, ofJson j = .error e ↔ FirstFault (nodes j) e
  := by
  simp only [ofJson_eq_ok_iff, ofJson_eq_error_iff, isRequest_iff_exists_mirrors, implies_true,
    and_self]

end SearchTree

end ScanIndex
