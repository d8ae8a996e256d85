import ScanIndex.Change.Batch
import ScanIndex.Proofs.Json.Required
import ScanIndex.Proofs.Text.Percent

/-!
# Lists of events and notifications

A list of events and a notification with the same names, buckets and keys are read as the same
events, if the names in the notification are replaced by those of the kinds of changes (`NamesKind`)
and its keys are in the encoding of forms (`FormEncodes`).  A batch is refused as a whole if one of
its events lacks a field, or has a key that is no text (`readBatch_forms_agree`).
-/

namespace ScanIndex

open Json (named)

variable {j : Json}

/-! ### Events in lists -/

namespace ChangeEvent

/-- The names of the fields of an event in a list of events. -/
def fieldNames : List String := ["event_name", "bucket", "key"]

/-- The value is the event, as a list of events has it. -/
def IsGivenBy (e : ChangeEvent) (j : Json) : Prop :=
  j.IsRecord fieldNames [.string e.name, .string e.file.bucket, .string e.file.key]

/-- The value lacks a field of an event, as a list of events has it. -/
def Lacks (j : Json) : Prop := ∃ name ∈ fieldNames, j.part? fieldNames name = none

theorem decoder_eq_ok_iff {e : ChangeEvent} :
  decoder j = .ok e ↔ e.IsGivenBy j
  := by
  have h := Record.requires_pure fun name bucket key => ChangeEvent.mk name ⟨bucket, key⟩
  have h := ((h.ap_field "event_name" .string).ap_field "bucket" .string).ap_field "key" .string
  rw [decoder, h.decoder_eq_ok_iff]
  constructor
  · rintro ⟨_, hj, _, _, _, key, rfl,
      ⟨_, _, _, bucket, rfl, ⟨_, _, _, name, rfl, ⟨rfl, rfl⟩, hname, rfl⟩, hbucket, rfl⟩, hkey, rfl⟩
    rw [Decoder.string_eq_ok_iff.1 hname, Decoder.string_eq_ok_iff.1 hbucket,
      Decoder.string_eq_ok_iff.1 hkey] at hj
    exact hj
  · intro hj
    exact ⟨_, hj, [_, _], _, _, _, rfl,
      ⟨[_], _, _, _, rfl, ⟨[], _, _, _, rfl, ⟨rfl, rfl⟩, rfl, rfl⟩, rfl, rfl⟩, rfl, rfl⟩

theorem Lacks.not_isGivenBy (h : Lacks j) (e : ChangeEvent) :
  ¬e.IsGivenBy j
  := by
  intro he
  obtain ⟨name, hname, hnone⟩ := h
  obtain ⟨i, hi, rfl⟩ := List.mem_iff_getElem.1 hname
  rw [Json.IsRecord.part?_eq he (by decide) hi, List.getElem?_eq_none_iff] at hnone
  exact Nat.not_le_of_lt hi hnone

end ChangeEvent

/-! ### Events in notifications -/

namespace NotifiedEvent

/-- The value is the event, as a notification has it. -/
def IsGivenBy (n : NotifiedEvent) (j : Json) : Prop :=
  ∃ place bucket object,
    j.IsRecord ["eventName", "s3"] [.string n.name, place]
    ∧ place.IsRecord ["bucket", "object"] [bucket, object]
    ∧ bucket.IsRecord ["name"] [.string n.bucket]
    ∧ object.IsRecord ["key"] [.string n.rawKey]

/-- What a value has for the name of an event. -/
def name? (j : Json) : Option Json := j.part? ["eventName", "s3"] "eventName"

/-- What a value has for the place of an event. -/
def place? (j : Json) : Option Json := j.part? ["eventName", "s3"] "s3"

/-- What a value has for the bucket of an event. -/
def bucket? (j : Json) : Option Json := do
  let place ← place? j
  let bucket ← place.part? ["bucket", "object"] "bucket"
  bucket.part? ["name"] "name"

/-- What a value has for the key of an event. -/
def key? (j : Json) : Option Json := do
  let place ← place? j
  let object ← place.part? ["bucket", "object"] "object"
  object.part? ["key"] "key"

/-- The value lacks a field of an event, as a notification has it. -/
def Lacks (j : Json) : Prop := name? j = none ∨ bucket? j = none ∨ key? j = none

variable {n : NotifiedEvent}

theorem decoder_eq_ok_iff :
  decoder j = .ok n ↔ n.IsGivenBy j
  := by
  have hbucket {j : Json} {s : String} : bucketDecoder j = .ok s
      ↔ j.IsRecord ["name"] [.string s] := by
    simp [bucketDecoder, Record.decoder_singleton_eq_ok_iff, Decoder.string_eq_ok_iff]
  have hkey {j : Json} {s : String} : keyDecoder j = .ok s ↔ j.IsRecord ["key"] [.string s] := by
    simp [keyDecoder, Record.decoder_singleton_eq_ok_iff, Decoder.string_eq_ok_iff]
  rw [decoder, Record.decoder_pair_eq_ok_iff]
  simp only [placeDecoder, Record.decoder_pair_eq_ok_iff, Decoder.string_eq_ok_iff, hbucket, hkey]
  constructor
  · rintro ⟨_, place, name, _, hj, rfl, ⟨bucket, object, s, raw, hplace, hs, hraw, rfl⟩, rfl⟩
    exact ⟨place, bucket, object, hj, hplace, hs, hraw⟩
  · rintro ⟨place, bucket, object, hj, hplace, hs, hraw⟩
    exact ⟨_, place, n.name, _, hj, rfl,
      ⟨bucket, object, n.bucket, n.rawKey, hplace, hs, hraw, rfl⟩, rfl⟩

theorem listDecoder_eq_ok_iff {ns : List NotifiedEvent} :
  listDecoder j = .ok ns
    ↔ ∃ records, j.IsRecord ["Records"] [.array records] ∧ records.mapM decoder = .ok ns
  := by
  rw [listDecoder, Record.decoder_singleton_eq_ok_iff]
  constructor
  · rintro ⟨v, _, hj, hns, rfl⟩
    cases v with
    | array records => exact ⟨records, hj, hns⟩
    | _ => cases hns
  · rintro ⟨records, hj, hns⟩
    exact ⟨_, ns, hj, hns, rfl⟩

/-- An event has all its fields in the value that gives it. -/
theorem IsGivenBy.fields_eq (h : n.IsGivenBy j) :
  name? j = some (.string n.name) ∧ bucket? j = some (.string n.bucket)
    ∧ key? j = some (.string n.rawKey)
  := by
  obtain ⟨place, bucket, object, hj, hplace, hbucket, hobject⟩ := h
  have hnames : ["eventName", "s3"].Nodup := by decide
  have hparts : ["bucket", "object"].Nodup := by decide
  have hname : name? j = some (.string n.name) := hj.part?_eq hnames (i := 0) (by decide)
  have hs3 : place? j = some place := hj.part?_eq hnames (i := 1) (by decide)
  have hs3bucket : place.part? ["bucket", "object"] "bucket" = some bucket :=
    hplace.part?_eq hparts (i := 0) (by decide)
  have hs3object : place.part? ["bucket", "object"] "object" = some object :=
    hplace.part?_eq hparts (i := 1) (by decide)
  refine ⟨hname, ?_, ?_⟩
  · rw [bucket?, hs3]
    change (place.part? ["bucket", "object"] "bucket").bind _ = _
    rw [hs3bucket]
    exact hbucket.part?_eq (by decide) (i := 0) (by decide)
  · rw [key?, hs3]
    change (place.part? ["bucket", "object"] "object").bind _ = _
    rw [hs3object]
    exact hobject.part?_eq (by decide) (i := 0) (by decide)

/-! ### What an event in a notification stands for -/

/-- The kind of change that a name in a notification stands for.  Names of other forms stand for
themselves. -/
inductive NamesKind : String → String → Prop
  | created (rest : String) : NamesKind ("ObjectCreated:" ++ rest) "OBJECT_CREATED"
  | removed (rest : String) : NamesKind ("ObjectRemoved:" ++ rest) "OBJECT_REMOVED"
  | other {name : String} (hcreated : ∀ rest, name ≠ "ObjectCreated:" ++ rest)
    (hremoved : ∀ rest, name ≠ "ObjectRemoved:" ++ rest) : NamesKind name name

theorem isPrefixOf_toList_iff {s t : String} :
  s.toList.isPrefixOf t.toList = true ↔ ∃ rest, t = s ++ rest
  := by
  rw [List.isPrefixOf_iff_prefix]
  constructor
  · rintro ⟨cs, hcs⟩
    use String.ofList cs
    rw [← String.toList_inj, String.toList_append, String.toList_ofList, hcs]
  · rintro ⟨rest, rfl⟩
    rw [String.toList_append]
    apply List.prefix_append

theorem namesKind_kindName (name : String) :
  NamesKind name (kindName name)
  := by
  rw [kindName]
  split
  next hcreated =>
    obtain ⟨rest, rfl⟩ := isPrefixOf_toList_iff.1 hcreated
    apply NamesKind.created
  next hcreated =>
    rw [isPrefixOf_toList_iff, not_exists] at hcreated
    split
    next hremoved =>
      obtain ⟨rest, rfl⟩ := isPrefixOf_toList_iff.1 hremoved
      apply NamesKind.removed
    next hremoved =>
      rw [isPrefixOf_toList_iff, not_exists] at hremoved
      apply NamesKind.other hcreated hremoved

/-- A key is read if its bytes are those of a text. -/
theorem decodeKey_eq_ok_iff {raw key : String} :
  decodeKey raw = .ok key ↔ Utf8.encode key = percentDecode (spaced (Utf8.encode raw))
  := by
  rw [← Utf8.decode_eq_ok_iff, decodeKey]
  cases Utf8.decode (percentDecode (spaced (Utf8.encode raw))) <;> simp

/-- The encoding of a key, in whatever way its characters are written, is read as the key. -/
theorem decodeKey_of_formEncodes {raw key : String} (h : FormEncodes key.toList raw.toList) :
  decodeKey raw = .ok key
  := by
  rw [decodeKey_eq_ok_iff, ← formBytes_toList, formBytes_of_formEncodes h, Utf8.encode_eq_flatMap]

theorem toEvent_eq_ok_iff {e : ChangeEvent} :
  n.toEvent = .ok e ↔ ∃ key, decodeKey n.rawKey = .ok key ∧ e = ⟨kindName n.name, n.bucket, key⟩
  := by
  rw [toEvent]
  cases decodeKey n.rawKey <;> simp [bind, Except.bind, pure, Except.pure, eq_comm]

/-- The event has the name and the bucket of an event of a list, and its key in the encoding of
forms. -/
structure Encodes (n : NotifiedEvent) (e : ChangeEvent) : Prop where
  name : n.name = e.name
  bucket : n.bucket = e.file.bucket
  key : FormEncodes e.file.key.toList n.rawKey.toList

/-- An event in a notification is read as the event that it encodes, under the name of its kind. -/
theorem Encodes.toEvent_eq {e : ChangeEvent} (h : n.Encodes e) :
  n.toEvent = .ok { e with name := kindName e.name }
  := by
  rw [toEvent_eq_ok_iff]
  use e.file.key
  use decodeKey_of_formEncodes h.key
  rw [h.name, h.bucket]

/-- The value is no event: it lacks a field, or has a key that is no text. -/
inductive Flawed (j : Json) : Prop
  | lacks (h : Lacks j)
  | key {raw : String} (hraw : key? j = some (.string raw))
    (h : ∀ s, Utf8.encode s ≠ percentDecode (spaced (Utf8.encode raw)))

theorem Lacks.not_isGivenBy (h : Lacks j) (n : NotifiedEvent) :
  ¬n.IsGivenBy j
  := by
  intro hn
  obtain ⟨hname, hbucket, hkey⟩ := hn.fields_eq
  rcases h with h | h | h
  · rw [hname] at h
    cases h
  · rw [hbucket] at h
    cases h
  · rw [hkey] at h
    cases h

theorem Flawed.toEvent_ne_ok (h : Flawed j) (hn : n.IsGivenBy j) (e : ChangeEvent) :
  n.toEvent ≠ .ok e
  := by
  intro he
  cases h with
  | lacks h => exact h.not_isGivenBy n hn
  | key hraw h =>
    obtain ⟨key, hkey, -⟩ := toEvent_eq_ok_iff.1 he
    rw [hn.fields_eq.2.2] at hraw
    cases hraw
    exact h key (decodeKey_eq_ok_iff.1 hkey)

end NotifiedEvent

/-! ### Batches -/

theorem BatchError.ofDecoder_eq_ok_iff {α : Type} {r : Except DecodeError α} {a : α} :
  ofDecoder r = .ok a ↔ r = .ok a
  := by
  cases r <;> simp [ofDecoder]

theorem readBatch_array_eq_ok_iff {items : List Json} {es : List ChangeEvent} :
  readBatch (.array items) = .ok es ↔ items.mapM ChangeEvent.decoder = .ok es
  := BatchError.ofDecoder_eq_ok_iff

/-- A notification is read as the events that its records stand for. -/
theorem readBatch_object_eq_ok_iff {fields : List (String × Json)} {es : List ChangeEvent} :
  readBatch (.object fields) = .ok es
    ↔ ∃ records ns, named "Records" fields = [.array records]
      ∧ records.mapM NotifiedEvent.decoder = .ok ns ∧ ns.mapM NotifiedEvent.toEvent = .ok es
  := by
  have hlist {ns : List NotifiedEvent} : NotifiedEvent.listDecoder (.object fields) = .ok ns
      ↔ ∃ records, named "Records" fields = [.array records]
          ∧ records.mapM NotifiedEvent.decoder = .ok ns := by
    rw [NotifiedEvent.listDecoder_eq_ok_iff]
    simp [Json.IsRecord]
  simp only [readBatch, Json.field?, Json.lookup_eq_head?]
  constructor
  · intro h
    split at h
    next => cases h
    next =>
      obtain ⟨ns, hns, h⟩ := eq_ok_of_bind_eq_ok h
      rw [BatchError.ofDecoder_eq_ok_iff, hlist] at hns
      obtain ⟨records, hrecords, hns⟩ := hns
      exact ⟨records, ns, hrecords, hns, h⟩
  · rintro ⟨records, ns, hrecords, hns, hes⟩
    rw [hrecords, hlist.2 ⟨records, hrecords, hns⟩]
    exact hes

theorem exists_malformed_of_ofDecoder_eq_error {α : Type} {r : Except DecodeError α}
    {e : EventError} (h : BatchError.ofDecoder r = .error e) :
  ∃ b, e = .malformed b
  := by
  cases r with
  | ok a => cases h
  | error d =>
    cases h
    exact ⟨_, rfl⟩

theorem exists_malformed_of_toEvent_eq_error {n : NotifiedEvent} {e : EventError}
    (h : n.toEvent = .error e) :
  ∃ b, e = .malformed b
  := by
  rcases eq_error_of_bind_eq_error h with h | ⟨key, -, h⟩
  · rw [NotifiedEvent.decodeKey] at h
    split at h
    next => cases h
    next =>
      cases h
      exact ⟨_, rfl⟩
  · cases h

/-- Every batch that is not read is malformed. -/
theorem exists_malformed_of_readBatch_eq_error {e : EventError} (h : readBatch j = .error e) :
  ∃ b, e = .malformed b
  := by
  unfold readBatch at h
  split at h
  next items => apply exists_malformed_of_ofDecoder_eq_error h
  next =>
    split at h
    next =>
      cases h
      exact ⟨_, rfl⟩
    next =>
      rcases eq_error_of_bind_eq_error h with h | ⟨ns, -, h⟩
      · apply exists_malformed_of_ofDecoder_eq_error h
      · obtain ⟨_, n, _, -, -, hn⟩ := mapM_eq_error_iff.1 h
        apply exists_malformed_of_toEvent_eq_error hn

theorem exists_code_of_readBatch_ne_ok (h : ∀ es, readBatch j ≠ .ok es) :
  ∃ e, readBatch j = .error e ∧ e.code = "MALFORMED_EVENTS"
  := by
  cases hj : readBatch j with
  | ok es => exact absurd hj (h es)
  | error e =>
    obtain ⟨b, rfl⟩ := exists_malformed_of_readBatch_eq_error hj
    exact ⟨_, rfl, rfl⟩

section

variable {fields : List (String × Json)} {records items : List Json} {ns : List NotifiedEvent}
  {ts : List ChangeEvent} {r : Json}

theorem readBatch_array_of_isGivenBy (h : List.Forall₂ (fun j t => t.IsGivenBy j) items ts) :
  readBatch (.array items) = .ok ts
  := by
  rw [readBatch_array_eq_ok_iff, mapM_eq_ok_iff]
  apply h.imp
  intro j t ht
  apply ChangeEvent.decoder_eq_ok_iff.2 ht

/-- A notification whose events encode those of a list is read as these, under the names of their
kinds. -/
theorem readBatch_object_of_encodes (hfields : named "Records" fields = [.array records])
    (hrecords : List.Forall₂ (fun r n => n.IsGivenBy r) records ns)
    (h : List.Forall₂ NotifiedEvent.Encodes ns ts) :
  readBatch (.object fields)
    = .ok (ts.map fun t => { t with name := NotifiedEvent.kindName t.name })
  := by
  rw [readBatch_object_eq_ok_iff]
  refine ⟨records, ns, hfields, ?_, ?_⟩
  · rw [mapM_eq_ok_iff]
    apply hrecords.imp
    intro r n hn
    apply NotifiedEvent.decoder_eq_ok_iff.2 hn
  · rw [mapM_eq_ok_iff, List.forall₂_map_right_iff]
    apply h.imp
    intro n t ht
    apply ht.toEvent_eq

/-- One event that lacks a field, or has a key that is no text, keeps a notification from being
read. -/
theorem readBatch_object_ne_ok_of_flawed
    (hfields : Json.lookup "Records" fields = some (.array records)) (hr : r ∈ records)
    (h : NotifiedEvent.Flawed r) (es : List ChangeEvent) :
  readBatch (.object fields) ≠ .ok es
  := by
  intro hes
  obtain ⟨records', ns, hrecords, hns, hes⟩ := readBatch_object_eq_ok_iff.1 hes
  rw [Json.lookup_eq_head?, hrecords] at hfields
  cases hfields
  obtain ⟨n, hn, hrn⟩ := exists_mem_of_mapM_eq_ok hns hr
  obtain ⟨e, -, hne⟩ := exists_mem_of_mapM_eq_ok hes hn
  apply h.toEvent_ne_ok (NotifiedEvent.decoder_eq_ok_iff.1 hrn) e hne

theorem readBatch_array_ne_ok_of_lacks (hj : j ∈ items) (h : ChangeEvent.Lacks j)
    (es : List ChangeEvent) :
  readBatch (.array items) ≠ .ok es
  := by
  intro hes
  obtain ⟨e, -, hje⟩ := exists_mem_of_mapM_eq_ok (readBatch_array_eq_ok_iff.1 hes) hj
  apply h.not_isGivenBy e (ChangeEvent.decoder_eq_ok_iff.1 hje)

end

/-- A list of events is read as it is.  A notification with the same names and buckets, whose keys
are encodings of the same keys, is read as the same events under the names of their kinds.  A batch
is refused as malformed if any of its events lacks a field, or has a key that is no text. -/
theorem readBatch_forms_agree :
  (∀ {fields : List (String × Json)} {records items : List Json} {ns : List NotifiedEvent}
      {ts : List ChangeEvent},
      named "Records" fields = [.array records]
      → List.Forall₂ (fun r n => n.IsGivenBy r) records ns
      → List.Forall₂ (fun j t => t.IsGivenBy j) items ts
      → List.Forall₂ NotifiedEvent.Encodes ns ts
      → readBatch (.array items) = .ok ts
        ∧ ∃ es, readBatch (.object fields) = .ok es
          ∧ List.Forall₂ (fun t e => e.file = t.file ∧ NotifiedEvent.NamesKind t.name e.name) ts es)
    ∧ (∀ {fields : List (String × Json)} {records : List Json} {r : Json},
        Json.lookup "Records" fields = some (.array records) → r ∈ records → NotifiedEvent.Flawed r
        → ∃ e, readBatch (.object fields) = .error e ∧ e.code = "MALFORMED_EVENTS")
    ∧ ∀ {items : List Json} {j : Json}, j ∈ items → ChangeEvent.Lacks j
        → ∃ e, readBatch (.array items) = .error e ∧ e.code = "MALFORMED_EVENTS"
  := by
  refine ⟨?_, ?_, ?_⟩
  · intro fields records items ns ts hfields hrecords hitems hencodes
    refine ⟨readBatch_array_of_isGivenBy hitems, _,
      readBatch_object_of_encodes hfields hrecords hencodes, ?_⟩
    rw [List.forall₂_map_right_iff, List.forall₂_same]
    intro t _
    exact ⟨rfl, NotifiedEvent.namesKind_kindName t.name⟩
  · intro fields records r hfields hr hflawed
    apply exists_code_of_readBatch_ne_ok
    apply readBatch_object_ne_ok_of_flawed hfields hr hflawed
  · intro items j hj hlacks
    apply exists_code_of_readBatch_ne_ok
    apply readBatch_array_ne_ok_of_lacks hj hlacks

/-- A key with a character of two bytes, a blank and an encoded plus sign, and batches in which the
event is followed by an empty object. -/
theorem readBatch_forms_agree_escaped :
  let record : Json := .object [("eventName", .string "ObjectCreated:Put"), ("s3", .object [
    ("bucket", .object [("name", .string "b")]),
    ("object", .object [("key", .string "%c3%BC+%2b")])])]
  let event : Json := .object
    [("event_name", .string "ObjectCreated:Put"), ("bucket", .string "b"), ("key", .string "ü +")]
  let ts : List ChangeEvent := [⟨"ObjectCreated:Put", ⟨"b", "ü +"⟩⟩]
  readBatch (.array [event]) = .ok ts
    ∧ (∃ es, readBatch (.object [("Records", .array [record])]) = .ok es
        ∧ List.Forall₂ (fun t e => e.file = t.file ∧ NotifiedEvent.NamesKind t.name e.name) ts es)
    ∧ (∃ e, readBatch (.object [("Records", .array [record, .object []])]) = .error e
        ∧ e.code = "MALFORMED_EVENTS")
    ∧ ∃ e, readBatch (.array [event, .object []]) = .error e ∧ e.code = "MALFORMED_EVENTS"
  := by
  intro record event ts
  have hpiece : FormEncodesChar 'ü' ['%', 'c', '3', '%', 'B', 'C'] := by
    apply @FormEncodesChar.bytes 'ü' [['%', 'c', '3'], ['%', 'B', 'C']]
    apply List.Forall₂.cons (.digits (.inl (by decide)) (.inl (by decide)))
    apply List.Forall₂.cons (.digits (.inr (by decide)) (.inr (by decide)))
    apply List.Forall₂.nil
  have hplus : FormEncodesChar '+' ['%', '2', 'b'] := by
    apply @FormEncodesChar.bytes '+' [['%', '2', 'b']]
    apply List.Forall₂.cons (.digits (.inl (by decide)) (.inl (by decide)))
    apply List.Forall₂.nil
  have hkey : FormEncodes "ü +".toList "%c3%BC+%2b".toList :=
    .cons hpiece (.cons (.blank rfl) (.cons hplus .nil))
  have hrecord : (NotifiedEvent.mk "ObjectCreated:Put" "b" "%c3%BC+%2b").IsGivenBy record :=
    ⟨_, _, _, rfl, rfl, rfl, rfl⟩
  have hevent : (ChangeEvent.mk "ObjectCreated:Put" ⟨"b", "ü +"⟩).IsGivenBy event := rfl
  have hfields : named "Records" [("Records", .array [record])] = [.array [record]] := rfl
  obtain ⟨hlist, hnotification⟩ :=
    readBatch_forms_agree.1 hfields (.cons hrecord .nil) (.cons hevent .nil)
      (.cons ⟨rfl, rfl, hkey⟩ .nil)
  refine ⟨hlist, hnotification, ?_, ?_⟩
  · apply readBatch_forms_agree.2.1 rfl (.tail record (.head [])) (.lacks (.inl rfl))
  · apply readBatch_forms_agree.2.2 (.tail event (.head [])) ⟨"key", by decide, rfl⟩

/-- The byte FF is that of no text. -/
example :
    (readBatch (.object [("Records", .array [.object [
        ("eventName", .string "ObjectRemoved:Delete"),
        ("s3", .object [("bucket", .object [("name", .string "b")]),
          ("object", .object [("key", .string "a%FF.jpg")])])]])])).mapError EventError.message
      = .error ("malformed event batch: object key \"a%FF.jpg\": "
        ++ "invalid utf-8 sequence of 1 bytes from index 1")
  := by
  decide +kernel

end ScanIndex
