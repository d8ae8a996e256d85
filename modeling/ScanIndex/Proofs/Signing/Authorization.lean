import ScanIndex.Proofs.Signing.Presentation
import ScanIndex.Signing.Date

/-!
# Signatures of headers that are presented alike

A request is signed in the same way, however its headers are presented
(`authorization?_presentsAlike`): what is signed, and what the signature says of the names of the
headers, depends only on their canonical form.  A request is signed for every date whose first eight
bytes are whole characters, and so are those of the date of every time (`exists_day_requestDate`).
-/

namespace ScanIndex

/-! ### Days -/

/-- The text consists of characters of ASCII. -/
def IsAscii (s : String) : Prop := ∀ c ∈ s.toList, c.toNat < 128

theorem IsAscii.append {s t : String} (hs : IsAscii s) (ht : IsAscii t) :
  IsAscii (s ++ t)
  := by
  intro c hc
  rw [String.toList_append, List.mem_append] at hc
  rcases hc with hc | hc
  · apply hs c hc
  · apply ht c hc

theorem isAscii_padded (width n : Nat) :
  IsAscii (padded width n)
  := by
  intro c hc
  rw [padded, String.toList_ofList, List.mem_append] at hc
  rcases hc with hc | hc
  · rw [List.eq_of_mem_replicate hc]
    decide
  · have hdigit := Nat.isDigit_of_mem_toDigits (by decide) (by decide) hc
    rw [Char.isDigit, Bool.and_eq_true, decide_eq_true_iff, decide_eq_true_iff] at hdigit
    apply Nat.lt_of_le_of_lt (UInt32.le_iff_toNat_le.1 hdigit.2)
    decide

theorem isAscii_yearText (y : Int) :
  IsAscii (yearText y)
  := by
  rw [yearText]
  split
  next => exact IsAscii.append (by simp [IsAscii]) (isAscii_padded _ _)
  next =>
    split
    next => apply isAscii_padded
    next => exact IsAscii.append (by simp [IsAscii]) (isAscii_padded _ _)

/-- The date of a time consists of six numbers and two letters. -/
theorem exists_requestDate_eq (seconds : Int) :
  ∃ year month day hour minute second, requestDate seconds
    = yearText year ++ padded 2 month ++ padded 2 day ++ "T" ++ padded 2 hour ++ padded 2 minute
      ++ padded 2 second ++ "Z"
  := by
  rw [requestDate]
  cases civilOfDays (seconds.fdiv 86400 + 719468) with
  | mk year monthAndDay => exact ⟨_, _, _, _, _, _, rfl⟩

theorem isAscii_requestDate (seconds : Int) :
  IsAscii (requestDate seconds)
  := by
  obtain ⟨year, month, day, hour, minute, second, hdate⟩ := exists_requestDate_eq seconds
  have hnumber (n : Nat) : IsAscii (padded 2 n) := isAscii_padded 2 n
  have hT : IsAscii "T" := by simp [IsAscii]
  have hZ : IsAscii "Z" := by simp [IsAscii]
  have hcivil : IsAscii (yearText year ++ padded 2 month ++ padded 2 day) :=
    ((isAscii_yearText year).append (hnumber month)).append (hnumber day)
  rw [hdate]
  exact ((((hcivil.append hT).append (hnumber hour)).append (hnumber minute)).append
    (hnumber second)).append hZ

/-- Each character of a text of ASCII is one byte. -/
theorem IsAscii.length_encode {s : String} (h : IsAscii s) :
  (Utf8.encode s).length = s.toList.length
  := by
  rw [Utf8.encode_eq_flatMap, List.length_flatMap, List.map_congr_left (g := fun _ => 1),
    List.map_const', List.sum_replicate_nat, Nat.mul_one]
  intro c hc
  rw [Utf8.utf8EncodeChar_of_lt (h c hc)]
  rfl

theorem le_length_padded (width n : Nat) :
  width ≤ (padded width n).toList.length
  := by
  rw [padded, String.toList_ofList, List.length_append, List.length_replicate]
  omega

theorem le_length_yearText (y : Int) :
  4 ≤ (yearText y).toList.length
  := by
  rw [yearText]
  split
  next =>
    rw [String.toList_append, List.length_append]
    apply Nat.le_add_left_of_le (le_length_padded 4 _)
  next =>
    split
    next => apply le_length_padded
    next =>
      rw [String.toList_append, List.length_append]
      apply Nat.le_add_left_of_le (le_length_padded 4 _)

theorem le_length_requestDate (seconds : Int) :
  8 ≤ (requestDate seconds).toList.length
  := by
  obtain ⟨year, month, day, hour, minute, second, hdate⟩ := exists_requestDate_eq seconds
  have hyear := le_length_yearText year
  have hmonth := le_length_padded 2 month
  have hday := le_length_padded 2 day
  rw [hdate]
  simp only [String.toList_append, List.length_append]
  omega

/-- The first eight bytes of the date of a time are characters of their own. -/
theorem exists_day_requestDate (seconds : Int) :
  ∃ day rest, requestDate seconds = day ++ rest ∧ (Utf8.encode day).length = 8
  := by
  have hascii : IsAscii (String.ofList ((requestDate seconds).toList.take 8)) := by
    intro c hc
    rw [String.toList_ofList] at hc
    apply isAscii_requestDate seconds c (List.mem_of_mem_take hc)
  refine ⟨_, String.ofList ((requestDate seconds).toList.drop 8), ?_, hascii.length_encode.trans ?_⟩
  · rw [← String.ofList_append, List.take_append_drop, String.ofList_toList]
  · rw [String.toList_ofList, List.length_take, Nat.min_eq_left (le_length_requestDate seconds)]

theorem dayOf?_append {day rest : String}
    (h : (Utf8.encode day).length = 8 ∨ (Utf8.encode day).length < 8 ∧ rest = "") :
  dayOf? (day ++ rest) = some day
  := by
  have htake : (Utf8.encode (day ++ rest)).take 8 = Utf8.encode day := by
    rcases h with h | ⟨h, rfl⟩
    · rw [Utf8.encode_eq_flatMap, String.toList_append, List.flatMap_append,
        ← Utf8.encode_eq_flatMap]
      apply List.take_left' h
    · rw [String.append_empty, List.take_of_length_le (Nat.le_of_lt h)]
  rw [dayOf?, htake, Utf8.decode_eq_ok_iff.2 rfl]

/-! ### Signatures -/

/-- Headers with different names that are presented alike are signed alike.  The authorisation names
each header once, in lower case and in the order of the bytes of the names; these are the headers
that are signed, in the same order and each with its value without blanks around it.  The signature
in it is the digest, under the key of the day, of a text that holds the digest of this canonical
form.  There is one if the first eight bytes of the date, or all of fewer, are whole characters. -/
theorem authorization?_presentsAlike {r : Signable} {headers : List (String × String)}
    (hdistinct : DistinctNames r.headers) (halike : PresentsAlike r.headers headers) :
  (∀ (c : Credentials) (region service date : String),
      authorization? c region service date { r with headers := headers }
        = authorization? c region service date r)
    ∧ (∃ canonical, IsCanonicalOf r.headers canonical
      ∧ r.canonical = "\n".intercalate [r.method, r.path, r.query,
        String.join (canonical.map fun h => h.1 ++ ":" ++ h.2 ++ "\n"),
        ";".intercalate (canonical.map Prod.fst), Signable.digestText r.payload]
      ∧ ∀ (c : Credentials) (region service day rest : String),
        (Utf8.encode day).length = 8 ∨ (Utf8.encode day).length < 8 ∧ rest = "" →
        authorization? c region service (day ++ rest) r
          = some ("AWS4-HMAC-SHA256 Credential=" ++ c.keyId ++ "/" ++ scopeText day region service
            ++ ", SignedHeaders=" ++ ";".intercalate (canonical.map Prod.fst) ++ ", Signature="
            ++ hexOfBytes (hmac (signingKey c.secretKey day region service) (Utf8.encode
              ("\n".intercalate ["AWS4-HMAC-SHA256", day ++ rest, scopeText day region service,
                Signable.digestText (Utf8.encode r.canonical)])))))
    ∧ ∀ seconds, ∃ day rest, requestDate seconds = day ++ rest ∧ (Utf8.encode day).length = 8
  := by
  have hcanonical := Signable.canonicalHeaders_eq_of_presentsAlike hdistinct halike
  refine ⟨?_, ⟨_, Signable.isCanonicalOf_canonicalHeaders hdistinct, rfl, ?_⟩,
    exists_day_requestDate⟩
  · intro c region service date
    have hsigned : Signable.canonical { r with headers := headers } = r.canonical := by
      simp only [Signable.canonical, hcanonical]
    rw [authorization?, authorization?, hsigned, hcanonical]
  · intro c region service day rest hday
    rw [authorization?, dayOf?_append hday]
    rfl

/-- A request with a security token, whose headers come in another order, in other cases and with
other blanks. -/
theorem authorization?_presentsAlike_token :
  ∃ (r : Signable) (headers : List (String × String)),
    r = ⟨"POST", "/", "",
      [("Content-Type", "application/json"), ("Host", "h"), ("X-Amz-Date", "20150830T123600Z"),
        ("X-Amz-Security-Token", "t")], []⟩
      ∧ headers = [("x-amz-security-token", " t\t"), ("hOST", "h"),
        ("X-AMZ-DATE", "20150830T123600Z "), ("content-type", "  application/json")]
      ∧ DistinctNames r.headers ∧ PresentsAlike r.headers headers
      ∧ ∀ (c : Credentials) (region service : String), ∃ text,
        authorization? c region service ("20150830" ++ "T123600Z") r = some text
          ∧ authorization? c region service ("20150830" ++ "T123600Z") { r with headers := headers }
            = some text
  := by
  let r : Signable := ⟨"POST", "/", "", [("Content-Type", "application/json"), ("Host", "h"),
    ("X-Amz-Date", "20150830T123600Z"), ("X-Amz-Security-Token", "t")], []⟩
  let headers : List (String × String) := [("x-amz-security-token", " t\t"), ("hOST", "h"),
    ("X-AMZ-DATE", "20150830T123600Z "), ("content-type", "  application/json")]
  have hdistinct : DistinctNames r.headers := Signable.nodup_names_iff.1 (by decide +kernel)
  have halike : PresentsAlike r.headers headers := by
    refine ⟨[("X-Amz-Security-Token", "t"), ("Host", "h"), ("X-Amz-Date", "20150830T123600Z"),
      ("Content-Type", "application/json")], by decide +kernel, ?_⟩
    apply List.Forall₂.cons (Signable.normalised_eq_normalised_iff.1 (by decide +kernel))
    apply List.Forall₂.cons (Signable.normalised_eq_normalised_iff.1 (by decide +kernel))
    apply List.Forall₂.cons (Signable.normalised_eq_normalised_iff.1 (by decide +kernel))
    apply List.Forall₂.cons (Signable.normalised_eq_normalised_iff.1 (by decide +kernel)) .nil
  obtain ⟨hequal, ⟨canonical, -, -, hsigned⟩, -⟩ := authorization?_presentsAlike hdistinct halike
  refine ⟨r, headers, rfl, rfl, hdistinct, halike, ?_⟩
  intro c region service
  have hsignature := hsigned c region service "20150830" "T123600Z" (.inl (by decide +kernel))
  exact ⟨_, hsignature, (hequal c region service _).trans hsignature⟩

end ScanIndex
