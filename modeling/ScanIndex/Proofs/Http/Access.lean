import ScanIndex.Http.Access
import ScanIndex.Proofs.Digest.Key
import ScanIndex.Proofs.Text.Utf8

/-!
# What the service takes for its secret

A service without a secret lets every request through, and one with a secret those that present a
token which stands for the secret (`authorized_iff_standsFor`).  The secret itself does.  So does
the secret without the NUL characters at its end, although it is another text
(`authorized_without_nul`).
-/

namespace ScanIndex.Http

/-- The first header for the authorization can be read as text, and the text is `Bearer`, a blank
and the token. -/
def Request.Presents (r : Request) (token : String) : Prop :=
  ∃ value, r.header? "authorization" = some value ∧ visibleText? value = some ("Bearer " ++ token)

/-- Two different texts have the same digest that are hashed to compare the token with
the secret. -/
def Collide (token secret : String) : Prop :=
  Sha256.Collision (hashedTexts (Utf8.encode token) tokenMessage)
    (hashedTexts (Utf8.encode secret) tokenMessage)

instance (token secret : String) : Decidable (Collide token secret) :=
  inferInstanceAs (Decidable (Sha256.Collision _ _))

theorem afterPrefix?_eq_some_iff {start s rest : String} :
  afterPrefix? start s = some rest ↔ s = start ++ rest
  := by
  rw [afterPrefix?]
  split_ifs with hstart
  · obtain ⟨rest', hs⟩ := List.isPrefixOf_iff_prefix.1 hstart
    rw [Option.some_inj, ← String.toList_inj, ← String.toList_inj, String.toList_ofList,
      String.toList_append, ← hs, ← String.length_toList, List.drop_left,
      List.append_cancel_left_eq]
  · simp only [false_iff]
    rintro rfl
    apply hstart
    rw [List.isPrefixOf_iff_prefix, String.toList_append]
    apply List.prefix_append

theorem presentedToken?_eq_some_iff {r : Request} {token : String} :
  presentedToken? r = some token ↔ r.Presents token
  := by
  simp only [presentedToken?, Request.Presents, Option.bind_eq_bind, Option.bind_eq_some_iff,
    afterPrefix?_eq_some_iff]
  constructor
  · rintro ⟨value, hvalue, text, htext, rfl⟩
    exact ⟨value, hvalue, htext⟩
  · rintro ⟨value, hvalue, htext⟩
    exact ⟨value, hvalue, _, htext, rfl⟩

/-- A request presents at most one token. -/
theorem Request.Presents.unique {r : Request} {token token' : String} (h : r.Presents token)
    (h' : r.Presents token') :
  token = token'
  := by
  rw [← presentedToken?_eq_some_iff] at h h'
  rw [h, Option.some_inj] at h'
  exact h'

/-- The text of a header has no NUL character. -/
theorem toNat_ne_zero_of_mem_visibleText {bytes : List UInt8} {text : String}
    (h : visibleText? bytes = some text) {c : Char} (hc : c ∈ text.toList) :
  c.toNat ≠ 0
  := by
  rw [visibleText?] at h
  split_ifs at h with hvisible
  rw [Option.some_inj] at h
  rw [← h, String.toList_ofList] at hc
  obtain ⟨b, hb, rfl⟩ := List.mem_map.1 hc
  have hb := List.all_eq_true.1 hvisible b hb
  have hbound : 0 < b.toNat ∧ b.toNat < 0x7f := by
    simp only [Bool.or_eq_true, Bool.and_eq_true, decide_eq_true_eq, UInt8.le_iff_toNat_le,
      UInt8.lt_iff_toNat_lt, ← UInt8.toNat_inj, UInt8.reduceToNat] at hb
    omega
  have hvalid : b.toNat.isValidChar := .inl (by omega)
  rw [Char.ofNat, dif_pos hvalid]
  exact Nat.ne_of_gt hbound.1

theorem Request.Presents.zero_not_mem_encode {r : Request} {token : String} (h : r.Presents token) :
  0 ∉ Utf8.encode token
  := by
  obtain ⟨value, -, htext⟩ := h
  rw [Utf8.zero_mem_encode_iff]
  rintro ⟨c, hc, hzero⟩
  apply toNat_ne_zero_of_mem_visibleText htext _ hzero
  rw [String.toList_append]
  exact List.mem_append_right _ hc

/-- A token gives the same digest as the secret exactly if it stands for the secret, unless they
collide. -/
theorem tokenDigest_eq_iff {token secret : String} (htoken : 0 ∉ Utf8.encode token)
    (h : ¬Collide token secret) :
  tokenDigest token = tokenDigest secret ↔ StandsFor (Utf8.encode token) (Utf8.encode secret)
  := by
  rw [tokenDigest, tokenDigest, hmac_eq_iff h]
  constructor
  · intro hblock
    apply standsFor_of_blockKey_eq htoken _ hblock
    intro hlong hlong' hhash
    by_contra hne
    apply h
    exact ⟨_, by simp [hashedTexts, hlong], _, by simp [hashedTexts, hlong'], hne, hhash⟩
  · exact StandsFor.blockKey_eq

theorem authorized_some_iff {secret : String} {r : Request} :
  authorized (some secret) r = true
    ↔ ∃ token, r.Presents token ∧ tokenDigest token = tokenDigest secret
  := by
  simp only [← presentedToken?_eq_some_iff, authorized]
  cases presentedToken? r with
  | none => simp
  | some token => simp

/-- A service without a secret lets every request through.  A service with a secret lets a request
through exactly if it presents a token that stands for the secret, unless they collide.  So it lets
nothing but the secret through exactly if no other token that is presented stands for it.  Only a
secret with a NUL character at its end is at risk, or one that is longer than a block while the
token is not, or the other way round. -/
theorem authorized_iff_standsFor (secret : String) (r : Request)
    (h : ∀ token, r.Presents token → ¬Collide token secret) :
  authorized none r = true
    ∧ (authorized (some secret) r = true
      ↔ ∃ token, r.Presents token ∧ StandsFor (Utf8.encode token) (Utf8.encode secret))
    ∧ ((authorized (some secret) r = true ↔ r.Presents secret)
      ↔ ∀ token, r.Presents token → StandsFor (Utf8.encode token) (Utf8.encode secret)
        → token = secret)
    ∧ ∀ token, r.Presents token → (Utf8.encode secret).getLast? ≠ some 0 →
      (64 < (Utf8.encode token).length ↔ 64 < (Utf8.encode secret).length) →
        (authorized (some secret) r = true ↔ token = secret)
  := by
  have hstands : authorized (some secret) r = true
      ↔ ∃ token, r.Presents token ∧ StandsFor (Utf8.encode token) (Utf8.encode secret) := by
    rw [authorized_some_iff]
    apply exists_congr
    intro token
    apply and_congr_right
    intro htoken
    exact tokenDigest_eq_iff htoken.zero_not_mem_encode (h token htoken)
  refine ⟨rfl, hstands, ?_, ?_⟩
  · rw [hstands]
    constructor
    · intro honly token htoken hstandsFor
      exact htoken.unique (honly.1 ⟨token, htoken, hstandsFor⟩)
    · intro honly
      constructor
      · rintro ⟨token, htoken, hstandsFor⟩
        rwa [← honly token htoken hstandsFor]
      · intro hsecret
        exact ⟨secret, hsecret, .itself⟩
  · intro token htoken hlast hlength
    rw [hstands, ← Utf8.encode_inj, ← standsFor_iff_eq hlength hlast]
    constructor
    · rintro ⟨token', htoken', hstandsFor⟩
      rwa [htoken.unique htoken']
    · intro hstandsFor
      exact ⟨token, htoken, hstandsFor⟩

/-- A token that is the beginning of a long secret is not accepted. -/
theorem authorized_iff_standsFor_cut :
  let secret := "correct horse battery staple, correct horse battery staple, correct horse"
  let token := "correct horse battery staple, correct horse battery staple, correc"
  let r : Request := ⟨"POST", "/search", [("Authorization", Utf8.encode ("Bearer " ++ token))], []⟩
  (∀ token, r.Presents token → ¬Collide token secret)
    ∧ r.Presents token ∧ (Utf8.encode secret).getLast? ≠ some 0
    ∧ (64 < (Utf8.encode token).length ↔ 64 < (Utf8.encode secret).length)
    ∧ authorized (some secret) r = false
  := by
  intro secret token r
  have htoken : r.Presents token := presentedToken?_eq_some_iff.1 (by decide +kernel)
  have hcollide : ∀ token, r.Presents token → ¬Collide token secret := by
    intro token' htoken'
    rw [htoken'.unique htoken]
    decide +kernel
  have hlast : (Utf8.encode secret).getLast? ≠ some 0 := by decide +kernel
  have hlength : 64 < (Utf8.encode token).length
      ↔ 64 < (Utf8.encode secret).length := by decide +kernel
  have hiff := (authorized_iff_standsFor secret r hcollide).2.2.2 token htoken hlast hlength
  refine ⟨hcollide, htoken, hlast, hlength, ?_⟩
  rw [← Bool.not_eq_true, hiff]
  decide

/-- A service whose secret has a NUL character at its end lets a request through that presents the
secret without it, and they do not collide. -/
theorem authorized_without_nul :
  let secret := "s3cret\x00"
  let r : Request := ⟨"POST", "/search", [("authorization", Utf8.encode "Bearer s3cret")], []⟩
  authorized (some secret) r = true ∧ ¬r.Presents secret ∧ ∀ token,
    r.Presents token → ¬Collide token secret
  := by
  intro secret r
  have htoken : r.Presents "s3cret" := presentedToken?_eq_some_iff.1 (by decide +kernel)
  refine ⟨?_, ?_, ?_⟩
  · rw [authorized_some_iff]
    use "s3cret", htoken
    apply hmac_congr
    decide +kernel
  · intro hsecret
    apply hsecret.zero_not_mem_encode
    decide +kernel
  · intro token htoken'
    rw [htoken'.unique htoken]
    decide +kernel

end ScanIndex.Http
