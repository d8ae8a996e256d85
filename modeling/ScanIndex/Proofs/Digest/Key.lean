import Mathlib.Data.List.Basic
import ScanIndex.Digest.Hmac

/-!
# Keys of digests

Two keys give a message the same digest exactly if they have the same block, unless two of the texts
that are hashed on the way collide (`hmac_eq_iff`).  Keys have the same block if they are equal, and
otherwise if they are the same up to zeros at their ends, where a key that is longer than a block
counts as its digest (`blockKey_eq_iff`).  Of keys that are both longer than a block, or both not,
none stands for another one without a zero at its end (`standsFor_iff_eq`).
-/

namespace ScanIndex

namespace Sha256

/-- Two different texts, one of each list, have the same digest. -/
def Collision (ms ms' : List (List UInt8)) : Prop := ∃ m ∈ ms, ∃ m' ∈ ms', m ≠ m' ∧ hash m = hash m'

instance (ms ms' : List (List UInt8)) : Decidable (Collision ms ms') :=
  inferInstanceAs (Decidable (∃ m ∈ ms, ∃ m' ∈ ms', m ≠ m' ∧ hash m = hash m'))

theorem length_bigEndian (count n : Nat) :
  (bigEndian count n).length = count
  := by
  rw [bigEndian, List.length_map, List.length_range]

theorem length_hash (bs : List UInt8) :
  (hash bs).length = 32
  := by
  simp only [hash, Chain.bytes, List.flatMap_cons, List.flatMap_nil, List.length_append,
    length_bigEndian, List.length_nil]

end Sha256

/-! ### Digests -/

/-- The text that is hashed first for the digest of a message. -/
def innerText (block message : List UInt8) : List UInt8 := block.map (· ^^^ 0x36) ++ message

/-- The text that is hashed last for the digest of a message. -/
def outerText (block message : List UInt8) : List UInt8 :=
  block.map (· ^^^ 0x5c) ++ Sha256.hash (innerText block message)

/-- All texts that are hashed for the digest of a message under a key. -/
def hashedTexts (key message : List UInt8) : List (List UInt8) :=
  (if 64 < key.length then [key] else [])
    ++ [innerText (blockKey key) message, outerText (blockKey key) message]

/-- The key, or its digest if it is longer than a block. -/
def shortened (key : List UInt8) : List UInt8 := if 64 < key.length then Sha256.hash key else key

/-- The bytes filled up with zeros to the length of a block. -/
def filledUp (bs : List UInt8) : List UInt8 := bs ++ List.replicate (64 - bs.length) 0

theorem blockKey_eq_filledUp (key : List UInt8) :
  blockKey key = filledUp (shortened key)
  := rfl

theorem shortened_of_length_le {key : List UInt8} (h : key.length ≤ 64) :
  shortened key = key
  := by
  rw [shortened, if_neg (Nat.not_lt.2 h)]

theorem shortened_of_lt_length {key : List UInt8} (h : 64 < key.length) :
  shortened key = Sha256.hash key
  := by
  rw [shortened, if_pos h]

theorem length_shortened_le (key : List UInt8) :
  (shortened key).length ≤ 64
  := by
  rw [shortened]
  split
  · simp only [Sha256.length_hash, Nat.reduceLeDiff]
  · omega

theorem length_blockKey (key : List UInt8) :
  (blockKey key).length = 64
  := by
  have h := length_shortened_le key
  rw [blockKey_eq_filledUp, filledUp, List.length_append, List.length_replicate]
  omega

theorem outerText_inj {block block' message : List UInt8} (h : block.length = block'.length)
    (houter : outerText block message = outerText block' message) :
  block = block'
  := by
  have hinjective : Function.Injective fun b : UInt8 => b ^^^ 0x5c := by
    intro a b hab
    exact (UInt8.xor_left_inj _).1 hab
  obtain ⟨hblock, -⟩ := List.append_inj houter (by rw [List.length_map, List.length_map, h])
  exact List.map_injective_iff.2 hinjective hblock

/-- Unless texts collide that are hashed, keys give a message the same digest exactly if they have
the same block. -/
theorem hmac_eq_iff {key key' message : List UInt8}
    (h : ¬Sha256.Collision (hashedTexts key message) (hashedTexts key' message)) :
  hmac key message = hmac key' message ↔ blockKey key = blockKey key'
  := by
  constructor
  · intro hmac
    have houter : outerText (blockKey key) message = outerText (blockKey key') message := by
      by_contra hne
      apply h
      exact ⟨_, by simp [hashedTexts], _, by simp [hashedTexts], hne, hmac⟩
    apply outerText_inj _ houter
    rw [length_blockKey, length_blockKey]
  · intro hblock
    apply hmac_congr hblock

/-! ### Blocks -/

/-- The bytes are the same up to zeros at their ends. -/
def SameUpToZeros (bs bs' : List UInt8) : Prop :=
  ∃ n n', bs ++ List.replicate n 0 = bs' ++ List.replicate n' 0

section

variable {bs bs' : List UInt8}

/-- If bytes are the same up to zeros at their ends, those that are not longer are at the front of
the others, with zeros behind them. -/
theorem SameUpToZeros.eq_or_eq (h : SameUpToZeros bs bs') :
  (∃ n, bs' = bs ++ List.replicate n 0) ∨ ∃ n, bs = bs' ++ List.replicate n 0
  := by
  obtain ⟨n, n', h⟩ := h
  rcases List.append_eq_append_iff.1 h with ⟨zeros, hbs, hzeros⟩ | ⟨zeros, hbs, hzeros⟩
  all_goals
    obtain ⟨-, hzeros, -⟩ := List.append_eq_replicate_iff.1 hzeros.symm
    rw [hzeros] at hbs
  · exact .inl ⟨_, hbs⟩
  · exact .inr ⟨_, hbs⟩

theorem SameUpToZeros.eq_of_length_eq (h : SameUpToZeros bs bs')
    (hlength : bs.length = bs'.length) :
  bs = bs'
  := by
  obtain ⟨n, n', h⟩ := h
  exact (List.append_inj h hlength).1

theorem filledUp_append_zeros {n : Nat} (h : (bs ++ List.replicate n 0).length ≤ 64) :
  filledUp (bs ++ List.replicate n 0) = filledUp bs
  := by
  rw [List.length_append, List.length_replicate] at h
  rw [filledUp, filledUp, List.append_assoc, List.replicate_append_replicate, List.length_append,
    List.length_replicate]
  congr 2
  omega

theorem filledUp_eq_iff (h : bs.length ≤ 64) (h' : bs'.length ≤ 64) :
  filledUp bs = filledUp bs' ↔ SameUpToZeros bs bs'
  := by
  constructor
  · intro hfilled
    exact ⟨_, _, hfilled⟩
  · intro hsame
    rcases hsame.eq_or_eq with ⟨n, rfl⟩ | ⟨n, rfl⟩
    · rw [filledUp_append_zeros h']
    · rw [filledUp_append_zeros h]

/-- Bytes none of which is zero are the same as others up to zeros at their ends exactly if the
others have nothing but zeros behind them. -/
theorem sameUpToZeros_iff (h : 0 ∉ bs) :
  SameUpToZeros bs bs' ↔ ∃ n, bs' = bs ++ List.replicate n 0
  := by
  constructor
  · intro hsame
    rcases hsame.eq_or_eq with hbs | ⟨n, rfl⟩
    · exact hbs
    · use 0
      cases n with
      | zero => simp
      | succ n => exact absurd (by simp) h
  · rintro ⟨n, rfl⟩
    exact ⟨n, 0, by simp⟩

end

/-- Keys have the same block exactly if they are the same up to zeros at their ends, each with its
digest in its place if it is longer than a block. -/
theorem blockKey_eq_iff (key key' : List UInt8) :
  blockKey key = blockKey key' ↔ SameUpToZeros (shortened key) (shortened key')
  := by
  rw [blockKey_eq_filledUp, blockKey_eq_filledUp]
  exact filledUp_eq_iff (length_shortened_le key) (length_shortened_le key')

/-- The first key may stand in the place of the second one. -/
inductive StandsFor (key : List UInt8) : List UInt8 → Prop where
  | itself : StandsFor key key
  /-- The second key is the first one with zeros behind it. -/
  | zeros (n : Nat) (h : (key ++ List.replicate n 0).length ≤ 64) :
    StandsFor key (key ++ List.replicate n 0)
  /-- The second key is longer than a block, and its digest is the first one with zeros
  behind it. -/
  | digest {key' : List UInt8} (h' : 64 < key'.length) (n : Nat)
    (hkey : Sha256.hash key' = key ++ List.replicate n 0) : StandsFor key key'
  /-- The first key is longer than a block, and its digest is the second one up to zeros. -/
  | digested {key' : List UInt8} (h : 64 < key.length) (h' : key'.length ≤ 64)
    (hkey : SameUpToZeros (Sha256.hash key) key') : StandsFor key key'

section

variable {key key' : List UInt8}

theorem StandsFor.blockKey_eq (h : StandsFor key key') :
  blockKey key = blockKey key'
  := by
  rw [blockKey_eq_iff]
  cases h with
  | itself => exact ⟨0, 0, rfl⟩
  | zeros n h =>
    have hkey : key.length ≤ 64 := by
      rw [List.length_append] at h
      omega
    rw [shortened_of_length_le h, shortened_of_length_le hkey]
    exact ⟨n, 0, by simp⟩
  | digest h' n hkey =>
    have hlength := congrArg List.length hkey
    rw [Sha256.length_hash, List.length_append] at hlength
    rw [shortened_of_lt_length h', shortened_of_length_le (by omega), hkey]
    exact ⟨n, 0, by simp⟩
  | digested h h' hkey =>
    rwa [shortened_of_lt_length h, shortened_of_length_le h']

/-- A key without zeros has the same block as another one only if it stands for it, or if both are
longer than a block and collide. -/
theorem standsFor_of_blockKey_eq (hkey : 0 ∉ key)
    (hash : 64 < key.length → 64 < key'.length → Sha256.hash key = Sha256.hash key' → key = key')
    (h : blockKey key = blockKey key') :
  StandsFor key key'
  := by
  rw [blockKey_eq_iff] at h
  rcases Nat.lt_or_ge 64 key.length with hlong | hshort
  · rcases Nat.lt_or_ge 64 key'.length with hlong' | hshort'
    · rw [shortened_of_lt_length hlong, shortened_of_lt_length hlong'] at h
      rw [hash hlong hlong' (h.eq_of_length_eq (by rw [Sha256.length_hash, Sha256.length_hash]))]
      exact .itself
    · rw [shortened_of_lt_length hlong, shortened_of_length_le hshort'] at h
      exact .digested hlong hshort' h
  · rw [shortened_of_length_le hshort, sameUpToZeros_iff hkey] at h
    obtain ⟨n, h⟩ := h
    rcases Nat.lt_or_ge 64 key'.length with hlong' | hshort'
    · rw [shortened_of_lt_length hlong'] at h
      exact .digest hlong' n h
    · rw [shortened_of_length_le hshort'] at h
      subst h
      exact .zeros n hshort'

/-- Of keys that are both longer than a block, or both not, none stands for another one without a
zero at its end. -/
theorem standsFor_iff_eq (hlength : 64 < key.length ↔ 64 < key'.length)
    (hlast : key'.getLast? ≠ some 0) :
  StandsFor key key' ↔ key = key'
  := by
  constructor
  · intro h
    cases h with
    | itself => rfl
    | zeros n h =>
      cases n with
      | zero => exact (List.append_nil key).symm
      | succ n =>
        rw [List.replicate_succ', ← List.append_assoc, List.getLast?_concat] at hlast
        exact absurd rfl hlast
    | digest h' n hkey =>
      have hdigest := congrArg List.length hkey
      rw [Sha256.length_hash, List.length_append] at hdigest
      have := hlength.2 h'
      omega
    | digested h h' hkey => exact absurd (hlength.1 h) (Nat.not_lt.2 h')
  · rintro rfl
    exact .itself

end

end ScanIndex
