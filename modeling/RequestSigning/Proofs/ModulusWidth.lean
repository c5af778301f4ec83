import RequestSigning.PrivateKey.Parse
import RequestSigning.Proofs.DerElements
import RequestSigning.Proofs.Rsa
import RequestSigning.Proofs.WireFields

/-!
# How long the modulus of a parsed key is

Every encoding of a private key bounds the length of the integers in it, so the modulus of an RSA
key that was read from a text is shorter than 2^28 bytes (`PrivateKey.width_of_parse`), and the
fields of its blob are all of a length that four bytes can tell.

The bound comes from a different place in each encoding: from the lengths of elements in PKCS#1 and
PKCS#8, and from the largest field in an OpenSSH file. It is far above any key in use, but without
it the blob of a key could have a field whose length four bytes do not hold.
-/

namespace RequestSigning

/-! ### Keys in elements -/

namespace Pkcs1

/-- The length of an element bounds the integer in it. -/
theorem width_lt_of_readIntegers? {count : Nat} {bytes rest : Bytes} {integers : List Nat}
    (h : readIntegers? count bytes = some (integers, rest)) :
    ∀ n ∈ integers, Bytes.width n < 2 ^ 28 := by
  induction count generalizing bytes rest integers with
  | zero =>
    obtain ⟨rfl, -⟩ := Prod.mk.inj (Option.some.inj h)
    simp
  | succ count ih =>
    simp only [readIntegers?, Option.bind_eq_bind, Option.bind_eq_some_iff] at h
    obtain ⟨⟨n, behind⟩, hn, ⟨more, behind'⟩, hmore, hpair⟩ := h
    obtain ⟨rfl, -⟩ := Prod.mk.inj (Option.some.inj hpair)
    rw [List.forall_mem_cons]
    exact ⟨Der.width_lt_of_readUnsigned? hn, ih hmore⟩

/-- The bound for the modulus of a PKCS#1 content. -/
theorem width_lt_of_decode? {bytes : Bytes} {k : Rsa.Numbers} (h : decode? bytes = some k) :
    Bytes.width k.n < 2 ^ 28 := by
  simp only [decode?, Option.bind_eq_bind, Option.bind_eq_some_iff] at h
  obtain ⟨content, -, ⟨integers, rest⟩, hintegers, hk⟩ := h
  have hwidth := width_lt_of_readIntegers? hintegers
  split at hk
  · -- the modulus stands second, behind the version
    next n e d p q _ _ _ hlist _ =>
    obtain rfl := Option.some.inj hk
    have hmem : n ∈ integers := by
      change integers = _ at hlist
      rw [hlist]
      exact List.mem_cons_of_mem 0 List.mem_cons_self
    exact hwidth n hmem
  · contradiction

theorem width_lt_of_key? {bytes : Bytes} {key : Rsa.PrivateKey} (h : key? bytes = some key) :
    Bytes.width key.n < 2 ^ 28 := by
  simp only [key?, Option.bind_eq_bind, Option.bind_eq_some_iff] at h
  obtain ⟨numbers, hnumbers, hkey⟩ := h
  rw [Rsa.Numbers.key_eq_ok (Wire.toOption_eq_some_iff.mp hkey)]
  exact width_lt_of_decode? hnumbers

end Pkcs1

/-- The bound for the modulus of a PKCS#8 content, which holds a PKCS#1 one. -/
theorem Pkcs8.width_lt_of_key? {bytes : Bytes} {key : Rsa.PrivateKey}
    (h : key? bytes = some (.rsa key)) : Bytes.width key.n < 2 ^ 28 := by
  simp only [key?, Option.bind_eq_bind, Option.bind_eq_some_iff] at h
  obtain ⟨content, -, hkey⟩ := h
  rw [Content.anyKey?] at hkey
  cases hrsa : content.rsaKey? with
  | none =>
    simp only [hrsa] at hkey
    obtain ⟨curveKey, -, hcurve⟩ := Option.map_eq_some_iff.mp hkey
    contradiction
  | some found =>
    simp only [hrsa] at hkey
    obtain rfl := PrivateKey.rsa.inj (Option.some.inj hkey)
    rw [Content.rsaKey?] at hrsa
    split_ifs at hrsa
    exact Pkcs1.width_lt_of_key? hrsa

/-! ### Keys in fields -/

/-- An integer on the wire is no longer than a field may be. -/
theorem Ssh.length_le_of_readInteger? {bytes content rest : Bytes}
    (h : readInteger? bytes = some (content, rest)) : content.length ≤ Wire.maxField := by
  rw [readInteger?] at h
  rcases hfield : Wire.readField bytes with fault | ⟨inside, behind⟩
  · simp [hfield] at h
  · have hlength := (Wire.readField_eq_ok_iff.mp hfield).2
    simp only [hfield] at h
    split at h
    · simp at h
    · split_ifs at h
      obtain ⟨rfl, -⟩ := Prod.mk.inj (Option.some.inj h)
      exact hlength
    · obtain ⟨rfl, -⟩ := Prod.mk.inj (Option.some.inj h)
      exact hlength

namespace OpenSsh

open Ssh Wire

/-- The modulus of an RSA pair is a field within the bound. -/
theorem length_le_of_readPair? {bytes rest n e d p q : Bytes}
    (h : readPair? bytes = some (.rsa n e d p q, rest)) : n.length ≤ maxField := by
  simp only [readPair?, Option.bind_eq_bind, Option.bind_eq_some_iff] at h
  obtain ⟨⟨name, fields⟩, -, h⟩ := h
  split_ifs at h with hname
  · simp only [Option.bind_eq_some_iff] at h
    obtain ⟨⟨modulus, rest₁⟩, hmodulus, _, -, _, -, _, -, _, -, _, -, hpair⟩ := h
    obtain ⟨hrsa, -⟩ := Prod.mk.inj (Option.some.inj hpair)
    rw [← (KeyPair.rsa.inj hrsa).1]
    exact length_le_of_readInteger? hmodulus
  · simp only [Option.bind_eq_some_iff] at h
    obtain ⟨⟨key, fields⟩, -, h⟩ := h
    -- a pair of any other kind is no RSA pair
    split at h
    all_goals simp_all [Option.bind_eq_some_iff]

theorem length_le_of_readSection? {publicKey : PublicKey} {bytes n e d p q : Bytes}
    (h : readSection? publicKey bytes = some (.rsa n e d p q)) : n.length ≤ maxField := by
  simp only [readSection?, Option.bind_eq_bind, Option.bind_none, Option.ite_none_left_eq_some,
    Option.bind_eq_some_iff] at h
  obtain ⟨-, _, -, _, -, -, ⟨pair, rest⟩, hpair, -, _, -, h⟩ := h
  split_ifs at h
  obtain rfl := Option.some.inj h
  exact length_le_of_readPair? hpair

/-- The modulus an OpenSSH file gives is a field of its section. -/
theorem length_le_of_decode? {bytes n e d p q : Bytes}
    (h : decode? bytes = some (.pair (.rsa n e d p q))) : n.length ≤ maxField := by
  simp only [decode?, Option.bind_eq_bind, Option.bind_none, Option.ite_none_left_eq_some,
    Option.bind_eq_some_iff] at h
  obtain ⟨-, ⟨cipher, _⟩, -, _, -, _, -, -, ⟨publicKey, _⟩, -, ⟨sealed, _⟩, -, h⟩ := h
  cases cipher with
  | some cipher => simp [Option.ite_none_right_eq_some] at h
  | none =>
    simp only [Option.ite_none_left_eq_some, Option.bind_eq_some_iff] at h
    obtain ⟨-, pair, hsection, hpair⟩ := h
    obtain rfl := Content.pair.inj (Option.some.inj hpair)
    exact length_le_of_readSection? hsection

theorem positive?_eq_some {content : Bytes} {n : Nat} (h : positive? content = some n) :
    n = Bytes.toNat content := by
  cases content with
  | nil => simp [positive?] at h
  | cons first rest =>
    rw [positive?] at h
    split_ifs at h
    exact (Option.some.inj h).symm

/-- The modulus of the key of a pair is the number in the pair. -/
theorem modulus_of_pairKey {pair : KeyPair} {key : Rsa.PrivateKey} (h : pair.key = .ok (.rsa key)) :
    ∃ n e d p q, pair = .rsa n e d p q ∧ key.n = Bytes.toNat n := by
  cases pair with
  | rsa n e d p q =>
    rw [KeyPair.key] at h
    cases hnumbers : numbers? n e d p q with
    | none => simp [hnumbers] at h
    | some numbers =>
      cases hkey : numbers.key with
      | error fault => simp [hnumbers, hkey] at h
      | ok found =>
        simp only [hnumbers, hkey] at h
        obtain rfl := PrivateKey.rsa.inj (Except.ok.inj h)
        simp only [numbers?, Option.bind_eq_bind, Option.bind_eq_some_iff] at hnumbers
        obtain ⟨modulus, hmodulus, _, -, _, -, _, -, _, -, hrecord⟩ := hnumbers
        refine ⟨n, e, d, p, q, rfl, ?_⟩
        rw [Rsa.Numbers.key_eq_ok hkey, ← Option.some.inj hrecord]
        exact positive?_eq_some hmodulus
  | ecdsa curve point scalar =>
    rw [KeyPair.key] at h
    split at h <;> simp at h
  | _ => simp [KeyPair.key] at h

/-- The bound for the modulus of an OpenSSH file. -/
theorem width_le_of_key {bytes : Bytes} {found : Rsa.PrivateKey}
    (h : key bytes = .ok (.rsa found)) : Bytes.width found.n ≤ maxField := by
  rw [key] at h
  split at h
  · simp at h
  · simp at h
  · next pair hpair =>
    obtain ⟨n, e, d, p, q, rfl, hn⟩ := modulus_of_pairKey h
    rw [hn]
    exact (Bytes.width_le_of_lt (Bytes.toNat_lt n)).trans (length_le_of_decode? hpair)

end OpenSsh

/-! ### Parsed keys -/

/-- The modulus of a key in any encoding is shorter than 2^28 bytes. -/
theorem KeyEncoding.width_lt_of_read {encoding : KeyEncoding} {text : Bytes}
    {key : Rsa.PrivateKey} (h : encoding.read text = .ok (.rsa key)) :
    Bytes.width key.n < 2 ^ 28 := by
  cases encoding with
  | openSsh =>
    simp only [read] at h
    cases hfound : armoured? .openSsh text with
    | none => simp [hfound] at h
    | some bytes =>
      simp only [hfound] at h
      exact (OpenSsh.width_le_of_key h).trans_lt (by decide)
  | pkcs1 =>
    simp only [read] at h
    cases hfound : (armoured? .pkcs1 text).bind Pkcs1.key? with
    | none => simp [hfound] at h
    | some found =>
      simp only [hfound] at h
      obtain rfl := PrivateKey.rsa.inj (Except.ok.inj h)
      obtain ⟨bytes, -, hkey⟩ := Option.bind_eq_some_iff.mp hfound
      exact Pkcs1.width_lt_of_key? hkey
  | sec1 =>
    simp only [read] at h
    split at h <;> simp at h
  | pkcs8 =>
    simp only [read] at h
    cases hfound : (armoured? .pkcs8 text).bind Pkcs8.key? with
    | none => simp [hfound] at h
    | some found =>
      simp only [hfound] at h
      obtain rfl := Except.ok.inj h
      obtain ⟨bytes, -, hkey⟩ := Option.bind_eq_some_iff.mp hfound
      exact Pkcs8.width_lt_of_key? hkey

/-- **Parsed keys.** The modulus of an RSA key that was read from a text is shorter than 2^28
bytes. -/
theorem PrivateKey.width_of_parse {bytes : Bytes} {key : Rsa.PrivateKey}
    (h : PrivateKey.parse bytes = .ok (.rsa key)) : Bytes.width key.n < 2 ^ 28 := by
  rw [PrivateKey.parse, PrivateKey.parseWith] at h
  cases hencoding : PrivateKey.encodingOf bytes with
  | error fault => simp [hencoding, bind, Except.bind] at h
  | ok encoding =>
    cases hread : encoding.read bytes with
    | error fault => simp [hencoding, hread, bind, Except.bind] at h
    | ok found =>
      simp only [hencoding, hread, bind, Except.bind, pure, Except.pure] at h
      obtain rfl := Except.ok.inj h
      exact KeyEncoding.width_lt_of_read hread

end RequestSigning
