import RequestSigning.Proofs.CurveKeys
import RequestSigning.Proofs.DerCanonical

/-!
# What is written in a key that is read

The readers of keys take nothing from bytes but what is written there. A PKCS#1 key that is read is
the one that `Pkcs1.encode` writes, with the aids that stand in it (`Pkcs1.exists_encode_of_decode?`).
SEC1 and PKCS#8 keys leave room for parts that nothing is taken from. `Sec1.layout` and `Pkcs8.layout`
write a key with such parts, and what is read is laid out in that way (`Sec1.exists_layout_of_decode?`,
`Pkcs8.exists_layout_of_decode?`).

Together with the module on the one encoding of each value, this turns a key that was read back into
the bytes it was read from. So what is to be shown of every accepted text need be shown of texts
that were written only.
-/

namespace RequestSigning

variable {bytes : Bytes}

/-! ### PKCS#1 -/

namespace Pkcs1

theorem eq_flatMap_of_readIntegers? {count : Nat} {rest : Bytes} {integers : List Nat}
    (h : readIntegers? count bytes = some (integers, rest)) :
    bytes = integers.flatMap Der.unsigned ++ rest := by
  induction count generalizing bytes rest integers with
  | zero =>
    obtain ⟨rfl, rfl⟩ := Prod.mk.inj (Option.some.inj h)
    rfl
  | succ count ih =>
    simp only [readIntegers?, Option.bind_eq_bind, Option.bind_eq_some_iff] at h
    obtain ⟨⟨n, behind⟩, hn, ⟨more, last⟩, hmore, hpair⟩ := h
    obtain ⟨rfl, rfl⟩ := Prod.mk.inj (Option.some.inj hpair)
    have hbehind : behind = more.flatMap Der.unsigned ++ last := ih hmore
    rw [Der.eq_unsigned_of_readUnsigned? hn, hbehind, List.flatMap_cons, List.append_assoc]

/-- **PKCS#1.** The numbers that are read are those that are written. -/
theorem exists_encode_of_decode? {k : Rsa.Numbers} (h : decode? bytes = some k) :
    ∃ aids, bytes = encode k aids := by
  simp only [decode?, Option.bind_eq_bind, Option.bind_eq_some_iff] at h
  obtain ⟨content, hcontent, ⟨integers, rest⟩, hintegers, hk⟩ := h
  have hbytes := Der.eq_element_of_whole? hcontent
  have hflat := eq_flatMap_of_readIntegers? hintegers
  dsimp only at hk
  split at hk
  · next n e d p q dp dq coefficient =>
    obtain rfl := Option.some.inj hk
    exact ⟨⟨dp, dq, coefficient⟩, by rw [hbytes, hflat, List.append_nil, encode]⟩
  · contradiction

theorem exists_encode_of_key? {key : Rsa.PrivateKey} (h : key? bytes = some key) :
    ∃ aids, bytes = encode key.toNumbers aids := by
  simp only [key?, Option.bind_eq_bind, Option.bind_eq_some_iff] at h
  obtain ⟨numbers, hnumbers, hkey⟩ := h
  rw [Rsa.Numbers.key_eq_ok (Wire.toOption_eq_some_iff.mp hkey)]
  exact exists_encode_of_decode? hnumbers

end Pkcs1

/-! ### SEC1 -/

namespace Sec1

/-- The encoding of a key's parts, with bytes between the curve and the point. -/
def layout (content : Content) (between : Bytes) : Bytes :=
  Der.element Der.sequenceTag (Der.unsigned 1 ++ (Der.element Der.octetStringTag content.scalar ++
    (content.namedCurve.elim [] (Der.element 0xA0) ++
      (between ++ content.givenPoint.elim [] (Der.element 0xA1)))))

theorem eq_element_of_identifier? {name : Bytes} (h : identifier? bytes = some name) :
    bytes = Der.element Der.identifierTag name := by
  rw [identifier?] at h
  split at h
  · next hread =>
    obtain rfl := Option.some.inj h
    rw [Der.eq_element_of_readIdentifier? hread, List.append_nil]
  · contradiction

theorem eq_bitString_of_bits? {point : Bytes} (h : bits? bytes = some point) :
    bytes = Der.bitString point := by
  obtain ⟨content, hcontent, hpoint⟩ := Option.bind_eq_some_iff.mp h
  rw [Der.eq_element_of_whole? hcontent, Der.bitString]
  rw [Der.bitStringOfContent?.eq_def] at hpoint
  split at hpoint
  · obtain rfl := Option.some.inj hpoint
    rfl
  · contradiction

/-- The point stands at the end, behind what is passed over. -/
theorem exists_between_of_readExplicit? {scalar rest : Bytes} {curve : Option Bytes}
    {content : Content} (h : (do
      let (point, rest) ← Der.readExplicit? 1 rest
      let point ← match point with
        | some bytes => (bits? bytes).map some
        | none => some none
      if rest = [] then some (Content.mk scalar curve point) else none) = some content) :
    content.scalar = scalar ∧ content.curve = curve ∧
      ∃ between, rest = between ++ content.givenPoint.elim [] (Der.element 0xA1) := by
  obtain ⟨⟨point, behind⟩, hpoint, h⟩ := Option.bind_eq_some_iff.mp h
  obtain ⟨between, hrest, -⟩ := Der.exists_skipped_of_readExplicit? hpoint
  cases point with
  | none =>
    obtain ⟨hend, hcontent⟩ := Option.ite_none_right_eq_some.mp (h :)
    obtain rfl := Option.some.inj hcontent
    have hnothing : behind = [] := hend
    exact ⟨rfl, rfl, between, by rw [hrest, hnothing]; rfl⟩
  | some inside =>
    obtain ⟨given, hgiven, h⟩ := Option.bind_eq_some_iff.mp (h :)
    obtain ⟨point, hbits, rfl⟩ := Option.map_eq_some_iff.mp hgiven
    obtain ⟨hend, hcontent⟩ := Option.ite_none_right_eq_some.mp (h :)
    obtain rfl := Option.some.inj hcontent
    have hnothing : behind = [] := hend
    refine ⟨rfl, rfl, between, ?_⟩
    rw [hrest, hnothing, List.append_nil, eq_bitString_of_bits? hbits]
    rfl

/-- **SEC1.** The parts that are read are those that are written. -/
theorem exists_layout_of_decode? {content : Content} (h : decode? bytes = some content) :
    ∃ between, bytes = layout content between := by
  rw [decode?] at h
  obtain ⟨inside, hinside, h⟩ := Option.bind_eq_some_iff.mp h
  obtain ⟨⟨version, fields⟩, hversion, h⟩ := Option.bind_eq_some_iff.mp h
  obtain rfl : version = 1 := by
    by_contra hother
    dsimp only at h
    rw [if_pos hother] at h
    cases h
  obtain ⟨⟨scalar, parts⟩, hscalar, h⟩ := Option.bind_eq_some_iff.mp (h :)
  obtain ⟨⟨curve, rest⟩, hcurve, h⟩ := Option.bind_eq_some_iff.mp h
  obtain ⟨skipped, hparts, hfirst⟩ := Der.exists_skipped_of_readExplicit? hcurve
  -- what stands in the element of the curve, and what is read behind it
  obtain ⟨name, rfl, htail⟩ : ∃ name, curve = name.map (Der.element Der.identifierTag) ∧
      content.scalar = scalar ∧ content.curve = name ∧
        ∃ between, rest = between ++ content.givenPoint.elim [] (Der.element 0xA1) := by
    cases curve with
    | none => exact ⟨none, rfl, exists_between_of_readExplicit? h⟩
    | some inside =>
      obtain ⟨named, hname, h⟩ := Option.bind_eq_some_iff.mp (h :)
      obtain ⟨name, hidentifier, rfl⟩ := Option.map_eq_some_iff.mp hname
      rw [eq_element_of_identifier? hidentifier]
      exact ⟨some name, rfl, exists_between_of_readExplicit? h⟩
  obtain ⟨rfl, rfl, between, rfl⟩ := htail
  refine ⟨between, ?_⟩
  rw [Der.eq_element_of_whole? hinside, Der.eq_unsigned_of_readUnsigned? hversion,
    Der.eq_element_of_readTagged? hscalar, hparts, hfirst rfl]
  rfl

end Sec1

/-! ### PKCS#8 -/

namespace Pkcs8

/-- The encoding of a key's parts in a version, with bytes behind the key. -/
def layout (version : Nat) (content : Content) (behind : Bytes) : Bytes :=
  Der.element Der.sequenceTag (Der.unsigned version ++
    (Der.element Der.sequenceTag
      (Der.element Der.identifierTag content.algorithm ++ content.parameters.getD []) ++
    (Der.element Der.octetStringTag content.key ++ behind)))

theorem eq_getD_of_parameters? {parameters : Option Bytes}
    (h : parameters? bytes = some parameters) : bytes = parameters.getD [] := by
  rw [parameters?.eq_def] at h
  split at h
  · obtain rfl := Option.some.inj h
    rfl
  · split at h
    · obtain rfl := Option.some.inj h
      rfl
    · contradiction

/-- **PKCS#8.** The parts that are read are those that are written. -/
theorem exists_layout_of_decode? {content : Content} (h : decode? bytes = some content) :
    ∃ version behind, bytes = layout version content behind := by
  rw [decode?] at h
  obtain ⟨inside, hinside, h⟩ := Option.bind_eq_some_iff.mp h
  obtain ⟨⟨version, fields⟩, hversion, h⟩ := Option.bind_eq_some_iff.mp h
  have hold : ¬1 < version := by
    intro hnew
    dsimp only at h
    rw [if_pos hnew] at h
    cases h
  dsimp only at h
  rw [if_neg hold] at h
  obtain ⟨⟨algorithm, parts⟩, halgorithm, h⟩ := Option.bind_eq_some_iff.mp h
  obtain ⟨⟨identifier, named⟩, hidentifier, h⟩ := Option.bind_eq_some_iff.mp h
  obtain ⟨parameters, hparameters, h⟩ := Option.bind_eq_some_iff.mp h
  obtain ⟨⟨key, behind⟩, hkey, h⟩ := Option.bind_eq_some_iff.mp h
  obtain ⟨⟨point, rest⟩, -, h⟩ := Option.bind_eq_some_iff.mp h
  -- the parts are settled, and the rest says only whether they are given out
  have hcontent : content = ⟨identifier, parameters, key⟩ := by
    cases point <;> dsimp only at h <;> split_ifs at h <;> first
      | exact (Option.some.inj h).symm
      | cases h
  have hnamed : algorithm = Der.element Der.identifierTag identifier ++ parameters.getD [] :=
    eq_getD_of_parameters? hparameters ▸ Der.eq_element_of_readIdentifier? hidentifier
  have hparts : parts = Der.element Der.octetStringTag key ++ behind :=
    Der.eq_element_of_readTagged? hkey
  refine ⟨version, behind, ?_⟩
  rw [Der.eq_element_of_whole? hinside, Der.eq_unsigned_of_readUnsigned? hversion,
    Der.eq_element_of_readTagged? halgorithm, hnamed, hparts, hcontent]
  rfl

end Pkcs8

end RequestSigning
