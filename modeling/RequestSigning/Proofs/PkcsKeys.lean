import RequestSigning.PrivateKey.Pkcs8
import RequestSigning.Proofs.DerElements
import RequestSigning.Proofs.Rsa

/-!
# Keys in elements read back

An RSA key in its PKCS#1 form is read as the numbers that were written, whatever aids to computation
stand beside them (`Pkcs1.decode?_encode`), and the parts of a PKCS#8 key are read as those parts
(`Pkcs8.decode?_encode`). The only bound is the one on the whole element. So both forms of an RSA key
give the key of its numbers, or none where the numbers have a fault (`Pkcs1.key?_encode`,
`Pkcs8.key?_encode_rsa`).

Writing and reading meet in one lemma for each part, and the sizes are added up once for each form.
Beyond the bound the texts are refused whatever is in them (`Pkcs1.key?_eq_none_of_long`,
`Pkcs8.key?_eq_none_of_long`), so the condition on the size is exact.
-/

namespace RequestSigning

theorem Der.length_content_le (tag : UInt8) (content : Bytes) :
    content.length ≤ (element tag content).length := by
  rw [element, List.length_cons, List.length_append]
  omega

theorem Der.readIdentifier?_element {content : Bytes} (hidentifier : isIdentifier content = true)
    (h : content.length < 2 ^ 28) (rest : Bytes) :
    readIdentifier? (element identifierTag content ++ rest) = some (content, rest) := by
  rw [readIdentifier?, readTagged?_element (by decide) h]
  exact if_pos hidentifier

/-- An integer is no longer than all that stand with it. -/
theorem Der.length_unsignedContent_le_flatMap {integers : List Nat} {n : Nat}
    (h : n ∈ integers) : (unsignedContent n).length ≤ (integers.flatMap unsigned).length := by
  have hpart : (unsigned n).Sublist (integers.flatMap unsigned) :=
    List.sublist_flatten_of_mem (List.mem_map_of_mem h)
  exact (length_content_le _ _).trans hpart.length_le

/-! ### PKCS#1 -/

namespace Pkcs1

variable {k : Rsa.Numbers} {aids : Aids}

theorem encode_ne_nil (k : Rsa.Numbers) (aids : Aids) : encode k aids ≠ [] :=
  List.cons_ne_nil _ _

/-- Integers that were written one after the other are read. -/
theorem readIntegers?_unsigned {integers : List Nat}
    (h : ∀ n ∈ integers, (Der.unsignedContent n).length < 2 ^ 28) (rest : Bytes) :
    readIntegers? integers.length (integers.flatMap Der.unsigned ++ rest) =
      some (integers, rest) := by
  induction integers with
  | nil => rfl
  | cons n integers ih =>
    rw [List.forall_mem_cons] at h
    rw [List.length_cons, List.flatMap_cons, List.append_assoc, readIntegers?,
      Der.readUnsigned?_unsigned h.1]
    simp only [Option.bind_eq_bind, Option.bind_some, ih h.2]

/-- **PKCS#1.** The numbers that were written are read. -/
theorem decode?_encode (h : (encode k aids).length < 2 ^ 28 + 6) :
    decode? (encode k aids) = some k := by
  have hcontent := (Der.length_content_lt_iff _ _).mpr h
  have hinteger : ∀ n ∈ [0, k.n, k.e, k.d, k.p, k.q, aids.dp, aids.dq, aids.coefficient],
      (Der.unsignedContent n).length < 2 ^ 28 := fun n hn =>
    (Der.length_unsignedContent_le_flatMap hn).trans_lt hcontent
  have hread := readIntegers?_unsigned hinteger []
  rw [List.append_nil] at hread
  rw [decode?, encode, Der.whole?_element (by decide) hcontent]
  simp only [Option.bind_eq_bind, Option.bind_some]
  rw [show 9 = [0, k.n, k.e, k.d, k.p, k.q, aids.dp, aids.dq, aids.coefficient].length from rfl,
    hread]
  rfl

theorem key?_encode (h : (encode k aids).length < 2 ^ 28 + 6) :
    key? (encode k aids) = k.key.toOption := by
  rw [key?, decode?_encode h]
  rfl

theorem key?_eq_none_of_long {bytes : Bytes} (h : 2 ^ 28 + 6 ≤ bytes.length) :
    key? bytes = none := by
  rw [key?, decode?, Der.whole?_eq_none_of_long h]
  rfl

/-- A key is at least as long as an aid in it is wide. -/
theorem width_le_length_encode (k : Rsa.Numbers) (aids : Aids) :
    Bytes.width aids.dp ≤ (encode k aids).length := by
  have hread := Der.width_le_of_unsignedOfContent? (Der.unsignedOfContent?_unsignedContent aids.dp)
  have hinteger : (Der.unsignedContent aids.dp).length ≤ ([0, k.n, k.e, k.d, k.p, k.q, aids.dp,
      aids.dq, aids.coefficient].flatMap Der.unsigned).length :=
    Der.length_unsignedContent_le_flatMap (by simp)
  exact hread.trans (hinteger.trans (Der.length_content_le _ _))

end Pkcs1

/-! ### PKCS#8 -/

namespace Pkcs8

theorem encode_ne_nil (content : Content) : encode content ≠ [] :=
  List.cons_ne_nil _ _

/-- The key among the parts is shorter than the whole. -/
theorem length_key_le (content : Content) : content.key.length ≤ (encode content).length := by
  have hkey := Der.length_content_le Der.octetStringTag content.key
  have hwhole := Der.length_content_le Der.sequenceTag (Der.unsigned 0 ++
    Der.element Der.sequenceTag
      (Der.element Der.identifierTag content.algorithm ++ content.parameters.getD []) ++
    Der.element Der.octetStringTag content.key)
  rw [List.length_append] at hwhole
  rw [encode]
  omega

/-- **PKCS#8.** The parts that were written are read. -/
theorem decode?_encode {content : Content} (hidentifier : Der.isIdentifier content.algorithm = true)
    (hparameters : parameters? (content.parameters.getD []) = some content.parameters)
    (h : (encode content).length < 2 ^ 28 + 6) : decode? (encode content) = some content := by
  obtain ⟨algorithm, halgorithm⟩ : ∃ algorithm, algorithm =
      Der.element Der.identifierTag content.algorithm ++ content.parameters.getD [] := ⟨_, rfl⟩
  have hencode : encode content = Der.element Der.sequenceTag (Der.unsigned 0 ++
      (Der.element Der.sequenceTag algorithm ++
        (Der.element Der.octetStringTag content.key ++ []))) := by
    rw [encode, halgorithm, List.append_nil, List.append_assoc]
  have hwhole := (Der.length_content_lt_iff _ _).mpr (hencode ▸ h)
  -- every part is shorter than the whole
  have hpart := hwhole
  simp only [List.length_append] at hpart
  have halgorithmShort : algorithm.length < 2 ^ 28 := by
    have hle := Der.length_content_le Der.sequenceTag algorithm
    omega
  have hkeyShort : content.key.length < 2 ^ 28 := by
    have hle := Der.length_content_le Der.octetStringTag content.key
    omega
  have hidentifierShort : content.algorithm.length < 2 ^ 28 := by
    have hle := Der.length_content_le Der.identifierTag content.algorithm
    rw [halgorithm, List.length_append] at halgorithmShort
    omega
  have hsequence : Der.isTag Der.sequenceTag = true := by decide
  have hoctets : Der.isTag Der.octetStringTag = true := by decide
  have hversion := Der.readUnsigned?_unsigned (n := 0) (by decide)
    (Der.element Der.sequenceTag algorithm ++ (Der.element Der.octetStringTag content.key ++ []))
  have hnamed : Der.readIdentifier? algorithm =
      some (content.algorithm, content.parameters.getD []) := by
    rw [halgorithm]
    exact Der.readIdentifier?_element hidentifier hidentifierShort _
  have hend : Der.readContext? 1 [] = some (none, []) := by rw [Der.readContext?]
  have hattributes : areAttributes [] = true := by rw [areAttributes]; rfl
  rw [decode?, hencode, Der.whole?_element (by decide) hwhole]
  simp only [Option.bind_eq_bind, Option.bind_some, hversion, Nat.not_lt_zero, if_false,
    Der.readTagged?_element hsequence halgorithmShort, hnamed, hparameters,
    Der.readTagged?_element hoctets hkeyShort, hend, ne_eq, not_true_eq_false, hattributes, if_true]

/-- The parts of an RSA key. -/
def rsaContent (k : Rsa.Numbers) (aids : Pkcs1.Aids) : Content :=
  ⟨rsaIdentifier, some (Der.element Der.nullTag []), Pkcs1.encode k aids⟩

variable {k : Rsa.Numbers} {aids : Pkcs1.Aids}

theorem key?_encode_rsa (h : (encode (rsaContent k aids)).length < 2 ^ 28 + 6) :
    key? (encode (rsaContent k aids)) = k.key.toOption.map .rsa := by
  have hkey : (Pkcs1.encode k aids).length < 2 ^ 28 + 6 :=
    (length_key_le (rsaContent k aids)).trans_lt h
  have hidentifier : Der.isIdentifier rsaIdentifier = true := by decide
  have hparameters : parameters? (Der.element Der.nullTag []) =
      some (some (Der.element Der.nullTag [])) := by decide
  have hrsa : (rsaContent k aids).rsaKey? = k.key.toOption := by
    rw [Content.rsaKey?, ← Pkcs1.key?_encode hkey]
    exact if_pos ⟨rfl, rfl⟩
  -- an algorithm other than that of curves has no key on a curve
  have hcurve : ∀ curve, (rsaContent k aids).curveKey? curve = none := by
    intro curve
    rw [Content.curveKey?]
    refine if_neg fun hboth => ?_
    have hne : rsaIdentifier ≠ curveKeyIdentifier := by decide
    exact hne hboth.1
  have hdecode : decode? (encode (rsaContent k aids)) = some (rsaContent k aids) :=
    decode?_encode hidentifier hparameters h
  rw [key?, hdecode]
  simp only [Option.bind_eq_bind, Option.bind_some, Content.anyKey?, hrsa, hcurve]
  cases k.key.toOption with
  | none => simp
  | some key => rfl

theorem key?_eq_none_of_long {bytes : Bytes} (h : 2 ^ 28 + 6 ≤ bytes.length) :
    key? bytes = none := by
  rw [key?, decode?, Der.whole?_eq_none_of_long h]
  rfl

end Pkcs8

end RequestSigning
