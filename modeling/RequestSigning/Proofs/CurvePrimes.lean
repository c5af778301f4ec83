import RequestSigning.Ecdsa.Curve
import RequestSigning.Proofs.Modular
import Mathlib.NumberTheory.LucasLehmer

/-!
# The primes of the curves

The orders of the curves' base points have 256, 384 and 521 bits. That they are prime is shown by
certificates, one for each order and one for each factor that is too long for trial division. Every
certificate stands behind those of the factors it names, so the whole list is checked in one pass, by
powers that the kernel computes on its own numbers (`Ecdsa.Curve.order_prime`).

The fields are prime as well (`Ecdsa.Curve.prime_prime`). Those of P-256 and P-384 have certificates in
the same list; the field of P-521 is that of a Mersenne prime, for which there is a test of its own.
-/

namespace RequestSigning

theorem prime_mersenne_521 : (mersenne 521).Prime :=
  lucas_lehmer_sufficiency _ (by norm_num) (by norm_num)

namespace Ecdsa

open RequestSigning.Modular

/-- Certificates of the fields of P-256 and P-384, of the orders of all three curves, and of the factors
that they need. -/
def certificates : List Certificate :=
   [⟨65537, 3, [2, 2, 2, 2, 2, 2, 2, 2, 2, 2, 2, 2, 2, 2, 2, 2]⟩,
    ⟨490463, 14, [2, 7, 53, 661]⟩,
    ⟨6700417, 5, [2, 2, 2, 2, 2, 2, 2, 3, 17449]⟩,
    ⟨204061199, 11, [2, 11, 23, 107, 3769]⟩,
    ⟨34282281433, 17, [2, 2, 2, 3, 7, 204061199]⟩,
    ⟨66417393611, 6, [2, 5, 53, 173, 197, 3677]⟩,
    ⟨11290956913871, 13, [2, 5, 17, 66417393611]⟩,
    ⟨78283, 3, [2, 3, 3, 4349]⟩,
    ⟨704251, 2, [2, 3, 3, 5, 5, 5, 313]⟩,
    ⟨46076956964474543, 5, [2, 23, 18169, 78283, 704251]⟩,
    ⟨774023187263532362759620327192479577272145303, 3, [2, 3, 3, 2411, 34282281433, 11290956913871,
      46076956964474543]⟩,
    ⟨835945042244614951780389953367877943453916927241, 11, [2, 2, 2, 3, 3, 3, 5,
      774023187263532362759620327192479577272145303]⟩,
    ⟨Curve.p256.prime, 6, [2, 3, 5, 5, 17, 257, 641, 1531, 65537, 490463, 6700417,
      835945042244614951780389953367877943453916927241]⟩,
    ⟨9350987, 2, [2, 17, 229, 1201]⟩,
    ⟨187019741, 2, [2, 2, 5, 9350987]⟩,
    ⟨311245691, 2, [2, 5, 7, 17, 29, 29, 311]⟩,
    ⟨622491383, 5, [2, 311245691]⟩,
    ⟨126241, 7, [2, 2, 2, 2, 2, 3, 5, 263]⟩,
    ⟨104471, 11, [2, 5, 31, 337]⟩,
    ⟨3969899, 2, [2, 19, 104471]⟩,
    ⟨1002328039319, 19, [2, 126241, 3969899]⟩,
    ⟨155317, 5, [2, 2, 3, 7, 43, 43]⟩,
    ⟨191039911, 3, [2, 3, 5, 41, 155317]⟩,
    ⟨208150935158385979, 2, [2, 3, 11, 43, 127, 3023, 191039911]⟩,
    ⟨2624747550333869278416773953, 7, [2, 2, 2, 2, 2, 2, 3, 3, 1297, 16879, 208150935158385979]⟩,
    ⟨Curve.p256.order, 7, [2, 2, 2, 2, 3, 71, 131, 373, 3407, 17449, 38189, 187019741, 622491383,
      1002328039319, 2624747550333869278416773953]⟩,
    ⟨2862218959, 3, [2, 3, 157, 1373, 2213]⟩,
    ⟨807145746439, 3, [2, 3, 47, 2862218959]⟩,
    ⟨312289, 14, [2, 2, 2, 2, 2, 3, 3253]⟩,
    ⟨513928823, 5, [2, 11, 59, 599, 661]⟩,
    ⟨53448597593, 3, [2, 2, 2, 13, 513928823]⟩,
    ⟨1357291859799823621, 2, [2, 2, 3, 5, 67, 6317, 53448597593]⟩,
    ⟨105957871, 3, [2, 3, 5, 19, 211, 881]⟩,
    ⟨246608641, 19, [2, 2, 2, 2, 2, 2, 2, 2, 3, 3, 5, 21407]⟩,
    ⟨529709925838459440593, 3, [2, 2, 2, 2, 7, 181, 105957871, 246608641]⟩,
    ⟨6051631, 6, [2, 3, 5, 13, 59, 263]⟩,
    ⟨336757, 2, [2, 2, 3, 7, 19, 211]⟩,
    ⟨568151, 17, [2, 5, 5, 11, 1033]⟩,
    ⟨363557, 2, [2, 2, 97, 937]⟩,
    ⟨532247449, 7, [2, 2, 2, 3, 61, 363557]⟩,
    ⟨44925942675193, 5, [2, 2, 2, 3, 3517, 532247449]⟩,
    ⟨35581458644053887931343, 5, [2, 17, 41, 568151, 44925942675193]⟩,
    ⟨23964610537191310276190549303, 5, [2, 336757, 35581458644053887931343]⟩,
    ⟨862725979338887169942859774909, 2, [2, 2, 3, 3, 23964610537191310276190549303]⟩,
    ⟨20705423504133292078628634597817, 5, [2, 2, 2, 3, 862725979338887169942859774909]⟩,
    ⟨413244619895455989650825325680172591660047, 5, [2, 17, 97, 6051631,
      20705423504133292078628634597817]⟩,
    ⟨12397338596863679689524759770405177749801411, 2, [2, 3, 5,
      413244619895455989650825325680172591660047]⟩,
    ⟨19173790298027098165721053155794528970226934547887232785722672956982046098136719667167519737147526097, 3,
      [2, 2, 2, 2, 11, 11, 11, 8389, 38557, 312289, 1357291859799823621, 529709925838459440593,
      12397338596863679689524759770405177749801411]⟩,
    ⟨Curve.p384.prime, 19, [2, 19, 67, 807145746439,
      19173790298027098165721053155794528970226934547887232785722672956982046098136719667167519737147526097]⟩,
    ⟨455737, 11, [2, 2, 2, 3, 17, 1117]⟩,
    ⟨154950581, 2, [2, 2, 5, 17, 455737]⟩,
    ⟨290064143, 5, [2, 79, 491, 3739]⟩,
    ⟨120699720968197491947347, 3, [2, 3, 13, 34429, 154950581, 290064143]⟩,
    ⟨1124679999981664229965379347, 2, [2, 3, 1553, 120699720968197491947347]⟩,
    ⟨1276987, 2, [2, 3, 29, 41, 179]⟩,
    ⟨330563, 2, [2, 19, 8699]⟩,
    ⟨1436833069313, 3, [2, 2, 2, 2, 2, 2, 2, 2, 16979, 330563]⟩,
    ⟨248431, 3, [2, 3, 5, 7, 7, 13, 13]⟩,
    ⟨8463023, 5, [2, 113, 37447]⟩,
    ⟨9863677, 5, [2, 2, 3, 3, 311, 881]⟩,
    ⟨37344768852931, 3, [2, 3, 5, 7, 11, 11, 149, 9863677]⟩,
    ⟨55942463741690639, 7, [2, 7, 107, 37344768852931]⟩,
    ⟨272109983, 5, [2, 19, 73, 233, 421]⟩,
    ⟨228572385721, 23, [2, 2, 2, 3, 5, 7, 272109983]⟩,
    ⟨23314383343543, 3, [2, 3, 17, 228572385721]⟩,
    ⟨426632512014427833817, 11, [2, 2, 2, 3, 13, 89, 659, 23314383343543]⟩,
    ⟨1495199339761412565498084319, 6, [2, 3, 3, 3, 64901, 426632512014427833817]⟩,
    ⟨17942392077136950785977011829, 6, [2, 2, 3, 1495199339761412565498084319]⟩,
    ⟨1059392654943455286185473617842338478315215895509773412096307, 2, [2, 251, 248431, 8463023,
      55942463741690639, 17942392077136950785977011829]⟩,
    ⟨3055465788140352002733946906144561090641249606160407884365391979704929268480326390471, 12, [2,
      3, 5, 151, 347, 1276987, 1436833069313,
      1059392654943455286185473617842338478315215895509773412096307]⟩,
    ⟨Curve.p384.order, 2, [2, 3, 3, 7, 7, 13, 1124679999981664229965379347,
      3055465788140352002733946906144561090641249606160407884365391979704929268480326390471]⟩,
    ⟨1458105463, 3, [2, 3, 3, 3, 3, 3, 11, 311, 877]⟩,
    ⟨186406729, 7, [2, 2, 2, 3, 61, 157, 811]⟩,
    ⟨88599952463812275001, 11, [2, 2, 2, 3, 5, 5, 5, 5, 5, 19, 281, 1187, 186406729]⟩,
    ⟨1647781915921980690468599, 13, [2, 17, 547, 88599952463812275001]⟩,
    ⟨161969, 3, [2, 2, 2, 2, 53, 191]⟩,
    ⟨370471, 3, [2, 3, 5, 53, 233]⟩,
    ⟨133279, 3, [2, 3, 97, 229]⟩,
    ⟨65677, 2, [2, 2, 3, 13, 421]⟩,
    ⟨92581, 6, [2, 2, 3, 5, 1543]⟩,
    ⟨10924559, 7, [2, 59, 92581]⟩,
    ⟨3473195323567808068309, 2, [2, 2, 3, 3, 13, 19, 59, 9227, 65677, 10924559]⟩,
    ⟨144471089338257942164514676806340723, 11, [2, 3, 3, 11, 109, 14461, 133279,
      3473195323567808068309]⟩,
    ⟨10577321, 17, [2, 2, 2, 5, 13, 20341]⟩,
    ⟨495527, 5, [2, 41, 6043]⟩,
    ⟨6937379, 2, [2, 7, 495527]⟩,
    ⟨101785224689, 3, [2, 2, 2, 2, 7, 131, 6937379]⟩,
    ⟨8196883, 2, [2, 3, 79, 17293]⟩,
    ⟨43800962361397, 6, [2, 2, 3, 41, 10861, 8196883]⟩,
    ⟨777241, 7, [2, 2, 2, 3, 3, 5, 17, 127]⟩,
    ⟨19353437, 2, [2, 2, 277, 17467]⟩,
    ⟨60018716061994831, 7, [2, 3, 5, 7, 19, 777241, 19353437]⟩,
    ⟨4239602065187190872179, 2, [2, 3, 61, 193, 60018716061994831]⟩,
    ⟨7427946019382605513260578233234962521, 3, [2, 2, 2, 5, 43800962361397,
      4239602065187190872179]⟩,
    ⟨15994076126984618329123851002118749004583184815459808099, 2, [2, 10577321, 101785224689,
      7427946019382605513260578233234962521]⟩,
    ⟨3636410625392624440351547907325502812950802686368714273274221490761556277859337865760708490235892541081304511, 19,
      [2, 5, 19, 263, 5449, 15601, 370471, 144471089338257942164514676806340723,
      15994076126984618329123851002118749004583184815459808099]⟩,
    ⟨3615194794881930010216942559103847593050265703173292383701371712350878926821661243755933835426896058418509759880171943, 3,
      [2, 3, 3, 11, 31, 161969,
      3636410625392624440351547907325502812950802686368714273274221490761556277859337865760708490235892541081304511]⟩,
    ⟨Curve.p521.order, 3, [2, 2, 2, 7, 11, 1283, 1458105463, 1647781915921980690468599,
      3615194794881930010216942559103847593050265703173292383701371712350878926821661243755933835426896058418509759880171943]⟩]

/-- The certificates stand in order, each with its factors certified before it, so that all of their
numbers are prime. -/
theorem prime_of_mem {n : ℕ} (h : n ∈ certificates.map Certificate.number) : n.Prime := by
  have hcertified : certified [] certificates = true := by decide +kernel
  obtain ⟨c, hc, rfl⟩ := List.mem_map.mp h
  exact prime_of_certified hcertified (by simp) c hc

namespace Curve

/-- **Fields.** The number of elements of a curve's field is prime. -/
theorem prime_prime (curve : Curve) : curve.prime.Prime := by
  cases curve with
  | p256 | p384 => exact prime_of_mem (by decide +kernel)
  | p521 =>
    have hmersenne : p521.prime = mersenne 521 := by decide +kernel
    rw [hmersenne]
    exact prime_mersenne_521

instance (curve : Curve) : Fact curve.prime.Prime := ⟨curve.prime_prime⟩

/-- **Orders.** The order of a curve's base point is prime. -/
theorem order_prime (curve : Curve) : curve.order.Prime := by
  cases curve <;> exact prime_of_mem (by decide +kernel)

end Curve

end Ecdsa

end RequestSigning
