import Groth16Solana.Foundations.Lucas

/-! # The two BN254 moduli

`fqModulus` is the base field modulus, whose four limbs `negate_g1_be` keeps, and `frModulus` the
scalar field modulus behind `FR_MODULUS_BE`. Both are prime, by a table of certificates. -/

set_option autoImplicit false

namespace Groth16Solana
open Foundations

def fqModulus : ℕ :=
  21888242871839275222246405745257275088696311157297823662689037894645226208583

def frModulus : ℕ :=
  21888242871839275222246405745257275088548364400416034343698204186575808495617

/-- The two moduli and the primes that their certificates rest on. -/
def certificates : List LucasRow :=
  [⟨2, 2, 1, []⟩, ⟨2, 3, 2, [(2, 1)]⟩, ⟨3, 5, 2, [(2, 2)]⟩, ⟨3, 7, 3, [(2, 1), (3, 1)]⟩,
    ⟨4, 11, 2, [(2, 1), (5, 1)]⟩, ⟨4, 13, 2, [(2, 2), (3, 1)]⟩, ⟨5, 17, 3, [(2, 4)]⟩,
    ⟨5, 19, 2, [(2, 1), (3, 2)]⟩, ⟨5, 23, 5, [(2, 1), (11, 1)]⟩, ⟨5, 29, 2, [(2, 2), (7, 1)]⟩,
    ⟨5, 31, 3, [(2, 1), (3, 1), (5, 1)]⟩, ⟨6, 37, 2, [(2, 2), (3, 2)]⟩, ⟨6, 41, 6, [(2, 3), (5, 1)]⟩,
    ⟨6, 47, 5, [(2, 1), (23, 1)]⟩, ⟨6, 53, 2, [(2, 2), (13, 1)]⟩, ⟨7, 67, 2, [(2, 1), (3, 1), (11, 1)]⟩,
    ⟨7, 71, 7, [(2, 1), (5, 1), (7, 1)]⟩, ⟨7, 73, 5, [(2, 3), (3, 2)]⟩, ⟨7, 83, 2, [(2, 1), (41, 1)]⟩,
    ⟨7, 89, 3, [(2, 3), (11, 1)]⟩, ⟨7, 107, 2, [(2, 1), (53, 1)]⟩, ⟨7, 109, 6, [(2, 2), (3, 3)]⟩,
    ⟨7, 127, 3, [(2, 1), (3, 2), (7, 1)]⟩, ⟨8, 137, 3, [(2, 3), (17, 1)]⟩,
    ⟨8, 223, 3, [(2, 1), (3, 1), (37, 1)]⟩, ⟨8, 229, 6, [(2, 2), (3, 1), (19, 1)]⟩,
    ⟨8, 233, 3, [(2, 3), (29, 1)]⟩, ⟨9, 271, 6, [(2, 1), (3, 3), (5, 1)]⟩,
    ⟨9, 311, 17, [(2, 1), (5, 1), (31, 1)]⟩, ⟨9, 379, 2, [(2, 1), (3, 3), (7, 1)]⟩,
    ⟨9, 409, 21, [(2, 3), (3, 1), (17, 1)]⟩, ⟨9, 449, 3, [(2, 6), (7, 1)]⟩,
    ⟨9, 491, 2, [(2, 1), (5, 1), (7, 2)]⟩, ⟨10, 661, 2, [(2, 2), (3, 1), (5, 1), (11, 1)]⟩,
    ⟨10, 823, 3, [(2, 1), (3, 1), (137, 1)]⟩, ⟨10, 853, 2, [(2, 2), (3, 1), (71, 1)]⟩,
    ⟨10, 911, 17, [(2, 1), (5, 1), (7, 1), (13, 1)]⟩, ⟨10, 983, 5, [(2, 1), (491, 1)]⟩,
    ⟨11, 1231, 3, [(2, 1), (3, 1), (5, 1), (41, 1)]⟩, ⟨11, 1637, 2, [(2, 2), (409, 1)]⟩,
    ⟨12, 2221, 2, [(2, 2), (3, 1), (5, 1), (37, 1)]⟩, ⟨12, 3557, 2, [(2, 2), (7, 1), (127, 1)]⟩,
    ⟨12, 3691, 2, [(2, 1), (3, 2), (5, 1), (41, 1)]⟩, ⟨13, 4999, 3, [(2, 1), (3, 1), (7, 2), (17, 1)]⟩,
    ⟨13, 5501, 2, [(2, 2), (5, 3), (11, 1)]⟩, ⟨14, 11003, 2, [(2, 1), (5501, 1)]⟩,
    ⟨14, 13327, 3, [(2, 1), (3, 1), (2221, 1)]⟩, ⟨15, 20963, 2, [(2, 1), (47, 1), (223, 1)]⟩,
    ⟨16, 41927, 5, [(2, 1), (20963, 1)]⟩, ⟨17, 93001, 14, [(2, 3), (3, 1), (5, 3), (31, 1)]⟩,
    ⟨18, 237073, 15, [(2, 4), (3, 1), (11, 1), (449, 1)]⟩,
    ⟨19, 327599, 19, [(2, 1), (19, 1), (37, 1), (233, 1)]⟩,
    ⟨21, 1593227, 2, [(2, 1), (19, 1), (41927, 1)]⟩,
    ⟨21, 1853641, 17, [(2, 3), (3, 2), (5, 1), (19, 1), (271, 1)]⟩,
    ⟨23, 4562087, 5, [(2, 1), (17, 1), (109, 1), (1231, 1)]⟩,
    ⟨28, 173171039, 13, [(2, 1), (73, 1), (89, 1), (13327, 1)]⟩,
    ⟨29, 405928799, 22, [(2, 1), (11, 1), (3691, 1), (4999, 1)]⟩,
    ⟨30, 639533339, 2, [(2, 1), (229, 1), (853, 1), (1637, 1)]⟩,
    ⟨31, 1263766531, 10, [(2, 1), (3, 1), (5, 1), (13, 1), (911, 1), (3557, 1)]⟩,
    ⟨34, 11465965001, 3, [(2, 3), (5, 4), (7, 1), (327599, 1)]⟩,
    ⟨34, 12048837557, 2, [(2, 2), (7, 2), (661, 1), (93001, 1)]⟩,
    ⟨36, 35385462869, 2, [(2, 2), (7, 1), (1263766531, 1)]⟩,
    ⟨43, 5156902474397, 2, [(2, 2), (107, 1), (12048837557, 1)]⟩,
    ⟨51, 1670836401704629, 2, [(2, 2), (3, 4), (5156902474397, 1)]⟩,
    ⟨52, 2480874801745591, 6, [(2, 1), (3, 2), (5, 1), (19, 1), (41, 1), (35385462869, 1)]⟩,
    ⟨56, 65865678001877903, 5, [(2, 1), (83, 1), (379, 1), (1637, 1), (639533339, 1)]⟩,
    ⟨94, 13818364434197438864469338081, 3, [(2, 5), (5, 1), (823, 1), (1593227, 1), (65865678001877903, 1)]⟩,
    ⟨134, 13427688667394608761327070753331941386769, 17,
      [(2, 4), (3, 1), (7, 1), (11, 1), (1853641, 1), (4562087, 1), (173171039, 1), (2480874801745591, 1)]⟩,
    ⟨254, 21888242871839275222246405745257275088548364400416034343698204186575808495617, 5,
      [(2, 28), (3, 2), (13, 1), (29, 1), (983, 1), (11003, 1), (237073, 1), (405928799, 1),
       (1670836401704629, 1), (13818364434197438864469338081, 1)]⟩,
    ⟨254, 21888242871839275222246405745257275088696311157297823662689037894645226208583, 3,
      [(2, 1), (3, 2), (13, 1), (29, 1), (67, 1), (229, 1), (311, 1), (983, 1), (11003, 1), (405928799, 1),
       (11465965001, 1), (13427688667394608761327070753331941386769, 1)]⟩]

theorem checkRows_certificates : checkRows [] certificates = true := by decide +kernel

theorem prime_of_certificate {p : ℕ} (h : p ∈ certificates.map LucasRow.p) : p.Prime :=
  prime_of_checkRows (List.forall_mem_nil _) checkRows_certificates p h

theorem fqModulus_prime : fqModulus.Prime := prime_of_certificate (by simp [certificates, fqModulus])

theorem frModulus_prime : frModulus.Prime := prime_of_certificate (by simp [certificates, frModulus])

instance : Fact fqModulus.Prime := ⟨fqModulus_prime⟩

instance : Fact frModulus.Prime := ⟨frModulus_prime⟩

theorem fqModulus_lt : fqModulus < 2 ^ 254 := by norm_num [fqModulus]

end Groth16Solana
