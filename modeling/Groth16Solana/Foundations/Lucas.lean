import Mathlib.NumberTheory.LucasPrimality

/-! # Primality certificates

Lucas's criterion with the factorization of `p - 1` given as prime powers, as one Boolean test that
the kernel evaluates: the powers are taken by square-and-multiply. -/

set_option autoImplicit false

namespace Foundations

/-- `a ^ n % m`, reading the `k` low bits of `n` from the least significant one. -/
def powMod (m : ℕ) : ℕ → ℕ → ℕ → ℕ
  | 0, _, _ => 1 % m
  | k + 1, a, n => (if n % 2 = 1 then a else 1) * powMod m k (a * a % m) (n / 2) % m

theorem powMod_eq (m k a n : ℕ) (hn : n < 2 ^ k) : powMod m k a n = a ^ n % m := by
  induction k generalizing a n with
  | zero =>
    have h0 : n = 0 := by simpa using hn
    rw [h0, powMod, pow_zero]
  | succ k ih =>
    have hhalf : n / 2 < 2 ^ k := by rw [pow_succ] at hn; omega
    have hsq : (a * a % m) ^ (n / 2) % m = a ^ (2 * (n / 2)) % m := by
      rw [← Nat.pow_mod, ← pow_two, ← pow_mul]
    rw [powMod, ih _ _ hhalf, hsq, Nat.mul_mod_mod]
    rcases Nat.mod_two_eq_zero_or_one n with h | h
    · have e : 2 * (n / 2) = n := by omega
      rw [h, if_neg (by decide), e, one_mul]
    · have e : 2 * (n / 2) + 1 = n := by omega
      rw [h, if_pos rfl, ← pow_succ', e]

/-- The powers and the product of Lucas's criterion for `p`, with exponents of at most `k` bits. -/
def lucasTest (k p a : ℕ) (factors : List (ℕ × ℕ)) : Bool :=
  decide (1 < p) && decide (p ≤ 2 ^ k) &&
    decide ((factors.map fun f => f.1 ^ f.2).prod = p - 1) &&
    decide (powMod p k a (p - 1) = 1) &&
    factors.all fun f => decide (powMod p k a ((p - 1) / f.1) ≠ 1)

theorem mem_of_prime_dvd_prod {q : ℕ} (hq : q.Prime) (factors : List (ℕ × ℕ))
    (hfactors : ∀ f ∈ factors, f.1.Prime) (hdvd : q ∣ (factors.map fun f => f.1 ^ f.2).prod) :
    ∃ f ∈ factors, f.1 = q := by
  obtain ⟨x, hx, hqx⟩ := (Prime.dvd_prod_iff hq.prime).mp hdvd
  obtain ⟨f, hf, rfl⟩ := List.mem_map.mp hx
  have hqf : q ∣ f.1 := hq.dvd_of_dvd_pow hqx
  exact ⟨f, hf, ((Nat.prime_dvd_prime_iff_eq hq (hfactors f hf)).mp hqf).symm⟩

theorem natCast_pow_eq_one_iff {p : ℕ} (hp : 1 < p) (a n : ℕ) :
    (a : ZMod p) ^ n = 1 ↔ a ^ n % p = 1 := by
  have h := ZMod.natCast_eq_natCast_iff' (a ^ n) 1 p
  rwa [Nat.mod_eq_of_lt hp, Nat.cast_pow, Nat.cast_one] at h

theorem prime_of_lucasTest {p : ℕ} (k a : ℕ) (factors : List (ℕ × ℕ))
    (hfactors : ∀ f ∈ factors, f.1.Prime) (htest : lucasTest k p a factors = true) : p.Prime := by
  simp only [lucasTest, Bool.and_eq_true, decide_eq_true_eq, List.all_eq_true] at htest
  obtain ⟨⟨⟨⟨hp, hk⟩, hprod⟩, hone⟩, hne⟩ := htest
  refine lucas_primality p (a : ZMod p) ?_ ?_
  · rwa [natCast_pow_eq_one_iff hp, ← powMod_eq p k a (p - 1) (by omega)]
  · intro q hq hdvd
    rw [← hprod] at hdvd
    obtain ⟨f, hf, rfl⟩ := mem_of_prime_dvd_prod hq factors hfactors hdvd
    have hlt : (p - 1) / f.1 < 2 ^ k := by
      have := Nat.div_le_self (p - 1) f.1
      omega
    rw [ne_eq, natCast_pow_eq_one_iff hp, ← powMod_eq p k a _ hlt]
    exact hne f hf

/-! ## Tables of certificates -/

/-- A prime of at most `bits` bits with a primitive root and the factorization of its predecessor. -/
structure LucasRow where
  bits : ℕ
  p : ℕ
  root : ℕ
  factors : List (ℕ × ℕ)

/-- Every row passes the test, and its factors are known or stand in a row before it. -/
def checkRows : List ℕ → List LucasRow → Bool
  | _, [] => true
  | known, row :: rows =>
    row.factors.all (fun f => known.contains f.1) && lucasTest row.bits row.p row.root row.factors &&
      checkRows (row.p :: known) rows

theorem prime_of_checkRows {known : List ℕ} {rows : List LucasRow} (hknown : ∀ q ∈ known, q.Prime)
    (h : checkRows known rows) : ∀ p ∈ rows.map LucasRow.p, p.Prime := by
  induction rows generalizing known with
  | nil => simp
  | cons row rows ih =>
    simp only [checkRows, Bool.and_eq_true, List.all_eq_true, List.contains_iff_mem] at h
    obtain ⟨⟨hfactors, htest⟩, hrows⟩ := h
    have hrow : row.p.Prime :=
      prime_of_lucasTest row.bits row.root row.factors (fun f hf => hknown _ (hfactors f hf)) htest
    have hknown' : ∀ q ∈ row.p :: known, q.Prime := List.forall_mem_cons.mpr ⟨hrow, hknown⟩
    rw [List.map_cons, List.forall_mem_cons]
    exact ⟨hrow, ih hknown' hrows⟩

end Foundations
