import DataShape.Number.Numeral
import Mathlib.Algebra.Order.Field.Power
import Mathlib.Data.Rat.Cast.Order
import Mathlib.Tactic.FieldSimp
import Mathlib.Tactic.Linarith
import Mathlib.Tactic.NormNum
import Mathlib.Tactic.Positivity
import Mathlib.Tactic.Ring

/-!
# Rounding to a format

A fraction is rounded to the nearest point of a grid, whose width depends on the
power of two below the fraction. Whatever is rounded, the result is a datum that
the format holds, and such a datum is the result for every fraction in the
interval around it.
-/

namespace DataShape.Floating

/-! ## Powers of two and fractions -/

/-- An integral power as the fraction that the algorithms compute with. -/
theorem zpow_eq_div {b : ℕ} (hb : 0 < b) (k : ℤ) :
    (b : ℚ) ^ k = (Nat.pow b k.toNat : ℕ) / (Nat.pow b (-k).toNat : ℕ) := by
  have hne : (b : ℚ) ≠ 0 := by positivity
  rw [Nat.pow_eq, Nat.pow_eq, Nat.cast_pow, Nat.cast_pow, ← zpow_natCast, ← zpow_natCast,
    ← zpow_sub₀ hne]
  congr 1
  omega

/-- A fraction is scaled by a power on one of its two sides. -/
theorem scaled_div {b : ℕ} (hb : 0 < b) (num den : ℕ) (k : ℤ) :
    ((num * Nat.pow b k.toNat : ℕ) : ℚ) / (den * Nat.pow b (-k).toNat : ℕ)
      = num / den * (b : ℚ) ^ k := by
  rw [zpow_eq_div hb, Nat.cast_mul, Nat.cast_mul, mul_div_mul_comm]

/-- The integer within half a unit of a fraction, the even one of two, is the
nearest. -/
theorem nearest_eq {num den q : ℕ} (hden : 0 < den) (hbelow : (q : ℚ) - 1 / 2 ≤ num / den)
    (habove : (num : ℚ) / den ≤ q + 1 / 2)
    (htie : (num : ℚ) / den = q - 1 / 2 ∨ (num : ℚ) / den = q + 1 / 2 → q % 2 = 0) :
    nearest num den = q := by
  have hd : (0 : ℚ) < den := by exact_mod_cast hden
  -- without fractions
  have hbelow' : 2 * q * den ≤ 2 * num + den := by
    rw [le_div_iff₀ hd] at hbelow
    exact_mod_cast (by linarith : (2 : ℚ) * q * den ≤ 2 * num + den)
  have habove' : 2 * num ≤ (2 * q + 1) * den := by
    rw [div_le_iff₀ hd] at habove
    exact_mod_cast (by linarith : (2 : ℚ) * num ≤ (2 * q + 1) * den)
  have htie' : 2 * num = (2 * q + 1) * den ∨ 2 * q * den = 2 * num + den → q % 2 = 0 := by
    rintro (h | h)
    · refine htie (.inr ?_)
      have h : (2 : ℚ) * num = (2 * q + 1) * den := by exact_mod_cast h
      rw [div_eq_iff hd.ne']
      linarith
    · refine htie (.inl ?_)
      have h : (2 : ℚ) * q * den = 2 * num + den := by exact_mod_cast h
      rw [div_eq_iff hd.ne']
      linarith
  have hsplit : den * (num / den) + num % den = num := Nat.div_add_mod num den
  have hrest : num % den < den := Nat.mod_lt _ hden
  unfold nearest
  dsimp only
  generalize num / den = k at *
  generalize num % den = r at *
  subst hsplit
  clear hbelow habove htie
  obtain hq | rfl | rfl | hq : q < k ∨ q = k ∨ q = k + 1 ∨ k + 1 < q := by omega
  · nlinarith
  · rw [if_pos]
    by_cases h : 2 * r = den
    · exact .inr ⟨h, htie' (.inl (by rw [← h]; ring))⟩
    · left
      have : 2 * r ≤ den := by nlinarith
      omega
  · rw [if_neg]
    rintro (h | ⟨h, heven⟩)
    · nlinarith
    · have := htie' (.inr (by rw [← h]; ring))
      omega
  · nlinarith

theorem log2_bounds {n : ℕ} (hn : 0 < n) :
    (2 : ℚ) ^ (n.log2 : ℤ) ≤ n ∧ (n : ℚ) < 2 ^ ((n.log2 : ℤ) + 1) := by
  constructor
  · rw [zpow_natCast]
    exact_mod_cast Nat.log2_self_le hn.ne'
  · rw [← Nat.cast_one, ← Nat.cast_add, zpow_natCast]
    exact_mod_cast Nat.lt_log2_self

theorem log2Ratio_bounds {num den : ℕ} (hnum : 0 < num) (hden : 0 < den) :
    (2 : ℚ) ^ log2Ratio num den ≤ num / den ∧
      (num : ℚ) / den < 2 ^ (log2Ratio num den + 1) := by
  have htwo : (2 : ℚ) ≠ 0 := by norm_num
  have hd : (0 : ℚ) < den := by exact_mod_cast hden
  obtain ⟨hn1, hn2⟩ := log2_bounds hnum
  obtain ⟨hd1, hd2⟩ := log2_bounds hden
  unfold log2Ratio
  dsimp only
  generalize hk : (num.log2 : ℤ) - den.log2 = k
  -- the test compares with the power of two itself
  have htest : den * Nat.pow 2 k.toNat ≤ num * Nat.pow 2 (-k).toNat ↔ (2 : ℚ) ^ k ≤ num / den := by
    rw [show (2 : ℚ) = ((2 : ℕ) : ℚ) from rfl, zpow_eq_div two_pos,
      div_le_div_iff₀ (by exact_mod_cast Nat.pow_pos two_pos) hd]
    norm_cast
    rw [mul_comm den]
  split
  · rename_i h
    refine ⟨htest.mp h, ?_⟩
    rw [div_lt_iff₀ hd]
    calc (num : ℚ) < 2 ^ ((num.log2 : ℤ) + 1) := hn2
      _ = 2 ^ (k + 1) * 2 ^ (den.log2 : ℤ) := by rw [← zpow_add₀ htwo]; congr 1; omega
      _ ≤ 2 ^ (k + 1) * den := by gcongr
  · rename_i h
    refine ⟨?_, ?_⟩
    · rw [le_div_iff₀ hd]
      calc (2 : ℚ) ^ (k - 1) * den ≤ 2 ^ (k - 1) * 2 ^ ((den.log2 : ℤ) + 1) := by gcongr
        _ = 2 ^ (num.log2 : ℤ) := by rw [← zpow_add₀ htwo]; congr 1; omega
        _ ≤ num := hn1
    · rw [sub_add_cancel]
      exact not_le.mp fun hle => h (htest.mpr hle)

theorem zpow_two_lt_iff {j k : ℤ} : (2 : ℚ) ^ j < 2 ^ k ↔ j < k :=
  zpow_lt_zpow_iff_right₀ (by norm_num)

theorem zpow_two_pos (k : ℤ) : (0 : ℚ) < 2 ^ k := zpow_pos (by norm_num) k

/-- A whole power of two is moved between the mantissa and the exponent. -/
theorem mul_two_pow_mul_zpow (m k : ℕ) (e : ℤ) :
    ((m * 2 ^ k : ℕ) : ℚ) * 2 ^ e = m * 2 ^ (e + k) := by
  rw [zpow_add₀ (by norm_num), zpow_natCast]
  push_cast
  ring

/-! ## Odd mantissas -/

theorem oddPart_mul_two_pow {m : ℕ} (hodd : m % 2 = 1) (k : ℕ) (e : ℤ) :
    oddPart (m * 2 ^ k) e = (m, e + k) := by
  induction k generalizing e with
  | zero => rw [oddPart, dif_neg (by omega), if_neg (by omega)]; simp
  | succ k ih =>
      have hne : m * 2 ^ (k + 1) ≠ 0 := by
        have : 0 < 2 ^ (k + 1) := Nat.two_pow_pos _
        exact Nat.mul_ne_zero (by omega) this.ne'
      have hhalf : m * 2 ^ (k + 1) = 2 * (m * 2 ^ k) := by ring
      rw [oddPart, dif_neg hne, if_pos (by omega), hhalf, Nat.mul_div_cancel_left _ two_pos, ih]
      push_cast
      ring_nf

theorem exists_odd_mul_two_pow {q : ℕ} (hq : q ≠ 0) : ∃ m k, m % 2 = 1 ∧ q = m * 2 ^ k := by
  induction q using Nat.strongRecOn with
  | ind q ih =>
      by_cases hodd : q % 2 = 1
      · exact ⟨q, 0, hodd, by simp⟩
      · obtain ⟨m, k, hm, hk⟩ := ih (q / 2) (by omega) (by omega)
        exact ⟨m, k + 1, hm, by rw [pow_succ, ← mul_assoc]; omega⟩

theorem log2_mul_two_pow {m : ℕ} (hm : m ≠ 0) (k : ℕ) : (m * 2 ^ k).log2 = m.log2 + k := by
  induction k with
  | zero => simp
  | succ k ih =>
      have hne : m * 2 ^ k ≠ 0 := Nat.mul_ne_zero hm (Nat.two_pow_pos k).ne'
      rw [show m * 2 ^ (k + 1) = 2 * (m * 2 ^ k) by ring, Nat.log2_two_mul hne, ih]
      rfl

/-! ## Data of a format -/

/-- A finite datum, not zero, of the format. -/
structure Format.Fits (f : Format) (mantissa : ℕ) (exponent : ℤ) : Prop where
  odd : mantissa % 2 = 1
  precise : mantissa < 2 ^ f.precision
  fine : f.minExponent ≤ exponent
  bounded : mantissa.log2 + exponent < f.maxExponent

/-- A datum of the format. -/
def Format.Holds (f : Format) : Floating → Prop
  | .finite _ mantissa exponent => mantissa = 0 ∧ exponent = 0 ∨ f.Fits mantissa exponent
  | _ => True

namespace Format

variable {f : Format} {negative : Bool} {mantissa num den : ℕ} {exponent : ℤ}

theorem holds_zero : f.Holds (.finite negative 0 0) := .inl ⟨rfl, rfl⟩

/-- The nearest integer to a fraction below a bound is no greater than the bound. -/
theorem nearest_le {q : ℕ} (hden : 0 < den) (h : (num : ℚ) / den < q) : nearest num den ≤ q := by
  have hlt : num < q * den := by
    rw [div_lt_iff₀ (by exact_mod_cast hden)] at h
    exact_mod_cast h
  have : num / den < q := Nat.div_lt_of_lt_mul (by rwa [mul_comm])
  unfold nearest
  dsimp only
  split <;> omega

/-- **Rounding gives a datum of the format**, whatever the fraction. -/
theorem holds_round (hprecision : 0 < f.precision) (hden : 0 < den) :
    f.Holds (f.round negative num den) := by
  unfold round
  split
  · exact holds_zero
  rename_i hnum
  dsimp only
  generalize he : max f.minExponent (log2Ratio num den - f.precision + 1) = e
  generalize hq : nearest (num * Nat.pow 2 (-e).toNat) (den * Nat.pow 2 e.toNat) = q
  split
  · trivial
  rename_i hsmall
  by_cases hzero : q = 0
  · subst hzero
    unfold scaled oddPart
    exact holds_zero
  -- the fraction is less than the first power of two that has too many digits
  have hle : q ≤ 2 ^ f.precision := by
    subst hq
    refine nearest_le (Nat.mul_pos hden (Nat.pow_pos two_pos)) ?_
    have h := scaled_div two_pos num den (-e)
    rw [neg_neg, Nat.cast_ofNat] at h
    rw [h, zpow_neg, ← div_eq_mul_inv, div_lt_iff₀ (zpow_two_pos e)]
    calc (num : ℚ) / den < 2 ^ (log2Ratio num den + 1) :=
          (log2Ratio_bounds (Nat.pos_of_ne_zero hnum) hden).2
      _ ≤ 2 ^ ((f.precision : ℤ) + e) := zpow_le_zpow_right₀ (by norm_num) (by omega)
      _ = ((2 ^ f.precision : ℕ) : ℚ) * 2 ^ e := by
          rw [zpow_add₀ (by norm_num), zpow_natCast]
          push_cast
          rfl
  obtain ⟨m, k, hodd, rfl⟩ := exists_odd_mul_two_pow hzero
  unfold scaled
  rw [oddPart_mul_two_pow hodd]
  refine .inr ⟨hodd, ?_, by omega, ?_⟩
  · -- only the power of two itself is as great as the bound
    rcases Nat.eq_zero_or_pos k with rfl | hk
    · rcases Nat.lt_or_eq_of_le hle with h | h
      · simpa using h
      · obtain ⟨p, hp⟩ := Nat.exists_eq_succ_of_ne_zero hprecision.ne'
        rw [pow_zero, mul_one, hp, pow_succ] at h
        omega
    · have : m * 2 ^ 1 ≤ m * 2 ^ k := Nat.mul_le_mul_left m (Nat.pow_le_pow_right two_pos hk)
      omega
  · have hlog := log2_mul_two_pow (m := m) (by omega) k
    rw [hlog] at hsmall
    push_cast at hsmall
    omega

/-! ## The grid of a datum -/

/-- The mantissa on the grid denotes the datum and has no more digits than the
format, and all of them unless the grid is the finest. -/
structure OnGrid (f : Format) (mantissa : ℕ) (exponent : ℤ) (m : ℕ) (e : ℤ) : Prop where
  shift : ∃ k : ℕ, m = mantissa * 2 ^ k ∧ exponent = e + k
  precise : m < 2 ^ f.precision
  fine : f.minExponent ≤ e
  full : e = f.minExponent ∨ 2 ^ (f.precision - 1) ≤ m

theorem Fits.precision_pos (h : f.Fits mantissa exponent) : 0 < f.precision := by
  by_contra hzero
  have := h.precise
  have := h.odd
  rw [Nat.eq_zero_of_not_pos hzero] at *
  omega

theorem Fits.onGrid (h : f.Fits mantissa exponent) :
    OnGrid f mantissa exponent (f.grid mantissa exponent).1 (f.grid mantissa exponent).2 := by
  have hne : mantissa ≠ 0 := by
    have := h.odd
    omega
  have hlog : mantissa.log2 < f.precision := (Nat.log2_lt hne).mpr h.precise
  have hfine := h.fine
  unfold grid
  dsimp only
  generalize he : max f.minExponent ((mantissa.log2 : ℤ) + exponent - f.precision + 1) = e
  rw [Nat.pow_eq]
  refine ⟨⟨_, rfl, by omega⟩, ?_, by omega, ?_⟩
  · calc mantissa * 2 ^ (exponent - e).toNat
        < 2 ^ (mantissa.log2 + 1) * 2 ^ (exponent - e).toNat := by
          gcongr
          exact Nat.lt_log2_self
      _ = 2 ^ (mantissa.log2 + 1 + (exponent - e).toNat) := (pow_add _ _ _).symm
      _ ≤ 2 ^ f.precision := Nat.pow_le_pow_right two_pos (by omega)
  · by_cases hmin : e = f.minExponent
    · exact .inl hmin
    · right
      calc 2 ^ (f.precision - 1) ≤ 2 ^ (mantissa.log2 + (exponent - e).toNat) :=
            Nat.pow_le_pow_right two_pos (by omega)
        _ = 2 ^ mantissa.log2 * 2 ^ (exponent - e).toNat := pow_add _ _ _
        _ ≤ mantissa * 2 ^ (exponent - e).toNat := by
            gcongr
            exact Nat.log2_self_le hne

theorem Fits.grid_pos (h : f.Fits mantissa exponent) : 0 < (f.grid mantissa exponent).1 := by
  obtain ⟨⟨k, hm, -⟩, -, -, -⟩ := h.onGrid
  have := h.odd
  rw [hm]
  exact Nat.mul_pos (by omega) (Nat.two_pow_pos k)

end Format

/-- The fraction lies in the interval. -/
def Interval.Contains (i : Interval) (x : ℚ) : Prop :=
  let unit := (2 : ℚ) ^ i.exponent
  if i.closed then i.low * unit ≤ x ∧ x ≤ i.high * unit else i.low * unit < x ∧ x < i.high * unit

namespace Format

variable {f : Format} {negative : Bool} {mantissa num den : ℕ} {exponent : ℤ}

/-- Rounding gives the datum if the nearest point of the grid denotes it. -/
theorem round_eq_of_nearest {e : ℤ} {k : ℕ} (h : f.Fits mantissa exponent) (hnum : 0 < num)
    (he : max f.minExponent (log2Ratio num den - f.precision + 1) = e)
    (hnearest : nearest (num * Nat.pow 2 (-e).toNat) (den * Nat.pow 2 e.toNat)
      = mantissa * 2 ^ k) (hexponent : exponent = e + k) :
    f.round negative num den = .finite negative mantissa exponent := by
  have hne : mantissa ≠ 0 := by
    have := h.odd
    omega
  unfold round
  rw [if_neg hnum.ne']
  dsimp only
  rw [he, hnearest, if_neg, scaled, oddPart_mul_two_pow h.odd, hexponent]
  rintro ⟨-, hlarge⟩
  have := h.bounded
  rw [log2_mul_two_pow hne] at hlarge
  push_cast at hlarge
  omega

/-- The scaled fraction of which the nearest integer is taken. -/
theorem div_grid (num den : ℕ) (e : ℤ) :
    ((num * Nat.pow 2 (-e).toNat : ℕ) : ℚ) / (den * Nat.pow 2 e.toNat : ℕ)
      = num / den / 2 ^ e := by
  have h := scaled_div two_pos num den (-e)
  rwa [neg_neg, Nat.cast_ofNat, zpow_neg, ← div_eq_mul_inv] at h

/-- What an interval around a datum says of a fraction, in units of the grid. -/
theorem contains_interval {x : ℚ} {m : ℕ} {e : ℤ} (hgrid : f.grid mantissa exponent = (m, e))
    (hm : 0 < m) (h : (f.interval mantissa exponent).Contains x) :
    (m : ℚ) - 1 / 2 ≤ x / 2 ^ e ∧ x / 2 ^ e ≤ m + 1 / 2 ∧
      (x / 2 ^ e = m - 1 / 2 ∨ x / 2 ^ e = m + 1 / 2 → m % 2 = 0) ∧
      (m = 2 ^ (f.precision - 1) → f.minExponent < e → (m : ℚ) - 1 / 4 ≤ x / 2 ^ e) := by
  have hunit : (2 : ℚ) ^ (e - 2) = 2 ^ e / 4 := by
    rw [zpow_sub₀ (by norm_num)]
    norm_num
  have hpos := zpow_two_pos e
  unfold Interval.Contains interval at h
  rw [hgrid] at h
  dsimp only at h
  rw [hunit, Nat.pow_eq] at h
  rw [le_div_iff₀ hpos, div_le_iff₀ hpos, div_eq_iff hpos.ne', div_eq_iff hpos.ne',
    le_div_iff₀ hpos]
  generalize (2 : ℚ) ^ e = unit at *
  have hone : (1 : ℚ) ≤ m := by exact_mod_cast hm
  split at h
  · rename_i heven
    split at h
    · rw [Nat.cast_sub (by omega)] at h
      push_cast at h
      refine ⟨by nlinarith, by nlinarith, fun _ => by simpa using heven, fun _ _ => by nlinarith⟩
    · rename_i hlow
      rw [Nat.cast_sub (by omega)] at h
      push_cast at h
      refine ⟨by nlinarith, by nlinarith, fun _ => by simpa using heven,
        fun hm he => absurd ⟨hm, he⟩ hlow⟩
  · split at h
    · rw [Nat.cast_sub (by omega)] at h
      push_cast at h
      refine ⟨by nlinarith, by nlinarith, ?_, fun _ _ => by nlinarith⟩
      rintro (h' | h')
      · nlinarith
      · nlinarith
    · rename_i hlow
      rw [Nat.cast_sub (by omega)] at h
      push_cast at h
      refine ⟨by nlinarith, by nlinarith, ?_, fun hm he => absurd ⟨hm, he⟩ hlow⟩
      rintro (h' | h')
      · nlinarith
      · nlinarith

/-- The least mantissa with all digits, on a grid. -/
theorem two_pow_mul_zpow {p : ℕ} (hp : 0 < p) (e : ℤ) :
    ((2 ^ (p - 1) : ℕ) : ℚ) * 2 ^ e = 2 ^ (e + p - 1) := by
  rw [Nat.cast_pow, Nat.cast_ofNat, ← zpow_natCast, ← zpow_add₀ (by norm_num)]
  congr 1
  omega

/-- A fraction just below a power of two rounds to it on the finer grid below. -/
theorem round_below_power {m k : ℕ} {e : ℤ} (h : f.Fits mantissa exponent) (hnum : 0 < num)
    (hden : 0 < den) (hm : m = mantissa * 2 ^ k) (hexponent : exponent = e + k)
    (hpower : m = 2 ^ (f.precision - 1)) (hfine : f.minExponent < e)
    (hquarter : (m : ℚ) - 1 / 4 ≤ num / den / 2 ^ e) (hbelow : (num : ℚ) / den / 2 ^ e < m) :
    f.round negative num den = .finite negative mantissa exponent := by
  have hp := h.precision_pos
  have htwo : (2 : ℚ) ≠ 0 := by norm_num
  have hunit := zpow_two_pos e
  have hone : (1 : ℚ) ≤ m := by
    rw [hpower]
    exact_mod_cast Nat.one_le_two_pow
  have hmantissa : (m : ℚ) * 2 ^ e = 2 ^ (e + f.precision - 1) := by
    rw [hpower, two_pow_mul_zpow hp]
  obtain ⟨hlog, hlog'⟩ := log2Ratio_bounds hnum hden
  have hfiner := div_grid num den (e - 1)
  have hhalf : (2 : ℚ) ^ (e - 1) = 2 ^ e / 2 := by rw [zpow_sub₀ htwo, zpow_one]
  generalize (num : ℚ) / den = x at *
  have htwice : x / 2 ^ (e - 1) = 2 * (x / 2 ^ e) := by
    rw [hhalf]
    field_simp
  -- the fraction has one digit less than the power
  have hratio : log2Ratio num den = e + f.precision - 2 := by
    have hlow : (2 : ℚ) ^ (e + f.precision - 2) ≤ x := by
      rw [show e + (f.precision : ℤ) - 2 = e + f.precision - 1 - 1 by ring, zpow_sub₀ htwo,
        zpow_one, ← hmantissa]
      rw [le_div_iff₀ hunit] at hquarter
      nlinarith
    have hhigh : x < (2 : ℚ) ^ (e + f.precision - 1) := by
      rwa [← hmantissa, ← div_lt_iff₀ hunit]
    have := zpow_two_lt_iff.mp (hlow.trans_lt hlog')
    have := zpow_two_lt_iff.mp (hlog.trans_lt hhigh)
    omega
  refine round_eq_of_nearest (e := e - 1) (k := k + 1) h hnum (by omega) ?_ (by push_cast; omega)
  have hdouble : mantissa * 2 ^ (k + 1) = 2 * m := by
    rw [hm]
    ring
  rw [htwice] at hfiner
  rw [hdouble]
  refine nearest_eq (Nat.mul_pos hden (Nat.pow_pos two_pos)) ?_ ?_ fun _ => by omega
  · rw [hfiner]
    push_cast
    linarith
  · rw [hfiner]
    push_cast
    linarith

/-- **Every fraction in the interval around a datum rounds to the datum.** Just
below a power of two the grid is twice as fine as above it. -/
theorem round_of_contains (h : f.Fits mantissa exponent) (hnum : 0 < num) (hden : 0 < den)
    (hcontains : (f.interval mantissa exponent).Contains ((num : ℚ) / den)) :
    f.round negative num den = .finite negative mantissa exponent := by
  have hmpos := h.grid_pos
  obtain ⟨⟨k, hm, hexponent⟩, hprecise, hfine, hfull⟩ := h.onGrid
  generalize hgrid : f.grid mantissa exponent = g at *
  obtain ⟨m, e⟩ := g
  dsimp only at *
  obtain ⟨hbelow, habove, htie, hquarter⟩ := contains_interval hgrid hmpos hcontains
  obtain ⟨hlog, hlog'⟩ := log2Ratio_bounds hnum hden
  have hunit := zpow_two_pos e
  have hp := h.precision_pos
  have htwo : (2 : ℚ) ≠ 0 := by norm_num
  -- the fraction has no more digits than the datum
  have hupper : log2Ratio num den < e + f.precision := by
    rw [← zpow_two_lt_iff]
    refine hlog.trans_lt ?_
    have hmp : (m : ℚ) + 1 ≤ 2 ^ f.precision := by exact_mod_cast hprecise
    rw [div_le_iff₀ hunit] at habove
    calc (num : ℚ) / den ≤ (m + 1 / 2) * 2 ^ e := habove
      _ < 2 ^ f.precision * 2 ^ e := by gcongr; linarith
      _ = 2 ^ (e + f.precision) := by rw [zpow_add₀ htwo, zpow_natCast, mul_comm]
  by_cases hside : e = f.minExponent ∨ (2 : ℚ) ^ (e + f.precision - 1) ≤ num / den
  · -- on the grid of the datum
    have hsame := div_grid num den e
    refine round_eq_of_nearest (e := e) (k := k) h hnum ?_ ?_ hexponent
    · rcases hside with hmin | hge
      · omega
      · have := zpow_two_lt_iff.mp (hge.trans_lt hlog')
        omega
    · rw [← hm]
      exact nearest_eq (Nat.mul_pos hden (Nat.pow_pos two_pos)) (hsame ▸ hbelow) (hsame ▸ habove)
        (hsame ▸ htie)
  · -- on the finer grid, which a power of two alone can meet
    rw [not_or, not_le] at hside
    obtain ⟨hmin, hlt⟩ := hside
    rw [← two_pow_mul_zpow hp, ← div_lt_iff₀ hunit] at hlt
    have hmeq : m = 2 ^ (f.precision - 1) := by
      refine le_antisymm ?_ (hfull.resolve_left hmin)
      have : (m : ℚ) < (2 ^ (f.precision - 1) : ℕ) + 1 := by linarith
      exact Nat.lt_succ_iff.mp (by exact_mod_cast this)
    exact round_below_power h hnum hden hm hexponent hmeq (by omega) (hquarter hmeq (by omega))
      (hmeq ▸ hlt)

/-! ## Arithmetic stays in the format -/

variable (hprecision : 0 < f.precision)
include hprecision

theorem holds_ofRat (q : ℚ) : f.Holds (f.ofRat q) := holds_round hprecision q.den_pos

theorem holds_add {x y : Floating} (hx : f.Holds x) (hy : f.Holds y) : f.Holds (f.add x y) := by
  unfold add
  split
  · trivial
  · trivial
  · split
    · exact hx
    · trivial
  · exact hx
  · exact hy
  · split
    · exact holds_zero
    · exact holds_ofRat hprecision _

theorem holds_mul (x y : Floating) : f.Holds (f.mul x y) := by
  unfold mul
  dsimp only
  split
  · exact holds_round hprecision (Rat.den_pos _)
  · split <;> trivial

omit hprecision in
theorem holds_negate {x : Floating} (h : f.Holds x) : f.Holds x.negate := by
  cases x with
  | finite negative mantissa exponent => exact h
  | _ => trivial

theorem holds_ofDecimal (negative : Bool) (digits : ℕ) (exponent : ℤ) :
    f.Holds (f.ofDecimal negative digits exponent) := by
  unfold ofDecimal
  dsimp only
  split
  · exact holds_zero
  · split
    · trivial
    · exact holds_round hprecision (Nat.pow_pos (by norm_num))

end Format

end DataShape.Floating
