import DataShape.Proofs.Rounding

/-!
# The shortest decimal reads back

A decimal is read as a datum exactly where it lies in the interval around it.
The decimals that are tried for the shortest one are tested for that, and with
seventeen digits one of them passes, since two neighbours on their grid are
closer to each other than the ends of the interval.
-/

namespace DataShape.Floating

theorem zpow_ten_pos (k : ℤ) : (0 : ℚ) < 10 ^ k := zpow_pos (by norm_num) k

theorem zpow_ten_lt_iff {j k : ℤ} : (10 : ℚ) ^ j < 10 ^ k ↔ j < k :=
  zpow_lt_zpow_iff_right₀ (by norm_num)

/-! ## Decimals in the interval -/

namespace Interval

variable {i : Interval} {place : ℤ} {d : ℕ}

/-- The two factors that compare quarters of the interval with decimals. -/
theorem factor_ratio (e place : ℤ) :
    ((Nat.pow 2 e.toNat * Nat.pow 10 (-place).toNat : ℕ) : ℚ) * 10 ^ place
      = (Nat.pow 2 (-e).toNat * Nat.pow 10 place.toNat : ℕ) * 2 ^ e := by
  have h2 := zpow_eq_div two_pos e
  have h10 := zpow_eq_div (show 0 < 10 by norm_num) place
  rw [Nat.cast_ofNat] at h2 h10
  have hpos (b n : ℕ) (hb : 0 < b) : ((Nat.pow b n : ℕ) : ℚ) ≠ 0 := by
    exact_mod_cast (Nat.pow_pos hb).ne'
  rw [h2, h10, Nat.cast_mul, Nat.cast_mul]
  have := hpos 2 (-e).toNat two_pos
  have := hpos 10 (-place).toNat (by norm_num)
  field_simp

theorem factor_pos (e place : ℤ) : 0 < Nat.pow 2 e.toNat * Nat.pow 10 place.toNat :=
  Nat.mul_pos (Nat.pow_pos two_pos) (Nat.pow_pos (by norm_num))

/-- The test that a decimal passes in units that are common to it and the
interval. -/
theorem contains_of_inside {a b : ℕ} (hb : 0 < b)
    (hratio : (a : ℚ) * 10 ^ place = b * 2 ^ i.exponent)
    (h : (if i.closed then i.low * a ≤ d * b && d * b ≤ i.high * a
      else i.low * a < d * b && d * b < i.high * a) = true) : i.Contains (d * 10 ^ place) := by
  have hbpos : (0 : ℚ) < b := by exact_mod_cast hb
  have hr : (0 : ℚ) < 10 ^ place / b := div_pos (zpow_ten_pos place) hbpos
  have hend (n : ℕ) : (n : ℚ) * 2 ^ i.exponent = (n * a : ℕ) * (10 ^ place / b) := by
    rw [Nat.cast_mul, mul_assoc, ← mul_div_assoc, hratio, mul_div_cancel_left₀ _ hbpos.ne']
  have hmiddle : (d : ℚ) * 10 ^ place = (d * b : ℕ) * (10 ^ place / b) := by
    rw [Nat.cast_mul, mul_assoc, mul_div_cancel₀ _ hbpos.ne']
  unfold Contains
  simp only [hend, hmiddle, mul_le_mul_iff_left₀ hr, mul_lt_mul_iff_left₀ hr, Nat.cast_le,
    Nat.cast_lt]
  split at h
  · rename_i hclosed
    rw [if_pos hclosed]
    simpa using h
  · rename_i hclosed
    rw [if_neg hclosed]
    simpa using h

/-- The decimal that is picked lies in the interval. -/
theorem contains_of_pick? (h : i.pick? place = some d) : i.Contains (d * 10 ^ place) := by
  have hb := factor_pos (-i.exponent) place
  have hratio := factor_ratio i.exponent place
  unfold pick? at h
  dsimp only at h
  generalize Nat.pow 2 i.exponent.toNat * Nat.pow 10 (-place).toNat = a at *
  generalize Nat.pow 2 (-i.exponent).toNat * Nat.pow 10 place.toNat = b at *
  split at h
  · split at h
    · cases h
      exact contains_of_inside hb hratio ‹_›
    · cases h
      exact contains_of_inside hb hratio ‹_›
  · cases h
    exact contains_of_inside hb hratio ‹_›
  · cases h
    exact contains_of_inside hb hratio ‹_›
  · cases h

/-- A grid with neighbours closer than the ends of the interval has a point in
it. -/
theorem exists_pick? (hlow : i.low < i.value) (hhigh : i.value < i.high)
    (hplace : (10 : ℚ) ^ place < (i.high - i.low) * 2 ^ i.exponent) :
    ∃ d, i.pick? place = some d := by
  have ha : 0 < Nat.pow 2 i.exponent.toNat * Nat.pow 10 (-place).toNat := factor_pos _ _
  have hb := factor_pos (-i.exponent) place
  have hratio := factor_ratio i.exponent place
  unfold pick?
  dsimp only
  generalize Nat.pow 2 i.exponent.toNat * Nat.pow 10 (-place).toNat = a at *
  generalize Nat.pow 2 (-i.exponent).toNat * Nat.pow 10 place.toNat = b at *
  have hwidth : b + i.low * a < i.high * a := by
    have ha : (0 : ℚ) < a := by exact_mod_cast ha
    have : (b : ℚ) * 2 ^ i.exponent < (i.high - i.low) * a * 2 ^ i.exponent := by
      rw [← hratio, mul_comm, mul_right_comm]
      exact mul_lt_mul_of_pos_right hplace ha
    have := lt_of_mul_lt_mul_right this (zpow_two_pos _).le
    exact_mod_cast (by linarith : (b : ℚ) + i.low * a < i.high * a)
  have hbelow : i.low * a < i.value * a := Nat.mul_lt_mul_of_pos_right hlow ha
  have habove : i.value * a < i.high * a := Nat.mul_lt_mul_of_pos_right hhigh ha
  have hlower : i.value * a / b * b ≤ i.value * a := Nat.div_mul_le_self _ _
  have hupper : i.value * a < (i.value * a / b + 1) * b := by
    rw [mul_comm (i.value * a / b + 1)]
    exact Nat.lt_mul_div_succ _ hb
  generalize i.value * a / b = lower at *
  rw [add_mul, one_mul] at *
  split
  · exact ⟨_, rfl⟩
  · exact ⟨_, rfl⟩
  · exact ⟨_, rfl⟩
  · -- one of the two neighbours is strictly between the ends
    rename_i hout hout'
    exfalso
    rcases Nat.lt_or_ge (i.low * a) (lower * b) with h | h
    · split at hout
      all_goals
        simp only [Bool.and_eq_false_iff, decide_eq_false_iff_not] at hout
        omega
    · split at hout'
      all_goals
        simp only [Bool.and_eq_false_iff, decide_eq_false_iff_not] at hout'
        omega

end Interval

/-! ## The decimal exponent -/

/-- The estimate of the decimal exponent is at most one too great. -/
theorem zpow_ten_estimate_le {L g : ℤ} (h : 100000 * g ≤ L * 30103) (hlow : -20000 ≤ L)
    (hhigh : L ≤ 20000) : (10 : ℚ) ^ (g - 1) ≤ 2 ^ L := by
  rcases le_or_gt 0 L with hL | hL
  · -- ten to the 59 is a little less than two to the 196
    have hpow : ((10 : ℚ) ^ (g - 1)) ^ 196 ≤ (2 ^ L) ^ 196 := by
      obtain ⟨n, rfl⟩ := Int.eq_ofNat_of_zero_le hL
      calc ((10 : ℚ) ^ (g - 1)) ^ 196 = 10 ^ ((g - 1) * 196) := by rw [zpow_mul]; norm_cast
        _ ≤ 10 ^ ((59 * n : ℕ) : ℤ) := zpow_le_zpow_right₀ (by norm_num) (by push_cast; omega)
        _ = (10 ^ 59) ^ n := by rw [zpow_natCast, pow_mul]
        _ ≤ (2 ^ 196) ^ n := by gcongr; norm_num
        _ = (2 ^ (n : ℤ)) ^ 196 := by rw [zpow_natCast, ← pow_mul, ← pow_mul, mul_comm]
    exact le_of_pow_le_pow_left₀ (by norm_num) (zpow_two_pos L).le hpow
  · -- ten to the 28 is a little more than two to the 93
    have hpow : ((10 : ℚ) ^ (g - 1)) ^ 93 ≤ (2 ^ L) ^ 93 := by
      obtain ⟨n, hn⟩ := Int.eq_ofNat_of_zero_le (show 0 ≤ -L by omega)
      obtain rfl : L = -n := by omega
      calc ((10 : ℚ) ^ (g - 1)) ^ 93 = 10 ^ ((g - 1) * 93) := by rw [zpow_mul]; norm_cast
        _ ≤ 10 ^ (-((28 * n : ℕ) : ℤ)) := zpow_le_zpow_right₀ (by norm_num) (by push_cast; omega)
        _ = ((10 ^ 28) ^ n)⁻¹ := by rw [zpow_neg, zpow_natCast, pow_mul]
        _ ≤ ((2 ^ 93) ^ n)⁻¹ := by gcongr; norm_num
        _ = (2 ^ (-(n : ℤ))) ^ 93 := by
          rw [zpow_neg, zpow_natCast, inv_pow, ← pow_mul, ← pow_mul, mul_comm]
    exact le_of_pow_le_pow_left₀ (by norm_num) (zpow_two_pos L).le hpow

theorem zpow_log10_le {mantissa : ℕ} {exponent : ℤ} (hmantissa : 0 < mantissa)
    (hlow : -20000 ≤ mantissa.log2 + exponent) (hhigh : mantissa.log2 + exponent ≤ 20000) :
    (10 : ℚ) ^ log10 mantissa exponent ≤ mantissa * 2 ^ exponent := by
  have htest (k : ℤ) : Nat.pow 10 k.toNat * Nat.pow 2 (-exponent).toNat
      ≤ mantissa * Nat.pow 2 exponent.toNat * Nat.pow 10 (-k).toNat ↔
      (10 : ℚ) ^ k ≤ mantissa * 2 ^ exponent := by
    have h2 := zpow_eq_div two_pos exponent
    have h10 := zpow_eq_div (show 0 < 10 by norm_num) k
    rw [Nat.cast_ofNat] at h2 h10
    have hpos (b n : ℕ) (hb : 0 < b) : (0 : ℚ) < (Nat.pow b n : ℕ) := by
      exact_mod_cast Nat.pow_pos hb
    rw [h2, h10, ← mul_div_assoc, div_le_div_iff₀ (hpos 10 _ (by norm_num)) (hpos 2 _ two_pos)]
    norm_cast
  unfold log10
  simp only [decide_eq_true_eq]
  split
  · exact (htest _).mp ‹_›
  · split
    · exact (htest _).mp ‹_›
    · calc (10 : ℚ) ^ (Int.fdiv (((mantissa.log2 : ℤ) + exponent) * 30103) 100000 - 1)
          ≤ 2 ^ ((mantissa.log2 : ℤ) + exponent) :=
            zpow_ten_estimate_le (by rw [Int.fdiv_eq_ediv]; norm_num; omega) hlow hhigh
        _ = 2 ^ (mantissa.log2 : ℤ) * 2 ^ exponent := zpow_add₀ (by norm_num) _ _
        _ ≤ mantissa * 2 ^ exponent := by
            gcongr
            exact (log2_bounds hmantissa).1

/-! ## The shortest decimal -/

theorem trimZeros_spec {digits : ℕ} (hdigits : digits ≠ 0) (exponent : ℤ) :
    (trimZeros digits exponent).1 ≠ 0 ∧
      ((trimZeros digits exponent).1 : ℚ) * 10 ^ (trimZeros digits exponent).2
        = digits * 10 ^ exponent := by
  fun_induction trimZeros digits exponent with
  | case1 => exact absurd rfl hdigits
  | case2 digits exponent hne hten ih =>
      obtain ⟨hne', hvalue⟩ := ih (by omega)
      refine ⟨hne', hvalue.trans ?_⟩
      have hsplit : digits = 10 * (digits / 10) := by omega
      rw [zpow_add₀ (by norm_num), zpow_one]
      nth_rewrite 2 [hsplit]
      push_cast
      ring
  | case3 digits exponent hne hten => exact ⟨hne, rfl⟩

namespace Format

variable {mantissa : ℕ} {exponent : ℤ}

theorem ne_zero_of_contains {d : ℕ} {x : ℚ} (h : double.Fits mantissa exponent)
    (hcontains : (double.interval mantissa exponent).Contains (d * x)) : d ≠ 0 := by
  rintro rfl
  have hpos := h.grid_pos
  obtain ⟨hbelow, -, -, -⟩ := contains_interval (Prod.mk.eta (p := double.grid _ _)).symm hpos
    hcontains
  have hone : (1 : ℚ) ≤ (double.grid mantissa exponent).1 := by exact_mod_cast hpos
  rw [Nat.cast_zero, zero_mul, zero_div] at hbelow
  linarith

/-- Seventeen digits are enough for some decimal to lie in the interval. -/
theorem exists_pick?_seventeen (h : double.Fits mantissa exponent) :
    ∃ d, (double.interval mantissa exponent).pick? (log10 mantissa exponent - 16) = some d := by
  have hodd := h.odd
  have hfine := h.fine
  have hbounded := h.bounded
  have hmpos := h.grid_pos
  obtain ⟨⟨k, hm, hexponent⟩, hprecise, -, -⟩ := h.onGrid
  have htop : (10 : ℚ) ^ log10 mantissa exponent ≤ mantissa * 2 ^ exponent := by
    simp only [double] at hfine hbounded
    exact zpow_log10_le (by omega) (by omega) (by omega)
  generalize hgrid : double.grid mantissa exponent = g at *
  obtain ⟨m, e⟩ := g
  dsimp only at *
  have hvalue : (mantissa : ℚ) * 2 ^ exponent = m * 2 ^ e := by
    rw [hm, hexponent, mul_two_pow_mul_zpow]
  have hunit : (2 : ℚ) ^ (e - 2) = 2 ^ e / 4 := by
    rw [zpow_sub₀ (by norm_num)]
    norm_num
  have hplace : (10 : ℚ) ^ (log10 mantissa exponent - 16) ≤ m * 2 ^ e / 10 ^ 16 := by
    rw [zpow_sub₀ (by norm_num), ← hvalue]
    gcongr
    norm_num
  have hpos := zpow_two_pos e
  have hprecise : (m : ℚ) < 2 ^ 53 := by exact_mod_cast hprecise
  unfold interval
  rw [hgrid]
  dsimp only
  apply Interval.exists_pick?
  · dsimp only
    split <;> omega
  · dsimp only
    omega
  · dsimp only
    rw [hunit]
    refine hplace.trans_lt ?_
    split
    · rename_i hpower
      have hm : (m : ℚ) = 2 ^ 52 := by
        rw [hpower.1]
        norm_num [double]
      rw [Nat.cast_sub (by omega)]
      push_cast
      rw [hm]
      linarith
    · rw [Nat.cast_sub (by omega)]
      push_cast
      nlinarith

/-- **The shortest decimal lies in the interval** around its datum. -/
theorem shortest_spec (h : double.Fits mantissa exponent) :
    (double.shortest mantissa exponent).1 ≠ 0 ∧
      (double.interval mantissa exponent).Contains
        ((double.shortest mantissa exponent).1 * 10 ^ (double.shortest mantissa exponent).2) := by
  obtain ⟨last, hlast⟩ := exists_pick?_seventeen h
  unfold shortest
  dsimp only
  cases hfound : (List.range 17).findSome? fun n : ℕ =>
      ((double.interval mantissa exponent).pick? (log10 mantissa exponent - n)).map
        fun digits => (digits, log10 mantissa exponent - n) with
  | none =>
      have := List.findSome?_eq_none_iff.mp hfound 16 (by simp)
      simp [hlast] at this
  | some hit =>
      obtain ⟨n, -, hn⟩ := List.exists_of_findSome?_eq_some hfound
      obtain ⟨digits, hpick, rfl⟩ := Option.map_eq_some_iff.mp hn
      have hcontains := Interval.contains_of_pick? hpick
      obtain ⟨hne, hvalue⟩ := trimZeros_spec (ne_zero_of_contains h hcontains)
        (log10 mantissa exponent - n)
      rw [Option.getD_some]
      dsimp only
      rw [hvalue]
      exact ⟨hne, hcontains⟩

/-! ## Reading decimals -/

theorem digitCount_bounds {digits : ℕ} (h : digits ≠ 0) :
    (10 : ℚ) ^ ((digitCount digits : ℤ) - 1) ≤ digits ∧
      (digits : ℚ) < 10 ^ (digitCount digits : ℤ) := by
  have hcount : digitCount digits = (Nat.toDigits 10 digits).length := if_neg h
  rw [hcount]
  obtain ⟨n, hn⟩ := Nat.exists_eq_succ_of_ne_zero
    (Nat.length_toDigits_pos (b := 10) (n := digits)).ne'
  constructor
  · rw [hn]
    push_cast
    rw [add_sub_cancel_right, zpow_natCast]
    rcases Nat.eq_zero_or_pos n with rfl | hpos
    · have : 1 ≤ digits := Nat.one_le_iff_ne_zero.mpr h
      simpa using this
    · have := (Nat.length_toDigits_le_iff (b := 10) (n := digits) (by norm_num) hpos).not
      rw [hn] at this
      exact_mod_cast not_lt.mp (this.mp (by omega))
  · rw [zpow_natCast]
    exact_mod_cast (Nat.length_toDigits_le_iff (by norm_num) (by omega)).mp le_rfl

theorem zpow_two_le_ten (n : ℕ) : (2 : ℚ) ^ ((3 * n : ℕ) : ℤ) ≤ 10 ^ (n : ℤ) := by
  rw [zpow_natCast, zpow_natCast, pow_mul]
  gcongr
  norm_num

/-- The numbers around the data of double precision are neither very large nor
very small. -/
theorem zpow_bounds_of_contains {x : ℚ} (h : double.Fits mantissa exponent)
    (hcontains : (double.interval mantissa exponent).Contains x) :
    (10 : ℚ) ^ (-400 : ℤ) < x ∧ x < 10 ^ (400 : ℤ) := by
  have hodd := h.odd
  have hbounded := h.bounded
  have hmpos := h.grid_pos
  obtain ⟨⟨k, hm, hexponent⟩, hprecise, hfine, -⟩ := h.onGrid
  generalize hgrid : double.grid mantissa exponent = g at *
  obtain ⟨m, e⟩ := g
  dsimp only [double] at *
  obtain ⟨hbelow, habove, -, -⟩ := contains_interval hgrid hmpos hcontains
  have hpos := zpow_two_pos e
  rw [le_div_iff₀ hpos] at hbelow
  rw [div_le_iff₀ hpos] at habove
  have hone : (1 : ℚ) ≤ m := by exact_mod_cast hmpos
  have hmlog : (m : ℚ) < 2 ^ (mantissa.log2 + k + 1) := by
    rw [← log2_mul_two_pow (by omega), ← hm]
    exact_mod_cast Nat.lt_log2_self
  constructor
  · calc (10 : ℚ) ^ (-400 : ℤ) < 10 ^ (-(359 : ℕ) : ℤ) := zpow_ten_lt_iff.mpr (by norm_num)
      _ ≤ 2 ^ (-(1077 : ℕ) : ℤ) := by
          rw [zpow_neg, zpow_neg]
          exact inv_anti₀ (zpow_two_pos _) (zpow_two_le_ten 359)
      _ ≤ 2 ^ (e - 1) := zpow_le_zpow_right₀ (by norm_num) (by push_cast; omega)
      _ = 1 / 2 * 2 ^ e := by rw [zpow_sub₀ (by norm_num), zpow_one]; ring
      _ ≤ (m - 1 / 2) * 2 ^ e := by gcongr; linarith
      _ ≤ x := hbelow
  · calc x ≤ (m + 1 / 2) * 2 ^ e := habove
      _ ≤ 2 * 2 ^ (mantissa.log2 + k + 1) * 2 ^ e := by gcongr; linarith
      _ = 2 ^ ((mantissa.log2 : ℤ) + exponent + 2) := by
          rw [hexponent, ← zpow_natCast, ← zpow_one_add₀ (by norm_num), ← zpow_add₀ (by norm_num)]
          congr 1
          push_cast
          ring
      _ ≤ 2 ^ ((1026 : ℕ) : ℤ) := zpow_le_zpow_right₀ (by norm_num) (by push_cast; omega)
      _ ≤ 10 ^ ((342 : ℕ) : ℤ) := zpow_two_le_ten 342
      _ < 10 ^ (400 : ℤ) := zpow_ten_lt_iff.mpr (by norm_num)

/-- **A decimal in the interval around a datum is read as the datum.** -/
theorem ofDecimal_of_contains {digits : ℕ} {place : ℤ} {negative : Bool}
    (h : double.Fits mantissa exponent)
    (hcontains : (double.interval mantissa exponent).Contains (digits * 10 ^ place)) :
    double.ofDecimal negative digits place = .finite negative mantissa exponent := by
  have hne := ne_zero_of_contains h hcontains
  obtain ⟨hlow, hhigh⟩ := zpow_bounds_of_contains h hcontains
  obtain ⟨hcount, hcount'⟩ := digitCount_bounds hne
  have hpos := zpow_ten_pos place
  have hten : (10 : ℚ) ≠ 0 := by norm_num
  have habove : place + digitCount digits - 1 < 400 := by
    rw [← zpow_ten_lt_iff]
    refine lt_of_le_of_lt ?_ hhigh
    rw [show place + (digitCount digits : ℤ) - 1 = digitCount digits - 1 + place by ring,
      zpow_add₀ hten]
    gcongr
  have hbelow : -400 < place + digitCount digits := by
    rw [← zpow_ten_lt_iff]
    refine hlow.trans ?_
    rw [add_comm, zpow_add₀ hten]
    gcongr
  have hnum : 0 < digits * Nat.pow 10 place.toNat :=
    Nat.mul_pos (Nat.pos_of_ne_zero hne) (Nat.pow_pos (by norm_num))
  unfold ofDecimal
  dsimp only
  rw [if_neg (by omega), if_neg (by omega)]
  refine round_of_contains h hnum (Nat.pow_pos (by norm_num)) ?_
  have hdiv := scaled_div (show 0 < 10 by norm_num) digits 1 place
  rw [one_mul, Nat.cast_one, div_one, Nat.cast_ofNat] at hdiv
  rwa [hdiv]

end Format

end DataShape.Floating
