import Passbook.Proofs.Decimal.Nearest

/-!
Shortest texts of doubles. The shortest text of a double always rounds back to it: on a grid of
eighteen digits the upper neighbour does. A decimal whose digits form a number below `2 ^ 52` is
itself the shortest text of the double nearest to it: its grid is wider than a step between doubles,
so no other decimal on the same or on a coarser grid rounds to that double. With more digits this
can fail.
-/

set_option autoImplicit false

namespace Passbook.Double

def Digits.toRat (value : Digits) : ℚ := value.digits * 10 ^ value.power

theorem Digits.toRat_nonneg (value : Digits) : 0 ≤ value.toRat :=
  mul_nonneg (Nat.cast_nonneg _) (zpow_pos (by norm_num) _).le

theorem Digits.toRatio_pos (value : Digits) : 0 < value.toRatio.2 := by
  rw [Digits.toRatio]
  split
  · exact Nat.one_pos
  · exact tenTo_pos _

theorem Digits.toRatio_eq (value : Digits) :
    (value.toRatio.1 / value.toRatio.2 : ℚ) = value.toRat := by
  rw [Digits.toRat, Digits.toRatio]
  split
  · next whole =>
      rw [zpow_of_nonneg 10 whole]
      push_cast
      rw [tenTo_cast, div_one]
  · next fraction =>
      rw [zpow_of_neg 10 fraction, tenTo_cast, div_eq_mul_inv]

theorem isReadBy_iff {value : Double} {candidate : Digits} :
    value.isReadBy candidate = true ↔ nearestTo? candidate.toRat = some value := by
  rw [isReadBy, beq_iff_eq, nearest?_eq _ candidate.toRatio_pos, candidate.toRatio_eq]

/-!
## The first grid
-/

theorem toDigits_length_le {number : ℕ} (positive : 0 < number) :
    10 ^ ((Nat.toDigits 10 number).length - 1) ≤ number := by
  have some : 0 < (Nat.toDigits 10 number).length := Nat.length_toDigits_pos
  by_cases single : (Nat.toDigits 10 number).length - 1 = 0
  · rw [single]
    exact positive
  · have longer :=
      (Nat.length_toDigits_le_iff (n := number) (by norm_num : 1 < 10)
        (Nat.pos_of_ne_zero single)).not
    exact not_lt.mp (longer.mp (by omega))

theorem lt_toDigits_length (number : ℕ) :
    number < 10 ^ ((Nat.toDigits 10 number).length - 1 + 1) := by
  have some : 0 < (Nat.toDigits 10 number).length := Nat.length_toDigits_pos
  rw [Nat.sub_add_cancel some]
  exact (Nat.length_toDigits_le_iff (by norm_num) some).mp le_rfl

private theorem reached_iff {numerator denominator : ℕ} (positive : 0 < denominator)
    (estimate : ℤ) :
    (if 0 ≤ estimate then decide (denominator * tenTo estimate.toNat ≤ numerator)
      else decide (denominator ≤ numerator * tenTo (-estimate).toNat)) = true ↔
    (10 : ℚ) ^ estimate ≤ numerator / denominator := by
  have divisor : (0 : ℚ) < denominator := by exact_mod_cast positive
  rw [le_div_iff₀ divisor]
  split
  · next whole =>
      rw [decide_eq_true_iff, zpow_of_nonneg 10 whole, ← Nat.cast_le (α := ℚ)]
      push_cast
      rw [tenTo_cast, mul_comm]
  · next fraction =>
      rw [decide_eq_true_iff, zpow_of_neg 10 fraction,
        inv_mul_le_iff₀ (by positivity), ← Nat.cast_le (α := ℚ)]
      push_cast
      rw [tenTo_cast, mul_comm]

theorem leadingPower_eq {numerator denominator : ℕ} (nonzero : 0 < numerator)
    (positive : 0 < denominator) :
    leadingPower numerator denominator = Int.log 10 (numerator / denominator : ℚ) := by
  have log :=
    log_div (show 1 < 10 by norm_num) (toDigits_length_le nonzero) (lt_toDigits_length numerator)
      (toDigits_length_le positive) (lt_toDigits_length denominator)
  have lengths : (((Nat.toDigits 10 numerator).length - 1 : ℕ) : ℤ) -
    ((Nat.toDigits 10 denominator).length - 1 : ℕ) =
      ((Nat.toDigits 10 numerator).length : ℤ) - ((Nat.toDigits 10 denominator).length : ℤ) := by
    have first : 0 < (Nat.toDigits 10 numerator).length := Nat.length_toDigits_pos
    have second : 0 < (Nat.toDigits 10 denominator).length := Nat.length_toDigits_pos
    omega
  rw [lengths] at log
  push_cast at log
  rw [leadingPower, log]
  simp only [reached_iff positive]

/-!
## The neighbours on a grid
-/

variable {tie : Tie} {value : Double} {power : ℤ}

private theorem low_eq (value : Double) (power : ℤ) :
    (if 0 ≤ power then value.toRatio.1 / (value.toRatio.2 * tenTo power.toNat)
      else value.toRatio.1 * tenTo (-power).toNat / value.toRatio.2) =
        ⌊value.toRat / 10 ^ power⌋₊ := by
  rw [← value.toRatio_eq]
  split
  · next whole =>
      rw [zpow_of_nonneg 10 whole, ← Nat.floor_div_eq_div (K := ℚ)]
      push_cast
      rw [tenTo_cast, div_div]
  · next fraction =>
      rw [zpow_of_neg 10 fraction, ← Nat.floor_div_eq_div (K := ℚ)]
      push_cast
      rw [tenTo_cast, div_inv_eq_mul, div_mul_eq_mul_div]

theorem neighbour?_reads {found : Digits} (taken : neighbour? tie value power = some found) :
    found.power = power ∧ value.isReadBy found = true := by
  simp only [neighbour?, low_eq] at taken
  split at taken
  · cases taken
  · next below _ =>
      cases taken
      exact ⟨rfl, below⟩
  · next above =>
      cases taken
      exact ⟨rfl, above⟩
  · next below above =>
      split_ifs at taken <;> cases taken <;> first | exact ⟨rfl, below⟩ | exact ⟨rfl, above⟩

theorem neighbour?_isSome {digits : ℕ}
    (near : digits = ⌊value.toRat / 10 ^ power⌋₊ ∨ digits = ⌊value.toRat / 10 ^ power⌋₊ + 1)
    (read : value.isReadBy ⟨digits, power⟩ = true) : (neighbour? tie value power).isSome := by
  simp only [neighbour?, low_eq]
  split
  · next below above =>
      rcases near with rfl | rfl
      · rw [read] at below
        cases below
      · rw [read] at above
        cases above
  · rfl
  · rfl
  · split_ifs <;> rfl

/-!
## The search
-/

theorem Digits.trimmed_spec (value : Digits) (fuel : ℕ) :
    (value.trimmed fuel).toRat = value.toRat ∧ value.power ≤ (value.trimmed fuel).power := by
  induction fuel generalizing value with
  | zero => exact ⟨rfl, le_rfl⟩
  | succ fuel ih =>
      rw [Digits.trimmed]
      split
      · next final =>
          obtain ⟨same, coarser⟩ := ih ⟨value.digits / 10, value.power + 1⟩
          have whole : (value.digits : ℚ) = (value.digits / 10 : ℕ) * 10 := by
            exact_mod_cast (Nat.div_mul_cancel (Nat.dvd_of_mod_eq_zero final.1)).symm
          refine ⟨?_, (lt_add_one _).le.trans coarser⟩
          rw [same, Digits.toRat, Digits.toRat, whole, zpow_add_one₀ (by norm_num)]
          ring
      · exact ⟨rfl, le_rfl⟩

/-- The search ends on a grid that has a neighbour, or before. -/
theorem shortestFrom_reads {last : ℤ} {fuel : ℕ} (ends : (neighbour? tie value last).isSome)
    (coarse : last ≤ power) (reach : power ≤ last + fuel) :
    nearestTo? (shortestFrom tie value power fuel).toRat = some value ∧
      last ≤ (shortestFrom tie value power fuel).power := by
  induction fuel generalizing power with
  | zero =>
      have arrived : power = last := by omega
      subst arrived
      obtain ⟨found, taken⟩ := Option.isSome_iff_exists.mp ends
      obtain ⟨grid, read⟩ := neighbour?_reads taken
      rw [shortestFrom, taken]
      exact ⟨isReadBy_iff.mp read, grid.ge⟩
  | succ fuel ih =>
      rw [shortestFrom]
      split
      · next found taken =>
          obtain ⟨rfl, read⟩ := neighbour?_reads taken
          exact ⟨isReadBy_iff.mp read, coarse⟩
      · next missed =>
          have later : last ≠ power := by
            rintro rfl
            rw [missed] at ends
            cases ends
          exact ih (by omega) (by push_cast at reach; omega)

theorem Normal.shortest_reads {last : ℤ} (normal : value.Normal)
    (ends : (neighbour? tie value last).isSome) (coarse : last ≤ Int.log 10 value.toRat)
    (reach : Int.log 10 value.toRat ≤ last + 17) :
    nearestTo? (shortest tie value).toRat = some value ∧ last ≤ (shortest tie value).power := by
  have nonzero := normal.significand_ne_zero
  have start : leadingPower value.toRatio.1 value.toRatio.2 = Int.log 10 value.toRat := by
    rw [leadingPower_eq (toRatio_ne_zero nonzero) value.toRatio_pos, value.toRatio_eq]
  have found : nearestTo? (shortestFrom tie value (Int.log 10 value.toRat) 17).toRat = some value ∧
      last ≤ (shortestFrom tie value (Int.log 10 value.toRat) 17).power :=
        shortestFrom_reads ends coarse reach
  have trimmed := (shortestFrom tie value (Int.log 10 value.toRat) 17).trimmed_spec 20
  rw [shortest, if_neg (by simpa [isZero] using nonzero)]
  simp only [start]
  exact ⟨trimmed.1 ▸ found.1, found.2.trans trimmed.2⟩

/-- The shortest text of a double rounds back to it, and has at most eighteen digits. -/
theorem Normal.shortest_spec (normal : value.Normal) (tie : Tie) :
    nearestTo? (shortest tie value).toRat = some value ∧ Int.log 10 value.toRat - 17 ≤
      (shortest tie value).power := by
  refine normal.shortest_reads ?_ (by omega) (by omega)
  have unit : (0 : ℚ) < 10 ^ (Int.log 10 value.toRat - 17) := zpow_pos (by norm_num) _
  have leading : (10 : ℚ) ^ Int.log 10 value.toRat ≤ value.toRat := by
    exact_mod_cast Int.zpow_log_le_self (b := 10) (by norm_num) normal.toRat_pos
  have fine : (10 : ℚ) ^ (Int.log 10 value.toRat - 17) * 10 ^ 17 ≤ value.toRat := by
    rw [zpow_sub₀ (by norm_num)]
    norm_num
    exact leading
  have size := normal.toRat_lt
  refine neighbour?_isSome (.inr rfl) (isReadBy_iff.mpr (normal.nearestTo?_eq ?_ ?_))
  all_goals rw [Digits.toRat]; push_cast
  · exact ((div_lt_iff₀ unit).mp (Nat.lt_floor_add_one _)).le
  · have below := (le_div_iff₀ unit).mp (Nat.floor_le (div_nonneg normal.toRat_pos.le unit.le))
    linarith

/-!
## Decimals of few digits
-/

/-- A decimal whose digits form a number below `2 ^ 52`, and the double nearest to it. -/
structure Nearest (written : Digits) (value : Double) : Prop where
  few : written.digits < 2 ^ 52
  read : nearestTo? written.toRat = some value
  normal : value.Normal

namespace Nearest

variable {written candidate : Digits}

theorem error (nearest : Nearest written value) :
    |written.toRat - value.toRat| ≤ 2 ^ value.exponent / 2 :=
  nearestTo?_error written.toRat_nonneg nearest.read

/-- A step between doubles is narrower than the grid of the decimal. -/
theorem step_lt (nearest : Nearest written value) :
    (2 : ℚ) ^ value.exponent < 10 ^ written.power := by
  have few : (written.digits : ℚ) ≤ 2 ^ 52 - 1 := by
    have bound := Nat.le_sub_one_of_lt nearest.few
    have cast : (written.digits : ℚ) ≤ (2 ^ 52 - 1 : ℕ) := by exact_mod_cast bound
    norm_num at cast ⊢
    exact cast
  have unit : (0 : ℚ) < 10 ^ written.power := zpow_pos (by norm_num) _
  have size : written.toRat ≤ (2 ^ 52 - 1) * 10 ^ written.power := by
    rw [Digits.toRat]
    gcongr
  have close := abs_le.mp nearest.error
  have step := nearest.normal.le_toRat
  by_contra wide
  linarith

/-- No other decimal that is on the same or on a coarser grid rounds to the double. -/
theorem unique (nearest : Nearest written value) (coarse : written.power ≤ candidate.power)
    (read : nearestTo? candidate.toRat = some value) : candidate.toRat = written.toRat := by
  -- Both decimals are multiples of the finer unit and closer to each other than that unit.
  obtain ⟨more, split⟩ := Int.le.dest coarse
  have unit : (0 : ℚ) < 10 ^ written.power := zpow_pos (by norm_num) _
  have refined : candidate.toRat = (candidate.digits * 10 ^ more : ℕ) * 10 ^ written.power := by
    rw [Digits.toRat, ← split, zpow_add₀ (by norm_num), zpow_natCast]
    push_cast
    ring
  have apart := nearestTo?_apart candidate.toRat_nonneg written.toRat_nonneg read nearest.read
  have same : (candidate.digits * 10 ^ more : ℕ) = written.digits := by
    have close : |((candidate.digits * 10 ^ more : ℕ) : ℚ) - written.digits| * 10 ^ written.power <
        1 * 10 ^ written.power := by
      calc |((candidate.digits * 10 ^ more : ℕ) : ℚ) - written.digits| * 10 ^ written.power
          = |candidate.toRat - written.toRat| := by
            rw [refined, Digits.toRat, ← sub_mul, abs_mul, abs_of_pos unit]
        _ ≤ 2 ^ value.exponent := apart
        _ < 1 * 10 ^ written.power := by rw [one_mul]; exact nearest.step_lt
    have below := lt_of_mul_lt_mul_right close unit.le
    have integers : |((candidate.digits * 10 ^ more : ℕ) : ℤ) - (written.digits : ℤ)| < 1 := by
      exact_mod_cast below
    have zero := Int.abs_lt_one_iff.mp integers
    omega
  rw [refined, same, Digits.toRat]

theorem isNeighbour (nearest : Nearest written value) :
    written.digits = ⌊value.toRat / 10 ^ written.power⌋₊ ∨
      written.digits = ⌊value.toRat / 10 ^ written.power⌋₊ + 1 := by
  have unit : (0 : ℚ) < 10 ^ written.power := zpow_pos (by norm_num) _
  have step := nearest.step_lt
  have positive := two_zpow_pos value.exponent
  have nonneg : 0 ≤ value.toRat := mul_nonneg (Nat.cast_nonneg _) positive.le
  have close := abs_le.mp nearest.error
  rw [Digits.toRat] at close
  have floor : ∀ digits : ℕ, digits * (10 : ℚ) ^ written.power ≤ value.toRat →
      value.toRat < (digits + 1) * 10 ^ written.power →
        digits = ⌊value.toRat / 10 ^ written.power⌋₊ := by
    intro digits lower upper
    symm
    rw [Nat.floor_eq_iff (div_nonneg nonneg unit.le), le_div_iff₀ unit, div_lt_iff₀ unit]
    exact ⟨lower, upper⟩
  rcases le_or_gt (written.digits * (10 : ℚ) ^ written.power) value.toRat with below | above
  · left
    exact floor _ below (by linarith)
  · right
    have some : written.digits ≠ 0 := by
      intro zero
      rw [zero, Nat.cast_zero, zero_mul] at above
      exact absurd nonneg (not_le.mpr above)
    obtain ⟨fewer, digits⟩ := Nat.exists_eq_succ_of_ne_zero some
    rw [digits, Nat.succ_eq_add_one] at above close ⊢
    push_cast at above close
    rw [← floor fewer (by linarith) above]

theorem hasNeighbour (nearest : Nearest written value) (tie : Tie) :
    (neighbour? tie value written.power).isSome :=
  neighbour?_isSome nearest.isNeighbour (isReadBy_iff.mpr nearest.read)

theorem leading (nearest : Nearest written value) (two : 10 ≤ written.digits) :
    written.power ≤ Int.log 10 value.toRat ∧ Int.log 10 value.toRat ≤ written.power + 17 := by
  have unit : (0 : ℚ) < 10 ^ written.power := zpow_pos (by norm_num) _
  have step := nearest.step_lt
  have two : (10 : ℚ) ≤ written.digits := by exact_mod_cast two
  have few : (written.digits : ℚ) < 2 ^ 52 := by exact_mod_cast nearest.few
  have close := abs_le.mp nearest.error
  have lower : 10 * (10 : ℚ) ^ written.power ≤ written.toRat := by
    rw [Digits.toRat]
    gcongr
  have upper : written.toRat ≤ 2 ^ 52 * 10 ^ written.power := by
    rw [Digits.toRat]
    gcongr
  have above : (10 : ℚ) ^ written.power ≤ value.toRat := by linarith
  have positive : 0 < value.toRat := unit.trans_le above
  have below : value.toRat < 10 ^ (written.power + 17) := by
    rw [zpow_add₀ (by norm_num)]
    norm_num
    linarith
  have least :=
    (Int.zpow_le_iff_le_log (b := 10) (by norm_num) positive).mp (by exact_mod_cast above)
  have greatest :=
    (Int.lt_zpow_iff_log_lt (b := 10) (by norm_num) positive).mp (by exact_mod_cast below)
  exact ⟨least, greatest.le⟩

theorem shortest_of_two (nearest : Nearest written value) (two : 10 ≤ written.digits) :
    (shortest tie value).toRat = written.toRat := by
  obtain ⟨coarse, reach⟩ := nearest.leading two
  obtain ⟨read, fine⟩ := nearest.normal.shortest_reads (nearest.hasNeighbour tie) coarse reach
  exact nearest.unique fine read

/-- A decimal of few digits is the shortest text of the double nearest to it. -/
theorem shortest_eq (nearest : Nearest written value) (nonzero : written.digits ≠ 0) :
    (shortest tie value).toRat = written.toRat := by
  by_cases two : 10 ≤ written.digits
  · exact nearest.shortest_of_two two
  · -- The double may lie below the unit of a single digit: the digit is taken with a zero after it.
    have same : Digits.toRat ⟨written.digits * 10, written.power - 1⟩ = written.toRat := by
      rw [Digits.toRat, Digits.toRat, zpow_sub_one₀ (by norm_num)]
      push_cast
      field_simp
    have finer : Nearest ⟨written.digits * 10, written.power - 1⟩ value :=
      ⟨by simp only; omega, same ▸ nearest.read, nearest.normal⟩
    exact (finer.shortest_of_two (by simp only; omega)).trans same

end Nearest

end Passbook.Double
