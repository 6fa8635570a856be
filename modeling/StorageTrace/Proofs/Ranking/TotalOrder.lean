import Mathlib.Algebra.Order.Field.Rat
import Mathlib.Algebra.Order.Field.Power
import Mathlib.Tactic.Positivity
import StorageTrace.Binary64

/-! # The total order of doubles

The rank of a double is read off its bits alone. It puts doubles in the total order of IEEE 754: numbers as
the numbers that they stand for compare, negative zero before zero, infinities outside of all numbers, and
NaN outside of those, before or after them by its sign.
-/

namespace StorageTrace

namespace Binary64

/-! ## Magnitudes -/

/-- How often the least positive double goes into the one that has these bits below the sign. -/
def units (low : Nat) : Nat :=
  if low / hidden = 0 then low % hidden else (hidden + low % hidden) * 2 ^ (low / hidden - 1)

/-- The numbers of one exponent lie below the power of two where those of the next one begin. -/
theorem units_lt (low : Nat) : units low < hidden * 2 ^ (low / hidden) := by
  have fraction : low % hidden < hidden := Nat.mod_lt _ (by decide)
  unfold units
  split
  · case isTrue bottom => rwa [bottom, pow_zero, Nat.mul_one]
  · case isFalse above =>
    calc (hidden + low % hidden) * 2 ^ (low / hidden - 1)
        < hidden * 2 * 2 ^ (low / hidden - 1) := Nat.mul_lt_mul_of_pos_right (by omega) (by positivity)
      _ = hidden * 2 ^ (low / hidden) := by
        rw [Nat.mul_assoc, ← Nat.pow_succ', Nat.succ_eq_add_one, Nat.sub_one_add_one above]

theorem le_units {low : Nat} (above : low / hidden ≠ 0) : hidden * 2 ^ (low / hidden - 1) ≤ units low := by
  rw [units, if_neg above]
  exact Nat.mul_le_mul_right _ (Nat.le_add_right _ _)

/-- The greater exponent decides, and under one exponent the greater fraction. -/
theorem units_strictMono : StrictMono units := by
  intro low other less
  have exponents : low / hidden ≤ other / hidden := Nat.div_le_div_right less.le
  rcases exponents.lt_or_eq with differ | same
  · calc units low < hidden * 2 ^ (low / hidden) := units_lt low
      _ ≤ hidden * 2 ^ (other / hidden - 1) :=
        Nat.mul_le_mul_left _ (Nat.pow_le_pow_right (by decide) (Nat.le_sub_one_of_lt differ))
      _ ≤ units other := le_units (Nat.ne_zero_of_lt differ)
  · have fractions : low % hidden < other % hidden := by
      have apart := Nat.div_add_mod low hidden
      have apart' := Nat.div_add_mod other hidden
      rw [same] at apart
      omega
    unfold units
    rw [same]
    split
    · exact fractions
    · exact Nat.mul_lt_mul_of_pos_right (by omega) (by positivity)

/-- The kinds of magnitude lie one above the other, and below infinity a magnitude is a number of units. -/
theorem magnitude_cases (bits : Nat) :
    let low := bits % signBit
    (infinity < low ∧ magnitude bits = .nan) ∨ (low = infinity ∧ magnitude bits = .infinite) ∨
      (low < infinity ∧ ∃ m q lopsided, magnitude bits = .finite m q lopsided ∧
        (m * 2 ^ q : ℚ) = units low * 2 ^ (-1074 : ℤ)) := by
  have bounded : bits % signBit / hidden ≤ 2047 := by
    simp only [signBit, hidden]
    omega
  have apart := Nat.div_add_mod (bits % signBit) hidden
  have inside : bits % hidden < hidden := Nat.mod_lt _ (by decide)
  have same : bits % signBit % hidden = bits % hidden := Nat.mod_mod_of_dvd _ (by decide)
  rw [same] at apart
  dsimp only [magnitude, units]
  rw [same]
  generalize bits % signBit / hidden = field at *
  generalize bits % signBit = low, bits % hidden = fraction at *
  by_cases top : field = 2047
  · rw [if_pos top]
    split
    · case isTrue whole => exact .inr (.inl ⟨by simp only [hidden, infinity] at *; omega, rfl⟩)
    · case isFalse odd => exact .inl ⟨by simp only [hidden, infinity] at *; omega, rfl⟩
  · rw [if_neg top]
    refine .inr (.inr ⟨by simp only [hidden, infinity] at *; omega, ?_⟩)
    split
    · case isTrue bottom => exact ⟨_, _, _, rfl, rfl⟩
    · case isFalse above =>
      have shift : (field : ℤ) - 1075 = (field - 1 : Nat) + -1074 := by omega
      refine ⟨_, _, _, rfl, ?_⟩
      rw [shift, zpow_add₀ two_ne_zero, zpow_natCast, ← mul_assoc, Nat.cast_mul, Nat.cast_pow,
        Nat.cast_ofNat]

end Binary64

namespace Double

open Binary64 (magnitude signBit infinity units)

/-! ## What doubles stand for -/

/-- The kinds of double from the least to the greatest: a NaN of negative sign, negative infinity, numbers,
infinity, and a NaN of positive sign. -/
def kind (double : Double) : Int :=
  let sign := if double.isNegative then -1 else 1
  match magnitude double.bits.toNat with
  | .nan => 2 * sign
  | .infinite => sign
  | .finite .. => 0

/-- The number that a double stands for, where it is one. -/
def number (double : Double) : ℚ :=
  match magnitude double.bits.toNat with
  | .finite m q _ => if double.isNegative then -(m * 2 ^ q) else m * 2 ^ q
  | _ => 0

/-- What a NaN carries. The leading bit tells the quiet ones. -/
def payload (double : Double) : Nat := double.bits.toNat % Binary64.hidden

def negativeZero : Double := ⟨0x8000000000000000⟩

/-- The total order, by what doubles stand for. Payloads count outwards from the numbers. -/
inductive Precedes (left right : Double) : Prop where
  | kinds (less : left.kind < right.kind)
  | numbers (finite : left.kind = 0) (finite' : right.kind = 0) (less : left.number < right.number)
  | zeros (negative : left = negativeZero) (positive : right = 0)
  | negativeNaNs (nan : left.kind = -2) (nan' : right.kind = -2) (less : right.payload < left.payload)
  | positiveNaNs (nan : left.kind = 2) (nan' : right.kind = 2) (less : left.payload < right.payload)

/-! ## Ranks -/

/-- The bits below the sign. -/
def low (double : Double) : Nat := double.bits.toNat % signBit

/-- How many units a double stands for, if it is a number. -/
def amount (double : Double) : Int := if double.isNegative then -units double.low else units double.low

theorem number_eq {double : Double} (finite : double.kind = 0) :
    double.number = double.amount * 2 ^ (-1074 : ℤ) := by
  unfold kind at finite
  unfold number amount
  rcases Binary64.magnitude_cases double.bits.toNat with
    ⟨-, nan⟩ | ⟨-, infinite⟩ | ⟨-, m, q, lopsided, isFinite, exact⟩
  · rw [nan] at finite
    dsimp only at finite
    split at finite <;> omega
  · rw [infinite] at finite
    dsimp only at finite
    split at finite <;> omega
  · rw [isFinite]
    dsimp only
    rw [exact]
    split <;> simp [low]

/-- The kinds under one sign lie one outside of the other. -/
theorem kind_cases (double : Double) :
    let sign : Int := if double.isNegative then -1 else 1
    (infinity < double.low ∧ double.kind = 2 * sign) ∨ (double.low = infinity ∧ double.kind = sign) ∨
      (double.low < infinity ∧ double.kind = 0) := by
  unfold kind
  rcases Binary64.magnitude_cases double.bits.toNat with
    ⟨above, nan⟩ | ⟨top, infinite⟩ | ⟨below, m, q, lopsided, finite, -⟩
  · exact .inl ⟨above, by rw [nan]⟩
  · exact .inr (.inl ⟨top, by rw [infinite]⟩)
  · exact .inr (.inr ⟨below, by rw [finite]⟩)

/-- All that the order of doubles rests on, told by the bits below the sign. A negative sign turns it
around. -/
theorem told_by_low (double : Double) :
    (double.bits.toNat = signBit + double.low ∧ (double.rank : Int) = signBit - 1 - double.low ∧
      double.amount = -units double.low ∧
      ((infinity < double.low ∧ double.kind = -2) ∨ (double.low = infinity ∧ double.kind = -1) ∨
        (double.low < infinity ∧ double.kind = 0))) ∨
    (double.bits.toNat = double.low ∧ (double.rank : Int) = signBit + double.low ∧
      double.amount = units double.low ∧
      ((infinity < double.low ∧ double.kind = 2) ∨ (double.low = infinity ∧ double.kind = 1) ∨
        (double.low < infinity ∧ double.kind = 0))) := by
  have word : double.bits.toNat < 2 * signBit := double.bits.toNat_lt
  have sign : double.isNegative = true ↔ signBit ≤ double.bits.toNat := decide_eq_true_iff
  have kinds := kind_cases double
  unfold rank amount
  by_cases negative : double.isNegative = true
  · have above := sign.1 negative
    have apart : double.bits.toNat = signBit + double.low := by
      simp only [low, signBit] at *
      omega
    rw [if_pos negative] at kinds ⊢
    exact .inl ⟨apart, by omega, if_pos negative, kinds⟩
  · have below := mt sign.2 negative
    have apart : double.bits.toNat = double.low := by
      simp only [low, signBit] at *
      omega
    rw [if_neg negative] at kinds ⊢
    exact .inr ⟨apart, by omega, if_neg negative, kinds⟩

/-- The fraction of a NaN is what its magnitude has beyond infinity. -/
theorem low_eq_of_nan {double : Double} (nan : double.kind = -2 ∨ double.kind = 2) :
    double.low = infinity + double.payload := by
  have told := told_by_low double
  have above : infinity < double.low := by omega
  simp only [payload, low, Binary64.hidden, infinity, signBit] at *
  omega

/-- Each rule puts the ranks in the same order. -/
theorem Precedes.rank_lt {left right : Double} (before : Precedes left right) : left.rank < right.rank := by
  have told := told_by_low left
  have told' := told_by_low right
  cases before with
  | kinds less =>
    simp only [infinity, signBit] at told told'
    omega
  | numbers finite finite' less =>
    rw [number_eq finite, number_eq finite', mul_lt_mul_iff_left₀ (by positivity), Int.cast_lt] at less
    have forth := Binary64.units_strictMono.lt_iff_lt (a := left.low) (b := right.low)
    have back := Binary64.units_strictMono.lt_iff_lt (a := right.low) (b := left.low)
    omega
  | zeros negative positive =>
    rw [negative, positive]
    decide
  | negativeNaNs nan nan' less =>
    have apart := low_eq_of_nan (.inl nan)
    have apart' := low_eq_of_nan (.inl nan')
    omega
  | positiveNaNs nan nan' less =>
    have apart := low_eq_of_nan (.inr nan)
    have apart' := low_eq_of_nan (.inr nan')
    omega

theorem eq_of_toNat {left right : Double} (same : left.bits.toNat = right.bits.toNat) : left = right := by
  cases left
  cases right
  exact congrArg mk (UInt64.toNat.inj same)

/-- Numbers of equal value are the same double, except the two zeros. -/
theorem rank_lt_of_amount_eq {left right : Double} (same : left.amount = right.amount)
    (less : left.rank < right.rank) : left = negativeZero ∧ right = 0 := by
  have told := told_by_low left
  have told' := told_by_low right
  have inj := Binary64.units_strictMono.injective.eq_iff (a := left.low) (b := right.low)
  have zero := Binary64.units_strictMono.injective.eq_iff (a := left.low) (b := 0)
  have zero' := Binary64.units_strictMono.injective.eq_iff (a := right.low) (b := 0)
  have nothing : units 0 = 0 := rfl
  constructor
  · apply eq_of_toNat
    show left.bits.toNat = signBit
    omega
  · apply eq_of_toNat
    show right.bits.toNat = 0
    omega

/-- The kinds decide first, and between doubles of one kind the rule for it. -/
theorem rank_lt_rank_iff (left right : Double) : left.rank < right.rank ↔ left.Precedes right := by
  refine ⟨fun less => ?_, Precedes.rank_lt⟩
  rcases lt_trichotomy left.kind right.kind with lower | same | higher
  · exact .kinds lower
  · by_cases finite : left.kind = 0
    · have finite' : right.kind = 0 := same ▸ finite
      rcases lt_trichotomy left.number right.number with lower | equal | higher
      · exact .numbers finite finite' lower
      · rw [number_eq finite, number_eq finite', mul_left_inj' (by positivity), Int.cast_inj] at equal
        obtain ⟨negative, positive⟩ := rank_lt_of_amount_eq equal less
        exact .zeros negative positive
      · exact absurd (Precedes.numbers finite' finite higher).rank_lt less.asymm
    · have told := told_by_low left
      have told' := told_by_low right
      -- infinities of one sign are one double, and so only NaN remains
      have nan : left.kind = -2 ∨ left.kind = 2 := by omega
      have apart := low_eq_of_nan nan
      have apart' := low_eq_of_nan (same ▸ nan)
      rcases nan with negative | positive
      · exact .negativeNaNs negative (same ▸ negative) (by omega)
      · exact .positiveNaNs positive (same ▸ positive) (by omega)
  · exact absurd (Precedes.kinds higher).rank_lt less.asymm

end Double

end StorageTrace
