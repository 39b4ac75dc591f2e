import BoundSql.Binary64.Rounding
import Mathlib.Data.Nat.Dist
import Mathlib.Order.Monotone.Basic

/-! The double nearest to a whole number. Magnitudes are measured in units of the least positive
double, so that all of them are natural numbers, and infinity stands for the power of two after the
largest finite one. There is exactly one nearest double, and rounding finds it. -/

namespace BoundSql.Binary64

/-- The magnitude with this code, in units of the least positive one. -/
def unitsAt (code : Nat) : Nat :=
  match code / 2 ^ 52 with
  | 0 => code % 2 ^ 52
  | exponent + 1 => (2 ^ 52 + code % 2 ^ 52) * 2 ^ exponent

def offBy (target code : Nat) : Nat := Nat.dist (unitsAt code) target

/-- No code up to that of infinity is nearer to the target, and if another one is as near, this one
is even. -/
structure NearestCode (target code : Nat) : Prop where
  inRange : code ≤ 2047 * 2 ^ 52
  closest : ∀ other ≤ 2047 * 2 ^ 52, offBy target code ≤ offBy target other
  even : ∀ other ≤ 2047 * 2 ^ 52, other ≠ code → offBy target other = offBy target code →
    code % 2 = 0

def Nearest (negative : Bool) (size : Nat) (number : Binary64) : Prop :=
  ∃ code, number.bits.toNat = (if negative then 2 ^ 63 + code else code) ∧
    NearestCode (size * 2 ^ 1074) code

theorem NearestCode.of_nearer {target code : Nat} (inRange : code ≤ 2047 * 2 ^ 52)
    (nearer : ∀ other ≤ 2047 * 2 ^ 52, other ≠ code → offBy target code < offBy target other ∨
      offBy target code = offBy target other ∧ code % 2 = 0) : NearestCode target code where
  inRange := inRange
  closest := by
    intro other bound
    by_cases same : other = code
    · rw [same]
    · rcases nearer other bound same with further | ⟨level, _⟩
      · exact Nat.le_of_lt further
      · exact Nat.le_of_eq level
  even := by
    intro other bound apart same
    rcases nearer other bound apart with further | ⟨_, even⟩
    · omega
    · exact even

section Units

theorem unitsAt_of_subnormal {code : Nat} (small : code < 2 ^ 52) : unitsAt code = code := by
  rw [unitsAt, Nat.div_eq_of_lt small, Nat.mod_eq_of_lt small]

theorem unitsAt_of_normal (exponent fraction : Nat) (bound : fraction < 2 ^ 52) :
    unitsAt ((exponent + 1) * 2 ^ 52 + fraction) = (2 ^ 52 + fraction) * 2 ^ exponent := by
  have quotient : ((exponent + 1) * 2 ^ 52 + fraction) / 2 ^ 52 = exponent + 1 := by omega
  have remainder : ((exponent + 1) * 2 ^ 52 + fraction) % 2 ^ 52 = fraction := by omega
  rw [unitsAt, quotient, remainder]

theorem subnormal_or_normal (code : Nat) : code < 2 ^ 52 ∨
    ∃ exponent fraction, fraction < 2 ^ 52 ∧ code = (exponent + 1) * 2 ^ 52 + fraction := by
  by_cases small : code < 2 ^ 52
  · exact .inl small
  · exact .inr ⟨code / 2 ^ 52 - 1, code % 2 ^ 52, Nat.mod_lt _ (by decide), by omega⟩

theorem unitsAt_of_power (exponent : Nat) :
    unitsAt ((exponent + 1) * 2 ^ 52) = 2 ^ 52 * 2 ^ exponent := by
  have start := unitsAt_of_normal exponent 0 (by decide)
  rw [Nat.add_zero, Nat.add_zero] at start
  exact start

theorem unitsAt_of_carry (exponent : Nat) :
    unitsAt ((exponent + 1 + 1) * 2 ^ 52) = 2 ^ 53 * 2 ^ exponent := by
  have power : 2 ^ (exponent + 1) = 2 * 2 ^ exponent := Nat.pow_succ'
  rw [unitsAt_of_power, power]
  omega

theorem unitsAt_lt_succ (code : Nat) : unitsAt code < unitsAt (code + 1) := by
  rcases subnormal_or_normal code with small | ⟨exponent, fraction, bound, rfl⟩
  · rw [unitsAt_of_subnormal small]
    by_cases last : code + 1 < 2 ^ 52
    · rw [unitsAt_of_subnormal last]
      omega
    · have next : code + 1 = (0 + 1) * 2 ^ 52 := by omega
      rw [next, unitsAt_of_power]
      omega
  · rw [unitsAt_of_normal exponent fraction bound]
    by_cases last : fraction + 1 < 2 ^ 52
    · rw [Nat.add_assoc, unitsAt_of_normal exponent _ last]
      exact Nat.mul_lt_mul_of_pos_right (by omega) (Nat.two_pow_pos exponent)
    · have next : (exponent + 1) * 2 ^ 52 + fraction + 1 = (exponent + 1 + 1) * 2 ^ 52 := by omega
      rw [next, unitsAt_of_carry]
      exact Nat.mul_lt_mul_of_pos_right (by omega) (Nat.two_pow_pos exponent)

theorem unitsAt_strictMono : StrictMono unitsAt := strictMono_nat_of_lt_succ unitsAt_lt_succ

theorem dvd_unitsAt {place code : Nat} (high : (place + 1) * 2 ^ 52 ≤ code) :
    2 ^ place ∣ unitsAt code := by
  rcases subnormal_or_normal code with small | ⟨exponent, fraction, bound, rfl⟩
  · omega
  · rw [unitsAt_of_normal exponent fraction bound]
    exact Nat.dvd_mul_left_of_dvd (Nat.pow_dvd_pow 2 (by omega)) _

theorem unitsAt_add_mantissa (place : Nat) {mantissa : Nat} (low : 2 ^ 52 ≤ mantissa)
    (high : mantissa ≤ 2 ^ 53) : unitsAt (place * 2 ^ 52 + mantissa) = mantissa * 2 ^ place := by
  by_cases carries : mantissa = 2 ^ 53
  · have next : place * 2 ^ 52 + mantissa = (place + 1 + 1) * 2 ^ 52 := by omega
    rw [next, unitsAt_of_carry, carries]
  · have split : place * 2 ^ 52 + mantissa = (place + 1) * 2 ^ 52 + (mantissa - 2 ^ 52) := by omega
    rw [split, unitsAt_of_normal place _ (by omega), Nat.add_sub_cancel' low]

end Units

section Unique

variable {target first second : Nat}

theorem NearestCode.offBy_eq (left : NearestCode target first) (right : NearestCode target second) :
    offBy target first = offBy target second :=
  Nat.le_antisymm (left.closest second right.inRange) (right.closest first left.inRange)

theorem NearestCode.succ_of_lt (left : NearestCode target first) (right : NearestCode target second)
    (before : first < second) : second = first + 1 := by
  have same := left.offBy_eq right
  have bound := right.inRange
  -- Whatever lies strictly between two magnitudes that are equally near is nearer.
  by_contra apart
  have between := left.closest (first + 1) (by omega)
  have after : unitsAt first < unitsAt (first + 1) := unitsAt_lt_succ first
  have below : unitsAt (first + 1) < unitsAt second := unitsAt_strictMono (by omega)
  simp only [offBy, Nat.dist] at same between
  omega

theorem NearestCode.not_lt (left : NearestCode target first) (right : NearestCode target second) :
    ¬first < second := by
  intro before
  have adjacent := left.succ_of_lt right before
  have same := left.offBy_eq right
  have firstEven := left.even second right.inRange (by omega) same.symm
  have secondEven := right.even first left.inRange (by omega) same
  omega

theorem NearestCode.unique (left : NearestCode target first) (right : NearestCode target second) :
    first = second :=
  Nat.le_antisymm (Nat.le_of_not_lt (right.not_lt left)) (Nat.le_of_not_lt (left.not_lt right))

theorem Nearest.unique {negative : Bool} {size : Nat} {number other : Binary64}
    (left : Nearest negative size number) (right : Nearest negative size other) :
    number = other := by
  obtain ⟨code, bits, nearest⟩ := left
  obtain ⟨_, otherBits, otherNearest⟩ := right
  obtain rfl := nearest.unique otherNearest
  have same : number.bits = other.bits := UInt64.toNat_inj.mp (bits.trans otherBits.symm)
  cases number
  cases other
  cases same
  rfl

end Unique

section Round

variable (numerator : Nat) {denominator : Nat}

theorem roundHalfEven_spec (positive : 0 < denominator) :
    let rounded := roundHalfEven numerator denominator * denominator
    2 * rounded ≤ 2 * numerator + denominator ∧ 2 * numerator ≤ 2 * rounded + denominator ∧
      (2 * rounded = 2 * numerator + denominator ∨ 2 * numerator = 2 * rounded + denominator →
        roundHalfEven numerator denominator % 2 = 0) := by
  have split : denominator * (numerator / denominator) + numerator % denominator = numerator :=
    Nat.div_add_mod numerator denominator
  have bound : numerator % denominator < denominator := Nat.mod_lt _ positive
  have next : (numerator / denominator + 1) * denominator =
      denominator * (numerator / denominator) + denominator := by
    rw [Nat.succ_mul, Nat.mul_comm]
  have here : numerator / denominator * denominator = denominator * (numerator / denominator) :=
    Nat.mul_comm _ _
  dsimp only [roundHalfEven]
  split_ifs with below above
  · rw [here]
    omega
  · rw [next]
    omega
  · rcases Nat.mod_two_eq_zero_or_one (numerator / denominator) with even | odd
    · rw [even, Nat.add_zero, here]
      omega
    · rw [odd, next]
      omega

theorem roundHalfEven_nearest (positive : 0 < denominator) {multiple : Nat}
    (other : multiple ≠ roundHalfEven numerator denominator) :
    let off := Nat.dist (roundHalfEven numerator denominator * denominator) numerator
    off < Nat.dist (multiple * denominator) numerator ∨
      off = Nat.dist (multiple * denominator) numerator ∧
        roundHalfEven numerator denominator % 2 = 0 := by
  obtain ⟨low, high, tie⟩ := roundHalfEven_spec numerator positive
  simp only [Nat.dist]
  rcases Nat.lt_or_gt_of_ne other with below | above
  · have apart := Nat.mul_le_mul_right denominator (Nat.succ_le_of_lt below)
    rw [Nat.succ_mul] at apart
    omega
  · have apart := Nat.mul_le_mul_right denominator (Nat.succ_le_of_lt above)
    rw [Nat.succ_mul] at apart
    omega

theorem roundHalfEven_closest (positive : 0 < denominator) (multiple : Nat) :
    Nat.dist (roundHalfEven numerator denominator * denominator) numerator ≤
      Nat.dist (multiple * denominator) numerator := by
  by_cases same : multiple = roundHalfEven numerator denominator
  · rw [same]
  · rcases roundHalfEven_nearest numerator positive same with nearer | ⟨level, _⟩
    · exact Nat.le_of_lt nearer
    · exact Nat.le_of_eq level

theorem roundHalfEven_mul {factor : Nat} (positive : 0 < factor) :
    roundHalfEven (numerator * factor) (denominator * factor) =
      roundHalfEven numerator denominator := by
  have order (left right : Nat) : left * factor < right * factor ↔ left < right :=
    Nat.mul_lt_mul_right positive
  have twice : 2 * (numerator % denominator * factor) = 2 * (numerator % denominator) * factor :=
    (Nat.mul_assoc ..).symm
  simp only [roundHalfEven, Nat.mul_div_mul_right _ _ positive, Nat.mul_mod_mul_right, twice, order]

end Round

section OfNat

variable {target place : Nat}

def roundedCode (target place : Nat) : Nat := place * 2 ^ 52 + roundHalfEven target (2 ^ place)

section Place

variable (low : 2 ^ 52 * 2 ^ place ≤ target) (high : target < 2 ^ 53 * 2 ^ place)
include low high

theorem unitsAt_roundedCode :
    unitsAt (roundedCode target place) = roundHalfEven target (2 ^ place) * 2 ^ place := by
  obtain ⟨below, above, _⟩ := roundHalfEven_spec target (Nat.two_pow_pos place)
  apply unitsAt_add_mantissa place
  · by_contra short
    have bound := Nat.mul_le_mul_right (2 ^ place) (Nat.succ_le_of_lt (Nat.lt_of_not_le short))
    rw [Nat.succ_mul] at bound
    have := Nat.two_pow_pos place
    omega
  · by_contra long
    have bound := Nat.mul_le_mul_right (2 ^ place) (Nat.succ_le_of_lt (Nat.lt_of_not_le long))
    rw [Nat.succ_mul] at bound
    omega

theorem roundedCode_nearest {code : Nat} (other : code ≠ roundedCode target place) :
    offBy target (roundedCode target place) < offBy target code ∨
      offBy target (roundedCode target place) = offBy target code ∧
        roundedCode target place % 2 = 0 := by
  have positive := Nat.two_pow_pos place
  have rounded := unitsAt_roundedCode low high
  have parity : roundedCode target place % 2 = roundHalfEven target (2 ^ place) % 2 := by
    rw [roundedCode]
    omega
  rw [parity]
  simp only [offBy, rounded]
  -- With a smaller exponent the code is further off than the power of two where the exponent
  -- begins; with a larger one it is a multiple of the last place.
  rcases Nat.lt_or_ge code ((place + 1) * 2 ^ 52) with smaller | larger
  · have before := unitsAt_strictMono smaller
    rw [unitsAt_of_power] at before
    have closest := roundHalfEven_closest target positive (2 ^ 52)
    simp only [Nat.dist] at closest ⊢
    omega
  · obtain ⟨multiple, same⟩ := dvd_unitsAt larger
    rw [Nat.mul_comm] at same
    rw [same]
    apply roundHalfEven_nearest target positive
    rintro rfl
    exact other (unitsAt_strictMono.injective (same.trans rounded.symm))

theorem nearestCode_roundedCode :
    NearestCode target (min (roundedCode target place) (2047 * 2 ^ 52)) := by
  rcases Nat.lt_or_ge (2047 * 2 ^ 52) (roundedCode target place) with beyond | fits
  · -- The target is at least what infinity stands for, or the rounded code would be further off.
    rw [Nat.min_eq_right (Nat.le_of_lt beyond)]
    have above := unitsAt_strictMono beyond
    have least : unitsAt (2047 * 2 ^ 52) ≤ target := by
      have rounded := roundedCode_nearest low high (Nat.ne_of_lt beyond)
      simp only [offBy, Nat.dist] at rounded
      omega
    refine .of_nearer (Nat.le_refl _) fun other bound apart => .inl ?_
    have below := unitsAt_strictMono (Nat.lt_of_le_of_ne bound apart)
    simp only [offBy, Nat.dist]
    omega
  · rw [Nat.min_eq_left fits]
    exact .of_nearer fits fun other _ apart => roundedCode_nearest low high apart

end Place

theorem roundHalfEven_scaleDown (number : Nat) {place : Int} (bound : -1074 ≤ place) :
    roundHalfEven (scaleDown number 1 place).1 (scaleDown number 1 place).2 =
      roundHalfEven (number * 2 ^ 1074) (2 ^ (place + 1074).toNat) := by
  unfold scaleDown
  split_ifs with whole
  · obtain ⟨exponent, rfl⟩ := Int.eq_ofNat_of_zero_le whole
    have total : ((exponent : Int) + 1074).toNat = exponent + 1074 := by omega
    rw [total, Nat.pow_add, roundHalfEven_mul number (Nat.two_pow_pos 1074)]
    simp
  · obtain ⟨exponent, rfl⟩ : ∃ exponent : Nat, place = -exponent := ⟨place.natAbs, by omega⟩
    obtain ⟨rest, total⟩ : ∃ rest, 1074 = exponent + rest := ⟨1074 - exponent, by omega⟩
    have places : (-(exponent : Int) + 1074).toNat = rest := by omega
    have scaled : roundHalfEven (number * 2 ^ exponent * 2 ^ rest) (1 * 2 ^ rest) = _ :=
      roundHalfEven_mul _ (Nat.two_pow_pos rest)
    rw [Nat.one_mul, Nat.mul_assoc, ← Nat.pow_add, ← total] at scaled
    rw [places, scaled, Int.neg_neg, Int.toNat_natCast, Nat.pow_eq]

theorem ofCode_bits {negative : Bool} {code : Nat} (bound : code ≤ 2047 * 2 ^ 52) :
    (ofCode negative code).bits.toNat = if negative then 2 ^ 63 + code else code := by
  have sign : signBit = 2 ^ 63 := rfl
  have fits : (if negative then code + signBit else code) < 2 ^ 64 := by
    split <;> omega
  rw [ofCode, UInt64.toNat_ofNat_of_lt' fits]
  split <;> omega

theorem two_pow_mul_congr (first second third fourth : Nat)
    (same : first + second = third + fourth) :
    2 ^ first * 2 ^ second = 2 ^ third * 2 ^ fourth := by
  rw [← Nat.pow_add, ← Nat.pow_add, same]

theorem lt_two_pow_log2 (number : Nat) :
    number * 2 ^ 1074 < 2 ^ 53 * 2 ^ (number.log2 + 1022) := by
  have power : 2 ^ 53 * 2 ^ (number.log2 + 1022) = 2 ^ (number.log2 + 1) * 2 ^ 1074 :=
    two_pow_mul_congr 53 _ _ 1074 (by omega)
  have positive (exponent : Nat) : 0 < 2 ^ exponent := Nat.two_pow_pos exponent
  rw [power]
  exact Nat.mul_lt_mul_of_pos_right Nat.lt_log2_self (positive 1074)

section Bounds

variable {number : Nat} (positive : number ≠ 0)
include positive

theorem lastPlace_one : lastPlace number 1 = (number.log2 : Int) - 52 := by
  have size : 2 ^ number.log2 ≤ number := Nat.log2_self_le positive
  have normal : hiddenBit * (scaleDown number 1 ((number.log2 : Int) - 52)).2 ≤
      (scaleDown number 1 ((number.log2 : Int) - 52)).1 := by
    have hidden : hiddenBit = 2 ^ 52 := rfl
    rw [hidden, scaleDown]
    split_ifs with large
    · obtain ⟨rest, total⟩ : ∃ rest, number.log2 = 52 + rest := ⟨number.log2 - 52, by omega⟩
      have places : ((number.log2 : Int) - 52).toNat = rest := by omega
      rw [total, Nat.pow_add] at size
      rw [places, Nat.one_mul, Nat.pow_eq]
      exact size
    · obtain ⟨rest, total⟩ : ∃ rest, 52 = number.log2 + rest := ⟨52 - number.log2, by omega⟩
      have places : (-((number.log2 : Int) - 52)).toNat = rest := by omega
      rw [places, Nat.mul_one, Nat.pow_eq, total, Nat.pow_add]
      exact Nat.mul_le_mul_right _ size
  have one : ((Nat.log2 1 : Nat) : Int) = 0 := rfl
  simp only [lastPlace, one, Int.sub_zero, if_neg (Nat.not_lt.mpr normal)]
  omega

theorem two_pow_log2_le : 2 ^ 52 * 2 ^ (number.log2 + 1022) ≤ number * 2 ^ 1074 := by
  have power : 2 ^ 52 * 2 ^ (number.log2 + 1022) = 2 ^ number.log2 * 2 ^ 1074 :=
    two_pow_mul_congr 52 _ _ 1074 (by omega)
  rw [power]
  exact Nat.mul_le_mul_right _ (Nat.log2_self_le positive)

theorem ofNat_eq (negative : Bool) : ofNat negative number = ofCode negative
    (min (roundedCode (number * 2 ^ 1074) (number.log2 + 1022)) (2047 * 2 ^ 52)) := by
  have place : lastPlace number 1 = (number.log2 : Int) - 52 := lastPlace_one positive
  have exponent : ((number.log2 : Int) - 52 + 1074).toNat = number.log2 + 1022 := by omega
  have top : infinityCode = 2047 * 2 ^ 52 := rfl
  have hidden : hiddenBit = 2 ^ 52 := rfl
  have code : (lastPlace number 1 + 1074).toNat * hiddenBit +
      roundHalfEven (scaleDown number 1 (lastPlace number 1)).1
        (scaleDown number 1 (lastPlace number 1)).2 =
      roundedCode (number * 2 ^ 1074) (number.log2 + 1022) := by
    rw [roundHalfEven_scaleDown number (by omega), place, exponent, hidden, roundedCode]
  simp only [ofNat, ofRatio, if_neg positive, code, infinity, top]
  split_ifs with beyond
  · rw [Nat.min_eq_right beyond]
  · rw [Nat.min_eq_left (Nat.le_of_not_le beyond)]

theorem ofNat_nearest (negative : Bool) : Nearest negative number (ofNat negative number) := by
  have nearest := nearestCode_roundedCode (two_pow_log2_le positive)
    (lt_two_pow_log2 number)
  refine ⟨_, ?_, nearest⟩
  rw [ofNat_eq positive]
  exact ofCode_bits nearest.inRange

theorem nearest_iff {negative : Bool} {value : Binary64} :
    Nearest negative number value ↔ value = ofNat negative number := by
  constructor
  · intro nearest
    exact nearest.unique (ofNat_nearest positive negative)
  · rintro rfl
    exact ofNat_nearest positive negative

end Bounds

/-- Halfway between two doubles the even one is nearest. -/
example : Nearest false 9007199254740993 ⟨0x4340000000000000⟩ :=
  (nearest_iff (by decide)).mpr (by decide +kernel)

end OfNat

end BoundSql.Binary64
