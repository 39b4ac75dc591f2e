/-! Floating-point numbers of the IEEE 754 format binary64, held by their bits so that equality,
rounding and decimal text are computed on natural numbers. -/

namespace BoundSql

structure Binary64 where
  bits : UInt64
  deriving DecidableEq, Inhabited

namespace Binary64

def hiddenBit : Nat := 0x10000000000000

def signBit : Nat := 0x8000000000000000

def exponentField (number : Binary64) : Nat := number.bits.toNat / hiddenBit % 2048

def fractionField (number : Binary64) : Nat := number.bits.toNat % hiddenBit

def isNegative (number : Binary64) : Bool := signBit ≤ number.bits.toNat

def isNaN (number : Binary64) : Bool :=
  number.exponentField == 2047 && number.fractionField != 0

def isFinite (number : Binary64) : Bool := number.exponentField != 2047

def isZero (number : Binary64) : Bool :=
  number.exponentField == 0 && number.fractionField == 0

/-- Numeric equality: the two zeros are equal and a NaN equals nothing, itself included. -/
def equals (left right : Binary64) : Bool :=
  !left.isNaN && !right.isNaN && (left == right || (left.isZero && right.isZero))

structure Magnitude where
  mantissa : Nat
  exponent : Int

def magnitude (number : Binary64) : Magnitude :=
  if number.exponentField = 0 then ⟨number.fractionField, -1074⟩
  else ⟨number.fractionField + hiddenBit, (number.exponentField : Int) - 1075⟩

/-- The number with this sign whose magnitude has the code `code`, the order of codes being the
order of magnitudes. -/
def ofCode (negative : Bool) (code : Nat) : Binary64 :=
  ⟨UInt64.ofNat (if negative then code + signBit else code)⟩

def infinityCode : Nat := 2047 * hiddenBit

def infinity (negative : Bool) : Binary64 := ofCode negative infinityCode

def zero (negative : Bool) : Binary64 := ofCode negative 0

def nan : Binary64 := ⟨0x7FF8000000000000⟩

def canonical (number : Binary64) : Binary64 := if number.isNaN then nan else number

theorem equals_comm (left right : Binary64) : left.equals right = right.equals left := by
  have swap : (left == right) = (right == left) := BEq.comm
  simp only [equals, swap]
  cases left.isNaN <;> cases right.isNaN <;> cases left.isZero <;> cases right.isZero <;> rfl

theorem equals_self_iff (number : Binary64) :
    number.equals number = true ↔ number.isNaN = false := by
  simp [equals]

theorem equals_trans (left middle right : Binary64) (first : left.equals middle = true)
    (second : middle.equals right = true) : left.equals right = true := by
  simp only [equals, Bool.and_eq_true, Bool.not_eq_true', Bool.or_eq_true, beq_iff_eq] at *
  refine ⟨⟨first.1.1, second.1.2⟩, ?_⟩
  rcases first.2 with same | ⟨leftZero, middleZero⟩
  · rw [same]
    exact second.2
  · rcases second.2 with same | ⟨_, rightZero⟩
    · exact Or.inr ⟨leftZero, same ▸ middleZero⟩
    · exact Or.inr ⟨leftZero, rightZero⟩

end Binary64

end BoundSql
