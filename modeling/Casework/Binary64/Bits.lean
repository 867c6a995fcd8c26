import Casework.Binary64.Basic

namespace Casework.Binary64

def signBit : Nat := 0x8000000000000000

/-- The leading bit of a normal number is not part of its pattern. -/
def hiddenBit : Nat := 0x10000000000000

def infinityBits : Nat := 0x7ff0000000000000

/-- This is the count of a pattern without its sign bit, below the pattern of infinity. -/
def countOfBits (pattern : Nat) : Nat :=
  let exponent := pattern / hiddenBit
  let fraction := pattern % hiddenBit
  if exponent = 0 then fraction else (hiddenBit + fraction) * Nat.pow 2 (exponent - 1)

/-- The exponent field counts the doublings of the spacing, and the leading bit of a
normal count carries into it. -/
def bitsOfCount (count : Nat) : Nat :=
  spacing count * hiddenBit + count / step count

/-- This is the pattern of a number. What is no number has none of its own. -/
def toBits? : Binary64 → Option Nat
  | .finite value => some ((if value.negative then signBit else 0) + bitsOfCount value.count)
  | .infinite negative => some ((if negative then signBit else 0) + infinityBits)
  | .notNumber => none

/-- This is the number of a pattern. -/
def ofBits (pattern : Nat) : Binary64 :=
  let negative := pattern / signBit % 2 = 1
  let magnitude := pattern % signBit
  if magnitude = infinityBits then .infinite negative
  else if infinityBits < magnitude then .notNumber
  else ofUnits negative (countOfBits magnitude) 1

/-- The pattern of a finite magnitude lies below that of infinity. -/
theorem bitsOfCount_lt {count : Nat} (onGrid : OnGrid count) :
    bitsOfCount count < infinityBits := by
  have fraction : count / step count < Nat.pow 2 53 :=
    Nat.div_lt_of_lt_mul (Nat.mul_comm _ (step count) ▸ lt_mul_step count)
  have limit : countLimit = Nat.pow 2 53 * Nat.pow 2 2045 := by decide +kernel
  have below : count < Nat.pow 2 53 * Nat.pow 2 2045 := by
    rw [← limit]
    exact onGrid.1
  have exponent := spacing_le below
  have bound : Nat.pow 2 53 = 2 * hiddenBit := by decide
  have whole : infinityBits = 2047 * hiddenBit := by decide
  have product := Nat.mul_le_mul_right hiddenBit exponent
  unfold bitsOfCount
  omega

end Casework.Binary64
