/-!
# Limits of fixed-width numbers

A number without sign has a width of some bits if it is below the limit of that width. A number
with a sign that has a width of 64 bits lies between the limit of 63 bits and its negative.
-/

namespace Gatehouse.Limit

/-- Number of values of 16 bits. -/
def bits16 : Nat := 0x10000

/-- Number of values of 32 bits. -/
def bits32 : Nat := 0x100000000

/-- Number of values of 63 bits. -/
def bits63 : Nat := 0x8000000000000000

/-- Number of values of 64 bits. -/
def bits64 : Nat := 0x10000000000000000

/-- Number of values of 128 bits. -/
def bits128 : Nat := 0x100000000000000000000000000000000

theorem bits128_pos : 0 < bits128 := by decide

/-- Whether a number with a sign has a width of 64 bits. -/
def isInt64 (n : Int) : Bool :=
  -(bits63 : Int) ≤ n && n < bits63

end Gatehouse.Limit
