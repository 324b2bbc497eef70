/-!
# Sizes

Sizes and counts are natural numbers below `2 ^ 64`. A sum or product that leaves this range has no
value, stays at the largest size, or goes on at zero.
-/

namespace ContractCalls.Size

def limit : Nat := UInt64.size

def max : Nat := UInt64.size - 1

/-- A size, if it is in range. -/
def check? (n : Nat) : Option Nat :=
  if n < limit then some n else none

/-- A size, or the largest one if it is out of range. -/
def saturate (n : Nat) : Nat :=
  min n max

/-- A size, without the bits that it has no room for. -/
def wrap (n : Nat) : Nat :=
  n % limit

end ContractCalls.Size
