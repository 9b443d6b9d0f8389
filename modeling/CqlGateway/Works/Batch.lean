import CqlGateway.Numeral.Count

/-! How many hits are asked for at a time. Batches never shrink. A later one is sized by the hits
that a work took so far, and grows by no more than a factor in each step.
-/

namespace CqlGateway

structure BatchPolicy where
  /-- The largest batch that is grown into. -/
  maxRows : Nat
  /-- The factor by which a batch may grow. -/
  growthCap : Nat
deriving DecidableEq, Repr

namespace BatchPolicy

def standard : BatchPolicy :=
  {
    maxRows := 1000
    growthCap := 4
  }

/-- The first batch: a row for each work that is wanted, as far as the policy goes. -/
def first (policy : BatchPolicy) (target : Nat) : Nat :=
  min (max target 1) (max policy.maxRows 1)

/-- The quotient, rounded up. -/
def ceilDiv (numerator denominator : Nat) : Nat :=
  (numerator + denominator - 1) / denominator

/-- The rows that a batch can grow to in one step. -/
def reach (policy : BatchPolicy) (previous : Nat) : Nat :=
  saturatingMul previous (max policy.growthCap 1)

/-- The rows that the missing works should take if they take as many as the ones that were found. -/
def estimate (policy : BatchPolicy) (previous missing fetched found : Nat) : Nat :=
  if found = 0 then policy.reach previous else ceilDiv (saturatingMul missing fetched) found

/-- The batch behind another one, when so many hits brought so many works and some are still
missing.
-/
def next (policy : BatchPolicy) (previous missing fetched found : Nat) : Nat :=
  min (min (max (policy.estimate previous missing fetched found) previous) (policy.reach previous))
    (max policy.maxRows previous)

end BatchPolicy

end CqlGateway
