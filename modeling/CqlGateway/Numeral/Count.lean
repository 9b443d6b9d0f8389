/-! Counts are at most 64 bits wide. Sums and products that would pass the largest count stop at it,
and positions start again at zero behind it.
-/

namespace CqlGateway

/-- The largest count. -/
def countLimit : Nat := Nat.pow 2 64 - 1

def saturatingAdd (left right : Nat) : Nat :=
  min (left + right) countLimit

def saturatingMul (left right : Nat) : Nat :=
  min (left * right) countLimit

def wrappingAdd (left right : Nat) : Nat :=
  (left + right) % (countLimit + 1)

end CqlGateway
