/-
Numbers as bytes, the least significant byte first.
-/

namespace RoutingGateway.LittleEndian

/-- The lowest `count` bytes of `n`. -/
def encode : (count n : Nat) → List UInt8
  | 0, _ => []
  | count + 1, n => UInt8.ofNat n :: encode count (n / 256)

/-- The number that the bytes stand for. -/
def decode : List UInt8 → Nat
  | [] => 0
  | byte :: rest => byte.toNat + 256 * decode rest

@[simp] theorem length_encode (count n : Nat) : (encode count n).length = count := by
  induction count generalizing n with
  | zero => rfl
  | succ count ih => simp [encode, ih]

theorem decode_encode (count n : Nat) : decode (encode count n) = n % Nat.pow 256 count := by
  induction count generalizing n with
  | zero => simp [encode, decode, Nat.mod_one]
  | succ count ih =>
    rw [Nat.pow_eq, Nat.pow_succ', Nat.mod_mul]
    simp [encode, decode, ih]

/-- The eight bytes of a double. -/
def ofFloat (x : Float) : List UInt8 := encode 8 x.toBits.toNat

/-- The double that eight bytes stand for. -/
def toFloat (bytes : List UInt8) : Float := Float.ofBits (UInt64.ofNat (decode bytes))

end RoutingGateway.LittleEndian
