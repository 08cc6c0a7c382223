import Mathlib.Data.Nat.ModEq

namespace amldigitalfpv.big_endian

/-- The lowest `count` bytes of a number, most significant first. -/
def encode : Nat → Nat → List UInt8
  | 0, _ => []
  | count + 1, value => encode count (value / 256) ++ [UInt8.ofNat value]

/-- The number that the bytes stand for. -/
def decode (bytes : List UInt8) : Nat :=
  bytes.foldl (fun value byte => 256 * value + byte.toNat) 0

@[simp] theorem length_encode (count value : Nat) : (encode count value).length = count := by
  induction count generalizing value with
  | zero => rfl
  | succ count ih => rw [encode, List.length_append, ih, List.length_singleton]

theorem decode_concat (bytes : List UInt8) (byte : UInt8) :
    decode (bytes ++ [byte]) = 256 * decode bytes + byte.toNat := by
  unfold decode
  rw [List.foldl_append]
  rfl

theorem decode_encode (count value : Nat) :
    decode (encode count value) = value % 256 ^ count := by
  induction count generalizing value with
  | zero => simp [encode, decode, Nat.mod_one]
  | succ count ih =>
    rw [encode, decode_concat, ih, UInt8.toNat_ofNat', pow_succ' 256 count, Nat.mod_mul]
    omega

/-- The higher and the lower bytes can be written one after the other. -/
theorem encode_add (high low value : Nat) :
    encode (high + low) value = encode high (value / 256 ^ low) ++ encode low value := by
  induction low generalizing value with
  | zero => simp [encode]
  | succ low ih =>
    rw [← Nat.add_assoc, encode, ih, encode, Nat.div_div_eq_div_mul, ← pow_succ',
      List.append_assoc]

end amldigitalfpv.big_endian
