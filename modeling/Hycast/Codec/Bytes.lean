import Hycast.Prod.ChunkInfo

/-! Modelled from the spec: `Codec.h` is not among the sources.

Unsigned integers of fixed width in network byte order, and a decoder that reads them
from the unread bytes of the current message, failing with `ShortMessage` when the
message ends first.
-/

set_option autoImplicit false

namespace Hycast

abbrev Bytes := List UInt8

/-- The `width` bytes of `value` in network byte order, most significant first. -/
def encodeBE : Nat → Nat → Bytes
  | 0, _ => []
  | width + 1, value => encodeBE width (value / 256) ++ [UInt8.ofNat value]

def valueBE (bytes : Bytes) : Nat :=
  bytes.foldl (fun value byte => value * 256 + byte.toNat) 0

abbrev Decoding := StateT Bytes (Except Error)

/-- `Decoder::decode` of `count` raw bytes. -/
def decodeBytes (count : Nat) : Decoding {bytes : Bytes // bytes.length = count} := fun bytes =>
  if fits : count ≤ bytes.length then .ok (⟨bytes.take count, by simp [fits]⟩, bytes.drop count)
  else .error .shortMessage

/-- `Decoder::decode` of an unsigned integer of `width` bytes. -/
def decodeBE (width : Nat) : Decoding Nat := do
  let bytes ← decodeBytes width
  return valueBE bytes.val

def encodeU8 (value : UInt8) : Bytes := encodeBE 1 value.toNat
def encodeU16 (value : UInt16) : Bytes := encodeBE 2 value.toNat
def encodeU32 (value : UInt32) : Bytes := encodeBE 4 value.toNat

def decodeU8 : Decoding UInt8 := do return (← decodeBE 1).toUInt8
def decodeU16 : Decoding UInt16 := do return (← decodeBE 2).toUInt16
def decodeU32 : Decoding UInt32 := do return (← decodeBE 4).toUInt32

/-! ## Reading back what was written -/

@[simp] theorem ok_bind {ε α β : Type} (a : α) (f : α → Except ε β) : (Except.ok a >>= f) = f a := rfl

@[simp] theorem error_bind {ε α β : Type} (e : ε) (f : α → Except ε β) :
    (Except.error e >>= f) = Except.error e := rfl

theorem toNat_uint8OfNat (n : Nat) : (UInt8.ofNat n).toNat = n % 2 ^ 8 := rfl

theorem toNat_toUInt32 (n : Nat) : n.toUInt32.toNat = n % 2 ^ 32 := by
  simp [Nat.toUInt32, UInt32.ofNat, UInt32.toNat]

theorem toNat_toUInt8_mod (n : Nat) : n.toUInt8.toNat = n % 2 ^ 8 := by
  simp [Nat.toUInt8, UInt8.ofNat, UInt8.toNat]

theorem toNat_toUInt16_mod (n : Nat) : n.toUInt16.toNat = n % 2 ^ 16 := by
  simp [Nat.toUInt16, UInt16.ofNat, UInt16.toNat]

@[simp] theorem length_encodeBE (width value : Nat) : (encodeBE width value).length = width := by
  induction width generalizing value with
  | zero => rfl
  | succ width ih => simp [encodeBE, ih]

theorem valueBE_append_singleton (bytes : Bytes) (byte : UInt8) :
    valueBE (bytes ++ [byte]) = valueBE bytes * 256 + byte.toNat := by
  simp [valueBE, List.foldl_append]

theorem valueBE_encodeBE (width value : Nat) : valueBE (encodeBE width value) = value % 256 ^ width := by
  induction width generalizing value with
  | zero => simp [encodeBE, valueBE, Nat.mod_one]
  | succ width ih =>
    have split : value % 256 ^ (width + 1) = value % 256 + 256 * (value / 256 % 256 ^ width) := by
      rw [Nat.pow_succ, Nat.mul_comm (256 ^ width) 256, Nat.mod_mul]
    rw [encodeBE, valueBE_append_singleton, ih, toNat_uint8OfNat, split]
    omega

theorem valueBE_lt (bytes : Bytes) : valueBE bytes < 256 ^ bytes.length := by
  induction bytes using List.reverseRecOn with
  | nil => simp [valueBE]
  | append_singleton bytes byte ih =>
    have := byte.toNat_lt
    rw [valueBE_append_singleton, List.length_append, List.length_singleton, Nat.pow_succ]
    omega

theorem encodeBE_valueBE (bytes : Bytes) : encodeBE bytes.length (valueBE bytes) = bytes := by
  induction bytes using List.reverseRecOn with
  | nil => rfl
  | append_singleton bytes byte ih =>
    have := byte.toNat_lt
    rw [List.length_append, List.length_singleton, encodeBE, valueBE_append_singleton]
    have quotient : (valueBE bytes * 256 + byte.toNat) / 256 = valueBE bytes := by omega
    have remainder : UInt8.ofNat (valueBE bytes * 256 + byte.toNat) = byte :=
      UInt8.toNat.inj (by rw [toNat_uint8OfNat]; omega)
    rw [quotient, ih, remainder]

theorem decodeBytes_append {count : Nat} (bytes rest : Bytes) (exact : bytes.length = count) :
    (decodeBytes count).run (bytes ++ rest) = .ok (⟨bytes, exact⟩, rest) := by
  subst exact
  simp [decodeBytes, StateT.run]

theorem decodeBE_append (width : Nat) (bytes rest : Bytes) (exact : bytes.length = width) :
    (decodeBE width).run (bytes ++ rest) = .ok (valueBE bytes, rest) := by
  simp only [decodeBE, StateT.run_bind, decodeBytes_append bytes rest exact]
  rfl

theorem decodeBE_encodeBE (width value : Nat) (rest : Bytes) :
    (decodeBE width).run (encodeBE width value ++ rest) = .ok (value % 256 ^ width, rest) := by
  rw [decodeBE_append width _ rest (length_encodeBE width value), valueBE_encodeBE]

@[simp] theorem decodeU8_encodeU8 (value : UInt8) (rest : Bytes) :
    decodeU8.run (encodeU8 value ++ rest) = .ok (value, rest) := by
  simp only [decodeU8, encodeU8, StateT.run_bind, decodeBE_encodeBE]
  have := value.toNat_lt
  exact congrArg (fun v => Except.ok (v, rest)) (UInt8.toNat.inj (by
    simp only [toNat_toUInt8_mod]; omega))

@[simp] theorem decodeU16_encodeU16 (value : UInt16) (rest : Bytes) :
    decodeU16.run (encodeU16 value ++ rest) = .ok (value, rest) := by
  simp only [decodeU16, encodeU16, StateT.run_bind, decodeBE_encodeBE]
  have := value.toNat_lt
  exact congrArg (fun v => Except.ok (v, rest)) (UInt16.toNat.inj (by
    simp only [toNat_toUInt16_mod]; omega))

@[simp] theorem decodeU32_encodeU32 (value : UInt32) (rest : Bytes) :
    decodeU32.run (encodeU32 value ++ rest) = .ok (value, rest) := by
  simp only [decodeU32, encodeU32, StateT.run_bind, decodeBE_encodeBE]
  have := value.toNat_lt
  exact congrArg (fun v => Except.ok (v, rest)) (UInt32.toNat.inj (by
    simp only [toNat_toUInt32]; omega))

end Hycast
