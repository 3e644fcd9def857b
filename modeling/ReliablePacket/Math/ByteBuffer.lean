/-
# Byte buffers

Loading and storing at an offset of a buffer, and natural numbers as a fixed
number of bytes, the least significant first.
-/
import Mathlib.Data.Nat.Digits.Defs
import Mathlib.Tactic.Common

set_option autoImplicit false

namespace ByteBuffer

variable {offset count n : ℕ} {bytes buffer rest : List UInt8}

/-! ## Loads and stores -/

/-- `count` bytes from `offset` on. -/
def load (offset count : ℕ) (buffer : List UInt8) : List UInt8 :=
  (buffer.drop offset).take count

/-- The buffer after the bytes have been stored from `offset` on. -/
def store (offset : ℕ) (bytes buffer : List UInt8) : List UInt8 :=
  buffer.take offset ++ bytes ++ buffer.drop (offset + bytes.length)

/-- A load that ends inside the front of a buffer sees nothing behind it. -/
theorem load_append (h : offset + count ≤ bytes.length) :
    load offset count (bytes ++ rest) = load offset count bytes := by
  have hdrop : offset ≤ bytes.length := by omega
  have htake : count ≤ (bytes.drop offset).length := by
    rw [List.length_drop]
    omega
  rw [load, load, List.drop_append_of_le_length hdrop, List.take_append_of_le_length htake]

/-- What stands behind the front of a buffer is loaded from there. -/
theorem load_of_append {front : List UInt8} (hfront : front.length = offset)
    (hbytes : bytes.length = count) (rest : List UInt8) :
    load offset count (front ++ (bytes ++ rest)) = bytes := by
  rw [load, List.drop_left' hfront, List.take_left' hbytes]

/-- Adjacent loads make up one load. -/
theorem load_add (offset m n : ℕ) (buffer : List UInt8) :
    load offset (m + n) buffer = load offset m buffer ++ load (offset + m) n buffer := by
  rw [load, load, load, List.take_add, List.drop_drop]

theorem length_load (h : offset + count ≤ buffer.length) :
    (load offset count buffer).length = count := by
  rw [load, List.length_take, List.length_drop]
  omega

/-- A store behind the front of a buffer keeps the front. -/
theorem store_append {front : List UInt8} (hfront : front.length = offset)
    (bytes rest : List UInt8) :
    store offset bytes (front ++ rest) = front ++ bytes ++ rest.drop bytes.length := by
  rw [store, List.take_left' hfront, ← List.drop_drop, List.drop_left' hfront]

theorem store_zero (bytes buffer : List UInt8) :
    store 0 bytes buffer = bytes ++ buffer.drop bytes.length := by
  rw [store, List.take_zero, List.nil_append, Nat.zero_add]

/-! ## Little-endian numbers -/

/-- The lowest `count` bytes of a number. -/
def encode : ℕ → ℕ → List UInt8
  | 0, _ => []
  | count + 1, n => .ofNat n :: encode count (n / 256)

/-- The number that the bytes stand for. -/
def decode (bytes : List UInt8) : ℕ := Nat.ofDigits 256 (bytes.map (·.toNat))

@[simp] theorem length_encode (count n : ℕ) : (encode count n).length = count := by
  induction count generalizing n with
  | zero => rfl
  | succ count ih => rw [encode, List.length_cons, ih]

theorem decode_cons (b : UInt8) (bytes : List UInt8) :
    decode (b :: bytes) = b.toNat + 256 * decode bytes :=
  Nat.ofDigits_cons

theorem decode_lt (bytes : List UInt8) : decode bytes < 256 ^ bytes.length := by
  induction bytes with
  | nil => decide
  | cons b bytes ih =>
    have hb := b.toNat_lt
    rw [decode_cons, List.length_cons, Nat.pow_succ]
    omega

/-- A number that fits is read back. -/
theorem decode_encode {count n : ℕ} (h : n < 256 ^ count) : decode (encode count n) = n := by
  induction count generalizing n with
  | zero =>
    obtain rfl : n = 0 := Nat.lt_one_iff.mp h
    rfl
  | succ count ih =>
    rw [Nat.pow_succ] at h
    rw [encode, decode_cons, ih (by omega), UInt8.toNat_ofNat']
    omega

/-- Bytes are what their number is written as. -/
theorem encode_decode (bytes : List UInt8) : encode bytes.length (decode bytes) = bytes := by
  induction bytes with
  | nil => rfl
  | cons b bytes ih =>
    have hb := b.toNat_lt
    have hlow : UInt8.ofNat (decode (b :: bytes)) = b := by
      rw [← UInt8.toNat_inj, UInt8.toNat_ofNat', decode_cons]
      omega
    have hhigh : decode (b :: bytes) / 256 = decode bytes := by
      rw [decode_cons]
      omega
    rw [List.length_cons, encode, hlow, hhigh, ih]

/-- Bytes of a buffer, read as a number and written again. -/
theorem encode_decode_load {count : ℕ} (h : offset + count ≤ buffer.length) :
    encode count (decode (load offset count buffer)) = load offset count buffer := by
  have hbytes := encode_decode (load offset count buffer)
  rw [length_load h] at hbytes
  exact hbytes

end ByteBuffer
