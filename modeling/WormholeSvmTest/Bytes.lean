import Mathlib.Data.Vector.Basic
import Mathlib.Data.UInt

/-!
# Byte strings, little-endian integers and Rust slices

A Rust array `[u8; n]` is `Bytes n`, a byte list whose length is part of its type. `toLeBytes w x`
is the `w` low bytes of `x`, least significant first, as `u32::to_le_bytes` and
`u64::to_le_bytes` lay them out, and `ofLeBytes` reads such bytes back. The round trip
`ofLeBytes_toLeBytes` and its consequence `toLeBytes_injective` carry every encoding fact used
later. Slicing follows Rust: a range outside the slice panics, which is `none` here.
-/

namespace WormholeSvmTest

/-- A fixed-size byte array `[u8; n]`. -/
abbrev Bytes (n : Nat) := Mathlib.Vector UInt8 n

/-! ## Little-endian encoding -/

/-- The `width` low bytes of `x`, least significant first; higher bytes are dropped. -/
def toLeBytes : Nat → Nat → List UInt8
  | 0, _ => []
  | width + 1, x => UInt8.ofNat x :: toLeBytes width (x / 256)

/-- The number whose little-endian bytes are the given list. -/
def ofLeBytes : List UInt8 → Nat
  | [] => 0
  | b :: bs => b.toNat + 256 * ofLeBytes bs

@[simp] theorem length_toLeBytes (width x : Nat) : (toLeBytes width x).length = width := by
  induction width generalizing x with
  | zero => rfl
  | succ width ih => simp [toLeBytes, ih]

/-- Reading back `width` little-endian bytes gives the number modulo `256 ^ width`. -/
theorem ofLeBytes_toLeBytes (width x : Nat) :
    ofLeBytes (toLeBytes width x) = x % 256 ^ width := by
  induction width generalizing x with
  | zero => simp [toLeBytes, ofLeBytes, Nat.mod_one]
  | succ width ih =>
      have hbyte : (UInt8.ofNat x).toNat = x % 256 := rfl
      rw [toLeBytes, ofLeBytes, ih, hbyte, pow_succ', Nat.mod_mul]

/-- A list of `n` bytes encodes a number below `256 ^ n`. -/
theorem ofLeBytes_lt (bytes : List UInt8) : ofLeBytes bytes < 256 ^ bytes.length := by
  induction bytes with
  | nil => simp [ofLeBytes]
  | cons b bs ih =>
      have hb : b.toNat < 256 := b.toNat_lt_size
      rw [ofLeBytes, List.length_cons, pow_succ]
      omega

/-- Encoding the value of a byte list at its own length gives the list back. -/
theorem toLeBytes_ofLeBytes (bytes : List UInt8) :
    toLeBytes bytes.length (ofLeBytes bytes) = bytes := by
  induction bytes with
  | nil => rfl
  | cons b bs ih =>
      have hb : b.toNat < 256 := b.toNat_lt_size
      have hdiv : (b.toNat + 256 * ofLeBytes bs) / 256 = ofLeBytes bs := by omega
      have hlow : UInt8.ofNat (b.toNat + 256 * ofLeBytes bs) = b :=
        UInt8.toNat.inj (show (b.toNat + 256 * ofLeBytes bs) % 256 = b.toNat by omega)
      rw [List.length_cons, toLeBytes, ofLeBytes, hdiv, hlow, ih]

/-- Below `256 ^ width`, the encoding at that width determines the number. -/
theorem toLeBytes_injective {width x y : Nat} (hx : x < 256 ^ width) (hy : y < 256 ^ width)
    (h : toLeBytes width x = toLeBytes width y) : x = y := by
  have := congrArg ofLeBytes h
  rwa [ofLeBytes_toLeBytes, ofLeBytes_toLeBytes, Nat.mod_eq_of_lt hx, Nat.mod_eq_of_lt hy] at this

/-! ## Fixed-width integers -/

/-- `u32::to_le_bytes`. -/
def u32ToLeBytes (x : UInt32) : Bytes 4 :=
  ⟨toLeBytes 4 x.toNat, length_toLeBytes 4 x.toNat⟩

/-- `u64::to_le_bytes`. -/
def u64ToLeBytes (x : UInt64) : Bytes 8 :=
  ⟨toLeBytes 8 x.toNat, length_toLeBytes 8 x.toNat⟩

/-- `u32::from_le_bytes`. -/
def u32FromLeBytes (bytes : Bytes 4) : UInt32 :=
  UInt32.ofNat (ofLeBytes bytes.toList)

/-- `u32::from_le_bytes` inverts `u32::to_le_bytes`. -/
@[simp] theorem u32FromLeBytes_u32ToLeBytes (x : UInt32) : u32FromLeBytes (u32ToLeBytes x) = x := by
  apply UInt32.toNat.inj
  have hx : x.toNat < 2 ^ 32 := x.toNat_lt_size
  show ofLeBytes (toLeBytes 4 x.toNat) % 2 ^ 32 = x.toNat
  rw [ofLeBytes_toLeBytes]
  omega

/-- `u64::to_le_bytes` is injective. -/
theorem u64ToLeBytes_injective {x y : UInt64} (h : u64ToLeBytes x = u64ToLeBytes y) : x = y :=
  UInt64.toNat.inj <| toLeBytes_injective x.toNat_lt_size y.toNat_lt_size (congrArg Subtype.val h)

/-! ## Slices -/

/-- `&data[start..stop]`: the bytes from `start` up to `stop`, or a panic (`none`) when the
range is reversed or runs past the end. -/
def sliceRange (data : List UInt8) (start stop : Nat) : Option (List UInt8) :=
  if start ≤ stop ∧ stop ≤ data.length then some ((data.drop start).take (stop - start)) else none

/-- `<[u8; n]>::try_from(slice)`: the slice as an array when it has exactly `n` bytes. -/
def tryIntoArray (n : Nat) (slice : List UInt8) : Option (Bytes n) :=
  if h : slice.length = n then some ⟨slice, h⟩ else none

theorem sliceRange_eq_none {data : List UInt8} {start stop : Nat} :
    sliceRange data start stop = none ↔ ¬ (start ≤ stop ∧ stop ≤ data.length) := by
  unfold sliceRange
  split <;> simp_all

/-- A slice of exactly `n` bytes always converts to `[u8; n]`. -/
theorem tryIntoArray_of_length {slice : List UInt8} {n : Nat} (h : slice.length = n) :
    tryIntoArray n slice = some ⟨slice, h⟩ := by
  simp [tryIntoArray, h]

end WormholeSvmTest
