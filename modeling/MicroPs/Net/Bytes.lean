/-
# Bytes on the wire

The stack builds its headers in memory and hands the bytes to the device.
The model takes the little-endian hosts the Linux platform runs on: a 16-bit
or 32-bit value lies in memory low byte first, so `hton16` and `hton32`
reverse the bytes of a value, and a converted value goes out big-endian as
the wire formats require. Addresses and ports are kept in network byte order
and stored as they are.

`cksum16` adds the 16-bit words the bytes make in memory with end-around
carry and complements the sum. A checksum written into a header at an even
offset makes the checksum of the whole come out zero, which is what every
receiver tests.
-/

import Mathlib.Data.List.Basic
import Mathlib.Algebra.Group.Int
import Mathlib.Algebra.Group.Nat.Basic

namespace MicroPs.Net

/-- Modelled from the spec: `hton16` of util.c, which is not among the
sources. Wire formats are big-endian, and on the little-endian hosts the Linux
platform runs on the conversion swaps the two bytes. -/
def hton16 (x : BitVec 16) : BitVec 16 := BitVec.ofNat 16 (x.toNat % 256 * 256 + x.toNat / 256)

/-- Modelled from the spec: `hton32` of util.c, which is not among the
sources; on a little-endian host it reverses the four bytes. -/
def hton32 (x : BitVec 32) : BitVec 32 :=
  BitVec.ofNat 32 (x.toNat % 256 * 16777216 + x.toNat / 256 % 256 * 65536 +
    x.toNat / 65536 % 256 * 256 + x.toNat / 16777216)

theorem hton16_toNat (x : BitVec 16) : (hton16 x).toNat = x.toNat % 256 * 256 + x.toNat / 256 := by
  have := x.isLt
  simp only [hton16, BitVec.toNat_ofNat]
  omega

@[simp] theorem hton16_hton16 (x : BitVec 16) : hton16 (hton16 x) = x := by
  apply BitVec.eq_of_toNat_eq
  have := x.isLt
  rw [hton16_toNat, hton16_toNat]
  omega

/-- Modelled from the spec: `ntoh16` of util.c, the same swap as `hton16`. -/
def ntoh16 (x : BitVec 16) : BitVec 16 := hton16 x

/-- Modelled from the spec: `ntoh32` of util.c, the same reversal as `hton32`. -/
def ntoh32 (x : BitVec 32) : BitVec 32 := hton32 x

@[simp] theorem ntoh16_hton16 (x : BitVec 16) : ntoh16 (hton16 x) = x := hton16_hton16 x

/-- The low byte and the rest of a value. -/
theorem add_256_mul_mod_div {u : Nat} (hu : u < 256) (k : Nat) :
    (u + 256 * k) % 256 = u ∧ (u + 256 * k) / 256 = k := by omega

/-- `hton32` of a value given by its four bytes, low byte first. -/
theorem hton32_toNat_bytes {x : BitVec 32} {a b c d : Nat} (ha : a < 256) (hb : b < 256)
    (hc : c < 256) (hd : d < 256) (hx : x.toNat = a + 256 * b + 65536 * c + 16777216 * d) :
    (hton32 x).toNat = d + 256 * c + 65536 * b + 16777216 * a := by
  obtain ⟨h₀, q₀⟩ := add_256_mul_mod_div ha (b + 256 * (c + 256 * d))
  obtain ⟨h₁, q₁⟩ := add_256_mul_mod_div hb (c + 256 * d)
  obtain ⟨h₂, q₂⟩ := add_256_mul_mod_div hc d
  have hx' : x.toNat = a + 256 * (b + 256 * (c + 256 * d)) := by omega
  have e₁ : x.toNat / 65536 = x.toNat / 256 / 256 := by rw [Nat.div_div_eq_div_mul]
  have e₂ : x.toNat / 16777216 = x.toNat / 256 / 256 / 256 := by
    rw [Nat.div_div_eq_div_mul, Nat.div_div_eq_div_mul]
  simp only [hton32, BitVec.toNat_ofNat, e₁, e₂]
  simp only [hx', h₀, q₀, h₁, q₁, h₂, q₂]
  rw [Nat.mod_eq_of_lt (by omega)]
  omega

@[simp] theorem hton32_hton32 (x : BitVec 32) : hton32 (hton32 x) = x := by
  apply BitVec.eq_of_toNat_eq
  have hx : x.toNat = x.toNat % 256 + 256 * (x.toNat / 256 % 256) +
      65536 * (x.toNat / 65536 % 256) + 16777216 * (x.toNat / 16777216) := by omega
  have := x.isLt
  rw [hton32_toNat_bytes (by omega) (by omega) (by omega) (by omega)
    (hton32_toNat_bytes (by omega) (by omega) (by omega) (by omega) hx)]
  omega

@[simp] theorem ntoh32_hton32 (x : BitVec 32) : ntoh32 (hton32 x) = x := hton32_hton32 x

/-- How a 16-bit value lies in memory: low byte first. -/
def mem16 (x : BitVec 16) : List (BitVec 8) :=
  [BitVec.ofNat 8 x.toNat, BitVec.ofNat 8 (x.toNat / 256)]

/-- How a 32-bit value lies in memory: low byte first. -/
def mem32 (x : BitVec 32) : List (BitVec 8) :=
  [BitVec.ofNat 8 x.toNat, BitVec.ofNat 8 (x.toNat / 256), BitVec.ofNat 8 (x.toNat / 65536),
    BitVec.ofNat 8 (x.toNat / 16777216)]

/-- The 16-bit value two bytes make in memory. -/
def load16 (b₀ b₁ : BitVec 8) : BitVec 16 := BitVec.ofNat 16 (b₀.toNat + b₁.toNat * 256)

/-- The 32-bit value four bytes make in memory. -/
def load32 (b₀ b₁ b₂ b₃ : BitVec 8) : BitVec 32 :=
  BitVec.ofNat 32 (b₀.toNat + b₁.toNat * 256 + b₂.toNat * 65536 + b₃.toNat * 16777216)

/-- The 16-bit value at offset `i` of a buffer; zero past its end. -/
def read16 (bs : List (BitVec 8)) (i : Nat) : BitVec 16 := load16 (bs.getD i 0) (bs.getD (i + 1) 0)

/-- The 32-bit value at offset `i` of a buffer; zero past its end. -/
def read32 (bs : List (BitVec 8)) (i : Nat) : BitVec 32 :=
  load32 (bs.getD i 0) (bs.getD (i + 1) 0) (bs.getD (i + 2) 0) (bs.getD (i + 3) 0)

@[simp] theorem load16_bytes (x : BitVec 16) :
    load16 (BitVec.ofNat 8 x.toNat) (BitVec.ofNat 8 (x.toNat / 256)) = x := by
  apply BitVec.eq_of_toNat_eq
  have := x.isLt
  simp only [load16, BitVec.toNat_ofNat]
  omega

@[simp] theorem load32_bytes (x : BitVec 32) :
    load32 (BitVec.ofNat 8 x.toNat) (BitVec.ofNat 8 (x.toNat / 256))
      (BitVec.ofNat 8 (x.toNat / 65536)) (BitVec.ofNat 8 (x.toNat / 16777216)) = x := by
  apply BitVec.eq_of_toNat_eq
  have := x.isLt
  simp only [load32, BitVec.toNat_ofNat]
  omega

/-- `a - b` where the difference is a `size_t`, 64 bits wide on the Linux
platform: it wraps when `b` is larger. -/
def sizeSub (a b : Nat) : Nat := (((a : Int) - b) % 2 ^ 64).toNat

theorem sizeSub_of_le {a b : Nat} (h : b ≤ a) (ha : a < 2 ^ 64) : sizeSub a b = a - b := by
  unfold sizeSub
  rw [Int.emod_eq_of_lt (by omega) (by omega)]
  omega

/-! ## The checksum -/

/-- The sum of `cksum16`'s loop: consecutive bytes taken as the 16-bit words
they make in memory, and a last odd byte taken alone. -/
def cksumWords : List (BitVec 8) → Nat
  | [] => 0
  | [b] => b.toNat
  | b₀ :: b₁ :: rest => b₀.toNat + b₁.toNat * 256 + cksumWords rest

/-- The end-around carry loop `while (sum >> 16)` of `cksum16`, with fuel for
its iterations. -/
def cksumFold : Nat → Nat → Nat
  | 0, sum => sum
  | fuel + 1, sum =>
    if sum / 65536 = 0 then sum else cksumFold fuel (sum % 65536 + sum / 65536)

/-- Modelled from the spec: `cksum16(addr, count, init)` of util.c, which is
not among the sources, over the `count` bytes `data`: the one's-complement
sum of RFC 1071, complemented. Below 65536 bytes its 32-bit sum does not
wrap, and the loop folds it at most `sum` times. -/
def cksum16 (data : List (BitVec 8)) (init : Nat) : BitVec 16 :=
  let sum := init + cksumWords data
  ~~~(BitVec.ofNat 16 (cksumFold sum sum))

/-- The one's-complement value of a sum: zero for zero, else the
representative of its class modulo 65535 in `[1, 65535]`. -/
def onesSum (s : Nat) : Nat := if s = 0 then 0 else (s - 1) % 65535 + 1

theorem cksumFold_eq (fuel s : Nat) (h : s ≤ fuel) : cksumFold fuel s = onesSum s := by
  induction fuel generalizing s with
  | zero => simp [Nat.le_zero.1 h, cksumFold, onesSum]
  | succ fuel ih =>
    unfold cksumFold
    split_ifs with hs
    · unfold onesSum; split_ifs <;> omega
    · rw [ih _ (by omega)]
      unfold onesSum
      split_ifs <;> omega

theorem cksumWords_append {l₁ : List (BitVec 8)} (h : l₁.length % 2 = 0) (l₂ : List (BitVec 8)) :
    cksumWords (l₁ ++ l₂) = cksumWords l₁ + cksumWords l₂ := by
  induction l₁ using cksumWords.induct with
  | case1 => simp [cksumWords]
  | case2 b => simp at h
  | case3 b₀ b₁ rest ih =>
    rw [List.cons_append, List.cons_append, cksumWords, cksumWords,
      ih (by simp only [List.length_cons] at h; omega)]
    omega

@[simp] theorem cksumWords_mem16 (x : BitVec 16) : cksumWords (mem16 x) = x.toNat := by
  have := x.isLt
  simp only [mem16, cksumWords, BitVec.toNat_ofNat]
  omega

/-- A 16-bit field at an even offset adds its value to the sum. -/
theorem cksumWords_field {pre : List (BitVec 8)} (hpre : pre.length % 2 = 0) (x : BitVec 16)
    (post : List (BitVec 8)) :
    cksumWords (pre ++ mem16 x ++ post) = cksumWords pre + x.toNat + cksumWords post := by
  have hlen : (pre ++ mem16 x).length % 2 = 0 := by simp [mem16]; omega
  rw [cksumWords_append hlen, cksumWords_append hpre, cksumWords_mem16]

theorem cksum16_toNat (data : List (BitVec 8)) (init : Nat) :
    (cksum16 data init).toNat = 65535 - onesSum (init + cksumWords data) := by
  have hlt : onesSum (init + cksumWords data) < 65536 := by unfold onesSum; split_ifs <;> omega
  simp only [cksum16, BitVec.toNat_not, BitVec.toNat_ofNat, cksumFold_eq _ _ le_rfl,
    Nat.mod_eq_of_lt hlt]

/-- Adding the complement of a sum's one's-complement value gives negative
zero, `0xffff`. -/
theorem onesSum_complement {s t : Nat} (h : t = s + (65535 - onesSum s)) : onesSum t = 65535 := by
  by_cases hs : s = 0
  · subst hs; subst h; rfl
  · rw [onesSum, if_neg hs] at h
    rw [onesSum, if_neg (by omega)]
    omega

/-- A checksum computed with a zero in its field and then written there, at
an even offset, makes the checksum of the whole zero. -/
theorem cksum16_verify {pre : List (BitVec 8)} (hpre : pre.length % 2 = 0)
    (post : List (BitVec 8)) (init : Nat) :
    cksum16 (pre ++ mem16 (cksum16 (pre ++ mem16 0 ++ post) init) ++ post) init = 0 := by
  apply BitVec.eq_of_toNat_eq
  rw [cksum16_toNat, cksumWords_field hpre, cksum16_toNat, cksumWords_field hpre]
  simp only [BitVec.ofNat_eq_ofNat, BitVec.toNat_ofNat, Nat.zero_mod, Nat.add_zero]
  rw [@onesSum_complement (init + (cksumWords pre + cksumWords post)) _ (by omega)]

end MicroPs.Net
