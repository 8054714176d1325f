import ThetaSketch.Library.LittleEndian

/-! The 128-bit MurmurHash3 of a byte string, and the two hashes taken from it. -/

set_option autoImplicit false

namespace ThetaSketch

structure HashState where
  h1 : UInt64
  h2 : UInt64
  deriving DecidableEq, Repr

namespace MurmurHash3

def rotl64 (x r : UInt64) : UInt64 := (x <<< r) ||| (x >>> (64 - r))

def fmix64 (k : UInt64) : UInt64 :=
  let k := k ^^^ (k >>> 33)
  let k := k * 0xff51afd7ed558ccd
  let k := k ^^^ (k >>> 33)
  let k := k * 0xc4ceb9fe1a85ec53
  k ^^^ (k >>> 33)

def c1 : UInt64 := 0x87c37b91114253d5
def c2 : UInt64 := 0x4cf5ad432745937f

def mixK1 (k1 : UInt64) : UInt64 := rotl64 (k1 * c1) 31 * c2
def mixK2 (k2 : UInt64) : UInt64 := rotl64 (k2 * c2) 33 * c1

def getblock64 (data : List UInt8) (i : ℕ) : UInt64 :=
  UInt64.ofNat (LittleEndian.decode ((data.drop (8 * i)).take 8))

def block (data : List UInt8) (out : HashState) (i : ℕ) : HashState :=
  let h1 := rotl64 (out.h1 ^^^ mixK1 (getblock64 data (i * 2))) 27 + out.h2
  let h1 := h1 * 5 + 0x52dce729
  let h2 := rotl64 (out.h2 ^^^ mixK2 (getblock64 data (i * 2 + 1))) 31 + h1
  ⟨h1, h2 * 5 + 0x38495ab5⟩

/-- The tail bytes xored into one word, byte `i` at bit `8 * i`. -/
def tailWord (tail : List UInt8) : UInt64 :=
  tail.zipIdx.foldl (fun k entry => k ^^^ (entry.1.toUInt64 <<< UInt64.ofNat (8 * entry.2))) 0

/-- The switch over the length of the tail: its cases fall through, so a tail of
more than eight bytes feeds `h2` and a non-empty one feeds `h1`. -/
def tail (bytes : List UInt8) (out : HashState) : HashState :=
  let h2 := if 8 < bytes.length then out.h2 ^^^ mixK2 (tailWord (bytes.drop 8)) else out.h2
  let h1 := if 0 < bytes.length then out.h1 ^^^ mixK1 (tailWord (bytes.take 8)) else out.h1
  ⟨h1, h2⟩

def finalize (lenBytes : UInt64) (out : HashState) : HashState :=
  let h1 := out.h1 ^^^ lenBytes
  let h2 := out.h2 ^^^ lenBytes
  let h1 := h1 + h2
  let h2 := h2 + h1
  let h1 := fmix64 h1
  let h2 := fmix64 h2
  let h1 := h1 + h2
  ⟨h1, h2 + h1⟩

end MurmurHash3

open MurmurHash3 in
def murmurHash3X64 (data : List UInt8) (seed : UInt64) : HashState :=
  let nblocks := data.length / 16
  let out := (List.range nblocks).foldl (block data) ⟨seed, seed⟩
  finalize (UInt64.ofNat data.length) (tail (data.drop (16 * nblocks)) out)

/-- The hash of an input value. The shift makes it fit a signed 64-bit integer. -/
def computeHash (data : List UInt8) (seed : UInt64) : ℕ :=
  ((murmurHash3X64 data seed).h1 >>> 1).toNat

def computeSeedHash (seed : UInt64) : ℕ :=
  ((murmurHash3X64 (LittleEndian.encode 8 seed.toNat) 0).h1 &&& 0xffff).toNat

theorem computeSeedHash_lt (seed : UInt64) : computeSeedHash seed < 2 ^ 16 := by
  unfold computeSeedHash
  rw [UInt64.toNat_and]
  exact Nat.and_lt_two_pow _ (by decide)

end ThetaSketch
