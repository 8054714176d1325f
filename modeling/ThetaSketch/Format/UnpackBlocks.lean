import ThetaSketch.Format.BitPacking

/-! The unpacking routines for blocks of eight values, one for each width.

An entry is `⟨index, assign, step, right, mask, left, type⟩`, in the order of the
statements. A byte that the source does not mask has the mask 255.
-/

set_option autoImplicit false

namespace ThetaSketch

def unpackBits1 : List UnpackOp := [
  ⟨0, .set, .stay, 7, 255, 0, .int⟩, ⟨1, .set, .stay, 6, 1, 0, .int⟩,
  ⟨2, .set, .stay, 5, 1, 0, .int⟩, ⟨3, .set, .stay, 4, 1, 0, .int⟩,
  ⟨4, .set, .stay, 3, 1, 0, .int⟩, ⟨5, .set, .stay, 2, 1, 0, .int⟩,
  ⟨6, .set, .stay, 1, 1, 0, .int⟩, ⟨7, .set, .stay, 0, 1, 0, .int⟩]

def unpackBits2 : List UnpackOp := [
  ⟨0, .set, .stay, 6, 255, 0, .int⟩, ⟨1, .set, .stay, 4, 3, 0, .int⟩,
  ⟨2, .set, .stay, 2, 3, 0, .int⟩, ⟨3, .set, .next, 0, 3, 0, .int⟩,
  ⟨4, .set, .stay, 6, 255, 0, .int⟩, ⟨5, .set, .stay, 4, 3, 0, .int⟩,
  ⟨6, .set, .stay, 2, 3, 0, .int⟩, ⟨7, .set, .stay, 0, 3, 0, .int⟩]

def unpackBits3 : List UnpackOp := [
  ⟨0, .set, .stay, 5, 255, 0, .int⟩, ⟨1, .set, .stay, 2, 7, 0, .int⟩,
  ⟨2, .set, .next, 0, 3, 1, .int⟩, ⟨2, .or, .stay, 7, 255, 0, .int⟩,
  ⟨3, .set, .stay, 4, 7, 0, .int⟩, ⟨4, .set, .stay, 1, 7, 0, .int⟩,
  ⟨5, .set, .next, 0, 1, 2, .int⟩, ⟨5, .or, .stay, 6, 255, 0, .int⟩,
  ⟨6, .set, .stay, 3, 7, 0, .int⟩, ⟨7, .set, .stay, 0, 7, 0, .int⟩]

def unpackBits4 : List UnpackOp := [
  ⟨0, .set, .stay, 4, 255, 0, .int⟩, ⟨1, .set, .next, 0, 15, 0, .int⟩,
  ⟨2, .set, .stay, 4, 255, 0, .int⟩, ⟨3, .set, .next, 0, 15, 0, .int⟩,
  ⟨4, .set, .stay, 4, 255, 0, .int⟩, ⟨5, .set, .next, 0, 15, 0, .int⟩,
  ⟨6, .set, .stay, 4, 255, 0, .int⟩, ⟨7, .set, .stay, 0, 15, 0, .int⟩]

def unpackBits5 : List UnpackOp := [
  ⟨0, .set, .stay, 3, 255, 0, .int⟩,
  ⟨1, .set, .next, 0, 7, 2, .int⟩, ⟨1, .or, .stay, 6, 255, 0, .int⟩,
  ⟨2, .set, .stay, 1, 31, 0, .int⟩,
  ⟨3, .set, .next, 0, 1, 4, .int⟩, ⟨3, .or, .stay, 4, 255, 0, .int⟩,
  ⟨4, .set, .next, 0, 15, 1, .int⟩, ⟨4, .or, .stay, 7, 255, 0, .int⟩,
  ⟨5, .set, .stay, 2, 31, 0, .int⟩,
  ⟨6, .set, .next, 0, 3, 3, .int⟩, ⟨6, .or, .stay, 5, 255, 0, .int⟩,
  ⟨7, .set, .stay, 0, 31, 0, .int⟩]

def unpackBits6 : List UnpackOp := [
  ⟨0, .set, .stay, 2, 255, 0, .int⟩,
  ⟨1, .set, .next, 0, 3, 4, .int⟩, ⟨1, .or, .stay, 4, 255, 0, .int⟩,
  ⟨2, .set, .next, 0, 15, 2, .int⟩, ⟨2, .or, .stay, 6, 255, 0, .int⟩,
  ⟨3, .set, .next, 0, 63, 0, .int⟩,
  ⟨4, .set, .stay, 2, 255, 0, .int⟩,
  ⟨5, .set, .next, 0, 3, 4, .int⟩, ⟨5, .or, .stay, 4, 255, 0, .int⟩,
  ⟨6, .set, .next, 0, 15, 2, .int⟩, ⟨6, .or, .stay, 6, 255, 0, .int⟩,
  ⟨7, .set, .stay, 0, 63, 0, .int⟩]

def unpackBits7 : List UnpackOp := [
  ⟨0, .set, .stay, 1, 255, 0, .int⟩,
  ⟨1, .set, .next, 0, 1, 6, .int⟩, ⟨1, .or, .stay, 2, 255, 0, .int⟩,
  ⟨2, .set, .next, 0, 3, 5, .int⟩, ⟨2, .or, .stay, 3, 255, 0, .int⟩,
  ⟨3, .set, .next, 0, 7, 4, .int⟩, ⟨3, .or, .stay, 4, 255, 0, .int⟩,
  ⟨4, .set, .next, 0, 15, 3, .int⟩, ⟨4, .or, .stay, 5, 255, 0, .int⟩,
  ⟨5, .set, .next, 0, 31, 2, .int⟩, ⟨5, .or, .stay, 6, 255, 0, .int⟩,
  ⟨6, .set, .next, 0, 63, 1, .int⟩, ⟨6, .or, .stay, 7, 255, 0, .int⟩,
  ⟨7, .set, .stay, 0, 127, 0, .int⟩]

def unpackBits8 : List UnpackOp := [
  ⟨0, .set, .next, 0, 255, 0, .int⟩, ⟨1, .set, .next, 0, 255, 0, .int⟩,
  ⟨2, .set, .next, 0, 255, 0, .int⟩, ⟨3, .set, .next, 0, 255, 0, .int⟩,
  ⟨4, .set, .next, 0, 255, 0, .int⟩, ⟨5, .set, .next, 0, 255, 0, .int⟩,
  ⟨6, .set, .next, 0, 255, 0, .int⟩, ⟨7, .set, .stay, 0, 255, 0, .int⟩]

def unpackBits9 : List UnpackOp := [
  ⟨0, .set, .next, 0, 255, 1, .int⟩, ⟨0, .or, .stay, 7, 255, 0, .int⟩,
  ⟨1, .set, .next, 0, 127, 2, .int⟩, ⟨1, .or, .stay, 6, 255, 0, .int⟩,
  ⟨2, .set, .next, 0, 63, 3, .int⟩, ⟨2, .or, .stay, 5, 255, 0, .int⟩,
  ⟨3, .set, .next, 0, 31, 4, .int⟩, ⟨3, .or, .stay, 4, 255, 0, .int⟩,
  ⟨4, .set, .next, 0, 15, 5, .int⟩, ⟨4, .or, .stay, 3, 255, 0, .int⟩,
  ⟨5, .set, .next, 0, 7, 6, .int⟩, ⟨5, .or, .stay, 2, 255, 0, .int⟩,
  ⟨6, .set, .next, 0, 3, 7, .int⟩, ⟨6, .or, .stay, 1, 255, 0, .int⟩,
  ⟨7, .set, .next, 0, 1, 8, .int⟩, ⟨7, .or, .stay, 0, 255, 0, .int⟩]

def unpackBits10 : List UnpackOp := [
  ⟨0, .set, .next, 0, 255, 2, .int⟩, ⟨0, .or, .stay, 6, 255, 0, .int⟩,
  ⟨1, .set, .next, 0, 63, 4, .int⟩, ⟨1, .or, .stay, 4, 255, 0, .int⟩,
  ⟨2, .set, .next, 0, 15, 6, .int⟩, ⟨2, .or, .stay, 2, 255, 0, .int⟩,
  ⟨3, .set, .next, 0, 3, 8, .int⟩, ⟨3, .or, .next, 0, 255, 0, .int⟩,
  ⟨4, .set, .next, 0, 255, 2, .int⟩, ⟨4, .or, .stay, 6, 255, 0, .int⟩,
  ⟨5, .set, .next, 0, 63, 4, .int⟩, ⟨5, .or, .stay, 4, 255, 0, .int⟩,
  ⟨6, .set, .next, 0, 15, 6, .int⟩, ⟨6, .or, .stay, 2, 255, 0, .int⟩,
  ⟨7, .set, .next, 0, 3, 8, .int⟩, ⟨7, .or, .stay, 0, 255, 0, .int⟩]

def unpackBits11 : List UnpackOp := [
  ⟨0, .set, .next, 0, 255, 3, .int⟩, ⟨0, .or, .stay, 5, 255, 0, .int⟩,
  ⟨1, .set, .next, 0, 31, 6, .int⟩, ⟨1, .or, .stay, 2, 255, 0, .int⟩,
  ⟨2, .set, .next, 0, 3, 9, .int⟩, ⟨2, .or, .next, 0, 255, 1, .int⟩,
  ⟨2, .or, .stay, 7, 255, 0, .int⟩,
  ⟨3, .set, .next, 0, 127, 4, .int⟩, ⟨3, .or, .stay, 4, 255, 0, .int⟩,
  ⟨4, .set, .next, 0, 15, 7, .int⟩, ⟨4, .or, .stay, 1, 255, 0, .int⟩,
  ⟨5, .set, .next, 0, 1, 10, .int⟩, ⟨5, .or, .next, 0, 255, 2, .int⟩,
  ⟨5, .or, .stay, 6, 255, 0, .int⟩,
  ⟨6, .set, .next, 0, 63, 5, .int⟩, ⟨6, .or, .stay, 3, 255, 0, .int⟩,
  ⟨7, .set, .next, 0, 7, 8, .int⟩, ⟨7, .or, .stay, 0, 255, 0, .int⟩]

def unpackBits12 : List UnpackOp := [
  ⟨0, .set, .next, 0, 255, 4, .int⟩, ⟨0, .or, .stay, 4, 255, 0, .int⟩,
  ⟨1, .set, .next, 0, 15, 8, .int⟩, ⟨1, .or, .next, 0, 255, 0, .int⟩,
  ⟨2, .set, .next, 0, 255, 4, .int⟩, ⟨2, .or, .stay, 4, 255, 0, .int⟩,
  ⟨3, .set, .next, 0, 15, 8, .int⟩, ⟨3, .or, .next, 0, 255, 0, .int⟩,
  ⟨4, .set, .next, 0, 255, 4, .int⟩, ⟨4, .or, .stay, 4, 255, 0, .int⟩,
  ⟨5, .set, .next, 0, 15, 8, .int⟩, ⟨5, .or, .next, 0, 255, 0, .int⟩,
  ⟨6, .set, .next, 0, 255, 4, .int⟩, ⟨6, .or, .stay, 4, 255, 0, .int⟩,
  ⟨7, .set, .next, 0, 15, 8, .int⟩, ⟨7, .or, .stay, 0, 255, 0, .int⟩]

def unpackBits13 : List UnpackOp := [
  ⟨0, .set, .next, 0, 255, 5, .int⟩, ⟨0, .or, .stay, 3, 255, 0, .int⟩,
  ⟨1, .set, .next, 0, 7, 10, .int⟩, ⟨1, .or, .next, 0, 255, 2, .int⟩,
  ⟨1, .or, .stay, 6, 255, 0, .int⟩,
  ⟨2, .set, .next, 0, 63, 7, .int⟩, ⟨2, .or, .stay, 1, 255, 0, .int⟩,
  ⟨3, .set, .next, 0, 1, 12, .int⟩, ⟨3, .or, .next, 0, 255, 4, .int⟩,
  ⟨3, .or, .stay, 4, 255, 0, .int⟩,
  ⟨4, .set, .next, 0, 15, 9, .int⟩, ⟨4, .or, .next, 0, 255, 1, .int⟩,
  ⟨4, .or, .stay, 7, 255, 0, .int⟩,
  ⟨5, .set, .next, 0, 127, 6, .int⟩, ⟨5, .or, .stay, 2, 255, 0, .int⟩,
  ⟨6, .set, .next, 0, 3, 11, .int⟩, ⟨6, .or, .next, 0, 255, 3, .int⟩,
  ⟨6, .or, .stay, 5, 255, 0, .int⟩,
  ⟨7, .set, .next, 0, 31, 8, .int⟩, ⟨7, .or, .stay, 0, 255, 0, .int⟩]

def unpackBits14 : List UnpackOp := [
  ⟨0, .set, .next, 0, 255, 6, .int⟩, ⟨0, .or, .stay, 2, 255, 0, .int⟩,
  ⟨1, .set, .next, 0, 3, 12, .int⟩, ⟨1, .or, .next, 0, 255, 4, .int⟩,
  ⟨1, .or, .stay, 4, 255, 0, .int⟩,
  ⟨2, .set, .next, 0, 15, 10, .int⟩, ⟨2, .or, .next, 0, 255, 2, .int⟩,
  ⟨2, .or, .stay, 6, 255, 0, .int⟩,
  ⟨3, .set, .next, 0, 63, 8, .int⟩, ⟨3, .or, .next, 0, 255, 0, .int⟩,
  ⟨4, .set, .next, 0, 255, 6, .int⟩, ⟨4, .or, .stay, 2, 255, 0, .int⟩,
  ⟨5, .set, .next, 0, 3, 12, .int⟩, ⟨5, .or, .next, 0, 255, 4, .int⟩,
  ⟨5, .or, .stay, 4, 255, 0, .int⟩,
  ⟨6, .set, .next, 0, 15, 10, .int⟩, ⟨6, .or, .next, 0, 255, 2, .int⟩,
  ⟨6, .or, .stay, 6, 255, 0, .int⟩,
  ⟨7, .set, .next, 0, 63, 8, .int⟩, ⟨7, .or, .stay, 0, 255, 0, .int⟩]

def unpackBits15 : List UnpackOp := [
  ⟨0, .set, .next, 0, 255, 7, .int⟩, ⟨0, .or, .stay, 1, 255, 0, .int⟩,
  ⟨1, .set, .next, 0, 1, 14, .int⟩, ⟨1, .or, .next, 0, 255, 6, .int⟩,
  ⟨1, .or, .stay, 2, 255, 0, .int⟩,
  ⟨2, .set, .next, 0, 3, 13, .int⟩, ⟨2, .or, .next, 0, 255, 5, .int⟩,
  ⟨2, .or, .stay, 3, 255, 0, .int⟩,
  ⟨3, .set, .next, 0, 7, 12, .int⟩, ⟨3, .or, .next, 0, 255, 4, .int⟩,
  ⟨3, .or, .stay, 4, 255, 0, .int⟩,
  ⟨4, .set, .next, 0, 15, 11, .int⟩, ⟨4, .or, .next, 0, 255, 3, .int⟩,
  ⟨4, .or, .stay, 5, 255, 0, .int⟩,
  ⟨5, .set, .next, 0, 31, 10, .int⟩, ⟨5, .or, .next, 0, 255, 2, .int⟩,
  ⟨5, .or, .stay, 6, 255, 0, .int⟩,
  ⟨6, .set, .next, 0, 63, 9, .int⟩, ⟨6, .or, .next, 0, 255, 1, .int⟩,
  ⟨6, .or, .stay, 7, 255, 0, .int⟩,
  ⟨7, .set, .next, 0, 127, 8, .int⟩, ⟨7, .or, .stay, 0, 255, 0, .int⟩]

def unpackBits16 : List UnpackOp := [
  ⟨0, .set, .next, 0, 255, 8, .int⟩, ⟨0, .or, .next, 0, 255, 0, .int⟩,
  ⟨1, .set, .next, 0, 255, 8, .int⟩, ⟨1, .or, .next, 0, 255, 0, .int⟩,
  ⟨2, .set, .next, 0, 255, 8, .int⟩, ⟨2, .or, .next, 0, 255, 0, .int⟩,
  ⟨3, .set, .next, 0, 255, 8, .int⟩, ⟨3, .or, .next, 0, 255, 0, .int⟩,
  ⟨4, .set, .next, 0, 255, 8, .int⟩, ⟨4, .or, .next, 0, 255, 0, .int⟩,
  ⟨5, .set, .next, 0, 255, 8, .int⟩, ⟨5, .or, .next, 0, 255, 0, .int⟩,
  ⟨6, .set, .next, 0, 255, 8, .int⟩, ⟨6, .or, .next, 0, 255, 0, .int⟩,
  ⟨7, .set, .next, 0, 255, 8, .int⟩, ⟨7, .or, .stay, 0, 255, 0, .int⟩]

def unpackBits17 : List UnpackOp := [
  ⟨0, .set, .next, 0, 255, 9, .int⟩, ⟨0, .or, .next, 0, 255, 1, .int⟩,
  ⟨0, .or, .stay, 7, 255, 0, .int⟩,
  ⟨1, .set, .next, 0, 127, 10, .int⟩, ⟨1, .or, .next, 0, 255, 2, .int⟩,
  ⟨1, .or, .stay, 6, 255, 0, .int⟩,
  ⟨2, .set, .next, 0, 63, 11, .int⟩, ⟨2, .or, .next, 0, 255, 3, .int⟩,
  ⟨2, .or, .stay, 5, 255, 0, .int⟩,
  ⟨3, .set, .next, 0, 31, 12, .int⟩, ⟨3, .or, .next, 0, 255, 4, .int⟩,
  ⟨3, .or, .stay, 4, 255, 0, .int⟩,
  ⟨4, .set, .next, 0, 15, 13, .int⟩, ⟨4, .or, .next, 0, 255, 5, .int⟩,
  ⟨4, .or, .stay, 3, 255, 0, .int⟩,
  ⟨5, .set, .next, 0, 7, 14, .int⟩, ⟨5, .or, .next, 0, 255, 6, .int⟩,
  ⟨5, .or, .stay, 2, 255, 0, .int⟩,
  ⟨6, .set, .next, 0, 3, 15, .int⟩, ⟨6, .or, .next, 0, 255, 7, .int⟩,
  ⟨6, .or, .stay, 1, 255, 0, .int⟩,
  ⟨7, .set, .next, 0, 1, 16, .int⟩, ⟨7, .or, .next, 0, 255, 8, .int⟩,
  ⟨7, .or, .stay, 0, 255, 0, .int⟩]

def unpackBits18 : List UnpackOp := [
  ⟨0, .set, .next, 0, 255, 10, .int⟩, ⟨0, .or, .next, 0, 255, 2, .int⟩,
  ⟨0, .or, .stay, 6, 255, 0, .int⟩,
  ⟨1, .set, .next, 0, 63, 12, .int⟩, ⟨1, .or, .next, 0, 255, 4, .int⟩,
  ⟨1, .or, .stay, 4, 255, 0, .int⟩,
  ⟨2, .set, .next, 0, 15, 14, .int⟩, ⟨2, .or, .next, 0, 255, 6, .int⟩,
  ⟨2, .or, .stay, 2, 255, 0, .int⟩,
  ⟨3, .set, .next, 0, 3, 16, .int⟩, ⟨3, .or, .next, 0, 255, 8, .int⟩,
  ⟨3, .or, .next, 0, 255, 0, .int⟩,
  ⟨4, .set, .next, 0, 255, 10, .int⟩, ⟨4, .or, .next, 0, 255, 2, .int⟩,
  ⟨4, .or, .stay, 6, 255, 0, .int⟩,
  ⟨5, .set, .next, 0, 63, 12, .int⟩, ⟨5, .or, .next, 0, 255, 4, .int⟩,
  ⟨5, .or, .stay, 4, 255, 0, .int⟩,
  ⟨6, .set, .next, 0, 15, 14, .int⟩, ⟨6, .or, .next, 0, 255, 6, .int⟩,
  ⟨6, .or, .stay, 2, 255, 0, .int⟩,
  ⟨7, .set, .next, 0, 3, 16, .int⟩, ⟨7, .or, .next, 0, 255, 8, .int⟩,
  ⟨7, .or, .stay, 0, 255, 0, .int⟩]

def unpackBits19 : List UnpackOp := [
  ⟨0, .set, .next, 0, 255, 11, .int⟩, ⟨0, .or, .next, 0, 255, 3, .int⟩,
  ⟨0, .or, .stay, 5, 255, 0, .int⟩,
  ⟨1, .set, .next, 0, 31, 14, .int⟩, ⟨1, .or, .next, 0, 255, 6, .int⟩,
  ⟨1, .or, .stay, 2, 255, 0, .int⟩,
  ⟨2, .set, .next, 0, 3, 17, .int⟩, ⟨2, .or, .next, 0, 255, 9, .int⟩,
  ⟨2, .or, .next, 0, 255, 1, .int⟩, ⟨2, .or, .stay, 7, 255, 0, .int⟩,
  ⟨3, .set, .next, 0, 127, 12, .int⟩, ⟨3, .or, .next, 0, 255, 4, .int⟩,
  ⟨3, .or, .stay, 4, 255, 0, .int⟩,
  ⟨4, .set, .next, 0, 15, 15, .int⟩, ⟨4, .or, .next, 0, 255, 7, .int⟩,
  ⟨4, .or, .stay, 1, 255, 0, .int⟩,
  ⟨5, .set, .next, 0, 1, 18, .int⟩, ⟨5, .or, .next, 0, 255, 10, .int⟩,
  ⟨5, .or, .next, 0, 255, 2, .int⟩, ⟨5, .or, .stay, 6, 255, 0, .int⟩,
  ⟨6, .set, .next, 0, 63, 13, .int⟩, ⟨6, .or, .next, 0, 255, 5, .int⟩,
  ⟨6, .or, .stay, 3, 255, 0, .int⟩,
  ⟨7, .set, .next, 0, 7, 16, .int⟩, ⟨7, .or, .next, 0, 255, 8, .int⟩,
  ⟨7, .or, .stay, 0, 255, 0, .int⟩]

def unpackBits20 : List UnpackOp := [
  ⟨0, .set, .next, 0, 255, 12, .int⟩, ⟨0, .or, .next, 0, 255, 4, .int⟩,
  ⟨0, .or, .stay, 4, 255, 0, .int⟩,
  ⟨1, .set, .next, 0, 15, 16, .int⟩, ⟨1, .or, .next, 0, 255, 8, .int⟩,
  ⟨1, .or, .next, 0, 255, 0, .int⟩,
  ⟨2, .set, .next, 0, 255, 12, .int⟩, ⟨2, .or, .next, 0, 255, 4, .int⟩,
  ⟨2, .or, .stay, 4, 255, 0, .int⟩,
  ⟨3, .set, .next, 0, 15, 16, .int⟩, ⟨3, .or, .next, 0, 255, 8, .int⟩,
  ⟨3, .or, .next, 0, 255, 0, .int⟩,
  ⟨4, .set, .next, 0, 255, 12, .int⟩, ⟨4, .or, .next, 0, 255, 4, .int⟩,
  ⟨4, .or, .stay, 4, 255, 0, .int⟩,
  ⟨5, .set, .next, 0, 15, 16, .int⟩, ⟨5, .or, .next, 0, 255, 8, .int⟩,
  ⟨5, .or, .next, 0, 255, 0, .int⟩,
  ⟨6, .set, .next, 0, 255, 12, .int⟩, ⟨6, .or, .next, 0, 255, 4, .int⟩,
  ⟨6, .or, .stay, 4, 255, 0, .int⟩,
  ⟨7, .set, .next, 0, 15, 16, .int⟩, ⟨7, .or, .next, 0, 255, 8, .int⟩,
  ⟨7, .or, .stay, 0, 255, 0, .int⟩]

def unpackBits21 : List UnpackOp := [
  ⟨0, .set, .next, 0, 255, 13, .int⟩, ⟨0, .or, .next, 0, 255, 5, .int⟩,
  ⟨0, .or, .stay, 3, 255, 0, .int⟩,
  ⟨1, .set, .next, 0, 7, 18, .int⟩, ⟨1, .or, .next, 0, 255, 10, .int⟩,
  ⟨1, .or, .next, 0, 255, 2, .int⟩, ⟨1, .or, .stay, 6, 255, 0, .int⟩,
  ⟨2, .set, .next, 0, 63, 15, .int⟩, ⟨2, .or, .next, 0, 255, 7, .int⟩,
  ⟨2, .or, .stay, 1, 255, 0, .int⟩,
  ⟨3, .set, .next, 0, 1, 20, .int⟩, ⟨3, .or, .next, 0, 255, 12, .int⟩,
  ⟨3, .or, .next, 0, 255, 4, .int⟩, ⟨3, .or, .stay, 4, 255, 0, .int⟩,
  ⟨4, .set, .next, 0, 15, 17, .int⟩, ⟨4, .or, .next, 0, 255, 9, .int⟩,
  ⟨4, .or, .next, 0, 255, 1, .int⟩, ⟨4, .or, .stay, 7, 255, 0, .int⟩,
  ⟨5, .set, .next, 0, 127, 14, .int⟩, ⟨5, .or, .next, 0, 255, 6, .int⟩,
  ⟨5, .or, .stay, 2, 255, 0, .int⟩,
  ⟨6, .set, .next, 0, 3, 19, .int⟩, ⟨6, .or, .next, 0, 255, 11, .int⟩,
  ⟨6, .or, .next, 0, 255, 3, .int⟩, ⟨6, .or, .stay, 5, 255, 0, .int⟩,
  ⟨7, .set, .next, 0, 31, 16, .int⟩, ⟨7, .or, .next, 0, 255, 8, .int⟩,
  ⟨7, .or, .stay, 0, 255, 0, .int⟩]

def unpackBits22 : List UnpackOp := [
  ⟨0, .set, .next, 0, 255, 14, .int⟩, ⟨0, .or, .next, 0, 255, 6, .int⟩,
  ⟨0, .or, .stay, 2, 255, 0, .int⟩,
  ⟨1, .set, .next, 0, 3, 20, .int⟩, ⟨1, .or, .next, 0, 255, 12, .int⟩,
  ⟨1, .or, .next, 0, 255, 4, .int⟩, ⟨1, .or, .stay, 4, 255, 0, .int⟩,
  ⟨2, .set, .next, 0, 15, 18, .int⟩, ⟨2, .or, .next, 0, 255, 10, .int⟩,
  ⟨2, .or, .next, 0, 255, 2, .int⟩, ⟨2, .or, .stay, 6, 255, 0, .int⟩,
  ⟨3, .set, .next, 0, 63, 16, .int⟩, ⟨3, .or, .next, 0, 255, 8, .int⟩,
  ⟨3, .or, .next, 0, 255, 0, .int⟩,
  ⟨4, .set, .next, 0, 255, 14, .int⟩, ⟨4, .or, .next, 0, 255, 6, .int⟩,
  ⟨4, .or, .stay, 2, 255, 0, .int⟩,
  ⟨5, .set, .next, 0, 3, 20, .int⟩, ⟨5, .or, .next, 0, 255, 12, .int⟩,
  ⟨5, .or, .next, 0, 255, 4, .int⟩, ⟨5, .or, .stay, 4, 255, 0, .int⟩,
  ⟨6, .set, .next, 0, 15, 18, .int⟩, ⟨6, .or, .next, 0, 255, 10, .int⟩,
  ⟨6, .or, .next, 0, 255, 2, .int⟩, ⟨6, .or, .stay, 6, 255, 0, .int⟩,
  ⟨7, .set, .next, 0, 63, 16, .int⟩, ⟨7, .or, .next, 0, 255, 8, .int⟩,
  ⟨7, .or, .stay, 0, 255, 0, .int⟩]

def unpackBits23 : List UnpackOp := [
  ⟨0, .set, .next, 0, 255, 15, .int⟩, ⟨0, .or, .next, 0, 255, 7, .int⟩,
  ⟨0, .or, .stay, 1, 255, 0, .int⟩,
  ⟨1, .set, .next, 0, 1, 22, .int⟩, ⟨1, .or, .next, 0, 255, 14, .int⟩,
  ⟨1, .or, .next, 0, 255, 6, .int⟩, ⟨1, .or, .stay, 2, 255, 0, .int⟩,
  ⟨2, .set, .next, 0, 3, 21, .int⟩, ⟨2, .or, .next, 0, 255, 13, .int⟩,
  ⟨2, .or, .next, 0, 255, 5, .int⟩, ⟨2, .or, .stay, 3, 255, 0, .int⟩,
  ⟨3, .set, .next, 0, 7, 20, .int⟩, ⟨3, .or, .next, 0, 255, 12, .int⟩,
  ⟨3, .or, .next, 0, 255, 4, .int⟩, ⟨3, .or, .stay, 4, 255, 0, .int⟩,
  ⟨4, .set, .next, 0, 15, 19, .int⟩, ⟨4, .or, .next, 0, 255, 11, .int⟩,
  ⟨4, .or, .next, 0, 255, 3, .int⟩, ⟨4, .or, .stay, 5, 255, 0, .int⟩,
  ⟨5, .set, .next, 0, 31, 18, .int⟩, ⟨5, .or, .next, 0, 255, 10, .int⟩,
  ⟨5, .or, .next, 0, 255, 2, .int⟩, ⟨5, .or, .stay, 6, 255, 0, .int⟩,
  ⟨6, .set, .next, 0, 63, 17, .int⟩, ⟨6, .or, .next, 0, 255, 9, .int⟩,
  ⟨6, .or, .next, 0, 255, 1, .int⟩, ⟨6, .or, .stay, 7, 255, 0, .int⟩,
  ⟨7, .set, .next, 0, 127, 16, .int⟩, ⟨7, .or, .next, 0, 255, 8, .int⟩,
  ⟨7, .or, .stay, 0, 255, 0, .int⟩]

def unpackBits24 : List UnpackOp := [
  ⟨0, .set, .next, 0, 255, 16, .int⟩, ⟨0, .or, .next, 0, 255, 8, .int⟩,
  ⟨0, .or, .next, 0, 255, 0, .int⟩, ⟨1, .set, .next, 0, 255, 16, .int⟩,
  ⟨1, .or, .next, 0, 255, 8, .int⟩, ⟨1, .or, .next, 0, 255, 0, .int⟩,
  ⟨2, .set, .next, 0, 255, 16, .int⟩, ⟨2, .or, .next, 0, 255, 8, .int⟩,
  ⟨2, .or, .next, 0, 255, 0, .int⟩, ⟨3, .set, .next, 0, 255, 16, .int⟩,
  ⟨3, .or, .next, 0, 255, 8, .int⟩, ⟨3, .or, .next, 0, 255, 0, .int⟩,
  ⟨4, .set, .next, 0, 255, 16, .int⟩, ⟨4, .or, .next, 0, 255, 8, .int⟩,
  ⟨4, .or, .next, 0, 255, 0, .int⟩, ⟨5, .set, .next, 0, 255, 16, .int⟩,
  ⟨5, .or, .next, 0, 255, 8, .int⟩, ⟨5, .or, .next, 0, 255, 0, .int⟩,
  ⟨6, .set, .next, 0, 255, 16, .int⟩, ⟨6, .or, .next, 0, 255, 8, .int⟩,
  ⟨6, .or, .next, 0, 255, 0, .int⟩, ⟨7, .set, .next, 0, 255, 16, .int⟩,
  ⟨7, .or, .next, 0, 255, 8, .int⟩, ⟨7, .or, .stay, 0, 255, 0, .int⟩]

def unpackBits25 : List UnpackOp := [
  ⟨0, .set, .next, 0, 255, 17, .int⟩, ⟨0, .or, .next, 0, 255, 9, .int⟩,
  ⟨0, .or, .next, 0, 255, 1, .int⟩, ⟨0, .or, .stay, 7, 255, 0, .int⟩,
  ⟨1, .set, .next, 0, 127, 18, .int⟩, ⟨1, .or, .next, 0, 255, 10, .int⟩,
  ⟨1, .or, .next, 0, 255, 2, .int⟩, ⟨1, .or, .stay, 6, 255, 0, .int⟩,
  ⟨2, .set, .next, 0, 63, 19, .int⟩, ⟨2, .or, .next, 0, 255, 11, .int⟩,
  ⟨2, .or, .next, 0, 255, 3, .int⟩, ⟨2, .or, .stay, 5, 255, 0, .int⟩,
  ⟨3, .set, .next, 0, 31, 20, .int⟩, ⟨3, .or, .next, 0, 255, 12, .int⟩,
  ⟨3, .or, .next, 0, 255, 4, .int⟩, ⟨3, .or, .stay, 4, 255, 0, .int⟩,
  ⟨4, .set, .next, 0, 15, 21, .int⟩, ⟨4, .or, .next, 0, 255, 13, .int⟩,
  ⟨4, .or, .next, 0, 255, 5, .int⟩, ⟨4, .or, .stay, 3, 255, 0, .int⟩,
  ⟨5, .set, .next, 0, 7, 22, .int⟩, ⟨5, .or, .next, 0, 255, 14, .int⟩,
  ⟨5, .or, .next, 0, 255, 6, .int⟩, ⟨5, .or, .stay, 2, 255, 0, .int⟩,
  ⟨6, .set, .next, 0, 3, 23, .int⟩, ⟨6, .or, .next, 0, 255, 15, .int⟩,
  ⟨6, .or, .next, 0, 255, 7, .int⟩, ⟨6, .or, .stay, 1, 255, 0, .int⟩,
  ⟨7, .set, .next, 0, 1, 24, .u64⟩, ⟨7, .or, .next, 0, 255, 16, .int⟩,
  ⟨7, .or, .next, 0, 255, 8, .int⟩, ⟨7, .or, .stay, 0, 255, 0, .int⟩]

def unpackBits26 : List UnpackOp := [
  ⟨0, .set, .next, 0, 255, 18, .int⟩, ⟨0, .or, .next, 0, 255, 10, .int⟩,
  ⟨0, .or, .next, 0, 255, 2, .int⟩, ⟨0, .or, .stay, 6, 255, 0, .int⟩,
  ⟨1, .set, .next, 0, 63, 20, .int⟩, ⟨1, .or, .next, 0, 255, 12, .int⟩,
  ⟨1, .or, .next, 0, 255, 4, .int⟩, ⟨1, .or, .stay, 4, 255, 0, .int⟩,
  ⟨2, .set, .next, 0, 15, 22, .int⟩, ⟨2, .or, .next, 0, 255, 14, .int⟩,
  ⟨2, .or, .next, 0, 255, 6, .int⟩, ⟨2, .or, .stay, 2, 255, 0, .int⟩,
  ⟨3, .set, .next, 0, 3, 24, .u64⟩, ⟨3, .or, .next, 0, 255, 16, .int⟩,
  ⟨3, .or, .next, 0, 255, 8, .int⟩, ⟨3, .or, .next, 0, 255, 0, .int⟩,
  ⟨4, .set, .next, 0, 255, 18, .int⟩, ⟨4, .or, .next, 0, 255, 10, .int⟩,
  ⟨4, .or, .next, 0, 255, 2, .int⟩, ⟨4, .or, .stay, 6, 255, 0, .int⟩,
  ⟨5, .set, .next, 0, 63, 20, .int⟩, ⟨5, .or, .next, 0, 255, 12, .int⟩,
  ⟨5, .or, .next, 0, 255, 4, .int⟩, ⟨5, .or, .stay, 4, 255, 0, .int⟩,
  ⟨6, .set, .next, 0, 15, 22, .int⟩, ⟨6, .or, .next, 0, 255, 14, .int⟩,
  ⟨6, .or, .next, 0, 255, 6, .int⟩, ⟨6, .or, .stay, 2, 255, 0, .int⟩,
  ⟨7, .set, .next, 0, 3, 24, .u64⟩, ⟨7, .or, .next, 0, 255, 16, .int⟩,
  ⟨7, .or, .next, 0, 255, 8, .int⟩, ⟨7, .or, .stay, 0, 255, 0, .int⟩]

def unpackBits27 : List UnpackOp := [
  ⟨0, .set, .next, 0, 255, 19, .int⟩, ⟨0, .or, .next, 0, 255, 11, .int⟩,
  ⟨0, .or, .next, 0, 255, 3, .int⟩, ⟨0, .or, .stay, 5, 255, 0, .int⟩,
  ⟨1, .set, .next, 0, 31, 22, .int⟩, ⟨1, .or, .next, 0, 255, 14, .int⟩,
  ⟨1, .or, .next, 0, 255, 6, .int⟩, ⟨1, .or, .stay, 2, 255, 0, .int⟩,
  ⟨2, .set, .next, 0, 3, 25, .u64⟩, ⟨2, .or, .next, 0, 255, 17, .int⟩,
  ⟨2, .or, .next, 0, 255, 9, .int⟩, ⟨2, .or, .next, 0, 255, 1, .int⟩,
  ⟨2, .or, .stay, 7, 255, 0, .int⟩,
  ⟨3, .set, .next, 0, 127, 20, .int⟩, ⟨3, .or, .next, 0, 255, 12, .int⟩,
  ⟨3, .or, .next, 0, 255, 4, .int⟩, ⟨3, .or, .stay, 4, 255, 0, .int⟩,
  ⟨4, .set, .next, 0, 15, 23, .int⟩, ⟨4, .or, .next, 0, 255, 15, .int⟩,
  ⟨4, .or, .next, 0, 255, 7, .int⟩, ⟨4, .or, .stay, 1, 255, 0, .int⟩,
  ⟨5, .set, .next, 0, 1, 26, .u64⟩, ⟨5, .or, .next, 0, 255, 18, .int⟩,
  ⟨5, .or, .next, 0, 255, 10, .int⟩, ⟨5, .or, .next, 0, 255, 2, .int⟩,
  ⟨5, .or, .stay, 6, 255, 0, .int⟩,
  ⟨6, .set, .next, 0, 63, 21, .int⟩, ⟨6, .or, .next, 0, 255, 13, .int⟩,
  ⟨6, .or, .next, 0, 255, 5, .int⟩, ⟨6, .or, .stay, 3, 255, 0, .int⟩,
  ⟨7, .set, .next, 0, 7, 24, .u64⟩, ⟨7, .or, .next, 0, 255, 16, .int⟩,
  ⟨7, .or, .next, 0, 255, 8, .int⟩, ⟨7, .or, .stay, 0, 255, 0, .int⟩]

def unpackBits28 : List UnpackOp := [
  ⟨0, .set, .next, 0, 255, 20, .int⟩, ⟨0, .or, .next, 0, 255, 12, .int⟩,
  ⟨0, .or, .next, 0, 255, 4, .int⟩, ⟨0, .or, .stay, 4, 255, 0, .int⟩,
  ⟨1, .set, .next, 0, 15, 24, .u64⟩, ⟨1, .or, .next, 0, 255, 16, .int⟩,
  ⟨1, .or, .next, 0, 255, 8, .int⟩, ⟨1, .or, .next, 0, 255, 0, .int⟩,
  ⟨2, .set, .next, 0, 255, 20, .int⟩, ⟨2, .or, .next, 0, 255, 12, .int⟩,
  ⟨2, .or, .next, 0, 255, 4, .int⟩, ⟨2, .or, .stay, 4, 255, 0, .int⟩,
  ⟨3, .set, .next, 0, 15, 24, .u64⟩, ⟨3, .or, .next, 0, 255, 16, .int⟩,
  ⟨3, .or, .next, 0, 255, 8, .int⟩, ⟨3, .or, .next, 0, 255, 0, .int⟩,
  ⟨4, .set, .next, 0, 255, 20, .int⟩, ⟨4, .or, .next, 0, 255, 12, .int⟩,
  ⟨4, .or, .next, 0, 255, 4, .int⟩, ⟨4, .or, .stay, 4, 255, 0, .int⟩,
  ⟨5, .set, .next, 0, 15, 24, .u64⟩, ⟨5, .or, .next, 0, 255, 16, .int⟩,
  ⟨5, .or, .next, 0, 255, 8, .int⟩, ⟨5, .or, .next, 0, 255, 0, .int⟩,
  ⟨6, .set, .next, 0, 255, 20, .int⟩, ⟨6, .or, .next, 0, 255, 12, .int⟩,
  ⟨6, .or, .next, 0, 255, 4, .int⟩, ⟨6, .or, .stay, 4, 255, 0, .int⟩,
  ⟨7, .set, .next, 0, 15, 24, .u64⟩, ⟨7, .or, .next, 0, 255, 16, .int⟩,
  ⟨7, .or, .next, 0, 255, 8, .int⟩, ⟨7, .or, .stay, 0, 255, 0, .int⟩]

def unpackBits29 : List UnpackOp := [
  ⟨0, .set, .next, 0, 255, 21, .int⟩, ⟨0, .or, .next, 0, 255, 13, .int⟩,
  ⟨0, .or, .next, 0, 255, 5, .int⟩, ⟨0, .or, .stay, 3, 255, 0, .int⟩,
  ⟨1, .set, .next, 0, 7, 26, .u64⟩, ⟨1, .or, .next, 0, 255, 18, .int⟩,
  ⟨1, .or, .next, 0, 255, 10, .int⟩, ⟨1, .or, .next, 0, 255, 2, .int⟩,
  ⟨1, .or, .stay, 6, 255, 0, .int⟩,
  ⟨2, .set, .next, 0, 63, 23, .int⟩, ⟨2, .or, .next, 0, 255, 15, .int⟩,
  ⟨2, .or, .next, 0, 255, 7, .int⟩, ⟨2, .or, .stay, 1, 255, 0, .int⟩,
  ⟨3, .set, .next, 0, 1, 28, .u64⟩, ⟨3, .or, .next, 0, 255, 20, .int⟩,
  ⟨3, .or, .next, 0, 255, 12, .int⟩, ⟨3, .or, .next, 0, 255, 4, .int⟩,
  ⟨3, .or, .stay, 4, 255, 0, .int⟩,
  ⟨4, .set, .next, 0, 15, 25, .u64⟩, ⟨4, .or, .next, 0, 255, 17, .int⟩,
  ⟨4, .or, .next, 0, 255, 9, .int⟩, ⟨4, .or, .next, 0, 255, 1, .int⟩,
  ⟨4, .or, .stay, 7, 255, 0, .int⟩,
  ⟨5, .set, .next, 0, 127, 22, .int⟩, ⟨5, .or, .next, 0, 255, 14, .int⟩,
  ⟨5, .or, .next, 0, 255, 6, .int⟩, ⟨5, .or, .stay, 2, 255, 0, .int⟩,
  ⟨6, .set, .next, 0, 3, 27, .u64⟩, ⟨6, .or, .next, 0, 255, 19, .int⟩,
  ⟨6, .or, .next, 0, 255, 11, .int⟩, ⟨6, .or, .next, 0, 255, 3, .int⟩,
  ⟨6, .or, .stay, 5, 255, 0, .int⟩,
  ⟨7, .set, .next, 0, 31, 24, .u64⟩, ⟨7, .or, .next, 0, 255, 16, .int⟩,
  ⟨7, .or, .next, 0, 255, 8, .int⟩, ⟨7, .or, .stay, 0, 255, 0, .int⟩]

def unpackBits30 : List UnpackOp := [
  ⟨0, .set, .next, 0, 255, 22, .int⟩, ⟨0, .or, .next, 0, 255, 14, .int⟩,
  ⟨0, .or, .next, 0, 255, 6, .int⟩, ⟨0, .or, .stay, 2, 255, 0, .int⟩,
  ⟨1, .set, .next, 0, 3, 28, .u64⟩, ⟨1, .or, .next, 0, 255, 20, .int⟩,
  ⟨1, .or, .next, 0, 255, 12, .int⟩, ⟨1, .or, .next, 0, 255, 4, .int⟩,
  ⟨1, .or, .stay, 4, 255, 0, .int⟩,
  ⟨2, .set, .next, 0, 15, 26, .u64⟩, ⟨2, .or, .next, 0, 255, 18, .int⟩,
  ⟨2, .or, .next, 0, 255, 10, .int⟩, ⟨2, .or, .next, 0, 255, 2, .int⟩,
  ⟨2, .or, .stay, 6, 255, 0, .int⟩,
  ⟨3, .set, .next, 0, 63, 24, .u64⟩, ⟨3, .or, .next, 0, 255, 16, .int⟩,
  ⟨3, .or, .next, 0, 255, 8, .int⟩, ⟨3, .or, .next, 0, 255, 0, .int⟩,
  ⟨4, .set, .next, 0, 255, 22, .int⟩, ⟨4, .or, .next, 0, 255, 14, .int⟩,
  ⟨4, .or, .next, 0, 255, 6, .int⟩, ⟨4, .or, .stay, 2, 255, 0, .int⟩,
  ⟨5, .set, .next, 0, 3, 28, .u64⟩, ⟨5, .or, .next, 0, 255, 20, .int⟩,
  ⟨5, .or, .next, 0, 255, 12, .int⟩, ⟨5, .or, .next, 0, 255, 4, .int⟩,
  ⟨5, .or, .stay, 4, 255, 0, .int⟩,
  ⟨6, .set, .next, 0, 15, 26, .u64⟩, ⟨6, .or, .next, 0, 255, 18, .int⟩,
  ⟨6, .or, .next, 0, 255, 10, .int⟩, ⟨6, .or, .next, 0, 255, 2, .int⟩,
  ⟨6, .or, .stay, 6, 255, 0, .int⟩,
  ⟨7, .set, .next, 0, 63, 24, .u64⟩, ⟨7, .or, .next, 0, 255, 16, .int⟩,
  ⟨7, .or, .next, 0, 255, 8, .int⟩, ⟨7, .or, .stay, 0, 255, 0, .int⟩]

def unpackBits31 : List UnpackOp := [
  ⟨0, .set, .next, 0, 255, 23, .int⟩, ⟨0, .or, .next, 0, 255, 15, .int⟩,
  ⟨0, .or, .next, 0, 255, 7, .int⟩, ⟨0, .or, .stay, 1, 255, 0, .int⟩,
  ⟨1, .set, .next, 0, 1, 30, .u64⟩, ⟨1, .or, .next, 0, 255, 22, .int⟩,
  ⟨1, .or, .next, 0, 255, 14, .int⟩, ⟨1, .or, .next, 0, 255, 6, .int⟩,
  ⟨1, .or, .stay, 2, 255, 0, .int⟩,
  ⟨2, .set, .next, 0, 3, 29, .u64⟩, ⟨2, .or, .next, 0, 255, 21, .int⟩,
  ⟨2, .or, .next, 0, 255, 13, .int⟩, ⟨2, .or, .next, 0, 255, 5, .int⟩,
  ⟨2, .or, .stay, 3, 255, 0, .int⟩,
  ⟨3, .set, .next, 0, 7, 28, .u64⟩, ⟨3, .or, .next, 0, 255, 20, .int⟩,
  ⟨3, .or, .next, 0, 255, 12, .int⟩, ⟨3, .or, .next, 0, 255, 4, .int⟩,
  ⟨3, .or, .stay, 4, 255, 0, .int⟩,
  ⟨4, .set, .next, 0, 15, 27, .u64⟩, ⟨4, .or, .next, 0, 255, 19, .int⟩,
  ⟨4, .or, .next, 0, 255, 11, .int⟩, ⟨4, .or, .next, 0, 255, 3, .int⟩,
  ⟨4, .or, .stay, 5, 255, 0, .int⟩,
  ⟨5, .set, .next, 0, 31, 26, .u64⟩, ⟨5, .or, .next, 0, 255, 18, .int⟩,
  ⟨5, .or, .next, 0, 255, 10, .int⟩, ⟨5, .or, .next, 0, 255, 2, .int⟩,
  ⟨5, .or, .stay, 6, 255, 0, .int⟩,
  ⟨6, .set, .next, 0, 63, 25, .u64⟩, ⟨6, .or, .next, 0, 255, 17, .int⟩,
  ⟨6, .or, .next, 0, 255, 9, .int⟩, ⟨6, .or, .next, 0, 255, 1, .int⟩,
  ⟨6, .or, .stay, 7, 255, 0, .int⟩,
  ⟨7, .set, .next, 0, 127, 24, .u64⟩, ⟨7, .or, .next, 0, 255, 16, .int⟩,
  ⟨7, .or, .next, 0, 255, 8, .int⟩, ⟨7, .or, .stay, 0, 255, 0, .int⟩]

def unpackBits32 : List UnpackOp := [
  ⟨0, .set, .next, 0, 255, 24, .u64⟩, ⟨0, .or, .next, 0, 255, 16, .int⟩,
  ⟨0, .or, .next, 0, 255, 8, .int⟩, ⟨0, .or, .next, 0, 255, 0, .int⟩,
  ⟨1, .set, .next, 0, 255, 24, .u64⟩, ⟨1, .or, .next, 0, 255, 16, .int⟩,
  ⟨1, .or, .next, 0, 255, 8, .int⟩, ⟨1, .or, .next, 0, 255, 0, .int⟩,
  ⟨2, .set, .next, 0, 255, 24, .u64⟩, ⟨2, .or, .next, 0, 255, 16, .int⟩,
  ⟨2, .or, .next, 0, 255, 8, .int⟩, ⟨2, .or, .next, 0, 255, 0, .int⟩,
  ⟨3, .set, .next, 0, 255, 24, .u64⟩, ⟨3, .or, .next, 0, 255, 16, .int⟩,
  ⟨3, .or, .next, 0, 255, 8, .int⟩, ⟨3, .or, .next, 0, 255, 0, .int⟩,
  ⟨4, .set, .next, 0, 255, 24, .u64⟩, ⟨4, .or, .next, 0, 255, 16, .int⟩,
  ⟨4, .or, .next, 0, 255, 8, .int⟩, ⟨4, .or, .next, 0, 255, 0, .int⟩,
  ⟨5, .set, .next, 0, 255, 24, .u64⟩, ⟨5, .or, .next, 0, 255, 16, .int⟩,
  ⟨5, .or, .next, 0, 255, 8, .int⟩, ⟨5, .or, .next, 0, 255, 0, .int⟩,
  ⟨6, .set, .next, 0, 255, 24, .u64⟩, ⟨6, .or, .next, 0, 255, 16, .int⟩,
  ⟨6, .or, .next, 0, 255, 8, .int⟩, ⟨6, .or, .next, 0, 255, 0, .int⟩,
  ⟨7, .set, .next, 0, 255, 24, .u64⟩, ⟨7, .or, .next, 0, 255, 16, .int⟩,
  ⟨7, .or, .next, 0, 255, 8, .int⟩, ⟨7, .or, .stay, 0, 255, 0, .int⟩]

def unpackBits33 : List UnpackOp := [
  ⟨0, .set, .next, 0, 255, 25, .u64⟩, ⟨0, .or, .next, 0, 255, 17, .int⟩,
  ⟨0, .or, .next, 0, 255, 9, .int⟩, ⟨0, .or, .next, 0, 255, 1, .int⟩,
  ⟨0, .or, .stay, 7, 255, 0, .int⟩,
  ⟨1, .set, .next, 0, 127, 26, .u64⟩, ⟨1, .or, .next, 0, 255, 18, .int⟩,
  ⟨1, .or, .next, 0, 255, 10, .int⟩, ⟨1, .or, .next, 0, 255, 2, .int⟩,
  ⟨1, .or, .stay, 6, 255, 0, .int⟩,
  ⟨2, .set, .next, 0, 63, 27, .u64⟩, ⟨2, .or, .next, 0, 255, 19, .int⟩,
  ⟨2, .or, .next, 0, 255, 11, .int⟩, ⟨2, .or, .next, 0, 255, 3, .int⟩,
  ⟨2, .or, .stay, 5, 255, 0, .int⟩,
  ⟨3, .set, .next, 0, 31, 28, .u64⟩, ⟨3, .or, .next, 0, 255, 20, .int⟩,
  ⟨3, .or, .next, 0, 255, 12, .int⟩, ⟨3, .or, .next, 0, 255, 4, .int⟩,
  ⟨3, .or, .stay, 4, 255, 0, .int⟩,
  ⟨4, .set, .next, 0, 15, 29, .u64⟩, ⟨4, .or, .next, 0, 255, 21, .int⟩,
  ⟨4, .or, .next, 0, 255, 13, .int⟩, ⟨4, .or, .next, 0, 255, 5, .int⟩,
  ⟨4, .or, .stay, 3, 255, 0, .int⟩,
  ⟨5, .set, .next, 0, 7, 30, .u64⟩, ⟨5, .or, .next, 0, 255, 22, .int⟩,
  ⟨5, .or, .next, 0, 255, 14, .int⟩, ⟨5, .or, .next, 0, 255, 6, .int⟩,
  ⟨5, .or, .stay, 2, 255, 0, .int⟩,
  ⟨6, .set, .next, 0, 3, 31, .u64⟩, ⟨6, .or, .next, 0, 255, 23, .int⟩,
  ⟨6, .or, .next, 0, 255, 15, .int⟩, ⟨6, .or, .next, 0, 255, 7, .int⟩,
  ⟨6, .or, .stay, 1, 255, 0, .int⟩,
  ⟨7, .set, .next, 0, 1, 32, .u64⟩, ⟨7, .or, .next, 0, 255, 24, .int⟩,
  ⟨7, .or, .next, 0, 255, 16, .int⟩, ⟨7, .or, .next, 0, 255, 8, .int⟩,
  ⟨7, .or, .stay, 0, 255, 0, .int⟩]

def unpackBits34 : List UnpackOp := [
  ⟨0, .set, .next, 0, 255, 26, .u64⟩, ⟨0, .or, .next, 0, 255, 18, .int⟩,
  ⟨0, .or, .next, 0, 255, 10, .int⟩, ⟨0, .or, .next, 0, 255, 2, .int⟩,
  ⟨0, .or, .stay, 6, 255, 0, .int⟩,
  ⟨1, .set, .next, 0, 63, 28, .u64⟩, ⟨1, .or, .next, 0, 255, 20, .int⟩,
  ⟨1, .or, .next, 0, 255, 12, .int⟩, ⟨1, .or, .next, 0, 255, 4, .int⟩,
  ⟨1, .or, .stay, 4, 255, 0, .int⟩,
  ⟨2, .set, .next, 0, 15, 30, .u64⟩, ⟨2, .or, .next, 0, 255, 22, .int⟩,
  ⟨2, .or, .next, 0, 255, 14, .int⟩, ⟨2, .or, .next, 0, 255, 6, .int⟩,
  ⟨2, .or, .stay, 2, 255, 0, .int⟩,
  ⟨3, .set, .next, 0, 3, 32, .u64⟩, ⟨3, .or, .next, 0, 255, 24, .u64⟩,
  ⟨3, .or, .next, 0, 255, 16, .int⟩, ⟨3, .or, .next, 0, 255, 8, .int⟩,
  ⟨3, .or, .next, 0, 255, 0, .int⟩,
  ⟨4, .set, .next, 0, 255, 26, .u64⟩, ⟨4, .or, .next, 0, 255, 18, .int⟩,
  ⟨4, .or, .next, 0, 255, 10, .int⟩, ⟨4, .or, .next, 0, 255, 2, .int⟩,
  ⟨4, .or, .stay, 6, 255, 0, .int⟩,
  ⟨5, .set, .next, 0, 63, 28, .u64⟩, ⟨5, .or, .next, 0, 255, 20, .int⟩,
  ⟨5, .or, .next, 0, 255, 12, .int⟩, ⟨5, .or, .next, 0, 255, 4, .int⟩,
  ⟨5, .or, .stay, 4, 255, 0, .int⟩,
  ⟨6, .set, .next, 0, 15, 30, .u64⟩, ⟨6, .or, .next, 0, 255, 22, .int⟩,
  ⟨6, .or, .next, 0, 255, 14, .int⟩, ⟨6, .or, .next, 0, 255, 6, .int⟩,
  ⟨6, .or, .stay, 2, 255, 0, .int⟩,
  ⟨7, .set, .next, 0, 3, 32, .u64⟩, ⟨7, .or, .next, 0, 255, 24, .u64⟩,
  ⟨7, .or, .next, 0, 255, 16, .int⟩, ⟨7, .or, .next, 0, 255, 8, .int⟩,
  ⟨7, .or, .next, 0, 255, 0, .int⟩]

def unpackBits35 : List UnpackOp := [
  ⟨0, .set, .next, 0, 255, 27, .u64⟩, ⟨0, .or, .next, 0, 255, 19, .int⟩,
  ⟨0, .or, .next, 0, 255, 11, .int⟩, ⟨0, .or, .next, 0, 255, 3, .int⟩,
  ⟨0, .or, .stay, 5, 255, 0, .int⟩,
  ⟨1, .set, .next, 0, 31, 30, .u64⟩, ⟨1, .or, .next, 0, 255, 22, .int⟩,
  ⟨1, .or, .next, 0, 255, 14, .int⟩, ⟨1, .or, .next, 0, 255, 6, .int⟩,
  ⟨1, .or, .stay, 2, 255, 0, .int⟩,
  ⟨2, .set, .next, 0, 2, 33, .u64⟩, ⟨2, .or, .next, 0, 255, 25, .u64⟩,
  ⟨2, .or, .next, 0, 255, 17, .int⟩, ⟨2, .or, .next, 0, 255, 9, .int⟩,
  ⟨2, .or, .next, 0, 255, 1, .int⟩, ⟨2, .or, .stay, 7, 255, 0, .int⟩,
  ⟨3, .set, .next, 0, 127, 28, .u64⟩, ⟨3, .or, .next, 0, 255, 20, .int⟩,
  ⟨3, .or, .next, 0, 255, 12, .int⟩, ⟨3, .or, .next, 0, 255, 4, .int⟩,
  ⟨3, .or, .stay, 4, 255, 0, .int⟩,
  ⟨4, .set, .next, 0, 15, 31, .u64⟩, ⟨4, .or, .next, 0, 255, 23, .int⟩,
  ⟨4, .or, .next, 0, 255, 15, .int⟩, ⟨4, .or, .next, 0, 255, 7, .int⟩,
  ⟨4, .or, .stay, 1, 255, 0, .int⟩,
  ⟨5, .set, .next, 0, 1, 34, .u64⟩, ⟨5, .or, .next, 0, 255, 26, .u64⟩,
  ⟨5, .or, .next, 0, 255, 18, .int⟩, ⟨5, .or, .next, 0, 255, 10, .int⟩,
  ⟨5, .or, .next, 0, 255, 2, .int⟩, ⟨5, .or, .stay, 6, 255, 0, .int⟩,
  ⟨6, .set, .next, 0, 63, 29, .u64⟩, ⟨6, .or, .next, 0, 255, 21, .int⟩,
  ⟨6, .or, .next, 0, 255, 13, .int⟩, ⟨6, .or, .next, 0, 255, 5, .int⟩,
  ⟨6, .or, .stay, 3, 255, 0, .int⟩,
  ⟨7, .set, .next, 0, 7, 32, .u64⟩, ⟨7, .or, .next, 0, 255, 24, .u64⟩,
  ⟨7, .or, .next, 0, 255, 16, .int⟩, ⟨7, .or, .next, 0, 255, 8, .int⟩,
  ⟨7, .or, .stay, 0, 255, 0, .int⟩]

def unpackBits36 : List UnpackOp := [
  ⟨0, .set, .next, 0, 255, 28, .u64⟩, ⟨0, .or, .next, 0, 255, 20, .int⟩,
  ⟨0, .or, .next, 0, 255, 12, .int⟩, ⟨0, .or, .next, 0, 255, 4, .int⟩,
  ⟨0, .or, .stay, 4, 255, 0, .int⟩,
  ⟨1, .set, .next, 0, 15, 32, .u64⟩, ⟨1, .or, .next, 0, 255, 24, .u64⟩,
  ⟨1, .or, .next, 0, 255, 16, .int⟩, ⟨1, .or, .next, 0, 255, 8, .int⟩,
  ⟨1, .or, .next, 0, 255, 0, .int⟩,
  ⟨2, .set, .next, 0, 255, 28, .u64⟩, ⟨2, .or, .next, 0, 255, 20, .int⟩,
  ⟨2, .or, .next, 0, 255, 12, .int⟩, ⟨2, .or, .next, 0, 255, 4, .int⟩,
  ⟨2, .or, .stay, 4, 255, 0, .int⟩,
  ⟨3, .set, .next, 0, 15, 32, .u64⟩, ⟨3, .or, .next, 0, 255, 24, .u64⟩,
  ⟨3, .or, .next, 0, 255, 16, .int⟩, ⟨3, .or, .next, 0, 255, 8, .int⟩,
  ⟨3, .or, .next, 0, 255, 0, .int⟩,
  ⟨4, .set, .next, 0, 255, 28, .u64⟩, ⟨4, .or, .next, 0, 255, 20, .int⟩,
  ⟨4, .or, .next, 0, 255, 12, .int⟩, ⟨4, .or, .next, 0, 255, 4, .int⟩,
  ⟨4, .or, .stay, 4, 255, 0, .int⟩,
  ⟨5, .set, .next, 0, 15, 32, .u64⟩, ⟨5, .or, .next, 0, 255, 24, .u64⟩,
  ⟨5, .or, .next, 0, 255, 16, .int⟩, ⟨5, .or, .next, 0, 255, 8, .int⟩,
  ⟨5, .or, .next, 0, 255, 0, .int⟩,
  ⟨6, .set, .next, 0, 255, 28, .u64⟩, ⟨6, .or, .next, 0, 255, 20, .int⟩,
  ⟨6, .or, .next, 0, 255, 12, .int⟩, ⟨6, .or, .next, 0, 255, 4, .int⟩,
  ⟨6, .or, .stay, 4, 255, 0, .int⟩,
  ⟨7, .set, .next, 0, 15, 32, .u64⟩, ⟨7, .or, .next, 0, 255, 24, .u64⟩,
  ⟨7, .or, .next, 0, 255, 16, .int⟩, ⟨7, .or, .next, 0, 255, 8, .int⟩,
  ⟨7, .or, .stay, 0, 255, 0, .int⟩]

def unpackBits37 : List UnpackOp := [
  ⟨0, .set, .next, 0, 255, 29, .u64⟩, ⟨0, .or, .next, 0, 255, 21, .int⟩,
  ⟨0, .or, .next, 0, 255, 13, .int⟩, ⟨0, .or, .next, 0, 255, 5, .int⟩,
  ⟨0, .or, .stay, 3, 255, 0, .int⟩,
  ⟨1, .set, .next, 0, 7, 34, .u64⟩, ⟨1, .or, .next, 0, 255, 26, .u64⟩,
  ⟨1, .or, .next, 0, 255, 18, .int⟩, ⟨1, .or, .next, 0, 255, 10, .int⟩,
  ⟨1, .or, .next, 0, 255, 2, .int⟩, ⟨1, .or, .stay, 6, 255, 0, .int⟩,
  ⟨2, .set, .next, 0, 63, 31, .u64⟩, ⟨2, .or, .next, 0, 255, 23, .u64⟩,
  ⟨2, .or, .next, 0, 255, 15, .int⟩, ⟨2, .or, .next, 0, 255, 7, .int⟩,
  ⟨2, .or, .stay, 1, 255, 0, .int⟩,
  ⟨3, .set, .next, 0, 1, 36, .u64⟩, ⟨3, .or, .next, 0, 255, 28, .u64⟩,
  ⟨3, .or, .next, 0, 255, 20, .int⟩, ⟨3, .or, .next, 0, 255, 12, .int⟩,
  ⟨3, .or, .next, 0, 255, 4, .int⟩, ⟨3, .or, .stay, 4, 255, 0, .int⟩,
  ⟨4, .set, .next, 0, 15, 33, .u64⟩, ⟨4, .or, .next, 0, 255, 25, .u64⟩,
  ⟨4, .or, .next, 0, 255, 17, .int⟩, ⟨4, .or, .next, 0, 255, 9, .int⟩,
  ⟨4, .or, .next, 0, 255, 1, .int⟩, ⟨4, .or, .stay, 7, 255, 0, .int⟩,
  ⟨5, .set, .next, 0, 127, 30, .u64⟩, ⟨5, .or, .next, 0, 255, 22, .u64⟩,
  ⟨5, .or, .next, 0, 255, 14, .int⟩, ⟨5, .or, .next, 0, 255, 6, .int⟩,
  ⟨5, .or, .stay, 2, 255, 0, .int⟩,
  ⟨6, .set, .next, 0, 3, 35, .u64⟩, ⟨6, .or, .next, 0, 255, 27, .u64⟩,
  ⟨6, .or, .next, 0, 255, 19, .int⟩, ⟨6, .or, .next, 0, 255, 11, .int⟩,
  ⟨6, .or, .next, 0, 255, 3, .int⟩, ⟨6, .or, .stay, 5, 255, 0, .int⟩,
  ⟨7, .set, .next, 0, 31, 32, .u64⟩, ⟨7, .or, .next, 0, 255, 24, .u64⟩,
  ⟨7, .or, .next, 0, 255, 16, .int⟩, ⟨7, .or, .next, 0, 255, 8, .int⟩,
  ⟨7, .or, .stay, 0, 255, 0, .int⟩]

def unpackBits38 : List UnpackOp := [
  ⟨0, .set, .next, 0, 255, 30, .u64⟩, ⟨0, .or, .next, 0, 255, 22, .int⟩,
  ⟨0, .or, .next, 0, 255, 14, .int⟩, ⟨0, .or, .next, 0, 255, 6, .int⟩,
  ⟨0, .or, .stay, 2, 255, 0, .int⟩,
  ⟨1, .set, .next, 0, 3, 36, .u64⟩, ⟨1, .or, .next, 0, 255, 28, .u64⟩,
  ⟨1, .or, .next, 0, 255, 20, .int⟩, ⟨1, .or, .next, 0, 255, 12, .int⟩,
  ⟨1, .or, .next, 0, 255, 4, .int⟩, ⟨1, .or, .stay, 4, 255, 0, .int⟩,
  ⟨2, .set, .next, 0, 15, 34, .u64⟩, ⟨2, .or, .next, 0, 255, 26, .u64⟩,
  ⟨2, .or, .next, 0, 255, 18, .int⟩, ⟨2, .or, .next, 0, 255, 10, .int⟩,
  ⟨2, .or, .next, 0, 255, 2, .int⟩, ⟨2, .or, .stay, 6, 255, 0, .int⟩,
  ⟨3, .set, .next, 0, 63, 32, .u64⟩, ⟨3, .or, .next, 0, 255, 24, .u64⟩,
  ⟨3, .or, .next, 0, 255, 16, .int⟩, ⟨3, .or, .next, 0, 255, 8, .int⟩,
  ⟨3, .or, .next, 0, 255, 0, .int⟩,
  ⟨4, .set, .next, 0, 255, 30, .u64⟩, ⟨4, .or, .next, 0, 255, 22, .int⟩,
  ⟨4, .or, .next, 0, 255, 14, .int⟩, ⟨4, .or, .next, 0, 255, 6, .int⟩,
  ⟨4, .or, .stay, 2, 255, 0, .int⟩,
  ⟨5, .set, .next, 0, 3, 36, .u64⟩, ⟨5, .or, .next, 0, 255, 28, .u64⟩,
  ⟨5, .or, .next, 0, 255, 20, .int⟩, ⟨5, .or, .next, 0, 255, 12, .int⟩,
  ⟨5, .or, .next, 0, 255, 4, .int⟩, ⟨5, .or, .stay, 4, 255, 0, .int⟩,
  ⟨6, .set, .next, 0, 15, 34, .u64⟩, ⟨6, .or, .next, 0, 255, 26, .u64⟩,
  ⟨6, .or, .next, 0, 255, 18, .int⟩, ⟨6, .or, .next, 0, 255, 10, .int⟩,
  ⟨6, .or, .next, 0, 255, 2, .int⟩, ⟨6, .or, .stay, 6, 255, 0, .int⟩,
  ⟨7, .set, .next, 0, 63, 32, .u64⟩, ⟨7, .or, .next, 0, 255, 24, .u64⟩,
  ⟨7, .or, .next, 0, 255, 16, .int⟩, ⟨7, .or, .next, 0, 255, 8, .int⟩,
  ⟨7, .or, .stay, 0, 255, 0, .int⟩]

def unpackBits39 : List UnpackOp := [
  ⟨0, .set, .next, 0, 255, 31, .u64⟩, ⟨0, .or, .next, 0, 255, 23, .int⟩,
  ⟨0, .or, .next, 0, 255, 15, .int⟩, ⟨0, .or, .next, 0, 255, 7, .int⟩,
  ⟨0, .or, .stay, 1, 255, 0, .int⟩,
  ⟨1, .set, .next, 0, 1, 38, .u64⟩, ⟨1, .or, .next, 0, 255, 30, .u64⟩,
  ⟨1, .or, .next, 0, 255, 22, .int⟩, ⟨1, .or, .next, 0, 255, 14, .int⟩,
  ⟨1, .or, .next, 0, 255, 6, .int⟩, ⟨1, .or, .stay, 2, 255, 0, .int⟩,
  ⟨2, .set, .next, 0, 3, 37, .u64⟩, ⟨2, .or, .next, 0, 255, 29, .u64⟩,
  ⟨2, .or, .next, 0, 255, 21, .int⟩, ⟨2, .or, .next, 0, 255, 13, .int⟩,
  ⟨2, .or, .next, 0, 255, 5, .int⟩, ⟨2, .or, .stay, 3, 255, 0, .int⟩,
  ⟨3, .set, .next, 0, 7, 36, .u64⟩, ⟨3, .or, .next, 0, 255, 28, .u64⟩,
  ⟨3, .or, .next, 0, 255, 20, .int⟩, ⟨3, .or, .next, 0, 255, 12, .int⟩,
  ⟨3, .or, .next, 0, 255, 4, .int⟩, ⟨3, .or, .stay, 4, 255, 0, .int⟩,
  ⟨4, .set, .next, 0, 15, 35, .u64⟩, ⟨4, .or, .next, 0, 255, 27, .u64⟩,
  ⟨4, .or, .next, 0, 255, 19, .int⟩, ⟨4, .or, .next, 0, 255, 11, .int⟩,
  ⟨4, .or, .next, 0, 255, 3, .int⟩, ⟨4, .or, .stay, 5, 255, 0, .int⟩,
  ⟨5, .set, .next, 0, 31, 34, .u64⟩, ⟨5, .or, .next, 0, 255, 26, .u64⟩,
  ⟨5, .or, .next, 0, 255, 18, .int⟩, ⟨5, .or, .next, 0, 255, 10, .int⟩,
  ⟨5, .or, .next, 0, 255, 2, .int⟩, ⟨5, .or, .stay, 6, 255, 0, .int⟩,
  ⟨6, .set, .next, 0, 63, 33, .u64⟩, ⟨6, .or, .next, 0, 255, 25, .u64⟩,
  ⟨6, .or, .next, 0, 255, 17, .int⟩, ⟨6, .or, .next, 0, 255, 9, .int⟩,
  ⟨6, .or, .next, 0, 255, 1, .int⟩, ⟨6, .or, .stay, 7, 255, 0, .int⟩,
  ⟨7, .set, .next, 0, 127, 32, .u64⟩, ⟨7, .or, .next, 0, 255, 24, .u64⟩,
  ⟨7, .or, .next, 0, 255, 16, .int⟩, ⟨7, .or, .next, 0, 255, 8, .int⟩,
  ⟨7, .or, .stay, 0, 255, 0, .int⟩]

def unpackBits40 : List UnpackOp := [
  ⟨0, .set, .next, 0, 255, 32, .u64⟩, ⟨0, .or, .next, 0, 255, 24, .u64⟩,
  ⟨0, .or, .next, 0, 255, 16, .int⟩, ⟨0, .or, .next, 0, 255, 8, .int⟩,
  ⟨0, .or, .next, 0, 255, 0, .int⟩, ⟨1, .set, .next, 0, 255, 32, .u64⟩,
  ⟨1, .or, .next, 0, 255, 24, .u64⟩, ⟨1, .or, .next, 0, 255, 16, .int⟩,
  ⟨1, .or, .next, 0, 255, 8, .int⟩, ⟨1, .or, .next, 0, 255, 0, .int⟩,
  ⟨2, .set, .next, 0, 255, 32, .u64⟩, ⟨2, .or, .next, 0, 255, 24, .u64⟩,
  ⟨2, .or, .next, 0, 255, 16, .int⟩, ⟨2, .or, .next, 0, 255, 8, .int⟩,
  ⟨2, .or, .next, 0, 255, 0, .int⟩, ⟨3, .set, .next, 0, 255, 32, .u64⟩,
  ⟨3, .or, .next, 0, 255, 24, .u64⟩, ⟨3, .or, .next, 0, 255, 16, .int⟩,
  ⟨3, .or, .next, 0, 255, 8, .int⟩, ⟨3, .or, .next, 0, 255, 0, .int⟩,
  ⟨4, .set, .next, 0, 255, 32, .u64⟩, ⟨4, .or, .next, 0, 255, 24, .u64⟩,
  ⟨4, .or, .next, 0, 255, 16, .int⟩, ⟨4, .or, .next, 0, 255, 8, .int⟩,
  ⟨4, .or, .next, 0, 255, 0, .int⟩, ⟨5, .set, .next, 0, 255, 32, .u64⟩,
  ⟨5, .or, .next, 0, 255, 24, .u64⟩, ⟨5, .or, .next, 0, 255, 16, .int⟩,
  ⟨5, .or, .next, 0, 255, 8, .int⟩, ⟨5, .or, .next, 0, 255, 0, .int⟩,
  ⟨6, .set, .next, 0, 255, 32, .u64⟩, ⟨6, .or, .next, 0, 255, 24, .u64⟩,
  ⟨6, .or, .next, 0, 255, 16, .int⟩, ⟨6, .or, .next, 0, 255, 8, .int⟩,
  ⟨6, .or, .next, 0, 255, 0, .int⟩, ⟨7, .set, .next, 0, 255, 32, .u64⟩,
  ⟨7, .or, .next, 0, 255, 24, .u64⟩, ⟨7, .or, .next, 0, 255, 16, .int⟩,
  ⟨7, .or, .next, 0, 255, 8, .int⟩, ⟨7, .or, .stay, 0, 255, 0, .int⟩]

def unpackBits41 : List UnpackOp := [
  ⟨0, .set, .next, 0, 255, 33, .u64⟩, ⟨0, .or, .next, 0, 255, 25, .u64⟩,
  ⟨0, .or, .next, 0, 255, 17, .int⟩, ⟨0, .or, .next, 0, 255, 9, .int⟩,
  ⟨0, .or, .next, 0, 255, 1, .int⟩, ⟨0, .or, .stay, 7, 255, 0, .int⟩,
  ⟨1, .set, .next, 0, 127, 34, .u64⟩, ⟨1, .or, .next, 0, 255, 26, .u64⟩,
  ⟨1, .or, .next, 0, 255, 18, .int⟩, ⟨1, .or, .next, 0, 255, 10, .int⟩,
  ⟨1, .or, .next, 0, 255, 2, .int⟩, ⟨1, .or, .stay, 6, 255, 0, .int⟩,
  ⟨2, .set, .next, 0, 63, 35, .u64⟩, ⟨2, .or, .next, 0, 255, 27, .u64⟩,
  ⟨2, .or, .next, 0, 255, 19, .int⟩, ⟨2, .or, .next, 0, 255, 11, .int⟩,
  ⟨2, .or, .next, 0, 255, 3, .int⟩, ⟨2, .or, .stay, 5, 255, 0, .int⟩,
  ⟨3, .set, .next, 0, 31, 36, .u64⟩, ⟨3, .or, .next, 0, 255, 28, .u64⟩,
  ⟨3, .or, .next, 0, 255, 20, .int⟩, ⟨3, .or, .next, 0, 255, 12, .int⟩,
  ⟨3, .or, .next, 0, 255, 4, .int⟩, ⟨3, .or, .stay, 4, 255, 0, .int⟩,
  ⟨4, .set, .next, 0, 15, 37, .u64⟩, ⟨4, .or, .next, 0, 255, 29, .u64⟩,
  ⟨4, .or, .next, 0, 255, 21, .int⟩, ⟨4, .or, .next, 0, 255, 13, .int⟩,
  ⟨4, .or, .next, 0, 255, 5, .int⟩, ⟨4, .or, .stay, 3, 255, 0, .int⟩,
  ⟨5, .set, .next, 0, 7, 38, .u64⟩, ⟨5, .or, .next, 0, 255, 30, .u64⟩,
  ⟨5, .or, .next, 0, 255, 22, .int⟩, ⟨5, .or, .next, 0, 255, 14, .int⟩,
  ⟨5, .or, .next, 0, 255, 6, .int⟩, ⟨5, .or, .stay, 2, 255, 0, .int⟩,
  ⟨6, .set, .next, 0, 3, 39, .u64⟩, ⟨6, .or, .next, 0, 255, 31, .u64⟩,
  ⟨6, .or, .next, 0, 255, 23, .int⟩, ⟨6, .or, .next, 0, 255, 15, .int⟩,
  ⟨6, .or, .next, 0, 255, 7, .int⟩, ⟨6, .or, .stay, 1, 255, 0, .int⟩,
  ⟨7, .set, .next, 0, 1, 40, .u64⟩, ⟨7, .or, .next, 0, 255, 32, .u64⟩,
  ⟨7, .or, .next, 0, 255, 24, .u64⟩, ⟨7, .or, .next, 0, 255, 16, .int⟩,
  ⟨7, .or, .next, 0, 255, 8, .int⟩, ⟨7, .or, .stay, 0, 255, 0, .int⟩]

def unpackBits42 : List UnpackOp := [
  ⟨0, .set, .next, 0, 255, 34, .u64⟩, ⟨0, .or, .next, 0, 255, 26, .u64⟩,
  ⟨0, .or, .next, 0, 255, 18, .int⟩, ⟨0, .or, .next, 0, 255, 10, .int⟩,
  ⟨0, .or, .next, 0, 255, 2, .int⟩, ⟨0, .or, .stay, 6, 255, 0, .int⟩,
  ⟨1, .set, .next, 0, 63, 36, .u64⟩, ⟨1, .or, .next, 0, 255, 28, .u64⟩,
  ⟨1, .or, .next, 0, 255, 20, .int⟩, ⟨1, .or, .next, 0, 255, 12, .int⟩,
  ⟨1, .or, .next, 0, 255, 4, .int⟩, ⟨1, .or, .stay, 4, 255, 0, .int⟩,
  ⟨2, .set, .next, 0, 15, 38, .u64⟩, ⟨2, .or, .next, 0, 255, 30, .u64⟩,
  ⟨2, .or, .next, 0, 255, 22, .int⟩, ⟨2, .or, .next, 0, 255, 14, .int⟩,
  ⟨2, .or, .next, 0, 255, 6, .int⟩, ⟨2, .or, .stay, 2, 255, 0, .int⟩,
  ⟨3, .set, .next, 0, 3, 40, .u64⟩, ⟨3, .or, .next, 0, 255, 32, .u64⟩,
  ⟨3, .or, .next, 0, 255, 24, .u64⟩, ⟨3, .or, .next, 0, 255, 16, .int⟩,
  ⟨3, .or, .next, 0, 255, 8, .int⟩, ⟨3, .or, .next, 0, 255, 0, .int⟩,
  ⟨4, .set, .next, 0, 255, 34, .u64⟩, ⟨4, .or, .next, 0, 255, 26, .u64⟩,
  ⟨4, .or, .next, 0, 255, 18, .int⟩, ⟨4, .or, .next, 0, 255, 10, .int⟩,
  ⟨4, .or, .next, 0, 255, 2, .int⟩, ⟨4, .or, .stay, 6, 255, 0, .int⟩,
  ⟨5, .set, .next, 0, 63, 36, .u64⟩, ⟨5, .or, .next, 0, 255, 28, .u64⟩,
  ⟨5, .or, .next, 0, 255, 20, .int⟩, ⟨5, .or, .next, 0, 255, 12, .int⟩,
  ⟨5, .or, .next, 0, 255, 4, .int⟩, ⟨5, .or, .stay, 4, 255, 0, .int⟩,
  ⟨6, .set, .next, 0, 15, 38, .u64⟩, ⟨6, .or, .next, 0, 255, 30, .u64⟩,
  ⟨6, .or, .next, 0, 255, 22, .int⟩, ⟨6, .or, .next, 0, 255, 14, .int⟩,
  ⟨6, .or, .next, 0, 255, 6, .int⟩, ⟨6, .or, .stay, 2, 255, 0, .int⟩,
  ⟨7, .set, .next, 0, 3, 40, .u64⟩, ⟨7, .or, .next, 0, 255, 32, .u64⟩,
  ⟨7, .or, .next, 0, 255, 24, .u64⟩, ⟨7, .or, .next, 0, 255, 16, .int⟩,
  ⟨7, .or, .next, 0, 255, 8, .int⟩, ⟨7, .or, .stay, 0, 255, 0, .int⟩]

def unpackBits43 : List UnpackOp := [
  ⟨0, .set, .next, 0, 255, 35, .u64⟩, ⟨0, .or, .next, 0, 255, 27, .u64⟩,
  ⟨0, .or, .next, 0, 255, 19, .int⟩, ⟨0, .or, .next, 0, 255, 11, .int⟩,
  ⟨0, .or, .next, 0, 255, 3, .int⟩, ⟨0, .or, .stay, 5, 255, 0, .int⟩,
  ⟨1, .set, .next, 0, 31, 38, .u64⟩, ⟨1, .or, .next, 0, 255, 30, .u64⟩,
  ⟨1, .or, .next, 0, 255, 22, .int⟩, ⟨1, .or, .next, 0, 255, 14, .int⟩,
  ⟨1, .or, .next, 0, 255, 6, .int⟩, ⟨1, .or, .stay, 2, 255, 0, .int⟩,
  ⟨2, .set, .next, 0, 3, 41, .u64⟩, ⟨2, .or, .next, 0, 255, 33, .u64⟩,
  ⟨2, .or, .next, 0, 255, 25, .u64⟩, ⟨2, .or, .next, 0, 255, 17, .int⟩,
  ⟨2, .or, .next, 0, 255, 9, .int⟩, ⟨2, .or, .next, 0, 255, 1, .int⟩,
  ⟨2, .or, .stay, 7, 255, 0, .int⟩,
  ⟨3, .set, .next, 0, 127, 36, .u64⟩, ⟨3, .or, .next, 0, 255, 28, .u64⟩,
  ⟨3, .or, .next, 0, 255, 20, .int⟩, ⟨3, .or, .next, 0, 255, 12, .int⟩,
  ⟨3, .or, .next, 0, 255, 4, .int⟩, ⟨3, .or, .stay, 4, 255, 0, .int⟩,
  ⟨4, .set, .next, 0, 15, 39, .u64⟩, ⟨4, .or, .next, 0, 255, 31, .u64⟩,
  ⟨4, .or, .next, 0, 255, 23, .int⟩, ⟨4, .or, .next, 0, 255, 15, .int⟩,
  ⟨4, .or, .next, 0, 255, 7, .int⟩, ⟨4, .or, .stay, 1, 255, 0, .int⟩,
  ⟨5, .set, .next, 0, 1, 42, .u64⟩, ⟨5, .or, .next, 0, 255, 34, .u64⟩,
  ⟨5, .or, .next, 0, 255, 26, .u64⟩, ⟨5, .or, .next, 0, 255, 18, .int⟩,
  ⟨5, .or, .next, 0, 255, 10, .int⟩, ⟨5, .or, .next, 0, 255, 2, .int⟩,
  ⟨5, .or, .stay, 6, 255, 0, .int⟩,
  ⟨6, .set, .next, 0, 63, 37, .u64⟩, ⟨6, .or, .next, 0, 255, 29, .u64⟩,
  ⟨6, .or, .next, 0, 255, 21, .int⟩, ⟨6, .or, .next, 0, 255, 13, .int⟩,
  ⟨6, .or, .next, 0, 255, 5, .int⟩, ⟨6, .or, .stay, 3, 255, 0, .int⟩,
  ⟨7, .set, .next, 0, 7, 40, .u64⟩, ⟨7, .or, .next, 0, 255, 32, .u64⟩,
  ⟨7, .or, .next, 0, 255, 24, .u64⟩, ⟨7, .or, .next, 0, 255, 16, .int⟩,
  ⟨7, .or, .next, 0, 255, 8, .int⟩, ⟨7, .or, .stay, 0, 255, 0, .int⟩]

def unpackBits44 : List UnpackOp := [
  ⟨0, .set, .next, 0, 255, 36, .u64⟩, ⟨0, .or, .next, 0, 255, 28, .u64⟩,
  ⟨0, .or, .next, 0, 255, 20, .int⟩, ⟨0, .or, .next, 0, 255, 12, .int⟩,
  ⟨0, .or, .next, 0, 255, 4, .int⟩, ⟨0, .or, .stay, 4, 255, 0, .int⟩,
  ⟨1, .set, .next, 0, 15, 40, .u64⟩, ⟨1, .or, .next, 0, 255, 32, .u64⟩,
  ⟨1, .or, .next, 0, 255, 24, .u64⟩, ⟨1, .or, .next, 0, 255, 16, .int⟩,
  ⟨1, .or, .next, 0, 255, 8, .int⟩, ⟨1, .or, .next, 0, 255, 0, .int⟩,
  ⟨2, .set, .next, 0, 255, 36, .u64⟩, ⟨2, .or, .next, 0, 255, 28, .u64⟩,
  ⟨2, .or, .next, 0, 255, 20, .int⟩, ⟨2, .or, .next, 0, 255, 12, .int⟩,
  ⟨2, .or, .next, 0, 255, 4, .int⟩, ⟨2, .or, .stay, 4, 255, 0, .int⟩,
  ⟨3, .set, .next, 0, 15, 40, .u64⟩, ⟨3, .or, .next, 0, 255, 32, .u64⟩,
  ⟨3, .or, .next, 0, 255, 24, .u64⟩, ⟨3, .or, .next, 0, 255, 16, .int⟩,
  ⟨3, .or, .next, 0, 255, 8, .int⟩, ⟨3, .or, .next, 0, 255, 0, .int⟩,
  ⟨4, .set, .next, 0, 255, 36, .u64⟩, ⟨4, .or, .next, 0, 255, 28, .u64⟩,
  ⟨4, .or, .next, 0, 255, 20, .int⟩, ⟨4, .or, .next, 0, 255, 12, .int⟩,
  ⟨4, .or, .next, 0, 255, 4, .int⟩, ⟨4, .or, .stay, 4, 255, 0, .int⟩,
  ⟨5, .set, .next, 0, 15, 40, .u64⟩, ⟨5, .or, .next, 0, 255, 32, .u64⟩,
  ⟨5, .or, .next, 0, 255, 24, .u64⟩, ⟨5, .or, .next, 0, 255, 16, .int⟩,
  ⟨5, .or, .next, 0, 255, 8, .int⟩, ⟨5, .or, .next, 0, 255, 0, .int⟩,
  ⟨6, .set, .next, 0, 255, 36, .u64⟩, ⟨6, .or, .next, 0, 255, 28, .u64⟩,
  ⟨6, .or, .next, 0, 255, 20, .int⟩, ⟨6, .or, .next, 0, 255, 12, .int⟩,
  ⟨6, .or, .next, 0, 255, 4, .int⟩, ⟨6, .or, .stay, 4, 255, 0, .int⟩,
  ⟨7, .set, .next, 0, 15, 40, .u64⟩, ⟨7, .or, .next, 0, 255, 32, .u64⟩,
  ⟨7, .or, .next, 0, 255, 24, .u64⟩, ⟨7, .or, .next, 0, 255, 16, .int⟩,
  ⟨7, .or, .next, 0, 255, 8, .int⟩, ⟨7, .or, .stay, 0, 255, 0, .int⟩]

def unpackBits45 : List UnpackOp := [
  ⟨0, .set, .next, 0, 255, 37, .u64⟩, ⟨0, .or, .next, 0, 255, 29, .u64⟩,
  ⟨0, .or, .next, 0, 255, 21, .int⟩, ⟨0, .or, .next, 0, 255, 13, .int⟩,
  ⟨0, .or, .next, 0, 255, 5, .int⟩, ⟨0, .or, .stay, 3, 255, 0, .int⟩,
  ⟨1, .set, .next, 0, 7, 42, .u64⟩, ⟨1, .or, .next, 0, 255, 34, .u64⟩,
  ⟨1, .or, .next, 0, 255, 26, .u64⟩, ⟨1, .or, .next, 0, 255, 18, .int⟩,
  ⟨1, .or, .next, 0, 255, 10, .int⟩, ⟨1, .or, .next, 0, 255, 2, .int⟩,
  ⟨1, .or, .stay, 6, 255, 0, .int⟩,
  ⟨2, .set, .next, 0, 63, 39, .u64⟩, ⟨2, .or, .next, 0, 255, 31, .u64⟩,
  ⟨2, .or, .next, 0, 255, 23, .u64⟩, ⟨2, .or, .next, 0, 255, 15, .int⟩,
  ⟨2, .or, .next, 0, 255, 7, .int⟩, ⟨2, .or, .stay, 1, 255, 0, .int⟩,
  ⟨3, .set, .next, 0, 1, 44, .u64⟩, ⟨3, .or, .next, 0, 255, 36, .u64⟩,
  ⟨3, .or, .next, 0, 255, 28, .u64⟩, ⟨3, .or, .next, 0, 255, 20, .int⟩,
  ⟨3, .or, .next, 0, 255, 12, .int⟩, ⟨3, .or, .next, 0, 255, 4, .int⟩,
  ⟨3, .or, .stay, 4, 255, 0, .int⟩,
  ⟨4, .set, .next, 0, 15, 41, .u64⟩, ⟨4, .or, .next, 0, 255, 33, .u64⟩,
  ⟨4, .or, .next, 0, 255, 25, .u64⟩, ⟨4, .or, .next, 0, 255, 17, .int⟩,
  ⟨4, .or, .next, 0, 255, 9, .int⟩, ⟨4, .or, .next, 0, 255, 1, .int⟩,
  ⟨4, .or, .stay, 7, 255, 0, .int⟩,
  ⟨5, .set, .next, 0, 127, 38, .u64⟩, ⟨5, .or, .next, 0, 255, 30, .u64⟩,
  ⟨5, .or, .next, 0, 255, 22, .u64⟩, ⟨5, .or, .next, 0, 255, 14, .int⟩,
  ⟨5, .or, .next, 0, 255, 6, .int⟩, ⟨5, .or, .stay, 2, 255, 0, .int⟩,
  ⟨6, .set, .next, 0, 3, 43, .u64⟩, ⟨6, .or, .next, 0, 255, 35, .u64⟩,
  ⟨6, .or, .next, 0, 255, 27, .u64⟩, ⟨6, .or, .next, 0, 255, 19, .int⟩,
  ⟨6, .or, .next, 0, 255, 11, .int⟩, ⟨6, .or, .next, 0, 255, 3, .int⟩,
  ⟨6, .or, .stay, 5, 255, 0, .int⟩,
  ⟨7, .set, .next, 0, 31, 40, .u64⟩, ⟨7, .or, .next, 0, 255, 32, .u64⟩,
  ⟨7, .or, .next, 0, 255, 24, .u64⟩, ⟨7, .or, .next, 0, 255, 16, .int⟩,
  ⟨7, .or, .next, 0, 255, 8, .int⟩, ⟨7, .or, .stay, 0, 255, 0, .int⟩]

def unpackBits46 : List UnpackOp := [
  ⟨0, .set, .next, 0, 255, 38, .u64⟩, ⟨0, .or, .next, 0, 255, 30, .u64⟩,
  ⟨0, .or, .next, 0, 255, 22, .int⟩, ⟨0, .or, .next, 0, 255, 14, .int⟩,
  ⟨0, .or, .next, 0, 255, 6, .int⟩, ⟨0, .or, .stay, 2, 255, 0, .int⟩,
  ⟨1, .set, .next, 0, 3, 44, .u64⟩, ⟨1, .or, .next, 0, 255, 36, .u64⟩,
  ⟨1, .or, .next, 0, 255, 28, .u64⟩, ⟨1, .or, .next, 0, 255, 20, .int⟩,
  ⟨1, .or, .next, 0, 255, 12, .int⟩, ⟨1, .or, .next, 0, 255, 4, .int⟩,
  ⟨1, .or, .stay, 4, 255, 0, .int⟩,
  ⟨2, .set, .next, 0, 15, 42, .u64⟩, ⟨2, .or, .next, 0, 255, 34, .u64⟩,
  ⟨2, .or, .next, 0, 255, 26, .u64⟩, ⟨2, .or, .next, 0, 255, 18, .int⟩,
  ⟨2, .or, .next, 0, 255, 10, .int⟩, ⟨2, .or, .next, 0, 255, 2, .int⟩,
  ⟨2, .or, .stay, 6, 255, 0, .int⟩,
  ⟨3, .set, .next, 0, 63, 40, .u64⟩, ⟨3, .or, .next, 0, 255, 32, .u64⟩,
  ⟨3, .or, .next, 0, 255, 24, .u64⟩, ⟨3, .or, .next, 0, 255, 16, .int⟩,
  ⟨3, .or, .next, 0, 255, 8, .int⟩, ⟨3, .or, .next, 0, 255, 0, .int⟩,
  ⟨4, .set, .next, 0, 255, 38, .u64⟩, ⟨4, .or, .next, 0, 255, 30, .u64⟩,
  ⟨4, .or, .next, 0, 255, 22, .int⟩, ⟨4, .or, .next, 0, 255, 14, .int⟩,
  ⟨4, .or, .next, 0, 255, 6, .int⟩, ⟨4, .or, .stay, 2, 255, 0, .int⟩,
  ⟨5, .set, .next, 0, 3, 44, .u64⟩, ⟨5, .or, .next, 0, 255, 36, .u64⟩,
  ⟨5, .or, .next, 0, 255, 28, .u64⟩, ⟨5, .or, .next, 0, 255, 20, .int⟩,
  ⟨5, .or, .next, 0, 255, 12, .int⟩, ⟨5, .or, .next, 0, 255, 4, .int⟩,
  ⟨5, .or, .stay, 4, 255, 0, .int⟩,
  ⟨6, .set, .next, 0, 15, 42, .u64⟩, ⟨6, .or, .next, 0, 255, 34, .u64⟩,
  ⟨6, .or, .next, 0, 255, 26, .u64⟩, ⟨6, .or, .next, 0, 255, 18, .int⟩,
  ⟨6, .or, .next, 0, 255, 10, .int⟩, ⟨6, .or, .next, 0, 255, 2, .int⟩,
  ⟨6, .or, .stay, 6, 255, 0, .int⟩,
  ⟨7, .set, .next, 0, 63, 40, .u64⟩, ⟨7, .or, .next, 0, 255, 32, .u64⟩,
  ⟨7, .or, .next, 0, 255, 24, .u64⟩, ⟨7, .or, .next, 0, 255, 16, .int⟩,
  ⟨7, .or, .next, 0, 255, 8, .int⟩, ⟨7, .or, .stay, 0, 255, 0, .int⟩]

def unpackBits47 : List UnpackOp := [
  ⟨0, .set, .next, 0, 255, 39, .u64⟩, ⟨0, .or, .next, 0, 255, 31, .u64⟩,
  ⟨0, .or, .next, 0, 255, 23, .int⟩, ⟨0, .or, .next, 0, 255, 15, .int⟩,
  ⟨0, .or, .next, 0, 255, 7, .int⟩, ⟨0, .or, .stay, 1, 255, 0, .int⟩,
  ⟨1, .set, .next, 0, 1, 46, .u64⟩, ⟨1, .or, .next, 0, 255, 38, .u64⟩,
  ⟨1, .or, .next, 0, 255, 30, .u64⟩, ⟨1, .or, .next, 0, 255, 22, .int⟩,
  ⟨1, .or, .next, 0, 255, 14, .int⟩, ⟨1, .or, .next, 0, 255, 6, .int⟩,
  ⟨1, .or, .stay, 2, 255, 0, .int⟩,
  ⟨2, .set, .next, 0, 3, 45, .u64⟩, ⟨2, .or, .next, 0, 255, 37, .u64⟩,
  ⟨2, .or, .next, 0, 255, 29, .u64⟩, ⟨2, .or, .next, 0, 255, 21, .int⟩,
  ⟨2, .or, .next, 0, 255, 13, .int⟩, ⟨2, .or, .next, 0, 255, 5, .int⟩,
  ⟨2, .or, .stay, 3, 255, 0, .int⟩,
  ⟨3, .set, .next, 0, 7, 44, .u64⟩, ⟨3, .or, .next, 0, 255, 36, .u64⟩,
  ⟨3, .or, .next, 0, 255, 28, .u64⟩, ⟨3, .or, .next, 0, 255, 20, .int⟩,
  ⟨3, .or, .next, 0, 255, 12, .int⟩, ⟨3, .or, .next, 0, 255, 4, .int⟩,
  ⟨3, .or, .stay, 4, 255, 0, .int⟩,
  ⟨4, .set, .next, 0, 15, 43, .u64⟩, ⟨4, .or, .next, 0, 255, 35, .u64⟩,
  ⟨4, .or, .next, 0, 255, 27, .u64⟩, ⟨4, .or, .next, 0, 255, 19, .int⟩,
  ⟨4, .or, .next, 0, 255, 11, .int⟩, ⟨4, .or, .next, 0, 255, 3, .int⟩,
  ⟨4, .or, .stay, 5, 255, 0, .int⟩,
  ⟨5, .set, .next, 0, 31, 42, .u64⟩, ⟨5, .or, .next, 0, 255, 34, .u64⟩,
  ⟨5, .or, .next, 0, 255, 26, .u64⟩, ⟨5, .or, .next, 0, 255, 18, .int⟩,
  ⟨5, .or, .next, 0, 255, 10, .int⟩, ⟨5, .or, .next, 0, 255, 2, .int⟩,
  ⟨5, .or, .stay, 6, 255, 0, .int⟩,
  ⟨6, .set, .next, 0, 63, 41, .u64⟩, ⟨6, .or, .next, 0, 255, 33, .u64⟩,
  ⟨6, .or, .next, 0, 255, 25, .u64⟩, ⟨6, .or, .next, 0, 255, 17, .int⟩,
  ⟨6, .or, .next, 0, 255, 9, .int⟩, ⟨6, .or, .next, 0, 255, 1, .int⟩,
  ⟨6, .or, .stay, 7, 255, 0, .int⟩,
  ⟨7, .set, .next, 0, 127, 40, .u64⟩, ⟨7, .or, .next, 0, 255, 32, .u64⟩,
  ⟨7, .or, .next, 0, 255, 24, .u64⟩, ⟨7, .or, .next, 0, 255, 16, .int⟩,
  ⟨7, .or, .next, 0, 255, 8, .int⟩, ⟨7, .or, .stay, 0, 255, 0, .int⟩]

def unpackBits48 : List UnpackOp := [
  ⟨0, .set, .next, 0, 255, 40, .u64⟩, ⟨0, .or, .next, 0, 255, 32, .u64⟩,
  ⟨0, .or, .next, 0, 255, 24, .u64⟩, ⟨0, .or, .next, 0, 255, 16, .int⟩,
  ⟨0, .or, .next, 0, 255, 8, .int⟩, ⟨0, .or, .next, 0, 255, 0, .int⟩,
  ⟨1, .set, .next, 0, 255, 40, .u64⟩, ⟨1, .or, .next, 0, 255, 32, .u64⟩,
  ⟨1, .or, .next, 0, 255, 24, .u64⟩, ⟨1, .or, .next, 0, 255, 16, .int⟩,
  ⟨1, .or, .next, 0, 255, 8, .int⟩, ⟨1, .or, .next, 0, 255, 0, .int⟩,
  ⟨2, .set, .next, 0, 255, 40, .u64⟩, ⟨2, .or, .next, 0, 255, 32, .u64⟩,
  ⟨2, .or, .next, 0, 255, 24, .u64⟩, ⟨2, .or, .next, 0, 255, 16, .int⟩,
  ⟨2, .or, .next, 0, 255, 8, .int⟩, ⟨2, .or, .next, 0, 255, 0, .int⟩,
  ⟨3, .set, .next, 0, 255, 40, .u64⟩, ⟨3, .or, .next, 0, 255, 32, .u64⟩,
  ⟨3, .or, .next, 0, 255, 24, .u64⟩, ⟨3, .or, .next, 0, 255, 16, .int⟩,
  ⟨3, .or, .next, 0, 255, 8, .int⟩, ⟨3, .or, .next, 0, 255, 0, .int⟩,
  ⟨4, .set, .next, 0, 255, 40, .u64⟩, ⟨4, .or, .next, 0, 255, 32, .u64⟩,
  ⟨4, .or, .next, 0, 255, 24, .u64⟩, ⟨4, .or, .next, 0, 255, 16, .int⟩,
  ⟨4, .or, .next, 0, 255, 8, .int⟩, ⟨4, .or, .next, 0, 255, 0, .int⟩,
  ⟨5, .set, .next, 0, 255, 40, .u64⟩, ⟨5, .or, .next, 0, 255, 32, .u64⟩,
  ⟨5, .or, .next, 0, 255, 24, .u64⟩, ⟨5, .or, .next, 0, 255, 16, .int⟩,
  ⟨5, .or, .next, 0, 255, 8, .int⟩, ⟨5, .or, .next, 0, 255, 0, .int⟩,
  ⟨6, .set, .next, 0, 255, 40, .u64⟩, ⟨6, .or, .next, 0, 255, 32, .u64⟩,
  ⟨6, .or, .next, 0, 255, 24, .u64⟩, ⟨6, .or, .next, 0, 255, 16, .int⟩,
  ⟨6, .or, .next, 0, 255, 8, .int⟩, ⟨6, .or, .next, 0, 255, 0, .int⟩,
  ⟨7, .set, .next, 0, 255, 40, .u64⟩, ⟨7, .or, .next, 0, 255, 32, .u64⟩,
  ⟨7, .or, .next, 0, 255, 24, .u64⟩, ⟨7, .or, .next, 0, 255, 16, .int⟩,
  ⟨7, .or, .next, 0, 255, 8, .int⟩, ⟨7, .or, .stay, 0, 255, 0, .int⟩]

def unpackBits49 : List UnpackOp := [
  ⟨0, .set, .next, 0, 255, 41, .u64⟩, ⟨0, .or, .next, 0, 255, 33, .u64⟩,
  ⟨0, .or, .next, 0, 255, 25, .u64⟩, ⟨0, .or, .next, 0, 255, 17, .int⟩,
  ⟨0, .or, .next, 0, 255, 9, .int⟩, ⟨0, .or, .next, 0, 255, 1, .int⟩,
  ⟨0, .or, .stay, 7, 255, 0, .int⟩,
  ⟨1, .set, .next, 0, 127, 42, .u64⟩, ⟨1, .or, .next, 0, 255, 34, .u64⟩,
  ⟨1, .or, .next, 0, 255, 26, .u64⟩, ⟨1, .or, .next, 0, 255, 18, .int⟩,
  ⟨1, .or, .next, 0, 255, 10, .int⟩, ⟨1, .or, .next, 0, 255, 2, .int⟩,
  ⟨1, .or, .stay, 6, 255, 0, .int⟩,
  ⟨2, .set, .next, 0, 63, 43, .u64⟩, ⟨2, .or, .next, 0, 255, 35, .u64⟩,
  ⟨2, .or, .next, 0, 255, 27, .u64⟩, ⟨2, .or, .next, 0, 255, 19, .int⟩,
  ⟨2, .or, .next, 0, 255, 11, .int⟩, ⟨2, .or, .next, 0, 255, 3, .int⟩,
  ⟨2, .or, .stay, 5, 255, 0, .int⟩,
  ⟨3, .set, .next, 0, 31, 44, .u64⟩, ⟨3, .or, .next, 0, 255, 36, .u64⟩,
  ⟨3, .or, .next, 0, 255, 28, .u64⟩, ⟨3, .or, .next, 0, 255, 20, .int⟩,
  ⟨3, .or, .next, 0, 255, 12, .int⟩, ⟨3, .or, .next, 0, 255, 4, .int⟩,
  ⟨3, .or, .stay, 4, 255, 0, .int⟩,
  ⟨4, .set, .next, 0, 15, 45, .u64⟩, ⟨4, .or, .next, 0, 255, 37, .u64⟩,
  ⟨4, .or, .next, 0, 255, 29, .u64⟩, ⟨4, .or, .next, 0, 255, 21, .int⟩,
  ⟨4, .or, .next, 0, 255, 13, .int⟩, ⟨4, .or, .next, 0, 255, 5, .int⟩,
  ⟨4, .or, .stay, 3, 255, 0, .int⟩,
  ⟨5, .set, .next, 0, 7, 46, .u64⟩, ⟨5, .or, .next, 0, 255, 38, .u64⟩,
  ⟨5, .or, .next, 0, 255, 30, .u64⟩, ⟨5, .or, .next, 0, 255, 22, .int⟩,
  ⟨5, .or, .next, 0, 255, 14, .int⟩, ⟨5, .or, .next, 0, 255, 6, .int⟩,
  ⟨5, .or, .stay, 2, 255, 0, .int⟩,
  ⟨6, .set, .next, 0, 3, 47, .u64⟩, ⟨6, .or, .next, 0, 255, 39, .u64⟩,
  ⟨6, .or, .next, 0, 255, 31, .u64⟩, ⟨6, .or, .next, 0, 255, 23, .int⟩,
  ⟨6, .or, .next, 0, 255, 15, .int⟩, ⟨6, .or, .next, 0, 255, 7, .int⟩,
  ⟨6, .or, .stay, 1, 255, 0, .int⟩,
  ⟨7, .set, .next, 0, 1, 48, .u64⟩, ⟨7, .or, .next, 0, 255, 40, .u64⟩,
  ⟨7, .or, .next, 0, 255, 32, .u64⟩, ⟨7, .or, .next, 0, 255, 24, .u64⟩,
  ⟨7, .or, .next, 0, 255, 16, .int⟩, ⟨7, .or, .next, 0, 255, 8, .int⟩,
  ⟨7, .or, .stay, 0, 255, 0, .int⟩]

def unpackBits50 : List UnpackOp := [
  ⟨0, .set, .next, 0, 255, 42, .u64⟩, ⟨0, .or, .next, 0, 255, 34, .u64⟩,
  ⟨0, .or, .next, 0, 255, 26, .u64⟩, ⟨0, .or, .next, 0, 255, 18, .int⟩,
  ⟨0, .or, .next, 0, 255, 10, .int⟩, ⟨0, .or, .next, 0, 255, 2, .int⟩,
  ⟨0, .or, .stay, 6, 255, 0, .int⟩,
  ⟨1, .set, .next, 0, 63, 44, .u64⟩, ⟨1, .or, .next, 0, 255, 36, .u64⟩,
  ⟨1, .or, .next, 0, 255, 28, .u64⟩, ⟨1, .or, .next, 0, 255, 20, .int⟩,
  ⟨1, .or, .next, 0, 255, 12, .int⟩, ⟨1, .or, .next, 0, 255, 4, .int⟩,
  ⟨1, .or, .stay, 4, 255, 0, .int⟩,
  ⟨2, .set, .next, 0, 15, 46, .u64⟩, ⟨2, .or, .next, 0, 255, 38, .u64⟩,
  ⟨2, .or, .next, 0, 255, 30, .u64⟩, ⟨2, .or, .next, 0, 255, 22, .int⟩,
  ⟨2, .or, .next, 0, 255, 14, .int⟩, ⟨2, .or, .next, 0, 255, 6, .int⟩,
  ⟨2, .or, .stay, 2, 255, 0, .int⟩,
  ⟨3, .set, .next, 0, 3, 48, .u64⟩, ⟨3, .or, .next, 0, 255, 40, .u64⟩,
  ⟨3, .or, .next, 0, 255, 32, .u64⟩, ⟨3, .or, .next, 0, 255, 24, .u64⟩,
  ⟨3, .or, .next, 0, 255, 16, .int⟩, ⟨3, .or, .next, 0, 255, 8, .int⟩,
  ⟨3, .or, .next, 0, 255, 0, .int⟩,
  ⟨4, .set, .next, 0, 255, 42, .u64⟩, ⟨4, .or, .next, 0, 255, 34, .u64⟩,
  ⟨4, .or, .next, 0, 255, 26, .u64⟩, ⟨4, .or, .next, 0, 255, 18, .int⟩,
  ⟨4, .or, .next, 0, 255, 10, .int⟩, ⟨4, .or, .next, 0, 255, 2, .int⟩,
  ⟨4, .or, .stay, 6, 255, 0, .int⟩,
  ⟨5, .set, .next, 0, 63, 44, .u64⟩, ⟨5, .or, .next, 0, 255, 36, .u64⟩,
  ⟨5, .or, .next, 0, 255, 28, .u64⟩, ⟨5, .or, .next, 0, 255, 20, .int⟩,
  ⟨5, .or, .next, 0, 255, 12, .int⟩, ⟨5, .or, .next, 0, 255, 4, .int⟩,
  ⟨5, .or, .stay, 4, 255, 0, .int⟩,
  ⟨6, .set, .next, 0, 15, 46, .u64⟩, ⟨6, .or, .next, 0, 255, 38, .u64⟩,
  ⟨6, .or, .next, 0, 255, 30, .u64⟩, ⟨6, .or, .next, 0, 255, 22, .int⟩,
  ⟨6, .or, .next, 0, 255, 14, .int⟩, ⟨6, .or, .next, 0, 255, 6, .int⟩,
  ⟨6, .or, .stay, 2, 255, 0, .int⟩,
  ⟨7, .set, .next, 0, 3, 48, .u64⟩, ⟨7, .or, .next, 0, 255, 40, .u64⟩,
  ⟨7, .or, .next, 0, 255, 32, .u64⟩, ⟨7, .or, .next, 0, 255, 24, .u64⟩,
  ⟨7, .or, .next, 0, 255, 16, .int⟩, ⟨7, .or, .next, 0, 255, 8, .int⟩,
  ⟨7, .or, .stay, 0, 255, 0, .int⟩]

def unpackBits51 : List UnpackOp := [
  ⟨0, .set, .next, 0, 255, 43, .u64⟩, ⟨0, .or, .next, 0, 255, 35, .u64⟩,
  ⟨0, .or, .next, 0, 255, 27, .u64⟩, ⟨0, .or, .next, 0, 255, 19, .int⟩,
  ⟨0, .or, .next, 0, 255, 11, .int⟩, ⟨0, .or, .next, 0, 255, 3, .int⟩,
  ⟨0, .or, .stay, 5, 255, 0, .int⟩,
  ⟨1, .set, .next, 0, 31, 46, .u64⟩, ⟨1, .or, .next, 0, 255, 38, .u64⟩,
  ⟨1, .or, .next, 0, 255, 30, .u64⟩, ⟨1, .or, .next, 0, 255, 22, .int⟩,
  ⟨1, .or, .next, 0, 255, 14, .int⟩, ⟨1, .or, .next, 0, 255, 6, .int⟩,
  ⟨1, .or, .stay, 2, 255, 0, .int⟩,
  ⟨2, .set, .next, 0, 3, 49, .u64⟩, ⟨2, .or, .next, 0, 255, 41, .u64⟩,
  ⟨2, .or, .next, 0, 255, 33, .u64⟩, ⟨2, .or, .next, 0, 255, 25, .u64⟩,
  ⟨2, .or, .next, 0, 255, 17, .int⟩, ⟨2, .or, .next, 0, 255, 9, .int⟩,
  ⟨2, .or, .next, 0, 255, 1, .int⟩, ⟨2, .or, .stay, 7, 255, 0, .int⟩,
  ⟨3, .set, .next, 0, 127, 44, .u64⟩, ⟨3, .or, .next, 0, 255, 36, .u64⟩,
  ⟨3, .or, .next, 0, 255, 28, .u64⟩, ⟨3, .or, .next, 0, 255, 20, .int⟩,
  ⟨3, .or, .next, 0, 255, 12, .int⟩, ⟨3, .or, .next, 0, 255, 4, .int⟩,
  ⟨3, .or, .stay, 4, 255, 0, .int⟩,
  ⟨4, .set, .next, 0, 15, 47, .u64⟩, ⟨4, .or, .next, 0, 255, 39, .u64⟩,
  ⟨4, .or, .next, 0, 255, 31, .u64⟩, ⟨4, .or, .next, 0, 255, 23, .int⟩,
  ⟨4, .or, .next, 0, 255, 15, .int⟩, ⟨4, .or, .next, 0, 255, 7, .int⟩,
  ⟨4, .or, .stay, 1, 255, 0, .int⟩,
  ⟨5, .set, .next, 0, 1, 50, .u64⟩, ⟨5, .or, .next, 0, 255, 42, .u64⟩,
  ⟨5, .or, .next, 0, 255, 34, .u64⟩, ⟨5, .or, .next, 0, 255, 26, .u64⟩,
  ⟨5, .or, .next, 0, 255, 18, .int⟩, ⟨5, .or, .next, 0, 255, 10, .int⟩,
  ⟨5, .or, .next, 0, 255, 2, .int⟩, ⟨5, .or, .stay, 6, 255, 0, .int⟩,
  ⟨6, .set, .next, 0, 63, 45, .u64⟩, ⟨6, .or, .next, 0, 255, 37, .u64⟩,
  ⟨6, .or, .next, 0, 255, 29, .u64⟩, ⟨6, .or, .next, 0, 255, 21, .int⟩,
  ⟨6, .or, .next, 0, 255, 13, .int⟩, ⟨6, .or, .next, 0, 255, 5, .int⟩,
  ⟨6, .or, .stay, 3, 255, 0, .int⟩,
  ⟨7, .set, .next, 0, 7, 48, .u64⟩, ⟨7, .or, .next, 0, 255, 40, .u64⟩,
  ⟨7, .or, .next, 0, 255, 32, .u64⟩, ⟨7, .or, .next, 0, 255, 24, .u64⟩,
  ⟨7, .or, .next, 0, 255, 16, .int⟩, ⟨7, .or, .next, 0, 255, 8, .int⟩,
  ⟨7, .or, .stay, 0, 255, 0, .int⟩]

def unpackBits52 : List UnpackOp := [
  ⟨0, .set, .next, 0, 255, 44, .u64⟩, ⟨0, .or, .next, 0, 255, 36, .u64⟩,
  ⟨0, .or, .next, 0, 255, 28, .u64⟩, ⟨0, .or, .next, 0, 255, 20, .int⟩,
  ⟨0, .or, .next, 0, 255, 12, .int⟩, ⟨0, .or, .next, 0, 255, 4, .int⟩,
  ⟨0, .or, .stay, 4, 255, 0, .int⟩,
  ⟨1, .set, .next, 0, 15, 48, .u64⟩, ⟨1, .or, .next, 0, 255, 40, .u64⟩,
  ⟨1, .or, .next, 0, 255, 32, .u64⟩, ⟨1, .or, .next, 0, 255, 24, .u64⟩,
  ⟨1, .or, .next, 0, 255, 16, .int⟩, ⟨1, .or, .next, 0, 255, 8, .int⟩,
  ⟨1, .or, .next, 0, 255, 0, .int⟩,
  ⟨2, .set, .next, 0, 255, 44, .u64⟩, ⟨2, .or, .next, 0, 255, 36, .u64⟩,
  ⟨2, .or, .next, 0, 255, 28, .u64⟩, ⟨2, .or, .next, 0, 255, 20, .int⟩,
  ⟨2, .or, .next, 0, 255, 12, .int⟩, ⟨2, .or, .next, 0, 255, 4, .int⟩,
  ⟨2, .or, .stay, 4, 255, 0, .int⟩,
  ⟨3, .set, .next, 0, 15, 48, .u64⟩, ⟨3, .or, .next, 0, 255, 40, .u64⟩,
  ⟨3, .or, .next, 0, 255, 32, .u64⟩, ⟨3, .or, .next, 0, 255, 24, .u64⟩,
  ⟨3, .or, .next, 0, 255, 16, .int⟩, ⟨3, .or, .next, 0, 255, 8, .int⟩,
  ⟨3, .or, .next, 0, 255, 0, .int⟩,
  ⟨4, .set, .next, 0, 255, 44, .u64⟩, ⟨4, .or, .next, 0, 255, 36, .u64⟩,
  ⟨4, .or, .next, 0, 255, 28, .u64⟩, ⟨4, .or, .next, 0, 255, 20, .int⟩,
  ⟨4, .or, .next, 0, 255, 12, .int⟩, ⟨4, .or, .next, 0, 255, 4, .int⟩,
  ⟨4, .or, .stay, 4, 255, 0, .int⟩,
  ⟨5, .set, .next, 0, 15, 48, .u64⟩, ⟨5, .or, .next, 0, 255, 40, .u64⟩,
  ⟨5, .or, .next, 0, 255, 32, .u64⟩, ⟨5, .or, .next, 0, 255, 24, .u64⟩,
  ⟨5, .or, .next, 0, 255, 16, .int⟩, ⟨5, .or, .next, 0, 255, 8, .int⟩,
  ⟨5, .or, .next, 0, 255, 0, .int⟩,
  ⟨6, .set, .next, 0, 255, 44, .u64⟩, ⟨6, .or, .next, 0, 255, 36, .u64⟩,
  ⟨6, .or, .next, 0, 255, 28, .u64⟩, ⟨6, .or, .next, 0, 255, 20, .int⟩,
  ⟨6, .or, .next, 0, 255, 12, .int⟩, ⟨6, .or, .next, 0, 255, 4, .int⟩,
  ⟨6, .or, .stay, 4, 255, 0, .int⟩,
  ⟨7, .set, .next, 0, 15, 48, .u64⟩, ⟨7, .or, .next, 0, 255, 40, .u64⟩,
  ⟨7, .or, .next, 0, 255, 32, .u64⟩, ⟨7, .or, .next, 0, 255, 24, .u64⟩,
  ⟨7, .or, .next, 0, 255, 16, .int⟩, ⟨7, .or, .next, 0, 255, 8, .int⟩,
  ⟨7, .or, .stay, 0, 255, 0, .int⟩]

def unpackBits53 : List UnpackOp := [
  ⟨0, .set, .next, 0, 255, 45, .u64⟩, ⟨0, .or, .next, 0, 255, 37, .u64⟩,
  ⟨0, .or, .next, 0, 255, 29, .u64⟩, ⟨0, .or, .next, 0, 255, 21, .int⟩,
  ⟨0, .or, .next, 0, 255, 13, .int⟩, ⟨0, .or, .next, 0, 255, 5, .int⟩,
  ⟨0, .or, .stay, 3, 255, 0, .int⟩,
  ⟨1, .set, .next, 0, 7, 50, .u64⟩, ⟨1, .or, .next, 0, 255, 42, .u64⟩,
  ⟨1, .or, .next, 0, 255, 34, .u64⟩, ⟨1, .or, .next, 0, 255, 26, .u64⟩,
  ⟨1, .or, .next, 0, 255, 18, .int⟩, ⟨1, .or, .next, 0, 255, 10, .int⟩,
  ⟨1, .or, .next, 0, 255, 2, .int⟩, ⟨1, .or, .stay, 6, 255, 0, .int⟩,
  ⟨2, .set, .next, 0, 63, 47, .u64⟩, ⟨2, .or, .next, 0, 255, 39, .u64⟩,
  ⟨2, .or, .next, 0, 255, 31, .u64⟩, ⟨2, .or, .next, 0, 255, 23, .u64⟩,
  ⟨2, .or, .next, 0, 255, 15, .int⟩, ⟨2, .or, .next, 0, 255, 7, .int⟩,
  ⟨2, .or, .stay, 1, 255, 0, .int⟩,
  ⟨3, .set, .next, 0, 1, 52, .u64⟩, ⟨3, .or, .next, 0, 255, 44, .u64⟩,
  ⟨3, .or, .next, 0, 255, 36, .u64⟩, ⟨3, .or, .next, 0, 255, 28, .u64⟩,
  ⟨3, .or, .next, 0, 255, 20, .int⟩, ⟨3, .or, .next, 0, 255, 12, .int⟩,
  ⟨3, .or, .next, 0, 255, 4, .int⟩, ⟨3, .or, .stay, 4, 255, 0, .int⟩,
  ⟨4, .set, .next, 0, 15, 49, .u64⟩, ⟨4, .or, .next, 0, 255, 41, .u64⟩,
  ⟨4, .or, .next, 0, 255, 33, .u64⟩, ⟨4, .or, .next, 0, 255, 25, .u64⟩,
  ⟨4, .or, .next, 0, 255, 17, .int⟩, ⟨4, .or, .next, 0, 255, 9, .int⟩,
  ⟨4, .or, .next, 0, 255, 1, .int⟩, ⟨4, .or, .stay, 7, 255, 0, .int⟩,
  ⟨5, .set, .next, 0, 127, 46, .u64⟩, ⟨5, .or, .next, 0, 255, 38, .u64⟩,
  ⟨5, .or, .next, 0, 255, 30, .u64⟩, ⟨5, .or, .next, 0, 255, 22, .int⟩,
  ⟨5, .or, .next, 0, 255, 14, .int⟩, ⟨5, .or, .next, 0, 255, 6, .int⟩,
  ⟨5, .or, .stay, 2, 255, 0, .int⟩,
  ⟨6, .set, .next, 0, 3, 51, .u64⟩, ⟨6, .or, .next, 0, 255, 43, .u64⟩,
  ⟨6, .or, .next, 0, 255, 35, .u64⟩, ⟨6, .or, .next, 0, 255, 27, .u64⟩,
  ⟨6, .or, .next, 0, 255, 19, .int⟩, ⟨6, .or, .next, 0, 255, 11, .int⟩,
  ⟨6, .or, .next, 0, 255, 3, .int⟩, ⟨6, .or, .stay, 5, 255, 0, .int⟩,
  ⟨7, .set, .next, 0, 31, 48, .u64⟩, ⟨7, .or, .next, 0, 255, 40, .u64⟩,
  ⟨7, .or, .next, 0, 255, 32, .u64⟩, ⟨7, .or, .next, 0, 255, 24, .u64⟩,
  ⟨7, .or, .next, 0, 255, 16, .int⟩, ⟨7, .or, .next, 0, 255, 8, .int⟩,
  ⟨7, .or, .stay, 0, 255, 0, .int⟩]

def unpackBits54 : List UnpackOp := [
  ⟨0, .set, .next, 0, 255, 46, .u64⟩, ⟨0, .or, .next, 0, 255, 38, .u64⟩,
  ⟨0, .or, .next, 0, 255, 30, .u64⟩, ⟨0, .or, .next, 0, 255, 22, .int⟩,
  ⟨0, .or, .next, 0, 255, 14, .int⟩, ⟨0, .or, .next, 0, 255, 6, .int⟩,
  ⟨0, .or, .stay, 2, 255, 0, .int⟩,
  ⟨1, .set, .next, 0, 3, 52, .u64⟩, ⟨1, .or, .next, 0, 255, 44, .u64⟩,
  ⟨1, .or, .next, 0, 255, 36, .u64⟩, ⟨1, .or, .next, 0, 255, 28, .u64⟩,
  ⟨1, .or, .next, 0, 255, 20, .int⟩, ⟨1, .or, .next, 0, 255, 12, .int⟩,
  ⟨1, .or, .next, 0, 255, 4, .int⟩, ⟨1, .or, .stay, 4, 255, 0, .int⟩,
  ⟨2, .set, .next, 0, 15, 50, .u64⟩, ⟨2, .or, .next, 0, 255, 42, .u64⟩,
  ⟨2, .or, .next, 0, 255, 34, .u64⟩, ⟨2, .or, .next, 0, 255, 26, .u64⟩,
  ⟨2, .or, .next, 0, 255, 18, .int⟩, ⟨2, .or, .next, 0, 255, 10, .int⟩,
  ⟨2, .or, .next, 0, 255, 2, .int⟩, ⟨2, .or, .stay, 6, 255, 0, .int⟩,
  ⟨3, .set, .next, 0, 63, 48, .u64⟩, ⟨3, .or, .next, 0, 255, 40, .u64⟩,
  ⟨3, .or, .next, 0, 255, 32, .u64⟩, ⟨3, .or, .next, 0, 255, 24, .u64⟩,
  ⟨3, .or, .next, 0, 255, 16, .int⟩, ⟨3, .or, .next, 0, 255, 8, .int⟩,
  ⟨3, .or, .next, 0, 255, 0, .int⟩,
  ⟨4, .set, .next, 0, 255, 46, .u64⟩, ⟨4, .or, .next, 0, 255, 38, .u64⟩,
  ⟨4, .or, .next, 0, 255, 30, .u64⟩, ⟨4, .or, .next, 0, 255, 22, .int⟩,
  ⟨4, .or, .next, 0, 255, 14, .int⟩, ⟨4, .or, .next, 0, 255, 6, .int⟩,
  ⟨4, .or, .stay, 2, 255, 0, .int⟩,
  ⟨5, .set, .next, 0, 3, 52, .u64⟩, ⟨5, .or, .next, 0, 255, 44, .u64⟩,
  ⟨5, .or, .next, 0, 255, 36, .u64⟩, ⟨5, .or, .next, 0, 255, 28, .u64⟩,
  ⟨5, .or, .next, 0, 255, 20, .int⟩, ⟨5, .or, .next, 0, 255, 12, .int⟩,
  ⟨5, .or, .next, 0, 255, 4, .int⟩, ⟨5, .or, .stay, 4, 255, 0, .int⟩,
  ⟨6, .set, .next, 0, 15, 50, .u64⟩, ⟨6, .or, .next, 0, 255, 42, .u64⟩,
  ⟨6, .or, .next, 0, 255, 34, .u64⟩, ⟨6, .or, .next, 0, 255, 26, .u64⟩,
  ⟨6, .or, .next, 0, 255, 18, .int⟩, ⟨6, .or, .next, 0, 255, 10, .int⟩,
  ⟨6, .or, .next, 0, 255, 2, .int⟩, ⟨6, .or, .stay, 6, 255, 0, .int⟩,
  ⟨7, .set, .next, 0, 63, 48, .u64⟩, ⟨7, .or, .next, 0, 255, 40, .u64⟩,
  ⟨7, .or, .next, 0, 255, 32, .u64⟩, ⟨7, .or, .next, 0, 255, 24, .u64⟩,
  ⟨7, .or, .next, 0, 255, 16, .int⟩, ⟨7, .or, .next, 0, 255, 8, .int⟩,
  ⟨7, .or, .next, 0, 255, 0, .int⟩]

def unpackBits55 : List UnpackOp := [
  ⟨0, .set, .next, 0, 255, 47, .u64⟩, ⟨0, .or, .next, 0, 255, 39, .u64⟩,
  ⟨0, .or, .next, 0, 255, 31, .u64⟩, ⟨0, .or, .next, 0, 255, 23, .int⟩,
  ⟨0, .or, .next, 0, 255, 15, .int⟩, ⟨0, .or, .next, 0, 255, 7, .int⟩,
  ⟨0, .or, .stay, 1, 255, 0, .int⟩,
  ⟨1, .set, .next, 0, 1, 54, .u64⟩, ⟨1, .or, .next, 0, 255, 46, .u64⟩,
  ⟨1, .or, .next, 0, 255, 38, .u64⟩, ⟨1, .or, .next, 0, 255, 30, .u64⟩,
  ⟨1, .or, .next, 0, 255, 22, .int⟩, ⟨1, .or, .next, 0, 255, 14, .int⟩,
  ⟨1, .or, .next, 0, 255, 6, .int⟩, ⟨1, .or, .stay, 2, 255, 0, .int⟩,
  ⟨2, .set, .next, 0, 3, 53, .u64⟩, ⟨2, .or, .next, 0, 255, 45, .u64⟩,
  ⟨2, .or, .next, 0, 255, 37, .u64⟩, ⟨2, .or, .next, 0, 255, 29, .u64⟩,
  ⟨2, .or, .next, 0, 255, 21, .int⟩, ⟨2, .or, .next, 0, 255, 13, .int⟩,
  ⟨2, .or, .next, 0, 255, 5, .int⟩, ⟨2, .or, .stay, 3, 255, 0, .int⟩,
  ⟨3, .set, .next, 0, 7, 52, .u64⟩, ⟨3, .or, .next, 0, 255, 44, .u64⟩,
  ⟨3, .or, .next, 0, 255, 36, .u64⟩, ⟨3, .or, .next, 0, 255, 28, .u64⟩,
  ⟨3, .or, .next, 0, 255, 20, .int⟩, ⟨3, .or, .next, 0, 255, 12, .int⟩,
  ⟨3, .or, .next, 0, 255, 4, .int⟩, ⟨3, .or, .stay, 4, 255, 0, .int⟩,
  ⟨4, .set, .next, 0, 15, 51, .u64⟩, ⟨4, .or, .next, 0, 255, 43, .u64⟩,
  ⟨4, .or, .next, 0, 255, 35, .u64⟩, ⟨4, .or, .next, 0, 255, 27, .u64⟩,
  ⟨4, .or, .next, 0, 255, 19, .int⟩, ⟨4, .or, .next, 0, 255, 11, .int⟩,
  ⟨4, .or, .next, 0, 255, 3, .int⟩, ⟨4, .or, .stay, 5, 255, 0, .int⟩,
  ⟨5, .set, .next, 0, 31, 50, .u64⟩, ⟨5, .or, .next, 0, 255, 42, .u64⟩,
  ⟨5, .or, .next, 0, 255, 34, .u64⟩, ⟨5, .or, .next, 0, 255, 26, .u64⟩,
  ⟨5, .or, .next, 0, 255, 18, .int⟩, ⟨5, .or, .next, 0, 255, 10, .int⟩,
  ⟨5, .or, .next, 0, 255, 2, .int⟩, ⟨5, .or, .stay, 6, 255, 0, .int⟩,
  ⟨6, .set, .next, 0, 63, 49, .u64⟩, ⟨6, .or, .next, 0, 255, 41, .u64⟩,
  ⟨6, .or, .next, 0, 255, 33, .u64⟩, ⟨6, .or, .next, 0, 255, 25, .u64⟩,
  ⟨6, .or, .next, 0, 255, 17, .int⟩, ⟨6, .or, .next, 0, 255, 9, .int⟩,
  ⟨6, .or, .next, 0, 255, 1, .int⟩, ⟨6, .or, .stay, 7, 255, 0, .int⟩,
  ⟨7, .set, .next, 0, 127, 48, .u64⟩, ⟨7, .or, .next, 0, 255, 40, .u64⟩,
  ⟨7, .or, .next, 0, 255, 32, .u64⟩, ⟨7, .or, .next, 0, 255, 24, .u64⟩,
  ⟨7, .or, .next, 0, 255, 16, .int⟩, ⟨7, .or, .next, 0, 255, 8, .int⟩,
  ⟨7, .or, .stay, 0, 255, 0, .int⟩]

def unpackBits56 : List UnpackOp := [
  ⟨0, .set, .next, 0, 255, 48, .u64⟩, ⟨0, .or, .next, 0, 255, 40, .u64⟩,
  ⟨0, .or, .next, 0, 255, 32, .u64⟩, ⟨0, .or, .next, 0, 255, 24, .u64⟩,
  ⟨0, .or, .next, 0, 255, 16, .int⟩, ⟨0, .or, .next, 0, 255, 8, .int⟩,
  ⟨0, .or, .next, 0, 255, 0, .int⟩, ⟨1, .set, .next, 0, 255, 48, .u64⟩,
  ⟨1, .or, .next, 0, 255, 40, .u64⟩, ⟨1, .or, .next, 0, 255, 32, .u64⟩,
  ⟨1, .or, .next, 0, 255, 24, .u64⟩, ⟨1, .or, .next, 0, 255, 16, .int⟩,
  ⟨1, .or, .next, 0, 255, 8, .int⟩, ⟨1, .or, .next, 0, 255, 0, .int⟩,
  ⟨2, .set, .next, 0, 255, 48, .u64⟩, ⟨2, .or, .next, 0, 255, 40, .u64⟩,
  ⟨2, .or, .next, 0, 255, 32, .u64⟩, ⟨2, .or, .next, 0, 255, 24, .u64⟩,
  ⟨2, .or, .next, 0, 255, 16, .int⟩, ⟨2, .or, .next, 0, 255, 8, .int⟩,
  ⟨2, .or, .next, 0, 255, 0, .int⟩, ⟨3, .set, .next, 0, 255, 48, .u64⟩,
  ⟨3, .or, .next, 0, 255, 40, .u64⟩, ⟨3, .or, .next, 0, 255, 32, .u64⟩,
  ⟨3, .or, .next, 0, 255, 24, .u64⟩, ⟨3, .or, .next, 0, 255, 16, .int⟩,
  ⟨3, .or, .next, 0, 255, 8, .int⟩, ⟨3, .or, .next, 0, 255, 0, .int⟩,
  ⟨4, .set, .next, 0, 255, 48, .u64⟩, ⟨4, .or, .next, 0, 255, 40, .u64⟩,
  ⟨4, .or, .next, 0, 255, 32, .u64⟩, ⟨4, .or, .next, 0, 255, 24, .u64⟩,
  ⟨4, .or, .next, 0, 255, 16, .int⟩, ⟨4, .or, .next, 0, 255, 8, .int⟩,
  ⟨4, .or, .next, 0, 255, 0, .int⟩, ⟨5, .set, .next, 0, 255, 48, .u64⟩,
  ⟨5, .or, .next, 0, 255, 40, .u64⟩, ⟨5, .or, .next, 0, 255, 32, .u64⟩,
  ⟨5, .or, .next, 0, 255, 24, .u64⟩, ⟨5, .or, .next, 0, 255, 16, .int⟩,
  ⟨5, .or, .next, 0, 255, 8, .int⟩, ⟨5, .or, .next, 0, 255, 0, .int⟩,
  ⟨6, .set, .next, 0, 255, 48, .u64⟩, ⟨6, .or, .next, 0, 255, 40, .u64⟩,
  ⟨6, .or, .next, 0, 255, 32, .u64⟩, ⟨6, .or, .next, 0, 255, 24, .u64⟩,
  ⟨6, .or, .next, 0, 255, 16, .int⟩, ⟨6, .or, .next, 0, 255, 8, .int⟩,
  ⟨6, .or, .next, 0, 255, 0, .int⟩, ⟨7, .set, .next, 0, 255, 48, .u64⟩,
  ⟨7, .or, .next, 0, 255, 40, .u64⟩, ⟨7, .or, .next, 0, 255, 32, .u64⟩,
  ⟨7, .or, .next, 0, 255, 24, .u64⟩, ⟨7, .or, .next, 0, 255, 16, .int⟩,
  ⟨7, .or, .next, 0, 255, 8, .int⟩, ⟨7, .or, .stay, 0, 255, 0, .int⟩]

def unpackBits57 : List UnpackOp := [
  ⟨0, .set, .next, 0, 255, 49, .u64⟩, ⟨0, .or, .next, 0, 255, 41, .u64⟩,
  ⟨0, .or, .next, 0, 255, 33, .u64⟩, ⟨0, .or, .next, 0, 255, 25, .u64⟩,
  ⟨0, .or, .next, 0, 255, 17, .int⟩, ⟨0, .or, .next, 0, 255, 9, .int⟩,
  ⟨0, .or, .next, 0, 255, 1, .int⟩, ⟨0, .or, .stay, 7, 255, 0, .int⟩,
  ⟨1, .set, .next, 0, 127, 50, .u64⟩, ⟨1, .or, .next, 0, 255, 42, .u64⟩,
  ⟨1, .or, .next, 0, 255, 34, .u64⟩, ⟨1, .or, .next, 0, 255, 26, .u64⟩,
  ⟨1, .or, .next, 0, 255, 18, .int⟩, ⟨1, .or, .next, 0, 255, 10, .int⟩,
  ⟨1, .or, .next, 0, 255, 2, .int⟩, ⟨1, .or, .stay, 6, 255, 0, .int⟩,
  ⟨2, .set, .next, 0, 63, 51, .u64⟩, ⟨2, .or, .next, 0, 255, 43, .u64⟩,
  ⟨2, .or, .next, 0, 255, 35, .u64⟩, ⟨2, .or, .next, 0, 255, 27, .u64⟩,
  ⟨2, .or, .next, 0, 255, 19, .int⟩, ⟨2, .or, .next, 0, 255, 11, .int⟩,
  ⟨2, .or, .next, 0, 255, 3, .int⟩, ⟨2, .or, .stay, 5, 255, 0, .int⟩,
  ⟨3, .set, .next, 0, 31, 52, .u64⟩, ⟨3, .or, .next, 0, 255, 44, .u64⟩,
  ⟨3, .or, .next, 0, 255, 36, .u64⟩, ⟨3, .or, .next, 0, 255, 28, .u64⟩,
  ⟨3, .or, .next, 0, 255, 20, .int⟩, ⟨3, .or, .next, 0, 255, 12, .int⟩,
  ⟨3, .or, .next, 0, 255, 4, .int⟩, ⟨3, .or, .stay, 4, 255, 0, .int⟩,
  ⟨4, .set, .next, 0, 15, 53, .u64⟩, ⟨4, .or, .next, 0, 255, 45, .u64⟩,
  ⟨4, .or, .next, 0, 255, 37, .u64⟩, ⟨4, .or, .next, 0, 255, 29, .u64⟩,
  ⟨4, .or, .next, 0, 255, 21, .int⟩, ⟨4, .or, .next, 0, 255, 13, .int⟩,
  ⟨4, .or, .next, 0, 255, 5, .int⟩, ⟨4, .or, .stay, 3, 255, 0, .int⟩,
  ⟨5, .set, .next, 0, 7, 54, .u64⟩, ⟨5, .or, .next, 0, 255, 46, .u64⟩,
  ⟨5, .or, .next, 0, 255, 38, .u64⟩, ⟨5, .or, .next, 0, 255, 30, .u64⟩,
  ⟨5, .or, .next, 0, 255, 22, .int⟩, ⟨5, .or, .next, 0, 255, 14, .int⟩,
  ⟨5, .or, .next, 0, 255, 6, .int⟩, ⟨5, .or, .stay, 2, 255, 0, .int⟩,
  ⟨6, .set, .next, 0, 3, 55, .u64⟩, ⟨6, .or, .next, 0, 255, 47, .u64⟩,
  ⟨6, .or, .next, 0, 255, 39, .u64⟩, ⟨6, .or, .next, 0, 255, 31, .u64⟩,
  ⟨6, .or, .next, 0, 255, 23, .int⟩, ⟨6, .or, .next, 0, 255, 15, .int⟩,
  ⟨6, .or, .next, 0, 255, 7, .int⟩, ⟨6, .or, .stay, 1, 255, 0, .int⟩,
  ⟨7, .set, .next, 0, 1, 56, .u64⟩, ⟨7, .or, .next, 0, 255, 48, .u64⟩,
  ⟨7, .or, .next, 0, 255, 40, .u64⟩, ⟨7, .or, .next, 0, 255, 32, .u64⟩,
  ⟨7, .or, .next, 0, 255, 24, .u64⟩, ⟨7, .or, .next, 0, 255, 16, .int⟩,
  ⟨7, .or, .next, 0, 255, 8, .int⟩, ⟨7, .or, .stay, 0, 255, 0, .int⟩]

def unpackBits58 : List UnpackOp := [
  ⟨0, .set, .next, 0, 255, 50, .u64⟩, ⟨0, .or, .next, 0, 255, 42, .u64⟩,
  ⟨0, .or, .next, 0, 255, 34, .u64⟩, ⟨0, .or, .next, 0, 255, 26, .u64⟩,
  ⟨0, .or, .next, 0, 255, 18, .int⟩, ⟨0, .or, .next, 0, 255, 10, .int⟩,
  ⟨0, .or, .next, 0, 255, 2, .int⟩, ⟨0, .or, .stay, 6, 255, 0, .int⟩,
  ⟨1, .set, .next, 0, 63, 52, .u64⟩, ⟨1, .or, .next, 0, 255, 44, .u64⟩,
  ⟨1, .or, .next, 0, 255, 36, .u64⟩, ⟨1, .or, .next, 0, 255, 28, .u64⟩,
  ⟨1, .or, .next, 0, 255, 20, .int⟩, ⟨1, .or, .next, 0, 255, 12, .int⟩,
  ⟨1, .or, .next, 0, 255, 4, .int⟩, ⟨1, .or, .stay, 4, 255, 0, .int⟩,
  ⟨2, .set, .next, 0, 15, 54, .u64⟩, ⟨2, .or, .next, 0, 255, 46, .u64⟩,
  ⟨2, .or, .next, 0, 255, 38, .u64⟩, ⟨2, .or, .next, 0, 255, 30, .u64⟩,
  ⟨2, .or, .next, 0, 255, 22, .int⟩, ⟨2, .or, .next, 0, 255, 14, .int⟩,
  ⟨2, .or, .next, 0, 255, 6, .int⟩, ⟨2, .or, .stay, 2, 255, 0, .int⟩,
  ⟨3, .set, .next, 0, 3, 56, .u64⟩, ⟨3, .or, .next, 0, 255, 48, .u64⟩,
  ⟨3, .or, .next, 0, 255, 40, .u64⟩, ⟨3, .or, .next, 0, 255, 32, .u64⟩,
  ⟨3, .or, .next, 0, 255, 24, .u64⟩, ⟨3, .or, .next, 0, 255, 16, .int⟩,
  ⟨3, .or, .next, 0, 255, 8, .int⟩, ⟨3, .or, .next, 0, 255, 0, .int⟩,
  ⟨4, .set, .next, 0, 255, 50, .u64⟩, ⟨4, .or, .next, 0, 255, 42, .u64⟩,
  ⟨4, .or, .next, 0, 255, 34, .u64⟩, ⟨4, .or, .next, 0, 255, 26, .u64⟩,
  ⟨4, .or, .next, 0, 255, 18, .int⟩, ⟨4, .or, .next, 0, 255, 10, .int⟩,
  ⟨4, .or, .next, 0, 255, 2, .int⟩, ⟨4, .or, .stay, 6, 255, 0, .int⟩,
  ⟨5, .set, .next, 0, 63, 52, .u64⟩, ⟨5, .or, .next, 0, 255, 44, .u64⟩,
  ⟨5, .or, .next, 0, 255, 36, .u64⟩, ⟨5, .or, .next, 0, 255, 28, .u64⟩,
  ⟨5, .or, .next, 0, 255, 20, .int⟩, ⟨5, .or, .next, 0, 255, 12, .int⟩,
  ⟨5, .or, .next, 0, 255, 4, .int⟩, ⟨5, .or, .stay, 4, 255, 0, .int⟩,
  ⟨6, .set, .next, 0, 15, 54, .u64⟩, ⟨6, .or, .next, 0, 255, 46, .u64⟩,
  ⟨6, .or, .next, 0, 255, 38, .u64⟩, ⟨6, .or, .next, 0, 255, 30, .u64⟩,
  ⟨6, .or, .next, 0, 255, 22, .int⟩, ⟨6, .or, .next, 0, 255, 14, .int⟩,
  ⟨6, .or, .next, 0, 255, 6, .int⟩, ⟨6, .or, .stay, 2, 255, 0, .int⟩,
  ⟨7, .set, .next, 0, 3, 56, .u64⟩, ⟨7, .or, .next, 0, 255, 48, .u64⟩,
  ⟨7, .or, .next, 0, 255, 40, .u64⟩, ⟨7, .or, .next, 0, 255, 32, .u64⟩,
  ⟨7, .or, .next, 0, 255, 24, .u64⟩, ⟨7, .or, .next, 0, 255, 16, .int⟩,
  ⟨7, .or, .next, 0, 255, 8, .int⟩, ⟨7, .or, .next, 0, 255, 0, .int⟩]

def unpackBits59 : List UnpackOp := [
  ⟨0, .set, .next, 0, 255, 51, .u64⟩, ⟨0, .or, .next, 0, 255, 43, .u64⟩,
  ⟨0, .or, .next, 0, 255, 35, .u64⟩, ⟨0, .or, .next, 0, 255, 27, .u64⟩,
  ⟨0, .or, .next, 0, 255, 19, .int⟩, ⟨0, .or, .next, 0, 255, 11, .int⟩,
  ⟨0, .or, .next, 0, 255, 3, .int⟩, ⟨0, .or, .stay, 5, 255, 0, .int⟩,
  ⟨1, .set, .next, 0, 31, 54, .u64⟩, ⟨1, .or, .next, 0, 255, 46, .u64⟩,
  ⟨1, .or, .next, 0, 255, 38, .u64⟩, ⟨1, .or, .next, 0, 255, 30, .u64⟩,
  ⟨1, .or, .next, 0, 255, 22, .int⟩, ⟨1, .or, .next, 0, 255, 14, .int⟩,
  ⟨1, .or, .next, 0, 255, 6, .int⟩, ⟨1, .or, .stay, 2, 255, 0, .int⟩,
  ⟨2, .set, .next, 0, 3, 57, .u64⟩, ⟨2, .or, .next, 0, 255, 49, .u64⟩,
  ⟨2, .or, .next, 0, 255, 41, .u64⟩, ⟨2, .or, .next, 0, 255, 33, .u64⟩,
  ⟨2, .or, .next, 0, 255, 25, .u64⟩, ⟨2, .or, .next, 0, 255, 17, .int⟩,
  ⟨2, .or, .next, 0, 255, 9, .int⟩, ⟨2, .or, .next, 0, 255, 1, .int⟩,
  ⟨2, .or, .stay, 7, 255, 0, .int⟩,
  ⟨3, .set, .next, 0, 127, 52, .u64⟩, ⟨3, .or, .next, 0, 255, 44, .u64⟩,
  ⟨3, .or, .next, 0, 255, 36, .u64⟩, ⟨3, .or, .next, 0, 255, 28, .u64⟩,
  ⟨3, .or, .next, 0, 255, 20, .int⟩, ⟨3, .or, .next, 0, 255, 12, .int⟩,
  ⟨3, .or, .next, 0, 255, 4, .int⟩, ⟨3, .or, .stay, 4, 255, 0, .int⟩,
  ⟨4, .set, .next, 0, 15, 55, .u64⟩, ⟨4, .or, .next, 0, 255, 47, .u64⟩,
  ⟨4, .or, .next, 0, 255, 39, .u64⟩, ⟨4, .or, .next, 0, 255, 31, .u64⟩,
  ⟨4, .or, .next, 0, 255, 23, .int⟩, ⟨4, .or, .next, 0, 255, 15, .int⟩,
  ⟨4, .or, .next, 0, 255, 7, .int⟩, ⟨4, .or, .stay, 1, 255, 0, .int⟩,
  ⟨5, .set, .next, 0, 1, 58, .u64⟩, ⟨5, .or, .next, 0, 255, 50, .u64⟩,
  ⟨5, .or, .next, 0, 255, 42, .u64⟩, ⟨5, .or, .next, 0, 255, 34, .u64⟩,
  ⟨5, .or, .next, 0, 255, 26, .u64⟩, ⟨5, .or, .next, 0, 255, 18, .int⟩,
  ⟨5, .or, .next, 0, 255, 10, .int⟩, ⟨5, .or, .next, 0, 255, 2, .int⟩,
  ⟨5, .or, .stay, 6, 255, 0, .int⟩,
  ⟨6, .set, .next, 0, 63, 53, .u64⟩, ⟨6, .or, .next, 0, 255, 45, .u64⟩,
  ⟨6, .or, .next, 0, 255, 37, .u64⟩, ⟨6, .or, .next, 0, 255, 29, .u64⟩,
  ⟨6, .or, .next, 0, 255, 21, .int⟩, ⟨6, .or, .next, 0, 255, 13, .int⟩,
  ⟨6, .or, .next, 0, 255, 5, .int⟩, ⟨6, .or, .stay, 3, 255, 0, .int⟩,
  ⟨7, .set, .next, 0, 7, 56, .u64⟩, ⟨7, .or, .next, 0, 255, 48, .u64⟩,
  ⟨7, .or, .next, 0, 255, 40, .u64⟩, ⟨7, .or, .next, 0, 255, 32, .u64⟩,
  ⟨7, .or, .next, 0, 255, 24, .u64⟩, ⟨7, .or, .next, 0, 255, 16, .int⟩,
  ⟨7, .or, .next, 0, 255, 8, .int⟩, ⟨7, .or, .stay, 0, 255, 0, .int⟩]

def unpackBits60 : List UnpackOp := [
  ⟨0, .set, .next, 0, 255, 52, .u64⟩, ⟨0, .or, .next, 0, 255, 44, .u64⟩,
  ⟨0, .or, .next, 0, 255, 36, .u64⟩, ⟨0, .or, .next, 0, 255, 28, .u64⟩,
  ⟨0, .or, .next, 0, 255, 20, .int⟩, ⟨0, .or, .next, 0, 255, 12, .int⟩,
  ⟨0, .or, .next, 0, 255, 4, .int⟩, ⟨0, .or, .stay, 4, 255, 0, .int⟩,
  ⟨1, .set, .next, 0, 15, 56, .u64⟩, ⟨1, .or, .next, 0, 255, 48, .u64⟩,
  ⟨1, .or, .next, 0, 255, 40, .u64⟩, ⟨1, .or, .next, 0, 255, 32, .u64⟩,
  ⟨1, .or, .next, 0, 255, 24, .u64⟩, ⟨1, .or, .next, 0, 255, 16, .int⟩,
  ⟨1, .or, .next, 0, 255, 8, .int⟩, ⟨1, .or, .next, 0, 255, 0, .int⟩,
  ⟨2, .set, .next, 0, 255, 52, .u64⟩, ⟨2, .or, .next, 0, 255, 44, .u64⟩,
  ⟨2, .or, .next, 0, 255, 36, .u64⟩, ⟨2, .or, .next, 0, 255, 28, .u64⟩,
  ⟨2, .or, .next, 0, 255, 20, .int⟩, ⟨2, .or, .next, 0, 255, 12, .int⟩,
  ⟨2, .or, .next, 0, 255, 4, .int⟩, ⟨2, .or, .stay, 4, 255, 0, .int⟩,
  ⟨3, .set, .next, 0, 15, 56, .u64⟩, ⟨3, .or, .next, 0, 255, 48, .u64⟩,
  ⟨3, .or, .next, 0, 255, 40, .u64⟩, ⟨3, .or, .next, 0, 255, 32, .u64⟩,
  ⟨3, .or, .next, 0, 255, 24, .u64⟩, ⟨3, .or, .next, 0, 255, 16, .int⟩,
  ⟨3, .or, .next, 0, 255, 8, .int⟩, ⟨3, .or, .next, 0, 255, 0, .int⟩,
  ⟨4, .set, .next, 0, 255, 52, .u64⟩, ⟨4, .or, .next, 0, 255, 44, .u64⟩,
  ⟨4, .or, .next, 0, 255, 36, .u64⟩, ⟨4, .or, .next, 0, 255, 28, .u64⟩,
  ⟨4, .or, .next, 0, 255, 20, .int⟩, ⟨4, .or, .next, 0, 255, 12, .int⟩,
  ⟨4, .or, .next, 0, 255, 4, .int⟩, ⟨4, .or, .stay, 4, 255, 0, .int⟩,
  ⟨5, .set, .next, 0, 15, 56, .u64⟩, ⟨5, .or, .next, 0, 255, 48, .u64⟩,
  ⟨5, .or, .next, 0, 255, 40, .u64⟩, ⟨5, .or, .next, 0, 255, 32, .u64⟩,
  ⟨5, .or, .next, 0, 255, 24, .u64⟩, ⟨5, .or, .next, 0, 255, 16, .int⟩,
  ⟨5, .or, .next, 0, 255, 8, .int⟩, ⟨5, .or, .next, 0, 255, 0, .int⟩,
  ⟨6, .set, .next, 0, 255, 52, .u64⟩, ⟨6, .or, .next, 0, 255, 44, .u64⟩,
  ⟨6, .or, .next, 0, 255, 36, .u64⟩, ⟨6, .or, .next, 0, 255, 28, .u64⟩,
  ⟨6, .or, .next, 0, 255, 20, .int⟩, ⟨6, .or, .next, 0, 255, 12, .int⟩,
  ⟨6, .or, .next, 0, 255, 4, .int⟩, ⟨6, .or, .stay, 4, 255, 0, .int⟩,
  ⟨7, .set, .next, 0, 15, 56, .u64⟩, ⟨7, .or, .next, 0, 255, 48, .u64⟩,
  ⟨7, .or, .next, 0, 255, 40, .u64⟩, ⟨7, .or, .next, 0, 255, 32, .u64⟩,
  ⟨7, .or, .next, 0, 255, 24, .u64⟩, ⟨7, .or, .next, 0, 255, 16, .int⟩,
  ⟨7, .or, .next, 0, 255, 8, .int⟩, ⟨7, .or, .stay, 0, 255, 0, .int⟩]

def unpackBits61 : List UnpackOp := [
  ⟨0, .set, .next, 0, 255, 53, .u64⟩, ⟨0, .or, .next, 0, 255, 45, .u64⟩,
  ⟨0, .or, .next, 0, 255, 37, .u64⟩, ⟨0, .or, .next, 0, 255, 29, .u64⟩,
  ⟨0, .or, .next, 0, 255, 21, .int⟩, ⟨0, .or, .next, 0, 255, 13, .int⟩,
  ⟨0, .or, .next, 0, 255, 5, .int⟩, ⟨0, .or, .stay, 3, 255, 0, .int⟩,
  ⟨1, .set, .next, 0, 7, 58, .u64⟩, ⟨1, .or, .next, 0, 255, 50, .u64⟩,
  ⟨1, .or, .next, 0, 255, 42, .u64⟩, ⟨1, .or, .next, 0, 255, 34, .u64⟩,
  ⟨1, .or, .next, 0, 255, 26, .u64⟩, ⟨1, .or, .next, 0, 255, 18, .int⟩,
  ⟨1, .or, .next, 0, 255, 10, .int⟩, ⟨1, .or, .next, 0, 255, 2, .int⟩,
  ⟨1, .or, .stay, 6, 255, 0, .int⟩,
  ⟨2, .set, .next, 0, 63, 55, .u64⟩, ⟨2, .or, .next, 0, 255, 47, .u64⟩,
  ⟨2, .or, .next, 0, 255, 39, .u64⟩, ⟨2, .or, .next, 0, 255, 31, .u64⟩,
  ⟨2, .or, .next, 0, 255, 23, .int⟩, ⟨2, .or, .next, 0, 255, 15, .int⟩,
  ⟨2, .or, .next, 0, 255, 7, .int⟩, ⟨2, .or, .stay, 1, 255, 0, .int⟩,
  ⟨3, .set, .next, 0, 1, 60, .u64⟩, ⟨3, .or, .next, 0, 255, 52, .u64⟩,
  ⟨3, .or, .next, 0, 255, 44, .u64⟩, ⟨3, .or, .next, 0, 255, 36, .u64⟩,
  ⟨3, .or, .next, 0, 255, 28, .u64⟩, ⟨3, .or, .next, 0, 255, 20, .int⟩,
  ⟨3, .or, .next, 0, 255, 12, .int⟩, ⟨3, .or, .next, 0, 255, 4, .int⟩,
  ⟨3, .or, .stay, 4, 255, 0, .int⟩,
  ⟨4, .set, .next, 0, 15, 57, .u64⟩, ⟨4, .or, .next, 0, 255, 49, .u64⟩,
  ⟨4, .or, .next, 0, 255, 41, .u64⟩, ⟨4, .or, .next, 0, 255, 33, .u64⟩,
  ⟨4, .or, .next, 0, 255, 25, .u64⟩, ⟨4, .or, .next, 0, 255, 17, .int⟩,
  ⟨4, .or, .next, 0, 255, 9, .int⟩, ⟨4, .or, .next, 0, 255, 1, .int⟩,
  ⟨4, .or, .stay, 7, 255, 0, .int⟩,
  ⟨5, .set, .next, 0, 127, 54, .u64⟩, ⟨5, .or, .next, 0, 255, 46, .u64⟩,
  ⟨5, .or, .next, 0, 255, 38, .u64⟩, ⟨5, .or, .next, 0, 255, 30, .u64⟩,
  ⟨5, .or, .next, 0, 255, 22, .int⟩, ⟨5, .or, .next, 0, 255, 14, .int⟩,
  ⟨5, .or, .next, 0, 255, 6, .int⟩, ⟨5, .or, .stay, 2, 255, 0, .int⟩,
  ⟨6, .set, .next, 0, 3, 59, .u64⟩, ⟨6, .or, .next, 0, 255, 51, .u64⟩,
  ⟨6, .or, .next, 0, 255, 43, .u64⟩, ⟨6, .or, .next, 0, 255, 35, .u64⟩,
  ⟨6, .or, .next, 0, 255, 27, .u64⟩, ⟨6, .or, .next, 0, 255, 19, .int⟩,
  ⟨6, .or, .next, 0, 255, 11, .int⟩, ⟨6, .or, .next, 0, 255, 3, .int⟩,
  ⟨6, .or, .stay, 5, 255, 0, .int⟩,
  ⟨7, .set, .next, 0, 31, 56, .u64⟩, ⟨7, .or, .next, 0, 255, 48, .u64⟩,
  ⟨7, .or, .next, 0, 255, 40, .u64⟩, ⟨7, .or, .next, 0, 255, 32, .u64⟩,
  ⟨7, .or, .next, 0, 255, 24, .u64⟩, ⟨7, .or, .next, 0, 255, 16, .int⟩,
  ⟨7, .or, .next, 0, 255, 8, .int⟩, ⟨7, .or, .stay, 0, 255, 0, .int⟩]

def unpackBits62 : List UnpackOp := [
  ⟨0, .set, .next, 0, 255, 54, .u64⟩, ⟨0, .or, .next, 0, 255, 46, .u64⟩,
  ⟨0, .or, .next, 0, 255, 38, .u64⟩, ⟨0, .or, .next, 0, 255, 30, .u64⟩,
  ⟨0, .or, .next, 0, 255, 22, .int⟩, ⟨0, .or, .next, 0, 255, 14, .int⟩,
  ⟨0, .or, .next, 0, 255, 6, .int⟩, ⟨0, .or, .stay, 2, 255, 0, .int⟩,
  ⟨1, .set, .next, 0, 3, 60, .u64⟩, ⟨1, .or, .next, 0, 255, 52, .u64⟩,
  ⟨1, .or, .next, 0, 255, 44, .u64⟩, ⟨1, .or, .next, 0, 255, 36, .u64⟩,
  ⟨1, .or, .next, 0, 255, 28, .u64⟩, ⟨1, .or, .next, 0, 255, 20, .int⟩,
  ⟨1, .or, .next, 0, 255, 12, .int⟩, ⟨1, .or, .next, 0, 255, 4, .int⟩,
  ⟨1, .or, .stay, 4, 255, 0, .int⟩,
  ⟨2, .set, .next, 0, 15, 58, .u64⟩, ⟨2, .or, .next, 0, 255, 50, .u64⟩,
  ⟨2, .or, .next, 0, 255, 42, .u64⟩, ⟨2, .or, .next, 0, 255, 34, .u64⟩,
  ⟨2, .or, .next, 0, 255, 26, .u64⟩, ⟨2, .or, .next, 0, 255, 18, .int⟩,
  ⟨2, .or, .next, 0, 255, 10, .int⟩, ⟨2, .or, .next, 0, 255, 2, .int⟩,
  ⟨2, .or, .stay, 6, 255, 0, .int⟩,
  ⟨3, .set, .next, 0, 63, 56, .u64⟩, ⟨3, .or, .next, 0, 255, 48, .u64⟩,
  ⟨3, .or, .next, 0, 255, 40, .u64⟩, ⟨3, .or, .next, 0, 255, 32, .u64⟩,
  ⟨3, .or, .next, 0, 255, 24, .u64⟩, ⟨3, .or, .next, 0, 255, 16, .int⟩,
  ⟨3, .or, .next, 0, 255, 8, .int⟩, ⟨3, .or, .next, 0, 255, 0, .int⟩,
  ⟨4, .set, .next, 0, 255, 54, .u64⟩, ⟨4, .or, .next, 0, 255, 46, .u64⟩,
  ⟨4, .or, .next, 0, 255, 38, .u64⟩, ⟨4, .or, .next, 0, 255, 30, .u64⟩,
  ⟨4, .or, .next, 0, 255, 22, .int⟩, ⟨4, .or, .next, 0, 255, 14, .int⟩,
  ⟨4, .or, .next, 0, 255, 6, .int⟩, ⟨4, .or, .stay, 2, 255, 0, .int⟩,
  ⟨5, .set, .next, 0, 3, 60, .u64⟩, ⟨5, .or, .next, 0, 255, 52, .u64⟩,
  ⟨5, .or, .next, 0, 255, 44, .u64⟩, ⟨5, .or, .next, 0, 255, 36, .u64⟩,
  ⟨5, .or, .next, 0, 255, 28, .u64⟩, ⟨5, .or, .next, 0, 255, 20, .int⟩,
  ⟨5, .or, .next, 0, 255, 12, .int⟩, ⟨5, .or, .next, 0, 255, 4, .int⟩,
  ⟨5, .or, .stay, 4, 255, 0, .int⟩,
  ⟨6, .set, .next, 0, 15, 58, .u64⟩, ⟨6, .or, .next, 0, 255, 50, .u64⟩,
  ⟨6, .or, .next, 0, 255, 42, .u64⟩, ⟨6, .or, .next, 0, 255, 34, .u64⟩,
  ⟨6, .or, .next, 0, 255, 26, .u64⟩, ⟨6, .or, .next, 0, 255, 18, .int⟩,
  ⟨6, .or, .next, 0, 255, 10, .int⟩, ⟨6, .or, .next, 0, 255, 2, .int⟩,
  ⟨6, .or, .stay, 6, 255, 0, .int⟩,
  ⟨7, .set, .next, 0, 63, 56, .u64⟩, ⟨7, .or, .next, 0, 255, 48, .u64⟩,
  ⟨7, .or, .next, 0, 255, 40, .u64⟩, ⟨7, .or, .next, 0, 255, 32, .u64⟩,
  ⟨7, .or, .next, 0, 255, 24, .u64⟩, ⟨7, .or, .next, 0, 255, 16, .int⟩,
  ⟨7, .or, .next, 0, 255, 8, .int⟩, ⟨7, .or, .stay, 0, 255, 0, .int⟩]

def unpackBits63 : List UnpackOp := [
  ⟨0, .set, .next, 0, 255, 55, .u64⟩, ⟨0, .or, .next, 0, 255, 47, .u64⟩,
  ⟨0, .or, .next, 0, 255, 39, .u64⟩, ⟨0, .or, .next, 0, 255, 31, .u64⟩,
  ⟨0, .or, .next, 0, 255, 23, .int⟩, ⟨0, .or, .next, 0, 255, 15, .int⟩,
  ⟨0, .or, .next, 0, 255, 7, .int⟩, ⟨0, .or, .stay, 1, 255, 0, .int⟩,
  ⟨1, .set, .next, 0, 1, 62, .u64⟩, ⟨1, .or, .next, 0, 255, 54, .u64⟩,
  ⟨1, .or, .next, 0, 255, 46, .u64⟩, ⟨1, .or, .next, 0, 255, 38, .u64⟩,
  ⟨1, .or, .next, 0, 255, 30, .u64⟩, ⟨1, .or, .next, 0, 255, 22, .int⟩,
  ⟨1, .or, .next, 0, 255, 14, .int⟩, ⟨1, .or, .next, 0, 255, 6, .int⟩,
  ⟨1, .or, .stay, 2, 255, 0, .int⟩,
  ⟨2, .set, .next, 0, 3, 61, .u64⟩, ⟨2, .or, .next, 0, 255, 53, .u64⟩,
  ⟨2, .or, .next, 0, 255, 45, .u64⟩, ⟨2, .or, .next, 0, 255, 37, .u64⟩,
  ⟨2, .or, .next, 0, 255, 29, .u64⟩, ⟨2, .or, .next, 0, 255, 21, .int⟩,
  ⟨2, .or, .next, 0, 255, 13, .int⟩, ⟨2, .or, .next, 0, 255, 5, .int⟩,
  ⟨2, .or, .stay, 3, 255, 0, .int⟩,
  ⟨3, .set, .next, 0, 7, 60, .u64⟩, ⟨3, .or, .next, 0, 255, 52, .u64⟩,
  ⟨3, .or, .next, 0, 255, 44, .u64⟩, ⟨3, .or, .next, 0, 255, 36, .u64⟩,
  ⟨3, .or, .next, 0, 255, 28, .u64⟩, ⟨3, .or, .next, 0, 255, 20, .int⟩,
  ⟨3, .or, .next, 0, 255, 12, .int⟩, ⟨3, .or, .next, 0, 255, 4, .int⟩,
  ⟨3, .or, .stay, 4, 255, 0, .int⟩,
  ⟨4, .set, .next, 0, 15, 59, .u64⟩, ⟨4, .or, .next, 0, 255, 51, .u64⟩,
  ⟨4, .or, .next, 0, 255, 43, .u64⟩, ⟨4, .or, .next, 0, 255, 35, .u64⟩,
  ⟨4, .or, .next, 0, 255, 27, .u64⟩, ⟨4, .or, .next, 0, 255, 19, .int⟩,
  ⟨4, .or, .next, 0, 255, 11, .int⟩, ⟨4, .or, .next, 0, 255, 3, .int⟩,
  ⟨4, .or, .stay, 5, 255, 0, .int⟩,
  ⟨5, .set, .next, 0, 31, 58, .u64⟩, ⟨5, .or, .next, 0, 255, 50, .u64⟩,
  ⟨5, .or, .next, 0, 255, 42, .u64⟩, ⟨5, .or, .next, 0, 255, 34, .u64⟩,
  ⟨5, .or, .next, 0, 255, 26, .u64⟩, ⟨5, .or, .next, 0, 255, 18, .int⟩,
  ⟨5, .or, .next, 0, 255, 10, .int⟩, ⟨5, .or, .next, 0, 255, 2, .int⟩,
  ⟨5, .or, .stay, 6, 255, 0, .int⟩,
  ⟨6, .set, .next, 0, 63, 57, .u64⟩, ⟨6, .or, .next, 0, 255, 49, .u64⟩,
  ⟨6, .or, .next, 0, 255, 41, .u64⟩, ⟨6, .or, .next, 0, 255, 33, .u64⟩,
  ⟨6, .or, .next, 0, 255, 25, .u64⟩, ⟨6, .or, .next, 0, 255, 17, .int⟩,
  ⟨6, .or, .next, 0, 255, 9, .int⟩, ⟨6, .or, .next, 0, 255, 1, .int⟩,
  ⟨6, .or, .stay, 7, 255, 0, .int⟩,
  ⟨7, .set, .next, 0, 127, 56, .u64⟩, ⟨7, .or, .next, 0, 255, 48, .u64⟩,
  ⟨7, .or, .next, 0, 255, 40, .u64⟩, ⟨7, .or, .next, 0, 255, 32, .u64⟩,
  ⟨7, .or, .next, 0, 255, 24, .u64⟩, ⟨7, .or, .next, 0, 255, 16, .int⟩,
  ⟨7, .or, .next, 0, 255, 8, .int⟩, ⟨7, .or, .stay, 0, 255, 0, .int⟩]

def unpackBlockOps : ℕ → Option (List UnpackOp)
  | 1 => some unpackBits1
  | 2 => some unpackBits2
  | 3 => some unpackBits3
  | 4 => some unpackBits4
  | 5 => some unpackBits5
  | 6 => some unpackBits6
  | 7 => some unpackBits7
  | 8 => some unpackBits8
  | 9 => some unpackBits9
  | 10 => some unpackBits10
  | 11 => some unpackBits11
  | 12 => some unpackBits12
  | 13 => some unpackBits13
  | 14 => some unpackBits14
  | 15 => some unpackBits15
  | 16 => some unpackBits16
  | 17 => some unpackBits17
  | 18 => some unpackBits18
  | 19 => some unpackBits19
  | 20 => some unpackBits20
  | 21 => some unpackBits21
  | 22 => some unpackBits22
  | 23 => some unpackBits23
  | 24 => some unpackBits24
  | 25 => some unpackBits25
  | 26 => some unpackBits26
  | 27 => some unpackBits27
  | 28 => some unpackBits28
  | 29 => some unpackBits29
  | 30 => some unpackBits30
  | 31 => some unpackBits31
  | 32 => some unpackBits32
  | 33 => some unpackBits33
  | 34 => some unpackBits34
  | 35 => some unpackBits35
  | 36 => some unpackBits36
  | 37 => some unpackBits37
  | 38 => some unpackBits38
  | 39 => some unpackBits39
  | 40 => some unpackBits40
  | 41 => some unpackBits41
  | 42 => some unpackBits42
  | 43 => some unpackBits43
  | 44 => some unpackBits44
  | 45 => some unpackBits45
  | 46 => some unpackBits46
  | 47 => some unpackBits47
  | 48 => some unpackBits48
  | 49 => some unpackBits49
  | 50 => some unpackBits50
  | 51 => some unpackBits51
  | 52 => some unpackBits52
  | 53 => some unpackBits53
  | 54 => some unpackBits54
  | 55 => some unpackBits55
  | 56 => some unpackBits56
  | 57 => some unpackBits57
  | 58 => some unpackBits58
  | 59 => some unpackBits59
  | 60 => some unpackBits60
  | 61 => some unpackBits61
  | 62 => some unpackBits62
  | 63 => some unpackBits63
  | _ => none

def unpackBitsBlock8 (values : List ℕ) (bytes : List UInt8) (ptr bits : ℕ) : Run (List ℕ) :=
  match unpackBlockOps bits with
  | some ops => runUnpack bytes ops ptr values
  | none => .error (.logicErr ("wrong number of bits " ++ toString bits))

end ThetaSketch
