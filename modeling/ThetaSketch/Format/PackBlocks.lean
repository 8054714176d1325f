import ThetaSketch.Format.BitPacking

/-! The packing routines for blocks of eight values, one for each width.

An entry is `⟨assign, step, index, left, right⟩`, in the order of the statements.
-/

set_option autoImplicit false

namespace ThetaSketch

def packBits1 : List PackOp := [
  ⟨.set, .stay, 0, 7, 0⟩, ⟨.or, .stay, 1, 6, 0⟩, ⟨.or, .stay, 2, 5, 0⟩, ⟨.or, .stay, 3, 4, 0⟩,
  ⟨.or, .stay, 4, 3, 0⟩, ⟨.or, .stay, 5, 2, 0⟩, ⟨.or, .stay, 6, 1, 0⟩, ⟨.or, .stay, 7, 0, 0⟩]

def packBits2 : List PackOp := [
  ⟨.set, .stay, 0, 6, 0⟩, ⟨.or, .stay, 1, 4, 0⟩, ⟨.or, .stay, 2, 2, 0⟩, ⟨.or, .next, 3, 0, 0⟩,
  ⟨.set, .stay, 4, 6, 0⟩, ⟨.or, .stay, 5, 4, 0⟩, ⟨.or, .stay, 6, 2, 0⟩, ⟨.or, .stay, 7, 0, 0⟩]

def packBits3 : List PackOp := [
  ⟨.set, .stay, 0, 5, 0⟩, ⟨.or, .stay, 1, 2, 0⟩, ⟨.or, .next, 2, 0, 1⟩,
  ⟨.set, .stay, 2, 7, 0⟩, ⟨.or, .stay, 3, 4, 0⟩, ⟨.or, .stay, 4, 1, 0⟩, ⟨.or, .next, 5, 0, 2⟩,
  ⟨.set, .stay, 5, 6, 0⟩, ⟨.or, .stay, 6, 3, 0⟩, ⟨.or, .stay, 7, 0, 0⟩]

def packBits4 : List PackOp := [
  ⟨.set, .stay, 0, 4, 0⟩, ⟨.or, .next, 1, 0, 0⟩,
  ⟨.set, .stay, 2, 4, 0⟩, ⟨.or, .next, 3, 0, 0⟩,
  ⟨.set, .stay, 4, 4, 0⟩, ⟨.or, .next, 5, 0, 0⟩,
  ⟨.set, .stay, 6, 4, 0⟩, ⟨.or, .stay, 7, 0, 0⟩]

def packBits5 : List PackOp := [
  ⟨.set, .stay, 0, 3, 0⟩, ⟨.or, .next, 1, 0, 2⟩,
  ⟨.set, .stay, 1, 6, 0⟩, ⟨.or, .stay, 2, 1, 0⟩, ⟨.or, .next, 3, 0, 4⟩,
  ⟨.set, .stay, 3, 4, 0⟩, ⟨.or, .next, 4, 0, 1⟩,
  ⟨.set, .stay, 4, 7, 0⟩, ⟨.or, .stay, 5, 2, 0⟩, ⟨.or, .next, 6, 0, 3⟩,
  ⟨.set, .stay, 6, 5, 0⟩, ⟨.or, .stay, 7, 0, 0⟩]

def packBits6 : List PackOp := [
  ⟨.set, .stay, 0, 2, 0⟩, ⟨.or, .next, 1, 0, 4⟩,
  ⟨.set, .stay, 1, 4, 0⟩, ⟨.or, .next, 2, 0, 2⟩,
  ⟨.set, .stay, 2, 6, 0⟩, ⟨.or, .next, 3, 0, 0⟩,
  ⟨.set, .stay, 4, 2, 0⟩, ⟨.or, .next, 5, 0, 4⟩,
  ⟨.set, .stay, 5, 4, 0⟩, ⟨.or, .next, 6, 0, 2⟩,
  ⟨.set, .stay, 6, 6, 0⟩, ⟨.or, .stay, 7, 0, 0⟩]

def packBits7 : List PackOp := [
  ⟨.set, .stay, 0, 1, 0⟩, ⟨.or, .next, 1, 0, 6⟩,
  ⟨.set, .stay, 1, 2, 0⟩, ⟨.or, .next, 2, 0, 5⟩,
  ⟨.set, .stay, 2, 3, 0⟩, ⟨.or, .next, 3, 0, 4⟩,
  ⟨.set, .stay, 3, 4, 0⟩, ⟨.or, .next, 4, 0, 3⟩,
  ⟨.set, .stay, 4, 5, 0⟩, ⟨.or, .next, 5, 0, 2⟩,
  ⟨.set, .stay, 5, 6, 0⟩, ⟨.or, .next, 6, 0, 1⟩,
  ⟨.set, .stay, 6, 7, 0⟩, ⟨.or, .stay, 7, 0, 0⟩]

def packBits8 : List PackOp := [
  ⟨.set, .next, 0, 0, 0⟩, ⟨.set, .next, 1, 0, 0⟩, ⟨.set, .next, 2, 0, 0⟩, ⟨.set, .next, 3, 0, 0⟩,
  ⟨.set, .next, 4, 0, 0⟩, ⟨.set, .next, 5, 0, 0⟩, ⟨.set, .next, 6, 0, 0⟩, ⟨.set, .stay, 7, 0, 0⟩]

def packBits9 : List PackOp := [
  ⟨.set, .next, 0, 0, 1⟩,
  ⟨.set, .stay, 0, 7, 0⟩, ⟨.or, .next, 1, 0, 2⟩,
  ⟨.set, .stay, 1, 6, 0⟩, ⟨.or, .next, 2, 0, 3⟩,
  ⟨.set, .stay, 2, 5, 0⟩, ⟨.or, .next, 3, 0, 4⟩,
  ⟨.set, .stay, 3, 4, 0⟩, ⟨.or, .next, 4, 0, 5⟩,
  ⟨.set, .stay, 4, 3, 0⟩, ⟨.or, .next, 5, 0, 6⟩,
  ⟨.set, .stay, 5, 2, 0⟩, ⟨.or, .next, 6, 0, 7⟩,
  ⟨.set, .stay, 6, 1, 0⟩, ⟨.or, .next, 7, 0, 8⟩,
  ⟨.set, .stay, 7, 0, 0⟩]

def packBits10 : List PackOp := [
  ⟨.set, .next, 0, 0, 2⟩,
  ⟨.set, .stay, 0, 6, 0⟩, ⟨.or, .next, 1, 0, 4⟩,
  ⟨.set, .stay, 1, 4, 0⟩, ⟨.or, .next, 2, 0, 6⟩,
  ⟨.set, .stay, 2, 2, 0⟩, ⟨.or, .next, 3, 0, 8⟩,
  ⟨.set, .next, 3, 0, 0⟩,
  ⟨.set, .next, 4, 0, 2⟩,
  ⟨.set, .stay, 4, 6, 0⟩, ⟨.or, .next, 5, 0, 4⟩,
  ⟨.set, .stay, 5, 4, 0⟩, ⟨.or, .next, 6, 0, 6⟩,
  ⟨.set, .stay, 6, 2, 0⟩, ⟨.or, .next, 7, 0, 8⟩,
  ⟨.set, .stay, 7, 0, 0⟩]

def packBits11 : List PackOp := [
  ⟨.set, .next, 0, 0, 3⟩,
  ⟨.set, .stay, 0, 5, 0⟩, ⟨.or, .next, 1, 0, 6⟩,
  ⟨.set, .stay, 1, 2, 0⟩, ⟨.or, .next, 2, 0, 9⟩,
  ⟨.set, .next, 2, 0, 1⟩,
  ⟨.set, .stay, 2, 7, 0⟩, ⟨.or, .next, 3, 0, 4⟩,
  ⟨.set, .stay, 3, 4, 0⟩, ⟨.or, .next, 4, 0, 7⟩,
  ⟨.set, .stay, 4, 1, 0⟩, ⟨.or, .next, 5, 0, 10⟩,
  ⟨.set, .next, 5, 0, 2⟩,
  ⟨.set, .stay, 5, 6, 0⟩, ⟨.or, .next, 6, 0, 5⟩,
  ⟨.set, .stay, 6, 3, 0⟩, ⟨.or, .next, 7, 0, 8⟩,
  ⟨.set, .stay, 7, 0, 0⟩]

def packBits12 : List PackOp := [
  ⟨.set, .next, 0, 0, 4⟩,
  ⟨.set, .stay, 0, 4, 0⟩, ⟨.or, .next, 1, 0, 8⟩,
  ⟨.set, .next, 1, 0, 0⟩,
  ⟨.set, .next, 2, 0, 4⟩,
  ⟨.set, .stay, 2, 4, 0⟩, ⟨.or, .next, 3, 0, 8⟩,
  ⟨.set, .next, 3, 0, 0⟩,
  ⟨.set, .next, 4, 0, 4⟩,
  ⟨.set, .stay, 4, 4, 0⟩, ⟨.or, .next, 5, 0, 8⟩,
  ⟨.set, .next, 5, 0, 0⟩,
  ⟨.set, .next, 6, 0, 4⟩,
  ⟨.set, .stay, 6, 4, 0⟩, ⟨.or, .next, 7, 0, 8⟩,
  ⟨.set, .stay, 7, 0, 0⟩]

def packBits13 : List PackOp := [
  ⟨.set, .next, 0, 0, 5⟩,
  ⟨.set, .stay, 0, 3, 0⟩, ⟨.or, .next, 1, 0, 10⟩,
  ⟨.set, .next, 1, 0, 2⟩,
  ⟨.set, .stay, 1, 6, 0⟩, ⟨.or, .next, 2, 0, 7⟩,
  ⟨.set, .stay, 2, 1, 0⟩, ⟨.or, .next, 3, 0, 12⟩,
  ⟨.set, .next, 3, 0, 4⟩,
  ⟨.set, .stay, 3, 0, 4⟩, ⟨.or, .next, 4, 0, 9⟩,
  ⟨.set, .next, 4, 0, 1⟩,
  ⟨.set, .stay, 4, 7, 0⟩, ⟨.or, .next, 5, 0, 6⟩,
  ⟨.set, .stay, 5, 2, 0⟩, ⟨.or, .next, 6, 0, 11⟩,
  ⟨.set, .next, 6, 0, 3⟩,
  ⟨.set, .stay, 6, 5, 0⟩, ⟨.or, .next, 7, 0, 8⟩,
  ⟨.set, .stay, 7, 0, 0⟩]

def packBits14 : List PackOp := [
  ⟨.set, .next, 0, 0, 6⟩,
  ⟨.set, .stay, 0, 2, 0⟩, ⟨.or, .next, 1, 0, 12⟩,
  ⟨.set, .next, 1, 0, 4⟩,
  ⟨.set, .stay, 1, 4, 0⟩, ⟨.or, .next, 2, 0, 10⟩,
  ⟨.set, .next, 2, 0, 2⟩,
  ⟨.set, .stay, 2, 6, 0⟩, ⟨.or, .next, 3, 0, 8⟩,
  ⟨.set, .next, 3, 0, 0⟩,
  ⟨.set, .next, 4, 0, 6⟩,
  ⟨.set, .stay, 4, 2, 0⟩, ⟨.or, .next, 5, 0, 12⟩,
  ⟨.set, .next, 5, 0, 4⟩,
  ⟨.set, .stay, 5, 4, 0⟩, ⟨.or, .next, 6, 0, 10⟩,
  ⟨.set, .next, 6, 0, 2⟩,
  ⟨.set, .stay, 6, 6, 0⟩, ⟨.or, .next, 7, 0, 8⟩,
  ⟨.set, .stay, 7, 0, 0⟩]

def packBits15 : List PackOp := [
  ⟨.set, .next, 0, 0, 7⟩,
  ⟨.set, .stay, 0, 1, 0⟩, ⟨.or, .next, 1, 0, 14⟩,
  ⟨.set, .next, 1, 0, 6⟩,
  ⟨.set, .stay, 1, 2, 0⟩, ⟨.or, .next, 2, 0, 13⟩,
  ⟨.set, .next, 2, 0, 5⟩,
  ⟨.set, .stay, 2, 3, 0⟩, ⟨.or, .next, 3, 0, 12⟩,
  ⟨.set, .next, 3, 0, 4⟩,
  ⟨.set, .stay, 3, 4, 0⟩, ⟨.or, .next, 4, 0, 11⟩,
  ⟨.set, .next, 4, 0, 3⟩,
  ⟨.set, .stay, 4, 5, 0⟩, ⟨.or, .next, 5, 0, 10⟩,
  ⟨.set, .next, 5, 0, 2⟩,
  ⟨.set, .stay, 5, 6, 0⟩, ⟨.or, .next, 6, 0, 9⟩,
  ⟨.set, .next, 6, 0, 1⟩,
  ⟨.set, .stay, 6, 7, 0⟩, ⟨.or, .next, 7, 0, 8⟩,
  ⟨.set, .stay, 7, 0, 0⟩]

def packBits16 : List PackOp := [
  ⟨.set, .next, 0, 0, 8⟩, ⟨.set, .next, 0, 0, 0⟩,
  ⟨.set, .next, 1, 0, 8⟩, ⟨.set, .next, 1, 0, 0⟩,
  ⟨.set, .next, 2, 0, 8⟩, ⟨.set, .next, 2, 0, 0⟩,
  ⟨.set, .next, 3, 0, 8⟩, ⟨.set, .next, 3, 0, 0⟩,
  ⟨.set, .next, 4, 0, 8⟩, ⟨.set, .next, 4, 0, 0⟩,
  ⟨.set, .next, 5, 0, 8⟩, ⟨.set, .next, 5, 0, 0⟩,
  ⟨.set, .next, 6, 0, 8⟩, ⟨.set, .next, 6, 0, 0⟩,
  ⟨.set, .next, 7, 0, 8⟩, ⟨.set, .stay, 7, 0, 0⟩]

def packBits17 : List PackOp := [
  ⟨.set, .next, 0, 0, 9⟩,
  ⟨.set, .next, 0, 0, 1⟩,
  ⟨.set, .stay, 0, 7, 0⟩, ⟨.or, .next, 1, 0, 10⟩,
  ⟨.set, .next, 1, 0, 2⟩,
  ⟨.set, .stay, 1, 6, 0⟩, ⟨.or, .next, 2, 0, 11⟩,
  ⟨.set, .next, 2, 0, 3⟩,
  ⟨.set, .stay, 2, 5, 0⟩, ⟨.or, .next, 3, 0, 12⟩,
  ⟨.set, .next, 3, 0, 4⟩,
  ⟨.set, .stay, 3, 4, 0⟩, ⟨.or, .next, 4, 0, 13⟩,
  ⟨.set, .next, 4, 0, 5⟩,
  ⟨.set, .stay, 4, 3, 0⟩, ⟨.or, .next, 5, 0, 14⟩,
  ⟨.set, .next, 5, 0, 6⟩,
  ⟨.set, .stay, 5, 2, 0⟩, ⟨.or, .next, 6, 0, 15⟩,
  ⟨.set, .next, 6, 0, 7⟩,
  ⟨.set, .stay, 6, 1, 0⟩, ⟨.or, .next, 7, 0, 16⟩,
  ⟨.set, .next, 7, 0, 8⟩,
  ⟨.set, .stay, 7, 0, 0⟩]

def packBits18 : List PackOp := [
  ⟨.set, .next, 0, 0, 10⟩,
  ⟨.set, .next, 0, 0, 2⟩,
  ⟨.set, .stay, 0, 6, 0⟩, ⟨.or, .next, 1, 0, 12⟩,
  ⟨.set, .next, 1, 0, 4⟩,
  ⟨.set, .stay, 1, 4, 0⟩, ⟨.or, .next, 2, 0, 14⟩,
  ⟨.set, .next, 2, 0, 6⟩,
  ⟨.set, .stay, 2, 2, 0⟩, ⟨.or, .next, 3, 0, 16⟩,
  ⟨.set, .next, 3, 0, 8⟩,
  ⟨.set, .next, 3, 0, 0⟩,
  ⟨.set, .next, 4, 0, 10⟩,
  ⟨.set, .next, 4, 0, 2⟩,
  ⟨.set, .stay, 4, 6, 0⟩, ⟨.or, .next, 5, 0, 12⟩,
  ⟨.set, .next, 5, 0, 4⟩,
  ⟨.set, .stay, 5, 4, 0⟩, ⟨.or, .next, 6, 0, 14⟩,
  ⟨.set, .next, 6, 0, 6⟩,
  ⟨.set, .stay, 6, 2, 0⟩, ⟨.or, .next, 7, 0, 16⟩,
  ⟨.set, .next, 7, 0, 8⟩,
  ⟨.set, .stay, 7, 0, 0⟩]

def packBits19 : List PackOp := [
  ⟨.set, .next, 0, 0, 11⟩,
  ⟨.set, .next, 0, 0, 3⟩,
  ⟨.set, .stay, 0, 5, 0⟩, ⟨.or, .next, 1, 0, 14⟩,
  ⟨.set, .next, 1, 0, 6⟩,
  ⟨.set, .stay, 1, 2, 0⟩, ⟨.or, .next, 2, 0, 17⟩,
  ⟨.set, .next, 2, 0, 9⟩,
  ⟨.set, .next, 2, 0, 1⟩,
  ⟨.set, .stay, 2, 7, 0⟩, ⟨.or, .next, 3, 0, 12⟩,
  ⟨.set, .next, 3, 0, 4⟩,
  ⟨.set, .stay, 3, 4, 0⟩, ⟨.or, .next, 4, 0, 15⟩,
  ⟨.or, .next, 4, 0, 7⟩,
  ⟨.set, .stay, 4, 1, 0⟩, ⟨.or, .next, 5, 0, 18⟩,
  ⟨.set, .next, 5, 0, 10⟩,
  ⟨.set, .next, 5, 0, 2⟩,
  ⟨.set, .stay, 5, 6, 0⟩, ⟨.or, .next, 6, 0, 13⟩,
  ⟨.set, .next, 6, 0, 5⟩,
  ⟨.set, .stay, 6, 3, 0⟩, ⟨.or, .next, 7, 0, 16⟩,
  ⟨.set, .next, 7, 0, 8⟩,
  ⟨.set, .stay, 7, 0, 0⟩]

def packBits20 : List PackOp := [
  ⟨.set, .next, 0, 0, 12⟩,
  ⟨.set, .next, 0, 0, 4⟩,
  ⟨.set, .stay, 0, 4, 0⟩, ⟨.or, .next, 1, 0, 16⟩,
  ⟨.set, .next, 1, 0, 8⟩,
  ⟨.set, .next, 1, 0, 0⟩,
  ⟨.set, .next, 2, 0, 12⟩,
  ⟨.set, .next, 2, 0, 4⟩,
  ⟨.set, .stay, 2, 4, 0⟩, ⟨.or, .next, 3, 0, 16⟩,
  ⟨.set, .next, 3, 0, 8⟩,
  ⟨.set, .next, 3, 0, 0⟩,
  ⟨.set, .next, 4, 0, 12⟩,
  ⟨.set, .next, 4, 0, 4⟩,
  ⟨.set, .stay, 4, 4, 0⟩, ⟨.or, .next, 5, 0, 16⟩,
  ⟨.set, .next, 5, 0, 8⟩,
  ⟨.set, .next, 5, 0, 0⟩,
  ⟨.set, .next, 6, 0, 12⟩,
  ⟨.set, .next, 6, 0, 4⟩,
  ⟨.set, .stay, 6, 4, 0⟩, ⟨.or, .next, 7, 0, 16⟩,
  ⟨.set, .next, 7, 0, 8⟩,
  ⟨.set, .stay, 7, 0, 0⟩]

def packBits21 : List PackOp := [
  ⟨.set, .next, 0, 0, 13⟩,
  ⟨.set, .next, 0, 0, 5⟩,
  ⟨.set, .stay, 0, 3, 0⟩, ⟨.or, .next, 1, 0, 18⟩,
  ⟨.set, .next, 1, 0, 10⟩,
  ⟨.set, .next, 1, 0, 2⟩,
  ⟨.set, .stay, 1, 6, 0⟩, ⟨.or, .next, 2, 0, 15⟩,
  ⟨.set, .next, 2, 0, 7⟩,
  ⟨.set, .stay, 2, 1, 0⟩, ⟨.or, .next, 3, 0, 20⟩,
  ⟨.set, .next, 3, 0, 12⟩,
  ⟨.set, .next, 3, 0, 4⟩,
  ⟨.set, .stay, 3, 4, 0⟩, ⟨.or, .next, 4, 0, 17⟩,
  ⟨.set, .next, 4, 0, 9⟩,
  ⟨.set, .next, 4, 0, 1⟩,
  ⟨.set, .stay, 4, 7, 0⟩, ⟨.or, .next, 5, 0, 14⟩,
  ⟨.set, .next, 5, 0, 6⟩,
  ⟨.set, .stay, 5, 2, 0⟩, ⟨.or, .next, 6, 0, 19⟩,
  ⟨.set, .next, 6, 0, 11⟩,
  ⟨.set, .next, 6, 0, 3⟩,
  ⟨.set, .stay, 6, 5, 0⟩, ⟨.or, .next, 7, 0, 16⟩,
  ⟨.set, .next, 7, 0, 8⟩,
  ⟨.set, .stay, 7, 0, 0⟩]

def packBits22 : List PackOp := [
  ⟨.set, .next, 0, 0, 14⟩,
  ⟨.set, .next, 0, 0, 6⟩,
  ⟨.set, .stay, 0, 2, 0⟩, ⟨.or, .next, 1, 0, 20⟩,
  ⟨.set, .next, 1, 0, 12⟩,
  ⟨.set, .next, 1, 0, 4⟩,
  ⟨.set, .stay, 1, 4, 0⟩, ⟨.or, .next, 2, 0, 18⟩,
  ⟨.set, .next, 2, 0, 10⟩,
  ⟨.set, .next, 2, 0, 2⟩,
  ⟨.set, .stay, 2, 6, 0⟩, ⟨.or, .next, 3, 0, 16⟩,
  ⟨.set, .next, 3, 0, 8⟩,
  ⟨.set, .next, 3, 0, 0⟩,
  ⟨.set, .next, 4, 0, 14⟩,
  ⟨.set, .next, 4, 0, 6⟩,
  ⟨.set, .stay, 4, 2, 0⟩, ⟨.or, .next, 5, 0, 20⟩,
  ⟨.set, .next, 5, 0, 12⟩,
  ⟨.set, .next, 5, 0, 4⟩,
  ⟨.set, .stay, 5, 4, 0⟩, ⟨.or, .next, 6, 0, 18⟩,
  ⟨.set, .next, 6, 0, 10⟩,
  ⟨.set, .next, 6, 0, 2⟩,
  ⟨.set, .stay, 6, 6, 0⟩, ⟨.or, .next, 7, 0, 16⟩,
  ⟨.set, .next, 7, 0, 8⟩,
  ⟨.set, .stay, 7, 0, 0⟩]

def packBits23 : List PackOp := [
  ⟨.set, .next, 0, 0, 15⟩,
  ⟨.set, .next, 0, 0, 7⟩,
  ⟨.set, .stay, 0, 1, 0⟩, ⟨.or, .next, 1, 0, 22⟩,
  ⟨.set, .next, 1, 0, 14⟩,
  ⟨.set, .next, 1, 0, 6⟩,
  ⟨.set, .stay, 1, 2, 0⟩, ⟨.or, .next, 2, 0, 21⟩,
  ⟨.set, .next, 2, 0, 13⟩,
  ⟨.set, .next, 2, 0, 5⟩,
  ⟨.set, .stay, 2, 3, 0⟩, ⟨.or, .next, 3, 0, 20⟩,
  ⟨.set, .next, 3, 0, 12⟩,
  ⟨.set, .next, 3, 0, 4⟩,
  ⟨.set, .stay, 3, 4, 0⟩, ⟨.or, .next, 4, 0, 19⟩,
  ⟨.set, .next, 4, 0, 11⟩,
  ⟨.set, .next, 4, 0, 3⟩,
  ⟨.set, .stay, 4, 5, 0⟩, ⟨.or, .next, 5, 0, 18⟩,
  ⟨.set, .next, 5, 0, 10⟩,
  ⟨.set, .next, 5, 0, 2⟩,
  ⟨.set, .stay, 5, 6, 0⟩, ⟨.or, .next, 6, 0, 17⟩,
  ⟨.set, .next, 6, 0, 9⟩,
  ⟨.set, .next, 6, 0, 1⟩,
  ⟨.set, .stay, 6, 7, 0⟩, ⟨.or, .next, 7, 0, 16⟩,
  ⟨.set, .next, 7, 0, 8⟩,
  ⟨.set, .stay, 7, 0, 0⟩]

def packBits24 : List PackOp := [
  ⟨.set, .next, 0, 0, 16⟩, ⟨.set, .next, 0, 0, 8⟩, ⟨.set, .next, 0, 0, 0⟩,
  ⟨.set, .next, 1, 0, 16⟩, ⟨.set, .next, 1, 0, 8⟩, ⟨.set, .next, 1, 0, 0⟩,
  ⟨.set, .next, 2, 0, 16⟩, ⟨.set, .next, 2, 0, 8⟩, ⟨.set, .next, 2, 0, 0⟩,
  ⟨.set, .next, 3, 0, 16⟩, ⟨.set, .next, 3, 0, 8⟩, ⟨.set, .next, 3, 0, 0⟩,
  ⟨.set, .next, 4, 0, 16⟩, ⟨.set, .next, 4, 0, 8⟩, ⟨.set, .next, 4, 0, 0⟩,
  ⟨.set, .next, 5, 0, 16⟩, ⟨.set, .next, 5, 0, 8⟩, ⟨.set, .next, 5, 0, 0⟩,
  ⟨.set, .next, 6, 0, 16⟩, ⟨.set, .next, 6, 0, 8⟩, ⟨.set, .next, 6, 0, 0⟩,
  ⟨.set, .next, 7, 0, 16⟩, ⟨.set, .next, 7, 0, 8⟩, ⟨.set, .stay, 7, 0, 0⟩]

def packBits25 : List PackOp := [
  ⟨.set, .next, 0, 0, 17⟩,
  ⟨.set, .next, 0, 0, 9⟩,
  ⟨.set, .next, 0, 0, 1⟩,
  ⟨.set, .stay, 0, 7, 0⟩, ⟨.or, .next, 1, 0, 18⟩,
  ⟨.set, .next, 1, 0, 10⟩,
  ⟨.set, .next, 1, 0, 2⟩,
  ⟨.set, .stay, 1, 6, 0⟩, ⟨.or, .next, 2, 0, 19⟩,
  ⟨.set, .next, 2, 0, 11⟩,
  ⟨.set, .next, 2, 0, 3⟩,
  ⟨.set, .stay, 2, 5, 0⟩, ⟨.or, .next, 3, 0, 20⟩,
  ⟨.set, .next, 3, 0, 12⟩,
  ⟨.set, .next, 3, 0, 4⟩,
  ⟨.set, .stay, 3, 4, 0⟩, ⟨.or, .next, 4, 0, 21⟩,
  ⟨.set, .next, 4, 0, 13⟩,
  ⟨.set, .next, 4, 0, 5⟩,
  ⟨.set, .stay, 4, 3, 0⟩, ⟨.or, .next, 5, 0, 22⟩,
  ⟨.set, .next, 5, 0, 14⟩,
  ⟨.set, .next, 5, 0, 6⟩,
  ⟨.set, .stay, 5, 2, 0⟩, ⟨.or, .next, 6, 0, 23⟩,
  ⟨.set, .next, 6, 0, 15⟩,
  ⟨.set, .next, 6, 0, 7⟩,
  ⟨.set, .stay, 6, 1, 0⟩, ⟨.or, .next, 7, 0, 24⟩,
  ⟨.set, .next, 7, 0, 16⟩,
  ⟨.set, .next, 7, 0, 8⟩,
  ⟨.set, .stay, 7, 0, 0⟩]

def packBits26 : List PackOp := [
  ⟨.set, .next, 0, 0, 18⟩,
  ⟨.set, .next, 0, 0, 10⟩,
  ⟨.set, .next, 0, 0, 2⟩,
  ⟨.set, .stay, 0, 6, 0⟩, ⟨.or, .next, 1, 0, 20⟩,
  ⟨.set, .next, 1, 0, 12⟩,
  ⟨.set, .next, 1, 0, 4⟩,
  ⟨.set, .stay, 1, 4, 0⟩, ⟨.or, .next, 2, 0, 22⟩,
  ⟨.set, .next, 2, 0, 14⟩,
  ⟨.set, .next, 2, 0, 6⟩,
  ⟨.set, .stay, 2, 2, 0⟩, ⟨.or, .next, 3, 0, 24⟩,
  ⟨.set, .next, 3, 0, 16⟩,
  ⟨.set, .next, 3, 0, 8⟩,
  ⟨.set, .next, 3, 0, 0⟩,
  ⟨.set, .next, 4, 0, 18⟩,
  ⟨.set, .next, 4, 0, 10⟩,
  ⟨.set, .next, 4, 0, 2⟩,
  ⟨.set, .stay, 4, 6, 0⟩, ⟨.or, .next, 5, 0, 20⟩,
  ⟨.set, .next, 5, 0, 12⟩,
  ⟨.set, .next, 5, 0, 4⟩,
  ⟨.set, .stay, 5, 4, 0⟩, ⟨.or, .next, 6, 0, 22⟩,
  ⟨.set, .next, 6, 0, 14⟩,
  ⟨.set, .next, 6, 0, 6⟩,
  ⟨.set, .stay, 6, 2, 0⟩, ⟨.or, .next, 7, 0, 24⟩,
  ⟨.set, .next, 7, 0, 16⟩,
  ⟨.set, .next, 7, 0, 8⟩,
  ⟨.set, .stay, 7, 0, 0⟩]

def packBits27 : List PackOp := [
  ⟨.set, .next, 0, 0, 19⟩,
  ⟨.set, .next, 0, 0, 11⟩,
  ⟨.set, .next, 0, 0, 3⟩,
  ⟨.set, .stay, 0, 5, 0⟩, ⟨.or, .next, 1, 0, 22⟩,
  ⟨.set, .next, 1, 0, 14⟩,
  ⟨.set, .next, 1, 0, 6⟩,
  ⟨.set, .stay, 1, 2, 0⟩, ⟨.or, .next, 2, 0, 25⟩,
  ⟨.set, .next, 2, 0, 17⟩,
  ⟨.set, .next, 2, 0, 9⟩,
  ⟨.set, .next, 2, 0, 1⟩,
  ⟨.set, .stay, 2, 7, 0⟩, ⟨.or, .next, 3, 0, 20⟩,
  ⟨.set, .next, 3, 0, 12⟩,
  ⟨.set, .next, 3, 0, 4⟩,
  ⟨.set, .stay, 3, 4, 0⟩, ⟨.or, .next, 4, 0, 23⟩,
  ⟨.set, .next, 4, 0, 15⟩,
  ⟨.set, .next, 4, 0, 7⟩,
  ⟨.set, .stay, 4, 1, 0⟩, ⟨.or, .next, 5, 0, 26⟩,
  ⟨.set, .next, 5, 0, 18⟩,
  ⟨.set, .next, 5, 0, 10⟩,
  ⟨.set, .next, 5, 0, 2⟩,
  ⟨.set, .stay, 5, 6, 0⟩, ⟨.or, .next, 6, 0, 21⟩,
  ⟨.set, .next, 6, 0, 13⟩,
  ⟨.set, .next, 6, 0, 5⟩,
  ⟨.set, .stay, 6, 3, 0⟩, ⟨.or, .next, 7, 0, 24⟩,
  ⟨.set, .next, 7, 0, 16⟩,
  ⟨.set, .next, 7, 0, 8⟩,
  ⟨.set, .stay, 7, 0, 0⟩]

def packBits28 : List PackOp := [
  ⟨.set, .next, 0, 0, 20⟩, ⟨.set, .next, 0, 0, 12⟩, ⟨.set, .next, 0, 0, 4⟩,
  ⟨.set, .stay, 0, 4, 0⟩, ⟨.or, .next, 1, 0, 24⟩, ⟨.set, .next, 1, 0, 16⟩, ⟨.set, .next, 1, 0, 8⟩,
  ⟨.set, .next, 1, 0, 0⟩, ⟨.set, .next, 2, 0, 20⟩, ⟨.set, .next, 2, 0, 12⟩,
  ⟨.set, .next, 2, 0, 4⟩, ⟨.set, .stay, 2, 4, 0⟩, ⟨.or, .next, 3, 0, 24⟩, ⟨.set, .next, 3, 0, 16⟩,
  ⟨.set, .next, 3, 0, 8⟩, ⟨.set, .next, 3, 0, 0⟩, ⟨.set, .next, 4, 0, 20⟩,
  ⟨.set, .next, 4, 0, 12⟩, ⟨.set, .next, 4, 0, 4⟩, ⟨.set, .stay, 4, 4, 0⟩, ⟨.or, .next, 5, 0, 24⟩,
  ⟨.set, .next, 5, 0, 16⟩, ⟨.set, .next, 5, 0, 8⟩, ⟨.set, .next, 5, 0, 0⟩,
  ⟨.set, .next, 6, 0, 20⟩, ⟨.set, .next, 6, 0, 12⟩, ⟨.set, .next, 6, 0, 4⟩,
  ⟨.set, .stay, 6, 4, 0⟩, ⟨.or, .next, 7, 0, 24⟩, ⟨.set, .next, 7, 0, 16⟩, ⟨.set, .next, 7, 0, 8⟩,
  ⟨.set, .stay, 7, 0, 0⟩]

def packBits29 : List PackOp := [
  ⟨.set, .next, 0, 0, 21⟩,
  ⟨.set, .next, 0, 0, 13⟩,
  ⟨.set, .next, 0, 0, 5⟩,
  ⟨.set, .stay, 0, 3, 0⟩, ⟨.or, .next, 1, 0, 26⟩,
  ⟨.set, .next, 1, 0, 18⟩,
  ⟨.set, .next, 1, 0, 10⟩,
  ⟨.set, .next, 1, 0, 2⟩,
  ⟨.set, .stay, 1, 6, 0⟩, ⟨.or, .next, 2, 0, 23⟩,
  ⟨.set, .next, 2, 0, 15⟩,
  ⟨.set, .next, 2, 0, 7⟩,
  ⟨.set, .stay, 2, 1, 0⟩, ⟨.or, .next, 3, 0, 28⟩,
  ⟨.set, .next, 3, 0, 20⟩,
  ⟨.set, .next, 3, 0, 12⟩,
  ⟨.set, .next, 3, 0, 4⟩,
  ⟨.set, .stay, 3, 4, 0⟩, ⟨.or, .next, 4, 0, 25⟩,
  ⟨.set, .next, 4, 0, 17⟩,
  ⟨.set, .next, 4, 0, 9⟩,
  ⟨.set, .next, 4, 0, 1⟩,
  ⟨.set, .stay, 4, 7, 0⟩, ⟨.or, .next, 5, 0, 22⟩,
  ⟨.set, .next, 5, 0, 14⟩,
  ⟨.set, .next, 5, 0, 6⟩,
  ⟨.set, .stay, 5, 2, 0⟩, ⟨.or, .next, 6, 0, 27⟩,
  ⟨.set, .next, 6, 0, 19⟩,
  ⟨.set, .next, 6, 0, 11⟩,
  ⟨.set, .next, 6, 0, 3⟩,
  ⟨.set, .stay, 6, 5, 0⟩, ⟨.or, .next, 7, 0, 24⟩,
  ⟨.set, .next, 7, 0, 16⟩,
  ⟨.set, .next, 7, 0, 8⟩,
  ⟨.set, .stay, 7, 0, 0⟩]

def packBits30 : List PackOp := [
  ⟨.set, .next, 0, 0, 22⟩, ⟨.set, .next, 0, 0, 14⟩, ⟨.set, .next, 0, 0, 6⟩,
  ⟨.set, .stay, 0, 2, 0⟩, ⟨.or, .next, 1, 0, 28⟩, ⟨.set, .next, 1, 0, 20⟩,
  ⟨.set, .next, 1, 0, 12⟩, ⟨.set, .next, 1, 0, 4⟩,
  ⟨.set, .stay, 1, 4, 0⟩, ⟨.or, .next, 2, 0, 26⟩, ⟨.set, .next, 2, 0, 18⟩,
  ⟨.set, .next, 2, 0, 10⟩, ⟨.set, .next, 2, 0, 2⟩,
  ⟨.set, .stay, 2, 6, 0⟩, ⟨.or, .next, 3, 0, 24⟩, ⟨.set, .next, 3, 0, 16⟩, ⟨.set, .next, 3, 0, 8⟩,
  ⟨.set, .next, 3, 0, 0⟩,
  ⟨.set, .next, 4, 0, 22⟩, ⟨.set, .next, 4, 0, 14⟩, ⟨.set, .next, 4, 0, 6⟩,
  ⟨.set, .stay, 4, 2, 0⟩, ⟨.or, .next, 5, 0, 28⟩, ⟨.set, .next, 5, 0, 20⟩,
  ⟨.set, .next, 5, 0, 12⟩, ⟨.set, .next, 5, 0, 4⟩,
  ⟨.set, .stay, 5, 4, 0⟩, ⟨.or, .next, 6, 0, 26⟩, ⟨.set, .next, 6, 0, 18⟩,
  ⟨.set, .next, 6, 0, 10⟩, ⟨.set, .next, 6, 0, 2⟩,
  ⟨.set, .stay, 6, 6, 0⟩, ⟨.or, .next, 7, 0, 24⟩, ⟨.set, .next, 7, 0, 16⟩, ⟨.set, .next, 7, 0, 8⟩,
  ⟨.set, .stay, 7, 0, 0⟩]

def packBits31 : List PackOp := [
  ⟨.set, .next, 0, 0, 23⟩, ⟨.set, .next, 0, 0, 15⟩, ⟨.set, .next, 0, 0, 7⟩,
  ⟨.set, .stay, 0, 1, 0⟩, ⟨.or, .next, 1, 0, 30⟩, ⟨.set, .next, 1, 0, 22⟩,
  ⟨.set, .next, 1, 0, 14⟩, ⟨.set, .next, 1, 0, 6⟩,
  ⟨.set, .stay, 1, 2, 0⟩, ⟨.or, .next, 2, 0, 29⟩, ⟨.set, .next, 2, 0, 21⟩,
  ⟨.set, .next, 2, 0, 13⟩, ⟨.set, .next, 2, 0, 5⟩,
  ⟨.set, .stay, 2, 3, 0⟩, ⟨.or, .next, 3, 0, 28⟩, ⟨.set, .next, 3, 0, 20⟩,
  ⟨.set, .next, 3, 0, 12⟩, ⟨.set, .next, 3, 0, 4⟩,
  ⟨.set, .stay, 3, 4, 0⟩, ⟨.or, .next, 4, 0, 27⟩, ⟨.set, .next, 4, 0, 19⟩,
  ⟨.set, .next, 4, 0, 11⟩, ⟨.set, .next, 4, 0, 3⟩,
  ⟨.set, .stay, 4, 5, 0⟩, ⟨.or, .next, 5, 0, 26⟩, ⟨.set, .next, 5, 0, 18⟩,
  ⟨.set, .next, 5, 0, 10⟩, ⟨.set, .next, 5, 0, 2⟩,
  ⟨.set, .stay, 5, 6, 0⟩, ⟨.or, .next, 6, 0, 25⟩, ⟨.set, .next, 6, 0, 17⟩, ⟨.set, .next, 6, 0, 9⟩,
  ⟨.set, .next, 6, 0, 1⟩,
  ⟨.set, .stay, 6, 7, 0⟩, ⟨.or, .next, 7, 0, 24⟩, ⟨.set, .next, 7, 0, 16⟩, ⟨.set, .next, 7, 0, 8⟩,
  ⟨.set, .stay, 7, 0, 0⟩]

def packBits32 : List PackOp := [
  ⟨.set, .next, 0, 0, 24⟩, ⟨.set, .next, 0, 0, 16⟩, ⟨.set, .next, 0, 0, 8⟩,
  ⟨.set, .next, 0, 0, 0⟩,
  ⟨.set, .next, 1, 0, 24⟩, ⟨.set, .next, 1, 0, 16⟩, ⟨.set, .next, 1, 0, 8⟩,
  ⟨.set, .next, 1, 0, 0⟩,
  ⟨.set, .next, 2, 0, 24⟩, ⟨.set, .next, 2, 0, 16⟩, ⟨.set, .next, 2, 0, 8⟩,
  ⟨.set, .next, 2, 0, 0⟩,
  ⟨.set, .next, 3, 0, 24⟩, ⟨.set, .next, 3, 0, 16⟩, ⟨.set, .next, 3, 0, 8⟩,
  ⟨.set, .next, 3, 0, 0⟩,
  ⟨.set, .next, 4, 0, 24⟩, ⟨.set, .next, 4, 0, 16⟩, ⟨.set, .next, 4, 0, 8⟩,
  ⟨.set, .next, 4, 0, 0⟩,
  ⟨.set, .next, 5, 0, 24⟩, ⟨.set, .next, 5, 0, 16⟩, ⟨.set, .next, 5, 0, 8⟩,
  ⟨.set, .next, 5, 0, 0⟩,
  ⟨.set, .next, 6, 0, 24⟩, ⟨.set, .next, 6, 0, 16⟩, ⟨.set, .next, 6, 0, 8⟩,
  ⟨.set, .next, 6, 0, 0⟩,
  ⟨.set, .next, 7, 0, 24⟩, ⟨.set, .next, 7, 0, 16⟩, ⟨.set, .next, 7, 0, 8⟩,
  ⟨.set, .stay, 7, 0, 0⟩]

def packBits33 : List PackOp := [
  ⟨.set, .next, 0, 0, 25⟩, ⟨.set, .next, 0, 0, 17⟩, ⟨.set, .next, 0, 0, 9⟩,
  ⟨.set, .next, 0, 0, 1⟩,
  ⟨.set, .stay, 0, 7, 0⟩, ⟨.or, .next, 1, 0, 26⟩, ⟨.set, .next, 1, 0, 18⟩,
  ⟨.set, .next, 1, 0, 10⟩, ⟨.set, .next, 1, 0, 2⟩,
  ⟨.set, .stay, 1, 6, 0⟩, ⟨.or, .next, 2, 0, 27⟩, ⟨.set, .next, 2, 0, 19⟩,
  ⟨.set, .next, 2, 0, 11⟩, ⟨.set, .next, 2, 0, 3⟩,
  ⟨.set, .stay, 2, 5, 0⟩, ⟨.or, .next, 3, 0, 28⟩, ⟨.set, .next, 3, 0, 20⟩,
  ⟨.set, .next, 3, 0, 12⟩, ⟨.set, .next, 3, 0, 4⟩,
  ⟨.set, .stay, 3, 4, 0⟩, ⟨.or, .next, 4, 0, 29⟩, ⟨.set, .next, 4, 0, 21⟩,
  ⟨.set, .next, 4, 0, 13⟩, ⟨.set, .next, 4, 0, 5⟩,
  ⟨.set, .stay, 4, 3, 0⟩, ⟨.or, .next, 5, 0, 30⟩, ⟨.set, .next, 5, 0, 22⟩,
  ⟨.set, .next, 5, 0, 14⟩, ⟨.set, .next, 5, 0, 6⟩,
  ⟨.set, .stay, 5, 2, 0⟩, ⟨.or, .next, 6, 0, 31⟩, ⟨.set, .next, 6, 0, 23⟩,
  ⟨.set, .next, 6, 0, 15⟩, ⟨.set, .next, 6, 0, 7⟩,
  ⟨.set, .stay, 6, 1, 0⟩, ⟨.or, .next, 7, 0, 32⟩, ⟨.set, .next, 7, 0, 24⟩,
  ⟨.set, .next, 7, 0, 16⟩, ⟨.set, .next, 7, 0, 8⟩, ⟨.set, .stay, 7, 0, 0⟩]

def packBits34 : List PackOp := [
  ⟨.set, .next, 0, 0, 26⟩, ⟨.set, .next, 0, 0, 18⟩, ⟨.set, .next, 0, 0, 10⟩,
  ⟨.set, .next, 0, 0, 2⟩,
  ⟨.set, .stay, 0, 6, 0⟩, ⟨.or, .next, 1, 0, 28⟩, ⟨.set, .next, 1, 0, 20⟩,
  ⟨.set, .next, 1, 0, 12⟩, ⟨.set, .next, 1, 0, 4⟩,
  ⟨.set, .stay, 1, 4, 0⟩, ⟨.or, .next, 2, 0, 30⟩, ⟨.set, .next, 2, 0, 22⟩,
  ⟨.set, .next, 2, 0, 14⟩, ⟨.set, .next, 2, 0, 6⟩,
  ⟨.set, .stay, 2, 2, 0⟩, ⟨.or, .next, 3, 0, 32⟩, ⟨.set, .next, 3, 0, 24⟩,
  ⟨.set, .next, 3, 0, 16⟩, ⟨.set, .next, 3, 0, 8⟩, ⟨.set, .next, 3, 0, 0⟩,
  ⟨.set, .next, 4, 0, 26⟩, ⟨.set, .next, 4, 0, 18⟩, ⟨.set, .next, 4, 0, 10⟩,
  ⟨.set, .next, 4, 0, 2⟩,
  ⟨.set, .stay, 4, 6, 0⟩, ⟨.or, .next, 5, 0, 28⟩, ⟨.set, .next, 5, 0, 20⟩,
  ⟨.set, .next, 5, 0, 12⟩, ⟨.set, .next, 5, 0, 4⟩,
  ⟨.set, .stay, 5, 4, 0⟩, ⟨.or, .next, 6, 0, 30⟩, ⟨.set, .next, 6, 0, 22⟩,
  ⟨.set, .next, 6, 0, 14⟩, ⟨.set, .next, 6, 0, 6⟩,
  ⟨.set, .stay, 6, 2, 0⟩, ⟨.or, .next, 7, 0, 32⟩, ⟨.set, .next, 7, 0, 24⟩,
  ⟨.set, .next, 7, 0, 16⟩, ⟨.set, .next, 7, 0, 8⟩, ⟨.set, .stay, 7, 0, 0⟩]

def packBits35 : List PackOp := [
  ⟨.set, .next, 0, 0, 27⟩, ⟨.set, .next, 0, 0, 19⟩, ⟨.set, .next, 0, 0, 11⟩,
  ⟨.set, .next, 0, 0, 3⟩,
  ⟨.set, .stay, 0, 5, 0⟩, ⟨.or, .next, 1, 0, 30⟩, ⟨.set, .next, 1, 0, 22⟩,
  ⟨.set, .next, 1, 0, 14⟩, ⟨.set, .next, 1, 0, 6⟩,
  ⟨.set, .stay, 1, 2, 0⟩, ⟨.or, .next, 2, 0, 33⟩, ⟨.set, .next, 2, 0, 25⟩,
  ⟨.set, .next, 2, 0, 17⟩, ⟨.set, .next, 2, 0, 9⟩, ⟨.set, .next, 2, 0, 1⟩,
  ⟨.set, .stay, 2, 7, 0⟩, ⟨.or, .next, 3, 0, 28⟩, ⟨.set, .next, 3, 0, 20⟩,
  ⟨.set, .next, 3, 0, 12⟩, ⟨.set, .next, 3, 0, 4⟩,
  ⟨.set, .stay, 3, 4, 0⟩, ⟨.or, .next, 4, 0, 31⟩, ⟨.set, .next, 4, 0, 23⟩,
  ⟨.set, .next, 4, 0, 15⟩, ⟨.set, .next, 4, 0, 7⟩,
  ⟨.set, .stay, 4, 1, 0⟩, ⟨.or, .next, 5, 0, 34⟩, ⟨.set, .next, 5, 0, 26⟩,
  ⟨.set, .next, 5, 0, 18⟩, ⟨.set, .next, 5, 0, 10⟩, ⟨.set, .next, 5, 0, 2⟩,
  ⟨.set, .stay, 5, 6, 0⟩, ⟨.or, .next, 6, 0, 29⟩, ⟨.set, .next, 6, 0, 21⟩,
  ⟨.set, .next, 6, 0, 13⟩, ⟨.set, .next, 6, 0, 5⟩,
  ⟨.set, .stay, 6, 3, 0⟩, ⟨.or, .next, 7, 0, 32⟩, ⟨.set, .next, 7, 0, 24⟩,
  ⟨.set, .next, 7, 0, 16⟩, ⟨.set, .next, 7, 0, 8⟩, ⟨.set, .stay, 7, 0, 0⟩]

def packBits36 : List PackOp := [
  ⟨.set, .next, 0, 0, 28⟩, ⟨.set, .next, 0, 0, 20⟩, ⟨.set, .next, 0, 0, 12⟩,
  ⟨.set, .next, 0, 0, 4⟩,
  ⟨.set, .stay, 0, 4, 0⟩, ⟨.or, .next, 1, 0, 32⟩, ⟨.set, .next, 1, 0, 24⟩,
  ⟨.set, .next, 1, 0, 16⟩, ⟨.set, .next, 1, 0, 8⟩, ⟨.set, .next, 1, 0, 0⟩,
  ⟨.set, .next, 2, 0, 28⟩, ⟨.set, .next, 2, 0, 20⟩, ⟨.set, .next, 2, 0, 12⟩,
  ⟨.set, .next, 2, 0, 4⟩,
  ⟨.set, .stay, 2, 4, 0⟩, ⟨.or, .next, 3, 0, 32⟩, ⟨.set, .next, 3, 0, 24⟩,
  ⟨.set, .next, 3, 0, 16⟩, ⟨.set, .next, 3, 0, 8⟩, ⟨.set, .next, 3, 0, 0⟩,
  ⟨.set, .next, 4, 0, 28⟩, ⟨.set, .next, 4, 0, 20⟩, ⟨.set, .next, 4, 0, 12⟩,
  ⟨.set, .next, 4, 0, 4⟩,
  ⟨.set, .stay, 4, 4, 0⟩, ⟨.or, .next, 5, 0, 32⟩, ⟨.set, .next, 5, 0, 24⟩,
  ⟨.set, .next, 5, 0, 16⟩, ⟨.set, .next, 5, 0, 8⟩, ⟨.set, .next, 5, 0, 0⟩,
  ⟨.set, .next, 6, 0, 28⟩, ⟨.set, .next, 6, 0, 20⟩, ⟨.set, .next, 6, 0, 12⟩,
  ⟨.set, .next, 6, 0, 4⟩,
  ⟨.set, .stay, 6, 4, 0⟩, ⟨.or, .next, 7, 0, 32⟩, ⟨.set, .next, 7, 0, 24⟩,
  ⟨.set, .next, 7, 0, 16⟩, ⟨.set, .next, 7, 0, 8⟩, ⟨.set, .stay, 7, 0, 0⟩]

def packBits37 : List PackOp := [
  ⟨.set, .next, 0, 0, 29⟩, ⟨.set, .next, 0, 0, 21⟩, ⟨.set, .next, 0, 0, 13⟩,
  ⟨.set, .next, 0, 0, 5⟩,
  ⟨.set, .stay, 0, 3, 0⟩, ⟨.or, .next, 1, 0, 34⟩, ⟨.set, .next, 1, 0, 26⟩,
  ⟨.set, .next, 1, 0, 18⟩, ⟨.set, .next, 1, 0, 10⟩, ⟨.set, .next, 1, 0, 2⟩,
  ⟨.set, .stay, 1, 6, 0⟩, ⟨.or, .next, 2, 0, 31⟩, ⟨.set, .next, 2, 0, 23⟩,
  ⟨.set, .next, 2, 0, 15⟩, ⟨.set, .next, 2, 0, 7⟩,
  ⟨.set, .stay, 2, 1, 0⟩, ⟨.or, .next, 3, 0, 36⟩, ⟨.set, .next, 3, 0, 28⟩,
  ⟨.set, .next, 3, 0, 20⟩, ⟨.set, .next, 3, 0, 12⟩, ⟨.set, .next, 3, 0, 4⟩,
  ⟨.set, .stay, 3, 4, 0⟩, ⟨.or, .next, 4, 0, 33⟩, ⟨.set, .next, 4, 0, 25⟩,
  ⟨.set, .next, 4, 0, 17⟩, ⟨.set, .next, 4, 0, 9⟩, ⟨.set, .next, 4, 0, 1⟩,
  ⟨.set, .stay, 4, 7, 0⟩, ⟨.or, .next, 5, 0, 30⟩, ⟨.set, .next, 5, 0, 22⟩,
  ⟨.set, .next, 5, 0, 14⟩, ⟨.set, .next, 5, 0, 6⟩,
  ⟨.set, .stay, 5, 2, 0⟩, ⟨.or, .next, 6, 0, 35⟩, ⟨.set, .next, 6, 0, 27⟩,
  ⟨.set, .next, 6, 0, 19⟩, ⟨.set, .next, 6, 0, 11⟩, ⟨.set, .next, 6, 0, 3⟩,
  ⟨.set, .stay, 6, 5, 0⟩, ⟨.or, .next, 7, 0, 32⟩, ⟨.set, .next, 7, 0, 24⟩,
  ⟨.set, .next, 7, 0, 16⟩, ⟨.set, .next, 7, 0, 8⟩, ⟨.set, .stay, 7, 0, 0⟩]

def packBits38 : List PackOp := [
  ⟨.set, .next, 0, 0, 30⟩, ⟨.set, .next, 0, 0, 22⟩, ⟨.set, .next, 0, 0, 14⟩,
  ⟨.set, .next, 0, 0, 6⟩,
  ⟨.set, .stay, 0, 2, 0⟩, ⟨.or, .next, 1, 0, 36⟩, ⟨.set, .next, 1, 0, 28⟩,
  ⟨.set, .next, 1, 0, 20⟩, ⟨.set, .next, 1, 0, 12⟩, ⟨.set, .next, 1, 0, 4⟩,
  ⟨.set, .stay, 1, 4, 0⟩, ⟨.or, .next, 2, 0, 34⟩, ⟨.set, .next, 2, 0, 26⟩,
  ⟨.set, .next, 2, 0, 18⟩, ⟨.set, .next, 2, 0, 10⟩, ⟨.set, .next, 2, 0, 2⟩,
  ⟨.set, .stay, 2, 6, 0⟩, ⟨.or, .next, 3, 0, 32⟩, ⟨.set, .next, 3, 0, 24⟩,
  ⟨.set, .next, 3, 0, 16⟩, ⟨.set, .next, 3, 0, 8⟩, ⟨.set, .next, 3, 0, 0⟩,
  ⟨.set, .next, 4, 0, 30⟩, ⟨.set, .next, 4, 0, 22⟩, ⟨.set, .next, 4, 0, 14⟩,
  ⟨.set, .next, 4, 0, 6⟩,
  ⟨.set, .stay, 4, 2, 0⟩, ⟨.or, .next, 5, 0, 36⟩, ⟨.set, .next, 5, 0, 28⟩,
  ⟨.set, .next, 5, 0, 20⟩, ⟨.set, .next, 5, 0, 12⟩, ⟨.set, .next, 5, 0, 4⟩,
  ⟨.set, .stay, 5, 4, 0⟩, ⟨.or, .next, 6, 0, 34⟩, ⟨.set, .next, 6, 0, 26⟩,
  ⟨.set, .next, 6, 0, 18⟩, ⟨.set, .next, 6, 0, 10⟩, ⟨.set, .next, 6, 0, 2⟩,
  ⟨.set, .stay, 6, 6, 0⟩, ⟨.or, .next, 7, 0, 32⟩, ⟨.set, .next, 7, 0, 24⟩,
  ⟨.set, .next, 7, 0, 16⟩, ⟨.set, .next, 7, 0, 8⟩, ⟨.set, .stay, 7, 0, 0⟩]

def packBits39 : List PackOp := [
  ⟨.set, .next, 0, 0, 31⟩, ⟨.set, .next, 0, 0, 23⟩, ⟨.set, .next, 0, 0, 15⟩,
  ⟨.set, .next, 0, 0, 7⟩,
  ⟨.set, .stay, 0, 1, 0⟩, ⟨.or, .next, 1, 0, 38⟩, ⟨.set, .next, 1, 0, 30⟩,
  ⟨.set, .next, 1, 0, 22⟩, ⟨.set, .next, 1, 0, 14⟩, ⟨.set, .next, 1, 0, 6⟩,
  ⟨.set, .stay, 1, 2, 0⟩, ⟨.or, .next, 2, 0, 37⟩, ⟨.set, .next, 2, 0, 29⟩,
  ⟨.set, .next, 2, 0, 21⟩, ⟨.set, .next, 2, 0, 13⟩, ⟨.set, .next, 2, 0, 5⟩,
  ⟨.set, .stay, 2, 3, 0⟩, ⟨.or, .next, 3, 0, 36⟩, ⟨.set, .next, 3, 0, 28⟩,
  ⟨.set, .next, 3, 0, 20⟩, ⟨.set, .next, 3, 0, 12⟩, ⟨.set, .next, 3, 0, 4⟩,
  ⟨.set, .stay, 3, 4, 0⟩, ⟨.or, .next, 4, 0, 35⟩, ⟨.set, .next, 4, 0, 27⟩,
  ⟨.set, .next, 4, 0, 19⟩, ⟨.set, .next, 4, 0, 11⟩, ⟨.set, .next, 4, 0, 3⟩,
  ⟨.set, .stay, 4, 5, 0⟩, ⟨.or, .next, 5, 0, 34⟩, ⟨.set, .next, 5, 0, 26⟩,
  ⟨.set, .next, 5, 0, 18⟩, ⟨.set, .next, 5, 0, 10⟩, ⟨.set, .next, 5, 0, 2⟩,
  ⟨.set, .stay, 5, 6, 0⟩, ⟨.or, .next, 6, 0, 33⟩, ⟨.set, .next, 6, 0, 25⟩,
  ⟨.set, .next, 6, 0, 17⟩, ⟨.set, .next, 6, 0, 9⟩, ⟨.set, .next, 6, 0, 1⟩,
  ⟨.set, .stay, 6, 7, 0⟩, ⟨.or, .next, 7, 0, 32⟩, ⟨.set, .next, 7, 0, 24⟩,
  ⟨.set, .next, 7, 0, 16⟩, ⟨.set, .next, 7, 0, 8⟩, ⟨.set, .stay, 7, 0, 0⟩]

def packBits40 : List PackOp := [
  ⟨.set, .next, 0, 0, 32⟩, ⟨.set, .next, 0, 0, 24⟩, ⟨.set, .next, 0, 0, 16⟩,
  ⟨.set, .next, 0, 0, 8⟩, ⟨.set, .next, 0, 0, 0⟩,
  ⟨.set, .next, 1, 0, 32⟩, ⟨.set, .next, 1, 0, 24⟩, ⟨.set, .next, 1, 0, 16⟩,
  ⟨.set, .next, 1, 0, 8⟩, ⟨.set, .next, 1, 0, 0⟩,
  ⟨.set, .next, 2, 0, 32⟩, ⟨.set, .next, 2, 0, 24⟩, ⟨.set, .next, 2, 0, 16⟩,
  ⟨.set, .next, 2, 0, 8⟩, ⟨.set, .next, 2, 0, 0⟩,
  ⟨.set, .next, 3, 0, 32⟩, ⟨.set, .next, 3, 0, 24⟩, ⟨.set, .next, 3, 0, 16⟩,
  ⟨.set, .next, 3, 0, 8⟩, ⟨.set, .next, 3, 0, 0⟩,
  ⟨.set, .next, 4, 0, 32⟩, ⟨.set, .next, 4, 0, 24⟩, ⟨.set, .next, 4, 0, 16⟩,
  ⟨.set, .next, 4, 0, 8⟩, ⟨.set, .next, 4, 0, 0⟩,
  ⟨.set, .next, 5, 0, 32⟩, ⟨.set, .next, 5, 0, 24⟩, ⟨.set, .next, 5, 0, 16⟩,
  ⟨.set, .next, 5, 0, 8⟩, ⟨.set, .next, 5, 0, 0⟩,
  ⟨.set, .next, 6, 0, 32⟩, ⟨.set, .next, 6, 0, 24⟩, ⟨.set, .next, 6, 0, 16⟩,
  ⟨.set, .next, 6, 0, 8⟩, ⟨.set, .next, 6, 0, 0⟩,
  ⟨.set, .next, 7, 0, 32⟩, ⟨.set, .next, 7, 0, 24⟩, ⟨.set, .next, 7, 0, 16⟩,
  ⟨.set, .next, 7, 0, 8⟩, ⟨.set, .stay, 7, 0, 0⟩]

def packBits41 : List PackOp := [
  ⟨.set, .next, 0, 0, 33⟩, ⟨.set, .next, 0, 0, 25⟩, ⟨.set, .next, 0, 0, 17⟩,
  ⟨.set, .next, 0, 0, 9⟩, ⟨.set, .next, 0, 0, 1⟩,
  ⟨.set, .stay, 0, 7, 0⟩, ⟨.or, .next, 1, 0, 34⟩, ⟨.set, .next, 1, 0, 26⟩,
  ⟨.set, .next, 1, 0, 18⟩, ⟨.set, .next, 1, 0, 10⟩, ⟨.set, .next, 1, 0, 2⟩,
  ⟨.set, .stay, 1, 6, 0⟩, ⟨.or, .next, 2, 0, 35⟩, ⟨.set, .next, 2, 0, 27⟩,
  ⟨.set, .next, 2, 0, 19⟩, ⟨.set, .next, 2, 0, 11⟩, ⟨.set, .next, 2, 0, 3⟩,
  ⟨.set, .stay, 2, 5, 0⟩, ⟨.or, .next, 3, 0, 36⟩, ⟨.set, .next, 3, 0, 28⟩,
  ⟨.set, .next, 3, 0, 20⟩, ⟨.set, .next, 3, 0, 12⟩, ⟨.set, .next, 3, 0, 4⟩,
  ⟨.set, .stay, 3, 4, 0⟩, ⟨.or, .next, 4, 0, 37⟩, ⟨.set, .next, 4, 0, 29⟩,
  ⟨.set, .next, 4, 0, 21⟩, ⟨.set, .next, 4, 0, 13⟩, ⟨.set, .next, 4, 0, 5⟩,
  ⟨.set, .stay, 4, 3, 0⟩, ⟨.or, .next, 5, 0, 38⟩, ⟨.set, .next, 5, 0, 30⟩,
  ⟨.set, .next, 5, 0, 22⟩, ⟨.set, .next, 5, 0, 14⟩, ⟨.set, .next, 5, 0, 6⟩,
  ⟨.set, .stay, 5, 2, 0⟩, ⟨.or, .next, 6, 0, 39⟩, ⟨.set, .next, 6, 0, 31⟩,
  ⟨.set, .next, 6, 0, 23⟩, ⟨.set, .next, 6, 0, 15⟩, ⟨.set, .next, 6, 0, 7⟩,
  ⟨.set, .stay, 6, 1, 0⟩, ⟨.or, .next, 7, 0, 40⟩, ⟨.set, .next, 7, 0, 32⟩,
  ⟨.set, .next, 7, 0, 24⟩, ⟨.set, .next, 7, 0, 16⟩, ⟨.set, .next, 7, 0, 8⟩,
  ⟨.set, .stay, 7, 0, 0⟩]

def packBits42 : List PackOp := [
  ⟨.set, .next, 0, 0, 34⟩, ⟨.set, .next, 0, 0, 26⟩, ⟨.set, .next, 0, 0, 18⟩,
  ⟨.set, .next, 0, 0, 10⟩, ⟨.set, .next, 0, 0, 2⟩,
  ⟨.set, .stay, 0, 6, 0⟩, ⟨.or, .next, 1, 0, 36⟩, ⟨.set, .next, 1, 0, 28⟩,
  ⟨.set, .next, 1, 0, 20⟩, ⟨.set, .next, 1, 0, 12⟩, ⟨.set, .next, 1, 0, 4⟩,
  ⟨.set, .stay, 1, 4, 0⟩, ⟨.or, .next, 2, 0, 38⟩, ⟨.set, .next, 2, 0, 30⟩,
  ⟨.set, .next, 2, 0, 22⟩, ⟨.set, .next, 2, 0, 14⟩, ⟨.set, .next, 2, 0, 6⟩,
  ⟨.set, .stay, 2, 2, 0⟩, ⟨.or, .next, 3, 0, 40⟩, ⟨.set, .next, 3, 0, 32⟩,
  ⟨.set, .next, 3, 0, 24⟩, ⟨.set, .next, 3, 0, 16⟩, ⟨.set, .next, 3, 0, 8⟩,
  ⟨.set, .next, 3, 0, 0⟩,
  ⟨.set, .next, 4, 0, 34⟩, ⟨.set, .next, 4, 0, 26⟩, ⟨.set, .next, 4, 0, 18⟩,
  ⟨.set, .next, 4, 0, 10⟩, ⟨.set, .next, 4, 0, 2⟩,
  ⟨.set, .stay, 4, 6, 0⟩, ⟨.or, .next, 5, 0, 36⟩, ⟨.set, .next, 5, 0, 28⟩,
  ⟨.set, .next, 5, 0, 20⟩, ⟨.set, .next, 5, 0, 12⟩, ⟨.set, .next, 5, 0, 4⟩,
  ⟨.set, .stay, 5, 4, 0⟩, ⟨.or, .next, 6, 0, 38⟩, ⟨.set, .next, 6, 0, 30⟩,
  ⟨.set, .next, 6, 0, 22⟩, ⟨.set, .next, 6, 0, 14⟩, ⟨.set, .next, 6, 0, 6⟩,
  ⟨.set, .stay, 6, 2, 0⟩, ⟨.or, .next, 7, 0, 40⟩, ⟨.set, .next, 7, 0, 32⟩,
  ⟨.set, .next, 7, 0, 24⟩, ⟨.set, .next, 7, 0, 16⟩, ⟨.set, .next, 7, 0, 8⟩,
  ⟨.set, .stay, 7, 0, 0⟩]

def packBits43 : List PackOp := [
  ⟨.set, .next, 0, 0, 35⟩, ⟨.set, .next, 0, 0, 27⟩, ⟨.set, .next, 0, 0, 19⟩,
  ⟨.set, .next, 0, 0, 11⟩, ⟨.set, .next, 0, 0, 3⟩,
  ⟨.set, .stay, 0, 5, 0⟩, ⟨.or, .next, 1, 0, 38⟩, ⟨.set, .next, 1, 0, 30⟩,
  ⟨.set, .next, 1, 0, 22⟩, ⟨.set, .next, 1, 0, 14⟩, ⟨.set, .next, 1, 0, 6⟩,
  ⟨.set, .stay, 1, 2, 0⟩, ⟨.or, .next, 2, 0, 41⟩, ⟨.set, .next, 2, 0, 33⟩,
  ⟨.set, .next, 2, 0, 25⟩, ⟨.set, .next, 2, 0, 17⟩, ⟨.set, .next, 2, 0, 9⟩,
  ⟨.set, .next, 2, 0, 1⟩,
  ⟨.set, .stay, 2, 7, 0⟩, ⟨.or, .next, 3, 0, 36⟩, ⟨.set, .next, 3, 0, 28⟩,
  ⟨.set, .next, 3, 0, 20⟩, ⟨.set, .next, 3, 0, 12⟩, ⟨.set, .next, 3, 0, 4⟩,
  ⟨.set, .stay, 3, 4, 0⟩, ⟨.or, .next, 4, 0, 39⟩, ⟨.set, .next, 4, 0, 31⟩,
  ⟨.set, .next, 4, 0, 23⟩, ⟨.set, .next, 4, 0, 15⟩, ⟨.set, .next, 4, 0, 7⟩,
  ⟨.set, .stay, 4, 1, 0⟩, ⟨.or, .next, 5, 0, 42⟩, ⟨.set, .next, 5, 0, 34⟩,
  ⟨.set, .next, 5, 0, 26⟩, ⟨.set, .next, 5, 0, 18⟩, ⟨.set, .next, 5, 0, 10⟩,
  ⟨.set, .next, 5, 0, 2⟩,
  ⟨.set, .stay, 5, 6, 0⟩, ⟨.or, .next, 6, 0, 37⟩, ⟨.set, .next, 6, 0, 29⟩,
  ⟨.set, .next, 6, 0, 21⟩, ⟨.set, .next, 6, 0, 13⟩, ⟨.set, .next, 6, 0, 5⟩,
  ⟨.set, .stay, 6, 3, 0⟩, ⟨.or, .next, 7, 0, 40⟩, ⟨.set, .next, 7, 0, 32⟩,
  ⟨.set, .next, 7, 0, 24⟩, ⟨.set, .next, 7, 0, 16⟩, ⟨.set, .next, 7, 0, 8⟩,
  ⟨.set, .stay, 7, 0, 0⟩]

def packBits44 : List PackOp := [
  ⟨.set, .next, 0, 0, 36⟩, ⟨.set, .next, 0, 0, 28⟩, ⟨.set, .next, 0, 0, 20⟩,
  ⟨.set, .next, 0, 0, 12⟩, ⟨.set, .next, 0, 0, 4⟩,
  ⟨.set, .stay, 0, 4, 0⟩, ⟨.or, .next, 1, 0, 40⟩, ⟨.set, .next, 1, 0, 32⟩,
  ⟨.set, .next, 1, 0, 24⟩, ⟨.set, .next, 1, 0, 16⟩, ⟨.set, .next, 1, 0, 8⟩,
  ⟨.set, .next, 1, 0, 0⟩,
  ⟨.set, .next, 2, 0, 36⟩, ⟨.set, .next, 2, 0, 28⟩, ⟨.set, .next, 2, 0, 20⟩,
  ⟨.set, .next, 2, 0, 12⟩, ⟨.set, .next, 2, 0, 4⟩,
  ⟨.set, .stay, 2, 4, 0⟩, ⟨.or, .next, 3, 0, 40⟩, ⟨.set, .next, 3, 0, 32⟩,
  ⟨.set, .next, 3, 0, 24⟩, ⟨.set, .next, 3, 0, 16⟩, ⟨.set, .next, 3, 0, 8⟩,
  ⟨.set, .next, 3, 0, 0⟩,
  ⟨.set, .next, 4, 0, 36⟩, ⟨.set, .next, 4, 0, 28⟩, ⟨.set, .next, 4, 0, 20⟩,
  ⟨.set, .next, 4, 0, 12⟩, ⟨.set, .next, 4, 0, 4⟩,
  ⟨.set, .stay, 4, 4, 0⟩, ⟨.or, .next, 5, 0, 40⟩, ⟨.set, .next, 5, 0, 32⟩,
  ⟨.set, .next, 5, 0, 24⟩, ⟨.set, .next, 5, 0, 16⟩, ⟨.set, .next, 5, 0, 8⟩,
  ⟨.set, .next, 5, 0, 0⟩,
  ⟨.set, .next, 6, 0, 36⟩, ⟨.set, .next, 6, 0, 28⟩, ⟨.set, .next, 6, 0, 20⟩,
  ⟨.set, .next, 6, 0, 12⟩, ⟨.set, .next, 6, 0, 4⟩,
  ⟨.set, .stay, 6, 4, 0⟩, ⟨.or, .next, 7, 0, 40⟩, ⟨.set, .next, 7, 0, 32⟩,
  ⟨.set, .next, 7, 0, 24⟩, ⟨.set, .next, 7, 0, 16⟩, ⟨.set, .next, 7, 0, 8⟩,
  ⟨.set, .stay, 7, 0, 0⟩]

def packBits45 : List PackOp := [
  ⟨.set, .next, 0, 0, 37⟩, ⟨.set, .next, 0, 0, 29⟩, ⟨.set, .next, 0, 0, 21⟩,
  ⟨.set, .next, 0, 0, 13⟩, ⟨.set, .next, 0, 0, 5⟩,
  ⟨.set, .stay, 0, 3, 0⟩, ⟨.or, .next, 1, 0, 42⟩, ⟨.set, .next, 1, 0, 34⟩,
  ⟨.set, .next, 1, 0, 26⟩, ⟨.set, .next, 1, 0, 18⟩, ⟨.set, .next, 1, 0, 10⟩,
  ⟨.set, .next, 1, 0, 2⟩,
  ⟨.set, .stay, 1, 6, 0⟩, ⟨.or, .next, 2, 0, 39⟩, ⟨.set, .next, 2, 0, 31⟩,
  ⟨.set, .next, 2, 0, 23⟩, ⟨.set, .next, 2, 0, 15⟩, ⟨.set, .next, 2, 0, 7⟩,
  ⟨.set, .stay, 2, 1, 0⟩, ⟨.or, .next, 3, 0, 44⟩, ⟨.set, .next, 3, 0, 36⟩,
  ⟨.set, .next, 3, 0, 28⟩, ⟨.set, .next, 3, 0, 20⟩, ⟨.set, .next, 3, 0, 12⟩,
  ⟨.set, .next, 3, 0, 4⟩,
  ⟨.set, .stay, 3, 4, 0⟩, ⟨.or, .next, 4, 0, 41⟩, ⟨.set, .next, 4, 0, 33⟩,
  ⟨.set, .next, 4, 0, 25⟩, ⟨.set, .next, 4, 0, 17⟩, ⟨.set, .next, 4, 0, 9⟩,
  ⟨.set, .next, 4, 0, 1⟩,
  ⟨.set, .stay, 4, 7, 0⟩, ⟨.or, .next, 5, 0, 38⟩, ⟨.set, .next, 5, 0, 30⟩,
  ⟨.set, .next, 5, 0, 22⟩, ⟨.set, .next, 5, 0, 14⟩, ⟨.set, .next, 5, 0, 6⟩,
  ⟨.set, .stay, 5, 2, 0⟩, ⟨.or, .next, 6, 0, 43⟩, ⟨.set, .next, 6, 0, 35⟩,
  ⟨.set, .next, 6, 0, 27⟩, ⟨.set, .next, 6, 0, 19⟩, ⟨.set, .next, 6, 0, 11⟩,
  ⟨.set, .next, 6, 0, 3⟩,
  ⟨.set, .stay, 6, 5, 0⟩, ⟨.or, .next, 7, 0, 40⟩, ⟨.set, .next, 7, 0, 32⟩,
  ⟨.set, .next, 7, 0, 24⟩, ⟨.set, .next, 7, 0, 16⟩, ⟨.set, .next, 7, 0, 8⟩,
  ⟨.set, .stay, 7, 0, 0⟩]

def packBits46 : List PackOp := [
  ⟨.set, .next, 0, 0, 38⟩, ⟨.set, .next, 0, 0, 30⟩, ⟨.set, .next, 0, 0, 22⟩,
  ⟨.set, .next, 0, 0, 14⟩, ⟨.set, .next, 0, 0, 6⟩,
  ⟨.set, .stay, 0, 2, 0⟩, ⟨.or, .next, 1, 0, 44⟩, ⟨.set, .next, 1, 0, 36⟩,
  ⟨.set, .next, 1, 0, 28⟩, ⟨.set, .next, 1, 0, 20⟩, ⟨.set, .next, 1, 0, 12⟩,
  ⟨.set, .next, 1, 0, 4⟩,
  ⟨.set, .stay, 1, 4, 0⟩, ⟨.or, .next, 2, 0, 42⟩, ⟨.set, .next, 2, 0, 34⟩,
  ⟨.set, .next, 2, 0, 26⟩, ⟨.set, .next, 2, 0, 18⟩, ⟨.set, .next, 2, 0, 10⟩,
  ⟨.set, .next, 2, 0, 2⟩,
  ⟨.set, .stay, 2, 6, 0⟩, ⟨.or, .next, 3, 0, 40⟩, ⟨.set, .next, 3, 0, 32⟩,
  ⟨.set, .next, 3, 0, 24⟩, ⟨.set, .next, 3, 0, 16⟩, ⟨.set, .next, 3, 0, 8⟩,
  ⟨.set, .next, 3, 0, 0⟩,
  ⟨.set, .next, 4, 0, 38⟩, ⟨.set, .next, 4, 0, 30⟩, ⟨.set, .next, 4, 0, 22⟩,
  ⟨.set, .next, 4, 0, 14⟩, ⟨.set, .next, 4, 0, 6⟩,
  ⟨.set, .stay, 4, 2, 0⟩, ⟨.or, .next, 5, 0, 44⟩, ⟨.set, .next, 5, 0, 36⟩,
  ⟨.set, .next, 5, 0, 28⟩, ⟨.set, .next, 5, 0, 20⟩, ⟨.set, .next, 5, 0, 12⟩,
  ⟨.set, .next, 5, 0, 4⟩,
  ⟨.set, .stay, 5, 4, 0⟩, ⟨.or, .next, 6, 0, 42⟩, ⟨.set, .next, 6, 0, 34⟩,
  ⟨.set, .next, 6, 0, 26⟩, ⟨.set, .next, 6, 0, 18⟩, ⟨.set, .next, 6, 0, 10⟩,
  ⟨.set, .next, 6, 0, 2⟩,
  ⟨.set, .stay, 6, 6, 0⟩, ⟨.or, .next, 7, 0, 40⟩, ⟨.set, .next, 7, 0, 32⟩,
  ⟨.set, .next, 7, 0, 24⟩, ⟨.set, .next, 7, 0, 16⟩, ⟨.set, .next, 7, 0, 8⟩,
  ⟨.set, .stay, 7, 0, 0⟩]

def packBits47 : List PackOp := [
  ⟨.set, .next, 0, 0, 39⟩, ⟨.set, .next, 0, 0, 31⟩, ⟨.set, .next, 0, 0, 23⟩,
  ⟨.set, .next, 0, 0, 15⟩, ⟨.set, .next, 0, 0, 7⟩,
  ⟨.set, .stay, 0, 1, 0⟩, ⟨.or, .next, 1, 0, 46⟩, ⟨.set, .next, 1, 0, 38⟩,
  ⟨.set, .next, 1, 0, 30⟩, ⟨.set, .next, 1, 0, 22⟩, ⟨.set, .next, 1, 0, 14⟩,
  ⟨.set, .next, 1, 0, 6⟩,
  ⟨.set, .stay, 1, 2, 0⟩, ⟨.or, .next, 2, 0, 45⟩, ⟨.set, .next, 2, 0, 37⟩,
  ⟨.set, .next, 2, 0, 29⟩, ⟨.set, .next, 2, 0, 21⟩, ⟨.set, .next, 2, 0, 13⟩,
  ⟨.set, .next, 2, 0, 5⟩,
  ⟨.set, .stay, 2, 3, 0⟩, ⟨.or, .next, 3, 0, 44⟩, ⟨.set, .next, 3, 0, 36⟩,
  ⟨.set, .next, 3, 0, 28⟩, ⟨.set, .next, 3, 0, 20⟩, ⟨.set, .next, 3, 0, 12⟩,
  ⟨.set, .next, 3, 0, 4⟩,
  ⟨.set, .stay, 3, 4, 0⟩, ⟨.or, .next, 4, 0, 43⟩, ⟨.set, .next, 4, 0, 35⟩,
  ⟨.set, .next, 4, 0, 27⟩, ⟨.set, .next, 4, 0, 19⟩, ⟨.set, .next, 4, 0, 11⟩,
  ⟨.set, .next, 4, 0, 3⟩,
  ⟨.set, .stay, 4, 5, 0⟩, ⟨.or, .next, 5, 0, 42⟩, ⟨.set, .next, 5, 0, 34⟩,
  ⟨.set, .next, 5, 0, 26⟩, ⟨.set, .next, 5, 0, 18⟩, ⟨.set, .next, 5, 0, 10⟩,
  ⟨.set, .next, 5, 0, 2⟩,
  ⟨.set, .stay, 5, 6, 0⟩, ⟨.or, .next, 6, 0, 41⟩, ⟨.set, .next, 6, 0, 33⟩,
  ⟨.set, .next, 6, 0, 25⟩, ⟨.set, .next, 6, 0, 17⟩, ⟨.set, .next, 6, 0, 9⟩,
  ⟨.set, .next, 6, 0, 1⟩,
  ⟨.set, .stay, 6, 7, 0⟩, ⟨.or, .next, 7, 0, 40⟩, ⟨.set, .next, 7, 0, 32⟩,
  ⟨.set, .next, 7, 0, 24⟩, ⟨.set, .next, 7, 0, 16⟩, ⟨.set, .next, 7, 0, 8⟩,
  ⟨.set, .stay, 7, 0, 0⟩]

def packBits48 : List PackOp := [
  ⟨.set, .next, 0, 0, 40⟩, ⟨.set, .next, 0, 0, 32⟩, ⟨.set, .next, 0, 0, 24⟩,
  ⟨.set, .next, 0, 0, 16⟩, ⟨.set, .next, 0, 0, 8⟩, ⟨.set, .next, 0, 0, 0⟩,
  ⟨.set, .next, 1, 0, 40⟩, ⟨.set, .next, 1, 0, 32⟩, ⟨.set, .next, 1, 0, 24⟩,
  ⟨.set, .next, 1, 0, 16⟩, ⟨.set, .next, 1, 0, 8⟩, ⟨.set, .next, 1, 0, 0⟩,
  ⟨.set, .next, 2, 0, 40⟩, ⟨.set, .next, 2, 0, 32⟩, ⟨.set, .next, 2, 0, 24⟩,
  ⟨.set, .next, 2, 0, 16⟩, ⟨.set, .next, 2, 0, 8⟩, ⟨.set, .next, 2, 0, 0⟩,
  ⟨.set, .next, 3, 0, 40⟩, ⟨.set, .next, 3, 0, 32⟩, ⟨.set, .next, 3, 0, 24⟩,
  ⟨.set, .next, 3, 0, 16⟩, ⟨.set, .next, 3, 0, 8⟩, ⟨.set, .next, 3, 0, 0⟩,
  ⟨.set, .next, 4, 0, 40⟩, ⟨.set, .next, 4, 0, 32⟩, ⟨.set, .next, 4, 0, 24⟩,
  ⟨.set, .next, 4, 0, 16⟩, ⟨.set, .next, 4, 0, 8⟩, ⟨.set, .next, 4, 0, 0⟩,
  ⟨.set, .next, 5, 0, 40⟩, ⟨.set, .next, 5, 0, 32⟩, ⟨.set, .next, 5, 0, 24⟩,
  ⟨.set, .next, 5, 0, 16⟩, ⟨.set, .next, 5, 0, 8⟩, ⟨.set, .next, 5, 0, 0⟩,
  ⟨.set, .next, 6, 0, 40⟩, ⟨.set, .next, 6, 0, 32⟩, ⟨.set, .next, 6, 0, 24⟩,
  ⟨.set, .next, 6, 0, 16⟩, ⟨.set, .next, 6, 0, 8⟩, ⟨.set, .next, 6, 0, 0⟩,
  ⟨.set, .next, 7, 0, 40⟩, ⟨.set, .next, 7, 0, 32⟩, ⟨.set, .next, 7, 0, 24⟩,
  ⟨.set, .next, 7, 0, 16⟩, ⟨.set, .next, 7, 0, 8⟩, ⟨.set, .stay, 7, 0, 0⟩]

def packBits49 : List PackOp := [
  ⟨.set, .next, 0, 0, 41⟩, ⟨.set, .next, 0, 0, 33⟩, ⟨.set, .next, 0, 0, 25⟩,
  ⟨.set, .next, 0, 0, 17⟩, ⟨.set, .next, 0, 0, 9⟩, ⟨.set, .next, 0, 0, 1⟩,
  ⟨.set, .stay, 0, 7, 0⟩, ⟨.or, .next, 1, 0, 42⟩, ⟨.set, .next, 1, 0, 34⟩,
  ⟨.set, .next, 1, 0, 26⟩, ⟨.set, .next, 1, 0, 18⟩, ⟨.set, .next, 1, 0, 10⟩,
  ⟨.set, .next, 1, 0, 2⟩,
  ⟨.set, .stay, 1, 6, 0⟩, ⟨.or, .next, 2, 0, 43⟩, ⟨.set, .next, 2, 0, 35⟩,
  ⟨.set, .next, 2, 0, 27⟩, ⟨.set, .next, 2, 0, 19⟩, ⟨.set, .next, 2, 0, 11⟩,
  ⟨.set, .next, 2, 0, 3⟩,
  ⟨.set, .stay, 2, 5, 0⟩, ⟨.or, .next, 3, 0, 44⟩, ⟨.set, .next, 3, 0, 36⟩,
  ⟨.set, .next, 3, 0, 28⟩, ⟨.set, .next, 3, 0, 20⟩, ⟨.set, .next, 3, 0, 12⟩,
  ⟨.set, .next, 3, 0, 4⟩,
  ⟨.set, .stay, 3, 4, 0⟩, ⟨.or, .next, 4, 0, 45⟩, ⟨.set, .next, 4, 0, 37⟩,
  ⟨.set, .next, 4, 0, 29⟩, ⟨.set, .next, 4, 0, 21⟩, ⟨.set, .next, 4, 0, 13⟩,
  ⟨.set, .next, 4, 0, 5⟩,
  ⟨.set, .stay, 4, 3, 0⟩, ⟨.or, .next, 5, 0, 46⟩, ⟨.set, .next, 5, 0, 38⟩,
  ⟨.set, .next, 5, 0, 30⟩, ⟨.set, .next, 5, 0, 22⟩, ⟨.set, .next, 5, 0, 14⟩,
  ⟨.set, .next, 5, 0, 6⟩,
  ⟨.set, .stay, 5, 2, 0⟩, ⟨.or, .next, 6, 0, 47⟩, ⟨.set, .next, 6, 0, 39⟩,
  ⟨.set, .next, 6, 0, 31⟩, ⟨.set, .next, 6, 0, 23⟩, ⟨.set, .next, 6, 0, 15⟩,
  ⟨.set, .next, 6, 0, 7⟩,
  ⟨.set, .stay, 6, 1, 0⟩, ⟨.or, .next, 7, 0, 48⟩, ⟨.set, .next, 7, 0, 40⟩,
  ⟨.set, .next, 7, 0, 32⟩, ⟨.set, .next, 7, 0, 24⟩, ⟨.set, .next, 7, 0, 16⟩,
  ⟨.set, .next, 7, 0, 8⟩, ⟨.set, .stay, 7, 0, 0⟩]

def packBits50 : List PackOp := [
  ⟨.set, .next, 0, 0, 42⟩, ⟨.set, .next, 0, 0, 34⟩, ⟨.set, .next, 0, 0, 26⟩,
  ⟨.set, .next, 0, 0, 18⟩, ⟨.set, .next, 0, 0, 10⟩, ⟨.set, .next, 0, 0, 2⟩,
  ⟨.set, .stay, 0, 6, 0⟩, ⟨.or, .next, 1, 0, 44⟩, ⟨.set, .next, 1, 0, 36⟩,
  ⟨.set, .next, 1, 0, 28⟩, ⟨.set, .next, 1, 0, 20⟩, ⟨.set, .next, 1, 0, 12⟩,
  ⟨.set, .next, 1, 0, 4⟩,
  ⟨.set, .stay, 1, 4, 0⟩, ⟨.or, .next, 2, 0, 46⟩, ⟨.set, .next, 2, 0, 38⟩,
  ⟨.set, .next, 2, 0, 30⟩, ⟨.set, .next, 2, 0, 22⟩, ⟨.set, .next, 2, 0, 14⟩,
  ⟨.set, .next, 2, 0, 6⟩,
  ⟨.set, .stay, 2, 2, 0⟩, ⟨.or, .next, 3, 0, 48⟩, ⟨.set, .next, 3, 0, 40⟩,
  ⟨.set, .next, 3, 0, 32⟩, ⟨.set, .next, 3, 0, 24⟩, ⟨.set, .next, 3, 0, 16⟩,
  ⟨.set, .next, 3, 0, 8⟩, ⟨.set, .next, 3, 0, 0⟩,
  ⟨.set, .next, 4, 0, 42⟩, ⟨.set, .next, 4, 0, 34⟩, ⟨.set, .next, 4, 0, 26⟩,
  ⟨.set, .next, 4, 0, 18⟩, ⟨.set, .next, 4, 0, 10⟩, ⟨.set, .next, 4, 0, 2⟩,
  ⟨.set, .stay, 4, 6, 0⟩, ⟨.or, .next, 5, 0, 44⟩, ⟨.set, .next, 5, 0, 36⟩,
  ⟨.set, .next, 5, 0, 28⟩, ⟨.set, .next, 5, 0, 20⟩, ⟨.set, .next, 5, 0, 12⟩,
  ⟨.set, .next, 5, 0, 4⟩,
  ⟨.set, .stay, 5, 4, 0⟩, ⟨.or, .next, 6, 0, 46⟩, ⟨.set, .next, 6, 0, 38⟩,
  ⟨.set, .next, 6, 0, 30⟩, ⟨.set, .next, 6, 0, 22⟩, ⟨.set, .next, 6, 0, 14⟩,
  ⟨.set, .next, 6, 0, 6⟩,
  ⟨.set, .stay, 6, 2, 0⟩, ⟨.or, .next, 7, 0, 48⟩, ⟨.set, .next, 7, 0, 40⟩,
  ⟨.set, .next, 7, 0, 32⟩, ⟨.set, .next, 7, 0, 24⟩, ⟨.set, .next, 7, 0, 16⟩,
  ⟨.set, .next, 7, 0, 8⟩, ⟨.set, .stay, 7, 0, 0⟩]

def packBits51 : List PackOp := [
  ⟨.set, .next, 0, 0, 43⟩, ⟨.set, .next, 0, 0, 35⟩, ⟨.set, .next, 0, 0, 27⟩,
  ⟨.set, .next, 0, 0, 19⟩, ⟨.set, .next, 0, 0, 11⟩, ⟨.set, .next, 0, 0, 3⟩,
  ⟨.set, .stay, 0, 5, 0⟩, ⟨.or, .next, 1, 0, 46⟩, ⟨.set, .next, 1, 0, 38⟩,
  ⟨.set, .next, 1, 0, 30⟩, ⟨.set, .next, 1, 0, 22⟩, ⟨.set, .next, 1, 0, 14⟩,
  ⟨.set, .next, 1, 0, 6⟩,
  ⟨.set, .stay, 1, 2, 0⟩, ⟨.or, .next, 2, 0, 49⟩, ⟨.set, .next, 2, 0, 41⟩,
  ⟨.set, .next, 2, 0, 33⟩, ⟨.set, .next, 2, 0, 25⟩, ⟨.set, .next, 2, 0, 17⟩,
  ⟨.set, .next, 2, 0, 9⟩, ⟨.set, .next, 2, 0, 1⟩,
  ⟨.set, .stay, 2, 7, 0⟩, ⟨.or, .next, 3, 0, 44⟩, ⟨.set, .next, 3, 0, 36⟩,
  ⟨.set, .next, 3, 0, 28⟩, ⟨.set, .next, 3, 0, 20⟩, ⟨.set, .next, 3, 0, 12⟩,
  ⟨.set, .next, 3, 0, 4⟩,
  ⟨.set, .stay, 3, 4, 0⟩, ⟨.or, .next, 4, 0, 47⟩, ⟨.set, .next, 4, 0, 39⟩,
  ⟨.set, .next, 4, 0, 31⟩, ⟨.set, .next, 4, 0, 23⟩, ⟨.set, .next, 4, 0, 15⟩,
  ⟨.set, .next, 4, 0, 7⟩,
  ⟨.set, .stay, 4, 1, 0⟩, ⟨.or, .next, 5, 0, 50⟩, ⟨.set, .next, 5, 0, 42⟩,
  ⟨.set, .next, 5, 0, 34⟩, ⟨.set, .next, 5, 0, 26⟩, ⟨.set, .next, 5, 0, 18⟩,
  ⟨.set, .next, 5, 0, 10⟩, ⟨.set, .next, 5, 0, 2⟩,
  ⟨.set, .stay, 5, 6, 0⟩, ⟨.or, .next, 6, 0, 45⟩, ⟨.set, .next, 6, 0, 37⟩,
  ⟨.set, .next, 6, 0, 29⟩, ⟨.set, .next, 6, 0, 21⟩, ⟨.set, .next, 6, 0, 13⟩,
  ⟨.set, .next, 6, 0, 5⟩,
  ⟨.set, .stay, 6, 3, 0⟩, ⟨.or, .next, 7, 0, 48⟩, ⟨.set, .next, 7, 0, 40⟩,
  ⟨.set, .next, 7, 0, 32⟩, ⟨.set, .next, 7, 0, 24⟩, ⟨.set, .next, 7, 0, 16⟩,
  ⟨.set, .next, 7, 0, 8⟩, ⟨.set, .stay, 7, 0, 0⟩]

def packBits52 : List PackOp := [
  ⟨.set, .next, 0, 0, 44⟩, ⟨.set, .next, 0, 0, 36⟩, ⟨.set, .next, 0, 0, 28⟩,
  ⟨.set, .next, 0, 0, 20⟩, ⟨.set, .next, 0, 0, 12⟩, ⟨.set, .next, 0, 0, 4⟩,
  ⟨.set, .stay, 0, 4, 0⟩, ⟨.or, .next, 1, 0, 48⟩, ⟨.set, .next, 1, 0, 40⟩,
  ⟨.set, .next, 1, 0, 32⟩, ⟨.set, .next, 1, 0, 24⟩, ⟨.set, .next, 1, 0, 16⟩,
  ⟨.set, .next, 1, 0, 8⟩, ⟨.set, .next, 1, 0, 0⟩,
  ⟨.set, .next, 2, 0, 44⟩, ⟨.set, .next, 2, 0, 36⟩, ⟨.set, .next, 2, 0, 28⟩,
  ⟨.set, .next, 2, 0, 20⟩, ⟨.set, .next, 2, 0, 12⟩, ⟨.set, .next, 2, 0, 4⟩,
  ⟨.set, .stay, 2, 4, 0⟩, ⟨.or, .next, 3, 0, 48⟩, ⟨.set, .next, 3, 0, 40⟩,
  ⟨.set, .next, 3, 0, 32⟩, ⟨.set, .next, 3, 0, 24⟩, ⟨.set, .next, 3, 0, 16⟩,
  ⟨.set, .next, 3, 0, 8⟩, ⟨.set, .next, 3, 0, 0⟩,
  ⟨.set, .next, 4, 0, 44⟩, ⟨.set, .next, 4, 0, 36⟩, ⟨.set, .next, 4, 0, 28⟩,
  ⟨.set, .next, 4, 0, 20⟩, ⟨.set, .next, 4, 0, 12⟩, ⟨.set, .next, 4, 0, 4⟩,
  ⟨.set, .stay, 4, 4, 0⟩, ⟨.or, .next, 5, 0, 48⟩, ⟨.set, .next, 5, 0, 40⟩,
  ⟨.set, .next, 5, 0, 32⟩, ⟨.set, .next, 5, 0, 24⟩, ⟨.set, .next, 5, 0, 16⟩,
  ⟨.set, .next, 5, 0, 8⟩, ⟨.set, .next, 5, 0, 0⟩,
  ⟨.set, .next, 6, 0, 44⟩, ⟨.set, .next, 6, 0, 36⟩, ⟨.set, .next, 6, 0, 28⟩,
  ⟨.set, .next, 6, 0, 20⟩, ⟨.set, .next, 6, 0, 12⟩, ⟨.set, .next, 6, 0, 4⟩,
  ⟨.set, .stay, 6, 4, 0⟩, ⟨.or, .next, 7, 0, 48⟩, ⟨.set, .next, 7, 0, 40⟩,
  ⟨.set, .next, 7, 0, 32⟩, ⟨.set, .next, 7, 0, 24⟩, ⟨.set, .next, 7, 0, 16⟩,
  ⟨.set, .next, 7, 0, 8⟩, ⟨.set, .stay, 7, 0, 0⟩]

def packBits53 : List PackOp := [
  ⟨.set, .next, 0, 0, 45⟩, ⟨.set, .next, 0, 0, 37⟩, ⟨.set, .next, 0, 0, 29⟩,
  ⟨.set, .next, 0, 0, 21⟩, ⟨.set, .next, 0, 0, 13⟩, ⟨.set, .next, 0, 0, 5⟩,
  ⟨.set, .stay, 0, 3, 0⟩, ⟨.or, .next, 1, 0, 50⟩, ⟨.set, .next, 1, 0, 42⟩,
  ⟨.set, .next, 1, 0, 34⟩, ⟨.set, .next, 1, 0, 26⟩, ⟨.set, .next, 1, 0, 18⟩,
  ⟨.set, .next, 1, 0, 10⟩, ⟨.set, .next, 1, 0, 2⟩,
  ⟨.set, .stay, 1, 6, 0⟩, ⟨.or, .next, 2, 0, 47⟩, ⟨.set, .next, 2, 0, 39⟩,
  ⟨.set, .next, 2, 0, 31⟩, ⟨.set, .next, 2, 0, 23⟩, ⟨.set, .next, 2, 0, 15⟩,
  ⟨.set, .next, 2, 0, 7⟩,
  ⟨.set, .stay, 2, 1, 0⟩, ⟨.or, .next, 3, 0, 52⟩, ⟨.set, .next, 3, 0, 44⟩,
  ⟨.set, .next, 3, 0, 36⟩, ⟨.set, .next, 3, 0, 28⟩, ⟨.set, .next, 3, 0, 20⟩,
  ⟨.set, .next, 3, 0, 12⟩, ⟨.set, .next, 3, 0, 4⟩,
  ⟨.set, .stay, 3, 4, 0⟩, ⟨.or, .next, 4, 0, 49⟩, ⟨.set, .next, 4, 0, 41⟩,
  ⟨.set, .next, 4, 0, 33⟩, ⟨.set, .next, 4, 0, 25⟩, ⟨.set, .next, 4, 0, 17⟩,
  ⟨.set, .next, 4, 0, 9⟩, ⟨.set, .next, 4, 0, 1⟩,
  ⟨.set, .stay, 4, 7, 0⟩, ⟨.or, .next, 5, 0, 46⟩, ⟨.set, .next, 5, 0, 38⟩,
  ⟨.set, .next, 5, 0, 30⟩, ⟨.set, .next, 5, 0, 22⟩, ⟨.set, .next, 5, 0, 14⟩,
  ⟨.set, .next, 5, 0, 6⟩,
  ⟨.set, .stay, 5, 2, 0⟩, ⟨.or, .next, 6, 0, 51⟩, ⟨.set, .next, 6, 0, 43⟩,
  ⟨.set, .next, 6, 0, 35⟩, ⟨.set, .next, 6, 0, 27⟩, ⟨.set, .next, 6, 0, 19⟩,
  ⟨.set, .next, 6, 0, 11⟩, ⟨.set, .next, 6, 0, 3⟩,
  ⟨.set, .stay, 6, 5, 0⟩, ⟨.or, .next, 7, 0, 48⟩, ⟨.set, .next, 7, 0, 40⟩,
  ⟨.set, .next, 7, 0, 32⟩, ⟨.set, .next, 7, 0, 24⟩, ⟨.set, .next, 7, 0, 16⟩,
  ⟨.set, .next, 7, 0, 8⟩, ⟨.set, .stay, 7, 0, 0⟩]

def packBits54 : List PackOp := [
  ⟨.set, .next, 0, 0, 46⟩, ⟨.set, .next, 0, 0, 38⟩, ⟨.set, .next, 0, 0, 30⟩,
  ⟨.set, .next, 0, 0, 22⟩, ⟨.set, .next, 0, 0, 14⟩, ⟨.set, .next, 0, 0, 6⟩,
  ⟨.set, .stay, 0, 2, 0⟩, ⟨.or, .next, 1, 0, 52⟩, ⟨.set, .next, 1, 0, 44⟩,
  ⟨.set, .next, 1, 0, 36⟩, ⟨.set, .next, 1, 0, 28⟩, ⟨.set, .next, 1, 0, 20⟩,
  ⟨.set, .next, 1, 0, 12⟩, ⟨.set, .next, 1, 0, 4⟩,
  ⟨.set, .stay, 1, 4, 0⟩, ⟨.or, .next, 2, 0, 50⟩, ⟨.set, .next, 2, 0, 42⟩,
  ⟨.set, .next, 2, 0, 34⟩, ⟨.set, .next, 2, 0, 26⟩, ⟨.set, .next, 2, 0, 18⟩,
  ⟨.set, .next, 2, 0, 10⟩, ⟨.set, .next, 2, 0, 2⟩,
  ⟨.set, .stay, 2, 6, 0⟩, ⟨.or, .next, 3, 0, 48⟩, ⟨.set, .next, 3, 0, 40⟩,
  ⟨.set, .next, 3, 0, 32⟩, ⟨.set, .next, 3, 0, 24⟩, ⟨.set, .next, 3, 0, 16⟩,
  ⟨.set, .next, 3, 0, 8⟩, ⟨.set, .next, 3, 0, 0⟩,
  ⟨.set, .next, 4, 0, 46⟩, ⟨.set, .next, 4, 0, 38⟩, ⟨.set, .next, 4, 0, 30⟩,
  ⟨.set, .next, 4, 0, 22⟩, ⟨.set, .next, 4, 0, 14⟩, ⟨.set, .next, 4, 0, 6⟩,
  ⟨.set, .stay, 4, 2, 0⟩, ⟨.or, .next, 5, 0, 52⟩, ⟨.set, .next, 5, 0, 44⟩,
  ⟨.set, .next, 5, 0, 36⟩, ⟨.set, .next, 5, 0, 28⟩, ⟨.set, .next, 5, 0, 20⟩,
  ⟨.set, .next, 5, 0, 12⟩, ⟨.set, .next, 5, 0, 4⟩,
  ⟨.set, .stay, 5, 4, 0⟩, ⟨.or, .next, 6, 0, 50⟩, ⟨.set, .next, 6, 0, 42⟩,
  ⟨.set, .next, 6, 0, 34⟩, ⟨.set, .next, 6, 0, 26⟩, ⟨.set, .next, 6, 0, 18⟩,
  ⟨.set, .next, 6, 0, 10⟩, ⟨.set, .next, 6, 0, 2⟩,
  ⟨.set, .stay, 6, 6, 0⟩, ⟨.or, .next, 7, 0, 48⟩, ⟨.set, .next, 7, 0, 40⟩,
  ⟨.set, .next, 7, 0, 32⟩, ⟨.set, .next, 7, 0, 24⟩, ⟨.set, .next, 7, 0, 16⟩,
  ⟨.set, .next, 7, 0, 8⟩, ⟨.set, .stay, 7, 0, 0⟩]

def packBits55 : List PackOp := [
  ⟨.set, .next, 0, 0, 47⟩, ⟨.set, .next, 0, 0, 39⟩, ⟨.set, .next, 0, 0, 31⟩,
  ⟨.set, .next, 0, 0, 23⟩, ⟨.set, .next, 0, 0, 15⟩, ⟨.set, .next, 0, 0, 7⟩,
  ⟨.set, .stay, 0, 1, 0⟩, ⟨.or, .next, 1, 0, 54⟩, ⟨.set, .next, 1, 0, 46⟩,
  ⟨.set, .next, 1, 0, 38⟩, ⟨.set, .next, 1, 0, 30⟩, ⟨.set, .next, 1, 0, 22⟩,
  ⟨.set, .next, 1, 0, 14⟩, ⟨.set, .next, 1, 0, 6⟩,
  ⟨.set, .stay, 1, 2, 0⟩, ⟨.or, .next, 2, 0, 53⟩, ⟨.set, .next, 2, 0, 45⟩,
  ⟨.set, .next, 2, 0, 37⟩, ⟨.set, .next, 2, 0, 29⟩, ⟨.set, .next, 2, 0, 21⟩,
  ⟨.set, .next, 2, 0, 13⟩, ⟨.set, .next, 2, 0, 5⟩,
  ⟨.set, .stay, 2, 3, 0⟩, ⟨.or, .next, 3, 0, 52⟩, ⟨.set, .next, 3, 0, 44⟩,
  ⟨.set, .next, 3, 0, 36⟩, ⟨.set, .next, 3, 0, 28⟩, ⟨.set, .next, 3, 0, 20⟩,
  ⟨.set, .next, 3, 0, 12⟩, ⟨.set, .next, 3, 0, 4⟩,
  ⟨.set, .stay, 3, 4, 0⟩, ⟨.or, .next, 4, 0, 51⟩, ⟨.set, .next, 4, 0, 43⟩,
  ⟨.set, .next, 4, 0, 35⟩, ⟨.set, .next, 4, 0, 27⟩, ⟨.set, .next, 4, 0, 19⟩,
  ⟨.set, .next, 4, 0, 11⟩, ⟨.set, .next, 4, 0, 3⟩,
  ⟨.set, .stay, 4, 5, 0⟩, ⟨.or, .next, 5, 0, 50⟩, ⟨.set, .next, 5, 0, 42⟩,
  ⟨.set, .next, 5, 0, 34⟩, ⟨.set, .next, 5, 0, 26⟩, ⟨.set, .next, 5, 0, 18⟩,
  ⟨.set, .next, 5, 0, 10⟩, ⟨.set, .next, 5, 0, 2⟩,
  ⟨.set, .stay, 5, 6, 0⟩, ⟨.or, .next, 6, 0, 49⟩, ⟨.set, .next, 6, 0, 41⟩,
  ⟨.set, .next, 6, 0, 33⟩, ⟨.set, .next, 6, 0, 25⟩, ⟨.set, .next, 6, 0, 17⟩,
  ⟨.set, .next, 6, 0, 9⟩, ⟨.set, .next, 6, 0, 1⟩,
  ⟨.set, .stay, 6, 7, 0⟩, ⟨.or, .next, 7, 0, 48⟩, ⟨.set, .next, 7, 0, 40⟩,
  ⟨.set, .next, 7, 0, 32⟩, ⟨.set, .next, 7, 0, 24⟩, ⟨.set, .next, 7, 0, 16⟩,
  ⟨.set, .next, 7, 0, 8⟩, ⟨.set, .stay, 7, 0, 0⟩]

def packBits56 : List PackOp := [
  ⟨.set, .next, 0, 0, 48⟩, ⟨.set, .next, 0, 0, 40⟩, ⟨.set, .next, 0, 0, 32⟩,
  ⟨.set, .next, 0, 0, 24⟩, ⟨.set, .next, 0, 0, 16⟩, ⟨.set, .next, 0, 0, 8⟩,
  ⟨.set, .next, 0, 0, 0⟩,
  ⟨.set, .next, 1, 0, 48⟩, ⟨.set, .next, 1, 0, 40⟩, ⟨.set, .next, 1, 0, 32⟩,
  ⟨.set, .next, 1, 0, 24⟩, ⟨.set, .next, 1, 0, 16⟩, ⟨.set, .next, 1, 0, 8⟩,
  ⟨.set, .next, 1, 0, 0⟩,
  ⟨.set, .next, 2, 0, 48⟩, ⟨.set, .next, 2, 0, 40⟩, ⟨.set, .next, 2, 0, 32⟩,
  ⟨.set, .next, 2, 0, 24⟩, ⟨.set, .next, 2, 0, 16⟩, ⟨.set, .next, 2, 0, 8⟩,
  ⟨.set, .next, 2, 0, 0⟩,
  ⟨.set, .next, 3, 0, 48⟩, ⟨.set, .next, 3, 0, 40⟩, ⟨.set, .next, 3, 0, 32⟩,
  ⟨.set, .next, 3, 0, 24⟩, ⟨.set, .next, 3, 0, 16⟩, ⟨.set, .next, 3, 0, 8⟩,
  ⟨.set, .next, 3, 0, 0⟩,
  ⟨.set, .next, 4, 0, 48⟩, ⟨.set, .next, 4, 0, 40⟩, ⟨.set, .next, 4, 0, 32⟩,
  ⟨.set, .next, 4, 0, 24⟩, ⟨.set, .next, 4, 0, 16⟩, ⟨.set, .next, 4, 0, 8⟩,
  ⟨.set, .next, 4, 0, 0⟩,
  ⟨.set, .next, 5, 0, 48⟩, ⟨.set, .next, 5, 0, 40⟩, ⟨.set, .next, 5, 0, 32⟩,
  ⟨.set, .next, 5, 0, 24⟩, ⟨.set, .next, 5, 0, 16⟩, ⟨.set, .next, 5, 0, 8⟩,
  ⟨.set, .next, 5, 0, 0⟩,
  ⟨.set, .next, 6, 0, 48⟩, ⟨.set, .next, 6, 0, 40⟩, ⟨.set, .next, 6, 0, 32⟩,
  ⟨.set, .next, 6, 0, 24⟩, ⟨.set, .next, 6, 0, 16⟩, ⟨.set, .next, 6, 0, 8⟩,
  ⟨.set, .next, 6, 0, 0⟩,
  ⟨.set, .next, 7, 0, 48⟩, ⟨.set, .next, 7, 0, 40⟩, ⟨.set, .next, 7, 0, 32⟩,
  ⟨.set, .next, 7, 0, 24⟩, ⟨.set, .next, 7, 0, 16⟩, ⟨.set, .next, 7, 0, 8⟩,
  ⟨.set, .stay, 7, 0, 0⟩]

def packBits57 : List PackOp := [
  ⟨.set, .next, 0, 0, 49⟩, ⟨.set, .next, 0, 0, 41⟩, ⟨.set, .next, 0, 0, 33⟩,
  ⟨.set, .next, 0, 0, 25⟩, ⟨.set, .next, 0, 0, 17⟩, ⟨.set, .next, 0, 0, 9⟩,
  ⟨.set, .next, 0, 0, 1⟩,
  ⟨.set, .stay, 0, 7, 0⟩, ⟨.or, .next, 1, 0, 50⟩, ⟨.set, .next, 1, 0, 42⟩,
  ⟨.set, .next, 1, 0, 34⟩, ⟨.set, .next, 1, 0, 26⟩, ⟨.set, .next, 1, 0, 18⟩,
  ⟨.set, .next, 1, 0, 10⟩, ⟨.set, .next, 1, 0, 2⟩,
  ⟨.set, .stay, 1, 6, 0⟩, ⟨.or, .next, 2, 0, 51⟩, ⟨.set, .next, 2, 0, 43⟩,
  ⟨.set, .next, 2, 0, 35⟩, ⟨.set, .next, 2, 0, 27⟩, ⟨.set, .next, 2, 0, 19⟩,
  ⟨.set, .next, 2, 0, 11⟩, ⟨.set, .next, 2, 0, 3⟩,
  ⟨.set, .stay, 2, 5, 0⟩, ⟨.or, .next, 3, 0, 52⟩, ⟨.set, .next, 3, 0, 44⟩,
  ⟨.set, .next, 3, 0, 36⟩, ⟨.set, .next, 3, 0, 28⟩, ⟨.set, .next, 3, 0, 20⟩,
  ⟨.set, .next, 3, 0, 12⟩, ⟨.set, .next, 3, 0, 4⟩,
  ⟨.set, .stay, 3, 4, 0⟩, ⟨.or, .next, 4, 0, 53⟩, ⟨.set, .next, 4, 0, 45⟩,
  ⟨.set, .next, 4, 0, 37⟩, ⟨.set, .next, 4, 0, 29⟩, ⟨.set, .next, 4, 0, 21⟩,
  ⟨.set, .next, 4, 0, 13⟩, ⟨.set, .next, 4, 0, 5⟩,
  ⟨.set, .stay, 4, 3, 0⟩, ⟨.or, .next, 5, 0, 54⟩, ⟨.set, .next, 5, 0, 46⟩,
  ⟨.set, .next, 5, 0, 38⟩, ⟨.set, .next, 5, 0, 30⟩, ⟨.set, .next, 5, 0, 22⟩,
  ⟨.set, .next, 5, 0, 14⟩, ⟨.set, .next, 5, 0, 6⟩,
  ⟨.set, .stay, 5, 2, 0⟩, ⟨.or, .next, 6, 0, 55⟩, ⟨.set, .next, 6, 0, 47⟩,
  ⟨.set, .next, 6, 0, 39⟩, ⟨.set, .next, 6, 0, 31⟩, ⟨.set, .next, 6, 0, 23⟩,
  ⟨.set, .next, 6, 0, 15⟩, ⟨.set, .next, 6, 0, 7⟩,
  ⟨.set, .stay, 6, 1, 0⟩, ⟨.or, .next, 7, 0, 56⟩, ⟨.set, .next, 7, 0, 48⟩,
  ⟨.set, .next, 7, 0, 40⟩, ⟨.set, .next, 7, 0, 32⟩, ⟨.set, .next, 7, 0, 24⟩,
  ⟨.set, .next, 7, 0, 16⟩, ⟨.set, .next, 7, 0, 8⟩, ⟨.set, .stay, 7, 0, 0⟩]

def packBits58 : List PackOp := [
  ⟨.set, .next, 0, 0, 50⟩, ⟨.set, .next, 0, 0, 42⟩, ⟨.set, .next, 0, 0, 34⟩,
  ⟨.set, .next, 0, 0, 26⟩, ⟨.set, .next, 0, 0, 18⟩, ⟨.set, .next, 0, 0, 10⟩,
  ⟨.set, .next, 0, 0, 2⟩,
  ⟨.set, .stay, 0, 6, 0⟩, ⟨.or, .next, 1, 0, 52⟩, ⟨.set, .next, 1, 0, 44⟩,
  ⟨.set, .next, 1, 0, 36⟩, ⟨.set, .next, 1, 0, 28⟩, ⟨.set, .next, 1, 0, 20⟩,
  ⟨.set, .next, 1, 0, 12⟩, ⟨.set, .next, 1, 0, 4⟩,
  ⟨.set, .stay, 1, 4, 0⟩, ⟨.or, .next, 2, 0, 54⟩, ⟨.set, .next, 2, 0, 46⟩,
  ⟨.set, .next, 2, 0, 38⟩, ⟨.set, .next, 2, 0, 30⟩, ⟨.set, .next, 2, 0, 22⟩,
  ⟨.set, .next, 2, 0, 14⟩, ⟨.set, .next, 2, 0, 6⟩,
  ⟨.set, .stay, 2, 2, 0⟩, ⟨.or, .next, 3, 0, 56⟩, ⟨.set, .next, 3, 0, 48⟩,
  ⟨.set, .next, 3, 0, 40⟩, ⟨.set, .next, 3, 0, 32⟩, ⟨.set, .next, 3, 0, 24⟩,
  ⟨.set, .next, 3, 0, 16⟩, ⟨.set, .next, 3, 0, 8⟩, ⟨.set, .next, 3, 0, 0⟩,
  ⟨.set, .next, 4, 0, 50⟩, ⟨.set, .next, 4, 0, 42⟩, ⟨.set, .next, 4, 0, 34⟩,
  ⟨.set, .next, 4, 0, 26⟩, ⟨.set, .next, 4, 0, 18⟩, ⟨.set, .next, 4, 0, 10⟩,
  ⟨.set, .next, 4, 0, 2⟩,
  ⟨.set, .stay, 4, 6, 0⟩, ⟨.or, .next, 5, 0, 52⟩, ⟨.set, .next, 5, 0, 44⟩,
  ⟨.set, .next, 5, 0, 36⟩, ⟨.set, .next, 5, 0, 28⟩, ⟨.set, .next, 5, 0, 20⟩,
  ⟨.set, .next, 5, 0, 12⟩, ⟨.set, .next, 5, 0, 4⟩,
  ⟨.set, .stay, 5, 4, 0⟩, ⟨.or, .next, 6, 0, 54⟩, ⟨.set, .next, 6, 0, 46⟩,
  ⟨.set, .next, 6, 0, 38⟩, ⟨.set, .next, 6, 0, 30⟩, ⟨.set, .next, 6, 0, 22⟩,
  ⟨.set, .next, 6, 0, 14⟩, ⟨.set, .next, 6, 0, 6⟩,
  ⟨.set, .stay, 6, 2, 0⟩, ⟨.or, .next, 7, 0, 56⟩, ⟨.set, .next, 7, 0, 48⟩,
  ⟨.set, .next, 7, 0, 40⟩, ⟨.set, .next, 7, 0, 32⟩, ⟨.set, .next, 7, 0, 24⟩,
  ⟨.set, .next, 7, 0, 16⟩, ⟨.set, .next, 7, 0, 8⟩, ⟨.set, .stay, 7, 0, 0⟩]

def packBits59 : List PackOp := [
  ⟨.set, .next, 0, 0, 51⟩, ⟨.set, .next, 0, 0, 43⟩, ⟨.set, .next, 0, 0, 35⟩,
  ⟨.set, .next, 0, 0, 27⟩, ⟨.set, .next, 0, 0, 19⟩, ⟨.set, .next, 0, 0, 11⟩,
  ⟨.set, .next, 0, 0, 3⟩,
  ⟨.set, .stay, 0, 5, 0⟩, ⟨.or, .next, 1, 0, 54⟩, ⟨.set, .next, 1, 0, 46⟩,
  ⟨.set, .next, 1, 0, 38⟩, ⟨.set, .next, 1, 0, 30⟩, ⟨.set, .next, 1, 0, 22⟩,
  ⟨.set, .next, 1, 0, 14⟩, ⟨.set, .next, 1, 0, 6⟩,
  ⟨.set, .stay, 1, 2, 0⟩, ⟨.or, .next, 2, 0, 57⟩, ⟨.set, .next, 2, 0, 49⟩,
  ⟨.set, .next, 2, 0, 41⟩, ⟨.set, .next, 2, 0, 33⟩, ⟨.set, .next, 2, 0, 25⟩,
  ⟨.set, .next, 2, 0, 17⟩, ⟨.set, .next, 2, 0, 9⟩, ⟨.set, .next, 2, 0, 1⟩,
  ⟨.set, .stay, 2, 7, 0⟩, ⟨.or, .next, 3, 0, 52⟩, ⟨.set, .next, 3, 0, 44⟩,
  ⟨.set, .next, 3, 0, 36⟩, ⟨.set, .next, 3, 0, 28⟩, ⟨.set, .next, 3, 0, 20⟩,
  ⟨.set, .next, 3, 0, 12⟩, ⟨.set, .next, 3, 0, 4⟩,
  ⟨.set, .stay, 3, 4, 0⟩, ⟨.or, .next, 4, 0, 55⟩, ⟨.set, .next, 4, 0, 47⟩,
  ⟨.set, .next, 4, 0, 39⟩, ⟨.set, .next, 4, 0, 31⟩, ⟨.set, .next, 4, 0, 23⟩,
  ⟨.set, .next, 4, 0, 15⟩, ⟨.set, .next, 4, 0, 7⟩,
  ⟨.set, .stay, 4, 1, 0⟩, ⟨.or, .next, 5, 0, 58⟩, ⟨.set, .next, 5, 0, 50⟩,
  ⟨.set, .next, 5, 0, 42⟩, ⟨.set, .next, 5, 0, 34⟩, ⟨.set, .next, 5, 0, 26⟩,
  ⟨.set, .next, 5, 0, 18⟩, ⟨.set, .next, 5, 0, 10⟩, ⟨.set, .next, 5, 0, 2⟩,
  ⟨.set, .stay, 5, 6, 0⟩, ⟨.or, .next, 6, 0, 53⟩, ⟨.set, .next, 6, 0, 45⟩,
  ⟨.set, .next, 6, 0, 37⟩, ⟨.set, .next, 6, 0, 29⟩, ⟨.set, .next, 6, 0, 21⟩,
  ⟨.set, .next, 6, 0, 13⟩, ⟨.set, .next, 6, 0, 5⟩,
  ⟨.set, .stay, 6, 3, 0⟩, ⟨.or, .next, 7, 0, 56⟩, ⟨.set, .next, 7, 0, 48⟩,
  ⟨.set, .next, 7, 0, 40⟩, ⟨.set, .next, 7, 0, 32⟩, ⟨.set, .next, 7, 0, 24⟩,
  ⟨.set, .next, 7, 0, 16⟩, ⟨.set, .next, 7, 0, 8⟩, ⟨.set, .stay, 7, 0, 0⟩]

def packBits60 : List PackOp := [
  ⟨.set, .next, 0, 0, 52⟩, ⟨.set, .next, 0, 0, 44⟩, ⟨.set, .next, 0, 0, 36⟩,
  ⟨.set, .next, 0, 0, 28⟩, ⟨.set, .next, 0, 0, 20⟩, ⟨.set, .next, 0, 0, 12⟩,
  ⟨.set, .next, 0, 0, 4⟩,
  ⟨.set, .stay, 0, 4, 0⟩, ⟨.or, .next, 1, 0, 56⟩, ⟨.set, .next, 1, 0, 48⟩,
  ⟨.set, .next, 1, 0, 40⟩, ⟨.set, .next, 1, 0, 32⟩, ⟨.set, .next, 1, 0, 24⟩,
  ⟨.set, .next, 1, 0, 16⟩, ⟨.set, .next, 1, 0, 8⟩, ⟨.set, .next, 1, 0, 0⟩,
  ⟨.set, .next, 2, 0, 52⟩, ⟨.set, .next, 2, 0, 44⟩, ⟨.set, .next, 2, 0, 36⟩,
  ⟨.set, .next, 2, 0, 28⟩, ⟨.set, .next, 2, 0, 20⟩, ⟨.set, .next, 2, 0, 12⟩,
  ⟨.set, .next, 2, 0, 4⟩,
  ⟨.set, .stay, 2, 4, 0⟩, ⟨.or, .next, 3, 0, 56⟩, ⟨.set, .next, 3, 0, 48⟩,
  ⟨.set, .next, 3, 0, 40⟩, ⟨.set, .next, 3, 0, 32⟩, ⟨.set, .next, 3, 0, 24⟩,
  ⟨.set, .next, 3, 0, 16⟩, ⟨.set, .next, 3, 0, 8⟩, ⟨.set, .next, 3, 0, 0⟩,
  ⟨.set, .next, 4, 0, 52⟩, ⟨.set, .next, 4, 0, 44⟩, ⟨.set, .next, 4, 0, 36⟩,
  ⟨.set, .next, 4, 0, 28⟩, ⟨.set, .next, 4, 0, 20⟩, ⟨.set, .next, 4, 0, 12⟩,
  ⟨.set, .next, 4, 0, 4⟩,
  ⟨.set, .stay, 4, 4, 0⟩, ⟨.or, .next, 5, 0, 56⟩, ⟨.set, .next, 5, 0, 48⟩,
  ⟨.set, .next, 5, 0, 40⟩, ⟨.set, .next, 5, 0, 32⟩, ⟨.set, .next, 5, 0, 24⟩,
  ⟨.set, .next, 5, 0, 16⟩, ⟨.set, .next, 5, 0, 8⟩, ⟨.set, .next, 5, 0, 0⟩,
  ⟨.set, .next, 6, 0, 52⟩, ⟨.set, .next, 6, 0, 44⟩, ⟨.set, .next, 6, 0, 36⟩,
  ⟨.set, .next, 6, 0, 28⟩, ⟨.set, .next, 6, 0, 20⟩, ⟨.set, .next, 6, 0, 12⟩,
  ⟨.set, .next, 6, 0, 4⟩,
  ⟨.set, .stay, 6, 4, 0⟩, ⟨.or, .next, 7, 0, 56⟩, ⟨.set, .next, 7, 0, 48⟩,
  ⟨.set, .next, 7, 0, 40⟩, ⟨.set, .next, 7, 0, 32⟩, ⟨.set, .next, 7, 0, 24⟩,
  ⟨.set, .next, 7, 0, 16⟩, ⟨.set, .next, 7, 0, 8⟩, ⟨.set, .stay, 7, 0, 0⟩]

def packBits61 : List PackOp := [
  ⟨.set, .next, 0, 0, 53⟩, ⟨.set, .next, 0, 0, 45⟩, ⟨.set, .next, 0, 0, 37⟩,
  ⟨.set, .next, 0, 0, 29⟩, ⟨.set, .next, 0, 0, 21⟩, ⟨.set, .next, 0, 0, 13⟩,
  ⟨.set, .next, 0, 0, 5⟩,
  ⟨.set, .stay, 0, 3, 0⟩, ⟨.or, .next, 1, 0, 58⟩, ⟨.set, .next, 1, 0, 50⟩,
  ⟨.set, .next, 1, 0, 42⟩, ⟨.set, .next, 1, 0, 34⟩, ⟨.set, .next, 1, 0, 26⟩,
  ⟨.set, .next, 1, 0, 18⟩, ⟨.set, .next, 1, 0, 10⟩, ⟨.set, .next, 1, 0, 2⟩,
  ⟨.set, .stay, 1, 6, 0⟩, ⟨.or, .next, 2, 0, 55⟩, ⟨.set, .next, 2, 0, 47⟩,
  ⟨.set, .next, 2, 0, 39⟩, ⟨.set, .next, 2, 0, 31⟩, ⟨.set, .next, 2, 0, 23⟩,
  ⟨.set, .next, 2, 0, 15⟩, ⟨.set, .next, 2, 0, 7⟩,
  ⟨.set, .stay, 2, 1, 0⟩, ⟨.or, .next, 3, 0, 60⟩, ⟨.set, .next, 3, 0, 52⟩,
  ⟨.set, .next, 3, 0, 44⟩, ⟨.set, .next, 3, 0, 36⟩, ⟨.set, .next, 3, 0, 28⟩,
  ⟨.set, .next, 3, 0, 20⟩, ⟨.set, .next, 3, 0, 12⟩, ⟨.set, .next, 3, 0, 4⟩,
  ⟨.set, .stay, 3, 4, 0⟩, ⟨.or, .next, 4, 0, 57⟩, ⟨.set, .next, 4, 0, 49⟩,
  ⟨.set, .next, 4, 0, 41⟩, ⟨.set, .next, 4, 0, 33⟩, ⟨.set, .next, 4, 0, 25⟩,
  ⟨.set, .next, 4, 0, 17⟩, ⟨.set, .next, 4, 0, 9⟩, ⟨.set, .next, 4, 0, 1⟩,
  ⟨.set, .stay, 4, 7, 0⟩, ⟨.or, .next, 5, 0, 54⟩, ⟨.set, .next, 5, 0, 46⟩,
  ⟨.set, .next, 5, 0, 38⟩, ⟨.set, .next, 5, 0, 30⟩, ⟨.set, .next, 5, 0, 22⟩,
  ⟨.set, .next, 5, 0, 14⟩, ⟨.set, .next, 5, 0, 6⟩,
  ⟨.set, .stay, 5, 2, 0⟩, ⟨.or, .next, 6, 0, 59⟩, ⟨.set, .next, 6, 0, 51⟩,
  ⟨.set, .next, 6, 0, 43⟩, ⟨.set, .next, 6, 0, 35⟩, ⟨.set, .next, 6, 0, 27⟩,
  ⟨.set, .next, 6, 0, 19⟩, ⟨.set, .next, 6, 0, 11⟩, ⟨.set, .next, 6, 0, 3⟩,
  ⟨.set, .stay, 6, 5, 0⟩, ⟨.or, .next, 7, 0, 56⟩, ⟨.set, .next, 7, 0, 48⟩,
  ⟨.set, .next, 7, 0, 40⟩, ⟨.set, .next, 7, 0, 32⟩, ⟨.set, .next, 7, 0, 24⟩,
  ⟨.set, .next, 7, 0, 16⟩, ⟨.set, .next, 7, 0, 8⟩, ⟨.set, .stay, 7, 0, 0⟩]

def packBits62 : List PackOp := [
  ⟨.set, .next, 0, 0, 54⟩, ⟨.set, .next, 0, 0, 46⟩, ⟨.set, .next, 0, 0, 38⟩,
  ⟨.set, .next, 0, 0, 30⟩, ⟨.set, .next, 0, 0, 22⟩, ⟨.set, .next, 0, 0, 14⟩,
  ⟨.set, .next, 0, 0, 6⟩,
  ⟨.set, .stay, 0, 2, 0⟩, ⟨.or, .next, 1, 0, 60⟩, ⟨.set, .next, 1, 0, 52⟩,
  ⟨.set, .next, 1, 0, 44⟩, ⟨.set, .next, 1, 0, 36⟩, ⟨.set, .next, 1, 0, 28⟩,
  ⟨.set, .next, 1, 0, 20⟩, ⟨.set, .next, 1, 0, 12⟩, ⟨.set, .next, 1, 0, 4⟩,
  ⟨.set, .stay, 1, 4, 0⟩, ⟨.or, .next, 2, 0, 58⟩, ⟨.set, .next, 2, 0, 50⟩,
  ⟨.set, .next, 2, 0, 42⟩, ⟨.set, .next, 2, 0, 34⟩, ⟨.set, .next, 2, 0, 26⟩,
  ⟨.set, .next, 2, 0, 18⟩, ⟨.set, .next, 2, 0, 10⟩, ⟨.set, .next, 2, 0, 2⟩,
  ⟨.set, .stay, 2, 6, 0⟩, ⟨.or, .next, 3, 0, 56⟩, ⟨.set, .next, 3, 0, 48⟩,
  ⟨.set, .next, 3, 0, 40⟩, ⟨.set, .next, 3, 0, 32⟩, ⟨.set, .next, 3, 0, 24⟩,
  ⟨.set, .next, 3, 0, 16⟩, ⟨.set, .next, 3, 0, 8⟩, ⟨.set, .next, 3, 0, 0⟩,
  ⟨.set, .next, 4, 0, 54⟩, ⟨.set, .next, 4, 0, 46⟩, ⟨.set, .next, 4, 0, 38⟩,
  ⟨.set, .next, 4, 0, 30⟩, ⟨.set, .next, 4, 0, 22⟩, ⟨.set, .next, 4, 0, 14⟩,
  ⟨.set, .next, 4, 0, 6⟩,
  ⟨.set, .stay, 4, 2, 0⟩, ⟨.or, .next, 5, 0, 60⟩, ⟨.set, .next, 5, 0, 52⟩,
  ⟨.set, .next, 5, 0, 44⟩, ⟨.set, .next, 5, 0, 36⟩, ⟨.set, .next, 5, 0, 28⟩,
  ⟨.set, .next, 5, 0, 20⟩, ⟨.set, .next, 5, 0, 12⟩, ⟨.set, .next, 5, 0, 4⟩,
  ⟨.set, .stay, 5, 4, 0⟩, ⟨.or, .next, 6, 0, 58⟩, ⟨.set, .next, 6, 0, 50⟩,
  ⟨.set, .next, 6, 0, 42⟩, ⟨.set, .next, 6, 0, 34⟩, ⟨.set, .next, 6, 0, 26⟩,
  ⟨.set, .next, 6, 0, 18⟩, ⟨.set, .next, 6, 0, 10⟩, ⟨.set, .next, 6, 0, 2⟩,
  ⟨.set, .stay, 6, 6, 0⟩, ⟨.or, .next, 7, 0, 56⟩, ⟨.set, .next, 7, 0, 48⟩,
  ⟨.set, .next, 7, 0, 40⟩, ⟨.set, .next, 7, 0, 32⟩, ⟨.set, .next, 7, 0, 24⟩,
  ⟨.set, .next, 7, 0, 16⟩, ⟨.set, .next, 7, 0, 8⟩, ⟨.set, .stay, 7, 0, 0⟩]

def packBits63 : List PackOp := [
  ⟨.set, .next, 0, 0, 55⟩, ⟨.set, .next, 0, 0, 47⟩, ⟨.set, .next, 0, 0, 39⟩,
  ⟨.set, .next, 0, 0, 31⟩, ⟨.set, .next, 0, 0, 23⟩, ⟨.set, .next, 0, 0, 15⟩,
  ⟨.set, .next, 0, 0, 7⟩,
  ⟨.set, .stay, 0, 1, 0⟩, ⟨.or, .next, 1, 0, 62⟩, ⟨.set, .next, 1, 0, 54⟩,
  ⟨.set, .next, 1, 0, 46⟩, ⟨.set, .next, 1, 0, 38⟩, ⟨.set, .next, 1, 0, 30⟩,
  ⟨.set, .next, 1, 0, 22⟩, ⟨.set, .next, 1, 0, 14⟩, ⟨.set, .next, 1, 0, 6⟩,
  ⟨.set, .stay, 1, 2, 0⟩, ⟨.or, .next, 2, 0, 61⟩, ⟨.set, .next, 2, 0, 53⟩,
  ⟨.set, .next, 2, 0, 45⟩, ⟨.set, .next, 2, 0, 37⟩, ⟨.set, .next, 2, 0, 29⟩,
  ⟨.set, .next, 2, 0, 21⟩, ⟨.set, .next, 2, 0, 13⟩, ⟨.set, .next, 2, 0, 5⟩,
  ⟨.set, .stay, 2, 3, 0⟩, ⟨.or, .next, 3, 0, 60⟩, ⟨.set, .next, 3, 0, 52⟩,
  ⟨.set, .next, 3, 0, 44⟩, ⟨.set, .next, 3, 0, 36⟩, ⟨.set, .next, 3, 0, 28⟩,
  ⟨.set, .next, 3, 0, 20⟩, ⟨.set, .next, 3, 0, 12⟩, ⟨.set, .next, 3, 0, 4⟩,
  ⟨.set, .stay, 3, 4, 0⟩, ⟨.or, .next, 4, 0, 59⟩, ⟨.set, .next, 4, 0, 51⟩,
  ⟨.set, .next, 4, 0, 43⟩, ⟨.set, .next, 4, 0, 35⟩, ⟨.set, .next, 4, 0, 27⟩,
  ⟨.set, .next, 4, 0, 19⟩, ⟨.set, .next, 4, 0, 11⟩, ⟨.set, .next, 4, 0, 3⟩,
  ⟨.set, .stay, 4, 5, 0⟩, ⟨.or, .next, 5, 0, 58⟩, ⟨.set, .next, 5, 0, 50⟩,
  ⟨.set, .next, 5, 0, 42⟩, ⟨.set, .next, 5, 0, 34⟩, ⟨.set, .next, 5, 0, 26⟩,
  ⟨.set, .next, 5, 0, 18⟩, ⟨.set, .next, 5, 0, 10⟩, ⟨.set, .next, 5, 0, 2⟩,
  ⟨.set, .stay, 5, 6, 0⟩, ⟨.or, .next, 6, 0, 57⟩, ⟨.set, .next, 6, 0, 49⟩,
  ⟨.set, .next, 6, 0, 41⟩, ⟨.set, .next, 6, 0, 33⟩, ⟨.set, .next, 6, 0, 25⟩,
  ⟨.set, .next, 6, 0, 17⟩, ⟨.set, .next, 6, 0, 9⟩, ⟨.set, .next, 6, 0, 1⟩,
  ⟨.set, .stay, 6, 7, 0⟩, ⟨.or, .next, 7, 0, 56⟩, ⟨.set, .next, 7, 0, 48⟩,
  ⟨.set, .next, 7, 0, 40⟩, ⟨.set, .next, 7, 0, 32⟩, ⟨.set, .next, 7, 0, 24⟩,
  ⟨.set, .next, 7, 0, 16⟩, ⟨.set, .next, 7, 0, 8⟩, ⟨.set, .stay, 7, 0, 0⟩]

def packBlockOps : ℕ → Option (List PackOp)
  | 1 => some packBits1
  | 2 => some packBits2
  | 3 => some packBits3
  | 4 => some packBits4
  | 5 => some packBits5
  | 6 => some packBits6
  | 7 => some packBits7
  | 8 => some packBits8
  | 9 => some packBits9
  | 10 => some packBits10
  | 11 => some packBits11
  | 12 => some packBits12
  | 13 => some packBits13
  | 14 => some packBits14
  | 15 => some packBits15
  | 16 => some packBits16
  | 17 => some packBits17
  | 18 => some packBits18
  | 19 => some packBits19
  | 20 => some packBits20
  | 21 => some packBits21
  | 22 => some packBits22
  | 23 => some packBits23
  | 24 => some packBits24
  | 25 => some packBits25
  | 26 => some packBits26
  | 27 => some packBits27
  | 28 => some packBits28
  | 29 => some packBits29
  | 30 => some packBits30
  | 31 => some packBits31
  | 32 => some packBits32
  | 33 => some packBits33
  | 34 => some packBits34
  | 35 => some packBits35
  | 36 => some packBits36
  | 37 => some packBits37
  | 38 => some packBits38
  | 39 => some packBits39
  | 40 => some packBits40
  | 41 => some packBits41
  | 42 => some packBits42
  | 43 => some packBits43
  | 44 => some packBits44
  | 45 => some packBits45
  | 46 => some packBits46
  | 47 => some packBits47
  | 48 => some packBits48
  | 49 => some packBits49
  | 50 => some packBits50
  | 51 => some packBits51
  | 52 => some packBits52
  | 53 => some packBits53
  | 54 => some packBits54
  | 55 => some packBits55
  | 56 => some packBits56
  | 57 => some packBits57
  | 58 => some packBits58
  | 59 => some packBits59
  | 60 => some packBits60
  | 61 => some packBits61
  | 62 => some packBits62
  | 63 => some packBits63
  | _ => none

def packBitsBlock8 (values : List ℕ) (buffer : List UInt8) (ptr bits : ℕ) : Run (List UInt8) :=
  match packBlockOps bits with
  | some ops => runPack values ops buffer ptr
  | none => .error (.logicErr ("wrong number of bits " ++ toString bits))

end ThetaSketch
