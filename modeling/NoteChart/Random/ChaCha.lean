import NoteChart.Digest.Blocks

/-!
A stream of 32-bit words from a 64-bit seed. The seed is spread over a key of eight words by a
permuted congruential generator, and the words come from the ChaCha block function with twelve
rounds, block after block, under a counter that starts at 0.
-/
namespace NoteChart.Random

namespace Seed

def next (state : UInt64) : UInt64 := state * 6364136223846793005 + 11634580027462260723

def output (state : UInt64) : UInt32 :=
  let folded := (((state >>> 18) ^^^ state) >>> 27).toUInt32
  rotateRight folded (state >>> 59).toUInt32

def words : Nat → UInt64 → List UInt32
  | 0, _ => []
  | n + 1, state => output (next state) :: words n (next state)

end Seed

namespace ChaCha

abbrev Block := Vector UInt32 16

def quarter (block : Block) (a b c d : Fin 16) : Block :=
  let step (block : Block) (x y z : Fin 16) (turn : UInt32) : Block :=
    let sum := block.get x + block.get y
    let block := block.set x.val sum x.isLt
    block.set z.val (rotateLeft (block.get z ^^^ sum) turn) z.isLt
  let block := step block a b d 16
  let block := step block c d b 12
  let block := step block a b d 8
  step block c d b 7

/-- One round over the columns and one over the diagonals. -/
def doubleRound (block : Block) : Block :=
  let block := quarter block 0 4 8 12
  let block := quarter block 1 5 9 13
  let block := quarter block 2 6 10 14
  let block := quarter block 3 7 11 15
  let block := quarter block 0 5 10 15
  let block := quarter block 1 6 11 12
  let block := quarter block 2 7 8 13
  quarter block 3 4 9 14

def start (key : List UInt32) (counter : UInt64) : Block :=
  let head : List UInt32 := [0x61707865, 0x3320646E, 0x79622D32, 0x6B206574]
  let words := head ++ key ++ [counter.toUInt32, (counter >>> 32).toUInt32, 0, 0]
  Vector.ofFn fun i => words.getD i 0

def block (key : List UInt32) (counter : UInt64) : Block :=
  let first := start key counter
  let mixed := (List.range 6).foldl (fun block _ => doubleRound block) first
  Vector.ofFn fun i => first.get i + mixed.get i

end ChaCha

def stream (seed : UInt64) (place : Nat) : UInt32 :=
  let block := ChaCha.block (Seed.words 8 seed) (.ofNat (place / 16))
  block.get (Fin.ofNat 16 place)

end NoteChart.Random
