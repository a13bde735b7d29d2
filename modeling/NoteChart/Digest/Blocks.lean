/-!
What MD5 and SHA-256 share: words are rotated, and a message is closed with a one bit, zeros and its
length in bits, and read in blocks of sixteen words. The two differ in the order of bytes in words.
-/
namespace NoteChart

def rotateLeft (x n : UInt32) : UInt32 := x <<< n ||| x >>> (32 - n)
def rotateRight (x n : UInt32) : UInt32 := x >>> n ||| x <<< (32 - n)

namespace Digest

inductive Order where
  | little
  | big

def bytes8 (order : Order) (n : Nat) : List UInt8 :=
  let little := (List.range 8).map fun i => UInt8.ofNat (n >>> (8 * i))
  match order with
  | .little => little
  | .big => little.reverse

/-- The message with its closing bytes; the length is a multiple of 64. -/
def close (order : Order) (message : List UInt8) : List UInt8 :=
  let zeros := (119 - message.length % 64) % 64
  message ++ 0x80 :: List.replicate zeros 0 ++ bytes8 order (message.length * 8)

def word (order : Order) (a b c d : UInt8) : UInt32 :=
  match order with
  | .little => a.toUInt32 ||| b.toUInt32 <<< 8 ||| c.toUInt32 <<< 16 ||| d.toUInt32 <<< 24
  | .big => a.toUInt32 <<< 24 ||| b.toUInt32 <<< 16 ||| c.toUInt32 <<< 8 ||| d.toUInt32

def words (order : Order) : List UInt8 → List UInt32
  | a :: b :: c :: d :: rest => word order a b c d :: words order rest
  | _ => []

def block (ws : List UInt32) : Vector UInt32 16 := Vector.ofFn fun i => ws.getD i 0

def foldBlocks {σ : Type} (step : σ → Vector UInt32 16 → σ) : Nat → σ → List UInt32 → σ
  | 0, state, _ => state
  | blocks + 1, state, ws => foldBlocks step blocks (step state (block ws)) (ws.drop 16)

def foldMessage {σ : Type} (order : Order) (step : σ → Vector UInt32 16 → σ) (start : σ)
    (message : List UInt8) : σ :=
  let ws := words order (close order message)
  foldBlocks step (ws.length / 16) start ws

def byteHex (b : UInt8) : List Char :=
  [Nat.digitChar (b.toNat / 16), Nat.digitChar (b.toNat % 16)]

def wordBytes (order : Order) (w : UInt32) : List UInt8 :=
  let little := [w.toUInt8, (w >>> 8).toUInt8, (w >>> 16).toUInt8, (w >>> 24).toUInt8]
  match order with
  | .little => little
  | .big => little.reverse

def hex (order : Order) (ws : List UInt32) : String :=
  String.ofList ((ws.flatMap (wordBytes order)).flatMap byteHex)

end Digest
end NoteChart
