/-!
Shuffling with a stream of words. A number below `n` is the high half of the product of `n` with a
word; a word whose product has too large a low half is passed over, so that all numbers are equally
likely. The shuffle then goes from the last place to the second and swaps each with a place not
after it.
-/
namespace NoteChart.Random

def zone (n : Nat) : Nat := n <<< (31 - n.log2) - 1

/-- How many words are tried. At least half of all words are accepted, so a stream of random words
does not come near this bound. -/
def maxTries : Nat := 1024

/-- A number below `n` from the words at `place` and after, and the place after the last one. -/
def drawBelow (words : Nat → UInt32) (n : Nat) : Nat → Nat → Nat × Nat
  | 0, place => (0, place)
  | tries + 1, place =>
    let product := (words place).toNat * n
    if product % UInt32.size ≤ zone n then (product / UInt32.size, place + 1)
    else drawBelow words n tries (place + 1)

def swap {α : Type} (items : List α) (i j : Nat) : List α :=
  match items[i]?, items[j]? with
  | some a, some b => (items.set i b).set j a
  | _, _ => items

def settle {α : Type} (words : Nat → UInt32) : Nat → List α → Nat → List α × Nat
  | 0, items, place => (items, place)
  | last + 1, items, place =>
    let (j, place) := drawBelow words (last + 2) maxTries place
    settle words last (swap items (last + 1) j) place

def shuffle {α : Type} (words : Nat → UInt32) (items : List α) (place : Nat) : List α × Nat :=
  settle words (items.length - 1) items place

end NoteChart.Random
