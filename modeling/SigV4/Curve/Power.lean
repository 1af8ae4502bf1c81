/-!
# Powers by the binary method

An inverse modulo a prime is a power with a 256-bit exponent, and a public key is
a 256-bit multiple of a base point. Both are the same computation – an
associative operation repeated – so it is written once, over any operation: the
digits of the exponent are read from the most significant one downwards, each
doubles what has been collected so far, and each set digit adds the base once
more.
-/

namespace SigV4

namespace Power

/-- The binary digits of a number, most significant first. -/
def digits (e : Nat) : List Bool :=
  (List.range (e.log2 + 1)).reverse.map e.testBit

/-- One digit of the exponent: square, and multiply by the base if the digit is
set. -/
def step {α : Type} (op : α → α → α) (base : α) (acc : α) (digit : Bool) : α :=
  if digit then op (op acc acc) base else op acc acc

/-- **The binary power**: `base` combined with itself `e` times by `op`, starting
from `one`. -/
def power {α : Type} (op : α → α → α) (one base : α) (e : Nat) : α :=
  (digits e).foldl (step op base) one

end Power

end SigV4
