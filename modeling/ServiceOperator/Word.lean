/-!
# Words

Numbers are kept as natural numbers and integers. Where a number must fit a word of some bits, that
is a bound on it.
-/

namespace ServiceOperator

/-- The number of words of some bits: the least natural number that does not fit one. -/
def Word.bound (bits : Nat) : Nat := Nat.pow 2 bits

end ServiceOperator
