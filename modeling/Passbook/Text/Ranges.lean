/-!
Tables of ranges of code points: the first and the last code point of each range, in turn and in
increasing order; and lists of numbers in increasing order. Both are searched by halving.
-/

set_option autoImplicit false

namespace Passbook.Text

/-- The place after the bounds up to and including a code point, sought between two places. The
number of `steps` has to cover the halvings: one more than the binary logarithm of their distance.
-/
def boundsUpTo (bounds : Array Nat) (code : Nat) : (low high steps : Nat) → Nat
  | low, _, 0 => low
  | low, high, steps + 1 =>
      if low < high then
        let middle := (low + high) / 2
        if bounds.getD middle 0 ≤ code then boundsUpTo bounds code (middle + 1) high steps
        else boundsUpTo bounds code low middle steps
      else low

def inRanges (bounds : Array Nat) (char : Char) : Bool :=
  let count := boundsUpTo bounds char.toNat 0 bounds.size (bounds.size.log2 + 1)
  -- an odd count: a range has begun; an even one: the last range begun ends at this very point
  count % 2 == 1 || (0 < count && bounds.getD (count - 1) 0 == char.toNat)

def isListed (numbers : Array Nat) (number : Nat) : Bool :=
  let count := boundsUpTo numbers number 0 numbers.size (numbers.size.log2 + 1)
  0 < count && numbers.getD (count - 1) 0 == number

end Passbook.Text
