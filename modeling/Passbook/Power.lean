/-!
Powers of two and of ten, none of which is zero.
-/

set_option autoImplicit false

namespace Passbook

def twoTo (power : Nat) : Nat := Nat.pow 2 power

def tenTo (power : Nat) : Nat := Nat.pow 10 power

theorem tenTo_succ (power : Nat) : tenTo (power + 1) = tenTo power * 10 := rfl

theorem twoTo_pos (power : Nat) : 0 < twoTo power := Nat.pow_pos (by decide)

theorem tenTo_pos (power : Nat) : 0 < tenTo power := Nat.pow_pos (by decide)

end Passbook
