import Passbook.Text.Mark
import Passbook.Text.Unprintable

/-!
The characters beyond ASCII that a quoted text does not show as themselves: those that leave no
trace, and those that would join the character before them.
-/

set_option autoImplicit false

namespace Passbook.Text

/-- Letters that fill the place of a missing letter and are not seen themselves. -/
def isFiller (char : Char) : Bool := [0x115F, 0x1160, 0x3164, 0xFFA0].contains char.toNat

def isHidden (char : Char) : Bool := isUnprintable char || isExtending char || isFiller char

end Passbook.Text
