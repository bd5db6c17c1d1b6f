import Gatehouse.Text.Ascii
import Gatehouse.Text.Bytes

/-!
# Percent encoding

In an address a percent sign and two hexadecimal digits stand for an octet; every other character
stands for its own octets.
-/

namespace Gatehouse.Text

/-- The octets that a text stands for; a percent sign without two digits stands for itself. -/
def percentOctets : List Char → Bytes
  | '%' :: a :: b :: cs =>
    match Ascii.hexValue? a, Ascii.hexValue? b with
    | some x, some y => UInt8.ofNat (16 * x.val + y.val) :: percentOctets cs
    | _, _ => 37 :: percentOctets (a :: b :: cs)
  | c :: cs => Bytes.ofString c.toString ++ percentOctets cs
  | [] => []

/-- The text that a text stands for, if its octets are one. -/
def percentDecode? (cs : List Char) : Option String :=
  Bytes.toString? (percentOctets cs)

end Gatehouse.Text
