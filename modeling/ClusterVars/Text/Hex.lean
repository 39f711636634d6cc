/-! Hexadecimal digits of fixed width, as escapes write code points. -/
namespace ClusterVars.Text

/-- The last `width` hexadecimal digits of `n`, in lower case. -/
def hex (width n : Nat) : List Char :=
  (List.range width).reverse.map fun place => Nat.digitChar (n / Nat.pow 16 place % 16)

def upperHex (width n : Nat) : List Char := (hex width n).map Char.toUpper

/-- The number that hexadecimal digits of either case denote. -/
def unhex? (cs : List Char) : Option Nat :=
  cs.foldlM (fun n c =>
    if '0' ≤ c && c ≤ '9' then some (16 * n + (c.toNat - 0x30))
    else if 'a' ≤ c && c ≤ 'f' then some (16 * n + (c.toNat - 0x57))
    else if 'A' ≤ c && c ≤ 'F' then some (16 * n + (c.toNat - 0x37))
    else none) 0

end ClusterVars.Text
