/-! White space and trimming. A character is blank when it has the Unicode property
`White_Space`; the property is given by its ranges of code points. -/
namespace ClusterVars.Text

def inRanges (ranges : List (Nat × Nat)) (c : Char) : Bool :=
  ranges.any fun range => range.1 ≤ c.toNat && c.toNat ≤ range.2

/-- The code points with the property `White_Space`. -/
def blankRanges : List (Nat × Nat) :=
  [(0x09, 0x0D), (0x20, 0x20), (0x85, 0x85), (0xA0, 0xA0), (0x1680, 0x1680), (0x2000, 0x200A),
    (0x2028, 0x2029), (0x202F, 0x202F), (0x205F, 0x205F), (0x3000, 0x3000)]

def isBlank (c : Char) : Bool := inRanges blankRanges c

def trimStart (cs : List Char) : List Char := cs.dropWhile isBlank

def trimEnd (cs : List Char) : List Char := (cs.reverse.dropWhile isBlank).reverse

def trim (cs : List Char) : List Char := trimEnd (trimStart cs)

theorem trimStart_nil : trimStart [] = [] := rfl

theorem trimStart_append_of_blank (blanks cs : List Char) (allBlank : ∀ c ∈ blanks, isBlank c) :
    trimStart (blanks ++ cs) = trimStart cs :=
  List.dropWhile_append_of_pos allBlank

end ClusterVars.Text
