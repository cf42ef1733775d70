/-
  White space of configuration text.

  One character class serves every place where text is trimmed or tested for being blank: the
  characters with the Unicode property `White_Space`.  Trimming works on `List Char`, where
  `dropWhile` already has its lemmas.
-/

namespace DeployConfig.Text

/-- The characters with the Unicode property `White_Space`. -/
def isBlank (c : Char) : Bool :=
  let n := c.toNat
  (0x09 ≤ n && n ≤ 0x0D) || n == 0x20 || n == 0x85 || n == 0xA0 || n == 0x1680
    || (0x2000 ≤ n && n ≤ 0x200A) || n == 0x2028 || n == 0x2029 || n == 0x202F
    || n == 0x205F || n == 0x3000

/-- The characters after the leading white space. -/
def trimStart (cs : List Char) : List Char := cs.dropWhile isBlank

/-- The characters before the trailing white space. -/
def trimEnd (cs : List Char) : List Char := (cs.reverse.dropWhile isBlank).reverse

/-- The characters between the leading and the trailing white space. -/
def trim (cs : List Char) : List Char := trimEnd (trimStart cs)

/-- Whether text is empty or holds white space only. -/
def blank (s : String) : Bool := s.toList.all isBlank

/-- Trimming the start keeps text whose first character is not white space. -/
theorem trimStart_cons_of_not_blank {c : Char} {cs : List Char} (h : isBlank c = false) :
    trimStart (c :: cs) = c :: cs := by
  simp [trimStart, h]

end DeployConfig.Text
