/-!
# Blank characters

The characters with the Unicode property `White_Space`. Encoded certificates
may be wrapped or indented with any of them, and trailing blanks are dropped
from the lines of a certificate bundle.
-/

namespace AnchoredMetadata.Text

/-- The twenty-five code points with the property `White_Space`. -/
def isBlank (c : Char) : Bool :=
  let n := c.toNat
  (9 ≤ n && n ≤ 13) || n == 0x20 || n == 0x85 || n == 0xA0 || n == 0x1680 ||
    (0x2000 ≤ n && n ≤ 0x200A) || n == 0x2028 || n == 0x2029 || n == 0x202F ||
    n == 0x205F || n == 0x3000

/-- Drop every blank character, wherever it stands. -/
def removeBlanks (cs : List Char) : List Char := cs.filter fun c => !isBlank c

/-- Drop the blank characters at the end. -/
def trimEnd (cs : List Char) : List Char := (cs.reverse.dropWhile isBlank).reverse

/-- Drop the blank characters at both ends. -/
def trim (cs : List Char) : List Char := trimEnd (cs.dropWhile isBlank)

@[simp] theorem removeBlanks_append (a b : List Char) :
    removeBlanks (a ++ b) = removeBlanks a ++ removeBlanks b := by
  simp [removeBlanks]

/-- Removing blanks twice is removing them once. -/
theorem removeBlanks_removeBlanks (cs : List Char) :
    removeBlanks (removeBlanks cs) = removeBlanks cs := by
  simp [removeBlanks]

/-- A text without blanks is left alone. -/
theorem removeBlanks_eq_self {cs : List Char} (h : ∀ c ∈ cs, isBlank c = false) :
    removeBlanks cs = cs := by
  rw [removeBlanks, List.filter_eq_self]
  intro c hc
  simp [h c hc]

/-- Core's ASCII whitespace is blank. -/
theorem isBlank_of_isWhitespace {c : Char} (h : c.isWhitespace = true) : isBlank c = true := by
  simp only [Char.isWhitespace, Bool.or_eq_true, decide_eq_true_eq] at h
  rcases h with ((rfl | rfl) | rfl) | rfl <;> decide

end AnchoredMetadata.Text
