/-!
# Blank characters

The blank characters of chart text: the 29 code points with the Unicode white-space
bidirectional class or the space-separator category, together with the four information
separators U+001C to U+001F. Blanks may surround every token of a statement, and they are
trimmed from both ends of ids and labels.

U+200B (zero width space) is not blank.
-/

namespace Flowchart.Text

/-- Closed ranges of the blank code points, ascending and apart. -/
def blankRanges : List (Nat × Nat) :=
  [(0x09, 0x0D), (0x1C, 0x20), (0x85, 0x85), (0xA0, 0xA0), (0x1680, 0x1680),
   (0x2000, 0x200A), (0x2028, 0x2029), (0x202F, 0x202F), (0x205F, 0x205F), (0x3000, 0x3000)]

/-- Whether a character is blank. ASCII characters are decided at once; the others by the
table. -/
def isBlank (c : Char) : Bool :=
  if c.toNat < 0x80 then
    c == ' ' || (0x09 ≤ c.toNat && c.toNat ≤ 0x0D) || (0x1C ≤ c.toNat && c.toNat ≤ 0x1F)
  else blankRanges.any fun r => r.1 ≤ c.toNat && c.toNat ≤ r.2

def trim (cs : List Char) : List Char :=
  ((cs.dropWhile isBlank).reverse.dropWhile isBlank).reverse

/-- The blanks include the four ASCII white-space characters that core calls white space. -/
theorem isBlank_of_isWhitespace {c : Char} (h : c.isWhitespace = true) : isBlank c = true := by
  simp only [Char.isWhitespace, Bool.or_eq_true, decide_eq_true_eq] at h
  rcases h with ((h | h) | h) | h <;> subst h <;> decide

/-- The ASCII shortcut agrees with the table. -/
theorem isBlank_eq_any_blankRanges (c : Char) :
    isBlank c = blankRanges.any fun r => r.1 ≤ c.toNat && c.toNat ≤ r.2 := by
  have hascii : ∀ n < 0x80, (n == 0x20 || (0x09 ≤ n && n ≤ 0x0D) || (0x1C ≤ n && n ≤ 0x1F)) =
      blankRanges.any fun r => r.1 ≤ n && n ≤ r.2 := by
    decide
  unfold isBlank
  split
  · rename_i h
    rw [← hascii c.toNat h]
    congr 2
    rw [Bool.eq_iff_iff, beq_iff_eq, beq_iff_eq]
    constructor
    · rintro rfl
      rfl
    · intro hc
      exact Char.toNat_inj.mp hc
  · rfl

end Flowchart.Text
