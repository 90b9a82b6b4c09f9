/-! Closed ranges of code points, the form in which character classes are
tabulated. -/

namespace RoleCatalog.Text

structure CharRange where
  first : Nat
  last : Nat
deriving Repr, DecidableEq

def CharRange.contains (range : CharRange) (character : Char) : Bool :=
  range.first ≤ character.toNat && character.toNat ≤ range.last

def inRanges (ranges : List CharRange) (character : Char) : Bool :=
  ranges.any fun range => range.contains character

theorem inRanges_eq_true {ranges : List CharRange} {character : Char} :
    inRanges ranges character = true ↔
      ∃ range ∈ ranges, range.first ≤ character.toNat ∧ character.toNat ≤ range.last := by
  simp [inRanges, CharRange.contains]

end RoleCatalog.Text
