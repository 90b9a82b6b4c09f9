import RoleCatalog.Text.CharRange

/-! Blanks are the characters with the property `White_Space`. A text is trimmed
of the blanks at its two ends, and its words are the longest pieces without a
blank. Every fact about words follows from `words_append_blank`. -/

namespace RoleCatalog.Text

def blankRanges : List CharRange :=
  [⟨0x9, 0xD⟩, ⟨0x20, 0x20⟩, ⟨0x85, 0x85⟩, ⟨0xA0, 0xA0⟩, ⟨0x1680, 0x1680⟩,
   ⟨0x2000, 0x200A⟩, ⟨0x2028, 0x2029⟩, ⟨0x202F, 0x202F⟩, ⟨0x205F, 0x205F⟩, ⟨0x3000, 0x3000⟩]

def isBlank (character : Char) : Bool :=
  inRanges blankRanges character

/-! The control separators and the zero width space are not blank. -/

example : isBlank ' ' ∧ isBlank '\r' ∧ isBlank '\u3000' := by decide
example : ¬ isBlank '\x1c' ∧ ¬ isBlank '\u200b' ∧ ¬ isBlank '\ufeff' := by decide

def trimStart (text : List Char) : List Char :=
  text.dropWhile isBlank

def trimEnd (text : List Char) : List Char :=
  (text.reverse.dropWhile isBlank).reverse

def trim (text : List Char) : List Char :=
  trimEnd (trimStart text)

def trimmed (text : String) : String :=
  String.ofList (trim text.toList)

example : trimmed " \tadmin role\u00a0\n" = "admin role" := by decide

def words (text : List Char) : List (List Char) :=
  (text.splitOnP isBlank).filter fun word => !word.isEmpty

example : words "  a\t b\u2003c ".toList = [['a'], ['b'], ['c']] := by decide

theorem words_append_blank {blank : Char} (blankness : isBlank blank = true)
    (left right : List Char) :
    words (left ++ blank :: right) = words left ++ words right := by
  simp [words, List.splitOnP_append_cons left right blankness]

theorem words_blank_cons {blank : Char} (blankness : isBlank blank = true)
    (text : List Char) : words (blank :: text) = words text := by
  simpa [words] using words_append_blank blankness [] text

theorem words_of_nonblank {word : List Char} (nonempty : word ≠ [])
    (nonblank : ∀ character ∈ word, isBlank character = false) : words word = [word] := by
  simp [words, List.splitOnP_eq_singleton nonblank, nonempty]

end RoleCatalog.Text
