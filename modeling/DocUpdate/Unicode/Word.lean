import DocUpdate.Unicode.Property

/-!
# Words and numbers

The characters that words are made of, and those that stand for numbers.
-/

namespace DocUpdate.Unicode

/-- Decimal digits. -/
def digit : CharSet := Category.nd.chars

/-- Alphabetic characters, marks, decimal digits, connecting punctuation, and the two
characters that control joining. -/
def word : CharSet :=
  .unions [Property.alphabetic, Category.charsOf (Category.marks ++ [.nd, .pc]),
    Property.joinControl]

/-- Characters that stand for a number or a part of one. -/
def numeric : CharSet := Category.charsOf Category.numbers

end DocUpdate.Unicode
