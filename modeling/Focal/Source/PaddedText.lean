/-!
# Padded source text

The bytes of a source text are followed by zeros up to a multiple of the block size, at least one
of them.  The zero after the text marks its end, so a scanner can look at the current byte
without asking first whether there is one.  A zero inside the text is told apart from the mark by
its position.

Lengths and positions are natural numbers.  Where they are kept in 32 bits, the length of a text of
2³² bytes or more is the largest such number (`saturated`); every shorter text has its own length.
-/

namespace Focal.Source

/-- The size of a padded text is a multiple of this number of bytes. -/
def blockSize : Nat := 64

/-- The bytes of a text and the zeros after them. -/
structure PaddedText where
  /-- The text in UTF-8, and the zeros. -/
  bytes : ByteArray
  /-- The number of bytes of the text. -/
  length : Nat

namespace PaddedText

/-- The least multiple of the block size that is larger than `length`. -/
def paddedSize (length : Nat) : Nat :=
  (length + blockSize) / blockSize * blockSize

/-- The padded form of a text. -/
def ofString (text : String) : PaddedText :=
  let content := text.toUTF8
  { bytes := content ++ ⟨Array.replicate (paddedSize content.size - content.size) 0⟩
    length := content.size }

/-- The text with its length as 32 bits hold it, which is the largest number that they hold when
there are more bytes. -/
def saturated (text : PaddedText) : PaddedText :=
  { text with length := min text.length (UInt32.size - 1) }

/-- The bytes of the text alone. -/
def content (text : PaddedText) : ByteArray :=
  text.bytes.extract 0 text.length

/-- The zeros after the text. -/
def padding (text : PaddedText) : ByteArray :=
  text.bytes.extract text.length text.bytes.size

/-- Whether a byte continues a character rather than starting one. -/
def isContinuation (byte : UInt8) : Bool :=
  byte &&& 0xC0 == 0x80

/-- Whether a position lies between two characters of the text, or at one of its ends. -/
def isBoundary (text : PaddedText) (position : Nat) : Bool :=
  position == text.length ||
    position < text.length &&
      match text.bytes[position]? with
      | some byte => !isContinuation byte
      | none => false

/-- The first position from `position` on, inside the text, whose byte passes a test. -/
def find? (text : PaddedText) (test : UInt8 → Bool) (position : Nat) : Option Nat :=
  if _inside : position < text.length then
    match text.bytes[position]? with
    | some byte => if test byte then some position else text.find? test (position + 1)
    | none => none
  else none
termination_by text.length - position

theorem saturated_eq_iff {text : PaddedText} :
    text.saturated = text ↔ text.length < UInt32.size := by
  have positive : 0 < UInt32.size := by decide
  constructor
  · intro same
    have lengthEq : min text.length (UInt32.size - 1) = text.length := congrArg length same
    omega
  · intro small
    rw [saturated, Nat.min_eq_left (by omega)]

end PaddedText

/-- A padded text is larger than the text, so that at least one zero follows it. -/
theorem PaddedText.lt_paddedSize (length : Nat) : length < paddedSize length := by
  simp only [paddedSize, blockSize]
  omega

end Focal.Source
