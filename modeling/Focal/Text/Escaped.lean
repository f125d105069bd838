import Focal.Unicode.DefaultIgnorable
import Focal.Unicode.GraphemeExtend
import Focal.Unicode.Unprintable

/-!
# Quoted text

The written form of a string between double quotes and of a character between single quotes, in
which every character can be seen.

```
tab, line feed, carriage return, NUL   ⟶   \t  \n  \r  \0
backslash, and the quote in use        ⟶   a backslash and the character
nothing to see, or on the one before   ⟶   \u and the code point in hexadecimal in braces
any other character                    ⟶   itself
```

No line terminator is written as itself (`not_mem_escapeChar`), so a quoted text is one line.
-/

namespace Focal.Text

/-- The escape of a character by its code point, in lower-case hexadecimal without padding. -/
def escapeCodePoint (character : Char) : List Char :=
  ['\\', 'u', '\x7b'] ++ Nat.toDigits 16 character.toNat ++ ['\x7d']

/-- A character that cannot be seen where it stands: it has no glyph, it is drawn as nothing, or it
is drawn on the character before it. -/
def isInvisible (character : Char) : Bool :=
  Unicode.isUnprintable character || Unicode.isDefaultIgnorable character ||
    Unicode.isCombining character

/-- One character as it stands between two quotes of the kind `quote`. -/
def escapeChar (quote character : Char) : List Char :=
  if character = '\x00' then ['\\', '0']
  else if character = '\t' then ['\\', 't']
  else if character = '\r' then ['\\', 'r']
  else if character = '\n' then ['\\', 'n']
  else if character = '\\' ∨ character = quote then ['\\', character]
  else if isInvisible character then escapeCodePoint character
  else [character]

/-- Characters between two quotes, each escaped where it has to be. -/
def quoteWith (quote : Char) (characters : List Char) : List Char :=
  [quote] ++ characters.flatMap (escapeChar quote) ++ [quote]

/-- A string between double quotes. -/
def quoted (text : String) : String :=
  String.ofList (quoteWith '"' text.toList)

/-- A character between single quotes. -/
def quotedChar (character : Char) : String :=
  String.ofList (quoteWith '\'' [character])

/-- The digits of a number in base sixteen are neither line feeds nor carriage returns. -/
private theorem not_mem_toDigits {terminator : Char}
    (is_terminator : terminator = '\n' ∨ terminator = '\r') (value : Nat) :
    terminator ∉ Nat.toDigits 16 value := by
  have digit_ne : ∀ digit < 16, terminator ≠ Nat.digitChar digit := by
    rcases is_terminator with rfl | rfl <;> decide
  induction value using Nat.strongRecOn with
  | ind value ih =>
      rw [Nat.toDigits_eq_if (by decide)]
      split
      · simpa using digit_ne value (by assumption)
      · have := ih (value / 16) (by omega)
        simpa [this] using digit_ne (value % 16) (Nat.mod_lt _ (by decide))

/-- The escape of a character between quotes holds no line terminator. -/
theorem not_mem_escapeChar {quote character terminator : Char}
    (is_terminator : terminator = '\n' ∨ terminator = '\r') :
    terminator ∉ escapeChar quote character := by
  have digits := not_mem_toDigits is_terminator character.toNat
  simp only [escapeChar, escapeCodePoint]
  split
  · rcases is_terminator with rfl | rfl <;> decide
  split
  · rcases is_terminator with rfl | rfl <;> decide
  split
  · rcases is_terminator with rfl | rfl <;> decide
  split
  · rcases is_terminator with rfl | rfl <;> decide
  rename_i not_return not_feed
  have kept : terminator ≠ character := by
    rcases is_terminator with rfl | rfl
    · exact Ne.symm not_feed
    · exact Ne.symm not_return
  split
  · rcases is_terminator with rfl | rfl <;> simpa using kept
  split
  · rcases is_terminator with rfl | rfl <;> simpa using digits
  · simpa using kept

end Focal.Text
