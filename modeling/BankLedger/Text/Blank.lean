/-!
# Blank characters

Two notions of a blank character are in use.  Text that is read as a value is trimmed of every
character with the Unicode property `White_Space`; the tokens of an array literal are separated by
the five ASCII blanks alone.  The main facts are that an ASCII blank is blank, and that trimming
removes blanks only.
-/

namespace BankLedger.Text

/-- A character with the Unicode property `White_Space`. -/
def isBlank (character : Char) : Bool :=
  let code := character.toNat
  (0x09 ≤ code && code ≤ 0x0D) || code == 0x20 || code == 0x85 || code == 0xA0 ||
    code == 0x1680 || (0x2000 ≤ code && code ≤ 0x200A) || code == 0x2028 || code == 0x2029 ||
    code == 0x202F || code == 0x205F || code == 0x3000

/-- A space, a tab, a line feed, a form feed or a carriage return. -/
def isAsciiBlank (character : Char) : Bool :=
  character == ' ' || character == '\t' || character == '\n' || character == '\x0c' ||
    character == '\r'

theorem isBlank_of_isAsciiBlank {character : Char} (blank : isAsciiBlank character = true) :
    isBlank character = true := by
  simp only [isAsciiBlank, Bool.or_eq_true, beq_iff_eq] at blank
  rcases blank with (((rfl | rfl) | rfl) | rfl) | rfl <;> decide

/-- The text without its leading blanks. -/
def trimStart (text : List Char) : List Char :=
  text.dropWhile isBlank

/-- The text without its trailing blanks. -/
def trimEnd (text : List Char) : List Char :=
  (text.reverse.dropWhile isBlank).reverse

/-- The text without the blanks at either end. -/
def trim (text : List Char) : List Char :=
  trimEnd (trimStart text)

/-- Trimming at the start removes blanks only. -/
theorem takeWhile_append_trimStart (text : List Char) :
    text.takeWhile isBlank ++ trimStart text = text :=
  List.takeWhile_append_dropWhile

end BankLedger.Text
