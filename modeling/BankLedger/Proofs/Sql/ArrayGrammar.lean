import BankLedger.Sql.ArrayLiteral

/-!
# The grammar of array literals

What an array literal is, said without a scanner.  An array is a pair of braces around items with a
comma between each two; an item is an array or an element, with ASCII blanks around it.  A literal
may start with blanks and a dimension decoration.

How an element may be written is a parameter, so that one grammar serves both what the scanner
accepts and what a writer of literals may choose.  The grammar also admits a comma between the last
item of an array and its closing brace, and counts such commas: the literals with a count of zero
are those in which every comma stands between two items.
-/

namespace BankLedger.Sql.ArrayLiteral

open BankLedger.Text

/-- A nest of arrays. -/
inductive Tree
  | leaf (element : Element)
  | array (members : List Tree)

mutual

/-- The elements of a tree from left to right. -/
def Tree.leaves : Tree → List Element
  | .leaf element => [element]
  | .array members => leavesOfAll members

/-- The elements of some trees, those of the first tree first. -/
def leavesOfAll : List Tree → List Element
  | [] => []
  | tree :: trees => tree.leaves ++ leavesOfAll trees

end

@[simp] theorem leavesOfAll_append (trees others : List Tree) :
    leavesOfAll (trees ++ others) = leavesOfAll trees ++ leavesOfAll others := by
  induction trees with
  | nil => rfl
  | cons tree trees inductionHypothesis =>
      rw [List.cons_append, leavesOfAll, inductionHypothesis, leavesOfAll, List.append_assoc]

/-! ## Elements -/

/-- A text as it is written, and the text that it spells.  A backslash protects the character after
it, whichever that is; a character that is not protected has to be plain. -/
inductive Spells (plain : Char → Prop) : List Char → List Char → Prop
  | nil : Spells plain [] []
  | plain {character : Char} {written text : List Char} : plain character →
      Spells plain written text → Spells plain (character :: written) (character :: text)
  | escaped {character : Char} {written text : List Char} :
      Spells plain written text → Spells plain ('\\' :: character :: written) (character :: text)

/-- A character that stands for itself between quotes. -/
def PlainInQuotes (character : Char) : Prop :=
  character ∉ ['"', '\\']

instance (character : Char) : Decidable (PlainInQuotes character) :=
  inferInstanceAs (Decidable (character ∉ ['"', '\\']))

/-- A character that stands for itself in an element without quotes. -/
def PlainOutsideQuotes (character : Char) : Prop :=
  character ∉ [',', '\x7b', '\x7d', '"', '\\']

instance (character : Char) : Decidable (PlainOutsideQuotes character) :=
  inferInstanceAs (Decidable (character ∉ [',', '\x7b', '\x7d', '"', '\\']))

/-- How the scanner lets an element be written: between quotes, or as a text without quotes that is
not blank. -/
inductive Readable : Element → List Char → Prop
  | quoted {written text : List Char} : Spells PlainInQuotes written text →
      Readable (.text (String.ofList text)) ('"' :: (written ++ ['"']))
  | unquoted {written text : List Char} : Spells PlainOutsideQuotes written text →
      (∃ character ∈ written, isBlank character = false) →
      Readable (unquotedElement (trim written)) written

/-! ## Arrays -/

/-- A text of ASCII blanks. -/
def Blanks (text : List Char) : Prop :=
  ∀ character ∈ text, isAsciiBlank character = true

/-- Items with commas between them, the trees that they stand for, and the number of commas that
stand before a closing brace. -/
inductive Items (written : Element → List Char → Prop) : Nat → List Char → List Tree → Prop
  | element {before text after : List Char} {element : Element} : Blanks before → Blanks after →
      written element text → Items written 0 (before ++ text ++ after) [.leaf element]
  | emptyArray {before inside after : List Char} : Blanks before → Blanks after → Blanks inside →
      Items written 0 (before ++ '\x7b' :: (inside ++ '\x7d' :: after)) [.array []]
  | array {dangling : Nat} {before inside after : List Char} {members : List Tree} :
      Blanks before → Blanks after → Items written dangling inside members →
      Items written dangling (before ++ '\x7b' :: (inside ++ '\x7d' :: after)) [.array members]
  | danglingArray {dangling : Nat} {before inside blanks after : List Char}
      {members : List Tree} :
      Blanks before → Blanks after → Blanks blanks → Items written dangling inside members →
      Items written (dangling + 1)
        (before ++ '\x7b' :: (inside ++ ',' :: (blanks ++ '\x7d' :: after))) [.array members]
  | append {dangling others : Nat} {first second : List Char} {trees more : List Tree} :
      Items written dangling first trees → Items written others second more →
      Items written (dangling + others) (first ++ ',' :: second) (trees ++ more)

/-- What may stand before the array of a literal: nothing, or its dimensions. -/
inductive Decoration : List Char → Prop
  | none : Decoration []
  | dimensions {text : List Char} : '=' ∉ text → Decoration ('[' :: (text ++ ['=']))

/-- A literal: an array, after blanks and a decoration. -/
def Literal (written : Element → List Char → Prop) (dangling : Nat) (text : List Char)
    (members : List Tree) : Prop :=
  ∃ blanks decoration array, (∀ character ∈ blanks, isBlank character = true) ∧
    Decoration decoration ∧ Items written dangling array [.array members] ∧
    text = blanks ++ (decoration ++ array)

end BankLedger.Sql.ArrayLiteral
