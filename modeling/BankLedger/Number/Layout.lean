import BankLedger.Number.Shortest
import BankLedger.Text.Digits

/-!
# Decimal text of floating-point numbers

The digits of a number are laid out in two ways.  Plain text never has an exponent and has a
fraction only where one is needed.  The text used in JSON always has a fraction or an exponent, so
that it reads as a floating-point number.  Reading accepts either, and the names of the numbers that
have no digits.
-/

namespace BankLedger.Binary64

open BankLedger.Text

/-- The given number of zeros. -/
def zeros (count : Nat) : List Char :=
  List.replicate count '0'

/-- The digits of a decimal with a point and no exponent; `whole` follows a decimal that has no
fraction. -/
def positional (whole : String) (decimal : Decimal) : String :=
  let digits := (Nat.repr decimal.coefficient).toList
  let point := digits.length + decimal.exponent
  if 0 ≤ decimal.exponent then
    String.ofList (digits ++ zeros decimal.exponent.natAbs) ++ whole
  else if 0 < point then
    String.ofList (digits.take point.natAbs ++ '.' :: digits.drop point.natAbs)
  else
    String.ofList ('0' :: '.' :: zeros point.natAbs ++ digits)

/-- The digits of a decimal with one digit before the point and a signed exponent. -/
def scientific (decimal : Decimal) : String :=
  let digits := (Nat.repr decimal.coefficient).toList
  let power : Int := digits.length + decimal.exponent - 1
  let mark := if power < 0 then "e-" else "e+"
  let tail := if digits.length ≤ 1 then [] else '.' :: digits.drop 1
  String.ofList (digits.take 1 ++ tail) ++ mark ++ toString power.natAbs

/-- The sign that is written in front of a number. -/
def signText (number : Binary64) : String :=
  if number.isNegative then "-" else ""

/-- Plain text: no exponent, and a fraction only where one is needed. -/
def plainText (number : Binary64) : String :=
  if number.isNaN then "NaN"
  else if number.isInfinite then number.signText ++ "inf"
  else if number.isZero then number.signText ++ "0"
  else number.signText ++ positional "" (shortest .up number)

/-- JSON text of a finite number: positional from `10 ^ -5` up to `10 ^ 16`, with an exponent
elsewhere. -/
def jsonText (number : Binary64) : String :=
  if number.isZero then number.signText ++ "0.0"
  else
    let decimal := shortest .even number
    let point := (Nat.repr decimal.coefficient).length + decimal.exponent
    number.signText ++
      if -5 < point && point ≤ 16 then positional ".0" decimal else scientific decimal

/-- Text for the database, which has names of its own for the infinities. -/
def wireText (number : Binary64) : String :=
  if number.isInfinite then number.signText ++ "Infinity" else number.plainText

/-- Splits a sign from a text. -/
def splitSign : List Char → Bool × List Char
  | '-' :: rest => (true, rest)
  | '+' :: rest => (false, rest)
  | rest => (false, rest)

/-- The exponent written after the digits of a number, 0 if there is none. -/
def readExponent? : List Char → Option Int
  | [] => some 0
  | mark :: rest =>
      if mark == 'e' || mark == 'E' then
        let (negative, digits) := splitSign rest
        if digits.isEmpty || !digits.all isDigit then none
        else some (if negative then -(digitsValue digits : Int) else digitsValue digits)
      else none

/-- Reads digits with an optional point and exponent. -/
def readDecimal? (negative : Bool) (text : List Char) : Option Binary64 :=
  let whole := text.takeWhile isDigit
  let afterWhole := text.dropWhile isDigit
  let pointed := afterWhole.head? == some '.'
  let fraction := if pointed then (afterWhole.drop 1).takeWhile isDigit else []
  let rest := if pointed then (afterWhole.drop 1).dropWhile isDigit else afterWhole
  if whole.isEmpty && fraction.isEmpty then none
  else (readExponent? rest).map fun exponent =>
    ofDecimal negative (digitsValue (whole ++ fraction)) (exponent - fraction.length)

/-- Reads the text of a number: a decimal, or an infinity or NaN by name in any letter case. -/
def ofText? (text : List Char) : Option Binary64 :=
  let (negative, rest) := splitSign text
  let name := rest.map Char.toLower
  if name == "nan".toList then some nan
  else if name == "inf".toList || name == "infinity".toList then some (infinity negative)
  else readDecimal? negative rest

end BankLedger.Binary64
