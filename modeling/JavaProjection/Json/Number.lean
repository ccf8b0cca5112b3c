import JavaProjection.Json.Value

/-!
# Words and numbers

A word is a run of characters that are no blank, quote or punctuation. JSON knows three words and
the numbers. A number is an optional minus sign, an integer part without leading zeros, an
optional fraction and an optional exponent.
-/

set_option autoImplicit false

namespace JavaProjection

namespace Json

def isWordChar (c : Char) : Bool :=
  c.isAlphanum || c == '-' || c == '+' || c == '.'

def digitsValue (digits : List Char) : Nat :=
  digits.foldl (fun value digit => 10 * value + (digit.toNat - '0'.toNat)) 0

def areDigits (word : List Char) : Bool :=
  !word.isEmpty && word.all Char.isDigit

/-- Digits without a superfluous zero in front. -/
def isInteger (word : List Char) : Bool :=
  areDigits word && (word.head? != some '0' || word.length == 1)

def isExponent : List Char → Bool
  | [] => true
  | mark :: rest =>
    (mark == 'e' || mark == 'E') &&
      match rest with
      | '+' :: digits => areDigits digits
      | '-' :: digits => areDigits digits
      | digits => areDigits digits

/-- Nothing, a fraction, an exponent, or both. -/
def isFraction : List Char → Bool
  | '.' :: rest =>
    areDigits (rest.takeWhile Char.isDigit) && isExponent (rest.dropWhile Char.isDigit)
  | rest => isExponent rest

def isUnsigned (word : List Char) : Bool :=
  isInteger (word.takeWhile Char.isDigit) && isFraction (word.dropWhile Char.isDigit)

def isNumber : List Char → Bool
  | '-' :: word => isUnsigned word
  | word => isUnsigned word

def Scalar.ofWord? (word : List Char) : Option Scalar :=
  if word = "null".toList then some .null
  else if word = "true".toList then some (.bool true)
  else if word = "false".toList then some (.bool false)
  else if isInteger word then some (.nat (digitsValue word))
  else if isNumber word then some (.number (String.ofList word))
  else none

end Json

end JavaProjection
