import JavaProjection.Json.Number
import JavaProjection.Json.Quoted

/-!
# Lexemes

A JSON text is a sequence of lexemes with blanks between them. The text is read one character at
a time by a machine that is between lexemes, in a word, or at some point of a string literal.
-/

set_option autoImplicit false

namespace JavaProjection

namespace Json

inductive Lexeme where
  | openArray | closeArray | openObject | closeObject | comma | colon
  | scalar (value : Scalar)
  deriving DecidableEq

/-- Where a reader stands in a text. The characters of a word and the units of a string literal
read so far stand newest first. -/
inductive Position where
  | between
  | word (chars : List Char)
  | quoted (units : List Nat)
  | escape (units : List Nat)
  | unicode (units : List Nat) (value : Nat) (left : Nat)
  deriving DecidableEq

namespace Lexeme

def isBlank (c : Char) : Bool :=
  c == ' ' || c == '\t' || c == '\n' || c == '\r'

def ofPunctuation? : Char → Option Lexeme
  | '[' => some .openArray
  | ']' => some .closeArray
  | '\x7b' => some .openObject
  | '\x7d' => some .closeObject
  | ',' => some .comma
  | ':' => some .colon
  | _ => none

def chars : Lexeme → List Char
  | .openArray => ['[']
  | .closeArray => [']']
  | .openObject => ['\x7b']
  | .closeObject => ['\x7d']
  | .comma => [',']
  | .colon => [':']
  | .scalar .null => "null".toList
  | .scalar (.bool true) => "true".toList
  | .scalar (.bool false) => "false".toList
  | .scalar (.nat value) => Nat.toDigits 10 value
  | .scalar (.number written) => written.toList
  | .scalar (.string content) => quoted content

end Lexeme

namespace Position

/-- The step between two lexemes: where the reader stands next and what is complete by then. -/
def start (c : Char) : Option (Position × List Lexeme) :=
  if Lexeme.isBlank c then some (.between, [])
  else if c = '"' then some (.quoted [], [])
  else if isWordChar c then some (.word [c], [])
  else (Lexeme.ofPunctuation? c).map fun lexeme => (.between, [lexeme])

def step : Position → Char → Option (Position × List Lexeme)
  | .between, c => start c
  | .word chars, c =>
    if isWordChar c then some (.word (c :: chars), [])
    else do
      let value ← Scalar.ofWord? chars.reverse
      let (next, lexemes) ← start c
      return (next, .scalar value :: lexemes)
  | .quoted units, c =>
    if c = '"' then some (.between, [.scalar (.string (textOfUnits units.reverse))])
    else if c = '\\' then some (.escape units, [])
    else if c.toNat < 0x20 then none
    else some (.quoted (c.toNat :: units), [])
  | .escape units, c =>
    if c = 'u' then some (.unicode units 0 4, [])
    else (escaped? c).map fun plain => (.quoted (plain.toNat :: units), [])
  | .unicode units value left, c => do
    let digit ← hexValue? c
    let value := 16 * value + digit
    return if left ≤ 1 then (.quoted (value :: units), [])
      else (.unicode units value (left - 1), [])

def finish : Position → Option (List Lexeme)
  | .between => some []
  | .word chars => (Scalar.ofWord? chars.reverse).map fun value => [.scalar value]
  | _ => none

/-- The lexemes of a text, after those complete so far, which stand newest first. -/
def scan (position : Position) (complete : List Lexeme) : List Char → Option (List Lexeme)
  | [] => position.finish.map fun lexemes => complete.reverse ++ lexemes
  | c :: rest =>
    match position.step c with
    | some (next, lexemes) => next.scan (lexemes.reverse ++ complete) rest
    | none => none

end Position

def Lexeme.scan? (text : List Char) : Option (List Lexeme) :=
  Position.between.scan [] text

end Json

end JavaProjection
