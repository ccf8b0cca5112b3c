import JavaProjection.Kind.Terminal

/-!
# Abstract codes

The operators, words and literal classes that abstract syntax speaks of, and the map from lexer
terminals to them. The map is partial: separators, the words of constructs that are not projected,
the literal forms outside the supported set and four operators have no code.
-/

set_option autoImplicit false

namespace JavaProjection

/-- An abstract code, in the order in which sets of codes are listed: operators, modifiers,
primitive types, words, literal and name classes. -/
inductive Code where
  | plus | minus | star | slash | percent | assign | plusAssign | minusAssign | starAssign
  | slashAssign | ampersandAssign | verticalAssign | caretAssign | leftShiftAssign | equal
  | nonEqual | greater | less | greaterEqual | lessEqual | doubleVertical | doubleAmpersand
  | vertical | ampersand | caret | negation | tilde | plusPlus | minusMinus | question | dot
  | kwInstanceof
  | kwPublic | kwPrivate | kwProtected | kwStatic | kwAbstract | kwFinal | kwStrictfp
  | kwBoolean | kwChar | kwByte | kwShort | kwInt | kwLong | kwFloat | kwDouble
  | kwThis | kwSuper | kwVar | kwBreak | kwContinue | kwTrue | kwFalse | kwNull
  | identifier | integerLiteral | floatingLiteral | stringLiteral
  deriving DecidableEq

namespace Code

def all : List Code :=
  [.plus, .minus, .star, .slash, .percent, .assign, .plusAssign, .minusAssign, .starAssign,
    .slashAssign, .ampersandAssign, .verticalAssign, .caretAssign, .leftShiftAssign, .equal,
    .nonEqual, .greater, .less, .greaterEqual, .lessEqual, .doubleVertical, .doubleAmpersand,
    .vertical, .ampersand, .caret, .negation, .tilde, .plusPlus, .minusMinus, .question, .dot,
    .kwInstanceof, .kwPublic, .kwPrivate, .kwProtected, .kwStatic, .kwAbstract, .kwFinal,
    .kwStrictfp, .kwBoolean, .kwChar, .kwByte, .kwShort, .kwInt, .kwLong, .kwFloat, .kwDouble,
    .kwThis, .kwSuper, .kwVar, .kwBreak, .kwContinue, .kwTrue, .kwFalse, .kwNull, .identifier,
    .integerLiteral, .floatingLiteral, .stringLiteral]

def rank (code : Code) : Nat :=
  code.ctorIdx

def name : Code → String
  | .plus => "Plus"
  | .minus => "Minus"
  | .star => "Star"
  | .slash => "Slash"
  | .percent => "Percent"
  | .assign => "Assign"
  | .plusAssign => "PlusAssign"
  | .minusAssign => "MinusAssign"
  | .starAssign => "StarAssign"
  | .slashAssign => "SlashAssign"
  | .ampersandAssign => "AmpersandAssign"
  | .verticalAssign => "VerticalAssign"
  | .caretAssign => "CaretAssign"
  | .leftShiftAssign => "LeftShiftAssign"
  | .equal => "Equal"
  | .nonEqual => "NonEqual"
  | .greater => "Greater"
  | .less => "Less"
  | .greaterEqual => "GreaterEqual"
  | .lessEqual => "LessEqual"
  | .doubleVertical => "DoubleVertical"
  | .doubleAmpersand => "DoubleAmpersand"
  | .vertical => "Vertical"
  | .ampersand => "Ampersand"
  | .caret => "Caret"
  | .negation => "Negation"
  | .tilde => "Tilde"
  | .plusPlus => "PlusPlus"
  | .minusMinus => "MinusMinus"
  | .question => "Question"
  | .dot => "Dot"
  | .kwInstanceof => "Instanceof"
  | .kwPublic => "Public"
  | .kwPrivate => "Private"
  | .kwProtected => "Protected"
  | .kwStatic => "Static"
  | .kwAbstract => "Abstract"
  | .kwFinal => "Final"
  | .kwStrictfp => "Strictfp"
  | .kwBoolean => "Boolean"
  | .kwChar => "Char"
  | .kwByte => "Byte"
  | .kwShort => "Short"
  | .kwInt => "Int"
  | .kwLong => "Long"
  | .kwFloat => "Float"
  | .kwDouble => "Double"
  | .kwThis => "This"
  | .kwSuper => "Super"
  | .kwVar => "Var"
  | .kwBreak => "Break"
  | .kwContinue => "Continue"
  | .kwTrue => "True"
  | .kwFalse => "False"
  | .kwNull => "Null"
  | .identifier => "Identifier"
  | .integerLiteral => "IntegerLiteral"
  | .floatingLiteral => "FloatingLiteral"
  | .stringLiteral => "StringLiteral"

/-- The code as Java spells it; a class of literals or names has a bracketed description. -/
def symbol : Code → String
  | .plus => "+"
  | .minus => "-"
  | .star => "*"
  | .slash => "/"
  | .percent => "%"
  | .assign => "="
  | .plusAssign => "+="
  | .minusAssign => "-="
  | .starAssign => "*="
  | .slashAssign => "/="
  | .ampersandAssign => "&="
  | .verticalAssign => "|="
  | .caretAssign => "^="
  | .leftShiftAssign => "<<="
  | .equal => "=="
  | .nonEqual => "!="
  | .greater => ">"
  | .less => "<"
  | .greaterEqual => ">="
  | .lessEqual => "<="
  | .doubleVertical => "||"
  | .doubleAmpersand => "&&"
  | .vertical => "|"
  | .ampersand => "&"
  | .caret => "^"
  | .negation => "!"
  | .tilde => "~"
  | .plusPlus => "++"
  | .minusMinus => "--"
  | .question => "?"
  | .dot => "."
  | .kwInstanceof => "instanceof"
  | .kwPublic => "public"
  | .kwPrivate => "private"
  | .kwProtected => "protected"
  | .kwStatic => "static"
  | .kwAbstract => "abstract"
  | .kwFinal => "final"
  | .kwStrictfp => "strictfp"
  | .kwBoolean => "boolean"
  | .kwChar => "char"
  | .kwByte => "byte"
  | .kwShort => "short"
  | .kwInt => "int"
  | .kwLong => "long"
  | .kwFloat => "float"
  | .kwDouble => "double"
  | .kwThis => "this"
  | .kwSuper => "super"
  | .kwVar => "var"
  | .kwBreak => "break"
  | .kwContinue => "continue"
  | .kwTrue => "true"
  | .kwFalse => "false"
  | .kwNull => "null"
  | .identifier => "<identifier>"
  | .integerLiteral => "<integer>"
  | .floatingLiteral => "<floating>"
  | .stringLiteral => "<string>"

def ofName? (name : String) : Option Code :=
  all.find? fun code => code.name == name

def isModifier : Code → Bool
  | .kwPublic | .kwPrivate | .kwProtected | .kwStatic | .kwAbstract | .kwFinal | .kwStrictfp => true
  | _ => false

def isPrimitive : Code → Bool
  | .kwBoolean | .kwChar | .kwByte | .kwShort | .kwInt | .kwLong | .kwFloat | .kwDouble => true
  | _ => false

/-- The abstract code of a terminal, for the terminals that have one. A boolean literal has none,
since its code depends on its text. -/
def ofTerminal? : Terminal → Option Code
  | .add => some .plus
  | .sub => some .minus
  | .mul => some .star
  | .div => some .slash
  | .mod => some .percent
  | .assign => some .assign
  | .addAssign => some .plusAssign
  | .subAssign => some .minusAssign
  | .mulAssign => some .starAssign
  | .divAssign => some .slashAssign
  | .andAssign => some .ampersandAssign
  | .orAssign => some .verticalAssign
  | .xorAssign => some .caretAssign
  | .leftShiftAssign => some .leftShiftAssign
  | .equal => some .equal
  | .notEqual => some .nonEqual
  | .greater => some .greater
  | .less => some .less
  | .greaterEqual => some .greaterEqual
  | .lessEqual => some .lessEqual
  | .or => some .doubleVertical
  | .and => some .doubleAmpersand
  | .bitOr => some .vertical
  | .bitAnd => some .ampersand
  | .caret => some .caret
  | .bang => some .negation
  | .tilde => some .tilde
  | .inc => some .plusPlus
  | .dec => some .minusMinus
  | .question => some .question
  | .dot => some .dot
  | .kwInstanceof => some .kwInstanceof
  | .kwPublic => some .kwPublic
  | .kwPrivate => some .kwPrivate
  | .kwProtected => some .kwProtected
  | .kwStatic => some .kwStatic
  | .kwAbstract => some .kwAbstract
  | .kwFinal => some .kwFinal
  | .kwStrictfp => some .kwStrictfp
  | .kwBoolean => some .kwBoolean
  | .kwChar => some .kwChar
  | .kwByte => some .kwByte
  | .kwShort => some .kwShort
  | .kwInt => some .kwInt
  | .kwLong => some .kwLong
  | .kwFloat => some .kwFloat
  | .kwDouble => some .kwDouble
  | .kwThis => some .kwThis
  | .kwSuper => some .kwSuper
  | .kwVar => some .kwVar
  | .kwBreak => some .kwBreak
  | .kwContinue => some .kwContinue
  | .identifier => some .identifier
  | .decimalLiteral => some .integerLiteral
  | .floatLiteral => some .floatingLiteral
  | .stringLiteral => some .stringLiteral
  | .nullLiteral => some .kwNull
  | _ => none

def modifierOf? (terminal : Terminal) : Option Code :=
  (ofTerminal? terminal).filter isModifier

def primitiveOf? (terminal : Terminal) : Option Code :=
  (ofTerminal? terminal).filter isPrimitive

end Code

/-- The operator tokens that can stand between two operands and yet have no abstract code. -/
def Terminal.unmappedOperators : List Terminal :=
  [.colon, .modAssign, .rightShiftAssign, .unsignedShiftAssign]

theorem Terminal.mem_unmappedOperators {terminal : Terminal}
    (inRange : terminal.isBinaryOperator = true) (uncoded : Code.ofTerminal? terminal = none) :
    terminal ∈ unmappedOperators := by
  revert inRange uncoded
  cases terminal <;> decide

/-- An abstract code with the source text it was read from, where the text matters. -/
structure Token where
  code : Code
  text : Option String
  deriving DecidableEq

namespace Token

def ofCode (code : Code) : Token :=
  ⟨code, none⟩

def withText (code : Code) (text : String) : Token :=
  ⟨code, some text⟩

def identifier (name : String) : Token :=
  withText .identifier name

/-- The text, or the symbol of the code when there is none. -/
def spelling (token : Token) : String :=
  token.text.getD token.code.symbol

@[simp] theorem spelling_withText (code : Code) (text : String) :
    (withText code text).spelling = text :=
  rfl

@[simp] theorem spelling_identifier (name : String) : (identifier name).spelling = name :=
  rfl

end Token

end JavaProjection
