/-!
# Lexer terminals

The kinds of token the Java lexer produces, in the lexer's order. In that order the tokens from
the dot to the unsigned shift assignment are those that can stand between two operands.
-/

set_option autoImplicit false

namespace JavaProjection

/-- A kind of token of the Java lexer, in the lexer's order: reserved words, contextual words,
literals, separators, operators, later punctuation, identifiers. -/
inductive Terminal where
  | kwAbstract | kwAssert | kwBoolean | kwBreak | kwByte | kwCase | kwCatch | kwChar | kwClass
  | kwConst | kwContinue | kwDefault | kwDo | kwDouble | kwElse | kwEnum | kwExtends | kwFinal
  | kwFinally | kwFloat | kwFor | kwIf | kwGoto | kwImplements | kwImport | kwInstanceof
  | kwInt | kwInterface | kwLong | kwNative | kwNew | kwPackage | kwPrivate | kwProtected
  | kwPublic | kwReturn | kwShort | kwStatic | kwStrictfp | kwSuper | kwSwitch | kwSynchronized
  | kwThis | kwThrow | kwThrows | kwTransient | kwTry | kwVoid | kwVolatile | kwWhile
  | kwModule | kwOpen | kwRequires | kwExports | kwOpens | kwTo | kwUses | kwProvides | kwWith
  | kwTransitive | kwVar | kwYield | kwRecord | kwSealed | kwPermits | kwNonSealed
  | decimalLiteral | hexLiteral | octLiteral | binaryLiteral | floatLiteral | hexFloatLiteral
  | boolLiteral | charLiteral | stringLiteral | textBlock | nullLiteral
  | leftParen | rightParen | leftBrace | rightBrace | leftBracket | rightBracket | semi | comma
  | dot
  | assign | greater | less | bang | tilde | question | colon | equal | lessEqual
  | greaterEqual | notEqual | and | or | inc | dec | add | sub | mul | div | bitAnd | bitOr
  | caret | mod | addAssign | subAssign | mulAssign | divAssign | andAssign | orAssign
  | xorAssign | modAssign | leftShiftAssign | rightShiftAssign | unsignedShiftAssign
  | arrow | colonColon | atSign | ellipsis
  | identifier
  deriving DecidableEq

namespace Terminal

def all : List Terminal :=
  [.kwAbstract, .kwAssert, .kwBoolean, .kwBreak, .kwByte, .kwCase, .kwCatch, .kwChar, .kwClass,
    .kwConst, .kwContinue, .kwDefault, .kwDo, .kwDouble, .kwElse, .kwEnum, .kwExtends, .kwFinal,
    .kwFinally, .kwFloat, .kwFor, .kwIf, .kwGoto, .kwImplements, .kwImport, .kwInstanceof,
    .kwInt, .kwInterface, .kwLong, .kwNative, .kwNew, .kwPackage, .kwPrivate, .kwProtected,
    .kwPublic, .kwReturn, .kwShort, .kwStatic, .kwStrictfp, .kwSuper, .kwSwitch, .kwSynchronized,
    .kwThis, .kwThrow, .kwThrows, .kwTransient, .kwTry, .kwVoid, .kwVolatile, .kwWhile,
    .kwModule, .kwOpen, .kwRequires, .kwExports, .kwOpens, .kwTo, .kwUses, .kwProvides, .kwWith,
    .kwTransitive, .kwVar, .kwYield, .kwRecord, .kwSealed, .kwPermits, .kwNonSealed,
    .decimalLiteral, .hexLiteral, .octLiteral, .binaryLiteral, .floatLiteral, .hexFloatLiteral,
    .boolLiteral, .charLiteral, .stringLiteral, .textBlock, .nullLiteral, .leftParen,
    .rightParen, .leftBrace, .rightBrace, .leftBracket, .rightBracket, .semi, .comma, .dot,
    .assign, .greater, .less, .bang, .tilde, .question, .colon, .equal, .lessEqual,
    .greaterEqual, .notEqual, .and, .or, .inc, .dec, .add, .sub, .mul, .div, .bitAnd, .bitOr,
    .caret, .mod, .addAssign, .subAssign, .mulAssign, .divAssign, .andAssign, .orAssign,
    .xorAssign, .modAssign, .leftShiftAssign, .rightShiftAssign, .unsignedShiftAssign, .arrow,
    .colonColon, .atSign, .ellipsis, .identifier]

def name : Terminal → String
  | .kwAbstract => "ABSTRACT"
  | .kwAssert => "ASSERT"
  | .kwBoolean => "BOOLEAN"
  | .kwBreak => "BREAK"
  | .kwByte => "BYTE"
  | .kwCase => "CASE"
  | .kwCatch => "CATCH"
  | .kwChar => "CHAR"
  | .kwClass => "CLASS"
  | .kwConst => "CONST"
  | .kwContinue => "CONTINUE"
  | .kwDefault => "DEFAULT"
  | .kwDo => "DO"
  | .kwDouble => "DOUBLE"
  | .kwElse => "ELSE"
  | .kwEnum => "ENUM"
  | .kwExtends => "EXTENDS"
  | .kwFinal => "FINAL"
  | .kwFinally => "FINALLY"
  | .kwFloat => "FLOAT"
  | .kwFor => "FOR"
  | .kwIf => "IF"
  | .kwGoto => "GOTO"
  | .kwImplements => "IMPLEMENTS"
  | .kwImport => "IMPORT"
  | .kwInstanceof => "INSTANCEOF"
  | .kwInt => "INT"
  | .kwInterface => "INTERFACE"
  | .kwLong => "LONG"
  | .kwNative => "NATIVE"
  | .kwNew => "NEW"
  | .kwPackage => "PACKAGE"
  | .kwPrivate => "PRIVATE"
  | .kwProtected => "PROTECTED"
  | .kwPublic => "PUBLIC"
  | .kwReturn => "RETURN"
  | .kwShort => "SHORT"
  | .kwStatic => "STATIC"
  | .kwStrictfp => "STRICTFP"
  | .kwSuper => "SUPER"
  | .kwSwitch => "SWITCH"
  | .kwSynchronized => "SYNCHRONIZED"
  | .kwThis => "THIS"
  | .kwThrow => "THROW"
  | .kwThrows => "THROWS"
  | .kwTransient => "TRANSIENT"
  | .kwTry => "TRY"
  | .kwVoid => "VOID"
  | .kwVolatile => "VOLATILE"
  | .kwWhile => "WHILE"
  | .kwModule => "MODULE"
  | .kwOpen => "OPEN"
  | .kwRequires => "REQUIRES"
  | .kwExports => "EXPORTS"
  | .kwOpens => "OPENS"
  | .kwTo => "TO"
  | .kwUses => "USES"
  | .kwProvides => "PROVIDES"
  | .kwWith => "WITH"
  | .kwTransitive => "TRANSITIVE"
  | .kwVar => "VAR"
  | .kwYield => "YIELD"
  | .kwRecord => "RECORD"
  | .kwSealed => "SEALED"
  | .kwPermits => "PERMITS"
  | .kwNonSealed => "NON_SEALED"
  | .decimalLiteral => "DECIMAL_LITERAL"
  | .hexLiteral => "HEX_LITERAL"
  | .octLiteral => "OCT_LITERAL"
  | .binaryLiteral => "BINARY_LITERAL"
  | .floatLiteral => "FLOAT_LITERAL"
  | .hexFloatLiteral => "HEX_FLOAT_LITERAL"
  | .boolLiteral => "BOOL_LITERAL"
  | .charLiteral => "CHAR_LITERAL"
  | .stringLiteral => "STRING_LITERAL"
  | .textBlock => "TEXT_BLOCK"
  | .nullLiteral => "NULL_LITERAL"
  | .leftParen => "LPAREN"
  | .rightParen => "RPAREN"
  | .leftBrace => "LBRACE"
  | .rightBrace => "RBRACE"
  | .leftBracket => "LBRACK"
  | .rightBracket => "RBRACK"
  | .semi => "SEMI"
  | .comma => "COMMA"
  | .dot => "DOT"
  | .assign => "ASSIGN"
  | .greater => "GT"
  | .less => "LT"
  | .bang => "BANG"
  | .tilde => "TILDE"
  | .question => "QUESTION"
  | .colon => "COLON"
  | .equal => "EQUAL"
  | .lessEqual => "LE"
  | .greaterEqual => "GE"
  | .notEqual => "NOTEQUAL"
  | .and => "AND"
  | .or => "OR"
  | .inc => "INC"
  | .dec => "DEC"
  | .add => "ADD"
  | .sub => "SUB"
  | .mul => "MUL"
  | .div => "DIV"
  | .bitAnd => "BITAND"
  | .bitOr => "BITOR"
  | .caret => "CARET"
  | .mod => "MOD"
  | .addAssign => "ADD_ASSIGN"
  | .subAssign => "SUB_ASSIGN"
  | .mulAssign => "MUL_ASSIGN"
  | .divAssign => "DIV_ASSIGN"
  | .andAssign => "AND_ASSIGN"
  | .orAssign => "OR_ASSIGN"
  | .xorAssign => "XOR_ASSIGN"
  | .modAssign => "MOD_ASSIGN"
  | .leftShiftAssign => "LSHIFT_ASSIGN"
  | .rightShiftAssign => "RSHIFT_ASSIGN"
  | .unsignedShiftAssign => "URSHIFT_ASSIGN"
  | .arrow => "ARROW"
  | .colonColon => "COLONCOLON"
  | .atSign => "AT"
  | .ellipsis => "ELLIPSIS"
  | .identifier => "IDENTIFIER"

def title : Terminal → String
  | .kwAbstract => "Abstract"
  | .kwAssert => "Assert"
  | .kwBoolean => "Boolean"
  | .kwBreak => "Break"
  | .kwByte => "Byte"
  | .kwCase => "Case"
  | .kwCatch => "Catch"
  | .kwChar => "Char"
  | .kwClass => "Class"
  | .kwConst => "Const"
  | .kwContinue => "Continue"
  | .kwDefault => "Default"
  | .kwDo => "Do"
  | .kwDouble => "Double"
  | .kwElse => "Else"
  | .kwEnum => "Enum"
  | .kwExtends => "Extends"
  | .kwFinal => "Final"
  | .kwFinally => "Finally"
  | .kwFloat => "Float"
  | .kwFor => "For"
  | .kwIf => "If"
  | .kwGoto => "Goto"
  | .kwImplements => "Implements"
  | .kwImport => "Import"
  | .kwInstanceof => "Instanceof"
  | .kwInt => "Int"
  | .kwInterface => "Interface"
  | .kwLong => "Long"
  | .kwNative => "Native"
  | .kwNew => "New"
  | .kwPackage => "Package"
  | .kwPrivate => "Private"
  | .kwProtected => "Protected"
  | .kwPublic => "Public"
  | .kwReturn => "Return"
  | .kwShort => "Short"
  | .kwStatic => "Static"
  | .kwStrictfp => "Strictfp"
  | .kwSuper => "Super"
  | .kwSwitch => "Switch"
  | .kwSynchronized => "Synchronized"
  | .kwThis => "This"
  | .kwThrow => "Throw"
  | .kwThrows => "Throws"
  | .kwTransient => "Transient"
  | .kwTry => "Try"
  | .kwVoid => "Void"
  | .kwVolatile => "Volatile"
  | .kwWhile => "While"
  | .kwModule => "Module"
  | .kwOpen => "Open"
  | .kwRequires => "Requires"
  | .kwExports => "Exports"
  | .kwOpens => "Opens"
  | .kwTo => "To"
  | .kwUses => "Uses"
  | .kwProvides => "Provides"
  | .kwWith => "With"
  | .kwTransitive => "Transitive"
  | .kwVar => "Var"
  | .kwYield => "Yield"
  | .kwRecord => "Record"
  | .kwSealed => "Sealed"
  | .kwPermits => "Permits"
  | .kwNonSealed => "NonSealed"
  | .decimalLiteral => "DecimalLiteral"
  | .hexLiteral => "HexLiteral"
  | .octLiteral => "OctLiteral"
  | .binaryLiteral => "BinaryLiteral"
  | .floatLiteral => "FloatLiteral"
  | .hexFloatLiteral => "HexFloatLiteral"
  | .boolLiteral => "BoolLiteral"
  | .charLiteral => "CharLiteral"
  | .stringLiteral => "StringLiteral"
  | .textBlock => "TextBlock"
  | .nullLiteral => "NullLiteral"
  | .leftParen => "LParen"
  | .rightParen => "RParen"
  | .leftBrace => "LBrace"
  | .rightBrace => "RBrace"
  | .leftBracket => "LBrack"
  | .rightBracket => "RBrack"
  | .semi => "Semi"
  | .comma => "Comma"
  | .dot => "Dot"
  | .assign => "Assign"
  | .greater => "Gt"
  | .less => "Lt"
  | .bang => "Bang"
  | .tilde => "Tilde"
  | .question => "Question"
  | .colon => "Colon"
  | .equal => "Equal"
  | .lessEqual => "Le"
  | .greaterEqual => "Ge"
  | .notEqual => "NotEqual"
  | .and => "And"
  | .or => "Or"
  | .inc => "Inc"
  | .dec => "Dec"
  | .add => "Add"
  | .sub => "Sub"
  | .mul => "Mul"
  | .div => "Div"
  | .bitAnd => "BitAnd"
  | .bitOr => "BitOr"
  | .caret => "Caret"
  | .mod => "Mod"
  | .addAssign => "AddAssign"
  | .subAssign => "SubAssign"
  | .mulAssign => "MulAssign"
  | .divAssign => "DivAssign"
  | .andAssign => "AndAssign"
  | .orAssign => "OrAssign"
  | .xorAssign => "XorAssign"
  | .modAssign => "ModAssign"
  | .leftShiftAssign => "LShiftAssign"
  | .rightShiftAssign => "RShiftAssign"
  | .unsignedShiftAssign => "UrShiftAssign"
  | .arrow => "Arrow"
  | .colonColon => "ColonColon"
  | .atSign => "At"
  | .ellipsis => "Ellipsis"
  | .identifier => "Identifier"

def ofName? (name : String) : Option Terminal :=
  all.find? fun terminal => terminal.name == name

/-- The tokens that an operator label of a two-operand expression may carry. -/
def isBinaryOperator : Terminal → Bool
  | .dot | .assign | .greater | .less | .bang | .tilde | .question | .colon | .equal
  | .lessEqual | .greaterEqual | .notEqual | .and | .or | .inc | .dec | .add | .sub | .mul
  | .div | .bitAnd | .bitOr | .caret | .mod | .addAssign | .subAssign | .mulAssign | .divAssign
  | .andAssign | .orAssign | .xorAssign | .modAssign | .leftShiftAssign | .rightShiftAssign
  | .unsignedShiftAssign => true
  | _ => false

def isLiteral : Terminal → Bool
  | .decimalLiteral | .hexLiteral | .octLiteral | .binaryLiteral | .floatLiteral
  | .hexFloatLiteral | .boolLiteral | .charLiteral | .stringLiteral | .textBlock
  | .nullLiteral => true
  | _ => false

end Terminal

end JavaProjection
