import JavaProjection.Json.Lexeme

/-!
# JSON texts

A value is written as a sequence of lexemes without blanks. The lexemes of a text are read by a
machine that keeps the containers it is in; the depth of a text is not limited here.
-/

set_option autoImplicit false

namespace JavaProjection

namespace Json

/-! ## Writing -/

mutual

def lexemes : Json → List Lexeme
  | .scalar value => [.scalar value]
  | .array [] => [.openArray, .closeArray]
  | .array (first :: rest) => .openArray :: first.lexemes ++ elementLexemes rest
  | .object [] => [.openObject, .closeObject]
  | .object ((key, value) :: rest) =>
    .openObject :: .scalar (.string key) :: .colon :: value.lexemes ++ memberLexemes rest

def elementLexemes : List Json → List Lexeme
  | [] => [.closeArray]
  | value :: rest => .comma :: value.lexemes ++ elementLexemes rest

def memberLexemes : List (Text × Json) → List Lexeme
  | [] => [.closeObject]
  | (key, value) :: rest =>
    .comma :: .scalar (.string key) :: .colon :: value.lexemes ++ memberLexemes rest

end

def render (value : Json) : String :=
  String.ofList (value.lexemes.flatMap Lexeme.chars)

/-! ## Reading -/

/-- A container that is not complete, with what it holds before the value being read, newest
first. -/
inductive Frame where
  | array (before : List Json)
  | object (before : List (Text × Json)) (key : Text)

/-- What a reader of lexemes expects next, inside the containers that are not complete. -/
inductive Expectation where
  | someValue (frames : List Frame)
  | elementOrEnd (frames : List Frame)
  | memberOrEnd (frames : List Frame)
  | nextKey (before : List (Text × Json)) (frames : List Frame)
  | afterKey (before : List (Text × Json)) (key : Text) (frames : List Frame)
  | afterValue (complete : Json) (frames : List Frame)

namespace Expectation

def begin (frames : List Frame) : Lexeme → Option Expectation
  | .scalar value => some (.afterValue (.scalar value) frames)
  | .openArray => some (.elementOrEnd frames)
  | .openObject => some (.memberOrEnd frames)
  | _ => none

def step : Expectation → Lexeme → Option Expectation
  | .someValue frames, lexeme => begin frames lexeme
  | .elementOrEnd frames, .closeArray => some (.afterValue (.array []) frames)
  | .elementOrEnd frames, lexeme => begin (.array [] :: frames) lexeme
  | .memberOrEnd frames, .closeObject => some (.afterValue (.object []) frames)
  | .memberOrEnd frames, .scalar (.string key) => some (.afterKey [] key frames)
  | .nextKey before frames, .scalar (.string key) => some (.afterKey before key frames)
  | .afterKey before key frames, .colon => some (.someValue (.object before key :: frames))
  | .afterValue complete (.array before :: frames), .comma =>
    some (.someValue (.array (complete :: before) :: frames))
  | .afterValue complete (.array before :: frames), .closeArray =>
    some (.afterValue (.array (complete :: before).reverse) frames)
  | .afterValue complete (.object before key :: frames), .comma =>
    some (.nextKey ((key, complete) :: before) frames)
  | .afterValue complete (.object before key :: frames), .closeObject =>
    some (.afterValue (.object ((key, complete) :: before).reverse) frames)
  | _, _ => none

def finish : Expectation → Option Json
  | .afterValue complete [] => some complete
  | _ => none

def run (expectation : Expectation) : List Lexeme → Option Json
  | [] => expectation.finish
  | lexeme :: rest =>
    match expectation.step lexeme with
    | some next => next.run rest
    | none => none

end Expectation

def read? (text : String) : Option Json := do
  let lexemes ← Lexeme.scan? text.toList
  Expectation.run (.someValue []) lexemes

end Json

end JavaProjection
