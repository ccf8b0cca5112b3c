import JavaProjection.Projection.Basic

/-!
# Literals

Boolean, decimal integer, null, floating point and string literals are kept. Every other form,
such as a hexadecimal integer, a character or a text block, falls back on the literal policy in
`unsupportedLiteral`.
-/

set_option autoImplicit false

namespace JavaProjection

/-- The text between the two double quotes that enclose it. -/
def unquoted? (text : String) : Option String :=
  match text.toList with
  | '"' :: rest =>
    match rest.getLast? with
    | some '"' => some (String.ofList rest.dropLast)
    | _ => none
  | _ => none

theorem unquoted?_eq_some_iff {text content : String} :
    unquoted? text = some content ↔ text.toList = '"' :: content.toList ++ ['"'] := by
  constructor
  · intro found
    unfold unquoted? at found
    split at found
    · next rest opened =>
      split at found
      · next closed =>
        cases found
        obtain ⟨inner, rfl⟩ := List.getLast?_eq_some_iff.1 closed
        simp [opened]
      · cases found
    · cases found
  · intro enclosed
    unfold unquoted?
    simp [enclosed]

theorem unquoted?_eq_none_iff {text : String} :
    unquoted? text = none ↔ ∀ content, text.toList ≠ '"' :: content ++ ['"'] := by
  constructor
  · intro none content enclosed
    have found : unquoted? text = some (String.ofList content) := by
      rw [unquoted?_eq_some_iff, String.toList_ofList, enclosed]
    rw [none] at found
    cases found
  · intro unenclosed
    cases found : unquoted? text with
    | none => rfl
    | some content => exact absurd (unquoted?_eq_some_iff.1 found) (unenclosed content.toList)

namespace Node

def invalidLiteral (node : Node) : Failure :=
  .invalidLiteral node.fullText node.span

def unsupportedLiteral (node : Node) : Projection Expression := do
  match ← read with
  | .reject => throw node.invalidLiteral
  | .sentinel =>
    Projection.report <|
      (Diagnostic.warning .literalFallback
        s!"literal `{node.fullText}` replaced by {sentinelText}" node.span).withHint
        "only decimal integer, floating point, string, boolean and null literals are translated"
    return .literal (.withText .integerLiteral sentinelText)

def booleanLiteral (token : Node) : Except Failure Expression :=
  match token.ownText with
  | "true" => pure (.literal (.ofCode .kwTrue))
  | "false" => pure (.literal (.ofCode .kwFalse))
  | _ => throw token.invalidLiteral

/-- A literal whose token or tokens give the text as it stands, which must not be empty. -/
def writtenLiteral (node : Node) (code : Code) (text : String) : Except Failure Expression :=
  if text = "" then throw node.invalidLiteral
  else pure (.literal (.withText code text))

def stringLiteral (token : Node) : Except Failure Expression :=
  match unquoted? token.ownText with
  | some content => pure (.literal (.withText .stringLiteral content))
  | none => throw token.invalidLiteral

/-- A literal. The forms are tried in a fixed order. -/
def literal (node : Node) : Projection Expression :=
  match node.terminal? .boolLiteral with
  | some token => token.booleanLiteral
  | none =>
    match node.rule? .integerLiteral with
    | some integer =>
      match integer.terminal? .decimalLiteral with
      | some decimal => decimal.writtenLiteral .integerLiteral decimal.ownText
      | none => integer.unsupportedLiteral
    | none =>
      if node.hasTerminal .nullLiteral then
        pure (.literal (.ofCode .kwNull))
      else
        match node.rule? .floatLiteral with
        | some float => float.writtenLiteral .floatingLiteral float.fullText
        | none =>
          match node.terminal? .stringLiteral with
          | some token => token.stringLiteral
          | none =>
            if node.firstTerminal?.isSome then node.unsupportedLiteral
            else throw node.invalidLiteral

end Node

end JavaProjection
