import JavaProjection.Proofs.Defect

/-!
# What a literal comes to

A literal is kept as a token, or it cannot be read, or its form is not supported and the policy
decides. What is said of every projection needs no more of literals than this.
-/

set_option autoImplicit false

namespace JavaProjection

namespace Node

inductive Contains (root : Node) : Node → Prop
  | root : Contains root root
  | child {node child : Node} (above : Contains root node) (member : child ∈ node.children) :
    Contains root child

theorem Contains.trans {root node inner : Node} (above : root.Contains node)
    (below : node.Contains inner) : root.Contains inner := by
  induction below with
  | root => exact above
  | child _ member ih => exact .child ih member

theorem Contains.of_terminal? {root node child : Node} {terminal : Terminal}
    (above : root.Contains node) (found : node.terminal? terminal = some child) :
    root.Contains child ∧ child.kind = .terminal terminal := by
  have member := List.mem_filter.1 (List.mem_of_mem_head? found)
  exact ⟨.child above member.1, eq_of_beq member.2⟩

theorem Contains.of_rule? {root node child : Node} {rule : Rule}
    (above : root.Contains node) (found : node.rule? rule = some child) :
    root.Contains child ∧ child.kind = .rule rule := by
  have member := List.mem_filter.1 (List.mem_of_getElem? found)
  exact ⟨.child above member.1, eq_of_beq member.2⟩

/-- What the literal comes to, and which part of it is to blame if it is not kept. -/
inductive ReadsLiteral (node : Node) : Prop
  | kept (token : Token) (read : node.literal = pure (.literal token))
  | unreadable (part : Node) (below : node.Contains part)
    (cause : ∀ policy, part.UnreadableLiteral policy)
    (read : node.literal = throw part.invalidLiteral)
  | unsupported (part : Node) (below : node.Contains part)
    (cause : part.UnreadableLiteral .reject) (read : node.literal = part.unsupportedLiteral)

theorem ReadsLiteral.of_written {node part : Node} {text : String} (code : Code)
    (below : node.Contains part) (cause : text = "" → ∀ policy, part.UnreadableLiteral policy)
    (read : node.literal = liftM (part.writtenLiteral code text)) : node.ReadsLiteral := by
  unfold writtenLiteral at read
  split at read
  · next blank => exact .unreadable part below (cause blank) read
  · exact .kept _ read

theorem text_blank {node : Node} (blank : node.ownText = "") :
    node.text = none ∨ node.text = some "" := by
  cases written : node.text with
  | none => exact Or.inl rfl
  | some text =>
    rw [ownText, written] at blank
    exact Or.inr (congrArg some blank)

-- The cases follow the order in which the forms of literals are tried.
/-- The one place where the forms of literals are told apart in order; every property of projections
that concerns literals goes through it. -/
theorem readsLiteral {node : Node} (kind : node.kind = .rule .literal) : node.ReadsLiteral := by
  cases boolean : node.terminal? .boolLiteral with
  | some token =>
    obtain ⟨below, tokenKind⟩ := Contains.root.of_terminal? boolean
    have read : node.literal = liftM token.booleanLiteral := by rw [literal, boolean]
    unfold booleanLiteral at read
    split at read
    · exact .kept _ read
    · exact .kept _ read
    · next notTrue notFalse =>
      exact .unreadable token below (fun _ => .boolean tokenKind notTrue notFalse) read
  | none =>
  cases integer : node.rule? .integerLiteral with
  | some inner =>
    obtain ⟨below, innerKind⟩ := Contains.root.of_rule? integer
    cases decimal : inner.terminal? .decimalLiteral with
    | some token =>
      obtain ⟨below, tokenKind⟩ := below.of_terminal? decimal
      refine .of_written .integerLiteral below
        (fun blank _ => .decimal tokenKind (text_blank blank)) ?_
      simp only [literal, boolean, integer, decimal]
    | none =>
      refine .unsupported inner below (.integerForm rfl innerKind decimal) ?_
      simp only [literal, boolean, integer, decimal]
  | none =>
  cases null : node.terminal? .nullLiteral with
  | some token =>
    refine .kept (.ofCode .kwNull) ?_
    simp [literal, boolean, integer, hasTerminal, null]
  | none =>
  cases float : node.rule? .floatLiteral with
  | some inner =>
    obtain ⟨below, innerKind⟩ := Contains.root.of_rule? float
    refine .of_written .floatingLiteral below (fun blank _ => .float innerKind blank) ?_
    simp [literal, boolean, integer, hasTerminal, null, float]
  | none =>
  cases string : node.terminal? .stringLiteral with
  | some token =>
    obtain ⟨below, tokenKind⟩ := Contains.root.of_terminal? string
    have read : node.literal = liftM token.stringLiteral := by
      simp [literal, boolean, integer, hasTerminal, null, float, string]
    unfold stringLiteral at read
    split at read
    · exact .kept _ read
    · next unenclosed =>
      exact .unreadable token below
        (fun _ => .string tokenKind (unquoted?_eq_none_iff.1 unenclosed)) read
  | none =>
  cases first : node.firstTerminal? with
  | some token =>
    refine .unsupported node .root (.literalForm rfl kind ?_ boolean integer null float string) ?_
    · rw [first, Option.isSome_some]
    · simp [literal, boolean, integer, hasTerminal, null, float, string, first]
  | none =>
    refine .unreadable node .root (fun _ => .empty kind first integer float) ?_
    simp [literal, boolean, integer, hasTerminal, null, float, string, first]

end Node

end JavaProjection
