import JavaProjection.Projection.Types
import JavaProjection.Proofs.Trees

/-!
# Canonical trees of types

The tree that the grammar gives a type, and the theorem that projecting it gives the type back.
The tokens of canonical trees come from a table that spells each code by one terminal; reading a
code inverts the table.
-/

set_option autoImplicit false

namespace JavaProjection

open Projection Node

/-! ## Trees -/

/-- The terminal that spells the code. The two truth values share one, and only its text tells
them apart. -/
def Code.terminal : Code → Terminal
  | .plus => .add
  | .minus => .sub
  | .star => .mul
  | .slash => .div
  | .percent => .mod
  | .assign => .assign
  | .plusAssign => .addAssign
  | .minusAssign => .subAssign
  | .starAssign => .mulAssign
  | .slashAssign => .divAssign
  | .ampersandAssign => .andAssign
  | .verticalAssign => .orAssign
  | .caretAssign => .xorAssign
  | .leftShiftAssign => .leftShiftAssign
  | .equal => .equal
  | .nonEqual => .notEqual
  | .greater => .greater
  | .less => .less
  | .greaterEqual => .greaterEqual
  | .lessEqual => .lessEqual
  | .doubleVertical => .or
  | .doubleAmpersand => .and
  | .vertical => .bitOr
  | .ampersand => .bitAnd
  | .caret => .caret
  | .negation => .bang
  | .tilde => .tilde
  | .plusPlus => .inc
  | .minusMinus => .dec
  | .question => .question
  | .dot => .dot
  | .kwInstanceof => .kwInstanceof
  | .kwPublic => .kwPublic
  | .kwPrivate => .kwPrivate
  | .kwProtected => .kwProtected
  | .kwStatic => .kwStatic
  | .kwAbstract => .kwAbstract
  | .kwFinal => .kwFinal
  | .kwStrictfp => .kwStrictfp
  | .kwBoolean => .kwBoolean
  | .kwChar => .kwChar
  | .kwByte => .kwByte
  | .kwShort => .kwShort
  | .kwInt => .kwInt
  | .kwLong => .kwLong
  | .kwFloat => .kwFloat
  | .kwDouble => .kwDouble
  | .kwThis => .kwThis
  | .kwSuper => .kwSuper
  | .kwVar => .kwVar
  | .kwBreak => .kwBreak
  | .kwContinue => .kwContinue
  | .kwTrue => .boolLiteral
  | .kwFalse => .boolLiteral
  | .kwNull => .nullLiteral
  | .identifier => .identifier
  | .integerLiteral => .decimalLiteral
  | .floatingLiteral => .floatLiteral
  | .stringLiteral => .stringLiteral

/-- Reading the code of a terminal inverts the spelling of codes. -/
theorem Code.ofTerminal?_eq_some_iff {terminal : Terminal} {code : Code} :
    ofTerminal? terminal = some code ↔ code.terminal = terminal ∧ terminal ≠ .boolLiteral := by
  constructor
  · intro coded
    cases terminal <;> cases coded <;> decide
  · rintro ⟨rfl, told⟩
    cases code <;> first | rfl | exact absurd rfl told

def Code.token (code : Code) : Node :=
  leaf code.terminal code.symbol

@[simp] theorem Code.kind_token (code : Code) : code.token.kind = .terminal code.terminal :=
  rfl

@[simp] theorem Code.isRule_token (code : Code) (wanted : Rule) :
    code.token.isRule wanted = false :=
  isRule_leaf ..

@[simp] theorem Code.isTerminal_token (code : Code) (sought : Terminal) :
    code.token.isTerminal sought = decide (code.terminal = sought) :=
  isTerminal_leaf ..

def bracketPairs (dims : Nat) : List Node :=
  (List.replicate dims [leaf .leftBracket "[", leaf .rightBracket "]"]).flatten

def pointed (arguments : List Node) : Node :=
  branch .typeArguments (leaf .less "<" :: (listed arguments ++ [leaf .greater ">"]))

mutual

def TypeRef.tree : TypeRef → Node
  | .primitive code dims =>
    branch .typePrimitiveType (branch .primitiveType [code.token] :: bracketPairs dims)
  | .named name none dims =>
    branch .typeClassOrInterfaceType
      (branch .classOrInterfaceType (dotted (name.toList.map named)) :: bracketPairs dims)
  | .named name (some arguments) dims =>
    branch .typeClassOrInterfaceType
      (branch .classOrInterfaceType
        (dotted (name.toList.map named) ++ [pointed (TypeArgument.treeAll arguments)]) ::
          bracketPairs dims)

def TypeArgument.tree : TypeArgument → Node
  | .type value => branch .typeArgument [value.tree]
  | .wildcard none => branch .typeArgument [leaf .question "?"]
  | .wildcard (some (.upper bound)) =>
    branch .typeArgument [leaf .question "?", leaf .kwExtends "extends", bound.tree]
  | .wildcard (some (.lower bound)) =>
    branch .typeArgument [leaf .question "?", leaf .kwSuper "super", bound.tree]

def TypeArgument.treeAll : List TypeArgument → List Node
  | [] => []
  | argument :: rest => argument.tree :: TypeArgument.treeAll rest

end

mutual

/-- Only codes of primitive types stand where the type has a primitive one. -/
def TypeRef.Canonical : TypeRef → Prop
  | .primitive code _ => code.isPrimitive = true
  | .named _ none _ => True
  | .named _ (some arguments) _ => TypeArgument.CanonicalAll arguments

def TypeArgument.Canonical : TypeArgument → Prop
  | .type value => value.Canonical
  | .wildcard none => True
  | .wildcard (some (.upper bound)) => bound.Canonical
  | .wildcard (some (.lower bound)) => bound.Canonical

def TypeArgument.CanonicalAll : List TypeArgument → Prop
  | [] => True
  | argument :: rest => argument.Canonical ∧ TypeArgument.CanonicalAll rest

end

/-! ## Parts of trees of types -/

@[simp] theorem isRule_pointed (arguments : List Node) (wanted : Rule) :
    (pointed arguments).isRule wanted = decide (Rule.typeArguments = wanted) :=
  isRule_branch ..

@[simp] theorem TypeRef.label_tree (type : TypeRef) : type.tree.label = none := by
  rcases type with _ | ⟨_, _ | _, _⟩ <;> rfl

@[simp] theorem TypeRef.isType_tree (type : TypeRef) :
    type.tree.kind.rule?.any Rule.isType = true := by
  rcases type with _ | ⟨_, _ | _, _⟩ <;> rfl

@[simp] theorem TypeRef.isTerminal_tree (type : TypeRef) (terminal : Terminal) :
    type.tree.isTerminal terminal = false := by
  rcases type with _ | ⟨_, _ | _, _⟩ <;> simp [tree]

/-- The tree of a type is never taken for something else that is looked for among its siblings. -/
theorem TypeRef.isRule_tree (type : TypeRef) {wanted : Rule} (other : wanted.isType = false) :
    type.tree.isRule wanted = false := by
  rw [← Bool.not_eq_true]
  intro same
  have isType := type.isType_tree
  rw [eq_of_beq same, Kind.rule?_rule, Option.any_some, other] at isType
  cases isType

@[simp] theorem TypeArgument.isRule_tree (argument : TypeArgument) :
    argument.tree.isRule .typeArgument = true := by
  rcases argument with _ | _ | _ | _ <;> simp [tree]

theorem TypeArgument.rules_treeAll (arguments : List TypeArgument) :
    (treeAll arguments).filter (fun child => child.isRule .typeArgument) = treeAll arguments := by
  induction arguments with
  | nil => rfl
  | cons argument rest ih => simp [treeAll, ih]

theorem countTerminal_bracketPairs (rule part : Rule) (children : List Node) (dims : Nat) :
    (branch rule (branch part children :: bracketPairs dims)).countTerminal .leftBracket =
      dims := by
  simp [countTerminal, terminals, bracketPairs]

@[simp] theorem identifierText_named (name : String) : (named name).identifierText = name :=
  rfl

theorem dottedName_dotted (rule : Rule) (name : DottedName) {others : List Node}
    (unnamed : others.filter (fun child => child.isRule .identifier) = []) :
    (branch rule (dotted (name.toList.map named) ++ others)).dottedName = pure name := by
  have names : ((branch rule (dotted (name.toList.map named) ++ others)).rules .identifier).map
      identifierText = name.toList := by
    rw [rules_branch, List.filter_append, dotted, filter_intersperse (isRule_leaf ..), unnamed,
      List.append_nil, List.filter_eq_self.2]
    · simp [Function.comp_def]
    · simp
  rw [dottedName, names, DottedName.ofList?_toList]

theorem dottedName_plain (rule : Rule) (name : DottedName) :
    (branch rule (dotted (name.toList.map named))).dottedName = pure name := by
  have spelled := dottedName_dotted rule name List.filter_nil
  rw [List.append_nil] at spelled
  exact spelled

theorem filter_dotted {wanted : Rule} (other : Rule.identifier ≠ wanted) (names : List String) :
    (dotted (names.map named)).filter (fun child => child.isRule wanted) = [] := by
  rw [dotted, filter_intersperse (isRule_leaf ..)]
  simp [other]

theorem find?_dotted {wanted : Rule} (other : Rule.identifier ≠ wanted) (names : List String) :
    (dotted (names.map named)).find? (fun child => child.isRule wanted) = none := by
  rw [← List.head?_filter, filter_dotted other, List.head?_nil]

/-! ## Projection of the trees -/

theorem Code.primitiveOf?_terminal {code : Code} (primitive : code.isPrimitive = true) :
    primitiveOf? code.terminal = some code := by
  have told : code.terminal ≠ .boolLiteral := by
    revert primitive
    cases code <;> decide
  rw [primitiveOf?, ofTerminal?_eq_some_iff.2 ⟨rfl, told⟩, Option.filter_some_pos primitive]

theorem primitiveType_tree {code : Code} (primitive : code.isPrimitive = true) (dims : Nat) :
    (branch .primitiveType [code.token]).primitiveType dims = pure (.primitive code dims) := by
  unfold primitiveType
  simp [Code.primitiveOf?_terminal primitive]

theorem namedType_plain (name : DottedName) (dims : Nat) :
    (branch .classOrInterfaceType (dotted (name.toList.map named))).namedType dims =
      pure (.named name none dims) := by
  rw [namedType, dottedName_plain]
  simp [filter_dotted, ifPresent]

theorem typeArguments_pointed {arguments : List TypeArgument}
    (given : inOrder ((TypeArgument.treeAll arguments).map Node.typeArgument) =
      (pure arguments : Except Failure _)) :
    (pointed (TypeArgument.treeAll arguments)).typeArguments = pure arguments := by
  rw [pointed, typeArguments]
  simp [listed, filter_intersperse, TypeArgument.rules_treeAll, given]

theorem namedType_generic {arguments : List TypeArgument} (name : DottedName) (dims : Nat)
    (given : inOrder ((TypeArgument.treeAll arguments).map Node.typeArgument) =
      (pure arguments : Except Failure _)) :
    (branch .classOrInterfaceType
      (dotted (name.toList.map named) ++ [pointed (TypeArgument.treeAll arguments)])).namedType
        dims = pure (.named name (some arguments) dims) := by
  rw [namedType, dottedName_dotted _ _ (by simp)]
  simp [filter_dotted, ifPresent, typeArguments_pointed given]

mutual

theorem TypeRef.typeRef_tree : ∀ type : TypeRef, type.Canonical → type.tree.typeRef = pure type
  | .primitive code dims, canonical => by
    rw [TypeRef.tree, typeRef]
    simp [countTerminal_bracketPairs, primitiveType_tree canonical]
  | .named name none dims, _ => by
    rw [TypeRef.tree, typeRef]
    simp [countTerminal_bracketPairs, namedType_plain]
  | .named name (some arguments) dims, canonical => by
    have given := TypeArgument.typeArguments_treeAll arguments canonical
    rw [TypeRef.tree, typeRef]
    simp [countTerminal_bracketPairs, namedType_generic name dims given]

theorem TypeArgument.typeArgument_tree : ∀ argument : TypeArgument, argument.Canonical →
    argument.tree.typeArgument = pure argument
  | .type value, canonical => by
    rw [TypeArgument.tree, typeArgument]
    simp [ifPresent, TypeRef.typeRef_tree value canonical]
  | .wildcard none, _ => by
    rw [TypeArgument.tree, typeArgument]
    simp [ifPresent]
  | .wildcard (some (.upper bound)), canonical => by
    rw [TypeArgument.tree, typeArgument]
    simp [ifPresent, TypeRef.typeRef_tree bound canonical]
  | .wildcard (some (.lower bound)), canonical => by
    rw [TypeArgument.tree, typeArgument]
    simp [ifPresent, TypeRef.typeRef_tree bound canonical]

theorem TypeArgument.typeArguments_treeAll : ∀ arguments : List TypeArgument,
    TypeArgument.CanonicalAll arguments →
    inOrder ((TypeArgument.treeAll arguments).map Node.typeArgument) =
      (pure arguments : Except Failure _)
  | [], _ => rfl
  | argument :: rest, canonical => by
    rw [TypeArgument.treeAll, List.map_cons, inOrder,
      TypeArgument.typeArgument_tree argument canonical.1,
      TypeArgument.typeArguments_treeAll rest canonical.2]
    simp

end

end JavaProjection
