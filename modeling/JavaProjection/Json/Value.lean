/-!
# JSON values

A value keeps everything that decides whether a reader accepts it: the order of the members of an
object and their repetitions, numbers that are not natural numbers, and string literals that
spell half of a surrogate pair and so denote no text.
-/

set_option autoImplicit false

namespace JavaProjection

namespace Json

/-- What a string literal denotes. A literal with an unpaired surrogate denotes no text. -/
abbrev Text := Option String

/-- A value that is no container. A natural number is one written with digits only; every other
number is kept as it is written. -/
inductive Scalar where
  | null
  | bool (value : Bool)
  | nat (value : Nat)
  | number (written : String)
  | string (text : Text)
  deriving DecidableEq

end Json

inductive Json where
  | scalar (value : Json.Scalar)
  | array (elements : List Json)
  | object (members : List (Json.Text × Json))

namespace Json

@[match_pattern]
def null : Json :=
  .scalar .null

@[match_pattern]
def bool (value : Bool) : Json :=
  .scalar (.bool value)

@[match_pattern]
def nat (value : Nat) : Json :=
  .scalar (.nat value)

@[match_pattern]
def text (content : String) : Json :=
  .scalar (.string (some content))

def record (members : List (String × Json)) : Json :=
  .object (members.map fun (key, value) => (some key, value))

def orNull : Option Json → Json
  | some value => value
  | none => null

mutual

/-- The number of values on the longest way down; a scalar has height one. -/
def height : Json → Nat
  | .scalar _ => 1
  | .array elements => 1 + heightAll elements
  | .object members => 1 + heightMembers members

def heightAll : List Json → Nat
  | [] => 0
  | value :: rest => max value.height (heightAll rest)

def heightMembers : List (Text × Json) → Nat
  | [] => 0
  | (_, value) :: rest => max value.height (heightMembers rest)

end

mutual

/-- The number of values at and below the value. Keys do not count. -/
def size : Json → Nat
  | .scalar _ => 1
  | .array elements => 1 + sizeAll elements
  | .object members => 1 + sizeMembers members

def sizeAll : List Json → Nat
  | [] => 0
  | value :: rest => value.size + sizeAll rest

def sizeMembers : List (Text × Json) → Nat
  | [] => 0
  | (_, value) :: rest => value.size + sizeMembers rest

end

end Json

end JavaProjection
