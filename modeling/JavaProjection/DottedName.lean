/-!
# Dotted names

A dotted name is a sequence of segments with at least one member. A segment is any text: it may
be empty or hold dots itself, so two names can have the same spelling.
-/

set_option autoImplicit false

namespace JavaProjection

structure DottedName where
  first : String
  rest : List String
  deriving DecidableEq

namespace DottedName

def single (name : String) : DottedName :=
  ⟨name, []⟩

def ofList? : List String → Option DottedName
  | [] => none
  | first :: rest => some ⟨first, rest⟩

def toList (name : DottedName) : List String :=
  name.first :: name.rest

def spelling (name : DottedName) : String :=
  ".".intercalate name.toList

def emptyMessage : String :=
  "dotted name must have at least one segment"

@[simp] theorem ofList?_toList (name : DottedName) : ofList? name.toList = some name :=
  rfl

end DottedName

end JavaProjection
