import JavaProjection.Json.Text

/-!
# Reading values of a type

A reader of a type takes a JSON value and the room that is left for containers. Each array or
object that it opens takes one place of the room, and with none left it is refused. A member
under a key that a record does not know is not opened, whatever it holds.
-/

set_option autoImplicit false

namespace JavaProjection

namespace Json

/-- How many containers a reader of a text may open inside each other. -/
def nestingLimit : Nat := 127

/-- The least number that is too large to be read. -/
def natLimit : Nat := UInt64.size

/-! ## Scalars -/

def text? : Json → Option String
  | text content => some content
  | _ => none

def bool? : Json → Option Bool
  | bool value => some value
  | _ => none

def nat? : Json → Option Nat
  | nat value => if value < natLimit then some value else none
  | _ => none

/-- A bare word: a string, or an object with the word as its only key over null. -/
def word? : Nat → Json → Option String
  | _, text word => some word
  | _ + 1, .object [(some word, null)] => some word
  | _, _ => none

/-! ## Records -/

/-- The value under a key, if there is one. A key that occurs twice is refused. -/
def lookup? (members : List (Text × Json)) (key : String) : Option (Option Json) :=
  match members.filter fun member => member.1 == some key with
  | [] => some none
  | [(_, value)] => some (some value)
  | _ => none

/-- The values of a record with the given keys, in their order. A record is an object, where any
member may be missing, or an array of the values, of which the first `least` must be there. -/
def record? (keys : List String) (least : Nat) : Json → Option (List (Option Json))
  | .object members =>
    if members.all fun member => member.1.isSome then keys.mapM (lookup? members) else none
  | .array elements =>
    if least ≤ elements.length ∧ elements.length ≤ keys.length then
      some (elements.map some ++ List.replicate (keys.length - elements.length) none)
    else none
  | _ => none

section Members

variable {α : Type}

def required (read : Json → Option α) (member : Option Json) : Option α :=
  member.bind read

def optional (read : Json → Option α) : Option Json → Option (Option α)
  | none => some none
  | some null => some none
  | some value => (read value).map some

def withDefault (standard : α) (read : Json → Option α) : Option Json → Option α
  | none => some standard
  | some value => read value

def nullable (read : Json → Option α) : Json → Option (Option α)
  | null => some none
  | value => (read value).map some

/-- The elements of an array, each read with the room that is left inside it. -/
def elements? (read : Json → Option α) : Json → Option (List α)
  | .array elements => elements.mapM read
  | _ => none

def readAs? (ofJson? : Nat → Json → Option α) (text : String) : Option α :=
  (read? text).bind (ofJson? nestingLimit)

end Members

end Json

end JavaProjection
