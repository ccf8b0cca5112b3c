import JavaProjection.DottedName

/-!
# EO terms

The part of EO that Java names, data and applications are turned into, and its text. A name
without an object in front of it is indented by its depth; data are not indented. A name behind
an object goes to the end of the object's first line, a binding to the end of its last.

Among the nodes of an EO tree, `name` and `dot` are a `Dot` without and with a source, `char` and
`regex` are the data leaves `CharData` and `RegexData`, `binding` is a `BndExpr` and `application` a
`CopyExpr`.

Levels of indentation are machine words. The level of an argument and the number of blanks are
computed in them, so both wrap around.
-/

set_option autoImplicit false

namespace JavaProjection.Eo

def indentWidth : UInt64 := 2

def indentation (level : UInt64) : String :=
  String.ofList (List.replicate (level * indentWidth).toNat ' ')

inductive Term where
  | name (segment : String)
  | dot (source : Term) (segment : String)
  | char (value : Char)
  | regex (pattern : String)
  | binding (body : Term) (label : String)
  | application (target : Term) (arguments : List Term)

namespace Term

def appendToFirstLine (ending : String) (text : String) : String :=
  String.ofList (text.toList.takeWhile (· != '\n') ++ ending.toList
    ++ text.toList.dropWhile (· != '\n'))

mutual

def render (level : UInt64) : Term → String
  | .name segment => indentation level ++ segment
  | .dot source segment => appendToFirstLine ("." ++ segment) (source.render level)
  | .char value => String.ofList ['\'', value, '\'']
  | .regex pattern => pattern
  | .binding body label => body.render level ++ " > " ++ label
  | .application target arguments => target.render level ++ renderArguments (level + 1) arguments

def renderArguments (level : UInt64) : List Term → String
  | [] => ""
  | argument :: rest => "\n" ++ argument.render level ++ renderArguments level rest

end

def spelling (term : Term) : String :=
  term.render 0

/-! ## Dot chains -/

def chain (first : String) (rest : List String) : Term :=
  rest.foldl .dot (.name first)

def chain? : List String → Option Term
  | [] => none
  | first :: rest => some (chain first rest)

def ofDottedName (name : DottedName) : Term :=
  chain name.first name.rest

def splitAtDots : List Char → List Char × List (List Char)
  | [] => ([], [])
  | c :: text =>
    let (first, rest) := splitAtDots text
    if c = '.' then ([], first :: rest) else (c :: first, rest)

def ofPath (path : String) : Term :=
  let (first, rest) := splitAtDots path.toList
  chain (String.ofList first) (rest.map String.ofList)

/-- The name that a term ends in, when the term is a name or a chain. -/
def lastName? : Term → Option String
  | .name segment => some segment
  | .dot _ segment => some segment
  | _ => none

def source? : Term → Option Term
  | .dot source _ => some source
  | _ => none

end Term

end JavaProjection.Eo
