/-!
# Settings

What a projection does with a literal it cannot keep, and the stack limits a caller asks
for. The limits are checked against each other when settings are made; a projection itself has
no use for them.
-/

set_option autoImplicit false

namespace JavaProjection

/-- What to do with a literal outside the supported forms: put the sentinel in its place and
report it, or fail. -/
inductive LiteralPolicy where
  | sentinel | reject
  deriving DecidableEq

def sentinelText : String :=
  "123456"

structure Settings where
  redZone : Nat
  stackSize : Nat
  literals : LiteralPolicy
  deriving DecidableEq

inductive SettingsError where
  | invalidRedZone (value : Nat)
  | stackTooSmall (redZone stackSize : Nat)
  deriving DecidableEq

def SettingsError.message : SettingsError → String
  | .invalidRedZone value => s!"red_zone must be positive: {value}"
  | .stackTooSmall redZone stackSize =>
    s!"stack_size ({stackSize}) must exceed red_zone ({redZone})"

namespace Settings

def defaultRedZone : Nat :=
  64 * 1024

def defaultStackSize : Nat :=
  8 * 1024 * 1024

def default : Settings :=
  ⟨defaultRedZone, defaultStackSize, .sentinel⟩

/-- Settings with checked limits. A red zone of zero is refused whatever the stack size. -/
def make (redZone stackSize : Nat) (literals : LiteralPolicy) : Except SettingsError Settings :=
  if redZone = 0 then .error (.invalidRedZone redZone)
  else if stackSize ≤ redZone then .error (.stackTooSmall redZone stackSize)
  else .ok ⟨redZone, stackSize, literals⟩

def withLiterals (settings : Settings) (literals : LiteralPolicy) : Settings :=
  { settings with literals }

end Settings

end JavaProjection
