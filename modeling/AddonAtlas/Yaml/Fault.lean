import AddonAtlas.Number.Reading
import AddonAtlas.Text.Quoted
import AddonAtlas.Yaml.Value

/-!
# What can be wrong with a YAML text

Most faults are those of the format, and one case stands for all of them. The others arise where a
scalar names a kind of value that its text does not have.
-/

namespace AddonAtlas.Yaml

open Number

/-- What is wrong with a YAML text. -/
inductive Fault
  /-- The text is not well formed, or has a part that cannot be made into a value. -/
  | malformed
  /-- A whole number cannot be read. -/
  | int (fault : IntFault)
  /-- A floating-point number cannot be read. -/
  | float (text : String)
  /-- A place of a number in base sixty is out of range. -/
  | placeTooLarge
  /-- A number has no digits. -/
  | emptyNumber
  /-- A truth value is unknown. -/
  | bool (text : String)
  /-- A moment cannot be read. -/
  | unreadableMoment
  /-- A moment does not exist. -/
  | moment (fault : MomentFault)
  /-- A mapping stands for a moment. -/
  | mappingForMoment
  /-- A mapping stands for a scalar that it encloses. -/
  | endless
  /-- An escape stands for no character. -/
  | noCharacter
  /-- An escape is out of the range of characters. -/
  | codeTooLarge
  deriving DecidableEq, Repr

/-- The wording of a fault. -/
def Fault.message : Fault → String
  | .malformed => "Failed to parse"
  | .int fault => fault.message
  | .float text => "could not convert string to float: " ++ Text.quoted text
  | .placeTooLarge => "int too large to convert to float"
  | .emptyNumber => "string index out of range"
  | .bool text => Text.quoted text
  | .unreadableMoment => "'NoneType' object has no attribute 'groupdict'"
  | .moment fault => fault.message
  | .mappingForMoment => "expected string or bytes-like object, got 'list'"
  | .endless => "maximum recursion depth exceeded"
  | .noCharacter => "chr() arg not in range(0x110000)"
  | .codeTooLarge => "Python int too large to convert to C int"

/-- The kind of error that a fault is, where the text is well formed. -/
def Fault.kind : Fault → Foreign.Kind
  | .placeTooLarge | .codeTooLarge => .other "OverflowError"
  | .emptyNumber => .other "IndexError"
  | .bool _ => .other "KeyError"
  | .unreadableMoment => .other "AttributeError"
  | .mappingForMoment => .other "TypeError"
  | .endless => .recursion
  | _ => .value

/-- Why a text with a fault has no value. -/
def Fault.failure : Fault → Failure
  | .malformed => .malformed "not a well-formed document"
  | fault => .foreign ⟨fault.kind, fault.message⟩

end AddonAtlas.Yaml
