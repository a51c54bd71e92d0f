import Stencil.Text.Utf8

/-!
# Arguments of a command line

An argument is a raw text, and it is an option or an operand.  Options have a name, written behind
two dashes, and possibly a letter, written behind one; letters can be joined.  The value of an
option is the next argument, or it follows an equals sign or the letter.  Two dashes alone make
operands of all arguments after them.
-/

namespace Stencil.Command

/-- What an option does. -/
inductive SwitchKind where
  | flag
  | value
  | help
  | version
  deriving DecidableEq

/-- An option. -/
structure Switch where
  name : String
  letter : Option Char
  kind : SwitchKind

/-- What ends the reading of arguments before it leads to a command. -/
inductive Stop where
  | misused
  | help
  | version
  deriving DecidableEq

/-- The options that were given, with their values, and the operands in order. -/
structure Arguments where
  options : List (String × RawText)
  operands : List RawText

/-- Arguments after some of which a value has to follow. -/
structure Reading where
  arguments : Arguments
  /-- The option whose value comes next. -/
  awaiting : Option Switch

namespace Arguments

/-- No arguments. -/
def none : Arguments :=
  ⟨[], []⟩

/-- Whether an option was given. -/
def has (arguments : Arguments) (name : String) : Bool :=
  (arguments.options.lookup name).isSome

/-- The arguments with an option, which is given at most once and never with an empty value. -/
def give (arguments : Arguments) (switch : Switch) (value : RawText) : Except Stop Arguments :=
  match switch.kind with
  | .help => .error .help
  | .version => .error .version
  | kind =>
      if arguments.has switch.name || (kind = .value && value = "") then .error .misused
      else .ok { arguments with options := arguments.options ++ [(switch.name, value)] }

/-- Gives an option without its value, which has to come next if there is one. -/
def giveBare (arguments : Arguments) (switch : Switch) : Except Stop Reading :=
  match switch.kind with
  | .value => .ok ⟨arguments, some switch⟩
  | _ => do return ⟨← arguments.give switch "", .none⟩

end Arguments

/-! ## Options -/

/-- The byte in front of a letter of an option, and twice in front of its name. -/
def dash : UInt8 :=
  0x2D

/-- The byte between the name of an option and its value. -/
def equalsSign : UInt8 :=
  0x3D

/-- Whether an argument is no operand. -/
def isSwitch (argument : RawText) : Bool :=
  argument.bytes.head? = some dash && argument ≠ "-"

/-- An option that is given by its name, possibly with its value. -/
def readName (switches : List Switch) (arguments : Arguments) (bytes : List UInt8) :
    Except Stop Reading :=
  let name : RawText := ⟨bytes.takeWhile (· ≠ equalsSign)⟩
  match switches.find? (RawText.ofText ·.name = name), bytes.dropWhile (· ≠ equalsSign) with
  | none, _ => .error .misused
  | some switch, _ :: value =>
      if switch.kind = .value then do return ⟨← arguments.give switch ⟨value⟩, none⟩
      else .error .misused
  | some switch, [] => arguments.giveBare switch

/-- Options that are given by their letters, the last one possibly with its value. -/
def readLetters (switches : List Switch) (arguments : Arguments) :
    List UInt8 → Except Stop Reading
  | [] => .ok ⟨arguments, none⟩
  | b :: rest =>
      match switches.find? (·.letter.map String.utf8EncodeChar = some [b]) with
      | none => .error .misused
      | some switch =>
          if switch.kind = .value && !rest.isEmpty then do
            let value := if rest.head? = some equalsSign then rest.drop 1 else rest
            return ⟨← arguments.give switch ⟨value⟩, none⟩
          else do
            let reading ← arguments.giveBare switch
            if reading.awaiting.isSome then return reading
            else readLetters switches reading.arguments rest

/-- The options of an argument that is no operand. -/
def readSwitch (switches : List Switch) (arguments : Arguments) (argument : RawText) :
    Except Stop Reading :=
  let behind := argument.bytes.drop 1
  if behind.head? = some dash then readName switches arguments (behind.drop 1)
  else readLetters switches arguments behind

/-! ## All arguments -/

/-- Reads arguments with at most `limit` operands, none of which may be empty.  After two dashes
alone, `literal` is set. -/
def readArguments (switches : List Switch) (limit : Nat) (literal : Bool) (reading : Reading) :
    List RawText → Except Stop Arguments
  | [] => if reading.awaiting.isSome then .error .misused else .ok reading.arguments
  | argument :: rest =>
      let arguments := reading.arguments
      match reading.awaiting with
      | some switch =>
          if isSwitch argument then .error .misused
          else do
            let arguments ← arguments.give switch argument
            readArguments switches limit literal ⟨arguments, none⟩ rest
      | none =>
          if !literal && argument = "--" then readArguments switches limit true reading rest
          else if !literal && isSwitch argument then do
            readArguments switches limit literal (← readSwitch switches arguments argument) rest
          else if argument = "" || limit ≤ arguments.operands.length then .error .misused
          else
            readArguments switches limit literal
              ⟨{ arguments with operands := arguments.operands ++ [argument] }, none⟩ rest

end Stencil.Command
