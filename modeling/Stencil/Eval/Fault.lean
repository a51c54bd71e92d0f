import Stencil.Json.Reading

/-!
# Faults of evaluation

What can go wrong while an expression is evaluated, and its wording.
-/

namespace Stencil

/-- What can go wrong in an evaluation. -/
inductive EvalFault where
  | notFunction (callee : String)
  | notConstructor (target : String)
  | classCall
  | memberOfNothing (receiver name : String)
  | badInstanceofTarget (target : Option String)
  | badInTarget (key target : String)
  | nothingToEnumerate
  | badRepeatCount (count : Binary64)
  | stringTooLong
  | badArrayLength
  | badFixedDigits
  | badRadix
  | malformedUri
  | badJson (error : Json.ReadError) (source : String)
  | badUrl (input : String)
  | badDate

/-- What an evaluation gives. -/
abbrev Outcome (α : Type) :=
  Except EvalFault α

/-- The wording of a fault. -/
def EvalFault.message : EvalFault → String
  | notFunction callee => callee ++ " is not a function"
  | notConstructor target => target ++ " is not a constructor"
  | classCall => "Class constructor URL cannot be invoked without 'new'"
  | memberOfNothing receiver name =>
      "Cannot read properties of " ++ receiver ++ " (reading '" ++ name ++ "')"
  | badInstanceofTarget none => "Right-hand side of 'instanceof' is not callable"
  | badInstanceofTarget (some target) =>
      "Right-hand side of 'instanceof' is not callable: " ++ target
  | badInTarget key target =>
      "Cannot use 'in' operator to search for '" ++ key ++ "' in " ++ target
  | nothingToEnumerate => "Cannot convert undefined or null to object"
  | badRepeatCount count => "RangeError: Invalid count value: " ++ count.toText
  | stringTooLong => "RangeError: Invalid string length"
  | badArrayLength => "RangeError: Invalid array length"
  | badFixedDigits => "RangeError: toFixed() digits argument must be between 0 and 100"
  | badRadix => "RangeError: toString() radix must be between 2 and 36"
  | malformedUri => "URIError: URI malformed"
  | badJson error source => "JSON.parse: " ++ error.message source
  | badUrl input => "Invalid URL: " ++ input
  | badDate => "Invalid Date"

end Stencil
