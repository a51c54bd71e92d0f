import Stencil.Expr.Token
import Stencil.Located

/-!
# What can be wrong with an expression

Faults of the scanner and of the grammar, and their wording.
-/

namespace Stencil.Expr

/-- What can be wrong with the text of an expression. -/
inductive Fault where
  | emptyDirective
  | badHexLiteral
  | wordAfterNumber
  | openString
  | badUnicodeEscape
  | assignment
  | statement
  | brace
  | backquote
  | strayChar (c : Char)
  | unexpected (found : Token)
  | expected (symbol : Symbol) (found : Token)
  | propertyExpected (found : Token)
  | reservedWord (word : String)
  | unknownDirective (name : String)
  | tooDeep
  deriving DecidableEq

/-- The wording of a fault. -/
def Fault.message : Fault → String
  | emptyDirective => "Expected a name after '@'"
  | badHexLiteral => "Invalid hexadecimal literal"
  | wordAfterNumber => "Identifier directly after number"
  | openString => "Unterminated string literal"
  | badUnicodeEscape => "Invalid unicode escape"
  | assignment => "Assignment is not allowed in expressions"
  | statement => "Statements are not allowed in expressions"
  | brace => "Object literals and blocks are not allowed in expressions"
  | backquote => "Template literals are not allowed in expressions"
  | strayChar c => "Unexpected character '" ++ String.ofList [c] ++ "'"
  | unexpected found => "Unexpected " ++ found.describe
  | expected symbol found => "Expected '" ++ symbol.text ++ "' but found " ++ found.describe
  | propertyExpected found => "Expected property name but found " ++ found.describe
  | reservedWord word => "Unexpected reserved word '" ++ word ++ "'"
  | unknownDirective name => "Unknown directive '@" ++ name ++ "'"
  | tooDeep => "Expression nested too deeply"

end Stencil.Expr
