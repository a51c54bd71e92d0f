import Stencil.Expr.Fault

/-!
# What can be wrong with a template

Faults of tags, of the structure that blocks make, and of the expressions in tags.
-/

namespace Stencil.Template

/-- What can be wrong with the source of a template. -/
inductive Fault where
  | expression (fault : Expr.Fault)
  | badGlobalName (name : String)
  | noCondition
  | badEachForm
  | badLoopVariable (name : String)
  | noCollection
  | unknownDirective (name : String)
  | strayElse
  | strayIfClose
  | strayEachClose
  | openIf
  | openEach
  | elseInEach
  | ifCloseInEach
  | secondElse
  | eachCloseInIf
  deriving DecidableEq

/-- A tag as messages show it. -/
def tagText (inner : String) : String :=
  "\x7b\x7b" ++ inner ++ "\x7d\x7d"

/-- The wording of a fault. -/
def Fault.message : Fault → String
  | expression fault => fault.message
  | badGlobalName name => "Invalid name '" ++ name ++ "' in @globals"
  | noCondition => "#if requires a condition"
  | badEachForm => "#each expects the form '#each item in collection'"
  | badLoopVariable name => "Invalid loop variable '" ++ name ++ "'"
  | noCollection => "#each requires a collection expression"
  | unknownDirective name => "Unknown directive '" ++ name ++ "'"
  | strayElse => tagText "else" ++ " outside of " ++ tagText "#if"
  | strayIfClose => tagText "/if" ++ " without matching " ++ tagText "#if"
  | strayEachClose => tagText "/each" ++ " without matching " ++ tagText "#each"
  | openIf => "Unclosed " ++ tagText "#if"
  | openEach => "Unclosed " ++ tagText "#each"
  | elseInEach => tagText "else" ++ " directly inside " ++ tagText "#each"
  | ifCloseInEach => "Expected " ++ tagText "/each" ++ " but found " ++ tagText "/if"
  | secondElse => "Duplicate " ++ tagText "else" ++ " in " ++ tagText "#if"
  | eachCloseInIf => "Expected " ++ tagText "/if" ++ " but found " ++ tagText "/each"

end Stencil.Template
