import SlideDeck.Diagnostic.Report
import SlideDeck.Scope.Attribute
import SlideDeck.Scope.Constant

/-!
# Why a statement cannot be carried out

Each reason has a sentence of its own, with the names that it is about (`CompileError`).
-/

namespace SlideDeck

inductive CompileError where
  | slideOutsideFile
  | blockOutsideSlide
  | textOutsideBlock
  | undefinedParentSlide (name : String)
  | undefinedParentBlock (name : String)
  | variableRedeclared (name : String)
  | undeclaredAssignment (name : String)
  /-- The variable was declared on the line as one that keeps its value. -/
  | immutableAssignment (name : String) (line : Nat)
  | uninitializedReference (name : String)
  | macroRedeclared (name : String)
  | undefinedMacro (name : String)
  /-- So many replays of macros are in progress already. -/
  | macroDepthExceeded (limit : Nat)
  | unknownAttribute (name : String)
  | misplacedAttribute (a : Attribute)
  | expectedColor (a : Attribute) (got : ConstantKind)
  | unknownColor (name : String)
  | invalidJustification
  | expectedFontName (got : ConstantKind)
  | expectedFontSize (got : ConstantKind)
deriving DecidableEq, Repr

namespace CompileError

def message : CompileError → String
  | slideOutsideFile => "A slide may only be defined at the top level"
  | blockOutsideSlide => "A block may only be defined within a slide"
  | textOutsideBlock => "Text may only be defined within a block"
  | undefinedParentSlide name => "Cannot inherit from an undefined slide '" ++ name ++ "'"
  | undefinedParentBlock name => "Cannot inherit from an undefined block '" ++ name ++ "'"
  | variableRedeclared name => "variable '" ++ name ++ "' already declared in this scope"
  | undeclaredAssignment name => "cannot assign to undeclared variable '" ++ name ++ "'"
  | immutableAssignment name line =>
    "cannot assign to immutable binding '" ++ name ++ "' (declared on line " ++ toString line ++ ")"
  | uninitializedReference name =>
    "variable '" ++ name ++ "' must be initialized before dereference"
  | macroRedeclared name => "macro '" ++ name ++ "' already declared in this scope"
  | undefinedMacro name => "macro '" ++ name ++ "' must be defined before use"
  | macroDepthExceeded limit => "macro expansion exceeded maximum depth of " ++ toString limit
  | unknownAttribute name => "Unrecognized attribute '" ++ name ++ "'"
  | misplacedAttribute a => a.name ++ " attribute is only available for " ++ a.owners
  | expectedColor a got =>
    a.name ++ " attribute must be either a color tuple or a color name, but was " ++ got.name
  | unknownColor name => "Unsupported color '" ++ name ++ "'"
  | invalidJustification => "justify attribute must be either 'left', 'right', or 'center'"
  | expectedFontName got => "font attribute must be a string, but was " ++ got.name
  | expectedFontSize got => "fontSize attribute must be an integer, but was " ++ got.name

instance : Cause CompileError := ⟨.compilation, message⟩

end CompileError

end SlideDeck
