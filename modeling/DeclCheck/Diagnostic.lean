/-
# DeclCheck.Diagnostic — what the checks report.

A `Problem` says what is wrong, with the parts that its message names; the wording is in
`Problem.message` alone.  Each problem breaks one `Rule`, and a rule has a code, a title and
advice.  A `Diagnostic` is a problem at a place.
-/
import DeclCheck.Tree.Span
import DeclCheck.Tree.TypeExpr
import DeclCheck.Tree.Target
import DeclCheck.Text.Blank

namespace DeclCheck

/-- How much a diagnostic matters. -/
inductive Severity where
  | error
  | warning
  | information
deriving DecidableEq, Inhabited

/-- The word for it in a report. -/
def Severity.label : Severity → String
  | .error => "error"
  | .warning => "warning"
  | .information => "info"

/-! ## Rules -/

/-- The rules that declarations are checked by. -/
inductive Rule where
  | duplicateClass
  | annotationsUnsupported
  | notAnnotationType
  | targetMismatch
  | duplicateUse
  | containerConflict
  | missingOverride
  | memberParameters
  | memberThrows
  | memberType
  | circularDefault
deriving DecidableEq, Inhabited

namespace Rule

/-- Every rule, in order of codes. -/
def all : List Rule :=
  [.duplicateClass, .annotationsUnsupported, .notAnnotationType, .targetMismatch, .duplicateUse,
    .containerConflict, .missingOverride, .memberParameters, .memberThrows, .memberType,
    .circularDefault]

/-- The code that a rule is known by outside. -/
def code : Rule → String
  | .duplicateClass => "JVV1001"
  | .annotationsUnsupported => "JVV2000"
  | .notAnnotationType => "JVV2001"
  | .targetMismatch => "JVV2002"
  | .duplicateUse => "JVV2003"
  | .containerConflict => "JVV2004"
  | .missingOverride => "JVV3001"
  | .memberParameters => "JVV4001"
  | .memberThrows => "JVV4002"
  | .memberType => "JVV4003"
  | .circularDefault => "JVV4004"

/-- The one-line summary of a rule. -/
def title : Rule → String
  | .duplicateClass => "Duplicate class definition"
  | .annotationsUnsupported => "Annotations not supported by the target release"
  | .notAnnotationType => "Type used as annotation is not an annotation"
  | .targetMismatch => "Annotation not allowed on this element"
  | .duplicateUse => "Duplicate annotation"
  | .containerConflict => "Explicit container conflicts with implicit container"
  | .missingOverride => "Method does not override"
  | .memberParameters => "Annotation member with parameters"
  | .memberThrows => "Annotation member with throws clause"
  | .memberType => "Invalid annotation member type"
  | .circularDefault => "Circular annotation reference"

/-- What to do about a breach. -/
def help : Rule → String
  | .duplicateClass =>
    "Two declarations in this compilation share a fully-qualified name. Rename one of them; " ++
    "when a script and a class collide, rename the script file or the class."
  | .annotationsUnsupported =>
    "Annotations require a target release of Java 5 or newer. Raise `target_release` in " ++
    "verity.toml."
  | .notAnnotationType => "Only `@interface` declarations can be applied as annotations."
  | .targetMismatch =>
    "The annotation's @Target does not include this kind of declaration. Move the annotation or " ++
    "widen its @Target."
  | .duplicateUse =>
    "The annotation is not @Repeatable. Remove the duplicates or declare a container with " ++
    "@Repeatable."
  | .containerConflict =>
    "Repeated annotations are collected into their container automatically. Remove the explicit " ++
    "container or the repeated annotations."
  | .missingOverride =>
    "No superclass or interface declares a method with the same parameter types. Fix the " ++
    "signature or remove @Override."
  | .memberParameters => "Annotation members are declared without parameters."
  | .memberThrows => "Annotation members cannot declare thrown exceptions."
  | .memberType =>
    "Annotation members must return a primitive, String, Class, an enum, an annotation, or a " ++
    "one-dimensional array of these."
  | .circularDefault =>
    "An annotation member refers back to its own annotation kind, directly or through other " ++
    "annotations."

/-- How bad a breach is.  Every rule so far is one that must not be broken. -/
def severity : Rule → Severity
  | _ => .error

/-- The rule with the given code. -/
def ofCode? (code : String) : Option Rule :=
  all.find? (·.code = code)

/-- The rule's code, severity, title and advice, as lines of text. -/
def explanation (rule : Rule) : String :=
  rule.code ++ " (" ++ rule.severity.label ++ "): " ++ rule.title ++ "\n\n" ++ rule.help ++ "\n"

end Rule

/-- A code that no rule has. -/
structure UnknownCode where
  code : String
deriving DecidableEq

/-- The answer to a code that no rule has. -/
def UnknownCode.message (unknown : UnknownCode) : String :=
  "Unknown diagnostic code '" ++ unknown.code ++ "'"

/-- The explanation of a code, which may be written in lower case and with blanks around it. -/
def explain (code : String) : Except UnknownCode String :=
  match Rule.ofCode? (String.ofList ((trimChars code.toList).map Char.toUpper)) with
  | some rule => .ok rule.explanation
  | none => .error ⟨code⟩

/-! ## Problems -/

/-- What is wrong, with everything that its message names. -/
inductive Problem where
  /-- A class of this name was declared before; `script` if either comes from a script body. -/
  | duplicateClass (name unit earlierUnit : String) (script : Bool)
  | annotationsUnsupported (release minimum : Nat)
  | notAnnotationType (kind : String)
  | targetMismatch (kind : String) (target : Target)
  | duplicateUse (kind : String)
  | containerConflict (container kind : String)
  | missingOverride (method className : String)
  | memberParameters
  | memberThrows
  | memberType (type : TypeExpr) (member annotationType : String)
  | circularDefault (culprit : String)
deriving DecidableEq

namespace Problem

/-- The rule that a problem breaks. -/
def rule : Problem → Rule
  | .duplicateClass .. => .duplicateClass
  | .annotationsUnsupported .. => .annotationsUnsupported
  | .notAnnotationType .. => .notAnnotationType
  | .targetMismatch .. => .targetMismatch
  | .duplicateUse .. => .duplicateUse
  | .containerConflict .. => .containerConflict
  | .missingOverride .. => .missingOverride
  | .memberParameters => .memberParameters
  | .memberThrows => .memberThrows
  | .memberType .. => .memberType
  | .circularDefault .. => .circularDefault

/-- The text of a problem. -/
def message : Problem → String
  | .duplicateClass name unit earlierUnit script =>
    "Invalid duplicate class definition of class " ++ name ++ " : " ++
      if unit = earlierUnit then
        "The source " ++ unit ++ " contains at least two definitions of the class " ++
          name ++ "." ++
          if script then
            " One of the classes is an explicit generated class using the class statement, the " ++
            "other is a class generated from the script body based on the file name. Solutions " ++
            "are to change the file name or to change the class name."
          else ""
      else
        "The sources " ++ unit ++ " and " ++ earlierUnit ++
          " each contain a class with the name " ++ name ++ "."
  | .annotationsUnsupported release minimum =>
    "Annotations are not supported by target release " ++ toString release ++ "; release " ++
      toString minimum ++ " or newer is required."
  | .notAnnotationType kind => kind ++ " is not an annotation type"
  | .targetMismatch kind target =>
    "Annotation @" ++ kind ++ " is not allowed on element " ++ target.constantName
  | .duplicateUse kind => "Cannot specify duplicate annotation on the same member : " ++ kind
  | .containerConflict container kind =>
    "Cannot specify duplicate annotation on the same member. Explicit " ++ container ++
      " found when creating implicit container for " ++ kind
  | .missingOverride method className =>
    "Method '" ++ method ++ "' from class '" ++ className ++
      "' does not override method from its superclass or interfaces but is annotated with " ++
      "@Override."
  | .memberParameters => "Annotation members may not have parameters."
  | .memberThrows => "Annotation members may not have a throws clause."
  | .memberType type member annotationType =>
    "Invalid type '" ++ type.text ++ "' for annotation member '" ++ member ++ "' of annotation " ++
      annotationType
  | .circularDefault culprit => "Circular reference discovered in " ++ culprit

end Problem

/-! ## Diagnostics -/

/-- One report: what is wrong, and where. -/
structure Diagnostic where
  problem : Problem
  span : Span
  /-- The source unit, where it is known. -/
  unit : Option String := none
deriving DecidableEq

namespace Diagnostic

/-- The rule that is broken. -/
def rule (diagnostic : Diagnostic) : Rule :=
  diagnostic.problem.rule

/-- How much the report matters, which its rule decides. -/
def severity (diagnostic : Diagnostic) : Severity :=
  diagnostic.rule.severity

/-- The text of the report, without place and code. -/
def message (diagnostic : Diagnostic) : String :=
  diagnostic.problem.message

/-- Whether the report makes a run fail. -/
def isError (diagnostic : Diagnostic) : Bool :=
  diagnostic.severity = .error

/-- One line: the place as far as it is known, severity, code and message. -/
def text (diagnostic : Diagnostic) : String :=
  let place :=
    match diagnostic.unit with
    | some unit =>
      unit ++ (if diagnostic.span.isNowhere then "" else ":" ++ diagnostic.span.text) ++ ": "
    | none => ""
  place ++ diagnostic.severity.label ++ " [" ++ diagnostic.rule.code ++ "]: " ++ diagnostic.message

end Diagnostic

end DeclCheck
