/-
# DeclCheck.Settings — which checks run, and for which release.
-/

namespace DeclCheck

/-- The first release whose class files can hold annotations. -/
def firstAnnotationRelease : UInt32 := 5

/-- What is checked, and for which release. -/
structure CheckSettings where
  /-- The release that the classes are compiled for. -/
  release : UInt32 := 17
  /-- Whether uses are compared with the targets of their types. -/
  targets : Bool := true
  /-- Whether repeated uses are folded. -/
  folding : Bool := true
  /-- Whether methods marked as overriding are compared with inherited ones. -/
  overrides : Bool := true
  /-- Whether the members of annotation definitions are checked. -/
  members : Bool := true
deriving DecidableEq, Inhabited

/-- Whether the release knows annotations at all. -/
def CheckSettings.supportsAnnotations (settings : CheckSettings) : Bool :=
  firstAnnotationRelease ≤ settings.release

/-- Everything that a settings document can set. -/
structure Settings where
  checks : CheckSettings := {}
  /-- How much is logged. -/
  logLevel : String := "warn"
deriving DecidableEq, Inhabited

end DeclCheck
