/-
# DeclCheck.Platform — the platform classes that every run knows.

Only what the checks refer to: the root class with its methods, and the standard annotation types
with their retentions and targets.  They are entered as compiled classes, so a declaration of the
same name comes before them.
-/
import DeclCheck.Registry.Register

namespace DeclCheck

namespace Platform

/-- The root class. -/
def object : ClassDecl where
  name := objectName
  methods := [
    { name := "equals", params := [{ name := "obj", type := .object }],
      returnType := .primitive "boolean" },
    { name := "hashCode", returnType := .primitive "int" },
    { name := "toString", returnType := .plain "java.lang.String" },
    { name := "clone", returnType := .object },
    { name := "finalize" },
    { name := "getClass",
      returnType := .named "java.lang.Class" [.wildcard .unbounded none] }]

/-- A use of one of the annotation types that describe annotation types. -/
def metaUse (kind : String) (value : Expr) : AnnotationUse where
  kind := kind
  members := [(AnnotationUse.valueMember, value)]
  retention := some .runtime
  targets := none
  span := .nowhere

/-- An annotation type with the given retention and targets. -/
def annotationDecl (name : String) (retention : Retention) (targets : List Target) : ClassDecl where
  name := name
  kind := .annotationType
  annotations := [
    metaUse WellKnown.retentionName
      (.enumConstant "java.lang.annotation.RetentionPolicy" retention.constantName .nowhere),
    metaUse WellKnown.targetName <|
      .list (targets.map fun target =>
        .enumConstant "java.lang.annotation.ElementType" target.constantName .nowhere) .nowhere]

/-- The annotation types that come with the platform, with their retentions and targets. -/
def annotationDecls : List ClassDecl := [
  annotationDecl WellKnown.overrideName .source [.method],
  annotationDecl WellKnown.deprecatedName .runtime
    [.constructor, .field, .localVariable, .method, .package, .parameter, .type],
  annotationDecl "java.lang.SuppressWarnings" .source
    [.type, .field, .method, .parameter, .constructor, .localVariable],
  annotationDecl "java.lang.FunctionalInterface" .runtime [.type],
  annotationDecl "java.lang.SafeVarargs" .runtime [.constructor, .method],
  annotationDecl WellKnown.targetName .runtime [.annotationType],
  annotationDecl WellKnown.retentionName .runtime [.annotationType],
  annotationDecl WellKnown.repeatableName .runtime [.annotationType],
  annotationDecl "java.lang.annotation.Documented" .runtime [.annotationType],
  annotationDecl "java.lang.annotation.Inherited" .runtime [.annotationType]]

/-- Every class that is there before a compilation adds its own. -/
def classes : List ClassDecl :=
  object :: annotationDecls

end Platform

namespace Registry

/-- Enter compiled classes one after another. -/
def addExternals (registry : Registry) (decls : List ClassDecl) : Registry :=
  decls.foldl (fun registry decl => (registry.addExternal decl).1) registry

/-- A registry that knows the platform classes. -/
def withPlatform : Registry :=
  addExternals ∅ Platform.classes

end Registry

end DeclCheck
