/-
# DeclCheck.Text.Qualified — dotted names.

A qualified name is split at its last dot: `java.lang.Object` is the simple name `Object` in the
package `java.lang`.  A name without a dot is its own simple name and has no package.
-/

namespace DeclCheck

/-- The characters after the last dot. -/
def simpleChars (name : List Char) : List Char :=
  (name.reverse.takeWhile (· ≠ '.')).reverse

/-- The part of a qualified name after its last dot. -/
def simpleName (name : String) : String :=
  String.ofList (simpleChars name.toList)

/-- The part of a qualified name before its last dot. -/
def packageName? (name : String) : Option String :=
  match name.toList.reverse.dropWhile (· ≠ '.') with
  | [] => none
  | _ :: before => some (String.ofList before.reverse)

end DeclCheck
