/-
# DeclCheck.Tree.TypeExpr — types as written in declarations.

A type expression names a class, perhaps with arguments, a type variable, a primitive type, an
array, a wildcard or no value at all.  `erasure` is the form in which parameter types are compared:
arguments are dropped and a wildcard becomes its upper bound.  Type variables stay; replacing them
is the work of `DeclCheck.Generics.Substitution`.
-/

namespace DeclCheck

/-- The class at the root of every hierarchy. -/
def objectName : String := "java.lang.Object"

/-- The side that a wildcard is bounded on. -/
inductive WildcardKind where
  | unbounded
  | upper
  | lower
deriving DecidableEq, Inhabited

/-- A type as it is written, with the arguments of generic classes. -/
inductive TypeExpr where
  | primitive (name : String)
  | named (name : String) (arguments : List TypeExpr)
  | variable (name : String)
  | array (element : TypeExpr)
  | wildcard (kind : WildcardKind) (bound : Option TypeExpr)
  | void
deriving Inhabited

namespace TypeExpr

/-! ## Decidable equality -/

mutual

/-- Whether two types are written alike, decided part by part. -/
def same : TypeExpr → TypeExpr → Bool
  | .primitive a, .primitive b => a = b
  | .named a as, .named b bs => a = b && sameAll as bs
  | .variable a, .variable b => a = b
  | .array a, .array b => same a b
  | .wildcard k a, .wildcard l b => k = l && sameBound a b
  | .void, .void => true
  | _, _ => false

/-- Whether two lists of types are written alike. -/
def sameAll : List TypeExpr → List TypeExpr → Bool
  | [], [] => true
  | a :: as, b :: bs => same a b && sameAll as bs
  | _, _ => false

/-- Whether two bounds are written alike, or both missing. -/
def sameBound : Option TypeExpr → Option TypeExpr → Bool
  | none, none => true
  | some a, some b => same a b
  | _, _ => false

end

mutual

theorem same_iff : (a b : TypeExpr) → (same a b = true ↔ a = b)
  | .primitive _, b => by cases b <;> simp [same]
  | .named _ as, b => by
    cases b with
    | named _ bs => simp [same, sameAll_iff as bs]
    | _ => simp [same]
  | .variable _, b => by cases b <;> simp [same]
  | .array a, b => by
    cases b with
    | array b => simp [same, same_iff a b]
    | _ => simp [same]
  | .wildcard _ a, b => by
    cases b with
    | wildcard _ b => simp [same, sameBound_iff a b]
    | _ => simp [same]
  | .void, b => by cases b <;> simp [same]

theorem sameAll_iff : (as bs : List TypeExpr) → (sameAll as bs = true ↔ as = bs)
  | [], bs => by cases bs <;> simp [sameAll]
  | a :: as, bs => by
    cases bs with
    | nil => simp [sameAll]
    | cons b bs => simp [sameAll, same_iff a b, sameAll_iff as bs]

theorem sameBound_iff : (a b : Option TypeExpr) → (sameBound a b = true ↔ a = b)
  | none, b => by cases b <;> simp [sameBound]
  | some a, b => by
    cases b with
    | none => simp [sameBound]
    | some b => simp [sameBound, same_iff a b]

end

instance : DecidableEq TypeExpr := fun a b => decidable_of_iff _ (same_iff a b)

/-! ## Shape -/

/-- A class without arguments. -/
def plain (name : String) : TypeExpr :=
  .named name []

/-- The class that every class extends. -/
def object : TypeExpr :=
  plain objectName

/-- The name of the class, if the type is one. -/
def className? : TypeExpr → Option String
  | .named name _ => some name
  | _ => none

/-- The arguments of a generic class; other types have none. -/
def arguments : TypeExpr → List TypeExpr
  | .named _ arguments => arguments
  | _ => []

/-- Whether the type is an array. -/
def isArray : TypeExpr → Bool
  | .array _ => true
  | _ => false

/-- How many times over the type is an array. -/
def dimensions : TypeExpr → Nat
  | .array element => dimensions element + 1
  | _ => 0

/-- What is left of an array type after all of its dimensions; other types are their own. -/
def innermost : TypeExpr → TypeExpr
  | .array element => innermost element
  | other => other

/-! ## Erasure -/

/-- The type without arguments, a wildcard replaced by its upper bound. -/
def erasure : TypeExpr → TypeExpr
  | .named name _ => plain name
  | .array element => .array (erasure element)
  | .wildcard .upper (some bound) => erasure bound
  | .wildcard _ _ => object
  | other => other

/-- Whether two types are the same once their arguments are gone. -/
def sameErasure (a b : TypeExpr) : Bool :=
  a.erasure = b.erasure

/-! ## Text -/

mutual

/-- The type as it stands in source text. -/
def text : TypeExpr → String
  | .primitive name => name
  | .named name [] => name
  | .named name (first :: rest) => name ++ "<" ++ first.text ++ textRest rest ++ ">"
  | .variable name => name
  | .array element => element.text ++ "[]"
  | .wildcard .upper (some bound) => "? extends " ++ bound.text
  | .wildcard .lower (some bound) => "? super " ++ bound.text
  | .wildcard _ _ => "?"
  | .void => "void"

/-- The arguments after the first, each after a comma. -/
def textRest : List TypeExpr → String
  | [] => ""
  | argument :: rest => ", " ++ argument.text ++ textRest rest

end

end TypeExpr

/-- A declared type parameter with its upper bounds. -/
structure TypeParam where
  name : String
  bounds : List TypeExpr
deriving DecidableEq, Inhabited

/-- The type that stands for the parameter where no argument is given. -/
def TypeParam.erasure (param : TypeParam) : TypeExpr :=
  match param.bounds with
  | [] => .object
  | first :: _ => first.erasure

end DeclCheck
