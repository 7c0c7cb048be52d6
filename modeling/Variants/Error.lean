import Variants.Condition.Term
import Variants.Template.Pattern

/-!
What can go wrong with one condition, from its text to its rendering.
-/

namespace Variants

inductive Error
  | malformed (flaw : Flaw) (expression : String)
  | unresolvedChoice (token : String)
  | unknownPivot (name : String)
  | unknownTemplate (name : String)
  | pattern (cause : PatternError)
  deriving DecidableEq, Repr

def locatedMessage (message expression : String) (position : Option Int) : String :=
  match position with
  | some position => message ++ " at position " ++ toString position ++ " in '" ++ expression ++ "'"
  | none => if expression.isEmpty then message else message ++ " in '" ++ expression ++ "'"

def unresolvedMessage (token : String) : String :=
  "Unmatched configuration choice '" ++ token ++ "'"

def unknownPivotMessage (name : String) : String :=
  "Unknown pivot '" ++ name ++ "'"

def Error.message : Error → String
  | malformed flaw expression =>
    locatedMessage flaw.fault.message expression (flaw.position.map Int.ofNat)
  | unresolvedChoice token => unresolvedMessage token
  | unknownPivot name => unknownPivotMessage name
  | unknownTemplate name => name
  | pattern cause => cause.message

inductive ErrorKind
  | general
  | malformed
  | unresolvedChoice
  | unknownPivot
  | registry
  | configuration
  deriving DecidableEq, Repr

/-- The wider families of failure. Every kind belongs to the first; what is missing under a name is a
failed look-up, and what is missing under a key is one of those. -/
inductive ErrorFamily
  | library
  | lookup
  | key
  deriving DecidableEq, Repr

def ErrorKind.families : ErrorKind → List ErrorFamily
  | unknownPivot => [.library, .lookup, .key]
  | unresolvedChoice => [.library, .lookup]
  | general | malformed | registry | configuration => [.library]

def splitTerms (text : String) : Except Error (List Term) :=
  (arrange (tokenize text)).mapError (.malformed · text)

end Variants
