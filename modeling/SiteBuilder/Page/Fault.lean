/-!
# Faults of templates

What can be wrong with a page template, and on which line of it.
-/

namespace SiteBuilder.Page

/-- What is wrong. -/
inductive FaultKind where
  /-- The template cannot be read. -/
  | malformed
  /-- A text holds an escape that does not exist. -/
  | badEscape
  /-- A value that nothing defines is needed. -/
  | undefinedValue
  /-- An operation does not fit its values. -/
  | invalidOperation
  | unknownFilter
  | unknownTest
  | unknownFunction
  | unknownMethod
  | missingArgument
  | tooManyArguments
  /-- A list does not have as many items as there are names. -/
  | cannotUnpack
  deriving DecidableEq

/-- The name of a kind of fault. -/
def FaultKind.label : FaultKind → String
  | .malformed => "syntax error"
  | .badEscape => "bad string escape"
  | .undefinedValue => "undefined value"
  | .invalidOperation => "invalid operation"
  | .unknownFilter => "unknown filter"
  | .unknownTest => "unknown test"
  | .unknownFunction => "unknown function"
  | .unknownMethod => "unknown method"
  | .missingArgument => "missing argument"
  | .tooManyArguments => "too many arguments"
  | .cannotUnpack => "cannot unpack"

/-- A fault met while a template is filled in. -/
structure Fault where
  kind : FaultKind
  /-- The line of the template, the first being one. -/
  line : Nat
  deriving DecidableEq

end SiteBuilder.Page
