/-!
# Kinds of values
-/
namespace FoxScript

/-- The kind of a value. -/
inductive Kind
  | null | boolean | number | string | array | function
  deriving DecidableEq, Repr

/-- The name of a kind. -/
def Kind.name : Kind → String
  | .null => "null"
  | .boolean => "boolean"
  | .number => "number"
  | .string => "string"
  | .array => "array"
  | .function => "function"

end FoxScript
