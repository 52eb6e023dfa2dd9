import FoxScript.Text.Quoted
import FoxScript.Value.Store

/-!
# The text of values

A value is shown as it is written, but texts without quotes. An array that is met inside itself is
elided there.
-/
namespace FoxScript

namespace Value

/-- The text of a value inside the arrays `active`, nested in at most so many others. -/
def renderWithin (s : Store) : Nat → List ArrayId → Value → String
  | _, _, .null => "null"
  | _, _, .bool b => if b then "true" else "false"
  | _, _, .number x => Number.plain x
  | _, _, .text t => t
  | _, _, .function f => f.render
  | n, active, .array a =>
    if active.contains a then "[...]"
    else
      match n with
      | 0 => "[...]"
      | n + 1 =>
        "[" ++ ", ".intercalate ((s.elements a).toList.map (renderWithin s n (a :: active))) ++ "]"

/-- The text of a value. -/
def render (s : Store) (v : Value) : String := renderWithin s (s.arrays.size + 1) [] v

/-- The text of a value with its kind, which tells all values apart that differ. -/
def describe (s : Store) : Value → String
  | .null => "Null"
  | .bool b => if b then "Bool(true)" else "Bool(false)"
  | .number x => s!"Number({Number.exact x})"
  | .text t => s!"String({Text.quote t})"
  | .array a => s!"Array({render s (.array a)})"
  | .function f => s!"Function({f.render})"

end Value

end FoxScript
