/-!
# Bundled libraries

Two libraries come with the language. They are imported by a name in the place of a path.
-/
namespace FoxScript.Library

/-- A text from its lines, each of which a line feed ends. -/
def ofLines (lines : List String) : String := String.join (lines.map (· ++ "\n"))

/-- Functions on arrays. -/
def arrays : String :=
  ofLines [
    "// Array helpers, loaded with import(\"arrays\").",
    "",
    "defun(map, (xs, f) -> \x7b",
    "    var(result, Array(len(xs))),",
    "    var(i, 0),",
    "    while(i < len(xs), \x7b",
    "        set(result, i, f(xs[i])),",
    "        assign(i, i + 1)",
    "    \x7d),",
    "    result",
    "\x7d)",
    "",
    "defun(filter, (xs, keep) -> \x7b",
    "    var(result, []),",
    "    var(i, 0),",
    "    while(i < len(xs), \x7b",
    "        keep(xs[i]) ? assign(result, merge(result, [xs[i]])) : null,",
    "        assign(i, i + 1)",
    "    \x7d),",
    "    result",
    "\x7d)",
    "",
    "defun(reduce, (xs, f, init) -> \x7b",
    "    var(acc, init),",
    "    var(i, 0),",
    "    while(i < len(xs), \x7b",
    "        assign(acc, f(acc, xs[i])),",
    "        assign(i, i + 1)",
    "    \x7d),",
    "    acc",
    "\x7d)",
    "",
    "defun(reverse, (xs) -> \x7b",
    "    var(n, len(xs)),",
    "    var(result, Array(n)),",
    "    var(i, 0),",
    "    while(i < n, \x7b",
    "        set(result, i, xs[n - i - 1]),",
    "        assign(i, i + 1)",
    "    \x7d),",
    "    result",
    "\x7d)",
    "",
    "defun(contains, (xs, x) -> \x7b",
    "    var(found, false),",
    "    var(i, 0),",
    "    while(!found and i < len(xs), \x7b",
    "        assign(found, xs[i] == x),",
    "        assign(i, i + 1)",
    "    \x7d),",
    "    found",
    "\x7d)",
    "",
    "defun(push, (xs, x) -> merge(xs, [x]))"]

/-- Functions on the console. -/
def io : String :=
  ofLines [
    "// Console helpers, loaded with import(\"io\").",
    "",
    "defun(readLine, () -> input(\"\"))",
    "",
    "defun(printAll, (xs) -> \x7b",
    "    var(i, 0),",
    "    while(i < len(xs), \x7b",
    "        println(xs[i]),",
    "        assign(i, i + 1)",
    "    \x7d),",
    "    null",
    "\x7d)"]

/-- The text of the library that has a name. -/
def source? : String → Option String
  | "arrays" => some arrays
  | "io" => some io
  | _ => none

end FoxScript.Library
