import FoxScript.Unicode.Recent

/-!
# Quoted text

A text between quotes, in which quotes, backslashes and characters that cannot be seen are written
by escapes.
-/
namespace FoxScript.Text

/-- A number in base sixteen. -/
def hex (n : Nat) : String := String.ofList (Nat.toDigits 16 n)

/-- A character as it stands between quotes. -/
def quoteChar (c : Char) : String :=
  match c with
  | '"' => "\\\""
  | '\\' => "\\\\"
  | '\n' => "\\n"
  | '\r' => "\\r"
  | '\t' => "\\t"
  | '\x00' => "\\0"
  | _ =>
    if Unicode.visible.contains c.toNat then String.singleton c
    else "\\u\x7b" ++ hex c.toNat ++ "\x7d"

/-- A text between quotes. -/
def quote (s : String) : String := "\"" ++ String.join (s.toList.map quoteChar) ++ "\""

end FoxScript.Text
