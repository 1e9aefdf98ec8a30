import OlmProvision.Text.Printable

/-
Texts shown in double quotes, as diagnostic messages quote them.

Inside the quotes a double quote and a backslash get a backslash, tab, carriage return, line
feed and NUL are written `\t`, `\r`, `\n` and `\0`, and a character that is not printable or
that extends the previous character (see `escapedRanges`) is written as its code point in
lower-case hexadecimal, `\u{1b}`. Every other character stands as it is. The examples at the
end pin the format.
-/
namespace OlmProvision.Text

/-- The lower-case hexadecimal digits of `n`. -/
def hexDigits (n : Nat) : String :=
  String.ofList ((Nat.toDigits 16 n))

/-- The quoted form of one character. -/
def quoteChar (c : Char) : String :=
  match c with
  | '\t' => "\\t"
  | '\r' => "\\r"
  | '\n' => "\\n"
  | '\\' => "\\\\"
  | '"' => "\\\""
  | c =>
    if c.toNat == 0 then "\\0"
    else if isEscapedCode c.toNat then "\\u" ++ "\x7b" ++ hexDigits c.toNat ++ "\x7d"
    else c.toString

/-- `s` in double quotes, with the escapes described above. -/
def quote (s : String) : String :=
  "\"" ++ String.join (s.toList.map quoteChar) ++ "\""

example : quote "a\"b" = "\"a\\\"b\"" := by decide
example : quote "x\ny" = "\"x\\ny\"" := by decide

end OlmProvision.Text
