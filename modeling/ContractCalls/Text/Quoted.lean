import ContractCalls.Text.Visible

/-!
# Quoted text

A text between double quotes. Quotes, backslashes and the usual control characters are written with
a backslash, other characters that are not visible by their code point.
-/

namespace ContractCalls.Text

def escape (c : Char) : List Char :=
  match c with
  | '"' => ['\\', '"']
  | '\\' => ['\\', '\\']
  | '\n' => ['\\', 'n']
  | '\r' => ['\\', 'r']
  | '\t' => ['\\', 't']
  | '\x00' => ['\\', '0']
  | c =>
    if isVisible c then [c]
    else ['\\', 'u', '\x7b'] ++ Nat.toDigits 16 c.toNat ++ ['\x7d']

def quoted (text : String) : String :=
  String.ofList ('"' :: text.toList.flatMap escape ++ ['"'])

example : quoted "a\"b\n\x00\x7f" = "\"a\\\"b\\n\\0\\u\x7b7f\x7d\"" := by decide +kernel

end ContractCalls.Text
