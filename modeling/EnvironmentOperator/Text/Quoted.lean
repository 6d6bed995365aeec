import EnvironmentOperator.Text.CharClass
/-!
Text shown inside double quotes: quotes, backslashes and the usual control characters have two-character
escapes, and a character that could not be seen by itself is written by its code point.
-/
namespace EnvironmentOperator.Text

def hexDigits (n : Nat) : List Char := Nat.toDigits 16 n

def quoteChar (c : Char) : List Char :=
  match c with
  | '"' => ['\\', '"']
  | '\\' => ['\\', '\\']
  | '\n' => ['\\', 'n']
  | '\r' => ['\\', 'r']
  | '\t' => ['\\', 't']
  | '\x00' => ['\\', '0']
  | c =>
      if CharClass.isExtending c || CharClass.isUnprintable c then
        '\\' :: 'u' :: '\x7b' :: hexDigits c.toNat ++ ['\x7d']
      else [c]

def quoted (s : String) : String := String.ofList ('"' :: s.toList.flatMap quoteChar ++ ['"'])

end EnvironmentOperator.Text
