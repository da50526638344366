import SocketGateway.Text.Hidden

/-!
# Quoted text

A text in double quotes as error messages and log lines show it: quotes and backslashes are
escaped, line ends and tabs have short escapes, and characters without a picture are written as
their code point in braces.
-/

namespace SocketGateway.Text

def quoteChar (c : Char) : List Char :=
  match c with
  | '\x00' => ['\\', '0']
  | '\t' => ['\\', 't']
  | '\r' => ['\\', 'r']
  | '\n' => ['\\', 'n']
  | '"' => ['\\', '"']
  | '\\' => ['\\', '\\']
  | c =>
    if isHidden c then '\\' :: 'u' :: '\x7b' :: (Nat.toDigits 16 c.toNat ++ ['\x7d'])
    else [c]

def quote (s : String) : String :=
  String.ofList ('"' :: (s.toList.flatMap quoteChar ++ ['"']))

def bracketed (items : List String) : String :=
  "[" ++ ", ".intercalate items ++ "]"

end SocketGateway.Text
