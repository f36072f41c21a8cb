import QueryComposer.Text.Numeral
import QueryComposer.Text.Unseen

/-! # Quoted text

  Text as a message shows it: between double quotes, with a backslash before
  what would end or hide it. Characters that do not show are given by their
  code, so that the reader of a message sees every character that is there.
-/

namespace QueryComposer.Text

/-- One character of quoted text. -/
def quotedChar (c : Char) : List Char :=
  match c with
  | '\x00' => ['\\', '0']
  | '\t' => ['\\', 't']
  | '\n' => ['\\', 'n']
  | '\r' => ['\\', 'r']
  | '"' => ['\\', '"']
  | '\\' => ['\\', '\\']
  | c => if isUnseen c then '\\' :: 'u' :: '\x7b' :: hexadecimal c.toNat ++ ['\x7d'] else [c]

/-- The text between double quotes. -/
def quoted (s : String) : String :=
  String.ofList ('"' :: s.toList.flatMap quotedChar ++ ['"'])

end QueryComposer.Text
