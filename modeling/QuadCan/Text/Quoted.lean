import QuadCan.Text.Hidden

namespace QuadCan.Quoted

-- A character inside quotes. What would end the quotes, break the line or not
-- show is written by name or by its number.
def escape (char : Char) : List Char :=
  match char with
  | '\x22' => ['\\', '\x22']
  | '\\' => ['\\', '\\']
  | '\n' => ['\\', 'n']
  | '\r' => ['\\', 'r']
  | '\t' => ['\\', 't']
  | '\x00' => ['\\', '0']
  | _ =>
      if Hidden.isHidden char then
        ['\\', 'u', '\x7b'] ++ Nat.toDigits 16 char.toNat ++ ['\x7d']
      else [char]

def text (content : String) : String :=
  String.ofList ('\x22' :: content.toList.flatMap escape ++ ['\x22'])

end QuadCan.Quoted
