import SchemaFilter.Unicode.BinaryProperty
import SchemaFilter.Unicode.GeneralCategory

/-!
# Quoted texts

A text in double quotes with everything escaped that could not be seen: quotes, backslashes,
controls, characters that join the one before them, and all that has no shape of its own.
-/

namespace SchemaFilter.Text

open Unicode

/-- Whether a character has a shape of its own. Among the separators only the blank has one. -/
def isPrintable (c : Char) : Bool :=
  if c.toNat < 128 then 32 ≤ c.toNat && c.toNat < 127
  else
    GeneralCategory.table.any fun (code, r) =>
      !(["Cc", "Cf", "Co", "Zl", "Zp", "Zs"].contains code) && r.contains c

/-- A character by its number, in hexadecimal. -/
def numbered (c : Char) : List Char :=
  ['\\', 'u', '\x7b'] ++ Nat.toDigits 16 c.toNat ++ ['\x7d']

def quotedChar (c : Char) : List Char :=
  match c with
  | '\x00' => ['\\', '0']
  | '\t' => ['\\', 't']
  | '\r' => ['\\', 'r']
  | '\n' => ['\\', 'n']
  | '"' => ['\\', '"']
  | '\\' => ['\\', '\\']
  | c => if BinaryProperty.graphemeExtend.contains c || !isPrintable c then numbered c else [c]

def quoted (s : String) : String :=
  String.ofList ('"' :: s.toList.flatMap quotedChar ++ ['"'])

end SchemaFilter.Text
