set_option autoImplicit false

/-!
# Quoted strings

A JSON string stands between double quotes. The quote, the backslash and the controls below U+0020
are escaped, by a short escape where there is one and by four hexadecimal digits otherwise. Every
other character is written as it is.

## Main definitions

* `Json.quoted` — a text as a JSON string.
-/

namespace ModelSchema.Json

/-- A control character by its code, in four lower-case hexadecimal digits. -/
def hexEscape (c : Char) : List Char :=
  ['\\', 'u', '0', '0', Nat.digitChar (c.toNat / 16), Nat.digitChar (c.toNat % 16)]

/-- One character of a JSON string. -/
def quotedChar (c : Char) : List Char :=
  match c with
  | '"' => ['\\', '"']
  | '\\' => ['\\', '\\']
  | '\x08' => ['\\', 'b']
  | '\x0c' => ['\\', 'f']
  | '\n' => ['\\', 'n']
  | '\r' => ['\\', 'r']
  | '\t' => ['\\', 't']
  | _ => if c.toNat < 0x20 then hexEscape c else [c]

/-- The characters of a JSON string, with its quotes. -/
def quotedChars (cs : List Char) : List Char :=
  '"' :: (cs.flatMap quotedChar ++ ['"'])

/-- A text as a JSON string. -/
def quoted (s : String) : String :=
  String.ofList (quotedChars s.toList)

end ModelSchema.Json
