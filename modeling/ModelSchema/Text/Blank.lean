set_option autoImplicit false

/-!
# Blank characters

The characters that separate tokens: those with the property White_Space.

## Main definitions

* `Text.isBlank` — the property as a test.
-/

namespace ModelSchema.Text

/-- The white space characters: the ASCII ones from the tab to the carriage return and the space,
the next line and no-break space controls, and the spaces and separators of the other scripts. -/
def isBlank (c : Char) : Bool :=
  let n := c.toNat
  (0x09 ≤ n && n ≤ 0x0D) || n == 0x20 || n == 0x85 || n == 0xA0 || n == 0x1680 ||
    (0x2000 ≤ n && n ≤ 0x200A) || n == 0x2028 || n == 0x2029 || n == 0x202F || n == 0x205F ||
    n == 0x3000

end ModelSchema.Text
