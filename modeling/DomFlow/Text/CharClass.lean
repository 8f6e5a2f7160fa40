import DomFlow.Text.Category

/-! # Classes of characters

The classes that the readers and printers of this library test, each by its general categories and a
short list of further code points. ASCII is decided without the table. -/

namespace DomFlow.Text

/-- Letters and letter numbers, with the few further characters that may begin a name. -/
def isNameStart (c : Char) : Bool :=
  if c.toNat < 0x80 then c.isAlpha
  else match Category.ofChar c with
    | .lu | .ll | .lt | .lm | .lo | .nl => c.toNat ≠ 0x2E2F
    | _ => [0x1885, 0x1886, 0x2118, 0x212E, 0x309B, 0x309C].contains c.toNat

def isNamePart (c : Char) : Bool :=
  if c.toNat < 0x80 then c.isAlphanum || c == '_'
  else isNameStart c || match Category.ofChar c with
    | .mn | .mc | .nd | .pc => true
    | _ => c.toNat = 0xB7 ∨ c.toNat = 0x387 ∨ c.toNat = 0x19DA ∨
        (0x1369 ≤ c.toNat ∧ c.toNat ≤ 0x1371)

def isDecimalDigit (c : Char) : Bool :=
  if c.toNat < 0x80 then c.isDigit else Category.ofChar c == .nd

/-- Characters of words: letters, marks, decimal digits, connectors and joiners. -/
def isWordChar (c : Char) : Bool :=
  if c.toNat < 0x80 then c.isAlphanum || c == '_'
  else match Category.ofChar c with
    | .lu | .ll | .lt | .lm | .lo | .nl | .mn | .mc | .me | .nd | .pc => true
    | _ =>
      let n := c.toNat
      n = 0x200C ∨ n = 0x200D ∨ (0x24B6 ≤ n ∧ n ≤ 0x24E9) ∨ (0x1F130 ≤ n ∧ n ≤ 0x1F149) ∨
        (0x1F150 ≤ n ∧ n ≤ 0x1F169) ∨ (0x1F170 ≤ n ∧ n ≤ 0x1F189)

def isBlank (c : Char) : Bool :=
  let n := c.toNat
  n = 0x20 ∨ (9 ≤ n ∧ n ≤ 13) ∨ n = 0x85 ∨ n = 0xA0 ∨ n = 0x1680 ∨ (0x2000 ≤ n ∧ n ≤ 0x200A) ∨
    n = 0x2028 ∨ n = 0x2029 ∨ n = 0x202F ∨ n = 0x205F ∨ n = 0x3000

/-- Characters that extend the character before them rather than standing alone. -/
def isGraphemeExtend (c : Char) : Bool :=
  let n := c.toNat
  if n < 0x300 then false
  else match Category.ofChar c with
    | .mn | .me => true
    | _ =>
      [0x9BE, 0x9D7, 0xB3E, 0xB57, 0xBBE, 0xBD7, 0xCC2, 0xCD5, 0xCD6, 0xD3E, 0xD57, 0xDCF, 0xDDF,
        0x1B35, 0x200C, 0x302E, 0x302F, 0xFF9E, 0xFF9F, 0x1133E, 0x11357, 0x114B0, 0x114BD, 0x115AF,
        0x11930, 0x1D165].contains n ||
      (0x1D16E ≤ n && n ≤ 0x1D172) || (0xE0020 ≤ n && n ≤ 0xE007F)

/-- Characters with a visible form of their own: no control, format, private-use or unassigned
character, and of the separators only the plain space. -/
def isPrintable (c : Char) : Bool :=
  if c.toNat < 0x80 then 0x20 ≤ c.toNat ∧ c.toNat < 0x7F
  else !((Category.ofChar c).isOther || (Category.ofChar c).isSeparator)

end DomFlow.Text
