/-
# Blank text and rune counts

A message is blank when nothing but white space is left after trimming. White space is
the Unicode `White_Space` property: the ASCII tab, line feed, vertical tab, form feed,
carriage return and space, next line, no-break space, ogham space mark, the spaces from
en quad to hair space, the line and paragraph separators, the narrow no-break space,
the medium mathematical space and the ideographic space. Zero-width space and the byte
order mark are not white space. Lengths are counted in Unicode scalar values ("runes").
-/
namespace Switchboard.Text

/-- The Unicode `White_Space` property. -/
def isBlank (c : Char) : Bool :=
  let n := c.toNat
  (0x09 ≤ n && n ≤ 0x0D) || n == 0x20 || n == 0x85 || n == 0xA0 || n == 0x1680 ||
  (0x2000 ≤ n && n ≤ 0x200A) || n == 0x2028 || n == 0x2029 || n == 0x202F ||
  n == 0x205F || n == 0x3000

/-- Nothing but white space (the empty text included). -/
def allBlank (s : String) : Bool := s.toList.all isBlank

def runeCount (s : String) : Nat := s.length

example : isBlank '\u3000' = true ∧ isBlank '\u200B' = false ∧ isBlank '\uFEFF' = false := by
  decide

end Switchboard.Text
