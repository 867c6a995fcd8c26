namespace Casework.Text

/-- These code points have the Unicode property White_Space. -/
def whiteSpace : List Nat :=
  [0x9, 0xa, 0xb, 0xc, 0xd, 0x20, 0x85, 0xa0, 0x1680, 0x2000, 0x2001, 0x2002, 0x2003, 0x2004,
    0x2005, 0x2006, 0x2007, 0x2008, 0x2009, 0x200a, 0x2028, 0x2029, 0x202f, 0x205f, 0x3000]

/-- These separators are blank for their place in bidirectional text only. -/
def informationSeparators : List Nat := [0x1c, 0x1d, 0x1e, 0x1f]

def isWhiteSpace (character : Char) : Bool := whiteSpace.contains character.toNat

/-- A blank is white space or an information separator. -/
def isBlank (character : Char) : Bool :=
  isWhiteSpace character || informationSeparators.contains character.toNat

/-- The characters that satisfy the test are removed at both ends. -/
def trimBy (test : Char → Bool) (characters : List Char) : List Char :=
  ((characters.dropWhile test).reverse.dropWhile test).reverse

/-- Blanks are removed at both ends. -/
def trim (text : String) : String := String.ofList (trimBy isBlank text.toList)

/-- A text is blank when it holds nothing but blanks. -/
def isBlankText (text : String) : Bool := text.toList.all isBlank

@[simp]
theorem trimBy_nil (test : Char → Bool) : trimBy test [] = [] := rfl

end Casework.Text
