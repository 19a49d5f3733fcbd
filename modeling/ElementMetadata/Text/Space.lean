import ElementMetadata.Text.Runs

/-!
White space of any script, and a text without the white space around it.
-/
namespace ElementMetadata

def spaceRuns : Runs :=
  [
    (0x9, 0xd), (0x20, 0x20), (0x85, 0x85), (0xa0, 0xa0), (0x1680, 0x1680), (0x2000, 0x200a),
    (0x2028, 0x2029), (0x202f, 0x202f), (0x205f, 0x205f), (0x3000, 0x3000)
  ]

def isSpace (c : Char) : Bool := spaceRuns.holds c

def trimSpace (text : List Char) : List Char :=
  ((text.dropWhile isSpace).reverse.dropWhile isSpace).reverse

end ElementMetadata
