import ElementMetadata.Text.Space

/-!
Modes of a pattern. They say how the characters are meant that follow, and hold up to the end of the group
in which they are set.
-/
namespace ElementMetadata.Pattern

structure Modes where
  /-- White space and comments do not count. -/
  spaced : Bool := false
  anyCase : Bool := false
  unicode : Bool := true
deriving DecidableEq

/-- A text without the white space and the comments at its front, the first of which may have begun
before. -/
def skipBlank : Bool → List Char → List Char
  | _, [] => []
  | true, c :: rest => skipBlank (c != '\n') rest
  | false, c :: rest =>
    if isSpace c then skipBlank false rest
    else if c = '#' then skipBlank true rest
    else c :: rest

/-- The first character that is not white space, nor the first number sign if that may be passed over. -/
def peekPast : Bool → List Char → Option Char
  | _, [] => none
  | sign, c :: rest =>
    if isSpace c then peekPast sign rest
    else if sign && c == '#' then peekPast false rest
    else some c

def modeLetters : List Char := ['-', 'i', 'm', 's', 'U', 'u', 'R', 'x']

def isModeChange (letters : List Char) : Bool :=
  letters.all (modeLetters.contains ·) && letters.eraseDups == letters && letters.getLast? != some '-'

namespace Modes

def skip (m : Modes) (text : List Char) : List Char := if m.spaced then skipBlank false text else text

/-- The next character, as far as it decides whether a hyphen makes a range. A comment counts as what stands
in it. -/
def peek (m : Modes) (text : List Char) : Option Char :=
  if m.spaced then peekPast true text <|> text.head? else text.head?

def change (m : Modes) (letters : List Char) : Modes :=
  let switch (letter : Char) (old : Bool) : Bool :=
    if (letters.takeWhile (· != '-')).contains letter then true
    else if letters.contains letter then false
    else old
  { spaced := switch 'x' m.spaced, anyCase := switch 'i' m.anyCase, unicode := switch 'u' m.unicode }

end Modes
end ElementMetadata.Pattern
