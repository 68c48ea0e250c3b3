import ThreeAddress.Bytes

/-!
# Terminal styles

Text is colored by escape sequences around it. Without colors it stands alone.
-/

namespace ThreeAddress.Render

/-- A color or weight of text: the codes that switch it on and off. -/
structure Style where
  /-- The codes that switch it on. -/
  on : String
  /-- The codes that switch it off. -/
  off : String
deriving Repr, DecidableEq

namespace Style

/-- Bold red. -/
def boldRed : Style := ⟨"31;1", "0;22"⟩

/-- Bold yellow. -/
def boldYellow : Style := ⟨"33;1", "0;22"⟩

/-- Bold cyan. -/
def boldCyan : Style := ⟨"36;1", "0;22"⟩

/-- Bold blue. -/
def boldBlue : Style := ⟨"34;1", "0;22"⟩

/-- Bold green. -/
def boldGreen : Style := ⟨"32;1", "0;22"⟩

/-- Bold. -/
def bold : Style := ⟨"1", "22"⟩

/-- Blue. -/
def blue : Style := ⟨"34", "0"⟩

/-- Writes a text in a style, if colors are wanted. -/
def paint (s : Style) (colored : Bool) (text : Bytes) : Bytes :=
  if colored then
    utf8 "\x1b[" ++ utf8 s.on ++ utf8 "m" ++ text ++ utf8 "\x1b[" ++ utf8 s.off ++ utf8 "m"
  else text

end Style

end ThreeAddress.Render
