import SenderPolicy.Text.Blank
import SenderPolicy.Text.Direction

/-!
# Direction of labels

A label runs in one direction if its characters do: those from left to right and those from right to left do not stand
in it together, and it starts and ends with characters of its direction, or ends with a number. Labels that stand
beside each other need this only if one of them has a character that runs from right to left.
-/

namespace SenderPolicy.Domain

open Text

/-- Whether a character runs from right to left. -/
def isRightToLeft (c : Char) : Bool :=
  0x590 ≤ c.toNat && [.rightToLeft, .arabicLetter, .arabicNumber].contains (Direction.of c)

/-- The classes that may stand in a label of either direction. -/
def neutral : List Direction :=
  [.europeanNumber, .europeanSeparator, .commonSeparator, .europeanTerminator, .otherNeutral, .boundaryNeutral,
    .nonspacingMark]

/-- Whether the classes of a label run in one direction. -/
def keepsDirection (first : Direction) (rest : List Direction) : Bool :=
  let all := first :: rest
  let last := (dropEndWhile (· = .nonspacingMark) all).getLast?.getD first
  match first with
  | .leftToRight =>
    all.all (fun d => d = .leftToRight || neutral.contains d) && [.leftToRight, .europeanNumber].contains last
  | .rightToLeft | .arabicLetter =>
    all.all (fun d => [.rightToLeft, .arabicLetter, .arabicNumber].contains d || neutral.contains d) &&
      [.rightToLeft, .arabicLetter, .europeanNumber, .arabicNumber].contains last &&
      !(all.contains .europeanNumber && all.contains .arabicNumber)
  | _ => false

/-- Whether a label runs in one direction. -/
def hasDirection (label : List Char) : Bool :=
  match label.map Direction.of with
  | [] => true
  | first :: rest => keepsDirection first rest

/-- Whether labels go together: each runs in one direction, or nothing runs from right to left. -/
def keepDirections (labels : List (List Char)) : Bool :=
  !labels.any (·.any isRightToLeft) || labels.all hasDirection

end SenderPolicy.Domain
