/-
# Direction of writing

Letters are written from left to right or from right to left, numbers from left to right,
and marks and signs follow what is around them. A label of a domain name that mixes both
directions would be shown in an order that nobody can read back, so a name with letters
from right to left has to follow a rule that keeps its labels together. The tables cover
what a domain name may hold, by version 17.0 of the Unicode character database.
-/
import FileChat.Text.Mark

namespace FileChat.Text

/-- How a character is written. -/
inductive Direction
  | leftToRight
  | rightToLeft
  /-- A digit that goes with letters from right to left. -/
  | arabicNumber
  /-- A digit that goes with letters of both directions. -/
  | europeanNumber
  /-- A mark on the character before it. -/
  | mark
  /-- A sign that takes the direction of what is around it. -/
  | neutral
  deriving Repr, DecidableEq

/-- Letters from right to left. -/
def rightToLeftTable : List String :=
  ["5BE 5C0 5C3 5C6 5D0-5F4 608 60B 60D 61B-64A 66D-66F 671-6D5 6E5-6E6 6EE-6EF 6FA-710 712-72F",
   "74D-7A5 7B1-7EA 7F4-7F5 7FA 7FE-815 81A 824 828 830-858 85E-88F 8A0-8C9 FBB2-FBC2 FE73",
   "10800-1091B 10920-10A00 10A10-10A35 10A40-10AE4 10AEB-10B35 10B40-10D23 10D4A-10D4F",
   "10D6F-10D8F 10E80-10EA9 10EAD-10EC7 10F00-10F45 10F51-10F81 10F86-10FF6 1E800-1E8CF",
   "1E922-1E943 1E94B-1ED3D"]

/-- Digits that go with letters from right to left. -/
def arabicNumberTable : List String :=
  ["660-669 66B-66C 10D30-10D49 10E60-10E7E"]

/-- Digits that go with letters of both directions. -/
def europeanNumberTable : List String :=
  ["30-39 6F0-6F9 102E1-102FB"]

/-- Signs that take the direction of what is around them. -/
def neutralTable : List String :=
  ["0-2F 3A-60 7B-D7 F7 2B9-2BA 2C2-2CF 2D2-2ED 2EF-2FF 375 3F6 58A-58F 606-607 609-60A 60C",
   "60E-60F 66A 6DE 6E9 7F6-7F9 9F2-9F3 9FB AF1 BF3-BFA C78-C7E E3F F3A-F3D 1390-1399 1400",
   "169B-169C 17DB 17F0-180A 1940-1945 19DE-19FF 1B4E-1B4F 1B7F 200C-20C1 2104-214D 218A-2335",
   "237B-2394 2396-26AB 26AD-27FF 2900-2BFF 2CE5-2CEA 2CF9-2CFF 2E00-3004 3008-3020 3030 3037",
   "303D-303F 30A0 30FB 31C0-31E5 4DC0-4DFF A490-A4C6 A60D-A60F A673 A67E-A67F A700-A721 A788",
   "A828-A82B A838-A839 A874-A877 AB6A-AB6B FBC3-FDFF FE45-FE46 10101 10140-1018C 10190-101A0",
   "1091F 10B39-10B3F 10D6E 10ED0-10ED8 11052-11065 11660-1166C 11FD5-11FF1 16FE2 1CC00-1CEF0",
   "1D1E9-1D241 1D245 1D300-1D356 1E2FF 1EEF0-1F12F 1F16D-1F16F 1F1AD 1F260-1FBFA"]

/-- Nonspacing marks that count as letters from left to right. -/
def leftToRightMarks : List String := ["CBF CC6 11A07-11A08 11C3F"]

namespace Direction

/-- The ranges of every direction that is not the usual one. -/
def ranges : List (Direction × List (Nat × Nat)) :=
  [(.leftToRight, Table.ranges leftToRightMarks), (.mark, nonspacingRanges),
    (.rightToLeft, Table.ranges rightToLeftTable),
    (.arabicNumber, Table.ranges arabicNumberTable),
    (.europeanNumber, Table.ranges europeanNumberTable),
    (.neutral, Table.ranges neutralTable)]

/-- The direction of a character, from left to right unless a table says otherwise. -/
def of (c : Char) : Direction :=
  match ranges.find? fun known => Table.covers known.2 c with
  | some known => known.1
  | none => .leftToRight

/-- Whether a character makes a name one that goes from right to left. -/
def turns : Direction → Bool
  | .rightToLeft => true
  | .arabicNumber => true
  | _ => false

/-- Whether a label holds together in a name that goes from right to left. It begins with a
letter. If that goes from left to right, no letter and no Arabic digit of the other
direction follows, and it ends with a letter or a digit; else no letter from left to right
follows, digits are of one kind, and again it ends with a letter or a digit. Marks at the
end do not count. -/
def holdsTogether (label : List Direction) : Bool :=
  let last := label.reverse.find? (· ≠ .mark)
  match label.head? with
  | none => true
  | some .leftToRight =>
    !label.any turns && (last = some .leftToRight || last = some .europeanNumber)
  | some .rightToLeft =>
    !label.contains .leftToRight && last ≠ some .neutral &&
      !(label.contains .arabicNumber && label.contains .europeanNumber)
  | some _ => false

end Direction

/-- Whether a text has a character that makes a name one that goes from right to left. -/
def goesRightToLeft (text : List Char) : Bool := text.any fun c => (Direction.of c).turns

/-- Whether a label may stand in a name that goes from right to left. -/
def holdsTogether (label : List Char) : Bool :=
  Direction.holdsTogether (label.map Direction.of)

end FileChat.Text
