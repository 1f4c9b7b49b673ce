import CourseReview.Text.CodeTable

/-!
# Writing direction

A domain name with a letter that is written from right to left is refused where the order in which
its characters are shown would not tell the order in which they stand.  Each label has the
direction of its first character, and which characters may stand inside and at the end of a label
depends on it.  The table gives the classes of Unicode 17 for the characters that may stand in a
domain name.
-/

namespace CourseReview.Url

open Text (CodeTable)

/-- The classes of characters that bear on the direction: letters of either direction, the digits
of the West and those of the Arabic script, marks without a width, and all others. -/
inductive Direction where
  | leftToRight
  | rightToLeft
  | westernDigit
  | arabicDigit
  | mark
  | neutral
deriving DecidableEq, Repr

/-- The classes of the characters from U+0021 to U+1FBFA that are not left-to-right letters: `R` for
right-to-left letters, `E` and `A` for digits, `M` for marks, `N` for the others. -/
def directionCodes : String :=
  "21-2F:N 30-39:E 3A-60:N 7B-D7:N F7:N 2B9-2BA:N 2C2-2CF:N 2D2-2ED:N 2EF-2FF:N 300-36F:M 375:N
   3F6:N 483-489:M 58A-58F:N 591-5BD:M 5BE:R 5BF:M 5C0:R 5C1-5C2:M 5C3:R 5C4-5C5:M 5C6:R 5C7:M
   5D0-5F4:R 606-607:N 608:R 609-60A:N 60B:R 60C:N 60D:R 60E-60F:N 610-61A:M 61B-64A:R 64B-65F:M
   660-669:A 66A:N 66B-66C:A 66D-66F:R 670:M 671-6D5:R 6D6-6DC:M 6DE:N 6DF-6E4:M 6E5-6E6:R
   6E7-6E8:M 6E9:N 6EA-6ED:M 6EE-6EF:R 6F0-6F9:E 6FA-710:R 711:M 712-72F:R 730-74A:M 74D-7A5:R
   7A6-7B0:M 7B1-7EA:R 7EB-7F3:M 7F4-7F5:R 7F6-7F9:N 7FA:R 7FD:M 7FE-815:R 816-819:M 81A:R
   81B-823:M 824:R 825-827:M 828:R 829-82D:M 830-858:R 859-85B:M 85E-88F:R 897-89F:M 8A0-8C9:R
   8CA-902:M 93A:M 93C:M 941-948:M 94D:M 951-957:M 962-963:M 981:M 9BC:M 9C1-9C4:M 9CD:M 9E2-9E3:M
   9F2-9F3:N 9FB:N 9FE-A02:M A3C:M A41-A51:M A70-A71:M A75:M A81-A82:M ABC:M AC1-AC8:M ACD:M
   AE2-AE3:M AF1:N AFA-B01:M B3C:M B3F:M B41-B44:M B4D-B56:M B62-B63:M B82:M BC0:M BCD:M BF3-BFA:N
   C00:M C04:M C3C:M C3E-C40:M C46-C56:M C62-C63:M C78-C7E:N C81:M CBC:M CCC-CCD:M CE2-CE3:M
   D00-D01:M D3B-D3C:M D41-D44:M D4D:M D62-D63:M D81:M DCA:M DD2-DD6:M E31:M E34-E3A:M E3F:N
   E47-E4E:M EB1:M EB4-EBC:M EC8-ECE:M F18-F19:M F35:M F37:M F39:M F3A-F3D:N F71-F7E:M F80-F84:M
   F86-F87:M F8D-FBC:M FC6:M 102D-1030:M 1032-1037:M 1039-103A:M 103D-103E:M 1058-1059:M
   105E-1060:M 1071-1074:M 1082:M 1085-1086:M 108D:M 109D:M 135D-135F:M 1390-1399:N 1400:N
   169B-169C:N 1712-1714:M 1732-1733:M 1752-1753:M 1772-1773:M 17B7-17BD:M 17C6:M 17C9-17D3:M
   17DB:N 17DD:M 17F0-180A:N 1885-1886:M 18A9:M 1920-1922:M 1927-1928:M 1932:M 1939-193B:M
   1940-1945:N 19DE-19FF:N 1A17-1A18:M 1A1B:M 1A56:M 1A58-1A60:M 1A62:M 1A65-1A6C:M 1A73-1A7F:M
   1AB0-1B03:M 1B34:M 1B36-1B3A:M 1B3C:M 1B42:M 1B6B-1B73:M 1B80-1B81:M 1BA2-1BA5:M 1BA8-1BA9:M
   1BAB-1BAD:M 1BE6:M 1BE8-1BE9:M 1BED:M 1BEF-1BF1:M 1C2C-1C33:M 1C36-1C37:M 1CD0-1CD2:M
   1CD4-1CE0:M 1CE2-1CE8:M 1CED:M 1CF4:M 1CF8-1CF9:M 1DC0-1DFF:M 200C-20C1:N 20D0-20F0:M
   2104-214D:N 218A-2335:N 237B-2394:N 2396-26AB:N 26AD-27FF:N 2900-2BFF:N 2CE5-2CEA:N 2CEF-2CF1:M
   2CF9-2CFF:N 2D7F:M 2DE0-2DFF:M 2E00-3004:N 3008-3020:N 302A-302D:M 3030:N 3037:N 303D-303F:N
   3099-309A:M 30A0:N 30FB:N 31C0-31E5:N 4DC0-4DFF:N A490-A4C6:N A60D-A60F:N A66F-A672:M A673:N
   A674-A67D:M A67E-A67F:N A69E-A69F:M A6F0-A6F1:M A700-A721:N A788:N A802:M A806:M A80B:M
   A825-A826:M A828-A82B:N A82C:M A838-A839:N A874-A877:N A8C4-A8C5:M A8E0-A8F1:M A8FF:M
   A926-A92D:M A947-A951:M A980-A982:M A9B3:M A9B6-A9B9:M A9BC-A9BD:M A9E5:M AA29-AA2E:M
   AA31-AA32:M AA35-AA36:M AA43:M AA4C:M AA7C:M AAB0:M AAB2-AAB4:M AAB7-AAB8:M AABE-AABF:M AAC1:M
   AAEC-AAED:M AAF6:M AB6A-AB6B:N ABE5:M ABE8:M ABED:M FB1E:M FBB2-FBC2:R FBC3-FDFF:N FE20-FE2F:M
   FE45-FE46:N FE73:R 10101:N 10140-1018C:N 10190-101A0:N 101FD:M 102E0:M 102E1-102FB:E
   10376-1037A:M 10800-1091B:R 1091F:N 10920-10A00:R 10A01-10A0F:M 10A10-10A35:R 10A38-10A3F:M
   10A40-10AE4:R 10AE5-10AE6:M 10AEB-10B35:R 10B39-10B3F:N 10B40-10D23:R 10D24-10D27:M
   10D30-10D49:A 10D4A-10D4F:R 10D69-10D6D:M 10D6E:N 10D6F-10D8F:R 10E60-10E7E:A 10E80-10EA9:R
   10EAB-10EAC:M 10EAD-10EC7:R 10ED0-10ED8:N 10EFA-10EFF:M 10F00-10F45:R 10F46-10F50:M
   10F51-10F81:R 10F82-10F85:M 10F86-10FF6:R 11001:M 11038-11046:M 11052-11065:N 11070:M
   11073-11074:M 1107F-11081:M 110B3-110B6:M 110B9-110BA:M 110C2:M 11100-11102:M 11127-1112B:M
   1112D-11134:M 11173:M 11180-11181:M 111B6-111BE:M 111C9-111CC:M 111CF:M 1122F-11231:M 11234:M
   11236-11237:M 1123E:M 11241:M 112DF:M 112E3-112EA:M 11300-11301:M 1133B-1133C:M 11340:M
   11366-11374:M 113BB-113C0:M 113CE:M 113D0:M 113D2:M 113E1-113E2:M 11438-1143F:M 11442-11444:M
   11446:M 1145E:M 114B3-114B8:M 114BA:M 114BF-114C0:M 114C2-114C3:M 115B2-115B5:M 115BC-115BD:M
   115BF-115C0:M 115DC-115DD:M 11633-1163A:M 1163D:M 1163F-11640:M 11660-1166C:N 116AB:M 116AD:M
   116B0-116B5:M 116B7:M 1171D:M 1171F:M 11722-11725:M 11727-1172B:M 1182F-11837:M 11839-1183A:M
   1193B-1193C:M 1193E:M 11943:M 119D4-119DB:M 119E0:M 11A01-11A06:M 11A09-11A0A:M 11A33-11A38:M
   11A3B-11A3E:M 11A47:M 11A51-11A56:M 11A59-11A5B:M 11A8A-11A96:M 11A98-11A99:M 11B60:M
   11B62-11B64:M 11B66:M 11C30-11C3D:M 11C92-11CA7:M 11CAA-11CB0:M 11CB2-11CB3:M 11CB5-11CB6:M
   11D31-11D45:M 11D47:M 11D90-11D91:M 11D95:M 11D97:M 11EF3-11EF4:M 11F00-11F01:M 11F36-11F3A:M
   11F40:M 11F42:M 11F5A:M 11FD5-11FF1:N 13440:M 13447-13455:M 1611E-16129:M 1612D-1612F:M
   16AF0-16AF4:M 16B30-16B36:M 16F4F:M 16F8F-16F92:M 16FE2:N 16FE4:M 1BC9D-1BC9E:M 1CC00-1CEF0:N
   1CF00-1CF46:M 1D167-1D169:M 1D17B-1D182:M 1D185-1D18B:M 1D1AA-1D1AD:M 1D1E9-1D241:N
   1D242-1D244:M 1D245:N 1D300-1D356:N 1DA00-1DA36:M 1DA3B-1DA6C:M 1DA75:M 1DA84:M 1DA9B-1DAAF:M
   1E000-1E08F:M 1E130-1E136:M 1E2AE:M 1E2EC-1E2EF:M 1E2FF:N 1E4EC-1E4EF:M 1E5EE-1E5EF:M 1E6E3:M
   1E6E6:M 1E6EE-1E6EF:M 1E6F5:M 1E800-1E8CF:R 1E8D0-1E8D6:M 1E922-1E943:R 1E944-1E94A:M
   1E94B-1ED3D:R 1EEF0-1F12F:N 1F16D-1F16F:N 1F1AD:N 1F260-1FBFA:N"

/-- The classes of the characters that are not left-to-right letters. -/
def directionTable : CodeTable :=
  .read directionCodes

namespace Direction

/-- The class of a character. -/
def ofChar (c : Char) : Direction :=
  match directionTable.note? c with
  | some ['R'] => rightToLeft
  | some ['E'] => westernDigit
  | some ['A'] => arabicDigit
  | some ['M'] => mark
  | some ['N'] => neutral
  | _ => leftToRight

/-- Whether a character of the class makes the direction of a name matter. -/
def isRightToLeft (d : Direction) : Bool :=
  d == rightToLeft || d == arabicDigit

end Direction

/-- Whether a text has a character for which the direction matters; there is none in ASCII. -/
def hasRightToLeft (cs : List Char) : Bool :=
  cs.any fun c => 0x80 ≤ c.toNat && (Direction.ofChar c).isRightToLeft

/-- Whether the classes of a label are in order.  A label begins with a letter.  It holds no letter
of the other direction, and one from right to left not both sorts of digits; before marks at its end
it has a letter of its direction or a digit that belongs to it. -/
def isInOrder (classes : List Direction) : Bool :=
  let last := (classes.reverse.dropWhile (· == .mark)).head?
  match classes.head? with
  | none => true
  | some .leftToRight =>
    !classes.any Direction.isRightToLeft && [some .leftToRight, some .westernDigit].contains last
  | some .rightToLeft =>
    !classes.contains .leftToRight
      && !(classes.contains .westernDigit && classes.contains .arabicDigit)
      && [some .rightToLeft, some .westernDigit, some .arabicDigit].contains last
  | some _ => false

/-- Whether every label of a name is in order, where the direction matters. -/
def areInOrder (labels : List (List Char)) : Bool :=
  !labels.any hasRightToLeft || labels.all fun label => isInOrder (label.map Direction.ofChar)

end CourseReview.Url
