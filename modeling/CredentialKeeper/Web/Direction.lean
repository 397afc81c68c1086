import CredentialKeeper.Text.CodePoints

/-!
# Directions in host names

Some scripts run from right to left. In a name with letters of theirs each label must keep to one
direction, so that it looks like what it is (`keepsDirection`).
-/

namespace CredentialKeeper.Web

inductive Direction where
  | leftToRight
  | rightToLeft
  | arabicLetter
  | arabicNumber
  | europeanNumber
  | europeanSeparator
  | commonSeparator
  | europeanTerminator
  | boundary
  | mark
  | neutral
deriving DecidableEq

namespace Direction

/-- The characters of all directions but `leftToRight`. -/
def table : List (Direction × Array (Nat × Nat)) :=
  [
    (.rightToLeft, "5be 5c0 5c3 5c6 5d0-5f4 7c0-7ea 7f4-7f5 7fa 7fe-815 81a 824 828 830-858 85e
      10800-1091b 10920-10a00 10a10-10a35 10a40-10ae4 10aeb-10b35 10b40-10cff 10d40-10d4f
      10d6f-10d8f 10e80-10ea9 10ead-10eb1 10f00-10f27 10f70-10f81 10f86-10ff6 1e800-1e8cf
      1e922-1e943 1e94b-1e95f"),
    (.arabicLetter, "608 60b 60d 61b-64a 66d-66f 671-6d5 6e5-6e6 6ee-6ef 6fa-710 712-72f 74d-7a5
      7b1 860-88f 8a0-8c9 fbb2-fbc2 fe73 10d00-10d23 10ec2-10ed0 10f30-10f45 10f51-10f59
      1ec71-1ed3d"),
    (.arabicNumber, "660-669 66b-66c 10d30-10d39 10e60-10e7e"),
    (.europeanNumber, "30-39 6f0-6f9 102e1-102fb"),
    (.europeanSeparator, "2b 2d 2212"),
    (.commonSeparator, "2c 2e-2f 3a 60c 2044"),
    (.europeanTerminator, "23-25 a2-a5 b0-b1 58f 609-60a 66a 9f2-9f3 9fb af1 bf9 e3f 17db
      2030-2032 20a0-20c1 212e 2213 a838-a839 11fdd-11fe0 1e2ff"),
    (.boundary, "0-8 e-1b 7f 200c-200d"),
    (.mark, "300-36f 483-489 591-5bd 5bf 5c1-5c2 5c4-5c5 5c7 610-61a 64b-65f 670 6d6-6dc 6df-6e4
      6e7-6e8 6ea-6ed 711 730-74a 7a6-7b0 7eb-7f3 7fd 816-819 81b-823 825-827 829-82d 859-85b
      897-89f 8ca-902 93a 93c 941-948 94d 951-957 962-963 981 9bc 9c1-9c4 9cd 9e2-9e3 9fe-a02 a3c
      a41-a51 a70-a71 a75 a81-a82 abc ac1-ac8 acd ae2-ae3 afa-b01 b3c b3f b41-b44 b4d-b56 b62-b63
      b82 bc0 bcd c00 c04 c3c c3e-c40 c46-c56 c62-c63 c81 cbc ccc-ccd ce2-ce3 d00-d01 d3b-d3c
      d41-d44 d4d d62-d63 d81 dca dd2-dd6 e31 e34-e3a e47-e4e eb1 eb4-ebc ec8-ece f18-f19 f35 f37
      f39 f71-f7e f80-f84 f86-f87 f8d-fbc fc6 102d-1030 1032-1037 1039-103a 103d-103e 1058-1059
      105e-1060 1071-1074 1082 1085-1086 108d 109d 135d-135f 1712-1714 1732-1733 1752-1753
      1772-1773 17b7-17bd 17c6 17c9-17d3 17dd 1885-1886 18a9 1920-1922 1927-1928 1932 1939-193b
      1a17-1a18 1a1b 1a56 1a58-1a60 1a62 1a65-1a6c 1a73-1a7f 1ab0-1b03 1b34 1b36-1b3a 1b3c 1b42
      1b6b-1b73 1b80-1b81 1ba2-1ba5 1ba8-1ba9 1bab-1bad 1be6 1be8-1be9 1bed 1bef-1bf1 1c2c-1c33
      1c36-1c37 1cd0-1cd2 1cd4-1ce0 1ce2-1ce8 1ced 1cf4 1cf8-1cf9 1dc0-1dff 20d0-20f0 2cef-2cf1
      2d7f 2de0-2dff 302a-302d 3099-309a a66f-a672 a674-a67d a69e-a69f a6f0-a6f1 a802 a806 a80b
      a825-a826 a82c a8c4-a8c5 a8e0-a8f1 a8ff a926-a92d a947-a951 a980-a982 a9b3 a9b6-a9b9
      a9bc-a9bd a9e5 aa29-aa2e aa31-aa32 aa35-aa36 aa43 aa4c aa7c aab0 aab2-aab4 aab7-aab8
      aabe-aabf aac1 aaec-aaed aaf6 abe5 abe8 abed fb1e fe20-fe2f 101fd 102e0 10376-1037a
      10a01-10a0f 10a38-10a3f 10ae5-10ae6 10d24-10d27 10d69-10d6d 10eab-10eac 10efa-10eff
      10f46-10f50 10f82-10f85 11001 11038-11046 11070 11073-11074 1107f-11081 110b3-110b6
      110b9-110ba 110c2 11100-11102 11127-1112b 1112d-11134 11173 11180-11181 111b6-111be
      111c9-111cc 111cf 1122f-11231 11234 11236-11237 1123e 11241 112df 112e3-112ea 11300-11301
      1133b-1133c 11340 11366-11374 113bb-113c0 113ce 113d0 113d2 113e1-113e2 11438-1143f
      11442-11444 11446 1145e 114b3-114b8 114ba 114bf-114c0 114c2-114c3 115b2-115b5 115bc-115bd
      115bf-115c0 115dc-115dd 11633-1163a 1163d 1163f-11640 116ab 116ad 116b0-116b5 116b7
      1171d-1171f 11722-11725 11727-1172b 1182f-11837 11839-1183a 1193b-1193c 1193e 11943
      119d4-119db 119e0 11a01-11a06 11a09-11a0a 11a33-11a38 11a3b-11a3e 11a47 11a51-11a56
      11a59-11a5b 11a8a-11a96 11a98-11a99 11b60 11b62-11b64 11b66 11c30-11c3d 11c92-11ca7
      11caa-11cb0 11cb2-11cb3 11cb5-11cb6 11d31-11d45 11d47 11d90-11d91 11d95 11d97 11ef3-11ef4
      11f00-11f01 11f36-11f3a 11f40 11f42 11f5a 13440 13447-13455 1611e-16129 1612d-1612f
      16af0-16af4 16b30-16b36 16f4f 16f8f-16f92 16fe4 1bc9d-1bc9e 1cf00-1cf46 1d167-1d169
      1d17b-1d182 1d185-1d18b 1d1aa-1d1ad 1d242-1d244 1da00-1da36 1da3b-1da6c 1da75 1da84
      1da9b-1daaf 1e000-1e08f 1e130-1e136 1e2ae 1e2ec-1e2ef 1e4ec-1e4ef 1e5ee-1e5ef 1e6e3 1e6e6
      1e6ee-1e6ef 1e6f5 1e8d0-1e8d6 1e944-1e94a"),
    (.neutral, "21-22 26-2a 3b-60 7b-7e a1 a6-ae b6-d7 f7 2b9-2ba 2c2-2cf 2d2-2ed 2ef-2ff 375 3f6
      58a-58e 606-607 60e-60f 6de 6e9 7f6-7f9 bf3-bf8 bfa c78-c7e f3a-f3d 1390-1399 1400
      169b-169c 17f0-180a 1940-1945 19de-19ff 2010-2027 2035-2043 2045-205e 2104-2129 213a-214d
      218a-2211 2214-2335 237b-2394 2396-26ab 26ad-27ff 2900-2bff 2ce5-2cea 2cf9-2cff 2e00-3004
      3008-3020 3030 3037 303d-303f 30a0 30fb 31c0-31e5 4dc0-4dff a490-a4c6 a60d-a60f a673
      a67e-a67f a700-a721 a788 a828-a82b a874-a877 ab6a-ab6b fbc3-fdff fe45-fe46 10101
      10140-1018c 10190-101a0 1091f 10b39-10b3f 10d6e 10ed1-10ed8 11052-11065 11660-1166c
      11fd5-11fdc 11fe1-11ff1 16fe2 1cc00-1cef0 1d1e9-1d241 1d245 1d300-1d356 1eef0-1f12f
      1f16d-1f16f 1f1ad 1f260-1fbfa")
  ].map fun (d, ranges) => (d, Text.readRanges ranges)

def ofChar (c : Char) : Direction :=
  ((table.find? fun (_, ranges) => Text.inRanges ranges c.toNat).map (·.1)).getD .leftToRight

/-- A name with such a character runs from right to left somewhere. -/
def isRightward (d : Direction) : Bool :=
  match d with
  | rightToLeft | arabicLetter | arabicNumber => true
  | _ => false

end Direction

/-- A label keeps to the direction of its first character: what may stand in it, what it may end in
before its last marks, and, from right to left, numbers of one kind only. -/
def keepsDirection (label : List Char) : Bool :=
  let directions := label.map Direction.ofChar
  let last := ((directions.reverse.dropWhile (· = .mark)).head?).getD .neutral
  let inBoth : List Direction := [.europeanNumber, .europeanSeparator, .commonSeparator,
    .europeanTerminator, .neutral, .boundary, .mark]
  match directions with
  | [] => true
  | .leftToRight :: _ =>
    directions.all (fun d => d = .leftToRight || inBoth.contains d) &&
      (last = .leftToRight || last = .europeanNumber)
  | first :: _ =>
    (first = .rightToLeft || first = .arabicLetter) &&
      directions.all (fun d => d.isRightward || inBoth.contains d) &&
      (last.isRightward || last = .europeanNumber) &&
      !(directions.contains .europeanNumber && directions.contains .arabicNumber)

/-- The labels of a name keep to their directions, or none runs from right to left. -/
def keepDirections (labels : List (List Char)) : Bool :=
  labels.all keepsDirection || !labels.any (·.any fun c => (Direction.ofChar c).isRightward)

end CredentialKeeper.Web
