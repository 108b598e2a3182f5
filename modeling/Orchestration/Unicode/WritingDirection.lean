import Orchestration.Unicode.Mark

namespace Orchestration.Unicode

inductive WritingDirection where
  | leftToRight
  | rightToLeft
  | arabicLetter
  | arabicNumber
  | europeanNumber
  | europeanSeparator
  | europeanTerminator
  | commonSeparator
  | boundaryNeutral
  | otherNeutral
  | mark
  | layout
deriving DecidableEq

namespace WritingDirection

/-- Most characters are written from left to right, and are not listed, except
for marks that are. -/
def table : List (WritingDirection × List Range) :=
  [(.leftToRight, ranges "cbf cc6 11a07-11a08 11c3f"),
    (.rightToLeft, ranges "
      590 5be 5c0 5c3 5c6 5c8-5ff 7c0-7ea 7f4-7f5 7fa-7fc 7fe-815 81a 824 828
      82e-858 85c-85f 200f fb1d fb1f-fb28 fb2a-fb4f 10800-1091e 10920-10a00
      10a04 10a07-10a0b 10a10-10a37 10a3b-10a3e 10a40-10ae4 10ae7-10b38
      10b40-10cff 10d40-10d68 10d6f-10e5f 10e7f-10eaa 10ead-10ebf 10f00-10f2f
      10f70-10f81 10f86-10fff 1e800-1e8cf 1e8d7-1e943 1e94b-1ec6f 1ecc0-1ecff
      1ed50-1edff 1ef00-1efff"),
    (.arabicLetter, ranges "
      608 60b 60d 61b-64a 66d-66f 671-6d5 6e5-6e6 6ee-6ef 6fa-710 712-72f
      74b-7a5 7b1-7bf 860-88f 892-896 8a0-8c9 fb50-fbc2 fbd3-fd3d fd50-fd8f
      fd92-fdc7 fdf0-fdfc fe70-fefe 10d00-10d23 10d28-10d2f 10d3a-10d3f
      10ec0-10ecf 10ed9-10ef9 10f30-10f45 10f51-10f6f 1ec70-1ecbf 1ed00-1ed4f
      1ee00-1eeef 1eef2-1eeff"),
    (.arabicNumber, ranges "
      600-605 660-669 66b-66c 6dd 890-891 8e2 10d30-10d39 10e60-10e7e"),
    (.europeanNumber, ranges "
      30-39 b2-b3 b9 6f0-6f9 2070 2074-2079 2080-2089 2488-249b ff10-ff19
      102e1-102fb 1d7ce-1d7ff 1f100-1f10a 1fbf0-1fbf9"),
    (.europeanSeparator, ranges "
      2b 2d 207a-207b 208a-208b 2212 fb29 fe62-fe63 ff0b ff0d"),
    (.europeanTerminator, ranges "
      23-25 a2-a5 b0-b1 58f 609-60a 66a 9f2-9f3 9fb af1 bf9 e3f 17db 2030-2034
      20a0-20cf 212e 2213 a838-a839 fe5f fe69-fe6a ff03-ff05 ffe0-ffe1
      ffe5-ffe6 11fdd-11fe0 1e2ff"),
    (.commonSeparator, ranges "
      2c 2e-2f 3a a0 60c 202f 2044 fe50 fe52 fe55 ff0c ff0e-ff0f ff1a"),
    (.boundaryNeutral, ranges "
      0-8 e-1b 7f-84 86-9f ad 180e 200b-200d 2060-2065 206a-206f fdd0-fdef
      feff fff0-fff8 fffe-ffff 1bca0-1bca3 1d173-1d17a 1fffe-1ffff 2fffe-2ffff
      3fffe-3ffff 4fffe-4ffff 5fffe-5ffff 6fffe-6ffff 7fffe-7ffff 8fffe-8ffff
      9fffe-9ffff afffe-affff bfffe-bffff cfffe-cffff dfffe-e00ff e01f0-e0fff
      efffe-effff ffffe-fffff 10fffe-10ffff"),
    (.otherNeutral, ranges "
      21-22 26-2a 3b-40 5b-60 7b-7e a1 a6-a9 ab-ac ae-af b4 b6-b8 bb-bf d7 f7
      2b9-2ba 2c2-2cf 2d2-2df 2e5-2ed 2ef-2ff 374-375 37e 384-385 387 3f6 58a
      58d-58e 606-607 60e-60f 6de 6e9 7f6-7f9 bf3-bf8 bfa c78-c7e f3a-f3d
      1390-1399 1400 169b-169c 17f0-17f9 1800-180a 1940 1944-1945 19de-19ff
      1fbd 1fbf-1fc1 1fcd-1fcf 1fdd-1fdf 1fed-1fef 1ffd-1ffe 2010-2027
      2035-2043 2045-205e 207c-207e 208c-208e 2100-2101 2103-2106 2108-2109
      2114 2116-2118 211e-2123 2125 2127 2129 213a-213b 2140-2144 214a-214d
      2150-215f 2189-218b 2190-2211 2214-2335 237b-2394 2396-2429 2440-244a
      2460-2487 24ea-26ab 26ad-27ff 2900-2b73 2b76-2bff 2ce5-2cea 2cf9-2cff
      2e00-2e5d 2e80-2e99 2e9b-2ef3 2f00-2fd5 2ff0-2ffb 3001-3004 3008-3020
      3030 3036-3037 303d-303f 309b-309c 30a0 30fb 31c0-31e5 321d-321e
      3250-325f 327c-327e 32b1-32bf 32cc-32cf 3377-337a 33de-33df 33ff
      4dc0-4dff a490-a4c6 a60d-a60f a673 a67e-a67f a700-a721 a788 a828-a82b
      a874-a877 ab6a-ab6b fbc3-fbd2 fd3e-fd4f fd90-fd91 fdc8-fdcf fdfd-fdff
      fe10-fe19 fe30-fe4f fe51 fe54 fe56-fe5e fe60-fe61 fe64-fe66 fe68 fe6b
      ff01-ff02 ff06-ff0a ff1b-ff20 ff3b-ff40 ff5b-ff65 ffe2-ffe4 ffe8-ffee
      fff9-fffd 10101 10140-1018c 10190-1019c 101a0 1091f 10b39-10b3f 10d6e
      10ed0-10ed8 11052-11065 11660-1166c 11fd5-11fdc 11fe1-11ff1 16fe2
      1cc00-1ccd5 1ccfa-1ccfc 1cd00-1ceb3 1ceba-1ced0 1cee0-1cef0 1d1e9-1d1ea
      1d200-1d241 1d245 1d300-1d356 1d6db 1d715 1d74f 1d789 1d7c3 1eef0-1eef1
      1f000-1f02b 1f030-1f093 1f0a0-1f0ae 1f0b1-1f0bf 1f0c1-1f0cf 1f0d1-1f0f5
      1f10b-1f10f 1f12f 1f16a-1f16f 1f1ad 1f260-1f265 1f300-1f6d8 1f6dc-1f6ec
      1f6f0-1f6fc 1f700-1f7d9 1f7e0-1f7eb 1f7f0 1f800-1f80b 1f810-1f847
      1f850-1f859 1f860-1f887 1f890-1f8ad 1f8b0-1f8bb 1f8c0-1f8c1 1f8d0-1f8d8
      1f900-1fa57 1fa60-1fa6d 1fa70-1fa7c 1fa80-1fa8a 1fa8e-1fac6 1fac8
      1facd-1fadc 1fadf-1faea 1faef-1faf8 1fb00-1fb92 1fb94-1fbef 1fbfa"),
    (.layout, ranges "
      9-d 1c-20 85 1680 2000-200a 2028-202e 205f 2066-2069 3000")]

def of (c : Char) : WritingDirection :=
  match table.find? fun row => among row.2 c with
  | some (direction, _) => direction
  | none => if isNonspacingMark c then .mark else .leftToRight

end WritingDirection

end Orchestration.Unicode
