import WebScope.Unicode.Runs

/-!
# Writing direction

The classes of characters by which the writing direction of a label of a host name is judged, as far as the rule for
such labels tells them apart.
-/

namespace WebScope
namespace Unicode

/-- **The direction classes** of characters. -/
inductive Direction
  /-- Letters written from left to right. -/
  | leftToRight
  /-- Letters written from right to left. -/
  | rightToLeft
  /-- Digits of right-to-left scripts. -/
  | arabicNumber
  /-- Digits of other scripts. -/
  | europeanNumber
  /-- Marks, which take the direction of what they stand on. -/
  | mark
  /-- Separators, terminators, symbols and invisible characters, which take either direction. -/
  | neutral
  /-- Blanks, paragraph separators and explicit formatting, which no label holds. -/
  | breaking
  deriving DecidableEq, Repr

/-- The runs of direction classes, by number: right-to-left 1, Arabic number 2, European number 3, mark 4, neutral 5,
breaking 6. -/
def directionRuns : Runs := .ofText "
  0000-0008=5 0009-000D=6 000E-001B=5 001C-0020=6 0021-002F=5 0030-0039=3 003A-0040=5 005B-0060=5 007B-0084=5
  0085=6 0086-00A9=5 00AB-00B1=5 00B2-00B3=3 00B4=5 00B6-00B8=5 00B9=3 00BB-00BF=5 00D7=5 00F7=5 02B9-02BA=5
  02C2-02CF=5 02D2-02DF=5 02E5-02ED=5 02EF-02FF=5 0300-036F=4 0374-0375=5 037E=5 0384-0385=5 0387=5 03F6=5
  0483-0489=4 058A-0590=5 0591-05BD=4 05BE=1 05BF=4 05C0=1 05C1-05C2=4 05C3=1 05C4-05C5=4 05C6=1 05C7-05CF=4
  05D0-05FF=1 0600-0605=2 0606-0607=5 0608=1 0609-060A=5 060B=1 060C=5 060D=1 060E-060F=5 0610-061A=4 061B-064A=1
  064B-065F=4 0660-0669=2 066A=5 066B-066C=2 066D-066F=1 0670=4 0671-06D5=1 06D6-06DC=4 06DD=2 06DE=5 06DF-06E4=4
  06E5-06E6=1 06E7-06E8=4 06E9=5 06EA-06ED=4 06EE-06EF=1 06F0-06F9=3 06FA-0710=1 0711=4 0712-072F=1 0730-074C=4
  074D-07A5=1 07A6-07B0=4 07B1-07EA=1 07EB-07F3=4 07F4-07F5=1 07F6-07F9=5 07FA-07FC=1 07FD=4 07FE-0815=1
  0816-0819=4 081A=1 081B-0823=4 0824=1 0825-0827=4 0828=1 0829-082F=4 0830-0858=1 0859-085D=4 085E-088F=1
  0890-0896=2 0897-089F=4 08A0-08C9=1 08CA-08E1=4 08E2=2 08E3-0902=4 093A=4 093C=4 0941-0948=4 094D=4 0951-0957=4
  0962-0963=4 0981=4 09BC=4 09C1-09C6=4 09CD=4 09E2-09E5=4 09F2-09F3=5 09FB=5 09FE-0A02=4 0A3C-0A3D=4 0A41-0A58=4
  0A70-0A71=4 0A75=4 0A81-0A82=4 0ABC=4 0AC1-0AC8=4 0ACD-0ACF=4 0AE2-0AE5=4 0AF1-0AF8=5 0AFA-0B01=4 0B3C=4 0B3F=4
  0B41-0B46=4 0B4D-0B56=4 0B62-0B65=4 0B82=4 0BC0=4 0BCD-0BCF=4 0BF3-0BFF=5 0C00=4 0C04=4 0C3C=4 0C3E-0C40=4
  0C46-0C57=4 0C62-0C65=4 0C78-0C7E=5 0C81=4 0CBC=4 0CCC-0CD4=4 0CE2-0CE5=4 0D00-0D01=4 0D3B-0D3C=4 0D41-0D45=4
  0D4D=4 0D62-0D65=4 0D81=4 0DCA-0DCE=4 0DD2-0DD7=4 0E31=4 0E34-0E3E=4 0E3F=5 0E47-0E4E=4 0EB1=4 0EB4-0EBC=4
  0EC8-0ECF=4 0F18-0F19=4 0F35=4 0F37=4 0F39=4 0F3A-0F3D=5 0F71-0F7E=4 0F80-0F84=4 0F86-0F87=4 0F8D-0FBD=4 0FC6=4
  102D-1030=4 1032-1037=4 1039-103A=4 103D-103E=4 1058-1059=4 105E-1060=4 1071-1074=4 1082=4 1085-1086=4 108D=4
  109D=4 135D-135F=4 1390-139F=5 1400=5 1680=6 169B-169F=5 1712-1714=4 1732-1733=4 1752-175F=4 1772-177F=4
  17B4-17B5=4 17B7-17BD=4 17C6=4 17C9-17D3=4 17DB=5 17DD-17DF=4 17F0-180A=5 180B-180D=4 180E=5 180F=4 1885-1886=4
  18A9=4 1920-1922=4 1927-1928=4 1932=4 1939-193F=4 1940-1945=5 19DE-19FF=5 1A17-1A18=4 1A1B-1A1D=4 1A56=4
  1A58-1A60=4 1A62=4 1A65-1A6C=4 1A73-1A7F=4 1AB0-1B03=4 1B34=4 1B36-1B3A=4 1B3C=4 1B42=4 1B6B-1B73=4 1B80-1B81=4
  1BA2-1BA5=4 1BA8-1BA9=4 1BAB-1BAD=4 1BE6=4 1BE8-1BE9=4 1BED=4 1BEF-1BF1=4 1C2C-1C33=4 1C36-1C3A=4 1CD0-1CD2=4
  1CD4-1CE0=4 1CE2-1CE8=4 1CED=4 1CF4=4 1CF8-1CF9=4 1DC0-1DFF=4 1FBD=5 1FBF-1FC1=5 1FCD-1FCF=5 1FDD-1FDF=5
  1FED-1FF1=5 1FFD-1FFF=5 2000-200A=6 200B-200D=5 200F=1 2010-2027=5 2028-202E=6 202F-205E=5 205F=6 2060-2065=5
  2066-2069=6 206A-206F=5 2070=3 2074-2079=3 207A-207E=5 2080-2089=3 208A-208F=5 20A0-20CF=5 20D0-20FF=4
  2100-2101=5 2103-2106=5 2108-2109=5 2114=5 2116-2118=5 211E-2123=5 2125=5 2127=5 2129=5 212E=5 213A-213B=5
  2140-2144=5 214A-214D=5 2150-215F=5 2189-2335=5 237B-2394=5 2396-2487=5 2488-249B=3 24EA-26AB=5 26AD-27FF=5
  2900-2BFF=5 2CE5-2CEA=5 2CEF-2CF1=4 2CF9-2CFF=5 2D7F=4 2DE0-2DFF=4 2E00-2FFF=5 3000=6 3001-3004=5 3008-3020=5
  302A-302D=4 3030=5 3036-3037=5 303D-3040=5 3099-309A=4 309B-309C=5 30A0=5 30FB=5 31C0-31EF=5 321D-321F=5
  3250-325F=5 327C-327E=5 32B1-32BF=5 32CC-32CF=5 3377-337A=5 33DE-33DF=5 33FF=5 4DC0-4DFF=5 A490-A4CF=5
  A60D-A60F=5 A66F-A672=4 A673=5 A674-A67D=4 A67E-A67F=5 A69E-A69F=4 A6F0-A6F1=4 A700-A721=5 A788=5 A802=4 A806=4
  A80B=4 A825-A826=4 A828-A82B=5 A82C-A82F=4 A838-A83F=5 A874-A87F=5 A8C4-A8CD=4 A8E0-A8F1=4 A8FF=4 A926-A92D=4
  A947-A951=4 A980-A982=4 A9B3=4 A9B6-A9B9=4 A9BC-A9BD=4 A9E5=4 AA29-AA2E=4 AA31-AA32=4 AA35-AA3F=4 AA43=4 AA4C=4
  AA7C=4 AAB0=4 AAB2-AAB4=4 AAB7-AAB8=4 AABE-AABF=4 AAC1=4 AAEC-AAED=4 AAF6-AB00=4 AB6A-AB6F=5 ABE5=4 ABE8=4
  ABED-ABEF=4 FB1D=1 FB1E=4 FB1F-FB28=1 FB29=5 FB2A-FBC2=1 FBC3-FBD2=5 FBD3-FD3D=1 FD3E-FD4F=5 FD50-FD8F=1
  FD90-FD91=5 FD92-FDC7=1 FDC8-FDEF=5 FDF0-FDFC=1 FDFD-FDFF=5 FE00-FE0F=4 FE10-FE1F=5 FE20-FE2F=4 FE30-FE6F=5
  FE70-FEFE=1 FEFF-FF0F=5 FF10-FF19=3 FF1A-FF20=5 FF3B-FF40=5 FF5B-FF65=5 FFE0-FFFF=5 10101=5 10140-1018C=5
  10190-101CF=5 101FD-1027F=4 102E0=4 102E1-102FF=3 10376-1037F=4 10800-1091E=1 1091F=5 10920-10A00=1
  10A01-10A0F=4 10A10-10A37=1 10A38-10A3F=4 10A40-10AE4=1 10AE5-10AEA=4 10AEB-10B38=1 10B39-10B3F=5 10B40-10D23=1
  10D24-10D2F=4 10D30-10D3F=2 10D40-10D68=1 10D69-10D6D=4 10D6E-10E5F=1 10E60-10E7F=2 10E80-10EAA=1 10EAB-10EAC=4
  10EAD-10ECF=1 10ED1-10EF9=5 10EFA-10EFF=4 10F00-10F45=1 10F46-10F50=4 10F51-10F81=1 10F82-10F85=4 10F86-10FFF=1
  11001=4 11038-11046=4 11052-11065=5 11070=4 11073-11074=4 1107F-11081=4 110B3-110B6=4 110B9-110BA=4
  110C2-110CC=4 11100-11102=4 11127-1112B=4 1112D-11135=4 11173=4 11180-11181=4 111B6-111BE=4 111C9-111CC=4
  111CF=4 1122F-11231=4 11234=4 11236-11237=4 1123E=4 11241-1127F=4 112DF=4 112E3-112EF=4 11300-11301=4
  1133B-1133C=4 11340=4 11366-1137F=4 113BB-113C1=4 113CE=4 113D0=4 113D2=4 113E1-113FF=4 11438-1143F=4
  11442-11444=4 11446=4 1145E=4 114B3-114B8=4 114BA=4 114BF-114C0=4 114C2-114C3=4 115B2-115B7=4 115BC-115BD=4
  115BF-115C0=4 115DC-115FF=4 11633-1163A=4 1163D=4 1163F-11640=4 11660-1167F=5 116AB=4 116AD=4 116B0-116B5=4
  116B7=4 1171D-1171F=4 11722-11725=4 11727-1172F=4 1182F-11837=4 11839-1183A=4 1193B-1193C=4 1193E=4 11943=4
  119D4-119DB=4 119E0=4 11A01-11A06=4 11A09-11A0A=4 11A33-11A38=4 11A3B-11A3E=4 11A47-11A4F=4 11A51-11A56=4
  11A59-11A5B=4 11A8A-11A96=4 11A98-11A99=4 11B60=4 11B62-11B64=4 11B66=4 11C30-11C3D=4 11C92-11CA8=4
  11CAA-11CB0=4 11CB2-11CB3=4 11CB5-11CFF=4 11D31-11D45=4 11D47-11D4F=4 11D90-11D92=4 11D95=4 11D97=4
  11EF3-11EF4=4 11F00-11F01=4 11F36-11F3D=4 11F40=4 11F42=4 11F5A-11FAF=4 11FD5-11FFE=5 13440=4 13447-1345F=4
  1611E-16129=4 1612D-1612F=4 16AF0-16AF4=4 16B30-16B36=4 16F4F=4 16F8F-16F92=4 16FE2=5 16FE4-16FEF=4
  1BC9D-1BC9E=4 1BCA0-1CCEF=5 1CCFA-1CEFF=5 1CF00-1CF4F=4 1D167-1D169=4 1D173-1D17A=5 1D17B-1D182=4 1D185-1D18B=4
  1D1AA-1D1AD=4 1D1E9-1D241=5 1D242-1D244=4 1D245-1D2BF=5 1D300-1D35F=5 1D6DB=5 1D715=5 1D74F=5 1D789=5 1D7C3=5
  1D7CE-1D7FF=3 1DA00-1DA36=4 1DA3B-1DA6C=4 1DA75=4 1DA84=4 1DA9B-1DEFF=4 1E000-1E02F=4 1E08F-1E0FF=4
  1E130-1E136=4 1E2AE-1E2BF=4 1E2EC-1E2EF=4 1E2FF-1E4CF=5 1E4EC-1E4EF=4 1E5EE-1E5EF=4 1E6E3=4 1E6E6=4
  1E6EE-1E6EF=4 1E6F5-1E6FD=4 1E800-1E8CF=1 1E8D0-1E8FF=4 1E900-1E943=1 1E944-1E94A=4 1E94B-1EEEF=1 1EEF0-1F0FF=5
  1F100-1F10A=3 1F10B-1F10F=5 1F12F=5 1F16A-1F16F=5 1F1AD-1F1E5=5 1F260-1FBEF=5 1FBF0-1FBF9=3 1FBFA-1FFFF=5
  E0001-E00FF=5 E0100-EFFFF=4"

/-- The direction class of a character. -/
def direction (c : Char) : Direction :=
  match directionRuns.value c with
  | 1 => .rightToLeft
  | 2 => .arabicNumber
  | 3 => .europeanNumber
  | 4 => .mark
  | 5 => .neutral
  | 6 => .breaking
  | _ => .leftToRight

end Unicode
end WebScope
