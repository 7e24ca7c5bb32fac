import WebScope.Unicode.Runs

/-!
# Joining of letters

The joining types of characters of cursive scripts. They decide where a host name can hold a zero-width non-joiner:
between a letter that joins forward and one that joins backward.
-/

namespace WebScope
namespace Unicode

/-- **The joining types** that can stand around a non-joiner. -/
inductive JoiningType
  /-- Joins on neither side. -/
  | none
  /-- Joins on both sides. -/
  | both
  /-- Joins to the character before it. -/
  | right
  /-- Joins to the character after it. -/
  | left
  /-- Does not interrupt a join. -/
  | transparent
  deriving DecidableEq, Repr

/-- The runs of joining types, by number: both 1, right 2, left 3, transparent 4. -/
def joiningRuns : Runs := .ofText "
  00AD=4 0300-036F=4 0483-0489=4 0591-05BD=4 05BF=4 05C1-05C2=4 05C4-05C5=4 05C7=4 0610-061A=4 061C=4 0620=1
  0622-0625=2 0626=1 0627=2 0628=1 0629=2 062A-062E=1 062F-0632=2 0633-063F=1 0641-0647=1 0648=2 0649-064A=1
  064B-065F=4 066E-066F=1 0670=4 0671-0673=2 0675-0677=2 0678-0687=1 0688-0699=2 069A-06BF=1 06C0=2 06C1-06C2=1
  06C3-06CB=2 06CC=1 06CD=2 06CE=1 06CF=2 06D0-06D1=1 06D2-06D3=2 06D5=2 06D6-06DC=4 06DF-06E4=4 06E7-06E8=4
  06EA-06ED=4 06EE-06EF=2 06FA-06FC=1 06FF=1 070F=4 0710=2 0711=4 0712-0714=1 0715-0719=2 071A-071D=1 071E=2
  071F-0727=1 0728=2 0729=1 072A=2 072B=1 072C=2 072D-072E=1 072F=2 0730-074A=4 074D=2 074E-0758=1 0759-075B=2
  075C-076A=1 076B-076C=2 076D-0770=1 0771=2 0772=1 0773-0774=2 0775-0777=1 0778-0779=2 077A-077F=1 07A6-07B0=4
  07CA-07EA=1 07EB-07F3=4 07FD=4 0816-0819=4 081B-0823=4 0825-0827=4 0829-082D=4 0840=2 0841-0845=1 0846-0847=2
  0848=1 0849=2 084A-0853=1 0854=2 0855=1 0856-0858=2 0859-085B=4 0860=1 0862-0865=1 0867=2 0868=1 0869-086A=2
  0870-0882=2 0886=1 0889-088D=1 088E=2 088F=1 0897-089F=4 08A0-08A9=1 08AA-08AC=2 08AE=2 08AF-08B0=1 08B1-08B2=2
  08B3-08B8=1 08B9=2 08BA-08C8=1 08CA-08E1=4 08E3-0902=4 093A=4 093C=4 0941-0948=4 094D=4 0951-0957=4 0962-0963=4
  0981=4 09BC=4 09C1-09C4=4 09CD=4 09E2-09E3=4 09FE=4 0A01-0A02=4 0A3C=4 0A41-0A42=4 0A47-0A48=4 0A4B-0A4D=4
  0A51=4 0A70-0A71=4 0A75=4 0A81-0A82=4 0ABC=4 0AC1-0AC5=4 0AC7-0AC8=4 0ACD=4 0AE2-0AE3=4 0AFA-0AFF=4 0B01=4
  0B3C=4 0B3F=4 0B41-0B44=4 0B4D=4 0B55-0B56=4 0B62-0B63=4 0B82=4 0BC0=4 0BCD=4 0C00=4 0C04=4 0C3C=4 0C3E-0C40=4
  0C46-0C48=4 0C4A-0C4D=4 0C55-0C56=4 0C62-0C63=4 0C81=4 0CBC=4 0CBF=4 0CC6=4 0CCC-0CCD=4 0CE2-0CE3=4 0D00-0D01=4
  0D3B-0D3C=4 0D41-0D44=4 0D4D=4 0D62-0D63=4 0D81=4 0DCA=4 0DD2-0DD4=4 0DD6=4 0E31=4 0E34-0E3A=4 0E47-0E4E=4
  0EB1=4 0EB4-0EBC=4 0EC8-0ECE=4 0F18-0F19=4 0F35=4 0F37=4 0F39=4 0F71-0F7E=4 0F80-0F84=4 0F86-0F87=4 0F8D-0F97=4
  0F99-0FBC=4 0FC6=4 102D-1030=4 1032-1037=4 1039-103A=4 103D-103E=4 1058-1059=4 105E-1060=4 1071-1074=4 1082=4
  1085-1086=4 108D=4 109D=4 135D-135F=4 1712-1714=4 1732-1733=4 1752-1753=4 1772-1773=4 17B4-17B5=4 17B7-17BD=4
  17C6=4 17C9-17D3=4 17DD=4 1807=1 180B-180D=4 180F=4 1820-1878=1 1885-1886=4 1887-18A8=1 18A9=4 18AA=1
  1920-1922=4 1927-1928=4 1932=4 1939-193B=4 1A17-1A18=4 1A1B=4 1A56=4 1A58-1A5E=4 1A60=4 1A62=4 1A65-1A6C=4
  1A73-1A7C=4 1A7F=4 1AB0-1ADD=4 1AE0-1AEB=4 1B00-1B03=4 1B34=4 1B36-1B3A=4 1B3C=4 1B42=4 1B6B-1B73=4 1B80-1B81=4
  1BA2-1BA5=4 1BA8-1BA9=4 1BAB-1BAD=4 1BE6=4 1BE8-1BE9=4 1BED=4 1BEF-1BF1=4 1C2C-1C33=4 1C36-1C37=4 1CD0-1CD2=4
  1CD4-1CE0=4 1CE2-1CE8=4 1CED=4 1CF4=4 1CF8-1CF9=4 1DC0-1DFF=4 200B=4 200E-200F=4 202A-202E=4 2060-2064=4
  206A-206F=4 20D0-20F0=4 2CEF-2CF1=4 2D7F=4 2DE0-2DFF=4 302A-302D=4 3099-309A=4 A66F-A672=4 A674-A67D=4
  A69E-A69F=4 A6F0-A6F1=4 A802=4 A806=4 A80B=4 A825-A826=4 A82C=4 A840-A871=1 A872=3 A8C4-A8C5=4 A8E0-A8F1=4
  A8FF=4 A926-A92D=4 A947-A951=4 A980-A982=4 A9B3=4 A9B6-A9B9=4 A9BC-A9BD=4 A9E5=4 AA29-AA2E=4 AA31-AA32=4
  AA35-AA36=4 AA43=4 AA4C=4 AA7C=4 AAB0=4 AAB2-AAB4=4 AAB7-AAB8=4 AABE-AABF=4 AAC1=4 AAEC-AAED=4 AAF6=4 ABE5=4
  ABE8=4 ABED=4 FB1E=4 FE00-FE0F=4 FE20-FE2F=4 FEFF=4 FFF9-FFFB=4 101FD=4 102E0=4 10376-1037A=4 10A01-10A03=4
  10A05-10A06=4 10A0C-10A0F=4 10A38-10A3A=4 10A3F=4 10AC0-10AC4=1 10AC5=2 10AC7=2 10AC9-10ACA=2 10ACD=3
  10ACE-10AD2=2 10AD3-10AD6=1 10AD7=3 10AD8-10ADC=1 10ADD=2 10ADE-10AE0=1 10AE1=2 10AE4=2 10AE5-10AE6=4
  10AEB-10AEE=1 10AEF=2 10B80=1 10B81=2 10B82=1 10B83-10B85=2 10B86-10B88=1 10B89=2 10B8A-10B8B=1 10B8C=2 10B8D=1
  10B8E-10B8F=2 10B90=1 10B91=2 10BA9-10BAC=2 10BAD-10BAE=1 10D00=3 10D01-10D21=1 10D22=2 10D23=1 10D24-10D27=4
  10D69-10D6D=4 10EAB-10EAC=4 10EC2=2 10EC3-10EC4=1 10EC6-10EC7=1 10EFA-10EFF=4 10F30-10F32=1 10F33=2
  10F34-10F44=1 10F46-10F50=4 10F51-10F53=1 10F54=2 10F70-10F73=1 10F74-10F75=2 10F76-10F81=1 10F82-10F85=4
  10FB0=1 10FB2-10FB3=1 10FB4-10FB6=2 10FB8=1 10FB9-10FBA=2 10FBB-10FBC=1 10FBD=2 10FBE-10FBF=1 10FC1=1
  10FC2-10FC3=2 10FC4=1 10FC9=2 10FCA=1 10FCB=3 11001=4 11038-11046=4 11070=4 11073-11074=4 1107F-11081=4
  110B3-110B6=4 110B9-110BA=4 110C2=4 11100-11102=4 11127-1112B=4 1112D-11134=4 11173=4 11180-11181=4
  111B6-111BE=4 111C9-111CC=4 111CF=4 1122F-11231=4 11234=4 11236-11237=4 1123E=4 11241=4 112DF=4 112E3-112EA=4
  11300-11301=4 1133B-1133C=4 11340=4 11366-1136C=4 11370-11374=4 113BB-113C0=4 113CE=4 113D0=4 113D2=4
  113E1-113E2=4 11438-1143F=4 11442-11444=4 11446=4 1145E=4 114B3-114B8=4 114BA=4 114BF-114C0=4 114C2-114C3=4
  115B2-115B5=4 115BC-115BD=4 115BF-115C0=4 115DC-115DD=4 11633-1163A=4 1163D=4 1163F-11640=4 116AB=4 116AD=4
  116B0-116B5=4 116B7=4 1171D=4 1171F=4 11722-11725=4 11727-1172B=4 1182F-11837=4 11839-1183A=4 1193B-1193C=4
  1193E=4 11943=4 119D4-119D7=4 119DA-119DB=4 119E0=4 11A01-11A0A=4 11A33-11A38=4 11A3B-11A3E=4 11A47=4
  11A51-11A56=4 11A59-11A5B=4 11A8A-11A96=4 11A98-11A99=4 11B60=4 11B62-11B64=4 11B66=4 11C30-11C36=4
  11C38-11C3D=4 11C3F=4 11C92-11CA7=4 11CAA-11CB0=4 11CB2-11CB3=4 11CB5-11CB6=4 11D31-11D36=4 11D3A=4
  11D3C-11D3D=4 11D3F-11D45=4 11D47=4 11D90-11D91=4 11D95=4 11D97=4 11EF3-11EF4=4 11F00-11F01=4 11F36-11F3A=4
  11F40=4 11F42=4 11F5A=4 13430-13440=4 13447-13455=4 1611E-16129=4 1612D-1612F=4 16AF0-16AF4=4 16B30-16B36=4
  16F4F=4 16F8F-16F92=4 16FE4=4 1BC9D-1BC9E=4 1BCA0-1BCA3=4 1CF00-1CF2D=4 1CF30-1CF46=4 1D167-1D169=4
  1D173-1D182=4 1D185-1D18B=4 1D1AA-1D1AD=4 1D242-1D244=4 1DA00-1DA36=4 1DA3B-1DA6C=4 1DA75=4 1DA84=4
  1DA9B-1DA9F=4 1DAA1-1DAAF=4 1E000-1E006=4 1E008-1E018=4 1E01B-1E021=4 1E023-1E024=4 1E026-1E02A=4 1E08F=4
  1E130-1E136=4 1E2AE=4 1E2EC-1E2EF=4 1E4EC-1E4EF=4 1E5EE-1E5EF=4 1E6E3=4 1E6E6=4 1E6EE-1E6EF=4 1E6F5=4
  1E8D0-1E8D6=4 1E900-1E943=1 1E944-1E94B=4 E0001=4 E0020-E007F=4 E0100-E01EF=4"

/-- The joining type of a character. -/
def joiningType (c : Char) : JoiningType :=
  match joiningRuns.value c with
  | 1 => .both
  | 2 => .right
  | 3 => .left
  | 4 => .transparent
  | _ => .none

end Unicode
end WebScope
