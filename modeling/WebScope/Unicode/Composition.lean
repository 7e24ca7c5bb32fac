import WebScope.Unicode.Runs

/-!
# Canonical composition

Normal form C: each character is taken apart, the marks behind a base are put in the order of their classes, and what
has a composed form is composed again. The tables hold the composed characters that composition can give; the other
characters with a decomposition are replaced by the mapping of host names before any text reaches this file.
-/

namespace WebScope
namespace Unicode

/-- The runs of combining classes. -/
def combiningRuns : Runs := .ofText "
  0300-0314=E6 0315=E8 0316-0319=DC 031A=E8 031B=D8 031C-0320=DC 0321-0322=CA 0323-0326=DC 0327-0328=CA
  0329-0333=DC 0334-0338=1 0339-033C=DC 033D-0344=E6 0345=F0 0346=E6 0347-0349=DC 034A-034C=E6 034D-034E=DC
  0350-0352=E6 0353-0356=DC 0357=E6 0358=E8 0359-035A=DC 035B=E6 035C=E9 035D-035E=EA 035F=E9 0360-0361=EA 0362=E9
  0363-036F=E6 0483-0487=E6 0591=DC 0592-0595=E6 0596=DC 0597-0599=E6 059A=DE 059B=DC 059C-05A1=E6 05A2-05A7=DC
  05A8-05A9=E6 05AA=DC 05AB-05AC=E6 05AD=DE 05AE=E4 05AF=E6 05B0=A 05B1=B 05B2=C 05B3=D 05B4=E 05B5=F 05B6=10
  05B7=11 05B8=12 05B9-05BA=13 05BB=14 05BC=15 05BD=16 05BF=17 05C1=18 05C2=19 05C4=E6 05C5=DC 05C7=12
  0610-0617=E6 0618=1E 0619=1F 061A=20 064B=1B 064C=1C 064D=1D 064E=1E 064F=1F 0650=20 0651=21 0652=22
  0653-0654=E6 0655-0656=DC 0657-065B=E6 065C=DC 065D-065E=E6 065F=DC 0670=23 06D6-06DC=E6 06DF-06E2=E6 06E3=DC
  06E4=E6 06E7-06E8=E6 06EA=DC 06EB-06EC=E6 06ED=DC 0711=24 0730=E6 0731=DC 0732-0733=E6 0734=DC 0735-0736=E6
  0737-0739=DC 073A=E6 073B-073C=DC 073D=E6 073E=DC 073F-0741=E6 0742=DC 0743=E6 0744=DC 0745=E6 0746=DC 0747=E6
  0748=DC 0749-074A=E6 07EB-07F1=E6 07F2=DC 07F3=E6 07FD=DC 0816-0819=E6 081B-0823=E6 0825-0827=E6 0829-082D=E6
  0859-085B=DC 0897-0898=E6 0899-089B=DC 089C-089F=E6 08CA-08CE=E6 08CF-08D3=DC 08D4-08E1=E6 08E3=DC 08E4-08E5=E6
  08E6=DC 08E7-08E8=E6 08E9=DC 08EA-08EC=E6 08ED-08EF=DC 08F0=1B 08F1=1C 08F2=1D 08F3-08F5=E6 08F6=DC 08F7-08F8=E6
  08F9-08FA=DC 08FB-08FF=E6 093C=7 094D=9 0951=E6 0952=DC 0953-0954=E6 09BC=7 09CD=9 09FE=E6 0A3C=7 0A4D=9 0ABC=7
  0ACD=9 0B3C=7 0B4D=9 0BCD=9 0C3C=7 0C4D=9 0C55=54 0C56=5B 0CBC=7 0CCD=9 0D3B-0D3C=9 0D4D=9 0DCA=9 0E38-0E39=67
  0E3A=9 0E48-0E4B=6B 0EB8-0EB9=76 0EBA=9 0EC8-0ECB=7A 0F18-0F19=DC 0F35=DC 0F37=DC 0F39=D8 0F71=81 0F72=82
  0F74=84 0F7A-0F7D=82 0F80=82 0F82-0F83=E6 0F84=9 0F86-0F87=E6 0FC6=DC 1037=7 1039-103A=9 108D=DC 135D-135F=E6
  1714-1715=9 1734=9 17D2=9 17DD=E6 18A9=E4 1939=DE 193A=E6 193B=DC 1A17=E6 1A18=DC 1A60=9 1A75-1A7C=E6 1A7F=DC
  1AB0-1AB4=E6 1AB5-1ABA=DC 1ABB-1ABC=E6 1ABD=DC 1ABF-1AC0=DC 1AC1-1AC2=E6 1AC3-1AC4=DC 1AC5-1AC9=E6 1ACA=DC
  1ACB-1ADC=E6 1ADD=DC 1AE0-1AE5=E6 1AE6=DC 1AE7-1AEA=E6 1AEB=EA 1B34=7 1B44=9 1B6B=E6 1B6C=DC 1B6D-1B73=E6
  1BAA-1BAB=9 1BE6=7 1BF2-1BF3=9 1C37=7 1CD0-1CD2=E6 1CD4=1 1CD5-1CD9=DC 1CDA-1CDB=E6 1CDC-1CDF=DC 1CE0=E6
  1CE2-1CE8=1 1CED=DC 1CF4=E6 1CF8-1CF9=E6 1DC0-1DC1=E6 1DC2=DC 1DC3-1DC9=E6 1DCA=DC 1DCB-1DCC=E6 1DCD=EA 1DCE=D6
  1DCF=DC 1DD0=CA 1DD1-1DF5=E6 1DF6=E8 1DF7-1DF8=E4 1DF9=DC 1DFA=DA 1DFB=E6 1DFC=E9 1DFD=DC 1DFE=E6 1DFF=DC
  20D0-20D1=E6 20D2-20D3=1 20D4-20D7=E6 20D8-20DA=1 20DB-20DC=E6 20E1=E6 20E5-20E6=1 20E7=E6 20E8=DC 20E9=E6
  20EA-20EB=1 20EC-20EF=DC 20F0=E6 2CEF-2CF1=E6 2D7F=9 2DE0-2DFF=E6 302A=DA 302B=E4 302C=E8 302D=DE 302E-302F=E0
  3099-309A=8 A66F=E6 A674-A67D=E6 A69E-A69F=E6 A6F0-A6F1=E6 A806=9 A82C=9 A8C4=9 A8E0-A8F1=E6 A92B-A92D=DC A953=9
  A9B3=7 A9C0=9 AAB0=E6 AAB2-AAB3=E6 AAB4=DC AAB7-AAB8=E6 AABE-AABF=E6 AAC1=E6 AAF6=9 ABED=9 FB1E=1A FE20-FE26=E6
  FE27-FE2D=DC FE2E-FE2F=E6 101FD=DC 102E0=DC 10376-1037A=E6 10A0D=DC 10A0F=E6 10A38=E6 10A39=1 10A3A=DC 10A3F=9
  10AE5=E6 10AE6=DC 10D24-10D27=E6 10D69-10D6D=E6 10EAB-10EAC=E6 10EFA-10EFB=DC 10EFD-10EFF=DC 10F46-10F47=DC
  10F48-10F4A=E6 10F4B=DC 10F4C=E6 10F4D-10F50=DC 10F82=E6 10F83=DC 10F84=E6 10F85=DC 11046=9 11070=9 1107F=9
  110B9=9 110BA=7 11100-11102=E6 11133-11134=9 11173=7 111C0=9 111CA=7 11235=9 11236=7 112E9=7 112EA=9
  1133B-1133C=7 1134D=9 11366-1136C=E6 11370-11374=E6 113CE-113D0=9 11442=9 11446=7 1145E=E6 114C2=9 114C3=7
  115BF=9 115C0=7 1163F=9 116B6=9 116B7=7 1172B=9 11839=9 1183A=7 1193D-1193E=9 11943=7 119E0=9 11A34=9 11A47=9
  11A99=9 11C3F=9 11D42=7 11D44-11D45=9 11D97=9 11F41-11F42=9 1612F=9 16AF0-16AF4=1 16B30-16B36=E6 16FF0-16FF1=6
  1BC9E=1 1D165-1D166=D8 1D167-1D169=1 1D16D=E2 1D16E-1D172=D8 1D17B-1D182=DC 1D185-1D189=E6 1D18A-1D18B=DC
  1D1AA-1D1AD=E6 1D242-1D244=E6 1E000-1E006=E6 1E008-1E018=E6 1E01B-1E021=E6 1E023-1E024=E6 1E026-1E02A=E6
  1E08F=E6 1E130-1E136=E6 1E2AE=E6 1E2EC-1E2EF=E6 1E4EC-1E4ED=E8 1E4EE=DC 1E4EF=E6 1E5EE=E6 1E5EF=DC 1E6E3=E6
  1E6E6=E6 1E6EE-1E6EF=E6 1E6F5=E6 1E8D0-1E8D6=DC 1E944-1E949=E6 1E94A=7"

/-- The canonical combining class of a character; zero for a base. -/
def combiningClass (c : Char) : Nat := combiningRuns.value c

/-- The composed characters, each with its base and its mark. -/
def compositeRuns : Runs := .ofText "
  00C0=0041.0300 00C1=0041.0301 00C2=0041.0302 00C3=0041.0303 00C4=0041.0308 00C5=0041.030A 00C7=0043.0327
  00C8=0045.0300 00C9=0045.0301 00CA=0045.0302 00CB=0045.0308 00CC=0049.0300 00CD=0049.0301 00CE=0049.0302
  00CF=0049.0308 00D1=004E.0303 00D2=004F.0300 00D3=004F.0301 00D4=004F.0302 00D5=004F.0303 00D6=004F.0308
  00D9=0055.0300 00DA=0055.0301 00DB=0055.0302 00DC=0055.0308 00DD=0059.0301 00E0=0061.0300 00E1=0061.0301
  00E2=0061.0302 00E3=0061.0303 00E4=0061.0308 00E5=0061.030A 00E7=0063.0327 00E8=0065.0300 00E9=0065.0301
  00EA=0065.0302 00EB=0065.0308 00EC=0069.0300 00ED=0069.0301 00EE=0069.0302 00EF=0069.0308 00F1=006E.0303
  00F2=006F.0300 00F3=006F.0301 00F4=006F.0302 00F5=006F.0303 00F6=006F.0308 00F9=0075.0300 00FA=0075.0301
  00FB=0075.0302 00FC=0075.0308 00FD=0079.0301 00FF=0079.0308 0100=0041.0304 0101=0061.0304 0102=0041.0306
  0103=0061.0306 0104=0041.0328 0105=0061.0328 0106=0043.0301 0107=0063.0301 0108=0043.0302 0109=0063.0302
  010A=0043.0307 010B=0063.0307 010C=0043.030C 010D=0063.030C 010E=0044.030C 010F=0064.030C 0112=0045.0304
  0113=0065.0304 0114=0045.0306 0115=0065.0306 0116=0045.0307 0117=0065.0307 0118=0045.0328 0119=0065.0328
  011A=0045.030C 011B=0065.030C 011C=0047.0302 011D=0067.0302 011E=0047.0306 011F=0067.0306 0120=0047.0307
  0121=0067.0307 0122=0047.0327 0123=0067.0327 0124=0048.0302 0125=0068.0302 0128=0049.0303 0129=0069.0303
  012A=0049.0304 012B=0069.0304 012C=0049.0306 012D=0069.0306 012E=0049.0328 012F=0069.0328 0130=0049.0307
  0134=004A.0302 0135=006A.0302 0136=004B.0327 0137=006B.0327 0139=004C.0301 013A=006C.0301 013B=004C.0327
  013C=006C.0327 013D=004C.030C 013E=006C.030C 0143=004E.0301 0144=006E.0301 0145=004E.0327 0146=006E.0327
  0147=004E.030C 0148=006E.030C 014C=004F.0304 014D=006F.0304 014E=004F.0306 014F=006F.0306 0150=004F.030B
  0151=006F.030B 0154=0052.0301 0155=0072.0301 0156=0052.0327 0157=0072.0327 0158=0052.030C 0159=0072.030C
  015A=0053.0301 015B=0073.0301 015C=0053.0302 015D=0073.0302 015E=0053.0327 015F=0073.0327 0160=0053.030C
  0161=0073.030C 0162=0054.0327 0163=0074.0327 0164=0054.030C 0165=0074.030C 0168=0055.0303 0169=0075.0303
  016A=0055.0304 016B=0075.0304 016C=0055.0306 016D=0075.0306 016E=0055.030A 016F=0075.030A 0170=0055.030B
  0171=0075.030B 0172=0055.0328 0173=0075.0328 0174=0057.0302 0175=0077.0302 0176=0059.0302 0177=0079.0302
  0178=0059.0308 0179=005A.0301 017A=007A.0301 017B=005A.0307 017C=007A.0307 017D=005A.030C 017E=007A.030C
  01A0=004F.031B 01A1=006F.031B 01AF=0055.031B 01B0=0075.031B 01CD=0041.030C 01CE=0061.030C 01CF=0049.030C
  01D0=0069.030C 01D1=004F.030C 01D2=006F.030C 01D3=0055.030C 01D4=0075.030C 01D5=00DC.0304 01D6=00FC.0304
  01D7=00DC.0301 01D8=00FC.0301 01D9=00DC.030C 01DA=00FC.030C 01DB=00DC.0300 01DC=00FC.0300 01DE=00C4.0304
  01DF=00E4.0304 01E0=0226.0304 01E1=0227.0304 01E2=00C6.0304 01E3=00E6.0304 01E6=0047.030C 01E7=0067.030C
  01E8=004B.030C 01E9=006B.030C 01EA=004F.0328 01EB=006F.0328 01EC=01EA.0304 01ED=01EB.0304 01EE=01B7.030C
  01EF=0292.030C 01F0=006A.030C 01F4=0047.0301 01F5=0067.0301 01F8=004E.0300 01F9=006E.0300 01FA=00C5.0301
  01FB=00E5.0301 01FC=00C6.0301 01FD=00E6.0301 01FE=00D8.0301 01FF=00F8.0301 0200=0041.030F 0201=0061.030F
  0202=0041.0311 0203=0061.0311 0204=0045.030F 0205=0065.030F 0206=0045.0311 0207=0065.0311 0208=0049.030F
  0209=0069.030F 020A=0049.0311 020B=0069.0311 020C=004F.030F 020D=006F.030F 020E=004F.0311 020F=006F.0311
  0210=0052.030F 0211=0072.030F 0212=0052.0311 0213=0072.0311 0214=0055.030F 0215=0075.030F 0216=0055.0311
  0217=0075.0311 0218=0053.0326 0219=0073.0326 021A=0054.0326 021B=0074.0326 021E=0048.030C 021F=0068.030C
  0226=0041.0307 0227=0061.0307 0228=0045.0327 0229=0065.0327 022A=00D6.0304 022B=00F6.0304 022C=00D5.0304
  022D=00F5.0304 022E=004F.0307 022F=006F.0307 0230=022E.0304 0231=022F.0304 0232=0059.0304 0233=0079.0304
  0385=00A8.0301 0386=0391.0301 0388=0395.0301 0389=0397.0301 038A=0399.0301 038C=039F.0301 038E=03A5.0301
  038F=03A9.0301 0390=03CA.0301 03AA=0399.0308 03AB=03A5.0308 03AC=03B1.0301 03AD=03B5.0301 03AE=03B7.0301
  03AF=03B9.0301 03B0=03CB.0301 03CA=03B9.0308 03CB=03C5.0308 03CC=03BF.0301 03CD=03C5.0301 03CE=03C9.0301
  03D3=03D2.0301 03D4=03D2.0308 0400=0415.0300 0401=0415.0308 0403=0413.0301 0407=0406.0308 040C=041A.0301
  040D=0418.0300 040E=0423.0306 0419=0418.0306 0439=0438.0306 0450=0435.0300 0451=0435.0308 0453=0433.0301
  0457=0456.0308 045C=043A.0301 045D=0438.0300 045E=0443.0306 0476=0474.030F 0477=0475.030F 04C1=0416.0306
  04C2=0436.0306 04D0=0410.0306 04D1=0430.0306 04D2=0410.0308 04D3=0430.0308 04D6=0415.0306 04D7=0435.0306
  04DA=04D8.0308 04DB=04D9.0308 04DC=0416.0308 04DD=0436.0308 04DE=0417.0308 04DF=0437.0308 04E2=0418.0304
  04E3=0438.0304 04E4=0418.0308 04E5=0438.0308 04E6=041E.0308 04E7=043E.0308 04EA=04E8.0308 04EB=04E9.0308
  04EC=042D.0308 04ED=044D.0308 04EE=0423.0304 04EF=0443.0304 04F0=0423.0308 04F1=0443.0308 04F2=0423.030B
  04F3=0443.030B 04F4=0427.0308 04F5=0447.0308 04F8=042B.0308 04F9=044B.0308 0622=0627.0653 0623=0627.0654
  0624=0648.0654 0625=0627.0655 0626=064A.0654 06C0=06D5.0654 06C2=06C1.0654 06D3=06D2.0654 0929=0928.093C
  0931=0930.093C 0934=0933.093C 09CB=09C7.09BE 09CC=09C7.09D7 0B48=0B47.0B56 0B4B=0B47.0B3E 0B4C=0B47.0B57
  0B94=0B92.0BD7 0BCA=0BC6.0BBE 0BCB=0BC7.0BBE 0BCC=0BC6.0BD7 0C48=0C46.0C56 0CC0=0CBF.0CD5 0CC7=0CC6.0CD5
  0CC8=0CC6.0CD6 0CCA=0CC6.0CC2 0CCB=0CCA.0CD5 0D4A=0D46.0D3E 0D4B=0D47.0D3E 0D4C=0D46.0D57 0DDA=0DD9.0DCA
  0DDC=0DD9.0DCF 0DDD=0DDC.0DCA 0DDE=0DD9.0DDF 1026=1025.102E 1B06=1B05.1B35 1B08=1B07.1B35 1B0A=1B09.1B35
  1B0C=1B0B.1B35 1B0E=1B0D.1B35 1B12=1B11.1B35 1B3B=1B3A.1B35 1B3D=1B3C.1B35 1B40=1B3E.1B35 1B41=1B3F.1B35
  1B43=1B42.1B35 1E00=0041.0325 1E01=0061.0325 1E02=0042.0307 1E03=0062.0307 1E04=0042.0323 1E05=0062.0323
  1E06=0042.0331 1E07=0062.0331 1E08=00C7.0301 1E09=00E7.0301 1E0A=0044.0307 1E0B=0064.0307 1E0C=0044.0323
  1E0D=0064.0323 1E0E=0044.0331 1E0F=0064.0331 1E10=0044.0327 1E11=0064.0327 1E12=0044.032D 1E13=0064.032D
  1E14=0112.0300 1E15=0113.0300 1E16=0112.0301 1E17=0113.0301 1E18=0045.032D 1E19=0065.032D 1E1A=0045.0330
  1E1B=0065.0330 1E1C=0228.0306 1E1D=0229.0306 1E1E=0046.0307 1E1F=0066.0307 1E20=0047.0304 1E21=0067.0304
  1E22=0048.0307 1E23=0068.0307 1E24=0048.0323 1E25=0068.0323 1E26=0048.0308 1E27=0068.0308 1E28=0048.0327
  1E29=0068.0327 1E2A=0048.032E 1E2B=0068.032E 1E2C=0049.0330 1E2D=0069.0330 1E2E=00CF.0301 1E2F=00EF.0301
  1E30=004B.0301 1E31=006B.0301 1E32=004B.0323 1E33=006B.0323 1E34=004B.0331 1E35=006B.0331 1E36=004C.0323
  1E37=006C.0323 1E38=1E36.0304 1E39=1E37.0304 1E3A=004C.0331 1E3B=006C.0331 1E3C=004C.032D 1E3D=006C.032D
  1E3E=004D.0301 1E3F=006D.0301 1E40=004D.0307 1E41=006D.0307 1E42=004D.0323 1E43=006D.0323 1E44=004E.0307
  1E45=006E.0307 1E46=004E.0323 1E47=006E.0323 1E48=004E.0331 1E49=006E.0331 1E4A=004E.032D 1E4B=006E.032D
  1E4C=00D5.0301 1E4D=00F5.0301 1E4E=00D5.0308 1E4F=00F5.0308 1E50=014C.0300 1E51=014D.0300 1E52=014C.0301
  1E53=014D.0301 1E54=0050.0301 1E55=0070.0301 1E56=0050.0307 1E57=0070.0307 1E58=0052.0307 1E59=0072.0307
  1E5A=0052.0323 1E5B=0072.0323 1E5C=1E5A.0304 1E5D=1E5B.0304 1E5E=0052.0331 1E5F=0072.0331 1E60=0053.0307
  1E61=0073.0307 1E62=0053.0323 1E63=0073.0323 1E64=015A.0307 1E65=015B.0307 1E66=0160.0307 1E67=0161.0307
  1E68=1E62.0307 1E69=1E63.0307 1E6A=0054.0307 1E6B=0074.0307 1E6C=0054.0323 1E6D=0074.0323 1E6E=0054.0331
  1E6F=0074.0331 1E70=0054.032D 1E71=0074.032D 1E72=0055.0324 1E73=0075.0324 1E74=0055.0330 1E75=0075.0330
  1E76=0055.032D 1E77=0075.032D 1E78=0168.0301 1E79=0169.0301 1E7A=016A.0308 1E7B=016B.0308 1E7C=0056.0303
  1E7D=0076.0303 1E7E=0056.0323 1E7F=0076.0323 1E80=0057.0300 1E81=0077.0300 1E82=0057.0301 1E83=0077.0301
  1E84=0057.0308 1E85=0077.0308 1E86=0057.0307 1E87=0077.0307 1E88=0057.0323 1E89=0077.0323 1E8A=0058.0307
  1E8B=0078.0307 1E8C=0058.0308 1E8D=0078.0308 1E8E=0059.0307 1E8F=0079.0307 1E90=005A.0302 1E91=007A.0302
  1E92=005A.0323 1E93=007A.0323 1E94=005A.0331 1E95=007A.0331 1E96=0068.0331 1E97=0074.0308 1E98=0077.030A
  1E99=0079.030A 1E9B=017F.0307 1EA0=0041.0323 1EA1=0061.0323 1EA2=0041.0309 1EA3=0061.0309 1EA4=00C2.0301
  1EA5=00E2.0301 1EA6=00C2.0300 1EA7=00E2.0300 1EA8=00C2.0309 1EA9=00E2.0309 1EAA=00C2.0303 1EAB=00E2.0303
  1EAC=1EA0.0302 1EAD=1EA1.0302 1EAE=0102.0301 1EAF=0103.0301 1EB0=0102.0300 1EB1=0103.0300 1EB2=0102.0309
  1EB3=0103.0309 1EB4=0102.0303 1EB5=0103.0303 1EB6=1EA0.0306 1EB7=1EA1.0306 1EB8=0045.0323 1EB9=0065.0323
  1EBA=0045.0309 1EBB=0065.0309 1EBC=0045.0303 1EBD=0065.0303 1EBE=00CA.0301 1EBF=00EA.0301 1EC0=00CA.0300
  1EC1=00EA.0300 1EC2=00CA.0309 1EC3=00EA.0309 1EC4=00CA.0303 1EC5=00EA.0303 1EC6=1EB8.0302 1EC7=1EB9.0302
  1EC8=0049.0309 1EC9=0069.0309 1ECA=0049.0323 1ECB=0069.0323 1ECC=004F.0323 1ECD=006F.0323 1ECE=004F.0309
  1ECF=006F.0309 1ED0=00D4.0301 1ED1=00F4.0301 1ED2=00D4.0300 1ED3=00F4.0300 1ED4=00D4.0309 1ED5=00F4.0309
  1ED6=00D4.0303 1ED7=00F4.0303 1ED8=1ECC.0302 1ED9=1ECD.0302 1EDA=01A0.0301 1EDB=01A1.0301 1EDC=01A0.0300
  1EDD=01A1.0300 1EDE=01A0.0309 1EDF=01A1.0309 1EE0=01A0.0303 1EE1=01A1.0303 1EE2=01A0.0323 1EE3=01A1.0323
  1EE4=0055.0323 1EE5=0075.0323 1EE6=0055.0309 1EE7=0075.0309 1EE8=01AF.0301 1EE9=01B0.0301 1EEA=01AF.0300
  1EEB=01B0.0300 1EEC=01AF.0309 1EED=01B0.0309 1EEE=01AF.0303 1EEF=01B0.0303 1EF0=01AF.0323 1EF1=01B0.0323
  1EF2=0059.0300 1EF3=0079.0300 1EF4=0059.0323 1EF5=0079.0323 1EF6=0059.0309 1EF7=0079.0309 1EF8=0059.0303
  1EF9=0079.0303 1F00=03B1.0313 1F01=03B1.0314 1F02=1F00.0300 1F03=1F01.0300 1F04=1F00.0301 1F05=1F01.0301
  1F06=1F00.0342 1F07=1F01.0342 1F08=0391.0313 1F09=0391.0314 1F0A=1F08.0300 1F0B=1F09.0300 1F0C=1F08.0301
  1F0D=1F09.0301 1F0E=1F08.0342 1F0F=1F09.0342 1F10=03B5.0313 1F11=03B5.0314 1F12=1F10.0300 1F13=1F11.0300
  1F14=1F10.0301 1F15=1F11.0301 1F18=0395.0313 1F19=0395.0314 1F1A=1F18.0300 1F1B=1F19.0300 1F1C=1F18.0301
  1F1D=1F19.0301 1F20=03B7.0313 1F21=03B7.0314 1F22=1F20.0300 1F23=1F21.0300 1F24=1F20.0301 1F25=1F21.0301
  1F26=1F20.0342 1F27=1F21.0342 1F28=0397.0313 1F29=0397.0314 1F2A=1F28.0300 1F2B=1F29.0300 1F2C=1F28.0301
  1F2D=1F29.0301 1F2E=1F28.0342 1F2F=1F29.0342 1F30=03B9.0313 1F31=03B9.0314 1F32=1F30.0300 1F33=1F31.0300
  1F34=1F30.0301 1F35=1F31.0301 1F36=1F30.0342 1F37=1F31.0342 1F38=0399.0313 1F39=0399.0314 1F3A=1F38.0300
  1F3B=1F39.0300 1F3C=1F38.0301 1F3D=1F39.0301 1F3E=1F38.0342 1F3F=1F39.0342 1F40=03BF.0313 1F41=03BF.0314
  1F42=1F40.0300 1F43=1F41.0300 1F44=1F40.0301 1F45=1F41.0301 1F48=039F.0313 1F49=039F.0314 1F4A=1F48.0300
  1F4B=1F49.0300 1F4C=1F48.0301 1F4D=1F49.0301 1F50=03C5.0313 1F51=03C5.0314 1F52=1F50.0300 1F53=1F51.0300
  1F54=1F50.0301 1F55=1F51.0301 1F56=1F50.0342 1F57=1F51.0342 1F59=03A5.0314 1F5B=1F59.0300 1F5D=1F59.0301
  1F5F=1F59.0342 1F60=03C9.0313 1F61=03C9.0314 1F62=1F60.0300 1F63=1F61.0300 1F64=1F60.0301 1F65=1F61.0301
  1F66=1F60.0342 1F67=1F61.0342 1F68=03A9.0313 1F69=03A9.0314 1F6A=1F68.0300 1F6B=1F69.0300 1F6C=1F68.0301
  1F6D=1F69.0301 1F6E=1F68.0342 1F6F=1F69.0342 1F70=03B1.0300 1F72=03B5.0300 1F74=03B7.0300 1F76=03B9.0300
  1F78=03BF.0300 1F7A=03C5.0300 1F7C=03C9.0300 1F80=1F00.0345 1F81=1F01.0345 1F82=1F02.0345 1F83=1F03.0345
  1F84=1F04.0345 1F85=1F05.0345 1F86=1F06.0345 1F87=1F07.0345 1F88=1F08.0345 1F89=1F09.0345 1F8A=1F0A.0345
  1F8B=1F0B.0345 1F8C=1F0C.0345 1F8D=1F0D.0345 1F8E=1F0E.0345 1F8F=1F0F.0345 1F90=1F20.0345 1F91=1F21.0345
  1F92=1F22.0345 1F93=1F23.0345 1F94=1F24.0345 1F95=1F25.0345 1F96=1F26.0345 1F97=1F27.0345 1F98=1F28.0345
  1F99=1F29.0345 1F9A=1F2A.0345 1F9B=1F2B.0345 1F9C=1F2C.0345 1F9D=1F2D.0345 1F9E=1F2E.0345 1F9F=1F2F.0345
  1FA0=1F60.0345 1FA1=1F61.0345 1FA2=1F62.0345 1FA3=1F63.0345 1FA4=1F64.0345 1FA5=1F65.0345 1FA6=1F66.0345
  1FA7=1F67.0345 1FA8=1F68.0345 1FA9=1F69.0345 1FAA=1F6A.0345 1FAB=1F6B.0345 1FAC=1F6C.0345 1FAD=1F6D.0345
  1FAE=1F6E.0345 1FAF=1F6F.0345 1FB0=03B1.0306 1FB1=03B1.0304 1FB2=1F70.0345 1FB3=03B1.0345 1FB4=03AC.0345
  1FB6=03B1.0342 1FB7=1FB6.0345 1FB8=0391.0306 1FB9=0391.0304 1FBA=0391.0300 1FBC=0391.0345 1FC1=00A8.0342
  1FC2=1F74.0345 1FC3=03B7.0345 1FC4=03AE.0345 1FC6=03B7.0342 1FC7=1FC6.0345 1FC8=0395.0300 1FCA=0397.0300
  1FCC=0397.0345 1FCD=1FBF.0300 1FCE=1FBF.0301 1FCF=1FBF.0342 1FD0=03B9.0306 1FD1=03B9.0304 1FD2=03CA.0300
  1FD6=03B9.0342 1FD7=03CA.0342 1FD8=0399.0306 1FD9=0399.0304 1FDA=0399.0300 1FDD=1FFE.0300 1FDE=1FFE.0301
  1FDF=1FFE.0342 1FE0=03C5.0306 1FE1=03C5.0304 1FE2=03CB.0300 1FE4=03C1.0313 1FE5=03C1.0314 1FE6=03C5.0342
  1FE7=03CB.0342 1FE8=03A5.0306 1FE9=03A5.0304 1FEA=03A5.0300 1FEC=03A1.0314 1FED=00A8.0300 1FF2=1F7C.0345
  1FF3=03C9.0345 1FF4=03CE.0345 1FF6=03C9.0342 1FF7=1FF6.0345 1FF8=039F.0300 1FFA=03A9.0300 1FFC=03A9.0345
  219A=2190.0338 219B=2192.0338 21AE=2194.0338 21CD=21D0.0338 21CE=21D4.0338 21CF=21D2.0338 2204=2203.0338
  2209=2208.0338 220C=220B.0338 2224=2223.0338 2226=2225.0338 2241=223C.0338 2244=2243.0338 2247=2245.0338
  2249=2248.0338 2260=003D.0338 2262=2261.0338 226D=224D.0338 226E=003C.0338 226F=003E.0338 2270=2264.0338
  2271=2265.0338 2274=2272.0338 2275=2273.0338 2278=2276.0338 2279=2277.0338 2280=227A.0338 2281=227B.0338
  2284=2282.0338 2285=2283.0338 2288=2286.0338 2289=2287.0338 22AC=22A2.0338 22AD=22A8.0338 22AE=22A9.0338
  22AF=22AB.0338 22E0=227C.0338 22E1=227D.0338 22E2=2291.0338 22E3=2292.0338 22EA=22B2.0338 22EB=22B3.0338
  22EC=22B4.0338 22ED=22B5.0338 304C=304B.3099 304E=304D.3099 3050=304F.3099 3052=3051.3099 3054=3053.3099
  3056=3055.3099 3058=3057.3099 305A=3059.3099 305C=305B.3099 305E=305D.3099 3060=305F.3099 3062=3061.3099
  3065=3064.3099 3067=3066.3099 3069=3068.3099 3070=306F.3099 3071=306F.309A 3073=3072.3099 3074=3072.309A
  3076=3075.3099 3077=3075.309A 3079=3078.3099 307A=3078.309A 307C=307B.3099 307D=307B.309A 3094=3046.3099
  309E=309D.3099 30AC=30AB.3099 30AE=30AD.3099 30B0=30AF.3099 30B2=30B1.3099 30B4=30B3.3099 30B6=30B5.3099
  30B8=30B7.3099 30BA=30B9.3099 30BC=30BB.3099 30BE=30BD.3099 30C0=30BF.3099 30C2=30C1.3099 30C5=30C4.3099
  30C7=30C6.3099 30C9=30C8.3099 30D0=30CF.3099 30D1=30CF.309A 30D3=30D2.3099 30D4=30D2.309A 30D6=30D5.3099
  30D7=30D5.309A 30D9=30D8.3099 30DA=30D8.309A 30DC=30DB.3099 30DD=30DB.309A 30F4=30A6.3099 30F7=30EF.3099
  30F8=30F0.3099 30F9=30F1.3099 30FA=30F2.3099 30FE=30FD.3099 105C9=105D2.0307 105E4=105DA.0307 1109A=11099.110BA
  1109C=1109B.110BA 110AB=110A5.110BA 1112E=11131.11127 1112F=11132.11127 1134B=11347.1133E 1134C=11347.11357
  11383=11382.113C9 11385=11384.113BB 1138E=1138B.113C2 11391=11390.113C9 113C5=113C2.113C2 113C7=113C2.113B8
  113C8=113C2.113C9 114BB=114B9.114BA 114BC=114B9.114B0 114BE=114B9.114BD 115BA=115B8.115AF 115BB=115B9.115AF
  11938=11935.11930 16121=1611E.1611E 16122=1611E.16129 16123=1611E.1611F 16124=16129.1611F 16125=1611E.16120
  16126=16121.1611F 16127=16122.1611F 16128=16121.16120 16D68=16D67.16D67 16D69=16D63.16D67 16D6A=16D69.16D67"

/-! ## Syllables composed by arithmetic -/

/-- A syllable of two or three letters, by the numbers of its letters. -/
def syllable? (leading vowel trailing : Nat) : Option Char :=
  if leading < 19 ∧ vowel < 21 ∧ trailing < 28 then some (Char.ofNat (0xAC00 + (leading * 21 + vowel) * 28 + trailing))
  else none

/-- The number of a syllable among all of them. -/
def syllableIndex? (c : Char) : Option Nat :=
  if 0xAC00 ≤ c.toNat ∧ c.toNat < 0xAC00 + 11172 then some (c.toNat - 0xAC00) else none

/-! ## Taking apart -/

/-- The base and the mark of a composed character, or the letters of a syllable. -/
def parts? (c : Char) : Option (Char × Char) :=
  match syllableIndex? c with
  | some i =>
    if i % 28 = 0 then some (Char.ofNat (0x1100 + i / 588), Char.ofNat (0x1161 + i / 28 % 21))
    else some (Char.ofNat (0xAC00 + i / 28 * 28), Char.ofNat (0x11A7 + i % 28))
  | none =>
    match compositeRuns.find? c with
    | some [a, b] => some (Char.ofNat a, Char.ofNat b)
    | _ => none

/-- The letters of a character, taken apart at most `depth` times over. -/
def apart : Nat → Char → Text
  | 0, c => [c]
  | depth + 1, c =>
    match parts? c with
    | some (a, b) => apart depth a ++ [b]
    | none => [c]

/-- The deepest composed characters have a base and three marks. -/
def apartDepth : Nat := 4

/-- Puts a mark at its place behind the marks of no greater class at the end of a text, given from its end. -/
def insertMark (c : Char) : Text → Text
  | [] => [c]
  | x :: s => if combiningClass c < combiningClass x then x :: insertMark c s else c :: x :: s

/-- The text from its end, each character taken apart and the marks in order. -/
def decomposed (s : Text) : Text :=
  (s.flatMap (apart apartDepth)).foldl (fun done c =>
    if combiningClass c = 0 then c :: done else insertMark c done) []

/-! ## Composing -/

/-- The character composed of a base and what follows it. -/
def compose? (a b : Char) : Option Char :=
  let l := a.toNat
  let v := b.toNat
  if 0x1100 ≤ l ∧ l < 0x1113 ∧ 0x1161 ≤ v ∧ v < 0x1176 then syllable? (l - 0x1100) (v - 0x1161) 0
  else
    match syllableIndex? a with
    | some i => if i % 28 = 0 ∧ 0x11A8 ≤ v ∧ v < 0x11C3 then syllable? (i / 588) (i / 28 % 21) (v - 0x11A7) else none
    | none => (Array.find? (fun r => r.data == [l, v]) compositeRuns).map fun r => Char.ofNat r.first

/-- The state of composing: the text before the last base, the last base, and the marks behind it that stayed. Both
texts are held from their ends. -/
structure Composing where
  done : Text
  base : Option Char
  marks : Text

/-- The text composed so far, from its end. -/
def Composing.text (s : Composing) : Text := s.marks ++ s.base.toList ++ s.done

/-- Takes the next character: it joins the last base if no mark of its own class or of a greater one stands between. -/
def Composing.take (s : Composing) (c : Char) : Composing :=
  let k := combiningClass c
  let blocked := s.marks.head?.any fun m => k ≤ combiningClass m
  match if blocked then none else s.base.bind fun b => compose? b c with
  | some b => { s with base := some b }
  | none => if k = 0 then ⟨s.text, some c, []⟩ else { s with marks := c :: s.marks }

/-- **Normal form C.** -/
def composed (s : Text) : Text := ((decomposed s).reverse.foldl Composing.take ⟨[], none, []⟩).text.reverse

end Unicode
end WebScope
