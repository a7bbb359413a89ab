import FormIntegrity.Unicode.Table

/-!
# Ages

The version of the standard that assigned each code point, up to Unicode 16.0; `NA` marks a code
point that no version up to 16.0 assigned. A version is written `major.minor`; a pattern may also
name it as `V` with the two numbers joined by `_` (`V6_0`), compared without case, blanks, `_` and
`-`.
-/

namespace FormIntegrity.Unicode

/-- Runs of code points and the versions that assigned them. -/
def ageText : String :=
  "0 1.1 1F6 3.0 1FA 1.1 218 3.0 220 3.2 221 4.0 222 3.0 234 4.0 237 4.1 242 5.0 250 1.1 2A9 3.0
2AE 4.0 2B0 1.1 2DF 3.0 2E0 1.1 2EA 3.0 2EF 4.0 300 1.1 346 3.0 34F 3.2 350 4.0 358 4.1 35D 4.0
360 1.1 362 3.0 363 3.2 370 5.1 374 1.1 376 5.1 378 NA 37A 1.1 37B 5.0 37E 1.1 37F 7.0 380 NA
384 1.1 38B NA 38C 1.1 38D NA 38E 1.1 3A2 NA 3A3 1.1 3CF 5.1 3D0 1.1 3D7 3.0 3D8 3.2 3DA 1.1
3DB 3.0 3DC 1.1 3DD 3.0 3DE 1.1 3DF 3.0 3E0 1.1 3E1 3.0 3E2 1.1 3F4 3.1 3F6 3.2 3F7 4.0 3FC 4.1
400 3.0 401 1.1 40D 3.0 40E 1.1 450 3.0 451 1.1 45D 3.0 45E 1.1 487 5.1 488 3.0 48A 3.2 48C 3.0
490 1.1 4C5 3.2 4C7 1.1 4C9 3.2 4CB 1.1 4CD 3.2 4CF 5.0 4D0 1.1 4EC 3.0 4EE 1.1 4F6 4.1 4F8 1.1
4FA 5.0 500 3.2 510 5.0 514 5.1 524 5.2 526 6.0 528 7.0 530 NA 531 1.1 557 NA 559 1.1 560 11.0
561 1.1 588 11.0 589 1.1 58A 3.0 58B NA 58D 7.0 58F 6.1 590 NA 591 2.0 5A2 4.1 5A3 2.0 5B0 1.1
5BA 5.0 5BB 1.1 5C4 2.0 5C5 4.1 5C8 NA 5D0 1.1 5EB NA 5EF 11.0 5F0 1.1 5F5 NA 600 4.0 604 6.1
605 7.0 606 5.1 60B 4.1 60C 1.1 60D 4.0 616 5.1 61B 1.1 61C 6.3 61D 14.0 61E 4.1 61F 1.1 620 6.0
621 1.1 63B 5.1 640 1.1 653 3.0 656 4.0 659 4.1 65F 6.0 660 1.1 66E 3.2 670 1.1 6B8 3.0 6BA 1.1
6BF 3.0 6C0 1.1 6CF 3.0 6D0 1.1 6EE 4.0 6F0 1.1 6FA 3.0 6FF 4.0 700 3.0 70E NA 70F 3.0 72D 4.0
730 3.0 74B NA 74D 4.0 750 4.1 76E 5.1 780 3.0 7B1 3.2 7B2 NA 7C0 5.0 7FB NA 7FD 11.0 800 5.2
82E NA 830 5.2 83F NA 840 6.0 85C NA 85E 6.0 85F NA 860 10.0 86B NA 870 14.0 88F NA 890 14.0
892 NA 897 16.0 898 14.0 8A0 6.1 8A1 7.0 8A2 6.1 8AD 7.0 8B3 8.0 8B5 14.0 8B6 9.0 8BE 13.0
8C8 14.0 8D3 11.0 8D4 9.0 8E3 8.0 8E4 6.1 8FF 7.0 900 5.2 901 1.1 904 4.0 905 1.1 93A 6.0
93C 1.1 94E 5.2 94F 6.0 950 1.1 955 5.2 956 6.0 958 1.1 971 5.1 973 6.0 978 7.0 979 5.2 97B 5.0
97D 4.1 97E 5.0 980 7.0 981 1.1 984 NA 985 1.1 98D NA 98F 1.1 991 NA 993 1.1 9A9 NA 9AA 1.1
9B1 NA 9B2 1.1 9B3 NA 9B6 1.1 9BA NA 9BC 1.1 9BD 4.0 9BE 1.1 9C5 NA 9C7 1.1 9C9 NA 9CB 1.1
9CE 4.1 9CF NA 9D7 1.1 9D8 NA 9DC 1.1 9DE NA 9DF 1.1 9E4 NA 9E6 1.1 9FB 5.2 9FC 10.0 9FE 11.0
9FF NA A01 4.0 A02 1.1 A03 4.0 A04 NA A05 1.1 A0B NA A0F 1.1 A11 NA A13 1.1 A29 NA A2A 1.1
A31 NA A32 1.1 A34 NA A35 1.1 A37 NA A38 1.1 A3A NA A3C 1.1 A3D NA A3E 1.1 A43 NA A47 1.1 A49 NA
A4B 1.1 A4E NA A51 5.1 A52 NA A59 1.1 A5D NA A5E 1.1 A5F NA A66 1.1 A75 5.1 A76 11.0 A77 NA
A81 1.1 A84 NA A85 1.1 A8C 4.0 A8D 1.1 A8E NA A8F 1.1 A92 NA A93 1.1 AA9 NA AAA 1.1 AB1 NA
AB2 1.1 AB4 NA AB5 1.1 ABA NA ABC 1.1 AC6 NA AC7 1.1 ACA NA ACB 1.1 ACE NA AD0 1.1 AD1 NA
AE0 1.1 AE1 4.0 AE4 NA AE6 1.1 AF0 6.1 AF1 4.0 AF2 NA AF9 8.0 AFA 10.0 B00 NA B01 1.1 B04 NA
B05 1.1 B0D NA B0F 1.1 B11 NA B13 1.1 B29 NA B2A 1.1 B31 NA B32 1.1 B34 NA B35 4.0 B36 1.1
B3A NA B3C 1.1 B44 5.1 B45 NA B47 1.1 B49 NA B4B 1.1 B4E NA B55 13.0 B56 1.1 B58 NA B5C 1.1
B5E NA B5F 1.1 B62 5.1 B64 NA B66 1.1 B71 4.0 B72 6.0 B78 NA B82 1.1 B84 NA B85 1.1 B8B NA
B8E 1.1 B91 NA B92 1.1 B96 NA B99 1.1 B9B NA B9C 1.1 B9D NA B9E 1.1 BA0 NA BA3 1.1 BA5 NA
BA8 1.1 BAB NA BAE 1.1 BB6 4.1 BB7 1.1 BBA NA BBE 1.1 BC3 NA BC6 1.1 BC9 NA BCA 1.1 BCE NA
BD0 5.1 BD1 NA BD7 1.1 BD8 NA BE6 4.1 BE7 1.1 BF3 4.0 BFB NA C00 7.0 C01 1.1 C04 11.0 C05 1.1
C0D NA C0E 1.1 C11 NA C12 1.1 C29 NA C2A 1.1 C34 7.0 C35 1.1 C3A NA C3C 14.0 C3D 5.1 C3E 1.1
C45 NA C46 1.1 C49 NA C4A 1.1 C4E NA C55 1.1 C57 NA C58 5.1 C5A 8.0 C5B NA C5D 14.0 C5E NA
C60 1.1 C62 5.1 C64 NA C66 1.1 C70 NA C77 12.0 C78 5.1 C80 9.0 C81 7.0 C82 1.1 C84 11.0 C85 1.1
C8D NA C8E 1.1 C91 NA C92 1.1 CA9 NA CAA 1.1 CB4 NA CB5 1.1 CBA NA CBC 4.0 CBE 1.1 CC5 NA
CC6 1.1 CC9 NA CCA 1.1 CCE NA CD5 1.1 CD7 NA CDD 14.0 CDE 1.1 CDF NA CE0 1.1 CE2 5.0 CE4 NA
CE6 1.1 CF0 NA CF1 5.0 CF3 15.0 CF4 NA D00 10.0 D01 7.0 D02 1.1 D04 13.0 D05 1.1 D0D NA D0E 1.1
D11 NA D12 1.1 D29 6.0 D2A 1.1 D3A 6.0 D3B 10.0 D3D 5.1 D3E 1.1 D44 5.1 D45 NA D46 1.1 D49 NA
D4A 1.1 D4E 6.0 D4F 9.0 D50 NA D54 9.0 D57 1.1 D58 9.0 D5F 8.0 D60 1.1 D62 5.1 D64 NA D66 1.1
D70 5.1 D76 9.0 D79 5.1 D80 NA D81 13.0 D82 3.0 D84 NA D85 3.0 D97 NA D9A 3.0 DB2 NA DB3 3.0
DBC NA DBD 3.0 DBE NA DC0 3.0 DC7 NA DCA 3.0 DCB NA DCF 3.0 DD5 NA DD6 3.0 DD7 NA DD8 3.0 DE0 NA
DE6 7.0 DF0 NA DF2 3.0 DF5 NA E01 1.1 E3B NA E3F 1.1 E5C NA E81 1.1 E83 NA E84 1.1 E85 NA
E86 12.0 E87 1.1 E89 12.0 E8A 1.1 E8B NA E8C 12.0 E8D 1.1 E8E 12.0 E94 1.1 E98 12.0 E99 1.1
EA0 12.0 EA1 1.1 EA4 NA EA5 1.1 EA6 NA EA7 1.1 EA8 12.0 EAA 1.1 EAC 12.0 EAD 1.1 EBA 12.0
EBB 1.1 EBE NA EC0 1.1 EC5 NA EC6 1.1 EC7 NA EC8 1.1 ECE 15.0 ECF NA ED0 1.1 EDA NA EDC 1.1
EDE 6.1 EE0 NA F00 2.0 F48 NA F49 2.0 F6A 3.0 F6B 5.1 F6D NA F71 2.0 F8C 6.0 F90 2.0 F96 3.0
F97 2.0 F98 NA F99 2.0 FAE 3.0 FB1 2.0 FB8 3.0 FB9 2.0 FBA 3.0 FBD NA FBE 3.0 FCD NA FCE 5.1
FCF 3.0 FD0 4.1 FD2 5.1 FD5 5.2 FD9 6.0 FDB NA 1000 3.0 1022 5.1 1023 3.0 1028 5.1 1029 3.0
102B 5.1 102C 3.0 1033 5.1 1036 3.0 103A 5.1 1040 3.0 105A 5.1 109A 5.2 109E 5.1 10A0 1.1
10C6 NA 10C7 6.1 10C8 NA 10CD 6.1 10CE NA 10D0 1.1 10F7 3.2 10F9 4.1 10FB 1.1 10FC 4.1 10FD 6.1
1100 1.1 115A 5.2 115F 1.1 11A3 5.2 11A8 1.1 11FA 5.2 1200 3.0 1207 4.1 1208 3.0 1247 4.1
1248 3.0 1249 NA 124A 3.0 124E NA 1250 3.0 1257 NA 1258 3.0 1259 NA 125A 3.0 125E NA 1260 3.0
1287 4.1 1288 3.0 1289 NA 128A 3.0 128E NA 1290 3.0 12AF 4.1 12B0 3.0 12B1 NA 12B2 3.0 12B6 NA
12B8 3.0 12BF NA 12C0 3.0 12C1 NA 12C2 3.0 12C6 NA 12C8 3.0 12CF 4.1 12D0 3.0 12D7 NA 12D8 3.0
12EF 4.1 12F0 3.0 130F 4.1 1310 3.0 1311 NA 1312 3.0 1316 NA 1318 3.0 131F 4.1 1320 3.0 1347 4.1
1348 3.0 135B NA 135D 6.0 135F 4.1 1361 3.0 137D NA 1380 4.1 139A NA 13A0 3.0 13F5 8.0 13F6 NA
13F8 8.0 13FE NA 1400 5.2 1401 3.0 1677 5.2 1680 3.0 169D NA 16A0 3.0 16F1 7.0 16F9 NA 1700 3.2
170D 14.0 170E 3.2 1715 14.0 1716 NA 171F 14.0 1720 3.2 1737 NA 1740 3.2 1754 NA 1760 3.2
176D NA 176E 3.2 1771 NA 1772 3.2 1774 NA 1780 3.0 17DD 4.0 17DE NA 17E0 3.0 17EA NA 17F0 4.0
17FA NA 1800 3.0 180F 14.0 1810 3.0 181A NA 1820 3.0 1878 11.0 1879 NA 1880 3.0 18AA 5.1 18AB NA
18B0 5.2 18F6 NA 1900 4.0 191D 7.0 191F NA 1920 4.0 192C NA 1930 4.0 193C NA 1940 4.0 1941 NA
1944 4.0 196E NA 1970 4.0 1975 NA 1980 4.1 19AA 5.2 19AC NA 19B0 4.1 19CA NA 19D0 4.1 19DA 5.2
19DB NA 19DE 4.1 19E0 4.0 1A00 4.1 1A1C NA 1A1E 4.1 1A20 5.2 1A5F NA 1A60 5.2 1A7D NA 1A7F 5.2
1A8A NA 1A90 5.2 1A9A NA 1AA0 5.2 1AAE NA 1AB0 7.0 1ABF 13.0 1AC1 14.0 1ACF NA 1B00 5.0
1B4C 14.0 1B4D NA 1B4E 16.0 1B50 5.0 1B7D 14.0 1B7F 16.0 1B80 5.1 1BAB 6.1 1BAE 5.1 1BBA 6.1
1BC0 6.0 1BF4 NA 1BFC 6.0 1C00 5.1 1C38 NA 1C3B 5.1 1C4A NA 1C4D 5.1 1C80 9.0 1C89 16.0 1C8B NA
1C90 11.0 1CBB NA 1CBD 11.0 1CC0 6.1 1CC8 NA 1CD0 5.2 1CF3 6.1 1CF7 10.0 1CF8 7.0 1CFA 12.0
1CFB NA 1D00 4.0 1D6C 4.1 1DC4 5.0 1DCB 5.1 1DE7 7.0 1DF6 10.0 1DFA 14.0 1DFB 9.0 1DFC 6.0
1DFD 5.2 1DFE 5.0 1E00 1.1 1E9B 2.0 1E9C 5.1 1EA0 1.1 1EFA 5.1 1F00 1.1 1F16 NA 1F18 1.1 1F1E NA
1F20 1.1 1F46 NA 1F48 1.1 1F4E NA 1F50 1.1 1F58 NA 1F59 1.1 1F5A NA 1F5B 1.1 1F5C NA 1F5D 1.1
1F5E NA 1F5F 1.1 1F7E NA 1F80 1.1 1FB5 NA 1FB6 1.1 1FC5 NA 1FC6 1.1 1FD4 NA 1FD6 1.1 1FDC NA
1FDD 1.1 1FF0 NA 1FF2 1.1 1FF5 NA 1FF6 1.1 1FFF NA 2000 1.1 202F 3.0 2030 1.1 2047 3.2 2048 3.0
204E 3.2 2053 4.0 2055 4.1 2057 3.2 2058 4.1 205F 3.2 2064 5.1 2065 NA 2066 6.3 206A 1.1
2071 3.2 2072 NA 2074 1.1 208F NA 2090 4.1 2095 6.0 209D NA 20A0 1.1 20AB 2.0 20AC 2.1 20AD 3.0
20B0 3.2 20B2 4.1 20B6 5.2 20B9 6.0 20BA 6.2 20BB 7.0 20BE 8.0 20BF 10.0 20C0 14.0 20C1 NA
20D0 1.1 20E2 3.0 20E4 3.2 20EB 4.1 20EC 5.0 20F0 5.1 20F1 NA 2100 1.1 2139 3.0 213B 4.0
213C 4.1 213D 3.2 214C 4.1 214D 5.0 214F 5.1 2150 5.2 2153 1.1 2183 3.0 2184 5.0 2185 5.1
2189 5.2 218A 8.0 218C NA 2190 1.1 21EB 3.0 21F4 3.2 2200 1.1 22F2 3.2 2300 1.1 2301 3.0
2302 1.1 237B 3.0 237C 3.2 237D 3.0 239B 3.2 23CF 4.0 23D1 4.1 23DC 5.0 23E8 5.2 23E9 6.0
23F4 7.0 23FB 9.0 23FF 10.0 2400 1.1 2425 3.0 2427 16.0 242A NA 2440 1.1 244B NA 2460 1.1
24EB 3.2 24FF 4.0 2500 1.1 2596 3.2 25A0 1.1 25F0 3.0 25F8 3.2 2600 1.1 2614 4.0 2616 3.2
2618 4.1 2619 3.0 261A 1.1 2670 3.0 2672 3.2 267E 4.1 2680 3.2 268A 4.0 2692 4.1 269D 5.1
269E 5.2 26A0 4.0 26A2 4.1 26B2 5.0 26B3 5.1 26BD 5.2 26C0 5.1 26C4 5.2 26CE 6.0 26CF 5.2
26E2 6.0 26E3 5.2 26E4 6.0 26E8 5.2 2700 7.0 2701 1.1 2705 6.0 2706 1.1 270A 6.0 270C 1.1
2728 6.0 2729 1.1 274C 6.0 274D 1.1 274E 6.0 274F 1.1 2753 6.0 2756 1.1 2757 5.2 2758 1.1
275F 6.0 2761 1.1 2768 3.2 2776 1.1 2795 6.0 2798 1.1 27B0 6.0 27B1 1.1 27BF 6.0 27C0 4.1
27C7 5.0 27CB 6.1 27CC 5.1 27CD 6.1 27CE 6.0 27D0 3.2 27EC 5.1 27F0 3.2 2800 3.0 2900 3.2
2B00 4.0 2B0E 4.1 2B14 5.0 2B1B 5.1 2B20 5.0 2B24 5.1 2B4D 7.0 2B50 5.1 2B55 5.2 2B5A 7.0
2B74 NA 2B76 7.0 2B96 NA 2B97 13.0 2B98 7.0 2BBA 11.0 2BBD 7.0 2BC9 12.0 2BCA 7.0 2BD2 10.0
2BD3 11.0 2BEC 8.0 2BF0 11.0 2BFF 12.0 2C00 4.1 2C2F 14.0 2C30 4.1 2C5F 14.0 2C60 5.0 2C6D 5.1
2C70 5.2 2C71 5.1 2C74 5.0 2C78 5.1 2C7E 5.2 2C80 4.1 2CEB 5.2 2CF2 6.1 2CF4 NA 2CF9 4.1 2D26 NA
2D27 6.1 2D28 NA 2D2D 6.1 2D2E NA 2D30 4.1 2D66 6.1 2D68 NA 2D6F 4.1 2D70 6.0 2D71 NA 2D7F 6.0
2D80 4.1 2D97 NA 2DA0 4.1 2DA7 NA 2DA8 4.1 2DAF NA 2DB0 4.1 2DB7 NA 2DB8 4.1 2DBF NA 2DC0 4.1
2DC7 NA 2DC8 4.1 2DCF NA 2DD0 4.1 2DD7 NA 2DD8 4.1 2DDF NA 2DE0 5.1 2E00 4.1 2E18 5.1 2E1C 4.1
2E1E 5.1 2E31 5.2 2E32 6.1 2E3C 7.0 2E43 9.0 2E45 10.0 2E4A 11.0 2E4F 12.0 2E50 13.0 2E53 14.0
2E5E NA 2E80 3.0 2E9A NA 2E9B 3.0 2EF4 NA 2F00 3.0 2FD6 NA 2FF0 3.0 2FFC 15.1 3000 1.1 3038 3.0
303B 3.2 303E 3.0 303F 1.1 3040 NA 3041 1.1 3095 3.2 3097 NA 3099 1.1 309F 3.2 30A1 1.1 30FF 3.2
3100 NA 3105 1.1 312D 5.1 312E 10.0 312F 11.0 3130 NA 3131 1.1 318F NA 3190 1.1 31A0 3.0
31B8 6.0 31BB 13.0 31C0 4.1 31D0 5.1 31E4 16.0 31E6 NA 31EF 15.1 31F0 3.2 3200 1.1 321D 4.0
321F NA 3220 1.1 3244 5.2 3250 4.0 3251 3.2 3260 1.1 327C 4.0 327E 4.1 327F 1.1 32B1 3.2
32C0 1.1 32CC 4.0 32D0 1.1 32FF 12.1 3300 1.1 3377 4.0 337B 1.1 33DE 4.0 33E0 1.1 33FF 4.0
3400 3.0 4DB6 13.0 4DC0 4.0 4E00 1.1 9FA6 4.1 9FBC 5.1 9FC4 5.2 9FCC 6.1 9FCD 8.0 9FD6 10.0
9FEB 11.0 9FF0 13.0 9FFD 14.0 A000 3.0 A48D NA A490 3.0 A4A2 3.2 A4A4 3.0 A4B4 3.2 A4B5 3.0
A4C1 3.2 A4C2 3.0 A4C5 3.2 A4C6 3.0 A4C7 NA A4D0 5.2 A500 5.1 A62C NA A640 5.1 A660 6.0 A662 5.1
A674 6.1 A67C 5.1 A698 7.0 A69E 8.0 A69F 6.1 A6A0 5.2 A6F8 NA A700 4.1 A717 5.0 A71B 5.1
A720 5.0 A722 5.1 A78D 6.0 A78F 8.0 A790 6.0 A792 6.1 A794 7.0 A7A0 6.0 A7AA 6.1 A7AB 7.0
A7AE 9.0 A7AF 11.0 A7B0 7.0 A7B2 8.0 A7B8 11.0 A7BA 12.0 A7C0 14.0 A7C2 12.0 A7C7 13.0 A7CB 16.0
A7CE NA A7D0 14.0 A7D2 NA A7D3 14.0 A7D4 NA A7D5 14.0 A7DA 16.0 A7DD NA A7F2 14.0 A7F5 13.0
A7F7 7.0 A7F8 6.1 A7FA 6.0 A7FB 5.1 A800 4.1 A82C 13.0 A82D NA A830 5.2 A83A NA A840 5.0 A878 NA
A880 5.1 A8C5 9.0 A8C6 NA A8CE 5.1 A8DA NA A8E0 5.2 A8FC 8.0 A8FE 11.0 A900 5.1 A954 NA A95F 5.1
A960 5.2 A97D NA A980 5.2 A9CE NA A9CF 5.2 A9DA NA A9DE 5.2 A9E0 7.0 A9FF NA AA00 5.1 AA37 NA
AA40 5.1 AA4E NA AA50 5.1 AA5A NA AA5C 5.1 AA60 5.2 AA7C 7.0 AA80 5.2 AAC3 NA AADB 5.2 AAE0 6.1
AAF7 NA AB01 6.0 AB07 NA AB09 6.0 AB0F NA AB11 6.0 AB17 NA AB20 6.0 AB27 NA AB28 6.0 AB2F NA
AB30 7.0 AB60 8.0 AB64 7.0 AB66 12.0 AB68 13.0 AB6C NA AB70 8.0 ABC0 5.2 ABEE NA ABF0 5.2
ABFA NA AC00 2.0 D7A4 NA D7B0 5.2 D7C7 NA D7CB 5.2 D7FC NA D800 2.0 E000 1.1 FA2E 6.1 FA30 3.2
FA6B 5.2 FA6E NA FA70 4.1 FADA NA FB00 1.1 FB07 NA FB13 1.1 FB18 NA FB1D 3.0 FB1E 1.1 FB37 NA
FB38 1.1 FB3D NA FB3E 1.1 FB3F NA FB40 1.1 FB42 NA FB43 1.1 FB45 NA FB46 1.1 FBB2 6.0 FBC2 14.0
FBC3 NA FBD3 1.1 FD40 14.0 FD50 1.1 FD90 NA FD92 1.1 FDC8 NA FDCF 14.0 FDD0 3.1 FDF0 1.1
FDFC 3.2 FDFD 4.0 FDFE 14.0 FE00 3.2 FE10 4.1 FE1A NA FE20 1.1 FE24 5.1 FE27 7.0 FE2E 8.0
FE30 1.1 FE45 3.2 FE47 4.0 FE49 1.1 FE53 NA FE54 1.1 FE67 NA FE68 1.1 FE6C NA FE70 1.1 FE73 3.2
FE74 1.1 FE75 NA FE76 1.1 FEFD NA FEFF 1.1 FF00 NA FF01 1.1 FF5F 3.2 FF61 1.1 FFBF NA FFC2 1.1
FFC8 NA FFCA 1.1 FFD0 NA FFD2 1.1 FFD8 NA FFDA 1.1 FFDD NA FFE0 1.1 FFE7 NA FFE8 1.1 FFEF NA
FFF9 3.0 FFFC 2.1 FFFD 1.1 10000 4.0 1000C NA 1000D 4.0 10027 NA 10028 4.0 1003B NA 1003C 4.0
1003E NA 1003F 4.0 1004E NA 10050 4.0 1005E NA 10080 4.0 100FB NA 10100 4.0 10103 NA 10107 4.0
10134 NA 10137 4.0 10140 4.1 1018B 7.0 1018D 9.0 1018F NA 10190 5.1 1019C 13.0 1019D NA
101A0 7.0 101A1 NA 101D0 5.1 101FE NA 10280 5.1 1029D NA 102A0 5.1 102D1 NA 102E0 7.0 102FC NA
10300 3.1 1031F 7.0 10320 3.1 10324 NA 1032D 10.0 10330 3.1 1034B NA 10350 7.0 1037B NA
10380 4.0 1039E NA 1039F 4.0 103A0 4.1 103C4 NA 103C8 4.1 103D6 NA 10400 3.1 10426 4.0 10428 3.1
1044E 4.0 1049E NA 104A0 4.0 104AA NA 104B0 9.0 104D4 NA 104D8 9.0 104FC NA 10500 7.0 10528 NA
10530 7.0 10564 NA 1056F 7.0 10570 14.0 1057B NA 1057C 14.0 1058B NA 1058C 14.0 10593 NA
10594 14.0 10596 NA 10597 14.0 105A2 NA 105A3 14.0 105B2 NA 105B3 14.0 105BA NA 105BB 14.0
105BD NA 105C0 16.0 105F4 NA 10600 7.0 10737 NA 10740 7.0 10756 NA 10760 7.0 10768 NA 10780 14.0
10786 NA 10787 14.0 107B1 NA 107B2 14.0 107BB NA 10800 4.0 10806 NA 10808 4.0 10809 NA 1080A 4.0
10836 NA 10837 4.0 10839 NA 1083C 4.0 1083D NA 1083F 4.0 10840 5.2 10856 NA 10857 5.2 10860 7.0
1089F NA 108A7 7.0 108B0 NA 108E0 8.0 108F3 NA 108F4 8.0 108F6 NA 108FB 8.0 10900 5.0 1091A 5.2
1091C NA 1091F 5.0 10920 5.1 1093A NA 1093F 5.1 10940 NA 10980 6.1 109B8 NA 109BC 8.0 109BE 6.1
109C0 8.0 109D0 NA 109D2 8.0 10A00 4.1 10A04 NA 10A05 4.1 10A07 NA 10A0C 4.1 10A14 NA 10A15 4.1
10A18 NA 10A19 4.1 10A34 11.0 10A36 NA 10A38 4.1 10A3B NA 10A3F 4.1 10A48 11.0 10A49 NA
10A50 4.1 10A59 NA 10A60 5.2 10A80 7.0 10AA0 NA 10AC0 7.0 10AE7 NA 10AEB 7.0 10AF7 NA 10B00 5.2
10B36 NA 10B39 5.2 10B56 NA 10B58 5.2 10B73 NA 10B78 5.2 10B80 7.0 10B92 NA 10B99 7.0 10B9D NA
10BA9 7.0 10BB0 NA 10C00 5.2 10C49 NA 10C80 8.0 10CB3 NA 10CC0 8.0 10CF3 NA 10CFA 8.0 10D00 11.0
10D28 NA 10D30 11.0 10D3A NA 10D40 16.0 10D66 NA 10D69 16.0 10D86 NA 10D8E 16.0 10D90 NA
10E60 5.2 10E7F NA 10E80 13.0 10EAA NA 10EAB 13.0 10EAE NA 10EB0 13.0 10EB2 NA 10EC2 16.0
10EC5 NA 10EFC 16.0 10EFD 15.0 10F00 11.0 10F28 NA 10F30 11.0 10F5A NA 10F70 14.0 10F8A NA
10FB0 13.0 10FCC NA 10FE0 12.0 10FF7 NA 11000 6.0 1104E NA 11052 6.0 11070 14.0 11076 NA
1107F 7.0 11080 5.2 110C2 14.0 110C3 NA 110CD 11.0 110CE NA 110D0 6.1 110E9 NA 110F0 6.1
110FA NA 11100 6.1 11135 NA 11136 6.1 11144 11.0 11147 13.0 11148 NA 11150 7.0 11177 NA
11180 6.1 111C9 8.0 111CD 7.0 111CE 13.0 111D0 6.1 111DA 7.0 111DB 8.0 111E0 NA 111E1 7.0
111F5 NA 11200 7.0 11212 NA 11213 7.0 1123E 9.0 1123F 15.0 11242 NA 11280 8.0 11287 NA 11288 8.0
11289 NA 1128A 8.0 1128E NA 1128F 8.0 1129E NA 1129F 8.0 112AA NA 112B0 7.0 112EB NA 112F0 7.0
112FA NA 11300 8.0 11301 7.0 11304 NA 11305 7.0 1130D NA 1130F 7.0 11311 NA 11313 7.0 11329 NA
1132A 7.0 11331 NA 11332 7.0 11334 NA 11335 7.0 1133A NA 1133B 11.0 1133C 7.0 11345 NA 11347 7.0
11349 NA 1134B 7.0 1134E NA 11350 8.0 11351 NA 11357 7.0 11358 NA 1135D 7.0 11364 NA 11366 7.0
1136D NA 11370 7.0 11375 NA 11380 16.0 1138A NA 1138B 16.0 1138C NA 1138E 16.0 1138F NA
11390 16.0 113B6 NA 113B7 16.0 113C1 NA 113C2 16.0 113C3 NA 113C5 16.0 113C6 NA 113C7 16.0
113CB NA 113CC 16.0 113D6 NA 113D7 16.0 113D9 NA 113E1 16.0 113E3 NA 11400 9.0 1145A 13.0
1145B 9.0 1145C NA 1145D 9.0 1145E 11.0 1145F 12.0 11460 13.0 11462 NA 11480 7.0 114C8 NA
114D0 7.0 114DA NA 11580 7.0 115B6 NA 115B8 7.0 115CA 8.0 115DE NA 11600 7.0 11645 NA 11650 7.0
1165A NA 11660 9.0 1166D NA 11680 6.1 116B8 12.0 116B9 14.0 116BA NA 116C0 6.1 116CA NA
116D0 16.0 116E4 NA 11700 8.0 1171A 11.0 1171B NA 1171D 8.0 1172C NA 11730 8.0 11740 14.0
11747 NA 11800 11.0 1183C NA 118A0 7.0 118F3 NA 118FF 7.0 11900 13.0 11907 NA 11909 13.0
1190A NA 1190C 13.0 11914 NA 11915 13.0 11917 NA 11918 13.0 11936 NA 11937 13.0 11939 NA
1193B 13.0 11947 NA 11950 13.0 1195A NA 119A0 12.0 119A8 NA 119AA 12.0 119D8 NA 119DA 12.0
119E5 NA 11A00 10.0 11A48 NA 11A50 10.0 11A84 12.0 11A86 10.0 11A9D 11.0 11A9E 10.0 11AA3 NA
11AB0 14.0 11AC0 7.0 11AF9 NA 11B00 15.0 11B0A NA 11BC0 16.0 11BE2 NA 11BF0 16.0 11BFA NA
11C00 9.0 11C09 NA 11C0A 9.0 11C37 NA 11C38 9.0 11C46 NA 11C50 9.0 11C6D NA 11C70 9.0 11C90 NA
11C92 9.0 11CA8 NA 11CA9 9.0 11CB7 NA 11D00 10.0 11D07 NA 11D08 10.0 11D0A NA 11D0B 10.0
11D37 NA 11D3A 10.0 11D3B NA 11D3C 10.0 11D3E NA 11D3F 10.0 11D48 NA 11D50 10.0 11D5A NA
11D60 11.0 11D66 NA 11D67 11.0 11D69 NA 11D6A 11.0 11D8F NA 11D90 11.0 11D92 NA 11D93 11.0
11D99 NA 11DA0 11.0 11DAA NA 11EE0 11.0 11EF9 NA 11F00 15.0 11F11 NA 11F12 15.0 11F3B NA
11F3E 15.0 11F5A 16.0 11F5B NA 11FB0 13.0 11FB1 NA 11FC0 12.0 11FF2 NA 11FFF 12.0 12000 5.0
1236F 7.0 12399 8.0 1239A NA 12400 5.0 12463 7.0 1246F NA 12470 5.0 12474 7.0 12475 NA 12480 8.0
12544 NA 12F90 14.0 12FF3 NA 13000 5.2 1342F 15.0 13430 12.0 13439 15.0 13456 NA 13460 16.0
143FB NA 14400 8.0 14647 NA 16100 16.0 1613A NA 16800 6.0 16A39 NA 16A40 7.0 16A5F NA 16A60 7.0
16A6A NA 16A6E 7.0 16A70 14.0 16ABF NA 16AC0 14.0 16ACA NA 16AD0 7.0 16AEE NA 16AF0 7.0 16AF6 NA
16B00 7.0 16B46 NA 16B50 7.0 16B5A NA 16B5B 7.0 16B62 NA 16B63 7.0 16B78 NA 16B7D 7.0 16B90 NA
16D40 16.0 16D7A NA 16E40 11.0 16E9B NA 16F00 6.1 16F45 12.0 16F4B NA 16F4F 12.0 16F50 6.1
16F7F 12.0 16F88 NA 16F8F 6.1 16FA0 NA 16FE0 9.0 16FE1 10.0 16FE2 12.0 16FE4 13.0 16FE5 NA
16FF0 13.0 16FF2 NA 17000 9.0 187ED 11.0 187F2 12.0 187F8 NA 18800 9.0 18AF3 13.0 18CD6 NA
18CFF 16.0 18D00 13.0 18D09 NA 1AFF0 14.0 1AFF4 NA 1AFF5 14.0 1AFFC NA 1AFFD 14.0 1AFFF NA
1B000 6.0 1B002 10.0 1B11F 14.0 1B123 NA 1B132 15.0 1B133 NA 1B150 12.0 1B153 NA 1B155 15.0
1B156 NA 1B164 12.0 1B168 NA 1B170 10.0 1B2FC NA 1BC00 7.0 1BC6B NA 1BC70 7.0 1BC7D NA 1BC80 7.0
1BC89 NA 1BC90 7.0 1BC9A NA 1BC9C 7.0 1BCA4 NA 1CC00 16.0 1CCFA NA 1CD00 16.0 1CEB4 NA
1CF00 14.0 1CF2E NA 1CF30 14.0 1CF47 NA 1CF50 14.0 1CFC4 NA 1D000 3.1 1D0F6 NA 1D100 3.1
1D127 NA 1D129 5.1 1D12A 3.1 1D1DE 8.0 1D1E9 14.0 1D1EB NA 1D200 4.1 1D246 NA 1D2C0 15.0
1D2D4 NA 1D2E0 11.0 1D2F4 NA 1D300 4.0 1D357 NA 1D360 5.0 1D372 11.0 1D379 NA 1D400 3.1 1D455 NA
1D456 3.1 1D49D NA 1D49E 3.1 1D4A0 NA 1D4A2 3.1 1D4A3 NA 1D4A5 3.1 1D4A7 NA 1D4A9 3.1 1D4AD NA
1D4AE 3.1 1D4BA NA 1D4BB 3.1 1D4BC NA 1D4BD 3.1 1D4C1 4.0 1D4C2 3.1 1D4C4 NA 1D4C5 3.1 1D506 NA
1D507 3.1 1D50B NA 1D50D 3.1 1D515 NA 1D516 3.1 1D51D NA 1D51E 3.1 1D53A NA 1D53B 3.1 1D53F NA
1D540 3.1 1D545 NA 1D546 3.1 1D547 NA 1D54A 3.1 1D551 NA 1D552 3.1 1D6A4 4.1 1D6A6 NA 1D6A8 3.1
1D7CA 5.0 1D7CC NA 1D7CE 3.1 1D800 8.0 1DA8C NA 1DA9B 8.0 1DAA0 NA 1DAA1 8.0 1DAB0 NA 1DF00 14.0
1DF1F NA 1DF25 15.0 1DF2B NA 1E000 9.0 1E007 NA 1E008 9.0 1E019 NA 1E01B 9.0 1E022 NA 1E023 9.0
1E025 NA 1E026 9.0 1E02B NA 1E030 15.0 1E06E NA 1E08F 15.0 1E090 NA 1E100 12.0 1E12D NA
1E130 12.0 1E13E NA 1E140 12.0 1E14A NA 1E14E 12.0 1E150 NA 1E290 14.0 1E2AF NA 1E2C0 12.0
1E2FA NA 1E2FF 12.0 1E300 NA 1E4D0 15.0 1E4FA NA 1E5D0 16.0 1E5FB NA 1E5FF 16.0 1E600 NA
1E7E0 14.0 1E7E7 NA 1E7E8 14.0 1E7EC NA 1E7ED 14.0 1E7EF NA 1E7F0 14.0 1E7FF NA 1E800 7.0
1E8C5 NA 1E8C7 7.0 1E8D7 NA 1E900 9.0 1E94B 12.0 1E94C NA 1E950 9.0 1E95A NA 1E95E 9.0 1E960 NA
1EC71 11.0 1ECB5 NA 1ED01 12.0 1ED3E NA 1EE00 6.1 1EE04 NA 1EE05 6.1 1EE20 NA 1EE21 6.1 1EE23 NA
1EE24 6.1 1EE25 NA 1EE27 6.1 1EE28 NA 1EE29 6.1 1EE33 NA 1EE34 6.1 1EE38 NA 1EE39 6.1 1EE3A NA
1EE3B 6.1 1EE3C NA 1EE42 6.1 1EE43 NA 1EE47 6.1 1EE48 NA 1EE49 6.1 1EE4A NA 1EE4B 6.1 1EE4C NA
1EE4D 6.1 1EE50 NA 1EE51 6.1 1EE53 NA 1EE54 6.1 1EE55 NA 1EE57 6.1 1EE58 NA 1EE59 6.1 1EE5A NA
1EE5B 6.1 1EE5C NA 1EE5D 6.1 1EE5E NA 1EE5F 6.1 1EE60 NA 1EE61 6.1 1EE63 NA 1EE64 6.1 1EE65 NA
1EE67 6.1 1EE6B NA 1EE6C 6.1 1EE73 NA 1EE74 6.1 1EE78 NA 1EE79 6.1 1EE7D NA 1EE7E 6.1 1EE7F NA
1EE80 6.1 1EE8A NA 1EE8B 6.1 1EE9C NA 1EEA1 6.1 1EEA4 NA 1EEA5 6.1 1EEAA NA 1EEAB 6.1 1EEBC NA
1EEF0 6.1 1EEF2 NA 1F000 5.1 1F02C NA 1F030 5.1 1F094 NA 1F0A0 6.0 1F0AF NA 1F0B1 6.0 1F0BF 7.0
1F0C0 NA 1F0C1 6.0 1F0D0 NA 1F0D1 6.0 1F0E0 7.0 1F0F6 NA 1F100 5.2 1F10B 7.0 1F10D 13.0
1F110 5.2 1F12F 11.0 1F130 6.0 1F131 5.2 1F132 6.0 1F13D 5.2 1F13E 6.0 1F13F 5.2 1F140 6.0
1F142 5.2 1F143 6.0 1F146 5.2 1F147 6.0 1F14A 5.2 1F14F 6.0 1F157 5.2 1F158 6.0 1F15F 5.2
1F160 6.0 1F16A 6.1 1F16C 12.0 1F16D 13.0 1F170 6.0 1F179 5.2 1F17A 6.0 1F17B 5.2 1F17D 6.0
1F17F 5.2 1F180 6.0 1F18A 5.2 1F18E 6.0 1F190 5.2 1F191 6.0 1F19B 9.0 1F1AD 13.0 1F1AE NA
1F1E6 6.0 1F200 5.2 1F201 6.0 1F203 NA 1F210 5.2 1F232 6.0 1F23B 9.0 1F23C NA 1F240 5.2 1F249 NA
1F250 6.0 1F252 NA 1F260 10.0 1F266 NA 1F300 6.0 1F321 7.0 1F32D 8.0 1F330 6.0 1F336 7.0
1F337 6.0 1F37D 7.0 1F37E 8.0 1F380 6.0 1F394 7.0 1F3A0 6.0 1F3C5 7.0 1F3C6 6.0 1F3CB 7.0
1F3CF 8.0 1F3D4 7.0 1F3E0 6.0 1F3F1 7.0 1F3F8 8.0 1F400 6.0 1F43F 7.0 1F440 6.0 1F441 7.0
1F442 6.0 1F4F8 7.0 1F4F9 6.0 1F4FD 7.0 1F4FF 8.0 1F500 6.0 1F53E 7.0 1F540 6.1 1F544 7.0
1F54B 8.0 1F550 6.0 1F568 7.0 1F57A 9.0 1F57B 7.0 1F5A4 9.0 1F5A5 7.0 1F5FB 6.0 1F600 6.1
1F601 6.0 1F611 6.1 1F612 6.0 1F615 6.1 1F616 6.0 1F617 6.1 1F618 6.0 1F619 6.1 1F61A 6.0
1F61B 6.1 1F61C 6.0 1F61F 6.1 1F620 6.0 1F626 6.1 1F628 6.0 1F62C 6.1 1F62D 6.0 1F62E 6.1
1F630 6.0 1F634 6.1 1F635 6.0 1F641 7.0 1F643 8.0 1F645 6.0 1F650 7.0 1F680 6.0 1F6C6 7.0
1F6D0 8.0 1F6D1 9.0 1F6D3 10.0 1F6D5 12.0 1F6D6 13.0 1F6D8 NA 1F6DC 15.0 1F6DD 14.0 1F6E0 7.0
1F6ED NA 1F6F0 7.0 1F6F4 9.0 1F6F7 10.0 1F6F9 11.0 1F6FA 12.0 1F6FB 13.0 1F6FD NA 1F700 6.0
1F774 15.0 1F777 NA 1F77B 15.0 1F780 7.0 1F7D5 11.0 1F7D9 15.0 1F7DA NA 1F7E0 12.0 1F7EC NA
1F7F0 14.0 1F7F1 NA 1F800 7.0 1F80C NA 1F810 7.0 1F848 NA 1F850 7.0 1F85A NA 1F860 7.0 1F888 NA
1F890 7.0 1F8AE NA 1F8B0 13.0 1F8B2 16.0 1F8BC NA 1F8C0 16.0 1F8C2 NA 1F900 10.0 1F90C 13.0
1F90D 12.0 1F910 8.0 1F919 9.0 1F91F 10.0 1F920 9.0 1F928 10.0 1F930 9.0 1F931 10.0 1F933 9.0
1F93F 12.0 1F940 9.0 1F94C 10.0 1F94D 11.0 1F950 9.0 1F95F 10.0 1F96C 11.0 1F971 12.0 1F972 13.0
1F973 11.0 1F977 13.0 1F979 14.0 1F97A 11.0 1F97B 12.0 1F97C 11.0 1F980 8.0 1F985 9.0 1F992 10.0
1F998 11.0 1F9A3 13.0 1F9A5 12.0 1F9AB 13.0 1F9AE 12.0 1F9B0 11.0 1F9BA 12.0 1F9C0 8.0
1F9C1 11.0 1F9C3 12.0 1F9CB 13.0 1F9CC 14.0 1F9CD 12.0 1F9D0 10.0 1F9E7 11.0 1FA00 12.0 1FA54 NA
1FA60 11.0 1FA6E NA 1FA70 12.0 1FA74 13.0 1FA75 15.0 1FA78 12.0 1FA7B 14.0 1FA7D NA 1FA80 12.0
1FA83 13.0 1FA87 15.0 1FA89 16.0 1FA8A NA 1FA8F 16.0 1FA90 12.0 1FA96 13.0 1FAA9 14.0 1FAAD 15.0
1FAB0 13.0 1FAB7 14.0 1FABB 15.0 1FABE 16.0 1FABF 15.0 1FAC0 13.0 1FAC3 14.0 1FAC6 16.0 1FAC7 NA
1FACE 15.0 1FAD0 13.0 1FAD7 14.0 1FADA 15.0 1FADC 16.0 1FADD NA 1FADF 16.0 1FAE0 14.0 1FAE8 15.0
1FAE9 16.0 1FAEA NA 1FAF0 14.0 1FAF7 15.0 1FAF9 NA 1FB00 13.0 1FB93 NA 1FB94 13.0 1FBCB 16.0
1FBF0 13.0 1FBFA NA 1FFFE 2.0 20000 3.1 2A6D7 13.0 2A6DE 14.0 2A6E0 NA 2A700 5.2 2B735 14.0
2B739 15.0 2B73A NA 2B740 6.0 2B81E NA 2B820 8.0 2CEA2 NA 2CEB0 10.0 2EBE1 NA 2EBF0 15.1
2EE5E NA 2F800 3.1 2FA1E NA 2FFFE 2.0 30000 13.0 3134B NA 31350 15.0 323B0 NA 3FFFE 2.0 40000 NA
4FFFE 2.0 50000 NA 5FFFE 2.0 60000 NA 6FFFE 2.0 70000 NA 7FFFE 2.0 80000 NA 8FFFE 2.0 90000 NA
9FFFE 2.0 A0000 NA AFFFE 2.0 B0000 NA BFFFE 2.0 C0000 NA CFFFE 2.0 D0000 NA DFFFE 2.0 E0000 NA
E0001 3.1 E0002 NA E0020 3.1 E0080 NA E0100 4.0 E01F0 NA EFFFE 2.0"

/-- The version that assigned every code point, `NA` where none did. -/
def ageMap : CodeMap String :=
  CodeMap.ofText ageText id

/-- The versions that assigned characters, oldest first. -/
def versions : List String :=
  ["1.1", "2.0", "2.1", "3.0", "3.1", "3.2", "4.0", "4.1", "5.0", "5.1", "5.2", "6.0", "6.1", "6.2", "6.3", "7.0", "8.0", "9.0", "10.0", "11.0", "12.0", "12.1", "13.0", "14.0", "15.0", "15.1", "16.0"]

/-- The normalised names of every version, with the version. -/
def versionNames : List (String × String) :=
  [("1.1", "1.1"), ("v11", "1.1"), ("2.0", "2.0"), ("v20", "2.0"), ("2.1", "2.1"), ("v21", "2.1"),
   ("3.0", "3.0"), ("v30", "3.0"), ("3.1", "3.1"), ("v31", "3.1"), ("3.2", "3.2"), ("v32", "3.2"),
   ("4.0", "4.0"), ("v40", "4.0"), ("4.1", "4.1"), ("v41", "4.1"), ("5.0", "5.0"), ("v50", "5.0"),
   ("5.1", "5.1"), ("v51", "5.1"), ("5.2", "5.2"), ("v52", "5.2"), ("6.0", "6.0"), ("v60", "6.0"),
   ("6.1", "6.1"), ("v61", "6.1"), ("6.2", "6.2"), ("v62", "6.2"), ("6.3", "6.3"), ("v63", "6.3"),
   ("7.0", "7.0"), ("v70", "7.0"), ("8.0", "8.0"), ("v80", "8.0"), ("9.0", "9.0"), ("v90", "9.0"),
   ("10.0", "10.0"), ("v100", "10.0"), ("11.0", "11.0"), ("v110", "11.0"), ("12.0", "12.0"),
   ("v120", "12.0"), ("12.1", "12.1"), ("v121", "12.1"), ("13.0", "13.0"), ("v130", "13.0"),
   ("14.0", "14.0"), ("v140", "14.0"), ("15.0", "15.0"), ("v150", "15.0"), ("15.1", "15.1"),
   ("v151", "15.1"), ("16.0", "16.0"), ("v160", "16.0")]

/-- The inclusive ranges of code points assigned by a version or by an earlier one. -/
def assignedBy (version : String) : List (Nat × Nat) :=
  let upTo := versions.take (versions.idxOf version + 1)
  ageMap.rangesWhere (upTo.contains ·)

end FormIntegrity.Unicode
