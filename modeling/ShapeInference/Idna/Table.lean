import ShapeInference.Unicode.CodeSet

/-! The mapping table of UTS 46 for Unicode 17.0, outside ASCII.

`valid` holds the characters that stay, `ignored` those that are removed. The words of `mapped` are
`first-last>image` for ranges whose images go up with them, with `/2` for every second code point of
a range, and `first-last=images` for code points that all have the same images.
-/

set_option autoImplicit false

namespace ShapeInference.Idna

def valid : Unicode.CodeSet := .ofText
  "A1-A7 A9 AB-AC AE B0-B1 B6-B7 BB BF D7 DF-FF 101 103 105 107 109 10B 10D 10F 111 113 115 117
   119 11B 11D 11F 121 123 125 127 129 12B 12D 12F 131 135 137-138 13A 13C 13E 142 144 146 148
   14B 14D 14F 151 153 155 157 159 15B 15D 15F 161 163 165 167 169 16B 16D 16F 171 173 175 177
   17A 17C 17E 180 183 185 188 18C-18D 192 195 199-19B 19E 1A1 1A3 1A5 1A8 1AA-1AB 1AD 1B0 1B4
   1B6 1B9-1BB 1BD-1C3 1CE 1D0 1D2 1D4 1D6 1D8 1DA 1DC-1DD 1DF 1E1 1E3 1E5 1E7 1E9 1EB 1ED
   1EF-1F0 1F5 1F9 1FB 1FD 1FF 201 203 205 207 209 20B 20D 20F 211 213 215 217 219 21B 21D 21F
   221 223 225 227 229 22B 22D 22F 231 233-239 23C 23F-240 242 247 249 24B 24D 24F-2AF 2B9-2D7
   2DE-2DF 2E5-33F 342 346-34E 350-36F 371 373 375 377 37B-37D 390 3AC-3CE 3D7 3D9 3DB 3DD 3DF
   3E1 3E3 3E5 3E7 3E9 3EB 3ED 3EF 3F3 3F6 3F8 3FB-3FC 430-45F 461 463 465 467 469 46B 46D 46F
   471 473 475 477 479 47B 47D 47F 481-489 48B 48D 48F 491 493 495 497 499 49B 49D 49F 4A1 4A3
   4A5 4A7 4A9 4AB 4AD 4AF 4B1 4B3 4B5 4B7 4B9 4BB 4BD 4BF 4C2 4C4 4C6 4C8 4CA 4CC 4CE-4CF 4D1
   4D3 4D5 4D7 4D9 4DB 4DD 4DF 4E1 4E3 4E5 4E7 4E9 4EB 4ED 4EF 4F1 4F3 4F5 4F7 4F9 4FB 4FD 4FF
   501 503 505 507 509 50B 50D 50F 511 513 515 517 519 51B 51D 51F 521 523 525 527 529 52B 52D
   52F 559-586 588-58A 58D-58F 591-5C7 5D0-5EA 5EF-5F4 606-61B 61D-674 679-6DC 6DE-70D 710-74A
   74D-7B1 7C0-7FA 7FD-82D 830-83E 840-85B 85E 860-86A 870-88F 897-8E1 8E3-957 960-983 985-98C
   98F-990 993-9A8 9AA-9B0 9B2 9B6-9B9 9BC-9C4 9C7-9C8 9CB-9CE 9D7 9E0-9E3 9E6-9FE A01-A03
   A05-A0A A0F-A10 A13-A28 A2A-A30 A32 A35 A38-A39 A3C A3E-A42 A47-A48 A4B-A4D A51 A5C A66-A76
   A81-A83 A85-A8D A8F-A91 A93-AA8 AAA-AB0 AB2-AB3 AB5-AB9 ABC-AC5 AC7-AC9 ACB-ACD AD0 AE0-AE3
   AE6-AF1 AF9-AFF B01-B03 B05-B0C B0F-B10 B13-B28 B2A-B30 B32-B33 B35-B39 B3C-B44 B47-B48
   B4B-B4D B55-B57 B5F-B63 B66-B77 B82-B83 B85-B8A B8E-B90 B92-B95 B99-B9A B9C B9E-B9F BA3-BA4
   BA8-BAA BAE-BB9 BBE-BC2 BC6-BC8 BCA-BCD BD0 BD7 BE6-BFA C00-C0C C0E-C10 C12-C28 C2A-C39
   C3C-C44 C46-C48 C4A-C4D C55-C56 C58-C5A C5C-C5D C60-C63 C66-C6F C77-C8C C8E-C90 C92-CA8
   CAA-CB3 CB5-CB9 CBC-CC4 CC6-CC8 CCA-CCD CD5-CD6 CDC-CDE CE0-CE3 CE6-CEF CF1-CF3 D00-D0C
   D0E-D10 D12-D44 D46-D48 D4A-D4F D54-D63 D66-D7F D81-D83 D85-D96 D9A-DB1 DB3-DBB DBD DC0-DC6
   DCA DCF-DD4 DD6 DD8-DDF DE6-DEF DF2-DF4 E01-E32 E34-E3A E3F-E5B E81-E82 E84 E86-E8A E8C-EA3
   EA5 EA7-EB2 EB4-EBD EC0-EC4 EC6 EC8-ECE ED0-ED9 EDE-EDF F00-F0B F0D-F42 F44-F47 F49-F4C
   F4E-F51 F53-F56 F58-F5B F5D-F68 F6A-F6C F71-F72 F74 F7A-F80 F82-F92 F94-F97 F99-F9C F9E-FA1
   FA3-FA6 FA8-FAB FAD-FB8 FBA-FBC FBE-FCC FCE-FDA 1000-109F 10D0-10FB 10FD-115E 1161-1248
   124A-124D 1250-1256 1258 125A-125D 1260-1288 128A-128D 1290-12B0 12B2-12B5 12B8-12BE 12C0
   12C2-12C5 12C8-12D6 12D8-1310 1312-1315 1318-135A 135D-137C 1380-1399 13A0-13F5 1400-167F
   1681-169C 16A0-16F8 1700-1715 171F-1736 1740-1753 1760-176C 176E-1770 1772-1773 1780-17B3
   17B6-17DD 17E0-17E9 17F0-17F9 1800-180A 1810-1819 1820-1878 1880-18AA 18B0-18F5 1900-191E
   1920-192B 1930-193B 1940 1944-196D 1970-1974 1980-19AB 19B0-19C9 19D0-19DA 19DE-1A1B
   1A1E-1A5E 1A60-1A7C 1A7F-1A89 1A90-1A99 1AA0-1AAD 1AB0-1ADD 1AE0-1AEB 1B00-1B4C 1B4E-1BF3
   1BFC-1C37 1C3B-1C49 1C4D-1C7F 1C8A 1CC0-1CC7 1CD0-1CFA 1D00-1D2B 1D2F 1D3B 1D4E 1D6B-1D77
   1D79-1D9A 1DC0-1DFF 1E01 1E03 1E05 1E07 1E09 1E0B 1E0D 1E0F 1E11 1E13 1E15 1E17 1E19 1E1B
   1E1D 1E1F 1E21 1E23 1E25 1E27 1E29 1E2B 1E2D 1E2F 1E31 1E33 1E35 1E37 1E39 1E3B 1E3D 1E3F
   1E41 1E43 1E45 1E47 1E49 1E4B 1E4D 1E4F 1E51 1E53 1E55 1E57 1E59 1E5B 1E5D 1E5F 1E61 1E63
   1E65 1E67 1E69 1E6B 1E6D 1E6F 1E71 1E73 1E75 1E77 1E79 1E7B 1E7D 1E7F 1E81 1E83 1E85 1E87
   1E89 1E8B 1E8D 1E8F 1E91 1E93 1E95-1E99 1E9C-1E9D 1E9F 1EA1 1EA3 1EA5 1EA7 1EA9 1EAB 1EAD
   1EAF 1EB1 1EB3 1EB5 1EB7 1EB9 1EBB 1EBD 1EBF 1EC1 1EC3 1EC5 1EC7 1EC9 1ECB 1ECD 1ECF 1ED1
   1ED3 1ED5 1ED7 1ED9 1EDB 1EDD 1EDF 1EE1 1EE3 1EE5 1EE7 1EE9 1EEB 1EED 1EEF 1EF1 1EF3 1EF5
   1EF7 1EF9 1EFB 1EFD 1EFF-1F07 1F10-1F15 1F20-1F27 1F30-1F37 1F40-1F45 1F50-1F57 1F60-1F67
   1F70 1F72 1F74 1F76 1F78 1F7A 1F7C 1FB0-1FB1 1FB6 1FC6 1FD0-1FD2 1FD6-1FD7 1FE0-1FE2
   1FE4-1FE7 1FF6 200C-200D 2010 2012-2016 2018-2023 2027 2030-2032 2035 2038-203B 203D
   203F-2046 204A-2056 2058-205E 20A0-20A7 20A9-20C1 20D0-20F0 2104 2108 2114 2117-2118
   211E-211F 2123 2125 2127 2129 212E 213A 2141-2144 214A-214F 2180-2182 2184-2188 218A-218B
   2190-222B 222E 2231-2328 232B-2429 2440-244A 24EB-2A0B 2A0D-2A73 2A77-2ADB 2ADD-2B73
   2B76-2BFF 2C30-2C5F 2C61 2C65-2C66 2C68 2C6A 2C6C 2C71 2C73-2C74 2C76-2C7B 2C81 2C83 2C85
   2C87 2C89 2C8B 2C8D 2C8F 2C91 2C93 2C95 2C97 2C99 2C9B 2C9D 2C9F 2CA1 2CA3 2CA5 2CA7 2CA9
   2CAB 2CAD 2CAF 2CB1 2CB3 2CB5 2CB7 2CB9 2CBB 2CBD 2CBF 2CC1 2CC3 2CC5 2CC7 2CC9 2CCB 2CCD
   2CCF 2CD1 2CD3 2CD5 2CD7 2CD9 2CDB 2CDD 2CDF 2CE1 2CE3-2CEA 2CEC 2CEE-2CF1 2CF3 2CF9-2D25
   2D27 2D2D 2D30-2D67 2D70 2D7F-2D96 2DA0-2DA6 2DA8-2DAE 2DB0-2DB6 2DB8-2DBE 2DC0-2DC6
   2DC8-2DCE 2DD0-2DD6 2DD8-2DDE 2DE0-2E5D 2E80-2E99 2E9B-2E9E 2EA0-2EF2 3001 3003-3035 3037
   303B-303F 3041-3096 3099-309A 309D-309E 30A0-30FE 3105-312F 3190-3191 31A0-31E5 31F0-31FF
   3248-324F 327F 3400-A48C A490-A4C6 A4D0-A62B A641 A643 A645 A647 A649 A64B A64D A64F A651
   A653 A655 A657 A659 A65B A65D A65F A661 A663 A665 A667 A669 A66B A66D-A67F A681 A683 A685
   A687 A689 A68B A68D A68F A691 A693 A695 A697 A699 A69B A69E-A6F7 A700-A721 A723 A725 A727
   A729 A72B A72D A72F-A731 A733 A735 A737 A739 A73B A73D A73F A741 A743 A745 A747 A749 A74B
   A74D A74F A751 A753 A755 A757 A759 A75B A75D A75F A761 A763 A765 A767 A769 A76B A76D A76F
   A771-A778 A77A A77C A77F A781 A783 A785 A787-A78A A78C A78E-A78F A791 A793-A795 A797 A799
   A79B A79D A79F A7A1 A7A3 A7A5 A7A7 A7A9 A7AF A7B5 A7B7 A7B9 A7BB A7BD A7BF A7C1 A7C3 A7C8
   A7CA A7CD A7CF A7D1 A7D3 A7D5 A7D7 A7D9 A7DB A7F6-A7F7 A7FA-A82C A830-A839 A840-A877
   A880-A8C5 A8CE-A8D9 A8E0-A953 A95F-A97C A980-A9CD A9CF-A9D9 A9DE-A9FE AA00-AA36 AA40-AA4D
   AA50-AA59 AA5C-AAC2 AADB-AAF6 AB01-AB06 AB09-AB0E AB11-AB16 AB20-AB26 AB28-AB2E AB30-AB5B
   AB60-AB68 AB6A-AB6B ABC0-ABED ABF0-ABF9 AC00-D7A3 D7B0-D7C6 D7CB-D7FB FA0E-FA0F FA11
   FA13-FA14 FA1F FA21 FA23-FA24 FA27-FA29 FB1E FBB2-FBD2 FD3E-FD4F FD90-FD91 FDC8-FDCF
   FDFD-FDFF FE20-FE2F FE45-FE46 FE73 10000-1000B 1000D-10026 10028-1003A 1003C-1003D
   1003F-1004D 10050-1005D 10080-100FA 10100-10102 10107-10133 10137-1018E 10190-1019C 101A0
   101D0-101FD 10280-1029C 102A0-102D0 102E0-102FB 10300-10323 1032D-1034A 10350-1037A
   10380-1039D 1039F-103C3 103C8-103D5 10428-1049D 104A0-104A9 104D8-104FB 10500-10527
   10530-10563 1056F 10597-105A1 105A3-105B1 105B3-105B9 105BB-105BC 105C0-105F3 10600-10736
   10740-10755 10760-10767 10780 10800-10805 10808 1080A-10835 10837-10838 1083C 1083F-10855
   10857-1089E 108A7-108AF 108E0-108F2 108F4-108F5 108FB-1091B 1091F-10939 1093F-10959
   10980-109B7 109BC-109CF 109D2-10A03 10A05-10A06 10A0C-10A13 10A15-10A17 10A19-10A35
   10A38-10A3A 10A3F-10A48 10A50-10A58 10A60-10A9F 10AC0-10AE6 10AEB-10AF6 10B00-10B35
   10B39-10B55 10B58-10B72 10B78-10B91 10B99-10B9C 10BA9-10BAF 10C00-10C48 10CC0-10CF2
   10CFA-10D27 10D30-10D39 10D40-10D4F 10D69-10D85 10D8E-10D8F 10E60-10E7E 10E80-10EA9
   10EAB-10EAD 10EB0-10EB1 10EC2-10EC7 10ED0-10ED8 10EFA-10F27 10F30-10F59 10F70-10F89
   10FB0-10FCB 10FE0-10FF6 11000-1104D 11052-11075 1107F-110BC 110BE-110C2 110D0-110E8
   110F0-110F9 11100-11134 11136-11147 11150-11176 11180-111DF 111E1-111F4 11200-11211
   11213-11241 11280-11286 11288 1128A-1128D 1128F-1129D 1129F-112A9 112B0-112EA 112F0-112F9
   11300-11303 11305-1130C 1130F-11310 11313-11328 1132A-11330 11332-11333 11335-11339
   1133B-11344 11347-11348 1134B-1134D 11350 11357 1135D-11363 11366-1136C 11370-11374
   11380-11389 1138B 1138E 11390-113B5 113B7-113C0 113C2 113C5 113C7-113CA 113CC-113D5
   113D7-113D8 113E1-113E2 11400-1145B 1145D-11461 11480-114C7 114D0-114D9 11580-115B5
   115B8-115DD 11600-11644 11650-11659 11660-1166C 11680-116B9 116C0-116C9 116D0-116E3
   11700-1171A 1171D-1172B 11730-11746 11800-1183B 118C0-118F2 118FF-11906 11909 1190C-11913
   11915-11916 11918-11935 11937-11938 1193B-11946 11950-11959 119A0-119A7 119AA-119D7
   119DA-119E4 11A00-11A47 11A50-11AA2 11AB0-11AF8 11B00-11B09 11B60-11B67 11BC0-11BE1
   11BF0-11BF9 11C00-11C08 11C0A-11C36 11C38-11C45 11C50-11C6C 11C70-11C8F 11C92-11CA7
   11CA9-11CB6 11D00-11D06 11D08-11D09 11D0B-11D36 11D3A 11D3C-11D3D 11D3F-11D47 11D50-11D59
   11D60-11D65 11D67-11D68 11D6A-11D8E 11D90-11D91 11D93-11D98 11DA0-11DA9 11DB0-11DDB
   11DE0-11DE9 11EE0-11EF8 11F00-11F10 11F12-11F3A 11F3E-11F5A 11FB0 11FC0-11FF1 11FFF-12399
   12400-1246E 12470-12474 12480-12543 12F90-12FF2 13000-1342F 13440-13455 13460-143FA
   14400-14646 16100-16139 16800-16A38 16A40-16A5E 16A60-16A69 16A6E-16ABE 16AC0-16AC9
   16AD0-16AED 16AF0-16AF5 16B00-16B45 16B50-16B59 16B5B-16B61 16B63-16B77 16B7D-16B8F
   16D40-16D79 16E60-16E9A 16EBB-16ED3 16F00-16F4A 16F4F-16F87 16F8F-16F9F 16FE0-16FE4
   16FF0-16FF6 17000-18CD5 18CFF-18D1E 18D80-18DF2 1AFF0-1AFF3 1AFF5-1AFFB 1AFFD-1AFFE
   1B000-1B122 1B132 1B150-1B152 1B155 1B164-1B167 1B170-1B2FB 1BC00-1BC6A 1BC70-1BC7C
   1BC80-1BC88 1BC90-1BC99 1BC9C-1BC9F 1CC00-1CCD5 1CCFA-1CCFC 1CD00-1CEB3 1CEBA-1CED0
   1CEE0-1CEF0 1CF00-1CF2D 1CF30-1CF46 1CF50-1CFC3 1D000-1D0F5 1D100-1D126 1D129-1D15D
   1D165-1D172 1D17B-1D1BA 1D1C1-1D1EA 1D200-1D245 1D2C0-1D2D3 1D2E0-1D2F3 1D300-1D356
   1D360-1D378 1D800-1DA8B 1DA9B-1DA9F 1DAA1-1DAAF 1DF00-1DF1E 1DF25-1DF2A 1E000-1E006
   1E008-1E018 1E01B-1E021 1E023-1E024 1E026-1E02A 1E08F 1E100-1E12C 1E130-1E13D 1E140-1E149
   1E14E-1E14F 1E290-1E2AE 1E2C0-1E2F9 1E2FF 1E4D0-1E4F9 1E5D0-1E5FA 1E5FF 1E6C0-1E6DE
   1E6E0-1E6F5 1E6FE-1E6FF 1E7E0-1E7E6 1E7E8-1E7EB 1E7ED-1E7EE 1E7F0-1E7FE 1E800-1E8C4
   1E8C7-1E8D6 1E922-1E94B 1E950-1E959 1E95E-1E95F 1EC71-1ECB4 1ED01-1ED3D 1EEF0-1EEF1
   1F000-1F02B 1F030-1F093 1F0A0-1F0AE 1F0B1-1F0BF 1F0C1-1F0CF 1F0D1-1F0F5 1F10B-1F10F 1F12F
   1F150-1F169 1F16D-1F18F 1F191-1F1AD 1F1E6-1F1FF 1F260-1F265 1F300-1F6D8 1F6DC-1F6EC
   1F6F0-1F6FC 1F700-1F7D9 1F7E0-1F7EB 1F7F0 1F800-1F80B 1F810-1F847 1F850-1F859 1F860-1F887
   1F890-1F8AD 1F8B0-1F8BB 1F8C0-1F8C1 1F8D0-1F8D8 1F900-1FA57 1FA60-1FA6D 1FA70-1FA7C
   1FA80-1FA8A 1FA8E-1FAC6 1FAC8 1FACD-1FADC 1FADF-1FAEA 1FAEF-1FAF8 1FB00-1FB92 1FB94-1FBEF
   1FBFA 20000-2A6DF 2A700-2B81D 2B820-2CEAD 2CEB0-2EBE0 2EBF0-2EE5D 30000-3134A 31350-33479"

def ignored : Unicode.CodeSet := .ofText
  "AD 34F 115F-1160 17B4-17B5 180B-180F 200B 2060-2064 206A-206F 3164 FE00-FE0F FEFF FFA0
   1BCA0-1BCA3 1D173-1D17A E0100-E01EF"

def mappedText : String :=
  "A0>20 A8=20,308 AA>61 AF=20,304 B2-B3>32 B4=20,301 B5>3BC B8=20,327 B9>31 BA>6F
   BC=31,2044,34 BD=31,2044,32 BE=33,2044,34 C0-D6>E0 D8-DE>F8 100-12E/2>101 130=69,307
   132=69,6A 133=69,6A 134>135 136>137 139-13D/2>13A 13F=6C,B7 140=6C,B7 141-147/2>142
   149=2BC,6E 14A-176/2>14B 178>FF 179-17D/2>17A 17F>73 181>253 182>183 184>185 186>254 187>188
   189-18A>256 18B>18C 18E>1DD 18F>259 190>25B 191>192 193>260 194>263 196>269 197>268 198>199
   19C>26F 19D>272 19F>275 1A0-1A4/2>1A1 1A6>280 1A7>1A8 1A9>283 1AC>1AD 1AE>288 1AF>1B0
   1B1-1B2>28A 1B3>1B4 1B5>1B6 1B7>292 1B8>1B9 1BC>1BD 1C4=64,17E 1C5=64,17E 1C6=64,17E
   1C7=6C,6A 1C8=6C,6A 1C9=6C,6A 1CA=6E,6A 1CB=6E,6A 1CC=6E,6A 1CD-1DB/2>1CE 1DE-1EE/2>1DF
   1F1=64,7A 1F2=64,7A 1F3=64,7A 1F4>1F5 1F6>195 1F7>1BF 1F8-21E/2>1F9 220>19E 222-232/2>223
   23A>2C65 23B>23C 23D>19A 23E>2C66 241>242 243>180 244>289 245>28C 246-24E/2>247 2B0>68
   2B1>266 2B2>6A 2B3>72 2B4>279 2B5>27B 2B6>281 2B7>77 2B8>79 2D8=20,306 2D9=20,307 2DA=20,30A
   2DB=20,328 2DC=20,303 2DD=20,30B 2E0>263 2E1>6C 2E2>73 2E3>78 2E4>295 340-341>300 343>313
   344=308,301 345>3B9 370>371 372>373 374>2B9 376>377 37A=20,3B9 37E>3B 37F>3F3 384=20,301
   385=20,308,301 386>3AC 387>B7 388-38A>3AD 38C>3CC 38E-38F>3CD 391-3A1>3B1 3A3-3AB>3C3
   3CF>3D7 3D0>3B2 3D1>3B8 3D2>3C5 3D3>3CD 3D4>3CB 3D5>3C6 3D6>3C0 3D8-3EE/2>3D9 3F0>3BA
   3F1>3C1 3F2>3C3 3F4>3B8 3F5>3B5 3F7>3F8 3F9>3C3 3FA>3FB 3FD-3FF>37B 400-40F>450 410-42F>430
   460-480/2>461 48A-4BE/2>48B 4C0>4CF 4C1-4CD/2>4C2 4D0-52E/2>4D1 531-556>561 587=565,582
   675=627,674 676=648,674 677=6C7,674 678=64A,674 958=915,93C 959=916,93C 95A=917,93C
   95B=91C,93C 95C=921,93C 95D=922,93C 95E=92B,93C 95F=92F,93C 9DC=9A1,9BC 9DD=9A2,9BC
   9DF=9AF,9BC A33=A32,A3C A36=A38,A3C A59=A16,A3C A5A=A17,A3C A5B=A1C,A3C A5E=A2B,A3C
   B5C=B21,B3C B5D=B22,B3C E33=E4D,E32 EB3=ECD,EB2 EDC=EAB,E99 EDD=EAB,EA1 F0C>F0B F43=F42,FB7
   F4D=F4C,FB7 F52=F51,FB7 F57=F56,FB7 F5C=F5B,FB7 F69=F40,FB5 F73=F71,F72 F75=F71,F74
   F76=FB2,F80 F77=FB2,F71,F80 F78=FB3,F80 F79=FB3,F71,F80 F81=F71,F80 F93=F92,FB7 F9D=F9C,FB7
   FA2=FA1,FB7 FA7=FA6,FB7 FAC=FAB,FB7 FB9=F90,FB5 10A0-10C5>2D00 10C7>2D27 10CD>2D2D 10FC>10DC
   13F8-13FD>13F0 1C80>432 1C81>434 1C82>43E 1C83-1C84>441 1C85>442 1C86>44A 1C87>463 1C88>A64B
   1C89>1C8A 1C90-1CBA>10D0 1CBD-1CBF>10FD 1D2C>61 1D2D>E6 1D2E>62 1D30-1D31>64 1D32>1DD
   1D33-1D3A>67 1D3C>6F 1D3D>223 1D3E>70 1D3F>72 1D40-1D41>74 1D42>77 1D43>61 1D44-1D45>250
   1D46>1D02 1D47>62 1D48-1D49>64 1D4A>259 1D4B-1D4C>25B 1D4D>67 1D4F>6B 1D50>6D 1D51>14B
   1D52>6F 1D53>254 1D54-1D55>1D16 1D56>70 1D57-1D58>74 1D59>1D1D 1D5A>26F 1D5B>76 1D5C>1D25
   1D5D-1D5F>3B2 1D60-1D61>3C6 1D62>69 1D63>72 1D64-1D65>75 1D66-1D67>3B2 1D68>3C1
   1D69-1D6A>3C6 1D78>43D 1D9B>252 1D9C>63 1D9D>255 1D9E>F0 1D9F>25C 1DA0>66 1DA1>25F 1DA2>261
   1DA3>265 1DA4-1DA6>268 1DA7>1D7B 1DA8>29D 1DA9>26D 1DAA>1D85 1DAB>29F 1DAC>271 1DAD>270
   1DAE-1DB1>272 1DB2>278 1DB3-1DB4>282 1DB5>1AB 1DB6-1DB7>289 1DB8>1D1C 1DB9-1DBA>28B 1DBB>7A
   1DBC-1DBE>290 1DBF>3B8 1E00-1E94/2>1E01 1E9A=61,2BE 1E9B>1E61 1E9E>DF 1EA0-1EFE/2>1EA1
   1F08-1F0F>1F00 1F18-1F1D>1F10 1F28-1F2F>1F20 1F38-1F3F>1F30 1F48-1F4D>1F40 1F59-1F5F/2>1F51
   1F68-1F6F>1F60 1F71>3AC 1F73>3AD 1F75>3AE 1F77>3AF 1F79>3CC 1F7B>3CD 1F7D>3CE 1F80=1F00,3B9
   1F81=1F01,3B9 1F82=1F02,3B9 1F83=1F03,3B9 1F84=1F04,3B9 1F85=1F05,3B9 1F86=1F06,3B9
   1F87=1F07,3B9 1F88=1F00,3B9 1F89=1F01,3B9 1F8A=1F02,3B9 1F8B=1F03,3B9 1F8C=1F04,3B9
   1F8D=1F05,3B9 1F8E=1F06,3B9 1F8F=1F07,3B9 1F90=1F20,3B9 1F91=1F21,3B9 1F92=1F22,3B9
   1F93=1F23,3B9 1F94=1F24,3B9 1F95=1F25,3B9 1F96=1F26,3B9 1F97=1F27,3B9 1F98=1F20,3B9
   1F99=1F21,3B9 1F9A=1F22,3B9 1F9B=1F23,3B9 1F9C=1F24,3B9 1F9D=1F25,3B9 1F9E=1F26,3B9
   1F9F=1F27,3B9 1FA0=1F60,3B9 1FA1=1F61,3B9 1FA2=1F62,3B9 1FA3=1F63,3B9 1FA4=1F64,3B9
   1FA5=1F65,3B9 1FA6=1F66,3B9 1FA7=1F67,3B9 1FA8=1F60,3B9 1FA9=1F61,3B9 1FAA=1F62,3B9
   1FAB=1F63,3B9 1FAC=1F64,3B9 1FAD=1F65,3B9 1FAE=1F66,3B9 1FAF=1F67,3B9 1FB2=1F70,3B9
   1FB3=3B1,3B9 1FB4=3AC,3B9 1FB7=1FB6,3B9 1FB8-1FB9>1FB0 1FBA>1F70 1FBB>3AC 1FBC=3B1,3B9
   1FBD=20,313 1FBE>3B9 1FBF=20,313 1FC0=20,342 1FC1=20,308,342 1FC2=1F74,3B9 1FC3=3B7,3B9
   1FC4=3AE,3B9 1FC7=1FC6,3B9 1FC8>1F72 1FC9>3AD 1FCA>1F74 1FCB>3AE 1FCC=3B7,3B9
   1FCD=20,313,300 1FCE=20,313,301 1FCF=20,313,342 1FD3>390 1FD8-1FD9>1FD0 1FDA>1F76 1FDB>3AF
   1FDD=20,314,300 1FDE=20,314,301 1FDF=20,314,342 1FE3>3B0 1FE8-1FE9>1FE0 1FEA>1F7A 1FEB>3CD
   1FEC>1FE5 1FED=20,308,300 1FEE=20,308,301 1FEF>60 1FF2=1F7C,3B9 1FF3=3C9,3B9 1FF4=3CE,3B9
   1FF7=1FF6,3B9 1FF8>1F78 1FF9>3CC 1FFA>1F7C 1FFB>3CE 1FFC=3C9,3B9 1FFD=20,301 1FFE=20,314
   2000-200A=20 2011>2010 2017=20,333 202F>20 2033=2032,2032 2034=2032,2032,2032 2036=2035,2035
   2037=2035,2035,2035 203C=21,21 203E=20,305 2047=3F,3F 2048=3F,21 2049=21,3F
   2057=2032,2032,2032,2032 205F>20 2070>30 2071>69 2074-2079>34 207A>2B 207B>2212 207C>3D
   207D-207E>28 207F>6E 2080-2089>30 208A>2B 208B>2212 208C>3D 208D-208E>28 2090>61 2091>65
   2092>6F 2093>78 2094>259 2095>68 2096-2099>6B 209A>70 209B-209C>73 20A8=72,73 2100=61,2F,63
   2101=61,2F,73 2102>63 2103=B0,63 2105=63,2F,6F 2106=63,2F,75 2107>25B 2109=B0,66
   210A-210B>67 210C-210E=68 210F>127 2110-2111=69 2112-2113=6C 2115>6E 2116=6E,6F 2119-211B>70
   211C-211D=72 2120=73,6D 2121=74,65,6C 2122=74,6D 2124>7A 2126>3C9 2128>7A 212A>6B 212B>E5
   212C-212D>62 212F-2130=65 2131>66 2132>214E 2133>6D 2134>6F 2135-2138>5D0 2139>69
   213B=66,61,78 213C>3C0 213D-213E=3B3 213F>3C0 2140>2211 2145-2146=64 2147>65 2148-2149>69
   2150=31,2044,37 2151=31,2044,39 2152=31,2044,31,30 2153=31,2044,33 2154=32,2044,33
   2155=31,2044,35 2156=32,2044,35 2157=33,2044,35 2158=34,2044,35 2159=31,2044,36
   215A=35,2044,36 215B=31,2044,38 215C=33,2044,38 215D=35,2044,38 215E=37,2044,38 215F=31,2044
   2160>69 2161=69,69 2162=69,69,69 2163=69,76 2164>76 2165=76,69 2166=76,69,69
   2167=76,69,69,69 2168=69,78 2169>78 216A=78,69 216B=78,69,69 216C>6C 216D-216E>63 216F>6D
   2170>69 2171=69,69 2172=69,69,69 2173=69,76 2174>76 2175=76,69 2176=76,69,69
   2177=76,69,69,69 2178=69,78 2179>78 217A=78,69 217B=78,69,69 217C>6C 217D-217E>63 217F>6D
   2183>2184 2189=30,2044,33 222C=222B,222B 222D=222B,222B,222B 222F=222E,222E
   2230=222E,222E,222E 2329-232A>3008 2460-2468>31 2469=31,30 246A=31,31 246B=31,32 246C=31,33
   246D=31,34 246E=31,35 246F=31,36 2470=31,37 2471=31,38 2472=31,39 2473=32,30 2474=28,31,29
   2475=28,32,29 2476=28,33,29 2477=28,34,29 2478=28,35,29 2479=28,36,29 247A=28,37,29
   247B=28,38,29 247C=28,39,29 247D=28,31,30,29 247E=28,31,31,29 247F=28,31,32,29
   2480=28,31,33,29 2481=28,31,34,29 2482=28,31,35,29 2483=28,31,36,29 2484=28,31,37,29
   2485=28,31,38,29 2486=28,31,39,29 2487=28,32,30,29 249C=28,61,29 249D=28,62,29 249E=28,63,29
   249F=28,64,29 24A0=28,65,29 24A1=28,66,29 24A2=28,67,29 24A3=28,68,29 24A4=28,69,29
   24A5=28,6A,29 24A6=28,6B,29 24A7=28,6C,29 24A8=28,6D,29 24A9=28,6E,29 24AA=28,6F,29
   24AB=28,70,29 24AC=28,71,29 24AD=28,72,29 24AE=28,73,29 24AF=28,74,29 24B0=28,75,29
   24B1=28,76,29 24B2=28,77,29 24B3=28,78,29 24B4=28,79,29 24B5=28,7A,29 24B6-24CF>61
   24D0-24E9>61 24EA>30 2A0C=222B,222B,222B,222B 2A74=3A,3A,3D 2A75=3D,3D 2A76=3D,3D,3D
   2ADC=2ADD,338 2C00-2C2F>2C30 2C60>2C61 2C62>26B 2C63>1D7D 2C64>27D 2C67-2C6B/2>2C68 2C6D>251
   2C6E>271 2C6F>250 2C70>252 2C72>2C73 2C75>2C76 2C7C>6A 2C7D>76 2C7E-2C7F>23F
   2C80-2CE2/2>2C81 2CEB>2CEC 2CED>2CEE 2CF2>2CF3 2D6F>2D61 2E9F>6BCD 2EF3>9F9F 2F00>4E00
   2F01>4E28 2F02>4E36 2F03>4E3F 2F04>4E59 2F05>4E85 2F06>4E8C 2F07>4EA0 2F08>4EBA 2F09>513F
   2F0A>5165 2F0B>516B 2F0C>5182 2F0D>5196 2F0E>51AB 2F0F>51E0 2F10>51F5 2F11>5200 2F12>529B
   2F13>52F9 2F14>5315 2F15>531A 2F16>5338 2F17>5341 2F18>535C 2F19>5369 2F1A>5382 2F1B>53B6
   2F1C>53C8 2F1D>53E3 2F1E>56D7 2F1F>571F 2F20>58EB 2F21>5902 2F22>590A 2F23>5915 2F24>5927
   2F25>5973 2F26>5B50 2F27>5B80 2F28>5BF8 2F29>5C0F 2F2A>5C22 2F2B>5C38 2F2C>5C6E 2F2D>5C71
   2F2E>5DDB 2F2F>5DE5 2F30>5DF1 2F31>5DFE 2F32>5E72 2F33>5E7A 2F34>5E7F 2F35>5EF4 2F36>5EFE
   2F37>5F0B 2F38>5F13 2F39>5F50 2F3A>5F61 2F3B>5F73 2F3C>5FC3 2F3D>6208 2F3E>6236 2F3F>624B
   2F40>652F 2F41>6534 2F42>6587 2F43>6597 2F44>65A4 2F45>65B9 2F46>65E0 2F47>65E5 2F48>66F0
   2F49>6708 2F4A>6728 2F4B>6B20 2F4C>6B62 2F4D>6B79 2F4E>6BB3 2F4F>6BCB 2F50>6BD4 2F51>6BDB
   2F52>6C0F 2F53>6C14 2F54>6C34 2F55>706B 2F56>722A 2F57>7236 2F58>723B 2F59>723F 2F5A>7247
   2F5B>7259 2F5C>725B 2F5D>72AC 2F5E>7384 2F5F>7389 2F60>74DC 2F61>74E6 2F62>7518 2F63>751F
   2F64>7528 2F65>7530 2F66>758B 2F67>7592 2F68>7676 2F69>767D 2F6A>76AE 2F6B>76BF 2F6C>76EE
   2F6D>77DB 2F6E>77E2 2F6F>77F3 2F70>793A 2F71>79B8 2F72>79BE 2F73>7A74 2F74>7ACB 2F75>7AF9
   2F76>7C73 2F77>7CF8 2F78>7F36 2F79>7F51 2F7A>7F8A 2F7B>7FBD 2F7C>8001 2F7D>800C 2F7E>8012
   2F7F>8033 2F80>807F 2F81>8089 2F82>81E3 2F83>81EA 2F84>81F3 2F85>81FC 2F86>820C 2F87>821B
   2F88>821F 2F89>826E 2F8A>8272 2F8B>8278 2F8C>864D 2F8D>866B 2F8E>8840 2F8F>884C 2F90>8863
   2F91>897E 2F92>898B 2F93>89D2 2F94>8A00 2F95>8C37 2F96>8C46 2F97>8C55 2F98>8C78 2F99>8C9D
   2F9A>8D64 2F9B>8D70 2F9C>8DB3 2F9D>8EAB 2F9E>8ECA 2F9F>8F9B 2FA0>8FB0 2FA1>8FB5 2FA2>9091
   2FA3>9149 2FA4>91C6 2FA5>91CC 2FA6>91D1 2FA7>9577 2FA8>9580 2FA9>961C 2FAA>96B6 2FAB>96B9
   2FAC>96E8 2FAD>9751 2FAE>975E 2FAF>9762 2FB0>9769 2FB1>97CB 2FB2>97ED 2FB3>97F3 2FB4>9801
   2FB5>98A8 2FB6>98DB 2FB7>98DF 2FB8>9996 2FB9>9999 2FBA>99AC 2FBB>9AA8 2FBC>9AD8 2FBD>9ADF
   2FBE>9B25 2FBF>9B2F 2FC0>9B32 2FC1>9B3C 2FC2>9B5A 2FC3>9CE5 2FC4>9E75 2FC5>9E7F 2FC6>9EA5
   2FC7>9EBB 2FC8>9EC3 2FC9>9ECD 2FCA>9ED1 2FCB>9EF9 2FCC>9EFD 2FCD>9F0E 2FCE>9F13 2FCF>9F20
   2FD0>9F3B 2FD1>9F4A 2FD2>9F52 2FD3>9F8D 2FD4>9F9C 2FD5>9FA0 3000>20 3002>2E 3036>3012
   3038>5341 3039-303A>5344 309B=20,3099 309C=20,309A 309F=3088,308A 30FF=30B3,30C8
   3131-3132>1100 3133>11AA 3134>1102 3135-3136>11AC 3137-3139>1103 313A-313F>11B0 3140>111A
   3141-3143>1106 3144>1121 3145-314E>1109 314F-3163>1161 3165-3166>1114 3167-3168>11C7
   3169>11CC 316A>11CE 316B>11D3 316C>11D7 316D>11D9 316E>111C 316F>11DD 3170>11DF
   3171-3172>111D 3173>1120 3174-3175>1122 3176>1127 3177>1129 3178-317C>112B 317D>1132
   317E>1136 317F>1140 3180>1147 3181>114C 3182-3183>11F1 3184-3186>1157 3187-3188>1184
   3189>1188 318A-318B>1191 318C>1194 318D>119E 318E>11A1 3192>4E00 3193>4E8C 3194>4E09
   3195>56DB 3196>4E0A 3197>4E2D 3198>4E0B 3199>7532 319A>4E59 319B>4E19 319C>4E01 319D>5929
   319E>5730 319F>4EBA 3200=28,1100,29 3201=28,1102,29 3202=28,1103,29 3203=28,1105,29
   3204=28,1106,29 3205=28,1107,29 3206=28,1109,29 3207=28,110B,29 3208=28,110C,29
   3209=28,110E,29 320A=28,110F,29 320B=28,1110,29 320C=28,1111,29 320D=28,1112,29
   320E=28,AC00,29 320F=28,B098,29 3210=28,B2E4,29 3211=28,B77C,29 3212=28,B9C8,29
   3213=28,BC14,29 3214=28,C0AC,29 3215=28,C544,29 3216=28,C790,29 3217=28,CC28,29
   3218=28,CE74,29 3219=28,D0C0,29 321A=28,D30C,29 321B=28,D558,29 321C=28,C8FC,29
   321D=28,C624,C804,29 321E=28,C624,D6C4,29 3220=28,4E00,29 3221=28,4E8C,29 3222=28,4E09,29
   3223=28,56DB,29 3224=28,4E94,29 3225=28,516D,29 3226=28,4E03,29 3227=28,516B,29
   3228=28,4E5D,29 3229=28,5341,29 322A=28,6708,29 322B=28,706B,29 322C=28,6C34,29
   322D=28,6728,29 322E=28,91D1,29 322F=28,571F,29 3230=28,65E5,29 3231=28,682A,29
   3232=28,6709,29 3233=28,793E,29 3234=28,540D,29 3235=28,7279,29 3236=28,8CA1,29
   3237=28,795D,29 3238=28,52B4,29 3239=28,4EE3,29 323A=28,547C,29 323B=28,5B66,29
   323C=28,76E3,29 323D=28,4F01,29 323E=28,8CC7,29 323F=28,5354,29 3240=28,796D,29
   3241=28,4F11,29 3242=28,81EA,29 3243=28,81F3,29 3244>554F 3245>5E7C 3246>6587 3247>7B8F
   3250=70,74,65 3251=32,31 3252=32,32 3253=32,33 3254=32,34 3255=32,35 3256=32,36 3257=32,37
   3258=32,38 3259=32,39 325A=33,30 325B=33,31 325C=33,32 325D=33,33 325E=33,34 325F=33,35
   3260>1100 3261-3262>1102 3263-3265>1105 3266>1109 3267-3268>110B 3269-326D>110E 326E>AC00
   326F>B098 3270>B2E4 3271>B77C 3272>B9C8 3273>BC14 3274>C0AC 3275>C544 3276>C790 3277>CC28
   3278>CE74 3279>D0C0 327A>D30C 327B>D558 327C=CC38,ACE0 327D=C8FC,C758 327E>C6B0 3280>4E00
   3281>4E8C 3282>4E09 3283>56DB 3284>4E94 3285>516D 3286>4E03 3287>516B 3288>4E5D 3289>5341
   328A>6708 328B>706B 328C>6C34 328D>6728 328E>91D1 328F>571F 3290>65E5 3291>682A 3292>6709
   3293>793E 3294>540D 3295>7279 3296>8CA1 3297>795D 3298>52B4 3299>79D8 329A>7537 329B>5973
   329C>9069 329D>512A 329E>5370 329F>6CE8 32A0>9805 32A1>4F11 32A2>5199 32A3>6B63 32A4>4E0A
   32A5>4E2D 32A6>4E0B 32A7>5DE6 32A8>53F3 32A9>533B 32AA>5B97 32AB>5B66 32AC>76E3 32AD>4F01
   32AE>8CC7 32AF>5354 32B0>591C 32B1=33,36 32B2=33,37 32B3=33,38 32B4=33,39 32B5=34,30
   32B6=34,31 32B7=34,32 32B8=34,33 32B9=34,34 32BA=34,35 32BB=34,36 32BC=34,37 32BD=34,38
   32BE=34,39 32BF=35,30 32C0=31,6708 32C1=32,6708 32C2=33,6708 32C3=34,6708 32C4=35,6708
   32C5=36,6708 32C6=37,6708 32C7=38,6708 32C8=39,6708 32C9=31,30,6708 32CA=31,31,6708
   32CB=31,32,6708 32CC=68,67 32CD=65,72,67 32CE=65,76 32CF=6C,74,64 32D0>30A2 32D1>30A4
   32D2>30A6 32D3>30A8 32D4-32D5>30AA 32D6>30AD 32D7>30AF 32D8>30B1 32D9>30B3 32DA>30B5
   32DB>30B7 32DC>30B9 32DD>30BB 32DE>30BD 32DF>30BF 32E0>30C1 32E1>30C4 32E2>30C6 32E3>30C8
   32E4-32E9>30CA 32EA>30D2 32EB>30D5 32EC>30D8 32ED>30DB 32EE-32F2>30DE 32F3>30E4 32F4>30E6
   32F5-32FA>30E8 32FB-32FE>30EF 32FF=4EE4,548C 3300=30A2,30D1,30FC,30C8
   3301=30A2,30EB,30D5,30A1 3302=30A2,30F3,30DA,30A2 3303=30A2,30FC,30EB
   3304=30A4,30CB,30F3,30B0 3305=30A4,30F3,30C1 3306=30A6,30A9,30F3
   3307=30A8,30B9,30AF,30FC,30C9 3308=30A8,30FC,30AB,30FC 3309=30AA,30F3,30B9
   330A=30AA,30FC,30E0 330B=30AB,30A4,30EA 330C=30AB,30E9,30C3,30C8 330D=30AB,30ED,30EA,30FC
   330E=30AC,30ED,30F3 330F=30AC,30F3,30DE 3310=30AE,30AC 3311=30AE,30CB,30FC
   3312=30AD,30E5,30EA,30FC 3313=30AE,30EB,30C0,30FC 3314=30AD,30ED
   3315=30AD,30ED,30B0,30E9,30E0 3316=30AD,30ED,30E1,30FC,30C8,30EB
   3317=30AD,30ED,30EF,30C3,30C8 3318=30B0,30E9,30E0 3319=30B0,30E9,30E0,30C8,30F3
   331A=30AF,30EB,30BC,30A4,30ED 331B=30AF,30ED,30FC,30CD 331C=30B1,30FC,30B9
   331D=30B3,30EB,30CA 331E=30B3,30FC,30DD 331F=30B5,30A4,30AF,30EB
   3320=30B5,30F3,30C1,30FC,30E0 3321=30B7,30EA,30F3,30B0 3322=30BB,30F3,30C1
   3323=30BB,30F3,30C8 3324=30C0,30FC,30B9 3325=30C7,30B7 3326=30C9,30EB 3327=30C8,30F3
   3328=30CA,30CE 3329=30CE,30C3,30C8 332A=30CF,30A4,30C4 332B=30D1,30FC,30BB,30F3,30C8
   332C=30D1,30FC,30C4 332D=30D0,30FC,30EC,30EB 332E=30D4,30A2,30B9,30C8,30EB
   332F=30D4,30AF,30EB 3330=30D4,30B3 3331=30D3,30EB 3332=30D5,30A1,30E9,30C3,30C9
   3333=30D5,30A3,30FC,30C8 3334=30D6,30C3,30B7,30A7,30EB 3335=30D5,30E9,30F3
   3336=30D8,30AF,30BF,30FC,30EB 3337=30DA,30BD 3338=30DA,30CB,30D2 3339=30D8,30EB,30C4
   333A=30DA,30F3,30B9 333B=30DA,30FC,30B8 333C=30D9,30FC,30BF 333D=30DD,30A4,30F3,30C8
   333E=30DC,30EB,30C8 333F=30DB,30F3 3340=30DD,30F3,30C9 3341=30DB,30FC,30EB
   3342=30DB,30FC,30F3 3343=30DE,30A4,30AF,30ED 3344=30DE,30A4,30EB 3345=30DE,30C3,30CF
   3346=30DE,30EB,30AF 3347=30DE,30F3,30B7,30E7,30F3 3348=30DF,30AF,30ED,30F3 3349=30DF,30EA
   334A=30DF,30EA,30D0,30FC,30EB 334B=30E1,30AC 334C=30E1,30AC,30C8,30F3
   334D=30E1,30FC,30C8,30EB 334E=30E4,30FC,30C9 334F=30E4,30FC,30EB 3350=30E6,30A2,30F3
   3351=30EA,30C3,30C8,30EB 3352=30EA,30E9 3353=30EB,30D4,30FC 3354=30EB,30FC,30D6,30EB
   3355=30EC,30E0 3356=30EC,30F3,30C8,30B2,30F3 3357=30EF,30C3,30C8 3358=30,70B9 3359=31,70B9
   335A=32,70B9 335B=33,70B9 335C=34,70B9 335D=35,70B9 335E=36,70B9 335F=37,70B9 3360=38,70B9
   3361=39,70B9 3362=31,30,70B9 3363=31,31,70B9 3364=31,32,70B9 3365=31,33,70B9 3366=31,34,70B9
   3367=31,35,70B9 3368=31,36,70B9 3369=31,37,70B9 336A=31,38,70B9 336B=31,39,70B9
   336C=32,30,70B9 336D=32,31,70B9 336E=32,32,70B9 336F=32,33,70B9 3370=32,34,70B9
   3371=68,70,61 3372=64,61 3373=61,75 3374=62,61,72 3375=6F,76 3376=70,63 3377=64,6D
   3378=64,6D,32 3379=64,6D,33 337A=69,75 337B=5E73,6210 337C=662D,548C 337D=5927,6B63
   337E=660E,6CBB 337F=682A,5F0F,4F1A,793E 3380=70,61 3381=6E,61 3382=3BC,61 3383=6D,61
   3384=6B,61 3385=6B,62 3386=6D,62 3387=67,62 3388=63,61,6C 3389=6B,63,61,6C 338A=70,66
   338B=6E,66 338C=3BC,66 338D=3BC,67 338E=6D,67 338F=6B,67 3390=68,7A 3391=6B,68,7A
   3392=6D,68,7A 3393=67,68,7A 3394=74,68,7A 3395=3BC,6C 3396=6D,6C 3397=64,6C 3398=6B,6C
   3399=66,6D 339A=6E,6D 339B=3BC,6D 339C=6D,6D 339D=63,6D 339E=6B,6D 339F=6D,6D,32
   33A0=63,6D,32 33A1=6D,32 33A2=6B,6D,32 33A3=6D,6D,33 33A4=63,6D,33 33A5=6D,33 33A6=6B,6D,33
   33A7=6D,2215,73 33A8=6D,2215,73,32 33A9=70,61 33AA=6B,70,61 33AB=6D,70,61 33AC=67,70,61
   33AD=72,61,64 33AE=72,61,64,2215,73 33AF=72,61,64,2215,73,32 33B0=70,73 33B1=6E,73
   33B2=3BC,73 33B3=6D,73 33B4=70,76 33B5=6E,76 33B6=3BC,76 33B7=6D,76 33B8=6B,76 33B9=6D,76
   33BA=70,77 33BB=6E,77 33BC=3BC,77 33BD=6D,77 33BE=6B,77 33BF=6D,77 33C0=6B,3C9 33C1=6D,3C9
   33C3=62,71 33C4=63,63 33C5=63,64 33C6=63,2215,6B,67 33C8=64,62 33C9=67,79 33CA=68,61
   33CB=68,70 33CC=69,6E 33CD=6B,6B 33CE=6B,6D 33CF=6B,74 33D0=6C,6D 33D1=6C,6E 33D2=6C,6F,67
   33D3=6C,78 33D4=6D,62 33D5=6D,69,6C 33D6=6D,6F,6C 33D7=70,68 33D9=70,70,6D 33DA=70,72
   33DB=73,72 33DC=73,76 33DD=77,62 33DE=76,2215,6D 33DF=61,2215,6D 33E0=31,65E5 33E1=32,65E5
   33E2=33,65E5 33E3=34,65E5 33E4=35,65E5 33E5=36,65E5 33E6=37,65E5 33E7=38,65E5 33E8=39,65E5
   33E9=31,30,65E5 33EA=31,31,65E5 33EB=31,32,65E5 33EC=31,33,65E5 33ED=31,34,65E5
   33EE=31,35,65E5 33EF=31,36,65E5 33F0=31,37,65E5 33F1=31,38,65E5 33F2=31,39,65E5
   33F3=32,30,65E5 33F4=32,31,65E5 33F5=32,32,65E5 33F6=32,33,65E5 33F7=32,34,65E5
   33F8=32,35,65E5 33F9=32,36,65E5 33FA=32,37,65E5 33FB=32,38,65E5 33FC=32,39,65E5
   33FD=33,30,65E5 33FE=33,31,65E5 33FF=67,61,6C A640-A66C/2>A641 A680-A69A/2>A681 A69C>44A
   A69D>44C A722-A72E/2>A723 A732-A76E/2>A733 A770>A76F A779>A77A A77B>A77C A77D>1D79
   A77E-A786/2>A77F A78B>A78C A78D>265 A790>A791 A792>A793 A796-A7A8/2>A797 A7AA>266 A7AB>25C
   A7AC>261 A7AD>26C A7AE>26A A7B0>29E A7B1>287 A7B2>29D A7B3>AB53 A7B4-A7C2/2>A7B5 A7C4>A794
   A7C5>282 A7C6>1D8E A7C7>A7C8 A7C9>A7CA A7CB>264 A7CC-A7DA/2>A7CD A7DC>19B A7F1>73 A7F2>63
   A7F3>66 A7F4>71 A7F5>A7F6 A7F8>127 A7F9>153 AB5C>A727 AB5D>AB37 AB5E>26B AB5F>AB52 AB69>28D
   AB70-ABBF>13A0 F900>8C48 F901>66F4 F902>8ECA F903>8CC8 F904>6ED1 F905>4E32 F906>53E5
   F907-F908=9F9C F909>5951 F90A>91D1 F90B>5587 F90C>5948 F90D>61F6 F90E>7669 F90F>7F85
   F910>863F F911>87BA F912>88F8 F913>908F F914>6A02 F915>6D1B F916>70D9 F917>73DE F918>843D
   F919>916A F91A>99F1 F91B>4E82 F91C>5375 F91D>6B04 F91E>721B F91F>862D F920>9E1E F921>5D50
   F922>6FEB F923>85CD F924>8964 F925>62C9 F926>81D8 F927>881F F928>5ECA F929>6717 F92A>6D6A
   F92B>72FC F92C>90CE F92D>4F86 F92E>51B7 F92F>52DE F930>64C4 F931>6AD3 F932>7210 F933>76E7
   F934>8001 F935>8606 F936>865C F937>8DEF F938>9732 F939>9B6F F93A>9DFA F93B>788C F93C>797F
   F93D>7DA0 F93E>83C9 F93F>9304 F940>9E7F F941>8AD6 F942>58DF F943>5F04 F944>7C60 F945>807E
   F946>7262 F947>78CA F948>8CC2 F949>96F7 F94A>58D8 F94B>5C62 F94C>6A13 F94D>6DDA F94E>6F0F
   F94F>7D2F F950>7E37 F951>964B F952>52D2 F953>808B F954>51DC F955>51CC F956>7A1C F957>7DBE
   F958>83F1 F959>9675 F95A>8B80 F95B>62CF F95C>6A02 F95D>8AFE F95E>4E39 F95F>5BE7 F960>6012
   F961>7387 F962>7570 F963>5317 F964>78FB F965>4FBF F966>5FA9 F967>4E0D F968>6CCC F969>6578
   F96A>7D22 F96B>53C3 F96C>585E F96D>7701 F96E>8449 F96F>8AAA F970>6BBA F971>8FB0 F972>6C88
   F973>62FE F974>82E5 F975>63A0 F976>7565 F977>4EAE F978>5169 F979>51C9 F97A>6881 F97B>7CE7
   F97C>826F F97D>8AD2 F97E>91CF F97F>52F5 F980>5442 F981>5973 F982>5EEC F983>65C5 F984>6FFE
   F985>792A F986>95AD F987>9A6A F988>9E97 F989>9ECE F98A>529B F98B>66C6 F98C>6B77 F98D>8F62
   F98E>5E74 F98F>6190 F990>6200 F991>649A F992>6F23 F993>7149 F994>7489 F995>79CA F996>7DF4
   F997>806F F998>8F26 F999>84EE F99A>9023 F99B>934A F99C>5217 F99D>52A3 F99E>54BD F99F>70C8
   F9A0>88C2 F9A1>8AAA F9A2>5EC9 F9A3>5FF5 F9A4>637B F9A5>6BAE F9A6>7C3E F9A7>7375 F9A8>4EE4
   F9A9>56F9 F9AA>5BE7 F9AB>5DBA F9AC>601C F9AD>73B2 F9AE>7469 F9AF>7F9A F9B0>8046 F9B1>9234
   F9B2>96F6 F9B3>9748 F9B4>9818 F9B5>4F8B F9B6>79AE F9B7>91B4 F9B8>96B8 F9B9>60E1 F9BA>4E86
   F9BB>50DA F9BC>5BEE F9BD>5C3F F9BE>6599 F9BF>6A02 F9C0>71CE F9C1>7642 F9C2>84FC F9C3>907C
   F9C4>9F8D F9C5>6688 F9C6>962E F9C7>5289 F9C8>677B F9C9>67F3 F9CA>6D41 F9CB>6E9C F9CC>7409
   F9CD>7559 F9CE>786B F9CF>7D10 F9D0>985E F9D1>516D F9D2>622E F9D3>9678 F9D4>502B F9D5>5D19
   F9D6>6DEA F9D7>8F2A F9D8>5F8B F9D9>6144 F9DA>6817 F9DB>7387 F9DC>9686 F9DD>5229 F9DE>540F
   F9DF>5C65 F9E0>6613 F9E1>674E F9E2>68A8 F9E3>6CE5 F9E4>7406 F9E5>75E2 F9E6>7F79 F9E7>88CF
   F9E8>88E1 F9E9>91CC F9EA>96E2 F9EB>533F F9EC>6EBA F9ED>541D F9EE>71D0 F9EF>7498 F9F0>85FA
   F9F1>96A3 F9F2>9C57 F9F3>9E9F F9F4>6797 F9F5>6DCB F9F6>81E8 F9F7>7ACB F9F8>7B20 F9F9>7C92
   F9FA>72C0 F9FB>7099 F9FC>8B58 F9FD>4EC0 F9FE>8336 F9FF>523A FA00>5207 FA01>5EA6 FA02>62D3
   FA03>7CD6 FA04>5B85 FA05>6D1E FA06>66B4 FA07>8F3B FA08>884C FA09>964D FA0A>898B FA0B>5ED3
   FA0C>5140 FA0D>55C0 FA10>585A FA12>6674 FA15>51DE FA16>732A FA17>76CA FA18>793C FA19>795E
   FA1A>7965 FA1B>798F FA1C>9756 FA1D>7CBE FA1E>7FBD FA20>8612 FA22>8AF8 FA25>9038 FA26>90FD
   FA2A>98EF FA2B>98FC FA2C>9928 FA2D>9DB4 FA2E>90DE FA2F>96B7 FA30>4FAE FA31>50E7 FA32>514D
   FA33>52C9 FA34>52E4 FA35>5351 FA36>559D FA37>5606 FA38>5668 FA39>5840 FA3A>58A8 FA3B>5C64
   FA3C>5C6E FA3D>6094 FA3E>6168 FA3F>618E FA40>61F2 FA41>654F FA42>65E2 FA43>6691 FA44>6885
   FA45>6D77 FA46>6E1A FA47>6F22 FA48>716E FA49>722B FA4A>7422 FA4B>7891 FA4C>793E FA4D>7949
   FA4E>7948 FA4F>7950 FA50>7956 FA51>795D FA52-FA53>798D FA54>7A40 FA55>7A81 FA56>7BC0
   FA57>7DF4 FA58>7E09 FA59>7E41 FA5A>7F72 FA5B>8005 FA5C>81ED FA5D-FA5E=8279 FA5F>8457
   FA60>8910 FA61>8996 FA62>8B01 FA63>8B39 FA64>8CD3 FA65>8D08 FA66>8FB6 FA67>9038 FA68>96E3
   FA69>97FF FA6A>983B FA6B>6075 FA6C>242EE FA6D>8218 FA70>4E26 FA71>51B5 FA72>5168 FA73>4F80
   FA74>5145 FA75>5180 FA76>52C7 FA77>52FA FA78>559D FA79>5555 FA7A>5599 FA7B>55E2 FA7C>585A
   FA7D>58B3 FA7E>5944 FA7F>5954 FA80>5A62 FA81>5B28 FA82>5ED2 FA83>5ED9 FA84>5F69 FA85>5FAD
   FA86>60D8 FA87>614E FA88>6108 FA89>618E FA8A>6160 FA8B>61F2 FA8C>6234 FA8D>63C4 FA8E>641C
   FA8F>6452 FA90>6556 FA91>6674 FA92>6717 FA93>671B FA94>6756 FA95>6B79 FA96>6BBA FA97>6D41
   FA98>6EDB FA99>6ECB FA9A>6F22 FA9B>701E FA9C>716E FA9D>77A7 FA9E>7235 FA9F>72AF FAA0>732A
   FAA1>7471 FAA2>7506 FAA3>753B FAA4>761D FAA5>761F FAA6>76CA FAA7>76DB FAA8>76F4 FAA9>774A
   FAAA>7740 FAAB>78CC FAAC>7AB1 FAAD>7BC0 FAAE>7C7B FAAF>7D5B FAB0>7DF4 FAB1>7F3E FAB2>8005
   FAB3>8352 FAB4>83EF FAB5>8779 FAB6>8941 FAB7>8986 FAB8>8996 FAB9>8ABF FABA>8AF8 FABB>8ACB
   FABC>8B01 FABD>8AFE FABE>8AED FABF>8B39 FAC0>8B8A FAC1>8D08 FAC2>8F38 FAC3>9072 FAC4>9199
   FAC5>9276 FAC6>967C FAC7>96E3 FAC8>9756 FAC9>97DB FACA>97FF FACB>980B FACC>983B FACD>9B12
   FACE>9F9C FACF>2284A FAD0>22844 FAD1>233D5 FAD2>3B9D FAD3>4018 FAD4>4039 FAD5>25249
   FAD6>25CD0 FAD7>27ED3 FAD8>9F43 FAD9>9F8E FB00=66,66 FB01=66,69 FB02=66,6C FB03=66,66,69
   FB04=66,66,6C FB05=73,74 FB06=73,74 FB13=574,576 FB14=574,565 FB15=574,56B FB16=57E,576
   FB17=574,56D FB1D=5D9,5B4 FB1F=5F2,5B7 FB20>5E2 FB21>5D0 FB22-FB23>5D3 FB24-FB26>5DB
   FB27>5E8 FB28>5EA FB29>2B FB2A=5E9,5C1 FB2B=5E9,5C2 FB2C=5E9,5BC,5C1 FB2D=5E9,5BC,5C2
   FB2E=5D0,5B7 FB2F=5D0,5B8 FB30=5D0,5BC FB31=5D1,5BC FB32=5D2,5BC FB33=5D3,5BC FB34=5D4,5BC
   FB35=5D5,5BC FB36=5D6,5BC FB38=5D8,5BC FB39=5D9,5BC FB3A=5DA,5BC FB3B=5DB,5BC FB3C=5DC,5BC
   FB3E=5DE,5BC FB40=5E0,5BC FB41=5E1,5BC FB43=5E3,5BC FB44=5E4,5BC FB46=5E6,5BC FB47=5E7,5BC
   FB48=5E8,5BC FB49=5E9,5BC FB4A=5EA,5BC FB4B=5D5,5B9 FB4C=5D1,5BF FB4D=5DB,5BF FB4E=5E4,5BF
   FB4F=5D0,5DC FB50-FB51=671 FB52-FB55=67B FB56-FB59=67E FB5A-FB5D=680 FB5E-FB61=67A
   FB62-FB65=67F FB66-FB69=679 FB6A-FB6D=6A4 FB6E-FB71=6A6 FB72-FB75=684 FB76-FB79=683
   FB7A-FB7D=686 FB7E-FB81=687 FB82-FB83=68D FB84-FB85=68C FB86-FB87=68E FB88-FB89=688
   FB8A-FB8B=698 FB8C-FB8D=691 FB8E-FB91=6A9 FB92-FB95=6AF FB96-FB99=6B3 FB9A-FB9D=6B1
   FB9E-FB9F=6BA FBA0-FBA3=6BB FBA4-FBA5=6C0 FBA6-FBA9=6C1 FBAA-FBAD=6BE FBAE-FBAF=6D2
   FBB0-FBB1=6D3 FBD3-FBD6=6AD FBD7-FBD8=6C7 FBD9-FBDA=6C6 FBDB-FBDC=6C8 FBDD=6C7,674
   FBDE-FBDF=6CB FBE0-FBE1=6C5 FBE2-FBE3=6C9 FBE4-FBE7=6D0 FBE8-FBE9=649 FBEA=626,627
   FBEB=626,627 FBEC=626,6D5 FBED=626,6D5 FBEE=626,648 FBEF=626,648 FBF0=626,6C7 FBF1=626,6C7
   FBF2=626,6C6 FBF3=626,6C6 FBF4=626,6C8 FBF5=626,6C8 FBF6=626,6D0 FBF7=626,6D0 FBF8=626,6D0
   FBF9=626,649 FBFA=626,649 FBFB=626,649 FBFC-FBFF=6CC FC00=626,62C FC01=626,62D FC02=626,645
   FC03=626,649 FC04=626,64A FC05=628,62C FC06=628,62D FC07=628,62E FC08=628,645 FC09=628,649
   FC0A=628,64A FC0B=62A,62C FC0C=62A,62D FC0D=62A,62E FC0E=62A,645 FC0F=62A,649 FC10=62A,64A
   FC11=62B,62C FC12=62B,645 FC13=62B,649 FC14=62B,64A FC15=62C,62D FC16=62C,645 FC17=62D,62C
   FC18=62D,645 FC19=62E,62C FC1A=62E,62D FC1B=62E,645 FC1C=633,62C FC1D=633,62D FC1E=633,62E
   FC1F=633,645 FC20=635,62D FC21=635,645 FC22=636,62C FC23=636,62D FC24=636,62E FC25=636,645
   FC26=637,62D FC27=637,645 FC28=638,645 FC29=639,62C FC2A=639,645 FC2B=63A,62C FC2C=63A,645
   FC2D=641,62C FC2E=641,62D FC2F=641,62E FC30=641,645 FC31=641,649 FC32=641,64A FC33=642,62D
   FC34=642,645 FC35=642,649 FC36=642,64A FC37=643,627 FC38=643,62C FC39=643,62D FC3A=643,62E
   FC3B=643,644 FC3C=643,645 FC3D=643,649 FC3E=643,64A FC3F=644,62C FC40=644,62D FC41=644,62E
   FC42=644,645 FC43=644,649 FC44=644,64A FC45=645,62C FC46=645,62D FC47=645,62E FC48=645,645
   FC49=645,649 FC4A=645,64A FC4B=646,62C FC4C=646,62D FC4D=646,62E FC4E=646,645 FC4F=646,649
   FC50=646,64A FC51=647,62C FC52=647,645 FC53=647,649 FC54=647,64A FC55=64A,62C FC56=64A,62D
   FC57=64A,62E FC58=64A,645 FC59=64A,649 FC5A=64A,64A FC5B=630,670 FC5C=631,670 FC5D=649,670
   FC5E=20,64C,651 FC5F=20,64D,651 FC60=20,64E,651 FC61=20,64F,651 FC62=20,650,651
   FC63=20,651,670 FC64=626,631 FC65=626,632 FC66=626,645 FC67=626,646 FC68=626,649
   FC69=626,64A FC6A=628,631 FC6B=628,632 FC6C=628,645 FC6D=628,646 FC6E=628,649 FC6F=628,64A
   FC70=62A,631 FC71=62A,632 FC72=62A,645 FC73=62A,646 FC74=62A,649 FC75=62A,64A FC76=62B,631
   FC77=62B,632 FC78=62B,645 FC79=62B,646 FC7A=62B,649 FC7B=62B,64A FC7C=641,649 FC7D=641,64A
   FC7E=642,649 FC7F=642,64A FC80=643,627 FC81=643,644 FC82=643,645 FC83=643,649 FC84=643,64A
   FC85=644,645 FC86=644,649 FC87=644,64A FC88=645,627 FC89=645,645 FC8A=646,631 FC8B=646,632
   FC8C=646,645 FC8D=646,646 FC8E=646,649 FC8F=646,64A FC90=649,670 FC91=64A,631 FC92=64A,632
   FC93=64A,645 FC94=64A,646 FC95=64A,649 FC96=64A,64A FC97=626,62C FC98=626,62D FC99=626,62E
   FC9A=626,645 FC9B=626,647 FC9C=628,62C FC9D=628,62D FC9E=628,62E FC9F=628,645 FCA0=628,647
   FCA1=62A,62C FCA2=62A,62D FCA3=62A,62E FCA4=62A,645 FCA5=62A,647 FCA6=62B,645 FCA7=62C,62D
   FCA8=62C,645 FCA9=62D,62C FCAA=62D,645 FCAB=62E,62C FCAC=62E,645 FCAD=633,62C FCAE=633,62D
   FCAF=633,62E FCB0=633,645 FCB1=635,62D FCB2=635,62E FCB3=635,645 FCB4=636,62C FCB5=636,62D
   FCB6=636,62E FCB7=636,645 FCB8=637,62D FCB9=638,645 FCBA=639,62C FCBB=639,645 FCBC=63A,62C
   FCBD=63A,645 FCBE=641,62C FCBF=641,62D FCC0=641,62E FCC1=641,645 FCC2=642,62D FCC3=642,645
   FCC4=643,62C FCC5=643,62D FCC6=643,62E FCC7=643,644 FCC8=643,645 FCC9=644,62C FCCA=644,62D
   FCCB=644,62E FCCC=644,645 FCCD=644,647 FCCE=645,62C FCCF=645,62D FCD0=645,62E FCD1=645,645
   FCD2=646,62C FCD3=646,62D FCD4=646,62E FCD5=646,645 FCD6=646,647 FCD7=647,62C FCD8=647,645
   FCD9=647,670 FCDA=64A,62C FCDB=64A,62D FCDC=64A,62E FCDD=64A,645 FCDE=64A,647 FCDF=626,645
   FCE0=626,647 FCE1=628,645 FCE2=628,647 FCE3=62A,645 FCE4=62A,647 FCE5=62B,645 FCE6=62B,647
   FCE7=633,645 FCE8=633,647 FCE9=634,645 FCEA=634,647 FCEB=643,644 FCEC=643,645 FCED=644,645
   FCEE=646,645 FCEF=646,647 FCF0=64A,645 FCF1=64A,647 FCF2=640,64E,651 FCF3=640,64F,651
   FCF4=640,650,651 FCF5=637,649 FCF6=637,64A FCF7=639,649 FCF8=639,64A FCF9=63A,649
   FCFA=63A,64A FCFB=633,649 FCFC=633,64A FCFD=634,649 FCFE=634,64A FCFF=62D,649 FD00=62D,64A
   FD01=62C,649 FD02=62C,64A FD03=62E,649 FD04=62E,64A FD05=635,649 FD06=635,64A FD07=636,649
   FD08=636,64A FD09=634,62C FD0A=634,62D FD0B=634,62E FD0C=634,645 FD0D=634,631 FD0E=633,631
   FD0F=635,631 FD10=636,631 FD11=637,649 FD12=637,64A FD13=639,649 FD14=639,64A FD15=63A,649
   FD16=63A,64A FD17=633,649 FD18=633,64A FD19=634,649 FD1A=634,64A FD1B=62D,649 FD1C=62D,64A
   FD1D=62C,649 FD1E=62C,64A FD1F=62E,649 FD20=62E,64A FD21=635,649 FD22=635,64A FD23=636,649
   FD24=636,64A FD25=634,62C FD26=634,62D FD27=634,62E FD28=634,645 FD29=634,631 FD2A=633,631
   FD2B=635,631 FD2C=636,631 FD2D=634,62C FD2E=634,62D FD2F=634,62E FD30=634,645 FD31=633,647
   FD32=634,647 FD33=637,645 FD34=633,62C FD35=633,62D FD36=633,62E FD37=634,62C FD38=634,62D
   FD39=634,62E FD3A=637,645 FD3B=638,645 FD3C=627,64B FD3D=627,64B FD50=62A,62C,645
   FD51=62A,62D,62C FD52=62A,62D,62C FD53=62A,62D,645 FD54=62A,62E,645 FD55=62A,645,62C
   FD56=62A,645,62D FD57=62A,645,62E FD58=62C,645,62D FD59=62C,645,62D FD5A=62D,645,64A
   FD5B=62D,645,649 FD5C=633,62D,62C FD5D=633,62C,62D FD5E=633,62C,649 FD5F=633,645,62D
   FD60=633,645,62D FD61=633,645,62C FD62=633,645,645 FD63=633,645,645 FD64=635,62D,62D
   FD65=635,62D,62D FD66=635,645,645 FD67=634,62D,645 FD68=634,62D,645 FD69=634,62C,64A
   FD6A=634,645,62E FD6B=634,645,62E FD6C=634,645,645 FD6D=634,645,645 FD6E=636,62D,649
   FD6F=636,62E,645 FD70=636,62E,645 FD71=637,645,62D FD72=637,645,62D FD73=637,645,645
   FD74=637,645,64A FD75=639,62C,645 FD76=639,645,645 FD77=639,645,645 FD78=639,645,649
   FD79=63A,645,645 FD7A=63A,645,64A FD7B=63A,645,649 FD7C=641,62E,645 FD7D=641,62E,645
   FD7E=642,645,62D FD7F=642,645,645 FD80=644,62D,645 FD81=644,62D,64A FD82=644,62D,649
   FD83=644,62C,62C FD84=644,62C,62C FD85=644,62E,645 FD86=644,62E,645 FD87=644,645,62D
   FD88=644,645,62D FD89=645,62D,62C FD8A=645,62D,645 FD8B=645,62D,64A FD8C=645,62C,62D
   FD8D=645,62C,645 FD8E=645,62E,62C FD8F=645,62E,645 FD92=645,62C,62E FD93=647,645,62C
   FD94=647,645,645 FD95=646,62D,645 FD96=646,62D,649 FD97=646,62C,645 FD98=646,62C,645
   FD99=646,62C,649 FD9A=646,645,64A FD9B=646,645,649 FD9C=64A,645,645 FD9D=64A,645,645
   FD9E=628,62E,64A FD9F=62A,62C,64A FDA0=62A,62C,649 FDA1=62A,62E,64A FDA2=62A,62E,649
   FDA3=62A,645,64A FDA4=62A,645,649 FDA5=62C,645,64A FDA6=62C,62D,649 FDA7=62C,645,649
   FDA8=633,62E,649 FDA9=635,62D,64A FDAA=634,62D,64A FDAB=636,62D,64A FDAC=644,62C,64A
   FDAD=644,645,64A FDAE=64A,62D,64A FDAF=64A,62C,64A FDB0=64A,645,64A FDB1=645,645,64A
   FDB2=642,645,64A FDB3=646,62D,64A FDB4=642,645,62D FDB5=644,62D,645 FDB6=639,645,64A
   FDB7=643,645,64A FDB8=646,62C,62D FDB9=645,62E,64A FDBA=644,62C,645 FDBB=643,645,645
   FDBC=644,62C,645 FDBD=646,62C,62D FDBE=62C,62D,64A FDBF=62D,62C,64A FDC0=645,62C,64A
   FDC1=641,645,64A FDC2=628,62D,64A FDC3=643,645,645 FDC4=639,62C,645 FDC5=635,645,645
   FDC6=633,62E,64A FDC7=646,62C,64A FDF0=635,644,6D2 FDF1=642,644,6D2 FDF2=627,644,644,647
   FDF3=627,643,628,631 FDF4=645,62D,645,62F FDF5=635,644,639,645 FDF6=631,633,648,644
   FDF7=639,644,64A,647 FDF8=648,633,644,645 FDF9=635,644,649
   FDFA=635,644,649,20,627,644,644,647,20,639,644,64A,647,20,648,633,644,645
   FDFB=62C,644,20,62C,644,627,644,647 FDFC=631,6CC,627,644 FE10>2C FE11>3001 FE13-FE14>3A
   FE15>21 FE16>3F FE17-FE18>3016 FE31>2014 FE32>2013 FE33-FE34=5F FE35-FE36>28 FE37>7B FE38>7D
   FE39-FE3A>3014 FE3B-FE3C>3010 FE3D-FE3E>300A FE3F-FE40>3008 FE41-FE44>300C FE47>5B FE48>5D
   FE49=20,305 FE4A=20,305 FE4B=20,305 FE4C=20,305 FE4D-FE4F=5F FE50>2C FE51>3001 FE54>3B
   FE55>3A FE56>3F FE57>21 FE58>2014 FE59-FE5A>28 FE5B>7B FE5C>7D FE5D-FE5E>3014 FE5F>23
   FE60>26 FE61-FE62>2A FE63>2D FE64>3C FE65>3E FE66>3D FE68>5C FE69-FE6A>24 FE6B>40
   FE70=20,64B FE71=640,64B FE72=20,64C FE74=20,64D FE76=20,64E FE77=640,64E FE78=20,64F
   FE79=640,64F FE7A=20,650 FE7B=640,650 FE7C=20,651 FE7D=640,651 FE7E=20,652 FE7F=640,652
   FE80-FE81>621 FE82-FE83>622 FE84-FE85>623 FE86-FE87>624 FE88-FE89>625 FE8A-FE8C=626
   FE8D-FE8E=627 FE8F-FE92=628 FE93-FE94=629 FE95-FE98=62A FE99-FE9C=62B FE9D-FEA0=62C
   FEA1-FEA4=62D FEA5-FEA8=62E FEA9-FEAA=62F FEAB-FEAC=630 FEAD-FEAE=631 FEAF-FEB0=632
   FEB1-FEB4=633 FEB5-FEB8=634 FEB9-FEBC=635 FEBD-FEC0=636 FEC1-FEC4=637 FEC5-FEC8=638
   FEC9-FECC=639 FECD-FED0=63A FED1-FED4=641 FED5-FED8=642 FED9-FEDC=643 FEDD-FEE0=644
   FEE1-FEE4=645 FEE5-FEE8=646 FEE9-FEEC=647 FEED-FEEE=648 FEEF-FEF0=649 FEF1-FEF4=64A
   FEF5=644,622 FEF6=644,622 FEF7=644,623 FEF8=644,623 FEF9=644,625 FEFA=644,625 FEFB=644,627
   FEFC=644,627 FF01-FF20>21 FF21-FF3A>61 FF3B-FF5E>5B FF5F-FF60>2985 FF61>2E FF62-FF63>300C
   FF64>3001 FF65>30FB FF66>30F2 FF67>30A1 FF68>30A3 FF69>30A5 FF6A>30A7 FF6B>30A9 FF6C>30E3
   FF6D>30E5 FF6E>30E7 FF6F>30C3 FF70>30FC FF71>30A2 FF72>30A4 FF73>30A6 FF74>30A8
   FF75-FF76>30AA FF77>30AD FF78>30AF FF79>30B1 FF7A>30B3 FF7B>30B5 FF7C>30B7 FF7D>30B9
   FF7E>30BB FF7F>30BD FF80>30BF FF81>30C1 FF82>30C4 FF83>30C6 FF84>30C8 FF85-FF8A>30CA
   FF8B>30D2 FF8C>30D5 FF8D>30D8 FF8E>30DB FF8F-FF93>30DE FF94>30E4 FF95>30E6 FF96-FF9B>30E8
   FF9C>30EF FF9D>30F3 FF9E-FF9F>3099 FFA1-FFA2>1100 FFA3>11AA FFA4>1102 FFA5-FFA6>11AC
   FFA7-FFA9>1103 FFAA-FFAF>11B0 FFB0>111A FFB1-FFB3>1106 FFB4>1121 FFB5-FFBE>1109
   FFC2-FFC7>1161 FFCA-FFCF>1167 FFD2-FFD7>116D FFDA-FFDC>1173 FFE0-FFE1>A2 FFE2>AC FFE3=20,304
   FFE4>A6 FFE5>A5 FFE6>20A9 FFE8>2502 FFE9-FFEC>2190 FFED>25A0 FFEE>25CB 10400-10427>10428
   104B0-104D3>104D8 10570-1057A>10597 1057C-1058A>105A3 1058C-10592>105B3 10594-10595>105BB
   10781-10782>2D0 10783>E6 10784>299 10785>253 10787>2A3 10788>AB66 10789>2A5 1078A>2A4
   1078B-1078C>256 1078D>1D91 1078E>258 1078F>25E 10790>2A9 10791>264 10792>262 10793>260
   10794>29B 10795>127 10796>29C 10797>267 10798>284 10799-1079A>2AA 1079B>26C 1079C>1DF04
   1079D>A78E 1079E>26E 1079F>1DF05 107A0>28E 107A1>1DF06 107A2>F8 107A3-107A4>276 107A5>71
   107A6>27A 107A7>1DF08 107A8-107A9>27D 107AA>280 107AB>2A8 107AC>2A6 107AD>AB67 107AE>2A7
   107AF>288 107B0>2C71 107B2>28F 107B3-107B4>2A1 107B5>298 107B6-107B8>1C0 107B9>1DF0A
   107BA>1DF1E 10C80-10CB2>10CC0 10D50-10D65>10D70 118A0-118BF>118C0 16E40-16E5F>16E60
   16EA0-16EB8>16EBB 1CCD6-1CCEF>61 1CCF0-1CCF9>30 1D15E=1D157,1D165 1D15F=1D158,1D165
   1D160=1D158,1D165,1D16E 1D161=1D158,1D165,1D16F 1D162=1D158,1D165,1D170
   1D163=1D158,1D165,1D171 1D164=1D158,1D165,1D172 1D1BB=1D1B9,1D165 1D1BC=1D1BA,1D165
   1D1BD=1D1B9,1D165,1D16E 1D1BE=1D1BA,1D165,1D16E 1D1BF=1D1B9,1D165,1D16F
   1D1C0=1D1BA,1D165,1D16F 1D400-1D419>61 1D41A-1D433>61 1D434-1D44D>61 1D44E-1D454>61
   1D456-1D467>69 1D468-1D481>61 1D482-1D49B>61 1D49C>61 1D49E-1D49F>63 1D4A2>67 1D4A5-1D4A6>6A
   1D4A9-1D4AC>6E 1D4AE-1D4B5>73 1D4B6-1D4B9>61 1D4BB>66 1D4BD-1D4C3>68 1D4C5-1D4CF>70
   1D4D0-1D4E9>61 1D4EA-1D503>61 1D504-1D505>61 1D507-1D50A>64 1D50D-1D514>6A 1D516-1D51C>73
   1D51E-1D537>61 1D538-1D539>61 1D53B-1D53E>64 1D540-1D544>69 1D546>6F 1D54A-1D550>73
   1D552-1D56B>61 1D56C-1D585>61 1D586-1D59F>61 1D5A0-1D5B9>61 1D5BA-1D5D3>61 1D5D4-1D5ED>61
   1D5EE-1D607>61 1D608-1D621>61 1D622-1D63B>61 1D63C-1D655>61 1D656-1D66F>61 1D670-1D689>61
   1D68A-1D6A3>61 1D6A4>131 1D6A5>237 1D6A8-1D6B8>3B1 1D6B9>3B8 1D6BA-1D6C0>3C3 1D6C1>2207
   1D6C2-1D6D2>3B1 1D6D3-1D6D4=3C3 1D6D5-1D6DA>3C4 1D6DB>2202 1D6DC>3B5 1D6DD>3B8 1D6DE>3BA
   1D6DF>3C6 1D6E0>3C1 1D6E1>3C0 1D6E2-1D6F2>3B1 1D6F3>3B8 1D6F4-1D6FA>3C3 1D6FB>2207
   1D6FC-1D70C>3B1 1D70D-1D70E=3C3 1D70F-1D714>3C4 1D715>2202 1D716>3B5 1D717>3B8 1D718>3BA
   1D719>3C6 1D71A>3C1 1D71B>3C0 1D71C-1D72C>3B1 1D72D>3B8 1D72E-1D734>3C3 1D735>2207
   1D736-1D746>3B1 1D747-1D748=3C3 1D749-1D74E>3C4 1D74F>2202 1D750>3B5 1D751>3B8 1D752>3BA
   1D753>3C6 1D754>3C1 1D755>3C0 1D756-1D766>3B1 1D767>3B8 1D768-1D76E>3C3 1D76F>2207
   1D770-1D780>3B1 1D781-1D782=3C3 1D783-1D788>3C4 1D789>2202 1D78A>3B5 1D78B>3B8 1D78C>3BA
   1D78D>3C6 1D78E>3C1 1D78F>3C0 1D790-1D7A0>3B1 1D7A1>3B8 1D7A2-1D7A8>3C3 1D7A9>2207
   1D7AA-1D7BA>3B1 1D7BB-1D7BC=3C3 1D7BD-1D7C2>3C4 1D7C3>2202 1D7C4>3B5 1D7C5>3B8 1D7C6>3BA
   1D7C7>3C6 1D7C8>3C1 1D7C9>3C0 1D7CA-1D7CB=3DD 1D7CE-1D7D7>30 1D7D8-1D7E1>30 1D7E2-1D7EB>30
   1D7EC-1D7F5>30 1D7F6-1D7FF>30 1E030-1E038>430 1E039-1E03B>43A 1E03C-1E046>43E 1E047>44B
   1E048-1E049>44D 1E04A>A689 1E04B>4D9 1E04C>456 1E04D>458 1E04E>4E9 1E04F>4AF 1E050>4CF
   1E051-1E059>430 1E05A-1E05B>43A 1E05C-1E05D>43E 1E05E>441 1E05F-1E064>443 1E065-1E066>44A
   1E067>491 1E068>456 1E069>455 1E06A>45F 1E06B>4AB 1E06C>A651 1E06D>4B1 1E900-1E921>1E922
   1EE00-1EE01>627 1EE02>62C 1EE03>62F 1EE05>648 1EE06>632 1EE07>62D 1EE08>637 1EE09>64A
   1EE0A-1EE0D>643 1EE0E>633 1EE0F>639 1EE10>641 1EE11>635 1EE12>642 1EE13>631 1EE14>634
   1EE15-1EE16>62A 1EE17>62E 1EE18>630 1EE19>636 1EE1A>638 1EE1B>63A 1EE1C>66E 1EE1D>6BA
   1EE1E>6A1 1EE1F>66F 1EE21>628 1EE22>62C 1EE24>647 1EE27>62D 1EE29>64A 1EE2A-1EE2D>643
   1EE2E>633 1EE2F>639 1EE30>641 1EE31>635 1EE32>642 1EE34>634 1EE35-1EE36>62A 1EE37>62E
   1EE39>636 1EE3B>63A 1EE42>62C 1EE47>62D 1EE49>64A 1EE4B>644 1EE4D>646 1EE4E>633 1EE4F>639
   1EE51>635 1EE52>642 1EE54>634 1EE57>62E 1EE59>636 1EE5B>63A 1EE5D>6BA 1EE5F>66F 1EE61>628
   1EE62>62C 1EE64>647 1EE67>62D 1EE68>637 1EE69>64A 1EE6A>643 1EE6C-1EE6D>645 1EE6E>633
   1EE6F>639 1EE70>641 1EE71>635 1EE72>642 1EE74>634 1EE75-1EE76>62A 1EE77>62E 1EE79>636
   1EE7A>638 1EE7B>63A 1EE7C>66E 1EE7E>6A1 1EE80-1EE81>627 1EE82>62C 1EE83>62F 1EE84-1EE85>647
   1EE86>632 1EE87>62D 1EE88>637 1EE89>64A 1EE8B-1EE8D>644 1EE8E>633 1EE8F>639 1EE90>641
   1EE91>635 1EE92>642 1EE93>631 1EE94>634 1EE95-1EE96>62A 1EE97>62E 1EE98>630 1EE99>636
   1EE9A>638 1EE9B>63A 1EEA1>628 1EEA2>62C 1EEA3>62F 1EEA5>648 1EEA6>632 1EEA7>62D 1EEA8>637
   1EEA9>64A 1EEAB-1EEAD>644 1EEAE>633 1EEAF>639 1EEB0>641 1EEB1>635 1EEB2>642 1EEB3>631
   1EEB4>634 1EEB5-1EEB6>62A 1EEB7>62E 1EEB8>630 1EEB9>636 1EEBA>638 1EEBB>63A 1F101=30,2C
   1F102=31,2C 1F103=32,2C 1F104=33,2C 1F105=34,2C 1F106=35,2C 1F107=36,2C 1F108=37,2C
   1F109=38,2C 1F10A=39,2C 1F110=28,61,29 1F111=28,62,29 1F112=28,63,29 1F113=28,64,29
   1F114=28,65,29 1F115=28,66,29 1F116=28,67,29 1F117=28,68,29 1F118=28,69,29 1F119=28,6A,29
   1F11A=28,6B,29 1F11B=28,6C,29 1F11C=28,6D,29 1F11D=28,6E,29 1F11E=28,6F,29 1F11F=28,70,29
   1F120=28,71,29 1F121=28,72,29 1F122=28,73,29 1F123=28,74,29 1F124=28,75,29 1F125=28,76,29
   1F126=28,77,29 1F127=28,78,29 1F128=28,79,29 1F129=28,7A,29 1F12A=3014,73,3015 1F12B>63
   1F12C>72 1F12D=63,64 1F12E=77,7A 1F130-1F149>61 1F14A=68,76 1F14B=6D,76 1F14C=73,64
   1F14D=73,73 1F14E=70,70,76 1F14F=77,63 1F16A=6D,63 1F16B=6D,64 1F16C=6D,72 1F190=64,6A
   1F200=307B,304B 1F201=30B3,30B3 1F202>30B5 1F210>624B 1F211>5B57 1F212>53CC 1F213>30C7
   1F214>4E8C 1F215>591A 1F216>89E3 1F217>5929 1F218>4EA4 1F219>6620 1F21A>7121 1F21B>6599
   1F21C>524D 1F21D>5F8C 1F21E>518D 1F21F>65B0 1F220>521D 1F221>7D42 1F222>751F 1F223>8CA9
   1F224>58F0 1F225>5439 1F226>6F14 1F227>6295 1F228>6355 1F229>4E00 1F22A>4E09 1F22B>904A
   1F22C>5DE6 1F22D>4E2D 1F22E>53F3 1F22F>6307 1F230>8D70 1F231>6253 1F232>7981 1F233>7A7A
   1F234>5408 1F235>6E80 1F236>6709 1F237>6708 1F238>7533 1F239>5272 1F23A>55B6 1F23B>914D
   1F240=3014,672C,3015 1F241=3014,4E09,3015 1F242=3014,4E8C,3015 1F243=3014,5B89,3015
   1F244=3014,70B9,3015 1F245=3014,6253,3015 1F246=3014,76D7,3015 1F247=3014,52DD,3015
   1F248=3014,6557,3015 1F250>5F97 1F251>53EF 1FBF0-1FBF9>30 2F800>4E3D 2F801>4E38 2F802>4E41
   2F803>20122 2F804>4F60 2F805>4FAE 2F806>4FBB 2F807>5002 2F808>507A 2F809>5099 2F80A>50E7
   2F80B>50CF 2F80C>349E 2F80D>2063A 2F80E>514D 2F80F>5154 2F810>5164 2F811>5177 2F812>2051C
   2F813>34B9 2F814>5167 2F815>518D 2F816>2054B 2F817>5197 2F818>51A4 2F819>4ECC 2F81A>51AC
   2F81B>51B5 2F81C>291DF 2F81D>51F5 2F81E>5203 2F81F>34DF 2F820>523B 2F821>5246 2F822>5272
   2F823>5277 2F824>3515 2F825>52C7 2F826>52C9 2F827>52E4 2F828>52FA 2F829-2F82A>5305
   2F82B>5317 2F82C>5349 2F82D>5351 2F82E>535A 2F82F>5373 2F830>537D 2F831-2F833=537F
   2F834>20A2C 2F835>7070 2F836>53CA 2F837>53DF 2F838>20B63 2F839>53EB 2F83A>53F1 2F83B>5406
   2F83C>549E 2F83D>5438 2F83E>5448 2F83F>5468 2F840>54A2 2F841>54F6 2F842>5510 2F843>5553
   2F844>5563 2F845-2F846=5584 2F847>5599 2F848>55AB 2F849>55B3 2F84A>55C2 2F84B>5716
   2F84C>5606 2F84D>5717 2F84E>5651 2F84F>5674 2F850>5207 2F851>58EE 2F852>57CE 2F853>57F4
   2F854>580D 2F855>578B 2F856>5832 2F857>5831 2F858>58AC 2F859>214E4 2F85A>58F2 2F85B>58F7
   2F85C>5906 2F85D>591A 2F85E>5922 2F85F>5962 2F860>216A8 2F861>216EA 2F862>59EC 2F863>5A1B
   2F864>5A27 2F865>59D8 2F866>5A66 2F867>36EE 2F868>36FC 2F869>5B08 2F86A-2F86B=5B3E
   2F86C>219C8 2F86D>5BC3 2F86E>5BD8 2F86F>5BE7 2F870>5BF3 2F871>21B18 2F872>5BFF 2F873>5C06
   2F874>5F53 2F875>5C22 2F876>3781 2F877>5C60 2F878>5C6E 2F879>5CC0 2F87A>5C8D 2F87B>21DE4
   2F87C>5D43 2F87D>21DE6 2F87E>5D6E 2F87F>5D6B 2F880>5D7C 2F881-2F882>5DE1 2F883>382F
   2F884>5DFD 2F885>5E28 2F886>5E3D 2F887>5E69 2F888>3862 2F889>22183 2F88A>387C 2F88B>5EB0
   2F88C>5EB3 2F88D>5EB6 2F88E>5ECA 2F88F>2A392 2F890>5EFE 2F891-2F892=22331 2F893>8201
   2F894-2F895=5F22 2F896>38C7 2F897>232B8 2F898>261DA 2F899>5F62 2F89A>5F6B 2F89B>38E3
   2F89C>5F9A 2F89D>5FCD 2F89E>5FD7 2F89F>5FF9 2F8A0>6081 2F8A1>393A 2F8A2>391C 2F8A3>6094
   2F8A4>226D4 2F8A5>60C7 2F8A6>6148 2F8A7>614C 2F8A8>614E 2F8A9>614C 2F8AA>617A 2F8AB>618E
   2F8AC>61B2 2F8AD>61A4 2F8AE>61AF 2F8AF>61DE 2F8B0>61F2 2F8B1>61F6 2F8B2>6210 2F8B3>621B
   2F8B4>625D 2F8B5>62B1 2F8B6>62D4 2F8B7>6350 2F8B8>22B0C 2F8B9>633D 2F8BA>62FC 2F8BB>6368
   2F8BC>6383 2F8BD>63E4 2F8BE>22BF1 2F8BF>6422 2F8C0>63C5 2F8C1>63A9 2F8C2>3A2E 2F8C3>6469
   2F8C4>647E 2F8C5>649D 2F8C6>6477 2F8C7>3A6C 2F8C8>654F 2F8C9>656C 2F8CA>2300A 2F8CB>65E3
   2F8CC>66F8 2F8CD>6649 2F8CE>3B19 2F8CF>6691 2F8D0>3B08 2F8D1>3AE4 2F8D2>5192 2F8D3>5195
   2F8D4>6700 2F8D5>669C 2F8D6>80AD 2F8D7>43D9 2F8D8>6717 2F8D9>671B 2F8DA>6721 2F8DB>675E
   2F8DC>6753 2F8DD>233C3 2F8DE>3B49 2F8DF>67FA 2F8E0>6785 2F8E1>6852 2F8E2>6885 2F8E3>2346D
   2F8E4>688E 2F8E5>681F 2F8E6>6914 2F8E7>3B9D 2F8E8>6942 2F8E9>69A3 2F8EA>69EA 2F8EB>6AA8
   2F8EC>236A3 2F8ED>6ADB 2F8EE>3C18 2F8EF>6B21 2F8F0>238A7 2F8F1>6B54 2F8F2>3C4E 2F8F3>6B72
   2F8F4>6B9F 2F8F5-2F8F6>6BBA 2F8F7>23A8D 2F8F8>21D0B 2F8F9>23AFA 2F8FA>6C4E 2F8FB>23CBC
   2F8FC>6CBF 2F8FD>6CCD 2F8FE>6C67 2F8FF>6D16 2F900>6D3E 2F901>6D77 2F902>6D41 2F903>6D69
   2F904>6D78 2F905>6D85 2F906>23D1E 2F907>6D34 2F908>6E2F 2F909>6E6E 2F90A>3D33 2F90B>6ECB
   2F90C>6EC7 2F90D>23ED1 2F90E>6DF9 2F90F>6F6E 2F910>23F5E 2F911>23F8E 2F912>6FC6 2F913>7039
   2F914>701E 2F915>701B 2F916>3D96 2F917>704A 2F918>707D 2F919>7077 2F91A>70AD 2F91B>20525
   2F91C>7145 2F91D>24263 2F91E>719C 2F91F>243AB 2F920>7228 2F921>7235 2F922>7250 2F923>24608
   2F924>7280 2F925>7295 2F926>24735 2F927>24814 2F928>737A 2F929>738B 2F92A>3EAC 2F92B>73A5
   2F92C-2F92D=3EB8 2F92E>7447 2F92F>745C 2F930>7471 2F931>7485 2F932>74CA 2F933>3F1B
   2F934>7524 2F935>24C36 2F936>753E 2F937>24C92 2F938>7570 2F939>2219F 2F93A>7610 2F93B>24FA1
   2F93C>24FB8 2F93D>25044 2F93E>3FFC 2F93F>4008 2F940>76F4 2F941>250F3 2F942>250F2 2F943>25119
   2F944>25133 2F945-2F946>771E 2F947>771F 2F948>774A 2F949>4039 2F94A>778B 2F94B>4046
   2F94C>4096 2F94D>2541D 2F94E>784E 2F94F>788C 2F950>78CC 2F951>40E3 2F952>25626 2F953>7956
   2F954>2569A 2F955>256C5 2F956>798F 2F957>79EB 2F958>412F 2F959>7A40 2F95A>7A4A 2F95B>7A4F
   2F95C>2597C 2F95D-2F95E=25AA7 2F95F>7AEE 2F960>4202 2F961>25BAB 2F962>7BC6 2F963>7BC9
   2F964>4227 2F965>25C80 2F966>7CD2 2F967>42A0 2F968>7CE8 2F969>7CE3 2F96A>7D00 2F96B>25F86
   2F96C>7D63 2F96D>4301 2F96E>7DC7 2F96F>7E02 2F970>7E45 2F971>4334 2F972>26228 2F973>26247
   2F974>4359 2F975>262D9 2F976>7F7A 2F977>2633E 2F978>7F95 2F979>7FFA 2F97A>8005 2F97B>264DA
   2F97C>26523 2F97D>8060 2F97E>265A8 2F97F>8070 2F980>2335F 2F981>43D5 2F982>80B2 2F983>8103
   2F984>440B 2F985>813E 2F986>5AB5 2F987>267A7 2F988>267B5 2F989>23393 2F98A>2339C 2F98B>8201
   2F98C>8204 2F98D>8F9E 2F98E>446B 2F98F>8291 2F990>828B 2F991>829D 2F992>52B3 2F993>82B1
   2F994>82B3 2F995>82BD 2F996>82E6 2F997>26B3C 2F998>82E5 2F999>831D 2F99A>8363 2F99B>83AD
   2F99C>8323 2F99D>83BD 2F99E>83E7 2F99F>8457 2F9A0>8353 2F9A1>83CA 2F9A2>83CC 2F9A3>83DC
   2F9A4>26C36 2F9A5>26D6B 2F9A6>26CD5 2F9A7>452B 2F9A8>84F1 2F9A9>84F3 2F9AA>8516 2F9AB>273CA
   2F9AC>8564 2F9AD>26F2C 2F9AE>455D 2F9AF>4561 2F9B0>26FB1 2F9B1>270D2 2F9B2>456B 2F9B3>8650
   2F9B4>865C 2F9B5>8667 2F9B6>8669 2F9B7>86A9 2F9B8>8688 2F9B9>870E 2F9BA>86E2 2F9BB>8779
   2F9BC>8728 2F9BD>876B 2F9BE>8786 2F9BF>45D7 2F9C0>87E1 2F9C1>8801 2F9C2>45F9 2F9C3>8860
   2F9C4>8863 2F9C5>27667 2F9C6>88D7 2F9C7>88DE 2F9C8>4635 2F9C9>88FA 2F9CA>34BB 2F9CB>278AE
   2F9CC>27966 2F9CD>46BE 2F9CE>46C7 2F9CF>8AA0 2F9D0>8AED 2F9D1>8B8A 2F9D2>8C55 2F9D3>27CA8
   2F9D4>8CAB 2F9D5>8CC1 2F9D6>8D1B 2F9D7>8D77 2F9D8>27F2F 2F9D9>20804 2F9DA>8DCB 2F9DB>8DBC
   2F9DC>8DF0 2F9DD>208DE 2F9DE>8ED4 2F9DF>8F38 2F9E0>285D2 2F9E1>285ED 2F9E2>9094 2F9E3>90F1
   2F9E4>9111 2F9E5>2872E 2F9E6>911B 2F9E7>9238 2F9E8-2F9E9>92D7 2F9EA>927C 2F9EB>93F9
   2F9EC>9415 2F9ED>28BFA 2F9EE>958B 2F9EF>4995 2F9F0>95B7 2F9F1>28D77 2F9F2>49E6 2F9F3>96C3
   2F9F4>5DB2 2F9F5>9723 2F9F6>29145 2F9F7>2921A 2F9F8>4A6E 2F9F9>4A76 2F9FA>97E0 2F9FB>2940A
   2F9FC>4AB2 2F9FD>29496 2F9FE-2F9FF=980B 2FA00>9829 2FA01>295B6 2FA02>98E2 2FA03>4B33
   2FA04>9929 2FA05>99A7 2FA06>99C2 2FA07>99FE 2FA08>4BCE 2FA09>29B30 2FA0A>9B12 2FA0B>9C40
   2FA0C>9CFD 2FA0D>4CCE 2FA0E>4CED 2FA0F>9D67 2FA10>2A0CE 2FA11>4CF8 2FA12>2A105 2FA13>2A20E
   2FA14>2A291 2FA15>9EBB 2FA16>4D56 2FA17>9EF9 2FA18>9EFE 2FA19>9F05 2FA1A>9F0F 2FA1B>9F16
   2FA1C>9F3B 2FA1D>2A600"

end ShapeInference.Idna
