/-!
# The table of simple case folding

Each entry lists characters that fold alike, and first the character that they fold to. The data are
those of Unicode 15.
-/

namespace SchemaFilter.Unicode

/-- The classes of characters that fold alike, as hexadecimal code points joined by `=`. -/
def foldingLines : List String :=
  [
    "61=41 62=42 63=43 64=44 65=45 66=46 67=47 68=48 69=49 6A=4A 6B=4B=212A 6C=4C 6D=4D 6E=4E",
    "6F=4F 70=50 71=51 72=52 73=53=17F 74=54 75=55 76=56 77=57 78=58 79=59 7A=5A DF=1E9E E0=C0",
    "E1=C1 E2=C2 E3=C3 E4=C4 E5=C5=212B E6=C6 E7=C7 E8=C8 E9=C9 EA=CA EB=CB EC=CC ED=CD EE=CE",
    "EF=CF F0=D0 F1=D1 F2=D2 F3=D3 F4=D4 F5=D5 F6=D6 F8=D8 F9=D9 FA=DA FB=DB FC=DC FD=DD FE=DE",
    "FF=178 101=100 103=102 105=104 107=106 109=108 10B=10A 10D=10C 10F=10E 111=110 113=112",
    "115=114 117=116 119=118 11B=11A 11D=11C 11F=11E 121=120 123=122 125=124 127=126 129=128",
    "12B=12A 12D=12C 12F=12E 133=132 135=134 137=136 13A=139 13C=13B 13E=13D 140=13F 142=141",
    "144=143 146=145 148=147 14B=14A 14D=14C 14F=14E 151=150 153=152 155=154 157=156 159=158",
    "15B=15A 15D=15C 15F=15E 161=160 163=162 165=164 167=166 169=168 16B=16A 16D=16C 16F=16E",
    "171=170 173=172 175=174 177=176 17A=179 17C=17B 17E=17D 180=243 183=182 185=184 188=187",
    "18C=18B 192=191 195=1F6 199=198 19A=23D 19E=220 1A1=1A0 1A3=1A2 1A5=1A4 1A8=1A7 1AD=1AC",
    "1B0=1AF 1B4=1B3 1B6=1B5 1B9=1B8 1BD=1BC 1BF=1F7 1C6=1C4=1C5 1C9=1C7=1C8 1CC=1CA=1CB 1CE=1CD",
    "1D0=1CF 1D2=1D1 1D4=1D3 1D6=1D5 1D8=1D7 1DA=1D9 1DC=1DB 1DD=18E 1DF=1DE 1E1=1E0 1E3=1E2",
    "1E5=1E4 1E7=1E6 1E9=1E8 1EB=1EA 1ED=1EC 1EF=1EE 1F3=1F1=1F2 1F5=1F4 1F9=1F8 1FB=1FA 1FD=1FC",
    "1FF=1FE 201=200 203=202 205=204 207=206 209=208 20B=20A 20D=20C 20F=20E 211=210 213=212",
    "215=214 217=216 219=218 21B=21A 21D=21C 21F=21E 223=222 225=224 227=226 229=228 22B=22A",
    "22D=22C 22F=22E 231=230 233=232 23C=23B 23F=2C7E 240=2C7F 242=241 247=246 249=248 24B=24A",
    "24D=24C 24F=24E 250=2C6F 251=2C6D 252=2C70 253=181 254=186 256=189 257=18A 259=18F 25B=190",
    "25C=A7AB 260=193 261=A7AC 263=194 265=A78D 266=A7AA 268=197 269=196 26A=A7AE 26B=2C62",
    "26C=A7AD 26F=19C 271=2C6E 272=19D 275=19F 27D=2C64 280=1A6 282=A7C5 283=1A9 287=A7B1 288=1AE",
    "289=244 28A=1B1 28B=1B2 28C=245 292=1B7 29D=A7B2 29E=A7B0 371=370 373=372 377=376 37B=3FD",
    "37C=3FE 37D=3FF 3AC=386 3AD=388 3AE=389 3AF=38A 3B1=391 3B2=392=3D0 3B3=393 3B4=394",
    "3B5=395=3F5 3B6=396 3B7=397 3B8=398=3D1=3F4 3B9=345=399=1FBE 3BA=39A=3F0 3BB=39B 3BC=B5=39C",
    "3BD=39D 3BE=39E 3BF=39F 3C0=3A0=3D6 3C1=3A1=3F1 3C3=3A3=3C2 3C4=3A4 3C5=3A5 3C6=3A6=3D5",
    "3C7=3A7 3C8=3A8 3C9=3A9=2126 3CA=3AA 3CB=3AB 3CC=38C 3CD=38E 3CE=38F 3D7=3CF 3D9=3D8 3DB=3DA",
    "3DD=3DC 3DF=3DE 3E1=3E0 3E3=3E2 3E5=3E4 3E7=3E6 3E9=3E8 3EB=3EA 3ED=3EC 3EF=3EE 3F2=3F9",
    "3F3=37F 3F8=3F7 3FB=3FA 430=410 431=411 432=412=1C80 433=413 434=414=1C81 435=415 436=416",
    "437=417 438=418 439=419 43A=41A 43B=41B 43C=41C 43D=41D 43E=41E=1C82 43F=41F 440=420",
    "441=421=1C83 442=422=1C84=1C85 443=423 444=424 445=425 446=426 447=427 448=428 449=429",
    "44A=42A=1C86 44B=42B 44C=42C 44D=42D 44E=42E 44F=42F 450=400 451=401 452=402 453=403 454=404",
    "455=405 456=406 457=407 458=408 459=409 45A=40A 45B=40B 45C=40C 45D=40D 45E=40E 45F=40F",
    "461=460 463=462=1C87 465=464 467=466 469=468 46B=46A 46D=46C 46F=46E 471=470 473=472 475=474",
    "477=476 479=478 47B=47A 47D=47C 47F=47E 481=480 48B=48A 48D=48C 48F=48E 491=490 493=492",
    "495=494 497=496 499=498 49B=49A 49D=49C 49F=49E 4A1=4A0 4A3=4A2 4A5=4A4 4A7=4A6 4A9=4A8",
    "4AB=4AA 4AD=4AC 4AF=4AE 4B1=4B0 4B3=4B2 4B5=4B4 4B7=4B6 4B9=4B8 4BB=4BA 4BD=4BC 4BF=4BE",
    "4C2=4C1 4C4=4C3 4C6=4C5 4C8=4C7 4CA=4C9 4CC=4CB 4CE=4CD 4CF=4C0 4D1=4D0 4D3=4D2 4D5=4D4",
    "4D7=4D6 4D9=4D8 4DB=4DA 4DD=4DC 4DF=4DE 4E1=4E0 4E3=4E2 4E5=4E4 4E7=4E6 4E9=4E8 4EB=4EA",
    "4ED=4EC 4EF=4EE 4F1=4F0 4F3=4F2 4F5=4F4 4F7=4F6 4F9=4F8 4FB=4FA 4FD=4FC 4FF=4FE 501=500",
    "503=502 505=504 507=506 509=508 50B=50A 50D=50C 50F=50E 511=510 513=512 515=514 517=516",
    "519=518 51B=51A 51D=51C 51F=51E 521=520 523=522 525=524 527=526 529=528 52B=52A 52D=52C",
    "52F=52E 561=531 562=532 563=533 564=534 565=535 566=536 567=537 568=538 569=539 56A=53A",
    "56B=53B 56C=53C 56D=53D 56E=53E 56F=53F 570=540 571=541 572=542 573=543 574=544 575=545",
    "576=546 577=547 578=548 579=549 57A=54A 57B=54B 57C=54C 57D=54D 57E=54E 57F=54F 580=550",
    "581=551 582=552 583=553 584=554 585=555 586=556 10D0=1C90 10D1=1C91 10D2=1C92 10D3=1C93",
    "10D4=1C94 10D5=1C95 10D6=1C96 10D7=1C97 10D8=1C98 10D9=1C99 10DA=1C9A 10DB=1C9B 10DC=1C9C",
    "10DD=1C9D 10DE=1C9E 10DF=1C9F 10E0=1CA0 10E1=1CA1 10E2=1CA2 10E3=1CA3 10E4=1CA4 10E5=1CA5",
    "10E6=1CA6 10E7=1CA7 10E8=1CA8 10E9=1CA9 10EA=1CAA 10EB=1CAB 10EC=1CAC 10ED=1CAD 10EE=1CAE",
    "10EF=1CAF 10F0=1CB0 10F1=1CB1 10F2=1CB2 10F3=1CB3 10F4=1CB4 10F5=1CB5 10F6=1CB6 10F7=1CB7",
    "10F8=1CB8 10F9=1CB9 10FA=1CBA 10FD=1CBD 10FE=1CBE 10FF=1CBF 13A0=AB70 13A1=AB71 13A2=AB72",
    "13A3=AB73 13A4=AB74 13A5=AB75 13A6=AB76 13A7=AB77 13A8=AB78 13A9=AB79 13AA=AB7A 13AB=AB7B",
    "13AC=AB7C 13AD=AB7D 13AE=AB7E 13AF=AB7F 13B0=AB80 13B1=AB81 13B2=AB82 13B3=AB83 13B4=AB84",
    "13B5=AB85 13B6=AB86 13B7=AB87 13B8=AB88 13B9=AB89 13BA=AB8A 13BB=AB8B 13BC=AB8C 13BD=AB8D",
    "13BE=AB8E 13BF=AB8F 13C0=AB90 13C1=AB91 13C2=AB92 13C3=AB93 13C4=AB94 13C5=AB95 13C6=AB96",
    "13C7=AB97 13C8=AB98 13C9=AB99 13CA=AB9A 13CB=AB9B 13CC=AB9C 13CD=AB9D 13CE=AB9E 13CF=AB9F",
    "13D0=ABA0 13D1=ABA1 13D2=ABA2 13D3=ABA3 13D4=ABA4 13D5=ABA5 13D6=ABA6 13D7=ABA7 13D8=ABA8",
    "13D9=ABA9 13DA=ABAA 13DB=ABAB 13DC=ABAC 13DD=ABAD 13DE=ABAE 13DF=ABAF 13E0=ABB0 13E1=ABB1",
    "13E2=ABB2 13E3=ABB3 13E4=ABB4 13E5=ABB5 13E6=ABB6 13E7=ABB7 13E8=ABB8 13E9=ABB9 13EA=ABBA",
    "13EB=ABBB 13EC=ABBC 13ED=ABBD 13EE=ABBE 13EF=ABBF 13F0=13F8 13F1=13F9 13F2=13FA 13F3=13FB",
    "13F4=13FC 13F5=13FD 1D79=A77D 1D7D=2C63 1D8E=A7C6 1E01=1E00 1E03=1E02 1E05=1E04 1E07=1E06",
    "1E09=1E08 1E0B=1E0A 1E0D=1E0C 1E0F=1E0E 1E11=1E10 1E13=1E12 1E15=1E14 1E17=1E16 1E19=1E18",
    "1E1B=1E1A 1E1D=1E1C 1E1F=1E1E 1E21=1E20 1E23=1E22 1E25=1E24 1E27=1E26 1E29=1E28 1E2B=1E2A",
    "1E2D=1E2C 1E2F=1E2E 1E31=1E30 1E33=1E32 1E35=1E34 1E37=1E36 1E39=1E38 1E3B=1E3A 1E3D=1E3C",
    "1E3F=1E3E 1E41=1E40 1E43=1E42 1E45=1E44 1E47=1E46 1E49=1E48 1E4B=1E4A 1E4D=1E4C 1E4F=1E4E",
    "1E51=1E50 1E53=1E52 1E55=1E54 1E57=1E56 1E59=1E58 1E5B=1E5A 1E5D=1E5C 1E5F=1E5E",
    "1E61=1E60=1E9B 1E63=1E62 1E65=1E64 1E67=1E66 1E69=1E68 1E6B=1E6A 1E6D=1E6C 1E6F=1E6E",
    "1E71=1E70 1E73=1E72 1E75=1E74 1E77=1E76 1E79=1E78 1E7B=1E7A 1E7D=1E7C 1E7F=1E7E 1E81=1E80",
    "1E83=1E82 1E85=1E84 1E87=1E86 1E89=1E88 1E8B=1E8A 1E8D=1E8C 1E8F=1E8E 1E91=1E90 1E93=1E92",
    "1E95=1E94 1EA1=1EA0 1EA3=1EA2 1EA5=1EA4 1EA7=1EA6 1EA9=1EA8 1EAB=1EAA 1EAD=1EAC 1EAF=1EAE",
    "1EB1=1EB0 1EB3=1EB2 1EB5=1EB4 1EB7=1EB6 1EB9=1EB8 1EBB=1EBA 1EBD=1EBC 1EBF=1EBE 1EC1=1EC0",
    "1EC3=1EC2 1EC5=1EC4 1EC7=1EC6 1EC9=1EC8 1ECB=1ECA 1ECD=1ECC 1ECF=1ECE 1ED1=1ED0 1ED3=1ED2",
    "1ED5=1ED4 1ED7=1ED6 1ED9=1ED8 1EDB=1EDA 1EDD=1EDC 1EDF=1EDE 1EE1=1EE0 1EE3=1EE2 1EE5=1EE4",
    "1EE7=1EE6 1EE9=1EE8 1EEB=1EEA 1EED=1EEC 1EEF=1EEE 1EF1=1EF0 1EF3=1EF2 1EF5=1EF4 1EF7=1EF6",
    "1EF9=1EF8 1EFB=1EFA 1EFD=1EFC 1EFF=1EFE 1F00=1F08 1F01=1F09 1F02=1F0A 1F03=1F0B 1F04=1F0C",
    "1F05=1F0D 1F06=1F0E 1F07=1F0F 1F10=1F18 1F11=1F19 1F12=1F1A 1F13=1F1B 1F14=1F1C 1F15=1F1D",
    "1F20=1F28 1F21=1F29 1F22=1F2A 1F23=1F2B 1F24=1F2C 1F25=1F2D 1F26=1F2E 1F27=1F2F 1F30=1F38",
    "1F31=1F39 1F32=1F3A 1F33=1F3B 1F34=1F3C 1F35=1F3D 1F36=1F3E 1F37=1F3F 1F40=1F48 1F41=1F49",
    "1F42=1F4A 1F43=1F4B 1F44=1F4C 1F45=1F4D 1F51=1F59 1F53=1F5B 1F55=1F5D 1F57=1F5F 1F60=1F68",
    "1F61=1F69 1F62=1F6A 1F63=1F6B 1F64=1F6C 1F65=1F6D 1F66=1F6E 1F67=1F6F 1F70=1FBA 1F71=1FBB",
    "1F72=1FC8 1F73=1FC9 1F74=1FCA 1F75=1FCB 1F76=1FDA 1F77=1FDB 1F78=1FF8 1F79=1FF9 1F7A=1FEA",
    "1F7B=1FEB 1F7C=1FFA 1F7D=1FFB 1F80=1F88 1F81=1F89 1F82=1F8A 1F83=1F8B 1F84=1F8C 1F85=1F8D",
    "1F86=1F8E 1F87=1F8F 1F90=1F98 1F91=1F99 1F92=1F9A 1F93=1F9B 1F94=1F9C 1F95=1F9D 1F96=1F9E",
    "1F97=1F9F 1FA0=1FA8 1FA1=1FA9 1FA2=1FAA 1FA3=1FAB 1FA4=1FAC 1FA5=1FAD 1FA6=1FAE 1FA7=1FAF",
    "1FB0=1FB8 1FB1=1FB9 1FB3=1FBC 1FC3=1FCC 1FD0=1FD8 1FD1=1FD9 1FE0=1FE8 1FE1=1FE9 1FE5=1FEC",
    "1FF3=1FFC 214E=2132 2170=2160 2171=2161 2172=2162 2173=2163 2174=2164 2175=2165 2176=2166",
    "2177=2167 2178=2168 2179=2169 217A=216A 217B=216B 217C=216C 217D=216D 217E=216E 217F=216F",
    "2184=2183 24D0=24B6 24D1=24B7 24D2=24B8 24D3=24B9 24D4=24BA 24D5=24BB 24D6=24BC 24D7=24BD",
    "24D8=24BE 24D9=24BF 24DA=24C0 24DB=24C1 24DC=24C2 24DD=24C3 24DE=24C4 24DF=24C5 24E0=24C6",
    "24E1=24C7 24E2=24C8 24E3=24C9 24E4=24CA 24E5=24CB 24E6=24CC 24E7=24CD 24E8=24CE 24E9=24CF",
    "2C30=2C00 2C31=2C01 2C32=2C02 2C33=2C03 2C34=2C04 2C35=2C05 2C36=2C06 2C37=2C07 2C38=2C08",
    "2C39=2C09 2C3A=2C0A 2C3B=2C0B 2C3C=2C0C 2C3D=2C0D 2C3E=2C0E 2C3F=2C0F 2C40=2C10 2C41=2C11",
    "2C42=2C12 2C43=2C13 2C44=2C14 2C45=2C15 2C46=2C16 2C47=2C17 2C48=2C18 2C49=2C19 2C4A=2C1A",
    "2C4B=2C1B 2C4C=2C1C 2C4D=2C1D 2C4E=2C1E 2C4F=2C1F 2C50=2C20 2C51=2C21 2C52=2C22 2C53=2C23",
    "2C54=2C24 2C55=2C25 2C56=2C26 2C57=2C27 2C58=2C28 2C59=2C29 2C5A=2C2A 2C5B=2C2B 2C5C=2C2C",
    "2C5D=2C2D 2C5E=2C2E 2C5F=2C2F 2C61=2C60 2C65=23A 2C66=23E 2C68=2C67 2C6A=2C69 2C6C=2C6B",
    "2C73=2C72 2C76=2C75 2C81=2C80 2C83=2C82 2C85=2C84 2C87=2C86 2C89=2C88 2C8B=2C8A 2C8D=2C8C",
    "2C8F=2C8E 2C91=2C90 2C93=2C92 2C95=2C94 2C97=2C96 2C99=2C98 2C9B=2C9A 2C9D=2C9C 2C9F=2C9E",
    "2CA1=2CA0 2CA3=2CA2 2CA5=2CA4 2CA7=2CA6 2CA9=2CA8 2CAB=2CAA 2CAD=2CAC 2CAF=2CAE 2CB1=2CB0",
    "2CB3=2CB2 2CB5=2CB4 2CB7=2CB6 2CB9=2CB8 2CBB=2CBA 2CBD=2CBC 2CBF=2CBE 2CC1=2CC0 2CC3=2CC2",
    "2CC5=2CC4 2CC7=2CC6 2CC9=2CC8 2CCB=2CCA 2CCD=2CCC 2CCF=2CCE 2CD1=2CD0 2CD3=2CD2 2CD5=2CD4",
    "2CD7=2CD6 2CD9=2CD8 2CDB=2CDA 2CDD=2CDC 2CDF=2CDE 2CE1=2CE0 2CE3=2CE2 2CEC=2CEB 2CEE=2CED",
    "2CF3=2CF2 2D00=10A0 2D01=10A1 2D02=10A2 2D03=10A3 2D04=10A4 2D05=10A5 2D06=10A6 2D07=10A7",
    "2D08=10A8 2D09=10A9 2D0A=10AA 2D0B=10AB 2D0C=10AC 2D0D=10AD 2D0E=10AE 2D0F=10AF 2D10=10B0",
    "2D11=10B1 2D12=10B2 2D13=10B3 2D14=10B4 2D15=10B5 2D16=10B6 2D17=10B7 2D18=10B8 2D19=10B9",
    "2D1A=10BA 2D1B=10BB 2D1C=10BC 2D1D=10BD 2D1E=10BE 2D1F=10BF 2D20=10C0 2D21=10C1 2D22=10C2",
    "2D23=10C3 2D24=10C4 2D25=10C5 2D27=10C7 2D2D=10CD A641=A640 A643=A642 A645=A644 A647=A646",
    "A649=A648 A64B=1C88=A64A A64D=A64C A64F=A64E A651=A650 A653=A652 A655=A654 A657=A656",
    "A659=A658 A65B=A65A A65D=A65C A65F=A65E A661=A660 A663=A662 A665=A664 A667=A666 A669=A668",
    "A66B=A66A A66D=A66C A681=A680 A683=A682 A685=A684 A687=A686 A689=A688 A68B=A68A A68D=A68C",
    "A68F=A68E A691=A690 A693=A692 A695=A694 A697=A696 A699=A698 A69B=A69A A723=A722 A725=A724",
    "A727=A726 A729=A728 A72B=A72A A72D=A72C A72F=A72E A733=A732 A735=A734 A737=A736 A739=A738",
    "A73B=A73A A73D=A73C A73F=A73E A741=A740 A743=A742 A745=A744 A747=A746 A749=A748 A74B=A74A",
    "A74D=A74C A74F=A74E A751=A750 A753=A752 A755=A754 A757=A756 A759=A758 A75B=A75A A75D=A75C",
    "A75F=A75E A761=A760 A763=A762 A765=A764 A767=A766 A769=A768 A76B=A76A A76D=A76C A76F=A76E",
    "A77A=A779 A77C=A77B A77F=A77E A781=A780 A783=A782 A785=A784 A787=A786 A78C=A78B A791=A790",
    "A793=A792 A794=A7C4 A797=A796 A799=A798 A79B=A79A A79D=A79C A79F=A79E A7A1=A7A0 A7A3=A7A2",
    "A7A5=A7A4 A7A7=A7A6 A7A9=A7A8 A7B5=A7B4 A7B7=A7B6 A7B9=A7B8 A7BB=A7BA A7BD=A7BC A7BF=A7BE",
    "A7C1=A7C0 A7C3=A7C2 A7C8=A7C7 A7CA=A7C9 A7D1=A7D0 A7D7=A7D6 A7D9=A7D8 A7F6=A7F5 AB53=A7B3",
    "FF41=FF21 FF42=FF22 FF43=FF23 FF44=FF24 FF45=FF25 FF46=FF26 FF47=FF27 FF48=FF28 FF49=FF29",
    "FF4A=FF2A FF4B=FF2B FF4C=FF2C FF4D=FF2D FF4E=FF2E FF4F=FF2F FF50=FF30 FF51=FF31 FF52=FF32",
    "FF53=FF33 FF54=FF34 FF55=FF35 FF56=FF36 FF57=FF37 FF58=FF38 FF59=FF39 FF5A=FF3A 10428=10400",
    "10429=10401 1042A=10402 1042B=10403 1042C=10404 1042D=10405 1042E=10406 1042F=10407",
    "10430=10408 10431=10409 10432=1040A 10433=1040B 10434=1040C 10435=1040D 10436=1040E",
    "10437=1040F 10438=10410 10439=10411 1043A=10412 1043B=10413 1043C=10414 1043D=10415",
    "1043E=10416 1043F=10417 10440=10418 10441=10419 10442=1041A 10443=1041B 10444=1041C",
    "10445=1041D 10446=1041E 10447=1041F 10448=10420 10449=10421 1044A=10422 1044B=10423",
    "1044C=10424 1044D=10425 1044E=10426 1044F=10427 104D8=104B0 104D9=104B1 104DA=104B2",
    "104DB=104B3 104DC=104B4 104DD=104B5 104DE=104B6 104DF=104B7 104E0=104B8 104E1=104B9",
    "104E2=104BA 104E3=104BB 104E4=104BC 104E5=104BD 104E6=104BE 104E7=104BF 104E8=104C0",
    "104E9=104C1 104EA=104C2 104EB=104C3 104EC=104C4 104ED=104C5 104EE=104C6 104EF=104C7",
    "104F0=104C8 104F1=104C9 104F2=104CA 104F3=104CB 104F4=104CC 104F5=104CD 104F6=104CE",
    "104F7=104CF 104F8=104D0 104F9=104D1 104FA=104D2 104FB=104D3 10597=10570 10598=10571",
    "10599=10572 1059A=10573 1059B=10574 1059C=10575 1059D=10576 1059E=10577 1059F=10578",
    "105A0=10579 105A1=1057A 105A3=1057C 105A4=1057D 105A5=1057E 105A6=1057F 105A7=10580",
    "105A8=10581 105A9=10582 105AA=10583 105AB=10584 105AC=10585 105AD=10586 105AE=10587",
    "105AF=10588 105B0=10589 105B1=1058A 105B3=1058C 105B4=1058D 105B5=1058E 105B6=1058F",
    "105B7=10590 105B8=10591 105B9=10592 105BB=10594 105BC=10595 10CC0=10C80 10CC1=10C81",
    "10CC2=10C82 10CC3=10C83 10CC4=10C84 10CC5=10C85 10CC6=10C86 10CC7=10C87 10CC8=10C88",
    "10CC9=10C89 10CCA=10C8A 10CCB=10C8B 10CCC=10C8C 10CCD=10C8D 10CCE=10C8E 10CCF=10C8F",
    "10CD0=10C90 10CD1=10C91 10CD2=10C92 10CD3=10C93 10CD4=10C94 10CD5=10C95 10CD6=10C96",
    "10CD7=10C97 10CD8=10C98 10CD9=10C99 10CDA=10C9A 10CDB=10C9B 10CDC=10C9C 10CDD=10C9D",
    "10CDE=10C9E 10CDF=10C9F 10CE0=10CA0 10CE1=10CA1 10CE2=10CA2 10CE3=10CA3 10CE4=10CA4",
    "10CE5=10CA5 10CE6=10CA6 10CE7=10CA7 10CE8=10CA8 10CE9=10CA9 10CEA=10CAA 10CEB=10CAB",
    "10CEC=10CAC 10CED=10CAD 10CEE=10CAE 10CEF=10CAF 10CF0=10CB0 10CF1=10CB1 10CF2=10CB2",
    "118C0=118A0 118C1=118A1 118C2=118A2 118C3=118A3 118C4=118A4 118C5=118A5 118C6=118A6",
    "118C7=118A7 118C8=118A8 118C9=118A9 118CA=118AA 118CB=118AB 118CC=118AC 118CD=118AD",
    "118CE=118AE 118CF=118AF 118D0=118B0 118D1=118B1 118D2=118B2 118D3=118B3 118D4=118B4",
    "118D5=118B5 118D6=118B6 118D7=118B7 118D8=118B8 118D9=118B9 118DA=118BA 118DB=118BB",
    "118DC=118BC 118DD=118BD 118DE=118BE 118DF=118BF 16E60=16E40 16E61=16E41 16E62=16E42",
    "16E63=16E43 16E64=16E44 16E65=16E45 16E66=16E46 16E67=16E47 16E68=16E48 16E69=16E49",
    "16E6A=16E4A 16E6B=16E4B 16E6C=16E4C 16E6D=16E4D 16E6E=16E4E 16E6F=16E4F 16E70=16E50",
    "16E71=16E51 16E72=16E52 16E73=16E53 16E74=16E54 16E75=16E55 16E76=16E56 16E77=16E57",
    "16E78=16E58 16E79=16E59 16E7A=16E5A 16E7B=16E5B 16E7C=16E5C 16E7D=16E5D 16E7E=16E5E",
    "16E7F=16E5F 1E922=1E900 1E923=1E901 1E924=1E902 1E925=1E903 1E926=1E904 1E927=1E905",
    "1E928=1E906 1E929=1E907 1E92A=1E908 1E92B=1E909 1E92C=1E90A 1E92D=1E90B 1E92E=1E90C",
    "1E92F=1E90D 1E930=1E90E 1E931=1E90F 1E932=1E910 1E933=1E911 1E934=1E912 1E935=1E913",
    "1E936=1E914 1E937=1E915 1E938=1E916 1E939=1E917 1E93A=1E918 1E93B=1E919 1E93C=1E91A",
    "1E93D=1E91B 1E93E=1E91C 1E93F=1E91D 1E940=1E91E 1E941=1E91F 1E942=1E920 1E943=1E921"]

end SchemaFilter.Unicode
