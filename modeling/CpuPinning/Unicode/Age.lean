import CpuPinning.Unicode.Run

/-!
# Age

The version of the standard in which each code point was assigned: two digits before the
point, and one after it.
-/

namespace CpuPinning.Unicode

private def packedAges : List String :=
  ["0111f6 0304 0111e 0308 0321 0401 03012 0403 041b 050e 01159 0305 0402 0112f 0301 011a 0305",
   "04011 01146 0309 0321 0408 0415 0403 0112 0301 032d 0514 0112 0512 zzz2 0111 0503 0111 0701",
   "zzz4 0117 zzz1 0111 zzz1 01114 zzz1 0112c 0511 0117 0301 0322 0111 0301 0111 0301 0111 0301",
   "0111 0301 01112 0312 0321 0405 0414 0301 011c 0301 01142 0301 011c 0301 01129 0511 0302 0322",
   "0304 01135 0322 0112 0322 0112 0322 0501 0111c 0302 0118 0412 0112 0506 03210 0504 05110 0522",
   "0602 0708 zzz1 01126 zzz2 0117 1101 01127 1101 0111 0301 zzz2 0702 0611 zzz1 02011 0411 020d",
   "011a 0501 0119 0201 0413 zzz8 0111b zzz4 1101 0115 zzzb 0404 0611 0701 0515 0411 0111 0409",
   "0515 0111 0631 1401 0411 0111 0601 0111a 0515 01113 0303 0403 0416 0601 011e 0322 01148 0302",
   "0115 0301 011f 0301 0111e 0402 011a 0305 0401 030e zzz1 0301e 0403 0301b zzz2 0403 0411e",
   "05112 03031 0321 zzze 0503b zzz2 1103 0522e zzz2 052f zzz1 0601c zzz2 0601 zzz1 100b zzz5",
   "1401f 1701 1402 zzz5 1601 1408 0611 0701 061b 0706 0802 1401 0908 130a 140b 1101 090f 0801",
   "0611b 0701 0521 0113 0401 01135 0602 01112 0521 0601 0115 0521 0602 01119 0512 0605 0701 0522",
   "0502 0411 0502 0701 0113 zzz1 0118 zzz2 0112 zzz2 01116 zzz1 0117 zzz1 0111 zzz3 0114 zzz2",
   "0111 0401 0117 zzz2 0112 zzz2 0113 0411 zzz8 0111 zzz4 0112 zzz1 0115 zzz2 01115 0521 1002",
   "1101 zzz2 0401 0111 0401 zzz1 0116 zzz4 0112 zzz2 01116 zzz1 0117 zzz1 0112 zzz1 0112 zzz1",
   "0112 zzz2 0111 zzz1 0115 zzz4 0112 zzz2 0113 zzz3 0511 zzz7 0114 zzz1 0111 zzz7 011f 0511",
   "1101 zzza 0113 zzz1 0117 0401 0111 zzz1 0113 zzz1 01116 zzz1 0117 zzz1 0112 zzz1 0115 zzz2",
   "011a zzz1 0113 zzz1 0113 zzz2 0111 zzzf 0111 0403 zzz2 011a 0611 0401 zzz7 0801 1006 zzz1",
   "0113 zzz1 0118 zzz2 0112 zzz2 01116 zzz1 0117 zzz1 0112 zzz1 0401 0114 zzz2 0118 0511 zzz2",
   "0112 zzz2 0113 zzz7 1301 0112 zzz4 0112 zzz1 0113 0512 zzz2 011b 0401 0606 zzza 0112 zzz1",
   "0116 zzz3 0113 zzz1 0114 zzz3 0112 zzz1 0111 zzz1 0112 zzz3 0112 zzz3 0113 zzz3 0118 0411",
   "0113 zzz4 0115 zzz3 0113 zzz1 0114 zzz2 0511 zzz6 0111 zzze 0411 011c 0408 zzz5 0701 0113",
   "1101 0118 zzz1 0113 zzz1 01117 zzz1 011a 0701 0115 zzz2 1401 0511 0117 zzz1 0113 zzz1 0114",
   "zzz7 0112 zzz1 0512 0801 zzz1 1701 1401 zzz2 0112 0512 zzz2 011a zzz7 1201 0518 0901 0701",
   "0112 1101 0118 zzz1 0113 zzz1 01117 zzz1 011a zzz1 0115 zzz2 0402 0117 zzz1 0113 zzz1 0114",
   "zzz7 0112 zzz5 1701 1401 0111 zzz1 0112 0502 zzz2 011a zzz1 0502 1501 zzzc 1001 0701 0112",
   "1301 0118 zzz1 0113 zzz1 01117 0601 01110 0601 1002 0511 0116 0511 zzz1 0113 zzz1 0114 0601",
   "0901 zzz4 0903 0111 0907 0801 0112 0512 zzz2 011a 0516 0903 0517 zzz1 1301 0302 zzz1 03012",
   "zzz3 03018 zzz1 0309 zzz1 0301 zzz2 0307 zzz3 0301 zzz4 0306 zzz1 0301 zzz1 0308 zzz6 070a",
   "zzz2 0303 zzzc 0113a zzz4 0111d zzz25 0112 zzz1 0111 zzz1 1201 0112 1201 0111 zzz1 1201 0111",
   "1206 0114 1201 0117 1201 0113 zzz1 0111 zzz1 0111 1202 0112 1201 011d 1201 0113 zzz2 0115",
   "zzz1 0111 zzz1 0116 1501 zzz1 011a zzz2 0112 0612 zzz20 02048 zzz1 02021 0301 0512 zzz4 0201b",
   "0604 0206 0301 0201 zzz1 02015 0303 0207 0301 0201 0303 zzz1 030f zzz1 0511 0301 0412 0513",
   "0524 0602 zzz25 03022 0511 0305 0511 0302 0511 0307 0513 0304 0516 0301a 05140 0524 0512",
   "01126 zzz1 0611 zzz5 0611 zzz2 01127 0322 0412 0111 0411 0613 0115a 0525 01144 0525 01152",
   "0526 0307 0411 0303f 0411 0301 zzz1 0304 zzz2 0307 zzz1 0301 zzz1 0304 zzz2 03027 0411 0301",
   "zzz1 0304 zzz2 0301f 0411 0301 zzz1 0304 zzz2 0307 zzz1 0301 zzz1 0304 zzz2 0307 0411 0307",
   "zzz1 03017 0411 0301f 0411 0301 zzz1 0304 zzz2 0307 0411 03027 0411 03013 zzz2 0602 0412",
   "0301c zzz3 0411a zzz6 03055 0801 zzz2 0806 zzz2 0521 030276 0529 0301d zzz3 03051 0708 zzz7",
   "032d 1401 0327 1401 zzz9 1401 03217 zzz9 03214 zzzc 032d zzz1 0323 zzz1 0322 zzzc 0305d 0401",
   "zzz2 030a zzz6 040a zzz6 030f 1401 030a zzz6 03058 1101 zzz7 0302a 0511 zzz5 05246 zzza 0401d",
   "0702 zzz1 040c zzz4 040c zzz4 0401 zzz3 0402a zzz2 0405 zzzb 0412a 0522 zzz4 0411a zzz6 041a",
   "0521 zzz3 0412 04020 0411c zzz2 0412 0523f zzz1 0521d zzz2 052b zzz6 052a zzz6 052e zzz2 070f",
   "1302 140e 170f zzz2 170c zzz14 0504c 1401 zzz1 1602 0502d 1402 1601 0512b 0613 051c 0616",
   "06034 zzz8 0604 05138 zzz3 051f zzz3 05133 0909 1602 zzz5 1102b zzz2 1103 0618 zzz8 05223",
   "0614 1001 0702 1201 zzz5 0406c 04158 0507 0511c 070f 1004 1401 0901 0601 0521 0502 0119b 0201",
   "0514 0115a 0516 01116 zzz2 0116 zzz2 01126 zzz2 0116 zzz2 0118 zzz1 0111 zzz1 0111 zzz1 0111",
   "zzz1 0111f zzz2 01135 zzz1 011f zzz1 011e zzz2 0116 zzz1 01113 zzz2 0113 zzz1 0119 zzz1 0112f",
   "0301 01117 0321 0306 0325 0402 0412 0321 0417 0325 0511 zzz1 0634 0117 0321 zzz2 0111b zzz1",
   "0415 0608 zzz3 011b 0201 0211 0303 0322 0414 0523 0601 0621 0703 0801 1001 1401 1701 zzze",
   "01112 0302 0327 0411 0504 0511 zzzf 01139 0302 0401 0411 032f 0411 0502 0511 0523 01130 0301",
   "0501 0514 0521 0802 zzz4 0115b 0309 032c 011f2 032e 0111 0301 01179 0301 0321 0301e 03234",
   "0402 041b 050c 0521 060b 0707 0904 1001 01125 0302 1603 zzz16 011b zzz15 0118b 03214 0401",
   "01196 032a 01150 0308 0328 01114 0402 0322 0411 0301 01156 0302 032c 0412 032a 0408 041b 0511",
   "0522 0402 04110 0501 051a 0523 0514 052a 0601 05213 0601 0521 0604 05218 0701 0114 0601 0114",
   "0602 0111c 0601 01123 0601 0111 0601 0114 0603 0111 0521 0117 0602 0117 032e 0111f 0603 01118",
   "0601 011e 0601 0417 0504 0611 0511 0611 0602 0321c 0514 03210 030100 032200 040e 0416 0507",
   "0515 0504 05129 0703 0515 0525 0701a zzz2 07020 1701 1301 07022 1103 070c 1201 0708 1001",
   "11019 0804 110f 1201 0412f 1401 0412f 1401 050d 0513 0521 0513 0504 0516 0522 0416b 0527 0612",
   "zzz5 0412d zzz1 0611 zzz5 0611 zzz2 04136 0612 zzz7 0411 0601 zzze 0601 04117 zzz9 0417 zzz1",
   "0417 zzz1 0417 zzz1 0417 zzz1 0417 zzz1 0417 zzz1 0417 zzz1 0417 zzz1 05120 04118 0514 0412",
   "05113 0521 061a 0707 0902 1005 1105 1201 1303 140b zzz22 0301a zzz1 03059 zzzc 030d6 zzz1a",
   "030c 1514 01138 0303 0323 0301 0111 zzz1 01154 0322 zzz2 0116 0322 0115e 0321 zzz5 01128 0511",
   "1001 1101 zzz1 0115e zzz1 01110 03018 0603 1305 04110 05114 1602 zzz9 1511 03210 0111d 0402",
   "zzz1 01124 052c 0401 032f 0111c 0402 0411 01132 032f 011c 0404 0112f 1211 01177 0404 01163",
   "0402 0111f 0401 03019b6 130a 04040 01151a6 04116 0518 0528 0611 0809 10015 1105 130d 1403",
   "03048d zzz3 03012 0322 03010 0321 030c 0321 0303 0321 0301 zzz9 05230 05112c zzz14 05120 0602",
   "05112 0618 0511c 0706 0801 0611 05258 zzz8 04117 0504 0515 0502 0516b 0602 0801 0602 0612",
   "070c 060a 0611 0703 0901 1101 0702 0806 1102 1206 1402 1205 1304 1603 1702 1402 1701 1401",
   "1701 1405 1603 zzz14 1701 1403 1302 0701 0612 0601 0515 0412c 1301 zzz3 052a zzz6 05038 zzz8",
   "05145 0901 zzz8 051c zzz6 0521c 0802 1102 05154 zzzb 0511 0521d zzz3 0524e zzz1 052b zzz4",
   "0522 0701f zzz1 05137 zzz9 051e zzz2 051a zzz2 0514 0521c 0704 05243 zzz18 0525 06117 zzza",
   "0606 zzz2 0606 zzz2 0606 zzz9 0607 zzz1 0607 zzz1 07030 0804 0702 1202 1304 zzz4 08050 0522e",
   "zzz2 052a zzz6 0202ba4 zzzc 05217 zzz4 05231 zzz4 020800 0111a2e 0612 0323b 0523 zzz2 0416a",
   "zzz26 0117 zzzc 0115 zzz5 0301 01119 zzz1 0115 zzz1 0111 zzz1 0112 zzz1 0112 zzz1 0116c 06010",
   "1401 17010 01116d 14010 01140 1702 01136 1707 1401 03120 011c 0321 0401 1402 03210 041a zzz6",
   "0114 0513 0707 0802 01115 0322 0402 011a zzz1 01113 zzz1 0114 zzz4 0113 0321 0111 zzz1 01187",
   "zzz2 0111 zzz1 0115e 0322 0115e zzz3 0116 zzz2 0116 zzz2 0116 zzz2 0113 zzz3 0117 zzz1 0117",
   "zzza 0303 0211 0113 040c zzz1 0401a zzz1 04013 zzz1 0402 zzz1 040f zzz2 040e zzz22 0407b zzz5",
   "0403 zzz4 0402d zzz3 0409 0414b 0702 0902 zzz1 051c 1301 zzz3 0701 zzz2f 0512e zzz82 0511d",
   "zzz3 05131 zzzf 0701c zzz4 0311f 0701 0314 zzz9 1003 0311b zzz5 0702b zzz5 0401e zzz1 0401",
   "04124 zzz4 041e zzz2a 03126 0402 03126 04050 zzz2 040a zzz6 09024 zzz4 09024 zzz4 07028 zzz8",
   "07034 zzzb 0701 140b zzz1 140f zzz1 1407 zzz1 1402 zzz1 140b zzz1 140f zzz1 1407 zzz1 1402",
   "zzz3 16034 zzzc 070137 zzz9 07016 zzza 0708 zzz18 1406 zzz1 1402a zzz1 1409 zzz45 0406 zzz2",
   "0401 zzz1 0402c zzz1 0402 zzz3 0401 zzz2 0401 05216 zzz1 0529 0703f zzz8 0709 zzz30 08013",
   "zzz1 0802 zzz5 0805 0501a 0522 zzz3 0501 0511a zzz5 0511 1701a zzz26 06138 zzz4 0802 0612",
   "08010 zzz2 0802e 0414 zzz1 0412 zzz5 0418 zzz1 0413 zzz1 0411b 1102 zzz2 0413 zzz4 0419 1101",
   "zzz7 0419 zzz7 05220 07020 zzz20 07027 zzz4 070c zzz9 05236 zzz3 0521d zzz2 0521b zzz5 0528",
   "07012 zzz7 0704 zzzc 0707 zzz50 05249 zzz37 08033 zzzd 08033 zzz7 0806 11028 zzz8 110a zzz6",
   "16026 zzz3 1601d zzz8 1602 zzzd0 0521f zzz1 1302a zzz1 1303 zzz2 1302 zzz10 1603 1703 zzz8",
   "1709 zzz21 1702 1601 1503 11028 zzz8 1102a zzz16 1401a zzz26 1301c zzz14 12017 zzz9 0604e",
   "zzz4 0601e 1406 zzz9 0701 05242 1401 zzza 1101 zzz2 06119 zzz7 061a zzz6 06135 zzz1 061e 1103",
   "1301 zzz8 07027 zzz9 06149 0804 0701 1302 061a 0701 0805 zzz1 07014 zzzb 07012 zzz1 0702b",
   "0901 1503 zzz3e 0807 zzz1 0801 zzz1 0804 zzz1 080f zzz1 080b zzz6 0703b zzz5 070a zzz6 0801",
   "0703 zzz1 0708 zzz2 0702 zzz2 07016 zzz1 0707 zzz1 0702 zzz1 0705 zzz1 1101 0709 zzz2 0702",
   "zzz2 0703 zzz2 0801 zzz6 0701 zzz5 0707 zzz2 0707 zzz3 0705 zzzb 160a zzz1 1601 zzz2 1601",
   "zzz1 16026 zzz1 160a zzz1 1601 zzz2 1601 zzz1 1604 zzz1 160a zzz1 1602 zzz8 1602 zzz1d 0905a",
   "1301 0901 zzz1 0901 1101 1201 1302 zzz1e 07048 zzz8 070a zzza6 07036 zzz2 07012 08014 zzz22",
   "07045 zzzb 070a zzz6 090d zzz13 06138 1201 1401 zzz6 061a zzz6 16014 zzz1c 0801a 1101 zzz2",
   "080f zzz4 08010 1407 zzzb9 1103c zzz64 07053 zzzc 0701 1307 zzz2 1301 zzz2 1308 zzz1 1302",
   "zzz1 1301e zzz1 1302 zzz2 130c zzz9 130a zzz46 1208 zzz2 1202e zzz2 120b zzz1b 10048 zzz8",
   "10034 1202 10017 1101 1005 zzzd 14010 07039 zzz7 150a zzz56 1708 zzz58 16022 zzze 160a zzz6",
   "0909 zzz1 0902d zzz1 090e zzza 0901d zzz3 09020 zzz2 09016 zzz1 090e zzz49 1007 zzz1 1002",
   "zzz1 1002c zzz3 1001 zzz1 1002 zzz1 1009 zzz8 100a zzz6 1106 zzz1 1102 zzz1 11025 zzz1 1102",
   "zzz1 1106 zzz7 110a zzz6 1702c zzz4 170a zzzf6 11019 zzz7 15011 zzz1 15029 zzz3 1501c 1601",
   "zzz55 1301 zzzf 12032 zzzd 1201 05036f 0702a 0801 zzz66 05063 070c zzz1 0504 0701 zzzb 080c4",
   "zzza4c 14063 zzzd 05242f 1501 1209 1501d zzza 160f9b zzz5 080247 zzz1ab9 1603a zzz6c6 060239",
   "zzz7 0701f zzz1 070a zzz4 0702 1404f zzz1 140a zzz6 0701e zzz2 0706 zzza 07046 zzza 070a zzz1",
   "0707 zzz1 07015 zzz5 07013 zzz1b0 1603a zzzc6 1105b zzz5 17019 zzz2 17019 zzz2c 06145 1206",
   "zzz4 1201 0612f 1209 zzz7 06111 zzz40 0901 1001 1202 1301 zzzb 1302 1705 zzz9 09017ed 1105",
   "1206 1708 0902f3 1301e3 zzz29 1601 1309 17016 zzz61 17073 zzz21fd 1404 zzz1 1407 zzz1 1402",
   "zzz1 0602 10011d 1404 zzzf 1501 zzz1d 1203 zzz2 1501 zzze 1204 zzz8 10018c zzz904 0706b zzz5",
   "070d zzz3 0709 zzz7 070a zzz2 0708 zzzf5c 160fa 1703 zzz3 1601b4 zzz6 17017 zzzf 17011 zzzf",
   "1402e zzz2 14017 zzz9 14074 zzz3c 031f6 zzza 03127 zzz2 0511 031b4 080b 1402 zzz15 04146",
   "zzz7a 15014 zzzc 11014 zzzc 04057 zzz9 05012 1107 zzz87 03155 zzz1 03147 zzz1 0312 zzz2 0311",
   "zzz2 0312 zzz2 0314 zzz1 031c zzz1 0311 zzz1 0314 0401 0312 zzz1 03141 zzz1 0314 zzz2 0318",
   "zzz1 0317 zzz1 0311c zzz1 0314 zzz1 0315 zzz1 0311 zzz3 0317 zzz1 031152 0412 zzz2 031122",
   "0502 zzz2 03132 08028c zzzf 0805 zzz1 080f zzz450 1401f zzz6 1506 zzzd5 0907 zzz1 09011 zzz2",
   "0907 zzz1 0902 zzz1 0905 zzz5 1503e zzz21 1501 zzz70 1202d zzz3 120e zzz2 120a zzz4 1202",
   "zzz140 1401f zzz11 1203a zzz5 1201 zzz1d0 1502a zzzd6 1602b zzz4 1601 zzzc0 1701f zzz1 17016",
   "zzz8 1702 zzze0 1407 zzz1 1404 zzz1 1402 zzz1 140f zzz1 070c5 zzz2 07010 zzz29 0904b 1201",
   "zzz4 090a zzz4 0902 zzz311 11044 zzz4c 1203d zzzc2 0614 zzz1 0611b zzz1 0612 zzz1 0611 zzz2",
   "0611 zzz1 061a zzz1 0614 zzz1 0611 zzz1 0611 zzz6 0611 zzz4 0611 zzz1 0611 zzz1 0611 zzz1",
   "0613 zzz1 0612 zzz1 0611 zzz2 0611 zzz1 0611 zzz1 0611 zzz1 0611 zzz1 0611 zzz1 0612 zzz1",
   "0611 zzz2 0614 zzz1 0617 zzz1 0614 zzz1 0614 zzz1 0611 zzz1 061a zzz1 06111 zzz5 0613 zzz1",
   "0615 zzz1 06111 zzz34 0612 zzz10e 0512c zzz4 05164 zzzc 060f zzz2 060e 0701 zzz1 060f zzz1",
   "060f 07016 zzza 052b 0702 1303 0521f 1101 0601 0521 060b 0521 0601 0521 0602 0521 0603 0521",
   "0603 0525 0608 0521 0607 0521 060a 0612 1201 1303 0609 0521 0601 0522 0602 0521 060a 0524",
   "0602 0521 060a 09012 1301 zzz38 0601a 0521 0602 zzzd 05222 0609 0901 zzz4 0529 zzz7 0602 zzze",
   "1006 zzz9a 06021 070c 0803 0606 0701 06046 0701 0802 06014 070c 06025 0701 0605 0704 0805",
   "070c 06011 0707 0808 0603f 0701 0601 0701 060b6 0701 0604 0702 0801 0603e 0702 0614 0707 0805",
   "06018 07012 0901 07029 0901 07056 0605 0611 06010 0611 0603 0611 0601 0611 0601 0611 0601",
   "0611 0603 0611 0606 0612 0604 0611 0601 0612 0604 0611 060c 0702 0802 060b 07030 06046 070a",
   "0801 0902 1002 1201 1302 1701 zzz3 1501 1403 070d zzz3 0704 0903 1002 1101 1201 1302 zzz3",
   "06074 1503 1704 1505 07055 1104 1501 zzz6 120c zzz4 1401 zzzf 070c zzz4 07038 zzz8 070a zzz6",
   "07028 zzz8 0701e zzz2 1302 160a zzz4 1602 zzze 1709 zzz27 100c 1301 1203 0809 0906 1001 0908",
   "1008 0901 1002 090c 1201 090c 1001 1103 090f 100d 1105 1201 1301 1104 1302 1401 1101 1201",
   "1104 0805 090d 1006 110b 1302 1206 1303 1202 110a 1206 0801 1102 1208 1301 1401 1203 10017",
   "11019 12054 1704 zzz8 110e zzz2 1204 1301 1503 1203 1402 zzz3 1203 1304 1502 1601 1701 zzz3",
   "1701 1601 1206 13013 1404 1503 1307 1404 1503 1601 1501 1303 1403 1601 zzz1 1701 zzz4 1701",
   "1502 1307 1403 1502 1601 zzz2 1601 1408 1501 1601 1701 zzz4 1701 1407 1502 zzz7 13093 zzz1",
   "13037 16025 130a 1601 zzz403 0202 031a6d7 1307 1402 zzz20 0521035 1404 1501 1706 060de zzz2",
   "0801682 170c zzz2 1001d31 zzzf 15126e zzz9a2 03121e zzz5e0 0202 130134b zzz5 1501060 17010ca",
   "zzzcb84 0202 zzzfffe 0202 zzzfffe 0202 zzzfffe 0202 zzzfffe 0202 zzzfffe 0202 zzzfffe 0202",
   "zzzfffe 0202 zzzfffe 0202 zzzfffe 0202 zzzfffe 0202 zzz1 0311 zzz1e 03160 zzz80 040f0 zzzfe0e",
   "02020002"]

/-- The code points by the version in which they were assigned. -/
def ageRuns : List Run := unpackRuns 3 packedAges

/-- The ways to write a version: with a point between its numbers, or with a letter in front. -/
private def versionNames (label : String) : List String :=
  let digits := label.toList.dropWhile (· = '0')
  [String.ofList (digits.dropLast ++ '.' :: digits.drop (digits.length - 1)),
    String.ofList ('v' :: digits)]

private def ageLabel? (name : String) : Option String :=
  (ageRuns.find? fun r => r.label ≠ "zzz" && (versionNames r.label).contains name).map (·.label)

/-- The code points that were assigned in a version or before it. -/
def age? (name : String) : Option CharSet :=
  (ageLabel? name).map fun label => runsWhere (fun l => l ≤ label && l ≠ "zzz") ageRuns

end CpuPinning.Unicode
