import CpuPinning.Unicode.Run

/-!
# Text segmentation

The classes that the rules for grapheme, word and sentence boundaries tell apart.  Hangul
syllables alternate: every twenty-eighth is a syllable of two letters, the others have
three.
-/

namespace CpuPinning.Unicode

private def packedGraphemeClasses : List String :=
  ["CNa LF1 CN2 CR1 CN12 XX5f CN21 XXd CN1 XX252 EX70 XX113 EX7 XX107 EX2d XX1 EX1 XX1 EX2 XX1",
   "EX2 XX1 EX1 XX38 PP6 XXa EXb XX1 CN1 XX2e EX15 XX10 EX1 XX65 EX7 PP1 XX1 EX6 XX2 EX2 XX1 EX4",
   "XX21 PP1 XX1 EX1 XX1e EX1b XX5b EXb XX3a EX9 XX9 EX1 XX18 EX4 XX1 EX9 XX1 EX3 XX1 EX5 XX2b",
   "EX3 XX34 PP2 XX5 EX9 XX2a EX18 PP1 EX20 SM1 XX36 EX1 SM1 EX1 XX1 SM3 EX8 SM4 EX1 SM2 XX1 EX7",
   "XXa EX2 XX1d EX1 SM2 XX38 EX1 XX1 EX1 SM2 EX4 XX2 SM2 XX2 SM2 EX1 XX9 EX1 XXa EX2 XX1a EX1",
   "XX2 EX2 SM1 XX38 EX1 XX1 SM3 EX2 XX4 EX2 XX2 EX3 XX3 EX1 XX1e EX2 XX3 EX1 XXb EX2 SM1 XX38",
   "EX1 XX1 SM3 EX5 XX1 EX2 SM1 XX1 SM2 EX1 XX14 EX2 XX16 EX6 XX1 EX1 SM2 XX38 EX1 XX1 EX2 SM1",
   "EX4 XX2 SM2 XX2 SM2 EX1 XX7 EX3 XXa EX2 XX1e EX1 XX3b EX1 SM1 EX1 SM2 XX3 SM3 XX1 SM3 EX1 XX9",
   "EX1 XX28 EX1 SM3 EX1 XX37 EX1 XX1 EX3 SM4 XX1 EX3 XX1 EX4 XX7 EX2 XXb EX2 XX1d EX1 SM2 XX38",
   "EX1 XX1 SM1 EX1 SM2 EX1 SM2 XX1 EX1 SM2 XX1 SM2 EX2 XX7 EX2 XXb EX2 XXf SM1 XXc EX2 SM2 XX37",
   "EX2 XX1 EX1 SM2 EX4 XX1 SM3 XX1 SM3 EX1 PP1 XX8 EX1 XXa EX2 XX1d EX1 SM2 XX46 EX1 XX4 EX1 SM2",
   "EX3 XX1 EX1 XX1 SM7 EX1 XX12 SM2 XX3d EX1 XX1 SM1 EX7 XXc EX8 XX62 EX1 XX1 SM1 EX9 XXb EX7",
   "XX49 EX2 XX1b EX1 XX1 EX1 XX1 EX1 XX4 SM2 XX31 EXe SM1 EX5 XX1 EX2 XX5 EXb XX1 EX24 XX9 EX1",
   "XX66 EX4 SM1 EX6 XX1 EX2 SM2 EX2 XX17 SM2 EX2 XX4 EX3 XX10 EX4 XXd EX1 XX1 SM1 EX2 XX6 EX1",
   "XXf EX1 XX62 Lj60 Vj48 Tj58 XX15d EX3 XX3b2 EX3 SM1 XX1c EX2 SM1 XX1d EX2 XX1e EX2 XX40 EX2",
   "SM1 EX7 SM8 EX1 SM2 EXb XX9 EX1 XX2d EX3 CN1 EX1 XX75 EX2 XX22 EX1 XX76 EX3 SM4 EX2 SM3 XX4",
   "SM2 EX1 SM6 EX3 XXdb EX2 SM2 EX1 XX39 SM1 EX1 SM1 EX7 XX1 EX1 XX1 EX1 XX2 EX8 SM6 EXa XX2 EX1",
   "XX30 EX2e XX2 EXc XX14 EX4 SM1 XX2f EX7 SM1 EX1 SM5 EX1 SM2 XX26 EX9 XXc EX2 SM1 XX1e SM1 EX4",
   "SM2 EX2 SM1 EX3 XX38 EX1 SM1 EX2 SM3 EX1 SM1 EX3 SM2 XX30 SM8 EX8 SM2 EX2 XX98 EX3 XX1 EXd",
   "SM1 EX7 XX4 EX1 XX6 EX1 XX2 SM1 EX2 XXc6 EX40 XX20b CN1 EX1 ZW1 CN2 XX18 CN7 XX31 CN10 XX60",
   "EX21 XXbfe EX3 XX8d EX1 XX60 EX20 XX22a EX6 XX69 EX2 XX75d4 EX4 XX1 EXa XX20 EX2 XX50 EX2",
   "XX110 EX1 XX3 EX1 XX4 EX1 XX17 SM2 EX2 SM1 XX4 EX1 XX53 SM2 XX32 SM10 EX2 XX1a EX12 XXd EX1",
   "XX26 EX8 XX19 EXb SM2 XXc Lj1d XX3 EX3 SM1 XX2f EX1 SM2 EX4 SM2 EX2 SM3 XX24 EX1 XX43 EX6 SM2",
   "EX2 SM2 EX2 XXc EX1 XX8 EX1 SM1 XX2e EX1 XX33 EX1 XX1 EX3 XX2 EX2 XX5 EX2 XX1 EX1 XX29 SM1",
   "EX2 SM2 XX5 SM1 EX1 XXec SM2 EX1 SM2 EX1 SM2 XX1 SM1 EX1 XX12 HS2ba4 XXc Vj17 XX4 Tj31 XX2322",
   "EX1 XX2e1 EX10 XX10 EX10 XXcf CN1 XX9e EX2 XX50 CNc XX201 EX1 XXe2 EX1 XX95 EX5 XX686 EX3 XX1",
   "EX2 XX5 EX4 XX28 EX3 XX4 EX1 XXa5 EX2 XX23d EX4 XX41 EX5 XX13d EX2 XX4d EX6 XX46 EXb XX31 EX4",
   "XX7a SM1 EX1 SM1 XX35 EXf XX29 EX1 XX2 EX2 XXa EX3 SM1 XX2d SM3 EX4 SM2 EX2 XX2 PP1 XX4 EX1",
   "XXa PP1 XX32 EX3 XX24 EX5 SM1 EX8 XX10 SM2 XX2c EX1 XXc EX2 SM1 XX30 SM3 EX9 SM2 XX1 PP2 XX5",
   "EX4 XX1 SM1 EX1 XX5c SM3 EX3 SM2 EX1 SM1 EX2 XX6 EX1 XX2 EX1 XX9d EX1 SM3 EX8 XX15 EX2 SM2",
   "XX37 EX2 XX1 EX1 SM1 EX1 SM4 XX2 SM2 XX2 SM3 XX9 EX1 XXa SM2 XX2 EX7 XX3 EX5 XX43 EX1 SM2 EX6",
   "XX1 EX1 XX2 EX1 XX1 EX3 SM1 XX1 SM2 EX3 XX1 EX1 XXe EX2 XX52 SM3 EX8 SM2 EX3 SM1 EX1 XX17 EX1",
   "XX51 EX1 SM2 EX6 SM1 EX1 SM2 EX1 SM1 EX2 SM1 EX2 XXeb EX1 SM2 EX4 XX2 SM4 EX2 SM1 EX2 XX1b",
   "EX2 XX52 SM3 EX8 SM2 EX1 SM1 EX2 XX6a EX1 SM1 EX1 SM2 EX6 SM1 EX1 XX65 EX3 XX2 EX4 SM1 EX5",
   "XX100 SM3 EX9 SM1 EX2 XXf5 EX1 SM5 XX1 SM2 XX2 EX2 SM1 EX1 PP1 SM1 PP1 SM1 EX1 XX8d SM3 EX4",
   "XX2 EX2 SM4 EX1 XX3 SM1 XX1c EXa XX28 EX6 SM1 PP1 EX4 XX8 EX1 XX9 EX6 SM2 EX3 XX28 PP6 EXd",
   "SM1 EX2 XXc6 EX1 SM1 EX3 SM1 EX1 SM1 XXc7 SM1 EX7 XX1 EX6 SM1 EX1 XX52 EX16 XX1 SM1 EX7 SM1",
   "EX2 SM1 EX2 XX7a EX6 XX3 EX1 XX1 EX2 XX1 EX7 PP1 EX1 XX42 SM5 XX1 EX2 XX1 SM2 EX1 SM1 EX1",
   "XX15b EX2 SM2 XX9 EX2 PP1 SM1 XX30 SM2 EX5 XX3 SM2 EX1 SM1 EX1 XX17 EX1 XX14d5 CN10 EX1 XX6",
   "EXf XX2cc8 EXc SM3 EX3 XX9c0 EX5 XX3b EX7 XX418 EX1 XX1 SM37 XX7 EX4 XX51 EX1 XXb SM2 XX4cab",
   "EX2 XX1 CN4 XX125c EX2e XX2 EX17 XX21e EX1 SM1 EX3 XX3 SM1 EX5 CN8 EX8 XX2 EX7 XX1e EX4 XX94",
   "EX3 XX7bb EX37 XX4 EX32 XX8 EX1 XXe EX1 XX16 EX5 XX1 EXf XX550 EX7 XX1 EX11 XX2 EX7 XX1 EX2",
   "XX1 EX5 XX64 EX1 XXa0 EX7 XX177 EX1 XX3d EX4 XX1fc EX4 XXfe EX2 XXf3 EX1 XX2 EX1 XX7 EX2 XX5",
   "EX1 XX1da EX7 XX6d EX7 XX89b RI1a XX1fb EX5 XXc0c00 CN20 EX60 CN80 EXf0 CNe10 XX2f000"]

private def packedWordClasses : List String :=
  ["XXa LF1 NL2 CR1 XX12 WS1 XX1 DQ1 XX4 SQ1 XX4 MN1 XX1 MB1 XX1 NUa ML1 MN1 XX5 AL1a XX4 EN1 XX1",
   "AL1a XXa NL1 XX24 AL1 XX2 FO1 XX7 AL1 XX1 ML1 XX2 AL1 XX5 AL17 XX1 AL1f XX1 AL1e0 XX6 AL22",
   "EX70 AL5 XX1 AL2 XX2 AL4 MN1 AL1 XX6 AL1 ML1 AL3 XX1 AL1 XX1 AL14 XX1 AL53 XX1 AL8b XX1 EX7",
   "ALa6 XX1 AL26 XX2 AL4 XX1 AL1 ML1 AL29 MN1 AL1 XX6 EX2d XX1 EX1 XX1 EX2 XX1 EX2 XX1 EX1 XX8",
   "HL1b XX4 HL4 AL1 ML1 XXb FO6 XX6 MN2 XX2 EXb XX1 FO1 XX3 AL2b EX15 NUa XX1 NU1 MN1 XX1 AL2",
   "EX1 AL63 XX1 AL1 EX7 FO1 XX1 EX6 AL2 EX2 XX1 EX4 AL2 NUa AL3 XX2 AL1 XXf FO1 AL1 EX1 AL1e",
   "EX1b XX2 AL59 EXb AL1 XXe NUa AL21 EX9 AL2 XX2 MN1 XX1 AL1 XX2 EX1 XX2 AL16 EX4 AL1 EX9 AL1",
   "EX3 AL1 EX5 XX12 AL19 EX3 XX4 ALb XX5 AL18 XX1 AL7 FO2 XX5 EX9 AL2a EX18 FO1 EX21 AL36 EX3",
   "AL1 EX12 AL1 EX7 ALa EX2 XX2 NUa XX1 AL10 EX3 XX1 AL8 XX2 AL2 XX2 AL16 XX1 AL7 XX1 AL1 XX3",
   "AL4 XX2 EX1 AL1 EX7 XX2 EX2 XX2 EX3 AL1 XX8 EX1 XX4 AL2 XX1 AL3 EX2 XX2 NUa AL2 XXa AL1 XX1",
   "EX1 XX2 EX3 XX1 AL6 XX4 AL2 XX2 AL16 XX1 AL7 XX1 AL2 XX1 AL2 XX1 AL2 XX2 EX1 XX1 EX5 XX4 EX2",
   "XX2 EX3 XX3 EX1 XX7 AL4 XX1 AL1 XX7 NUa EX2 AL3 EX1 XXb EX3 XX1 AL9 XX1 AL3 XX1 AL16 XX1 AL7",
   "XX1 AL2 XX1 AL5 XX2 EX1 AL1 EX8 XX1 EX3 XX1 EX3 XX2 AL1 XXf AL2 EX2 XX2 NUa XX9 AL1 EX6 XX1",
   "EX3 XX1 AL8 XX2 AL2 XX2 AL16 XX1 AL7 XX1 AL2 XX1 AL5 XX2 EX1 AL1 EX7 XX2 EX2 XX2 EX3 XX7 EX3",
   "XX4 AL2 XX1 AL3 EX2 XX2 NUa XX1 AL1 XX10 EX1 AL1 XX1 AL6 XX3 AL3 XX1 AL4 XX3 AL2 XX1 AL1 XX1",
   "AL2 XX3 AL2 XX3 AL3 XX3 ALc XX4 EX5 XX3 EX3 XX1 EX4 XX2 AL1 XX6 EX1 XXe NUa XX10 EX5 AL8 XX1",
   "AL3 XX1 AL17 XX1 AL10 XX2 EX1 AL1 EX7 XX1 EX3 XX1 EX4 XX7 EX2 XX1 AL3 XX1 AL2 XX2 AL2 EX2 XX2",
   "NUa XX10 AL1 EX3 XX1 AL8 XX1 AL3 XX1 AL17 XX1 ALa XX1 AL5 XX2 EX1 AL1 EX7 XX1 EX3 XX1 EX4 XX7",
   "EX2 XX5 AL3 XX1 AL2 EX2 XX2 NUa XX1 AL2 EX1 XXc EX4 AL9 XX1 AL3 XX1 AL29 EX2 AL1 EX7 XX1 EX3",
   "XX1 EX4 AL1 XX5 AL3 EX1 XX7 AL3 EX2 XX2 NUa XXa AL6 XX1 EX3 XX1 AL12 XX3 AL18 XX1 AL9 XX1 AL1",
   "XX2 AL7 XX3 EX1 XX4 EX6 XX1 EX1 XX1 EX8 XX6 NUa XX2 EX2 XX3d EX1 XX2 EX7 XXc EX8 XX1 NUa XX57",
   "EX1 XX2 EX9 XXb EX7 XX1 NUa XX26 AL1 XX17 EX2 XX6 NUa XXb EX1 XX1 EX1 XX1 EX1 XX4 EX2 AL8 XX1",
   "AL24 XX4 EX14 XX1 EX2 AL5 EXb XX1 EX24 XX9 EX1 XX64 EX14 XX1 NUa XXc EX4 XX4 EX3 XX1 EX3 XX2",
   "EX7 XX3 EX4 XXd EXc XX1 EX1 NUa EX4 XX2 AL26 XX1 AL1 XX5 AL1 XX2 AL2b XX1 AL14d XX1 AL4 XX2",
   "AL7 XX1 AL1 XX1 AL4 XX2 AL29 XX1 AL4 XX2 AL21 XX1 AL4 XX2 AL7 XX1 AL1 XX1 AL4 XX2 ALf XX1",
   "AL39 XX1 AL4 XX2 AL43 XX2 EX3 XX20 AL10 XX10 AL56 XX2 AL6 XX3 AL26c XX2 AL11 WS1 AL1a XX5",
   "AL4b XX3 ALb XX7 AL12 EX4 XX9 AL13 EX3 XXb AL12 EX2 XXc ALd XX1 AL3 XX1 EX2 XX40 EX20 XX9 EX1",
   "XX2 NUa XX21 EX3 FO1 EX1 NUa XX6 AL59 XX7 AL5 EX2 AL22 EX1 AL1 XX5 AL46 XXa AL1f XX1 EXc XX4",
   "EXc XXa NUa XX80 NUa XX26 AL17 EX5 XX39 EXa XX1 EX1d XX2 EX1 NUa XX6 NUa XX16 EX2e XX2 EXc",
   "XX14 EX5 AL2f EX11 AL8 XX3 NUa XX11 EX9 XXc EX3 AL1e EXd AL2 NUa AL2c EXe XXc AL24 EX14 XX8",
   "NUa XX3 AL3 NUa AL24 XX2 ALb XX5 AL2b XX2 AL3 XX10 EX3 XX1 EX15 AL4 EX1 AL6 EX1 AL2 EX3 AL1",
   "XX5 ALc0 EX40 AL116 XX2 AL6 XX2 AL26 XX2 AL6 XX2 AL8 XX1 AL1 XX1 AL1 XX1 AL1 XX1 AL1f XX2",
   "AL35 XX1 AL7 XX1 AL1 XX3 AL3 XX1 AL7 XX3 AL4 XX2 AL6 XX4 ALd XX5 AL3 XX1 AL7 XX3 WS7 XX1 WS3",
   "XX1 EX1 ZW1 FO2 XX8 MB2 XXa MB1 XX2 ML1 NL2 FO5 EN1 XXf EN2 XX3 MN1 XXf EN1 XXa WS1 FO5 XX1",
   "FOa XX1 AL1 XXd AL1 XX10 ALd XX33 EX21 XX11 AL1 XX4 AL1 XX2 ALa XX1 AL1 XX3 AL5 XX6 AL1 XX1",
   "AL1 XX1 AL1 XX1 AL4 XX1 ALb XX2 AL4 XX5 AL5 XX4 AL1 XX11 AL29 XX32d AL34 XX716 ALe5 XX6 AL4",
   "EX3 AL2 XXc AL26 XX1 AL1 XX5 AL1 XX2 AL38 XX7 AL1 XXf EX1 AL17 XX9 AL7 XX1 AL7 XX1 AL7 XX1",
   "AL7 XX1 AL7 XX1 AL7 XX1 AL7 XX1 AL7 XX1 EX20 XX2f AL1 XX1d0 WS1 XX4 AL1 XX24 EX6 XX1 KA5 XX5",
   "AL2 XX5c EX2 KA2 XX3 KA5b XX1 KA4 XX5 AL2b XX1 AL5e XX11 AL20 XX30 KA10 XXd0 KA2f XX1 KA58",
   "XX6ca8 AL48d XX43 AL2e XX2 AL10d XX3 AL10 NUa AL2 XX14 AL2f EX4 XX1 EXa XX1 AL1f EX2 AL50 EX2",
   "XX16 ALd5 XX14 AL11 EX1 AL3 EX1 AL4 EX1 AL17 EX5 XX4 EX1 XX13 AL34 XXc EX2 AL32 EX12 XXa NUa",
   "XX6 EX12 AL6 XX3 AL1 XX1 AL2 EX1 NUa AL1c EX8 XX2 AL17 EXd XXc AL1d XX3 EX4 AL2f EXe XXe AL1",
   "NUa XXb EX1 XXa NUa XX6 AL29 EXe XX9 AL3 EX1 AL8 EX2 XX2 NUa XX21 EX3 XX32 EX1 XX1 EX3 XX2",
   "EX2 XX5 EX2 XX1 EX1 XX1e ALb EX5 XX2 AL3 EX2 XXa AL6 XX2 AL6 XX2 AL6 XX9 AL7 XX1 AL7 XX1 AL3a",
   "XX6 AL73 EX8 XX1 EX2 XX2 NUa XX6 AL2ba4 XXc AL17 XX4 AL31 XX2304 AL7 XXc AL5 XX5 HL1 EX1 HLa",
   "XX1 HLd XX1 HL5 XX1 HL1 XX1 HL2 XX1 HL2 XX1 HLa AL62 XX21 AL16b XX12 AL40 XX2 AL36 XX28 ALc",
   "XX4 EX10 MN1 XX2 ML1 MN1 XXb EX10 XX3 EN2 XX18 EN3 MN1 XX1 MB1 XX1 MN1 ML1 XX1a AL5 XX1 AL87",
   "XX2 FO1 XX7 MB1 XX4 MN1 XX1 MB1 XX1 NUa ML1 MN1 XX5 AL1a XX4 EN1 XX1 AL1a XXb KA38 EX2 AL1f",
   "XX3 AL6 XX2 AL6 XX2 AL6 XX2 AL3 XX1c FO3 XX4 ALc XX1 AL1a XX1 AL13 XX1 AL2 XX1 ALf XX2 ALe",
   "XX22 AL7b XX45 AL35 XX88 EX1 XX82 AL1d XX3 AL31 XXf EX1 XX1f AL20 XXd AL1e XX5 AL26 EX5 XX5",
   "AL1e XX2 AL24 XX4 AL8 XX1 AL5 XX2a AL9e XX2 NUa XX6 AL24 XX4 AL24 XX4 AL28 XX8 AL34 XXc ALb",
   "XX1 ALf XX1 AL7 XX1 AL2 XX1 ALb XX1 ALf XX1 AL7 XX1 AL2 XX3 AL34 XXc AL137 XX9 AL16 XXa AL8",
   "XX18 AL6 XX1 AL2a XX1 AL9 XX45 AL6 XX2 AL1 XX1 AL2c XX1 AL2 XX3 AL1 XX2 AL17 XXa AL17 XX9",
   "AL1f XX41 AL13 XX1 AL2 XXa AL16 XXa AL1a XX6 AL1a XX26 AL38 XX6 AL2 XX40 AL1 EX3 XX1 EX2 XX5",
   "EX4 AL4 XX1 AL3 XX1 AL1d XX2 EX3 XX4 EX1 XX20 AL1d XX3 AL1d XX23 AL8 XX1 AL1c EX2 XX19 AL36",
   "XXa AL16 XXa AL13 XXd AL12 XX6e AL49 XX37 AL33 XXd AL33 XXd AL24 EX4 XX8 NUa XX6 NUa AL1c XX3",
   "EX5 XX1 AL17 XXfa AL2a XX1 EX2 XX3 AL2 XX10 AL6 XX32 EX6 AL1d XXa AL1 XX8 AL16 EXb XX1f AL12",
   "EX4 XX2a AL15 XX1b AL17 XX9 EX3 AL35 EXf XX1f NUa EX1 AL2 EX2 AL1 XX9 EX4 AL2d EXb XX2 FO1",
   "XX4 EX1 XXa FO1 XX2 AL19 XX7 NUa XX6 EX3 AL24 EXe XX1 NUa XX4 AL1 EX2 AL1 XX8 AL23 EX1 XX2",
   "AL1 XX9 EX3 AL30 EXe AL4 XX4 EX4 XX1 EX2 NUa AL1 XX1 AL1 XX23 AL12 XX1 AL19 EXc XX6 EX1 AL2",
   "EX1 XX3e AL7 XX1 AL1 XX1 AL4 XX1 ALf XX1 ALa XX7 AL2f EXc XX5 NUa XX6 EX4 XX1 AL8 XX2 AL2 XX2",
   "AL16 XX1 AL7 XX1 AL2 XX1 AL5 XX1 EX2 AL1 EX7 XX2 EX2 XX2 EX3 XX2 AL1 XX6 EX1 XX5 AL5 EX2 XX2",
   "EX7 XX3 EX5 XXb ALa XX1 AL1 XX2 AL1 XX1 AL26 XX1 AL1 EX9 XX1 EX1 XX2 EX1 XX1 EX4 XX1 EX5 AL1",
   "EX1 AL1 XXd EX2 XX1d AL35 EX12 AL4 XX5 NUa XX4 EX1 AL3 XX1e AL30 EX14 AL2 XX1 AL1 XX8 NUa",
   "XXa6 AL2f EX7 XX2 EX9 XX17 AL4 EX2 XX22 AL30 EX11 XX3 AL1 XXb NUa XX26 AL2b EXd AL1 XX7 NUa",
   "XX6 NU14 XX39 EXf XX4 NUa XXc6 AL2c EXf XX65 AL40 NUa XX15 AL8 XX2 AL1 XX2 AL8 XX1 AL2 XX1",
   "AL18 EX6 XX1 EX2 XX2 EX4 AL1 EX1 AL1 EX2 XXc NUa XX46 AL8 XX2 AL27 EX7 XX2 EX7 AL1 XX1 AL1",
   "EX1 XX1b AL1 EXa AL28 EX7 AL1 EX4 XX8 EX1 XX8 AL1 EXb AL2e EX10 XX3 AL1 XX12 AL49 XX67 EX8",
   "XX58 AL21 XXf NUa XX6 AL9 XX1 AL25 EX8 XX1 EX8 AL1 XXf NUa XX18 AL1e XX2 EX16 XX1 EXe XX49",
   "AL7 XX1 AL2 XX1 AL26 EX6 XX3 EX1 XX1 EX2 XX1 EX7 AL1 EX1 XX8 NUa XX6 AL6 XX1 AL2 XX1 AL20 EX5",
   "XX1 EX2 XX1 EX5 AL1 XX7 NUa XX6 AL2c XX4 NUa XXf6 AL13 EX4 XX9 EX2 AL1 EX1 ALd XX1 AL22 EX7",
   "XX3 EX5 XXd NUa EX1 XX55 AL1 XX4f AL39a XX66 AL6f XX11 ALc4 XXa4c AL61 XXf AL430 FO10 EX1 AL6",
   "EXf XXa ALf9b XX5 AL247 XX1ab9 AL1e EX12 NUa XX6c6 AL239 XX7 AL1f XX1 NUa XX6 AL4f XX1 NUa",
   "XX6 AL1e XX2 EX5 XXb AL30 EX7 XX9 AL4 XXc NUa XX9 AL15 XX5 AL13 XX1b0 AL2d XX3 NUa XXc6 AL40",
   "XX20 AL19 XX2 AL19 XX2c AL4b XX4 EX1 AL1 EX37 XX7 EX4 ALd XX40 AL2 XX1 AL1 EX1 XXb EX2 XX3ffe",
   "KA4 XX1 KA7 XX1 KA2 XX1 KA1 XX11f KA3 XX32 KA1 XXe KA4 XXa98 AL6b XX5 ALd XX3 AL9 XX7 ALa XX3",
   "EX2 XX1 FO4 XX104c NUa XX206 EX2e XX2 EX17 XX21e EX5 XX3 EX6 FO8 EX8 XX2 EX7 XX1e EX4 XX94",
   "EX3 XX1bb AL55 XX1 AL47 XX1 AL2 XX2 AL1 XX2 AL2 XX2 AL4 XX1 ALc XX1 AL1 XX1 AL7 XX1 AL41 XX1",
   "AL4 XX2 AL8 XX1 AL7 XX1 AL1c XX1 AL4 XX1 AL5 XX1 AL1 XX3 AL7 XX1 AL154 XX2 AL19 XX1 AL19 XX1",
   "AL1f XX1 AL19 XX1 AL1f XX1 AL19 XX1 AL1f XX1 AL19 XX1 AL1f XX1 AL19 XX1 AL8 XX2 NU32 XX200",
   "EX37 XX4 EX32 XX8 EX1 XXe EX1 XX16 EX5 XX1 EXf XX450 AL1f XX6 AL6 XXd5 EX7 XX1 EX11 XX2 EX7",
   "XX1 EX2 XX1 EX5 XX5 AL3e XX21 EX1 XX70 AL2d XX3 EX7 AL7 XX2 NUa XX4 AL1 XX141 AL1e EX1 XX11",
   "AL2c EX4 NUa XX1d6 AL1c EX4 NUa XXd6 AL1e EX2 AL1 NUa XXc5 AL1f XX1 AL3 EX1 AL2 EX1 AL7 EX2",
   "AL5 EX1 XX8 AL2 XXe0 AL7 XX1 AL4 XX1 AL2 XX1 ALf XX1 ALc5 XXb EX7 XX29 AL44 EX7 AL1 XX4 NUa",
   "XX4a6 AL4 XX1 AL1b XX1 AL2 XX1 AL1 XX2 AL1 XX1 ALa XX1 AL4 XX1 AL1 XX1 AL1 XX6 AL1 XX4 AL1",
   "XX1 AL1 XX1 AL1 XX1 AL3 XX1 AL2 XX1 AL1 XX2 AL1 XX1 AL1 XX1 AL1 XX1 AL1 XX1 AL1 XX1 AL2 XX1",
   "AL1 XX2 AL4 XX1 AL7 XX1 AL4 XX1 AL4 XX1 AL1 XX1 ALa XX1 AL11 XX5 AL3 XX1 AL5 XX1 AL11 XX274",
   "AL1a XX6 AL1a XX6 AL1a XX5c RI1a XX1fb EX5 XX7f0 NUa XXc0407 FO1 XX1e EX60 XX80 EXf0 XX2fe10"]

private def packedSentenceClasses : List String :=
  ["XX9 SP1 LF1 SP2 CR1 XX12 SP1 ST1 CL1 XX4 CL3 XX2 SC2 AT1 XX1 NUa SC1 XX4 ST1 XX1 UP1a CL1 XX1",
   "CL1 XX3 LO1a CL1 XX1 CL1 XX7 SE1 XX1a SP1 XX9 LO1 CL1 XX1 FO1 XX7 LO1 XX4 LO1 CL1 XX4 UP17",
   "XX1 UP7 LO18 XX1 LO8 UP1 LO1 UP1 LO1 UP1 LO1 UP1 LO1 UP1 LO1 UP1 LO1 UP1 LO1 UP1 LO1 UP1 LO1",
   "UP1 LO1 UP1 LO1 UP1 LO1 UP1 LO1 UP1 LO1 UP1 LO1 UP1 LO1 UP1 LO1 UP1 LO1 UP1 LO1 UP1 LO1 UP1",
   "LO1 UP1 LO1 UP1 LO1 UP1 LO1 UP1 LO1 UP1 LO1 UP1 LO1 UP1 LO2 UP1 LO1 UP1 LO1 UP1 LO1 UP1 LO1",
   "UP1 LO1 UP1 LO1 UP1 LO1 UP1 LO2 UP1 LO1 UP1 LO1 UP1 LO1 UP1 LO1 UP1 LO1 UP1 LO1 UP1 LO1 UP1",
   "LO1 UP1 LO1 UP1 LO1 UP1 LO1 UP1 LO1 UP1 LO1 UP1 LO1 UP1 LO1 UP1 LO1 UP1 LO1 UP1 LO1 UP1 LO1",
   "UP1 LO1 UP1 LO1 UP1 LO1 UP1 LO1 UP2 LO1 UP1 LO1 UP1 LO3 UP2 LO1 UP1 LO1 UP2 LO1 UP3 LO2 UP4",
   "LO1 UP2 LO1 UP3 LO3 UP2 LO1 UP2 LO1 UP1 LO1 UP1 LO1 UP2 LO1 UP1 LO2 UP1 LO1 UP2 LO1 UP3 LO1",
   "UP1 LO1 UP2 LO2 LE1 UP1 LO3 LE4 UP2 LO1 UP2 LO1 UP2 LO1 UP1 LO1 UP1 LO1 UP1 LO1 UP1 LO1 UP1",
   "LO1 UP1 LO1 UP1 LO1 UP1 LO2 UP1 LO1 UP1 LO1 UP1 LO1 UP1 LO1 UP1 LO1 UP1 LO1 UP1 LO1 UP1 LO1",
   "UP1 LO2 UP2 LO1 UP1 LO1 UP3 LO1 UP1 LO1 UP1 LO1 UP1 LO1 UP1 LO1 UP1 LO1 UP1 LO1 UP1 LO1 UP1",
   "LO1 UP1 LO1 UP1 LO1 UP1 LO1 UP1 LO1 UP1 LO1 UP1 LO1 UP1 LO1 UP1 LO1 UP1 LO1 UP1 LO1 UP1 LO1",
   "UP1 LO1 UP1 LO1 UP1 LO1 UP1 LO1 UP1 LO1 UP1 LO1 UP1 LO1 UP1 LO1 UP1 LO1 UP1 LO7 UP2 LO1 UP2",
   "LO2 UP1 LO1 UP4 LO1 UP1 LO1 UP1 LO1 UP1 LO1 UP1 LO45 LE1 LO24 LE7 LO2 XX4 LEc XXe LO5 XX7 LE1",
   "XX1 LE1 XX11 EX70 UP1 LO1 UP1 LO1 LE1 XX1 UP1 LO1 XX2 LO4 XX1 UP1 XX6 UP1 XX1 UP3 XX1 UP1 XX1",
   "UP2 LO1 UP11 XX1 UP9 LO23 UP1 LO2 UP3 LO3 UP1 LO1 UP1 LO1 UP1 LO1 UP1 LO1 UP1 LO1 UP1 LO1 UP1",
   "LO1 UP1 LO1 UP1 LO1 UP1 LO1 UP1 LO1 UP1 LO5 UP1 LO1 XX1 UP1 LO1 UP2 LO2 UP33 LO30 UP1 LO1 UP1",
   "LO1 UP1 LO1 UP1 LO1 UP1 LO1 UP1 LO1 UP1 LO1 UP1 LO1 UP1 LO1 UP1 LO1 UP1 LO1 UP1 LO1 UP1 LO1",
   "UP1 LO1 UP1 LO1 UP1 LO1 UP1 LO1 XX1 EX7 UP1 LO1 UP1 LO1 UP1 LO1 UP1 LO1 UP1 LO1 UP1 LO1 UP1",
   "LO1 UP1 LO1 UP1 LO1 UP1 LO1 UP1 LO1 UP1 LO1 UP1 LO1 UP1 LO1 UP1 LO1 UP1 LO1 UP1 LO1 UP1 LO1",
   "UP1 LO1 UP1 LO1 UP1 LO1 UP1 LO1 UP1 LO1 UP1 LO1 UP1 LO1 UP1 LO1 UP1 LO1 UP2 LO1 UP1 LO1 UP1",
   "LO1 UP1 LO1 UP1 LO1 UP1 LO1 UP1 LO2 UP1 LO1 UP1 LO1 UP1 LO1 UP1 LO1 UP1 LO1 UP1 LO1 UP1 LO1",
   "UP1 LO1 UP1 LO1 UP1 LO1 UP1 LO1 UP1 LO1 UP1 LO1 UP1 LO1 UP1 LO1 UP1 LO1 UP1 LO1 UP1 LO1 UP1",
   "LO1 UP1 LO1 UP1 LO1 UP1 LO1 UP1 LO1 UP1 LO1 UP1 LO1 UP1 LO1 UP1 LO1 UP1 LO1 UP1 LO1 UP1 LO1",
   "UP1 LO1 UP1 LO1 UP1 LO1 UP1 LO1 UP1 LO1 UP1 LO1 UP1 LO1 UP1 LO1 UP1 LO1 UP1 LO1 UP1 LO1 UP1",
   "LO1 UP1 LO1 UP1 LO1 UP1 LO1 UP1 LO1 UP1 LO1 UP1 LO1 XX1 UP26 XX2 LE1 XX3 SC1 XX2 LO29 ST1 XX7",
   "EX2d XX1 EX1 XX1 EX2 XX1 EX2 XX1 EX1 XX8 LE1b XX4 LE5 XXc FO6 XX6 SC2 XX2 EXb XX1 FO1 ST3",
   "LE2b EX15 NUa XX1 NU2 XX1 LE2 EX1 LE63 ST1 LE1 EX7 FO1 XX1 EX6 LE2 EX2 XX1 EX4 LE2 NUa LE3",
   "XX2 LE1 ST3 XXc FO1 LE1 EX1 LE1e EX1b XX2 LE59 EXb LE1 XXe NUa LE21 EX9 LE2 XX2 SC1 ST1 LE1",
   "XX2 EX1 XX2 LE16 EX4 LE1 EX9 LE1 EX3 LE1 EX5 XX9 ST1 XX1 ST1 XX3 ST2 XX1 LE19 EX3 XX4 LEb XX5",
   "LE18 XX1 LE7 FO2 XX5 EX9 LE2a EX18 FO1 EX21 LE36 EX3 LE1 EX12 LE1 EX7 LEa EX2 ST2 NUa XX1",
   "LE10 EX3 XX1 LE8 XX2 LE2 XX2 LE16 XX1 LE7 XX1 LE1 XX3 LE4 XX2 EX1 LE1 EX7 XX2 EX2 XX2 EX3 LE1",
   "XX8 EX1 XX4 LE2 XX1 LE3 EX2 XX2 NUa LE2 XXa LE1 XX1 EX1 XX2 EX3 XX1 LE6 XX4 LE2 XX2 LE16 XX1",
   "LE7 XX1 LE2 XX1 LE2 XX1 LE2 XX2 EX1 XX1 EX5 XX4 EX2 XX2 EX3 XX3 EX1 XX7 LE4 XX1 LE1 XX7 NUa",
   "EX2 LE3 EX1 XXb EX3 XX1 LE9 XX1 LE3 XX1 LE16 XX1 LE7 XX1 LE2 XX1 LE5 XX2 EX1 LE1 EX8 XX1 EX3",
   "XX1 EX3 XX2 LE1 XXf LE2 EX2 XX2 NUa XX9 LE1 EX6 XX1 EX3 XX1 LE8 XX2 LE2 XX2 LE16 XX1 LE7 XX1",
   "LE2 XX1 LE5 XX2 EX1 LE1 EX7 XX2 EX2 XX2 EX3 XX7 EX3 XX4 LE2 XX1 LE3 EX2 XX2 NUa XX1 LE1 XX10",
   "EX1 LE1 XX1 LE6 XX3 LE3 XX1 LE4 XX3 LE2 XX1 LE1 XX1 LE2 XX3 LE2 XX3 LE3 XX3 LEc XX4 EX5 XX3",
   "EX3 XX1 EX4 XX2 LE1 XX6 EX1 XXe NUa XX10 EX5 LE8 XX1 LE3 XX1 LE17 XX1 LE10 XX2 EX1 LE1 EX7",
   "XX1 EX3 XX1 EX4 XX7 EX2 XX1 LE3 XX1 LE2 XX2 LE2 EX2 XX2 NUa XX10 LE1 EX3 XX1 LE8 XX1 LE3 XX1",
   "LE17 XX1 LEa XX1 LE5 XX2 EX1 LE1 EX7 XX1 EX3 XX1 EX4 XX7 EX2 XX5 LE3 XX1 LE2 EX2 XX2 NUa XX1",
   "LE2 EX1 XXc EX4 LE9 XX1 LE3 XX1 LE29 EX2 LE1 EX7 XX1 EX3 XX1 EX4 LE1 XX5 LE3 EX1 XX7 LE3 EX2",
   "XX2 NUa XXa LE6 XX1 EX3 XX1 LE12 XX3 LE18 XX1 LE9 XX1 LE1 XX2 LE7 XX3 EX1 XX4 EX6 XX1 EX1 XX1",
   "EX8 XX6 NUa XX2 EX2 XXd LE30 EX1 LE2 EX7 XX5 LE7 EX8 XX1 NUa XX27 LE2 XX1 LE1 XX1 LE5 XX1",
   "LE18 XX1 LE1 XX1 LEa EX1 LE2 EX9 LE1 XX2 LE5 XX1 LE1 XX1 EX7 XX1 NUa XX2 LE4 XX20 LE1 XX17",
   "EX2 XX6 NUa XXb EX1 XX1 EX1 XX1 EX1 CL4 EX2 LE8 XX1 LE24 XX4 EX14 XX1 EX2 LE5 EXb XX1 EX24",
   "XX9 EX1 XX39 LE2b EX14 LE1 NUa ST2 XX4 LE6 EX4 LE4 EX3 LE1 EX3 LE2 EX7 LE3 EX4 LEd EXc LE1",
   "EX1 NUa EX4 XX2 UP26 XX1 UP1 XX5 UP1 XX2 LE2b XX1 LO1 LE14c XX1 LE4 XX2 LE7 XX1 LE1 XX1 LE4",
   "XX2 LE29 XX1 LE4 XX2 LE21 XX1 LE4 XX2 LE7 XX1 LE1 XX1 LE4 XX2 LEf XX1 LE39 XX1 LE4 XX2 LE43",
   "XX2 EX3 XX2 ST1 XX4 ST2 XX17 LE10 XX10 UP56 XX2 LO6 XX3 LE26c XX1 ST1 LE11 SP1 LE1a CL2 XX3",
   "LE4b XX3 LEb XX7 LE12 EX4 XX9 LE13 EX3 ST2 XX9 LE12 EX2 XXc LEd XX1 LE3 XX1 EX2 XXc LE34 EX20",
   "XX3 LE1 XX4 LE1 EX1 XX2 NUa XX18 SC1 ST1 XX4 SC1 ST1 XX1 EX3 FO1 EX1 NUa XX6 LE59 XX7 LE5 EX2",
   "LE22 EX1 LE1 XX5 LE46 XXa LE1f XX1 EXc XX4 EXc XX8 ST2 NUa LE1e XX2 LE5 XXb LE2c XX4 LE1a XX6",
   "NUa XX26 LE17 EX5 XX4 LE35 EXa XX1 EX1d XX2 EX1 NUa XX6 NUa XXd LE1 ST4 XX4 EX2e XX2 EXc XX14",
   "EX5 LE2f EX11 LE8 XX1 ST2 NUa ST2 XX2 ST2 XXb EX9 XX9 ST3 EX3 LE1e EXd LE2 NUa LE2c EXe XXc",
   "LE24 EX14 XX3 ST2 XX3 NUa XX3 LE3 NUa LE24 ST2 LO9 UP1 LO1 XX5 LE2b XX2 LE3 XX10 EX3 XX1 EX15",
   "LE4 EX1 LE6 EX1 LE2 EX3 LE1 XX5 LOc0 EX40 UP1 LO1 UP1 LO1 UP1 LO1 UP1 LO1 UP1 LO1 UP1 LO1 UP1",
   "LO1 UP1 LO1 UP1 LO1 UP1 LO1 UP1 LO1 UP1 LO1 UP1 LO1 UP1 LO1 UP1 LO1 UP1 LO1 UP1 LO1 UP1 LO1",
   "UP1 LO1 UP1 LO1 UP1 LO1 UP1 LO1 UP1 LO1 UP1 LO1 UP1 LO1 UP1 LO1 UP1 LO1 UP1 LO1 UP1 LO1 UP1",
   "LO1 UP1 LO1 UP1 LO1 UP1 LO1 UP1 LO1 UP1 LO1 UP1 LO1 UP1 LO1 UP1 LO1 UP1 LO1 UP1 LO1 UP1 LO1",
   "UP1 LO1 UP1 LO1 UP1 LO1 UP1 LO1 UP1 LO1 UP1 LO1 UP1 LO1 UP1 LO1 UP1 LO1 UP1 LO1 UP1 LO1 UP1",
   "LO1 UP1 LO1 UP1 LO1 UP1 LO1 UP1 LO1 UP1 LO1 UP1 LO1 UP1 LO1 UP1 LO1 UP1 LO1 UP1 LO1 UP1 LO1",
   "UP1 LO1 UP1 LO1 UP1 LO1 UP1 LO1 UP1 LO1 UP1 LO1 UP1 LO1 UP1 LO1 UP1 LO1 UP1 LO1 UP1 LO9 UP1",
   "LO1 UP1 LO1 UP1 LO1 UP1 LO1 UP1 LO1 UP1 LO1 UP1 LO1 UP1 LO1 UP1 LO1 UP1 LO1 UP1 LO1 UP1 LO1",
   "UP1 LO1 UP1 LO1 UP1 LO1 UP1 LO1 UP1 LO1 UP1 LO1 UP1 LO1 UP1 LO1 UP1 LO1 UP1 LO1 UP1 LO1 UP1",
   "LO1 UP1 LO1 UP1 LO1 UP1 LO1 UP1 LO1 UP1 LO1 UP1 LO1 UP1 LO1 UP1 LO1 UP1 LO1 UP1 LO1 UP1 LO1",
   "UP1 LO1 UP1 LO1 UP1 LO1 UP1 LO1 UP1 LO1 UP1 LO1 UP1 LO1 UP1 LO1 UP1 LO1 UP1 LO1 UP1 LO1 UP1",
   "LO1 UP1 LO1 UP1 LO9 UP8 LO6 XX2 UP6 XX2 LO8 UP8 LO8 UP8 LO6 XX2 UP6 XX2 LO8 XX1 UP1 XX1 UP1",
   "XX1 UP1 XX1 UP1 LO8 UP8 LOe XX2 LO8 UP8 LO8 UP8 LO8 UP8 LO5 XX1 LO2 UP5 XX1 LO1 XX3 LO3 XX1",
   "LO2 UP5 XX3 LO4 XX2 LO2 UP4 XX4 LO8 UP5 XX5 LO3 XX1 LO2 UP5 XX3 SPb FO1 EX2 FO2 XX3 SC2 XX3",
   "CL8 XX4 AT1 XX3 SE2 FO5 SP1 XX9 CL2 XX1 ST2 XX7 CL2 ST3 XX15 SP1 FO5 XX1 FOa XX1 LO1 XXb CL2",
   "LO1 XXd CL2 XX1 LOd XX33 EX21 XX11 UP1 XX4 UP1 XX2 LO1 UP3 LO2 UP3 LO1 XX1 UP1 XX3 UP5 XX6",
   "UP1 XX1 UP1 XX1 UP1 XX1 UP4 XX1 LO1 UP4 LO1 LE4 LO1 XX2 LO2 UP2 XX5 UP1 LO4 XX4 LO1 XX11 UP10",
   "LO10 LE3 UP1 LO1 LE4 XX17f CL4 XX1d CL2 XX18b UP1a LO1a XX271 CL6 XX7 CLe XX4f CL2 XX1f CLa",
   "XX193 CL16 XX3f CL4 XX20 CL2 XX202 UP30 LO30 UP1 LO1 UP3 LO2 UP1 LO1 UP1 LO1 UP1 LO1 UP4 LO1",
   "UP1 LO2 UP1 LO8 UP3 LO1 UP1 LO1 UP1 LO1 UP1 LO1 UP1 LO1 UP1 LO1 UP1 LO1 UP1 LO1 UP1 LO1 UP1",
   "LO1 UP1 LO1 UP1 LO1 UP1 LO1 UP1 LO1 UP1 LO1 UP1 LO1 UP1 LO1 UP1 LO1 UP1 LO1 UP1 LO1 UP1 LO1",
   "UP1 LO1 UP1 LO1 UP1 LO1 UP1 LO1 UP1 LO1 UP1 LO1 UP1 LO1 UP1 LO1 UP1 LO1 UP1 LO1 UP1 LO1 UP1",
   "LO1 UP1 LO1 UP1 LO1 UP1 LO1 UP1 LO1 UP1 LO1 UP1 LO1 UP1 LO1 UP1 LO1 UP1 LO1 UP1 LO1 UP1 LO1",
   "UP1 LO1 UP1 LO1 UP1 LO1 UP1 LO1 UP1 LO1 UP1 LO2 XX6 UP1 LO1 UP1 LO1 EX3 UP1 LO1 XXc LO26 XX1",
   "LO1 XX5 LO1 XX2 LE38 XX7 LE1 XXf EX1 LE17 XX9 LE7 XX1 LE7 XX1 LE7 XX1 LE7 XX1 LE7 XX1 LE7 XX1",
   "LE7 XX1 LE7 XX1 EX20 CLe XXe CL2 XX2 CLa XX4 ST1 LE1 XXc ST1 XX5 CL1 XX10 ST2 CL8 XX1a3 SP1",
   "SC1 ST1 XX2 LE3 CLa XX2 CL8 XX1 CL3 XX1 LE9 EX6 XX1 LE5 XX2 LE5 XX4 LE56 XX2 EX2 XX2 LE3 XX1",
   "LE5a XX1 LE4 XX5 LE2b XX1 LE5e XX11 LE20 XX30 LE10 XX200 LE19c0 XX40 LE568d XX43 LE2e XX1 ST1",
   "LE10d XX1 ST2 LE10 NUa LE2 XX14 UP1 LO1 UP1 LO1 UP1 LO1 UP1 LO1 UP1 LO1 UP1 LO1 UP1 LO1 UP1",
   "LO1 UP1 LO1 UP1 LO1 UP1 LO1 UP1 LO1 UP1 LO1 UP1 LO1 UP1 LO1 UP1 LO1 UP1 LO1 UP1 LO1 UP1 LO1",
   "UP1 LO1 UP1 LO1 UP1 LO1 UP1 LO1 LE1 EX4 XX1 EXa XX1 LE1 UP1 LO1 UP1 LO1 UP1 LO1 UP1 LO1 UP1",
   "LO1 UP1 LO1 UP1 LO1 UP1 LO1 UP1 LO1 UP1 LO1 UP1 LO1 UP1 LO1 UP1 LO1 UP1 LO3 EX2 LE50 EX2 XX1",
   "ST1 XX3 ST1 XX1f LE9 XX2 UP1 LO1 UP1 LO1 UP1 LO1 UP1 LO1 UP1 LO1 UP1 LO1 UP1 LO3 UP1 LO1 UP1",
   "LO1 UP1 LO1 UP1 LO1 UP1 LO1 UP1 LO1 UP1 LO1 UP1 LO1 UP1 LO1 UP1 LO1 UP1 LO1 UP1 LO1 UP1 LO1",
   "UP1 LO1 UP1 LO1 UP1 LO1 UP1 LO1 UP1 LO1 UP1 LO1 UP1 LO1 UP1 LO1 UP1 LO1 UP1 LO1 UP1 LO1 UP1",
   "LO1 UP1 LO1 UP1 LO1 UP1 LO1 UP1 LO1 UP1 LO1 UP1 LOa UP1 LO1 UP1 LO1 UP2 LO1 UP1 LO1 UP1 LO1",
   "UP1 LO1 UP1 LO1 LE1 XX2 UP1 LO1 UP1 LO1 LE1 UP1 LO1 UP1 LO3 UP1 LO1 UP1 LO1 UP1 LO1 UP1 LO1",
   "UP1 LO1 UP1 LO1 UP1 LO1 UP1 LO1 UP1 LO1 UP1 LO1 UP5 LO1 UP5 LO1 UP1 LO1 UP1 LO1 UP1 LO1 UP1",
   "LO1 UP1 LO1 UP1 LO1 UP1 LO1 UP4 LO1 UP1 LO1 UP2 LO1 UP1 LO1 UP1 LO1 UP1 LO1 UP1 LO1 UP1 LO1",
   "UP1 LO1 UP1 LO1 UP1 XX14 LO4 UP1 LO1 LE1 LO3 LE7 EX1 LE3 EX1 LE4 EX1 LE17 EX5 XX4 EX1 XX13",
   "LE34 XX2 ST2 XX8 EX2 LE32 EX12 XX8 ST2 NUa XX6 EX12 LE6 XX3 LE1 XX1 LE2 EX1 NUa LE1c EX8 XX1",
   "ST1 LE17 EXd XXc LE1d XX3 EX4 LE2f EXe XX7 ST2 XX5 LE1 NUa XX6 LE5 EX1 LEa NUa LE5 XX1 LE29",
   "EXe XX9 LE3 EX1 LE8 EX2 XX2 NUa XX3 ST3 LE17 XX3 LE1 EX3 LE32 EX1 LE1 EX3 LE2 EX2 LE5 EX2 LE1",
   "EX1 LE1 XX18 LE3 XX2 LEb EX5 ST2 LE3 EX2 XXa LE6 XX2 LE6 XX2 LE6 XX9 LE7 XX1 LE7 XX1 LO2b XX1",
   "LOe XX6 LO50 LE23 EX8 ST1 EX2 XX2 NUa XX6 LE2ba4 XXc LE17 XX4 LE31 XX2104 LE16e XX2 LE6a XX26",
   "LO7 XXc LO5 XX5 LE1 EX1 LEa XX1 LEd XX1 LE5 XX1 LE1 XX1 LE2 XX1 LE2 XX1 LE6c XX21 LE16b CL2",
   "XX10 LE40 XX2 LE36 XX28 LEc XX4 EX10 SC2 XX1 SC1 XX3 CL2 XX7 EX10 XX1 SC2 XX2 CL10 XX2 CL2",
   "XX7 SC2 AT1 XX2 SC1 ST2 SC1 CL6 XX4 SC1 XXc LE5 XX1 LE87 XX2 FO1 XX1 ST1 XX6 CL2 XX2 SC2 AT1",
   "XX1 NUa SC1 XX4 ST1 XX1 UP1a CL1 XX1 CL1 XX3 LO1a CL1 XX1 CL1 XX1 CL2 ST1 CL2 SC1 XX1 LE38",
   "EX2 LE1f XX3 LE6 XX2 LE6 XX2 LE6 XX2 LE3 XX1c FO3 XX4 LEc XX1 LE1a XX1 LE13 XX1 LE2 XX1 LEf",
   "XX2 LEe XX22 LE7b XX45 LE35 XX88 EX1 XX82 LE1d XX3 LE31 XXf EX1 XX1f LE20 XXd LE1e XX5 LE26",
   "EX5 XX5 LE1e XX2 LE24 XX4 LE8 XX1 LE5 XX2a UP28 LO28 LE4e XX2 NUa XX6 UP24 XX4 LO24 XX4 LE28",
   "XX8 LE34 XXc UPb XX1 UPf XX1 UP7 XX1 UP2 XX1 LOb XX1 LOf XX1 LO7 XX1 LO2 XX3 LE34 XXc LE137",
   "XX9 LE16 XXa LE8 XX18 LO1 LE2 LO3 XX1 LO2a XX1 LO9 XX45 LE6 XX2 LE1 XX1 LE2c XX1 LE2 XX3 LE1",
   "XX2 LE17 XXa LE17 XX9 LE1f XX41 LE13 XX1 LE2 XXa LE16 XXa LE1a XX6 LE1a XX26 LE38 XX6 LE2",
   "XX40 LE1 EX3 XX1 EX2 XX5 EX4 LE4 XX1 LE3 XX1 LE1d XX2 EX3 XX4 EX1 XX16 ST2 XX8 LE1d XX3 LE1d",
   "XX23 LE8 XX1 LE1c EX2 XX19 LE36 XXa LE16 XXa LE13 XXd LE12 XX6e LE49 XX37 UP33 XXd LO33 XXd",
   "LE24 EX4 XX8 NUa XX6 NUa LE6 UP16 XX3 EX5 XX1 LE1 LO16 XXfa LE2a XX1 EX2 XX3 LE2 XX10 LE6",
   "XX32 EX6 LE1d XXa LE1 XX8 LE16 EXb XX4 ST5 XX16 LE12 EX4 ST4 XX26 LE15 XX1b LE17 XX9 EX3 LE35",
   "EXf ST2 XX1d NUa EX1 LE2 EX2 LE1 XX9 EX4 LE2d EXb XX2 FO1 ST4 EX1 XXa FO1 XX2 LE19 XX7 NUa",
   "XX6 EX3 LE24 EXe XX1 NUa XX1 ST3 LE1 EX2 LE1 XX8 LE23 EX1 XX2 LE1 XX9 EX3 LE30 EXe LE4 ST2",
   "XX2 EX4 ST1 EX2 NUa LE1 XX1 LE1 XX1 ST2 XX20 LE12 XX1 LE19 EXc ST2 XX1 ST2 XX1 EX1 LE2 EX1",
   "XX3e LE7 XX1 LE1 XX1 LE4 XX1 LEf XX1 LEa ST1 XX6 LE2f EXc XX5 NUa XX6 EX4 XX1 LE8 XX2 LE2 XX2",
   "LE16 XX1 LE7 XX1 LE2 XX1 LE5 XX1 EX2 LE1 EX7 XX2 EX2 XX2 EX3 XX2 LE1 XX6 EX1 XX5 LE5 EX2 XX2",
   "EX7 XX3 EX5 XXb LEa XX1 LE1 XX2 LE1 XX1 LE26 XX1 LE1 EX9 XX1 EX1 XX2 EX1 XX1 EX4 XX1 EX5 LE1",
   "EX1 LE1 ST2 XXb EX2 XX1d LE35 EX12 LE4 ST2 XX3 NUa XX4 EX1 LE3 XX1e LE30 EX14 LE2 XX1 LE1 XX8",
   "NUa XXa6 LE2f EX7 XX2 EX9 XX1 ST2 XX5 STf LE4 EX2 XX22 LE30 EX11 ST2 XX1 LE1 XXb NUa XX26",
   "LE2b EXd LE1 XX7 NUa XX6 NU14 XX1c LE1b XX2 EXf XX4 NUa XX2 ST3 XX1 LE7 XXb9 LE2c EXf XX65",
   "UP20 LO20 NUa XX15 LE8 XX2 LE1 XX2 LE8 XX1 LE2 XX1 LE18 EX6 XX1 EX2 XX2 EX4 LE1 EX1 LE1 EX2",
   "ST1 XX1 ST1 XX9 NUa XX46 LE8 XX2 LE27 EX7 XX2 EX7 LE1 XX1 LE1 EX1 XX1b LE1 EXa LE28 EX7 LE1",
   "EX4 XX3 ST2 XX3 EX1 XX8 LE1 EXb LE2e EX10 XX1 ST2 LE1 XX12 LE49 XX67 EX8 XX58 LE21 XXf NUa",
   "XX6 LE9 XX1 LE25 EX8 XX1 EX8 LE1 ST2 XXd NUa XX18 LE1e XX2 EX16 XX1 EXe XX49 LE7 XX1 LE2 XX1",
   "LE26 EX6 XX3 EX1 XX1 EX2 XX1 EX7 LE1 EX1 XX8 NUa XX6 LE6 XX1 LE2 XX1 LE20 EX5 XX1 EX2 XX1 EX5",
   "LE1 XX7 NUa XX6 LE2c XX4 NUa XXf6 LE13 EX4 ST2 XX7 EX2 LE1 EX1 LEd XX1 LE22 EX7 XX3 EX5 ST2",
   "XXb NUa EX1 XX55 LE1 XX4f LE39a XX66 LE6f XX11 LEc4 XXa4c LE61 XXf LE430 FO10 EX1 LE6 EXf XXa",
   "LEf9b XX5 LE247 XX1ab9 LE1e EX12 NUa XX6c6 LE239 XX7 LE1f XX1 NUa XX4 ST2 LE4f XX1 NUa XX6",
   "LE1e XX2 EX5 ST1 XXa LE30 EX7 ST2 XX7 LE4 ST1 XXb NUa XX9 LE15 XX5 LE13 XX1b0 LE2d XX1 ST2",
   "NUa XXc6 UP20 LO20 XX18 ST1 XX7 UP19 XX2 LO19 XX2c LE4b XX4 EX1 LE1 EX37 XX7 EX4 LEd XX40 LE2",
   "XX1 LE1 EX1 XXb EX2 LE5 XX9 LE1cd6 XX29 LE20 XX61 LE73 XX21fd LE4 XX1 LE7 XX1 LE2 XX1 LE123",
   "XXf LE1 XX1d LE3 XX2 LE1 XXe LE4 XX8 LE18c XX904 LE6b XX5 LEd XX3 LE9 XX7 LEa XX3 EX2 ST1 FO4",
   "XX104c NUa XX206 EX2e XX2 EX17 XX21e EX5 XX3 EX6 FO8 EX8 XX2 EX7 XX1e EX4 XX94 EX3 XX1bb UP1a",
   "LO1a UP1a LO7 XX1 LO12 UP1a LO1a UP1 XX1 UP2 XX2 UP1 XX2 UP2 XX2 UP4 XX1 UP8 LO4 XX1 LO1 XX1",
   "LO7 XX1 LOb UP1a LO1a UP2 XX1 UP4 XX2 UP8 XX1 UP7 XX1 LO1a UP2 XX1 UP4 XX1 UP5 XX1 UP1 XX3",
   "UP7 XX1 LO1a UP1a LO1a UP1a LO1a UP1a LO1a UP1a LO1a UP1a LO1a UP1a LO1c XX2 UP19 XX1 LO19",
   "XX1 LO6 UP19 XX1 LO19 XX1 LO6 UP19 XX1 LO19 XX1 LO6 UP19 XX1 LO19 XX1 LO6 UP19 XX1 LO19 XX1",
   "LO6 UP1 LO1 XX2 NU32 XX200 EX37 XX4 EX32 XX8 EX1 XXe EX1 XX3 ST1 XX12 EX5 XX1 EXf XX450 LOa",
   "LE1 LO14 XX6 LO6 XXd5 EX7 XX1 EX11 XX2 EX7 XX1 EX2 XX1 EX5 XX5 LO3e XX21 EX1 XX70 LE2d XX3",
   "EX7 LE7 XX2 NUa XX4 LE1 XX141 LE1e EX1 XX11 LE2c EX4 NUa XX1d6 LE1c EX4 NUa XXd6 LE1e EX2 LE1",
   "NUa XXc5 LE1f XX1 LE3 EX1 LE2 EX1 LE7 EX2 LE5 EX1 XX8 LE2 XXe0 LE7 XX1 LE4 XX1 LE2 XX1 LEf",
   "XX1 LEc5 XXb EX7 XX29 UP22 LO22 EX7 LE1 XX4 NUa XX4a6 LE4 XX1 LE1b XX1 LE2 XX1 LE1 XX2 LE1",
   "XX1 LEa XX1 LE4 XX1 LE1 XX1 LE1 XX6 LE1 XX4 LE1 XX1 LE1 XX1 LE1 XX1 LE3 XX1 LE2 XX1 LE1 XX2",
   "LE1 XX1 LE1 XX1 LE1 XX1 LE1 XX1 LE1 XX1 LE2 XX1 LE1 XX2 LE4 XX1 LE7 XX1 LE4 XX1 LE4 XX1 LE1",
   "XX1 LEa XX1 LE11 XX5 LE3 XX1 LE5 XX1 LE11 XX274 UP1a XX6 UP1a XX6 UP1a XX4ec CL3 XX577 NUa",
   "XX406 LEa6e0 XX20 LE111e XX2 LE168e XX2 LE1d31 XXf LE26e XX9a2 LE21e XX5e2 LE134b XX5 LE212a",
   "XXacb87 FO1 XX1e EX60 XX80 EXf0 XX2fe10"]

/-- The names of the grapheme classes with their labels. -/
def graphemeClassNames : List (List String × String) := [
  (["cn", "control"], "CN"),
  (["cr"], "CR"),
  (["ex", "extend"], "EX"),
  (["l"], "Lj"),
  (["lf"], "LF"),
  (["pp", "prepend"], "PP"),
  (["regionalindicator", "ri"], "RI"),
  (["sm", "spacingmark"], "SM"),
  (["t"], "Tj"),
  (["v"], "Vj"),
  (["zwj"], "ZW")]

/-- The names of the word classes with their labels. -/
def wordClassNames : List (List String × String) := [
  (["aletter", "le"], "AL"),
  (["cr"], "CR"),
  (["doublequote", "dq"], "DQ"),
  (["extend"], "EX"),
  (["ex", "extendnumlet"], "EN"),
  (["fo", "format"], "FO"),
  (["hebrewletter", "hl"], "HL"),
  (["ka", "katakana"], "KA"),
  (["lf"], "LF"),
  (["midletter", "ml"], "ML"),
  (["midnum", "mn"], "MN"),
  (["mb", "midnumlet"], "MB"),
  (["newline", "nl"], "NL"),
  (["nu", "numeric"], "NU"),
  (["regionalindicator", "ri"], "RI"),
  (["singlequote", "sq"], "SQ"),
  (["wsegspace"], "WS"),
  (["zwj"], "ZW")]

/-- The names of the sentence classes with their labels. -/
def sentenceClassNames : List (List String × String) := [
  (["at", "aterm"], "AT"),
  (["cr"], "CR"),
  (["cl", "close"], "CL"),
  (["ex", "extend"], "EX"),
  (["fo", "format"], "FO"),
  (["lf"], "LF"),
  (["lo", "lower"], "LO"),
  (["nu", "numeric"], "NU"),
  (["le", "oletter"], "LE"),
  (["sc", "scontinue"], "SC"),
  (["st", "sterm"], "ST"),
  (["se", "sep"], "SE"),
  (["sp"], "SP"),
  (["up", "upper"], "UP")]

private def classNamed? (name : String) (names : List (List String × String)) : Option String :=
  (names.find? fun (ns, _) => ns.contains name).map (·.2)

/-- The Hangul syllables that consist of two letters. -/
private def twoLetterSyllables : CharSet :=
  .ofList ((List.range 399).map fun n => 0xAC00 + 28 * n)

private def threeLetterSyllables : CharSet :=
  (CharSet.range 0xAC00 0xD7A3).diff twoLetterSyllables

def graphemeClass? (name : String) : Option CharSet :=
  match name with
  | "lv" => some twoLetterSyllables
  | "lvt" => some threeLetterSyllables
  | _ => (classNamed? name graphemeClassNames).map fun label =>
      runsWhere (· == label) (unpackRuns 2 packedGraphemeClasses)

def wordClass? (name : String) : Option CharSet :=
  (classNamed? name wordClassNames).map fun label =>
    runsWhere (· == label) (unpackRuns 2 packedWordClasses)

def sentenceClass? (name : String) : Option CharSet :=
  (classNamed? name sentenceClassNames).map fun label =>
    runsWhere (· == label) (unpackRuns 2 packedSentenceClasses)

end CpuPinning.Unicode
