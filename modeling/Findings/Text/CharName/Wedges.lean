/-!
Names of wedge-shaped signs, hieroglyphs and other signs of large scripts.
-/

namespace Findings.Text.CharName

/-- Code points from U+12000 on; `NameList` tells how the list is read. -/
def wedges : String := "
  @12000 CUNEIFORM SIGN A,3TIMES A,4BAD,4GAN2 TENU,4HA,4IGI,4LAGAR GUNU,4MUSH,4SAG,2A2,2AB
  3TIMES ASH2,4DUN3 GUNU,4GAL,4GAN2 TENU,4HA,4IGI GUNU,4IMIN,4LAGAB,4SHESH,4U PLUS U PLUS U,3GUNU
  2AB2,3TIMES BALAG,4GAN2 TENU,4ME PLUS EN,4SHA3,4TAK4,2AD,2AK,3TIMES ERIN2,4SHITA PLUS GISH,2AL
  3TIMES AL,4DIM2,4GISH,4HA,4KAD3,4KI,4SHE,4USH,2ALAN,2ALEPH,2AMAR,3TIMES SHE,2AN,3OVER AN
  3THREE TIMES,3PLUS NAGA OPPOSING AN PLUS NAGA,5SQUARED,2ANSHE,2APIN,2ARAD,3TIMES KUR,2ARKAB
  2ASAL2,2ASH,3ZIDA TENU,3KABA*1,3OVER ASH TUG2 OVER TUG2 TUG2 OVER TUG2 PAP,5OVER ASH
  7CROSSING ASH OVER ASH OVER ASH,2ASH2,2ASHGAB,2BA,2BAD,2BAG3,2BAHAR2,2BAL,3OVER BAL,2BALAG,2BAR
  2BARA2,2BI,3TIMES A,4GAR,4IGI GUNU,2BU,3OVER BU AB,5UN,3CROSSING BU,2BULUG,3OVER BULUG,2BUR,2BUR2
  2DA,2DAG,3KISIM5 TIMES A PLUS MASH,5AMAR,5BALAG,5BI,5GA,6PLUS MASH,5GI,5GIR2,5GUD,5HA,5IR
  6PLUS LU,5KAK,5LA,5LU,6PLUS MASH2,5LUM,5NE,5PAP PLUS PAP,5SI,5TAK4,5U2 PLUS GIR2,5USH,2DAM,2DAR
  2DARA3,+,2DI,2DIB,2DIM,3TIMES SHE,2DIM2,2DIN,3KASKAL U GUNU DISH,2*1,2DU,3OVER DU,3GUNU,3SHESHIG
  2DUB,3TIMES ESH2,2DUB2,2DUG,2DUGUD,2DUH,2DUN,2DUN3,3GUNU,4GUNU,2DUN4,2DUR2,2E,3TIMES PAP
  3OVER E NUN OVER NUN,2E2,3TIMES A PLUS HA PLUS DA,4GAR,4MI,4SAL,4SHE,4U,2EDIN,2EGIR,2EL,2EN
  3TIMES GAN2,5TENU,4ME,3CROSSING EN,3OPPOSING*1,3SQUARED,2EREN,2ERIN2,2ESH2,2EZEN,3TIMES A
  5PLUS LAL,7TIMES LAL,4AN,4BAD,4DUN3 GUNU,6GUNU,4HA,5GUNU,4IGI*1,4KASKAL,5SQUARED,4KU3,4LA
  4LAL TIMES LAL,4LI,4LU,4U2,4UD,2GA,3GUNU,2GA2,3TIMES A PLUS DA PLUS HA,6HA,6IGI
  4AB2 TENU PLUS TAB,4AN,4ASH,4ASH2 PLUS GAL,4BAD,4BAR PLUS RA,4BUR,5PLUS RA,4DA,4DI,4DIM TIMES SHE
  4DUB,4EL,5PLUS LA,4EN,5TIMES GAN2 TENU,4*2,4GAR,4GI,4GI4,5PLUS A,4GIR2 PLUS SU
  4HA PLUS LU PLUS ESH2,4HAL,5PLUS LA,4HI PLUS LI,4HUB2,4IGI GUNU,4ISH PLUS HU PLUS ASH,4KAK
  4KASKAL,4KID,5PLUS LAL,4KU3 PLUS AN,4LA,4ME PLUS EN,4MI,4NUN,5OVER NUN,4PA,4SAL,4SAR,4SHE
  5PLUS TUR,4SHID,4SUM,4TAK4,4U,4UD,5PLUS DU,3OVER GA2,2GABA,3CROSSING GABA,2GAD
  3OVER GAD GAR OVER GAR,2GAL,3GAD OVER GAD GAR OVER GAR,2GALAM,2GAM,2GAN,2GAN2,3TENU,3OVER GAN2
  3CROSSING*1,2GAR,2GAR3,2GASHAN,2GESHTIN,3TIMES KUR,2GI,3TIMES E,4U,3CROSSING GI,2GI4,3OVER GI4
  3CROSSING*1,2GIDIM,2GIR2,3GUNU,2GIR3,3TIMES A PLUS IGI,4GAN2 TENU,4IGI,4LU PLUS*1,4PA,2GISAL
  2GISH,3CROSSING GISH,3TIMES BAD,4TAK4,3TENU,2GU,3CROSSING GU,2GU2,3TIMES KAK,5TIMES IGI GUNU,4NUN
  4SAL PLUS TUG2,3GUNU,2GUD,3TIMES A PLUS KUR,4*1,3OVER GUD LUGAL,2GUL,2GUM,3TIMES SHE,2GUR,2GUR7
  2GURUN,2GURUSH,2HA,3TENU,3GUNU,2HAL,2HI,3TIMES ASH,4ASH2,4BAD,4DISH,4GAD,4KIN,4NUN,4SHE,4U,2HU
  2HUB2,3TIMES AN,4HAL,4KASKAL,4LISH,4UD,2HUL2,2I,3A,2IB,2IDIM,3OVER IDIM BUR,5SQUARED,2IG,2IGI
  3DIB,3RI,3OVER IGI SHIR OVER SHIR UD OVER UD,3GUNU,2IL,3TIMES GAN2 TENU,2IL2,2IM,3TIMES TAK4
  3CROSSING IM,3OPPOSING*1,3SQUARED,2IMIN,2IN,2IR,2ISH,2KA,3TIMES A,4AD,5PLUS KU3,4ASH2,4BAD,4BALAG
  4BAR,4BI,4ERIN2,4ESH2,4GA,4GAL,4GAN2 TENU,4GAR,5PLUS SHA3 PLUS A,4GI,4GIR2,4GISH PLUS SAR
  5CROSSING GISH,4GU,4GUR7,4IGI,4IM,4KAK,4KI,4KID,4LI,4LU,4ME,5PLUS DU,6GI,6TE,4MI,5PLUS NUNUZ,4NE
  4NUN,4PI,4RU,4SA,4SAR,4SHA,4SHE,4SHID,4SHU,4SIG,4SUHUR,4TAR,4U,4U2,4UD,4UMUM TIMES PA,4USH,4ZI
  2KA2,3CROSSING KA2,2KAB,2KAD2,+,+,+,3OVER KAD5,2KAK,3TIMES IGI GUNU,2KAL,3TIMES BAD,3CROSSING KAL
  2KAM2,2KAM4,2KASKAL,3LAGAB TIMES U OVER LAGAB TIMES U,3OVER KASKAL*7,2KESH2,2KI,3TIMES BAD,4U,4UD
  2KID,2KIN,2KISAL,2KISH,2KISIM5,3OVER KISIM5,2KU,3OVER HI TIMES ASH2 KU OVER HI TIMES ASH2,2KU3,+
  3VARIANT FORM,2KU7,2KUL,3GUNU,2KUN,2KUR,3OPPOSING KUR,2KUSHU2,2KWU318,2LA,2LAGAB,3TIMES A
  5PLUS DA PLUS HA,6GAR,6LAL,4AL,4AN,4ASH ZIDA TENU,4BAD,4BI,4DAR,4EN,4GA,4GAR,4GUD,5PLUS GUD,4HA
  4HAL,4HI TIMES NUN,4IGI GUNU,4IM,5PLUS HA,6LU,4KI,4KIN,4KU3,4KUL,5PLUS HI PLUS A,4LAGAB,4LISH,4LU
  4LUL,4ME,5PLUS EN,4MUSH,4NE,4SHE PLUS SUM,4SHITA PLUS GISH PLUS ERIN2,7TENU,4SHU2,5PLUS SHU2,4SUM
  4TAG,4TAK4,4TE PLUS A PLUS SU PLUS NA,4U,5PLUS A,6U PLUS U,4U2 PLUS ASH,4UD,4USH,3SQUARED,2LAGAR
  3TIMES SHE,5PLUS SUM,3GUNU,4OVER LAGAR GUNU SHE,2LAHSHU,2LAL,3TIMES LAL,2LAM,3TIMES KUR,5PLUS RU
  2LI,2LIL,2LIMMU2,2LISH,2LU,3TIMES BAD,2LU2,3TIMES AL,4BAD,4ESH2,5TENU,4GAN2*1,4HI TIMES BAD,4IM
  4KAD2,+,5PLUS ASH,4KI,4LA PLUS ASH,4LAGAB,4ME PLUS EN,4NE,4NU,4SI PLUS ASH,4SIK2 PLUS BU,4TUG2
  3TENU,3CROSSING LU2,3OPPOSING*1,3SQUARED,3SHESHIG,2LU3,2LUGAL,3OVER LUGAL,3OPPOSING*1,3SHESHIG
  2LUH,2LUL,2LUM,3OVER LUM,5GAR OVER GAR,2MA,3TIMES TAK4,3GUNU,2MA2,2MAH,2MAR,2MASH,2MASH2,2ME,2MES
  2MI,2MIN,2MU,3OVER MU,2MUG,3GUNU,2MUNSUB,2MURGU2,2MUSH,3TIMES A,4KUR,4ZA,3OVER MUSH
  5TIMES A PLUS NA,3CROSSING MUSH,2MUSH3,3TIMES A,5PLUS DI,4DI,3GUNU,2NA,2NA2,2NAGA,3INVERTED
  3TIMES SHU TENU,3OPPOSING NAGA,2NAGAR,2NAM NUTILLU,3,2NAM2,2NE,3TIMES A,4UD,3SHESHIG,2NI,3TIMES E
  2NI2,2NIM,3TIMES GAN2 TENU,4GAR PLUS*2,2NINDA2,3TIMES AN,4ASH,5PLUS ASH,4GUD,4ME PLUS GAN2 TENU
  4NE,4NUN,4SHE,5PLUS A AN,6ASH,7PLUS ASH,4U2*2,4USH,2NISAG,2NU,2NU11,2NUN,3LAGAR TIMES GAR,5MASH
  5SAL,6OVER NUN LAGAR TIMES SAL,5USH,3TENU,3OVER NUN,3CROSSING*1,5LAGAR OVER LAGAR,2NUNUZ
  3AB2 TIMES ASHGAB,5BI,5DUG,5GUD,5IGI GUNU,5KAD3,5LA,5NE,5SILA3,5U2,3KISIM5 TIMES BI,6U,2PA,2PAD
  2PAN,2PAP,2PESH2,2PI,3TIMES A,4AB,4BI,4BU,4E,4I,4IB,4U,4U2,3CROSSING PI,2PIRIG,3TIMES KAL,4UD,4ZA
  3OPPOSING PIRIG,2RA,2RAB,2RI,2RU,2SA,2SAG NUTILLU,3,3TIMES A,4DU,4DUB,4HA,4KAK,4KUR,4LUM,4MI,4NUN
  4SAL,4SHID,4TAB,4U2,4UB,4UM,4UR,4USH,3OVER SAG,3GUNU,2SAL,3LAGAB TIMES ASH2,2SANGA2,2SAR,2SHA
  2SHA3,3TIMES A,4BAD,4GISH,4NE,4SHU2,4TUR,4U,5PLUS A,2SHA6,2SHAB6,2SHAR2,2SHE,3HU
  3OVER SHE GAD OVER GAD GAR OVER GAR,5TAB OVER TAB*3,2SHEG9,2SHEN,2SHESH,2SHESH2,2SHESHLAM,2SHID
  3TIMES A,4IM,2SHIM,3TIMES A,4BAL,4BULUG,4DIN,4GAR,4IGI,5GUNU,4KUSHU2,4LUL,4MUG,4SAL,2SHINIG,2SHIR
  3TENU,3OVER SHIR BUR OVER BUR,2SHITA,2SHU,3OVER INVERTED SHU,2SHU2,2SHUBUR,2SI,3GUNU,2SIG,2SIG4
  3OVER SIG4 SHU2,2SIK2,2SILA3,2SU,3OVER SU,2SUD,2SUD2,2SUHUR,2SUM,2SUMASH,2SUR,2SUR9,2TA,3ASTERISK
  3TIMES HI,4MI,3GUNU,2TAB,3OVER TAB NI OVER NI DISH OVER DISH,3SQUARED,2TAG,3TIMES BI,4GUD,4SHE
  4SHU,4TUG2,4UD,2TAK4,2TAR,2TE,3GUNU,2TI,3TENU,2TIL,2TIR,3TIMES TAK4,3OVER TIR
  5GAD OVER GAD GAR OVER GAR,2TU,2TUG2,2TUK,2TUM,2TUR,3OVER TUR ZA OVER ZA,2U,3GUD,3U U
  3OVER U PA OVER PA GAR OVER GAR,5SUR OVER SUR,5U REVERSED OVER U REVERSED,2U2,2UB,2UD,3KUSHU2
  3TIMES BAD,4MI,4U PLUS U PLUS U,9GUNU,3*1,3SHESHIG,4TIMES BAD,2UDUG,2UM,3TIMES LAGAB,4ME PLUS DA
  4SHA3,4U,2UMBIN,2UMUM,3TIMES KASKAL,4PA,2UN,3GUNU,2UR,3CROSSING UR,3SHESHIG,2UR2,3TIMES A PLUS HA
  6NA,4AL,4HA,4NUN,4U2,5PLUS ASH,6BI,2UR4,2URI,2URI3,2URU,3TIMES A,4ASHGAB,4BAR,4DUN,4GA,4GAL
  4GAN2 TENU,4GAR,4GU,4HA,4IGI,4IM,4ISH,4KI,4LUM,4MIN,4PA,4SHE,4SIG4,4TU,4U PLUS GUD,4UD,4URUDA,2*1
  3TIMES U,2USH,3TIMES A,4KU,4KUR,4TAK4,2USHX,2USH2,2USHUMX,2UTUKI,2UZ3,3TIMES KASKAL,2UZU,2ZA
  3TENU,3SQUARED TIMES KUR,2ZAG,2ZAMX,2ZE2,2ZI,3OVER ZI,2ZI3,2ZIB,3KABA TENU,2ZIG,2ZIZ2,2ZU,2ZU5
  3TIMES A,2ZUBUR,2ZUM,2KAP ELAMITE,2AB TIMES NUN,2AB2 TIMES A,2AMAR TIMES KUG
  2DAG KISIM5 TIMES U2 PLUS MASH,2DAG3,2DISH PLUS SHU,2DUB TIMES SHE,2EZEN TIMES GUD,4SHE
  2GA2 TIMES AN PLUS KAK PLUS A,4ASH2,2GE22,2GIG,2HUSH,2KA TIMES ANSHE,4ASH3,4GISH,4GUD
  4HI TIMES ASH2,4LUM,4PA,4SHUL,4TU,4UR2,2LAGAB TIMES GI,2LU2 SHESHIG TIMES BAD
  3TIMES ESH2 PLUS LAL,4SHU,2MESH,2MUSH3 TIMES ZA,2NA4,2NIN,2NIN9,2NINDA2 TIMES BAL,4GI
  2NU11 ROTATED NINETY DEGREES,2PESH2 ASTERISK,2PIR2,2SAG TIMES IGI GUNU,2TI2,2UM TIMES ME,2U U
  @12400 1NUMERIC SIGN TWO ASH,3THREE*1,3FOUR*1,3FIVE*1,3SIX*1,3SEVEN*1,3EIGHT*1,3NINE*1
  3THREE DISH,3FOUR*1,3FIVE*1,3SIX*1,3SEVEN*1,3EIGHT*1,3NINE*1,3FOUR U,3FIVE U,3SIX U,3SEVEN U
  3EIGHT U,3NINE U,3ONE GESH2,3TWO*1,3THREE*1,3FOUR*1,3FIVE*1,3SIX*1,3SEVEN*1,3EIGHT*1,3NINE*1
  3ONE GESHU,3TWO*1,3THREE*1,3FOUR*1,3FIVE*1,3TWO SHAR2,3THREE*1,5VARIANT FORM,3FOUR SHAR2,3FIVE*1
  3SIX*1,3SEVEN*1,3EIGHT*1,3NINE*1,3ONE SHARU,3TWO*1,3THREE*1,5VARIANT FORM,3FOUR SHARU,3FIVE*1
  3SHAR2 TIMES GAL PLUS DISH,7MIN,3ONE BURU,3TWO*1,3THREE*1,5VARIANT FORM,3FOUR BURU,3FIVE*1
  3THREE VARIANT FORM ESH16,6ESH21,3FOUR VARIANT FORM LIMMU,6LIMMU4,6LIMMU A,7B
  3SIX VARIANT FORM ASH9,3SEVEN VARIANT FORM IMIN3,6IMIN A,7B,3EIGHT VARIANT FORM USSU,6USSU3
  3NINE VARIANT FORM ILIMMU,6ILIMMU3,+,6ILIMMU A,3TWO ASH TENU,3THREE*2,3FOUR*2,3FIVE*2,3SIX*2
  3ONE BAN2,3TWO*1,3THREE*1,3FOUR*1,5VARIANT FORM,3FIVE BAN2,5VARIANT FORM,3NIGIDAMIN,3NIGIDAESH
  3ONE ESHE3,3TWO*1,3ONE THIRD DISH,3TWO THIRDS*1,3FIVE SIXTHS*1,3ONE THIRD VARIANT FORM A
  3TWO THIRDS*3,3ONE EIGHTH ASH,4QUARTER*1,3OLD ASSYRIAN ONE SIXTH,6QUARTER,3ONE QUARTER GUR
  4HALF*1,3ELAMITE ONE THIRD,4TWO THIRDS,4FORTY,4FIFTY,3FOUR U VARIANT FORM,3FIVE*3,3SIX*3,3SEVEN*3
  3EIGHT*3,3NINE*3,@12470 1PUNCTUATION SIGN OLD ASSYRIAN WORD DIVIDER,3VERTICAL COLON,3DIAGONAL*1
  4TRICOLON,4QUADCOLON,@12480 1SIGN AB TIMES NUN TENU,4SHU2,2AD TIMES ESH2,2BAD TIMES DISH TENU
  2BAHAR2 TIMES AB2,4NI,4ZA,2BU OVER BU TIMES NA2,2DA TIMES TAK4,2DAG TIMES KUR,2DIM TIMES IGI
  4U U U,2DIM2 TIMES UD,2DUG TIMES ANSHE,4ASH,5AT LEFT,4DIN,4DUN,4ERIN2,4GA,4GI,4GIR2 GUNU,4GISH
  4HA,4HI,4IGI GUNU,4KASKAL,4KUR,4KUSHU2,5PLUS KASKAL,4LAK-020,4LAM,5TIMES KUR,4LUH PLUS GISH,4MASH
  4MES,4MI,4NI,4PI,4SHE,4SI GUNU,2E2 TIMES KUR,4PAP,2ERIN2 X,2ESH2 CROSSING ESH2
  2EZEN SHESHIG TIMES ASH,5HI,5IGI GUNU,5LA,5LAL,5ME,5MES,5SU,3*2,2GA2 TIMES BAHAR2,4DIM GUNU
  4DUG TIMES IGI*1,6KASKAL,4EREN,4GA,4GAR PLUS DI,6NE,4HA PLUS A,4KUSHU2 PLUS KASKAL,4LAM
  5TIMES KUR,4LUH,4MUSH,4NE,5PLUS E2,6GI,4SHIM,4ZIZ2,2GABA ROTATED NINETY DEGREES,2GESHTIN TIMES U
  2GISH TIMES GISH CROSSING GISH,2GU2 TIMES IGI GUNU,2GUD PLUS GISH TIMES TAK4,2HA TENU GUNU
  2HI TIMES ASH OVER HI TIMES ASH,2KA TIMES BU,4KA,4U U U,4UR,2LAGAB TIMES ZU OVER ZU,2LAK-003
  2LAK-021,2LAK-025,2LAK-030,2LAK-050,+,2LAK-062,2LAK-079 OVER LAK-079 GUNU,2LAK-080
  2LAK-081 OVER LAK-081,2LAK-092,2LAK-130,2LAK-142,2LAK-210,2LAK-219,+,2LAK-225,2LAK-228,2LAK-238
  2LAK-265,+,2LAK-343,2LAK-347,+,2LAK-383,+,2LAK-390,2LAK-441,2LAK-449,3TIMES GU,4IGI,4PAP PLUS LU3
  6PAP PLUS*1,4U2 PLUS BA,2LAK-450,2LAK-457,2LAK-470,2LAK-483,2LAK-490,2LAK-492,+,2LAK-495,2LAK-550
  2LAK-608,2LAK-617,3TIMES ASH,4BAD,4DUN3 GUNU GUNU,4KU3,4LA,4TAR,4TE,4U2,4UD,4URUDA,2LAK-636
  2LAK-648,3TIMES DUB,4GA,4IGI,5GUNU,4NI,4PAP PLUS PAP PLUS LU3,4SHESH PLUS KI,4UD,4URUDA,2LAK-724
  2LAK-749,2LU2 GUNU TIMES ASH,3TIMES DISH,4HAL,4PAP,5PLUS PAP PLUS LU3,4TAK4,2MI PLUS ZA7
  2MUSH OVER MUSH TIMES GA,6KAK,2NINDA2 TIMES DIM GUNU,4GISH,4GUL,4HI,4KESH2,4LAK-050,4MASH
  4PAP PLUS PAP,4U,5PLUS U,4URUDA,2SAG GUNU TIMES HA,3TIMES EN,4SHE AT LEFT,4TAK4,2SHA6 TENU
  2SHE OVER SHE,3PLUS HUB2,4NAM2,4SAR,2SHU2 PLUS DUG TIMES NI,4E2 TIMES AN,2SI TIMES TAK4
  2TAK4 PLUS SAG,2TUM TIMES GAN2 TENU,4THREE DISH,2UR2 INVERTED,3TIMES UD,2URU TIMES DARA3,4LAK-668
  4LU3,2ZA7,2ZU OVER ZU PLUS SAR,2ZU5 TIMES THREE DISH TENU,@12F90 CYPRO-MINOAN SIGN CM001,+,2CM004
  +,+,+,+,+,+,+,+,2CM012B,2CM013,2CM015,2CM017,2CM019,2CM021,2CM023,+,+,+,+,+,+,+,2CM033,+,+,+,+,+
  +,+,+,2CM044,2CM046,+,2CM049,+,+,+,+,+,+,+,2CM058,+,+,+,+,+,+,2CM066,+,+,+,+,+,+,+,+,+,2CM075B
  2CM076,2CM078,+,+,+,+,+,+,+,+,+,+,+,+,+,+,2CM094,+,+,+,+,+,+,+,+,+,+,+,2CM107,+,+,+,2CM112,2CM114
  2CM301,+,@13000 EGYPTIAN HIEROGLYPH A001,+,+,+,+,2A005A,2A006,2A006A,2A006B,2A007,+,+,+,+,+,+,+
  2A014A,2A015,+,+,2A017A,2A018,+,+,+,+,+,+,+,+,+,+,+,+,+,+,2A032A,2A033,+,+,+,+,+,+,+,2A040A,2A041
  +,2A042A,2A043,2A043A,2A044,+,2A045A,2A046,+,+,+,+,+,+,+,+,+,+,+,+,+,+,+,+,+,+,+,+,+,+,+,+,2B001
  +,+,+,+,2B005A,2B006,+,+,+,2C001,+,2C002A,2C002B,2C002C,2C003,+,+,+,+,+,+,+,2C010A,2C011,+,+,+,+
  +,+,+,+,+,+,+,+,+,2D001,+,+,+,+,+,+,+,2D008A,2D009,+,+,+,+,+,+,+,+,+,+,+,+,+,+,+,+,+,+,2D027A
  2D028,+,+,+,2D031A,2D032,+,+,2D034A,2D035,+,+,+,+,+,+,+,+,+,+,+,2D046A,2D047,+,2D048A,2D049,+
  2D050A,2D050B,2D050C,2D050D,2D050E,2D050F,2D050G,2D050H,2D050I,2D051,+,2D052A,2D053,+,2D054A
  2D055,+,+,+,+,+,+,+,+,+,+,+,+,2D067A,2D067B,2D067C,2D067D,2D067E,2D067F,2D067G,2D067H,2E001,+,+,+
  +,+,+,+,2E008A,2E009,2E009A,2E010,+,+,+,+,+,+,2E016A,2E017,2E017A,2E018,+,+,2E020A,2E021,+,+,+,+
  +,+,+,2E028A,2E029,+,+,+,+,+,2E034A,2E036,+,+,2F001,2F001A,2F002,+,+,+,+,+,+,+,+,+,+,+,2F013A
  2F014,+,+,+,+,+,+,+,2F021A,2F022,+,+,+,+,+,+,+,+,+,2F031A,2F032,+,+,+,+,+,2F037A,2F038,2F038A
  2F039,+,+,+,+,+,+,2F045A,2F046,2F046A,2F047,2F047A,2F048,+,+,+,2F051A,2F051B,2F051C,2F052,+,2G001
  +,+,+,+,+,2G006A,2G007,2G007A,2G007B,2G008,+,+,+,2G011A,2G012,+,+,+,+,+,+,+,+,2G020A,2G021,+,+,+
  +,+,2G026A,2G027,+,+,+,+,+,+,+,+,+,2G036A,2G037,2G037A,2G038,+,+,+,+,+,2G043A,2G044,+,2G045A
  2G046,+,+,+,+,+,+,+,+,2H001,+,+,+,+,+,2H006A,2H007,+,2I001,+,+,+,+,2I005A,2I006,+,+,+,2I009A
  2I010,2I010A,2I011,2I011A,2I012,+,+,+,2K001,+,+,+,+,+,+,+,2L001,+,2L002A,2L003,+,+,+,2L006A,2L007
  +,2M001,2M001A,2M001B,2M002,+,2M003A,2M004,+,+,+,+,+,+,2M010A,2M011,+,2M012A,2M012B,2M012C,2M012D
  2M012E,2M012F,2M012G,2M012H,2M013,+,+,2M015A,2M016,2M016A,2M017,2M017A,2M018,+,+,+,+,2M022A,2M023
  +,2M024A,2M025,+,+,+,2M028A,2M029,+,+,2M031A,2M032,+,2M033A,2M033B,2M034,+,+,+,+,+,+,2M040A,2M041
  +,+,+,2N001,+,+,+,+,+,+,+,+,+,+,+,+,+,+,+,+,+,2N018A,2N018B,2N019,+,+,+,+,+,+,2N025A,2N026,+,+,+
  +,+,+,+,2N033A,2N034,2N034A,2N035,2N035A,2N036,+,2N037A,2N038,+,+,+,+,2NL001,+,+,+,+,2NL005A
  2NL006,+,+,+,+,+,+,+,+,+,+,+,2NL017A,2NL018,+,+,2NU001,+,+,+,+,+,+,+,+,+,2NU010A,2NU011,2NU011A
  2NU012,+,+,+,+,+,+,2NU018A,2NU019,+,+,+,2NU022A,2O001,2O001A,2O002,+,+,+,2O005A,2O006,2O006A
  2O006B,2O006C,2O006D,2O006E,2O006F,2O007,+,+,+,2O010A,2O010B,2O010C,2O011,+,+,+,+,+,+,+,+,2O019A
  2O020,2O020A,2O021,+,+,+,2O024A,2O025,2O025A,2O026,+,+,+,2O029A,2O030,2O030A,2O031,+,+,2O033A
  2O034,+,+,2O036A,2O036B,2O036C,2O036D,2O037,+,+,+,+,+,+,+,+,+,+,+,+,+,2O050A,2O050B,2O051,2P001
  2P001A,2P002,+,2P003A,2P004,+,+,+,+,+,+,+,2Q001,+,+,+,+,+,+,2R001,+,2R002A,2R003,2R003A,2R003B
  2R004,+,+,+,+,+,+,2R010A,2R011,+,+,+,+,+,2R016A,2R017,+,+,+,+,+,+,+,+,+,+,+,+,2S001,+,2S002A
  2S003,+,+,+,2S006A,2S007,+,+,+,+,+,+,+,2S014A,2S014B,2S015,+,+,2S017A,2S018,+,+,+,+,+,+,+,+
  2S026A,2S026B,2S027,+,+,+,+,+,+,+,+,2S035A,2S036,+,+,+,+,+,+,+,+,+,+,2T001,+,+,2T003A,2T004,+,+,+
  2T007A,2T008,2T008A,2T009,2T009A,2T010,+,2T011A,2T012,+,+,+,+,2T016A,2T017,+,+,+,+,+,+,+,+,+,+,+
  +,+,+,+,2T032A,2T033,2T033A,2T034,+,+,2U001,+,+,+,+,+,2U006A,2U006B,2U007,+,+,+,+,+,+,+,+,+,+,+,+
  +,+,+,+,2U023A,2U024,+,+,+,+,+,2U029A,2U030,+,+,2U032A,2U033,+,+,+,+,+,+,+,+,+,2V001,2V001A
  2V001B,2V001C,2V001D,2V001E,2V001F,2V001G,2V001H,2V001I,2V002,2V002A,2V003,+,+,+,+,2V007A,2V007B
  2V008,+,+,+,2V011A,2V011B,2V011C,2V012,2V012A,2V012B,2V013,+,+,+,+,+,+,+,2V020A,2V020B,2V020C
  2V020D,2V020E,2V020F,2V020G,2V020H,2V020I,2V020J,2V020K,2V020L,2V021,+,+,2V023A,2V024,+,+,+,+
  2V028A,2V029,2V029A,2V030,2V030A,2V031,2V031A,2V032,+,2V033A,2V034,+,+,+,2V037A,2V038,+,+,2V040A
  2W001,+,+,2W003A,2W004,+,+,+,+,+,2W009A,2W010,2W010A,2W011,+,+,+,2W014A,2W015,+,+,2W017A,2W018
  2W018A,2W019,+,+,+,+,+,2W024A,2W025,2X001,+,+,+,2X004A,2X004B,2X005,+,2X006A,2X007,+,2X008A,2Y001
  2Y001A,2Y002,+,+,+,+,+,+,2Z001,+,2Z002A,2Z002B,2Z002C,2Z002D,2Z003,2Z003A,2Z003B,2Z004,2Z004A
  2Z005,2Z005A,2Z006,+,+,+,+,+,+,+,+,+,2Z015A,2Z015B,2Z015C,2Z015D,2Z015E,2Z015F,2Z015G,2Z015H
  2Z015I,2Z016,2Z016A,2Z016B,2Z016C,2Z016D,2Z016E,2Z016F,2Z016G,2Z016H,2AA001,+,+,+,+,+,+,2AA007A
  2AA007B,2AA008,+,+,+,+,+,+,+,+,+,+,+,+,+,+,+,+,+,+,+,+,+,+,+,+,@13430 2VERTICAL JOINER
  2HORIZONTAL*1,2INSERT AT TOP START,4BOTTOM*1,4TOP END,4BOTTOM*1,2OVERLAY MIDDLE,2BEGIN SEGMENT
  2END*1,@14400 ANATOLIAN HIEROGLYPH A001,+,+,+,+,+,+,+,+,+,2A010A,2A011,+,+,+,+,+,+,+,+,+,+,+,+,+
  +,+,2A026A,2A027,+,+,+,+,+,+,+,+,+,+,+,+,2A039A,2A040,+,2A041A,2A042,+,+,+,2A045A,2A046,2A046A
  2A046B,2A047,+,+,+,+,+,+,+,+,+,+,+,+,+,+,+,+,+,+,+,2A066A,2A066B,2A066C,2A067,+,+,+,+,+,+,+,+,+,+
  +,+,+,+,+,+,+,+,+,+,+,+,+,+,+,+,+,+,+,+,2A097A,2A098,2A098A,2A099,+,2A100A,2A101,2A101A,2A102
  2A102A,2A103,+,2A104A,2A104B,2A104C,2A105,2A105A,2A105B,2A106,+,2A107A,2A107B,2A107C,2A108,+,+
  2A110A,2A110B,2A111,+,+,+,+,2A115A,2A116,+,+,+,+,+,+,+,+,+,2A125A,2A126,+,+,+,+,+,+,+,+,+,2A135A
  2A136,+,+,+,+,+,+,+,+,+,+,+,+,+,+,+,+,+,+,+,+,+,+,+,+,+,+,+,+,+,+,+,+,+,+,+,+,+,+,+,+,+,+,+,+,+,+
  +,+,+,+,+,+,+,+,+,+,+,+,+,+,+,+,+,+,+,+,2A202A,2A202B,2A203,+,+,+,+,2A207A,2A208,+,2A209A,2A210,+
  +,+,+,+,2A215A,2A216,2A216A,2A217,+,+,+,+,+,+,+,+,+,+,2A227A,2A228,+,+,+,+,+,+,+,+,+,+,+,+,+,+,+
  +,+,+,+,+,+,+,+,+,+,+,+,+,+,+,+,+,+,+,+,+,+,+,+,2A267A,2A268,+,+,+,+,+,+,+,+,+,+,+,+,+,+,+,+,+,+
  +,+,+,2A289A,2A290,+,+,+,+,2A294A,2A295,+,+,+,+,2A299A,2A300,+,+,+,+,+,+,+,+,+,2A309A,2A310,+,+,+
  +,+,+,+,+,+,+,+,+,+,+,+,+,+,+,+,2A329A,2A330,+,2A332A,2A332B,2A332C,2A333,+,+,+,2A336A,2A336B
  2A336C,2A337,+,+,+,+,+,+,+,+,+,+,+,+,+,+,+,+,+,+,+,+,+,+,2A359A,2A360,+,+,+,+,2A364A,2A365,+,+,+
  2A368A,2A369,+,+,2A371A,2A372,+,+,+,+,+,+,+,+,+,2A381A,2A382,2A383 RA OR RI,2A383A,2A384,+,+
  2A386A,2A387,+,+,+,+,+,2A393 EIGHT,2A394,+,+,+,+,+,+,+,+,+,+,+,+,+,+,+,2A410 BEGIN LOGOGRAM MARK
  2A410A END*2,2A411,+,+,+,+,+,+,+,+,+,+,+,+,+,+,+,+,+,+,+,+,+,+,+,+,+,+,+,+,+,+,+,+,+,+,+,+,+,+,+
  2A450A,2A451,+,+,+,+,+,+,2A457A,2A458,+,+,+,+,+,+,+,+,+,+,+,+,+,+,+,+,+,+,+,+,+,+,+,+,+,+,+,+,+,+
  +,+,+,+,+,+,+,+,+,2A501,+,+,+,+,+,+,+,+,+,+,+,+,+,+,+,+,+,+,+,+,+,+,+,+,+,+,+,+,+
  @16800 BAMUM LETTER PHASE-A NGKUE MFON,3GBIEE FON,3PON MFON PIPAEMGBIEE,5PIPAEMBA,3NAA MFON
  3SHUENSHUET,3TITA MFON,3NZA*1,3SHINDA PA NJI,3PON PA NJI PIPAEMGBIEE,6PIPAEMBA,3MAEMBGBIEE
  3TU MAEMBA,3NGANGU,3MAEMVEUX,3MANSUAE,3MVEUAENGAM,3SEUNYAM,3NTOQPEN,3KEUKEUTNDA,3NKINDI,3SUU
  3NGKUENZEUM,3LAPAQ,3LET KUT,3NTAP MFAA,3MAEKEUP,3PASHAE,3GHEUAERAE,3PAMSHAE,3MON NGGEUAET
  3NZUN MEUT,3U YUQ NAE,3GHEUAEGHEUAE,3NTAP NTAA,3SISA,3MGBASA,3MEUNJOMNDEUQ,3MOOMPUQ,3KAFA
  3PA LEERAEWA,3NDA*1,3PET,3MAEMKPEN,3NIKA,3PUP,3TUAEP,3LUAEP,3SONJAM,3TEUTEUWEN,3MAENYI,3KET
  3NDAANGGEUAET,3KUOQ,3MOOMEUT,3SHUM,3LOMMAE,3FIRI,3ROM,3KPOQ,3SOQ,3MAP PIEET,3SHIRAE,3NTAP
  3SHOQ NSHUT YUM,3NYIT MONGKEUAEQ,3PAARAE,3NKAARAE,3UNKNOWN,3NGGEN,3MAESI,3NJAM,3MBANYI,3NYET
  3TEUAEN,3SOT,3PAAM,3NSHIEE,3MAEM,3NYI,3KAQ,3NSHA,3VEE,3LU,3NEN,3NAQ,3MBAQ,2PHASE-B NSHUET
  3TU MAEMGBIEE,3SIEE,3SET TU,3LOM NTEUM,3MBA MAELEE,3KIEEM,3YEURAE,3MBAARAE,3KAM,3PEESHI
  3YAFU LEERAEWA,3LAM NSHUT NYAM,3NTIEE SHEUOQ,3NDU NJAA,3GHEUGHEUAEM,3PIT,3TU NSIEE,3SHET NJAQ
  3SHEUAEQTU,3MFON TEUAEQ,3MBIT MBAAKET,3NYI NTEUM,3KEUPUQ,3GHEUGHEN,3KEUYEUX,3LAANAE,3PARUM,3VEUM
  3NGKINDI MVOP,3NGGEU MBU,3WUAET,3SAKEUAE,3TAAM,3MEUQ,3NGGUOQ,4LARGE,3MFIYAQ,3SUE,3MBEURI
  3MONTIEEN,3NYAEMAE,3PUNGAAM,3MEUT NGGEET,3FEUX,3MBUOQ,3FEE,3KEUAEM,3MA NJEUAENA,4NJUQA,3LET
  3NGGAAM,3NSEN,3MA,3KIQ,3NGOM,2PHASE-C NGKUE MAEMBA,3NZA,3YUM,3WANGKUOQ,3NGGEN,3NDEUAEREE,3NGKAQ
  3GHARAE,3MBEEKEET,3GBAYI,3NYIR MKPARAQ MEUN,3NTU MBIT,3MBEUM,3PIRIEEN,3NDOMBU,3MBAA CABBAGE-TREE
  3KEUSHEUAEP,3GHAP,3KEUKAQ,3YU MUOMAE,3NZEUM,3MBUE,3NSEUAEN,3MBIT,3YEUQ,3KPARAQ,3KAA,3SEUX,3NDIDA
  3TAASHAE,3NJUEQ,3TITA YUE,3SUAET,3NGGUAEN NYAM,3VEUX,3NANSANAQ,3MA KEUAERI,3NTAA,3NGGUON,3LAP
  3MBIRIEEN,3MGBASAQ,3NTEUNGBA,3TEUTEUX,3NGGUM,3FUE,3NDEUT,3NSA,3NSHAQ,3BUNG,3VEUAEPEN,3MBERAE,3RU
  3NJAEM,3LAM,3TITUAEP,3NSUOT NGOM,3NJEEEE,3KET,3NGGU,3MAESI,3MBUAEM,3LU,3KUT,3NJAM,3NGOM,3WUP
  3NGGUEET,3NSOM,3NTEN,3KUOP NKAARAE,3NSUN,3NDAM,3MA NSIEE,3YAA,3NDAP,3SHUEQ,3SETFON,3MBI,3MAEMBA
  3MBANYI,3KEUSEUX,3MBEUX,3KEUM,3MBAA PICKET,3YUWOQ,3NJEUX,3MIEE,3MUAE,3SHIQ,3KEN LAW,4FATIGUE
  3NGAQ,3NAQ,3LIQ,3PIN,3PEN,3TET,2PHASE-D MBUO,3WAP,3NJI,3MFON,3NJIEE,3LIEE,3NJEUT,3NSHEE,3NGGAAMAE
  3NYAM,3WUAEN,3NGKUN,3SHEE,3NGKAP,3KEUAETMEUN,3TEUT,3SHEUAE,3NJAP,3SUE,3KET,3YAEMMAE,3KUOM,3SAP
  3MFEUT,3NDEUX,3MALEERI,3MEUT,3SEUAEQ,3YEN,3NJEUAEM,3KEUOT MBUAE,3NGKEURI,3TU,3GHAA,3NGKYEE
  3FEUFEUAET,3NDEE,3MGBOFUM,3LEUAEP,3NDON,3MONI,3MGBEUN,3PUUT,3MGBIEE,3MFO,3LUM,3NSIEEP,3MBAA
  3KWAET,3NYET,3TEUAEN,3SOT,3YUWOQ,3KEUM,3RAEM,3TEEEE,3NGKEUAEQ,3MFEUAE,3NSIEET,3KEUP,3PIP,3PEUTAE
  3NYUE,3LET,3NGGAAM,3MFIEE,3NGGWAEN,3YUOM,3PAP,3YUOP,3NDAM,3NTEUM,3SUAE,3KUN,3NGGEUX,3NGKIEE,3TUOT
  3MEUN,3KUQ,3NSUM,3TEUN,3MAENJET,3NGGAP,3LEUM,3NGGUOM,3NSHUT,3NJUEQ,3GHEUAE,3KU,3REN OLD,3TAE,3TOQ
  3NYI,3RII,3LEEEE,3MEEEE,3M,3SUU,3MU,3SHII,3SHEUX,3KYEE,3NU,3SHU,3NTEE,3PEE,3NI,3SHOQ,3PUQ,3MVOP
  3LOQ,3REN MUCH,3TI,3NTUU,3MBAA SEVEN,3SAQ,3FAA,2PHASE-E NDAP,3TOON,3MBEUM,3LAP,3VOM,3LOON,3PAA
  3SOM,3RAQ,3NSHUOP,3NDUN,3PUAE,3TAM,3NGKA,3KPEUX,3WUO,3SEE,3NGGEUAET,3PAAM,3TOO,3KUOP,3LOM,3NSHIEE
  3NGOP,3MAEM,3NGKEUX,3NGOQ,3NSHUE,3RIMGBA,3NJEUX,3PEEM,3SAA,3NGGURAE,3MGBA,3GHEUX,3NGKEUAEM
  3NJAEMLI,3MAP,3LOOT,3NGGEEEE,3NDIQ,3TAEN NTEUM,3SET,3PUM,3NDAA SOFTNESS,3NGGUAESHAE NYAM,3YIEE
  3GHEUN,3TUAE,3YEUAE,3PO,3TUMAE,3KEUAE,3SUAEN,3TEUAEQ,3VEUAE,3WEUX,3LAAM,3PU,3TAAQ,3GHAAMAE
  3NGEUREUT,3SHEUAEQ,3MGBEN,3MBEE,3NZAQ,3NKOM,3GBET,3TUM,3KUET,3YAP,3NYI CLEAVER,3YIT,3MFEUQ,3NDIAQ
  3PIEEQ,3YUEQ,3LEUAEM,3FUE,3GBEUX,3NGKUP,3KET,3MAE,3NGKAAMI,3GHET,3FA,3NTUM,3PEUT,3YEUM,3NGGEUAE
  3NYI BETWEEN,3NZUQ,3POON,3MIEE,3FUET,3NAE,3MUAE,3GHEUAE,3FU I,3MVI,3PUAQ,3NGKUM,3KUT,3PIET,3NTAP
  3YEUAET,3NGGUP,3PA PEOPLE,3FU CALL,3FOM,3NJEE,3A,3TOQ,3O,3I,3LAQ,3PA PLURAL,3TAA,3TAQ
  3NDAA MY HOUSE,3SHIQ,3YEUX,3NGUAE,3YUAEN,3YOQ SWIMMING,4COVER,3YUQ,3YUN,3KEUX,3PEUX,3NJEE EPOCH
  3PUE,3WUE,3FEE,3VEE,3LU,3MI,3REUX,3RAE,3NGUAET,3NGA,3SHO,3SHOQ,3FU REMEDY,3NA,3PI,3LOQ,3KO,3MEN
  3MA,3MAQ,3TEU,3KI,3MON,3TEN,3FAQ,3GHOM,2PHASE-F KA,3U,3KU,3EE,3REE,3TAE,3NYI,3LA,3RII,3RIEE
  3MEEEE,3TAA,3NDAA,3NJAEM,3M,3SUU,3SHII,3SI,3SEUX,3KYEE,3KET,3NUAE,3NU,3NJUAE,3YOQ,3SHU,3YA,3NSHA
  3PEUX,3NTEE,3WUE,3PEE,3RU,3NI,3REUX,3KEN,3NGKWAEN,3NGGA,3SHO,3PUAE,3FOM,3WA,3LI,3LOQ,3KO,3MBEN
  3REN,3MA,3MO,3MBAA,3TET,3KPA,3SAMBA,3VUEQ,@16A40 MRO LETTER TA,2NGI,2YO,2MIM,2BA,2DA,2A,2PHI
  2KHAI,2HAO,2DAI,2CHU,2KEAAE,2OL,2MAEM,2NIN,2PA,2OO,2O,2RO,2SHI,2THEA,2EA,2WA,2E,2KO,2LAN,2LA,2HAI
  2RI,2TEK,@16A60 1DIGIT ZERO,2ONE,2TWO,2THREE,2FOUR,2FIVE,2SIX,2SEVEN,2EIGHT,2NINE,@16A6E 1DANDA
  1DOUBLE*1,TANGSA LETTER OZ,2OC,2OQ,2OX,2AZ,2AC,2AQ,2AX,2VZ,2VC,2VQ,2VX,2EZ,2EC,2EQ,2EX,2IZ,2IC
  2IQ,2IX,2UZ,2UC,2UQ,2UX,2AWZ,2AWC,2AWQ,2AWX,2UIZ,2UIC,2UIQ,2UIX,2FINAL NG,2LONG UEX,2SHORT UEZ
  3AWX,2UEC,2UEZ,2UEQ,2UEX,2UIUZ,2UIUC,2UIUQ,2UIUX,2MZ,2MC,2MQ,2MX,2KA,2KHA,2GA,2NGA,2SA,2YA,2WA
  2PA,2NYA,2PHA,2BA,2MA,2NA,2HA,2LA,2HTA,2TA,2DA,2RA,2NHA,2SHA,2CA,2TSA,2GHA,2HTTA,2THA,2XA,2FA
  2DHA,2CHA,2ZA,@16AC0 1DIGIT ZERO,2ONE,2TWO,2THREE,2FOUR,2FIVE,2SIX,2SEVEN,2EIGHT,2NINE
  @16AD0 BASSA VAH LETTER ENNI,3KA,3SE,3FA,3MBE,3YIE,3GAH,3DHII,3KPAH,3JO,3HWAH,3WA,3ZO,3GBU,3DO
  3CE,3UWU,3TO,3BA,3VU,3YEIN,3PA,3WADDA,3A,3O,3OO,3U,3EE,3E,3I,@16AF0 2COMBINING HIGH TONE,3LOW*1
  3MID*1,3LOW-MID*1,3HIGH-LOW*1,2FULL STOP,@16B00 PAHAWH HMONG VOWEL KEEB,3KEEV,3KIB,3KIV,3KAUB
  3KAUV,3KUB,3KUV,3KEB,3KEV,3KAIB,3KAIV,3KOOB,3KOOV,3KAWB,3KAWV,3KUAB,3KUAV,3KOB,3KOV,3KIAB,3KIAV
  3KAB,3KAV,3KWB,3KWV,3KAAB,3KAAV,2CONSONANT VAU,3NTSAU,3LAU,3HAU,3NLAU,3RAU,3NKAU,3QHAU,3YAU,3HLAU
  3MAU,3CHAU,3NCHAU,3HNAU,3PLHAU,3NTHAU,3NAU,3AU,3XAU,3CAU,2MARK CIM TUB,4SO,4KES,4KHAV,4SUAM,4HOM
  4TAUM,2SIGN VOS THOM,4TSHAB CEEB,3CIM CHEEM,3VOS THIAB,4FEEM,3XYEEM NTXIV,4RHO,4TOV,4FAIB
  3VOS SEEV,3MEEJ SUAB,3VOS NRUA,3IB YAM,3XAUS,3CIM TSOV ROG,@16B50 2DIGIT ZERO,3ONE,3TWO,3THREE
  3FOUR,3FIVE,3SIX,3SEVEN,3EIGHT,3NINE,@16B5B 2NUMBER TENS,3HUNDREDS,3TEN THOUSANDS,3MILLIONS
  3HUNDRED*1,3TEN BILLIONS,3TRILLIONS,@16B63 2SIGN VOS LUB,3XYOO,3HLI,3THIRD-STAGE*1,3ZWJ THAJ
  3HNUB,3NQIG,3XIAB,3NTUJ,3AV,3TXHEEJ CEEV,3MEEJ TSEEB,3TAU,3LOS,3MUS,3CIM HAIS LUS NTOG NTOG
  4CUAM TSHOOJ,4TXWV,5CHWV,4PUB DAWB,4NRES TOS,@16B7D 2CLAN SIGN TSHEEJ,4YEEG,4LIS,4LAUJ,4XYOOJ
  4KOO,4HAWJ,4MUAS,4THOJ,4TSAB,4PHAB,4KHAB,4HAM,4VAJ,4FAJ,4YAJ,4TSWB,4KWM,4VWJ
  @16E40 MEDEFAIDRIN CAPITAL LETTER M,3S,3V,3W,3ATIU,3Z,3KP,3P,3T,3G,3F,3I,3K,3A,3J,3E,3B,3C,3U,3YU
  3L,3Q,3HP,3NY,3X,3D,3OE,3N,3R,3O,3AI,3Y,1SMALL LETTER M,3S,3V,3W,3ATIU,3Z,3KP,3P,3T,3G,3F,3I,3K
  3A,3J,3E,3B,3C,3U,3YU,3L,3Q,3HP,3NY,3X,3D,3OE,3N,3R,3O,3AI,3Y,1DIGIT ZERO,2ONE,2TWO,2THREE,2FOUR
  2FIVE,2SIX,2SEVEN,2EIGHT,2NINE,1NUMBER TEN,2ELEVEN,2TWELVE,2THIRTEEN,2FOURTEEN,2FIFTEEN,2SIXTEEN
  2SEVENTEEN,2EIGHTEEN,2NINETEEN,1DIGIT ONE ALTERNATE FORM,2TWO*2,2THREE*2,1COMMA,1FULL STOP
  1SYMBOL AIVA,1EXCLAMATION OH,@16F00 MIAO LETTER PA,2BA,2YI PA,2PLA,2MA,2MHA,2ARCHAIC MA,2FA,2VA
  2VFA,2TA,2DA,2YI TTA,3TA,2TTA,2DDA,2NA,2NHA,2YI NNA,2ARCHAIC NA,2NNA,2NNHA,2LA,2LYA,2LHA,2LHYA
  2TLHA,2DLHA,2TLHYA,2DLHYA,2KA,2GA,2YI KA,2QA,2QGA,2NGA,2NGHA,2ARCHAIC NGA,2HA,2XA,2GHA,2GHHA
  2TSSA,2DZZA,2NYA,2NYHA,2TSHA,2DZHA,2YI TSHA,3DZHA,2REFORMED TSHA,2SHA,2SSA,2ZHA,2ZSHA,2TSA,2DZA
  2YI TSA,2SA,2ZA,2ZSA,2ZZA,2ZZSA,2ARCHAIC ZZA,2ZZYA,2ZZSYA,2WA,2AH,2HHA,2BRI,2SYI,2DZYI,2TE,2TSE
  2RTE,@16F4F 1SIGN CONSONANT MODIFIER BAR,1LETTER NASALIZATION,1SIGN ASPIRATION,2REFORMED VOICING
  3ASPIRATION,1VOWEL SIGN A,3AA,3AHH,3AN,3ANG,3O,3OO,3WO,3W,3E,3EN,3ENG,3OEY,3I,3IA,3IAN,3IANG,3IO
  3IE,3II,3IU,3ING,3U,3UA,3UAN,3UANG,3UU,3UEI,3UNG,3Y,3YI,3AE,3AEE,3ERR,3ROUNDED*1,3ER,3ROUNDED*1
  3AI,3EI,3AU,3OU,3N,3NG,3UOG,3YUI,3OG,3OER,3VW,3IG,3EA,3IONG,3UI,@16F8F 1TONE RIGHT,2TOP*1,2ABOVE
  2BELOW,1LETTER TONE-2,+,+,+,+,+,+,2REFORMED TONE-1,+,3TONE-4,+,+,3TONE-8
  @16FE0 TANGUT ITERATION MARK,NUSHU*2,OLD CHINESE HOOK*1,2ITERATION*1,KHITAN SMALL SCRIPT FILLER
  @16FF0 VIETNAMESE ALTERNATE READING MARK CA,4NHAY,@18800 TANGUT COMPONENT-001,+,+,+,+,+,+,+,+,+,+
  +,+,+,+,+,+,+,+,+,+,+,+,+,+,+,+,+,+,+,+,+,+,+,+,+,+,+,+,+,+,+,+,+,+,+,+,+,+,+,+,+,+,+,+,+,+,+,+,+
  +,+,+,+,+,+,+,+,+,+,+,+,+,+,+,+,+,+,+,+,+,+,+,+,+,+,+,+,+,+,+,+,+,+,+,+,+,+,+,+,+,+,+,+,+,+,+,+,+
  +,+,+,+,+,+,+,+,+,+,+,+,+,+,+,+,+,+,+,+,+,+,+,+,+,+,+,+,+,+,+,+,+,+,+,+,+,+,+,+,+,+,+,+,+,+,+,+,+
  +,+,+,+,+,+,+,+,+,+,+,+,+,+,+,+,+,+,+,+,+,+,+,+,+,+,+,+,+,+,+,+,+,+,+,+,+,+,+,+,+,+,+,+,+,+,+,+,+
  +,+,+,+,+,+,+,+,+,+,+,+,+,+,+,+,+,+,+,+,+,+,+,+,+,+,+,+,+,+,+,+,+,+,+,+,+,+,+,+,+,+,+,+,+,+,+,+,+
  +,+,+,+,+,+,+,+,+,+,+,+,+,+,+,+,+,+,+,+,+,+,+,+,+,+,+,+,+,+,+,+,+,+,+,+,+,+,+,+,+,+,+,+,+,+,+,+,+
  +,+,+,+,+,+,+,+,+,+,+,+,+,+,+,+,+,+,+,+,+,+,+,+,+,+,+,+,+,+,+,+,+,+,+,+,+,+,+,+,+,+,+,+,+,+,+,+,+
  +,+,+,+,+,+,+,+,+,+,+,+,+,+,+,+,+,+,+,+,+,+,+,+,+,+,+,+,+,+,+,+,+,+,+,+,+,+,+,+,+,+,+,+,+,+,+,+,+
  +,+,+,+,+,+,+,+,+,+,+,+,+,+,+,+,+,+,+,+,+,+,+,+,+,+,+,+,+,+,+,+,+,+,+,+,+,+,+,+,+,+,+,+,+,+,+,+,+
  +,+,+,+,+,+,+,+,+,+,+,+,+,+,+,+,+,+,+,+,+,+,+,+,+,+,+,+,+,+,+,+,+,+,+,+,+,+,+,+,+,+,+,+,+,+,+,+,+
  +,+,+,+,+,+,+,+,+,+,+,+,+,+,+,+,+,+,+,+,+,+,+,+,+,+,+,+,+,+,+,+,+,+,+,+,+,+,+,+,+,+,+,+,+,+,+,+,+
  +,+,+,+,+,+,+,+,+,+,+,+,+,+,+,+,+,+,+,+,+,+,+,+,+,+,+,+,+,+,+,+,+,+,+,+,+,+,+,+,+,+,+,+,+,+,+,+,+
  +,+,+,+,+,+,+,+,+,+,+,+,+,+,+,+,+,+,+,+,+,+,+,+,+,+,+,+,+,+,+,+,+,+,+,+,+,+,+,+,+,+,+,+,+,+,+,+,+
  +,+,+,+,+,+,+,+,+,+,+,+,+,+,+,+,+,+,+,+,+,+,+,+,+,+,+,+,+,+,+,+,+,+,+,+,+,+,+,+,+,+,+,+,+,+,+,+,+
  +,+,+,+,+,+,+,+,+,+,+,+,+,+,+,+,+,+,+,+,+,+,+,+,+,+,+,+,+,+,+,+,+,+,+,+,+,+,+,+,+,+,+,+,+,+,+,+,+
  +,+,+,+,+,+,+,+,+,+,+,+,+,+,+,+,+,+,+,+,+,+,@1AFF0 KATAKANA LETTER MINNAN TONE-2,+,+,+
  @1AFF5 3TONE-7,+,3NASALIZED TONE-1,+,+,+,+,@1AFFD 4TONE-7,+,@1B000 2ARCHAIC E
  HIRAGANA LETTER ARCHAIC YE,HENTAIGANA LETTER A-1,+,+,2A-WO,2I-1,+,+,+,2U-1,+,+,+,+,2E-2,+,+,+,+
  2O-1,+,+,2KA-1,+,+,+,+,+,+,+,+,+,+,2KA-KE,2KI-1,+,+,+,+,+,+,+,2KU-1,+,+,+,+,+,+,2KE-1,+,+,+,+,+
  2KO-1,+,+,2KO-KI,2SA-1,+,+,+,+,+,+,+,2SI-1,+,+,+,+,+,2SU-1,+,+,+,+,+,+,+,2SE-1,+,+,+,+,2SO-1,+,+
  +,+,+,+,2TA-1,+,+,+,2TI-1,+,+,+,+,+,+,2TU-1,+,+,+,2TU-TO,2TE-1,+,+,+,+,+,+,+,+,2TO-1,+,+,+,+,+
  2TO-RA,2NA-1,+,+,+,+,+,+,+,+,2NI-1,+,+,+,+,+,+,2NI-TE,2NU-1,+,+,2NE-1,+,+,+,+,+,2NE-KO,2NO-1,+,+
  +,+,2HA-1,+,+,+,+,+,+,+,+,+,+,2HI-1,+,+,+,+,+,+,2HU-1,+,+,2HE-1,+,+,+,+,+,+,2HO-1,+,+,+,+,+,+,+
  2MA-1,+,+,+,+,+,+,2MI-1,+,+,+,+,+,+,2MU-1,+,+,+,2ME-1,+,2ME-MA,2MO-1,+,+,+,+,+,2YA-1,+,+,+,+
  2YA-YO,2YU-1,+,+,+,2YO-1,+,+,+,+,+,2RA-1,+,+,+,2RI-1,+,+,+,+,+,+,2RU-1,+,+,+,+,+,2RE-1,+,+,+
  2RO-1,+,+,+,+,+,2WA-1,+,+,+,+,2WI-1,+,+,+,+,2WE-1,+,+,+,2WO-1,+,+,+,+,+,+,2N-MU-MO-1,+
  HIRAGANA LETTER ARCHAIC WU,KATAKANA LETTER ARCHAIC YI,3YE,3WU,@1B150 HIRAGANA LETTER SMALL WI,3WE
  3WO,@1B164 KATAKANA LETTER SMALL WI,3WE,3WO,3N,@1BC00 DUPLOYAN LETTER H,2X,2P,2T,2F,2K,2L,2B,2D
  2V,2G,2R,2P N,2D S,2F N,2K M,2R S,2TH,2SLOAN DH,2DH,2KK,2SLOAN J,2HL,2LH,2RH,2M,2N,2J,2S,2M N
  2N M,2J M,2S J,2M WITH DOT,2N*2,2J*2,4DOTS INSIDE AND ABOVE,2S WITH DOT,5BELOW,2M S,2N S,2J S
  2S S,2M N S,2N M S,2J*2,2S J S,2J S WITH DOT,3N,4S,2S T,4R,3P,4R,2T S,3R S,2W,2WH,2W R,2S N,3M
  2K R S,2G*2,2S K,4R,2A,2SLOAN OW,2OA,2O,2AOU,2I,2E,2IE,2SHORT I,2UI,2EE,2SLOAN EH,2ROMANIAN I
  2SLOAN EE,2LONG I,2YE,2U,2EU,2XW,2U N,2LONG U,2ROMANIAN U,2UH,2SLOAN U,2OOH,2OW,2OU,2WA,2WO,2WI
  2WEI,2WOW,2NASAL U,3O,3I,3A,2PERNIN AN,3AM,2SLOAN EN,3AN,3ON,2VOCALIC M
  @1BC70 1AFFIX LEFT HORIZONTAL SECANT,2MID*2,2RIGHT*2,2LOW VERTICAL*1,2MID*2,2HIGH*2,2ATTACHED*1
  3LEFT-TO-RIGHT*1,3TANGENT,3TAIL,3E HOOK,3I*1,3TANGENT*1,@1BC80 2HIGH ACUTE,3TIGHT*1,3GRAVE
  3LONG*1,3DOT,3CIRCLE,3LINE,3WAVE,3VERTICAL,@1BC90 2LOW ACUTE,3TIGHT*1,3GRAVE,3LONG*1,3DOT,3CIRCLE
  3LINE,3WAVE,3VERTICAL,3ARROW,@1BC9C 1SIGN O WITH CROSS,1THICK LETTER SELECTOR,1DOUBLE MARK
  1PUNCTUATION CHINOOK FULL STOP,SHORTHAND FORMAT LETTER OVERLAP,2CONTINUING*1,2DOWN STEP,2UP*1
  @1CF00 ZNAMENNY COMBINING MARK GORAZDO NIZKO S KRYZHEM ON LEFT,3*5,3TSATA*2,3GORAZDO NIZKO*2,3*3
  3SREDNE*2,3MALO POVYSHE*2,3*3,3VYSOKO*2,3MALO POVYSHE S KHOKHLOM*2,3*5,3VYSOKO*4
  3GORAZDO NIZKO S KRYZHEM ON RIGHT,3*5,3TSATA*2,3GORAZDO NIZKO*2,3*3,3SREDNE*2,3MALO POVYSHE*2,3*3
  3VYSOKO*2,3MALO POVYSHE S KHOKHLOM*2,3*5,3VYSOKO*4,3TSATA S KRYZHEM,3MALO POVYSHE*2
  3STRANNO MALO POVYSHE,3POVYSHE S KRYZHEM,4STRANNO,3VYSOKO S KRYZHEM,3MALO POVYSHE STRANNO
  3GORAZDO VYSOKO,3ZELO,3ON,3RAVNO,3TIKHAYA,3BORZAYA,3UDARKA,3PODVERTKA,3LOMKA,3KUPNAYA,3KACHKA
  3ZEVOK,3SKOBA,3RAZSEKA,3KRYZH ON LEFT,@1CF30 2TONAL RANGE MARK MRACHNO,5SVETLO,5TRESVETLO
  2MARK ZADERZHKA,3DEMESTVENNY*1,3OTSECHKA,3PODCHASHIE,4WITH VERTICAL STROKE,3CHASHKA,4POLNAYA
  3OBLACHKO,3SOROCHYA NOZHKA,3TOCHKA,3DVOETOCHIE,2ATTACHING VERTICAL OMET,2MARK CURVED*1,3KRYZH
  2LOWER TONAL RANGE INDICATOR,1PRIZNAK MODIFIER LEVEL-2,+,3DIRECTION FLIP,3KRYZH,3ROG
  @1CF50 1NEUME KRYUK,3TIKHY,2PARAKLIT,2DVA V CHELNU,2KLYUCH,2ZANOZHEK,2STOPITSA,3S OCHKOM
  2PEREVODKA,3NEPOSTOYANNAYA,2STOPITSA WITH SOROCHYA NOZHKA,2CHELYUSTKA,2PALKA,2ZAPYATAYA
  2GOLUBCHIK BORZY,3TIKHY,3MRACHNY,3SVETLY,3TRESVETLY,2VRAKHIYA PROSTAYA,3MRACHNAYA,3SVETLAYA
  3TRESVETLAYA,3KLYUCHEVAYA PROSTAYA,4MRACHNAYA,4SVETLAYA,4TRESVETLAYA,2DOUBLE ZAPYATAYA
  2REVERSED CHELYUSTKA,2DERBITSA,2KHAMILO,2CHASHKA,2PODCHASHIE,2SKAMEYTSA MRACHNAYA,3SVETLAYA
  3TRESVETLAYA,3TIKHAYA,2DEMESTVENNY KLYUCH,2SKAMEYTSA KLYUCHEVAYA SVETLAYA,3KLYUCHENEPOSTOYANNAYA
  3KLYUCHEVAYA TIKHAYA,3DVOECHELNAYA PROSTAYA,4SVETLAYA,4NEPOSTOYANNAYA,4KLYUCHEVAYA,2SLOZHITIE
  3S ZAPYATOY,3ZAKRYTOE,3S KRYZHEM,2KRYZH,2ROG,2FITA,2KOBYLA,2ZMEYTSA,2STATYA,3S ZAPYATOY,4KRYZHEM
  4ZAPYATOY I*1,4KRYZHEM I ZAPYATOY,3ZAKRYTAYA,4S ZAPYATOY,3S ROGOM,4DVUMYA ZAPYATYMI
  4ZAPYATOY I PODCHASHIEM,2POLKULIZMY,2STATYA NEPOSTOYANNAYA,2STRELA PROSTAYA,3MRACHNOTIKHAYA
  3KRYZHEVAYA,3POLUPOVODNAYA,3POVODNAYA,3NEPOSTOYANNAYA,3KLYUCHEPOVODNAYA,3KLYUCHENEPOSTOYANNAYA
  3TIKHAYA PUTNAYA,3DVOECHELNAYA,3DVOECHELNOKRYZHEVAYA,3DVOECHELNOPOVODNAYA
  3DVOECHELNAYA KLYUCHEVAYA,3DVOECHELNOPOVODNAYA*1,3GROMNAYA WITH SINGLE ZAPYATAYA
  3GROMOPOVODNAYA*3,3GROMNAYA,3GROMOPOVODNAYA,4WITH DOUBLE ZAPYATAYA,3GROMOKRYZHEVAYA,4POVODNAYA
  2MECHIK,3POVODNY,3KLYUCHEVOY,3KLYUCHEPOVODNY,3KLYUCHENEPOSTOYANNY,2STRELA TRYASOGLASNAYA
  3TRYASOPOVODNAYA,3TRYASOSTRELNAYA,2OSOKA,3SVETLAYA,3TRESVETLAYA,3KRYUKOVAYA SVETLAYA
  3KLYUCHEVAYA*1,4NEPOSTOYANNAYA,2STRELA KRYUKOVAYA,4POVODNAYA,4GROMNAYA WITH SINGLE ZAPYATAYA
  4GROMOPOVODNAYA*3,4GROMNAYA,4GROMOPOVODNAYA,5WITH DOUBLE ZAPYATAYA,4GROMOKRYZHEVAYA,5POVODNAYA
  4TRYASKA,2KUFISMA,2OBLAKO,2DUDA,2NEMKA,2PAUK"

end Findings.Text.CharName
