/-!
Names of letters and signs of ancient scripts and of further scripts of India.
-/

namespace Findings.Text.CharName

/-- Code points from U+10000 on; `NameList` tells how the list is read. -/
def ancientScripts : String := "
  @10000 LINEAR B SYLLABLE B008 A,3B038 E,3B028 I,3B061 O,3B010 U,3B001 DA,3B045 DE,3B007 DI
  3B014 DO,3B051 DU,3B057 JA,3B046 JE,@1000D 3B036 JO,3B065 JU,3B077 KA,3B044 KE,3B067 KI,3B070 KO
  3B081 KU,3B080 MA,3B013 ME,3B073 MI,3B015 MO,3B023 MU,3B006 NA,3B024 NE,3B030 NI,3B052 NO
  3B055 NU,3B003 PA,3B072 PE,3B039 PI,3B011 PO,3B050 PU,3B016 QA,3B078 QE,3B021 QI,3B032 QO
  @10028 3B060 RA,3B027 RE,3B053 RI,3B002 RO,3B026 RU,3B031 SA,3B009 SE,3B041 SI,3B012 SO,3B058 SU
  3B059 TA,3B004 TE,3B037 TI,3B005 TO,3B069 TU,3B054 WA,3B075 WE,3B040 WI,3B042 WO,@1003C 3B017 ZA
  3B074 ZE,@1003F 3B020 ZO,3B025 A2,3B043 A3,3B085 AU,3B071 DWE,3B090 DWO,3B048 NWA,3B029 PU2
  3B062 PTE,3B076 RA2,3B033 RA3,3B068 RO2,3B066 TA2,3B087 TWE,3B091 TWO,@10050 2SYMBOL B018,+,3B022
  3B034,3B047,3B049,3B056,3B063,+,3B079,3B082,+,3B086,3B089,@10080 2IDEOGRAM B100 MAN,3B102 WOMAN
  3B104 DEER,3B105 EQUID,3B105F MARE,3B105M STALLION,3B106F EWE,3B106M RAM,3B107F SHE-GOAT
  3B107M HE-GOAT,3B108F SOW,3B108M BOAR,3B109F COW,3B109M BULL,3B120 WHEAT,3B121 BARLEY,3B122 OLIVE
  3B123 SPICE,3B125 CYPERUS,2MONOGRAM B127 KAPO,3B128 KANAKO,2IDEOGRAM B130 OIL,3B131 WINE,3B132
  2MONOGRAM B133 AREPA,3B135 MERI,2IDEOGRAM B140 BRONZE,3B141 GOLD,3B142,3B145 WOOL,3B146,3B150
  3B151 HORN,3B152,+,+,2MONOGRAM B156 TURO2,2IDEOGRAM B157,+,3B159 CLOTH,3B160,+,3B162 GARMENT
  3B163 ARMOUR,3B164,+,+,+,+,+,+,+,+,3B173 MONTH,3B174,3B176 TREE,3B177,+,+,+,+,+,+,+,+,3B189,+
  3B191 HELMET,3B220 FOOTSTOOL,3B225 BATHTUB,3B230 SPEAR,3B231 ARROW,3B232,3B233 SWORD,3B234,3B236
  3B240 WHEELED CHARIOT,3B241*1,3B242 CHARIOT FRAME,3B243 WHEEL,3B245,+,2MONOGRAM B247 DIPTE
  2IDEOGRAM B248,+,3B251,+,+,3B254 DART,3B255,+,+,+,+,3VESSEL B155,4B200,+,+,+,+,+,+,+,+,+,+,+,+,+
  +,+,+,+,+,+,4B221,+,4B226,+,+,+,4B250,4B305,@10100 AEGEAN WORD SEPARATOR LINE,3DOT,1CHECK MARK
  @10107 1NUMBER ONE,2TWO,2THREE,2FOUR,2FIVE,2SIX,2SEVEN,2EIGHT,2NINE,2TEN,2TWENTY,2THIRTY,2FORTY
  2FIFTY,2SIXTY,2SEVENTY,2EIGHTY,2NINETY,2ONE HUNDRED,2TWO*1,2THREE*1,2FOUR*1,2FIVE*1,2SIX*1
  2SEVEN*1,2EIGHT*1,2NINE*1,2ONE THOUSAND,2TWO*1,2THREE*1,2FOUR*1,2FIVE*1,2SIX*1,2SEVEN*1,2EIGHT*1
  2NINE*1,2TEN*1,2TWENTY*1,2THIRTY*1,2FORTY*1,2FIFTY*1,2SIXTY*1,2SEVENTY*1,2EIGHTY*1,2NINETY*1
  @10137 1WEIGHT BASE UNIT,2FIRST SUBUNIT,2SECOND*1,2THIRD*1,2FOURTH*1,1DRY MEASURE FIRST*1
  1LIQUID*3,1MEASURE SECOND*1,2THIRD*1,GREEK ACROPHONIC ATTIC ONE QUARTER,4HALF,4DRACHMA,3FIVE
  3FIFTY,3FIVE HUNDRED,4THOUSAND,3FIFTY*1,3FIVE TALENTS,3TEN*1,3FIFTY*1,3ONE HUNDRED*1,3FIVE*2
  3ONE THOUSAND*1,3FIVE*2,4STATERS,3TEN*1,3FIFTY*1,3ONE HUNDRED*1,3FIVE*2,3ONE THOUSAND*1,3TEN*2
  3FIFTY*2,3TEN MNAS,2HERAEUM ONE PLETHRON,2THESPIAN ONE,2HERMIONIAN*1,2EPIDAUREAN TWO,2THESPIAN*1
  2CYRENAIC TWO DRACHMAS,2EPIDAUREAN*2,2TROEZENIAN FIVE,3TEN,4ALTERNATE FORM,2HERMIONIAN TEN
  2MESSENIAN*1,2THESPIAN*1,3THIRTY,2TROEZENIAN FIFTY,4ALTERNATE FORM,2HERMIONIAN FIFTY,2THESPIAN*1
  3ONE HUNDRED,3THREE*1,2EPIDAUREAN FIVE*1,2TROEZENIAN*2,2THESPIAN*2,2CARYSTIAN*2,2NAXIAN*2
  2THESPIAN ONE THOUSAND,3FIVE*1,2DELPHIC FIVE MNAS,2STRATIAN FIFTY*1,1ONE HALF SIGN
  4ALTERNATE FORM,1TWO THIRDS SIGN,1THREE QUARTERS*1,1YEAR*1,1TALENT*1,1DRACHMA*1,1OBOL*1
  1TWO OBOLS*1,1THREE*2,1FOUR*2,1FIVE*2,1METRETES*1,1KYATHOS BASE*1,1LITRA*1,1OUNKIA*1,1XESTES*1
  1ARTABE*1,1AROURA*1,1GRAMMA*1,1TRYBLION BASE*1,1ZERO*1,1ONE QUARTER*1,1SINUSOID*1,1INDICTION*1
  NOMISMA*1,@10190 ROMAN SEXTANS*1,1UNCIA*1,1SEMUNCIA*1,1SEXTULA*1,1DIMIDIA*2,1SILIQUA*1
  1DENARIUS*1,1QUINARIUS*1,1SESTERTIUS*1,1DUPONDIUS*1,1AS*1,1CENTURIAL*1,ASCIA SYMBOL
  @101A0 GREEK SYMBOL TAU RHO,@101D0 PHAISTOS DISC SIGN PEDESTRIAN,3PLUMED HEAD,3TATTOOED*1
  3CAPTIVE,3CHILD,3WOMAN,3HELMET,3GAUNTLET,3TIARA,3ARROW,3BOW,3SHIELD,3CLUB,3MANACLES,3MATTOCK,3SAW
  3LID,3BOOMERANG,3CARPENTRY PLANE,3DOLIUM,3COMB,3SLING,3COLUMN,3BEEHIVE,3SHIP,3HORN,3HIDE
  3BULLS LEG,3CAT,3RAM,3EAGLE,3DOVE,3TUNNY,3BEE,3PLANE TREE,3VINE,3PAPYRUS,3ROSETTE,3LILY,3OX BACK
  3FLUTE,3GRATER,3STRAINER,3SMALL AXE,3WAVY BAND,3COMBINING OBLIQUE STROKE,@10280 LYCIAN LETTER A
  2E,2B,2BH,2G,2D,2I,2W,2Z,2TH,2J,2K,2Q,2L,2M,2N,2MM,2NN,2U,2P,2KK,2R,2S,2T,2TT,2AN,2EN,2H,2X
  @102A0 CARIAN LETTER A,2P2,2D,2L,2UUU,2R,2LD,2A2,2Q,2B,2M,2O,2D2,2T,2SH,2SH2,2S,2C-18,2U,2NN,2X
  2N,2TT2,2P,2SS,2I,2E,2UUUU,2K,2K2,2ND,2UU,2G,2G2,2ST,2ST2,2NG,2II,2C-39,2TT,2UUU2,2RR,2MB,2MB2,+
  +,2LD2,2E2,2UUU3,@102E0 COPTIC EPACT THOUSANDS MARK,2DIGIT ONE,3TWO,3THREE,3FOUR,3FIVE,3SIX
  3SEVEN,3EIGHT,3NINE,2NUMBER TEN,3TWENTY,3THIRTY,3FORTY,3FIFTY,3SIXTY,3SEVENTY,3EIGHTY,3NINETY
  3ONE HUNDRED,3TWO*1,3THREE*1,3FOUR*1,3FIVE*1,3SIX*1,3SEVEN*1,3EIGHT*1,3NINE*1
  @10300 OLD ITALIC LETTER A,3BE,3KE,3DE,3E,3VE,3ZE,3HE,3THE,3I,3KA,3EL,3EM,3EN,3ESH,3O,3PE,3SHE
  3KU,3ER,3ES,3TE,3U,3EKS,3PHE,3KHE,3EF,3ERS,3CHE,3II,3UU,3ESS,2NUMERAL ONE,3FIVE,3TEN,3FIFTY
  @1032D 2LETTER YE,3NORTHERN TSE,3SOUTHERN*1,GOTHIC LETTER AHSA,2BAIRKAN,2GIBA,2DAGS,2AIHVUS
  2QAIRTHRA,2IUJA,2HAGL,2THIUTH,2EIS,2KUSMA,2LAGUS,2MANNA,2NAUTHS,2JER,2URUS,2PAIRTHRA,2NINETY
  2RAIDA,2SAUIL,2TEIWS,2WINJA,2FAIHU,2IGGWS,2HWAIR,2OTHAL,2NINE HUNDRED,@10350 OLD PERMIC LETTER AN
  3BUR,3GAI,3DOI,3E,3ZHOI,3DZHOI,3ZATA,3DZITA,3I,3KOKE,3LEI,3MENOE,3NENOE,3VOOI,3PEEI,3REI,3SII
  3TAI,3U,3CHERY,3SHOOI,3SHCHOOI,3YRY,3YERU,3O,3OO,3EF,3HA,3TSIU,3VER,3YER,3YERI,3YAT,3IE,3YU,3YA
  3IA,COMBINING OLD PERMIC LETTER AN,4DOI,4ZATA,4NENOE,4SII,@10380 UGARITIC LETTER ALPA,2BETA
  2GAMLA,2KHA,2DELTA,2HO,2WO,2ZETA,2HOTA,2TET,2YOD,2KAF,2SHIN,2LAMDA,2MEM,2DHAL,2NUN,2ZU,2SAMKA
  2AIN,2PU,2SADE,2QOPA,2RASHA,2THANNA,2GHAIN,2TO,2I,2U,2SSU,@1039F 1WORD DIVIDER,OLD PERSIAN SIGN A
  3I,3U,3KA,3KU,3GA,3GU,3XA,3CA,3JA,3JI,3TA,3TU,3DA,3DI,3DU,3THA,3PA,3BA,3FA,3NA,3NU,3MA,3MI,3MU
  3YA,3VA,3VI,3RA,3RU,3LA,3SA,3ZA,3SHA,3SSA,3HA,@103C8 3AURAMAZDAA,3AURAMAZDAA-2,3AURAMAZDAAHA
  3XSHAAYATHIYA,3DAHYAAUSH,3DAHYAAUSH-2,3BAGA,3BUUMISH,2WORD DIVIDER,2NUMBER ONE,3TWO,3TEN,3TWENTY
  3HUNDRED,@10400 DESERET CAPITAL LETTER LONG I,4E,4A,4AH,4O,4OO,3SHORT I,4E,4A,4AH,4O,4OO,3AY,3OW
  3WU,3YEE,3H,3PEE,3BEE,3TEE,3DEE,3CHEE,3JEE,3KAY,3GAY,3EF,3VEE,3ETH,3THEE,3ES,3ZEE,3ESH,3ZHEE,3ER
  3EL,3EM,3EN,3ENG,3OI,3EW,1SMALL LETTER LONG I,4E,4A,4AH,4O,4OO,3SHORT I,4E,4A,4AH,4O,4OO,3AY,3OW
  3WU,3YEE,3H,3PEE,3BEE,3TEE,3DEE,3CHEE,3JEE,3KAY,3GAY,3EF,3VEE,3ETH,3THEE,3ES,3ZEE,3ESH,3ZHEE,3ER
  3EL,3EM,3EN,3ENG,3OI,3EW,SHAVIAN LETTER PEEP,2TOT,2KICK,2FEE,2THIGH,2SO,2SURE,2CHURCH,2YEA,2HUNG
  2BIB,2DEAD,2GAG,2VOW,2THEY,2ZOO,2MEASURE,2JUDGE,2WOE,2HA-HA,2LOLL,2MIME,2IF,2EGG,2ASH,2ADO,2ON
  2WOOL,2OUT,2AH,2ROAR,2NUN,2EAT,2AGE,2ICE,2UP,2OAK,2OOZE,2OIL,2AWE,2ARE,2OR,2AIR,2ERR,2ARRAY,2EAR
  2IAN,2YEW,OSMANYA LETTER ALEF,2BA,2TA,2JA,2XA,2KHA,2DEEL,2RA,2SA,2SHIIN,2DHA,2CAYN,2GA,2FA,2QAAF
  2KAAF,2LAAN,2MIIN,2NUUN,2WAW,2HA,2YA,2A,2E,2I,2O,2U,2AA,2EE,2OO,@104A0 1DIGIT ZERO,2ONE,2TWO
  2THREE,2FOUR,2FIVE,2SIX,2SEVEN,2EIGHT,2NINE,@104B0 OSAGE CAPITAL LETTER A,3AI,3AIN,3AH,3BRA,3CHA
  3EHCHA,3E,3EIN,3HA,3HYA,3I,3KA,3EHKA,3KYA,3LA,3MA,3NA,3O,3OIN,3PA,3EHPA,3SA,3SHA,3TA,3EHTA,3TSA
  3EHTSA,3TSHA,3DHA,3U,3WA,3KHA,3GHA,3ZA,3ZHA,@104D8 1SMALL LETTER A,3AI,3AIN,3AH,3BRA,3CHA,3EHCHA
  3E,3EIN,3HA,3HYA,3I,3KA,3EHKA,3KYA,3LA,3MA,3NA,3O,3OIN,3PA,3EHPA,3SA,3SHA,3TA,3EHTA,3TSA,3EHTSA
  3TSHA,3DHA,3U,3WA,3KHA,3GHA,3ZA,3ZHA,@10500 ELBASAN LETTER A,2BE,2CE,2CHE,2DE,2NDE,2DHE,2EI,2E
  2FE,2GE,2GJE,2HE,2I,2JE,2KE,2LE,2LLE,2ME,2NE,2NA,2NJE,2O,2PE,2QE,2RE,2RRE,2SE,2SHE,2TE,2THE,2U
  2VE,2XE,2Y,2ZE,2ZHE,2GHE,2GHAMMA,2KHE,@10530 CAUCASIAN ALBANIAN LETTER ALT,3BET,3GIM,3DAT,3EB
  3ZARL,3EYN,3ZHIL,3TAS,3CHA,3YOWD,3ZHA,3IRB,3SHA,3LAN,3INYA,3XEYN,3DYAN,3CAR,3JHOX,3KAR,3LYIT
  3HEYT,3QAY,3AOR,3CHOY,3CHI,3CYAY,3MAQ,3QAR,3NOWC,3DZYAY,3SHAK,3JAYN,3ON,3TYAY,3FAM,3DZAY,3CHAT
  3PEN,3GHEYS,3RAT,3SEYK,3VEYZ,3TIWR,3SHOY,3IWN,3CYAW,3CAYN,3YAYD,3PIWR,3KIW,@1056F 2CITATION MARK
  VITHKUQI CAPITAL LETTER A,3BBE,3BE,3CE,3CHE,3DE,3DHE,3EI,3E,3FE,3GA,@1057C 3HA,3HHA,3I,3IJE,3JE
  3KA,3LA,3LLA,3ME,3NE,3NJE,3O,3PE,3QA,3RE,@1058C 3SE,3SHE,3TE,3THE,3U,3VE,3XE,@10594 3Y,3ZE
  @10597 1SMALL LETTER A,3BBE,3BE,3CE,3CHE,3DE,3DHE,3EI,3E,3FE,3GA,@105A3 3HA,3HHA,3I,3IJE,3JE,3KA
  3LA,3LLA,3ME,3NE,3NJE,3O,3PE,3QA,3RE,@105B3 3SE,3SHE,3TE,3THE,3U,3VE,3XE,@105BB 3Y,3ZE
  @10600 LINEAR A SIGN AB001,+,+,+,+,+,+,+,+,+,+,3AB013,3AB016,+,3AB020,+,3AB021F,3AB021M,3AB022
  3AB022F,3AB022M,3AB023,3AB023M,3AB024,3AB026,+,+,3A028B,3AB029,+,+,3AB034,3AB037,+,+,+,+,3AB044,+
  +,+,+,+,+,+,3AB053,+,+,+,+,+,+,+,+,3AB065,+,+,3AB069,+,3AB073,+,3AB076,+,+,+,+,+,+,3AB085,+,+
  3A100-102,3AB118,3AB120,3A120B,3AB122,+,3AB131A,3AB131B,3A131C,3AB164,3AB171,3AB180,3AB188,3AB191
  3A301,+,+,+,+,+,+,+,3A309A,3A309B,3A309C,3A310,+,+,3A313A,3A313B,3A313C,3A314,+,+,+,+,+,+,+,+,+,+
  +,+,+,+,+,+,+,+,+,+,+,+,+,+,+,+,+,+,+,+,+,+,+,+,+,+,+,+,+,+,+,+,+,+,+,+,+,+,+,+,+,+,+,+,+,+,+
  3A400-VAS,3A401-VAS,3A402-VAS,3A403-VAS,3A404-VAS,3A405-VAS,3A406-VAS,3A407-VAS,3A408-VAS
  3A409-VAS,3A410-VAS,3A411-VAS,3A412-VAS,3A413-VAS,3A414-VAS,3A415-VAS,3A416-VAS,3A417-VAS
  3A418-VAS,3A501,+,+,+,+,+,3A508,+,+,+,+,+,3A515,+,3A520,+,3A523,+,+,+,+,+,+,+,+,+,3A534,+,+,+,+,+
  +,+,+,3A545,3A547,+,+,+,+,+,+,+,+,+,+,3A559,3A563,+,+,+,3A568,+,+,+,+,+,+,+,+,+,+,+,+,+,+,+,+,+,+
  +,+,+,3A591,+,3A594,+,+,3A598,3A600,+,+,+,+,3A606,3A608,+,+,+,+,+,+,+,+,+,+,+,+,+,+,+,+,3A626,+,+
  +,3A634,3A637,+,3A640,3A642,+,+,+,+,3A648,+,3A651,+,+,+,+,+,+,+,+,+,+,+,+,+,@10740 3A701 A
  3A702 B,3A703 D,3A704 E,3A705 F,3A706 H,3A707 J,3A708 K,3A709 L,3A709-2 L2,3A709-3 L3,3A709-4 L4
  3A709-6 L6,3A710 W,3A711 X,3A712 Y,3A713 OMEGA,3A714 ABB,3A715 BB,3A717 DD,3A726 EYYY,3A732 JE
  @10760 3A800,+,+,+,+,+,+,+,@10780 MODIFIER LETTER SMALL CAPITAL AA,2SUPERSCRIPT TRIANGULAR COLON
  3HALF*2,2SMALL AE,3CAPITAL B,3B WITH HOOK,@10787 3DZ DIGRAPH,5WITH RETROFLEX HOOK,6CURL
  3DEZH DIGRAPH,3D WITH TAIL,5HOOK,6AND TAIL,3REVERSED E,3CLOSED REVERSED OPEN E,3FENG DIGRAPH
  3RAMS HORN,3CAPITAL G,3G WITH HOOK,3CAPITAL*3,3H WITH STROKE,3CAPITAL H,3HENG WITH HOOK
  3DOTLESS J WITH STROKE AND*1,3LS DIGRAPH,3LZ*1,3L WITH BELT,3CAPITAL*3
  3L WITH RETROFLEX HOOK AND*1,3LEZH,4WITH RETROFLEX HOOK,3TURNED Y,5WITH BELT,3O WITH STROKE
  3CAPITAL OE,3CLOSED OMEGA,3Q,3TURNED R WITH LONG LEG,8AND RETROFLEX HOOK,3R WITH TAIL,5FISHHOOK
  3CAPITAL R,3TC DIGRAPH WITH CURL,3TS DIGRAPH,5WITH RETROFLEX HOOK,3TESH DIGRAPH
  3T WITH RETROFLEX HOOK,3V WITH RIGHT*1,@107B2 3CAPITAL Y,2GLOTTAL STOP WITH STROKE,2REVERSED*4
  2BILABIAL CLICK,2DENTAL*1,2LATERAL*1,2ALVEOLAR*1,2RETROFLEX CLICK WITH RETROFLEX HOOK
  2SMALL S WITH CURL,@10800 CYPRIOT SYLLABLE A,2E,2I,2O,2U,2JA,@10808 2JO,@1080A 2KA,2KE,2KI,2KO
  2KU,2LA,2LE,2LI,2LO,2LU,2MA,2ME,2MI,2MO,2MU,2NA,2NE,2NI,2NO,2NU,2PA,2PE,2PI,2PO,2PU,2RA,2RE,2RI
  2RO,2RU,2SA,2SE,2SI,2SO,2SU,2TA,2TE,2TI,2TO,2TU,2WA,2WE,2WI,2WO,@10837 2XA,2XE,@1083C 2ZA
  @1083F 2ZO,IMPERIAL ARAMAIC LETTER ALEPH,3BETH,3GIMEL,3DALETH,3HE,3WAW,3ZAYIN,3HETH,3TETH,3YODH
  3KAPH,3LAMEDH,3MEM,3NUN,3SAMEKH,3AYIN,3PE,3SADHE,3QOPH,3RESH,3SHIN,3TAW,@10857 2SECTION SIGN
  2NUMBER ONE,3TWO,3THREE,3TEN,3TWENTY,3ONE HUNDRED,4THOUSAND,3TEN*1,PALMYRENE LETTER ALEPH,2BETH
  2GIMEL,2DALETH,2HE,2WAW,2ZAYIN,2HETH,2TETH,2YODH,2KAPH,2LAMEDH,2MEM,2FINAL NUN,2*1,2SAMEKH,2AYIN
  2PE,2SADHE,2QOPH,2RESH,2SHIN,2TAW,1LEFT-POINTING FLEURON,1RIGHT-POINTING*1,1NUMBER ONE,2TWO
  2THREE,2FOUR,2FIVE,2TEN,2TWENTY,NABATAEAN LETTER FINAL ALEPH,2*1,2FINAL BETH,2*1,2GIMEL,2DALETH
  2FINAL HE,2HE,2WAW,2ZAYIN,2HETH,2TETH,2FINAL YODH,2*1,2FINAL KAPH,2*1,2FINAL LAMEDH,2*1
  2FINAL MEM,2*1,2FINAL NUN,2*1,2SAMEKH,2AYIN,2PE,2SADHE,2QOPH,2RESH,2FINAL SHIN,2*1,2TAW
  @108A7 1NUMBER ONE,2TWO,2THREE,2FOUR,1CRUCIFORM*2,1NUMBER FIVE,2TEN,2TWENTY,2ONE HUNDRED
  @108E0 HATRAN LETTER ALEPH,2BETH,2GIMEL,2DALETH-RESH,2HE,2WAW,2ZAYN,2HETH,2TETH,2YODH,2KAPH
  2LAMEDH,2MEM,2NUN,2SAMEKH,2AYN,2PE,2SADHE,2QOPH,@108F4 2SHIN,2TAW,@108FB 1NUMBER ONE,2FIVE,2TEN
  2TWENTY,2ONE HUNDRED,PHOENICIAN LETTER ALF,2BET,2GAML,2DELT,2HE,2WAU,2ZAI,2HET,2TET,2YOD,2KAF
  2LAMD,2MEM,2NUN,2SEMK,2AIN,2PE,2SADE,2QOF,2ROSH,2SHIN,2TAU,1NUMBER ONE,2TEN,2TWENTY,2ONE HUNDRED
  2TWO,2THREE,@1091F 1WORD SEPARATOR,LYDIAN LETTER A,2B,2G,2D,2E,2V,2I,2Y,2K,2L,2M,2N,2O,2R,2SS,2T
  2U,2F,2Q,2S,2TT,2AN,2EN,2LY,2NN,2C,@1093F 1TRIANGULAR MARK,@10980 MEROITIC HIEROGLYPHIC LETTER A
  3E,3I,3O,3YA,3WA,3BA,3BA-2,3PA,3MA,3NA,3NA-2,3NE,3NE-2,3RA,3RA-2,3LA,3KHA,3HHA,3SA,3SA-2,3SE,3KA
  3QA,3TA,3TA-2,3TE,3TE-2,3TO,3DA,2SYMBOL VIDJ,3VIDJ-2,1CURSIVE LETTER A,3E,3I,3O,3YA,3WA,3BA,3PA
  3MA,3NA,3NE,3RA,3LA,3KHA,3HHA,3SA,3ARCHAIC*1,3SE,3KA,3QA,3TA,3TE,3TO,3DA
  @109BC 2FRACTION ELEVEN TWELFTHS,3ONE HALF,2LOGOGRAM RMT,3IMN,2NUMBER ONE,3TWO,3THREE,3FOUR,3FIVE
  3SIX,3SEVEN,3EIGHT,3NINE,3TEN,3TWENTY,3THIRTY,3FORTY,3FIFTY,3SIXTY,3SEVENTY,@109D2 3ONE HUNDRED
  3TWO*1,3THREE*1,3FOUR*1,3FIVE*1,3SIX*1,3SEVEN*1,3EIGHT*1,3NINE*1,3ONE THOUSAND,3TWO*1,3THREE*1
  3FOUR*1,3FIVE*1,3SIX*1,3SEVEN*1,3EIGHT*1,3NINE*1,3TEN*1,3TWENTY*1,3THIRTY*1,3FORTY*1,3FIFTY*1
  3SIXTY*1,3SEVENTY*1,3EIGHTY*1,3NINETY*1,3ONE HUNDRED*1,3TWO*2,3THREE*2,3FOUR*2,3FIVE*2,3SIX*2
  3SEVEN*2,3EIGHT*2,3NINE*2,2FRACTION ONE TWELFTH,3TWO TWELFTHS,3THREE*1,3FOUR*1,3FIVE*1,3SIX*1
  3SEVEN*1,3EIGHT*1,3NINE*1,3TEN*1,KHAROSHTHI LETTER A,1VOWEL SIGN I,3U,3VOCALIC R,@10A05 3E,3O
  @10A0C 2LENGTH MARK,1SIGN DOUBLE RING BELOW,2ANUSVARA,2VISARGA,1LETTER KA,2KHA,2GA,2GHA
  @10A15 2CA,2CHA,2JA,@10A19 2NYA,2TTA,2TTHA,2DDA,2DDHA,2NNA,2TA,2THA,2DA,2DHA,2NA,2PA,2PHA,2BA
  2BHA,2MA,2YA,2RA,2LA,2VA,2SHA,2SSA,2SA,2ZA,2HA,2KKA,2TTTHA,2TTTA,2VHA,@10A38 1SIGN BAR ABOVE
  2CAUDA,2DOT BELOW,@10A3F 1VIRAMA,1DIGIT ONE,2TWO,2THREE,2FOUR,1NUMBER TEN,2TWENTY,2ONE HUNDRED
  3THOUSAND,1FRACTION ONE HALF,@10A50 1PUNCTUATION DOT,2SMALL CIRCLE,2*1,2CRESCENT BAR,2MANGALAM
  2LOTUS,2DANDA,2DOUBLE*1,2LINES,@10A60 OLD SOUTH ARABIAN LETTER HE,4LAMEDH,4HETH,4MEM,4QOPH,4WAW
  4SHIN,4RESH,4BETH,4TAW,4SAT,4KAPH,4NUN,4KHETH,4SADHE,4SAMEKH,4FE,4ALEF,4AYN,4DHADHE,4GIMEL
  4DALETH,4GHAYN,4TETH,4ZAYN,4DHALETH,4YODH,4THAW,4THETH,3NUMBER ONE,4FIFTY,3NUMERIC INDICATOR
  1NORTH ARABIAN LETTER HEH,4LAM,4HAH,4MEEM,4QAF,4WAW,4ES-2,4REH,4BEH,4TEH,4ES-1,4KAF,4NOON,4KHAH
  4SAD,4ES-3,4FEH,4ALEF,4AIN,4DAD,4GEEM,4DAL,4GHAIN,4TAH,4ZAIN,4THAL,4YEH,4THEH,4ZAH,3NUMBER ONE
  4TEN,4TWENTY,@10AC0 MANICHAEAN LETTER ALEPH,2BETH,2BHETH,2GIMEL,2GHIMEL,2DALETH,2HE,2WAW,1SIGN UD
  1LETTER ZAYIN,2ZHAYIN,2JAYIN,2JHAYIN,2HETH,2TETH,2YODH,2KAPH,2XAPH,2KHAPH,2LAMEDH,2DHAMEDH
  2THAMEDH,2MEM,2NUN,2SAMEKH,2AYIN,2AAYIN,2PE,2FE,2SADHE,2QOPH,2XOPH,2QHOPH,2RESH,2SHIN,2SSHIN,2TAW
  1ABBREVIATION MARK ABOVE,3BELOW,@10AEB 1NUMBER ONE,2FIVE,2TEN,2TWENTY,2ONE HUNDRED
  1PUNCTUATION STAR,2FLEURON,2DOUBLE DOT WITHIN DOT,2*3,3,2TWO DOTS,2LINE FILLER
  @10B00 AVESTAN LETTER A,2AA,2AO,2AAO,2AN,2AAN,2AE,2AEE,2E,2EE,2O,2OO,2I,2II,2U,2UU,2KE,2XE,2XYE
  2XVE,2GE,2GGE,2GHE,2CE,2JE,2TE,2THE,2DE,2DHE,2TTE,2PE,2FE,2BE,2BHE,2NGE,2NGYE,2NGVE,2NE,2NYE,2NNE
  2ME,2HME,2YYE,2YE,2VE,2RE,2LE,2SE,2ZE,2SHE,2ZHE,2SHYE,2SSHE,2HE,@10B39 1ABBREVIATION MARK
  TINY TWO DOTS OVER ONE DOT PUNCTUATION,SMALL*6,LARGE*6,1ONE DOT OVER TWO DOTS*1
  1TWO RINGS OVER ONE RING*1,1ONE RING OVER TWO RINGS*1,INSCRIPTIONAL PARTHIAN LETTER ALEPH,3BETH
  3GIMEL,3DALETH,3HE,3WAW,3ZAYIN,3HETH,3TETH,3YODH,3KAPH,3LAMEDH,3MEM,3NUN,3SAMEKH,3AYIN,3PE,3SADHE
  3QOPH,3RESH,3SHIN,3TAW,@10B58 2NUMBER ONE,3TWO,3THREE,3FOUR,3TEN,3TWENTY,3ONE HUNDRED,4THOUSAND
  1PAHLAVI LETTER ALEPH,3BETH,3GIMEL,3DALETH,3HE,3WAW-AYIN-RESH,3ZAYIN,3HETH,3TETH,3YODH,3KAPH
  3LAMEDH,3MEM-QOPH,3NUN,3SAMEKH,3PE,3SADHE,3SHIN,3TAW,@10B78 2NUMBER ONE,3TWO,3THREE,3FOUR,3TEN
  3TWENTY,3ONE HUNDRED,4THOUSAND,PSALTER PAHLAVI LETTER ALEPH,3BETH,3GIMEL,3DALETH,3HE
  3WAW-AYIN-RESH,3ZAYIN,3HETH,3YODH,3KAPH,3LAMEDH,3MEM-QOPH,3NUN,3SAMEKH,3PE,3SADHE,3SHIN,3TAW
  @10B99 2SECTION MARK,2TURNED*2,2FOUR DOTS WITH CROSS,5DOT,@10BA9 2NUMBER ONE,3TWO,3THREE,3FOUR
  3TEN,3TWENTY,3ONE HUNDRED,@10C00 OLD TURKIC LETTER ORKHON A,3YENISEI A,4AE,3ORKHON I,3YENISEI I
  4E,3ORKHON O,4OE,3YENISEI*1,3ORKHON AB,3YENISEI*1,3ORKHON AEB,3YENISEI*1,3ORKHON AG,3YENISEI*1
  3ORKHON AEG,3YENISEI*1,3ORKHON AD,3YENISEI*1,3ORKHON AED,4EZ,3YENISEI*1,3ORKHON AY,3YENISEI*1
  3ORKHON AEY,3YENISEI*1,3ORKHON AEK,3YENISEI*1,3ORKHON OEK,3YENISEI*1,3ORKHON AL,3YENISEI*1
  3ORKHON AEL,4ELT,4EM,4AN,4AEN,3YENISEI*1,3ORKHON ENT,3YENISEI*1,3ORKHON ENC,3YENISEI*1
  3ORKHON ENY,3YENISEI*1,4ANG,3ORKHON ENG,3YENISEI AENG,3ORKHON EP,4OP,4IC,4EC,3YENISEI*1
  3ORKHON AQ,3YENISEI*1,3ORKHON IQ,3YENISEI*1,3ORKHON OQ,3YENISEI*1,3ORKHON AR,3YENISEI*1
  3ORKHON AER,4AS,4AES,4ASH,3YENISEI*1,3ORKHON ESH,3YENISEI*1,3ORKHON AT,3YENISEI*1,3ORKHON AET
  3YENISEI*1,3ORKHON OT,4BASH,@10C80 1HUNGARIAN CAPITAL LETTER A,4AA,4EB,4AMB,4EC,4ENC,4ECS,4ED
  4AND,4E,4CLOSE E,4EE,4EF,4EG,4EGY,4EH,4I,4II,4EJ,4EK,4AK,4UNK,4EL,4ELY,4EM,4EN,4ENY,4O,4OO
  4NIKOLSBURG OE,4RUDIMENTA*1,4OEE,4EP,4EMP,4ER,4SHORT*1,4ES,4ESZ,4ET,4ENT,4ETY,4ECH,4U,4UU
  4NIKOLSBURG UE,4RUDIMENTA*1,4EV,4EZ,4EZS,4ENT-SHAPED SIGN,4US,@10CC0 2SMALL LETTER A,4AA,4EB,4AMB
  4EC,4ENC,4ECS,4ED,4AND,4E,4CLOSE E,4EE,4EF,4EG,4EGY,4EH,4I,4II,4EJ,4EK,4AK,4UNK,4EL,4ELY,4EM,4EN
  4ENY,4O,4OO,4NIKOLSBURG OE,4RUDIMENTA*1,4OEE,4EP,4EMP,4ER,4SHORT*1,4ES,4ESZ,4ET,4ENT,4ETY,4ECH,4U
  4UU,4NIKOLSBURG UE,4RUDIMENTA*1,4EV,4EZ,4EZS,4ENT-SHAPED SIGN,4US,@10CFA 2NUMBER ONE,3FIVE,3TEN
  3FIFTY,3ONE HUNDRED,4THOUSAND,HANIFI ROHINGYA LETTER A,3BA,3PA,3TA,3TTA,3JA,3CA,3HA,3KHA,3FA,3DA
  3DDA,3RA,3RRA,3ZA,3SA,3SHA,3KA,3GA,3LA,3MA,3NA,3WA,3KINNA*1,3YA,3KINNA*1,3NGA,3NYA,3VA,2VOWEL A
  3I,3U,3E,3O,2MARK SAKIN,3NA KHONNA,2SIGN HARBAHAY,3TAHALA,3TANA,3TASSI,@10D30 2DIGIT ZERO,3ONE
  3TWO,3THREE,3FOUR,3FIVE,3SIX,3SEVEN,3EIGHT,3NINE,@10E60 RUMI DIGIT ONE,2TWO,2THREE,2FOUR,2FIVE
  2SIX,2SEVEN,2EIGHT,2NINE,1NUMBER TEN,2TWENTY,2THIRTY,2FORTY,2FIFTY,2SIXTY,2SEVENTY,2EIGHTY
  2NINETY,2ONE HUNDRED,2TWO*1,2THREE*1,2FOUR*1,2FIVE*1,2SIX*1,2SEVEN*1,2EIGHT*1,2NINE*1
  1FRACTION ONE HALF,3QUARTER,3THIRD,2TWO THIRDS,@10E80 YEZIDI LETTER ELIF,2BE,2PE,2PHE,2THE,2SE
  2CIM,2CHIM,2CHHIM,2HHA,2XA,2DAL,2ZAL,2RA,2RHA,2ZA,2JA,2SIN,2SHIN,2SAD,2DAD,2TA,2ZE,2EYN,2XHEYN
  2FA,2VA,3ALTERNATE FORM,2QAF,2KAF,2KHAF,2GAF,2LAM,2MIM,2NUN,2UM,2WAW,2OW,2EW,2HAY,2YOT,2ET
  @10EAB 1COMBINING HAMZA MARK,2MADDA*1,1HYPHENATION*1,@10EB0 1LETTER LAM WITH DOT ABOVE
  2YOT WITH CIRCUMFLEX*1,@10F00 OLD SOGDIAN LETTER ALEPH,3FINAL*1,3BETH,3FINAL*1,3GIMEL,3HE
  3FINAL*1,3WAW,3ZAYIN,3HETH,3YODH,3KAPH,3LAMEDH,3MEM,3NUN,3FINAL*1,5WITH VERTICAL TAIL,3SAMEKH
  3AYIN,3ALTERNATE*1,3PE,3SADHE,3FINAL*1,5WITH VERTICAL TAIL,3RESH-AYIN-DALETH,3SHIN,3TAW,3FINAL*1
  5WITH VERTICAL TAIL,2NUMBER ONE,3TWO,3THREE,3FOUR,3FIVE,3TEN,3TWENTY,3THIRTY,3ONE HUNDRED
  2FRACTION ONE HALF,2LIGATURE AYIN-DALETH,@10F30 SOGDIAN LETTER ALEPH,2BETH,2GIMEL,2HE,2WAW,2ZAYIN
  2HETH,2YODH,2KAPH,2LAMEDH,2MEM,2NUN,2SAMEKH,2AYIN,2PE,2SADHE,2RESH-AYIN,2SHIN,2TAW,2FETH,2LESH
  1INDEPENDENT SHIN,1COMBINING DOT BELOW,2TWO DOTS*1,2DOT ABOVE,2TWO DOTS*1,2CURVE*1,3BELOW
  2HOOK ABOVE,3BELOW,2LONG*2,2RESH*1,2STROKE*1,1NUMBER ONE,2TEN,2TWENTY,2ONE HUNDRED
  1PUNCTUATION TWO VERTICAL BARS,5WITH DOTS,2CIRCLE WITH DOT,2TWO CIRCLES WITH DOTS
  2HALF CIRCLE WITH DOT,@10F70 OLD UYGHUR LETTER ALEPH,3BETH,3GIMEL-HETH,3WAW,3ZAYIN,3FINAL HETH
  3YODH,3KAPH,3LAMEDH,3MEM,3NUN,3SAMEKH,3PE,3SADHE,3RESH,3SHIN,3TAW,3LESH,2COMBINING DOT ABOVE
  4BELOW,3TWO DOTS ABOVE,5BELOW,2PUNCTUATION BAR,3TWO BARS,4DOTS,3FOUR*1
  @10FB0 CHORASMIAN LETTER ALEPH,2SMALL*1,2BETH,2GIMEL,2DALETH,2HE,2WAW,2CURLED*1,2ZAYIN,2HETH
  2YODH,2KAPH,2LAMEDH,2MEM,2NUN,2SAMEKH,2AYIN,2PE,2RESH,2SHIN,2TAW,1NUMBER ONE,2TWO,2THREE,2FOUR
  2TEN,2TWENTY,2ONE HUNDRED,@10FE0 ELYMAIC LETTER ALEPH,2BETH,2GIMEL,2DALETH,2HE,2WAW,2ZAYIN,2HETH
  2TETH,2YODH,2KAPH,2LAMEDH,2MEM,2NUN,2SAMEKH,2AYIN,2PE,2SADHE,2QOPH,2RESH,2SHIN,2TAW
  1LIGATURE ZAYIN-YODH,@11000 BRAHMI SIGN CANDRABINDU,2ANUSVARA,2VISARGA,2JIHVAMULIYA,2UPADHMANIYA
  1LETTER A,2AA,2I,2II,2U,2UU,2VOCALIC R,3RR,3L,3LL,2E,2AI,2O,2AU,2KA,2KHA,2GA,2GHA,2NGA,2CA,2CHA
  2JA,2JHA,2NYA,2TTA,2TTHA,2DDA,2DDHA,2NNA,2TA,2THA,2DA,2DHA,2NA,2PA,2PHA,2BA,2BHA,2MA,2YA,2RA,2LA
  2VA,2SHA,2SSA,2SA,2HA,2LLA,2OLD TAMIL LLLA,4RRA,4NNNA,1VOWEL SIGN AA,3BHATTIPROLU*1,3I,3II,3U,3UU
  3VOCALIC R,4RR,4L,4LL,3E,3AI,3O,3AU,1VIRAMA,1DANDA,1DOUBLE*1,1PUNCTUATION DOT,2DOUBLE*1,2LINE
  2CRESCENT BAR,2LOTUS,@11052 1NUMBER ONE,2TWO,2THREE,2FOUR,2FIVE,2SIX,2SEVEN,2EIGHT,2NINE,2TEN
  2TWENTY,2THIRTY,2FORTY,2FIFTY,2SIXTY,2SEVENTY,2EIGHTY,2NINETY,2ONE HUNDRED,3THOUSAND,1DIGIT ZERO
  2ONE,2TWO,2THREE,2FOUR,2FIVE,2SIX,2SEVEN,2EIGHT,2NINE,1SIGN OLD TAMIL VIRAMA
  1LETTER OLD TAMIL SHORT E,5O,1VOWEL SIGN OLD TAMIL SHORT E,6O,1LETTER OLD TAMIL LLA
  @1107F 1NUMBER JOINER,KAITHI SIGN CANDRABINDU,2ANUSVARA,2VISARGA,1LETTER A,2AA,2I,2II,2U,2UU,2E
  2AI,2O,2AU,2KA,2KHA,2GA,2GHA,2NGA,2CA,2CHA,2JA,2JHA,2NYA,2TTA,2TTHA,2DDA,2DDDHA,2DDHA,2RHA,2NNA
  2TA,2THA,2DA,2DHA,2NA,2PA,2PHA,2BA,2BHA,2MA,2YA,2RA,2LA,2VA,2SHA,2SSA,2SA,2HA,1VOWEL SIGN AA,3I
  3II,3U,3UU,3E,3AI,3O,3AU,1SIGN VIRAMA,2NUKTA,1ABBREVIATION SIGN,1ENUMERATION*1,1NUMBER*1
  1SECTION MARK,1DOUBLE*2,1DANDA,1DOUBLE*1,1VOWEL SIGN VOCALIC R,@110CD 1NUMBER SIGN ABOVE
  @110D0 SORA SOMPENG LETTER SAH,3TAH,3BAH,3CAH,3DAH,3GAH,3MAH,3NGAH,3LAH,3NAH,3VAH,3PAH,3YAH,3RAH
  3HAH,3KAH,3JAH,3NYAH,3AH,3EEH,3IH,3UH,3OH,3EH,3MAE,@110F0 2DIGIT ZERO,3ONE,3TWO,3THREE,3FOUR
  3FIVE,3SIX,3SEVEN,3EIGHT,3NINE,@11100 CHAKMA SIGN CANDRABINDU,2ANUSVARA,2VISARGA,1LETTER AA,2I,2U
  2E,2KAA,2KHAA,2GAA,2GHAA,2NGAA,2CAA,2CHAA,2JAA,2JHAA,2NYAA,2TTAA,2TTHAA,2DDAA,2DDHAA,2NNAA,2TAA
  2THAA,2DAA,2DHAA,2NAA,2PAA,2PHAA,2BAA,2BHAA,2MAA,2YYAA,2YAA,2RAA,2LAA,2WAA,2SAA,2HAA
  1VOWEL SIGN A,3I,3II,3U,3UU,3E,3AI,3O,3AU,3OI,1O MARK,1AU*1,1VIRAMA,1MAAYYAA,@11136 1DIGIT ZERO
  2ONE,2TWO,2THREE,2FOUR,2FIVE,2SIX,2SEVEN,2EIGHT,2NINE,1SECTION MARK,1DANDA,1DOUBLE*1
  1QUESTION MARK,1LETTER LHAA,1VOWEL SIGN AA,3EI,1LETTER VAA,@11150 MAHAJANI LETTER A,2I,2U,2E,2O
  2KA,2KHA,2GA,2GHA,2CA,2CHA,2JA,2JHA,2NYA,2TTA,2TTHA,2DDA,2DDHA,2NNA,2TA,2THA,2DA,2DHA,2NA,2PA
  2PHA,2BA,2BHA,2MA,2RA,2LA,2VA,2SA,2HA,2RRA,1SIGN NUKTA,1ABBREVIATION SIGN,1SECTION MARK
  1LIGATURE SHRI,@11180 SHARADA SIGN CANDRABINDU,2ANUSVARA,2VISARGA,1LETTER A,2AA,2I,2II,2U,2UU
  2VOCALIC R,3RR,3L,3LL,2E,2AI,2O,2AU,2KA,2KHA,2GA,2GHA,2NGA,2CA,2CHA,2JA,2JHA,2NYA,2TTA,2TTHA,2DDA
  2DDHA,2NNA,2TA,2THA,2DA,2DHA,2NA,2PA,2PHA,2BA,2BHA,2MA,2YA,2RA,2LA,2LLA,2VA,2SHA,2SSA,2SA,2HA
  1VOWEL SIGN AA,3I,3II,3U,3UU,3VOCALIC R,4RR,4L,4LL,3E,3AI,3O,3AU,1SIGN VIRAMA,2AVAGRAHA
  2JIHVAMULIYA,2UPADHMANIYA,1OM,1DANDA,1DOUBLE*1,1ABBREVIATION SIGN,1SEPARATOR,1SANDHI MARK
  1SIGN NUKTA,1VOWEL MODIFIER MARK,1EXTRA SHORT VOWEL*1,1SUTRA*1,1VOWEL SIGN PRISHTHAMATRA E
  1SIGN INVERTED CANDRABINDU,1DIGIT ZERO,2ONE,2TWO,2THREE,2FOUR,2FIVE,2SIX,2SEVEN,2EIGHT,2NINE
  1EKAM,1SIGN SIDDHAM,1HEADSTROKE,1CONTINUATION SIGN,1SECTION MARK-1,+
  @111E1 SINHALA ARCHAIC DIGIT ONE,3TWO,3THREE,3FOUR,3FIVE,3SIX,3SEVEN,3EIGHT,3NINE,2NUMBER TEN
  3TWENTY,3THIRTY,3FORTY,3FIFTY,3SIXTY,3SEVENTY,3EIGHTY,3NINETY,3ONE HUNDRED,4THOUSAND
  @11200 KHOJKI LETTER A,2AA,2I,2U,2E,2AI,2O,2AU,2KA,2KHA,2GA,2GGA,2GHA,2NGA,2CA,2CHA,2JA,2JJA
  @11213 2NYA,2TTA,2TTHA,2DDA,2DDHA,2NNA,2TA,2THA,2DA,2DDDA,2DHA,2NA,2PA,2PHA,2BA,2BBA,2BHA,2MA,2YA
  2RA,2LA,2VA,2SA,2HA,2LLA,1VOWEL SIGN AA,3I,3II,3U,3E,3AI,3O,3AU,1SIGN ANUSVARA,2VIRAMA,2NUKTA
  2SHADDA,1DANDA,1DOUBLE*1,1WORD SEPARATOR,1SECTION MARK,1DOUBLE*2,1ABBREVIATION SIGN,1SIGN SUKUN
  @11280 MULTANI LETTER A,2I,2U,2E,2KA,2KHA,2GA,@11288 2GHA,@1128A 2CA,2CHA,2JA,2JJA,@1128F 2NYA
  2TTA,2TTHA,2DDA,2DDDA,2DDHA,2NNA,2TA,2THA,2DA,2DHA,2NA,2PA,2PHA,2BA,@1129F 2BHA,2MA,2YA,2RA,2LA
  2VA,2SA,2HA,2RRA,2RHA,1SECTION MARK,@112B0 KHUDAWADI LETTER A,2AA,2I,2II,2U,2UU,2E,2AI,2O,2AU,2KA
  2KHA,2GA,2GGA,2GHA,2NGA,2CA,2CHA,2JA,2JJA,2JHA,2NYA,2TTA,2TTHA,2DDA,2DDDA,2RRA,2DDHA,2NNA,2TA
  2THA,2DA,2DHA,2NA,2PA,2PHA,2BA,2BBA,2BHA,2MA,2YA,2RA,2LA,2VA,2SHA,2SA,2HA,1SIGN ANUSVARA
  1VOWEL SIGN AA,3I,3II,3U,3UU,3E,3AI,3O,3AU,1SIGN NUKTA,2VIRAMA,@112F0 1DIGIT ZERO,2ONE,2TWO
  2THREE,2FOUR,2FIVE,2SIX,2SEVEN,2EIGHT,2NINE,@11300 GRANTHA SIGN COMBINING ANUSVARA ABOVE
  2CANDRABINDU,2ANUSVARA,2VISARGA,@11305 1LETTER A,2AA,2I,2II,2U,2UU,2VOCALIC R,3L,@1130F 2EE,2AI
  @11313 2OO,2AU,2KA,2KHA,2GA,2GHA,2NGA,2CA,2CHA,2JA,2JHA,2NYA,2TTA,2TTHA,2DDA,2DDHA,2NNA,2TA,2THA
  2DA,2DHA,2NA,@1132A 2PA,2PHA,2BA,2BHA,2MA,2YA,2RA,@11332 2LA,2LLA,@11335 2VA,2SHA,2SSA,2SA,2HA
  @1133B COMBINING BINDU BELOW,GRANTHA SIGN NUKTA,2AVAGRAHA,1VOWEL SIGN AA,3I,3II,3U,3UU,3VOCALIC R
  4RR,@11347 3EE,3AI,@1134B 3OO,3AU,1SIGN VIRAMA,@11350 1OM,@11357 1AU LENGTH MARK
  @1135D 1SIGN PLUTA,1LETTER VEDIC ANUSVARA,3DOUBLE*1,2VOCALIC RR,3LL,1VOWEL SIGN VOCALIC L,4LL
  @11366 COMBINING GRANTHA DIGIT ZERO,3ONE,3TWO,3THREE,3FOUR,3FIVE,3SIX,@11370 2LETTER A,3KA,3NA
  3VI,3PA,@11400 NEWA LETTER A,2AA,2I,2II,2U,2UU,2VOCALIC R,3RR,3L,3LL,2E,2AI,2O,2AU,2KA,2KHA,2GA
  2GHA,2NGA,2NGHA,2CA,2CHA,2JA,2JHA,2NYA,2NYHA,2TTA,2TTHA,2DDA,2DDHA,2NNA,2TA,2THA,2DA,2DHA,2NA
  2NHA,2PA,2PHA,2BA,2BHA,2MA,2MHA,2YA,2RA,2RHA,2LA,2LHA,2WA,2SHA,2SSA,2SA,2HA,1VOWEL SIGN AA,3I,3II
  3U,3UU,3VOCALIC R,4RR,4L,4LL,3E,3AI,3O,3AU,1SIGN VIRAMA,2CANDRABINDU,2ANUSVARA,2VISARGA,2NUKTA
  2AVAGRAHA,2FINAL ANUSVARA,1OM,1SIDDHI,1DANDA,1DOUBLE*1,1COMMA,1GAP FILLER,1ABBREVIATION SIGN
  1DIGIT ZERO,2ONE,2TWO,2THREE,2FOUR,2FIVE,2SIX,2SEVEN,2EIGHT,2NINE,1DOUBLE COMMA,1PLACEHOLDER MARK
  @1145D 1INSERTION SIGN,1SANDHI MARK,1LETTER VEDIC ANUSVARA,1SIGN JIHVAMULIYA,2UPADHMANIYA
  @11480 TIRHUTA ANJI,1LETTER A,2AA,2I,2II,2U,2UU,2VOCALIC R,3RR,3L,3LL,2E,2AI,2O,2AU,2KA,2KHA,2GA
  2GHA,2NGA,2CA,2CHA,2JA,2JHA,2NYA,2TTA,2TTHA,2DDA,2DDHA,2NNA,2TA,2THA,2DA,2DHA,2NA,2PA,2PHA,2BA
  2BHA,2MA,2YA,2RA,2LA,2VA,2SHA,2SSA,2SA,2HA,1VOWEL SIGN AA,3I,3II,3U,3UU,3VOCALIC R,4RR,4L,4LL,3E
  3SHORT E,3AI,3O,3SHORT O,3AU,1SIGN CANDRABINDU,2ANUSVARA,2VISARGA,2VIRAMA,2NUKTA,2AVAGRAHA,1GVANG
  1ABBREVIATION SIGN,1OM,@114D0 1DIGIT ZERO,2ONE,2TWO,2THREE,2FOUR,2FIVE,2SIX,2SEVEN,2EIGHT,2NINE
  @11580 SIDDHAM LETTER A,2AA,2I,2II,2U,2UU,2VOCALIC R,3RR,3L,3LL,2E,2AI,2O,2AU,2KA,2KHA,2GA,2GHA
  2NGA,2CA,2CHA,2JA,2JHA,2NYA,2TTA,2TTHA,2DDA,2DDHA,2NNA,2TA,2THA,2DA,2DHA,2NA,2PA,2PHA,2BA,2BHA
  2MA,2YA,2RA,2LA,2VA,2SHA,2SSA,2SA,2HA,1VOWEL SIGN AA,3I,3II,3U,3UU,3VOCALIC R,4RR,@115B8 3E,3AI
  3O,3AU,1SIGN CANDRABINDU,2ANUSVARA,2VISARGA,2VIRAMA,2NUKTA,2SIDDHAM,1DANDA,1DOUBLE*1
  1SEPARATOR DOT,2BAR,1REPETITION MARK-1,+,+,1END OF TEXT MARK
  1SECTION MARK WITH TRIDENT AND U-SHAPED ORNAMENTS,6DOTTED CRESCENTS,4RAYS*3,7DOUBLE*1,7TRIPLE*1
  3DOUBLE RING,5WITH RAYS,3WITH DOUBLE CRESCENTS,4TRIPLE*1,4QUADRUPLE*1,4SEPTUPLE*1
  4CIRCLES AND RAYS,6TWO ENCLOSURES,6FOUR*1,1LETTER THREE-CIRCLE ALTERNATE I,2TWO-CIRCLE*2,4II
  2ALTERNATE U,1VOWEL SIGN*2,4UU,@11600 MODI LETTER A,2AA,2I,2II,2U,2UU,2VOCALIC R,3RR,3L,3LL,2E
  2AI,2O,2AU,2KA,2KHA,2GA,2GHA,2NGA,2CA,2CHA,2JA,2JHA,2NYA,2TTA,2TTHA,2DDA,2DDHA,2NNA,2TA,2THA,2DA
  2DHA,2NA,2PA,2PHA,2BA,2BHA,2MA,2YA,2RA,2LA,2VA,2SHA,2SSA,2SA,2HA,2LLA,1VOWEL SIGN AA,3I,3II,3U
  3UU,3VOCALIC R,4RR,4L,4LL,3E,3AI,3O,3AU,1SIGN ANUSVARA,2VISARGA,2VIRAMA,2ARDHACANDRA,1DANDA
  1DOUBLE*1,1ABBREVIATION SIGN,1SIGN HUVA,@11650 1DIGIT ZERO,2ONE,2TWO,2THREE,2FOUR,2FIVE,2SIX
  2SEVEN,2EIGHT,2NINE,@11660 MONGOLIAN BIRGA WITH ORNAMENT,1ROTATED BIRGA
  1DOUBLE BIRGA WITH ORNAMENT,1TRIPLE*3,1BIRGA WITH DOUBLE*1,1ROTATED BIRGA WITH*1,4DOUBLE*1
  1INVERTED BIRGA,3WITH DOUBLE ORNAMENT,1SWIRL BIRGA,3WITH ORNAMENT,4DOUBLE*1,1TURNED*5
  @11680 TAKRI LETTER A,2AA,2I,2II,2U,2UU,2E,2AI,2O,2AU,2KA,2KHA,2GA,2GHA,2NGA,2CA,2CHA,2JA,2JHA
  2NYA,2TTA,2TTHA,2DDA,2DDHA,2NNA,2TA,2THA,2DA,2DHA,2NA,2PA,2PHA,2BA,2BHA,2MA,2YA,2RA,2LA,2VA,2SHA
  2SA,2HA,2RRA,1SIGN ANUSVARA,2VISARGA,1VOWEL SIGN AA,3I,3II,3U,3UU,3E,3AI,3O,3AU,1SIGN VIRAMA
  2NUKTA,1LETTER ARCHAIC KHA,1ABBREVIATION SIGN,@116C0 1DIGIT ZERO,2ONE,2TWO,2THREE,2FOUR,2FIVE
  2SIX,2SEVEN,2EIGHT,2NINE,@11700 AHOM LETTER KA,2KHA,2NGA,2NA,2TA,2ALTERNATE*1,2PA,2PHA,2BA,2MA
  2JA,2CHA,2THA,2RA,2LA,2SA,2NYA,2HA,2A,2DA,2DHA,2GA,2ALTERNATE*1,2GHA,2BHA,2JHA,2ALTERNATE BA
  @1171D 1CONSONANT SIGN MEDIAL LA,4RA,4LIGATING*1,1VOWEL SIGN A,3AA,3I,3II,3U,3UU,3E,3AW,3O,3AI
  3AM,1SIGN KILLER,@11730 1DIGIT ZERO,2ONE,2TWO,2THREE,2FOUR,2FIVE,2SIX,2SEVEN,2EIGHT,2NINE
  1NUMBER TEN,2TWENTY,1SIGN SMALL SECTION,2*1,2RULAI,1SYMBOL VI,1LETTER CA,2TTA,2TTHA,2DDA,2DDHA
  2NNA,2LLA,@11800 DOGRA LETTER A,2AA,2I,2II,2U,2UU,2E,2AI,2O,2AU,2KA,2KHA,2GA,2GHA,2NGA,2CA,2CHA
  2JA,2JHA,2NYA,2TTA,2TTHA,2DDA,2DDHA,2NNA,2TA,2THA,2DA,2DHA,2NA,2PA,2PHA,2BA,2BHA,2MA,2YA,2RA,2LA
  2VA,2SHA,2SSA,2SA,2HA,2RRA,1VOWEL SIGN AA,3I,3II,3U,3UU,3VOCALIC R,4RR,3E,3AI,3O,3AU
  1SIGN ANUSVARA,2VISARGA,2VIRAMA,2NUKTA,1ABBREVIATION SIGN,@118A0 WARANG CITI CAPITAL LETTER NGAA
  4A,4WI,4YU,4YA,4YO,4II,4UU,4E,4O,4ANG,4GA,4KO,4ENY,4YUJ,4UC,4ENN,4ODD,4TTE,4NUNG,4DA,4AT,4AM,4BU
  4PU,4HIYO,4HOLO,4HORR,4HAR,4SSUU,4SII,4VIYO,2SMALL LETTER NGAA,4A,4WI,4YU,4YA,4YO,4II,4UU,4E,4O
  4ANG,4GA,4KO,4ENY,4YUJ,4UC,4ENN,4ODD,4TTE,4NUNG,4DA,4AT,4AM,4BU,4PU,4HIYO,4HOLO,4HORR,4HAR,4SSUU
  4SII,4VIYO,2DIGIT ZERO,3ONE,3TWO,3THREE,3FOUR,3FIVE,3SIX,3SEVEN,3EIGHT,3NINE,2NUMBER TEN,3TWENTY
  3THIRTY,3FORTY,3FIFTY,3SIXTY,3SEVENTY,3EIGHTY,3NINETY,@118FF 2OM,DIVES AKURU LETTER A,3AA,3I,3II
  3U,3UU,3E,@11909 3O,@1190C 3KA,3KHA,3GA,3GHA,3NGA,3CA,3CHA,3JA,@11915 3NYA,3TTA,@11918 3DDA,3DDHA
  3NNA,3TA,3THA,3DA,3DHA,3NA,3PA,3PHA,3BA,3BHA,3MA,3YA,3YYA,3RA,3LA,3VA,3SHA,3SSA,3SA,3HA,3LLA,3ZA
  2VOWEL SIGN AA,4I,4II,4U,4UU,4E,@11937 4AI,4O,@1193B 2SIGN ANUSVARA,3CANDRABINDU,3HALANTA,2VIRAMA
  2PREFIXED NASAL SIGN,2MEDIAL YA,2INITIAL RA,2MEDIAL*1,2SIGN NUKTA,2DOUBLE DANDA,2GAP FILLER
  2END OF TEXT MARK,@11950 2DIGIT ZERO,3ONE,3TWO,3THREE,3FOUR,3FIVE,3SIX,3SEVEN,3EIGHT,3NINE
  @119A0 NANDINAGARI LETTER A,2AA,2I,2II,2U,2UU,2VOCALIC R,3RR,@119AA 2E,2AI,2O,2AU,2KA,2KHA,2GA
  2GHA,2NGA,2CA,2CHA,2JA,2JHA,2NYA,2TTA,2TTHA,2DDA,2DDHA,2NNA,2TA,2THA,2DA,2DHA,2NA,2PA,2PHA,2BA
  2BHA,2MA,2YA,2RA,2LA,2VA,2SHA,2SSA,2SA,2HA,2LLA,2RRA,1VOWEL SIGN AA,3I,3II,3U,3UU,3VOCALIC R,4RR
  @119DA 3E,3AI,3O,3AU,1SIGN ANUSVARA,2VISARGA,2VIRAMA,2AVAGRAHA,2SIDDHAM,1HEADSTROKE
  1VOWEL SIGN PRISHTHAMATRA E,@11A00 ZANABAZAR SQUARE LETTER A,2VOWEL SIGN I,4UE,4U,4E,4OE,4O,4AI
  4AU,4REVERSED I,3LENGTH MARK,2LETTER KA,3KHA,3GA,3GHA,3NGA,3CA,3CHA,3JA,3NYA,3TTA,3TTHA,3DDA
  3DDHA,3NNA,3TA,3THA,3DA,3DHA,3NA,3PA,3PHA,3BA,3BHA,3MA,3TSA,3TSHA,3DZA,3DZHA,3ZHA,3ZA,3-A,3YA,3RA
  3LA,3VA,3SHA,3SSA,3SA,3HA,3KSSA,2FINAL CONSONANT MARK,2SIGN VIRAMA,3CANDRABINDU,4WITH ORNAMENT
  3CANDRA*2,3ANUSVARA,3VISARGA,2CLUSTER-INITIAL LETTER RA,2CLUSTER-FINAL LETTER YA,4RA,4LA,4VA
  2INITIAL HEAD MARK,2CLOSING*2,2MARK TSHEG,3SHAD,3DOUBLE*1,3LONG TSHEG
  2INITIAL DOUBLE-LINED HEAD MARK,2CLOSING*3,2SUBJOINER,@11A50 SOYOMBO LETTER A,1VOWEL SIGN I,3UE
  3U,3E,3O,3OE,3AI,3AU,3VOCALIC R,4L,2LENGTH MARK,1LETTER KA,2KHA,2GA,2GHA,2NGA,2CA,2CHA,2JA,2JHA
  2NYA,2TTA,2TTHA,2DDA,2DDHA,2NNA,2TA,2THA,2DA,2DHA,2NA,2PA,2PHA,2BA,2BHA,2MA,2TSA,2TSHA,2DZA,2ZHA
  2ZA,2-A,2YA,2RA,2LA,2VA,2SHA,2SSA,2SA,2HA,2KSSA,1SIGN JIHVAMULIYA,2UPADHMANIYA
  1CLUSTER-INITIAL LETTER RA,3LA,3SHA,3SA,1FINAL CONSONANT SIGN G,4K,4NG,4D,4N,4B,4M,4R,4L,4SH,4S
  4-A,1SIGN ANUSVARA,2VISARGA,1GEMINATION MARK,1SUBJOINER,1MARK TSHEG,2SHAD,2DOUBLE*1,2PLUTA
  1HEAD MARK WITH MOON AND SUN AND TRIPLE FLAME,8*1,7,1TERMINAL MARK-1,+
  @11AB0 CANADIAN SYLLABICS NATTILIK HI,3HII,3HO,3HOO,3HA,3HAA,3SHRI,3SHRII,3SHRO,3SHROO,3SHRA
  3SHRAA,2SPE,2SPI,2SPO,2SPA,PAU CIN HAU LETTER PA,4KA,4LA,4MA,4DA,4ZA,4VA,4NGA,4HA,4GA,4KHA,4SA
  4BA,4CA,4TA,4THA,4NA,4PHA,4RA,4FA,4CHA,4A,4E,4I,4O,4U,4UA,4IA,4FINAL P,5K,5T,5M,5N,5L,5W,5NG,5Y
  3RISING TONE LONG,5,3SANDHI GLOTTAL STOP,3RISING TONE LONG FINAL,5*1,3SANDHI GLOTTAL STOP*1
  4TONE LONG,5,5LONG FINAL,5*1,3MID-LEVEL TONE,3GLOTTAL STOP VARIANT,3MID-LEVEL TONE LONG FINAL,5*1
  3LOW-FALLING TONE LONG,5,3GLOTTAL STOP,3LOW-FALLING TONE LONG FINAL,5*1,3GLOTTAL STOP*1
  @11C00 BHAIKSUKI LETTER A,2AA,2I,2II,2U,2UU,2VOCALIC R,3RR,3L,@11C0A 2E,2AI,2O,2AU,2KA,2KHA,2GA
  2GHA,2NGA,2CA,2CHA,2JA,2JHA,2NYA,2TTA,2TTHA,2DDA,2DDHA,2NNA,2TA,2THA,2DA,2DHA,2NA,2PA,2PHA,2BA
  2BHA,2MA,2YA,2RA,2LA,2VA,2SHA,2SSA,2SA,2HA,1VOWEL SIGN AA,3I,3II,3U,3UU,3VOCALIC R,4RR,4L
  @11C38 3E,3AI,3O,3AU,1SIGN CANDRABINDU,2ANUSVARA,2VISARGA,2VIRAMA,2AVAGRAHA,1DANDA,1DOUBLE*1
  1WORD SEPARATOR,1GAP FILLER-1,+,@11C50 1DIGIT ZERO,2ONE,2TWO,2THREE,2FOUR,2FIVE,2SIX,2SEVEN
  2EIGHT,2NINE,1NUMBER ONE,2TWO,2THREE,2FOUR,2FIVE,2SIX,2SEVEN,2EIGHT,2NINE,2TEN,2TWENTY,2THIRTY
  2FORTY,2FIFTY,2SIXTY,2SEVENTY,2EIGHTY,2NINETY,1HUNDREDS UNIT MARK,@11C70 MARCHEN HEAD*1
  1MARK SHAD,1LETTER KA,2KHA,2GA,2NGA,2CA,2CHA,2JA,2NYA,2TA,2THA,2DA,2NA,2PA,2PHA,2BA,2MA,2TSA
  2TSHA,2DZA,2WA,2ZHA,2ZA,2-A,2YA,2RA,2LA,2SHA,2SA,2HA,2A,@11C92 1SUBJOINED LETTER KA,3KHA,3GA,3NGA
  3CA,3CHA,3JA,3NYA,3TA,3THA,3DA,3NA,3PA,3PHA,3BA,3MA,3TSA,3TSHA,3DZA,3WA,3ZHA,3ZA,@11CA9 3YA,3RA
  3LA,3SHA,3SA,3HA,3A,1VOWEL SIGN AA,3I,3U,3E,3O,1SIGN ANUSVARA,2CANDRABINDU
  @11D00 MASARAM GONDI LETTER A,3AA,3I,3II,3U,3UU,3E,@11D08 3AI,3O,@11D0B 3AU,3KA,3KHA,3GA,3GHA
  3NGA,3CA,3CHA,3JA,3JHA,3NYA,3TTA,3TTHA,3DDA,3DDHA,3NNA,3TA,3THA,3DA,3DHA,3NA,3PA,3PHA,3BA,3BHA
  3MA,3YA,3RA,3LA,3VA,3SHA,3SSA,3SA,3HA,3LLA,3KSSA,3JNYA,3TRA,2VOWEL SIGN AA,4I,4II,4U,4UU
  4VOCALIC R,@11D3A 4E,@11D3C 4AI,4O,@11D3F 4AU,2SIGN ANUSVARA,3VISARGA,3NUKTA,3CANDRA,3HALANTA
  2VIRAMA,2REPHA,2RA-KARA,@11D50 2DIGIT ZERO,3ONE,3TWO,3THREE,3FOUR,3FIVE,3SIX,3SEVEN,3EIGHT,3NINE
  @11D60 GUNJALA GONDI LETTER A,3AA,3I,3II,3U,3UU,@11D67 3EE,3AI,@11D6A 3OO,3AU,3YA,3VA,3BA,3BHA
  3MA,3KA,3KHA,3TA,3THA,3LA,3GA,3GHA,3DA,3DHA,3NA,3CA,3CHA,3TTA,3TTHA,3LLA,3JA,3JHA,3DDA,3DDHA,3NGA
  3PA,3PHA,3HA,3RA,3SA,2VOWEL SIGN AA,4I,4II,4U,4UU,@11D90 4EE,4AI,@11D93 4OO,4AU,2SIGN ANUSVARA
  3VISARGA,2VIRAMA,2OM,@11DA0 2DIGIT ZERO,3ONE,3TWO,3THREE,3FOUR,3FIVE,3SIX,3SEVEN,3EIGHT,3NINE
  @11EE0 MAKASAR LETTER KA,2GA,2NGA,2PA,2BA,2MA,2TA,2DA,2NA,2CA,2JA,2NYA,2YA,2RA,2LA,2VA,2SA,2A
  1ANGKA,1VOWEL SIGN I,3U,3E,3O,1PASSIMBANG,1END OF SECTION,@11FB0 LISU LETTER YHA
  @11FC0 TAMIL FRACTION ONE THREE-HUNDRED-AND-TWENTIETH,3ONE-HUNDRED-AND-SIXTIETH,3EIGHTIETH
  3SIXTY-FOURTH,3FORTIETH,3THIRTY-SECOND,2THREE EIGHTIETHS,3SIXTY-FOURTHS,2ONE TWENTIETH
  3SIXTEENTH-1,+,3TENTH,3EIGHTH,2THREE TWENTIETHS,3SIXTEENTHS,2ONE FIFTH,3QUARTER,3HALF-1,+
  2THREE QUARTERS,2DOWNSCALING FACTOR KIIZH,1SIGN NEL,2CEVITU,2AAZHAAKKU,2UZHAKKU,2MUUVUZHAKKU
  2KURUNI,2PATHAKKU,2MUKKURUNI,2KAACU,2PANAM,2PON,2VARAAKAN,2PAARAM,2KUZHI,2VELI
  1WET CULTIVATION SIGN,1DRY*2,1LAND*1,1SALT PAN*1,1TRADITIONAL CREDIT*1,2NUMBER*1,1CURRENT*1
  1AND ODD*1,1SPENT*1,1TOTAL*1,1IN POSSESSION*1,1STARTING FROM*1,1SIGN MUTHALIYA,2VAKAIYARAA
  @11FFF 1PUNCTUATION END OF TEXT"

end Findings.Text.CharName
