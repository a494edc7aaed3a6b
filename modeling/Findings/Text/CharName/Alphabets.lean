/-!
Names of letters and signs up to the scripts of India.
-/

namespace Findings.Text.CharName

/-- Code points from U+0000 on; `NameList` tells how the list is read. -/
def alphabets : String := "
  @20 SPACE,EXCLAMATION MARK,QUOTATION*1,NUMBER SIGN,DOLLAR*1,PERCENT*1,AMPERSAND,APOSTROPHE
  LEFT PARENTHESIS,RIGHT*1,ASTERISK,PLUS SIGN,COMMA,HYPHEN-MINUS,FULL STOP,SOLIDUS,DIGIT ZERO,1ONE
  1TWO,1THREE,1FOUR,1FIVE,1SIX,1SEVEN,1EIGHT,1NINE,COLON,SEMICOLON,LESS-THAN SIGN,EQUALS*1
  GREATER-THAN*1,QUESTION MARK,COMMERCIAL AT,LATIN CAPITAL LETTER A,3B,3C,3D,3E,3F,3G,3H,3I,3J,3K
  3L,3M,3N,3O,3P,3Q,3R,3S,3T,3U,3V,3W,3X,3Y,3Z,LEFT SQUARE BRACKET,REVERSE SOLIDUS
  RIGHT SQUARE BRACKET,CIRCUMFLEX ACCENT,LOW LINE,GRAVE ACCENT,LATIN SMALL LETTER A,3B,3C,3D,3E,3F
  3G,3H,3I,3J,3K,3L,3M,3N,3O,3P,3Q,3R,3S,3T,3U,3V,3W,3X,3Y,3Z,LEFT CURLY BRACKET,VERTICAL LINE
  RIGHT CURLY BRACKET,TILDE,@A0 NO-BREAK SPACE,INVERTED EXCLAMATION MARK,CENT SIGN,POUND*1
  CURRENCY*1,YEN*1,BROKEN BAR,SECTION SIGN,DIAERESIS,COPYRIGHT SIGN,FEMININE ORDINAL INDICATOR
  LEFT-POINTING DOUBLE ANGLE QUOTATION MARK,NOT SIGN,SOFT HYPHEN,REGISTERED SIGN,MACRON,DEGREE SIGN
  PLUS-MINUS*1,SUPERSCRIPT TWO,1THREE,ACUTE ACCENT,MICRO SIGN,PILCROW*1,MIDDLE DOT,CEDILLA
  SUPERSCRIPT ONE,MASCULINE ORDINAL INDICATOR,RIGHT-POINTING DOUBLE ANGLE QUOTATION MARK
  VULGAR FRACTION ONE QUARTER,3HALF,2THREE QUARTERS,INVERTED QUESTION MARK
  LATIN CAPITAL LETTER A WITH GRAVE,5ACUTE,5CIRCUMFLEX,5TILDE,5DIAERESIS,5RING ABOVE,3AE
  3C WITH CEDILLA,3E WITH GRAVE,5ACUTE,5CIRCUMFLEX,5DIAERESIS,3I WITH GRAVE,5ACUTE,5CIRCUMFLEX
  5DIAERESIS,3ETH,3N WITH TILDE,3O WITH GRAVE,5ACUTE,5CIRCUMFLEX,5TILDE,5DIAERESIS
  MULTIPLICATION SIGN,LATIN CAPITAL LETTER O WITH STROKE,3U WITH GRAVE,5ACUTE,5CIRCUMFLEX
  5DIAERESIS,3Y WITH ACUTE,3THORN,1SMALL LETTER SHARP S,3A WITH GRAVE,5ACUTE,5CIRCUMFLEX,5TILDE
  5DIAERESIS,5RING ABOVE,3AE,3C WITH CEDILLA,3E WITH GRAVE,5ACUTE,5CIRCUMFLEX,5DIAERESIS
  3I WITH GRAVE,5ACUTE,5CIRCUMFLEX,5DIAERESIS,3ETH,3N WITH TILDE,3O WITH GRAVE,5ACUTE,5CIRCUMFLEX
  5TILDE,5DIAERESIS,DIVISION SIGN,LATIN SMALL LETTER O WITH STROKE,3U WITH GRAVE,5ACUTE,5CIRCUMFLEX
  5DIAERESIS,3Y WITH ACUTE,3THORN,3Y WITH DIAERESIS,1CAPITAL LETTER A WITH MACRON,1SMALL*4
  1CAPITAL LETTER A WITH BREVE,1SMALL*4,1CAPITAL LETTER A WITH OGONEK,1SMALL*4
  1CAPITAL LETTER C WITH ACUTE,1SMALL*4,1CAPITAL LETTER C WITH CIRCUMFLEX,1SMALL*4
  1CAPITAL LETTER C WITH DOT ABOVE,1SMALL*5,1CAPITAL LETTER C WITH CARON,1SMALL*4
  1CAPITAL LETTER D*2,1SMALL*4,1CAPITAL LETTER D WITH STROKE,1SMALL*4,1CAPITAL LETTER E WITH MACRON
  1SMALL*4,1CAPITAL LETTER E WITH BREVE,1SMALL*4,1CAPITAL LETTER E WITH DOT ABOVE,1SMALL*5
  1CAPITAL LETTER E WITH OGONEK,1SMALL*4,1CAPITAL LETTER E WITH CARON,1SMALL*4
  1CAPITAL LETTER G WITH CIRCUMFLEX,1SMALL*4,1CAPITAL LETTER G WITH BREVE,1SMALL*4
  1CAPITAL LETTER G WITH DOT ABOVE,1SMALL*5,1CAPITAL LETTER G WITH CEDILLA,1SMALL*4
  1CAPITAL LETTER H WITH CIRCUMFLEX,1SMALL*4,1CAPITAL LETTER H WITH STROKE,1SMALL*4
  1CAPITAL LETTER I WITH TILDE,1SMALL*4,1CAPITAL LETTER I WITH MACRON,1SMALL*4
  1CAPITAL LETTER I WITH BREVE,1SMALL*4,1CAPITAL LETTER I WITH OGONEK,1SMALL*4
  1CAPITAL LETTER I WITH DOT ABOVE,1SMALL LETTER DOTLESS I,1CAPITAL LIGATURE IJ,1SMALL*2
  1CAPITAL LETTER J WITH CIRCUMFLEX,1SMALL*4,1CAPITAL LETTER K WITH CEDILLA,1SMALL*4,3KRA
  1CAPITAL LETTER L WITH ACUTE,1SMALL*4,1CAPITAL LETTER L WITH CEDILLA,1SMALL*4
  1CAPITAL LETTER L WITH CARON,1SMALL*4,1CAPITAL LETTER L WITH MIDDLE DOT,1SMALL*5
  1CAPITAL LETTER L WITH STROKE,1SMALL*4,1CAPITAL LETTER N WITH ACUTE,1SMALL*4
  1CAPITAL LETTER N WITH CEDILLA,1SMALL*4,1CAPITAL LETTER N WITH CARON,1SMALL*4
  4PRECEDED BY APOSTROPHE,1CAPITAL LETTER ENG,1SMALL*2,1CAPITAL LETTER O WITH MACRON,1SMALL*4
  1CAPITAL LETTER O WITH BREVE,1SMALL*4,1CAPITAL LETTER O WITH DOUBLE ACUTE,1SMALL*5
  1CAPITAL LIGATURE OE,1SMALL*2,1CAPITAL LETTER R WITH ACUTE,1SMALL*4
  1CAPITAL LETTER R WITH CEDILLA,1SMALL*4,1CAPITAL LETTER R WITH CARON,1SMALL*4
  1CAPITAL LETTER S WITH ACUTE,1SMALL*4,1CAPITAL LETTER S WITH CIRCUMFLEX,1SMALL*4
  1CAPITAL LETTER S WITH CEDILLA,1SMALL*4,1CAPITAL LETTER S WITH CARON,1SMALL*4
  1CAPITAL LETTER T WITH CEDILLA,1SMALL*4,1CAPITAL LETTER T WITH CARON,1SMALL*4
  1CAPITAL LETTER T WITH STROKE,1SMALL*4,1CAPITAL LETTER U WITH TILDE,1SMALL*4
  1CAPITAL LETTER U WITH MACRON,1SMALL*4,1CAPITAL LETTER U WITH BREVE,1SMALL*4
  1CAPITAL LETTER U WITH RING ABOVE,1SMALL*5,1CAPITAL LETTER U WITH DOUBLE ACUTE,1SMALL*5
  1CAPITAL LETTER U WITH OGONEK,1SMALL*4,1CAPITAL LETTER W WITH CIRCUMFLEX,1SMALL*4
  1CAPITAL LETTER Y*2,1SMALL*4,1CAPITAL LETTER Y WITH DIAERESIS,3Z WITH ACUTE,1SMALL*4
  1CAPITAL LETTER Z WITH DOT ABOVE,1SMALL*5,1CAPITAL LETTER Z WITH CARON,1SMALL*4,3LONG S
  3B WITH STROKE,1CAPITAL LETTER B WITH HOOK,5TOPBAR,1SMALL*4,1CAPITAL LETTER TONE SIX,1SMALL*3
  1CAPITAL LETTER OPEN O,3C WITH HOOK,1SMALL*4,1CAPITAL LETTER AFRICAN D,3D WITH HOOK,5TOPBAR
  1SMALL*4,3TURNED DELTA,1CAPITAL LETTER REVERSED E,3SCHWA,3OPEN E,3F WITH HOOK,1SMALL*4
  1CAPITAL LETTER G*2,3GAMMA,1SMALL LETTER HV,1CAPITAL LETTER IOTA,3I WITH STROKE,3K WITH HOOK
  1SMALL*4,3L WITH BAR,3LAMBDA WITH STROKE,1CAPITAL LETTER TURNED M,3N WITH LEFT HOOK
  1SMALL LETTER N WITH LONG RIGHT LEG,1CAPITAL LETTER O WITH MIDDLE TILDE,5HORN,1SMALL*4
  1CAPITAL LETTER OI,1SMALL*2,1CAPITAL LETTER P WITH HOOK,1SMALL*4,1LETTER YR
  1CAPITAL LETTER TONE TWO,1SMALL*3,1CAPITAL LETTER ESH,1LETTER REVERSED ESH LOOP
  1SMALL LETTER T WITH PALATAL HOOK,1CAPITAL LETTER T WITH*1,1SMALL*4
  1CAPITAL LETTER T WITH RETROFLEX*1,3U WITH HORN,1SMALL*4,1CAPITAL LETTER UPSILON,3V WITH HOOK
  3Y*2,1SMALL*4,1CAPITAL LETTER Z WITH STROKE,1SMALL*4,1CAPITAL LETTER EZH,4REVERSED,1SMALL*3
  4WITH TAIL,1LETTER TWO WITH STROKE,1CAPITAL LETTER TONE FIVE,1SMALL*3
  1LETTER INVERTED GLOTTAL STOP WITH STROKE,2WYNN,2DENTAL CLICK,2LATERAL*1,2ALVEOLAR*1,2RETROFLEX*1
  1CAPITAL LETTER DZ WITH CARON,3D WITH SMALL LETTER Z*2,1SMALL LETTER DZ*2,1CAPITAL LETTER LJ
  3L WITH SMALL LETTER J,1SMALL LETTER LJ,1CAPITAL LETTER NJ,3N WITH SMALL LETTER J
  1SMALL LETTER NJ,1CAPITAL LETTER A WITH CARON,1SMALL*4,1CAPITAL LETTER I*2,1SMALL*4
  1CAPITAL LETTER O*2,1SMALL*4,1CAPITAL LETTER U*2,1SMALL*4
  1CAPITAL LETTER U WITH DIAERESIS AND MACRON,1SMALL*6,1CAPITAL LETTER U WITH DIAERESIS AND ACUTE
  1SMALL*6,1CAPITAL LETTER U WITH DIAERESIS AND CARON,1SMALL*6
  1CAPITAL LETTER U WITH DIAERESIS AND GRAVE,1SMALL*6,3TURNED E
  1CAPITAL LETTER A WITH DIAERESIS AND MACRON,1SMALL*6,1CAPITAL LETTER A WITH DOT ABOVE*2,1SMALL*7
  1CAPITAL LETTER AE WITH*1,1SMALL*4,1CAPITAL LETTER G WITH STROKE,1SMALL*4
  1CAPITAL LETTER G WITH CARON,1SMALL*4,1CAPITAL LETTER K*2,1SMALL*4,1CAPITAL LETTER O WITH OGONEK
  1SMALL*4,1CAPITAL LETTER O WITH OGONEK AND MACRON,1SMALL*6,1CAPITAL LETTER EZH WITH CARON
  1SMALL*4,3J*2,1CAPITAL LETTER DZ,3D WITH SMALL LETTER Z,1SMALL LETTER DZ
  1CAPITAL LETTER G WITH ACUTE,1SMALL*4,1CAPITAL LETTER HWAIR,3WYNN,3N WITH GRAVE,1SMALL*4
  1CAPITAL LETTER A WITH RING ABOVE AND ACUTE,1SMALL*7,1CAPITAL LETTER AE WITH*1,1SMALL*4
  1CAPITAL LETTER O WITH STROKE AND*1,1SMALL*6,1CAPITAL LETTER A WITH DOUBLE GRAVE,1SMALL*5
  1CAPITAL LETTER A WITH INVERTED BREVE,1SMALL*5,1CAPITAL LETTER E WITH DOUBLE GRAVE,1SMALL*5
  1CAPITAL LETTER E WITH INVERTED BREVE,1SMALL*5,1CAPITAL LETTER I WITH DOUBLE GRAVE,1SMALL*5
  1CAPITAL LETTER I WITH INVERTED BREVE,1SMALL*5,1CAPITAL LETTER O WITH DOUBLE GRAVE,1SMALL*5
  1CAPITAL LETTER O WITH INVERTED BREVE,1SMALL*5,1CAPITAL LETTER R WITH DOUBLE GRAVE,1SMALL*5
  1CAPITAL LETTER R WITH INVERTED BREVE,1SMALL*5,1CAPITAL LETTER U WITH DOUBLE GRAVE,1SMALL*5
  1CAPITAL LETTER U WITH INVERTED BREVE,1SMALL*5,1CAPITAL LETTER S WITH COMMA BELOW,1SMALL*5
  1CAPITAL LETTER T*3,1SMALL*5,1CAPITAL LETTER YOGH,1SMALL*2,1CAPITAL LETTER H WITH CARON,1SMALL*4
  1CAPITAL LETTER N WITH LONG RIGHT LEG,1SMALL LETTER D WITH CURL,1CAPITAL LETTER OU,1SMALL*2
  1CAPITAL LETTER Z WITH HOOK,1SMALL*4,1CAPITAL LETTER A WITH DOT ABOVE,1SMALL*5
  1CAPITAL LETTER E WITH CEDILLA,1SMALL*4,1CAPITAL LETTER O WITH DIAERESIS AND MACRON,1SMALL*6
  1CAPITAL LETTER O WITH TILDE*2,1SMALL*6,1CAPITAL LETTER O WITH DOT ABOVE,1SMALL*5
  1CAPITAL LETTER O WITH DOT ABOVE AND MACRON,1SMALL*7,1CAPITAL LETTER Y WITH*1,1SMALL*4
  3L WITH CURL,3N*2,3T*2,3DOTLESS J,3DB DIGRAPH,3QP*1,1CAPITAL LETTER A WITH STROKE,3C*2,1SMALL*4
  1CAPITAL LETTER L WITH BAR,3T WITH DIAGONAL STROKE,1SMALL LETTER S WITH SWASH TAIL,3Z*3
  1CAPITAL LETTER GLOTTAL STOP,1SMALL*3,1CAPITAL LETTER B WITH STROKE,3U BAR,3TURNED V
  3E WITH STROKE,1SMALL*4,1CAPITAL LETTER J*2,1SMALL*4,1CAPITAL LETTER SMALL Q WITH HOOK TAIL
  1SMALL LETTER*4,1CAPITAL LETTER R WITH STROKE,1SMALL*4,1CAPITAL LETTER Y*2,1SMALL*4,3TURNED A
  3ALPHA,3TURNED*1,3B WITH HOOK,3OPEN O,3C WITH CURL,3D WITH TAIL,5HOOK,3REVERSED E,3SCHWA
  4WITH HOOK,3OPEN E,3REVERSED*2,6WITH HOOK,3CLOSED REVERSED OPEN E,3DOTLESS J WITH STROKE
  3G WITH HOOK,3SCRIPT G,1LETTER SMALL CAPITAL G,1SMALL LETTER GAMMA,3RAMS HORN,3TURNED H
  3H WITH HOOK,3HENG*2,3I WITH STROKE,3IOTA,1LETTER SMALL CAPITAL I
  1SMALL LETTER L WITH MIDDLE TILDE,5BELT,5RETROFLEX HOOK,3LEZH,3TURNED M,5WITH LONG LEG
  3M WITH HOOK,3N WITH LEFT*1,5RETROFLEX*1,1LETTER SMALL CAPITAL N,1SMALL LETTER BARRED O
  1LETTER SMALL CAPITAL OE,1SMALL LETTER CLOSED OMEGA,3PHI,3TURNED R,5WITH LONG LEG,6HOOK
  3R WITH LONG LEG,5TAIL,5FISHHOOK,3REVERSED*3,1LETTER SMALL CAPITAL R,4INVERTED R
  1SMALL LETTER S WITH HOOK,3ESH,3DOTLESS J WITH STROKE AND HOOK,3SQUAT REVERSED ESH,3ESH WITH CURL
  3TURNED T,3T WITH RETROFLEX HOOK,3U BAR,3UPSILON,3V WITH HOOK,3TURNED V,4W,4Y
  1LETTER SMALL CAPITAL Y,1SMALL LETTER Z WITH RETROFLEX HOOK,5CURL,3EZH,4WITH CURL
  1LETTER GLOTTAL STOP,2PHARYNGEAL VOICED FRICATIVE,2INVERTED GLOTTAL STOP,2STRETCHED C
  2BILABIAL CLICK,2SMALL CAPITAL B,1SMALL LETTER CLOSED OPEN E,1LETTER SMALL CAPITAL G WITH HOOK,4H
  1SMALL LETTER J WITH CROSSED-TAIL,3TURNED K,1LETTER SMALL CAPITAL L,1SMALL LETTER Q WITH HOOK
  1LETTER GLOTTAL STOP WITH STROKE,2REVERSED*4,1SMALL LETTER DZ DIGRAPH,3DEZH*1
  3DZ DIGRAPH WITH CURL,3TS DIGRAPH,3TESH*1,3TC DIGRAPH WITH CURL,3FENG DIGRAPH,3LS*1,3LZ*1
  1LETTER BILABIAL PERCUSSIVE,2BIDENTAL*1,1SMALL LETTER TURNED H WITH FISHHOOK,7AND TAIL
  MODIFIER LETTER SMALL H,4WITH HOOK,3J,3R,3TURNED R,5WITH HOOK,3CAPITAL INVERTED R,3W,3Y,2PRIME
  2DOUBLE*1,2TURNED COMMA,2APOSTROPHE,2REVERSED COMMA,2RIGHT HALF RING,2LEFT*2,2GLOTTAL STOP
  2REVERSED*2,2LEFT ARROWHEAD,2RIGHT*1,2UP*1,2DOWN*1,2CIRCUMFLEX ACCENT,CARON
  MODIFIER LETTER VERTICAL LINE,2MACRON,2ACUTE ACCENT,2GRAVE*1,2LOW VERTICAL LINE,3MACRON
  3GRAVE ACCENT,3ACUTE*1,2TRIANGULAR COLON,2HALF*2,2CENTRED RIGHT HALF RING,3LEFT*2,2UP TACK
  2DOWN*1,2PLUS SIGN,2MINUS*1,BREVE,DOT ABOVE,RING*1,OGONEK,SMALL TILDE,DOUBLE ACUTE ACCENT
  MODIFIER LETTER RHOTIC HOOK,2CROSS ACCENT,2SMALL GAMMA,3L,3S,3X,3REVERSED GLOTTAL STOP
  2EXTRA-HIGH TONE BAR,2HIGH*2,2MID*2,2LOW*2,2EXTRA-LOW*2,2YIN DEPARTING TONE MARK,2YANG*3,2VOICING
  2UNASPIRATED,2DOUBLE APOSTROPHE,2LOW DOWN ARROWHEAD,3UP*1,3LEFT*1,3RIGHT*1,3RING
  2MIDDLE GRAVE ACCENT,3DOUBLE*2,4ACUTE*1,2LOW TILDE,2RAISED COLON,2BEGIN HIGH TONE,2END*2
  2BEGIN LOW*1,2END*2,2SHELF,2OPEN*1,2LOW LEFT ARROW,COMBINING GRAVE ACCENT,1ACUTE*1,1CIRCUMFLEX*1
  1TILDE,1MACRON,1OVERLINE,1BREVE,1DOT ABOVE,1DIAERESIS,1HOOK ABOVE,1RING*1,1DOUBLE ACUTE ACCENT
  1CARON,1VERTICAL LINE ABOVE,1DOUBLE*3,2GRAVE ACCENT,1CANDRABINDU,1INVERTED BREVE
  1TURNED COMMA ABOVE,1*2,1REVERSED*2,1COMMA ABOVE RIGHT,1GRAVE ACCENT BELOW,1ACUTE*2,1LEFT TACK*1
  1RIGHT*2,1LEFT ANGLE ABOVE,1HORN,1LEFT HALF RING BELOW,1UP TACK*1,1DOWN*2,1PLUS SIGN*1,1MINUS*2
  1PALATALIZED HOOK*1,1RETROFLEX*2,1DOT*1,1DIAERESIS*1,1RING*1,1COMMA*1,1CEDILLA,1OGONEK
  1VERTICAL LINE BELOW,1BRIDGE*1,1INVERTED DOUBLE ARCH*1,1CARON*1,1CIRCUMFLEX ACCENT*1,1BREVE*1
  1INVERTED*2,1TILDE*1,1MACRON*1,1LOW LINE,1DOUBLE*2,1TILDE OVERLAY,1SHORT STROKE*1,1LONG*2
  1SHORT SOLIDUS*1,1LONG*2,1RIGHT HALF RING BELOW,1INVERTED BRIDGE*1,1SQUARE*1,1SEAGULL*1,1X ABOVE
  1VERTICAL TILDE,1DOUBLE OVERLINE,1GRAVE TONE MARK,1ACUTE*2,1GREEK PERISPOMENI,2KORONIS
  2DIALYTIKA TONOS,2YPOGEGRAMMENI,1BRIDGE ABOVE,1EQUALS SIGN BELOW,1DOUBLE VERTICAL LINE*1
  1LEFT ANGLE*1,1NOT TILDE ABOVE,1HOMOTHETIC*1,1ALMOST EQUAL TO*1,1LEFT RIGHT ARROW BELOW
  1UPWARDS*2,1GRAPHEME JOINER,1RIGHT ARROWHEAD ABOVE,1LEFT HALF RING*1,1FERMATA,1X BELOW
  1LEFT ARROWHEAD*1,1RIGHT*2,3AND UP ARROWHEAD*1,2HALF RING ABOVE,1DOT ABOVE RIGHT,1ASTERISK BELOW
  1DOUBLE RING*1,1ZIGZAG ABOVE,1DOUBLE BREVE BELOW,3,2MACRON,3BELOW,2TILDE,2INVERTED BREVE
  2RIGHTWARDS ARROW BELOW,1LATIN SMALL LETTER A,4E,4I,4O,4U,4C,4D,4H,4M,4R,4T,4V,4X
  GREEK CAPITAL LETTER HETA,1SMALL*2,1CAPITAL LETTER ARCHAIC SAMPI,1SMALL*3,1NUMERAL SIGN,1LOWER*2
  1CAPITAL LETTER PAMPHYLIAN DIGAMMA,1SMALL*3,@37A 1YPOGEGRAMMENI
  1SMALL REVERSED LUNATE SIGMA SYMBOL,2DOTTED*3,2REVERSED*4,1QUESTION MARK,1CAPITAL LETTER YOT
  @384 1TONOS,1DIALYTIKA*1,1CAPITAL LETTER ALPHA WITH*1,1ANO TELEIA
  1CAPITAL LETTER EPSILON WITH TONOS,3ETA*2,3IOTA*2,@38C 3OMICRON*2,@38E 3UPSILON*2,3OMEGA*2
  1SMALL LETTER IOTA WITH DIALYTIKA AND*1,1CAPITAL LETTER ALPHA,3BETA,3GAMMA,3DELTA,3EPSILON,3ZETA
  3ETA,3THETA,3IOTA,3KAPPA,3LAMDA,3MU,3NU,3XI,3OMICRON,3PI,3RHO,@3A3 3SIGMA,3TAU,3UPSILON,3PHI,3CHI
  3PSI,3OMEGA,3IOTA WITH DIALYTIKA,3UPSILON*2,1SMALL LETTER ALPHA WITH TONOS,3EPSILON*2,3ETA*2
  3IOTA*2,3UPSILON WITH DIALYTIKA AND*1,3ALPHA,3BETA,3GAMMA,3DELTA,3EPSILON,3ZETA,3ETA,3THETA,3IOTA
  3KAPPA,3LAMDA,3MU,3NU,3XI,3OMICRON,3PI,3RHO,3FINAL SIGMA,3*1,3TAU,3UPSILON,3PHI,3CHI,3PSI,3OMEGA
  3IOTA WITH DIALYTIKA,3UPSILON*2,3OMICRON WITH TONOS,3UPSILON*2,3OMEGA*2,1CAPITAL KAI SYMBOL
  1BETA*1,1THETA*1,1UPSILON WITH HOOK*1,3ACUTE AND*2,3DIAERESIS*3,1PHI*1,1PI*1,1KAI*1
  1LETTER ARCHAIC KOPPA,1SMALL*3,1LETTER STIGMA,1SMALL*2,1LETTER DIGAMMA,1SMALL*2,1LETTER KOPPA
  1SMALL*2,1LETTER SAMPI,1SMALL*2,COPTIC CAPITAL LETTER SHEI,1SMALL*2,1CAPITAL LETTER FEI,1SMALL*2
  1CAPITAL LETTER KHEI,1SMALL*2,1CAPITAL LETTER HORI,1SMALL*2,1CAPITAL LETTER GANGIA,1SMALL*2
  1CAPITAL LETTER SHIMA,1SMALL*2,1CAPITAL LETTER DEI,1SMALL*2,GREEK KAPPA SYMBOL,1RHO*1
  1LUNATE SIGMA*1,1LETTER YOT,1CAPITAL THETA SYMBOL,1LUNATE EPSILON*1,1REVERSED*3
  1CAPITAL LETTER SHO,1SMALL*2,1CAPITAL LUNATE SIGMA SYMBOL,2LETTER SAN,1SMALL*2
  1RHO WITH STROKE SYMBOL,1CAPITAL REVERSED LUNATE SIGMA*1,2DOTTED*3,2REVERSED*4
  CYRILLIC CAPITAL LETTER IE WITH GRAVE,3IO,3DJE,3GJE,3UKRAINIAN IE,3DZE,3BYELORUSSIAN-UKRAINIAN I
  3YI,3JE,3LJE,3NJE,3TSHE,3KJE,3I WITH GRAVE,3SHORT U,3DZHE,3A,3BE,3VE,3GHE,3DE,3IE,3ZHE,3ZE,3I
  3SHORT I,3KA,3EL,3EM,3EN,3O,3PE,3ER,3ES,3TE,3U,3EF,3HA,3TSE,3CHE,3SHA,3SHCHA,3HARD SIGN,3YERU
  3SOFT SIGN,3E,3YU,3YA,1SMALL LETTER A,3BE,3VE,3GHE,3DE,3IE,3ZHE,3ZE,3I,3SHORT I,3KA,3EL,3EM,3EN
  3O,3PE,3ER,3ES,3TE,3U,3EF,3HA,3TSE,3CHE,3SHA,3SHCHA,3HARD SIGN,3YERU,3SOFT SIGN,3E,3YU,3YA
  3IE WITH GRAVE,3IO,3DJE,3GJE,3UKRAINIAN IE,3DZE,3BYELORUSSIAN-UKRAINIAN I,3YI,3JE,3LJE,3NJE,3TSHE
  3KJE,3I WITH GRAVE,3SHORT U,3DZHE,1CAPITAL LETTER OMEGA,1SMALL*2,1CAPITAL LETTER YAT,1SMALL*2
  1CAPITAL LETTER IOTIFIED E,1SMALL*3,1CAPITAL LETTER LITTLE YUS,1SMALL*3
  1CAPITAL LETTER IOTIFIED*2,1SMALL*4,1CAPITAL LETTER BIG*1,1SMALL*3,1CAPITAL LETTER IOTIFIED*2
  1SMALL*4,1CAPITAL LETTER KSI,1SMALL*2,1CAPITAL LETTER PSI,1SMALL*2,1CAPITAL LETTER FITA,1SMALL*2
  1CAPITAL LETTER IZHITSA,1SMALL*2,1CAPITAL LETTER IZHITSA WITH DOUBLE GRAVE ACCENT,1SMALL*6
  1CAPITAL LETTER UK,1SMALL*2,1CAPITAL LETTER ROUND OMEGA,1SMALL*3,1CAPITAL LETTER OMEGA WITH TITLO
  1SMALL*4,1CAPITAL LETTER OT,1SMALL*2,1CAPITAL LETTER KOPPA,1SMALL*2,1THOUSANDS SIGN
  COMBINING CYRILLIC TITLO,2PALATALIZATION,2DASIA PNEUMATA,2PSILI*1,2POKRYTIE
  2HUNDRED THOUSANDS SIGN,2MILLIONS*1,CYRILLIC CAPITAL LETTER SHORT I WITH TAIL,1SMALL*5
  1CAPITAL LETTER SEMISOFT SIGN,1SMALL*3,1CAPITAL LETTER ER WITH TICK,1SMALL*4
  1CAPITAL LETTER GHE WITH UPTURN,1SMALL*4,1CAPITAL LETTER GHE WITH STROKE,1SMALL*4
  1CAPITAL LETTER GHE WITH MIDDLE HOOK,1SMALL*5,1CAPITAL LETTER ZHE WITH DESCENDER,1SMALL*4
  1CAPITAL LETTER ZE*2,1SMALL*4,1CAPITAL LETTER KA*2,1SMALL*4
  1CAPITAL LETTER KA WITH VERTICAL STROKE,1SMALL*5,1CAPITAL LETTER KA WITH*1,1SMALL*4
  1CAPITAL LETTER BASHKIR KA,1SMALL*3,1CAPITAL LETTER EN WITH DESCENDER,1SMALL*4
  1CAPITAL LIGATURE EN GHE,1SMALL*3,1CAPITAL LETTER PE WITH MIDDLE HOOK,1SMALL*5
  1CAPITAL LETTER ABKHASIAN HA,1SMALL*3,1CAPITAL LETTER ES WITH DESCENDER,1SMALL*4
  1CAPITAL LETTER TE*2,1SMALL*4,1CAPITAL LETTER STRAIGHT U,1SMALL*3
  1CAPITAL LETTER STRAIGHT U WITH STROKE,1SMALL*5,1CAPITAL LETTER HA WITH DESCENDER,1SMALL*4
  1CAPITAL LIGATURE TE TSE,1SMALL*3,1CAPITAL LETTER CHE WITH DESCENDER,1SMALL*4
  1CAPITAL LETTER CHE WITH VERTICAL STROKE,1SMALL*5,1CAPITAL LETTER SHHA,1SMALL*2
  1CAPITAL LETTER ABKHASIAN CHE,1SMALL*3,1CAPITAL LETTER ABKHASIAN CHE WITH DESCENDER,1SMALL*5
  1LETTER PALOCHKA,1CAPITAL LETTER ZHE WITH BREVE,1SMALL*4,1CAPITAL LETTER KA WITH HOOK,1SMALL*4
  1CAPITAL LETTER EL WITH TAIL,1SMALL*4,1CAPITAL LETTER EN WITH HOOK,1SMALL*4
  1CAPITAL LETTER EN WITH TAIL,1SMALL*4,1CAPITAL LETTER KHAKASSIAN CHE,1SMALL*3
  1CAPITAL LETTER EM WITH TAIL,1SMALL*4,3PALOCHKA,1CAPITAL LETTER A WITH BREVE,1SMALL*4
  1CAPITAL LETTER A WITH DIAERESIS,1SMALL*4,1CAPITAL LIGATURE A IE,1SMALL*3
  1CAPITAL LETTER IE WITH BREVE,1SMALL*4,1CAPITAL LETTER SCHWA,1SMALL*2
  1CAPITAL LETTER SCHWA WITH DIAERESIS,1SMALL*4,1CAPITAL LETTER ZHE*2,1SMALL*4,1CAPITAL LETTER ZE*2
  1SMALL*4,1CAPITAL LETTER ABKHASIAN DZE,1SMALL*3,1CAPITAL LETTER I WITH MACRON,1SMALL*4
  1CAPITAL LETTER I WITH DIAERESIS,1SMALL*4,1CAPITAL LETTER O*2,1SMALL*4,1CAPITAL LETTER BARRED O
  1SMALL*3,1CAPITAL LETTER BARRED O WITH DIAERESIS,1SMALL*5,1CAPITAL LETTER E*2,1SMALL*4
  1CAPITAL LETTER U WITH MACRON,1SMALL*4,1CAPITAL LETTER U WITH DIAERESIS,1SMALL*4
  1CAPITAL LETTER U WITH DOUBLE ACUTE,1SMALL*5,1CAPITAL LETTER CHE WITH DIAERESIS,1SMALL*4
  1CAPITAL LETTER GHE WITH DESCENDER,1SMALL*4,1CAPITAL LETTER YERU WITH DIAERESIS,1SMALL*4
  1CAPITAL LETTER GHE WITH STROKE AND HOOK,1SMALL*6,1CAPITAL LETTER HA WITH*1,1SMALL*4
  1CAPITAL LETTER HA WITH STROKE,1SMALL*4,1CAPITAL LETTER KOMI DE,1SMALL*3,1CAPITAL LETTER KOMI DJE
  1SMALL*3,1CAPITAL LETTER KOMI ZJE,1SMALL*3,1CAPITAL LETTER KOMI DZJE,1SMALL*3
  1CAPITAL LETTER KOMI LJE,1SMALL*3,1CAPITAL LETTER KOMI NJE,1SMALL*3,1CAPITAL LETTER KOMI SJE
  1SMALL*3,1CAPITAL LETTER KOMI TJE,1SMALL*3,1CAPITAL LETTER REVERSED ZE,1SMALL*3
  1CAPITAL LETTER EL WITH HOOK,1SMALL*4,1CAPITAL LETTER LHA,1SMALL*2,1CAPITAL LETTER RHA,1SMALL*2
  1CAPITAL LETTER YAE,1SMALL*2,1CAPITAL LETTER QA,1SMALL*2,1CAPITAL LETTER WE,1SMALL*2
  1CAPITAL LETTER ALEUT KA,1SMALL*3,1CAPITAL LETTER EL WITH MIDDLE HOOK,1SMALL*5
  1CAPITAL LETTER EN*3,1SMALL*5,1CAPITAL LETTER PE WITH DESCENDER,1SMALL*4,1CAPITAL LETTER SHHA*2
  1SMALL*4,1CAPITAL LETTER EN WITH LEFT HOOK,1SMALL*5,1CAPITAL LETTER DZZHE,1SMALL*2
  1CAPITAL LETTER DCHE,1SMALL*2,1CAPITAL LETTER EL WITH DESCENDER,1SMALL*4
  @531 ARMENIAN CAPITAL LETTER AYB,3BEN,3GIM,3DA,3ECH,3ZA,3EH,3ET,3TO,3ZHE,3INI,3LIWN,3XEH,3CA,3KEN
  3HO,3JA,3GHAD,3CHEH,3MEN,3YI,3NOW,3SHA,3VO,3CHA,3PEH,3JHEH,3RA,3SEH,3VEW,3TIWN,3REH,3CO,3YIWN
  3PIWR,3KEH,3OH,3FEH,@559 1MODIFIER LETTER LEFT HALF RING,1APOSTROPHE,1EMPHASIS MARK
  1EXCLAMATION*1,1COMMA,1QUESTION MARK,1ABBREVIATION*1,1SMALL LETTER TURNED AYB,3*1,3BEN,3GIM,3DA
  3ECH,3ZA,3EH,3ET,3TO,3ZHE,3INI,3LIWN,3XEH,3CA,3KEN,3HO,3JA,3GHAD,3CHEH,3MEN,3YI,3NOW,3SHA,3VO
  3CHA,3PEH,3JHEH,3RA,3SEH,3VEW,3TIWN,3REH,3CO,3YIWN,3PIWR,3KEH,3OH,3FEH,2LIGATURE ECH YIWN
  2LETTER YI WITH STROKE,1FULL STOP,1HYPHEN,@58D RIGHT-FACING ARMENIAN ETERNITY SIGN,LEFT-FACING*3
  ARMENIAN DRAM*1,@591 HEBREW ACCENT ETNAHTA,2SEGOL,2SHALSHELET,2ZAQEF QATAN,3GADOL,2TIPEHA,2REVIA
  2ZARQA,2PASHTA,2YETIV,2TEVIR,2GERESH,3MUQDAM,2GERSHAYIM,2QARNEY PARA,2TELISHA GEDOLA,2PAZER
  2ATNAH HAFUKH,2MUNAH,2MAHAPAKH,2MERKHA,3KEFULA,2DARGA,2QADMA,2TELISHA QETANA,2YERAH BEN YOMO,2OLE
  2ILUY,2DEHI,2ZINOR,1MARK MASORA CIRCLE,1POINT SHEVA,2HATAF SEGOL,3PATAH,3QAMATS,2HIRIQ,2TSERE
  2SEGOL,2PATAH,2QAMATS,2HOLAM,3HASER FOR VAV,2QUBUTS,2DAGESH OR MAPIQ,2METEG,1PUNCTUATION MAQAF
  1POINT RAFE,1PUNCTUATION PASEQ,1POINT SHIN DOT,2SIN*1,1PUNCTUATION SOF PASUQ,1MARK UPPER DOT
  2LOWER*1,1PUNCTUATION NUN HAFUKHA,1POINT QAMATS QATAN,@5D0 1LETTER ALEF,2BET,2GIMEL,2DALET,2HE
  2VAV,2ZAYIN,2HET,2TET,2YOD,2FINAL KAF,2*1,2LAMED,2FINAL MEM,2*1,2FINAL NUN,2*1,2SAMEKH,2AYIN
  2FINAL PE,2PE,2FINAL TSADI,2*1,2QOF,2RESH,2SHIN,2TAV,@5EF 1YOD TRIANGLE
  1LIGATURE YIDDISH DOUBLE VAV,3VAV YOD,3DOUBLE*1,1PUNCTUATION GERESH,2GERSHAYIM
  @600 ARABIC NUMBER SIGN,1SIGN SANAH,1FOOTNOTE MARKER,1SIGN SAFHA,2SAMVAT,1NUMBER MARK ABOVE
  ARABIC-INDIC CUBE ROOT,1FOURTH*1,ARABIC RAY,ARABIC-INDIC PER MILLE SIGN,2TEN THOUSAND*1,AFGHANI*1
  ARABIC COMMA,1DATE SEPARATOR,1POETIC VERSE SIGN,1SIGN MISRA,2SALLALLAHOU ALAYHE WASSALLAM
  2ALAYHE ASSALLAM,2RAHMATULLAH ALAYHE,2RADI ALLAHOU ANHU,2TAKHALLUS,1SMALL HIGH TAH
  3LIGATURE ALEF WITH LAM WITH YEH,3ZAIN,2FATHA,2DAMMA,2KASRA,1SEMICOLON,1LETTER MARK
  1END OF TEXT*1,1TRIPLE DOT PUNCTUATION*1,1QUESTION*1,1LETTER KASHMIRI YEH,2HAMZA
  2ALEF WITH MADDA ABOVE,4HAMZA*1,2WAW*3,2ALEF WITH HAMZA BELOW,2YEH WITH HAMZA ABOVE,2ALEF,2BEH
  2TEH MARBUTA,3,2THEH,2JEEM,2HAH,2KHAH,2DAL,2THAL,2REH,2ZAIN,2SEEN,2SHEEN,2SAD,2DAD,2TAH,2ZAH,2AIN
  2GHAIN,2KEHEH WITH TWO DOTS ABOVE,4THREE DOTS BELOW,2FARSI YEH WITH INVERTED V,5TWO DOTS ABOVE
  5THREE*2,1TATWEEL,1LETTER FEH,2QAF,2KAF,2LAM,2MEEM,2NOON,2HEH,2WAW,2ALEF MAKSURA,2YEH,1FATHATAN
  1DAMMATAN,1KASRATAN,1FATHA,1DAMMA,1KASRA,1SHADDA,1SUKUN,1MADDAH ABOVE,1HAMZA*1,2BELOW
  1SUBSCRIPT ALEF,1INVERTED DAMMA,1MARK NOON GHUNNA,1ZWARAKAY,1VOWEL SIGN SMALL V ABOVE,3INVERTED*3
  3DOT BELOW,1REVERSED DAMMA,1FATHA WITH TWO DOTS,1WAVY HAMZA BELOW,ARABIC-INDIC DIGIT ZERO,2ONE
  2TWO,2THREE,2FOUR,2FIVE,2SIX,2SEVEN,2EIGHT,2NINE,ARABIC PERCENT SIGN,1DECIMAL SEPARATOR
  1THOUSANDS*1,1FIVE POINTED STAR,1LETTER DOTLESS BEH,3QAF,2SUPERSCRIPT ALEF,2ALEF WASLA
  3WITH WAVY HAMZA ABOVE,6BELOW,2HIGH HAMZA,4ALEF,4WAW,2U WITH HAMZA ABOVE,2HIGH HAMZA YEH,2TTEH
  2TTEHEH,2BEEH,2TEH WITH RING,4THREE DOTS ABOVE DOWNWARDS,2PEH,2TEHEH,2BEHEH,2HAH WITH HAMZA ABOVE
  4TWO DOTS VERTICAL*1,2NYEH,2DYEH,2HAH WITH THREE DOTS ABOVE,2TCHEH,2TCHEHEH,2DDAL,2DAL WITH RING
  4DOT BELOW,6AND SMALL TAH,2DAHAL,2DDAHAL,2DUL,2DAL WITH THREE DOTS ABOVE DOWNWARDS
  4FOUR DOTS ABOVE,2RREH,2REH WITH SMALL V,4RING,4DOT BELOW,4SMALL V*1,4DOT BELOW AND DOT ABOVE
  4TWO DOTS*1,2JEH,2REH WITH FOUR DOTS ABOVE,2SEEN WITH DOT BELOW AND DOT*1,4THREE DOTS BELOW
  7AND THREE DOTS ABOVE,2SAD WITH TWO DOTS BELOW,4THREE DOTS ABOVE,2TAH*4,2AIN*4,2DOTLESS FEH
  2FEH WITH DOT MOVED BELOW,5*1,2VEH,2FEH WITH THREE DOTS BELOW,2PEHEH,2QAF WITH DOT ABOVE
  4THREE DOTS*1,2KEHEH,2SWASH KAF,2KAF WITH RING,4DOT ABOVE,2NG,2KAF WITH THREE DOTS BELOW,2GAF
  3WITH RING,2NGOEH,2GAF WITH TWO DOTS BELOW,2GUEH,2GAF WITH THREE DOTS ABOVE,2LAM WITH SMALL V
  4DOT ABOVE,4THREE DOTS*1,6BELOW,2NOON WITH DOT*1,3GHUNNA,2RNOON,2NOON WITH RING,4THREE DOTS ABOVE
  2HEH DOACHASHMEE,2TCHEH WITH DOT ABOVE,2HEH WITH YEH*1,3GOAL,4WITH HAMZA ABOVE,2TEH MARBUTA GOAL
  2WAW WITH RING,2KIRGHIZ OE,2OE,2U,2YU,2KIRGHIZ*1,2WAW WITH TWO DOTS ABOVE,2VE,2FARSI YEH
  2YEH WITH TAIL,4SMALL V,2WAW WITH DOT ABOVE,2E,2YEH WITH THREE DOTS BELOW,3BARREE
  4WITH HAMZA ABOVE,1FULL STOP,1LETTER AE,1SMALL HIGH LIGATURE SAD WITH LAM WITH ALEF MAKSURA
  4QAF*5,3MEEM INITIAL FORM,3LAM ALEF,3JEEM,3THREE DOTS,3SEEN,1END OF AYAH,1START OF RUB EL HIZB
  1SMALL HIGH ROUNDED ZERO,3UPRIGHT RECTANGULAR*1,3DOTLESS HEAD OF KHAH,3MEEM ISOLATED FORM
  2LOW SEEN,2HIGH MADDA,2WAW,2YEH,2HIGH*1,3NOON,1PLACE OF SAJDAH,1EMPTY CENTRE LOW STOP,3HIGH*1
  1ROUNDED HIGH STOP WITH FILLED CENTRE,1SMALL LOW MEEM,1LETTER DAL WITH INVERTED V,2REH*3
  EXTENDED ARABIC-INDIC DIGIT ZERO,3ONE,3TWO,3THREE,3FOUR,3FIVE,3SIX,3SEVEN,3EIGHT,3NINE
  ARABIC LETTER SHEEN WITH DOT BELOW,2DAD*3,2GHAIN*3,1SIGN SINDHI AMPERSAND,3POSTPOSITION MEN
  1LETTER HEH WITH INVERTED V,SYRIAC END OF PARAGRAPH,1SUPRALINEAR FULL STOP,1SUBLINEAR*2
  1SUPRALINEAR COLON,1SUBLINEAR*1,1HORIZONTAL*1,1COLON SKEWED LEFT,3RIGHT
  1SUPRALINEAR COLON SKEWED LEFT,1SUBLINEAR COLON SKEWED RIGHT,1CONTRACTION,1HARKLEAN OBELUS
  2METOBELUS,2ASTERISCUS,@70F 1ABBREVIATION MARK,1LETTER ALAPH,2SUPERSCRIPT*1,2BETH,2GAMAL
  3GARSHUNI,2DALATH,2DOTLESS DALATH RISH,2HE,2WAW,2ZAIN,2HETH,2TETH,3GARSHUNI,2YUDH,3HE,2KAPH
  2LAMADH,2MIM,2NUN,2SEMKATH,2FINAL*1,2E,2PE,2REVERSED*1,2SADHE,2QAPH,2RISH,2SHIN,2TAW
  2PERSIAN BHETH,3GHAMAL,3DHALATH,1PTHAHA ABOVE,2BELOW,2DOTTED,1ZQAPHA ABOVE,2BELOW,2DOTTED
  1RBASA ABOVE,2BELOW,1DOTTED ZLAMA HORIZONTAL,3ANGULAR,1HBASA ABOVE,2BELOW,1HBASA-ESASA DOTTED
  1ESASA ABOVE,2BELOW,1RWAHA,1FEMININE DOT,1QUSHSHAYA,1RUKKAKHA,1TWO VERTICAL DOTS ABOVE,4BELOW
  1THREE DOTS ABOVE,3BELOW,1OBLIQUE LINE ABOVE,3BELOW,1MUSIC,1BARREKH,@74D 1LETTER SOGDIAN ZHAIN
  3KHAPH,3FE,ARABIC LETTER BEH WITH THREE DOTS HORIZONTALLY BELOW,4DOT BELOW AND THREE DOTS ABOVE
  4THREE DOTS POINTING UPWARDS BELOW,9AND TWO DOTS ABOVE,4TWO DOTS BELOW AND DOT*1
  4INVERTED SMALL V BELOW,4SMALL V,2HAH WITH TWO DOTS ABOVE,4THREE DOTS POINTING UPWARDS BELOW
  2DAL WITH TWO DOTS VERTICALLY BELOW AND SMALL TAH,4INVERTED SMALL V BELOW,2REH WITH STROKE
  2SEEN WITH FOUR DOTS ABOVE,2AIN WITH TWO*2,4THREE DOTS POINTING DOWNWARDS*1
  4TWO DOTS VERTICALLY*1,2FEH WITH TWO DOTS BELOW,4THREE DOTS POINTING UPWARDS*1
  2KEHEH WITH DOT ABOVE,4THREE DOTS*1,6POINTING UPWARDS BELOW,2MEEM WITH DOT ABOVE,5BELOW
  2NOON WITH TWO DOTS*1,4SMALL TAH,5V,2LAM WITH BAR,2REH WITH TWO DOTS VERTICALLY ABOVE,4HAMZA*1
  2SEEN WITH TWO DOTS VERTICALLY*1,2HAH WITH SMALL ARABIC LETTER TAH BELOW,8AND TWO DOTS,2SEEN*8
  2REH*8,2HAH WITH SMALL ARABIC LETTER TAH ABOVE,2ALEF WITH EXTENDED ARABIC-INDIC DIGIT TWO*1
  7THREE*1,2FARSI YEH WITH EXTENDED ARABIC-INDIC DIGIT TWO*1,8THREE*1,8FOUR BELOW
  2WAW WITH EXTENDED ARABIC-INDIC DIGIT TWO ABOVE,7THREE*1
  2YEH BARREE WITH EXTENDED ARABIC-INDIC DIGIT TWO*1,8THREE*1
  2HAH WITH EXTENDED ARABIC-INDIC DIGIT FOUR BELOW
  2SEEN WITH EXTENDED ARABIC-INDIC DIGIT FOUR ABOVE,4INVERTED V,2KAF WITH TWO DOTS ABOVE
  THAANA LETTER HAA,2SHAVIYANI,2NOONU,2RAA,2BAA,2LHAVIYANI,2KAAFU,2ALIFU,2VAAVU,2MEEMU,2FAAFU
  2DHAALU,2THAA,2LAAMU,2GAAFU,2GNAVIYANI,2SEENU,2DAVIYANI,2ZAVIYANI,2TAVIYANI,2YAA,2PAVIYANI
  2JAVIYANI,2CHAVIYANI,2TTAA,2HHAA,2KHAA,2THAALU,2ZAA,2SHEENU,2SAADHU,2DAADHU,2TO,2ZO,2AINU,2GHAINU
  2QAAFU,2WAAVU,1ABAFILI,1AABAAFILI,1IBIFILI,1EEBEEFILI,1UBUFILI,1OOBOOFILI,1EBEFILI,1EYBEYFILI
  1OBOFILI,1OABOAFILI,1SUKUN,1LETTER NAA,@7C0 NKO DIGIT ZERO,2ONE,2TWO,2THREE,2FOUR,2FIVE,2SIX
  2SEVEN,2EIGHT,2NINE,1LETTER A,2EE,2I,2E,2U,2OO,2O,2DAGBASINNA,2N,2BA,2PA,2TA,2JA,2CHA,2DA,2RA
  2RRA,2SA,2GBA,2FA,2KA,2LA,2NA WOLOSO,2MA,2NYA,2NA,2HA,2WA,2YA,2NYA WOLOSO,2JONA JA,3CHA,3RA
  1COMBINING SHORT HIGH TONE,3LOW*1,3RISING*1,2LONG DESCENDING*1,3HIGH*1,3LOW*1,3RISING*1
  2NASALIZATION MARK,2DOUBLE DOT ABOVE,1HIGH TONE APOSTROPHE,1LOW*2,1SYMBOL OO DENNEN,2GBAKURUNEN
  1COMMA,1EXCLAMATION MARK,1LAJANYALAN,@7FD 1DANTAYALAN,1DOROME SIGN,1TAMAN*1,SAMARITAN LETTER ALAF
  2BIT,2GAMAN,2DALAT,2IY,2BAA,2ZEN,2IT,2TIT,2YUT,2KAAF,2LABAT,2MIM,2NUN,2SINGAAT,2IN,2FI,2TSAADIY
  2QUF,2RISH,2SHAN,2TAAF,1MARK IN,2IN-ALAF,2OCCLUSION,2DAGESH,1MODIFIER LETTER EPENTHETIC YUT
  1MARK*2,1VOWEL SIGN LONG E,3E,3OVERLONG AA,3LONG*1,3AA,3OVERLONG A,3LONG A,3A
  1MODIFIER LETTER SHORT A,1VOWEL SIGN*2,3LONG U,3U,1MODIFIER LETTER I,1VOWEL SIGN LONG I,3I,3O
  3SUKUN,1MARK NEQUDAA,@830 1PUNCTUATION*1,2AFSAAQ,2ANGED,2BAU,2ATMAAU,2SHIYYAALAA
  1ABBREVIATION MARK,1PUNCTUATION MELODIC QITSA,2ZIQAA,2QITSA,2ZAEF,2TURU,2ARKAANU,2SOF MASHFAAT
  2ANNAAU,@840 MANDAIC LETTER HALQA,2AB,2AG,2AD,2AH,2USHENNA,2AZ,2IT,2ATT,2AKSA,2AK,2AL,2AM,2AN,2AS
  2IN,2AP,2ASZ,2AQ,2AR,2ASH,2AT,2DUSHENNA,2KAD,2AIN,1AFFRICATION MARK,1VOCALIZATION*1,1GEMINATION*1
  @85E 1PUNCTUATION,@860 SYRIAC LETTER MALAYALAM NGA,3JA,3NYA,3TTA,3NNA,3NNNA,3BHA,3RA,3LLA,3LLLA
  3SSA,@870 ARABIC LETTER ALEF WITH ATTACHED FATHA,5TOP RIGHT*1,4RIGHT MIDDLE STROKE,4LEFT*2
  4ATTACHED KASRA,5BOTTOM RIGHT*1,5ROUND DOT ABOVE,5RIGHT ROUND DOT,5LEFT*2,5ROUND DOT BELOW
  4DOT ABOVE,4ATTACHED TOP RIGHT FATHA AND*2,4RIGHT MIDDLE STROKE*3,4ATTACHED BOTTOM RIGHT KASRA*3
  5TOP RIGHT FATHA AND LEFT RING,4RIGHT MIDDLE STROKE*3,4ATTACHED BOTTOM RIGHT KASRA*3,5RIGHT HAMZA
  5LEFT*1,1TATWEEL WITH OVERSTRUCK*1,4WAW,3TWO DOTS BELOW,1LETTER THIN YEH,1BASELINE ROUND DOT
  1RAISED*2,1LETTER NOON WITH INVERTED SMALL V,2HAH WITH INVERTED SMALL V BELOW,2TAH WITH DOT*1
  4THREE DOTS*1,2KEHEH WITH TWO DOTS VERTICALLY*1,1VERTICAL TAIL,@890 1POUND MARK ABOVE,1PIASTRE*2
  @898 1SMALL HIGH WORD AL-JUZ,2LOW WORD ISHMAAM,4IMAALA,4TASHEEL,1MADDA WAAJIB
  1SUPERSCRIPT ALEF MOKHASSAS,1DOUBLED MADDA,1HALF MADDA OVER*1,1LETTER BEH WITH SMALL V BELOW
  4HAMZA ABOVE,2JEEM WITH TWO DOTS*1,2TAH*4,2FEH WITH DOT BELOW AND THREE*2,2QAF WITH DOT BELOW
  2LAM WITH DOUBLE BAR,2MEEM WITH THREE DOTS ABOVE,2YEH WITH TWO DOTS BELOW AND HAMZA*1,8DOT*1
  2REH WITH LOOP,2WAW WITH DOT WITHIN,2ROHINGYA YEH,2LOW ALEF,2DAL WITH THREE DOTS BELOW,2SAD*4
  2GAF WITH INVERTED STROKE,2STRAIGHT WAW,2ZAIN WITH INVERTED V ABOVE,2AIN WITH THREE DOTS BELOW
  2KAF WITH DOT*1,2QAF WITH DOT BELOW AND NO DOTS ABOVE,2BEH WITH SMALL MEEM*1,2PEH*4
  2TEH WITH SMALL TEH*1,2REH WITH SMALL NOON*1,2YEH WITH TWO DOTS BELOW AND*3,2AFRICAN FEH,3QAF
  3NOON,2PEH WITH SMALL V,2TEH*3,2TTEH*3,2TCHEH*3,2KEHEH*3,2GHAIN WITH THREE DOTS ABOVE
  2AFRICAN QAF*4,2JEEM*4,6BELOW,2LAM WITH SMALL ARABIC LETTER TAH ABOVE,2GRAF,1SMALL FARSI YEH
  2HIGH*2,3YEH BARREE WITH TWO DOTS BELOW,3WORD SAH,3ZAH,1LARGE ROUND DOT ABOVE,4BELOW,1SUKUN*1
  1LARGE CIRCLE*1,2ROUND DOT INSIDE*2,1SMALL LOW WAW,2HIGH WORD AR-RUB,3SAD,3AIN,3QAF
  3NOON WITH KASRA,2LOW*3,2HIGH WORD ATH-THALATHA,4AS-SAJDA,4AN-NISF,4SAKTA,4QIF,4WAQFA
  3FOOTNOTE MARKER,3SIGN SAFHA,1DISPUTED END OF AYAH,1TURNED DAMMA BELOW,1CURLY FATHA,2DAMMA,2KASRA
  2FATHATAN,2DAMMATAN,2KASRATAN,1TONE ONE DOT ABOVE,2TWO DOTS*1,2LOOP*1,2ONE DOT BELOW,2TWO DOTS*1
  2LOOP*1,1OPEN FATHATAN,2DAMMATAN,2KASRATAN,1SMALL HIGH WAW,1FATHA WITH RING,3DOT ABOVE
  1KASRA WITH DOT BELOW,1LEFT ARROWHEAD ABOVE,1RIGHT*2,1LEFT ARROWHEAD BELOW,1RIGHT*2
  1DOUBLE RIGHT ARROWHEAD ABOVE,5WITH DOT,1*5,1DAMMA*2,1MARK SIDEWAYS NOON GHUNNA
  DEVANAGARI SIGN INVERTED CANDRABINDU,2*1,2ANUSVARA,2VISARGA,1LETTER SHORT A,2A,2AA,2I,2II,2U,2UU
  2VOCALIC R,3L,2CANDRA E,2SHORT E,2E,2AI,2CANDRA O,2SHORT O,2O,2AU,2KA,2KHA,2GA,2GHA,2NGA,2CA,2CHA
  2JA,2JHA,2NYA,2TTA,2TTHA,2DDA,2DDHA,2NNA,2TA,2THA,2DA,2DHA,2NA,2NNNA,2PA,2PHA,2BA,2BHA,2MA,2YA
  2RA,2RRA,2LA,2LLA,2LLLA,2VA,2SHA,2SSA,2SA,2HA,1VOWEL SIGN OE,3OOE,1SIGN NUKTA,2AVAGRAHA
  1VOWEL SIGN AA,3I,3II,3U,3UU,3VOCALIC R,4RR,3CANDRA E,3SHORT E,3E,3AI,3CANDRA O,3SHORT O,3O,3AU
  1SIGN VIRAMA,1VOWEL SIGN PRISHTHAMATRA E,3AW,1OM,1STRESS SIGN UDATTA,3ANUDATTA,1GRAVE ACCENT
  1ACUTE*1,1VOWEL SIGN CANDRA LONG E,3UE,3UUE,1LETTER QA,2KHHA,2GHHA,2ZA,2DDDHA,2RHA,2FA,2YYA
  2VOCALIC RR,3LL,1VOWEL SIGN VOCALIC L,4LL,1DANDA,1DOUBLE*1,1DIGIT ZERO,2ONE,2TWO,2THREE,2FOUR
  2FIVE,2SIX,2SEVEN,2EIGHT,2NINE,1ABBREVIATION SIGN,1SIGN HIGH SPACING DOT,1LETTER CANDRA A,2OE
  2OOE,2AW,2UE,2UUE,2MARWARI DDA,2ZHA,2HEAVY YA,2GGA,2JJA,2GLOTTAL STOP,2DDDA,2BBA,BENGALI ANJI
  1SIGN CANDRABINDU,2ANUSVARA,2VISARGA,@985 1LETTER A,2AA,2I,2II,2U,2UU,2VOCALIC R,3L,@98F 2E,2AI
  @993 2O,2AU,2KA,2KHA,2GA,2GHA,2NGA,2CA,2CHA,2JA,2JHA,2NYA,2TTA,2TTHA,2DDA,2DDHA,2NNA,2TA,2THA,2DA
  2DHA,2NA,@9AA 2PA,2PHA,2BA,2BHA,2MA,2YA,2RA,@9B2 2LA,@9B6 2SHA,2SSA,2SA,2HA,@9BC 1SIGN NUKTA
  2AVAGRAHA,1VOWEL SIGN AA,3I,3II,3U,3UU,3VOCALIC R,4RR,@9C7 3E,3AI,@9CB 3O,3AU,1SIGN VIRAMA
  1LETTER KHANDA TA,@9D7 1AU LENGTH MARK,@9DC 1LETTER RRA,2RHA,@9DF 2YYA,2VOCALIC RR,3LL
  1VOWEL SIGN VOCALIC L,4LL,@9E6 1DIGIT ZERO,2ONE,2TWO,2THREE,2FOUR,2FIVE,2SIX,2SEVEN,2EIGHT,2NINE
  1LETTER RA WITH MIDDLE DIAGONAL,4LOWER*1,1RUPEE MARK,2SIGN,1CURRENCY NUMERATOR ONE,3TWO,3THREE
  3FOUR,3ONE LESS THAN THE DENOMINATOR,2DENOMINATOR SIXTEEN,1ISSHAR,1GANDA MARK
  1LETTER VEDIC ANUSVARA,1ABBREVIATION SIGN,1SANDHI MARK,@A01 GURMUKHI SIGN ADAK BINDI,2*1,2VISARGA
  @A05 1LETTER A,2AA,2I,2II,2U,2UU,@A0F 2EE,2AI,@A13 2OO,2AU,2KA,2KHA,2GA,2GHA,2NGA,2CA,2CHA,2JA
  2JHA,2NYA,2TTA,2TTHA,2DDA,2DDHA,2NNA,2TA,2THA,2DA,2DHA,2NA,@A2A 2PA,2PHA,2BA,2BHA,2MA,2YA,2RA
  @A32 2LA,2LLA,@A35 2VA,2SHA,@A38 2SA,2HA,@A3C 1SIGN NUKTA,@A3E 1VOWEL SIGN AA,3I,3II,3U,3UU
  @A47 3EE,3AI,@A4B 3OO,3AU,1SIGN VIRAMA,@A51 2UDAAT,@A59 1LETTER KHHA,2GHHA,2ZA,2RRA,@A5E 2FA
  @A66 1DIGIT ZERO,2ONE,2TWO,2THREE,2FOUR,2FIVE,2SIX,2SEVEN,2EIGHT,2NINE,1TIPPI,1ADDAK,1IRI,1URA
  1EK ONKAR,1SIGN YAKASH,1ABBREVIATION SIGN,@A81 GUJARATI SIGN CANDRABINDU,2ANUSVARA,2VISARGA
  @A85 1LETTER A,2AA,2I,2II,2U,2UU,2VOCALIC R,3L,1VOWEL CANDRA E,@A8F 1LETTER E,2AI,1VOWEL CANDRA O
  @A93 1LETTER O,2AU,2KA,2KHA,2GA,2GHA,2NGA,2CA,2CHA,2JA,2JHA,2NYA,2TTA,2TTHA,2DDA,2DDHA,2NNA,2TA
  2THA,2DA,2DHA,2NA,@AAA 2PA,2PHA,2BA,2BHA,2MA,2YA,2RA,@AB2 2LA,2LLA,@AB5 2VA,2SHA,2SSA,2SA,2HA
  @ABC 1SIGN NUKTA,2AVAGRAHA,1VOWEL SIGN AA,3I,3II,3U,3UU,3VOCALIC R,4RR,3CANDRA E,@AC7 3E,3AI
  3CANDRA O,@ACB 3O,3AU,1SIGN VIRAMA,@AD0 1OM,@AE0 1LETTER VOCALIC RR,3LL,1VOWEL SIGN VOCALIC L,4LL
  @AE6 1DIGIT ZERO,2ONE,2TWO,2THREE,2FOUR,2FIVE,2SIX,2SEVEN,2EIGHT,2NINE,1ABBREVIATION SIGN
  1RUPEE*1,@AF9 1LETTER ZHA,1SIGN SUKUN,2SHADDA,2MADDAH,2THREE-DOT NUKTA ABOVE,2CIRCLE*2
  2TWO-CIRCLE*2,@B01 ORIYA SIGN CANDRABINDU,2ANUSVARA,2VISARGA,@B05 1LETTER A,2AA,2I,2II,2U,2UU
  2VOCALIC R,3L,@B0F 2E,2AI,@B13 2O,2AU,2KA,2KHA,2GA,2GHA,2NGA,2CA,2CHA,2JA,2JHA,2NYA,2TTA,2TTHA
  2DDA,2DDHA,2NNA,2TA,2THA,2DA,2DHA,2NA,@B2A 2PA,2PHA,2BA,2BHA,2MA,2YA,2RA,@B32 2LA,2LLA,@B35 2VA
  2SHA,2SSA,2SA,2HA,@B3C 1SIGN NUKTA,2AVAGRAHA,1VOWEL SIGN AA,3I,3II,3U,3UU,3VOCALIC R,4RR,@B47 3E
  3AI,@B4B 3O,3AU,1SIGN VIRAMA,@B55 2OVERLINE,1AI LENGTH MARK,1AU*2,@B5C 1LETTER RRA,2RHA,@B5F 2YYA
  2VOCALIC RR,3LL,1VOWEL SIGN VOCALIC L,4LL,@B66 1DIGIT ZERO,2ONE,2TWO,2THREE,2FOUR,2FIVE,2SIX
  2SEVEN,2EIGHT,2NINE,1ISSHAR,1LETTER WA,1FRACTION ONE QUARTER,3HALF,2THREE QUARTERS,2ONE SIXTEENTH
  3EIGHTH,2THREE SIXTEENTHS,@B82 TAMIL SIGN ANUSVARA,2VISARGA,@B85 1LETTER A,2AA,2I,2II,2U,2UU
  @B8E 2E,2EE,2AI,@B92 2O,2OO,2AU,2KA,@B99 2NGA,2CA,@B9C 2JA,@B9E 2NYA,2TTA,@BA3 2NNA,2TA,@BA8 2NA
  2NNNA,2PA,@BAE 2MA,2YA,2RA,2RRA,2LA,2LLA,2LLLA,2VA,2SHA,2SSA,2SA,2HA,@BBE 1VOWEL SIGN AA,3I,3II
  3U,3UU,@BC6 3E,3EE,3AI,@BCA 3O,3OO,3AU,1SIGN VIRAMA,@BD0 1OM,@BD7 1AU LENGTH MARK
  @BE6 1DIGIT ZERO,2ONE,2TWO,2THREE,2FOUR,2FIVE,2SIX,2SEVEN,2EIGHT,2NINE,1NUMBER TEN,2ONE HUNDRED
  3THOUSAND,1DAY SIGN,1MONTH*1,1YEAR*1,1DEBIT*1,1CREDIT*1,1AS ABOVE*1,1RUPEE*1,1NUMBER*1
  @C00 TELUGU SIGN COMBINING CANDRABINDU ABOVE,2CANDRABINDU,2ANUSVARA,2VISARGA
  2COMBINING ANUSVARA ABOVE,1LETTER A,2AA,2I,2II,2U,2UU,2VOCALIC R,3L,@C0E 2E,2EE,2AI,@C12 2O,2OO
  2AU,2KA,2KHA,2GA,2GHA,2NGA,2CA,2CHA,2JA,2JHA,2NYA,2TTA,2TTHA,2DDA,2DDHA,2NNA,2TA,2THA,2DA,2DHA
  2NA,@C2A 2PA,2PHA,2BA,2BHA,2MA,2YA,2RA,2RRA,2LA,2LLA,2LLLA,2VA,2SHA,2SSA,2SA,2HA,@C3C 1SIGN NUKTA
  2AVAGRAHA,1VOWEL SIGN AA,3I,3II,3U,3UU,3VOCALIC R,4RR,@C46 3E,3EE,3AI,@C4A 3O,3OO,3AU
  1SIGN VIRAMA,@C55 1LENGTH MARK,1AI*2,@C58 1LETTER TSA,2DZA,2RRRA,@C5D 2NAKAARA POLLU
  @C60 2VOCALIC RR,3LL,1VOWEL SIGN VOCALIC L,4LL,@C66 1DIGIT ZERO,2ONE,2TWO,2THREE,2FOUR,2FIVE,2SIX
  2SEVEN,2EIGHT,2NINE,@C77 1SIGN SIDDHAM,1FRACTION DIGIT ZERO FOR ODD POWERS OF FOUR,3ONE*5,3TWO*5
  3THREE*5,3ONE FOR EVEN*3,3TWO*5,3THREE*5,1SIGN TUUMU,KANNADA SIGN SPACING CANDRABINDU,2*1
  2ANUSVARA,2VISARGA,2SIDDHAM,1LETTER A,2AA,2I,2II,2U,2UU,2VOCALIC R,3L,@C8E 2E,2EE,2AI,@C92 2O,2OO
  2AU,2KA,2KHA,2GA,2GHA,2NGA,2CA,2CHA,2JA,2JHA,2NYA,2TTA,2TTHA,2DDA,2DDHA,2NNA,2TA,2THA,2DA,2DHA
  2NA,@CAA 2PA,2PHA,2BA,2BHA,2MA,2YA,2RA,2RRA,2LA,2LLA,@CB5 2VA,2SHA,2SSA,2SA,2HA,@CBC 1SIGN NUKTA
  2AVAGRAHA,1VOWEL SIGN AA,3I,3II,3U,3UU,3VOCALIC R,4RR,@CC6 3E,3EE,3AI,@CCA 3O,3OO,3AU
  1SIGN VIRAMA,@CD5 1LENGTH MARK,1AI*2,@CDD 1LETTER NAKAARA POLLU,2FA,@CE0 2VOCALIC RR,3LL
  1VOWEL SIGN VOCALIC L,4LL,@CE6 1DIGIT ZERO,2ONE,2TWO,2THREE,2FOUR,2FIVE,2SIX,2SEVEN,2EIGHT,2NINE
  @CF1 1SIGN JIHVAMULIYA,2UPADHMANIYA,@D00 MALAYALAM SIGN COMBINING ANUSVARA ABOVE,2CANDRABINDU
  2ANUSVARA,2VISARGA,1LETTER VEDIC ANUSVARA,2A,2AA,2I,2II,2U,2UU,2VOCALIC R,3L,@D0E 2E,2EE,2AI
  @D12 2O,2OO,2AU,2KA,2KHA,2GA,2GHA,2NGA,2CA,2CHA,2JA,2JHA,2NYA,2TTA,2TTHA,2DDA,2DDHA,2NNA,2TA,2THA
  2DA,2DHA,2NA,2NNNA,2PA,2PHA,2BA,2BHA,2MA,2YA,2RA,2RRA,2LA,2LLA,2LLLA,2VA,2SHA,2SSA,2SA,2HA,2TTTA
  1SIGN VERTICAL BAR VIRAMA,2CIRCULAR*1,2AVAGRAHA,1VOWEL SIGN AA,3I,3II,3U,3UU,3VOCALIC R,4RR
  @D46 3E,3EE,3AI,@D4A 3O,3OO,3AU,1SIGN VIRAMA,1LETTER DOT REPH,1SIGN PARA,@D54 1LETTER CHILLU M,3Y
  3LLL,1AU LENGTH MARK,1FRACTION ONE ONE-HUNDRED-AND-SIXTIETH,3FORTIETH,2THREE EIGHTIETHS
  2ONE TWENTIETH,3TENTH,2THREE TWENTIETHS,2ONE FIFTH,1LETTER ARCHAIC II,2VOCALIC RR,3LL
  1VOWEL SIGN VOCALIC L,4LL,@D66 1DIGIT ZERO,2ONE,2TWO,2THREE,2FOUR,2FIVE,2SIX,2SEVEN,2EIGHT,2NINE
  1NUMBER TEN,2ONE HUNDRED,3THOUSAND,1FRACTION ONE QUARTER,3HALF,2THREE QUARTERS,2ONE SIXTEENTH
  3EIGHTH,2THREE SIXTEENTHS,1DATE MARK,1LETTER CHILLU NN,3N,3RR,3L,3LL,3K
  @D81 SINHALA SIGN CANDRABINDU,2ANUSVARAYA,2VISARGAYA,@D85 1LETTER AYANNA,2AAYANNA,2AEYANNA
  2AEEYANNA,2IYANNA,2IIYANNA,2UYANNA,2UUYANNA,2IRUYANNA,2IRUUYANNA,2ILUYANNA,2ILUUYANNA,2EYANNA
  2EEYANNA,2AIYANNA,2OYANNA,2OOYANNA,2AUYANNA,@D9A 2ALPAPRAANA KAYANNA,2MAHAAPRAANA*1
  2ALPAPRAANA GAYANNA,2MAHAAPRAANA*1,2KANTAJA NAASIKYAYA,2SANYAKA GAYANNA,2ALPAPRAANA CAYANNA
  2MAHAAPRAANA*1,2ALPAPRAANA JAYANNA,2MAHAAPRAANA*1,2TAALUJA NAASIKYAYA,3SANYOOGA NAAKSIKYAYA
  2SANYAKA JAYANNA,2ALPAPRAANA TTAYANNA,2MAHAAPRAANA*1,2ALPAPRAANA DDAYANNA,2MAHAAPRAANA*1
  2MUURDHAJA NAYANNA,2SANYAKA DDAYANNA,2ALPAPRAANA TAYANNA,2MAHAAPRAANA*1,2ALPAPRAANA DAYANNA
  2MAHAAPRAANA*1,2DANTAJA NAYANNA,@DB3 2SANYAKA DAYANNA,2ALPAPRAANA PAYANNA,2MAHAAPRAANA*1
  2ALPAPRAANA BAYANNA,2MAHAAPRAANA*1,2MAYANNA,2AMBA BAYANNA,2YAYANNA,2RAYANNA,@DBD 2DANTAJA LAYANNA
  @DC0 2VAYANNA,2TAALUJA SAYANNA,2MUURDHAJA*1,2DANTAJA*1,2HAYANNA,2MUURDHAJA LAYANNA,2FAYANNA
  @DCA 1SIGN AL-LAKUNA,@DCF 1VOWEL SIGN AELA-PILLA,3KETTI AEDA-PILLA,3DIGA*1,3KETTI IS-PILLA
  3DIGA*1,3KETTI PAA-PILLA,@DD6 3DIGA*1,@DD8 3GAETTA-PILLA,3KOMBUVA,3DIGA*1,3KOMBU DEKA
  3KOMBUVA HAA AELA-PILLA,5DIGA*1,5GAYANUKITTA,3*1,@DE6 1LITH DIGIT ZERO,3ONE,3TWO,3THREE,3FOUR
  3FIVE,3SIX,3SEVEN,3EIGHT,3NINE,@DF2 1VOWEL SIGN DIGA GAETTA-PILLA,4GAYANUKITTA
  1PUNCTUATION KUNDDALIYA"

end Findings.Text.CharName
