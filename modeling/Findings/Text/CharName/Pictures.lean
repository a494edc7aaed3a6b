/-!
Names of signs of music and mathematics, of pictures, and of characters that go with others.
-/

namespace Findings.Text.CharName

/-- Code points from U+1D000 on; `NameList` tells how the list is read. -/
def pictures : String := "
  @1D000 BYZANTINE MUSICAL SYMBOL PSILI,3DASEIA,3PERISPOMENI,3OXEIA EKFONITIKON,4DIPLI
  3VAREIA EKFONITIKON,4DIPLI,3KATHISTI,3SYRMATIKI,3PARAKLITIKI,3YPOKRISIS,4DIPLI,3KREMASTI
  3APESO EKFONITIKON,3EXO*1,3TELEIA,3KENTIMATA,3APOSTROFOS,4DIPLI,3SYNEVMA,3THITA,3OLIGON ARCHAION
  3GORGON*1,3PSILON,3CHAMILON,3VATHY,3ISON ARCHAION,3KENTIMA*1,3KENTIMATA*1,3SAXIMATA,3PARICHON
  3STAVROS APODEXIA,3OXEIAI ARCHAION,3VAREIAI*1,3APODERMA*1,3APOTHEMA,3KLASMA,3REVMA
  3PIASMA ARCHAION,3TINAGMA,3ANATRICHISMA,3SEISMA,3SYNAGMA ARCHAION,4META STAVROU
  3OYRANISMA ARCHAION,3THEMA,3LEMOI,3DYO,3TRIA,3TESSERA,3KRATIMATA,3APESO EXO NEO,3FTHORA ARCHAION
  3IMIFTHORA,3TROMIKON ARCHAION,3KATAVA TROMIKON,3PELASTON,3PSIFISTON,3KONTEVMA,3CHOREVMA ARCHAION
  3RAPISMA,3PARAKALESMA ARCHAION,3PARAKLITIKI*1,3ICHADIN,3NANA,3PETASMA,3KONTEVMA ALLO,3TROMIKON*1
  3STRAGGISMATA,3GRONTHISMATA,3ISON NEO,3OLIGON*1,3OXEIA*1,3PETASTI,3KOUFISMA,3PETASTOKOUFISMA
  3KRATIMOKOUFISMA,3PELASTON NEO,3KENTIMATA NEO ANO,3KENTIMA*2,3YPSILI,3APOSTROFOS NEO
  3APOSTROFOI SYNDESMOS*1,3YPORROI,3KRATIMOYPORROON,3ELAFRON,3CHAMILI,3MIKRON ISON,3VAREIA NEO
  3PIASMA*1,3PSIFISTON*1,3OMALON,3ANTIKENOMA,3LYGISMA,3PARAKLITIKI NEO,3PARAKALESMA*1
  3ETERON PARAKALESMA,3KYLISMA,3ANTIKENOKYLISMA,3TROMIKON NEO,3EKSTREPTON,3SYNAGMA NEO,3SYRMA
  3CHOREVMA NEO,3EPEGERMA,3SEISMA NEO,3XIRON KLASMA,3TROMIKOPSIFISTON,3PSIFISTOLYGISMA
  3TROMIKOLYGISMA,3TROMIKOPARAKALESMA,3PSIFISTOPARAKALESMA,3TROMIKOSYNAGMA,3PSIFISTOSYNAGMA
  3GORGOSYNTHETON,3ARGOSYNTHETON,3ETERON*1,3OYRANISMA NEO,3THEMATISMOS ESO,4EXO,3THEMA APLOUN
  3THES KAI APOTHES,3KATAVASMA,3ENDOFONON,3YFEN KATO,4ANO,3STAVROS,3KLASMA ANO,3DIPLI ARCHAION
  3KRATIMA*1,4ALLO,4NEO,3APODERMA*1,3APLI,3DIPLI,3TRIPLI,3TETRAPLI,3KORONIS,3LEIMMA ENOS CHRONOU
  4DYO CHRONON,4TRION*1,4TESSARON*1,4IMISEOS CHRONOU,3GORGON NEO ANO,4PARESTIGMENON ARISTERA,5DEXIA
  3DIGORGON,4PARESTIGMENON ARISTERA KATO,6ANO,5DEXIA,3TRIGORGON,3ARGON,3IMIDIARGON,3DIARGON
  3AGOGI POLI ARGI,4ARGOTERI,4ARGI,4METRIA,4MESI,4GORGI,4GORGOTERI,4POLI GORGI
  3MARTYRIA PROTOS ICHOS,4ALLI*2,4DEYTEROS*1,4ALLI*2,4TRITOS*1,4TRIFONIAS,4TETARTOS ICHOS
  5LEGETOS*1,4*2,4PLAGIOS*1,3ISAKIA TELOUS ICHIMATOS,3APOSTROFOI*2,3FANEROSIS TETRAFONIAS
  4MONOFONIAS,4DIFONIAS,3MARTYRIA VARYS ICHOS,4PROTOVARYS*1,4PLAGIOS TETARTOS*1
  3GORTHMIKON N APLOUN,5DIPLOUN,3ENARXIS KAI FTHORA VOU,3IMIFONON,3IMIFTHORON
  3FTHORA ARCHAION DEYTEROU ICHOU,4DIATONIKI PA,5NANA,4NAOS ICHOS,4DIATONIKI DI,4SKLIRON DIATONON*1
  4DIATONIKI KE,5ZO,5NI KATO,6ANO,4MALAKON CHROMA DIFONIAS,6MONOFONIAS,3FHTORA SKLIRON CHROMA VASIS
  3FTHORA SKLIRON CHROMA SYNAFI,4NENANO,3CHROA ZYGOS,4KLITON,4SPATHI,3FTHORA I YFESIS TETARTIMORION
  4ENARMONIOS ANTIFONIA,3YFESIS TRITIMORION,3DIESIS*1,4TETARTIMORION,4APLI DYO DODEKATA
  4MONOGRAMMOS TESSERA*1,4DIGRAMMOS EX*1,4TRIGRAMMOS OKTO*1,3YFESIS APLI DYO*1
  4MONOGRAMMOS TESSERA*1,4DIGRAMMOS EX*1,4TRIGRAMMOS OKTO*1,3GENIKI DIESIS,4YFESIS
  3DIASTOLI APLI MIKRI,5MEGALI,4DIPLI,4THESEOS,3SIMANSIS*1,5DISIMOU,5TRISIMOU,5TETRASIMOU,4ARSEOS
  5DISIMOU,5TRISIMOU,5TETRASIMOU,3DIGRAMMA GG,3DIFTOGGOS OU,3STIGMA,3ARKTIKO PA,4VOU,4GA,4DI,4KE
  4ZO,4NI,3KENTIMATA NEO MESO,3KENTIMA*2,3KENTIMATA NEO KATO,3KENTIMA*2,3KLASMA*1,3GORGON NEO*1
  @1D100 MUSICAL SYMBOL SINGLE BARLINE,2DOUBLE*1,2FINAL*1,2REVERSE*2,2DASHED*1,2SHORT*1
  2LEFT REPEAT SIGN,2RIGHT*2,2REPEAT DOTS,2DAL SEGNO,2DA CAPO,2SEGNO,2CODA,2REPEATED FIGURE-1,+,+
  2FERMATA,3BELOW,2BREATH MARK,2CAESURA,2BRACE,2BRACKET,2ONE-LINE STAFF,2TWO-LINE*1,2THREE-LINE*1
  2FOUR-LINE*1,2FIVE-LINE*1,2SIX-LINE*1,2SIX-STRING FRETBOARD,2FOUR-STRING*1,2G CLEF,4OTTAVA ALTA
  5BASSA,2C CLEF,2F*1,4OTTAVA ALTA,5BASSA,2DRUM CLEF-1,+,@1D129 2MULTIPLE MEASURE REST
  2DOUBLE SHARP,3FLAT,2FLAT UP,3DOWN,2NATURAL UP,3DOWN,2SHARP UP,3DOWN,2QUARTER TONE SHARP,4FLAT
  2COMMON TIME,2CUT*1,2OTTAVA ALTA,3BASSA,2QUINDICESIMA ALTA,3BASSA,2MULTI REST,2WHOLE*1,2HALF*1
  2QUARTER*1,2EIGHTH*1,2SIXTEENTH*1,2THIRTY-SECOND*1,2SIXTY-FOURTH*1,2ONE HUNDRED TWENTY-EIGHTH*1
  2X NOTEHEAD,2PLUS*1,2CIRCLE X*1,2SQUARE NOTEHEAD WHITE,4BLACK,2TRIANGLE NOTEHEAD UP WHITE,5BLACK
  4LEFT WHITE,5BLACK,4RIGHT WHITE,5BLACK,4DOWN WHITE,5BLACK,4UP RIGHT WHITE,6BLACK
  2MOON NOTEHEAD WHITE,4BLACK,2TRIANGLE-ROUND NOTEHEAD DOWN WHITE,5BLACK,2PARENTHESIS NOTEHEAD
  2VOID*1,2NOTEHEAD BLACK,2NULL NOTEHEAD,2CLUSTER NOTEHEAD WHITE,4BLACK,2BREVE,2WHOLE NOTE,2HALF*1
  2QUARTER*1,2EIGHTH*1,2SIXTEENTH*1,2THIRTY-SECOND*1,2SIXTY-FOURTH*1,2ONE HUNDRED TWENTY-EIGHTH*1
  2COMBINING STEM,3SPRECHGESANG*1,3TREMOLO-1,+,+,2FINGERED TREMOLO-1,+,+
  2COMBINING AUGMENTATION DOT,3FLAG-1,+,+,+,+,2BEGIN BEAM,2END*1,2BEGIN TIE,2END*1,2BEGIN SLUR
  2END*1,2BEGIN PHRASE,2END*1,2COMBINING ACCENT,3STACCATO,3TENUTO,3STACCATISSIMO,3MARCATO
  3MARCATO-STACCATO,3ACCENT-STACCATO,3LOURE,2ARPEGGIATO UP,3DOWN,2COMBINING DOIT,3RIP,3FLIP,3SMEAR
  3BEND,3DOUBLE TONGUE,3TRIPLE*1,2RINFORZANDO,2SUBITO,2Z,2PIANO,2MEZZO,2FORTE,2CRESCENDO
  2DECRESCENDO,2GRACE NOTE SLASH,4NO*1,2TR,2TURN,2INVERTED*1,2TURN SLASH,3UP,2ORNAMENT STROKE-1,+,+
  +,+,+,+,+,+,+,+,2HAUPTSTIMME,2NEBENSTIMME,2END OF STIMME,2DEGREE SLASH,2COMBINING DOWN BOW,3UP*1
  3HARMONIC,3SNAP PIZZICATO,2PEDAL MARK,3UP*1,2HALF PEDAL*1,2GLISSANDO UP,3DOWN,2WITH FINGERNAILS
  2DAMP,3ALL,2MAXIMA,2LONGA,2BREVIS,2SEMIBREVIS WHITE,3BLACK,2MINIMA,3BLACK,2SEMIMINIMA WHITE
  3BLACK,2FUSA WHITE,3BLACK,2LONGA PERFECTA REST,3IMPERFECTA*1,2BREVIS*1,2SEMIBREVIS*1,2MINIMA*1
  2SEMIMINIMA*1,2TEMPUS PERFECTUM CUM PROLATIONE PERFECTA,6IMPERFECTA,6PERFECTA DIMINUTION-1
  3IMPERFECTUM CUM PROLATIONE PERFECTA,6IMPERFECTA,7DIMINUTION-1,+,+,2CROIX,2GREGORIAN C CLEF,3F*1
  2SQUARE B,2VIRGA,2PODATUS,2CLIVIS,2SCANDICUS,2CLIMACUS,2TORCULUS,2PORRECTUS,3FLEXUS,2SCANDICUS*1
  2TORCULUS RESUPINUS,2PES SUBPUNCTIS,2KIEVAN C CLEF,3END OF PIECE,3FINAL NOTE,3RECITATIVE MARK
  3WHOLE NOTE,3HALF*1,3QUARTER NOTE STEM DOWN,6UP,3EIGHTH NOTE STEM DOWN,6UP,3FLAT SIGN,2SORI
  2KORON,@1D200 GREEK VOCAL NOTATION SYMBOL-1,+,+,+,+,+,+,+,+,+,+,+,+,+,+,+,+,+,+,+,+,+,+,+
  3SYMBOL-50,+,+,+,+,1INSTRUMENTAL NOTATION SYMBOL-1,+,3SYMBOL-4,+,3SYMBOL-7,+,3SYMBOL-11,+,+,+
  3SYMBOL-17,+,+,3SYMBOL-23,+,+,+,+,3SYMBOL-29,+,3SYMBOL-32,3SYMBOL-36,+,+,+,+,3SYMBOL-42,+
  3SYMBOL-45,3SYMBOL-47,+,+,+,+,+,+,+,COMBINING GREEK MUSICAL TRISEME,3TETRASEME,3PENTASEME
  GREEK MUSICAL LEIMMA,@1D2E0 MAYAN NUMERAL ZERO,2ONE,2TWO,2THREE,2FOUR,2FIVE,2SIX,2SEVEN,2EIGHT
  2NINE,2TEN,2ELEVEN,2TWELVE,2THIRTEEN,2FOURTEEN,2FIFTEEN,2SIXTEEN,2SEVENTEEN,2EIGHTEEN,2NINETEEN
  @1D300 MONOGRAM FOR EARTH,DIGRAM FOR HEAVENLY*1,2HUMAN*1,2EARTHLY HEAVEN,3HUMAN,2EARTH
  TETRAGRAM FOR CENTRE,2FULL CIRCLE,2MIRED,2BARRIER,2KEEPING SMALL,2CONTRARIETY,2ASCENT,2OPPOSITION
  2BRANCHING OUT,2DEFECTIVENESS OR DISTORTION,2DIVERGENCE,2YOUTHFULNESS,2INCREASE,2PENETRATION
  2REACH,2CONTACT,2HOLDING BACK,2WAITING,2FOLLOWING,2ADVANCE,2RELEASE,2RESISTANCE,2EASE,2JOY
  2CONTENTION,2ENDEAVOUR,2DUTIES,2CHANGE,2DECISIVENESS,2BOLD RESOLUTION,2PACKING,2LEGION,2CLOSENESS
  2KINSHIP,2GATHERING,2STRENGTH,2PURITY,2FULLNESS,2RESIDENCE,2LAW OR MODEL,2RESPONSE,2GOING TO MEET
  2ENCOUNTERS,2STOVE,2GREATNESS,2ENLARGEMENT,2PATTERN,2RITUAL,2FLIGHT,2VASTNESS OR WASTING
  2CONSTANCY,2MEASURE,2ETERNITY,2UNITY,2DIMINISHMENT,2CLOSED MOUTH,2GUARDEDNESS,2GATHERING IN
  2MASSING,2ACCUMULATION,2EMBELLISHMENT,2DOUBT,2WATCH,2SINKING,2INNER,2DEPARTURE,2DARKENING
  2DIMMING,2EXHAUSTION,2SEVERANCE,2STOPPAGE,2HARDNESS,2COMPLETION,2CLOSURE,2FAILURE,2AGGRAVATION
  2COMPLIANCE,2ON THE VERGE,2DIFFICULTIES,2LABOURING,2FOSTERING,@1D360 COUNTING ROD UNIT DIGIT ONE
  4TWO,4THREE,4FOUR,4FIVE,4SIX,4SEVEN,4EIGHT,4NINE,2TENS DIGIT ONE,4TWO,4THREE,4FOUR,4FIVE,4SIX
  4SEVEN,4EIGHT,4NINE,IDEOGRAPHIC TALLY MARK ONE,3TWO,3THREE,3FOUR,3FIVE,TALLY MARK ONE,2FIVE
  @1D400 MATHEMATICAL BOLD CAPITAL A,3B,3C,3D,3E,3F,3G,3H,3I,3J,3K,3L,3M,3N,3O,3P,3Q,3R,3S,3T,3U,3V
  3W,3X,3Y,3Z,2SMALL A,3B,3C,3D,3E,3F,3G,3H,3I,3J,3K,3L,3M,3N,3O,3P,3Q,3R,3S,3T,3U,3V,3W,3X,3Y,3Z
  1ITALIC CAPITAL A,3B,3C,3D,3E,3F,3G,3H,3I,3J,3K,3L,3M,3N,3O,3P,3Q,3R,3S,3T,3U,3V,3W,3X,3Y,3Z
  2SMALL A,3B,3C,3D,3E,3F,3G,@1D456 3I,3J,3K,3L,3M,3N,3O,3P,3Q,3R,3S,3T,3U,3V,3W,3X,3Y,3Z
  1BOLD ITALIC CAPITAL A,4B,4C,4D,4E,4F,4G,4H,4I,4J,4K,4L,4M,4N,4O,4P,4Q,4R,4S,4T,4U,4V,4W,4X,4Y,4Z
  3SMALL A,4B,4C,4D,4E,4F,4G,4H,4I,4J,4K,4L,4M,4N,4O,4P,4Q,4R,4S,4T,4U,4V,4W,4X,4Y,4Z
  1SCRIPT CAPITAL A,@1D49E 3C,3D,@1D4A2 3G,@1D4A5 3J,3K,@1D4A9 3N,3O,3P,3Q,@1D4AE 3S,3T,3U,3V,3W,3X
  3Y,3Z,2SMALL A,3B,3C,3D,@1D4BB 3F,@1D4BD 3H,3I,3J,3K,3L,3M,3N,@1D4C5 3P,3Q,3R,3S,3T,3U,3V,3W,3X
  3Y,3Z,1BOLD SCRIPT CAPITAL A,4B,4C,4D,4E,4F,4G,4H,4I,4J,4K,4L,4M,4N,4O,4P,4Q,4R,4S,4T,4U,4V,4W,4X
  4Y,4Z,3SMALL A,4B,4C,4D,4E,4F,4G,4H,4I,4J,4K,4L,4M,4N,4O,4P,4Q,4R,4S,4T,4U,4V,4W,4X,4Y,4Z
  1FRAKTUR CAPITAL A,3B,@1D507 3D,3E,3F,3G,@1D50D 3J,3K,3L,3M,3N,3O,3P,3Q,@1D516 3S,3T,3U,3V,3W,3X
  3Y,@1D51E 2SMALL A,3B,3C,3D,3E,3F,3G,3H,3I,3J,3K,3L,3M,3N,3O,3P,3Q,3R,3S,3T,3U,3V,3W,3X,3Y,3Z
  1DOUBLE-STRUCK CAPITAL A,3B,@1D53B 3D,3E,3F,3G,@1D540 3I,3J,3K,3L,3M,@1D546 3O,@1D54A 3S,3T,3U,3V
  3W,3X,3Y,@1D552 2SMALL A,3B,3C,3D,3E,3F,3G,3H,3I,3J,3K,3L,3M,3N,3O,3P,3Q,3R,3S,3T,3U,3V,3W,3X,3Y
  3Z,1BOLD FRAKTUR CAPITAL A,4B,4C,4D,4E,4F,4G,4H,4I,4J,4K,4L,4M,4N,4O,4P,4Q,4R,4S,4T,4U,4V,4W,4X
  4Y,4Z,3SMALL A,4B,4C,4D,4E,4F,4G,4H,4I,4J,4K,4L,4M,4N,4O,4P,4Q,4R,4S,4T,4U,4V,4W,4X,4Y,4Z
  1SANS-SERIF CAPITAL A,3B,3C,3D,3E,3F,3G,3H,3I,3J,3K,3L,3M,3N,3O,3P,3Q,3R,3S,3T,3U,3V,3W,3X,3Y,3Z
  2SMALL A,3B,3C,3D,3E,3F,3G,3H,3I,3J,3K,3L,3M,3N,3O,3P,3Q,3R,3S,3T,3U,3V,3W,3X,3Y,3Z
  2BOLD CAPITAL A,4B,4C,4D,4E,4F,4G,4H,4I,4J,4K,4L,4M,4N,4O,4P,4Q,4R,4S,4T,4U,4V,4W,4X,4Y,4Z
  3SMALL A,4B,4C,4D,4E,4F,4G,4H,4I,4J,4K,4L,4M,4N,4O,4P,4Q,4R,4S,4T,4U,4V,4W,4X,4Y,4Z
  2ITALIC CAPITAL A,4B,4C,4D,4E,4F,4G,4H,4I,4J,4K,4L,4M,4N,4O,4P,4Q,4R,4S,4T,4U,4V,4W,4X,4Y,4Z
  3SMALL A,4B,4C,4D,4E,4F,4G,4H,4I,4J,4K,4L,4M,4N,4O,4P,4Q,4R,4S,4T,4U,4V,4W,4X,4Y,4Z
  2BOLD ITALIC CAPITAL A,5B,5C,5D,5E,5F,5G,5H,5I,5J,5K,5L,5M,5N,5O,5P,5Q,5R,5S,5T,5U,5V,5W,5X,5Y,5Z
  4SMALL A,5B,5C,5D,5E,5F,5G,5H,5I,5J,5K,5L,5M,5N,5O,5P,5Q,5R,5S,5T,5U,5V,5W,5X,5Y,5Z
  1MONOSPACE CAPITAL A,3B,3C,3D,3E,3F,3G,3H,3I,3J,3K,3L,3M,3N,3O,3P,3Q,3R,3S,3T,3U,3V,3W,3X,3Y,3Z
  2SMALL A,3B,3C,3D,3E,3F,3G,3H,3I,3J,3K,3L,3M,3N,3O,3P,3Q,3R,3S,3T,3U,3V,3W,3X,3Y,3Z
  1ITALIC SMALL DOTLESS I,4J,@1D6A8 1BOLD CAPITAL ALPHA,3BETA,3GAMMA,3DELTA,3EPSILON,3ZETA,3ETA
  3THETA,3IOTA,3KAPPA,3LAMDA,3MU,3NU,3XI,3OMICRON,3PI,3RHO,3THETA SYMBOL,3SIGMA,3TAU,3UPSILON,3PHI
  3CHI,3PSI,3OMEGA,2NABLA,2SMALL ALPHA,3BETA,3GAMMA,3DELTA,3EPSILON,3ZETA,3ETA,3THETA,3IOTA,3KAPPA
  3LAMDA,3MU,3NU,3XI,3OMICRON,3PI,3RHO,3FINAL SIGMA,3*1,3TAU,3UPSILON,3PHI,3CHI,3PSI,3OMEGA
  2PARTIAL DIFFERENTIAL,2EPSILON SYMBOL,2THETA*1,2KAPPA*1,2PHI*1,2RHO*1,2PI*1,1ITALIC CAPITAL ALPHA
  3BETA,3GAMMA,3DELTA,3EPSILON,3ZETA,3ETA,3THETA,3IOTA,3KAPPA,3LAMDA,3MU,3NU,3XI,3OMICRON,3PI,3RHO
  3THETA SYMBOL,3SIGMA,3TAU,3UPSILON,3PHI,3CHI,3PSI,3OMEGA,2NABLA,2SMALL ALPHA,3BETA,3GAMMA,3DELTA
  3EPSILON,3ZETA,3ETA,3THETA,3IOTA,3KAPPA,3LAMDA,3MU,3NU,3XI,3OMICRON,3PI,3RHO,3FINAL SIGMA,3*1
  3TAU,3UPSILON,3PHI,3CHI,3PSI,3OMEGA,2PARTIAL DIFFERENTIAL,2EPSILON SYMBOL,2THETA*1,2KAPPA*1
  2PHI*1,2RHO*1,2PI*1,1BOLD ITALIC CAPITAL ALPHA,4BETA,4GAMMA,4DELTA,4EPSILON,4ZETA,4ETA,4THETA
  4IOTA,4KAPPA,4LAMDA,4MU,4NU,4XI,4OMICRON,4PI,4RHO,4THETA SYMBOL,4SIGMA,4TAU,4UPSILON,4PHI,4CHI
  4PSI,4OMEGA,3NABLA,3SMALL ALPHA,4BETA,4GAMMA,4DELTA,4EPSILON,4ZETA,4ETA,4THETA,4IOTA,4KAPPA
  4LAMDA,4MU,4NU,4XI,4OMICRON,4PI,4RHO,4FINAL SIGMA,4*1,4TAU,4UPSILON,4PHI,4CHI,4PSI,4OMEGA
  3PARTIAL DIFFERENTIAL,3EPSILON SYMBOL,3THETA*1,3KAPPA*1,3PHI*1,3RHO*1,3PI*1
  1SANS-SERIF BOLD CAPITAL ALPHA,4BETA,4GAMMA,4DELTA,4EPSILON,4ZETA,4ETA,4THETA,4IOTA,4KAPPA,4LAMDA
  4MU,4NU,4XI,4OMICRON,4PI,4RHO,4THETA SYMBOL,4SIGMA,4TAU,4UPSILON,4PHI,4CHI,4PSI,4OMEGA,3NABLA
  3SMALL ALPHA,4BETA,4GAMMA,4DELTA,4EPSILON,4ZETA,4ETA,4THETA,4IOTA,4KAPPA,4LAMDA,4MU,4NU,4XI
  4OMICRON,4PI,4RHO,4FINAL SIGMA,4*1,4TAU,4UPSILON,4PHI,4CHI,4PSI,4OMEGA,3PARTIAL DIFFERENTIAL
  3EPSILON SYMBOL,3THETA*1,3KAPPA*1,3PHI*1,3RHO*1,3PI*1,3ITALIC CAPITAL ALPHA,5BETA,5GAMMA,5DELTA
  5EPSILON,5ZETA,5ETA,5THETA,5IOTA,5KAPPA,5LAMDA,5MU,5NU,5XI,5OMICRON,5PI,5RHO,5THETA SYMBOL,5SIGMA
  5TAU,5UPSILON,5PHI,5CHI,5PSI,5OMEGA,4NABLA,4SMALL ALPHA,5BETA,5GAMMA,5DELTA,5EPSILON,5ZETA,5ETA
  5THETA,5IOTA,5KAPPA,5LAMDA,5MU,5NU,5XI,5OMICRON,5PI,5RHO,5FINAL SIGMA,5*1,5TAU,5UPSILON,5PHI,5CHI
  5PSI,5OMEGA,4PARTIAL DIFFERENTIAL,4EPSILON SYMBOL,4THETA*1,4KAPPA*1,4PHI*1,4RHO*1,4PI*1
  1BOLD CAPITAL DIGAMMA,2SMALL*1,@1D7CE 2DIGIT ZERO,3ONE,3TWO,3THREE,3FOUR,3FIVE,3SIX,3SEVEN,3EIGHT
  3NINE,1DOUBLE-STRUCK DIGIT ZERO,3ONE,3TWO,3THREE,3FOUR,3FIVE,3SIX,3SEVEN,3EIGHT,3NINE
  1SANS-SERIF DIGIT ZERO,3ONE,3TWO,3THREE,3FOUR,3FIVE,3SIX,3SEVEN,3EIGHT,3NINE,2BOLD DIGIT ZERO
  4ONE,4TWO,4THREE,4FOUR,4FIVE,4SIX,4SEVEN,4EIGHT,4NINE,1MONOSPACE DIGIT ZERO,3ONE,3TWO,3THREE
  3FOUR,3FIVE,3SIX,3SEVEN,3EIGHT,3NINE,SIGNWRITING HAND-FIST INDEX,1HAND-CIRCLE*1,1HAND-CUP*1
  1HAND-OVAL*1,1HAND-HINGE*1,1HAND-ANGLE*1,1HAND-FIST INDEX BENT,1HAND-CIRCLE*2
  1HAND-FIST THUMB UNDER*2,2INDEX RAISED KNUCKLE,3CUPPED,3HINGED,4LOW,1HAND-CIRCLE INDEX HINGE
  1HAND-FIST INDEX MIDDLE,1HAND-CIRCLE*2,1HAND-FIST INDEX MIDDLE BENT,4RAISED KNUCKLES,4HINGED
  3UP*2,3HINGED MIDDLE UP,3MIDDLE CONJOINED,5INDEX BENT,5MIDDLE*1,5CUPPED,5HINGED,4CROSSED
  1HAND-CIRCLE*3,1HAND-FIST MIDDLE BENT OVER INDEX,2INDEX BENT OVER MIDDLE,3MIDDLE THUMB
  1HAND-CIRCLE*3,1HAND-FIST INDEX MIDDLE STRAIGHT THUMB BENT,4BENT THUMB STRAIGHT,4THUMB BENT
  4HINGED SPREAD THUMB SIDE,3UP MIDDLE HINGED*2,7CONJOINED,3HINGED MIDDLE UP THUMB SIDE
  3MIDDLE UP SPREAD THUMB FORWARD,4THUMB CUPPED,5CIRCLED,5HOOKED,5HINGED
  2THUMB BETWEEN INDEX MIDDLE STRAIGHT,2INDEX MIDDLE CONJOINED THUMB SIDE,7CONJOINED,7BENT
  2MIDDLE THUMB HOOKED INDEX UP,2INDEX THUMB HOOKED MIDDLE*1,3MIDDLE CONJOINED HINGED THUMB SIDE
  4CROSSED*2,4CONJOINED THUMB FORWARD,5CUPPED*2,2MIDDLE THUMB CUPPED INDEX UP
  2INDEX THUMB CUPPED MIDDLE*1,2MIDDLE THUMB CIRCLED INDEX*1,6HINGED
  2INDEX THUMB ANGLED OUT MIDDLE UP,5IN*2,4CIRCLED*2,3MIDDLE THUMB CONJOINED HINGED,5ANGLED OUT,6
  2MIDDLE THUMB ANGLED OUT INDEX UP,7CROSSED,5INDEX UP,2INDEX THUMB HOOKED MIDDLE HINGED
  1HAND-FLAT FOUR FINGERS,4BENT,4HINGED,4CONJOINED,5SPLIT,1HAND-CLAW FOUR FINGERS CONJOINED
  1HAND-FIST FOUR FINGERS CONJOINED BENT,1HAND-HINGE FOUR FINGERS CONJOINED
  1HAND-FLAT FIVE FINGERS SPREAD,2HEEL*3,2FIVE FINGERS SPREAD FOUR BENT,2HEEL*5
  2FIVE FINGERS SPREAD*1,2HEEL*4,2FIVE FINGERS SPREAD THUMB FORWARD,1HAND-CUP FIVE FINGERS SPREAD
  5OPEN,1HAND-HINGE*4,1HAND-OVAL FIVE FINGERS SPREAD,1HAND-FLAT FIVE FINGERS SPREAD HINGED
  6THUMB SIDE,6NO THUMB,2,2BETWEEN PALM FACINGS,2HEEL,2THUMB SIDE,2HEEL*2,2THUMB BENT,3FORWARD
  2SPLIT INDEX THUMB SIDE,3CENTRE,4THUMB SIDE,6BENT,3LITTLE,1HAND-CLAW,2THUMB SIDE,2NO THUMB
  2THUMB FORWARD,1HAND-HOOK CURLICUE,2,1HAND-CUP OPEN,2,2OPEN THUMB SIDE,2*2,2OPEN NO THUMB,2*2
  2OPEN THUMB FORWARD,2*2,1HAND-CURLICUE OPEN,2,1HAND-CIRCLE,1HAND-OVAL,2THUMB SIDE,2NO THUMB
  2THUMB FORWARD,1HAND-HINGE OPEN,3THUMB FORWARD,2,2SMALL,2OPEN THUMB SIDE,2*2,2OPEN NO THUMB,2*2
  2THUMB SIDE TOUCHING INDEX,3BETWEEN MIDDLE RING,1HAND-ANGLE,1HAND-FIST INDEX MIDDLE RING
  1HAND-CIRCLE*3,1HAND-HINGE*3,1HAND-ANGLE*3,1HAND-HINGE LITTLE,1HAND-FIST INDEX MIDDLE RING BENT
  5CONJOINED,1HAND-HINGE*4,1HAND-FIST LITTLE DOWN,4RIPPLE STRAIGHT,5CURVED,4OTHERS CIRCLED,3UP
  2THUMB UNDER*2,1HAND-CIRCLE*2,1HAND-OVAL*2,1HAND-ANGLE*2,1HAND-FIST LITTLE RAISED KNUCKLE,3BENT
  3TOUCHES THUMB,3*1,1HAND-HINGE*2,1HAND-FIST LITTLE INDEX*1,1HAND-HINGE*3
  1HAND-ANGLE LITTLE INDEX THUMB INDEX THUMB OUT,7,1HAND-FIST LITTLE INDEX,1HAND-CIRCLE*2
  1HAND-HINGE*2,1HAND-ANGLE*2,1HAND-FIST INDEX MIDDLE LITTLE,1HAND-CIRCLE*3,1HAND-HINGE*3,2RING
  1HAND-ANGLE INDEX MIDDLE LITTLE,1HAND-FIST INDEX MIDDLE CROSS*1,1HAND-CIRCLE*4
  1HAND-FIST RING DOWN,1HAND-HINGE RING DOWN INDEX THUMB HOOK MIDDLE
  1HAND-ANGLE RING DOWN MIDDLE THUMB INDEX CROSS,1HAND-FIST RING UP,3RAISED KNUCKLE,3LITTLE
  1HAND-CIRCLE*2,1HAND-OVAL*2,1HAND-ANGLE*2,1HAND-FIST RING MIDDLE,4CONJOINED,4RAISED KNUCKLES
  3INDEX,3THUMB,1HAND-HOOK*2,1HAND-FIST INDEX RING LITTLE,1HAND-CIRCLE*3
  1HAND-CURLICUE INDEX RING LITTLE ON,1HAND-HOOK INDEX RING LITTLE OUT,5IN,5UNDER
  1HAND-CUP INDEX RING LITTLE,1HAND-HINGE*3,1HAND-ANGLE INDEX RING LITTLE OUT,5
  1HAND-FIST MIDDLE DOWN,1HAND-HINGE MIDDLE,1HAND-FIST MIDDLE UP,1HAND-CIRCLE*2
  1HAND-FIST MIDDLE RAISED KNUCKLE,3UP THUMB SIDE,1HAND-HOOK MIDDLE THUMB
  1HAND-FIST MIDDLE THUMB LITTLE,3*1,3RING*1,1HAND-CIRCLE*3,1HAND-CURLICUE MIDDLE RING LITTLE ON
  1HAND-CUP MIDDLE RING LITTLE,1HAND-HINGE*3,1HAND-ANGLE MIDDLE RING LITTLE OUT,5IN,5
  1HAND-CIRCLE MIDDLE RING LITTLE BENT,1HAND-CLAW MIDDLE RING LITTLE CONJOINED,6SIDE
  1HAND-HOOK MIDDLE RING LITTLE CONJOINED OUT,6IN,6,1HAND-HINGE INDEX HINGED
  1HAND-FIST INDEX THUMB SIDE,1HAND-HINGE*3,1HAND-FIST INDEX THUMB SIDE THUMB DIAGONAL,6CONJOINED
  6BENT,5INDEX*1,5BOTH*1,5INDEX HINGE,4FORWARD INDEX STRAIGHT,6BENT,4HOOK,4CURLICUE
  4CURVE THUMB INSIDE,1HAND-CLAW*5,1HAND-FIST INDEX THUMB CURVE THUMB UNDER,4CIRCLE
  1HAND-CUP INDEX THUMB,4OPEN,1HAND-HINGE*3,4LARGE,4,4SMALL,1HAND-ANGLE INDEX THUMB OUT,4IN,4
  1HAND-FIST*1,3HEEL,3SIDE DIAGONAL,4CONJOINED,4BENT,3FORWARD,3BETWEEN INDEX MIDDLE,4MIDDLE RING
  4RING LITTLE,3UNDER TWO FINGERS,3OVER*2,3UNDER THREE*1,4FOUR*1,3OVER FOUR RAISED KNUCKLES,2,2HEEL
  1TOUCH SINGLE,2MULTIPLE,2BETWEEN,1GRASP SINGLE,2MULTIPLE,2BETWEEN,1STRIKE SINGLE,2MULTIPLE
  2BETWEEN,1BRUSH SINGLE,2MULTIPLE,2BETWEEN,1RUB SINGLE,2MULTIPLE,2BETWEEN,1SURFACE SYMBOLS
  2BETWEEN,1SQUEEZE LARGE SINGLE,2SMALL*1,2LARGE MULTIPLE,2SMALL*1,2SEQUENTIAL,1FLICK LARGE SINGLE
  2SMALL*1,2LARGE MULTIPLE,2SMALL*1,2SEQUENTIAL,1SQUEEZE FLICK ALTERNATING
  1MOVEMENT-HINGE UP DOWN LARGE,4SMALL,3SEQUENTIAL,2DOWN*1,2UP DOWN ALTERNATING LARGE,5SMALL
  2SIDE TO SIDE SCISSORS,1MOVEMENT-WALLPLANE FINGER CONTACT,1MOVEMENT-FLOORPLANE*2
  1MOVEMENT-WALLPLANE SINGLE STRAIGHT SMALL,4MEDIUM,4LARGE,4LARGEST,3WRIST FLEX,2DOUBLE STRAIGHT
  3WRIST FLEX,3ALTERNATING,4WRIST FLEX,2CROSS,2TRIPLE STRAIGHT MOVEMENT,3WRIST FLEX,3ALTERNATING
  4WRIST FLEX,2BEND SMALL,3MEDIUM,3LARGE,2CORNER SMALL,3MEDIUM,3LARGE,3ROTATION,2CHECK SMALL
  3MEDIUM,3LARGE,2BOX SMALL,3MEDIUM,3LARGE,2ZIGZAG SMALL,3MEDIUM,3LARGE,2PEAKS SMALL,3MEDIUM,3LARGE
  1TRAVEL-WALLPLANE ROTATION-WALLPLANE SINGLE,3DOUBLE,3ALTERNATING,2ROTATION-FLOORPLANE SINGLE
  3DOUBLE,3ALTERNATING,2SHAKING,2ARM SPIRAL SINGLE,4DOUBLE,4TRIPLE,1MOVEMENT-DIAGONAL AWAY SMALL
  3MEDIUM,3LARGE,3LARGEST,2TOWARDS SMALL,3MEDIUM,3LARGE,3LARGEST,2BETWEEN AWAY SMALL,4MEDIUM,4LARGE
  4LARGEST,3TOWARDS SMALL,4MEDIUM,4LARGE,4LARGEST,1MOVEMENT-FLOORPLANE SINGLE STRAIGHT SMALL
  4MEDIUM,4LARGE,4LARGEST,3WRIST FLEX,2DOUBLE STRAIGHT,3WRIST FLEX,3ALTERNATING,4WRIST FLEX,2CROSS
  2TRIPLE STRAIGHT MOVEMENT,3WRIST FLEX,3ALTERNATING MOVEMENT,4WRIST FLEX,2BEND,2CORNER SMALL
  3MEDIUM,3LARGE,2CHECK,2BOX SMALL,3MEDIUM,3LARGE,2ZIGZAG SMALL,3MEDIUM,3LARGE,2PEAKS SMALL,3MEDIUM
  3LARGE,1TRAVEL-FLOORPLANE ROTATION-FLOORPLANE SINGLE,3DOUBLE,3ALTERNATING
  2ROTATION-WALLPLANE SINGLE,3DOUBLE,3ALTERNATING,2SHAKING,1MOVEMENT-WALLPLANE CURVE QUARTER SMALL
  4MEDIUM,4LARGE,4LARGEST,3HALF-CIRCLE SMALL,4MEDIUM,4LARGE,4LARGEST,3THREE-QUARTER CIRCLE SMALL
  5MEDIUM,2HUMP SMALL,3MEDIUM,3LARGE,2LOOP SMALL,3MEDIUM,3LARGE,3SMALL DOUBLE
  2WAVE CURVE DOUBLE SMALL,5MEDIUM,5LARGE,4TRIPLE SMALL,5MEDIUM,5LARGE,2CURVE THEN STRAIGHT
  2CURVED CROSS SMALL,4MEDIUM,1ROTATION-WALLPLANE SINGLE,2DOUBLE,2ALTERNATE
  1MOVEMENT-WALLPLANE SHAKING,2CURVE HITTING FRONT WALL,2HUMP*3,2LOOP*3,2WAVE*3
  1ROTATION-WALLPLANE SINGLE*3,2DOUBLE*3,2ALTERNATING*3,1MOVEMENT-WALLPLANE CURVE HITTING CHEST
  2HUMP*2,2LOOP*2,2WAVE*2,1ROTATION-WALLPLANE SINGLE*2,2DOUBLE*2,2ALTERNATING*2
  1MOVEMENT-WALLPLANE WAVE DIAGONAL PATH SMALL,5MEDIUM,5LARGE
  1MOVEMENT-FLOORPLANE CURVE HITTING CEILING SMALL,5LARGE,2HUMP HITTING CEILING SMALL DOUBLE
  5LARGE*1,5SMALL TRIPLE,5LARGE*1,2LOOP HITTING CEILING SMALL SINGLE,5LARGE*1,5SMALL DOUBLE
  5LARGE*1,2WAVE HITTING CEILING SMALL,5LARGE,1ROTATION-FLOORPLANE SINGLE HITTING CEILING,2DOUBLE*2
  2ALTERNATING*2,1MOVEMENT-FLOORPLANE CURVE HITTING FLOOR SMALL,5LARGE
  2HUMP HITTING FLOOR SMALL DOUBLE,5LARGE*1,5TRIPLE SMALL TRIPLE,6LARGE*1
  2LOOP HITTING FLOOR SMALL SINGLE,5LARGE*1,5SMALL DOUBLE,5LARGE*1,2WAVE HITTING FLOOR SMALL,5LARGE
  1ROTATION-FLOORPLANE SINGLE HITTING FLOOR,2DOUBLE*2,2ALTERNATING*2
  1MOVEMENT-FLOORPLANE CURVE SMALL,3MEDIUM,3LARGE,3LARGEST,3COMBINED,2HUMP SMALL,2LOOP*1
  2WAVE SNAKE,3SMALL,3LARGE,1ROTATION-FLOORPLANE SINGLE,2DOUBLE,2ALTERNATING
  1MOVEMENT-FLOORPLANE SHAKING PARALLEL,1MOVEMENT-WALLPLANE ARM CIRCLE SMALL SINGLE,4MEDIUM*1
  4SMALL DOUBLE,4MEDIUM*1,1MOVEMENT-FLOORPLANE ARM CIRCLE HITTING WALL SMALL SINGLE,6MEDIUM*1
  6LARGE*1,6SMALL DOUBLE,6MEDIUM*1,6LARGE*1,1MOVEMENT-WALLPLANE WRIST CIRCLE FRONT SINGLE,5DOUBLE
  1MOVEMENT-FLOORPLANE WRIST CIRCLE HITTING WALL SINGLE,6DOUBLE
  1MOVEMENT-WALLPLANE FINGER CIRCLES SINGLE,4DOUBLE
  1MOVEMENT-FLOORPLANE FINGER CIRCLES HITTING WALL SINGLE,6DOUBLE,1DYNAMIC ARROWHEAD SMALL,3LARGE
  2FAST,2SLOW,2TENSE,2RELAXED,2SIMULTANEOUS,3ALTERNATING,2EVERY OTHER TIME,2GRADUAL,1HEAD,2RIM
  2MOVEMENT-WALLPLANE STRAIGHT,3TILT,2MOVEMENT-FLOORPLANE STRAIGHT,2MOVEMENT-WALLPLANE CURVE
  2MOVEMENT-FLOORPLANE*1,2MOVEMENT CIRCLE,1FACE DIRECTION POSITION NOSE FORWARD TILTING,5UP OR DOWN
  8TILTING,1EYEBROWS STRAIGHT UP,3NEUTRAL,3DOWN,1DREAMY EYEBROWS NEUTRAL*1,3DOWN NEUTRAL,3UP*1
  3NEUTRAL UP,1FOREHEAD NEUTRAL,2CONTACT,2WRINKLED,1EYES OPEN,2SQUEEZED,2CLOSED,1EYE BLINK SINGLE
  3MULTIPLE,1EYES HALF OPEN,2WIDE*1,2HALF CLOSED,2WIDENING MOVEMENT,1EYE WINK,1EYELASHES UP,2DOWN
  2FLUTTERING,1EYEGAZE-WALLPLANE STRAIGHT,3DOUBLE,3ALTERNATING,1EYEGAZE-FLOORPLANE STRAIGHT,3DOUBLE
  3ALTERNATING,1EYEGAZE-WALLPLANE CURVED,1EYEGAZE-FLOORPLANE*1,1EYEGAZE-WALLPLANE CIRCLING
  1CHEEKS PUFFED,2NEUTRAL,2SUCKED,1TENSE CHEEKS HIGH,3MIDDLE,3LOW,1EARS,1NOSE NEUTRAL,2CONTACT
  2WRINKLES,2WIGGLES,1AIR BLOWING OUT,2SUCKING IN,2BLOW SMALL ROTATIONS,2SUCK*2,1BREATH INHALE
  2EXHALE,1MOUTH CLOSED NEUTRAL,3FORWARD,3CONTACT,2SMILE,3WRINKLED,3OPEN,2FROWN,3WRINKLED,3OPEN
  2OPEN CIRCLE,3FORWARD,3WRINKLED,3OVAL,4WRINKLED,4YAWN,3RECTANGLE,4WRINKLED,4YAWN,2KISS,3FORWARD
  3WRINKLED,2TENSE,3FORWARD,3SUCKED,1LIPS PRESSED TOGETHER,1LIP LOWER OVER UPPER,2UPPER OVER LOWER
  1MOUTH CORNERS,2WRINKLES SINGLE,3DOUBLE,1TONGUE STICKING OUT FAR,2LICKING LIPS,2TIP BETWEEN*1
  3TOUCHING INSIDE MOUTH,2INSIDE MOUTH RELAXED,2MOVES AGAINST CHEEK,2CENTRE STICKING OUT
  3INSIDE MOUTH,1TEETH,2MOVEMENT,2ON TONGUE,4MOVEMENT,3LIPS,4MOVEMENT,2BITE LIPS
  1MOVEMENT-WALLPLANE JAW,1MOVEMENT-FLOORPLANE*1,1NECK,1HAIR,1EXCITEMENT,1SHOULDER HIP SPINE
  3POSITIONS,1WALLPLANE SHOULDER HIP MOVE,1FLOORPLANE*3,1SHOULDER TILTING FROM WAIST
  1TORSO-WALLPLANE STRAIGHT STRETCH,2CURVED BEND,1TORSO-FLOORPLANE TWISTING
  1UPPER BODY TILTING FROM HIP JOINTS,1LIMB COMBINATION,2LENGTH-1,+,+,+,+,+,+,1FINGER
  1LOCATION-WALLPLANE SPACE,1LOCATION-FLOORPLANE*1,1LOCATION HEIGHT,2WIDTH,2DEPTH,2HEAD NECK,2TORSO
  2LIMBS DIGITS,1COMMA,1FULL STOP,1SEMICOLON,1COLON,1PARENTHESIS,@1DA9B 1FILL MODIFIER-2,+,+,+,+
  @1DAA1 1ROTATION MODIFIER-2,+,+,+,+,+,+,+,+,+,+,+,+,+,+
  @1DF00 LATIN SMALL LETTER FENG DIGRAPH WITH TRILL,3REVERSED SCRIPT G
  1LETTER SMALL CAPITAL TURNED G,1SMALL LETTER REVERSED K,1LETTER SMALL CAPITAL L WITH BELT
  1SMALL LETTER LEZH WITH RETROFLEX HOOK,3TURNED Y WITH BELT,3REVERSED ENG
  3TURNED R WITH LONG LEG AND RETROFLEX HOOK,3T WITH HOOK*3,1LETTER RETROFLEX CLICK WITH*2
  1SMALL LETTER ESH WITH DOUBLE BAR,7AND CURL,3TURNED T WITH*1,1LETTER INVERTED GLOTTAL STOP*2
  2STRETCHED C*2,2SMALL CAPITAL TURNED K,1SMALL LETTER L WITH FISHHOOK
  3DEZH DIGRAPH WITH PALATAL HOOK,3L WITH BELT AND*2,3ENG WITH*2,3TURNED R*3,3R WITH FISHHOOK AND*2
  3TESH DIGRAPH WITH*2,3EZH*3,3DEZH DIGRAPH WITH RETROFLEX*1,3I WITH STROKE AND*2,3O WITH*2
  3TESH DIGRAPH*3,3C*3,3S WITH CURL,@1E000 COMBINING GLAGOLITIC LETTER AZU,3BUKY,3VEDE,3GLAGOLI
  3DOBRO,3YESTU,3ZHIVETE,@1E008 3ZEMLJA,3IZHE,3INITIAL*1,3I,3DJERVI,3KAKO,3LJUDIJE,3MYSLITE,3NASHI
  3ONU,3POKOJI,3RITSI,3SLOVO,3TVRIDO,3UKU,3FRITU,3HERU,@1E01B 3SHTA,3TSI,3CHRIVI,3SHA,3YERU,3YERI
  3YATI,@1E023 3YU,3SMALL YUS,@1E026 3YO,3IOTATED SMALL YUS,3BIG*1,3IOTATED*2,3FITA
  @1E100 NYIAKENG PUACHUE HMONG LETTER MA,4TSA,4NTA,4TA,4HA,4NA,4XA,4NKA,4CA,4LA,4SA,4ZA,4NCA,4NTSA
  4KA,4DA,4NYA,4NRA,4VA,4NTXA,4TXA,4FA,4RA,4QA,4YA,4NQA,4PA,4XYA,4NPA,4DLA,4NPLA,4HAH,4MLA,4PLA,4GA
  4RRA,4A,4AA,4I,4U,4O,4OO,4E,4EE,4W,@1E130 3TONE-B,3TONE-M,3TONE-J,3TONE-V,3TONE-S,3TONE-G,3TONE-D
  3SIGN FOR PERSON,5THING,5LOCATION,5ANIMAL,5INVERTEBRATE,4XW XW,3SYLLABLE LENGTHENER
  @1E140 3DIGIT ZERO,4ONE,4TWO,4THREE,4FOUR,4FIVE,4SIX,4SEVEN,4EIGHT,4NINE,@1E14E 3LOGOGRAM NYAJ
  3CIRCLED CA,@1E290 TOTO LETTER PA,2BA,2TA,2DA,2KA,2GA,2MA,2NA,2NGA,2SA,2CHA,2YA,2WA,2JA,2HA,2RA
  2LA,2I,2BREATHY I,2IU,2BREATHY*1,2U,2E,2BREATHY E,2EO,2BREATHY*1,2O,2AE,2BREATHY*1,2A
  1SIGN RISING TONE,@1E2C0 WANCHO LETTER AA,2A,2BA,2CA,2DA,2GA,2YA,2PHA,2LA,2NA,2PA,2TA,2THA,2FA
  2SA,2SHA,2JA,2ZA,2WA,2VA,2KA,2O,2AU,2RA,2MA,2KHA,2HA,2E,2I,2NGA,2U,2LLHA,2TSA,2TRA,2ONG,2AANG
  2ANG,2ING,2ON,2EN,2AAN,2NYA,2UEN,2YIH,1TONE TUP,2TUPNI,2KOI,2KOINI,1DIGIT ZERO,2ONE,2TWO,2THREE
  2FOUR,2FIVE,2SIX,2SEVEN,2EIGHT,2NINE,@1E2FF 1NGUN SIGN,@1E7E0 ETHIOPIC SYLLABLE HHYA,2HHYU,2HHYI
  2HHYAA,2HHYEE,2HHYE,2HHYO,@1E7E8 2GURAGE HHWA,2HHWI,2HHWEE,2HHWE,@1E7ED 2GURAGE MWI,3MWEE
  @1E7F0 3QWI,3QWEE,3QWE,3BWI,3BWEE,3KWI,3KWEE,3KWE,3GWI,3GWEE,3GWE,3FWI,3FWEE,3PWI,3PWEE
  @1E800 MENDE KIKAKUI SYLLABLE M001 KI,3M002 KA,3M003 KU,3M065 KEE,3M095 KE,3M076 KOO,3M048 KO
  3M179 KUA,3M004 WI,3M005 WA,3M006 WU,3M126 WEE,3M118 WE,3M114 WOO,3M045 WO,3M194 WUI,3M143 WEI
  3M061 WVI,3M049 WVA,3M139 WVE,3M007 MIN,3M008 MAN,3M009 MUN,3M059 MEN,3M094 MON,3M154 MUAN
  3M189 MUEN,3M010 BI,3M011 BA,3M012 BU,3M150 BEE,3M097 BE,3M103 BOO,3M138 BO,3M013 I,3M014 A
  3M015 U,3M163 EE,3M100 E,3M165 OO,3M147 O,3M137 EI,3M131 IN,3M135*1,3M195 AN,3M178 EN,3M019 SI
  3M020 SA,3M021 SU,3M162 SEE,3M116 SE,3M136 SOO,3M079 SO,3M196 SIA,3M025 LI,3M026 LA,3M027 LU
  3M084 LEE,3M073 LE,3M054 LOO,3M153 LO,3M110 LONG LE,3M016 DI,3M017 DA,3M018 DU,3M089 DEE
  3M180 DOO,3M181 DO,3M022 TI,3M023 TA,3M024 TU,3M091 TEE,3M055 TE,3M104 TOO,3M069 TO,3M028 JI
  3M029 JA,3M030 JU,3M157 JEE,3M113 JE,3M160 JOO,3M063 JO,3M175 LONG*1,3M031 YI,3M032 YA,3M033 YU
  3M109 YEE,3M080 YE,3M141 YOO,3M121 YO,3M034 FI,3M035 FA,3M036 FU,3M078 FEE,3M075 FE,3M133 FOO
  3M088 FO,3M197 FUA,3M101 FAN,3M037 NIN,3M038 NAN,3M039 NUN,3M117 NEN,3M169 NON,3M176 HI,3M041 HA
  3M186 HU,3M040 HEE,3M096 HE,3M042 HOO,3M140 HO,3M083 HEEI,3M128 HOOU,3M053 HIN,3M130 HAN
  3M087 HUN,3M052 HEN,3M193 HON,3M046 HUAN,3M090 NGGI,3M043 NGGA,3M082 NGGU,3M115 NGGEE,3M146 NGGE
  3M156 NGGOO,3M120 NGGO,3M159 NGGAA,3M127 NGGUA,3M086 LONG NGGE,3M106 LONG NGGOO,3M183 LONG NGGO
  3M155 GI,3M111 GA,3M168 GU,3M190 GEE,3M166 GUEI,3M167 GUAN,3M184 NGEN,3M057 NGON,3M177 NGUAN
  3M068 PI,3M099 PA,3M050 PU,3M081 PEE,3M051 PE,3M102 POO,3M066 PO,3M145 MBI,3M062 MBA,3M122 MBU
  3M047 MBEE,3M188*1,3M072 MBE,3M172 MBOO,3M174 MBO,3M187 MBUU,3M161 LONG MBE,3M105 LONG MBOO
  3M142 LONG MBO,3M132 KPI,3M092 KPA,3M074 KPU,3M044 KPEE,3M108 KPE,3M112 KPOO,3M158 KPO,3M124 GBI
  3M056 GBA,3M148 GBU,3M093 GBEE,3M107 GBE,3M071 GBOO,3M070 GBO,3M171 RA,3M123 NDI,3M129 NDA
  3M125 NDU,3M191 NDEE,3M119 NDE,3M067 NDOO,3M064 NDO,3M152 NJA,3M192 NJU,3M149 NJEE,3M134 NJOO
  3M182 VI,3M185 VA,3M151 VU,3M173 VEE,3M085 VE,3M144 VOO,3M077 VO,3M164 NYIN,3M058 NYAN,3M170 NYUN
  3M098 NYEN,3M060 NYON,@1E8C7 2DIGIT ONE,3TWO,3THREE,3FOUR,3FIVE,3SIX,3SEVEN,3EIGHT,3NINE
  2COMBINING NUMBER TEENS,4TENS,4HUNDREDS,4THOUSANDS,4TEN*1,4HUNDRED*1,4MILLIONS
  @1E900 ADLAM CAPITAL LETTER ALIF,3DAALI,3LAAM,3MIIM,3BA,3SINNYIIYHE,3PE,3BHE,3RA,3E,3FA,3I,3O
  3DHA,3YHE,3WAW,3NUN,3KAF,3YA,3U,3JIIM,3CHI,3HA,3QAAF,3GA,3NYA,3TU,3NHA,3VA,3KHA,3GBE,3ZAL,3KPO
  3SHA,1SMALL LETTER ALIF,3DAALI,3LAAM,3MIIM,3BA,3SINNYIIYHE,3PE,3BHE,3RA,3E,3FA,3I,3O,3DHA,3YHE
  3WAW,3NUN,3KAF,3YA,3U,3JIIM,3CHI,3HA,3QAAF,3GA,3NYA,3TU,3NHA,3VA,3KHA,3GBE,3ZAL,3KPO,3SHA
  1ALIF LENGTHENER,1VOWEL*1,1GEMINATION MARK,1HAMZA,1CONSONANT MODIFIER,1GEMINATE*2,1NUKTA
  1NASALIZATION MARK,@1E950 1DIGIT ZERO,2ONE,2TWO,2THREE,2FOUR,2FIVE,2SIX,2SEVEN,2EIGHT,2NINE
  @1E95E 1INITIAL EXCLAMATION MARK,2QUESTION*1,@1EC71 INDIC SIYAQ NUMBER ONE,3TWO,3THREE,3FOUR
  3FIVE,3SIX,3SEVEN,3EIGHT,3NINE,3TEN,3TWENTY,3THIRTY,3FORTY,3FIFTY,3SIXTY,3SEVENTY,3EIGHTY,3NINETY
  3ONE HUNDRED,3TWO*1,3THREE*1,3FOUR*1,3FIVE*1,3SIX*1,3SEVEN*1,3EIGHT*1,3NINE*1,3ONE THOUSAND
  3TWO*1,3THREE*1,3FOUR*1,3FIVE*1,3SIX*1,3SEVEN*1,3EIGHT*1,3NINE*1,3TEN*1,3TWENTY*1,3THIRTY*1
  3FORTY*1,3FIFTY*1,3SIXTY*1,3SEVENTY*1,3EIGHTY*1,3NINETY*1,3LAKH,3LAKHAN,2LAKH MARK,2NUMBER KAROR
  3KARORAN,3PREFIXED ONE,4TWO,4THREE,4FOUR,4FIVE,4SIX,4SEVEN,4EIGHT,4NINE,2PLACEHOLDER
  2FRACTION ONE QUARTER,4HALF,3THREE QUARTERS,2RUPEE MARK,2NUMBER ALTERNATE ONE,4TWO,4TEN THOUSAND
  2ALTERNATE LAKH MARK,@1ED01 OTTOMAN SIYAQ NUMBER ONE,3TWO,3THREE,3FOUR,3FIVE,3SIX,3SEVEN,3EIGHT
  3NINE,3TEN,3TWENTY,3THIRTY,3FORTY,3FIFTY,3SIXTY,3SEVENTY,3EIGHTY,3NINETY,3ONE HUNDRED,3TWO*1
  3THREE*1,3FOUR*1,3FIVE*1,3SIX*1,3SEVEN*1,3EIGHT*1,3NINE*1,3ONE THOUSAND,3TWO*1,3THREE*1,3FOUR*1
  3FIVE*1,3SIX*1,3SEVEN*1,3EIGHT*1,3NINE*1,3TEN*1,3TWENTY*1,3THIRTY*1,3FORTY*1,3FIFTY*1,3SIXTY*1
  3SEVENTY*1,3EIGHTY*1,3NINETY*1,2MARRATAN,2ALTERNATE NUMBER TWO,4THREE,4FOUR,4FIVE,4SIX,4SEVEN
  4EIGHT,4NINE,4TEN,4FOUR HUNDRED,4SIX*1,4TWO THOUSAND,4TEN*1,2FRACTION ONE HALF,4SIXTH
  @1EE00 ARABIC MATHEMATICAL ALEF,2BEH,2JEEM,2DAL,@1EE05 2WAW,2ZAIN,2HAH,2TAH,2YEH,2KAF,2LAM,2MEEM
  2NOON,2SEEN,2AIN,2FEH,2SAD,2QAF,2REH,2SHEEN,2TEH,2THEH,2KHAH,2THAL,2DAD,2ZAH,2GHAIN,2DOTLESS BEH
  3NOON,3FEH,3QAF,@1EE21 2INITIAL BEH,3JEEM,@1EE24 3HEH,@1EE27 3HAH,@1EE29 3YEH,3KAF,3LAM,3MEEM
  3NOON,3SEEN,3AIN,3FEH,3SAD,3QAF,@1EE34 3SHEEN,3TEH,3THEH,3KHAH,@1EE39 3DAD,@1EE3B 3GHAIN
  @1EE42 2TAILED JEEM,@1EE47 3HAH,@1EE49 3YEH,@1EE4B 3LAM,@1EE4D 3NOON,3SEEN,3AIN,@1EE51 3SAD,3QAF
  @1EE54 3SHEEN,@1EE57 3KHAH,@1EE59 3DAD,@1EE5B 3GHAIN,@1EE5D 3DOTLESS NOON,@1EE5F 4QAF
  @1EE61 2STRETCHED BEH,3JEEM,@1EE64 3HEH,@1EE67 3HAH,3TAH,3YEH,3KAF,@1EE6C 3MEEM,3NOON,3SEEN,3AIN
  3FEH,3SAD,3QAF,@1EE74 3SHEEN,3TEH,3THEH,3KHAH,@1EE79 3DAD,3ZAH,3GHAIN,3DOTLESS BEH,@1EE7E 4FEH
  @1EE80 2LOOPED ALEF,3BEH,3JEEM,3DAL,3HEH,3WAW,3ZAIN,3HAH,3TAH,3YEH,@1EE8B 3LAM,3MEEM,3NOON,3SEEN
  3AIN,3FEH,3SAD,3QAF,3REH,3SHEEN,3TEH,3THEH,3KHAH,3THAL,3DAD,3ZAH,3GHAIN,@1EEA1 2DOUBLE-STRUCK BEH
  3JEEM,3DAL,@1EEA5 3WAW,3ZAIN,3HAH,3TAH,3YEH,@1EEAB 3LAM,3MEEM,3NOON,3SEEN,3AIN,3FEH,3SAD,3QAF
  3REH,3SHEEN,3TEH,3THEH,3KHAH,3THAL,3DAD,3ZAH,3GHAIN,@1EEF0 2OPERATOR MEEM WITH HAH WITH TATWEEL
  3HAH WITH DAL,@1F000 MAHJONG TILE EAST WIND,2SOUTH*1,2WEST*1,2NORTH*1,2RED DRAGON,2GREEN*1
  2WHITE*1,2ONE OF CHARACTERS,2TWO*2,2THREE*2,2FOUR*2,2FIVE*2,2SIX*2,2SEVEN*2,2EIGHT*2,2NINE*2
  2ONE OF BAMBOOS,2TWO*2,2THREE*2,2FOUR*2,2FIVE*2,2SIX*2,2SEVEN*2,2EIGHT*2,2NINE*2,2ONE OF CIRCLES
  2TWO*2,2THREE*2,2FOUR*2,2FIVE*2,2SIX*2,2SEVEN*2,2EIGHT*2,2NINE*2,2PLUM,2ORCHID,2BAMBOO
  2CHRYSANTHEMUM,2SPRING,2SUMMER,2AUTUMN,2WINTER,2JOKER,2BACK,@1F030 DOMINO TILE HORIZONTAL*1
  2HORIZONTAL-00-00,+,+,+,+,+,+,2HORIZONTAL-01-00,+,+,+,+,+,+,2HORIZONTAL-02-00,+,+,+,+,+,+
  2HORIZONTAL-03-00,+,+,+,+,+,+,2HORIZONTAL-04-00,+,+,+,+,+,+,2HORIZONTAL-05-00,+,+,+,+,+,+
  2HORIZONTAL-06-00,+,+,+,+,+,+,2VERTICAL BACK,2VERTICAL-00-00,+,+,+,+,+,+,2VERTICAL-01-00,+,+,+,+
  +,+,2VERTICAL-02-00,+,+,+,+,+,+,2VERTICAL-03-00,+,+,+,+,+,+,2VERTICAL-04-00,+,+,+,+,+,+
  2VERTICAL-05-00,+,+,+,+,+,+,2VERTICAL-06-00,+,+,+,+,+,+,@1F0A0 PLAYING CARD BACK,2ACE OF SPADES
  2TWO*2,2THREE*2,2FOUR*2,2FIVE*2,2SIX*2,2SEVEN*2,2EIGHT*2,2NINE*2,2TEN*2,2JACK*2,2KNIGHT*2
  2QUEEN*2,2KING*2,@1F0B1 2ACE OF HEARTS,2TWO*2,2THREE*2,2FOUR*2,2FIVE*2,2SIX*2,2SEVEN*2,2EIGHT*2
  2NINE*2,2TEN*2,2JACK*2,2KNIGHT*2,2QUEEN*2,2KING*2,2RED JOKER,@1F0C1 2ACE OF DIAMONDS,2TWO*2
  2THREE*2,2FOUR*2,2FIVE*2,2SIX*2,2SEVEN*2,2EIGHT*2,2NINE*2,2TEN*2,2JACK*2,2KNIGHT*2,2QUEEN*2
  2KING*2,2BLACK JOKER,@1F0D1 2ACE OF CLUBS,2TWO*2,2THREE*2,2FOUR*2,2FIVE*2,2SIX*2,2SEVEN*2
  2EIGHT*2,2NINE*2,2TEN*2,2JACK*2,2KNIGHT*2,2QUEEN*2,2KING*2,2WHITE JOKER,2FOOL,2TRUMP-1,+,+,+,+,+
  +,+,+,+,+,+,+,+,+,+,+,+,+,+,+,@1F100 DIGIT ZERO FULL STOP,2COMMA,1ONE*1,1TWO*1,1THREE*1,1FOUR*1
  1FIVE*1,1SIX*1,1SEVEN*1,1EIGHT*1,1NINE*1,DINGBAT CIRCLED SANS-SERIF DIGIT ZERO,1NEGATIVE*4
  CIRCLED ZERO WITH SLASH,1ANTICLOCKWISE ARROW,1DOLLAR SIGN WITH OVERLAID BACKSLASH
  PARENTHESIZED LATIN CAPITAL LETTER A,4B,4C,4D,4E,4F,4G,4H,4I,4J,4K,4L,4M,4N,4O,4P,4Q,4R,4S,4T,4U
  4V,4W,4X,4Y,4Z,TORTOISE SHELL BRACKETED LATIN CAPITAL LETTER S
  CIRCLED ITALIC LATIN CAPITAL LETTER C,5R,1CD,1WZ,COPYLEFT SYMBOL,SQUARED LATIN CAPITAL LETTER A
  4B,4C,4D,4E,4F,4G,4H,4I,4J,4K,4L,4M,4N,4O,4P,4Q,4R,4S,4T,4U,4V,4W,4X,4Y,4Z,1HV,1MV,1SD,1SS,1PPV
  1WC,NEGATIVE CIRCLED LATIN CAPITAL LETTER A,5B,5C,5D,5E,5F,5G,5H,5I,5J,5K,5L,5M,5N,5O,5P,5Q,5R,5S
  5T,5U,5V,5W,5X,5Y,5Z,RAISED MC SIGN,1MD*1,1MR*1,CIRCLED CC,1C WITH OVERLAID BACKSLASH
  1HUMAN FIGURE,NEGATIVE SQUARED LATIN CAPITAL LETTER A,5B,5C,5D,5E,5F,5G,5H,5I,5J,5K,5L,5M,5N,5O
  5P,5Q,5R,5S,5T,5U,5V,5W,5X,5Y,5Z,CROSSED NEGATIVE SQUARED LATIN CAPITAL LETTER P
  NEGATIVE SQUARED IC,2PA,2SA,2AB,2WC,SQUARE DJ,SQUARED CL,1COOL,1FREE,1ID,1NEW,1NG,1OK,1SOS
  1UP WITH EXCLAMATION MARK,1VS,1THREE D,1SECOND SCREEN,1TWO K,1FOUR K,1EIGHT K,1FIVE POINT ONE
  1SEVEN*2,1TWENTY-TWO POINT TWO,1SIXTY P,1ONE HUNDRED TWENTY P,1LATIN SMALL LETTER D,1HC,1HDR
  1HI-RES,1LOSSLESS,1SHV,1UHD,1VOD,MASK WORK SYMBOL,@1F1E6 REGIONAL INDICATOR SYMBOL LETTER A,4B,4C
  4D,4E,4F,4G,4H,4I,4J,4K,4L,4M,4N,4O,4P,4Q,4R,4S,4T,4U,4V,4W,4X,4Y,4Z,SQUARE HIRAGANA HOKA
  SQUARED KATAKANA KOKO,2SA,@1F210 1CJK UNIFIED IDEOGRAPH-624B,3IDEOGRAPH-5B57,3IDEOGRAPH-53CC
  1KATAKANA DE,1CJK UNIFIED IDEOGRAPH-4E8C,3IDEOGRAPH-591A,3IDEOGRAPH-89E3,3IDEOGRAPH-5929
  3IDEOGRAPH-4EA4,3IDEOGRAPH-6620,3IDEOGRAPH-7121,3IDEOGRAPH-6599,3IDEOGRAPH-524D,3IDEOGRAPH-5F8C
  3IDEOGRAPH-518D,3IDEOGRAPH-65B0,3IDEOGRAPH-521D,3IDEOGRAPH-7D42,3IDEOGRAPH-751F,3IDEOGRAPH-8CA9
  3IDEOGRAPH-58F0,3IDEOGRAPH-5439,3IDEOGRAPH-6F14,3IDEOGRAPH-6295,3IDEOGRAPH-6355,3IDEOGRAPH-4E00
  3IDEOGRAPH-4E09,3IDEOGRAPH-904A,3IDEOGRAPH-5DE6,3IDEOGRAPH-4E2D,3IDEOGRAPH-53F3,3IDEOGRAPH-6307
  3IDEOGRAPH-8D70,3IDEOGRAPH-6253,3IDEOGRAPH-7981,3IDEOGRAPH-7A7A,3IDEOGRAPH-5408,3IDEOGRAPH-6E80
  3IDEOGRAPH-6709,3IDEOGRAPH-6708,3IDEOGRAPH-7533,3IDEOGRAPH-5272,3IDEOGRAPH-55B6,3IDEOGRAPH-914D
  @1F240 TORTOISE SHELL BRACKETED CJK UNIFIED IDEOGRAPH-672C,5IDEOGRAPH-4E09,5IDEOGRAPH-4E8C
  5IDEOGRAPH-5B89,5IDEOGRAPH-70B9,5IDEOGRAPH-6253,5IDEOGRAPH-76D7,5IDEOGRAPH-52DD,5IDEOGRAPH-6557
  @1F250 CIRCLED IDEOGRAPH ADVANTAGE,2ACCEPT,@1F260 ROUNDED SYMBOL FOR FU,3LU,3SHOU,3XI,3SHUANGXI
  3CAI,@1F300 CYCLONE,FOGGY,CLOSED UMBRELLA,NIGHT WITH STARS,SUNRISE OVER MOUNTAINS,1
  CITYSCAPE AT DUSK,SUNSET OVER BUILDINGS,RAINBOW,BRIDGE AT NIGHT,WATER WAVE,VOLCANO,MILKY WAY
  EARTH GLOBE EUROPE-AFRICA,2AMERICAS,2ASIA-AUSTRALIA,GLOBE WITH MERIDIANS,NEW MOON SYMBOL
  WAXING CRESCENT*2,FIRST QUARTER*2,WAXING GIBBOUS*2,FULL*2,WANING GIBBOUS*2,LAST QUARTER*2
  WANING CRESCENT*2,CRESCENT MOON,NEW MOON WITH FACE,FIRST QUARTER*3,LAST*4,FULL*3,SUN*2
  GLOWING STAR,SHOOTING*1,THERMOMETER,BLACK DROPLET,WHITE SUN,2WITH SMALL CLOUD,2BEHIND*1
  4WITH RAIN,*3,2SNOW,2LIGHTNING,2TORNADO,FOG,WIND BLOWING FACE,HOT DOG,TACO,BURRITO,CHESTNUT
  SEEDLING,EVERGREEN TREE,DECIDUOUS*1,PALM*1,CACTUS,HOT PEPPER,TULIP,CHERRY BLOSSOM,ROSE,HIBISCUS
  SUNFLOWER,BLOSSOM,EAR OF MAIZE,2RICE,HERB,FOUR LEAF CLOVER,MAPLE LEAF,FALLEN*1
  LEAF FLUTTERING IN WIND,MUSHROOM,TOMATO,AUBERGINE,GRAPES,MELON,WATERMELON,TANGERINE,LEMON,BANANA
  PINEAPPLE,RED APPLE,GREEN*1,PEAR,PEACH,CHERRIES,STRAWBERRY,HAMBURGER,SLICE OF PIZZA,MEAT ON BONE
  POULTRY LEG,RICE CRACKER,1BALL,COOKED RICE,CURRY AND*1,STEAMING BOWL,SPAGHETTI,BREAD,FRENCH FRIES
  ROASTED SWEET POTATO,DANGO,ODEN,SUSHI,FRIED SHRIMP,FISH CAKE WITH SWIRL DESIGN,SOFT ICE CREAM
  SHAVED ICE,ICE CREAM,DOUGHNUT,COOKIE,CHOCOLATE BAR,CANDY,LOLLIPOP,CUSTARD,HONEY POT,SHORTCAKE
  BENTO BOX,POT OF FOOD,COOKING,FORK AND KNIFE,TEACUP WITHOUT HANDLE,SAKE BOTTLE AND CUP,WINE GLASS
  COCKTAIL*1,TROPICAL DRINK,BEER MUG,CLINKING BEER MUGS,BABY BOTTLE,FORK AND KNIFE WITH PLATE
  BOTTLE WITH POPPING CORK,POPCORN,RIBBON,WRAPPED PRESENT,BIRTHDAY CAKE,JACK-O-LANTERN
  CHRISTMAS TREE,FATHER CHRISTMAS,FIREWORKS,FIREWORK SPARKLER,BALLOON,PARTY POPPER,CONFETTI BALL
  TANABATA TREE,CROSSED FLAGS,PINE DECORATION,JAPANESE DOLLS,CARP STREAMER,WIND CHIME
  MOON VIEWING CEREMONY,SCHOOL SATCHEL,GRADUATION CAP,HEART WITH TIP ON THE LEFT,BOUQUET OF FLOWERS
  MILITARY MEDAL,REMINDER RIBBON,MUSICAL KEYBOARD WITH JACKS,STUDIO MICROPHONE,LEVEL SLIDER
  CONTROL KNOBS,BEAMED ASCENDING MUSICAL NOTES,1DESCENDING*2,FILM FRAMES,ADMISSION TICKETS
  CAROUSEL HORSE,FERRIS WHEEL,ROLLER COASTER,FISHING POLE AND FISH,MICROPHONE,MOVIE CAMERA,CINEMA
  HEADPHONE,ARTIST PALETTE,TOP HAT,CIRCUS TENT,TICKET,CLAPPER BOARD,PERFORMING ARTS,VIDEO GAME
  DIRECT HIT,SLOT MACHINE,BILLIARDS,GAME DIE,BOWLING,FLOWER PLAYING CARDS,MUSICAL NOTE
  MULTIPLE MUSICAL NOTES,SAXOPHONE,GUITAR,MUSICAL KEYBOARD,TRUMPET,VIOLIN,MUSICAL SCORE
  RUNNING SHIRT WITH SASH,TENNIS RACQUET AND BALL,SKI AND SKI BOOT,BASKETBALL AND HOOP
  CHEQUERED FLAG,SNOWBOARDER,RUNNER,SURFER,SPORTS MEDAL,TROPHY,HORSE RACING,AMERICAN FOOTBALL
  RUGBY*1,SWIMMER,WEIGHT LIFTER,GOLFER,RACING MOTORCYCLE,1CAR,CRICKET BAT AND BALL,VOLLEYBALL
  FIELD HOCKEY STICK AND BALL,ICE HOCKEY STICK AND PUCK,TABLE TENNIS PADDLE AND BALL
  SNOW CAPPED MOUNTAIN,CAMPING,BEACH WITH UMBRELLA,BUILDING CONSTRUCTION,HOUSE BUILDINGS,CITYSCAPE
  DERELICT HOUSE BUILDING,CLASSICAL*1,DESERT,1ISLAND,NATIONAL PARK,STADIUM,HOUSE BUILDING
  1WITH GARDEN,OFFICE BUILDING,JAPANESE POST OFFICE,EUROPEAN*2,HOSPITAL,BANK
  AUTOMATED TELLER MACHINE,HOTEL,LOVE*1,CONVENIENCE STORE,SCHOOL,DEPARTMENT STORE,FACTORY
  IZAKAYA LANTERN,JAPANESE CASTLE,EUROPEAN*1,WHITE PENNANT,BLACK*1,WAVING WHITE FLAG,1BLACK*1
  ROSETTE,BLACK*1,LABEL,BADMINTON RACQUET AND SHUTTLECOCK,BOW AND ARROW,AMPHORA
  EMOJI MODIFIER FITZPATRICK TYPE-1-2,3TYPE-3,+,+,+,RAT,MOUSE,OX,WATER BUFFALO,COW,TIGER,LEOPARD
  RABBIT,CAT,DRAGON,CROCODILE,WHALE,SNAIL,SNAKE,HORSE,RAM,GOAT,SHEEP,MONKEY,ROOSTER,CHICKEN,DOG,PIG
  BOAR,ELEPHANT,OCTOPUS,SPIRAL SHELL,BUG,ANT,HONEYBEE,LADY BEETLE,FISH,TROPICAL*1,BLOWFISH,TURTLE
  HATCHING CHICK,BABY*1,FRONT-FACING*2,BIRD,PENGUIN,KOALA,POODLE,DROMEDARY CAMEL,BACTRIAN*1,DOLPHIN
  MOUSE FACE,COW*1,TIGER*1,RABBIT*1,CAT*1,DRAGON*1,SPOUTING WHALE,HORSE FACE,MONKEY*1,DOG*1,PIG*1
  FROG*1,HAMSTER*1,WOLF*1,BEAR*1,PANDA*1,PIG NOSE,PAW PRINTS,CHIPMUNK,EYES,EYE,EAR,NOSE,MOUTH
  TONGUE,WHITE UP POINTING BACKHAND INDEX,1DOWN*3,1LEFT*3,1RIGHT*3,FISTED HAND SIGN,WAVING*2,OK*2
  THUMBS UP*1,1DOWN*1,CLAPPING HANDS*1,OPEN*2,CROWN,WOMANS HAT,EYEGLASSES,NECKTIE,T-SHIRT,JEANS
  DRESS,KIMONO,BIKINI,WOMANS CLOTHES,PURSE,HANDBAG,POUCH,MANS SHOE,ATHLETIC*1,HIGH-HEELED*1
  WOMANS SANDAL,1BOOTS,FOOTPRINTS,BUST IN SILHOUETTE,BUSTS*2,BOY,GIRL,MAN,WOMAN,FAMILY
  MAN AND WOMAN HOLDING HANDS,TWO MEN*2,1WOMEN*2,POLICE OFFICER,WOMAN WITH BUNNY EARS
  BRIDE WITH VEIL,PERSON WITH BLOND HAIR,MAN WITH GUA PI MAO,2TURBAN,OLDER MAN,1WOMAN,BABY
  CONSTRUCTION WORKER,PRINCESS,JAPANESE OGRE,1GOBLIN,GHOST,BABY ANGEL,EXTRATERRESTRIAL ALIEN
  ALIEN MONSTER,IMP,SKULL,INFORMATION DESK PERSON,GUARDSMAN,DANCER,LIPSTICK,NAIL POLISH
  FACE MASSAGE,HAIRCUT,BARBER POLE,SYRINGE,PILL,KISS MARK,LOVE LETTER,RING,GEM STONE,KISS,BOUQUET
  COUPLE WITH HEART,WEDDING,BEATING HEART,BROKEN*1,TWO HEARTS,SPARKLING HEART,GROWING*1
  HEART WITH ARROW,BLUE HEART,GREEN*1,YELLOW*1,PURPLE*1,HEART WITH RIBBON,REVOLVING HEARTS
  HEART DECORATION,DIAMOND SHAPE WITH A DOT INSIDE,ELECTRIC LIGHT BULB,ANGER SYMBOL,BOMB
  SLEEPING SYMBOL,COLLISION*1,SPLASHING SWEAT*1,DROPLET,DASH SYMBOL,PILE OF POO,FLEXED BICEPS
  DIZZY SYMBOL,SPEECH BALLOON,THOUGHT*1,WHITE FLOWER,HUNDRED POINTS SYMBOL,MONEY BAG
  CURRENCY EXCHANGE,HEAVY DOLLAR SIGN,CREDIT CARD,BANKNOTE WITH YEN SIGN,2DOLLAR*1,2EURO*1,2POUND*1
  MONEY WITH WINGS,CHART WITH UPWARDS TREND AND YEN SIGN,SEAT,PERSONAL COMPUTER,BRIEFCASE,MINIDISC
  FLOPPY DISK,OPTICAL DISC,DVD,FILE FOLDER,OPEN*2,PAGE WITH CURL,1FACING UP,CALENDAR,TEAR-OFF*1
  CARD INDEX,CHART WITH UPWARDS TREND,2DOWNWARDS*1,BAR CHART,CLIPBOARD,PUSHPIN,ROUND*1,PAPERCLIP
  STRAIGHT RULER,TRIANGULAR*1,BOOKMARK TABS,LEDGER,NOTEBOOK,1WITH DECORATIVE COVER,CLOSED BOOK
  OPEN*1,GREEN*1,BLUE*1,ORANGE*1,BOOKS,NAME BADGE,SCROLL,MEMO,TELEPHONE RECEIVER,PAGER,FAX MACHINE
  SATELLITE ANTENNA,PUBLIC ADDRESS LOUDSPEAKER,CHEERING MEGAPHONE,OUTBOX TRAY,INBOX*1,PACKAGE
  E-MAIL SYMBOL,INCOMING ENVELOPE,ENVELOPE WITH DOWNWARDS ARROW ABOVE
  CLOSED MAILBOX WITH LOWERED FLAG,3RAISED*1,OPEN*4,3LOWERED*1,POSTBOX,POSTAL HORN,NEWSPAPER
  MOBILE PHONE,2WITH RIGHTWARDS ARROW AT LEFT,VIBRATION MODE,MOBILE PHONE OFF,NO MOBILE PHONES
  ANTENNA WITH BARS,CAMERA,1WITH FLASH,VIDEO CAMERA,TELEVISION,RADIO,VIDEOCASSETTE,FILM PROJECTOR
  PORTABLE STEREO,PRAYER BEADS,TWISTED RIGHTWARDS ARROWS
  CLOCKWISE RIGHTWARDS AND LEFTWARDS OPEN CIRCLE*1,7WITH CIRCLED ONE OVERLAY
  1DOWNWARDS AND UPWARDS OPEN CIRCLE ARROWS,ANTICLOCKWISE*6,LOW BRIGHTNESS SYMBOL,HIGH*2
  SPEAKER WITH CANCELLATION STROKE,1,1WITH ONE SOUND WAVE,2THREE SOUND WAVES,BATTERY,ELECTRIC PLUG
  LEFT-POINTING MAGNIFYING GLASS,RIGHT-POINTING*2,LOCK WITH INK PEN,CLOSED LOCK WITH KEY,*1,LOCK
  OPEN*1,BELL,1WITH CANCELLATION STROKE,BOOKMARK,LINK SYMBOL,RADIO BUTTON
  BACK WITH LEFTWARDS ARROW ABOVE,END*4,ON WITH EXCLAMATION MARK WITH LEFT RIGHT*2
  SOON WITH RIGHTWARDS*2,TOP WITH UPWARDS*2,NO ONE UNDER EIGHTEEN SYMBOL,KEYCAP TEN
  INPUT SYMBOL FOR LATIN CAPITAL LETTERS,4SMALL*1,3NUMBERS,3SYMBOLS,3LATIN LETTERS,FIRE
  ELECTRIC TORCH,WRENCH,HAMMER,NUT AND BOLT,HOCHO,PISTOL,MICROSCOPE,TELESCOPE,CRYSTAL BALL
  SIX POINTED STAR WITH MIDDLE DOT,JAPANESE SYMBOL FOR BEGINNER,TRIDENT EMBLEM,BLACK SQUARE BUTTON
  WHITE*2,LARGE RED CIRCLE,1BLUE*1,1ORANGE DIAMOND,1BLUE*1,SMALL ORANGE*1,1BLUE*1
  UP-POINTING RED TRIANGLE,DOWN-POINTING*2,UP-POINTING SMALL*2,DOWN-POINTING*3
  LOWER RIGHT SHADOWED WHITE CIRCLE,UPPER*4,CIRCLED CROSS POMMEE
  CROSS POMMEE WITH HALF-CIRCLE BELOW,2,NOTCHED LEFT SEMICIRCLE WITH THREE DOTS,1RIGHT*4
  SYMBOL FOR MARKS CHAPTER,WHITE LATIN CROSS,HEAVY*2,CELTIC*1,OM SYMBOL,DOVE OF PEACE,KAABA,MOSQUE
  SYNAGOGUE,MENORAH WITH NINE BRANCHES,BOWL OF HYGIEIA,CLOCK FACE ONE OCLOCK,2TWO*1,2THREE*1
  2FOUR*1,2FIVE*1,2SIX*1,2SEVEN*1,2EIGHT*1,2NINE*1,2TEN*1,2ELEVEN*1,2TWELVE*1,2ONE-THIRTY
  2TWO-THIRTY,2THREE-THIRTY,2FOUR-THIRTY,2FIVE-THIRTY,2SIX-THIRTY,2SEVEN-THIRTY,2EIGHT-THIRTY
  2NINE-THIRTY,2TEN-THIRTY,2ELEVEN-THIRTY,2TWELVE-THIRTY,RIGHT SPEAKER,2WITH ONE SOUND WAVE
  3THREE SOUND WAVES,BULLHORN,1WITH SOUND WAVES,RINGING BELL,BOOK,CANDLE,MANTELPIECE CLOCK
  BLACK SKULL AND CROSSBONES,NO PIRACY,HOLE,MAN IN BUSINESS SUIT LEVITATING,SLEUTH OR SPY
  DARK SUNGLASSES,SPIDER,1WEB,JOYSTICK,MAN DANCING,LEFT HAND TELEPHONE RECEIVER
  TELEPHONE RECEIVER WITH PAGE,RIGHT HAND TELEPHONE RECEIVER,WHITE TOUCHTONE TELEPHONE,BLACK*2
  TELEPHONE ON TOP OF MODEM,CLAMSHELL MOBILE PHONE,BACK OF ENVELOPE,STAMPED*1
  ENVELOPE WITH LIGHTNING,FLYING ENVELOPE,PEN OVER STAMPED*1,LINKED PAPERCLIPS,BLACK PUSHPIN
  LOWER LEFT PENCIL,2BALLPOINT PEN,2FOUNTAIN*1,2PAINTBRUSH,2CRAYON,LEFT WRITING HAND
  TURNED OK HAND SIGN,RAISED HAND WITH FINGERS SPLAYED,REVERSED*5,1THUMBS UP SIGN,2DOWN*1
  1VICTORY HAND,1HAND WITH MIDDLE FINGER EXTENDED
  RAISED HAND WITH PART BETWEEN MIDDLE AND RING FINGERS,WHITE DOWN POINTING LEFT HAND INDEX
  SIDEWAYS WHITE LEFT POINTING*1,2RIGHT*2,1BLACK LEFT*2,2RIGHT*2,BLACK LEFT POINTING BACKHAND*1
  1RIGHT*3,SIDEWAYS WHITE UP POINTING*1,2DOWN*2,1BLACK UP*2,2DOWN*2,BLACK UP POINTING BACKHAND*1
  1DOWN*3,1HEART,DESKTOP COMPUTER,KEYBOARD AND MOUSE,THREE NETWORKED COMPUTERS,PRINTER
  POCKET CALCULATOR,BLACK HARD SHELL FLOPPY DISK,WHITE*4,SOFT*3,TAPE CARTRIDGE,WIRED KEYBOARD
  ONE BUTTON MOUSE,TWO*2,THREE*2,TRACKBALL,OLD PERSONAL COMPUTER,HARD DISK,SCREEN,PRINTER ICON
  FAX*1,OPTICAL DISC*1,DOCUMENT WITH TEXT,3AND PICTURE,2*1,FRAME*2,2TILES,2AN X,BLACK FOLDER,*1
  OPEN*1,CARD INDEX DIVIDERS,1FILE BOX,FILE CABINET,EMPTY NOTE,2PAGE,2PAD,NOTE,1PAGE,1PAD
  EMPTY DOCUMENT,1PAGE,1PAGES,DOCUMENT,PAGE,PAGES,WASTEBASKET,SPIRAL NOTE PAD,1CALENDAR*1
  DESKTOP WINDOW,MINIMIZE,MAXIMIZE,OVERLAP,CLOCKWISE RIGHT AND LEFT SEMICIRCLE ARROWS
  CANCELLATION X,INCREASE FONT SIZE SYMBOL,DECREASE*3,COMPRESSION,OLD KEY,ROLLED-UP NEWSPAPER
  PAGE WITH CIRCLED TEXT,STOCK CHART,DAGGER KNIFE,LIPS,SPEAKING HEAD IN SILHOUETTE,THREE RAYS ABOVE
  2BELOW,2LEFT,2RIGHT,LEFT SPEECH BUBBLE,RIGHT*2,TWO SPEECH BUBBLES,THREE*2,LEFT THOUGHT BUBBLE
  RIGHT*2,LEFT ANGER*1,RIGHT*2,MOOD*1,LIGHTNING*2,2,BALLOT BOX WITH BALLOT,1SCRIPT X,1BOX WITH*2
  1BOLD*2,1BOX WITH*3,LIGHT CHECK MARK,BALLOT BOX WITH BOLD CHECK,WORLD MAP,MOUNT FUJI,TOKYO TOWER
  STATUE OF LIBERTY,SILHOUETTE OF JAPAN,MOYAI,GRINNING FACE,2WITH SMILING EYES
  FACE WITH TEARS OF JOY,SMILING FACE WITH OPEN MOUTH,5AND SMILING EYES,6COLD SWEAT
  6TIGHTLY-CLOSED EYES,3HALO,3HORNS,WINKING FACE,SMILING FACE WITH SMILING EYES
  FACE SAVOURING DELICIOUS FOOD,RELIEVED FACE,SMILING FACE WITH HEART-SHAPED EYES,3SUNGLASSES
  SMIRKING FACE,NEUTRAL*1,EXPRESSIONLESS*1,UNAMUSED*1,FACE WITH COLD SWEAT,PENSIVE FACE,CONFUSED*1
  CONFOUNDED*1,KISSING*1,FACE THROWING A KISS,KISSING FACE WITH SMILING EYES,3CLOSED*1
  FACE WITH STUCK-OUT TONGUE,4AND WINKING EYE,5TIGHTLY-CLOSED EYES,DISAPPOINTED FACE,WORRIED*1
  ANGRY*1,POUTING*1,CRYING*1,PERSEVERING*1,FACE WITH LOOK OF TRIUMPH,DISAPPOINTED BUT RELIEVED FACE
  FROWNING FACE WITH OPEN MOUTH,ANGUISHED FACE,FEARFUL*1,WEARY*1,SLEEPY*1,TIRED*1,GRIMACING*1
  LOUDLY CRYING*1,FACE WITH OPEN MOUTH,HUSHED FACE,FACE WITH OPEN MOUTH AND COLD SWEAT
  1SCREAMING IN FEAR,ASTONISHED FACE,FLUSHED*1,SLEEPING*1,DIZZY*1,FACE WITHOUT MOUTH
  1WITH MEDICAL MASK,GRINNING CAT FACE WITH SMILING EYES,CAT FACE WITH TEARS OF JOY
  SMILING CAT FACE WITH OPEN MOUTH,4HEART-SHAPED EYES,CAT FACE WITH WRY SMILE
  KISSING CAT FACE WITH CLOSED EYES,POUTING CAT FACE,CRYING*2,WEARY*2,SLIGHTLY FROWNING*1
  1SMILING*1,UPSIDE-DOWN*1,FACE WITH ROLLING EYES,2NO GOOD GESTURE,2OK*1,PERSON BOWING DEEPLY
  SEE-NO-EVIL MONKEY,HEAR-NO-EVIL*1,SPEAK-NO-EVIL*1,HAPPY PERSON RAISING ONE HAND
  PERSON RAISING BOTH HANDS IN CELEBRATION,1FROWNING,1WITH POUTING FACE,2FOLDED HANDS
  NORTH WEST POINTING LEAF,SOUTH*3,NORTH EAST*2,SOUTH*3,TURNED NORTH WEST*2,1SOUTH*3,1NORTH EAST*2
  1SOUTH*3,NORTH WEST POINTING VINE*1,SOUTH*4,NORTH EAST*3,SOUTH*4,HEAVY NORTH WEST*3,1SOUTH*4
  1NORTH EAST*3,1SOUTH*4,NORTH WEST POINTING BUD,SOUTH*3,NORTH EAST*2,SOUTH*3,HEAVY NORTH WEST*2
  1SOUTH*3,1NORTH EAST*2,1SOUTH*3,HOLLOW QUILT SQUARE ORNAMENT,4IN BLACK SQUARE
  SOLID QUILT SQUARE ORNAMENT,4IN BLACK SQUARE,LEFTWARDS ROCKET,UPWARDS*1,RIGHTWARDS*1,DOWNWARDS*1
  SCRIPT LIGATURE ET ORNAMENT,HEAVY*4,LIGATURE OPEN*2,HEAVY*4,1AMPERSAND*1,SWASH*2
  SANS-SERIF HEAVY DOUBLE TURNED COMMA QUOTATION MARK*1,3*4,2LOW*5,HEAVY INTERROBANG*1,SANS-SERIF*2
  HEAVY*3,VERY HEAVY SOLIDUS,2REVERSE*1,CHECKER BOARD,REVERSE*2,ROCKET,HELICOPTER,STEAM LOCOMOTIVE
  RAILWAY CAR,HIGH-SPEED TRAIN,2WITH BULLET NOSE,TRAIN,METRO,LIGHT RAIL,STATION,TRAM,1CAR,BUS
  ONCOMING*1,TROLLEYBUS,BUS STOP,MINIBUS,AMBULANCE,FIRE ENGINE,POLICE CAR,ONCOMING*2,TAXI
  ONCOMING*1,AUTOMOBILE,ONCOMING*1,RECREATIONAL VEHICLE,DELIVERY TRUCK,ARTICULATED LORRY,TRACTOR
  MONORAIL,MOUNTAIN RAILWAY,SUSPENSION*1,MOUNTAIN CABLEWAY,AERIAL TRAMWAY,SHIP,ROWBOAT,SPEEDBOAT
  HORIZONTAL TRAFFIC LIGHT,VERTICAL*2,CONSTRUCTION SIGN,POLICE CARS REVOLVING LIGHT
  TRIANGULAR FLAG ON POST,DOOR,NO ENTRY SIGN,SMOKING SYMBOL,NO*2,PUT LITTER IN ITS PLACE*1
  DO NOT LITTER*1,POTABLE WATER*1,NON-POTABLE*2,BICYCLE,NO BICYCLES,BICYCLIST,MOUNTAIN*1,PEDESTRIAN
  NO PEDESTRIANS,CHILDREN CROSSING,MENS SYMBOL,WOMENS*1,RESTROOM,BABY SYMBOL,TOILET,WATER CLOSET
  SHOWER,BATH,BATHTUB,PASSPORT CONTROL,CUSTOMS,BAGGAGE CLAIM,LEFT LUGGAGE
  TRIANGLE WITH ROUNDED CORNERS,PROHIBITED SIGN,CIRCLED INFORMATION SOURCE,BOYS SYMBOL,GIRLS*1
  COUCH AND LAMP,SLEEPING ACCOMMODATION,SHOPPING BAGS,BELLHOP BELL,BED,PLACE OF WORSHIP
  OCTAGONAL SIGN,SHOPPING TROLLEY,STUPA,PAGODA,HINDU TEMPLE,HUT,ELEVATOR,@1F6DD PLAYGROUND SLIDE
  WHEEL,RING BUOY,HAMMER AND WRENCH,SHIELD,OIL DRUM,MOTORWAY,RAILWAY TRACK,MOTOR BOAT
  UP-POINTING MILITARY AIRPLANE,1*1,1SMALL*1,*2,NORTHEAST-POINTING*1,AIRPLANE DEPARTURE,1ARRIVING
  @1F6F0 SATELLITE,ONCOMING FIRE ENGINE,DIESEL LOCOMOTIVE,PASSENGER SHIP,SCOOTER,MOTOR*1,CANOE,SLED
  FLYING SAUCER,SKATEBOARD,AUTO RICKSHAW,PICKUP TRUCK,ROLLER SKATE
  @1F700 ALCHEMICAL SYMBOL FOR QUINTESSENCE,3AIR,3FIRE,3EARTH,3WATER,3AQUAFORTIS,3AQUA REGIA
  4REGIA-2,4VITAE,4VITAE-2,3VINEGAR,3VINEGAR-2,+,3SULFUR,3PHILOSOPHERS*1,3BLACK*1
  3MERCURY SUBLIMATE,4SUBLIMATE-2,+,3CINNABAR,3SALT,3NITRE,3VITRIOL,3VITRIOL-2,3ROCK SALT,4SALT-2
  3GOLD,3SILVER,3IRON ORE,4ORE-2,3CROCUS OF IRON,3REGULUS*2,3COPPER ORE,3IRON-COPPER*1
  3SUBLIMATE OF COPPER,3CROCUS*2,5COPPER-2,3COPPER ANTIMONIATE,3SALT OF*2
  3SUBLIMATE OF SALT OF COPPER,3VERDIGRIS,3TIN ORE,3LEAD*1,3ANTIMONY*1,3SUBLIMATE OF ANTIMONY
  3SALT*2,3SUBLIMATE OF*3,3VINEGAR*2,3REGULUS*2,5ANTIMONY-2,4,3REGULUS-2,+,+,3ALKALI,3ALKALI-2
  3MARCASITE,3SAL-AMMONIAC,3ARSENIC,3REALGAR,3REALGAR-2,3AURIPIGMENT,3BISMUTH ORE,3TARTAR,3TARTAR-2
  3QUICK LIME,3BORAX,3BORAX-2,+,3ALUM,3OIL,3SPIRIT,3TINCTURE,3GUM,3WAX,3POWDER,3CALX,3TUTTY
  3CAPUT MORTUUM,3SCEPTER OF JOVE,3CADUCEUS,3TRIDENT,3STARRED*1,3LODESTONE,3SOAP,3URINE,3HORSE DUNG
  3ASHES,3POT*1,3BRICK,3POWDERED*1,3AMALGAM,3STRATUM SUPER STRATUM,5STRATUM-2,3SUBLIMATION
  3PRECIPITATE,3DISTILL,3DISSOLVE,3DISSOLVE-2,3PURIFY,3PUTREFACTION,3CRUCIBLE,3CRUCIBLE-2,+,+,+
  3ALEMBIC,3BATH OF MARY,5VAPOURS,3RETORT,3HOUR,3NIGHT,3DAY-NIGHT,3MONTH,3HALF DRAM,4OUNCE
  @1F780 BLACK LEFT-POINTING ISOSCELES RIGHT TRIANGLE,1UP-POINTING*3,1RIGHT-POINTING*3
  1DOWN-POINTING*3,1SLIGHTLY SMALL CIRCLE,MEDIUM BOLD WHITE*1,*3,HEAVY*2,VERY*3,EXTREMELY*3
  WHITE CIRCLE CONTAINING BLACK SMALL*1,ROUND TARGET,BLACK TINY SQUARE,1SLIGHTLY SMALL*1
  LIGHT WHITE*1,MEDIUM*2,BOLD*2,HEAVY*2,VERY*3,EXTREMELY*3
  WHITE SQUARE CONTAINING BLACK VERY SMALL*1,4MEDIUM*1,SQUARE TARGET,BLACK TINY DIAMOND
  1VERY SMALL*1,1MEDIUM*2,WHITE DIAMOND CONTAINING BLACK VERY*2,4MEDIUM*1,DIAMOND TARGET
  BLACK TINY LOZENGE,1VERY SMALL*1,1MEDIUM*2,WHITE LOZENGE CONTAINING BLACK*2,THIN GREEK CROSS
  LIGHT*2,MEDIUM*2,BOLD*2,VERY*3,1HEAVY*2,EXTREMELY*3,THIN SALTIRE,LIGHT*1,MEDIUM*1,BOLD*1,HEAVY*1
  VERY*2,EXTREMELY*2,LIGHT FIVE SPOKED ASTERISK,MEDIUM*3,BOLD*3,HEAVY*3,VERY*4,EXTREMELY*4
  LIGHT SIX*2,MEDIUM*3,BOLD*3,HEAVY*3,VERY*4,EXTREMELY*4,LIGHT EIGHT*2,MEDIUM*3,BOLD*3,HEAVY*3
  VERY*4,LIGHT THREE POINTED BLACK STAR,MEDIUM*4,*4,MEDIUM THREE POINTED PINWHEEL*1
  LIGHT FOUR POINTED BLACK*1,MEDIUM*4,*4,MEDIUM FOUR POINTED PINWHEEL*1,REVERSE LIGHT*4
  LIGHT FIVE POINTED BLACK*1,HEAVY*4,MEDIUM SIX*3,HEAVY*4,SIX POINTED PINWHEEL*1
  MEDIUM EIGHT POINTED BLACK*1,HEAVY*4,VERY*5,HEAVY EIGHT POINTED PINWHEEL*1
  LIGHT TWELVE POINTED BLACK*1,HEAVY*4,3PINWHEEL*1,CIRCLED TRIANGLE,NEGATIVE*2,CIRCLED SQUARE
  NEGATIVE*2,@1F7E0 LARGE ORANGE CIRCLE,1YELLOW*1,1GREEN*1,1PURPLE*1,1BROWN*1,1RED SQUARE,1BLUE*1
  1ORANGE*1,1YELLOW*1,1GREEN*1,1PURPLE*1,1BROWN*1,@1F7F0 HEAVY EQUALS SIGN
  @1F800 LEFTWARDS ARROW WITH SMALL TRIANGLE ARROWHEAD,UPWARDS*5,RIGHTWARDS*5,DOWNWARDS*5
  LEFTWARDS ARROW WITH MEDIUM*2,UPWARDS*5,RIGHTWARDS*5,DOWNWARDS*5,LEFTWARDS ARROW WITH LARGE*2
  UPWARDS*5,RIGHTWARDS*5,DOWNWARDS*5,@1F810 LEFTWARDS ARROW WITH SMALL EQUILATERAL*1,UPWARDS*5
  RIGHTWARDS*5,DOWNWARDS*5,LEFTWARDS ARROW WITH*2,UPWARDS*4,RIGHTWARDS*4,DOWNWARDS*4
  HEAVY LEFTWARDS*4,1UPWARDS*4,1RIGHTWARDS*4,1DOWNWARDS*4,1LEFTWARDS ARROW WITH LARGE*2,1UPWARDS*5
  1RIGHTWARDS*5,1DOWNWARDS*5,LEFTWARDS TRIANGLE-HEADED ARROW WITH NARROW SHAFT,UPWARDS*5
  RIGHTWARDS*5,DOWNWARDS*5,LEFTWARDS TRIANGLE-HEADED ARROW WITH MEDIUM*1,UPWARDS*5,RIGHTWARDS*5
  DOWNWARDS*5,LEFTWARDS TRIANGLE-HEADED ARROW WITH BOLD*1,UPWARDS*5,RIGHTWARDS*5,DOWNWARDS*5
  LEFTWARDS TRIANGLE-HEADED ARROW WITH HEAVY*1,UPWARDS*5,RIGHTWARDS*5,DOWNWARDS*5
  LEFTWARDS TRIANGLE-HEADED ARROW WITH VERY*2,UPWARDS*6,RIGHTWARDS*6,DOWNWARDS*6
  LEFTWARDS FINGER-POST ARROW,UPWARDS*2,RIGHTWARDS*2,DOWNWARDS*2,LEFTWARDS SQUARED*1,UPWARDS*2
  RIGHTWARDS*2,DOWNWARDS*2,LEFTWARDS COMPRESSED*1,UPWARDS*2,RIGHTWARDS*2,DOWNWARDS*2
  LEFTWARDS HEAVY*2,UPWARDS*3,RIGHTWARDS*3,DOWNWARDS*3,LEFTWARDS HEAVY*1,UPWARDS*2,RIGHTWARDS*2
  DOWNWARDS*2,@1F850 LEFTWARDS SANS-SERIF*1,UPWARDS*2,RIGHTWARDS*2,DOWNWARDS*2,NORTH WEST*2,1EAST*2
  SOUTH*3,1WEST*2,LEFT RIGHT*2,UP DOWN*2,@1F860 WIDE-HEADED LEFTWARDS LIGHT BARB*1,1UPWARDS*3
  1RIGHTWARDS*3,1DOWNWARDS*3,1NORTH WEST*3,2EAST*3,1SOUTH*4,2WEST*3,1LEFTWARDS*2,1UPWARDS*2
  1RIGHTWARDS*2,1DOWNWARDS*2,1NORTH WEST*2,2EAST*2,1SOUTH*3,2WEST*2,1LEFTWARDS MEDIUM*2,1UPWARDS*3
  1RIGHTWARDS*3,1DOWNWARDS*3,1NORTH WEST*3,2EAST*3,1SOUTH*4,2WEST*3,1LEFTWARDS HEAVY*2,1UPWARDS*3
  1RIGHTWARDS*3,1DOWNWARDS*3,1NORTH WEST*3,2EAST*3,1SOUTH*4,2WEST*3,1LEFTWARDS VERY*3,1UPWARDS*4
  1RIGHTWARDS*4,1DOWNWARDS*4,1NORTH WEST*4,2EAST*4,1SOUTH*5,2WEST*4
  @1F890 LEFTWARDS TRIANGLE ARROWHEAD,UPWARDS*2,RIGHTWARDS*2,DOWNWARDS*2
  LEFTWARDS WHITE ARROW WITHIN*2,UPWARDS*5,RIGHTWARDS*5,DOWNWARDS*5
  LEFTWARDS ARROW WITH NOTCHED TAIL,UPWARDS*4,RIGHTWARDS*4,DOWNWARDS*4,HEAVY ARROW SHAFT WIDTH ONE
  4TWO THIRDS,4ONE HALF,5THIRD,LEFTWARDS BOTTOM-SHADED WHITE ARROW,RIGHTWARDS BOTTOM SHADED*2
  LEFTWARDS TOP*3,RIGHTWARDS*4,LEFTWARDS LEFT-SHADED*2,RIGHTWARDS RIGHT-SHADED*2,LEFTWARDS*3
  RIGHTWARDS LEFT-SHADED*2,LEFTWARDS BACK-TILTED SHADOWED*2,RIGHTWARDS*4,LEFTWARDS FRONT-TILTED*3
  RIGHTWARDS*4,WHITE ARROW SHAFT WIDTH ONE,4TWO THIRDS
  @1F8B0 ARROW POINTING UPWARDS THEN NORTH WEST,2RIGHTWARDS THEN CURVING SOUTH*1
  @1F900 CIRCLED CROSS FORMEE WITH FOUR DOTS,4TWO*1,3,LEFT HALF CIRCLE WITH FOUR DOTS,4THREE*1
  4TWO*1,4DOT,3,DOWNWARD FACING HOOK,2NOTCHED*1,2HOOK WITH DOT,2NOTCHED*3,PINCHED FINGERS
  WHITE HEART,BROWN*1,PINCHING HAND,ZIPPER-MOUTH FACE,MONEY-MOUTH*1,FACE WITH THERMOMETER,NERD FACE
  THINKING*1,FACE WITH HEAD-BANDAGE,ROBOT FACE,HUGGING*1,SIGN OF THE HORNS,CALL ME HAND
  RAISED BACK OF*1,LEFT-FACING FIST,RIGHT-FACING*1,HANDSHAKE
  HAND WITH INDEX AND MIDDLE FINGERS CROSSED,I LOVE YOU HAND SIGN,FACE WITH COWBOY HAT,CLOWN FACE
  NAUSEATED*1,ROLLING ON THE FLOOR LAUGHING,DROOLING FACE,LYING*1,FACE PALM,SNEEZING FACE
  FACE WITH ONE EYEBROW RAISED,GRINNING FACE WITH STAR EYES,3ONE LARGE AND ONE SMALL EYE
  FACE WITH FINGER COVERING CLOSED LIPS,SERIOUS FACE WITH SYMBOLS COVERING MOUTH
  SMILING FACE WITH SMILING EYES AND HAND*2,FACE WITH OPEN MOUTH VOMITING
  SHOCKED FACE WITH EXPLODING HEAD,PREGNANT WOMAN,BREAST-FEEDING,PALMS UP TOGETHER,SELFIE,PRINCE
  MAN IN TUXEDO,MOTHER CHRISTMAS,SHRUG,PERSON DOING CARTWHEEL,JUGGLING,FENCER,MODERN PENTATHLON
  WRESTLERS,WATER POLO,HANDBALL,DIVING MASK,WILTED FLOWER,DRUM WITH DRUMSTICKS,CLINKING GLASSES
  TUMBLER GLASS,SPOON,GOAL NET,RIFLE,FIRST PLACE MEDAL,SECOND*2,THIRD*2,BOXING GLOVE
  MARTIAL ARTS UNIFORM,CURLING STONE,LACROSSE STICK AND BALL,SOFTBALL,FLYING DISC,CROISSANT,AVOCADO
  CUCUMBER,BACON,POTATO,CARROT,BAGUETTE BREAD,GREEN SALAD,SHALLOW PAN OF FOOD,STUFFED FLATBREAD,EGG
  GLASS OF MILK,PEANUTS,KIWIFRUIT,PANCAKES,DUMPLING,FORTUNE COOKIE,TAKEOUT BOX,CHOPSTICKS
  BOWL WITH SPOON,CUP WITH STRAW,COCONUT,BROCCOLI,PIE,PRETZEL,CUT OF MEAT,SANDWICH,CANNED FOOD
  LEAFY GREEN,MANGO,MOON CAKE,BAGEL,SMILING FACE WITH SMILING EYES AND THREE HEARTS,YAWNING FACE
  SMILING FACE WITH TEAR,FACE WITH PARTY HORN AND PARTY HAT,2UNEVEN EYES AND WAVY MOUTH
  OVERHEATED FACE,FREEZING*1,NINJA,DISGUISED FACE,FACE HOLDING BACK TEARS,1WITH PLEADING EYES,SARI
  LAB COAT,GOGGLES,HIKING BOOT,FLAT SHOE,CRAB,LION FACE,SCORPION,TURKEY,UNICORN FACE,EAGLE,DUCK,BAT
  SHARK,OWL,FOX FACE,BUTTERFLY,DEER,GORILLA,LIZARD,RHINOCEROS,SHRIMP,SQUID,GIRAFFE FACE,ZEBRA*1
  HEDGEHOG,SAUROPOD,T-REX,CRICKET,KANGAROO,LLAMA,PEACOCK,HIPPOPOTAMUS,PARROT,RACCOON,LOBSTER
  MOSQUITO,MICROBE,BADGER,SWAN,MAMMOTH,DODO,SLOTH,OTTER,ORANGUTAN,SKUNK,FLAMINGO,OYSTER,BEAVER
  BISON,SEAL,GUIDE DOG,PROBING CANE,EMOJI COMPONENT RED HAIR,2CURLY*1,2BALD,2WHITE HAIR,BONE,LEG
  FOOT,TOOTH,SUPERHERO,SUPERVILLAIN,SAFETY VEST,EAR WITH HEARING AID,MOTORIZED WHEELCHAIR,MANUAL*1
  MECHANICAL ARM,1LEG,CHEESE WEDGE,CUPCAKE,SALT SHAKER,BEVERAGE BOX,GARLIC,ONION,FALAFEL,WAFFLE
  BUTTER,MATE DRINK,ICE CUBE,BUBBLE TEA,TROLL,STANDING PERSON,KNEELING*1,DEAF*1,FACE WITH MONOCLE
  ADULT,CHILD,OLDER ADULT,BEARDED PERSON,PERSON WITH HEADSCARF,1IN STEAMY ROOM,1CLIMBING
  1IN LOTUS POSITION,MAGE,FAIRY,VAMPIRE,MERPERSON,ELF,GENIE,ZOMBIE,BRAIN,ORANGE HEART,BILLED CAP
  SCARF,GLOVES,COAT,SOCKS,RED GIFT ENVELOPE,FIRECRACKER,JIGSAW PUZZLE PIECE,TEST TUBE,PETRI DISH
  DNA DOUBLE HELIX,COMPASS,ABACUS,FIRE EXTINGUISHER,TOOLBOX,BRICK,MAGNET,LUGGAGE,LOTION BOTTLE
  SPOOL OF THREAD,BALL OF YARN,SAFETY PIN,TEDDY BEAR,BROOM,BASKET,ROLL OF PAPER,BAR OF SOAP,SPONGE
  RECEIPT,NAZAR AMULET,NEUTRAL CHESS KING,2QUEEN,2ROOK,2BISHOP,2KNIGHT,2PAWN
  WHITE CHESS KNIGHT ROTATED FORTY-FIVE DEGREES,BLACK*5,NEUTRAL*5,WHITE CHESS KING ROTATED NINETY*1
  2QUEEN*3,2ROOK*3,2BISHOP*3,2KNIGHT*3,2PAWN*3,BLACK CHESS KING*3,2QUEEN*3,2ROOK*3,2BISHOP*3
  2KNIGHT*3,2PAWN*3,NEUTRAL CHESS KING*3,2QUEEN*3,2ROOK*3,2BISHOP*3,2KNIGHT*3,2PAWN*3
  WHITE CHESS KNIGHT ROTATED ONE HUNDRED THIRTY-FIVE*1,BLACK*7,NEUTRAL*7,WHITE CHESS TURNED KING
  3QUEEN,3ROOK,3BISHOP,3KNIGHT,3PAWN,BLACK CHESS TURNED KING,3QUEEN,3ROOK,3BISHOP,3KNIGHT,3PAWN
  NEUTRAL CHESS TURNED KING,3QUEEN,3ROOK,3BISHOP,3KNIGHT,3PAWN
  WHITE CHESS KNIGHT ROTATED TWO HUNDRED TWENTY-FIVE DEGREES,BLACK*7,NEUTRAL*7
  WHITE CHESS KING ROTATED TWO HUNDRED SEVENTY*1,2QUEEN*5,2ROOK*5,2BISHOP*5,2KNIGHT*5,2PAWN*5
  BLACK CHESS KING*5,2QUEEN*5,2ROOK*5,2BISHOP*5,2KNIGHT*5,2PAWN*5,NEUTRAL CHESS KING*5,2QUEEN*5
  2ROOK*5,2BISHOP*5,2KNIGHT*5,2PAWN*5,WHITE CHESS KNIGHT ROTATED THREE HUNDRED FIFTEEN*1,BLACK*7
  NEUTRAL*7,WHITE CHESS EQUIHOPPER,BLACK*2,NEUTRAL*2,WHITE CHESS EQUIHOPPER ROTATED NINETY DEGREES
  BLACK*5,NEUTRAL*5,WHITE CHESS KNIGHT-QUEEN,2KNIGHT-ROOK,2KNIGHT-BISHOP,BLACK CHESS KNIGHT-QUEEN
  2KNIGHT-ROOK,2KNIGHT-BISHOP,@1FA60 XIANGQI RED GENERAL,2MANDARIN,2ELEPHANT,2HORSE,2CHARIOT
  2CANNON,2SOLDIER,1BLACK GENERAL,2MANDARIN,2ELEPHANT,2HORSE,2CHARIOT,2CANNON,2SOLDIER
  @1FA70 BALLET SHOES,ONE-PIECE SWIMSUIT,BRIEFS,SHORTS,THONG SANDAL,@1FA78 DROP OF BLOOD
  ADHESIVE BANDAGE,STETHOSCOPE,X-RAY,CRUTCH,@1FA80 YO-YO,KITE,PARACHUTE,BOOMERANG,MAGIC WAND,PINATA
  NESTING DOLLS,@1FA90 RINGED PLANET,CHAIR,RAZOR,AXE,DIYA LAMP,BANJO,MILITARY HELMET,ACCORDION
  LONG DRUM,COIN,CARPENTRY SAW,SCREWDRIVER,LADDER,HOOK,MIRROR,WINDOW,PLUNGER,SEWING NEEDLE,KNOT
  BUCKET,MOUSE TRAP,TOOTHBRUSH,HEADSTONE,PLACARD,ROCK,MIRROR BALL,IDENTIFICATION CARD,LOW BATTERY
  HAMSA,@1FAB0 FLY,WORM,BEETLE,COCKROACH,POTTED PLANT,WOOD,FEATHER,LOTUS,CORAL,EMPTY NEST
  NEST WITH EGGS,@1FAC0 ANATOMICAL HEART,LUNGS,PEOPLE HUGGING,PREGNANT MAN,1PERSON
  PERSON WITH CROWN,@1FAD0 BLUEBERRIES,BELL PEPPER,OLIVE,FLATBREAD,TAMALE,FONDUE,TEAPOT
  POURING LIQUID,BEANS,JAR,@1FAE0 MELTING FACE,SALUTING*1,FACE WITH OPEN EYES AND HAND OVER MOUTH
  2PEEKING EYE,2DIAGONAL MOUTH,DOTTED LINE FACE,BITING LIP,BUBBLES
  @1FAF0 HAND WITH INDEX FINGER AND THUMB CROSSED,RIGHTWARDS HAND,LEFTWARDS*1,PALM DOWN*1,1UP*1
  INDEX POINTING AT THE VIEWER,HEART HANDS,@1FB00 BLOCK SEXTANT-1,+,1SEXTANT-12,1SEXTANT-3
  1SEXTANT-13,1SEXTANT-23,1SEXTANT-123,1SEXTANT-4,1SEXTANT-14,1SEXTANT-24,1SEXTANT-124,1SEXTANT-34
  1SEXTANT-134,1SEXTANT-234,1SEXTANT-1234,1SEXTANT-5,1SEXTANT-15,1SEXTANT-25,1SEXTANT-125
  1SEXTANT-35,1SEXTANT-235,1SEXTANT-1235,1SEXTANT-45,1SEXTANT-145,1SEXTANT-245,1SEXTANT-1245
  1SEXTANT-345,1SEXTANT-1345,1SEXTANT-2345,1SEXTANT-12345,1SEXTANT-6,1SEXTANT-16,1SEXTANT-26
  1SEXTANT-126,1SEXTANT-36,1SEXTANT-136,1SEXTANT-236,1SEXTANT-1236,1SEXTANT-46,1SEXTANT-146
  1SEXTANT-1246,1SEXTANT-346,1SEXTANT-1346,1SEXTANT-2346,1SEXTANT-12346,1SEXTANT-56,1SEXTANT-156
  1SEXTANT-256,1SEXTANT-1256,1SEXTANT-356,1SEXTANT-1356,1SEXTANT-2356,1SEXTANT-12356,1SEXTANT-456
  1SEXTANT-1456,1SEXTANT-2456,1SEXTANT-12456,1SEXTANT-3456,1SEXTANT-13456,1SEXTANT-23456
  LOWER LEFT BLOCK DIAGONAL LOWER MIDDLE LEFT TO LOWER CENTRE,9RIGHT
  4UPPER MIDDLE LEFT TO LOWER CENTRE,9RIGHT,5LEFT TO LOWER CENTRE
  1RIGHT BLOCK DIAGONAL UPPER MIDDLE LEFT TO UPPER*1,9RIGHT,4LOWER MIDDLE LEFT TO UPPER CENTRE
  9RIGHT,5LEFT TO UPPER CENTRE,5MIDDLE LEFT TO UPPER MIDDLE RIGHT,5CENTRE TO LOWER*2,5LEFT*4
  5CENTRE TO UPPER*2,5LEFT*4,5CENTRE TO UPPER*1,1LEFT BLOCK DIAGONAL UPPER CENTRE TO UPPER MIDDLE*1
  5LEFT*4,5CENTRE TO LOWER*2,5LEFT*4,5CENTRE TO LOWER*1,5MIDDLE LEFT TO LOWER MIDDLE*1
  UPPER RIGHT BLOCK DIAGONAL LOWER MIDDLE LEFT TO LOWER CENTRE,9RIGHT
  4UPPER MIDDLE LEFT TO LOWER CENTRE,9RIGHT,5LEFT TO LOWER CENTRE
  1LEFT BLOCK DIAGONAL UPPER MIDDLE LEFT TO UPPER*1,9RIGHT,4LOWER MIDDLE LEFT TO UPPER CENTRE
  9RIGHT,5LEFT TO UPPER CENTRE,5MIDDLE LEFT TO UPPER MIDDLE RIGHT,5CENTRE TO LOWER*2,5LEFT*4
  5CENTRE TO UPPER*2,5LEFT*4,5CENTRE TO UPPER*1
  1RIGHT BLOCK DIAGONAL UPPER CENTRE TO UPPER MIDDLE*1,5LEFT*4,5CENTRE TO LOWER*2,5LEFT*4
  5CENTRE TO LOWER*1,5MIDDLE LEFT TO LOWER MIDDLE*1
  1AND RIGHT AND LOWER TRIANGULAR THREE QUARTERS BLOCK,LEFT AND LOWER AND RIGHT*4
  UPPER AND LEFT AND LOWER*4,LEFT AND UPPER AND RIGHT*4,1TRIANGULAR ONE QUARTER*1,UPPER*4,RIGHT*4
  LOWER*4,VERTICAL ONE EIGHTH BLOCK-2,+,+,+,+,+,HORIZONTAL ONE EIGHTH BLOCK-2,+,+,+,+,+
  LEFT AND LOWER ONE EIGHTH BLOCK,2UPPER*3,RIGHT*5,2LOWER*3,UPPER*5
  HORIZONTAL ONE EIGHTH BLOCK-1358,UPPER ONE QUARTER BLOCK,1THREE EIGHTHS*1,1FIVE*2
  1THREE QUARTERS*1,1SEVEN EIGHTHS*1,RIGHT ONE QUARTER*1,1THREE EIGHTHS*1,1FIVE*2,1THREE QUARTERS*1
  1SEVEN EIGHTHS*1,LEFT HALF MEDIUM SHADE,RIGHT*3,UPPER*3,LOWER*3,INVERSE*2
  UPPER HALF BLOCK AND LOWER HALF*3,2INVERSE MEDIUM SHADE AND LOWER HALF BLOCK
  @1FB94 LEFT HALF INVERSE MEDIUM SHADE AND RIGHT*2,CHECKER BOARD FILL,INVERSE*3,HEAVY HORIZONTAL*1
  UPPER LEFT TO LOWER RIGHT*1,1RIGHT TO LOWER LEFT*1,1AND LOWER TRIANGULAR HALF BLOCK
  LEFT AND RIGHT*3,UPPER LEFT TRIANGULAR MEDIUM SHADE,1RIGHT*3,LOWER*4,1LEFT*3
  BOX DRAWINGS LIGHT DIAGONAL UPPER CENTRE TO MIDDLE LEFT,8RIGHT,4MIDDLE LEFT TO LOWER CENTRE
  5RIGHT*3,4UPPER CENTRE TO MIDDLE LEFT*3,8RIGHT*3,4MIDDLE LEFT TO LOWER CENTRE TO MIDDLE RIGHT
  7UPPER*4,4UPPER CENTRE TO MIDDLE LEFT AND MIDDLE RIGHT TO LOWER CENTRE,8RIGHT AND MIDDLE LEFT*3
  9TO LOWER CENTRE TO MIDDLE LEFT,8LEFT TO LOWER CENTRE TO MIDDLE RIGHT
  4MIDDLE LEFT TO UPPER CENTRE TO MIDDLE RIGHT TO LOWER CENTRE
  5RIGHT TO UPPER CENTRE TO MIDDLE LEFT*3,4DIAMOND,3HORIZONTAL WITH VERTICAL STROKE
  ARROWHEAD-SHAPED POINTER,INVERSE CHECK MARK,LEFT HALF RUNNING MAN,RIGHT*3
  INVERSE DOWNWARDS ARROW WITH TIP LEFTWARDS,LEFTWARDS ARROW AND UPPER AND LOWER ONE EIGHTH BLOCK
  RIGHTWARDS*8,DOWNWARDS ARROW AND RIGHT*3,UPWARDS*6,LEFT HALF FOLDER,RIGHT*2,VOIDED GREEK CROSS
  RIGHT OPEN SQUARED DOT,NEGATIVE DIAGONAL CROSS,2MIDDLE RIGHT TO LOWER CENTRE,2DIAMOND
  WHITE HEAVY SALTIRE WITH ROUNDED CORNERS,LEFT THIRD WHITE RIGHT POINTING INDEX,MIDDLE*5,RIGHT*5
  NEGATIVE SQUARED QUESTION MARK,STICK FIGURE,2WITH ARMS RAISED,2LEANING LEFT,3RIGHT,2WITH DRESS
  WHITE UP-POINTING CHEVRON,@1FBF0 SEGMENTED DIGIT ZERO,2ONE,2TWO,2THREE,2FOUR,2FIVE,2SIX,2SEVEN
  2EIGHT,2NINE,@E0001 LANGUAGE TAG,@E0020 TAG SPACE,1EXCLAMATION MARK,1QUOTATION*1,1NUMBER SIGN
  1DOLLAR*1,1PERCENT*1,1AMPERSAND,1APOSTROPHE,1LEFT PARENTHESIS,1RIGHT*1,1ASTERISK,1PLUS SIGN
  1COMMA,1HYPHEN-MINUS,1FULL STOP,1SOLIDUS,1DIGIT ZERO,2ONE,2TWO,2THREE,2FOUR,2FIVE,2SIX,2SEVEN
  2EIGHT,2NINE,1COLON,1SEMICOLON,1LESS-THAN SIGN,1EQUALS*1,1GREATER-THAN*1,1QUESTION MARK
  1COMMERCIAL AT,1LATIN CAPITAL LETTER A,4B,4C,4D,4E,4F,4G,4H,4I,4J,4K,4L,4M,4N,4O,4P,4Q,4R,4S,4T
  4U,4V,4W,4X,4Y,4Z,1LEFT SQUARE BRACKET,1REVERSE SOLIDUS,1RIGHT SQUARE BRACKET,1CIRCUMFLEX ACCENT
  1LOW LINE,1GRAVE ACCENT,1LATIN SMALL LETTER A,4B,4C,4D,4E,4F,4G,4H,4I,4J,4K,4L,4M,4N,4O,4P,4Q,4R
  4S,4T,4U,4V,4W,4X,4Y,4Z,1LEFT CURLY BRACKET,1VERTICAL LINE,1RIGHT CURLY BRACKET,1TILDE,CANCEL TAG
  @E0100 VARIATION SELECTOR-17,+,+,+,+,+,+,+,+,+,+,+,+,+,+,+,+,+,+,+,+,+,+,+,+,+,+,+,+,+,+,+,+,+,+
  +,+,+,+,+,+,+,+,+,+,+,+,+,+,+,+,+,+,+,+,+,+,+,+,+,+,+,+,+,+,+,+,+,+,+,+,+,+,+,+,+,+,+,+,+,+,+,+,+
  +,+,+,+,+,+,+,+,+,+,+,+,+,+,+,+,+,+,+,+,+,+,+,+,+,+,+,+,+,+,+,+,+,+,+,+,+,+,+,+,+,+,+,+,+,+,+,+,+
  +,+,+,+,+,+,+,+,+,+,+,+,+,+,+,+,+,+,+,+,+,+,+,+,+,+,+,+,+,+,+,+,+,+,+,+,+,+,+,+,+,+,+,+,+,+,+,+,+
  +,+,+,+,+,+,+,+,+,+,+,+,+,+,+,+,+,+,+,+,+,+,+,+,+,+,+,+,+,+,+,+,+,+,+,+,+,+,+,+,+,+,+,+,+,+,+,+,+
  +,+,+,+,+,+,+,+,+"

end Findings.Text.CharName
