/-!
# Names of characters of two bytes

The names of the characters up to code point 65535, except those that a rule gives.  A run of
characters without gaps is told by its first code point and by one item for each of them, between
commas: a digit for the number of words that the name shares with the name before it in the run, and
the rest of the name.  A blank or a hyphen ends a word.  Line breaks and blanks before an item count
for nothing.
-/

namespace BooleanSearch.Text

/-- The runs of named characters up to code point 65535. -/
def basicNameRuns : Array (Nat × String) :=
  #[
    (32, "0SPACE,0EXCLAMATION MARK,0QUOTATION MARK,0NUMBER SIGN,0DOLLAR SIGN,0PERCENT SIGN,
      0AMPERSAND,0APOSTROPHE,0LEFT PARENTHESIS,0RIGHT PARENTHESIS,0ASTERISK,0PLUS SIGN,0COMMA,
      0HYPHEN-MINUS,0FULL STOP,0SOLIDUS,0DIGIT ZERO,1ONE,1TWO,1THREE,1FOUR,1FIVE,1SIX,1SEVEN,
      1EIGHT,1NINE,0COLON,0SEMICOLON,0LESS-THAN SIGN,0EQUALS SIGN,0GREATER-THAN SIGN,
      0QUESTION MARK,0COMMERCIAL AT,0LATIN CAPITAL LETTER A,3B,3C,3D,3E,3F,3G,3H,3I,3J,3K,3L,3M,3N,
      3O,3P,3Q,3R,3S,3T,3U,3V,3W,3X,3Y,3Z,0LEFT SQUARE BRACKET,0REVERSE SOLIDUS,
      0RIGHT SQUARE BRACKET,0CIRCUMFLEX ACCENT,0LOW LINE,0GRAVE ACCENT,0LATIN SMALL LETTER A,3B,3C,
      3D,3E,3F,3G,3H,3I,3J,3K,3L,3M,3N,3O,3P,3Q,3R,3S,3T,3U,3V,3W,3X,3Y,3Z,0LEFT CURLY BRACKET,
      0VERTICAL LINE,0RIGHT CURLY BRACKET,0TILDE"),
    (160, "0NO-BREAK SPACE,0INVERTED EXCLAMATION MARK,0CENT SIGN,0POUND SIGN,0CURRENCY SIGN,
      0YEN SIGN,0BROKEN BAR,0SECTION SIGN,0DIAERESIS,0COPYRIGHT SIGN,0FEMININE ORDINAL INDICATOR,
      0LEFT-POINTING DOUBLE ANGLE QUOTATION MARK,0NOT SIGN,0SOFT HYPHEN,0REGISTERED SIGN,0MACRON,
      0DEGREE SIGN,0PLUS-MINUS SIGN,0SUPERSCRIPT TWO,1THREE,0ACUTE ACCENT,0MICRO SIGN,
      0PILCROW SIGN,0MIDDLE DOT,0CEDILLA,0SUPERSCRIPT ONE,0MASCULINE ORDINAL INDICATOR,
      0RIGHT-POINTING DOUBLE ANGLE QUOTATION MARK,0VULGAR FRACTION ONE QUARTER,3HALF,
      2THREE QUARTERS,0INVERTED QUESTION MARK,0LATIN CAPITAL LETTER A WITH GRAVE,5ACUTE,
      5CIRCUMFLEX,5TILDE,5DIAERESIS,5RING ABOVE,3AE,3C WITH CEDILLA,3E WITH GRAVE,5ACUTE,
      5CIRCUMFLEX,5DIAERESIS,3I WITH GRAVE,5ACUTE,5CIRCUMFLEX,5DIAERESIS,3ETH,3N WITH TILDE,
      3O WITH GRAVE,5ACUTE,5CIRCUMFLEX,5TILDE,5DIAERESIS,0MULTIPLICATION SIGN,
      0LATIN CAPITAL LETTER O WITH STROKE,3U WITH GRAVE,5ACUTE,5CIRCUMFLEX,5DIAERESIS,
      3Y WITH ACUTE,3THORN,1SMALL LETTER SHARP S,3A WITH GRAVE,5ACUTE,5CIRCUMFLEX,5TILDE,
      5DIAERESIS,5RING ABOVE,3AE,3C WITH CEDILLA,3E WITH GRAVE,5ACUTE,5CIRCUMFLEX,5DIAERESIS,
      3I WITH GRAVE,5ACUTE,5CIRCUMFLEX,5DIAERESIS,3ETH,3N WITH TILDE,3O WITH GRAVE,5ACUTE,
      5CIRCUMFLEX,5TILDE,5DIAERESIS,0DIVISION SIGN,0LATIN SMALL LETTER O WITH STROKE,3U WITH GRAVE,
      5ACUTE,5CIRCUMFLEX,5DIAERESIS,3Y WITH ACUTE,3THORN,3Y WITH DIAERESIS,
      1CAPITAL LETTER A WITH MACRON,1SMALL LETTER A WITH MACRON,1CAPITAL LETTER A WITH BREVE,
      1SMALL LETTER A WITH BREVE,1CAPITAL LETTER A WITH OGONEK,1SMALL LETTER A WITH OGONEK,
      1CAPITAL LETTER C WITH ACUTE,1SMALL LETTER C WITH ACUTE,1CAPITAL LETTER C WITH CIRCUMFLEX,
      1SMALL LETTER C WITH CIRCUMFLEX,1CAPITAL LETTER C WITH DOT ABOVE,
      1SMALL LETTER C WITH DOT ABOVE,1CAPITAL LETTER C WITH CARON,1SMALL LETTER C WITH CARON,
      1CAPITAL LETTER D WITH CARON,1SMALL LETTER D WITH CARON,1CAPITAL LETTER D WITH STROKE,
      1SMALL LETTER D WITH STROKE,1CAPITAL LETTER E WITH MACRON,1SMALL LETTER E WITH MACRON,
      1CAPITAL LETTER E WITH BREVE,1SMALL LETTER E WITH BREVE,1CAPITAL LETTER E WITH DOT ABOVE,
      1SMALL LETTER E WITH DOT ABOVE,1CAPITAL LETTER E WITH OGONEK,1SMALL LETTER E WITH OGONEK,
      1CAPITAL LETTER E WITH CARON,1SMALL LETTER E WITH CARON,1CAPITAL LETTER G WITH CIRCUMFLEX,
      1SMALL LETTER G WITH CIRCUMFLEX,1CAPITAL LETTER G WITH BREVE,1SMALL LETTER G WITH BREVE,
      1CAPITAL LETTER G WITH DOT ABOVE,1SMALL LETTER G WITH DOT ABOVE,
      1CAPITAL LETTER G WITH CEDILLA,1SMALL LETTER G WITH CEDILLA,
      1CAPITAL LETTER H WITH CIRCUMFLEX,1SMALL LETTER H WITH CIRCUMFLEX,
      1CAPITAL LETTER H WITH STROKE,1SMALL LETTER H WITH STROKE,1CAPITAL LETTER I WITH TILDE,
      1SMALL LETTER I WITH TILDE,1CAPITAL LETTER I WITH MACRON,1SMALL LETTER I WITH MACRON,
      1CAPITAL LETTER I WITH BREVE,1SMALL LETTER I WITH BREVE,1CAPITAL LETTER I WITH OGONEK,
      1SMALL LETTER I WITH OGONEK,1CAPITAL LETTER I WITH DOT ABOVE,1SMALL LETTER DOTLESS I,
      1CAPITAL LIGATURE IJ,1SMALL LIGATURE IJ,1CAPITAL LETTER J WITH CIRCUMFLEX,
      1SMALL LETTER J WITH CIRCUMFLEX,1CAPITAL LETTER K WITH CEDILLA,1SMALL LETTER K WITH CEDILLA,
      3KRA,1CAPITAL LETTER L WITH ACUTE,1SMALL LETTER L WITH ACUTE,1CAPITAL LETTER L WITH CEDILLA,
      1SMALL LETTER L WITH CEDILLA,1CAPITAL LETTER L WITH CARON,1SMALL LETTER L WITH CARON,
      1CAPITAL LETTER L WITH MIDDLE DOT,1SMALL LETTER L WITH MIDDLE DOT,
      1CAPITAL LETTER L WITH STROKE,1SMALL LETTER L WITH STROKE,1CAPITAL LETTER N WITH ACUTE,
      1SMALL LETTER N WITH ACUTE,1CAPITAL LETTER N WITH CEDILLA,1SMALL LETTER N WITH CEDILLA,
      1CAPITAL LETTER N WITH CARON,1SMALL LETTER N WITH CARON,4PRECEDED BY APOSTROPHE,
      1CAPITAL LETTER ENG,1SMALL LETTER ENG,1CAPITAL LETTER O WITH MACRON,
      1SMALL LETTER O WITH MACRON,1CAPITAL LETTER O WITH BREVE,1SMALL LETTER O WITH BREVE,
      1CAPITAL LETTER O WITH DOUBLE ACUTE,1SMALL LETTER O WITH DOUBLE ACUTE,1CAPITAL LIGATURE OE,
      1SMALL LIGATURE OE,1CAPITAL LETTER R WITH ACUTE,1SMALL LETTER R WITH ACUTE,
      1CAPITAL LETTER R WITH CEDILLA,1SMALL LETTER R WITH CEDILLA,1CAPITAL LETTER R WITH CARON,
      1SMALL LETTER R WITH CARON,1CAPITAL LETTER S WITH ACUTE,1SMALL LETTER S WITH ACUTE,
      1CAPITAL LETTER S WITH CIRCUMFLEX,1SMALL LETTER S WITH CIRCUMFLEX,
      1CAPITAL LETTER S WITH CEDILLA,1SMALL LETTER S WITH CEDILLA,1CAPITAL LETTER S WITH CARON,
      1SMALL LETTER S WITH CARON,1CAPITAL LETTER T WITH CEDILLA,1SMALL LETTER T WITH CEDILLA,
      1CAPITAL LETTER T WITH CARON,1SMALL LETTER T WITH CARON,1CAPITAL LETTER T WITH STROKE,
      1SMALL LETTER T WITH STROKE,1CAPITAL LETTER U WITH TILDE,1SMALL LETTER U WITH TILDE,
      1CAPITAL LETTER U WITH MACRON,1SMALL LETTER U WITH MACRON,1CAPITAL LETTER U WITH BREVE,
      1SMALL LETTER U WITH BREVE,1CAPITAL LETTER U WITH RING ABOVE,1SMALL LETTER U WITH RING ABOVE,
      1CAPITAL LETTER U WITH DOUBLE ACUTE,1SMALL LETTER U WITH DOUBLE ACUTE,
      1CAPITAL LETTER U WITH OGONEK,1SMALL LETTER U WITH OGONEK,1CAPITAL LETTER W WITH CIRCUMFLEX,
      1SMALL LETTER W WITH CIRCUMFLEX,1CAPITAL LETTER Y WITH CIRCUMFLEX,
      1SMALL LETTER Y WITH CIRCUMFLEX,1CAPITAL LETTER Y WITH DIAERESIS,3Z WITH ACUTE,
      1SMALL LETTER Z WITH ACUTE,1CAPITAL LETTER Z WITH DOT ABOVE,1SMALL LETTER Z WITH DOT ABOVE,
      1CAPITAL LETTER Z WITH CARON,1SMALL LETTER Z WITH CARON,3LONG S,3B WITH STROKE,
      1CAPITAL LETTER B WITH HOOK,5TOPBAR,1SMALL LETTER B WITH TOPBAR,1CAPITAL LETTER TONE SIX,
      1SMALL LETTER TONE SIX,1CAPITAL LETTER OPEN O,3C WITH HOOK,1SMALL LETTER C WITH HOOK,
      1CAPITAL LETTER AFRICAN D,3D WITH HOOK,5TOPBAR,1SMALL LETTER D WITH TOPBAR,3TURNED DELTA,
      1CAPITAL LETTER REVERSED E,3SCHWA,3OPEN E,3F WITH HOOK,1SMALL LETTER F WITH HOOK,
      1CAPITAL LETTER G WITH HOOK,3GAMMA,1SMALL LETTER HV,1CAPITAL LETTER IOTA,3I WITH STROKE,
      3K WITH HOOK,1SMALL LETTER K WITH HOOK,3L WITH BAR,3LAMBDA WITH STROKE,
      1CAPITAL LETTER TURNED M,3N WITH LEFT HOOK,1SMALL LETTER N WITH LONG RIGHT LEG,
      1CAPITAL LETTER O WITH MIDDLE TILDE,5HORN,1SMALL LETTER O WITH HORN,1CAPITAL LETTER OI,
      1SMALL LETTER OI,1CAPITAL LETTER P WITH HOOK,1SMALL LETTER P WITH HOOK,1LETTER YR,
      1CAPITAL LETTER TONE TWO,1SMALL LETTER TONE TWO,1CAPITAL LETTER ESH,
      1LETTER REVERSED ESH LOOP,1SMALL LETTER T WITH PALATAL HOOK,1CAPITAL LETTER T WITH HOOK,
      1SMALL LETTER T WITH HOOK,1CAPITAL LETTER T WITH RETROFLEX HOOK,3U WITH HORN,
      1SMALL LETTER U WITH HORN,1CAPITAL LETTER UPSILON,3V WITH HOOK,3Y WITH HOOK,
      1SMALL LETTER Y WITH HOOK,1CAPITAL LETTER Z WITH STROKE,1SMALL LETTER Z WITH STROKE,
      1CAPITAL LETTER EZH,3EZH REVERSED,1SMALL LETTER EZH REVERSED,4WITH TAIL,
      1LETTER TWO WITH STROKE,1CAPITAL LETTER TONE FIVE,1SMALL LETTER TONE FIVE,
      1LETTER INVERTED GLOTTAL STOP WITH STROKE,2WYNN,2DENTAL CLICK,2LATERAL CLICK,2ALVEOLAR CLICK,
      2RETROFLEX CLICK,1CAPITAL LETTER DZ WITH CARON,3D WITH SMALL LETTER Z WITH CARON,
      1SMALL LETTER DZ WITH CARON,1CAPITAL LETTER LJ,3L WITH SMALL LETTER J,1SMALL LETTER LJ,
      1CAPITAL LETTER NJ,3N WITH SMALL LETTER J,1SMALL LETTER NJ,1CAPITAL LETTER A WITH CARON,
      1SMALL LETTER A WITH CARON,1CAPITAL LETTER I WITH CARON,1SMALL LETTER I WITH CARON,
      1CAPITAL LETTER O WITH CARON,1SMALL LETTER O WITH CARON,1CAPITAL LETTER U WITH CARON,
      1SMALL LETTER U WITH CARON,1CAPITAL LETTER U WITH DIAERESIS AND MACRON,
      1SMALL LETTER U WITH DIAERESIS AND MACRON,1CAPITAL LETTER U WITH DIAERESIS AND ACUTE,
      1SMALL LETTER U WITH DIAERESIS AND ACUTE,1CAPITAL LETTER U WITH DIAERESIS AND CARON,
      1SMALL LETTER U WITH DIAERESIS AND CARON,1CAPITAL LETTER U WITH DIAERESIS AND GRAVE,
      1SMALL LETTER U WITH DIAERESIS AND GRAVE,3TURNED E,
      1CAPITAL LETTER A WITH DIAERESIS AND MACRON,1SMALL LETTER A WITH DIAERESIS AND MACRON,
      1CAPITAL LETTER A WITH DOT ABOVE AND MACRON,1SMALL LETTER A WITH DOT ABOVE AND MACRON,
      1CAPITAL LETTER AE WITH MACRON,1SMALL LETTER AE WITH MACRON,1CAPITAL LETTER G WITH STROKE,
      1SMALL LETTER G WITH STROKE,1CAPITAL LETTER G WITH CARON,1SMALL LETTER G WITH CARON,
      1CAPITAL LETTER K WITH CARON,1SMALL LETTER K WITH CARON,1CAPITAL LETTER O WITH OGONEK,
      1SMALL LETTER O WITH OGONEK,1CAPITAL LETTER O WITH OGONEK AND MACRON,
      1SMALL LETTER O WITH OGONEK AND MACRON,1CAPITAL LETTER EZH WITH CARON,
      1SMALL LETTER EZH WITH CARON,3J WITH CARON,1CAPITAL LETTER DZ,3D WITH SMALL LETTER Z,
      1SMALL LETTER DZ,1CAPITAL LETTER G WITH ACUTE,1SMALL LETTER G WITH ACUTE,
      1CAPITAL LETTER HWAIR,3WYNN,3N WITH GRAVE,1SMALL LETTER N WITH GRAVE,
      1CAPITAL LETTER A WITH RING ABOVE AND ACUTE,1SMALL LETTER A WITH RING ABOVE AND ACUTE,
      1CAPITAL LETTER AE WITH ACUTE,1SMALL LETTER AE WITH ACUTE,
      1CAPITAL LETTER O WITH STROKE AND ACUTE,1SMALL LETTER O WITH STROKE AND ACUTE,
      1CAPITAL LETTER A WITH DOUBLE GRAVE,1SMALL LETTER A WITH DOUBLE GRAVE,
      1CAPITAL LETTER A WITH INVERTED BREVE,1SMALL LETTER A WITH INVERTED BREVE,
      1CAPITAL LETTER E WITH DOUBLE GRAVE,1SMALL LETTER E WITH DOUBLE GRAVE,
      1CAPITAL LETTER E WITH INVERTED BREVE,1SMALL LETTER E WITH INVERTED BREVE,
      1CAPITAL LETTER I WITH DOUBLE GRAVE,1SMALL LETTER I WITH DOUBLE GRAVE,
      1CAPITAL LETTER I WITH INVERTED BREVE,1SMALL LETTER I WITH INVERTED BREVE,
      1CAPITAL LETTER O WITH DOUBLE GRAVE,1SMALL LETTER O WITH DOUBLE GRAVE,
      1CAPITAL LETTER O WITH INVERTED BREVE,1SMALL LETTER O WITH INVERTED BREVE,
      1CAPITAL LETTER R WITH DOUBLE GRAVE,1SMALL LETTER R WITH DOUBLE GRAVE,
      1CAPITAL LETTER R WITH INVERTED BREVE,1SMALL LETTER R WITH INVERTED BREVE,
      1CAPITAL LETTER U WITH DOUBLE GRAVE,1SMALL LETTER U WITH DOUBLE GRAVE,
      1CAPITAL LETTER U WITH INVERTED BREVE,1SMALL LETTER U WITH INVERTED BREVE,
      1CAPITAL LETTER S WITH COMMA BELOW,1SMALL LETTER S WITH COMMA BELOW,
      1CAPITAL LETTER T WITH COMMA BELOW,1SMALL LETTER T WITH COMMA BELOW,1CAPITAL LETTER YOGH,
      1SMALL LETTER YOGH,1CAPITAL LETTER H WITH CARON,1SMALL LETTER H WITH CARON,
      1CAPITAL LETTER N WITH LONG RIGHT LEG,1SMALL LETTER D WITH CURL,1CAPITAL LETTER OU,
      1SMALL LETTER OU,1CAPITAL LETTER Z WITH HOOK,1SMALL LETTER Z WITH HOOK,
      1CAPITAL LETTER A WITH DOT ABOVE,1SMALL LETTER A WITH DOT ABOVE,
      1CAPITAL LETTER E WITH CEDILLA,1SMALL LETTER E WITH CEDILLA,
      1CAPITAL LETTER O WITH DIAERESIS AND MACRON,1SMALL LETTER O WITH DIAERESIS AND MACRON,
      1CAPITAL LETTER O WITH TILDE AND MACRON,1SMALL LETTER O WITH TILDE AND MACRON,
      1CAPITAL LETTER O WITH DOT ABOVE,1SMALL LETTER O WITH DOT ABOVE,
      1CAPITAL LETTER O WITH DOT ABOVE AND MACRON,1SMALL LETTER O WITH DOT ABOVE AND MACRON,
      1CAPITAL LETTER Y WITH MACRON,1SMALL LETTER Y WITH MACRON,3L WITH CURL,3N WITH CURL,
      3T WITH CURL,3DOTLESS J,3DB DIGRAPH,3QP DIGRAPH,1CAPITAL LETTER A WITH STROKE,3C WITH STROKE,
      1SMALL LETTER C WITH STROKE,1CAPITAL LETTER L WITH BAR,3T WITH DIAGONAL STROKE,
      1SMALL LETTER S WITH SWASH TAIL,3Z WITH SWASH TAIL,1CAPITAL LETTER GLOTTAL STOP,
      1SMALL LETTER GLOTTAL STOP,1CAPITAL LETTER B WITH STROKE,3U BAR,3TURNED V,3E WITH STROKE,
      1SMALL LETTER E WITH STROKE,1CAPITAL LETTER J WITH STROKE,1SMALL LETTER J WITH STROKE,
      1CAPITAL LETTER SMALL Q WITH HOOK TAIL,1SMALL LETTER Q WITH HOOK TAIL,
      1CAPITAL LETTER R WITH STROKE,1SMALL LETTER R WITH STROKE,1CAPITAL LETTER Y WITH STROKE,
      1SMALL LETTER Y WITH STROKE,3TURNED A,3ALPHA,3TURNED ALPHA,3B WITH HOOK,3OPEN O,3C WITH CURL,
      3D WITH TAIL,5HOOK,3REVERSED E,3SCHWA,3SCHWA WITH HOOK,3OPEN E,3REVERSED OPEN E,5E WITH HOOK,
      3CLOSED REVERSED OPEN E,3DOTLESS J WITH STROKE,3G WITH HOOK,3SCRIPT G,
      1LETTER SMALL CAPITAL G,1SMALL LETTER GAMMA,3RAMS HORN,3TURNED H,3H WITH HOOK,
      3HENG WITH HOOK,3I WITH STROKE,3IOTA,1LETTER SMALL CAPITAL I,
      1SMALL LETTER L WITH MIDDLE TILDE,5BELT,5RETROFLEX HOOK,3LEZH,3TURNED M,4M WITH LONG LEG,
      3M WITH HOOK,3N WITH LEFT HOOK,5RETROFLEX HOOK,1LETTER SMALL CAPITAL N,
      1SMALL LETTER BARRED O,1LETTER SMALL CAPITAL OE,1SMALL LETTER CLOSED OMEGA,3PHI,3TURNED R,
      4R WITH LONG LEG,6HOOK,3R WITH LONG LEG,5TAIL,5FISHHOOK,3REVERSED R WITH FISHHOOK,
      1LETTER SMALL CAPITAL R,4INVERTED R,1SMALL LETTER S WITH HOOK,3ESH,
      3DOTLESS J WITH STROKE AND HOOK,3SQUAT REVERSED ESH,3ESH WITH CURL,3TURNED T,
      3T WITH RETROFLEX HOOK,3U BAR,3UPSILON,3V WITH HOOK,3TURNED V,4W,4Y,1LETTER SMALL CAPITAL Y,
      1SMALL LETTER Z WITH RETROFLEX HOOK,5CURL,3EZH,3EZH WITH CURL,1LETTER GLOTTAL STOP,
      2PHARYNGEAL VOICED FRICATIVE,2INVERTED GLOTTAL STOP,2STRETCHED C,2BILABIAL CLICK,
      2SMALL CAPITAL B,1SMALL LETTER CLOSED OPEN E,1LETTER SMALL CAPITAL G WITH HOOK,4H,
      1SMALL LETTER J WITH CROSSED-TAIL,3TURNED K,1LETTER SMALL CAPITAL L,
      1SMALL LETTER Q WITH HOOK,1LETTER GLOTTAL STOP WITH STROKE,
      2REVERSED GLOTTAL STOP WITH STROKE,1SMALL LETTER DZ DIGRAPH,3DEZH DIGRAPH,
      3DZ DIGRAPH WITH CURL,3TS DIGRAPH,3TESH DIGRAPH,3TC DIGRAPH WITH CURL,3FENG DIGRAPH,
      3LS DIGRAPH,3LZ DIGRAPH,1LETTER BILABIAL PERCUSSIVE,2BIDENTAL PERCUSSIVE,
      1SMALL LETTER TURNED H WITH FISHHOOK,6FISHHOOK AND TAIL,0MODIFIER LETTER SMALL H,
      3H WITH HOOK,3J,3R,3TURNED R,4R WITH HOOK,3CAPITAL INVERTED R,3W,3Y,2PRIME,2DOUBLE PRIME,
      2TURNED COMMA,2APOSTROPHE,2REVERSED COMMA,2RIGHT HALF RING,2LEFT HALF RING,2GLOTTAL STOP,
      2REVERSED GLOTTAL STOP,2LEFT ARROWHEAD,2RIGHT ARROWHEAD,2UP ARROWHEAD,2DOWN ARROWHEAD,
      2CIRCUMFLEX ACCENT,0CARON,0MODIFIER LETTER VERTICAL LINE,2MACRON,2ACUTE ACCENT,2GRAVE ACCENT,
      2LOW VERTICAL LINE,3MACRON,3GRAVE ACCENT,3ACUTE ACCENT,2TRIANGULAR COLON,
      2HALF TRIANGULAR COLON,2CENTRED RIGHT HALF RING,3LEFT HALF RING,2UP TACK,2DOWN TACK,
      2PLUS SIGN,2MINUS SIGN,0BREVE,0DOT ABOVE,0RING ABOVE,0OGONEK,0SMALL TILDE,
      0DOUBLE ACUTE ACCENT,0MODIFIER LETTER RHOTIC HOOK,2CROSS ACCENT,2SMALL GAMMA,3L,3S,3X,
      3REVERSED GLOTTAL STOP,2EXTRA-HIGH TONE BAR,2HIGH TONE BAR,2MID TONE BAR,2LOW TONE BAR,
      2EXTRA-LOW TONE BAR,2YIN DEPARTING TONE MARK,2YANG DEPARTING TONE MARK,2VOICING,2UNASPIRATED,
      2DOUBLE APOSTROPHE,2LOW DOWN ARROWHEAD,3UP ARROWHEAD,3LEFT ARROWHEAD,3RIGHT ARROWHEAD,3RING,
      2MIDDLE GRAVE ACCENT,3DOUBLE GRAVE ACCENT,4ACUTE ACCENT,2LOW TILDE,2RAISED COLON,
      2BEGIN HIGH TONE,2END HIGH TONE,2BEGIN LOW TONE,2END LOW TONE,2SHELF,2OPEN SHELF,
      2LOW LEFT ARROW,0COMBINING GRAVE ACCENT,1ACUTE ACCENT,1CIRCUMFLEX ACCENT,1TILDE,1MACRON,
      1OVERLINE,1BREVE,1DOT ABOVE,1DIAERESIS,1HOOK ABOVE,1RING ABOVE,1DOUBLE ACUTE ACCENT,1CARON,
      1VERTICAL LINE ABOVE,1DOUBLE VERTICAL LINE ABOVE,2GRAVE ACCENT,1CANDRABINDU,1INVERTED BREVE,
      1TURNED COMMA ABOVE,1COMMA ABOVE,1REVERSED COMMA ABOVE,1COMMA ABOVE RIGHT,
      1GRAVE ACCENT BELOW,1ACUTE ACCENT BELOW,1LEFT TACK BELOW,1RIGHT TACK BELOW,1LEFT ANGLE ABOVE,
      1HORN,1LEFT HALF RING BELOW,1UP TACK BELOW,1DOWN TACK BELOW,1PLUS SIGN BELOW,
      1MINUS SIGN BELOW,1PALATALIZED HOOK BELOW,1RETROFLEX HOOK BELOW,1DOT BELOW,1DIAERESIS BELOW,
      1RING BELOW,1COMMA BELOW,1CEDILLA,1OGONEK,1VERTICAL LINE BELOW,1BRIDGE BELOW,
      1INVERTED DOUBLE ARCH BELOW,1CARON BELOW,1CIRCUMFLEX ACCENT BELOW,1BREVE BELOW,
      1INVERTED BREVE BELOW,1TILDE BELOW,1MACRON BELOW,1LOW LINE,1DOUBLE LOW LINE,1TILDE OVERLAY,
      1SHORT STROKE OVERLAY,1LONG STROKE OVERLAY,1SHORT SOLIDUS OVERLAY,1LONG SOLIDUS OVERLAY,
      1RIGHT HALF RING BELOW,1INVERTED BRIDGE BELOW,1SQUARE BELOW,1SEAGULL BELOW,1X ABOVE,
      1VERTICAL TILDE,1DOUBLE OVERLINE,1GRAVE TONE MARK,1ACUTE TONE MARK,1GREEK PERISPOMENI,
      2KORONIS,2DIALYTIKA TONOS,2YPOGEGRAMMENI,1BRIDGE ABOVE,1EQUALS SIGN BELOW,
      1DOUBLE VERTICAL LINE BELOW,1LEFT ANGLE BELOW,1NOT TILDE ABOVE,1HOMOTHETIC ABOVE,
      1ALMOST EQUAL TO ABOVE,1LEFT RIGHT ARROW BELOW,1UPWARDS ARROW BELOW,1GRAPHEME JOINER,
      1RIGHT ARROWHEAD ABOVE,1LEFT HALF RING ABOVE,1FERMATA,1X BELOW,1LEFT ARROWHEAD BELOW,
      1RIGHT ARROWHEAD BELOW,3AND UP ARROWHEAD BELOW,2HALF RING ABOVE,1DOT ABOVE RIGHT,
      1ASTERISK BELOW,1DOUBLE RING BELOW,1ZIGZAG ABOVE,1DOUBLE BREVE BELOW,2BREVE,2MACRON,
      2MACRON BELOW,2TILDE,2INVERTED BREVE,2RIGHTWARDS ARROW BELOW,1LATIN SMALL LETTER A,4E,4I,4O,
      4U,4C,4D,4H,4M,4R,4T,4V,4X,0GREEK CAPITAL LETTER HETA,1SMALL LETTER HETA,
      1CAPITAL LETTER ARCHAIC SAMPI,1SMALL LETTER ARCHAIC SAMPI,1NUMERAL SIGN,1LOWER NUMERAL SIGN,
      1CAPITAL LETTER PAMPHYLIAN DIGAMMA,1SMALL LETTER PAMPHYLIAN DIGAMMA"),
    (890, "0GREEK YPOGEGRAMMENI,1SMALL REVERSED LUNATE SIGMA SYMBOL,2DOTTED LUNATE SIGMA SYMBOL,
      2REVERSED DOTTED LUNATE SIGMA SYMBOL,1QUESTION MARK,1CAPITAL LETTER YOT"),
    (900, "0GREEK TONOS,1DIALYTIKA TONOS,1CAPITAL LETTER ALPHA WITH TONOS,1ANO TELEIA,
      1CAPITAL LETTER EPSILON WITH TONOS,3ETA WITH TONOS,3IOTA WITH TONOS"),
    (908, "0GREEK CAPITAL LETTER OMICRON WITH TONOS"),
    (910, "0GREEK CAPITAL LETTER UPSILON WITH TONOS,3OMEGA WITH TONOS,
      1SMALL LETTER IOTA WITH DIALYTIKA AND TONOS,1CAPITAL LETTER ALPHA,3BETA,3GAMMA,3DELTA,
      3EPSILON,3ZETA,3ETA,3THETA,3IOTA,3KAPPA,3LAMDA,3MU,3NU,3XI,3OMICRON,3PI,3RHO"),
    (931, "0GREEK CAPITAL LETTER SIGMA,3TAU,3UPSILON,3PHI,3CHI,3PSI,3OMEGA,3IOTA WITH DIALYTIKA,
      3UPSILON WITH DIALYTIKA,1SMALL LETTER ALPHA WITH TONOS,3EPSILON WITH TONOS,3ETA WITH TONOS,
      3IOTA WITH TONOS,3UPSILON WITH DIALYTIKA AND TONOS,3ALPHA,3BETA,3GAMMA,3DELTA,3EPSILON,3ZETA,
      3ETA,3THETA,3IOTA,3KAPPA,3LAMDA,3MU,3NU,3XI,3OMICRON,3PI,3RHO,3FINAL SIGMA,3SIGMA,3TAU,
      3UPSILON,3PHI,3CHI,3PSI,3OMEGA,3IOTA WITH DIALYTIKA,3UPSILON WITH DIALYTIKA,
      3OMICRON WITH TONOS,3UPSILON WITH TONOS,3OMEGA WITH TONOS,1CAPITAL KAI SYMBOL,1BETA SYMBOL,
      1THETA SYMBOL,1UPSILON WITH HOOK SYMBOL,3ACUTE AND HOOK SYMBOL,3DIAERESIS AND HOOK SYMBOL,
      1PHI SYMBOL,1PI SYMBOL,1KAI SYMBOL,1LETTER ARCHAIC KOPPA,1SMALL LETTER ARCHAIC KOPPA,
      1LETTER STIGMA,1SMALL LETTER STIGMA,1LETTER DIGAMMA,1SMALL LETTER DIGAMMA,1LETTER KOPPA,
      1SMALL LETTER KOPPA,1LETTER SAMPI,1SMALL LETTER SAMPI,0COPTIC CAPITAL LETTER SHEI,
      1SMALL LETTER SHEI,1CAPITAL LETTER FEI,1SMALL LETTER FEI,1CAPITAL LETTER KHEI,
      1SMALL LETTER KHEI,1CAPITAL LETTER HORI,1SMALL LETTER HORI,1CAPITAL LETTER GANGIA,
      1SMALL LETTER GANGIA,1CAPITAL LETTER SHIMA,1SMALL LETTER SHIMA,1CAPITAL LETTER DEI,
      1SMALL LETTER DEI,0GREEK KAPPA SYMBOL,1RHO SYMBOL,1LUNATE SIGMA SYMBOL,1LETTER YOT,
      1CAPITAL THETA SYMBOL,1LUNATE EPSILON SYMBOL,1REVERSED LUNATE EPSILON SYMBOL,
      1CAPITAL LETTER SHO,1SMALL LETTER SHO,1CAPITAL LUNATE SIGMA SYMBOL,2LETTER SAN,
      1SMALL LETTER SAN,1RHO WITH STROKE SYMBOL,1CAPITAL REVERSED LUNATE SIGMA SYMBOL,
      2DOTTED LUNATE SIGMA SYMBOL,2REVERSED DOTTED LUNATE SIGMA SYMBOL,
      0CYRILLIC CAPITAL LETTER IE WITH GRAVE,3IO,3DJE,3GJE,3UKRAINIAN IE,3DZE,
      3BYELORUSSIAN-UKRAINIAN I,3YI,3JE,3LJE,3NJE,3TSHE,3KJE,3I WITH GRAVE,3SHORT U,3DZHE,3A,3BE,
      3VE,3GHE,3DE,3IE,3ZHE,3ZE,3I,3SHORT I,3KA,3EL,3EM,3EN,3O,3PE,3ER,3ES,3TE,3U,3EF,3HA,3TSE,
      3CHE,3SHA,3SHCHA,3HARD SIGN,3YERU,3SOFT SIGN,3E,3YU,3YA,1SMALL LETTER A,3BE,3VE,3GHE,3DE,3IE,
      3ZHE,3ZE,3I,3SHORT I,3KA,3EL,3EM,3EN,3O,3PE,3ER,3ES,3TE,3U,3EF,3HA,3TSE,3CHE,3SHA,3SHCHA,
      3HARD SIGN,3YERU,3SOFT SIGN,3E,3YU,3YA,3IE WITH GRAVE,3IO,3DJE,3GJE,3UKRAINIAN IE,3DZE,
      3BYELORUSSIAN-UKRAINIAN I,3YI,3JE,3LJE,3NJE,3TSHE,3KJE,3I WITH GRAVE,3SHORT U,3DZHE,
      1CAPITAL LETTER OMEGA,1SMALL LETTER OMEGA,1CAPITAL LETTER YAT,1SMALL LETTER YAT,
      1CAPITAL LETTER IOTIFIED E,1SMALL LETTER IOTIFIED E,1CAPITAL LETTER LITTLE YUS,
      1SMALL LETTER LITTLE YUS,1CAPITAL LETTER IOTIFIED LITTLE YUS,
      1SMALL LETTER IOTIFIED LITTLE YUS,1CAPITAL LETTER BIG YUS,1SMALL LETTER BIG YUS,
      1CAPITAL LETTER IOTIFIED BIG YUS,1SMALL LETTER IOTIFIED BIG YUS,1CAPITAL LETTER KSI,
      1SMALL LETTER KSI,1CAPITAL LETTER PSI,1SMALL LETTER PSI,1CAPITAL LETTER FITA,
      1SMALL LETTER FITA,1CAPITAL LETTER IZHITSA,1SMALL LETTER IZHITSA,
      1CAPITAL LETTER IZHITSA WITH DOUBLE GRAVE ACCENT,
      1SMALL LETTER IZHITSA WITH DOUBLE GRAVE ACCENT,1CAPITAL LETTER UK,1SMALL LETTER UK,
      1CAPITAL LETTER ROUND OMEGA,1SMALL LETTER ROUND OMEGA,1CAPITAL LETTER OMEGA WITH TITLO,
      1SMALL LETTER OMEGA WITH TITLO,1CAPITAL LETTER OT,1SMALL LETTER OT,1CAPITAL LETTER KOPPA,
      1SMALL LETTER KOPPA,1THOUSANDS SIGN,0COMBINING CYRILLIC TITLO,2PALATALIZATION,
      2DASIA PNEUMATA,2PSILI PNEUMATA,2POKRYTIE,2HUNDRED THOUSANDS SIGN,2MILLIONS SIGN,
      0CYRILLIC CAPITAL LETTER SHORT I WITH TAIL,1SMALL LETTER SHORT I WITH TAIL,
      1CAPITAL LETTER SEMISOFT SIGN,1SMALL LETTER SEMISOFT SIGN,1CAPITAL LETTER ER WITH TICK,
      1SMALL LETTER ER WITH TICK,1CAPITAL LETTER GHE WITH UPTURN,1SMALL LETTER GHE WITH UPTURN,
      1CAPITAL LETTER GHE WITH STROKE,1SMALL LETTER GHE WITH STROKE,
      1CAPITAL LETTER GHE WITH MIDDLE HOOK,1SMALL LETTER GHE WITH MIDDLE HOOK,
      1CAPITAL LETTER ZHE WITH DESCENDER,1SMALL LETTER ZHE WITH DESCENDER,
      1CAPITAL LETTER ZE WITH DESCENDER,1SMALL LETTER ZE WITH DESCENDER,
      1CAPITAL LETTER KA WITH DESCENDER,1SMALL LETTER KA WITH DESCENDER,
      1CAPITAL LETTER KA WITH VERTICAL STROKE,1SMALL LETTER KA WITH VERTICAL STROKE,
      1CAPITAL LETTER KA WITH STROKE,1SMALL LETTER KA WITH STROKE,1CAPITAL LETTER BASHKIR KA,
      1SMALL LETTER BASHKIR KA,1CAPITAL LETTER EN WITH DESCENDER,1SMALL LETTER EN WITH DESCENDER,
      1CAPITAL LIGATURE EN GHE,1SMALL LIGATURE EN GHE,1CAPITAL LETTER PE WITH MIDDLE HOOK,
      1SMALL LETTER PE WITH MIDDLE HOOK,1CAPITAL LETTER ABKHASIAN HA,1SMALL LETTER ABKHASIAN HA,
      1CAPITAL LETTER ES WITH DESCENDER,1SMALL LETTER ES WITH DESCENDER,
      1CAPITAL LETTER TE WITH DESCENDER,1SMALL LETTER TE WITH DESCENDER,1CAPITAL LETTER STRAIGHT U,
      1SMALL LETTER STRAIGHT U,1CAPITAL LETTER STRAIGHT U WITH STROKE,
      1SMALL LETTER STRAIGHT U WITH STROKE,1CAPITAL LETTER HA WITH DESCENDER,
      1SMALL LETTER HA WITH DESCENDER,1CAPITAL LIGATURE TE TSE,1SMALL LIGATURE TE TSE,
      1CAPITAL LETTER CHE WITH DESCENDER,1SMALL LETTER CHE WITH DESCENDER,
      1CAPITAL LETTER CHE WITH VERTICAL STROKE,1SMALL LETTER CHE WITH VERTICAL STROKE,
      1CAPITAL LETTER SHHA,1SMALL LETTER SHHA,1CAPITAL LETTER ABKHASIAN CHE,
      1SMALL LETTER ABKHASIAN CHE,1CAPITAL LETTER ABKHASIAN CHE WITH DESCENDER,
      1SMALL LETTER ABKHASIAN CHE WITH DESCENDER,1LETTER PALOCHKA,1CAPITAL LETTER ZHE WITH BREVE,
      1SMALL LETTER ZHE WITH BREVE,1CAPITAL LETTER KA WITH HOOK,1SMALL LETTER KA WITH HOOK,
      1CAPITAL LETTER EL WITH TAIL,1SMALL LETTER EL WITH TAIL,1CAPITAL LETTER EN WITH HOOK,
      1SMALL LETTER EN WITH HOOK,1CAPITAL LETTER EN WITH TAIL,1SMALL LETTER EN WITH TAIL,
      1CAPITAL LETTER KHAKASSIAN CHE,1SMALL LETTER KHAKASSIAN CHE,1CAPITAL LETTER EM WITH TAIL,
      1SMALL LETTER EM WITH TAIL,3PALOCHKA,1CAPITAL LETTER A WITH BREVE,1SMALL LETTER A WITH BREVE,
      1CAPITAL LETTER A WITH DIAERESIS,1SMALL LETTER A WITH DIAERESIS,1CAPITAL LIGATURE A IE,
      1SMALL LIGATURE A IE,1CAPITAL LETTER IE WITH BREVE,1SMALL LETTER IE WITH BREVE,
      1CAPITAL LETTER SCHWA,1SMALL LETTER SCHWA,1CAPITAL LETTER SCHWA WITH DIAERESIS,
      1SMALL LETTER SCHWA WITH DIAERESIS,1CAPITAL LETTER ZHE WITH DIAERESIS,
      1SMALL LETTER ZHE WITH DIAERESIS,1CAPITAL LETTER ZE WITH DIAERESIS,
      1SMALL LETTER ZE WITH DIAERESIS,1CAPITAL LETTER ABKHASIAN DZE,1SMALL LETTER ABKHASIAN DZE,
      1CAPITAL LETTER I WITH MACRON,1SMALL LETTER I WITH MACRON,1CAPITAL LETTER I WITH DIAERESIS,
      1SMALL LETTER I WITH DIAERESIS,1CAPITAL LETTER O WITH DIAERESIS,
      1SMALL LETTER O WITH DIAERESIS,1CAPITAL LETTER BARRED O,1SMALL LETTER BARRED O,
      1CAPITAL LETTER BARRED O WITH DIAERESIS,1SMALL LETTER BARRED O WITH DIAERESIS,
      1CAPITAL LETTER E WITH DIAERESIS,1SMALL LETTER E WITH DIAERESIS,
      1CAPITAL LETTER U WITH MACRON,1SMALL LETTER U WITH MACRON,1CAPITAL LETTER U WITH DIAERESIS,
      1SMALL LETTER U WITH DIAERESIS,1CAPITAL LETTER U WITH DOUBLE ACUTE,
      1SMALL LETTER U WITH DOUBLE ACUTE,1CAPITAL LETTER CHE WITH DIAERESIS,
      1SMALL LETTER CHE WITH DIAERESIS,1CAPITAL LETTER GHE WITH DESCENDER,
      1SMALL LETTER GHE WITH DESCENDER,1CAPITAL LETTER YERU WITH DIAERESIS,
      1SMALL LETTER YERU WITH DIAERESIS,1CAPITAL LETTER GHE WITH STROKE AND HOOK,
      1SMALL LETTER GHE WITH STROKE AND HOOK,1CAPITAL LETTER HA WITH HOOK,
      1SMALL LETTER HA WITH HOOK,1CAPITAL LETTER HA WITH STROKE,1SMALL LETTER HA WITH STROKE,
      1CAPITAL LETTER KOMI DE,1SMALL LETTER KOMI DE,1CAPITAL LETTER KOMI DJE,
      1SMALL LETTER KOMI DJE,1CAPITAL LETTER KOMI ZJE,1SMALL LETTER KOMI ZJE,
      1CAPITAL LETTER KOMI DZJE,1SMALL LETTER KOMI DZJE,1CAPITAL LETTER KOMI LJE,
      1SMALL LETTER KOMI LJE,1CAPITAL LETTER KOMI NJE,1SMALL LETTER KOMI NJE,
      1CAPITAL LETTER KOMI SJE,1SMALL LETTER KOMI SJE,1CAPITAL LETTER KOMI TJE,
      1SMALL LETTER KOMI TJE,1CAPITAL LETTER REVERSED ZE,1SMALL LETTER REVERSED ZE,
      1CAPITAL LETTER EL WITH HOOK,1SMALL LETTER EL WITH HOOK,1CAPITAL LETTER LHA,
      1SMALL LETTER LHA,1CAPITAL LETTER RHA,1SMALL LETTER RHA,1CAPITAL LETTER YAE,
      1SMALL LETTER YAE,1CAPITAL LETTER QA,1SMALL LETTER QA,1CAPITAL LETTER WE,1SMALL LETTER WE,
      1CAPITAL LETTER ALEUT KA,1SMALL LETTER ALEUT KA,1CAPITAL LETTER EL WITH MIDDLE HOOK,
      1SMALL LETTER EL WITH MIDDLE HOOK,1CAPITAL LETTER EN WITH MIDDLE HOOK,
      1SMALL LETTER EN WITH MIDDLE HOOK,1CAPITAL LETTER PE WITH DESCENDER,
      1SMALL LETTER PE WITH DESCENDER,1CAPITAL LETTER SHHA WITH DESCENDER,
      1SMALL LETTER SHHA WITH DESCENDER,1CAPITAL LETTER EN WITH LEFT HOOK,
      1SMALL LETTER EN WITH LEFT HOOK,1CAPITAL LETTER DZZHE,1SMALL LETTER DZZHE,
      1CAPITAL LETTER DCHE,1SMALL LETTER DCHE,1CAPITAL LETTER EL WITH DESCENDER,
      1SMALL LETTER EL WITH DESCENDER"),
    (1329, "0ARMENIAN CAPITAL LETTER AYB,3BEN,3GIM,3DA,3ECH,3ZA,3EH,3ET,3TO,3ZHE,3INI,3LIWN,3XEH,
      3CA,3KEN,3HO,3JA,3GHAD,3CHEH,3MEN,3YI,3NOW,3SHA,3VO,3CHA,3PEH,3JHEH,3RA,3SEH,3VEW,3TIWN,3REH,
      3CO,3YIWN,3PIWR,3KEH,3OH,3FEH"),
    (1369, "0ARMENIAN MODIFIER LETTER LEFT HALF RING,1APOSTROPHE,1EMPHASIS MARK,1EXCLAMATION MARK,
      1COMMA,1QUESTION MARK,1ABBREVIATION MARK,1SMALL LETTER TURNED AYB,3AYB,3BEN,3GIM,3DA,3ECH,
      3ZA,3EH,3ET,3TO,3ZHE,3INI,3LIWN,3XEH,3CA,3KEN,3HO,3JA,3GHAD,3CHEH,3MEN,3YI,3NOW,3SHA,3VO,
      3CHA,3PEH,3JHEH,3RA,3SEH,3VEW,3TIWN,3REH,3CO,3YIWN,3PIWR,3KEH,3OH,3FEH,2LIGATURE ECH YIWN,
      2LETTER YI WITH STROKE,1FULL STOP,1HYPHEN"),
    (1421, "0RIGHT-FACING ARMENIAN ETERNITY SIGN,0LEFT-FACING ARMENIAN ETERNITY SIGN,
      0ARMENIAN DRAM SIGN"),
    (1425, "0HEBREW ACCENT ETNAHTA,2SEGOL,2SHALSHELET,2ZAQEF QATAN,3GADOL,2TIPEHA,2REVIA,2ZARQA,
      2PASHTA,2YETIV,2TEVIR,2GERESH,2GERESH MUQDAM,2GERSHAYIM,2QARNEY PARA,2TELISHA GEDOLA,2PAZER,
      2ATNAH HAFUKH,2MUNAH,2MAHAPAKH,2MERKHA,2MERKHA KEFULA,2DARGA,2QADMA,2TELISHA QETANA,
      2YERAH BEN YOMO,2OLE,2ILUY,2DEHI,2ZINOR,1MARK MASORA CIRCLE,1POINT SHEVA,2HATAF SEGOL,3PATAH,
      3QAMATS,2HIRIQ,2TSERE,2SEGOL,2PATAH,2QAMATS,2HOLAM,2HOLAM HASER FOR VAV,2QUBUTS,
      2DAGESH OR MAPIQ,2METEG,1PUNCTUATION MAQAF,1POINT RAFE,1PUNCTUATION PASEQ,1POINT SHIN DOT,
      2SIN DOT,1PUNCTUATION SOF PASUQ,1MARK UPPER DOT,2LOWER DOT,1PUNCTUATION NUN HAFUKHA,
      1POINT QAMATS QATAN"),
    (1488, "0HEBREW LETTER ALEF,2BET,2GIMEL,2DALET,2HE,2VAV,2ZAYIN,2HET,2TET,2YOD,2FINAL KAF,2KAF,
      2LAMED,2FINAL MEM,2MEM,2FINAL NUN,2NUN,2SAMEKH,2AYIN,2FINAL PE,2PE,2FINAL TSADI,2TSADI,2QOF,
      2RESH,2SHIN,2TAV"),
    (1519, "0HEBREW YOD TRIANGLE,1LIGATURE YIDDISH DOUBLE VAV,3VAV YOD,3DOUBLE YOD,
      1PUNCTUATION GERESH,2GERSHAYIM"),
    (1536, "0ARABIC NUMBER SIGN,1SIGN SANAH,1FOOTNOTE MARKER,1SIGN SAFHA,2SAMVAT,
      1NUMBER MARK ABOVE,0ARABIC-INDIC CUBE ROOT,2FOURTH ROOT,0ARABIC RAY,
      0ARABIC-INDIC PER MILLE SIGN,3TEN THOUSAND SIGN,0AFGHANI SIGN,0ARABIC COMMA,1DATE SEPARATOR,
      1POETIC VERSE SIGN,1SIGN MISRA,2SALLALLAHOU ALAYHE WASSALLAM,2ALAYHE ASSALLAM,
      2RAHMATULLAH ALAYHE,2RADI ALLAHOU ANHU,2TAKHALLUS,1SMALL HIGH TAH,
      3LIGATURE ALEF WITH LAM WITH YEH,3ZAIN,2FATHA,2DAMMA,2KASRA,1SEMICOLON,1LETTER MARK,
      1END OF TEXT MARK,1TRIPLE DOT PUNCTUATION MARK,1QUESTION MARK,1LETTER KASHMIRI YEH,2HAMZA,
      2ALEF WITH MADDA ABOVE,4HAMZA ABOVE,2WAW WITH HAMZA ABOVE,2ALEF WITH HAMZA BELOW,
      2YEH WITH HAMZA ABOVE,2ALEF,2BEH,2TEH MARBUTA,2TEH,2THEH,2JEEM,2HAH,2KHAH,2DAL,2THAL,2REH,
      2ZAIN,2SEEN,2SHEEN,2SAD,2DAD,2TAH,2ZAH,2AIN,2GHAIN,2KEHEH WITH TWO DOTS ABOVE,
      4THREE DOTS BELOW,2FARSI YEH WITH INVERTED V,5TWO DOTS ABOVE,5THREE DOTS ABOVE,1TATWEEL,
      1LETTER FEH,2QAF,2KAF,2LAM,2MEEM,2NOON,2HEH,2WAW,2ALEF MAKSURA,2YEH,1FATHATAN,1DAMMATAN,
      1KASRATAN,1FATHA,1DAMMA,1KASRA,1SHADDA,1SUKUN,1MADDAH ABOVE,1HAMZA ABOVE,2BELOW,
      1SUBSCRIPT ALEF,1INVERTED DAMMA,1MARK NOON GHUNNA,1ZWARAKAY,1VOWEL SIGN SMALL V ABOVE,
      3INVERTED SMALL V ABOVE,3DOT BELOW,1REVERSED DAMMA,1FATHA WITH TWO DOTS,1WAVY HAMZA BELOW,
      0ARABIC-INDIC DIGIT ZERO,3ONE,3TWO,3THREE,3FOUR,3FIVE,3SIX,3SEVEN,3EIGHT,3NINE,
      0ARABIC PERCENT SIGN,1DECIMAL SEPARATOR,1THOUSANDS SEPARATOR,1FIVE POINTED STAR,
      1LETTER DOTLESS BEH,3QAF,2SUPERSCRIPT ALEF,2ALEF WASLA,3WITH WAVY HAMZA ABOVE,6BELOW,
      2HIGH HAMZA,3HAMZA ALEF,4WAW,2U WITH HAMZA ABOVE,2HIGH HAMZA YEH,2TTEH,2TTEHEH,2BEEH,
      2TEH WITH RING,4THREE DOTS ABOVE DOWNWARDS,2PEH,2TEHEH,2BEHEH,2HAH WITH HAMZA ABOVE,
      4TWO DOTS VERTICAL ABOVE,2NYEH,2DYEH,2HAH WITH THREE DOTS ABOVE,2TCHEH,2TCHEHEH,2DDAL,
      2DAL WITH RING,4DOT BELOW,5BELOW AND SMALL TAH,2DAHAL,2DDAHAL,2DUL,
      2DAL WITH THREE DOTS ABOVE DOWNWARDS,4FOUR DOTS ABOVE,2RREH,2REH WITH SMALL V,4RING,
      4DOT BELOW,4SMALL V BELOW,4DOT BELOW AND DOT ABOVE,4TWO DOTS ABOVE,2JEH,
      2REH WITH FOUR DOTS ABOVE,2SEEN WITH DOT BELOW AND DOT ABOVE,4THREE DOTS BELOW,
      6BELOW AND THREE DOTS ABOVE,2SAD WITH TWO DOTS BELOW,4THREE DOTS ABOVE,
      2TAH WITH THREE DOTS ABOVE,2AIN WITH THREE DOTS ABOVE,2DOTLESS FEH,2FEH WITH DOT MOVED BELOW,
      5BELOW,2VEH,2FEH WITH THREE DOTS BELOW,2PEHEH,2QAF WITH DOT ABOVE,4THREE DOTS ABOVE,2KEHEH,
      2SWASH KAF,2KAF WITH RING,4DOT ABOVE,2NG,2KAF WITH THREE DOTS BELOW,2GAF,2GAF WITH RING,
      2NGOEH,2GAF WITH TWO DOTS BELOW,2GUEH,2GAF WITH THREE DOTS ABOVE,2LAM WITH SMALL V,
      4DOT ABOVE,4THREE DOTS ABOVE,6BELOW,2NOON WITH DOT BELOW,3GHUNNA,2RNOON,2NOON WITH RING,
      4THREE DOTS ABOVE,2HEH DOACHASHMEE,2TCHEH WITH DOT ABOVE,2HEH WITH YEH ABOVE,3GOAL,
      3GOAL WITH HAMZA ABOVE,2TEH MARBUTA GOAL,2WAW WITH RING,2KIRGHIZ OE,2OE,2U,2YU,2KIRGHIZ YU,
      2WAW WITH TWO DOTS ABOVE,2VE,2FARSI YEH,2YEH WITH TAIL,4SMALL V,2WAW WITH DOT ABOVE,2E,
      2YEH WITH THREE DOTS BELOW,3BARREE,3BARREE WITH HAMZA ABOVE,1FULL STOP,1LETTER AE,
      1SMALL HIGH LIGATURE SAD WITH LAM WITH ALEF MAKSURA,4QAF WITH LAM WITH ALEF MAKSURA,
      3MEEM INITIAL FORM,3LAM ALEF,3JEEM,3THREE DOTS,3SEEN,1END OF AYAH,1START OF RUB EL HIZB,
      1SMALL HIGH ROUNDED ZERO,3UPRIGHT RECTANGULAR ZERO,3DOTLESS HEAD OF KHAH,3MEEM ISOLATED FORM,
      2LOW SEEN,2HIGH MADDA,2WAW,2YEH,2HIGH YEH,3NOON,1PLACE OF SAJDAH,1EMPTY CENTRE LOW STOP,
      3HIGH STOP,1ROUNDED HIGH STOP WITH FILLED CENTRE,1SMALL LOW MEEM,1LETTER DAL WITH INVERTED V,
      2REH WITH INVERTED V,0EXTENDED ARABIC-INDIC DIGIT ZERO,4ONE,4TWO,4THREE,4FOUR,4FIVE,4SIX,
      4SEVEN,4EIGHT,4NINE,0ARABIC LETTER SHEEN WITH DOT BELOW,2DAD WITH DOT BELOW,
      2GHAIN WITH DOT BELOW,1SIGN SINDHI AMPERSAND,3POSTPOSITION MEN,1LETTER HEH WITH INVERTED V,
      0SYRIAC END OF PARAGRAPH,1SUPRALINEAR FULL STOP,1SUBLINEAR FULL STOP,1SUPRALINEAR COLON,
      1SUBLINEAR COLON,1HORIZONTAL COLON,1COLON SKEWED LEFT,3RIGHT,1SUPRALINEAR COLON SKEWED LEFT,
      1SUBLINEAR COLON SKEWED RIGHT,1CONTRACTION,1HARKLEAN OBELUS,2METOBELUS,2ASTERISCUS"),
    (1807, "0SYRIAC ABBREVIATION MARK,1LETTER ALAPH,2SUPERSCRIPT ALAPH,2BETH,2GAMAL,
      2GAMAL GARSHUNI,2DALATH,2DOTLESS DALATH RISH,2HE,2WAW,2ZAIN,2HETH,2TETH,2TETH GARSHUNI,2YUDH,
      2YUDH HE,2KAPH,2LAMADH,2MIM,2NUN,2SEMKATH,2FINAL SEMKATH,2E,2PE,2REVERSED PE,2SADHE,2QAPH,
      2RISH,2SHIN,2TAW,2PERSIAN BHETH,3GHAMAL,3DHALATH,1PTHAHA ABOVE,2BELOW,2DOTTED,1ZQAPHA ABOVE,
      2BELOW,2DOTTED,1RBASA ABOVE,2BELOW,1DOTTED ZLAMA HORIZONTAL,3ANGULAR,1HBASA ABOVE,2BELOW,
      1HBASA-ESASA DOTTED,1ESASA ABOVE,2BELOW,1RWAHA,1FEMININE DOT,1QUSHSHAYA,1RUKKAKHA,
      1TWO VERTICAL DOTS ABOVE,4BELOW,1THREE DOTS ABOVE,3BELOW,1OBLIQUE LINE ABOVE,3BELOW,1MUSIC,
      1BARREKH"),
    (1869, "0SYRIAC LETTER SOGDIAN ZHAIN,3KHAPH,3FE,
      0ARABIC LETTER BEH WITH THREE DOTS HORIZONTALLY BELOW,4DOT BELOW AND THREE DOTS ABOVE,
      4THREE DOTS POINTING UPWARDS BELOW,8BELOW AND TWO DOTS ABOVE,4TWO DOTS BELOW AND DOT ABOVE,
      4INVERTED SMALL V BELOW,4SMALL V,2HAH WITH TWO DOTS ABOVE,4THREE DOTS POINTING UPWARDS BELOW,
      2DAL WITH TWO DOTS VERTICALLY BELOW AND SMALL TAH,4INVERTED SMALL V BELOW,2REH WITH STROKE,
      2SEEN WITH FOUR DOTS ABOVE,2AIN WITH TWO DOTS ABOVE,4THREE DOTS POINTING DOWNWARDS ABOVE,
      4TWO DOTS VERTICALLY ABOVE,2FEH WITH TWO DOTS BELOW,4THREE DOTS POINTING UPWARDS BELOW,
      2KEHEH WITH DOT ABOVE,4THREE DOTS ABOVE,6POINTING UPWARDS BELOW,2MEEM WITH DOT ABOVE,5BELOW,
      2NOON WITH TWO DOTS BELOW,4SMALL TAH,5V,2LAM WITH BAR,2REH WITH TWO DOTS VERTICALLY ABOVE,
      4HAMZA ABOVE,2SEEN WITH TWO DOTS VERTICALLY ABOVE,2HAH WITH SMALL ARABIC LETTER TAH BELOW,
      8AND TWO DOTS,2SEEN WITH SMALL ARABIC LETTER TAH AND TWO DOTS,
      2REH WITH SMALL ARABIC LETTER TAH AND TWO DOTS,2HAH WITH SMALL ARABIC LETTER TAH ABOVE,
      2ALEF WITH EXTENDED ARABIC-INDIC DIGIT TWO ABOVE,8THREE ABOVE,
      2FARSI YEH WITH EXTENDED ARABIC-INDIC DIGIT TWO ABOVE,9THREE ABOVE,9FOUR BELOW,
      2WAW WITH EXTENDED ARABIC-INDIC DIGIT TWO ABOVE,8THREE ABOVE,
      2YEH BARREE WITH EXTENDED ARABIC-INDIC DIGIT TWO ABOVE,9THREE ABOVE,
      2HAH WITH EXTENDED ARABIC-INDIC DIGIT FOUR BELOW,
      2SEEN WITH EXTENDED ARABIC-INDIC DIGIT FOUR ABOVE,4INVERTED V,2KAF WITH TWO DOTS ABOVE,
      0THAANA LETTER HAA,2SHAVIYANI,2NOONU,2RAA,2BAA,2LHAVIYANI,2KAAFU,2ALIFU,2VAAVU,2MEEMU,2FAAFU,
      2DHAALU,2THAA,2LAAMU,2GAAFU,2GNAVIYANI,2SEENU,2DAVIYANI,2ZAVIYANI,2TAVIYANI,2YAA,2PAVIYANI,
      2JAVIYANI,2CHAVIYANI,2TTAA,2HHAA,2KHAA,2THAALU,2ZAA,2SHEENU,2SAADHU,2DAADHU,2TO,2ZO,2AINU,
      2GHAINU,2QAAFU,2WAAVU,1ABAFILI,1AABAAFILI,1IBIFILI,1EEBEEFILI,1UBUFILI,1OOBOOFILI,1EBEFILI,
      1EYBEYFILI,1OBOFILI,1OABOAFILI,1SUKUN,1LETTER NAA"),
    (1984, "0NKO DIGIT ZERO,2ONE,2TWO,2THREE,2FOUR,2FIVE,2SIX,2SEVEN,2EIGHT,2NINE,1LETTER A,2EE,2I,
      2E,2U,2OO,2O,2DAGBASINNA,2N,2BA,2PA,2TA,2JA,2CHA,2DA,2RA,2RRA,2SA,2GBA,2FA,2KA,2LA,
      2NA WOLOSO,2MA,2NYA,2NA,2HA,2WA,2YA,2NYA WOLOSO,2JONA JA,3CHA,3RA,1COMBINING SHORT HIGH TONE,
      3LOW TONE,3RISING TONE,2LONG DESCENDING TONE,3HIGH TONE,3LOW TONE,3RISING TONE,
      2NASALIZATION MARK,2DOUBLE DOT ABOVE,1HIGH TONE APOSTROPHE,1LOW TONE APOSTROPHE,
      1SYMBOL OO DENNEN,2GBAKURUNEN,1COMMA,1EXCLAMATION MARK,1LAJANYALAN"),
    (2045, "0NKO DANTAYALAN,1DOROME SIGN,1TAMAN SIGN,0SAMARITAN LETTER ALAF,2BIT,2GAMAN,2DALAT,2IY,
      2BAA,2ZEN,2IT,2TIT,2YUT,2KAAF,2LABAT,2MIM,2NUN,2SINGAAT,2IN,2FI,2TSAADIY,2QUF,2RISH,2SHAN,
      2TAAF,1MARK IN,2IN-ALAF,2OCCLUSION,2DAGESH,1MODIFIER LETTER EPENTHETIC YUT,
      1MARK EPENTHETIC YUT,1VOWEL SIGN LONG E,3E,3OVERLONG AA,3LONG AA,3AA,3OVERLONG A,3LONG A,3A,
      1MODIFIER LETTER SHORT A,1VOWEL SIGN SHORT A,3LONG U,3U,1MODIFIER LETTER I,
      1VOWEL SIGN LONG I,3I,3O,3SUKUN,1MARK NEQUDAA"),
    (2096, "0SAMARITAN PUNCTUATION NEQUDAA,2AFSAAQ,2ANGED,2BAU,2ATMAAU,2SHIYYAALAA,
      1ABBREVIATION MARK,1PUNCTUATION MELODIC QITSA,2ZIQAA,2QITSA,2ZAEF,2TURU,2ARKAANU,
      2SOF MASHFAAT,2ANNAAU"),
    (2112, "0MANDAIC LETTER HALQA,2AB,2AG,2AD,2AH,2USHENNA,2AZ,2IT,2ATT,2AKSA,2AK,2AL,2AM,2AN,2AS,
      2IN,2AP,2ASZ,2AQ,2AR,2ASH,2AT,2DUSHENNA,2KAD,2AIN,1AFFRICATION MARK,1VOCALIZATION MARK,
      1GEMINATION MARK"),
    (2142, "0MANDAIC PUNCTUATION"),
    (2144, "0SYRIAC LETTER MALAYALAM NGA,3JA,3NYA,3TTA,3NNA,3NNNA,3BHA,3RA,3LLA,3LLLA,3SSA"),
    (2160, "0ARABIC LETTER ALEF WITH ATTACHED FATHA,5TOP RIGHT FATHA,4RIGHT MIDDLE STROKE,
      4LEFT MIDDLE STROKE,4ATTACHED KASRA,5BOTTOM RIGHT KASRA,5ROUND DOT ABOVE,5RIGHT ROUND DOT,
      5LEFT ROUND DOT,5ROUND DOT BELOW,4DOT ABOVE,4ATTACHED TOP RIGHT FATHA AND DOT ABOVE,
      4RIGHT MIDDLE STROKE AND DOT ABOVE,4ATTACHED BOTTOM RIGHT KASRA AND DOT ABOVE,
      5TOP RIGHT FATHA AND LEFT RING,4RIGHT MIDDLE STROKE AND LEFT RING,
      4ATTACHED BOTTOM RIGHT KASRA AND LEFT RING,5RIGHT HAMZA,5LEFT HAMZA,
      1TATWEEL WITH OVERSTRUCK HAMZA,4WAW,3TWO DOTS BELOW,1LETTER THIN YEH,1BASELINE ROUND DOT,
      1RAISED ROUND DOT,1LETTER NOON WITH INVERTED SMALL V,2HAH WITH INVERTED SMALL V BELOW,
      2TAH WITH DOT BELOW,4THREE DOTS BELOW,2KEHEH WITH TWO DOTS VERTICALLY BELOW,1VERTICAL TAIL"),
    (2192, "0ARABIC POUND MARK ABOVE,1PIASTRE MARK ABOVE"),
    (2200, "0ARABIC SMALL HIGH WORD AL-JUZ,2LOW WORD ISHMAAM,4IMAALA,4TASHEEL,1MADDA WAAJIB,
      1SUPERSCRIPT ALEF MOKHASSAS,1DOUBLED MADDA,1HALF MADDA OVER MADDA,
      1LETTER BEH WITH SMALL V BELOW,4HAMZA ABOVE,2JEEM WITH TWO DOTS ABOVE,
      2TAH WITH TWO DOTS ABOVE,2FEH WITH DOT BELOW AND THREE DOTS ABOVE,2QAF WITH DOT BELOW,
      2LAM WITH DOUBLE BAR,2MEEM WITH THREE DOTS ABOVE,2YEH WITH TWO DOTS BELOW AND HAMZA ABOVE,
      8DOT ABOVE,2REH WITH LOOP,2WAW WITH DOT WITHIN,2ROHINGYA YEH,2LOW ALEF,
      2DAL WITH THREE DOTS BELOW,2SAD WITH THREE DOTS BELOW,2GAF WITH INVERTED STROKE,
      2STRAIGHT WAW,2ZAIN WITH INVERTED V ABOVE,2AIN WITH THREE DOTS BELOW,2KAF WITH DOT BELOW,
      2QAF WITH DOT BELOW AND NO DOTS ABOVE,2BEH WITH SMALL MEEM ABOVE,2PEH WITH SMALL MEEM ABOVE,
      2TEH WITH SMALL TEH ABOVE,2REH WITH SMALL NOON ABOVE,
      2YEH WITH TWO DOTS BELOW AND SMALL NOON ABOVE,2AFRICAN FEH,3QAF,3NOON,2PEH WITH SMALL V,
      2TEH WITH SMALL V,2TTEH WITH SMALL V,2TCHEH WITH SMALL V,2KEHEH WITH SMALL V,
      2GHAIN WITH THREE DOTS ABOVE,2AFRICAN QAF WITH THREE DOTS ABOVE,2JEEM WITH THREE DOTS ABOVE,
      6BELOW,2LAM WITH SMALL ARABIC LETTER TAH ABOVE,2GRAF,1SMALL FARSI YEH,2HIGH FARSI YEH,
      3YEH BARREE WITH TWO DOTS BELOW,3WORD SAH,3ZAH,1LARGE ROUND DOT ABOVE,4BELOW,1SUKUN BELOW,
      1LARGE CIRCLE BELOW,2ROUND DOT INSIDE CIRCLE BELOW,1SMALL LOW WAW,2HIGH WORD AR-RUB,3SAD,
      3AIN,3QAF,3NOON WITH KASRA,2LOW NOON WITH KASRA,2HIGH WORD ATH-THALATHA,4AS-SAJDA,4AN-NISF,
      4SAKTA,4QIF,4WAQFA,3FOOTNOTE MARKER,3SIGN SAFHA,1DISPUTED END OF AYAH,1TURNED DAMMA BELOW,
      1CURLY FATHA,2DAMMA,2KASRA,2FATHATAN,2DAMMATAN,2KASRATAN,1TONE ONE DOT ABOVE,2TWO DOTS ABOVE,
      2LOOP ABOVE,2ONE DOT BELOW,2TWO DOTS BELOW,2LOOP BELOW,1OPEN FATHATAN,2DAMMATAN,2KASRATAN,
      1SMALL HIGH WAW,1FATHA WITH RING,3DOT ABOVE,1KASRA WITH DOT BELOW,1LEFT ARROWHEAD ABOVE,
      1RIGHT ARROWHEAD ABOVE,1LEFT ARROWHEAD BELOW,1RIGHT ARROWHEAD BELOW,
      1DOUBLE RIGHT ARROWHEAD ABOVE,4ABOVE WITH DOT,1RIGHT ARROWHEAD ABOVE WITH DOT,
      1DAMMA WITH DOT,1MARK SIDEWAYS NOON GHUNNA,0DEVANAGARI SIGN INVERTED CANDRABINDU,
      2CANDRABINDU,2ANUSVARA,2VISARGA,1LETTER SHORT A,2A,2AA,2I,2II,2U,2UU,2VOCALIC R,3L,2CANDRA E,
      2SHORT E,2E,2AI,2CANDRA O,2SHORT O,2O,2AU,2KA,2KHA,2GA,2GHA,2NGA,2CA,2CHA,2JA,2JHA,2NYA,2TTA,
      2TTHA,2DDA,2DDHA,2NNA,2TA,2THA,2DA,2DHA,2NA,2NNNA,2PA,2PHA,2BA,2BHA,2MA,2YA,2RA,2RRA,2LA,
      2LLA,2LLLA,2VA,2SHA,2SSA,2SA,2HA,1VOWEL SIGN OE,3OOE,1SIGN NUKTA,2AVAGRAHA,1VOWEL SIGN AA,3I,
      3II,3U,3UU,3VOCALIC R,4RR,3CANDRA E,3SHORT E,3E,3AI,3CANDRA O,3SHORT O,3O,3AU,1SIGN VIRAMA,
      1VOWEL SIGN PRISHTHAMATRA E,3AW,1OM,1STRESS SIGN UDATTA,3ANUDATTA,1GRAVE ACCENT,
      1ACUTE ACCENT,1VOWEL SIGN CANDRA LONG E,3UE,3UUE,1LETTER QA,2KHHA,2GHHA,2ZA,2DDDHA,2RHA,2FA,
      2YYA,2VOCALIC RR,3LL,1VOWEL SIGN VOCALIC L,4LL,1DANDA,1DOUBLE DANDA,1DIGIT ZERO,2ONE,2TWO,
      2THREE,2FOUR,2FIVE,2SIX,2SEVEN,2EIGHT,2NINE,1ABBREVIATION SIGN,1SIGN HIGH SPACING DOT,
      1LETTER CANDRA A,2OE,2OOE,2AW,2UE,2UUE,2MARWARI DDA,2ZHA,2HEAVY YA,2GGA,2JJA,2GLOTTAL STOP,
      2DDDA,2BBA,0BENGALI ANJI,1SIGN CANDRABINDU,2ANUSVARA,2VISARGA"),
    (2437, "0BENGALI LETTER A,2AA,2I,2II,2U,2UU,2VOCALIC R,3L"), (2447, "0BENGALI LETTER E,2AI"),
    (2451, "0BENGALI LETTER O,2AU,2KA,2KHA,2GA,2GHA,2NGA,2CA,2CHA,2JA,2JHA,2NYA,2TTA,2TTHA,2DDA,
      2DDHA,2NNA,2TA,2THA,2DA,2DHA,2NA"),
    (2474, "0BENGALI LETTER PA,2PHA,2BA,2BHA,2MA,2YA,2RA"), (2482, "0BENGALI LETTER LA"),
    (2486, "0BENGALI LETTER SHA,2SSA,2SA,2HA"),
    (2492, "0BENGALI SIGN NUKTA,2AVAGRAHA,1VOWEL SIGN AA,3I,3II,3U,3UU,3VOCALIC R,4RR"),
    (2503, "0BENGALI VOWEL SIGN E,3AI"),
    (2507, "0BENGALI VOWEL SIGN O,3AU,1SIGN VIRAMA,1LETTER KHANDA TA"),
    (2519, "0BENGALI AU LENGTH MARK"), (2524, "0BENGALI LETTER RRA,2RHA"),
    (2527, "0BENGALI LETTER YYA,2VOCALIC RR,3LL,1VOWEL SIGN VOCALIC L,4LL"),
    (2534, "0BENGALI DIGIT ZERO,2ONE,2TWO,2THREE,2FOUR,2FIVE,2SIX,2SEVEN,2EIGHT,2NINE,
      1LETTER RA WITH MIDDLE DIAGONAL,4LOWER DIAGONAL,1RUPEE MARK,2SIGN,1CURRENCY NUMERATOR ONE,
      3TWO,3THREE,3FOUR,3ONE LESS THAN THE DENOMINATOR,2DENOMINATOR SIXTEEN,1ISSHAR,1GANDA MARK,
      1LETTER VEDIC ANUSVARA,1ABBREVIATION SIGN,1SANDHI MARK"),
    (2561, "0GURMUKHI SIGN ADAK BINDI,2BINDI,2VISARGA"),
    (2565, "0GURMUKHI LETTER A,2AA,2I,2II,2U,2UU"), (2575, "0GURMUKHI LETTER EE,2AI"),
    (2579, "0GURMUKHI LETTER OO,2AU,2KA,2KHA,2GA,2GHA,2NGA,2CA,2CHA,2JA,2JHA,2NYA,2TTA,2TTHA,2DDA,
      2DDHA,2NNA,2TA,2THA,2DA,2DHA,2NA"),
    (2602, "0GURMUKHI LETTER PA,2PHA,2BA,2BHA,2MA,2YA,2RA"), (2610, "0GURMUKHI LETTER LA,2LLA"),
    (2613, "0GURMUKHI LETTER VA,2SHA"), (2616, "0GURMUKHI LETTER SA,2HA"),
    (2620, "0GURMUKHI SIGN NUKTA"), (2622, "0GURMUKHI VOWEL SIGN AA,3I,3II,3U,3UU"),
    (2631, "0GURMUKHI VOWEL SIGN EE,3AI"), (2635, "0GURMUKHI VOWEL SIGN OO,3AU,1SIGN VIRAMA"),
    (2641, "0GURMUKHI SIGN UDAAT"), (2649, "0GURMUKHI LETTER KHHA,2GHHA,2ZA,2RRA"),
    (2654, "0GURMUKHI LETTER FA"),
    (2662, "0GURMUKHI DIGIT ZERO,2ONE,2TWO,2THREE,2FOUR,2FIVE,2SIX,2SEVEN,2EIGHT,2NINE,1TIPPI,
      1ADDAK,1IRI,1URA,1EK ONKAR,1SIGN YAKASH,1ABBREVIATION SIGN"),
    (2689, "0GUJARATI SIGN CANDRABINDU,2ANUSVARA,2VISARGA"),
    (2693, "0GUJARATI LETTER A,2AA,2I,2II,2U,2UU,2VOCALIC R,3L,1VOWEL CANDRA E"),
    (2703, "0GUJARATI LETTER E,2AI,1VOWEL CANDRA O"),
    (2707, "0GUJARATI LETTER O,2AU,2KA,2KHA,2GA,2GHA,2NGA,2CA,2CHA,2JA,2JHA,2NYA,2TTA,2TTHA,2DDA,
      2DDHA,2NNA,2TA,2THA,2DA,2DHA,2NA"),
    (2730, "0GUJARATI LETTER PA,2PHA,2BA,2BHA,2MA,2YA,2RA"), (2738, "0GUJARATI LETTER LA,2LLA"),
    (2741, "0GUJARATI LETTER VA,2SHA,2SSA,2SA,2HA"),
    (2748, "0GUJARATI SIGN NUKTA,2AVAGRAHA,1VOWEL SIGN AA,3I,3II,3U,3UU,3VOCALIC R,4RR,3CANDRA E"),
    (2759, "0GUJARATI VOWEL SIGN E,3AI,3CANDRA O"),
    (2763, "0GUJARATI VOWEL SIGN O,3AU,1SIGN VIRAMA"), (2768, "0GUJARATI OM"),
    (2784, "0GUJARATI LETTER VOCALIC RR,3LL,1VOWEL SIGN VOCALIC L,4LL"),
    (2790, "0GUJARATI DIGIT ZERO,2ONE,2TWO,2THREE,2FOUR,2FIVE,2SIX,2SEVEN,2EIGHT,2NINE,
      1ABBREVIATION SIGN,1RUPEE SIGN"),
    (2809, "0GUJARATI LETTER ZHA,1SIGN SUKUN,2SHADDA,2MADDAH,2THREE-DOT NUKTA ABOVE,
      2CIRCLE NUKTA ABOVE,2TWO-CIRCLE NUKTA ABOVE"),
    (2817, "0ORIYA SIGN CANDRABINDU,2ANUSVARA,2VISARGA"),
    (2821, "0ORIYA LETTER A,2AA,2I,2II,2U,2UU,2VOCALIC R,3L"), (2831, "0ORIYA LETTER E,2AI"),
    (2835, "0ORIYA LETTER O,2AU,2KA,2KHA,2GA,2GHA,2NGA,2CA,2CHA,2JA,2JHA,2NYA,2TTA,2TTHA,2DDA,
      2DDHA,2NNA,2TA,2THA,2DA,2DHA,2NA"),
    (2858, "0ORIYA LETTER PA,2PHA,2BA,2BHA,2MA,2YA,2RA"), (2866, "0ORIYA LETTER LA,2LLA"),
    (2869, "0ORIYA LETTER VA,2SHA,2SSA,2SA,2HA"),
    (2876, "0ORIYA SIGN NUKTA,2AVAGRAHA,1VOWEL SIGN AA,3I,3II,3U,3UU,3VOCALIC R,4RR"),
    (2887, "0ORIYA VOWEL SIGN E,3AI"), (2891, "0ORIYA VOWEL SIGN O,3AU,1SIGN VIRAMA"),
    (2901, "0ORIYA SIGN OVERLINE,1AI LENGTH MARK,1AU LENGTH MARK"),
    (2908, "0ORIYA LETTER RRA,2RHA"),
    (2911, "0ORIYA LETTER YYA,2VOCALIC RR,3LL,1VOWEL SIGN VOCALIC L,4LL"),
    (2918, "0ORIYA DIGIT ZERO,2ONE,2TWO,2THREE,2FOUR,2FIVE,2SIX,2SEVEN,2EIGHT,2NINE,1ISSHAR,
      1LETTER WA,1FRACTION ONE QUARTER,3HALF,2THREE QUARTERS,2ONE SIXTEENTH,3EIGHTH,
      2THREE SIXTEENTHS"),
    (2946, "0TAMIL SIGN ANUSVARA,2VISARGA"), (2949, "0TAMIL LETTER A,2AA,2I,2II,2U,2UU"),
    (2958, "0TAMIL LETTER E,2EE,2AI"), (2962, "0TAMIL LETTER O,2OO,2AU,2KA"),
    (2969, "0TAMIL LETTER NGA,2CA"), (2972, "0TAMIL LETTER JA"), (2974, "0TAMIL LETTER NYA,2TTA"),
    (2979, "0TAMIL LETTER NNA,2TA"), (2984, "0TAMIL LETTER NA,2NNNA,2PA"),
    (2990, "0TAMIL LETTER MA,2YA,2RA,2RRA,2LA,2LLA,2LLLA,2VA,2SHA,2SSA,2SA,2HA"),
    (3006, "0TAMIL VOWEL SIGN AA,3I,3II,3U,3UU"), (3014, "0TAMIL VOWEL SIGN E,3EE,3AI"),
    (3018, "0TAMIL VOWEL SIGN O,3OO,3AU,1SIGN VIRAMA"), (3024, "0TAMIL OM"),
    (3031, "0TAMIL AU LENGTH MARK"),
    (3046, "0TAMIL DIGIT ZERO,2ONE,2TWO,2THREE,2FOUR,2FIVE,2SIX,2SEVEN,2EIGHT,2NINE,1NUMBER TEN,
      2ONE HUNDRED,3THOUSAND,1DAY SIGN,1MONTH SIGN,1YEAR SIGN,1DEBIT SIGN,1CREDIT SIGN,
      1AS ABOVE SIGN,1RUPEE SIGN,1NUMBER SIGN"),
    (3072, "0TELUGU SIGN COMBINING CANDRABINDU ABOVE,2CANDRABINDU,2ANUSVARA,2VISARGA,
      2COMBINING ANUSVARA ABOVE,1LETTER A,2AA,2I,2II,2U,2UU,2VOCALIC R,3L"),
    (3086, "0TELUGU LETTER E,2EE,2AI"),
    (3090, "0TELUGU LETTER O,2OO,2AU,2KA,2KHA,2GA,2GHA,2NGA,2CA,2CHA,2JA,2JHA,2NYA,2TTA,2TTHA,2DDA,
      2DDHA,2NNA,2TA,2THA,2DA,2DHA,2NA"),
    (3114, "0TELUGU LETTER PA,2PHA,2BA,2BHA,2MA,2YA,2RA,2RRA,2LA,2LLA,2LLLA,2VA,2SHA,2SSA,2SA,2HA"),
    (3132, "0TELUGU SIGN NUKTA,2AVAGRAHA,1VOWEL SIGN AA,3I,3II,3U,3UU,3VOCALIC R,4RR"),
    (3142, "0TELUGU VOWEL SIGN E,3EE,3AI"), (3146, "0TELUGU VOWEL SIGN O,3OO,3AU,1SIGN VIRAMA"),
    (3157, "0TELUGU LENGTH MARK,1AI LENGTH MARK"), (3160, "0TELUGU LETTER TSA,2DZA,2RRRA"),
    (3165, "0TELUGU LETTER NAKAARA POLLU"),
    (3168, "0TELUGU LETTER VOCALIC RR,3LL,1VOWEL SIGN VOCALIC L,4LL"),
    (3174, "0TELUGU DIGIT ZERO,2ONE,2TWO,2THREE,2FOUR,2FIVE,2SIX,2SEVEN,2EIGHT,2NINE"),
    (3191, "0TELUGU SIGN SIDDHAM,1FRACTION DIGIT ZERO FOR ODD POWERS OF FOUR,
      3ONE FOR ODD POWERS OF FOUR,3TWO FOR ODD POWERS OF FOUR,3THREE FOR ODD POWERS OF FOUR,
      3ONE FOR EVEN POWERS OF FOUR,3TWO FOR EVEN POWERS OF FOUR,3THREE FOR EVEN POWERS OF FOUR,
      1SIGN TUUMU,0KANNADA SIGN SPACING CANDRABINDU,2CANDRABINDU,2ANUSVARA,2VISARGA,2SIDDHAM,
      1LETTER A,2AA,2I,2II,2U,2UU,2VOCALIC R,3L"),
    (3214, "0KANNADA LETTER E,2EE,2AI"),
    (3218, "0KANNADA LETTER O,2OO,2AU,2KA,2KHA,2GA,2GHA,2NGA,2CA,2CHA,2JA,2JHA,2NYA,2TTA,2TTHA,
      2DDA,2DDHA,2NNA,2TA,2THA,2DA,2DHA,2NA"),
    (3242, "0KANNADA LETTER PA,2PHA,2BA,2BHA,2MA,2YA,2RA,2RRA,2LA,2LLA"),
    (3253, "0KANNADA LETTER VA,2SHA,2SSA,2SA,2HA"),
    (3260, "0KANNADA SIGN NUKTA,2AVAGRAHA,1VOWEL SIGN AA,3I,3II,3U,3UU,3VOCALIC R,4RR"),
    (3270, "0KANNADA VOWEL SIGN E,3EE,3AI"), (3274, "0KANNADA VOWEL SIGN O,3OO,3AU,1SIGN VIRAMA"),
    (3285, "0KANNADA LENGTH MARK,1AI LENGTH MARK"), (3293, "0KANNADA LETTER NAKAARA POLLU,2FA"),
    (3296, "0KANNADA LETTER VOCALIC RR,3LL,1VOWEL SIGN VOCALIC L,4LL"),
    (3302, "0KANNADA DIGIT ZERO,2ONE,2TWO,2THREE,2FOUR,2FIVE,2SIX,2SEVEN,2EIGHT,2NINE"),
    (3313, "0KANNADA SIGN JIHVAMULIYA,2UPADHMANIYA"),
    (3328, "0MALAYALAM SIGN COMBINING ANUSVARA ABOVE,2CANDRABINDU,2ANUSVARA,2VISARGA,
      1LETTER VEDIC ANUSVARA,2A,2AA,2I,2II,2U,2UU,2VOCALIC R,3L"),
    (3342, "0MALAYALAM LETTER E,2EE,2AI"),
    (3346, "0MALAYALAM LETTER O,2OO,2AU,2KA,2KHA,2GA,2GHA,2NGA,2CA,2CHA,2JA,2JHA,2NYA,2TTA,2TTHA,
      2DDA,2DDHA,2NNA,2TA,2THA,2DA,2DHA,2NA,2NNNA,2PA,2PHA,2BA,2BHA,2MA,2YA,2RA,2RRA,2LA,2LLA,
      2LLLA,2VA,2SHA,2SSA,2SA,2HA,2TTTA,1SIGN VERTICAL BAR VIRAMA,2CIRCULAR VIRAMA,2AVAGRAHA,
      1VOWEL SIGN AA,3I,3II,3U,3UU,3VOCALIC R,4RR"),
    (3398, "0MALAYALAM VOWEL SIGN E,3EE,3AI"),
    (3402, "0MALAYALAM VOWEL SIGN O,3OO,3AU,1SIGN VIRAMA,1LETTER DOT REPH,1SIGN PARA"),
    (3412, "0MALAYALAM LETTER CHILLU M,3Y,3LLL,1AU LENGTH MARK,
      1FRACTION ONE ONE-HUNDRED-AND-SIXTIETH,3FORTIETH,2THREE EIGHTIETHS,2ONE TWENTIETH,3TENTH,
      2THREE TWENTIETHS,2ONE FIFTH,1LETTER ARCHAIC II,2VOCALIC RR,3LL,1VOWEL SIGN VOCALIC L,4LL"),
    (3430, "0MALAYALAM DIGIT ZERO,2ONE,2TWO,2THREE,2FOUR,2FIVE,2SIX,2SEVEN,2EIGHT,2NINE,
      1NUMBER TEN,2ONE HUNDRED,3THOUSAND,1FRACTION ONE QUARTER,3HALF,2THREE QUARTERS,
      2ONE SIXTEENTH,3EIGHTH,2THREE SIXTEENTHS,1DATE MARK,1LETTER CHILLU NN,3N,3RR,3L,3LL,3K"),
    (3457, "0SINHALA SIGN CANDRABINDU,2ANUSVARAYA,2VISARGAYA"),
    (3461, "0SINHALA LETTER AYANNA,2AAYANNA,2AEYANNA,2AEEYANNA,2IYANNA,2IIYANNA,2UYANNA,2UUYANNA,
      2IRUYANNA,2IRUUYANNA,2ILUYANNA,2ILUUYANNA,2EYANNA,2EEYANNA,2AIYANNA,2OYANNA,2OOYANNA,
      2AUYANNA"),
    (3482, "0SINHALA LETTER ALPAPRAANA KAYANNA,2MAHAAPRAANA KAYANNA,2ALPAPRAANA GAYANNA,
      2MAHAAPRAANA GAYANNA,2KANTAJA NAASIKYAYA,2SANYAKA GAYANNA,2ALPAPRAANA CAYANNA,
      2MAHAAPRAANA CAYANNA,2ALPAPRAANA JAYANNA,2MAHAAPRAANA JAYANNA,2TAALUJA NAASIKYAYA,
      3SANYOOGA NAAKSIKYAYA,2SANYAKA JAYANNA,2ALPAPRAANA TTAYANNA,2MAHAAPRAANA TTAYANNA,
      2ALPAPRAANA DDAYANNA,2MAHAAPRAANA DDAYANNA,2MUURDHAJA NAYANNA,2SANYAKA DDAYANNA,
      2ALPAPRAANA TAYANNA,2MAHAAPRAANA TAYANNA,2ALPAPRAANA DAYANNA,2MAHAAPRAANA DAYANNA,
      2DANTAJA NAYANNA"),
    (3507, "0SINHALA LETTER SANYAKA DAYANNA,2ALPAPRAANA PAYANNA,2MAHAAPRAANA PAYANNA,
      2ALPAPRAANA BAYANNA,2MAHAAPRAANA BAYANNA,2MAYANNA,2AMBA BAYANNA,2YAYANNA,2RAYANNA"),
    (3517, "0SINHALA LETTER DANTAJA LAYANNA"),
    (3520, "0SINHALA LETTER VAYANNA,2TAALUJA SAYANNA,2MUURDHAJA SAYANNA,2DANTAJA SAYANNA,2HAYANNA,
      2MUURDHAJA LAYANNA,2FAYANNA"),
    (3530, "0SINHALA SIGN AL-LAKUNA"),
    (3535, "0SINHALA VOWEL SIGN AELA-PILLA,3KETTI AEDA-PILLA,3DIGA AEDA-PILLA,3KETTI IS-PILLA,
      3DIGA IS-PILLA,3KETTI PAA-PILLA"),
    (3542, "0SINHALA VOWEL SIGN DIGA PAA-PILLA"),
    (3544, "0SINHALA VOWEL SIGN GAETTA-PILLA,3KOMBUVA,3DIGA KOMBUVA,3KOMBU DEKA,
      3KOMBUVA HAA AELA-PILLA,5DIGA AELA-PILLA,5GAYANUKITTA,3GAYANUKITTA"),
    (3558, "0SINHALA LITH DIGIT ZERO,3ONE,3TWO,3THREE,3FOUR,3FIVE,3SIX,3SEVEN,3EIGHT,3NINE"),
    (3570, "0SINHALA VOWEL SIGN DIGA GAETTA-PILLA,4GAYANUKITTA,1PUNCTUATION KUNDDALIYA"),
    (3585, "0THAI CHARACTER KO KAI,2KHO KHAI,3KHUAT,3KHWAI,3KHON,3RAKHANG,2NGO NGU,2CHO CHAN,
      3CHING,3CHANG,2SO SO,2CHO CHOE,2YO YING,2DO CHADA,2TO PATAK,2THO THAN,3NANGMONTHO,3PHUTHAO,
      2NO NEN,2DO DEK,2TO TAO,2THO THUNG,3THAHAN,3THONG,2NO NU,2BO BAIMAI,2PO PLA,2PHO PHUNG,
      2FO FA,2PHO PHAN,2FO FAN,2PHO SAMPHAO,2MO MA,2YO YAK,2RO RUA,2RU,2LO LING,2LU,2WO WAEN,
      2SO SALA,3RUSI,3SUA,2HO HIP,2LO CHULA,2O ANG,2HO NOKHUK,2PAIYANNOI,2SARA A,2MAI HAN-AKAT,
      2SARA AA,3AM,3I,3II,3UE,3UEE,3U,3UU,2PHINTHU"),
    (3647, "0THAI CURRENCY SYMBOL BAHT,1CHARACTER SARA E,3AE,3O,3AI MAIMUAN,4MAIMALAI,2LAKKHANGYAO,
      2MAIYAMOK,2MAITAIKHU,2MAI EK,3THO,3TRI,3CHATTAWA,2THANTHAKHAT,2NIKHAHIT,2YAMAKKAN,2FONGMAN,
      1DIGIT ZERO,2ONE,2TWO,2THREE,2FOUR,2FIVE,2SIX,2SEVEN,2EIGHT,2NINE,1CHARACTER ANGKHANKHU,
      2KHOMUT"),
    (3713, "0LAO LETTER KO,2KHO SUNG"), (3716, "0LAO LETTER KHO TAM"),
    (3718, "0LAO LETTER PALI GHA,2NGO,2CO,2PALI CHA,2SO TAM"),
    (3724, "0LAO LETTER PALI JHA,2NYO,2PALI NYA,3TTA,3TTHA,3DDA,3DDHA,3NNA,2DO,2TO,2THO SUNG,3TAM,
      2PALI DHA,2NO,2BO,2PO,2PHO SUNG,2FO TAM,2PHO TAM,2FO SUNG,2PALI BHA,2MO,2YO,2LO LING"),
    (3749, "0LAO LETTER LO LOOT"),
    (3751, "0LAO LETTER WO,2SANSKRIT SHA,3SSA,2SO SUNG,2HO SUNG,2PALI LLA,2O,2HO TAM,1ELLIPSIS,
      1VOWEL SIGN A,3MAI KAN,3AA,3AM,3I,3II,3Y,3YY,3U,3UU,1SIGN PALI VIRAMA,1VOWEL SIGN MAI KON,
      1SEMIVOWEL SIGN LO,3NYO"),
    (3776, "0LAO VOWEL SIGN E,3EI,3O,3AY,3AI"), (3782, "0LAO KO LA"),
    (3784, "0LAO TONE MAI EK,3THO,3TI,3CATAWA,1CANCELLATION MARK,1NIGGAHITA"),
    (3792, "0LAO DIGIT ZERO,2ONE,2TWO,2THREE,2FOUR,2FIVE,2SIX,2SEVEN,2EIGHT,2NINE"),
    (3804, "0LAO HO NO,2MO,1LETTER KHMU GO,3NYO"),
    (3840, "0TIBETAN SYLLABLE OM,1MARK GTER YIG MGO TRUNCATED A,5-UM RNAM BCAD MA,7GTER TSHEG MA,
      2INITIAL YIG MGO MDUN MA,2CLOSING YIG MGO SGAB MA,2CARET YIG MGO PHUR SHAD MA,
      2YIG MGO TSHEG SHAD MA,2SBRUL SHAD,2BSKUR YIG MGO,2BKA- SHOG YIG MGO,2INTERSYLLABIC TSHEG,
      2DELIMITER TSHEG BSTAR,2SHAD,2NYIS SHAD,2TSHEG SHAD,2NYIS TSHEG SHAD,2RIN CHEN SPUNGS SHAD,
      2RGYA GRAM SHAD,2CARET -DZUD RTAGS ME LONG CAN,2GTER TSHEG,1LOGOTYPE SIGN CHAD RTAGS,
      3LHAG RTAGS,1ASTROLOGICAL SIGN SGRA GCAN -CHAR RTAGS,3-KHYUD PA,3SDONG TSHUGS,
      1SIGN RDEL DKAR GCIG,4GNYIS,4GSUM,3NAG GCIG,4GNYIS,3DKAR RDEL NAG,1DIGIT ZERO,2ONE,2TWO,
      2THREE,2FOUR,2FIVE,2SIX,2SEVEN,2EIGHT,2NINE,2HALF ONE,3TWO,3THREE,3FOUR,3FIVE,3SIX,3SEVEN,
      3EIGHT,3NINE,3ZERO,1MARK BSDUS RTAGS,2NGAS BZUNG NYI ZLA,2CARET -DZUD RTAGS BZHI MIG CAN,
      2NGAS BZUNG SGOR RTAGS,2CHE MGO,2TSA -PHRU,2GUG RTAGS GYON,4GYAS,2ANG KHANG GYON,4GYAS,
      1SIGN YAR TSHES,2MAR TSHES,1LETTER KA,2KHA,2GA,2GHA,2NGA,2CA,2CHA,2JA"),
    (3913, "0TIBETAN LETTER NYA,2TTA,2TTHA,2DDA,2DDHA,2NNA,2TA,2THA,2DA,2DHA,2NA,2PA,2PHA,2BA,2BHA,
      2MA,2TSA,2TSHA,2DZA,2DZHA,2WA,2ZHA,2ZA,2-A,2YA,2RA,2LA,2SHA,2SSA,2SA,2HA,2A,2KSSA,
      2FIXED-FORM RA,2KKA,2RRA"),
    (3953, "0TIBETAN VOWEL SIGN AA,3I,3II,3U,3UU,3VOCALIC R,4RR,4L,4LL,3E,3EE,3O,3OO,
      1SIGN RJES SU NGA RO,2RNAM BCAD,1VOWEL SIGN REVERSED I,4II,1SIGN NYI ZLA NAA DA,2SNA LDAN,
      1MARK HALANTA,2PALUTA,1SIGN LCI RTAGS,2YANG RTAGS,2LCE TSA CAN,2MCHU CAN,2GRU CAN RGYINGS,
      3MED RGYINGS,2INVERTED MCHU CAN,1SUBJOINED SIGN LCE TSA CAN,3MCHU CAN,3INVERTED MCHU CAN,
      2LETTER KA,3KHA,3GA,3GHA,3NGA,3CA,3CHA,3JA"),
    (3993, "0TIBETAN SUBJOINED LETTER NYA,3TTA,3TTHA,3DDA,3DDHA,3NNA,3TA,3THA,3DA,3DHA,3NA,3PA,
      3PHA,3BA,3BHA,3MA,3TSA,3TSHA,3DZA,3DZHA,3WA,3ZHA,3ZA,3-A,3YA,3RA,3LA,3SHA,3SSA,3SA,3HA,3A,
      3KSSA,3FIXED-FORM WA,5YA,5RA"),
    (4030, "0TIBETAN KU RU KHA,3KHA BZHI MIG CAN,1CANTILLATION SIGN HEAVY BEAT,3LIGHT BEAT,
      3CANG TE-U,3SBUB -CHAL,1SYMBOL DRIL BU,2RDO RJE,2PADMA GDAN,2RDO RJE RGYA GRAM,2PHUR PA,
      2NOR BU,3BU NYIS -KHYIL,4GSUM -KHYIL,4BZHI -KHYIL"),
    (4046, "0TIBETAN SIGN RDEL NAG RDEL DKAR,4GSUM,1MARK BSKA- SHOG GI MGO RGYAN,
      2MNYAM YIG GI MGO RGYAN,2NYIS TSHEG,2INITIAL BRDA RNYING YIG MGO MDUN MA,
      2CLOSING BRDA RNYING YIG MGO SGAB MA,0RIGHT-FACING SVASTI SIGN,0LEFT-FACING SVASTI SIGN,
      0RIGHT-FACING SVASTI SIGN WITH DOTS,0LEFT-FACING SVASTI SIGN WITH DOTS,
      0TIBETAN MARK LEADING MCHAN RTAGS,2TRAILING MCHAN RTAGS"),
    (4096, "0MYANMAR LETTER KA,2KHA,2GA,2GHA,2NGA,2CA,2CHA,2JA,2JHA,2NYA,2NNYA,2TTA,2TTHA,2DDA,
      2DDHA,2NNA,2TA,2THA,2DA,2DHA,2NA,2PA,2PHA,2BA,2BHA,2MA,2YA,2RA,2LA,2WA,2SA,2HA,2LLA,2A,
      2SHAN A,2I,2II,2U,2UU,2E,2MON E,2O,2AU,1VOWEL SIGN TALL AA,3AA,3I,3II,3U,3UU,3E,3AI,3MON II,
      4O,3E ABOVE,1SIGN ANUSVARA,2DOT BELOW,2VISARGA,2VIRAMA,2ASAT,1CONSONANT SIGN MEDIAL YA,4RA,
      4WA,4HA,1LETTER GREAT SA,1DIGIT ZERO,2ONE,2TWO,2THREE,2FOUR,2FIVE,2SIX,2SEVEN,2EIGHT,2NINE,
      1SIGN LITTLE SECTION,2SECTION,1SYMBOL LOCATIVE,2COMPLETED,2AFOREMENTIONED,2GENITIVE,
      1LETTER SHA,2SSA,2VOCALIC R,3RR,3L,3LL,1VOWEL SIGN VOCALIC R,4RR,4L,4LL,1LETTER MON NGA,3JHA,
      3BBA,3BBE,1CONSONANT SIGN MON MEDIAL NA,5MA,5LA,1LETTER SGAW KAREN SHA,
      1VOWEL SIGN SGAW KAREN EU,1TONE MARK SGAW KAREN HATHI,5KE PHO,1LETTER WESTERN PWO KAREN THA,
      5PWA,1VOWEL SIGN WESTERN PWO KAREN EU,6UE,1SIGN WESTERN PWO KAREN TONE-1,62,63,64,65,
      1LETTER EASTERN PWO KAREN NNA,5YWA,5GHWA,1VOWEL SIGN GEBA KAREN I,3KAYAH OE,4U,4EE,
      1LETTER SHAN KA,3KHA,3GA,3CA,3ZA,3NYA,3DA,3NA,3PHA,3FA,3BA,3THA,3HA,
      1CONSONANT SIGN SHAN MEDIAL WA,1VOWEL SIGN SHAN AA,4E,4E ABOVE,4FINAL Y,1SIGN SHAN TONE-2,43,
      45,46,3COUNCIL TONE-2,53,4EMPHATIC TONE,1LETTER RUMAI PALAUNG FA,1SIGN RUMAI PALAUNG TONE-5,
      1SHAN DIGIT ZERO,3ONE,3TWO,3THREE,3FOUR,3FIVE,3SIX,3SEVEN,3EIGHT,3NINE,1SIGN KHAMTI TONE-1,
      43,1VOWEL SIGN AITON A,4AI,1SYMBOL SHAN ONE,3EXCLAMATION,0GEORGIAN CAPITAL LETTER AN,3BAN,
      3GAN,3DON,3EN,3VIN,3ZEN,3TAN,3IN,3KAN,3LAS,3MAN,3NAR,3ON,3PAR,3ZHAR,3RAE,3SAN,3TAR,3UN,3PHAR,
      3KHAR,3GHAN,3QAR,3SHIN,3CHIN,3CAN,3JIL,3CIL,3CHAR,3XAN,3JHAN,3HAE,3HE,3HIE,3WE,3HAR,3HOE"),
    (4295, "0GEORGIAN CAPITAL LETTER YN"), (4301, "0GEORGIAN CAPITAL LETTER AEN"),
    (4304, "0GEORGIAN LETTER AN,2BAN,2GAN,2DON,2EN,2VIN,2ZEN,2TAN,2IN,2KAN,2LAS,2MAN,2NAR,2ON,2PAR,
      2ZHAR,2RAE,2SAN,2TAR,2UN,2PHAR,2KHAR,2GHAN,2QAR,2SHIN,2CHIN,2CAN,2JIL,2CIL,2CHAR,2XAN,2JHAN,
      2HAE,2HE,2HIE,2WE,2HAR,2HOE,2FI,2YN,2ELIFI,2TURNED GAN,2AIN,1PARAGRAPH SEPARATOR,
      0MODIFIER LETTER GEORGIAN NAR,0GEORGIAN LETTER AEN,2HARD SIGN,2LABIAL SIGN,
      0HANGUL CHOSEONG KIYEOK,2SSANGKIYEOK,2NIEUN,2TIKEUT,2SSANGTIKEUT,2RIEUL,2MIEUM,2PIEUP,
      2SSANGPIEUP,2SIOS,2SSANGSIOS,2IEUNG,2CIEUC,2SSANGCIEUC,2CHIEUCH,2KHIEUKH,2THIEUTH,2PHIEUPH,
      2HIEUH,2NIEUN-KIYEOK,2SSANGNIEUN,2NIEUN-TIKEUT,3PIEUP,2TIKEUT-KIYEOK,2RIEUL-NIEUN,
      2SSANGRIEUL,2RIEUL-HIEUH,2KAPYEOUNRIEUL,2MIEUM-PIEUP,2KAPYEOUNMIEUM,2PIEUP-KIYEOK,3NIEUN,
      3TIKEUT,3SIOS,3SIOS-KIYEOK,4TIKEUT,4PIEUP,3SSANGSIOS,3SIOS-CIEUC,3CIEUC,3CHIEUCH,3THIEUTH,
      3PHIEUPH,2KAPYEOUNPIEUP,2KAPYEOUNSSANGPIEUP,2SIOS-KIYEOK,3NIEUN,3TIKEUT,3RIEUL,3MIEUM,3PIEUP,
      3PIEUP-KIYEOK,3SSANGSIOS,3IEUNG,3CIEUC,3CHIEUCH,3KHIEUKH,3THIEUTH,3PHIEUPH,3HIEUH,
      2CHITUEUMSIOS,2CHITUEUMSSANGSIOS,2CEONGCHIEUMSIOS,2CEONGCHIEUMSSANGSIOS,2PANSIOS,
      2IEUNG-KIYEOK,3TIKEUT,3MIEUM,3PIEUP,3SIOS,3PANSIOS,2SSANGIEUNG,2IEUNG-CIEUC,3CHIEUCH,
      3THIEUTH,3PHIEUPH,2YESIEUNG,2CIEUC-IEUNG,2CHITUEUMCIEUC,2CHITUEUMSSANGCIEUC,
      2CEONGCHIEUMCIEUC,2CEONGCHIEUMSSANGCIEUC,2CHIEUCH-KHIEUKH,3HIEUH,2CHITUEUMCHIEUCH,
      2CEONGCHIEUMCHIEUCH,2PHIEUPH-PIEUP,2KAPYEOUNPHIEUPH,2SSANGHIEUH,2YEORINHIEUH,2KIYEOK-TIKEUT,
      2NIEUN-SIOS,3CIEUC,3HIEUH,2TIKEUT-RIEUL,2FILLER,1JUNGSEONG FILLER,2A,2AE,2YA,2YAE,2EO,2E,
      2YEO,2YE,2O,2WA,2WAE,2OE,2YO,2U,2WEO,2WE,2WI,2YU,2EU,2YI,2I,2A-O,3U,2YA-O,3YO,2EO-O,3U,3EU,
      2YEO-O,3U,2O-EO,3E,3YE,3O,3U,2YO-YA,3YAE,3YEO,3O,3I,2U-A,3AE,3EO-EU,3YE,3U,2YU-A,3EO,3E,3YEO,
      3YE,3U,3I,2EU-U,3EU,2YI-U,2I-A,3YA,3O,3U,3EU,3ARAEA,2ARAEA,2ARAEA-EO,3U,3I,2SSANGARAEA,2A-EU,
      2YA-U,2YEO-YA,2O-YA,3YAE,1JONGSEONG KIYEOK,2SSANGKIYEOK,2KIYEOK-SIOS,2NIEUN,2NIEUN-CIEUC,
      3HIEUH,2TIKEUT,2RIEUL,2RIEUL-KIYEOK,3MIEUM,3PIEUP,3SIOS,3THIEUTH,3PHIEUPH,3HIEUH,2MIEUM,
      2PIEUP,2PIEUP-SIOS,2SIOS,2SSANGSIOS,2IEUNG,2CIEUC,2CHIEUCH,2KHIEUKH,2THIEUTH,2PHIEUPH,2HIEUH,
      2KIYEOK-RIEUL,3SIOS-KIYEOK,2NIEUN-KIYEOK,3TIKEUT,3SIOS,3PANSIOS,3THIEUTH,2TIKEUT-KIYEOK,
      3RIEUL,2RIEUL-KIYEOK-SIOS,3NIEUN,3TIKEUT,3TIKEUT-HIEUH,2SSANGRIEUL,2RIEUL-MIEUM-KIYEOK,4SIOS,
      3PIEUP-SIOS,4HIEUH,3KAPYEOUNPIEUP,3SSANGSIOS,3PANSIOS,3KHIEUKH,3YEORINHIEUH,2MIEUM-KIYEOK,
      3RIEUL,3PIEUP,3SIOS,3SSANGSIOS,3PANSIOS,3CHIEUCH,3HIEUH,2KAPYEOUNMIEUM,2PIEUP-RIEUL,3PHIEUPH,
      3HIEUH,2KAPYEOUNPIEUP,2SIOS-KIYEOK,3TIKEUT,3RIEUL,3PIEUP,2PANSIOS,2IEUNG-KIYEOK,3SSANGKIYEOK,
      2SSANGIEUNG,2IEUNG-KHIEUKH,2YESIEUNG,2YESIEUNG-SIOS,3PANSIOS,2PHIEUPH-PIEUP,2KAPYEOUNPHIEUPH,
      2HIEUH-NIEUN,3RIEUL,3MIEUM,3PIEUP,2YEORINHIEUH,2KIYEOK-NIEUN,3PIEUP,3CHIEUCH,3KHIEUKH,3HIEUH,
      2SSANGNIEUN,0ETHIOPIC SYLLABLE HA,2HU,2HI,2HAA,2HEE,2HE,2HO,2HOA,2LA,2LU,2LI,2LAA,2LEE,2LE,
      2LO,2LWA,2HHA,2HHU,2HHI,2HHAA,2HHEE,2HHE,2HHO,2HHWA,2MA,2MU,2MI,2MAA,2MEE,2ME,2MO,2MWA,2SZA,
      2SZU,2SZI,2SZAA,2SZEE,2SZE,2SZO,2SZWA,2RA,2RU,2RI,2RAA,2REE,2RE,2RO,2RWA,2SA,2SU,2SI,2SAA,
      2SEE,2SE,2SO,2SWA,2SHA,2SHU,2SHI,2SHAA,2SHEE,2SHE,2SHO,2SHWA,2QA,2QU,2QI,2QAA,2QEE,2QE,2QO,
      2QOA,2QWA"),
    (4682, "0ETHIOPIC SYLLABLE QWI,2QWAA,2QWEE,2QWE"),
    (4688, "0ETHIOPIC SYLLABLE QHA,2QHU,2QHI,2QHAA,2QHEE,2QHE,2QHO"),
    (4696, "0ETHIOPIC SYLLABLE QHWA"), (4698, "0ETHIOPIC SYLLABLE QHWI,2QHWAA,2QHWEE,2QHWE"),
    (4704, "0ETHIOPIC SYLLABLE BA,2BU,2BI,2BAA,2BEE,2BE,2BO,2BWA,2VA,2VU,2VI,2VAA,2VEE,2VE,2VO,
      2VWA,2TA,2TU,2TI,2TAA,2TEE,2TE,2TO,2TWA,2CA,2CU,2CI,2CAA,2CEE,2CE,2CO,2CWA,2XA,2XU,2XI,2XAA,
      2XEE,2XE,2XO,2XOA,2XWA"),
    (4746, "0ETHIOPIC SYLLABLE XWI,2XWAA,2XWEE,2XWE"),
    (4752, "0ETHIOPIC SYLLABLE NA,2NU,2NI,2NAA,2NEE,2NE,2NO,2NWA,2NYA,2NYU,2NYI,2NYAA,2NYEE,2NYE,
      2NYO,2NYWA,2GLOTTAL A,3U,3I,3AA,3EE,3E,3O,3WA,2KA,2KU,2KI,2KAA,2KEE,2KE,2KO,2KOA,2KWA"),
    (4786, "0ETHIOPIC SYLLABLE KWI,2KWAA,2KWEE,2KWE"),
    (4792, "0ETHIOPIC SYLLABLE KXA,2KXU,2KXI,2KXAA,2KXEE,2KXE,2KXO"),
    (4800, "0ETHIOPIC SYLLABLE KXWA"), (4802, "0ETHIOPIC SYLLABLE KXWI,2KXWAA,2KXWEE,2KXWE"),
    (4808, "0ETHIOPIC SYLLABLE WA,2WU,2WI,2WAA,2WEE,2WE,2WO,2WOA,2PHARYNGEAL A,3U,3I,3AA,3EE,3E,
      3O"),
    (4824, "0ETHIOPIC SYLLABLE ZA,2ZU,2ZI,2ZAA,2ZEE,2ZE,2ZO,2ZWA,2ZHA,2ZHU,2ZHI,2ZHAA,2ZHEE,2ZHE,
      2ZHO,2ZHWA,2YA,2YU,2YI,2YAA,2YEE,2YE,2YO,2YOA,2DA,2DU,2DI,2DAA,2DEE,2DE,2DO,2DWA,2DDA,2DDU,
      2DDI,2DDAA,2DDEE,2DDE,2DDO,2DDWA,2JA,2JU,2JI,2JAA,2JEE,2JE,2JO,2JWA,2GA,2GU,2GI,2GAA,2GEE,
      2GE,2GO,2GOA,2GWA"),
    (4882, "0ETHIOPIC SYLLABLE GWI,2GWAA,2GWEE,2GWE"),
    (4888, "0ETHIOPIC SYLLABLE GGA,2GGU,2GGI,2GGAA,2GGEE,2GGE,2GGO,2GGWAA,2THA,2THU,2THI,2THAA,
      2THEE,2THE,2THO,2THWA,2CHA,2CHU,2CHI,2CHAA,2CHEE,2CHE,2CHO,2CHWA,2PHA,2PHU,2PHI,2PHAA,2PHEE,
      2PHE,2PHO,2PHWA,2TSA,2TSU,2TSI,2TSAA,2TSEE,2TSE,2TSO,2TSWA,2TZA,2TZU,2TZI,2TZAA,2TZEE,2TZE,
      2TZO,2TZOA,2FA,2FU,2FI,2FAA,2FEE,2FE,2FO,2FWA,2PA,2PU,2PI,2PAA,2PEE,2PE,2PO,2PWA,2RYA,2MYA,
      2FYA"),
    (4957, "0ETHIOPIC COMBINING GEMINATION AND VOWEL LENGTH MARK,2VOWEL LENGTH MARK,
      2GEMINATION MARK,1SECTION MARK,1WORDSPACE,1FULL STOP,1COMMA,1SEMICOLON,1COLON,1PREFACE COLON,
      1QUESTION MARK,1PARAGRAPH SEPARATOR,1DIGIT ONE,2TWO,2THREE,2FOUR,2FIVE,2SIX,2SEVEN,2EIGHT,
      2NINE,1NUMBER TEN,2TWENTY,2THIRTY,2FORTY,2FIFTY,2SIXTY,2SEVENTY,2EIGHTY,2NINETY,2HUNDRED,
      2TEN THOUSAND"),
    (4992, "0ETHIOPIC SYLLABLE SEBATBEIT MWA,2MWI,2MWEE,2MWE,2SEBATBEIT BWA,2BWI,2BWEE,2BWE,
      2SEBATBEIT FWA,2FWI,2FWEE,2FWE,2SEBATBEIT PWA,2PWI,2PWEE,2PWE,1TONAL MARK YIZET,3DERET,
      3RIKRIK,3SHORT RIKRIK,3DIFAT,3KENAT,3CHIRET,3HIDET,3DERET-HIDET,3KURT"),
    (5024, "0CHEROKEE LETTER A,2E,2I,2O,2U,2V,2GA,2KA,2GE,2GI,2GO,2GU,2GV,2HA,2HE,2HI,2HO,2HU,2HV,
      2LA,2LE,2LI,2LO,2LU,2LV,2MA,2ME,2MI,2MO,2MU,2NA,2HNA,2NAH,2NE,2NI,2NO,2NU,2NV,2QUA,2QUE,2QUI,
      2QUO,2QUU,2QUV,2SA,2S,2SE,2SI,2SO,2SU,2SV,2DA,2TA,2DE,2TE,2DI,2TI,2DO,2DU,2DV,2DLA,2TLA,2TLE,
      2TLI,2TLO,2TLU,2TLV,2TSA,2TSE,2TSI,2TSO,2TSU,2TSV,2WA,2WE,2WI,2WO,2WU,2WV,2YA,2YE,2YI,2YO,
      2YU,2YV,2MV"),
    (5112, "0CHEROKEE SMALL LETTER YE,3YI,3YO,3YU,3YV,3MV"),
    (5120, "0CANADIAN SYLLABICS HYPHEN,2E,2AAI,2I,2II,2O,2OO,2Y-CREE OO,2CARRIER EE,3I,2A,2AA,2WE,
      2WEST-CREE WE,2WI,2WEST-CREE WI,2WII,2WEST-CREE WII,2WO,2WEST-CREE WO,2WOO,2WEST-CREE WOO,
      2NASKAPI WOO,2WA,2WEST-CREE WA,2WAA,2WEST-CREE WAA,2NASKAPI WAA,2AI,2Y-CREE W,2GLOTTAL STOP,
      2FINAL ACUTE,3GRAVE,3BOTTOM HALF RING,3TOP HALF RING,3RIGHT HALF RING,3RING,3DOUBLE ACUTE,
      4SHORT VERTICAL STROKES,3MIDDLE DOT,3SHORT HORIZONTAL STROKE,3PLUS,3DOWN TACK,2EN,2IN,2ON,
      2AN,2PE,2PAAI,2PI,2PII,2PO,2POO,2Y-CREE POO,2CARRIER HEE,3HI,2PA,2PAA,2PWE,2WEST-CREE PWE,
      2PWI,2WEST-CREE PWI,2PWII,2WEST-CREE PWII,2PWO,2WEST-CREE PWO,2PWOO,2WEST-CREE PWOO,2PWA,
      2WEST-CREE PWA,2PWAA,2WEST-CREE PWAA,2Y-CREE PWAA,2P,2WEST-CREE P,2CARRIER H,2TE,2TAAI,2TI,
      2TII,2TO,2TOO,2Y-CREE TOO,2CARRIER DEE,3DI,2TA,2TAA,2TWE,2WEST-CREE TWE,2TWI,2WEST-CREE TWI,
      2TWII,2WEST-CREE TWII,2TWO,2WEST-CREE TWO,2TWOO,2WEST-CREE TWOO,2TWA,2WEST-CREE TWA,2TWAA,
      2WEST-CREE TWAA,2NASKAPI TWAA,2T,2TTE,2TTI,2TTO,2TTA,2KE,2KAAI,2KI,2KII,2KO,2KOO,2Y-CREE KOO,
      2KA,2KAA,2KWE,2WEST-CREE KWE,2KWI,2WEST-CREE KWI,2KWII,2WEST-CREE KWII,2KWO,2WEST-CREE KWO,
      2KWOO,2WEST-CREE KWOO,2KWA,2WEST-CREE KWA,2KWAA,2WEST-CREE KWAA,2NASKAPI KWAA,2K,2KW,
      2SOUTH-SLAVEY KEH,4KIH,4KOH,4KAH,2CE,2CAAI,2CI,2CII,2CO,2COO,2Y-CREE COO,2CA,2CAA,2CWE,
      2WEST-CREE CWE,2CWI,2WEST-CREE CWI,2CWII,2WEST-CREE CWII,2CWO,2WEST-CREE CWO,2CWOO,
      2WEST-CREE CWOO,2CWA,2WEST-CREE CWA,2CWAA,2WEST-CREE CWAA,2NASKAPI CWAA,2C,2SAYISI TH,2ME,
      2MAAI,2MI,2MII,2MO,2MOO,2Y-CREE MOO,2MA,2MAA,2MWE,2WEST-CREE MWE,2MWI,2WEST-CREE MWI,2MWII,
      2WEST-CREE MWII,2MWO,2WEST-CREE MWO,2MWOO,2WEST-CREE MWOO,2MWA,2WEST-CREE MWA,2MWAA,
      2WEST-CREE MWAA,2NASKAPI MWAA,2M,2WEST-CREE M,2MH,2ATHAPASCAN M,2SAYISI M,2NE,2NAAI,2NI,2NII,
      2NO,2NOO,2Y-CREE NOO,2NA,2NAA,2NWE,2WEST-CREE NWE,2NWA,2WEST-CREE NWA,2NWAA,2WEST-CREE NWAA,
      2NASKAPI NWAA,2N,2CARRIER NG,2NH,2LE,2LAAI,2LI,2LII,2LO,2LOO,2Y-CREE LOO,2LA,2LAA,2LWE,
      2WEST-CREE LWE,2LWI,2WEST-CREE LWI,2LWII,2WEST-CREE LWII,2LWO,2WEST-CREE LWO,2LWOO,
      2WEST-CREE LWOO,2LWA,2WEST-CREE LWA,2LWAA,2WEST-CREE LWAA,2L,2WEST-CREE L,2MEDIAL L,2SE,
      2SAAI,2SI,2SII,2SO,2SOO,2Y-CREE SOO,2SA,2SAA,2SWE,2WEST-CREE SWE,2SWI,2WEST-CREE SWI,2SWII,
      2WEST-CREE SWII,2SWO,2WEST-CREE SWO,2SWOO,2WEST-CREE SWOO,2SWA,2WEST-CREE SWA,2SWAA,
      2WEST-CREE SWAA,2NASKAPI SWAA,2S,2ATHAPASCAN S,2SW,2BLACKFOOT S,2MOOSE-CREE SK,2NASKAPI SKW,
      3S-W,3SPWA,3STWA,3SKWA,3SCWA,2SHE,2SHI,2SHII,2SHO,2SHOO,2SHA,2SHAA,2SHWE,2WEST-CREE SHWE,
      2SHWI,2WEST-CREE SHWI,2SHWII,2WEST-CREE SHWII,2SHWO,2WEST-CREE SHWO,2SHWOO,2WEST-CREE SHWOO,
      2SHWA,2WEST-CREE SHWA,2SHWAA,2WEST-CREE SHWAA,2SH,2YE,2YAAI,2YI,2YII,2YO,2YOO,2Y-CREE YOO,
      2YA,2YAA,2YWE,2WEST-CREE YWE,2YWI,2WEST-CREE YWI,2YWII,2WEST-CREE YWII,2YWO,2WEST-CREE YWO,
      2YWOO,2WEST-CREE YWOO,2YWA,2WEST-CREE YWA,2YWAA,2WEST-CREE YWAA,2NASKAPI YWAA,2Y,
      2BIBLE-CREE Y,2WEST-CREE Y,2SAYISI YI,2RE,2R-CREE RE,2WEST-CREE LE,2RAAI,2RI,2RII,2RO,2ROO,
      2WEST-CREE LO,2RA,2RAA,2WEST-CREE LA,2RWAA,2WEST-CREE RWAA,2R,2WEST-CREE R,2MEDIAL R,2FE,
      2FAAI,2FI,2FII,2FO,2FOO,2FA,2FAA,2FWAA,2WEST-CREE FWAA,2F,2THE,2N-CREE THE,2THI,2N-CREE THI,
      2THII,2N-CREE THII,2THO,2THOO,2THA,2THAA,2THWAA,2WEST-CREE THWAA,2TH,2TTHE,2TTHI,2TTHO,2TTHA,
      2TTH,2TYE,2TYI,2TYO,2TYA,2NUNAVIK HE,3HI,3HII,3HO,3HOO,3HA,3HAA,3H,2NUNAVUT H,2HK,2QAAI,2QI,
      2QII,2QO,2QOO,2QA,2QAA,2Q,2TLHE,2TLHI,2TLHO,2TLHA,2WEST-CREE RE,4RI,4RO,4RA,2NGAAI,2NGI,
      2NGII,2NGO,2NGOO,2NGA,2NGAA,2NG,2NNG,2SAYISI SHE,3SHI,3SHO,3SHA,2WOODS-CREE THE,4THI,4THO,
      4THA,4TH,2LHI,2LHII,2LHO,2LHOO,2LHA,2LHAA,2LH,2TH-CREE THE,4THI,4THII,4THO,4THOO,4THA,4THAA,
      4TH,2AIVILIK B,2BLACKFOOT E,3I,3O,3A,3WE,3WI,3WO,3WA,3NE,3NI,3NO,3NA,3KE,3KI,3KO,3KA,
      2SAYISI HE,3HI,3HO,3HA,2CARRIER GHU,3GHO,3GHE,3GHEE,3GHI,3GHA,3RU,3RO,3RE,3REE,3RI,3RA,3WU,
      3WO,3WE,3WEE,3WI,3WA,3HWU,3HWO,3HWE,3HWEE,3HWI,3HWA,3THU,3THO,3THE,3THEE,3THI,3THA,3TTU,3TTO,
      3TTE,3TTEE,3TTI,3TTA,3PU,3PO,3PE,3PEE,3PI,3PA,3P,3GU,3GO,3GE,3GEE,3GI,3GA,3KHU,3KHO,3KHE,
      3KHEE,3KHI,3KHA,3KKU,3KKO,3KKE,3KKEE,3KKI,3KKA,3KK,3NU,3NO,3NE,3NEE,3NI,3NA,3MU,3MO,3ME,3MEE,
      3MI,3MA,3YU,3YO,3YE,3YEE,3YI,3YA,3JU,2SAYISI JU,2CARRIER JO,3JE,3JEE,3JI,2SAYISI JI,
      2CARRIER JA,3JJU,3JJO,3JJE,3JJEE,3JJI,3JJA,3LU,3LO,3LE,3LEE,3LI,3LA,3DLU,3DLO,3DLE,3DLEE,
      3DLI,3DLA,3LHU,3LHO,3LHE,3LHEE,3LHI,3LHA,3TLHU,3TLHO,3TLHE,3TLHEE,3TLHI,3TLHA,3TLU,3TLO,3TLE,
      3TLEE,3TLI,3TLA,3ZU,3ZO,3ZE,3ZEE,3ZI,3ZA,3Z,3INITIAL Z,3DZU,3DZO,3DZE,3DZEE,3DZI,3DZA,3SU,
      3SO,3SE,3SEE,3SI,3SA,3SHU,3SHO,3SHE,3SHEE,3SHI,3SHA,3SH,3TSU,3TSO,3TSE,3TSEE,3TSI,3TSA,3CHU,
      3CHO,3CHE,3CHEE,3CHI,3CHA,3TTSU,3TTSO,3TTSE,3TTSEE,3TTSI,3TTSA,2CHI SIGN,2FULL STOP,2QAI,
      2NGAI,2NNGI,2NNGII,2NNGO,2NNGOO,2NNGA,2NNGAA,2WOODS-CREE THWEE,4THWI,4THWII,4THWO,4THWOO,
      4THWA,4THWAA,4FINAL TH,2BLACKFOOT W,0OGHAM SPACE MARK,1LETTER BEITH,2LUIS,2FEARN,2SAIL,2NION,
      2UATH,2DAIR,2TINNE,2COLL,2CEIRT,2MUIN,2GORT,2NGEADAL,2STRAIF,2RUIS,2AILM,2ONN,2UR,2EADHADH,
      2IODHADH,2EABHADH,2OR,2UILLEANN,2IFIN,2EAMHANCHOLL,2PEITH,1FEATHER MARK,
      1REVERSED FEATHER MARK"),
    (5792, "0RUNIC LETTER FEHU FEOH FE F,2V,2URUZ UR U,2YR,2Y,2W,2THURISAZ THURS THORN,2ETH,
      2ANSUZ A,2OS O,2AC A,2AESC,2LONG-BRANCH-OSS O,2SHORT-TWIG-OSS O,2O,2OE,2ON,2RAIDO RAD REID R,
      2KAUNA,2CEN,2KAUN K,2G,2ENG,2GEBO GYFU G,2GAR,2WUNJO WYNN W,2HAGLAZ H,2HAEGL H,
      2LONG-BRANCH-HAGALL H,2SHORT-TWIG-HAGALL H,2NAUDIZ NYD NAUD N,2SHORT-TWIG-NAUD N,2DOTTED-N,
      2ISAZ IS ISS I,2E,2JERAN J,2GER,2LONG-BRANCH-AR AE,2SHORT-TWIG-AR A,2IWAZ EOH,
      2PERTHO PEORTH P,2ALGIZ EOLHX,2SOWILO S,2SIGEL LONG-BRANCH-SOL S,2SHORT-TWIG-SOL S,2C,2Z,
      2TIWAZ TIR TYR T,2SHORT-TWIG-TYR T,2D,2BERKANAN BEORC BJARKAN B,2SHORT-TWIG-BJARKAN B,
      2DOTTED-P,2OPEN-P,2EHWAZ EH E,2MANNAZ MAN M,2LONG-BRANCH-MADR M,2SHORT-TWIG-MADR M,
      2LAUKAZ LAGU LOGR L,2DOTTED-L,2INGWAZ,2ING,2DAGAZ DAEG D,2OTHALAN ETHEL O,2EAR,2IOR,2CWEORTH,
      2CALC,2CEALC,2STAN,2LONG-BRANCH-YR,2SHORT-TWIG-YR,2ICELANDIC-YR,2Q,2X,1SINGLE PUNCTUATION,
      1MULTIPLE PUNCTUATION,1CROSS PUNCTUATION,1ARLAUG SYMBOL,1TVIMADUR SYMBOL,1BELGTHOR SYMBOL,
      1LETTER K,2SH,2OO,2FRANKS CASKET OS,4IS,4EH,4AC,4AESC"),
    (5888, "0TAGALOG LETTER A,2I,2U,2KA,2GA,2NGA,2TA,2DA,2NA,2PA,2BA,2MA,2YA,2RA,2LA,2WA,2SA,2HA,
      1VOWEL SIGN I,3U,1SIGN VIRAMA,2PAMUDPOD"),
    (5919, "0TAGALOG LETTER ARCHAIC RA,0HANUNOO LETTER A,2I,2U,2KA,2GA,2NGA,2TA,2DA,2NA,2PA,2BA,
      2MA,2YA,2RA,2LA,2WA,2SA,2HA,1VOWEL SIGN I,3U,1SIGN PAMUDPOD,0PHILIPPINE SINGLE PUNCTUATION,
      1DOUBLE PUNCTUATION"),
    (5952, "0BUHID LETTER A,2I,2U,2KA,2GA,2NGA,2TA,2DA,2NA,2PA,2BA,2MA,2YA,2RA,2LA,2WA,2SA,2HA,
      1VOWEL SIGN I,3U"),
    (5984, "0TAGBANWA LETTER A,2I,2U,2KA,2GA,2NGA,2TA,2DA,2NA,2PA,2BA,2MA,2YA"),
    (5998, "0TAGBANWA LETTER LA,2WA,2SA"), (6002, "0TAGBANWA VOWEL SIGN I,3U"),
    (6016, "0KHMER LETTER KA,2KHA,2KO,2KHO,2NGO,2CA,2CHA,2CO,2CHO,2NYO,2DA,2TTHA,2DO,2TTHO,2NNO,
      2TA,2THA,2TO,2THO,2NO,2BA,2PHA,2PO,2PHO,2MO,2YO,2RO,2LO,2VO,2SHA,2SSO,2SA,2HA,2LA,2QA,
      1INDEPENDENT VOWEL QAQ,3QAA,3QI,3QII,3QU,3QUK,3QUU,3QUUV,3RY,3RYY,3LY,3LYY,3QE,3QAI,
      3QOO TYPE ONE,5TWO,3QAU,1VOWEL INHERENT AQ,3AA,2SIGN AA,3I,3II,3Y,3YY,3U,3UU,3UA,3OE,3YA,3IE,
      3E,3AE,3AI,3OO,3AU,1SIGN NIKAHIT,2REAHMUK,2YUUKALEAPINTU,2MUUSIKATOAN,2TRIISAP,2BANTOC,
      2ROBAT,2TOANDAKHIAT,2KAKABAT,2AHSDA,2SAMYOK SANNYA,2VIRIAM,2COENG,2BATHAMASAT,2KHAN,
      2BARIYOOSAN,2CAMNUC PII KUUH,2LEK TOO,2BEYYAL,2PHNAEK MUAN,2KOOMUUT,1CURRENCY SYMBOL RIEL,
      1SIGN AVAKRAHASANYA,2ATTHACAN"),
    (6112, "0KHMER DIGIT ZERO,2ONE,2TWO,2THREE,2FOUR,2FIVE,2SIX,2SEVEN,2EIGHT,2NINE"),
    (6128, "0KHMER SYMBOL LEK ATTAK SON,4MUOY,4PII,4BEI,4BUON,4PRAM,4PRAM-MUOY,5PII,5BEI,5BUON"),
    (6144, "0MONGOLIAN BIRGA,1ELLIPSIS,1COMMA,1FULL STOP,1COLON,1FOUR DOTS,1TODO SOFT HYPHEN,
      1SIBE SYLLABLE BOUNDARY MARKER,1MANCHU COMMA,2FULL STOP,1NIRUGU,1FREE VARIATION SELECTOR ONE,
      4TWO,4THREE,1VOWEL SEPARATOR,1FREE VARIATION SELECTOR FOUR,1DIGIT ZERO,2ONE,2TWO,2THREE,
      2FOUR,2FIVE,2SIX,2SEVEN,2EIGHT,2NINE"),
    (6176, "0MONGOLIAN LETTER A,2E,2I,2O,2U,2OE,2UE,2EE,2NA,2ANG,2BA,2PA,2QA,2GA,2MA,2LA,2SA,2SHA,
      2TA,2DA,2CHA,2JA,2YA,2RA,2WA,2FA,2KA,2KHA,2TSA,2ZA,2HAA,2ZRA,2LHA,2ZHI,2CHI,
      2TODO LONG VOWEL SIGN,3E,3I,3O,3U,3OE,3UE,3ANG,3BA,3PA,3QA,3GA,3MA,3TA,3DA,3CHA,3JA,3TSA,3YA,
      3WA,3KA,3GAA,3HAA,3JIA,3NIA,3DZA,2SIBE E,3I,3IY,3UE,3U,3ANG,3KA,3GA,3HA,3PA,3SHA,3TA,3DA,3JA,
      3FA,3GAA,3HAA,3TSA,3ZA,3RAA,3CHA,3ZHA,2MANCHU I,3KA,3RA,3FA,3ZHA,2CHA WITH TWO DOTS"),
    (6272, "0MONGOLIAN LETTER ALI GALI ANUSVARA ONE,4VISARGA ONE,4DAMARU,4UBADAMA,
      4INVERTED UBADAMA,4BALUDA,4THREE BALUDA,4A,4I,4KA,4NGA,4CA,4TTA,4TTHA,4DDA,4NNA,4TA,4DA,4PA,
      4PHA,4SSA,4ZHA,4ZA,4AH,2TODO ALI GALI TA,5ZHA,2MANCHU ALI GALI GHA,5NGA,5CA,5JHA,5TTA,5DDHA,
      5TA,5DHA,5SSA,5CYA,5ZHA,5ZA,2ALI GALI HALF U,5YA,2MANCHU ALI GALI BHA,2ALI GALI DAGALGA,
      2MANCHU ALI GALI LHA"),
    (6320, "0CANADIAN SYLLABICS OY,2AY,2AAY,2WAY,2POY,2PAY,2PWOY,2TAY,2KAY,2KWAY,2MAY,2NOY,2NAY,
      2LAY,2SOY,2SAY,2SHOY,2SHAY,2SHWOY,2YOY,2YAY,2RAY,2NWI,2OJIBWAY NWI,2NWII,2OJIBWAY NWII,2NWO,
      2OJIBWAY NWO,2NWOO,2OJIBWAY NWOO,2RWEE,2RWI,2RWII,2RWO,2RWOO,2RWA,2OJIBWAY P,3T,3K,3C,3M,3N,
      3S,3SH,2EASTERN W,2WESTERN W,2FINAL SMALL RING,3RAISED DOT,2R-CREE RWE,2WEST-CREE LOO,4LAA,
      2THWE,2THWA,2TTHWE,2TTHOO,2TTHAA,2TLHWE,2TLHOO,2SAYISI SHWE,3SHOO,3HOO,2CARRIER GWU,
      3DENE GEE,3GAA,3GWA,2SAYISI JUU,2CARRIER JWA,2BEAVER DENE L,4R,2CARRIER DENTAL S"),
    (6400, "0LIMBU VOWEL-CARRIER LETTER,1LETTER KA,2KHA,2GA,2GHA,2NGA,2CA,2CHA,2JA,2JHA,2YAN,2TA,
      2THA,2DA,2DHA,2NA,2PA,2PHA,2BA,2BHA,2MA,2YA,2RA,2LA,2WA,2SHA,2SSA,2SA,2HA,2GYAN,2TRA"),
    (6432, "0LIMBU VOWEL SIGN A,3I,3U,3EE,3AI,3OO,3AU,3E,3O,1SUBJOINED LETTER YA,3RA,3WA"),
    (6448, "0LIMBU SMALL LETTER KA,3NGA,3ANUSVARA,3TA,3NA,3PA,3MA,3RA,3LA,1SIGN MUKPHRENG,
      2KEMPHRENG,2SA-I"),
    (6464, "0LIMBU SIGN LOO"),
    (6468, "0LIMBU EXCLAMATION MARK,1QUESTION MARK,1DIGIT ZERO,2ONE,2TWO,2THREE,2FOUR,2FIVE,2SIX,
      2SEVEN,2EIGHT,2NINE,0TAI LE LETTER KA,3XA,3NGA,3TSA,3SA,3YA,3TA,3THA,3LA,3PA,3PHA,3MA,3FA,
      3VA,3HA,3QA,3KHA,3TSHA,3NA,3A,3I,3EE,3EH,3U,3OO,3O,3UE,3E,3AUE,3AI"),
    (6512, "0TAI LE LETTER TONE-2,43,44,45,46"),
    (6528, "0NEW TAI LUE LETTER HIGH QA,4LOW QA,4HIGH KA,5XA,5NGA,4LOW KA,5XA,5NGA,4HIGH TSA,5SA,
      5YA,4LOW TSA,5SA,5YA,4HIGH TA,5THA,5NA,4LOW TA,5THA,5NA,4HIGH PA,5PHA,5MA,4LOW PA,5PHA,5MA,
      4HIGH FA,5VA,5LA,4LOW FA,5VA,5LA,4HIGH HA,5DA,5BA,4LOW HA,5DA,5BA,4HIGH KVA,5XVA,4LOW KVA,
      5XVA,4HIGH SUA,4LOW SUA"),
    (6576, "0NEW TAI LUE VOWEL SIGN VOWEL SHORTENER,5AA,5II,5U,5UU,5E,5AE,5O,5OA,5UE,5AY,5AAY,5UY,
      5OY,5OAY,5UEY,5IY,3LETTER FINAL V,5NG,5N,5M,5K,5D,5B,3TONE MARK-1,52"),
    (6608, "0NEW TAI LUE DIGIT ZERO,4ONE,4TWO,4THREE,4FOUR,4FIVE,4SIX,4SEVEN,4EIGHT,4NINE,
      3THAM DIGIT ONE"),
    (6622, "0NEW TAI LUE SIGN LAE,4LAEV,0KHMER SYMBOL PATHAMASAT,2MUOY KOET,2PII KOET,2BEI KOET,
      2BUON KOET,2PRAM KOET,2PRAM-MUOY KOET,3PII KOET,3BEI KOET,3BUON KOET,2DAP KOET,
      2DAP-MUOY KOET,3PII KOET,3BEI KOET,3BUON KOET,3PRAM KOET,2TUTEYASAT,2MUOY ROC,2PII ROC,
      2BEI ROC,2BUON ROC,2PRAM ROC,2PRAM-MUOY ROC,3PII ROC,3BEI ROC,3BUON ROC,2DAP ROC,
      2DAP-MUOY ROC,3PII ROC,3BEI ROC,3BUON ROC,3PRAM ROC,0BUGINESE LETTER KA,2GA,2NGA,2NGKA,2PA,
      2BA,2MA,2MPA,2TA,2DA,2NA,2NRA,2CA,2JA,2NYA,2NYCA,2YA,2RA,2LA,2VA,2SA,2A,2HA,1VOWEL SIGN I,3U,
      3E,3O,3AE"),
    (6686, "0BUGINESE PALLAWA,1END OF SECTION,0TAI THAM LETTER HIGH KA,4KHA,4KXA,3LOW KA,4KXA,4KHA,
      3NGA,3HIGH CA,4CHA,3LOW CA,4SA,4CHA,3NYA,3RATA,3HIGH RATHA,3DA,3LOW RATHA,3RANA,3HIGH TA,
      4THA,3LOW TA,4THA,3NA,3BA,3HIGH PA,4PHA,4FA,3LOW PA,4FA,4PHA,3MA,3LOW YA,3HIGH YA,3RA,3RUE,
      3LA,3LUE,3WA,3HIGH SHA,4SSA,4SA,4HA,3LLA,3A,3LOW HA,3I,3II,3U,3UU,3EE,3OO,3LAE,3GREAT SA,
      2CONSONANT SIGN MEDIAL RA,5LA,4LA TANG LAI,2SIGN MAI KANG LAI,2CONSONANT SIGN FINAL NGA,
      4LOW PA,4HIGH RATHA OR LOW PA,4MA,4BA,4SA"),
    (6752, "0TAI THAM SIGN SAKOT,2VOWEL SIGN A,4MAI SAT,4AA,4TALL AA,4I,4II,4UE,4UUE,4U,4UU,4O,
      4OA BELOW,4OY,4E,4AE,4OO,4AI,4THAM AI,4OA ABOVE,2SIGN MAI KANG,3TONE-1,42,3KHUEN TONE-3,54,
      55,3RA HAAM,3MAI SAM,3KHUEN-LUE KARAN"),
    (6783, "0TAI THAM COMBINING CRYPTOGRAMMIC DOT,2HORA DIGIT ZERO,4ONE,4TWO,4THREE,4FOUR,4FIVE,
      4SIX,4SEVEN,4EIGHT,4NINE"),
    (6800, "0TAI THAM THAM DIGIT ZERO,4ONE,4TWO,4THREE,4FOUR,4FIVE,4SIX,4SEVEN,4EIGHT,4NINE"),
    (6816, "0TAI THAM SIGN WIANG,3WIANGWAAK,3SAWAN,3KEOW,3HOY,3DOKMAI,3REVERSED ROTATED RANA,
      3MAI YAMOK,3KAAN,3KAANKUU,3SATKAAN,3SATKAANKUU,3HANG,3CAANG"),
    (6832, "0COMBINING DOUBLED CIRCUMFLEX ACCENT,1DIAERESIS-RING,1INFINITY,1DOWNWARDS ARROW,
      1TRIPLE DOT,1X-X BELOW,1WIGGLY LINE BELOW,1OPEN MARK BELOW,1DOUBLE OPEN MARK BELOW,
      1LIGHT CENTRALIZATION STROKE BELOW,1STRONG CENTRALIZATION STROKE BELOW,1PARENTHESES ABOVE,
      1DOUBLE PARENTHESES ABOVE,1PARENTHESES BELOW,2OVERLAY,1LATIN SMALL LETTER W BELOW,
      4TURNED W BELOW,1LEFT PARENTHESIS ABOVE LEFT,1RIGHT PARENTHESIS ABOVE RIGHT,
      1LEFT PARENTHESIS BELOW LEFT,1RIGHT PARENTHESIS BELOW RIGHT,1SQUARE BRACKETS ABOVE,
      1NUMBER SIGN ABOVE,1INVERTED DOUBLE ARCH ABOVE,1PLUS SIGN ABOVE,1DOUBLE PLUS SIGN ABOVE,
      4BELOW,1TRIPLE ACUTE ACCENT,1LATIN SMALL LETTER INSULAR G,5R,5T"),
    (6912, "0BALINESE SIGN ULU RICEM,3CANDRA,2CECEK,2SURANG,2BISAH,1LETTER AKARA,2AKARA TEDUNG,
      2IKARA,2IKARA TEDUNG,2UKARA,2UKARA TEDUNG,2RA REPA,3REPA TEDUNG,2LA LENGA,3LENGA TEDUNG,
      2EKARA,2AIKARA,2OKARA,2OKARA TEDUNG,2KA,2KA MAHAPRANA,2GA,2GA GORA,2NGA,2CA,2CA LACA,2JA,
      2JA JERA,2NYA,2TA LATIK,3MURDA MAHAPRANA,2DA MURDA ALPAPRANA,4MAHAPRANA,2NA RAMBAT,2TA,
      2TA TAWA,2DA,2DA MADU,2NA,2PA,2PA KAPAL,2BA,2BA KEMBANG,2MA,2YA,2RA,2LA,2WA,2SA SAGA,3SAPA,
      2SA,2HA,1SIGN REREKAN,1VOWEL SIGN TEDUNG,3ULU,3ULU SARI,3SUKU,3SUKU ILUT,3RA REPA,
      4REPA TEDUNG,3LA LENGA,4LENGA TEDUNG,3TALING,3TALING REPA,4TEDUNG,4REPA TEDUNG,3PEPET,
      3PEPET TEDUNG,1ADEG ADEG,1LETTER KAF SASAK,2KHOT SASAK,2TZIR SASAK,2EF SASAK,2VE SASAK,
      2ZAL SASAK,2ASYURA SASAK,2ARCHAIC JNYA"),
    (6992, "0BALINESE DIGIT ZERO,2ONE,2TWO,2THREE,2FOUR,2FIVE,2SIX,2SEVEN,2EIGHT,2NINE,1PANTI,
      1PAMADA,1WINDU,1CARIK PAMUNGKAH,2SIKI,2PAREREN,1PAMENENG,1MUSICAL SYMBOL DONG,3DENG,3DUNG,
      3DANG,3DANG SURANG,3DING,3DAENG,3DEUNG,3DAING,3DANG GEDE,3COMBINING TEGEH,4ENDEP,4KEMPUL,
      4KEMPLI,4JEGOGAN,4KEMPUL WITH JEGOGAN,4KEMPLI WITH JEGOGAN,4BENDE,4GONG,3RIGHT-HAND OPEN DUG,
      6DAG,5CLOSED TUK,6TAK,3LEFT-HAND OPEN PANG,6PUNG,5CLOSED PLAK,6PLUK,5OPEN PING,
      1PANTI LANTANG,1PAMADA LANTANG"),
    (7040, "0SUNDANESE SIGN PANYECEK,2PANGLAYAR,2PANGWISAD,1LETTER A,2I,2U,2AE,2O,2E,2EU,2KA,2QA,
      2GA,2NGA,2CA,2JA,2ZA,2NYA,2TA,2DA,2NA,2PA,2FA,2VA,2BA,2MA,2YA,2RA,2LA,2WA,2SA,2XA,2HA,
      1CONSONANT SIGN PAMINGKAL,3PANYAKRA,3PANYIKU,1VOWEL SIGN PANGHULU,3PANYUKU,3PANAELAENG,
      3PANOLONG,3PAMEPET,3PANEULEUNG,1SIGN PAMAAEH,2VIRAMA,1CONSONANT SIGN PASANGAN MA,4WA,
      1LETTER KHA,2SYA,1DIGIT ZERO,2ONE,2TWO,2THREE,2FOUR,2FIVE,2SIX,2SEVEN,2EIGHT,2NINE,1AVAGRAHA,
      1LETTER REU,2LEU,2BHA,2FINAL K,3M,0BATAK LETTER A,2SIMALUNGUN A,2HA,2SIMALUNGUN HA,
      2MANDAILING HA,2BA,2KARO BA,2PA,2SIMALUNGUN PA,2NA,2MANDAILING NA,2WA,2SIMALUNGUN WA,
      2PAKPAK WA,2GA,2SIMALUNGUN GA,2JA,2DA,2RA,2SIMALUNGUN RA,2MA,2SIMALUNGUN MA,2SOUTHERN TA,
      2NORTHERN TA,2SA,2SIMALUNGUN SA,2MANDAILING SA,2YA,2SIMALUNGUN YA,2NGA,2LA,2SIMALUNGUN LA,
      2NYA,2CA,2NDA,2MBA,2I,2U,1SIGN TOMPI,1VOWEL SIGN E,3PAKPAK E,3EE,3I,3KARO I,3O,3KARO O,3U,
      3U FOR SIMALUNGUN SA,1CONSONANT SIGN NG,3H,1PANGOLAT,1PANONGONAN"),
    (7164, "0BATAK SYMBOL BINDU NA METEK,3PINARBORAS,3JUDUL,3PANGOLAT,0LEPCHA LETTER KA,2KLA,2KHA,
      2GA,2GLA,2NGA,2CA,2CHA,2JA,2NYA,2TA,2THA,2DA,2NA,2PA,2PLA,2PHA,2FA,2FLA,2BA,2BLA,2MA,2MLA,
      2TSA,2TSHA,2DZA,2YA,2RA,2LA,2HA,2HLA,2VA,2SA,2SHA,2WA,2A,1SUBJOINED LETTER YA,3RA,
      1VOWEL SIGN AA,3I,3O,3OO,3U,3UU,3E,1CONSONANT SIGN K,3M,3L,3N,3P,3R,3T,3NYIN-DO,3KANG,
      1SIGN RAN,2NUKTA"),
    (7227, "0LEPCHA PUNCTUATION TA-ROL,2NYET THYOOM TA-ROL,2CER-WA,2TSHOOK CER-WA,2TSHOOK,
      1DIGIT ZERO,2ONE,2TWO,2THREE,2FOUR,2FIVE,2SIX,2SEVEN,2EIGHT,2NINE"),
    (7245, "0LEPCHA LETTER TTA,2TTHA,2DDA,0OL CHIKI DIGIT ZERO,3ONE,3TWO,3THREE,3FOUR,3FIVE,3SIX,
      3SEVEN,3EIGHT,3NINE,2LETTER LA,3AT,3AG,3ANG,3AL,3LAA,3AAK,3AAJ,3AAM,3AAW,3LI,3IS,3IH,3INY,
      3IR,3LU,3UC,3UD,3UNN,3UY,3LE,3EP,3EDD,3EN,3ERR,3LO,3OTT,3OB,3OV,3OH,2MU TTUDDAG,
      2GAAHLAA TTUDDAAG,2MU-GAAHLAA TTUDDAAG,2RELAA,2PHAARKAA,2AHAD,2PUNCTUATION MUCAAD,
      3DOUBLE MUCAAD,0CYRILLIC SMALL LETTER ROUNDED VE,3LONG-LEGGED DE,3NARROW O,3WIDE ES,3TALL TE,
      3THREE-LEGGED TE,3TALL HARD SIGN,4YAT,3UNBLENDED UK"),
    (7312, "0GEORGIAN MTAVRULI CAPITAL LETTER AN,4BAN,4GAN,4DON,4EN,4VIN,4ZEN,4TAN,4IN,4KAN,4LAS,
      4MAN,4NAR,4ON,4PAR,4ZHAR,4RAE,4SAN,4TAR,4UN,4PHAR,4KHAR,4GHAN,4QAR,4SHIN,4CHIN,4CAN,4JIL,
      4CIL,4CHAR,4XAN,4JHAN,4HAE,4HE,4HIE,4WE,4HAR,4HOE,4FI,4YN,4ELIFI,4TURNED GAN,4AIN"),
    (7357, "0GEORGIAN MTAVRULI CAPITAL LETTER AEN,4HARD SIGN,4LABIAL SIGN,
      0SUNDANESE PUNCTUATION BINDU SURYA,3PANGLONG,3PURNAMA,3CAKRA,3LEU SATANGA,3KA SATANGA,
      3DA SATANGA,3BA SATANGA"),
    (7376, "0VEDIC TONE KARSHANA,2SHARA,2PRENKHA,1SIGN NIHSHVASA,2YAJURVEDIC MIDLINE SVARITA,
      1TONE YAJURVEDIC AGGRAVATED INDEPENDENT SVARITA,3INDEPENDENT SVARITA,
      3KATHAKA INDEPENDENT SVARITA,2CANDRA BELOW,2YAJURVEDIC KATHAKA INDEPENDENT SVARITA SCHROEDER,
      2DOUBLE SVARITA,2TRIPLE SVARITA,2KATHAKA ANUDATTA,2DOT BELOW,2TWO DOTS BELOW,
      2THREE DOTS BELOW,2RIGVEDIC KASHMIRI INDEPENDENT SVARITA,2ATHARVAVEDIC INDEPENDENT SVARITA,
      1SIGN VISARGA SVARITA,3UDATTA,2REVERSED VISARGA UDATTA,2VISARGA ANUDATTA,
      2REVERSED VISARGA ANUDATTA,2VISARGA UDATTA WITH TAIL,3ANUDATTA WITH TAIL,
      2ANUSVARA ANTARGOMUKHA,3BAHIRGOMUKHA,3VAMAGOMUKHA,3VAMAGOMUKHA WITH TAIL,2TIRYAK,
      2HEXIFORM LONG ANUSVARA,2LONG ANUSVARA,2RTHANG LONG ANUSVARA,2ANUSVARA UBHAYATO MUKHA,
      2ARDHAVISARGA,2ROTATED ARDHAVISARGA,1TONE CANDRA ABOVE,1SIGN JIHVAMULIYA,2UPADHMANIYA,
      2ATIKRAMA,1TONE RING ABOVE,2DOUBLE RING ABOVE,1SIGN DOUBLE ANUSVARA ANTARGOMUKHA"),
    (7424, "0LATIN LETTER SMALL CAPITAL A,4AE,1SMALL LETTER TURNED AE,
      1LETTER SMALL CAPITAL BARRED B,4C,4D,4ETH,4E,1SMALL LETTER TURNED OPEN E,4I,
      1LETTER SMALL CAPITAL J,4K,4L WITH STROKE,4M,4REVERSED N,4O,4OPEN O,1SMALL LETTER SIDEWAYS O,
      4OPEN O,4O WITH STROKE,3TURNED OE,1LETTER SMALL CAPITAL OU,1SMALL LETTER TOP HALF O,
      3BOTTOM HALF O,1LETTER SMALL CAPITAL P,4REVERSED R,4TURNED R,4T,4U,1SMALL LETTER SIDEWAYS U,
      4DIAERESIZED U,4TURNED M,1LETTER SMALL CAPITAL V,4W,4Z,4EZH,2VOICED LARYNGEAL SPIRANT,2AIN,
      0GREEK LETTER SMALL CAPITAL GAMMA,4LAMDA,4PI,4RHO,4PSI,0CYRILLIC LETTER SMALL CAPITAL EL,
      0MODIFIER LETTER CAPITAL A,3AE,3B,3BARRED B,3D,3E,3REVERSED E,3G,3H,3I,3J,3K,3L,3M,3N,
      3REVERSED N,3O,3OU,3P,3R,3T,3U,3W,2SMALL A,3TURNED A,3ALPHA,3TURNED AE,3B,3D,3E,3SCHWA,
      3OPEN E,3TURNED OPEN E,3G,3TURNED I,3K,3M,3ENG,3O,3OPEN O,3TOP HALF O,3BOTTOM HALF O,3P,3T,
      3U,3SIDEWAYS U,3TURNED M,3V,3AIN,3BETA,3GREEK GAMMA,3DELTA,3GREEK PHI,3CHI,
      0LATIN SUBSCRIPT SMALL LETTER I,4R,4U,4V,0GREEK SUBSCRIPT SMALL LETTER BETA,4GAMMA,4RHO,4PHI,
      4CHI,0LATIN SMALL LETTER UE,3B WITH MIDDLE TILDE,3D WITH MIDDLE TILDE,3F WITH MIDDLE TILDE,
      3M WITH MIDDLE TILDE,3N WITH MIDDLE TILDE,3P WITH MIDDLE TILDE,3R WITH MIDDLE TILDE,
      5FISHHOOK AND MIDDLE TILDE,3S WITH MIDDLE TILDE,3T WITH MIDDLE TILDE,3Z WITH MIDDLE TILDE,
      3TURNED G,0MODIFIER LETTER CYRILLIC EN,0LATIN SMALL LETTER INSULAR G,3TH WITH STRIKETHROUGH,
      2CAPITAL LETTER I WITH STROKE,2LETTER IOTA WITH STROKE,3P WITH STROKE,
      2CAPITAL LETTER U WITH STROKE,2LETTER UPSILON WITH STROKE,3B WITH PALATAL HOOK,
      3D WITH PALATAL HOOK,3F WITH PALATAL HOOK,3G WITH PALATAL HOOK,3K WITH PALATAL HOOK,
      3L WITH PALATAL HOOK,3M WITH PALATAL HOOK,3N WITH PALATAL HOOK,3P WITH PALATAL HOOK,
      3R WITH PALATAL HOOK,3S WITH PALATAL HOOK,3ESH WITH PALATAL HOOK,3V WITH PALATAL HOOK,
      3X WITH PALATAL HOOK,3Z WITH PALATAL HOOK,3A WITH RETROFLEX HOOK,3ALPHA WITH RETROFLEX HOOK,
      3D WITH HOOK AND TAIL,3E WITH RETROFLEX HOOK,3OPEN E WITH RETROFLEX HOOK,
      3REVERSED OPEN E WITH RETROFLEX HOOK,3SCHWA WITH RETROFLEX HOOK,3I WITH RETROFLEX HOOK,
      3OPEN O WITH RETROFLEX HOOK,3ESH WITH RETROFLEX HOOK,3U WITH RETROFLEX HOOK,
      3EZH WITH RETROFLEX HOOK,0MODIFIER LETTER SMALL TURNED ALPHA,3C,3C WITH CURL,3ETH,
      3REVERSED OPEN E,3F,3DOTLESS J WITH STROKE,3SCRIPT G,3TURNED H,3I WITH STROKE,3IOTA,
      3CAPITAL I,4I WITH STROKE,3J WITH CROSSED-TAIL,3L WITH RETROFLEX HOOK,5PALATAL HOOK,
      3CAPITAL L,3M WITH HOOK,3TURNED M WITH LONG LEG,3N WITH LEFT HOOK,5RETROFLEX HOOK,3CAPITAL N,
      3BARRED O,3PHI,3S WITH HOOK,3ESH,3T WITH PALATAL HOOK,3U BAR,3UPSILON,3CAPITAL U,
      3V WITH HOOK,3TURNED V,3Z,3Z WITH RETROFLEX HOOK,5CURL,3EZH,3THETA,
      0COMBINING DOTTED GRAVE ACCENT,2ACUTE ACCENT,1SNAKE BELOW,1SUSPENSION MARK,1MACRON-ACUTE,
      1GRAVE-MACRON,1MACRON-GRAVE,1ACUTE-MACRON,1GRAVE-ACUTE-GRAVE,1ACUTE-GRAVE-ACUTE,
      1LATIN SMALL LETTER R BELOW,1BREVE-MACRON,1MACRON-BREVE,1DOUBLE CIRCUMFLEX ABOVE,
      1OGONEK ABOVE,1ZIGZAG BELOW,1IS BELOW,1UR ABOVE,1US ABOVE,
      1LATIN SMALL LETTER FLATTENED OPEN A ABOVE,4AE,4AO,4AV,4C CEDILLA,4INSULAR D,4ETH,4G,
      2LETTER SMALL CAPITAL G,2SMALL LETTER K,4L,2LETTER SMALL CAPITAL L,5M,2SMALL LETTER N,
      2LETTER SMALL CAPITAL N,5R,2SMALL LETTER R ROTUNDA,4S,4LONG S,4Z,4ALPHA,4B,4BETA,4SCHWA,4F,
      4L WITH DOUBLE MIDDLE TILDE,4O WITH LIGHT CENTRALIZATION STROKE,4P,4ESH,
      4U WITH LIGHT CENTRALIZATION STROKE,4W,4A WITH DIAERESIS,4O WITH DIAERESIS,4U WITH DIAERESIS,
      1UP TACK ABOVE,1KAVYKA ABOVE RIGHT,3LEFT,1DOT ABOVE LEFT,1WIDE INVERTED BRIDGE BELOW,
      1DOT BELOW LEFT,1DELETION MARK,1DOUBLE INVERTED BREVE BELOW,1ALMOST EQUAL TO BELOW,
      1LEFT ARROWHEAD ABOVE,1RIGHT ARROWHEAD AND DOWN ARROWHEAD BELOW,
      0LATIN CAPITAL LETTER A WITH RING BELOW,1SMALL LETTER A WITH RING BELOW,
      1CAPITAL LETTER B WITH DOT ABOVE,1SMALL LETTER B WITH DOT ABOVE,
      1CAPITAL LETTER B WITH DOT BELOW,1SMALL LETTER B WITH DOT BELOW,
      1CAPITAL LETTER B WITH LINE BELOW,1SMALL LETTER B WITH LINE BELOW,
      1CAPITAL LETTER C WITH CEDILLA AND ACUTE,1SMALL LETTER C WITH CEDILLA AND ACUTE,
      1CAPITAL LETTER D WITH DOT ABOVE,1SMALL LETTER D WITH DOT ABOVE,
      1CAPITAL LETTER D WITH DOT BELOW,1SMALL LETTER D WITH DOT BELOW,
      1CAPITAL LETTER D WITH LINE BELOW,1SMALL LETTER D WITH LINE BELOW,
      1CAPITAL LETTER D WITH CEDILLA,1SMALL LETTER D WITH CEDILLA,
      1CAPITAL LETTER D WITH CIRCUMFLEX BELOW,1SMALL LETTER D WITH CIRCUMFLEX BELOW,
      1CAPITAL LETTER E WITH MACRON AND GRAVE,1SMALL LETTER E WITH MACRON AND GRAVE,
      1CAPITAL LETTER E WITH MACRON AND ACUTE,1SMALL LETTER E WITH MACRON AND ACUTE,
      1CAPITAL LETTER E WITH CIRCUMFLEX BELOW,1SMALL LETTER E WITH CIRCUMFLEX BELOW,
      1CAPITAL LETTER E WITH TILDE BELOW,1SMALL LETTER E WITH TILDE BELOW,
      1CAPITAL LETTER E WITH CEDILLA AND BREVE,1SMALL LETTER E WITH CEDILLA AND BREVE,
      1CAPITAL LETTER F WITH DOT ABOVE,1SMALL LETTER F WITH DOT ABOVE,
      1CAPITAL LETTER G WITH MACRON,1SMALL LETTER G WITH MACRON,1CAPITAL LETTER H WITH DOT ABOVE,
      1SMALL LETTER H WITH DOT ABOVE,1CAPITAL LETTER H WITH DOT BELOW,
      1SMALL LETTER H WITH DOT BELOW,1CAPITAL LETTER H WITH DIAERESIS,
      1SMALL LETTER H WITH DIAERESIS,1CAPITAL LETTER H WITH CEDILLA,1SMALL LETTER H WITH CEDILLA,
      1CAPITAL LETTER H WITH BREVE BELOW,1SMALL LETTER H WITH BREVE BELOW,
      1CAPITAL LETTER I WITH TILDE BELOW,1SMALL LETTER I WITH TILDE BELOW,
      1CAPITAL LETTER I WITH DIAERESIS AND ACUTE,1SMALL LETTER I WITH DIAERESIS AND ACUTE,
      1CAPITAL LETTER K WITH ACUTE,1SMALL LETTER K WITH ACUTE,1CAPITAL LETTER K WITH DOT BELOW,
      1SMALL LETTER K WITH DOT BELOW,1CAPITAL LETTER K WITH LINE BELOW,
      1SMALL LETTER K WITH LINE BELOW,1CAPITAL LETTER L WITH DOT BELOW,
      1SMALL LETTER L WITH DOT BELOW,1CAPITAL LETTER L WITH DOT BELOW AND MACRON,
      1SMALL LETTER L WITH DOT BELOW AND MACRON,1CAPITAL LETTER L WITH LINE BELOW,
      1SMALL LETTER L WITH LINE BELOW,1CAPITAL LETTER L WITH CIRCUMFLEX BELOW,
      1SMALL LETTER L WITH CIRCUMFLEX BELOW,1CAPITAL LETTER M WITH ACUTE,
      1SMALL LETTER M WITH ACUTE,1CAPITAL LETTER M WITH DOT ABOVE,1SMALL LETTER M WITH DOT ABOVE,
      1CAPITAL LETTER M WITH DOT BELOW,1SMALL LETTER M WITH DOT BELOW,
      1CAPITAL LETTER N WITH DOT ABOVE,1SMALL LETTER N WITH DOT ABOVE,
      1CAPITAL LETTER N WITH DOT BELOW,1SMALL LETTER N WITH DOT BELOW,
      1CAPITAL LETTER N WITH LINE BELOW,1SMALL LETTER N WITH LINE BELOW,
      1CAPITAL LETTER N WITH CIRCUMFLEX BELOW,1SMALL LETTER N WITH CIRCUMFLEX BELOW,
      1CAPITAL LETTER O WITH TILDE AND ACUTE,1SMALL LETTER O WITH TILDE AND ACUTE,
      1CAPITAL LETTER O WITH TILDE AND DIAERESIS,1SMALL LETTER O WITH TILDE AND DIAERESIS,
      1CAPITAL LETTER O WITH MACRON AND GRAVE,1SMALL LETTER O WITH MACRON AND GRAVE,
      1CAPITAL LETTER O WITH MACRON AND ACUTE,1SMALL LETTER O WITH MACRON AND ACUTE,
      1CAPITAL LETTER P WITH ACUTE,1SMALL LETTER P WITH ACUTE,1CAPITAL LETTER P WITH DOT ABOVE,
      1SMALL LETTER P WITH DOT ABOVE,1CAPITAL LETTER R WITH DOT ABOVE,
      1SMALL LETTER R WITH DOT ABOVE,1CAPITAL LETTER R WITH DOT BELOW,
      1SMALL LETTER R WITH DOT BELOW,1CAPITAL LETTER R WITH DOT BELOW AND MACRON,
      1SMALL LETTER R WITH DOT BELOW AND MACRON,1CAPITAL LETTER R WITH LINE BELOW,
      1SMALL LETTER R WITH LINE BELOW,1CAPITAL LETTER S WITH DOT ABOVE,
      1SMALL LETTER S WITH DOT ABOVE,1CAPITAL LETTER S WITH DOT BELOW,
      1SMALL LETTER S WITH DOT BELOW,1CAPITAL LETTER S WITH ACUTE AND DOT ABOVE,
      1SMALL LETTER S WITH ACUTE AND DOT ABOVE,1CAPITAL LETTER S WITH CARON AND DOT ABOVE,
      1SMALL LETTER S WITH CARON AND DOT ABOVE,1CAPITAL LETTER S WITH DOT BELOW AND DOT ABOVE,
      1SMALL LETTER S WITH DOT BELOW AND DOT ABOVE,1CAPITAL LETTER T WITH DOT ABOVE,
      1SMALL LETTER T WITH DOT ABOVE,1CAPITAL LETTER T WITH DOT BELOW,
      1SMALL LETTER T WITH DOT BELOW,1CAPITAL LETTER T WITH LINE BELOW,
      1SMALL LETTER T WITH LINE BELOW,1CAPITAL LETTER T WITH CIRCUMFLEX BELOW,
      1SMALL LETTER T WITH CIRCUMFLEX BELOW,1CAPITAL LETTER U WITH DIAERESIS BELOW,
      1SMALL LETTER U WITH DIAERESIS BELOW,1CAPITAL LETTER U WITH TILDE BELOW,
      1SMALL LETTER U WITH TILDE BELOW,1CAPITAL LETTER U WITH CIRCUMFLEX BELOW,
      1SMALL LETTER U WITH CIRCUMFLEX BELOW,1CAPITAL LETTER U WITH TILDE AND ACUTE,
      1SMALL LETTER U WITH TILDE AND ACUTE,1CAPITAL LETTER U WITH MACRON AND DIAERESIS,
      1SMALL LETTER U WITH MACRON AND DIAERESIS,1CAPITAL LETTER V WITH TILDE,
      1SMALL LETTER V WITH TILDE,1CAPITAL LETTER V WITH DOT BELOW,1SMALL LETTER V WITH DOT BELOW,
      1CAPITAL LETTER W WITH GRAVE,1SMALL LETTER W WITH GRAVE,1CAPITAL LETTER W WITH ACUTE,
      1SMALL LETTER W WITH ACUTE,1CAPITAL LETTER W WITH DIAERESIS,1SMALL LETTER W WITH DIAERESIS,
      1CAPITAL LETTER W WITH DOT ABOVE,1SMALL LETTER W WITH DOT ABOVE,
      1CAPITAL LETTER W WITH DOT BELOW,1SMALL LETTER W WITH DOT BELOW,
      1CAPITAL LETTER X WITH DOT ABOVE,1SMALL LETTER X WITH DOT ABOVE,
      1CAPITAL LETTER X WITH DIAERESIS,1SMALL LETTER X WITH DIAERESIS,
      1CAPITAL LETTER Y WITH DOT ABOVE,1SMALL LETTER Y WITH DOT ABOVE,
      1CAPITAL LETTER Z WITH CIRCUMFLEX,1SMALL LETTER Z WITH CIRCUMFLEX,
      1CAPITAL LETTER Z WITH DOT BELOW,1SMALL LETTER Z WITH DOT BELOW,
      1CAPITAL LETTER Z WITH LINE BELOW,1SMALL LETTER Z WITH LINE BELOW,3H WITH LINE BELOW,
      3T WITH DIAERESIS,3W WITH RING ABOVE,3Y WITH RING ABOVE,3A WITH RIGHT HALF RING,
      3LONG S WITH DOT ABOVE,6DIAGONAL STROKE,6HIGH STROKE,1CAPITAL LETTER SHARP S,
      1SMALL LETTER DELTA,1CAPITAL LETTER A WITH DOT BELOW,1SMALL LETTER A WITH DOT BELOW,
      1CAPITAL LETTER A WITH HOOK ABOVE,1SMALL LETTER A WITH HOOK ABOVE,
      1CAPITAL LETTER A WITH CIRCUMFLEX AND ACUTE,1SMALL LETTER A WITH CIRCUMFLEX AND ACUTE,
      1CAPITAL LETTER A WITH CIRCUMFLEX AND GRAVE,1SMALL LETTER A WITH CIRCUMFLEX AND GRAVE,
      1CAPITAL LETTER A WITH CIRCUMFLEX AND HOOK ABOVE,
      1SMALL LETTER A WITH CIRCUMFLEX AND HOOK ABOVE,1CAPITAL LETTER A WITH CIRCUMFLEX AND TILDE,
      1SMALL LETTER A WITH CIRCUMFLEX AND TILDE,1CAPITAL LETTER A WITH CIRCUMFLEX AND DOT BELOW,
      1SMALL LETTER A WITH CIRCUMFLEX AND DOT BELOW,1CAPITAL LETTER A WITH BREVE AND ACUTE,
      1SMALL LETTER A WITH BREVE AND ACUTE,1CAPITAL LETTER A WITH BREVE AND GRAVE,
      1SMALL LETTER A WITH BREVE AND GRAVE,1CAPITAL LETTER A WITH BREVE AND HOOK ABOVE,
      1SMALL LETTER A WITH BREVE AND HOOK ABOVE,1CAPITAL LETTER A WITH BREVE AND TILDE,
      1SMALL LETTER A WITH BREVE AND TILDE,1CAPITAL LETTER A WITH BREVE AND DOT BELOW,
      1SMALL LETTER A WITH BREVE AND DOT BELOW,1CAPITAL LETTER E WITH DOT BELOW,
      1SMALL LETTER E WITH DOT BELOW,1CAPITAL LETTER E WITH HOOK ABOVE,
      1SMALL LETTER E WITH HOOK ABOVE,1CAPITAL LETTER E WITH TILDE,1SMALL LETTER E WITH TILDE,
      1CAPITAL LETTER E WITH CIRCUMFLEX AND ACUTE,1SMALL LETTER E WITH CIRCUMFLEX AND ACUTE,
      1CAPITAL LETTER E WITH CIRCUMFLEX AND GRAVE,1SMALL LETTER E WITH CIRCUMFLEX AND GRAVE,
      1CAPITAL LETTER E WITH CIRCUMFLEX AND HOOK ABOVE,
      1SMALL LETTER E WITH CIRCUMFLEX AND HOOK ABOVE,1CAPITAL LETTER E WITH CIRCUMFLEX AND TILDE,
      1SMALL LETTER E WITH CIRCUMFLEX AND TILDE,1CAPITAL LETTER E WITH CIRCUMFLEX AND DOT BELOW,
      1SMALL LETTER E WITH CIRCUMFLEX AND DOT BELOW,1CAPITAL LETTER I WITH HOOK ABOVE,
      1SMALL LETTER I WITH HOOK ABOVE,1CAPITAL LETTER I WITH DOT BELOW,
      1SMALL LETTER I WITH DOT BELOW,1CAPITAL LETTER O WITH DOT BELOW,
      1SMALL LETTER O WITH DOT BELOW,1CAPITAL LETTER O WITH HOOK ABOVE,
      1SMALL LETTER O WITH HOOK ABOVE,1CAPITAL LETTER O WITH CIRCUMFLEX AND ACUTE,
      1SMALL LETTER O WITH CIRCUMFLEX AND ACUTE,1CAPITAL LETTER O WITH CIRCUMFLEX AND GRAVE,
      1SMALL LETTER O WITH CIRCUMFLEX AND GRAVE,1CAPITAL LETTER O WITH CIRCUMFLEX AND HOOK ABOVE,
      1SMALL LETTER O WITH CIRCUMFLEX AND HOOK ABOVE,1CAPITAL LETTER O WITH CIRCUMFLEX AND TILDE,
      1SMALL LETTER O WITH CIRCUMFLEX AND TILDE,1CAPITAL LETTER O WITH CIRCUMFLEX AND DOT BELOW,
      1SMALL LETTER O WITH CIRCUMFLEX AND DOT BELOW,1CAPITAL LETTER O WITH HORN AND ACUTE,
      1SMALL LETTER O WITH HORN AND ACUTE,1CAPITAL LETTER O WITH HORN AND GRAVE,
      1SMALL LETTER O WITH HORN AND GRAVE,1CAPITAL LETTER O WITH HORN AND HOOK ABOVE,
      1SMALL LETTER O WITH HORN AND HOOK ABOVE,1CAPITAL LETTER O WITH HORN AND TILDE,
      1SMALL LETTER O WITH HORN AND TILDE,1CAPITAL LETTER O WITH HORN AND DOT BELOW,
      1SMALL LETTER O WITH HORN AND DOT BELOW,1CAPITAL LETTER U WITH DOT BELOW,
      1SMALL LETTER U WITH DOT BELOW,1CAPITAL LETTER U WITH HOOK ABOVE,
      1SMALL LETTER U WITH HOOK ABOVE,1CAPITAL LETTER U WITH HORN AND ACUTE,
      1SMALL LETTER U WITH HORN AND ACUTE,1CAPITAL LETTER U WITH HORN AND GRAVE,
      1SMALL LETTER U WITH HORN AND GRAVE,1CAPITAL LETTER U WITH HORN AND HOOK ABOVE,
      1SMALL LETTER U WITH HORN AND HOOK ABOVE,1CAPITAL LETTER U WITH HORN AND TILDE,
      1SMALL LETTER U WITH HORN AND TILDE,1CAPITAL LETTER U WITH HORN AND DOT BELOW,
      1SMALL LETTER U WITH HORN AND DOT BELOW,1CAPITAL LETTER Y WITH GRAVE,
      1SMALL LETTER Y WITH GRAVE,1CAPITAL LETTER Y WITH DOT BELOW,1SMALL LETTER Y WITH DOT BELOW,
      1CAPITAL LETTER Y WITH HOOK ABOVE,1SMALL LETTER Y WITH HOOK ABOVE,
      1CAPITAL LETTER Y WITH TILDE,1SMALL LETTER Y WITH TILDE,1CAPITAL LETTER MIDDLE-WELSH LL,
      1SMALL LETTER MIDDLE-WELSH LL,1CAPITAL LETTER MIDDLE-WELSH V,1SMALL LETTER MIDDLE-WELSH V,
      1CAPITAL LETTER Y WITH LOOP,1SMALL LETTER Y WITH LOOP,0GREEK SMALL LETTER ALPHA WITH PSILI,
      5DASIA,5PSILI AND VARIA,5DASIA AND VARIA,5PSILI AND OXIA,5DASIA AND OXIA,
      5PSILI AND PERISPOMENI,5DASIA AND PERISPOMENI,1CAPITAL LETTER ALPHA WITH PSILI,5DASIA,
      5PSILI AND VARIA,5DASIA AND VARIA,5PSILI AND OXIA,5DASIA AND OXIA,5PSILI AND PERISPOMENI,
      5DASIA AND PERISPOMENI,1SMALL LETTER EPSILON WITH PSILI,5DASIA,5PSILI AND VARIA,
      5DASIA AND VARIA,5PSILI AND OXIA,5DASIA AND OXIA"),
    (7960, "0GREEK CAPITAL LETTER EPSILON WITH PSILI,5DASIA,5PSILI AND VARIA,5DASIA AND VARIA,
      5PSILI AND OXIA,5DASIA AND OXIA"),
    (7968, "0GREEK SMALL LETTER ETA WITH PSILI,5DASIA,5PSILI AND VARIA,5DASIA AND VARIA,
      5PSILI AND OXIA,5DASIA AND OXIA,5PSILI AND PERISPOMENI,5DASIA AND PERISPOMENI,
      1CAPITAL LETTER ETA WITH PSILI,5DASIA,5PSILI AND VARIA,5DASIA AND VARIA,5PSILI AND OXIA,
      5DASIA AND OXIA,5PSILI AND PERISPOMENI,5DASIA AND PERISPOMENI,1SMALL LETTER IOTA WITH PSILI,
      5DASIA,5PSILI AND VARIA,5DASIA AND VARIA,5PSILI AND OXIA,5DASIA AND OXIA,
      5PSILI AND PERISPOMENI,5DASIA AND PERISPOMENI,1CAPITAL LETTER IOTA WITH PSILI,5DASIA,
      5PSILI AND VARIA,5DASIA AND VARIA,5PSILI AND OXIA,5DASIA AND OXIA,5PSILI AND PERISPOMENI,
      5DASIA AND PERISPOMENI,1SMALL LETTER OMICRON WITH PSILI,5DASIA,5PSILI AND VARIA,
      5DASIA AND VARIA,5PSILI AND OXIA,5DASIA AND OXIA"),
    (8008, "0GREEK CAPITAL LETTER OMICRON WITH PSILI,5DASIA,5PSILI AND VARIA,5DASIA AND VARIA,
      5PSILI AND OXIA,5DASIA AND OXIA"),
    (8016, "0GREEK SMALL LETTER UPSILON WITH PSILI,5DASIA,5PSILI AND VARIA,5DASIA AND VARIA,
      5PSILI AND OXIA,5DASIA AND OXIA,5PSILI AND PERISPOMENI,5DASIA AND PERISPOMENI"),
    (8025, "0GREEK CAPITAL LETTER UPSILON WITH DASIA"),
    (8027, "0GREEK CAPITAL LETTER UPSILON WITH DASIA AND VARIA"),
    (8029, "0GREEK CAPITAL LETTER UPSILON WITH DASIA AND OXIA"),
    (8031, "0GREEK CAPITAL LETTER UPSILON WITH DASIA AND PERISPOMENI,
      1SMALL LETTER OMEGA WITH PSILI,5DASIA,5PSILI AND VARIA,5DASIA AND VARIA,5PSILI AND OXIA,
      5DASIA AND OXIA,5PSILI AND PERISPOMENI,5DASIA AND PERISPOMENI,
      1CAPITAL LETTER OMEGA WITH PSILI,5DASIA,5PSILI AND VARIA,5DASIA AND VARIA,5PSILI AND OXIA,
      5DASIA AND OXIA,5PSILI AND PERISPOMENI,5DASIA AND PERISPOMENI,1SMALL LETTER ALPHA WITH VARIA,
      5OXIA,3EPSILON WITH VARIA,5OXIA,3ETA WITH VARIA,5OXIA,3IOTA WITH VARIA,5OXIA,
      3OMICRON WITH VARIA,5OXIA,3UPSILON WITH VARIA,5OXIA,3OMEGA WITH VARIA,5OXIA"),
    (8064, "0GREEK SMALL LETTER ALPHA WITH PSILI AND YPOGEGRAMMENI,5DASIA AND YPOGEGRAMMENI,
      5PSILI AND VARIA AND YPOGEGRAMMENI,5DASIA AND VARIA AND YPOGEGRAMMENI,
      5PSILI AND OXIA AND YPOGEGRAMMENI,5DASIA AND OXIA AND YPOGEGRAMMENI,
      5PSILI AND PERISPOMENI AND YPOGEGRAMMENI,5DASIA AND PERISPOMENI AND YPOGEGRAMMENI,
      1CAPITAL LETTER ALPHA WITH PSILI AND PROSGEGRAMMENI,5DASIA AND PROSGEGRAMMENI,
      5PSILI AND VARIA AND PROSGEGRAMMENI,5DASIA AND VARIA AND PROSGEGRAMMENI,
      5PSILI AND OXIA AND PROSGEGRAMMENI,5DASIA AND OXIA AND PROSGEGRAMMENI,
      5PSILI AND PERISPOMENI AND PROSGEGRAMMENI,5DASIA AND PERISPOMENI AND PROSGEGRAMMENI,
      1SMALL LETTER ETA WITH PSILI AND YPOGEGRAMMENI,5DASIA AND YPOGEGRAMMENI,
      5PSILI AND VARIA AND YPOGEGRAMMENI,5DASIA AND VARIA AND YPOGEGRAMMENI,
      5PSILI AND OXIA AND YPOGEGRAMMENI,5DASIA AND OXIA AND YPOGEGRAMMENI,
      5PSILI AND PERISPOMENI AND YPOGEGRAMMENI,5DASIA AND PERISPOMENI AND YPOGEGRAMMENI,
      1CAPITAL LETTER ETA WITH PSILI AND PROSGEGRAMMENI,5DASIA AND PROSGEGRAMMENI,
      5PSILI AND VARIA AND PROSGEGRAMMENI,5DASIA AND VARIA AND PROSGEGRAMMENI,
      5PSILI AND OXIA AND PROSGEGRAMMENI,5DASIA AND OXIA AND PROSGEGRAMMENI,
      5PSILI AND PERISPOMENI AND PROSGEGRAMMENI,5DASIA AND PERISPOMENI AND PROSGEGRAMMENI,
      1SMALL LETTER OMEGA WITH PSILI AND YPOGEGRAMMENI,5DASIA AND YPOGEGRAMMENI,
      5PSILI AND VARIA AND YPOGEGRAMMENI,5DASIA AND VARIA AND YPOGEGRAMMENI,
      5PSILI AND OXIA AND YPOGEGRAMMENI,5DASIA AND OXIA AND YPOGEGRAMMENI,
      5PSILI AND PERISPOMENI AND YPOGEGRAMMENI,5DASIA AND PERISPOMENI AND YPOGEGRAMMENI,
      1CAPITAL LETTER OMEGA WITH PSILI AND PROSGEGRAMMENI,5DASIA AND PROSGEGRAMMENI,
      5PSILI AND VARIA AND PROSGEGRAMMENI,5DASIA AND VARIA AND PROSGEGRAMMENI,
      5PSILI AND OXIA AND PROSGEGRAMMENI,5DASIA AND OXIA AND PROSGEGRAMMENI,
      5PSILI AND PERISPOMENI AND PROSGEGRAMMENI,5DASIA AND PERISPOMENI AND PROSGEGRAMMENI,
      1SMALL LETTER ALPHA WITH VRACHY,5MACRON,5VARIA AND YPOGEGRAMMENI,5YPOGEGRAMMENI,
      5OXIA AND YPOGEGRAMMENI"),
    (8118, "0GREEK SMALL LETTER ALPHA WITH PERISPOMENI,5PERISPOMENI AND YPOGEGRAMMENI,
      1CAPITAL LETTER ALPHA WITH VRACHY,5MACRON,5VARIA,5OXIA,5PROSGEGRAMMENI,1KORONIS,
      1PROSGEGRAMMENI,1PSILI,1PERISPOMENI,1DIALYTIKA AND PERISPOMENI,
      1SMALL LETTER ETA WITH VARIA AND YPOGEGRAMMENI,5YPOGEGRAMMENI,5OXIA AND YPOGEGRAMMENI"),
    (8134, "0GREEK SMALL LETTER ETA WITH PERISPOMENI,5PERISPOMENI AND YPOGEGRAMMENI,
      1CAPITAL LETTER EPSILON WITH VARIA,5OXIA,3ETA WITH VARIA,5OXIA,5PROSGEGRAMMENI,
      1PSILI AND VARIA,3OXIA,3PERISPOMENI,1SMALL LETTER IOTA WITH VRACHY,5MACRON,
      5DIALYTIKA AND VARIA,7OXIA"),
    (8150, "0GREEK SMALL LETTER IOTA WITH PERISPOMENI,5DIALYTIKA AND PERISPOMENI,
      1CAPITAL LETTER IOTA WITH VRACHY,5MACRON,5VARIA,5OXIA"),
    (8157, "0GREEK DASIA AND VARIA,3OXIA,3PERISPOMENI,1SMALL LETTER UPSILON WITH VRACHY,5MACRON,
      5DIALYTIKA AND VARIA,7OXIA,3RHO WITH PSILI,5DASIA,3UPSILON WITH PERISPOMENI,
      5DIALYTIKA AND PERISPOMENI,1CAPITAL LETTER UPSILON WITH VRACHY,5MACRON,5VARIA,5OXIA,
      3RHO WITH DASIA,1DIALYTIKA AND VARIA,3OXIA,1VARIA"),
    (8178, "0GREEK SMALL LETTER OMEGA WITH VARIA AND YPOGEGRAMMENI,5YPOGEGRAMMENI,
      5OXIA AND YPOGEGRAMMENI"),
    (8182, "0GREEK SMALL LETTER OMEGA WITH PERISPOMENI,5PERISPOMENI AND YPOGEGRAMMENI,
      1CAPITAL LETTER OMICRON WITH VARIA,5OXIA,3OMEGA WITH VARIA,5OXIA,5PROSGEGRAMMENI,1OXIA,
      1DASIA"),
    (8192, "0EN QUAD,0EM QUAD,0EN SPACE,0EM SPACE,0THREE-PER-EM SPACE,0FOUR-PER-EM SPACE,
      0SIX-PER-EM SPACE,0FIGURE SPACE,0PUNCTUATION SPACE,0THIN SPACE,0HAIR SPACE,0ZERO WIDTH SPACE,
      2NON-JOINER,2JOINER,0LEFT-TO-RIGHT MARK,0RIGHT-TO-LEFT MARK,0HYPHEN,0NON-BREAKING HYPHEN,
      0FIGURE DASH,0EN DASH,0EM DASH,0HORIZONTAL BAR,0DOUBLE VERTICAL LINE,1LOW LINE,
      0LEFT SINGLE QUOTATION MARK,0RIGHT SINGLE QUOTATION MARK,0SINGLE LOW-9 QUOTATION MARK,
      1HIGH-REVERSED-9 QUOTATION MARK,0LEFT DOUBLE QUOTATION MARK,0RIGHT DOUBLE QUOTATION MARK,
      0DOUBLE LOW-9 QUOTATION MARK,1HIGH-REVERSED-9 QUOTATION MARK,0DAGGER,0DOUBLE DAGGER,0BULLET,
      0TRIANGULAR BULLET,0ONE DOT LEADER,0TWO DOT LEADER,0HORIZONTAL ELLIPSIS,0HYPHENATION POINT,
      0LINE SEPARATOR,0PARAGRAPH SEPARATOR,0LEFT-TO-RIGHT EMBEDDING,0RIGHT-TO-LEFT EMBEDDING,
      0POP DIRECTIONAL FORMATTING,0LEFT-TO-RIGHT OVERRIDE,0RIGHT-TO-LEFT OVERRIDE,
      0NARROW NO-BREAK SPACE,0PER MILLE SIGN,1TEN THOUSAND SIGN,0PRIME,0DOUBLE PRIME,0TRIPLE PRIME,
      0REVERSED PRIME,1DOUBLE PRIME,1TRIPLE PRIME,0CARET,
      0SINGLE LEFT-POINTING ANGLE QUOTATION MARK,1RIGHT-POINTING ANGLE QUOTATION MARK,
      0REFERENCE MARK,0DOUBLE EXCLAMATION MARK,0INTERROBANG,0OVERLINE,0UNDERTIE,0CHARACTER TIE,
      0CARET INSERTION POINT,0ASTERISM,0HYPHEN BULLET,0FRACTION SLASH,
      0LEFT SQUARE BRACKET WITH QUILL,0RIGHT SQUARE BRACKET WITH QUILL,0DOUBLE QUESTION MARK,
      0QUESTION EXCLAMATION MARK,0EXCLAMATION QUESTION MARK,0TIRONIAN SIGN ET,
      0REVERSED PILCROW SIGN,0BLACK LEFTWARDS BULLET,1RIGHTWARDS BULLET,0LOW ASTERISK,
      0REVERSED SEMICOLON,0CLOSE UP,0TWO ASTERISKS ALIGNED VERTICALLY,0COMMERCIAL MINUS SIGN,
      0SWUNG DASH,0INVERTED UNDERTIE,0FLOWER PUNCTUATION MARK,0THREE DOT PUNCTUATION,
      0QUADRUPLE PRIME,0FOUR DOT PUNCTUATION,0FIVE DOT PUNCTUATION,0TWO DOT PUNCTUATION,
      0FOUR DOT MARK,0DOTTED CROSS,0TRICOLON,0VERTICAL FOUR DOTS,0MEDIUM MATHEMATICAL SPACE,
      0WORD JOINER,0FUNCTION APPLICATION,0INVISIBLE TIMES,1SEPARATOR,1PLUS"),
    (8294, "0LEFT-TO-RIGHT ISOLATE,0RIGHT-TO-LEFT ISOLATE,0FIRST STRONG ISOLATE,
      0POP DIRECTIONAL ISOLATE,0INHIBIT SYMMETRIC SWAPPING,0ACTIVATE SYMMETRIC SWAPPING,
      0INHIBIT ARABIC FORM SHAPING,0ACTIVATE ARABIC FORM SHAPING,0NATIONAL DIGIT SHAPES,
      0NOMINAL DIGIT SHAPES,0SUPERSCRIPT ZERO,1LATIN SMALL LETTER I"),
    (8308, "0SUPERSCRIPT FOUR,1FIVE,1SIX,1SEVEN,1EIGHT,1NINE,1PLUS SIGN,1MINUS,1EQUALS SIGN,
      1LEFT PARENTHESIS,1RIGHT PARENTHESIS,1LATIN SMALL LETTER N,0SUBSCRIPT ZERO,1ONE,1TWO,1THREE,
      1FOUR,1FIVE,1SIX,1SEVEN,1EIGHT,1NINE,1PLUS SIGN,1MINUS,1EQUALS SIGN,1LEFT PARENTHESIS,
      1RIGHT PARENTHESIS"),
    (8336, "0LATIN SUBSCRIPT SMALL LETTER A,4E,4O,4X,4SCHWA,4H,4K,4L,4M,4N,4P,4S,4T"),
    (8352, "0EURO-CURRENCY SIGN,0COLON SIGN,0CRUZEIRO SIGN,0FRENCH FRANC SIGN,0LIRA SIGN,
      0MILL SIGN,0NAIRA SIGN,0PESETA SIGN,0RUPEE SIGN,0WON SIGN,0NEW SHEQEL SIGN,0DONG SIGN,
      0EURO SIGN,0KIP SIGN,0TUGRIK SIGN,0DRACHMA SIGN,0GERMAN PENNY SIGN,0PESO SIGN,0GUARANI SIGN,
      0AUSTRAL SIGN,0HRYVNIA SIGN,0CEDI SIGN,0LIVRE TOURNOIS SIGN,0SPESMILO SIGN,0TENGE SIGN,
      0INDIAN RUPEE SIGN,0TURKISH LIRA SIGN,0NORDIC MARK SIGN,0MANAT SIGN,0RUBLE SIGN,0LARI SIGN,
      0BITCOIN SIGN,0SOM SIGN"),
    (8400, "0COMBINING LEFT HARPOON ABOVE,1RIGHT HARPOON ABOVE,1LONG VERTICAL LINE OVERLAY,
      1SHORT VERTICAL LINE OVERLAY,1ANTICLOCKWISE ARROW ABOVE,1CLOCKWISE ARROW ABOVE,
      1LEFT ARROW ABOVE,1RIGHT ARROW ABOVE,1RING OVERLAY,1CLOCKWISE RING OVERLAY,
      1ANTICLOCKWISE RING OVERLAY,1THREE DOTS ABOVE,1FOUR DOTS ABOVE,1ENCLOSING CIRCLE,2SQUARE,
      2DIAMOND,2CIRCLE BACKSLASH,1LEFT RIGHT ARROW ABOVE,1ENCLOSING SCREEN,2KEYCAP,
      2UPWARD POINTING TRIANGLE,1REVERSE SOLIDUS OVERLAY,1DOUBLE VERTICAL STROKE OVERLAY,
      1ANNUITY SYMBOL,1TRIPLE UNDERDOT,1WIDE BRIDGE ABOVE,1LEFTWARDS ARROW OVERLAY,
      1LONG DOUBLE SOLIDUS OVERLAY,1RIGHTWARDS HARPOON WITH BARB DOWNWARDS,
      1LEFTWARDS HARPOON WITH BARB DOWNWARDS,1LEFT ARROW BELOW,1RIGHT ARROW BELOW,1ASTERISK ABOVE"),
    (8448, "0ACCOUNT OF,0ADDRESSED TO THE SUBJECT,0DOUBLE-STRUCK CAPITAL C,0DEGREE CELSIUS,
      0CENTRE LINE SYMBOL,0CARE OF,0CADA UNA,0EULER CONSTANT,0SCRUPLE,0DEGREE FAHRENHEIT,
      0SCRIPT SMALL G,1CAPITAL H,0BLACK-LETTER CAPITAL H,0DOUBLE-STRUCK CAPITAL H,0PLANCK CONSTANT,
      1CONSTANT OVER TWO PI,0SCRIPT CAPITAL I,0BLACK-LETTER CAPITAL I,0SCRIPT CAPITAL L,1SMALL L,
      0L B BAR SYMBOL,0DOUBLE-STRUCK CAPITAL N,0NUMERO SIGN,0SOUND RECORDING COPYRIGHT,
      0SCRIPT CAPITAL P,0DOUBLE-STRUCK CAPITAL P,3Q,0SCRIPT CAPITAL R,0BLACK-LETTER CAPITAL R,
      0DOUBLE-STRUCK CAPITAL R,0PRESCRIPTION TAKE,0RESPONSE,0SERVICE MARK,0TELEPHONE SIGN,
      0TRADE MARK SIGN,0VERSICLE,0DOUBLE-STRUCK CAPITAL Z,0OUNCE SIGN,0OHM SIGN,0INVERTED OHM SIGN,
      0BLACK-LETTER CAPITAL Z,0TURNED GREEK SMALL LETTER IOTA,0KELVIN SIGN,0ANGSTROM SIGN,
      0SCRIPT CAPITAL B,0BLACK-LETTER CAPITAL C,0ESTIMATED SYMBOL,0SCRIPT SMALL E,1CAPITAL E,2F,
      0TURNED CAPITAL F,0SCRIPT CAPITAL M,1SMALL O,0ALEF SYMBOL,0BET SYMBOL,0GIMEL SYMBOL,
      0DALET SYMBOL,0INFORMATION SOURCE,0ROTATED CAPITAL Q,0FACSIMILE SIGN,0DOUBLE-STRUCK SMALL PI,
      3GAMMA,2CAPITAL GAMMA,3PI,2N-ARY SUMMATION,0TURNED SANS-SERIF CAPITAL G,4L,
      0REVERSED SANS-SERIF CAPITAL L,0TURNED SANS-SERIF CAPITAL Y,0DOUBLE-STRUCK ITALIC CAPITAL D,
      3SMALL D,4E,4I,4J,0PROPERTY LINE,0TURNED AMPERSAND,0PER SIGN,0AKTIESELSKAB,0TURNED SMALL F,
      0SYMBOL FOR SAMARITAN SOURCE,0VULGAR FRACTION ONE SEVENTH,3NINTH,3TENTH,3THIRD,2TWO THIRDS,
      2ONE FIFTH,2TWO FIFTHS,2THREE FIFTHS,2FOUR FIFTHS,2ONE SIXTH,2FIVE SIXTHS,2ONE EIGHTH,
      2THREE EIGHTHS,2FIVE EIGHTHS,2SEVEN EIGHTHS,0FRACTION NUMERATOR ONE,0ROMAN NUMERAL ONE,2TWO,
      2THREE,2FOUR,2FIVE,2SIX,2SEVEN,2EIGHT,2NINE,2TEN,2ELEVEN,2TWELVE,2FIFTY,2ONE HUNDRED,
      2FIVE HUNDRED,2ONE THOUSAND,0SMALL ROMAN NUMERAL ONE,3TWO,3THREE,3FOUR,3FIVE,3SIX,3SEVEN,
      3EIGHT,3NINE,3TEN,3ELEVEN,3TWELVE,3FIFTY,3ONE HUNDRED,3FIVE HUNDRED,3ONE THOUSAND,
      0ROMAN NUMERAL ONE THOUSAND C D,2FIVE THOUSAND,2TEN THOUSAND,2REVERSED ONE HUNDRED,
      0LATIN SMALL LETTER REVERSED C,0ROMAN NUMERAL SIX LATE FORM,2FIFTY EARLY FORM,3THOUSAND,
      2ONE HUNDRED THOUSAND,0VULGAR FRACTION ZERO THIRDS,0TURNED DIGIT TWO,2THREE"),
    (8592, "0LEFTWARDS ARROW,0UPWARDS ARROW,0RIGHTWARDS ARROW,0DOWNWARDS ARROW,0LEFT RIGHT ARROW,
      0UP DOWN ARROW,0NORTH WEST ARROW,1EAST ARROW,0SOUTH EAST ARROW,1WEST ARROW,
      0LEFTWARDS ARROW WITH STROKE,0RIGHTWARDS ARROW WITH STROKE,0LEFTWARDS WAVE ARROW,
      0RIGHTWARDS WAVE ARROW,0LEFTWARDS TWO HEADED ARROW,0UPWARDS TWO HEADED ARROW,
      0RIGHTWARDS TWO HEADED ARROW,0DOWNWARDS TWO HEADED ARROW,0LEFTWARDS ARROW WITH TAIL,
      0RIGHTWARDS ARROW WITH TAIL,0LEFTWARDS ARROW FROM BAR,0UPWARDS ARROW FROM BAR,
      0RIGHTWARDS ARROW FROM BAR,0DOWNWARDS ARROW FROM BAR,0UP DOWN ARROW WITH BASE,
      0LEFTWARDS ARROW WITH HOOK,0RIGHTWARDS ARROW WITH HOOK,0LEFTWARDS ARROW WITH LOOP,
      0RIGHTWARDS ARROW WITH LOOP,0LEFT RIGHT WAVE ARROW,2ARROW WITH STROKE,
      0DOWNWARDS ZIGZAG ARROW,0UPWARDS ARROW WITH TIP LEFTWARDS,4RIGHTWARDS,
      0DOWNWARDS ARROW WITH TIP LEFTWARDS,4RIGHTWARDS,0RIGHTWARDS ARROW WITH CORNER DOWNWARDS,
      0DOWNWARDS ARROW WITH CORNER LEFTWARDS,0ANTICLOCKWISE TOP SEMICIRCLE ARROW,
      0CLOCKWISE TOP SEMICIRCLE ARROW,0NORTH WEST ARROW TO LONG BAR,
      0LEFTWARDS ARROW TO BAR OVER RIGHTWARDS ARROW TO BAR,0ANTICLOCKWISE OPEN CIRCLE ARROW,
      0CLOCKWISE OPEN CIRCLE ARROW,0LEFTWARDS HARPOON WITH BARB UPWARDS,4DOWNWARDS,
      0UPWARDS HARPOON WITH BARB RIGHTWARDS,4LEFTWARDS,0RIGHTWARDS HARPOON WITH BARB UPWARDS,
      4DOWNWARDS,0DOWNWARDS HARPOON WITH BARB RIGHTWARDS,4LEFTWARDS,
      0RIGHTWARDS ARROW OVER LEFTWARDS ARROW,0UPWARDS ARROW LEFTWARDS OF DOWNWARDS ARROW,
      0LEFTWARDS ARROW OVER RIGHTWARDS ARROW,1PAIRED ARROWS,0UPWARDS PAIRED ARROWS,
      0RIGHTWARDS PAIRED ARROWS,0DOWNWARDS PAIRED ARROWS,
      0LEFTWARDS HARPOON OVER RIGHTWARDS HARPOON,0RIGHTWARDS HARPOON OVER LEFTWARDS HARPOON,
      0LEFTWARDS DOUBLE ARROW WITH STROKE,0LEFT RIGHT DOUBLE ARROW WITH STROKE,
      0RIGHTWARDS DOUBLE ARROW WITH STROKE,0LEFTWARDS DOUBLE ARROW,0UPWARDS DOUBLE ARROW,
      0RIGHTWARDS DOUBLE ARROW,0DOWNWARDS DOUBLE ARROW,0LEFT RIGHT DOUBLE ARROW,
      0UP DOWN DOUBLE ARROW,0NORTH WEST DOUBLE ARROW,1EAST DOUBLE ARROW,0SOUTH EAST DOUBLE ARROW,
      1WEST DOUBLE ARROW,0LEFTWARDS TRIPLE ARROW,0RIGHTWARDS TRIPLE ARROW,
      0LEFTWARDS SQUIGGLE ARROW,0RIGHTWARDS SQUIGGLE ARROW,0UPWARDS ARROW WITH DOUBLE STROKE,
      0DOWNWARDS ARROW WITH DOUBLE STROKE,0LEFTWARDS DASHED ARROW,0UPWARDS DASHED ARROW,
      0RIGHTWARDS DASHED ARROW,0DOWNWARDS DASHED ARROW,0LEFTWARDS ARROW TO BAR,
      0RIGHTWARDS ARROW TO BAR,0LEFTWARDS WHITE ARROW,0UPWARDS WHITE ARROW,0RIGHTWARDS WHITE ARROW,
      0DOWNWARDS WHITE ARROW,0UPWARDS WHITE ARROW FROM BAR,3ON PEDESTAL,
      4PEDESTAL WITH HORIZONTAL BAR,6VERTICAL BAR,2DOUBLE ARROW,3ARROW ON PEDESTAL,
      0RIGHTWARDS WHITE ARROW FROM WALL,0NORTH WEST ARROW TO CORNER,0SOUTH EAST ARROW TO CORNER,
      0UP DOWN WHITE ARROW,0RIGHT ARROW WITH SMALL CIRCLE,
      0DOWNWARDS ARROW LEFTWARDS OF UPWARDS ARROW,0THREE RIGHTWARDS ARROWS,
      0LEFTWARDS ARROW WITH VERTICAL STROKE,0RIGHTWARDS ARROW WITH VERTICAL STROKE,
      0LEFT RIGHT ARROW WITH VERTICAL STROKE,0LEFTWARDS ARROW WITH DOUBLE VERTICAL STROKE,
      0RIGHTWARDS ARROW WITH DOUBLE VERTICAL STROKE,0LEFT RIGHT ARROW WITH DOUBLE VERTICAL STROKE,
      0LEFTWARDS OPEN-HEADED ARROW,0RIGHTWARDS OPEN-HEADED ARROW,0LEFT RIGHT OPEN-HEADED ARROW,
      0FOR ALL,0COMPLEMENT,0PARTIAL DIFFERENTIAL,0THERE EXISTS,1DOES NOT EXIST,0EMPTY SET,
      0INCREMENT,0NABLA,0ELEMENT OF,0NOT AN ELEMENT OF,0SMALL ELEMENT OF,0CONTAINS AS MEMBER,
      0DOES NOT CONTAIN AS MEMBER,0SMALL CONTAINS AS MEMBER,0END OF PROOF,0N-ARY PRODUCT,
      2COPRODUCT,2SUMMATION,0MINUS SIGN,0MINUS-OR-PLUS SIGN,0DOT PLUS,0DIVISION SLASH,0SET MINUS,
      0ASTERISK OPERATOR,0RING OPERATOR,0BULLET OPERATOR,0SQUARE ROOT,0CUBE ROOT,0FOURTH ROOT,
      0PROPORTIONAL TO,0INFINITY,0RIGHT ANGLE,0ANGLE,0MEASURED ANGLE,0SPHERICAL ANGLE,0DIVIDES,
      0DOES NOT DIVIDE,0PARALLEL TO,0NOT PARALLEL TO,0LOGICAL AND,1OR,0INTERSECTION,0UNION,
      0INTEGRAL,0DOUBLE INTEGRAL,0TRIPLE INTEGRAL,0CONTOUR INTEGRAL,0SURFACE INTEGRAL,
      0VOLUME INTEGRAL,0CLOCKWISE INTEGRAL,1CONTOUR INTEGRAL,0ANTICLOCKWISE CONTOUR INTEGRAL,
      0THEREFORE,0BECAUSE,0RATIO,0PROPORTION,0DOT MINUS,0EXCESS,0GEOMETRIC PROPORTION,0HOMOTHETIC,
      0TILDE OPERATOR,0REVERSED TILDE,0INVERTED LAZY S,0SINE WAVE,0WREATH PRODUCT,0NOT TILDE,
      0MINUS TILDE,0ASYMPTOTICALLY EQUAL TO,0NOT ASYMPTOTICALLY EQUAL TO,0APPROXIMATELY EQUAL TO,
      1BUT NOT ACTUALLY EQUAL TO,0NEITHER APPROXIMATELY NOR ACTUALLY EQUAL TO,0ALMOST EQUAL TO,
      0NOT ALMOST EQUAL TO,0ALMOST EQUAL OR EQUAL TO,0TRIPLE TILDE,0ALL EQUAL TO,0EQUIVALENT TO,
      0GEOMETRICALLY EQUIVALENT TO,0DIFFERENCE BETWEEN,0APPROACHES THE LIMIT,
      0GEOMETRICALLY EQUAL TO,0APPROXIMATELY EQUAL TO OR THE IMAGE OF,
      0IMAGE OF OR APPROXIMATELY EQUAL TO,0COLON EQUALS,0EQUALS COLON,0RING IN EQUAL TO,1EQUAL TO,
      0CORRESPONDS TO,0ESTIMATES,0EQUIANGULAR TO,0STAR EQUALS,0DELTA EQUAL TO,
      0EQUAL TO BY DEFINITION,0MEASURED BY,0QUESTIONED EQUAL TO,0NOT EQUAL TO,0IDENTICAL TO,
      0NOT IDENTICAL TO,0STRICTLY EQUIVALENT TO,0LESS-THAN OR EQUAL TO,0GREATER-THAN OR EQUAL TO,
      0LESS-THAN OVER EQUAL TO,0GREATER-THAN OVER EQUAL TO,0LESS-THAN BUT NOT EQUAL TO,
      0GREATER-THAN BUT NOT EQUAL TO,0MUCH LESS-THAN,1GREATER-THAN,0BETWEEN,0NOT EQUIVALENT TO,
      1LESS-THAN,1GREATER-THAN,0NEITHER LESS-THAN NOR EQUAL TO,1GREATER-THAN NOR EQUAL TO,
      0LESS-THAN OR EQUIVALENT TO,0GREATER-THAN OR EQUIVALENT TO,
      0NEITHER LESS-THAN NOR EQUIVALENT TO,1GREATER-THAN NOR EQUIVALENT TO,
      0LESS-THAN OR GREATER-THAN,0GREATER-THAN OR LESS-THAN,0NEITHER LESS-THAN NOR GREATER-THAN,
      1GREATER-THAN NOR LESS-THAN,0PRECEDES,0SUCCEEDS,0PRECEDES OR EQUAL TO,0SUCCEEDS OR EQUAL TO,
      0PRECEDES OR EQUIVALENT TO,0SUCCEEDS OR EQUIVALENT TO,0DOES NOT PRECEDE,2SUCCEED,0SUBSET OF,
      0SUPERSET OF,0NOT A SUBSET OF,2SUPERSET OF,0SUBSET OF OR EQUAL TO,0SUPERSET OF OR EQUAL TO,
      0NEITHER A SUBSET OF NOR EQUAL TO,2SUPERSET OF NOR EQUAL TO,0SUBSET OF WITH NOT EQUAL TO,
      0SUPERSET OF WITH NOT EQUAL TO,0MULTISET,0MULTISET MULTIPLICATION,1UNION,0SQUARE IMAGE OF,
      1ORIGINAL OF,1IMAGE OF OR EQUAL TO,1ORIGINAL OF OR EQUAL TO,1CAP,1CUP,0CIRCLED PLUS,1MINUS,
      1TIMES,1DIVISION SLASH,1DOT OPERATOR,1RING OPERATOR,1ASTERISK OPERATOR,1EQUALS,1DASH,
      0SQUARED PLUS,1MINUS,1TIMES,1DOT OPERATOR,0RIGHT TACK,0LEFT TACK,0DOWN TACK,0UP TACK,
      0ASSERTION,0MODELS,0TRUE,0FORCES,0TRIPLE VERTICAL BAR RIGHT TURNSTILE,
      0DOUBLE VERTICAL BAR DOUBLE RIGHT TURNSTILE,0DOES NOT PROVE,0NOT TRUE,0DOES NOT FORCE,
      0NEGATED DOUBLE VERTICAL BAR DOUBLE RIGHT TURNSTILE,0PRECEDES UNDER RELATION,
      0SUCCEEDS UNDER RELATION,0NORMAL SUBGROUP OF,0CONTAINS AS NORMAL SUBGROUP,
      0NORMAL SUBGROUP OF OR EQUAL TO,0CONTAINS AS NORMAL SUBGROUP OR EQUAL TO,0ORIGINAL OF,
      0IMAGE OF,0MULTIMAP,0HERMITIAN CONJUGATE MATRIX,0INTERCALATE,0XOR,0NAND,0NOR,
      0RIGHT ANGLE WITH ARC,1TRIANGLE,0N-ARY LOGICAL AND,3OR,2INTERSECTION,2UNION,
      0DIAMOND OPERATOR,0DOT OPERATOR,0STAR OPERATOR,0DIVISION TIMES,0BOWTIE,
      0LEFT NORMAL FACTOR SEMIDIRECT PRODUCT,0RIGHT NORMAL FACTOR SEMIDIRECT PRODUCT,
      0LEFT SEMIDIRECT PRODUCT,0RIGHT SEMIDIRECT PRODUCT,0REVERSED TILDE EQUALS,0CURLY LOGICAL OR,
      2AND,0DOUBLE SUBSET,1SUPERSET,1INTERSECTION,1UNION,0PITCHFORK,0EQUAL AND PARALLEL TO,
      0LESS-THAN WITH DOT,0GREATER-THAN WITH DOT,0VERY MUCH LESS-THAN,2GREATER-THAN,
      0LESS-THAN EQUAL TO OR GREATER-THAN,0GREATER-THAN EQUAL TO OR LESS-THAN,
      0EQUAL TO OR LESS-THAN,3GREATER-THAN,3PRECEDES,3SUCCEEDS,0DOES NOT PRECEDE OR EQUAL,
      2SUCCEED OR EQUAL,0NOT SQUARE IMAGE OF OR EQUAL TO,2ORIGINAL OF OR EQUAL TO,
      0SQUARE IMAGE OF OR NOT EQUAL TO,1ORIGINAL OF OR NOT EQUAL TO,
      0LESS-THAN BUT NOT EQUIVALENT TO,0GREATER-THAN BUT NOT EQUIVALENT TO,
      0PRECEDES BUT NOT EQUIVALENT TO,0SUCCEEDS BUT NOT EQUIVALENT TO,0NOT NORMAL SUBGROUP OF,
      0DOES NOT CONTAIN AS NORMAL SUBGROUP,0NOT NORMAL SUBGROUP OF OR EQUAL TO,
      0DOES NOT CONTAIN AS NORMAL SUBGROUP OR EQUAL,0VERTICAL ELLIPSIS,
      0MIDLINE HORIZONTAL ELLIPSIS,0UP RIGHT DIAGONAL ELLIPSIS,0DOWN RIGHT DIAGONAL ELLIPSIS,
      0ELEMENT OF WITH LONG HORIZONTAL STROKE,3VERTICAL BAR AT END OF HORIZONTAL STROKE,
      0SMALL ELEMENT OF WITH VERTICAL BAR AT END OF HORIZONTAL STROKE,0ELEMENT OF WITH DOT ABOVE,
      3OVERBAR,0SMALL ELEMENT OF WITH OVERBAR,0ELEMENT OF WITH UNDERBAR,3TWO HORIZONTAL STROKES,
      0CONTAINS WITH LONG HORIZONTAL STROKE,2VERTICAL BAR AT END OF HORIZONTAL STROKE,
      0SMALL CONTAINS WITH VERTICAL BAR AT END OF HORIZONTAL STROKE,0CONTAINS WITH OVERBAR,
      0SMALL CONTAINS WITH OVERBAR,0Z NOTATION BAG MEMBERSHIP,0DIAMETER SIGN,0ELECTRIC ARROW,
      0HOUSE,0UP ARROWHEAD,0DOWN ARROWHEAD,0PROJECTIVE,0PERSPECTIVE,0WAVY LINE,0LEFT CEILING,
      0RIGHT CEILING,0LEFT FLOOR,0RIGHT FLOOR,0BOTTOM RIGHT CROP,1LEFT CROP,0TOP RIGHT CROP,
      1LEFT CROP,0REVERSED NOT SIGN,0SQUARE LOZENGE,0ARC,0SEGMENT,0SECTOR,0TELEPHONE RECORDER,
      0POSITION INDICATOR,0VIEWDATA SQUARE,0PLACE OF INTEREST SIGN,0TURNED NOT SIGN,0WATCH,
      0HOURGLASS,0TOP LEFT CORNER,1RIGHT CORNER,0BOTTOM LEFT CORNER,1RIGHT CORNER,
      0TOP HALF INTEGRAL,0BOTTOM HALF INTEGRAL,0FROWN,0SMILE,
      0UP ARROWHEAD BETWEEN TWO HORIZONTAL BARS,0OPTION KEY,0ERASE TO THE RIGHT,
      0X IN A RECTANGLE BOX,0KEYBOARD,0LEFT-POINTING ANGLE BRACKET,0RIGHT-POINTING ANGLE BRACKET,
      0ERASE TO THE LEFT,0BENZENE RING,0CYLINDRICITY,0ALL AROUND-PROFILE,0SYMMETRY,0TOTAL RUNOUT,
      0DIMENSION ORIGIN,0CONICAL TAPER,0SLOPE,0COUNTERBORE,0COUNTERSINK,
      0APL FUNCTIONAL SYMBOL I-BEAM,3SQUISH QUAD,3QUAD EQUAL,4DIVIDE,4DIAMOND,4JOT,4CIRCLE,
      3CIRCLE STILE,4JOT,3SLASH BAR,3BACKSLASH BAR,3QUAD SLASH,4BACKSLASH,4LESS-THAN,4GREATER-THAN,
      3LEFTWARDS VANE,3RIGHTWARDS VANE,3QUAD LEFTWARDS ARROW,4RIGHTWARDS ARROW,3CIRCLE BACKSLASH,
      3DOWN TACK UNDERBAR,3DELTA STILE,3QUAD DOWN CARET,4DELTA,3DOWN TACK JOT,3UPWARDS VANE,
      3QUAD UPWARDS ARROW,3UP TACK OVERBAR,3DEL STILE,3QUAD UP CARET,4DEL,3UP TACK JOT,
      3DOWNWARDS VANE,3QUAD DOWNWARDS ARROW,3QUOTE UNDERBAR,3DELTA UNDERBAR,3DIAMOND UNDERBAR,
      3JOT UNDERBAR,3CIRCLE UNDERBAR,3UP SHOE JOT,3QUOTE QUAD,3CIRCLE STAR,3QUAD COLON,
      3UP TACK DIAERESIS,3DEL DIAERESIS,3STAR DIAERESIS,3JOT DIAERESIS,3CIRCLE DIAERESIS,
      3DOWN SHOE STILE,3LEFT SHOE STILE,3TILDE DIAERESIS,3GREATER-THAN DIAERESIS,3COMMA BAR,
      3DEL TILDE,3ZILDE,3STILE TILDE,3SEMICOLON UNDERBAR,3QUAD NOT EQUAL,4QUESTION,
      3DOWN CARET TILDE,3UP CARET TILDE,3IOTA,3RHO,3OMEGA,3ALPHA UNDERBAR,3EPSILON UNDERBAR,
      3IOTA UNDERBAR,3OMEGA UNDERBAR,3ALPHA,0NOT CHECK MARK,
      0RIGHT ANGLE WITH DOWNWARDS ZIGZAG ARROW,0SHOULDERED OPEN BOX,0BELL SYMBOL,
      0VERTICAL LINE WITH MIDDLE DOT,0INSERTION SYMBOL,0CONTINUOUS UNDERLINE SYMBOL,
      0DISCONTINUOUS UNDERLINE SYMBOL,0EMPHASIS SYMBOL,0COMPOSITION SYMBOL,
      0WHITE SQUARE WITH CENTRE VERTICAL LINE,0ENTER SYMBOL,0ALTERNATIVE KEY SYMBOL,0HELM SYMBOL,
      0CIRCLED HORIZONTAL BAR WITH NOTCH,1TRIANGLE DOWN,0BROKEN CIRCLE WITH NORTHWEST ARROW,
      0UNDO SYMBOL,0MONOSTABLE SYMBOL,0HYSTERESIS SYMBOL,0OPEN-CIRCUIT-OUTPUT H-TYPE SYMBOL,
      3L-TYPE SYMBOL,0PASSIVE-PULL-DOWN-OUTPUT SYMBOL,2UP-OUTPUT SYMBOL,
      0DIRECT CURRENT SYMBOL FORM TWO,0SOFTWARE-FUNCTION SYMBOL,0APL FUNCTIONAL SYMBOL QUAD,
      0DECIMAL SEPARATOR KEY SYMBOL,0PREVIOUS PAGE,0NEXT PAGE,0PRINT SCREEN SYMBOL,
      0CLEAR SCREEN SYMBOL,0LEFT PARENTHESIS UPPER HOOK,2EXTENSION,2LOWER HOOK,
      0RIGHT PARENTHESIS UPPER HOOK,2EXTENSION,2LOWER HOOK,0LEFT SQUARE BRACKET UPPER CORNER,
      3EXTENSION,3LOWER CORNER,0RIGHT SQUARE BRACKET UPPER CORNER,3EXTENSION,3LOWER CORNER,
      0LEFT CURLY BRACKET UPPER HOOK,3MIDDLE PIECE,3LOWER HOOK,0CURLY BRACKET EXTENSION,
      0RIGHT CURLY BRACKET UPPER HOOK,3MIDDLE PIECE,3LOWER HOOK,0INTEGRAL EXTENSION,
      0HORIZONTAL LINE EXTENSION,0UPPER LEFT OR LOWER RIGHT CURLY BRACKET SECTION,
      1RIGHT OR LOWER LEFT CURLY BRACKET SECTION,0SUMMATION TOP,1BOTTOM,0TOP SQUARE BRACKET,
      0BOTTOM SQUARE BRACKET,2BRACKET OVER TOP SQUARE BRACKET,0RADICAL SYMBOL BOTTOM,
      0LEFT VERTICAL BOX LINE,0RIGHT VERTICAL BOX LINE,0HORIZONTAL SCAN LINE-1,33,37,39,
      0DENTISTRY SYMBOL LIGHT VERTICAL AND TOP RIGHT,5BOTTOM RIGHT,4WITH CIRCLE,
      3DOWN AND HORIZONTAL WITH CIRCLE,3UP AND HORIZONTAL WITH CIRCLE,3VERTICAL WITH TRIANGLE,
      3DOWN AND HORIZONTAL WITH TRIANGLE,3UP AND HORIZONTAL WITH TRIANGLE,3VERTICAL AND WAVE,
      3DOWN AND HORIZONTAL WITH WAVE,3UP AND HORIZONTAL WITH WAVE,3DOWN AND HORIZONTAL,
      3UP AND HORIZONTAL,3VERTICAL AND TOP LEFT,5BOTTOM LEFT,0SQUARE FOOT,0RETURN SYMBOL,
      0EJECT SYMBOL,0VERTICAL LINE EXTENSION,0METRICAL BREVE,1LONG OVER SHORT,1SHORT OVER LONG,
      1LONG OVER TWO SHORTS,1TWO SHORTS OVER LONG,3JOINED,1TRISEME,1TETRASEME,1PENTASEME,
      0EARTH GROUND,0FUSE,0TOP PARENTHESIS,0BOTTOM PARENTHESIS,0TOP CURLY BRACKET,
      0BOTTOM CURLY BRACKET,0TOP TORTOISE SHELL BRACKET,0BOTTOM TORTOISE SHELL BRACKET,
      0WHITE TRAPEZIUM,0BENZENE RING WITH CIRCLE,0STRAIGHTNESS,0FLATNESS,0AC CURRENT,
      0ELECTRICAL INTERSECTION,0DECIMAL EXPONENT SYMBOL,0BLACK RIGHT-POINTING DOUBLE TRIANGLE,
      1LEFT-POINTING DOUBLE TRIANGLE,1UP-POINTING DOUBLE TRIANGLE,1DOWN-POINTING DOUBLE TRIANGLE,
      1RIGHT-POINTING DOUBLE TRIANGLE WITH VERTICAL BAR,
      1LEFT-POINTING DOUBLE TRIANGLE WITH VERTICAL BAR,
      1RIGHT-POINTING TRIANGLE WITH DOUBLE VERTICAL BAR,0ALARM CLOCK,0STOPWATCH,0TIMER CLOCK,
      0HOURGLASS WITH FLOWING SAND,0BLACK MEDIUM LEFT-POINTING TRIANGLE,2RIGHT-POINTING TRIANGLE,
      2UP-POINTING TRIANGLE,2DOWN-POINTING TRIANGLE,0DOUBLE VERTICAL BAR,0BLACK SQUARE FOR STOP,
      1CIRCLE FOR RECORD,0POWER SYMBOL,1ON-OFF SYMBOL,1ON SYMBOL,1SLEEP SYMBOL,
      0OBSERVER EYE SYMBOL,0SYMBOL FOR NULL,2START OF HEADING,4TEXT,2END OF TEXT,4TRANSMISSION,
      2ENQUIRY,2ACKNOWLEDGE,2BELL,2BACKSPACE,2HORIZONTAL TABULATION,2LINE FEED,
      2VERTICAL TABULATION,2FORM FEED,2CARRIAGE RETURN,2SHIFT OUT,3IN,2DATA LINK ESCAPE,
      2DEVICE CONTROL ONE,4TWO,4THREE,4FOUR,2NEGATIVE ACKNOWLEDGE,2SYNCHRONOUS IDLE,
      2END OF TRANSMISSION BLOCK,2CANCEL,2END OF MEDIUM,2SUBSTITUTE,2ESCAPE,2FILE SEPARATOR,
      2GROUP SEPARATOR,2RECORD SEPARATOR,2UNIT SEPARATOR,2SPACE,2DELETE,0BLANK SYMBOL,0OPEN BOX,
      0SYMBOL FOR NEWLINE,2DELETE FORM TWO,2SUBSTITUTE FORM TWO"),
    (9280, "0OCR HOOK,1CHAIR,1FORK,1INVERTED FORK,1BELT BUCKLE,1BOW TIE,
      1BRANCH BANK IDENTIFICATION,1AMOUNT OF CHECK,1DASH,1CUSTOMER ACCOUNT NUMBER,
      1DOUBLE BACKSLASH"),
    (9312, "0CIRCLED DIGIT ONE,2TWO,2THREE,2FOUR,2FIVE,2SIX,2SEVEN,2EIGHT,2NINE,1NUMBER TEN,
      2ELEVEN,2TWELVE,2THIRTEEN,2FOURTEEN,2FIFTEEN,2SIXTEEN,2SEVENTEEN,2EIGHTEEN,2NINETEEN,2TWENTY,
      0PARENTHESIZED DIGIT ONE,2TWO,2THREE,2FOUR,2FIVE,2SIX,2SEVEN,2EIGHT,2NINE,1NUMBER TEN,
      2ELEVEN,2TWELVE,2THIRTEEN,2FOURTEEN,2FIFTEEN,2SIXTEEN,2SEVENTEEN,2EIGHTEEN,2NINETEEN,2TWENTY,
      0DIGIT ONE FULL STOP,1TWO FULL STOP,1THREE FULL STOP,1FOUR FULL STOP,1FIVE FULL STOP,
      1SIX FULL STOP,1SEVEN FULL STOP,1EIGHT FULL STOP,1NINE FULL STOP,0NUMBER TEN FULL STOP,
      1ELEVEN FULL STOP,1TWELVE FULL STOP,1THIRTEEN FULL STOP,1FOURTEEN FULL STOP,
      1FIFTEEN FULL STOP,1SIXTEEN FULL STOP,1SEVENTEEN FULL STOP,1EIGHTEEN FULL STOP,
      1NINETEEN FULL STOP,1TWENTY FULL STOP,0PARENTHESIZED LATIN SMALL LETTER A,4B,4C,4D,4E,4F,4G,
      4H,4I,4J,4K,4L,4M,4N,4O,4P,4Q,4R,4S,4T,4U,4V,4W,4X,4Y,4Z,0CIRCLED LATIN CAPITAL LETTER A,4B,
      4C,4D,4E,4F,4G,4H,4I,4J,4K,4L,4M,4N,4O,4P,4Q,4R,4S,4T,4U,4V,4W,4X,4Y,4Z,2SMALL LETTER A,4B,
      4C,4D,4E,4F,4G,4H,4I,4J,4K,4L,4M,4N,4O,4P,4Q,4R,4S,4T,4U,4V,4W,4X,4Y,4Z,1DIGIT ZERO,
      0NEGATIVE CIRCLED NUMBER ELEVEN,3TWELVE,3THIRTEEN,3FOURTEEN,3FIFTEEN,3SIXTEEN,3SEVENTEEN,
      3EIGHTEEN,3NINETEEN,3TWENTY,0DOUBLE CIRCLED DIGIT ONE,3TWO,3THREE,3FOUR,3FIVE,3SIX,3SEVEN,
      3EIGHT,3NINE,2NUMBER TEN,0NEGATIVE CIRCLED DIGIT ZERO,0BOX DRAWINGS LIGHT HORIZONTAL,
      2HEAVY HORIZONTAL,2LIGHT VERTICAL,2HEAVY VERTICAL,2LIGHT TRIPLE DASH HORIZONTAL,
      2HEAVY TRIPLE DASH HORIZONTAL,2LIGHT TRIPLE DASH VERTICAL,2HEAVY TRIPLE DASH VERTICAL,
      2LIGHT QUADRUPLE DASH HORIZONTAL,2HEAVY QUADRUPLE DASH HORIZONTAL,
      2LIGHT QUADRUPLE DASH VERTICAL,2HEAVY QUADRUPLE DASH VERTICAL,2LIGHT DOWN AND RIGHT,
      2DOWN LIGHT AND RIGHT HEAVY,3HEAVY AND RIGHT LIGHT,2HEAVY DOWN AND RIGHT,
      2LIGHT DOWN AND LEFT,2DOWN LIGHT AND LEFT HEAVY,3HEAVY AND LEFT LIGHT,2HEAVY DOWN AND LEFT,
      2LIGHT UP AND RIGHT,2UP LIGHT AND RIGHT HEAVY,3HEAVY AND RIGHT LIGHT,2HEAVY UP AND RIGHT,
      2LIGHT UP AND LEFT,2UP LIGHT AND LEFT HEAVY,3HEAVY AND LEFT LIGHT,2HEAVY UP AND LEFT,
      2LIGHT VERTICAL AND RIGHT,2VERTICAL LIGHT AND RIGHT HEAVY,2UP HEAVY AND RIGHT DOWN LIGHT,
      2DOWN HEAVY AND RIGHT UP LIGHT,2VERTICAL HEAVY AND RIGHT LIGHT,
      2DOWN LIGHT AND RIGHT UP HEAVY,2UP LIGHT AND RIGHT DOWN HEAVY,2HEAVY VERTICAL AND RIGHT,
      2LIGHT VERTICAL AND LEFT,2VERTICAL LIGHT AND LEFT HEAVY,2UP HEAVY AND LEFT DOWN LIGHT,
      2DOWN HEAVY AND LEFT UP LIGHT,2VERTICAL HEAVY AND LEFT LIGHT,2DOWN LIGHT AND LEFT UP HEAVY,
      2UP LIGHT AND LEFT DOWN HEAVY,2HEAVY VERTICAL AND LEFT,2LIGHT DOWN AND HORIZONTAL,
      2LEFT HEAVY AND RIGHT DOWN LIGHT,2RIGHT HEAVY AND LEFT DOWN LIGHT,
      2DOWN LIGHT AND HORIZONTAL HEAVY,3HEAVY AND HORIZONTAL LIGHT,
      2RIGHT LIGHT AND LEFT DOWN HEAVY,2LEFT LIGHT AND RIGHT DOWN HEAVY,2HEAVY DOWN AND HORIZONTAL,
      2LIGHT UP AND HORIZONTAL,2LEFT HEAVY AND RIGHT UP LIGHT,2RIGHT HEAVY AND LEFT UP LIGHT,
      2UP LIGHT AND HORIZONTAL HEAVY,3HEAVY AND HORIZONTAL LIGHT,2RIGHT LIGHT AND LEFT UP HEAVY,
      2LEFT LIGHT AND RIGHT UP HEAVY,2HEAVY UP AND HORIZONTAL,2LIGHT VERTICAL AND HORIZONTAL,
      2LEFT HEAVY AND RIGHT VERTICAL LIGHT,2RIGHT HEAVY AND LEFT VERTICAL LIGHT,
      2VERTICAL LIGHT AND HORIZONTAL HEAVY,2UP HEAVY AND DOWN HORIZONTAL LIGHT,
      2DOWN HEAVY AND UP HORIZONTAL LIGHT,2VERTICAL HEAVY AND HORIZONTAL LIGHT,
      2LEFT UP HEAVY AND RIGHT DOWN LIGHT,2RIGHT UP HEAVY AND LEFT DOWN LIGHT,
      2LEFT DOWN HEAVY AND RIGHT UP LIGHT,2RIGHT DOWN HEAVY AND LEFT UP LIGHT,
      2DOWN LIGHT AND UP HORIZONTAL HEAVY,2UP LIGHT AND DOWN HORIZONTAL HEAVY,
      2RIGHT LIGHT AND LEFT VERTICAL HEAVY,2LEFT LIGHT AND RIGHT VERTICAL HEAVY,
      2HEAVY VERTICAL AND HORIZONTAL,2LIGHT DOUBLE DASH HORIZONTAL,2HEAVY DOUBLE DASH HORIZONTAL,
      2LIGHT DOUBLE DASH VERTICAL,2HEAVY DOUBLE DASH VERTICAL,2DOUBLE HORIZONTAL,3VERTICAL,
      2DOWN SINGLE AND RIGHT DOUBLE,3DOUBLE AND RIGHT SINGLE,2DOUBLE DOWN AND RIGHT,
      2DOWN SINGLE AND LEFT DOUBLE,3DOUBLE AND LEFT SINGLE,2DOUBLE DOWN AND LEFT,
      2UP SINGLE AND RIGHT DOUBLE,3DOUBLE AND RIGHT SINGLE,2DOUBLE UP AND RIGHT,
      2UP SINGLE AND LEFT DOUBLE,3DOUBLE AND LEFT SINGLE,2DOUBLE UP AND LEFT,
      2VERTICAL SINGLE AND RIGHT DOUBLE,3DOUBLE AND RIGHT SINGLE,2DOUBLE VERTICAL AND RIGHT,
      2VERTICAL SINGLE AND LEFT DOUBLE,3DOUBLE AND LEFT SINGLE,2DOUBLE VERTICAL AND LEFT,
      2DOWN SINGLE AND HORIZONTAL DOUBLE,3DOUBLE AND HORIZONTAL SINGLE,2DOUBLE DOWN AND HORIZONTAL,
      2UP SINGLE AND HORIZONTAL DOUBLE,3DOUBLE AND HORIZONTAL SINGLE,2DOUBLE UP AND HORIZONTAL,
      2VERTICAL SINGLE AND HORIZONTAL DOUBLE,3DOUBLE AND HORIZONTAL SINGLE,
      2DOUBLE VERTICAL AND HORIZONTAL,2LIGHT ARC DOWN AND RIGHT,6LEFT,4UP AND LEFT,6RIGHT,
      3DIAGONAL UPPER RIGHT TO LOWER LEFT,5LEFT TO LOWER RIGHT,4CROSS,3LEFT,3UP,3RIGHT,3DOWN,
      2HEAVY LEFT,3UP,3RIGHT,3DOWN,2LIGHT LEFT AND HEAVY RIGHT,3UP AND HEAVY DOWN,
      2HEAVY LEFT AND LIGHT RIGHT,3UP AND LIGHT DOWN,0UPPER HALF BLOCK,0LOWER ONE EIGHTH BLOCK,
      2QUARTER BLOCK,1THREE EIGHTHS BLOCK,1HALF BLOCK,1FIVE EIGHTHS BLOCK,1THREE QUARTERS BLOCK,
      1SEVEN EIGHTHS BLOCK,0FULL BLOCK,0LEFT SEVEN EIGHTHS BLOCK,1THREE QUARTERS BLOCK,
      1FIVE EIGHTHS BLOCK,1HALF BLOCK,1THREE EIGHTHS BLOCK,1ONE QUARTER BLOCK,2EIGHTH BLOCK,
      0RIGHT HALF BLOCK,0LIGHT SHADE,0MEDIUM SHADE,0DARK SHADE,0UPPER ONE EIGHTH BLOCK,
      0RIGHT ONE EIGHTH BLOCK,0QUADRANT LOWER LEFT,2RIGHT,1UPPER LEFT,
      2LEFT AND LOWER LEFT AND LOWER RIGHT,5RIGHT,4UPPER RIGHT AND LOWER LEFT,8RIGHT,2RIGHT,
      2RIGHT AND LOWER LEFT,5LEFT AND LOWER RIGHT,0BLACK SQUARE,0WHITE SQUARE,
      1SQUARE WITH ROUNDED CORNERS,2CONTAINING BLACK SMALL SQUARE,0SQUARE WITH HORIZONTAL FILL,
      2VERTICAL FILL,2ORTHOGONAL CROSSHATCH FILL,2UPPER LEFT TO LOWER RIGHT FILL,
      3RIGHT TO LOWER LEFT FILL,2DIAGONAL CROSSHATCH FILL,0BLACK SMALL SQUARE,0WHITE SMALL SQUARE,
      0BLACK RECTANGLE,0WHITE RECTANGLE,0BLACK VERTICAL RECTANGLE,0WHITE VERTICAL RECTANGLE,
      0BLACK PARALLELOGRAM,0WHITE PARALLELOGRAM,0BLACK UP-POINTING TRIANGLE,
      0WHITE UP-POINTING TRIANGLE,0BLACK UP-POINTING SMALL TRIANGLE,
      0WHITE UP-POINTING SMALL TRIANGLE,0BLACK RIGHT-POINTING TRIANGLE,
      0WHITE RIGHT-POINTING TRIANGLE,0BLACK RIGHT-POINTING SMALL TRIANGLE,
      0WHITE RIGHT-POINTING SMALL TRIANGLE,0BLACK RIGHT-POINTING POINTER,
      0WHITE RIGHT-POINTING POINTER,0BLACK DOWN-POINTING TRIANGLE,0WHITE DOWN-POINTING TRIANGLE,
      0BLACK DOWN-POINTING SMALL TRIANGLE,0WHITE DOWN-POINTING SMALL TRIANGLE,
      0BLACK LEFT-POINTING TRIANGLE,0WHITE LEFT-POINTING TRIANGLE,
      0BLACK LEFT-POINTING SMALL TRIANGLE,0WHITE LEFT-POINTING SMALL TRIANGLE,
      0BLACK LEFT-POINTING POINTER,0WHITE LEFT-POINTING POINTER,0BLACK DIAMOND,0WHITE DIAMOND,
      1DIAMOND CONTAINING BLACK SMALL DIAMOND,0FISHEYE,0LOZENGE,0WHITE CIRCLE,0DOTTED CIRCLE,
      0CIRCLE WITH VERTICAL FILL,0BULLSEYE,0BLACK CIRCLE,0CIRCLE WITH LEFT HALF BLACK,
      2RIGHT HALF BLACK,2LOWER HALF BLACK,2UPPER HALF BLACK,3RIGHT QUADRANT BLACK,
      2ALL BUT UPPER LEFT QUADRANT BLACK,0LEFT HALF BLACK CIRCLE,0RIGHT HALF BLACK CIRCLE,
      0INVERSE BULLET,1WHITE CIRCLE,0UPPER HALF INVERSE WHITE CIRCLE,
      0LOWER HALF INVERSE WHITE CIRCLE,0UPPER LEFT QUADRANT CIRCULAR ARC,
      1RIGHT QUADRANT CIRCULAR ARC,0LOWER RIGHT QUADRANT CIRCULAR ARC,1LEFT QUADRANT CIRCULAR ARC,
      0UPPER HALF CIRCLE,0LOWER HALF CIRCLE,0BLACK LOWER RIGHT TRIANGLE,2LEFT TRIANGLE,
      1UPPER LEFT TRIANGLE,2RIGHT TRIANGLE,0WHITE BULLET,0SQUARE WITH LEFT HALF BLACK,
      2RIGHT HALF BLACK,2UPPER LEFT DIAGONAL HALF BLACK,2LOWER RIGHT DIAGONAL HALF BLACK,
      0WHITE SQUARE WITH VERTICAL BISECTING LINE,1UP-POINTING TRIANGLE WITH DOT,
      0UP-POINTING TRIANGLE WITH LEFT HALF BLACK,4RIGHT HALF BLACK,0LARGE CIRCLE,
      0WHITE SQUARE WITH UPPER LEFT QUADRANT,3LOWER LEFT QUADRANT,4RIGHT QUADRANT,
      3UPPER RIGHT QUADRANT,1CIRCLE WITH UPPER LEFT QUADRANT,3LOWER LEFT QUADRANT,4RIGHT QUADRANT,
      3UPPER RIGHT QUADRANT,0UPPER LEFT TRIANGLE,1RIGHT TRIANGLE,0LOWER LEFT TRIANGLE,
      0WHITE MEDIUM SQUARE,0BLACK MEDIUM SQUARE,0WHITE MEDIUM SMALL SQUARE,
      0BLACK MEDIUM SMALL SQUARE,0LOWER RIGHT TRIANGLE,0BLACK SUN WITH RAYS,0CLOUD,0UMBRELLA,
      0SNOWMAN,0COMET,0BLACK STAR,0WHITE STAR,0LIGHTNING,0THUNDERSTORM,0SUN,0ASCENDING NODE,
      0DESCENDING NODE,0CONJUNCTION,0OPPOSITION,0BLACK TELEPHONE,0WHITE TELEPHONE,0BALLOT BOX,
      1BOX WITH CHECK,3X,0SALTIRE,0UMBRELLA WITH RAIN DROPS,0HOT BEVERAGE,0WHITE SHOGI PIECE,
      0BLACK SHOGI PIECE,0SHAMROCK,0REVERSED ROTATED FLORAL HEART BULLET,
      0BLACK LEFT POINTING INDEX,1RIGHT POINTING INDEX,0WHITE LEFT POINTING INDEX,
      1UP POINTING INDEX,1RIGHT POINTING INDEX,1DOWN POINTING INDEX,0SKULL AND CROSSBONES,
      0CAUTION SIGN,0RADIOACTIVE SIGN,0BIOHAZARD SIGN,0CADUCEUS,0ANKH,0ORTHODOX CROSS,0CHI RHO,
      0CROSS OF LORRAINE,2JERUSALEM,0STAR AND CRESCENT,0FARSI SYMBOL,0ADI SHAKTI,
      0HAMMER AND SICKLE,0PEACE SYMBOL,0YIN YANG,0TRIGRAM FOR HEAVEN,2LAKE,2FIRE,2THUNDER,2WIND,
      2WATER,2MOUNTAIN,2EARTH,0WHEEL OF DHARMA,0WHITE FROWNING FACE,1SMILING FACE,
      0BLACK SMILING FACE,0WHITE SUN WITH RAYS,0FIRST QUARTER MOON,0LAST QUARTER MOON,0MERCURY,
      0FEMALE SIGN,0EARTH,0MALE SIGN,0JUPITER,0SATURN,0URANUS,0NEPTUNE,0PLUTO,0ARIES,0TAURUS,
      0GEMINI,0CANCER,0LEO,0VIRGO,0LIBRA,0SCORPIUS,0SAGITTARIUS,0CAPRICORN,0AQUARIUS,0PISCES,
      0WHITE CHESS KING,2QUEEN,2ROOK,2BISHOP,2KNIGHT,2PAWN,0BLACK CHESS KING,2QUEEN,2ROOK,2BISHOP,
      2KNIGHT,2PAWN,1SPADE SUIT,0WHITE HEART SUIT,1DIAMOND SUIT,0BLACK CLUB SUIT,0WHITE SPADE SUIT,
      0BLACK HEART SUIT,1DIAMOND SUIT,0WHITE CLUB SUIT,0HOT SPRINGS,0QUARTER NOTE,0EIGHTH NOTE,
      0BEAMED EIGHTH NOTES,1SIXTEENTH NOTES,0MUSIC FLAT SIGN,1NATURAL SIGN,1SHARP SIGN,
      0WEST SYRIAC CROSS,0EAST SYRIAC CROSS,0UNIVERSAL RECYCLING SYMBOL,
      0RECYCLING SYMBOL FOR TYPE-1 PLASTICS,42 PLASTICS,43 PLASTICS,44 PLASTICS,45 PLASTICS,
      46 PLASTICS,47 PLASTICS,3GENERIC MATERIALS,0BLACK UNIVERSAL RECYCLING SYMBOL,
      0RECYCLED PAPER SYMBOL,0PARTIALLY-RECYCLED PAPER SYMBOL,0PERMANENT PAPER SIGN,
      0WHEELCHAIR SYMBOL,0DIE FACE-1,22,23,24,25,26,0WHITE CIRCLE WITH DOT RIGHT,3TWO DOTS,
      0BLACK CIRCLE WITH WHITE DOT RIGHT,3TWO WHITE DOTS,0MONOGRAM FOR YANG,2YIN,
      0DIGRAM FOR GREATER YANG,2LESSER YIN,3YANG,2GREATER YIN,0WHITE FLAG,0BLACK FLAG,
      0HAMMER AND PICK,0ANCHOR,0CROSSED SWORDS,0STAFF OF AESCULAPIUS,0SCALES,0ALEMBIC,0FLOWER,
      0GEAR,0STAFF OF HERMES,0ATOM SYMBOL,0FLEUR-DE-LIS,0OUTLINED WHITE STAR,
      0THREE LINES CONVERGING RIGHT,3LEFT,0WARNING SIGN,0HIGH VOLTAGE SIGN,0DOUBLED FEMALE SIGN,
      1MALE SIGN,0INTERLOCKED FEMALE AND MALE SIGN,0MALE AND FEMALE SIGN,1WITH STROKE SIGN,
      3AND MALE AND FEMALE SIGN,0VERTICAL MALE WITH STROKE SIGN,0HORIZONTAL MALE WITH STROKE SIGN,
      0MEDIUM WHITE CIRCLE,1BLACK CIRCLE,1SMALL WHITE CIRCLE,0MARRIAGE SYMBOL,0DIVORCE SYMBOL,
      0UNMARRIED PARTNERSHIP SYMBOL,0COFFIN,0FUNERAL URN,0NEUTER,0CERES,0PALLAS,0JUNO,0VESTA,
      0CHIRON,0BLACK MOON LILITH,0SEXTILE,0SEMISEXTILE,0QUINCUNX,0SESQUIQUADRATE,0SOCCER BALL,
      0BASEBALL,0SQUARED KEY,0WHITE DRAUGHTS MAN,2KING,0BLACK DRAUGHTS MAN,2KING,
      0SNOWMAN WITHOUT SNOW,0SUN BEHIND CLOUD,0RAIN,0BLACK SNOWMAN,0THUNDER CLOUD AND RAIN,
      0TURNED WHITE SHOGI PIECE,1BLACK SHOGI PIECE,0WHITE DIAMOND IN SQUARE,0CROSSING LANES,
      0DISABLED CAR,0OPHIUCHUS,0PICK,0CAR SLIDING,0HELMET WITH WHITE CROSS,0CIRCLED CROSSING LANES,
      0CHAINS,0NO ENTRY,0ALTERNATE ONE-WAY LEFT WAY TRAFFIC,0BLACK TWO-WAY LEFT WAY TRAFFIC,
      0WHITE TWO-WAY LEFT WAY TRAFFIC,0BLACK LEFT LANE MERGE,0WHITE LEFT LANE MERGE,
      0DRIVE SLOW SIGN,0HEAVY WHITE DOWN-POINTING TRIANGLE,0LEFT CLOSED ENTRY,0SQUARED SALTIRE,
      0FALLING DIAGONAL IN WHITE CIRCLE IN BLACK SQUARE,0BLACK TRUCK,0RESTRICTED LEFT ENTRY-1,32,
      0ASTRONOMICAL SYMBOL FOR URANUS,0HEAVY CIRCLE WITH STROKE AND TWO DOTS ABOVE,0PENTAGRAM,
      0RIGHT-HANDED INTERLACED PENTAGRAM,0LEFT-HANDED INTERLACED PENTAGRAM,0INVERTED PENTAGRAM,
      0BLACK CROSS ON SHIELD,0SHINTO SHRINE,0CHURCH,0CASTLE,0HISTORIC SITE,0GEAR WITHOUT HUB,
      1WITH HANDLES,0MAP SYMBOL FOR LIGHTHOUSE,0MOUNTAIN,0UMBRELLA ON GROUND,0FOUNTAIN,
      0FLAG IN HOLE,0FERRY,0SAILBOAT,0SQUARE FOUR CORNERS,0SKIER,0ICE SKATE,0PERSON WITH BALL,
      0TENT,0JAPANESE BANK SYMBOL,0HEADSTONE GRAVEYARD SYMBOL,0FUEL PUMP,0CUP ON BLACK SQUARE,
      0WHITE FLAG WITH HORIZONTAL MIDDLE BLACK STRIPE,0BLACK SAFETY SCISSORS,0UPPER BLADE SCISSORS,
      0BLACK SCISSORS,0LOWER BLADE SCISSORS,0WHITE SCISSORS,1HEAVY CHECK MARK,
      0TELEPHONE LOCATION SIGN,0TAPE DRIVE,0AIRPLANE,0ENVELOPE,0RAISED FIST,1HAND,0VICTORY HAND,
      0WRITING HAND,0LOWER RIGHT PENCIL,0PENCIL,0UPPER RIGHT PENCIL,0WHITE NIB,0BLACK NIB,
      0CHECK MARK,0HEAVY CHECK MARK,0MULTIPLICATION X,0HEAVY MULTIPLICATION X,0BALLOT X,
      0HEAVY BALLOT X,0OUTLINED GREEK CROSS,0HEAVY GREEK CROSS,0OPEN CENTRE CROSS,
      0HEAVY OPEN CENTRE CROSS,0LATIN CROSS,0SHADOWED WHITE LATIN CROSS,0OUTLINED LATIN CROSS,
      0MALTESE CROSS,0STAR OF DAVID,0FOUR TEARDROP-SPOKED ASTERISK,1BALLOON-SPOKED ASTERISK,
      0HEAVY FOUR BALLOON-SPOKED ASTERISK,0FOUR CLUB-SPOKED ASTERISK,0BLACK FOUR POINTED STAR,
      0WHITE FOUR POINTED STAR,0SPARKLES,0STRESS OUTLINED WHITE STAR,0CIRCLED WHITE STAR,
      0OPEN CENTRE BLACK STAR,0BLACK CENTRE WHITE STAR,0OUTLINED BLACK STAR,
      0HEAVY OUTLINED BLACK STAR,0PINWHEEL STAR,0SHADOWED WHITE STAR,0HEAVY ASTERISK,
      0OPEN CENTRE ASTERISK,0EIGHT SPOKED ASTERISK,1POINTED BLACK STAR,2PINWHEEL STAR,
      0SIX POINTED BLACK STAR,0EIGHT POINTED RECTILINEAR BLACK STAR,
      0HEAVY EIGHT POINTED RECTILINEAR BLACK STAR,0TWELVE POINTED BLACK STAR,
      0SIXTEEN POINTED ASTERISK,0TEARDROP-SPOKED ASTERISK,0OPEN CENTRE TEARDROP-SPOKED ASTERISK,
      0HEAVY TEARDROP-SPOKED ASTERISK,0SIX PETALLED BLACK AND WHITE FLORETTE,0BLACK FLORETTE,
      0WHITE FLORETTE,0EIGHT PETALLED OUTLINED BLACK FLORETTE,
      0CIRCLED OPEN CENTRE EIGHT POINTED STAR,0HEAVY TEARDROP-SPOKED PINWHEEL ASTERISK,0SNOWFLAKE,
      0TIGHT TRIFOLIATE SNOWFLAKE,0HEAVY CHEVRON SNOWFLAKE,0SPARKLE,0HEAVY SPARKLE,
      0BALLOON-SPOKED ASTERISK,0EIGHT TEARDROP-SPOKED PROPELLER ASTERISK,
      0HEAVY EIGHT TEARDROP-SPOKED PROPELLER ASTERISK,0CROSS MARK,0SHADOWED WHITE CIRCLE,
      0NEGATIVE SQUARED CROSS MARK,0LOWER RIGHT DROP-SHADOWED WHITE SQUARE,
      0UPPER RIGHT DROP-SHADOWED WHITE SQUARE,0LOWER RIGHT SHADOWED WHITE SQUARE,
      0UPPER RIGHT SHADOWED WHITE SQUARE,0BLACK QUESTION MARK ORNAMENT,
      0WHITE QUESTION MARK ORNAMENT,1EXCLAMATION MARK ORNAMENT,0BLACK DIAMOND MINUS WHITE X,
      0HEAVY EXCLAMATION MARK SYMBOL,0LIGHT VERTICAL BAR,0MEDIUM VERTICAL BAR,0HEAVY VERTICAL BAR,
      1SINGLE TURNED COMMA QUOTATION MARK ORNAMENT,2COMMA QUOTATION MARK ORNAMENT,
      1DOUBLE TURNED COMMA QUOTATION MARK ORNAMENT,2COMMA QUOTATION MARK ORNAMENT,
      1LOW SINGLE COMMA QUOTATION MARK ORNAMENT,2DOUBLE COMMA QUOTATION MARK ORNAMENT,
      0CURVED STEM PARAGRAPH SIGN ORNAMENT,0HEAVY EXCLAMATION MARK ORNAMENT,
      1HEART EXCLAMATION MARK ORNAMENT,1BLACK HEART,0ROTATED HEAVY BLACK HEART BULLET,
      0FLORAL HEART,0ROTATED FLORAL HEART BULLET,0MEDIUM LEFT PARENTHESIS ORNAMENT,
      1RIGHT PARENTHESIS ORNAMENT,1FLATTENED LEFT PARENTHESIS ORNAMENT,2RIGHT PARENTHESIS ORNAMENT,
      1LEFT-POINTING ANGLE BRACKET ORNAMENT,1RIGHT-POINTING ANGLE BRACKET ORNAMENT,
      0HEAVY LEFT-POINTING ANGLE QUOTATION MARK ORNAMENT,
      1RIGHT-POINTING ANGLE QUOTATION MARK ORNAMENT,1LEFT-POINTING ANGLE BRACKET ORNAMENT,
      1RIGHT-POINTING ANGLE BRACKET ORNAMENT,0LIGHT LEFT TORTOISE SHELL BRACKET ORNAMENT,
      1RIGHT TORTOISE SHELL BRACKET ORNAMENT,0MEDIUM LEFT CURLY BRACKET ORNAMENT,
      1RIGHT CURLY BRACKET ORNAMENT,0DINGBAT NEGATIVE CIRCLED DIGIT ONE,4TWO,4THREE,4FOUR,4FIVE,
      4SIX,4SEVEN,4EIGHT,4NINE,3NUMBER TEN,1CIRCLED SANS-SERIF DIGIT ONE,5TWO,5THREE,5FOUR,5FIVE,
      5SIX,5SEVEN,5EIGHT,5NINE,4NUMBER TEN,1NEGATIVE CIRCLED SANS-SERIF DIGIT ONE,6TWO,6THREE,
      6FOUR,6FIVE,6SIX,6SEVEN,6EIGHT,6NINE,5NUMBER TEN,0HEAVY WIDE-HEADED RIGHTWARDS ARROW,
      1PLUS SIGN,1MINUS SIGN,1DIVISION SIGN,1SOUTH EAST ARROW,1RIGHTWARDS ARROW,1NORTH EAST ARROW,
      0DRAFTING POINT RIGHTWARDS ARROW,0HEAVY ROUND-TIPPED RIGHTWARDS ARROW,
      0TRIANGLE-HEADED RIGHTWARDS ARROW,0HEAVY TRIANGLE-HEADED RIGHTWARDS ARROW,
      0DASHED TRIANGLE-HEADED RIGHTWARDS ARROW,0HEAVY DASHED TRIANGLE-HEADED RIGHTWARDS ARROW,
      0BLACK RIGHTWARDS ARROW,0THREE-D TOP-LIGHTED RIGHTWARDS ARROWHEAD,
      2BOTTOM-LIGHTED RIGHTWARDS ARROWHEAD,0BLACK RIGHTWARDS ARROWHEAD,
      0HEAVY BLACK CURVED DOWNWARDS AND RIGHTWARDS ARROW,3UPWARDS AND RIGHTWARDS ARROW,
      0SQUAT BLACK RIGHTWARDS ARROW,0HEAVY CONCAVE-POINTED BLACK RIGHTWARDS ARROW,
      0RIGHT-SHADED WHITE RIGHTWARDS ARROW,0LEFT-SHADED WHITE RIGHTWARDS ARROW,
      0BACK-TILTED SHADOWED WHITE RIGHTWARDS ARROW,0FRONT-TILTED SHADOWED WHITE RIGHTWARDS ARROW,
      0HEAVY LOWER RIGHT-SHADOWED WHITE RIGHTWARDS ARROW,
      1UPPER RIGHT-SHADOWED WHITE RIGHTWARDS ARROW,
      0NOTCHED LOWER RIGHT-SHADOWED WHITE RIGHTWARDS ARROW,0CURLY LOOP,
      0NOTCHED UPPER RIGHT-SHADOWED WHITE RIGHTWARDS ARROW,0CIRCLED HEAVY WHITE RIGHTWARDS ARROW,
      0WHITE-FEATHERED RIGHTWARDS ARROW,0BLACK-FEATHERED SOUTH EAST ARROW,2RIGHTWARDS ARROW,
      2NORTH EAST ARROW,0HEAVY BLACK-FEATHERED SOUTH EAST ARROW,3RIGHTWARDS ARROW,
      3NORTH EAST ARROW,0TEARDROP-BARBED RIGHTWARDS ARROW,0HEAVY TEARDROP-SHANKED RIGHTWARDS ARROW,
      0WEDGE-TAILED RIGHTWARDS ARROW,0HEAVY WEDGE-TAILED RIGHTWARDS ARROW,
      0OPEN-OUTLINED RIGHTWARDS ARROW,0DOUBLE CURLY LOOP,0THREE DIMENSIONAL ANGLE,
      0WHITE TRIANGLE CONTAINING SMALL WHITE TRIANGLE,0PERPENDICULAR,0OPEN SUBSET,1SUPERSET,
      0LEFT S-SHAPED BAG DELIMITER,0RIGHT S-SHAPED BAG DELIMITER,0OR WITH DOT INSIDE,
      0REVERSE SOLIDUS PRECEDING SUBSET,0SUPERSET PRECEDING SOLIDUS,
      0VERTICAL BAR WITH HORIZONTAL STROKE,0MATHEMATICAL RISING DIAGONAL,0LONG DIVISION,
      0MATHEMATICAL FALLING DIAGONAL,0SQUARED LOGICAL AND,2OR,0WHITE DIAMOND WITH CENTRED DOT,
      0AND WITH DOT,0ELEMENT OF OPENING UPWARDS,0LOWER RIGHT CORNER WITH DOT,
      0UPPER LEFT CORNER WITH DOT,0LEFT OUTER JOIN,0RIGHT OUTER JOIN,0FULL OUTER JOIN,
      0LARGE UP TACK,1DOWN TACK,0LEFT AND RIGHT DOUBLE TURNSTILE,3TACK,1MULTIMAP,0LONG RIGHT TACK,
      1LEFT TACK,0UP TACK WITH CIRCLE ABOVE,0LOZENGE DIVIDED BY HORIZONTAL RULE,
      0WHITE CONCAVE-SIDED DIAMOND,3DIAMOND WITH LEFTWARDS TICK,5RIGHTWARDS TICK,
      1SQUARE WITH LEFTWARDS TICK,3RIGHTWARDS TICK,0MATHEMATICAL LEFT WHITE SQUARE BRACKET,
      1RIGHT WHITE SQUARE BRACKET,1LEFT ANGLE BRACKET,1RIGHT ANGLE BRACKET,
      1LEFT DOUBLE ANGLE BRACKET,1RIGHT DOUBLE ANGLE BRACKET,1LEFT WHITE TORTOISE SHELL BRACKET,
      1RIGHT WHITE TORTOISE SHELL BRACKET,1LEFT FLATTENED PARENTHESIS,1RIGHT FLATTENED PARENTHESIS,
      0UPWARDS QUADRUPLE ARROW,0DOWNWARDS QUADRUPLE ARROW,0ANTICLOCKWISE GAPPED CIRCLE ARROW,
      0CLOCKWISE GAPPED CIRCLE ARROW,0RIGHT ARROW WITH CIRCLED PLUS,0LONG LEFTWARDS ARROW,
      1RIGHTWARDS ARROW,1LEFT RIGHT ARROW,1LEFTWARDS DOUBLE ARROW,1RIGHTWARDS DOUBLE ARROW,
      1LEFT RIGHT DOUBLE ARROW,1LEFTWARDS ARROW FROM BAR,1RIGHTWARDS ARROW FROM BAR,
      1LEFTWARDS DOUBLE ARROW FROM BAR,1RIGHTWARDS DOUBLE ARROW FROM BAR,2SQUIGGLE ARROW,
      0BRAILLE PATTERN BLANK,2DOTS-1,32,312,33,313,323,3123,34,314,324,3124,334,3134,3234,31234,35,
      315,325,3125,335,3135,3235,31235,345,3145,3245,31245,3345,31345,32345,312345,36,316,326,3126,
      336,3136,3236,31236,346,3146,3246,31246,3346,31346,32346,312346,356,3156,3256,31256,3356,
      31356,32356,312356,3456,31456,32456,312456,33456,313456,323456,3123456,37,317,327,3127,337,
      3137,3237,31237,347,3147,3247,31247,3347,31347,32347,312347,357,3157,3257,31257,3357,31357,
      32357,312357,3457,31457,32457,312457,33457,313457,323457,3123457,367,3167,3267,31267,3367,
      31367,32367,312367,3467,31467,32467,312467,33467,313467,323467,3123467,3567,31567,32567,
      312567,33567,313567,323567,3123567,34567,314567,324567,3124567,334567,3134567,3234567,
      31234567,38,318,328,3128,338,3138,3238,31238,348,3148,3248,31248,3348,31348,32348,312348,358,
      3158,3258,31258,3358,31358,32358,312358,3458,31458,32458,312458,33458,313458,323458,3123458,
      368,3168,3268,31268,3368,31368,32368,312368,3468,31468,32468,312468,33468,313468,323468,
      3123468,3568,31568,32568,312568,33568,313568,323568,3123568,34568,314568,324568,3124568,
      334568,3134568,3234568,31234568,378,3178,3278,31278,3378,31378,32378,312378,3478,31478,32478,
      312478,33478,313478,323478,3123478,3578,31578,32578,312578,33578,313578,323578,3123578,34578,
      314578,324578,3124578,334578,3134578,3234578,31234578,3678,31678,32678,312678,33678,313678,
      323678,3123678,34678,314678,324678,3124678,334678,3134678,3234678,31234678,35678,315678,
      325678,3125678,335678,3135678,3235678,31235678,345678,3145678,3245678,31245678,3345678,
      31345678,32345678,312345678,0RIGHTWARDS TWO-HEADED ARROW WITH VERTICAL STROKE,
      5DOUBLE VERTICAL STROKE,0LEFTWARDS DOUBLE ARROW WITH VERTICAL STROKE,
      0RIGHTWARDS DOUBLE ARROW WITH VERTICAL STROKE,0LEFT RIGHT DOUBLE ARROW WITH VERTICAL STROKE,
      0RIGHTWARDS TWO-HEADED ARROW FROM BAR,0LEFTWARDS DOUBLE ARROW FROM BAR,
      0RIGHTWARDS DOUBLE ARROW FROM BAR,0DOWNWARDS ARROW WITH HORIZONTAL STROKE,
      0UPWARDS ARROW WITH HORIZONTAL STROKE,1TRIPLE ARROW,0DOWNWARDS TRIPLE ARROW,
      0LEFTWARDS DOUBLE DASH ARROW,0RIGHTWARDS DOUBLE DASH ARROW,0LEFTWARDS TRIPLE DASH ARROW,
      0RIGHTWARDS TRIPLE DASH ARROW,1TWO-HEADED TRIPLE DASH ARROW,1ARROW WITH DOTTED STEM,
      0UPWARDS ARROW TO BAR,0DOWNWARDS ARROW TO BAR,
      0RIGHTWARDS ARROW WITH TAIL WITH VERTICAL STROKE,5DOUBLE VERTICAL STROKE,
      1TWO-HEADED ARROW WITH TAIL,5TAIL WITH VERTICAL STROKE,7DOUBLE VERTICAL STROKE,
      0LEFTWARDS ARROW-TAIL,0RIGHTWARDS ARROW-TAIL,0LEFTWARDS DOUBLE ARROW-TAIL,
      0RIGHTWARDS DOUBLE ARROW-TAIL,0LEFTWARDS ARROW TO BLACK DIAMOND,
      0RIGHTWARDS ARROW TO BLACK DIAMOND,0LEFTWARDS ARROW FROM BAR TO BLACK DIAMOND,
      0RIGHTWARDS ARROW FROM BAR TO BLACK DIAMOND,0NORTH WEST AND SOUTH EAST ARROW,
      1EAST AND SOUTH WEST ARROW,1WEST ARROW WITH HOOK,1EAST ARROW WITH HOOK,
      0SOUTH EAST ARROW WITH HOOK,1WEST ARROW WITH HOOK,0NORTH WEST ARROW AND NORTH EAST ARROW,
      1EAST ARROW AND SOUTH EAST ARROW,0SOUTH EAST ARROW AND SOUTH WEST ARROW,
      1WEST ARROW AND NORTH WEST ARROW,0RISING DIAGONAL CROSSING FALLING DIAGONAL,
      0FALLING DIAGONAL CROSSING RISING DIAGONAL,0SOUTH EAST ARROW CROSSING NORTH EAST ARROW,
      0NORTH EAST ARROW CROSSING SOUTH EAST ARROW,0FALLING DIAGONAL CROSSING NORTH EAST ARROW,
      0RISING DIAGONAL CROSSING SOUTH EAST ARROW,0NORTH EAST ARROW CROSSING NORTH WEST ARROW,
      1WEST ARROW CROSSING NORTH EAST ARROW,0WAVE ARROW POINTING DIRECTLY RIGHT,
      0ARROW POINTING RIGHTWARDS THEN CURVING UPWARDS,5DOWNWARDS,2DOWNWARDS THEN CURVING LEFTWARDS,
      5RIGHTWARDS,0RIGHT-SIDE ARC CLOCKWISE ARROW,0LEFT-SIDE ARC ANTICLOCKWISE ARROW,
      0TOP ARC ANTICLOCKWISE ARROW,0BOTTOM ARC ANTICLOCKWISE ARROW,
      0TOP ARC CLOCKWISE ARROW WITH MINUS,2ANTICLOCKWISE ARROW WITH PLUS,
      0LOWER RIGHT SEMICIRCULAR CLOCKWISE ARROW,1LEFT SEMICIRCULAR ANTICLOCKWISE ARROW,
      0ANTICLOCKWISE CLOSED CIRCLE ARROW,0CLOCKWISE CLOSED CIRCLE ARROW,
      0RIGHTWARDS ARROW ABOVE SHORT LEFTWARDS ARROW,0LEFTWARDS ARROW ABOVE SHORT RIGHTWARDS ARROW,
      0SHORT RIGHTWARDS ARROW ABOVE LEFTWARDS ARROW,0RIGHTWARDS ARROW WITH PLUS BELOW,
      0LEFTWARDS ARROW WITH PLUS BELOW,0RIGHTWARDS ARROW THROUGH X,
      0LEFT RIGHT ARROW THROUGH SMALL CIRCLE,0UPWARDS TWO-HEADED ARROW FROM SMALL CIRCLE,
      0LEFT BARB UP RIGHT BARB DOWN HARPOON,2DOWN RIGHT BARB UP HARPOON,
      0UP BARB RIGHT DOWN BARB LEFT HARPOON,2LEFT DOWN BARB RIGHT HARPOON,
      0LEFT BARB UP RIGHT BARB UP HARPOON,0UP BARB RIGHT DOWN BARB RIGHT HARPOON,
      0LEFT BARB DOWN RIGHT BARB DOWN HARPOON,0UP BARB LEFT DOWN BARB LEFT HARPOON,
      0LEFTWARDS HARPOON WITH BARB UP TO BAR,0RIGHTWARDS HARPOON WITH BARB UP TO BAR,
      0UPWARDS HARPOON WITH BARB RIGHT TO BAR,0DOWNWARDS HARPOON WITH BARB RIGHT TO BAR,
      0LEFTWARDS HARPOON WITH BARB DOWN TO BAR,0RIGHTWARDS HARPOON WITH BARB DOWN TO BAR,
      0UPWARDS HARPOON WITH BARB LEFT TO BAR,0DOWNWARDS HARPOON WITH BARB LEFT TO BAR,
      0LEFTWARDS HARPOON WITH BARB UP FROM BAR,0RIGHTWARDS HARPOON WITH BARB UP FROM BAR,
      0UPWARDS HARPOON WITH BARB RIGHT FROM BAR,0DOWNWARDS HARPOON WITH BARB RIGHT FROM BAR,
      0LEFTWARDS HARPOON WITH BARB DOWN FROM BAR,0RIGHTWARDS HARPOON WITH BARB DOWN FROM BAR,
      0UPWARDS HARPOON WITH BARB LEFT FROM BAR,0DOWNWARDS HARPOON WITH BARB LEFT FROM BAR,
      0LEFTWARDS HARPOON WITH BARB UP ABOVE LEFTWARDS HARPOON WITH BARB DOWN,
      0UPWARDS HARPOON WITH BARB LEFT BESIDE UPWARDS HARPOON WITH BARB RIGHT,
      0RIGHTWARDS HARPOON WITH BARB UP ABOVE RIGHTWARDS HARPOON WITH BARB DOWN,
      0DOWNWARDS HARPOON WITH BARB LEFT BESIDE DOWNWARDS HARPOON WITH BARB RIGHT,
      0LEFTWARDS HARPOON WITH BARB UP ABOVE RIGHTWARDS HARPOON WITH BARB UP,
      4DOWN ABOVE RIGHTWARDS HARPOON WITH BARB DOWN,
      0RIGHTWARDS HARPOON WITH BARB UP ABOVE LEFTWARDS HARPOON WITH BARB UP,
      4DOWN ABOVE LEFTWARDS HARPOON WITH BARB DOWN,0LEFTWARDS HARPOON WITH BARB UP ABOVE LONG DASH,
      4DOWN BELOW LONG DASH,0RIGHTWARDS HARPOON WITH BARB UP ABOVE LONG DASH,4DOWN BELOW LONG DASH,
      0UPWARDS HARPOON WITH BARB LEFT BESIDE DOWNWARDS HARPOON WITH BARB RIGHT,
      0DOWNWARDS HARPOON WITH BARB LEFT BESIDE UPWARDS HARPOON WITH BARB RIGHT,
      0RIGHT DOUBLE ARROW WITH ROUNDED HEAD,0EQUALS SIGN ABOVE RIGHTWARDS ARROW,
      0TILDE OPERATOR ABOVE RIGHTWARDS ARROW,0LEFTWARDS ARROW ABOVE TILDE OPERATOR,
      0RIGHTWARDS ARROW ABOVE TILDE OPERATOR,3ALMOST EQUAL TO,0LESS-THAN ABOVE LEFTWARDS ARROW,
      0LEFTWARDS ARROW THROUGH LESS-THAN,0GREATER-THAN ABOVE RIGHTWARDS ARROW,
      0SUBSET ABOVE RIGHTWARDS ARROW,0LEFTWARDS ARROW THROUGH SUBSET,
      0SUPERSET ABOVE LEFTWARDS ARROW,0LEFT FISH TAIL,0RIGHT FISH TAIL,0UP FISH TAIL,
      0DOWN FISH TAIL,0TRIPLE VERTICAL BAR DELIMITER,0Z NOTATION SPOT,2TYPE COLON,
      0LEFT WHITE CURLY BRACKET,0RIGHT WHITE CURLY BRACKET,0LEFT WHITE PARENTHESIS,
      0RIGHT WHITE PARENTHESIS,0Z NOTATION LEFT IMAGE BRACKET,2RIGHT IMAGE BRACKET,
      2LEFT BINDING BRACKET,2RIGHT BINDING BRACKET,0LEFT SQUARE BRACKET WITH UNDERBAR,
      0RIGHT SQUARE BRACKET WITH UNDERBAR,0LEFT SQUARE BRACKET WITH TICK IN TOP CORNER,
      0RIGHT SQUARE BRACKET WITH TICK IN BOTTOM CORNER,
      0LEFT SQUARE BRACKET WITH TICK IN BOTTOM CORNER,
      0RIGHT SQUARE BRACKET WITH TICK IN TOP CORNER,0LEFT ANGLE BRACKET WITH DOT,
      0RIGHT ANGLE BRACKET WITH DOT,0LEFT ARC LESS-THAN BRACKET,0RIGHT ARC GREATER-THAN BRACKET,
      0DOUBLE LEFT ARC GREATER-THAN BRACKET,1RIGHT ARC LESS-THAN BRACKET,
      0LEFT BLACK TORTOISE SHELL BRACKET,0RIGHT BLACK TORTOISE SHELL BRACKET,0DOTTED FENCE,
      0VERTICAL ZIGZAG LINE,0MEASURED ANGLE OPENING LEFT,0RIGHT ANGLE VARIANT WITH SQUARE,
      0MEASURED RIGHT ANGLE WITH DOT,0ANGLE WITH S INSIDE,0ACUTE ANGLE,
      0SPHERICAL ANGLE OPENING LEFT,3UP,0TURNED ANGLE,0REVERSED ANGLE,0ANGLE WITH UNDERBAR,
      0REVERSED ANGLE WITH UNDERBAR,0OBLIQUE ANGLE OPENING UP,3DOWN,
      0MEASURED ANGLE WITH OPEN ARM ENDING IN ARROW POINTING UP AND RIGHT,9UP AND LEFT,
      9DOWN AND RIGHT,9DOWN AND LEFT,9RIGHT AND UP,9LEFT AND UP,9RIGHT AND DOWN,9LEFT AND DOWN,
      0REVERSED EMPTY SET,0EMPTY SET WITH OVERBAR,3SMALL CIRCLE ABOVE,3RIGHT ARROW ABOVE,
      3LEFT ARROW ABOVE,0CIRCLE WITH HORIZONTAL BAR,0CIRCLED VERTICAL BAR,1PARALLEL,
      1REVERSE SOLIDUS,1PERPENDICULAR,
      0CIRCLE DIVIDED BY HORIZONTAL BAR AND TOP HALF DIVIDED BY VERTICAL BAR,1WITH SUPERIMPOSED X,
      0CIRCLED ANTICLOCKWISE-ROTATED DIVISION SIGN,0UP ARROW THROUGH CIRCLE,0CIRCLED WHITE BULLET,
      1BULLET,1LESS-THAN,1GREATER-THAN,0CIRCLE WITH SMALL CIRCLE TO THE RIGHT,
      2TWO HORIZONTAL STROKES TO THE RIGHT,0SQUARED RISING DIAGONAL SLASH,1FALLING DIAGONAL SLASH,
      1ASTERISK,1SMALL CIRCLE,1SQUARE,0TWO JOINED SQUARES,0TRIANGLE WITH DOT ABOVE,2UNDERBAR,
      0S IN TRIANGLE,0TRIANGLE WITH SERIFS AT BOTTOM,0RIGHT TRIANGLE ABOVE LEFT TRIANGLE,
      0LEFT TRIANGLE BESIDE VERTICAL BAR,0VERTICAL BAR BESIDE RIGHT TRIANGLE,
      0BOWTIE WITH LEFT HALF BLACK,2RIGHT HALF BLACK,0BLACK BOWTIE,0TIMES WITH LEFT HALF BLACK,
      2RIGHT HALF BLACK,0WHITE HOURGLASS,0BLACK HOURGLASS,0LEFT WIGGLY FENCE,0RIGHT WIGGLY FENCE,
      0LEFT DOUBLE WIGGLY FENCE,0RIGHT DOUBLE WIGGLY FENCE,0INCOMPLETE INFINITY,0TIE OVER INFINITY,
      0INFINITY NEGATED WITH VERTICAL BAR,0DOUBLE-ENDED MULTIMAP,0SQUARE WITH CONTOURED OUTLINE,
      0INCREASES AS,0SHUFFLE PRODUCT,0EQUALS SIGN AND SLANTED PARALLEL,4PARALLEL WITH TILDE ABOVE,
      0IDENTICAL TO AND SLANTED PARALLEL,0GLEICH STARK,0THERMODYNAMIC,
      0DOWN-POINTING TRIANGLE WITH LEFT HALF BLACK,4RIGHT HALF BLACK,
      0BLACK DIAMOND WITH DOWN ARROW,1LOZENGE,0WHITE CIRCLE WITH DOWN ARROW,
      0BLACK CIRCLE WITH DOWN ARROW,0ERROR-BARRED WHITE SQUARE,2BLACK SQUARE,2WHITE DIAMOND,
      2BLACK DIAMOND,2WHITE CIRCLE,2BLACK CIRCLE,0RULE-DELAYED,0REVERSE SOLIDUS OPERATOR,
      0SOLIDUS WITH OVERBAR,0REVERSE SOLIDUS WITH HORIZONTAL STROKE,0BIG SOLIDUS,1REVERSE SOLIDUS,
      0DOUBLE PLUS,0TRIPLE PLUS,0LEFT-POINTING CURVED ANGLE BRACKET,
      0RIGHT-POINTING CURVED ANGLE BRACKET,0TINY,0MINY,0N-ARY CIRCLED DOT OPERATOR,3PLUS OPERATOR,
      3TIMES OPERATOR,2UNION OPERATOR WITH DOT,5PLUS,2SQUARE INTERSECTION OPERATOR,3UNION OPERATOR,
      0TWO LOGICAL AND OPERATOR,2OR OPERATOR,0N-ARY TIMES OPERATOR,0MODULO TWO SUM,
      0SUMMATION WITH INTEGRAL,0QUADRUPLE INTEGRAL OPERATOR,0FINITE PART INTEGRAL,
      0INTEGRAL WITH DOUBLE STROKE,1AVERAGE WITH SLASH,0CIRCULATION FUNCTION,
      0ANTICLOCKWISE INTEGRATION,0LINE INTEGRATION WITH RECTANGULAR PATH AROUND POLE,
      3SEMICIRCULAR PATH AROUND POLE,2NOT INCLUDING THE POLE,0INTEGRAL AROUND A POINT OPERATOR,
      0QUATERNION INTEGRAL OPERATOR,0INTEGRAL WITH LEFTWARDS ARROW WITH HOOK,2TIMES SIGN,
      2INTERSECTION,2UNION,2OVERBAR,2UNDERBAR,0JOIN,0LARGE LEFT TRIANGLE OPERATOR,
      0Z NOTATION SCHEMA COMPOSITION,3PIPING,3PROJECTION,0PLUS SIGN WITH SMALL CIRCLE ABOVE,
      3CIRCUMFLEX ACCENT ABOVE,3TILDE ABOVE,3DOT BELOW,3TILDE BELOW,3SUBSCRIPT TWO,3BLACK TRIANGLE,
      0MINUS SIGN WITH COMMA ABOVE,3DOT BELOW,3FALLING DOTS,3RISING DOTS,
      0PLUS SIGN IN LEFT HALF CIRCLE,3RIGHT HALF CIRCLE,0VECTOR OR CROSS PRODUCT,
      0MULTIPLICATION SIGN WITH DOT ABOVE,3UNDERBAR,0SEMIDIRECT PRODUCT WITH BOTTOM CLOSED,
      0SMASH PRODUCT,0MULTIPLICATION SIGN IN LEFT HALF CIRCLE,3RIGHT HALF CIRCLE,
      0CIRCLED MULTIPLICATION SIGN WITH CIRCUMFLEX ACCENT,0MULTIPLICATION SIGN IN DOUBLE CIRCLE,
      0CIRCLED DIVISION SIGN,0PLUS SIGN IN TRIANGLE,0MINUS SIGN IN TRIANGLE,
      0MULTIPLICATION SIGN IN TRIANGLE,0INTERIOR PRODUCT,0RIGHTHAND INTERIOR PRODUCT,
      0Z NOTATION RELATIONAL COMPOSITION,0AMALGAMATION OR COPRODUCT,0INTERSECTION WITH DOT,
      0UNION WITH MINUS SIGN,2OVERBAR,0INTERSECTION WITH OVERBAR,2LOGICAL AND,
      0UNION WITH LOGICAL OR,1ABOVE INTERSECTION,0INTERSECTION ABOVE UNION,
      0UNION ABOVE BAR ABOVE INTERSECTION,0INTERSECTION ABOVE BAR ABOVE UNION,
      0UNION BESIDE AND JOINED WITH UNION,0INTERSECTION BESIDE AND JOINED WITH INTERSECTION,
      0CLOSED UNION WITH SERIFS,1INTERSECTION WITH SERIFS,0DOUBLE SQUARE INTERSECTION,2UNION,
      0CLOSED UNION WITH SERIFS AND SMASH PRODUCT,0LOGICAL AND WITH DOT ABOVE,1OR WITH DOT ABOVE,
      0DOUBLE LOGICAL AND,2OR,0TWO INTERSECTING LOGICAL AND,3OR,0SLOPING LARGE OR,2AND,
      0LOGICAL OR OVERLAPPING LOGICAL AND,1AND WITH MIDDLE STEM,1OR WITH MIDDLE STEM,
      1AND WITH HORIZONTAL DASH,1OR WITH HORIZONTAL DASH,1AND WITH DOUBLE OVERBAR,3UNDERBAR,
      3DOUBLE UNDERBAR,0SMALL VEE WITH UNDERBAR,0LOGICAL OR WITH DOUBLE OVERBAR,4UNDERBAR,
      0Z NOTATION DOMAIN ANTIRESTRICTION,2RANGE ANTIRESTRICTION,0EQUALS SIGN WITH DOT BELOW,
      0IDENTICAL WITH DOT ABOVE,0TRIPLE HORIZONTAL BAR WITH DOUBLE VERTICAL STROKE,
      4TRIPLE VERTICAL STROKE,0TILDE OPERATOR WITH DOT ABOVE,3RISING DOTS,0SIMILAR MINUS SIMILAR,
      0CONGRUENT WITH DOT ABOVE,0EQUALS WITH ASTERISK,0ALMOST EQUAL TO WITH CIRCUMFLEX ACCENT,
      0APPROXIMATELY EQUAL OR EQUAL TO,0EQUALS SIGN ABOVE PLUS SIGN,0PLUS SIGN ABOVE EQUALS SIGN,
      0EQUALS SIGN ABOVE TILDE OPERATOR,0DOUBLE COLON EQUAL,0TWO CONSECUTIVE EQUALS SIGNS,
      0THREE CONSECUTIVE EQUALS SIGNS,0EQUALS SIGN WITH TWO DOTS ABOVE AND TWO DOTS BELOW,
      0EQUIVALENT WITH FOUR DOTS ABOVE,0LESS-THAN WITH CIRCLE INSIDE,
      0GREATER-THAN WITH CIRCLE INSIDE,0LESS-THAN WITH QUESTION MARK ABOVE,
      0GREATER-THAN WITH QUESTION MARK ABOVE,0LESS-THAN OR SLANTED EQUAL TO,
      0GREATER-THAN OR SLANTED EQUAL TO,0LESS-THAN OR SLANTED EQUAL TO WITH DOT INSIDE,
      0GREATER-THAN OR SLANTED EQUAL TO WITH DOT INSIDE,
      0LESS-THAN OR SLANTED EQUAL TO WITH DOT ABOVE,
      0GREATER-THAN OR SLANTED EQUAL TO WITH DOT ABOVE,
      0LESS-THAN OR SLANTED EQUAL TO WITH DOT ABOVE RIGHT,
      0GREATER-THAN OR SLANTED EQUAL TO WITH DOT ABOVE LEFT,0LESS-THAN OR APPROXIMATE,
      0GREATER-THAN OR APPROXIMATE,0LESS-THAN AND SINGLE-LINE NOT EQUAL TO,
      0GREATER-THAN AND SINGLE-LINE NOT EQUAL TO,0LESS-THAN AND NOT APPROXIMATE,
      0GREATER-THAN AND NOT APPROXIMATE,0LESS-THAN ABOVE DOUBLE-LINE EQUAL ABOVE GREATER-THAN,
      0GREATER-THAN ABOVE DOUBLE-LINE EQUAL ABOVE LESS-THAN,0LESS-THAN ABOVE SIMILAR OR EQUAL,
      0GREATER-THAN ABOVE SIMILAR OR EQUAL,0LESS-THAN ABOVE SIMILAR ABOVE GREATER-THAN,
      0GREATER-THAN ABOVE SIMILAR ABOVE LESS-THAN,
      0LESS-THAN ABOVE GREATER-THAN ABOVE DOUBLE-LINE EQUAL,
      0GREATER-THAN ABOVE LESS-THAN ABOVE DOUBLE-LINE EQUAL,
      0LESS-THAN ABOVE SLANTED EQUAL ABOVE GREATER-THAN ABOVE SLANTED EQUAL,
      0GREATER-THAN ABOVE SLANTED EQUAL ABOVE LESS-THAN ABOVE SLANTED EQUAL,
      0SLANTED EQUAL TO OR LESS-THAN,4GREATER-THAN,4LESS-THAN WITH DOT INSIDE,
      4GREATER-THAN WITH DOT INSIDE,0DOUBLE-LINE EQUAL TO OR LESS-THAN,5GREATER-THAN,
      2SLANTED EQUAL TO OR LESS-THAN,6GREATER-THAN,0SIMILAR OR LESS-THAN,2GREATER-THAN,
      1ABOVE LESS-THAN ABOVE EQUALS SIGN,2GREATER-THAN ABOVE EQUALS SIGN,0DOUBLE NESTED LESS-THAN,
      2GREATER-THAN,2LESS-THAN WITH UNDERBAR,0GREATER-THAN OVERLAPPING LESS-THAN,2BESIDE LESS-THAN,
      0LESS-THAN CLOSED BY CURVE,0GREATER-THAN CLOSED BY CURVE,
      0LESS-THAN CLOSED BY CURVE ABOVE SLANTED EQUAL,
      0GREATER-THAN CLOSED BY CURVE ABOVE SLANTED EQUAL,0SMALLER THAN,0LARGER THAN,
      0SMALLER THAN OR EQUAL TO,0LARGER THAN OR EQUAL TO,0EQUALS SIGN WITH BUMPY ABOVE,
      0PRECEDES ABOVE SINGLE-LINE EQUALS SIGN,0SUCCEEDS ABOVE SINGLE-LINE EQUALS SIGN,
      0PRECEDES ABOVE SINGLE-LINE NOT EQUAL TO,0SUCCEEDS ABOVE SINGLE-LINE NOT EQUAL TO,
      0PRECEDES ABOVE EQUALS SIGN,0SUCCEEDS ABOVE EQUALS SIGN,0PRECEDES ABOVE NOT EQUAL TO,
      0SUCCEEDS ABOVE NOT EQUAL TO,0PRECEDES ABOVE ALMOST EQUAL TO,0SUCCEEDS ABOVE ALMOST EQUAL TO,
      0PRECEDES ABOVE NOT ALMOST EQUAL TO,0SUCCEEDS ABOVE NOT ALMOST EQUAL TO,0DOUBLE PRECEDES,
      1SUCCEEDS,0SUBSET WITH DOT,0SUPERSET WITH DOT,0SUBSET WITH PLUS SIGN BELOW,
      0SUPERSET WITH PLUS SIGN BELOW,0SUBSET WITH MULTIPLICATION SIGN BELOW,
      0SUPERSET WITH MULTIPLICATION SIGN BELOW,0SUBSET OF OR EQUAL TO WITH DOT ABOVE,
      0SUPERSET OF OR EQUAL TO WITH DOT ABOVE,0SUBSET OF ABOVE EQUALS SIGN,
      0SUPERSET OF ABOVE EQUALS SIGN,0SUBSET OF ABOVE TILDE OPERATOR,
      0SUPERSET OF ABOVE TILDE OPERATOR,0SUBSET OF ABOVE ALMOST EQUAL TO,
      0SUPERSET OF ABOVE ALMOST EQUAL TO,0SUBSET OF ABOVE NOT EQUAL TO,
      0SUPERSET OF ABOVE NOT EQUAL TO,0SQUARE LEFT OPEN BOX OPERATOR,1RIGHT OPEN BOX OPERATOR,
      0CLOSED SUBSET,1SUPERSET,1SUBSET OR EQUAL TO,1SUPERSET OR EQUAL TO,0SUBSET ABOVE SUPERSET,
      0SUPERSET ABOVE SUBSET,0SUBSET ABOVE SUBSET,0SUPERSET ABOVE SUPERSET,1BESIDE SUBSET,
      2AND JOINED BY DASH WITH SUBSET,0ELEMENT OF OPENING DOWNWARDS,0PITCHFORK WITH TEE TOP,
      0TRANSVERSAL INTERSECTION,0FORKING,0NONFORKING,0SHORT LEFT TACK,1DOWN TACK,1UP TACK,
      0PERPENDICULAR WITH S,0VERTICAL BAR TRIPLE RIGHT TURNSTILE,
      0DOUBLE VERTICAL BAR LEFT TURNSTILE,0VERTICAL BAR DOUBLE LEFT TURNSTILE,
      0DOUBLE VERTICAL BAR DOUBLE LEFT TURNSTILE,0LONG DASH FROM LEFT MEMBER OF DOUBLE VERTICAL,
      0SHORT DOWN TACK WITH OVERBAR,1UP TACK WITH UNDERBAR,3ABOVE SHORT DOWN TACK,
      0DOUBLE DOWN TACK,1UP TACK,1STROKE NOT SIGN,0REVERSED DOUBLE STROKE NOT SIGN,
      0DOES NOT DIVIDE WITH REVERSED NEGATION SLASH,0VERTICAL LINE WITH CIRCLE ABOVE,4BELOW,
      0DOWN TACK WITH CIRCLE BELOW,0PARALLEL WITH HORIZONTAL STROKE,2TILDE OPERATOR,
      0TRIPLE VERTICAL BAR BINARY RELATION,3WITH HORIZONTAL STROKE,1COLON OPERATOR,
      1NESTED LESS-THAN,2GREATER-THAN,0DOUBLE-LINE SLANTED LESS-THAN OR EQUAL TO,
      3GREATER-THAN OR EQUAL TO,0TRIPLE SOLIDUS BINARY RELATION,
      0LARGE TRIPLE VERTICAL BAR OPERATOR,0DOUBLE SOLIDUS OPERATOR,0WHITE VERTICAL BAR,
      0N-ARY WHITE VERTICAL BAR,0NORTH EAST WHITE ARROW,1WEST WHITE ARROW,0SOUTH EAST WHITE ARROW,
      1WEST WHITE ARROW,0LEFT RIGHT WHITE ARROW,0LEFTWARDS BLACK ARROW,0UPWARDS BLACK ARROW,
      0DOWNWARDS BLACK ARROW,0NORTH EAST BLACK ARROW,1WEST BLACK ARROW,0SOUTH EAST BLACK ARROW,
      1WEST BLACK ARROW,0LEFT RIGHT BLACK ARROW,0UP DOWN BLACK ARROW,
      0RIGHTWARDS ARROW WITH TIP DOWNWARDS,4UPWARDS,0LEFTWARDS ARROW WITH TIP DOWNWARDS,4UPWARDS,
      0SQUARE WITH TOP HALF BLACK,2BOTTOM HALF BLACK,2UPPER RIGHT DIAGONAL HALF BLACK,
      2LOWER LEFT DIAGONAL HALF BLACK,0DIAMOND WITH LEFT HALF BLACK,2RIGHT HALF BLACK,
      2TOP HALF BLACK,2BOTTOM HALF BLACK,0DOTTED SQUARE,0BLACK LARGE SQUARE,0WHITE LARGE SQUARE,
      0BLACK VERY SMALL SQUARE,0WHITE VERY SMALL SQUARE,0BLACK PENTAGON,0WHITE PENTAGON,1HEXAGON,
      0BLACK HEXAGON,0HORIZONTAL BLACK HEXAGON,0BLACK LARGE CIRCLE,1MEDIUM DIAMOND,
      0WHITE MEDIUM DIAMOND,0BLACK MEDIUM LOZENGE,0WHITE MEDIUM LOZENGE,0BLACK SMALL DIAMOND,
      2LOZENGE,0WHITE SMALL LOZENGE,0BLACK HORIZONTAL ELLIPSE,0WHITE HORIZONTAL ELLIPSE,
      0BLACK VERTICAL ELLIPSE,0WHITE VERTICAL ELLIPSE,0LEFT ARROW WITH SMALL CIRCLE,
      0THREE LEFTWARDS ARROWS,0LEFT ARROW WITH CIRCLED PLUS,0LONG LEFTWARDS SQUIGGLE ARROW,
      0LEFTWARDS TWO-HEADED ARROW WITH VERTICAL STROKE,5DOUBLE VERTICAL STROKE,4FROM BAR,
      3TRIPLE DASH ARROW,1ARROW WITH DOTTED STEM,3TAIL WITH VERTICAL STROKE,
      5DOUBLE VERTICAL STROKE,1TWO-HEADED ARROW WITH TAIL,5TAIL WITH VERTICAL STROKE,
      7DOUBLE VERTICAL STROKE,1ARROW THROUGH X,0WAVE ARROW POINTING DIRECTLY LEFT,
      0EQUALS SIGN ABOVE LEFTWARDS ARROW,0REVERSE TILDE OPERATOR ABOVE LEFTWARDS ARROW,
      0LEFTWARDS ARROW ABOVE REVERSE ALMOST EQUAL TO,0RIGHTWARDS ARROW THROUGH GREATER-THAN,
      3SUPERSET,0LEFTWARDS QUADRUPLE ARROW,0RIGHTWARDS QUADRUPLE ARROW,
      0REVERSE TILDE OPERATOR ABOVE RIGHTWARDS ARROW,
      0RIGHTWARDS ARROW ABOVE REVERSE ALMOST EQUAL TO,0TILDE OPERATOR ABOVE LEFTWARDS ARROW,
      0LEFTWARDS ARROW ABOVE ALMOST EQUAL TO,3REVERSE TILDE OPERATOR,
      0RIGHTWARDS ARROW ABOVE REVERSE TILDE OPERATOR,0DOWNWARDS TRIANGLE-HEADED ZIGZAG ARROW,
      0SHORT SLANTED NORTH ARROW,1BACKSLANTED SOUTH ARROW,0WHITE MEDIUM STAR,0BLACK SMALL STAR,
      0WHITE SMALL STAR,0BLACK RIGHT-POINTING PENTAGON,0WHITE RIGHT-POINTING PENTAGON,
      0HEAVY LARGE CIRCLE,1OVAL WITH OVAL INSIDE,1CIRCLE WITH CIRCLE INSIDE,1CIRCLE,
      1CIRCLED SALTIRE,0SLANTED NORTH ARROW WITH HOOKED HEAD,
      0BACKSLANTED SOUTH ARROW WITH HOOKED TAIL,0SLANTED NORTH ARROW WITH HORIZONTAL TAIL,
      0BACKSLANTED SOUTH ARROW WITH HORIZONTAL TAIL,0BENT ARROW POINTING DOWNWARDS THEN NORTH EAST,
      0SHORT BENT ARROW POINTING DOWNWARDS THEN NORTH EAST,0LEFTWARDS TRIANGLE-HEADED ARROW,
      0UPWARDS TRIANGLE-HEADED ARROW,0RIGHTWARDS TRIANGLE-HEADED ARROW,
      0DOWNWARDS TRIANGLE-HEADED ARROW,0LEFT RIGHT TRIANGLE-HEADED ARROW,
      0UP DOWN TRIANGLE-HEADED ARROW,0NORTH WEST TRIANGLE-HEADED ARROW,1EAST TRIANGLE-HEADED ARROW,
      0SOUTH EAST TRIANGLE-HEADED ARROW,1WEST TRIANGLE-HEADED ARROW,
      0LEFTWARDS TRIANGLE-HEADED DASHED ARROW,0UPWARDS TRIANGLE-HEADED DASHED ARROW,
      0RIGHTWARDS TRIANGLE-HEADED DASHED ARROW,0DOWNWARDS TRIANGLE-HEADED DASHED ARROW,
      0CLOCKWISE TRIANGLE-HEADED OPEN CIRCLE ARROW,
      0ANTICLOCKWISE TRIANGLE-HEADED OPEN CIRCLE ARROW,0LEFTWARDS TRIANGLE-HEADED ARROW TO BAR,
      0UPWARDS TRIANGLE-HEADED ARROW TO BAR,0RIGHTWARDS TRIANGLE-HEADED ARROW TO BAR,
      0DOWNWARDS TRIANGLE-HEADED ARROW TO BAR"),
    (11126, "0NORTH WEST TRIANGLE-HEADED ARROW TO BAR,1EAST TRIANGLE-HEADED ARROW TO BAR,
      0SOUTH EAST TRIANGLE-HEADED ARROW TO BAR,1WEST TRIANGLE-HEADED ARROW TO BAR,
      0LEFTWARDS TRIANGLE-HEADED ARROW WITH DOUBLE HORIZONTAL STROKE,
      0UPWARDS TRIANGLE-HEADED ARROW WITH DOUBLE HORIZONTAL STROKE,
      0RIGHTWARDS TRIANGLE-HEADED ARROW WITH DOUBLE HORIZONTAL STROKE,
      0DOWNWARDS TRIANGLE-HEADED ARROW WITH DOUBLE HORIZONTAL STROKE,0HORIZONTAL TAB KEY,
      0VERTICAL TAB KEY,0LEFTWARDS TRIANGLE-HEADED ARROW OVER RIGHTWARDS TRIANGLE-HEADED ARROW,
      0UPWARDS TRIANGLE-HEADED ARROW LEFTWARDS OF DOWNWARDS TRIANGLE-HEADED ARROW,
      0RIGHTWARDS TRIANGLE-HEADED ARROW OVER LEFTWARDS TRIANGLE-HEADED ARROW,
      0DOWNWARDS TRIANGLE-HEADED ARROW LEFTWARDS OF UPWARDS TRIANGLE-HEADED ARROW,
      0LEFTWARDS TRIANGLE-HEADED PAIRED ARROWS,0UPWARDS TRIANGLE-HEADED PAIRED ARROWS,
      0RIGHTWARDS TRIANGLE-HEADED PAIRED ARROWS,0DOWNWARDS TRIANGLE-HEADED PAIRED ARROWS,
      0LEFTWARDS BLACK CIRCLED WHITE ARROW,0UPWARDS BLACK CIRCLED WHITE ARROW,
      0RIGHTWARDS BLACK CIRCLED WHITE ARROW,0DOWNWARDS BLACK CIRCLED WHITE ARROW,
      0ANTICLOCKWISE TRIANGLE-HEADED RIGHT U-SHAPED ARROW,3BOTTOM U-SHAPED ARROW,
      3LEFT U-SHAPED ARROW,3TOP U-SHAPED ARROW,0RETURN LEFT,1RIGHT,0NEWLINE LEFT,1RIGHT,
      0FOUR CORNER ARROWS CIRCLING ANTICLOCKWISE,0RIGHTWARDS BLACK ARROW"),
    (11159, "0SYMBOL FOR TYPE A ELECTRONICS,0THREE-D TOP-LIGHTED LEFTWARDS EQUILATERAL ARROWHEAD,
      2RIGHT-LIGHTED UPWARDS EQUILATERAL ARROWHEAD,2TOP-LIGHTED RIGHTWARDS EQUILATERAL ARROWHEAD,
      2LEFT-LIGHTED DOWNWARDS EQUILATERAL ARROWHEAD,0BLACK LEFTWARDS EQUILATERAL ARROWHEAD,
      1UPWARDS EQUILATERAL ARROWHEAD,1RIGHTWARDS EQUILATERAL ARROWHEAD,
      1DOWNWARDS EQUILATERAL ARROWHEAD,0DOWNWARDS TRIANGLE-HEADED ARROW WITH LONG TIP LEFTWARDS,
      7RIGHTWARDS,0UPWARDS TRIANGLE-HEADED ARROW WITH LONG TIP LEFTWARDS,7RIGHTWARDS,
      0LEFTWARDS TRIANGLE-HEADED ARROW WITH LONG TIP UPWARDS,
      0RIGHTWARDS TRIANGLE-HEADED ARROW WITH LONG TIP UPWARDS,
      0LEFTWARDS TRIANGLE-HEADED ARROW WITH LONG TIP DOWNWARDS,
      0RIGHTWARDS TRIANGLE-HEADED ARROW WITH LONG TIP DOWNWARDS,
      0BLACK CURVED DOWNWARDS AND LEFTWARDS ARROW,4RIGHTWARDS ARROW,2UPWARDS AND LEFTWARDS ARROW,
      4RIGHTWARDS ARROW,2LEFTWARDS AND UPWARDS ARROW,2RIGHTWARDS AND UPWARDS ARROW,
      2LEFTWARDS AND DOWNWARDS ARROW,2RIGHTWARDS AND DOWNWARDS ARROW,0RIBBON ARROW DOWN LEFT,
      3RIGHT,2UP LEFT,3RIGHT,2LEFT UP,2RIGHT UP,2LEFT DOWN,2RIGHT DOWN,
      0UPWARDS WHITE ARROW FROM BAR WITH HORIZONTAL BAR,0UP ARROWHEAD IN A RECTANGLE BOX,
      0OVERLAPPING WHITE SQUARES,2AND BLACK SQUARES,1BLACK SQUARES,0BALLOT BOX WITH LIGHT X,
      0CIRCLED X,1BOLD X,0BLACK SQUARE CENTRED,1DIAMOND CENTRED,0TURNED BLACK PENTAGON,
      0HORIZONTAL BLACK OCTAGON,0BLACK OCTAGON,1MEDIUM UP-POINTING TRIANGLE CENTRED,
      2DOWN-POINTING TRIANGLE CENTRED,2LEFT-POINTING TRIANGLE CENTRED,
      2RIGHT-POINTING TRIANGLE CENTRED,0NEPTUNE FORM TWO,0TOP HALF BLACK CIRCLE,
      0BOTTOM HALF BLACK CIRCLE,0LIGHT FOUR POINTED BLACK CUSP,
      0ROTATED LIGHT FOUR POINTED BLACK CUSP,0WHITE FOUR POINTED CUSP,
      0ROTATED WHITE FOUR POINTED CUSP,0SQUARE POSITION INDICATOR,0UNCERTAINTY SIGN,0GROUP MARK,
      0PLUTO FORM TWO,2THREE,2FOUR,2FIVE,0TRANSPLUTO,0PROSERPINA,0ASTRAEA,0HYGIEA,0PHOLUS,0NESSUS,
      0WHITE MOON SELENA,0BLACK DIAMOND ON CROSS,0TRUE LIGHT MOON ARTA,0CUPIDO,0HADES,0ZEUS,
      0KRONOS,0APOLLON,0ADMETOS,0VULCANUS,0POSEIDON,0LEFT HALF BLACK STAR,0RIGHT HALF BLACK STAR,
      0STAR WITH LEFT HALF BLACK,2RIGHT HALF BLACK,
      0LEFTWARDS TWO-HEADED ARROW WITH TRIANGLE ARROWHEADS,
      0UPWARDS TWO-HEADED ARROW WITH TRIANGLE ARROWHEADS,
      0RIGHTWARDS TWO-HEADED ARROW WITH TRIANGLE ARROWHEADS,
      0DOWNWARDS TWO-HEADED ARROW WITH TRIANGLE ARROWHEADS,0ERIS FORM ONE,2TWO,0SEDNA,
      0RUSSIAN ASTROLOGICAL SYMBOL VIGINTILE,3NOVILE,3QUINTILE,3BINOVILE,3SENTAGON,3TREDECILE,
      0EQUALS SIGN WITH INFINITY BELOW,0UNITED SYMBOL,0SEPARATED SYMBOL,0DOUBLED SYMBOL,
      0PASSED SYMBOL,0REVERSED RIGHT ANGLE,0HELLSCHREIBER PAUSE SYMBOL,
      0GLAGOLITIC CAPITAL LETTER AZU,3BUKY,3VEDE,3GLAGOLI,3DOBRO,3YESTU,3ZHIVETE,3DZELO,3ZEMLJA,
      3IZHE,3INITIAL IZHE,3I,3DJERVI,3KAKO,3LJUDIJE,3MYSLITE,3NASHI,3ONU,3POKOJI,3RITSI,3SLOVO,
      3TVRIDO,3UKU,3FRITU,3HERU,3OTU,3PE,3SHTA,3TSI,3CHRIVI,3SHA,3YERU,3YERI,3YATI,3SPIDERY HA,3YU,
      3SMALL YUS,4YUS WITH TAIL,3YO,3IOTATED SMALL YUS,3BIG YUS,3IOTATED BIG YUS,3FITA,3IZHITSA,
      3SHTAPIC,3TROKUTASTI A,3LATINATE MYSLITE,3CAUDATE CHRIVI,1SMALL LETTER AZU,3BUKY,3VEDE,
      3GLAGOLI,3DOBRO,3YESTU,3ZHIVETE,3DZELO,3ZEMLJA,3IZHE,3INITIAL IZHE,3I,3DJERVI,3KAKO,3LJUDIJE,
      3MYSLITE,3NASHI,3ONU,3POKOJI,3RITSI,3SLOVO,3TVRIDO,3UKU,3FRITU,3HERU,3OTU,3PE,3SHTA,3TSI,
      3CHRIVI,3SHA,3YERU,3YERI,3YATI,3SPIDERY HA,3YU,3SMALL YUS,4YUS WITH TAIL,3YO,
      3IOTATED SMALL YUS,3BIG YUS,3IOTATED BIG YUS,3FITA,3IZHITSA,3SHTAPIC,3TROKUTASTI A,
      3LATINATE MYSLITE,3CAUDATE CHRIVI,0LATIN CAPITAL LETTER L WITH DOUBLE BAR,
      1SMALL LETTER L WITH DOUBLE BAR,1CAPITAL LETTER L WITH MIDDLE TILDE,3P WITH STROKE,
      3R WITH TAIL,1SMALL LETTER A WITH STROKE,3T WITH DIAGONAL STROKE,
      1CAPITAL LETTER H WITH DESCENDER,1SMALL LETTER H WITH DESCENDER,
      1CAPITAL LETTER K WITH DESCENDER,1SMALL LETTER K WITH DESCENDER,
      1CAPITAL LETTER Z WITH DESCENDER,1SMALL LETTER Z WITH DESCENDER,1CAPITAL LETTER ALPHA,
      3M WITH HOOK,3TURNED A,4ALPHA,1SMALL LETTER V WITH RIGHT HOOK,1CAPITAL LETTER W WITH HOOK,
      1SMALL LETTER W WITH HOOK,3V WITH CURL,1CAPITAL LETTER HALF H,1SMALL LETTER HALF H,
      3TAILLESS PHI,3E WITH NOTCH,3TURNED R WITH TAIL,3O WITH LOW RING INSIDE,
      1LETTER SMALL CAPITAL TURNED E,1SUBSCRIPT SMALL LETTER J,0MODIFIER LETTER CAPITAL V,
      0LATIN CAPITAL LETTER S WITH SWASH TAIL,3Z WITH SWASH TAIL,0COPTIC CAPITAL LETTER ALFA,
      1SMALL LETTER ALFA,1CAPITAL LETTER VIDA,1SMALL LETTER VIDA,1CAPITAL LETTER GAMMA,
      1SMALL LETTER GAMMA,1CAPITAL LETTER DALDA,1SMALL LETTER DALDA,1CAPITAL LETTER EIE,
      1SMALL LETTER EIE,1CAPITAL LETTER SOU,1SMALL LETTER SOU,1CAPITAL LETTER ZATA,
      1SMALL LETTER ZATA,1CAPITAL LETTER HATE,1SMALL LETTER HATE,1CAPITAL LETTER THETHE,
      1SMALL LETTER THETHE,1CAPITAL LETTER IAUDA,1SMALL LETTER IAUDA,1CAPITAL LETTER KAPA,
      1SMALL LETTER KAPA,1CAPITAL LETTER LAULA,1SMALL LETTER LAULA,1CAPITAL LETTER MI,
      1SMALL LETTER MI,1CAPITAL LETTER NI,1SMALL LETTER NI,1CAPITAL LETTER KSI,1SMALL LETTER KSI,
      1CAPITAL LETTER O,1SMALL LETTER O,1CAPITAL LETTER PI,1SMALL LETTER PI,1CAPITAL LETTER RO,
      1SMALL LETTER RO,1CAPITAL LETTER SIMA,1SMALL LETTER SIMA,1CAPITAL LETTER TAU,
      1SMALL LETTER TAU,1CAPITAL LETTER UA,1SMALL LETTER UA,1CAPITAL LETTER FI,1SMALL LETTER FI,
      1CAPITAL LETTER KHI,1SMALL LETTER KHI,1CAPITAL LETTER PSI,1SMALL LETTER PSI,
      1CAPITAL LETTER OOU,1SMALL LETTER OOU,1CAPITAL LETTER DIALECT-P ALEF,
      1SMALL LETTER DIALECT-P ALEF,1CAPITAL LETTER OLD COPTIC AIN,1SMALL LETTER OLD COPTIC AIN,
      1CAPITAL LETTER CRYPTOGRAMMIC EIE,1SMALL LETTER CRYPTOGRAMMIC EIE,
      1CAPITAL LETTER DIALECT-P KAPA,1SMALL LETTER DIALECT-P KAPA,1CAPITAL LETTER DIALECT-P NI,
      1SMALL LETTER DIALECT-P NI,1CAPITAL LETTER CRYPTOGRAMMIC NI,1SMALL LETTER CRYPTOGRAMMIC NI,
      1CAPITAL LETTER OLD COPTIC OOU,1SMALL LETTER OLD COPTIC OOU,1CAPITAL LETTER SAMPI,
      1SMALL LETTER SAMPI,1CAPITAL LETTER CROSSED SHEI,1SMALL LETTER CROSSED SHEI,
      1CAPITAL LETTER OLD COPTIC SHEI,1SMALL LETTER OLD COPTIC SHEI,1CAPITAL LETTER OLD COPTIC ESH,
      1SMALL LETTER OLD COPTIC ESH,1CAPITAL LETTER AKHMIMIC KHEI,1SMALL LETTER AKHMIMIC KHEI,
      1CAPITAL LETTER DIALECT-P HORI,1SMALL LETTER DIALECT-P HORI,1CAPITAL LETTER OLD COPTIC HORI,
      1SMALL LETTER OLD COPTIC HORI,1CAPITAL LETTER OLD COPTIC HA,1SMALL LETTER OLD COPTIC HA,
      1CAPITAL LETTER L-SHAPED HA,1SMALL LETTER L-SHAPED HA,1CAPITAL LETTER OLD COPTIC HEI,
      1SMALL LETTER OLD COPTIC HEI,1CAPITAL LETTER OLD COPTIC HAT,1SMALL LETTER OLD COPTIC HAT,
      1CAPITAL LETTER OLD COPTIC GANGIA,1SMALL LETTER OLD COPTIC GANGIA,
      1CAPITAL LETTER OLD COPTIC DJA,1SMALL LETTER OLD COPTIC DJA,1CAPITAL LETTER OLD COPTIC SHIMA,
      1SMALL LETTER OLD COPTIC SHIMA,1CAPITAL LETTER OLD NUBIAN SHIMA,
      1SMALL LETTER OLD NUBIAN SHIMA,1CAPITAL LETTER OLD NUBIAN NGI,1SMALL LETTER OLD NUBIAN NGI,
      1CAPITAL LETTER OLD NUBIAN NYI,1SMALL LETTER OLD NUBIAN NYI,1CAPITAL LETTER OLD NUBIAN WAU,
      1SMALL LETTER OLD NUBIAN WAU,1SYMBOL KAI,2MI RO,2PI RO,2STAUROS,2TAU RO,2KHI RO,2SHIMA SIMA,
      1CAPITAL LETTER CRYPTOGRAMMIC SHEI,1SMALL LETTER CRYPTOGRAMMIC SHEI,
      1CAPITAL LETTER CRYPTOGRAMMIC GANGIA,1SMALL LETTER CRYPTOGRAMMIC GANGIA,1COMBINING NI ABOVE,
      2SPIRITUS ASPER,3LENIS,1CAPITAL LETTER BOHAIRIC KHEI,1SMALL LETTER BOHAIRIC KHEI"),
    (11513, "0COPTIC OLD NUBIAN FULL STOP,3DIRECT QUESTION MARK,3INDIRECT QUESTION MARK,
      3VERSE DIVIDER,1FRACTION ONE HALF,1FULL STOP,1MORPHOLOGICAL DIVIDER,
      0GEORGIAN SMALL LETTER AN,3BAN,3GAN,3DON,3EN,3VIN,3ZEN,3TAN,3IN,3KAN,3LAS,3MAN,3NAR,3ON,3PAR,
      3ZHAR,3RAE,3SAN,3TAR,3UN,3PHAR,3KHAR,3GHAN,3QAR,3SHIN,3CHIN,3CAN,3JIL,3CIL,3CHAR,3XAN,3JHAN,
      3HAE,3HE,3HIE,3WE,3HAR,3HOE"),
    (11559, "0GEORGIAN SMALL LETTER YN"), (11565, "0GEORGIAN SMALL LETTER AEN"),
    (11568, "0TIFINAGH LETTER YA,2YAB,2YABH,2YAG,2YAGHH,2BERBER ACADEMY YAJ,2YAJ,2YAD,2YADH,2YADD,
      2YADDH,2YEY,2YAF,2YAK,2TUAREG YAK,2YAKHH,2YAH,2BERBER ACADEMY YAH,2TUAREG YAH,2YAHH,2YAA,
      2YAKH,2TUAREG YAKH,2YAQ,2TUAREG YAQ,2YI,2YAZH,2AHAGGAR YAZH,2TUAREG YAZH,2YAL,2YAM,2YAN,
      2TUAREG YAGN,3YANG,2YAP,2YU,2YAR,2YARR,2YAGH,2TUAREG YAGH,2AYER YAGH,2YAS,2YASS,2YASH,2YAT,
      2YATH,2YACH,2YATT,2YAV,2YAW,2YAY,2YAZ,2TAWELLEMET YAZ,2YAZZ,2YE,2YO"),
    (11631, "0TIFINAGH MODIFIER LETTER LABIALIZATION MARK,1SEPARATOR MARK"),
    (11647, "0TIFINAGH CONSONANT JOINER,0ETHIOPIC SYLLABLE LOA,2MOA,2ROA,2SOA,2SHOA,2BOA,2TOA,2COA,
      2NOA,2NYOA,2GLOTTAL OA,2ZOA,2DOA,2DDOA,2JOA,2THOA,2CHOA,2PHOA,2POA,2GGWA,2GGWI,2GGWEE,2GGWE"),
    (11680, "0ETHIOPIC SYLLABLE SSA,2SSU,2SSI,2SSAA,2SSEE,2SSE,2SSO"),
    (11688, "0ETHIOPIC SYLLABLE CCA,2CCU,2CCI,2CCAA,2CCEE,2CCE,2CCO"),
    (11696, "0ETHIOPIC SYLLABLE ZZA,2ZZU,2ZZI,2ZZAA,2ZZEE,2ZZE,2ZZO"),
    (11704, "0ETHIOPIC SYLLABLE CCHA,2CCHU,2CCHI,2CCHAA,2CCHEE,2CCHE,2CCHO"),
    (11712, "0ETHIOPIC SYLLABLE QYA,2QYU,2QYI,2QYAA,2QYEE,2QYE,2QYO"),
    (11720, "0ETHIOPIC SYLLABLE KYA,2KYU,2KYI,2KYAA,2KYEE,2KYE,2KYO"),
    (11728, "0ETHIOPIC SYLLABLE XYA,2XYU,2XYI,2XYAA,2XYEE,2XYE,2XYO"),
    (11736, "0ETHIOPIC SYLLABLE GYA,2GYU,2GYI,2GYAA,2GYEE,2GYE,2GYO"),
    (11744, "0COMBINING CYRILLIC LETTER BE,3VE,3GHE,3DE,3ZHE,3ZE,3KA,3EL,3EM,3EN,3O,3PE,3ER,3ES,
      3TE,3HA,3TSE,3CHE,3SHA,3SHCHA,3FITA,3ES-TE,3A,3IE,3DJERV,3MONOGRAPH UK,3YAT,3YU,3IOTIFIED A,
      3LITTLE YUS,3BIG YUS,3IOTIFIED BIG YUS,0RIGHT ANGLE SUBSTITUTION MARKER,
      2DOTTED SUBSTITUTION MARKER,0LEFT SUBSTITUTION BRACKET,0RIGHT SUBSTITUTION BRACKET,
      0LEFT DOTTED SUBSTITUTION BRACKET,0RIGHT DOTTED SUBSTITUTION BRACKET,
      0RAISED INTERPOLATION MARKER,1DOTTED INTERPOLATION MARKER,0DOTTED TRANSPOSITION MARKER,
      0LEFT TRANSPOSITION BRACKET,0RIGHT TRANSPOSITION BRACKET,0RAISED SQUARE,
      0LEFT RAISED OMISSION BRACKET,0RIGHT RAISED OMISSION BRACKET,0EDITORIAL CORONIS,0PARAGRAPHOS,
      0FORKED PARAGRAPHOS,0REVERSED FORKED PARAGRAPHOS,0HYPODIASTOLE,0DOTTED OBELOS,
      0DOWNWARDS ANCORA,0UPWARDS ANCORA,0DOTTED RIGHT-POINTING ANGLE,0DOUBLE OBLIQUE HYPHEN,
      0INVERTED INTERROBANG,0PALM BRANCH,0HYPHEN WITH DIAERESIS,0TILDE WITH RING ABOVE,
      0LEFT LOW PARAPHRASE BRACKET,0RIGHT LOW PARAPHRASE BRACKET,0TILDE WITH DOT ABOVE,3BELOW,
      0LEFT VERTICAL BAR WITH QUILL,0RIGHT VERTICAL BAR WITH QUILL,0TOP LEFT HALF BRACKET,
      1RIGHT HALF BRACKET,0BOTTOM LEFT HALF BRACKET,1RIGHT HALF BRACKET,0LEFT SIDEWAYS U BRACKET,
      0RIGHT SIDEWAYS U BRACKET,0LEFT DOUBLE PARENTHESIS,0RIGHT DOUBLE PARENTHESIS,
      0TWO DOTS OVER ONE DOT PUNCTUATION,0ONE DOT OVER TWO DOTS PUNCTUATION,
      0SQUARED FOUR DOT PUNCTUATION,0FIVE DOT MARK,0REVERSED QUESTION MARK,0VERTICAL TILDE,
      0RING POINT,0WORD SEPARATOR MIDDLE DOT,0TURNED COMMA,0RAISED DOT,1COMMA,0TURNED SEMICOLON,
      0DAGGER WITH LEFT GUARD,2RIGHT GUARD,0TURNED DAGGER,0TOP HALF SECTION SIGN,0TWO-EM DASH,
      0THREE-EM DASH,0STENOGRAPHIC FULL STOP,0VERTICAL SIX DOTS,0WIGGLY VERTICAL LINE,0CAPITULUM,
      0DOUBLE HYPHEN,0REVERSED COMMA,0DOUBLE LOW-REVERSED-9 QUOTATION MARK,0DASH WITH LEFT UPTURN,
      0DOUBLE SUSPENSION MARK,0INVERTED LOW KAVYKA,2KAVYKA WITH KAVYKA ABOVE,0LOW KAVYKA,
      1KAVYKA WITH DOT,0DOUBLE STACKED COMMA,0DOTTED SOLIDUS,0TRIPLE DAGGER,0MEDIEVAL COMMA,
      0PARAGRAPHUS MARK,0PUNCTUS ELEVATUS MARK,0CORNISH VERSE DIVIDER,
      0CROSS PATTY WITH RIGHT CROSSBAR,3LEFT CROSSBAR,0TIRONIAN SIGN CAPITAL ET,
      0MEDIEVAL EXCLAMATION MARK,1QUESTION MARK,0LEFT SQUARE BRACKET WITH STROKE,
      0RIGHT SQUARE BRACKET WITH STROKE,0LEFT SQUARE BRACKET WITH DOUBLE STROKE,
      0RIGHT SQUARE BRACKET WITH DOUBLE STROKE,0TOP HALF LEFT PARENTHESIS,2RIGHT PARENTHESIS,
      0BOTTOM HALF LEFT PARENTHESIS,2RIGHT PARENTHESIS,0OBLIQUE HYPHEN"),
    (11904, "0CJK RADICAL REPEAT,2CLIFF,2SECOND ONE,3TWO,3THREE,2PERSON,2BOX,2TABLE,2KNIFE ONE,
      3TWO,2DIVINATION,2SEAL,2SMALL ONE,3TWO,2LAME ONE,3TWO,3THREE,3FOUR,2SNAKE,2THREAD,2SNOUT ONE,
      3TWO,2HEART ONE,3TWO,2HAND,2RAP"),
    (11931, "0CJK RADICAL CHOKE,2SUN,2MOON,2DEATH,2MOTHER,2CIVILIAN,2WATER ONE,3TWO,2FIRE,2PAW ONE,
      3TWO,2SIMPLIFIED HALF TREE TRUNK,2COW,2DOG,2JADE,2BOLT OF CLOTH,2EYE,2SPIRIT ONE,3TWO,
      2BAMBOO,2SILK,2C-SIMPLIFIED SILK,2NET ONE,3TWO,3THREE,3FOUR,2MESH,2SHEEP,2RAM,2EWE,2OLD,
      2BRUSH ONE,3TWO,2MEAT,2MORTAR,2GRASS ONE,3TWO,3THREE,2TIGER,2CLOTHES,2WEST ONE,3TWO,
      2C-SIMPLIFIED SEE,2SIMPLIFIED HORN,2HORN,2C-SIMPLIFIED SPEECH,4SHELL,2FOOT,
      2C-SIMPLIFIED CART,2SIMPLIFIED WALK,2WALK ONE,3TWO,2CITY,2C-SIMPLIFIED GOLD,2LONG ONE,3TWO,
      2C-SIMPLIFIED LONG,4GATE,2MOUND ONE,3TWO,2RAIN,2BLUE,2C-SIMPLIFIED TANNED LEATHER,4LEAF,
      4WIND,4FLY,2EAT ONE,3TWO,3THREE,2C-SIMPLIFIED EAT,2HEAD,2C-SIMPLIFIED HORSE,2BONE,2GHOST,
      2C-SIMPLIFIED FISH,4BIRD,4SALT,2SIMPLIFIED WHEAT,3YELLOW,2C-SIMPLIFIED FROG,
      2J-SIMPLIFIED EVEN,2C-SIMPLIFIED EVEN,2J-SIMPLIFIED TOOTH,2C-SIMPLIFIED TOOTH,
      2J-SIMPLIFIED DRAGON,2C-SIMPLIFIED DRAGON,2TURTLE,2J-SIMPLIFIED TURTLE,2C-SIMPLIFIED TURTLE"),
    (12032, "0KANGXI RADICAL ONE,2LINE,2DOT,2SLASH,2SECOND,2HOOK,2TWO,2LID,2MAN,2LEGS,2ENTER,
      2EIGHT,2DOWN BOX,2COVER,2ICE,2TABLE,2OPEN BOX,2KNIFE,2POWER,2WRAP,2SPOON,2RIGHT OPEN BOX,
      2HIDING ENCLOSURE,2TEN,2DIVINATION,2SEAL,2CLIFF,2PRIVATE,2AGAIN,2MOUTH,2ENCLOSURE,2EARTH,
      2SCHOLAR,2GO,2GO SLOWLY,2EVENING,2BIG,2WOMAN,2CHILD,2ROOF,2INCH,2SMALL,2LAME,2CORPSE,2SPROUT,
      2MOUNTAIN,2RIVER,2WORK,2ONESELF,2TURBAN,2DRY,2SHORT THREAD,2DOTTED CLIFF,2LONG STRIDE,
      2TWO HANDS,2SHOOT,2BOW,2SNOUT,2BRISTLE,2STEP,2HEART,2HALBERD,2DOOR,2HAND,2BRANCH,2RAP,
      2SCRIPT,2DIPPER,2AXE,2SQUARE,2NOT,2SUN,2SAY,2MOON,2TREE,2LACK,2STOP,2DEATH,2WEAPON,2DO NOT,
      2COMPARE,2FUR,2CLAN,2STEAM,2WATER,2FIRE,2CLAW,2FATHER,2DOUBLE X,2HALF TREE TRUNK,2SLICE,
      2FANG,2COW,2DOG,2PROFOUND,2JADE,2MELON,2TILE,2SWEET,2LIFE,2USE,2FIELD,2BOLT OF CLOTH,
      2SICKNESS,2DOTTED TENT,2WHITE,2SKIN,2DISH,2EYE,2SPEAR,2ARROW,2STONE,2SPIRIT,2TRACK,2GRAIN,
      2CAVE,2STAND,2BAMBOO,2RICE,2SILK,2JAR,2NET,2SHEEP,2FEATHER,2OLD,2AND,2PLOW,2EAR,2BRUSH,2MEAT,
      2MINISTER,2SELF,2ARRIVE,2MORTAR,2TONGUE,2OPPOSE,2BOAT,2STOPPING,2COLOR,2GRASS,2TIGER,2INSECT,
      2BLOOD,2WALK ENCLOSURE,2CLOTHES,2WEST,2SEE,2HORN,2SPEECH,2VALLEY,2BEAN,2PIG,2BADGER,2SHELL,
      2RED,2RUN,2FOOT,2BODY,2CART,2BITTER,2MORNING,2WALK,2CITY,2WINE,2DISTINGUISH,2VILLAGE,2GOLD,
      2LONG,2GATE,2MOUND,2SLAVE,2SHORT TAILED BIRD,2RAIN,2BLUE,2WRONG,2FACE,2LEATHER,
      2TANNED LEATHER,2LEEK,2SOUND,2LEAF,2WIND,2FLY,2EAT,2HEAD,2FRAGRANT,2HORSE,2BONE,2TALL,2HAIR,
      2FIGHT,2SACRIFICIAL WINE,2CAULDRON,2GHOST,2FISH,2BIRD,2SALT,2DEER,2WHEAT,2HEMP,2YELLOW,
      2MILLET,2BLACK,2EMBROIDERY,2FROG,2TRIPOD,2DRUM,2RAT,2NOSE,2EVEN,2TOOTH,2DRAGON,2TURTLE,
      2FLUTE"),
    (12272, "0IDEOGRAPHIC DESCRIPTION CHARACTER LEFT TO RIGHT,3ABOVE TO BELOW,
      3LEFT TO MIDDLE AND RIGHT,3ABOVE TO MIDDLE AND BELOW,3FULL SURROUND,3SURROUND FROM ABOVE,
      5BELOW,5LEFT,5UPPER LEFT,6RIGHT,5LOWER LEFT,3OVERLAID"),
    (12288, "0IDEOGRAPHIC SPACE,1COMMA,1FULL STOP,0DITTO MARK,0JAPANESE INDUSTRIAL STANDARD SYMBOL,
      0IDEOGRAPHIC ITERATION MARK,1CLOSING MARK,1NUMBER ZERO,0LEFT ANGLE BRACKET,
      0RIGHT ANGLE BRACKET,0LEFT DOUBLE ANGLE BRACKET,0RIGHT DOUBLE ANGLE BRACKET,
      0LEFT CORNER BRACKET,0RIGHT CORNER BRACKET,0LEFT WHITE CORNER BRACKET,
      0RIGHT WHITE CORNER BRACKET,0LEFT BLACK LENTICULAR BRACKET,0RIGHT BLACK LENTICULAR BRACKET,
      0POSTAL MARK,0GETA MARK,0LEFT TORTOISE SHELL BRACKET,0RIGHT TORTOISE SHELL BRACKET,
      0LEFT WHITE LENTICULAR BRACKET,0RIGHT WHITE LENTICULAR BRACKET,
      0LEFT WHITE TORTOISE SHELL BRACKET,0RIGHT WHITE TORTOISE SHELL BRACKET,
      0LEFT WHITE SQUARE BRACKET,0RIGHT WHITE SQUARE BRACKET,0WAVE DASH,
      0REVERSED DOUBLE PRIME QUOTATION MARK,0DOUBLE PRIME QUOTATION MARK,
      0LOW DOUBLE PRIME QUOTATION MARK,0POSTAL MARK FACE,0HANGZHOU NUMERAL ONE,2TWO,2THREE,2FOUR,
      2FIVE,2SIX,2SEVEN,2EIGHT,2NINE,0IDEOGRAPHIC LEVEL TONE MARK,1RISING TONE MARK,
      1DEPARTING TONE MARK,1ENTERING TONE MARK,0HANGUL SINGLE DOT TONE MARK,1DOUBLE DOT TONE MARK,
      0WAVY DASH,0VERTICAL KANA REPEAT MARK,3WITH VOICED SOUND MARK,3MARK UPPER HALF,
      3WITH VOICED SOUND MARK UPPER HALF,3MARK LOWER HALF,0CIRCLED POSTAL MARK,
      0IDEOGRAPHIC TELEGRAPH LINE FEED SEPARATOR SYMBOL,0HANGZHOU NUMERAL TEN,2TWENTY,2THIRTY,
      0VERTICAL IDEOGRAPHIC ITERATION MARK,0MASU MARK,0PART ALTERNATION MARK,
      0IDEOGRAPHIC VARIATION INDICATOR,1HALF FILL SPACE"),
    (12353, "0HIRAGANA LETTER SMALL A,2A,2SMALL I,2I,2SMALL U,2U,2SMALL E,2E,2SMALL O,2O,2KA,2GA,
      2KI,2GI,2KU,2GU,2KE,2GE,2KO,2GO,2SA,2ZA,2SI,2ZI,2SU,2ZU,2SE,2ZE,2SO,2ZO,2TA,2DA,2TI,2DI,
      2SMALL TU,2TU,2DU,2TE,2DE,2TO,2DO,2NA,2NI,2NU,2NE,2NO,2HA,2BA,2PA,2HI,2BI,2PI,2HU,2BU,2PU,
      2HE,2BE,2PE,2HO,2BO,2PO,2MA,2MI,2MU,2ME,2MO,2SMALL YA,2YA,2SMALL YU,2YU,2SMALL YO,2YO,2RA,
      2RI,2RU,2RE,2RO,2SMALL WA,2WA,2WI,2WE,2WO,2N,2VU,2SMALL KA,3KE"),
    (12441, "0COMBINING KATAKANA-HIRAGANA VOICED SOUND MARK,3SEMI-VOICED SOUND MARK,
      0KATAKANA-HIRAGANA VOICED SOUND MARK,2SEMI-VOICED SOUND MARK,0HIRAGANA ITERATION MARK,
      1VOICED ITERATION MARK,1DIGRAPH YORI,0KATAKANA-HIRAGANA DOUBLE HYPHEN,
      0KATAKANA LETTER SMALL A,2A,2SMALL I,2I,2SMALL U,2U,2SMALL E,2E,2SMALL O,2O,2KA,2GA,2KI,2GI,
      2KU,2GU,2KE,2GE,2KO,2GO,2SA,2ZA,2SI,2ZI,2SU,2ZU,2SE,2ZE,2SO,2ZO,2TA,2DA,2TI,2DI,2SMALL TU,
      2TU,2DU,2TE,2DE,2TO,2DO,2NA,2NI,2NU,2NE,2NO,2HA,2BA,2PA,2HI,2BI,2PI,2HU,2BU,2PU,2HE,2BE,2PE,
      2HO,2BO,2PO,2MA,2MI,2MU,2ME,2MO,2SMALL YA,2YA,2SMALL YU,2YU,2SMALL YO,2YO,2RA,2RI,2RU,2RE,
      2RO,2SMALL WA,2WA,2WI,2WE,2WO,2N,2VU,2SMALL KA,3KE,2VA,2VI,2VE,2VO,1MIDDLE DOT,
      0KATAKANA-HIRAGANA PROLONGED SOUND MARK,0KATAKANA ITERATION MARK,1VOICED ITERATION MARK,
      1DIGRAPH KOTO"),
    (12549, "0BOPOMOFO LETTER B,2P,2M,2F,2D,2T,2N,2L,2G,2K,2H,2J,2Q,2X,2ZH,2CH,2SH,2R,2Z,2C,2S,2A,
      2O,2E,2EH,2AI,2EI,2AU,2OU,2AN,2EN,2ANG,2ENG,2ER,2I,2U,2IU,2V,2NG,2GN,2IH,2O WITH DOT ABOVE,
      2NN"),
    (12593, "0HANGUL LETTER KIYEOK,2SSANGKIYEOK,2KIYEOK-SIOS,2NIEUN,2NIEUN-CIEUC,3HIEUH,2TIKEUT,
      2SSANGTIKEUT,2RIEUL,2RIEUL-KIYEOK,3MIEUM,3PIEUP,3SIOS,3THIEUTH,3PHIEUPH,3HIEUH,2MIEUM,2PIEUP,
      2SSANGPIEUP,2PIEUP-SIOS,2SIOS,2SSANGSIOS,2IEUNG,2CIEUC,2SSANGCIEUC,2CHIEUCH,2KHIEUKH,
      2THIEUTH,2PHIEUPH,2HIEUH,2A,2AE,2YA,2YAE,2EO,2E,2YEO,2YE,2O,2WA,2WAE,2OE,2YO,2U,2WEO,2WE,2WI,
      2YU,2EU,2YI,2I,1FILLER,1LETTER SSANGNIEUN,2NIEUN-TIKEUT,3SIOS,3PANSIOS,2RIEUL-KIYEOK-SIOS,
      3TIKEUT,3PIEUP-SIOS,3PANSIOS,3YEORINHIEUH,2MIEUM-PIEUP,3SIOS,3PANSIOS,2KAPYEOUNMIEUM,
      2PIEUP-KIYEOK,3TIKEUT,3SIOS-KIYEOK,4TIKEUT,3CIEUC,3THIEUTH,2KAPYEOUNPIEUP,
      2KAPYEOUNSSANGPIEUP,2SIOS-KIYEOK,3NIEUN,3TIKEUT,3PIEUP,3CIEUC,2PANSIOS,2SSANGIEUNG,2YESIEUNG,
      2YESIEUNG-SIOS,3PANSIOS,2KAPYEOUNPHIEUPH,2SSANGHIEUH,2YEORINHIEUH,2YO-YA,3YAE,3I,2YU-YEO,3YE,
      3I,2ARAEA,2ARAEAE"),
    (12688, "0IDEOGRAPHIC ANNOTATION LINKING MARK,2REVERSE MARK,2ONE MARK,2TWO MARK,2THREE MARK,
      2FOUR MARK,2TOP MARK,2MIDDLE MARK,2BOTTOM MARK,2FIRST MARK,2SECOND MARK,2THIRD MARK,
      2FOURTH MARK,2HEAVEN MARK,2EARTH MARK,2MAN MARK,0BOPOMOFO LETTER BU,2ZI,2JI,2GU,2EE,2ENN,2OO,
      2ONN,2IR,2ANN,2INN,2UNN,2IM,2NGG,2AINN,2AUNN,2AM,2OM,2ONG,2INNN,1FINAL LETTER P,3T,3K,3H,
      1LETTER GH,2LH,2ZY,1FINAL LETTER G,1LETTER GW,2KW,2OE,2AH,0CJK STROKE T,2WG,2XG,2BXG,2SW,
      2HZZ,2HZG,2HP,2HZWG,2SZWG,2HZT,2HZZP,2HPWG,2HZW,2HZZZ,2N,2H,2S,2P,2SP,2D,2HZ,2HG,2SZ,2SWZ,
      2ST,2SG,2PD,2PZ,2TN,2SZZ,2SWG,2HXWG,2HZZZG,2PG,2Q"),
    (12784, "0KATAKANA LETTER SMALL KU,3SI,3SU,3TO,3NU,3HA,3HI,3HU,3HE,3HO,3MU,3RA,3RI,3RU,3RE,3RO,
      0PARENTHESIZED HANGUL KIYEOK,2NIEUN,2TIKEUT,2RIEUL,2MIEUM,2PIEUP,2SIOS,2IEUNG,2CIEUC,
      2CHIEUCH,2KHIEUKH,2THIEUTH,2PHIEUPH,2HIEUH,2KIYEOK A,2NIEUN A,2TIKEUT A,2RIEUL A,2MIEUM A,
      2PIEUP A,2SIOS A,2IEUNG A,2CIEUC A,2CHIEUCH A,2KHIEUKH A,2THIEUTH A,2PHIEUPH A,2HIEUH A,
      2CIEUC U,1KOREAN CHARACTER OJEON,3O HU"),
    (12832, "0PARENTHESIZED IDEOGRAPH ONE,2TWO,2THREE,2FOUR,2FIVE,2SIX,2SEVEN,2EIGHT,2NINE,2TEN,
      2MOON,2FIRE,2WATER,2WOOD,2METAL,2EARTH,2SUN,2STOCK,2HAVE,2SOCIETY,2NAME,2SPECIAL,2FINANCIAL,
      2CONGRATULATION,2LABOR,2REPRESENT,2CALL,2STUDY,2SUPERVISE,2ENTERPRISE,2RESOURCE,2ALLIANCE,
      2FESTIVAL,2REST,2SELF,2REACH,0CIRCLED IDEOGRAPH QUESTION,2KINDERGARTEN,2SCHOOL,2KOTO,
      1NUMBER TEN ON BLACK SQUARE,2TWENTY ON BLACK SQUARE,2THIRTY ON BLACK SQUARE,
      2FORTY ON BLACK SQUARE,2FIFTY ON BLACK SQUARE,2SIXTY ON BLACK SQUARE,
      2SEVENTY ON BLACK SQUARE,2EIGHTY ON BLACK SQUARE,0PARTNERSHIP SIGN,
      0CIRCLED NUMBER TWENTY ONE,3TWO,3THREE,3FOUR,3FIVE,3SIX,3SEVEN,3EIGHT,3NINE,2THIRTY,
      2THIRTY ONE,3TWO,3THREE,3FOUR,3FIVE,1HANGUL KIYEOK,2NIEUN,2TIKEUT,2RIEUL,2MIEUM,2PIEUP,2SIOS,
      2IEUNG,2CIEUC,2CHIEUCH,2KHIEUKH,2THIEUTH,2PHIEUPH,2HIEUH,2KIYEOK A,2NIEUN A,2TIKEUT A,
      2RIEUL A,2MIEUM A,2PIEUP A,2SIOS A,2IEUNG A,2CIEUC A,2CHIEUCH A,2KHIEUKH A,2THIEUTH A,
      2PHIEUPH A,2HIEUH A,1KOREAN CHARACTER CHAMKO,3JUEUI,1HANGUL IEUNG U,0KOREAN STANDARD SYMBOL,
      0CIRCLED IDEOGRAPH ONE,2TWO,2THREE,2FOUR,2FIVE,2SIX,2SEVEN,2EIGHT,2NINE,2TEN,2MOON,2FIRE,
      2WATER,2WOOD,2METAL,2EARTH,2SUN,2STOCK,2HAVE,2SOCIETY,2NAME,2SPECIAL,2FINANCIAL,
      2CONGRATULATION,2LABOR,2SECRET,2MALE,2FEMALE,2SUITABLE,2EXCELLENT,2PRINT,2ATTENTION,2ITEM,
      2REST,2COPY,2CORRECT,2HIGH,2CENTRE,2LOW,2LEFT,2RIGHT,2MEDICINE,2RELIGION,2STUDY,2SUPERVISE,
      2ENTERPRISE,2RESOURCE,2ALLIANCE,2NIGHT,1NUMBER THIRTY SIX,3SEVEN,3EIGHT,3NINE,2FORTY,
      2FORTY ONE,3TWO,3THREE,3FOUR,3FIVE,3SIX,3SEVEN,3EIGHT,3NINE,2FIFTY,
      0IDEOGRAPHIC TELEGRAPH SYMBOL FOR JANUARY,4FEBRUARY,4MARCH,4APRIL,4MAY,4JUNE,4JULY,4AUGUST,
      4SEPTEMBER,4OCTOBER,4NOVEMBER,4DECEMBER,0SQUARE HG,1ERG,1EV,0LIMITED LIABILITY SIGN,
      0CIRCLED KATAKANA A,2I,2U,2E,2O,2KA,2KI,2KU,2KE,2KO,2SA,2SI,2SU,2SE,2SO,2TA,2TI,2TU,2TE,2TO,
      2NA,2NI,2NU,2NE,2NO,2HA,2HI,2HU,2HE,2HO,2MA,2MI,2MU,2ME,2MO,2YA,2YU,2YO,2RA,2RI,2RU,2RE,2RO,
      2WA,2WI,2WE,2WO,0SQUARE ERA NAME REIWA,1APAATO,1ARUHUA,1ANPEA,1AARU,1ININGU,1INTI,1UON,
      1ESUKUUDO,1EEKAA,1ONSU,1OOMU,1KAIRI,1KARATTO,1KARORII,1GARON,1GANMA,1GIGA,1GINII,1KYURII,
      1GIRUDAA,1KIRO,1KIROGURAMU,1KIROMEETORU,1KIROWATTO,1GURAMU,1GURAMUTON,1KURUZEIRO,1KUROONE,
      1KEESU,1KORUNA,1KOOPO,1SAIKURU,1SANTIIMU,1SIRINGU,1SENTI,1SENTO,1DAASU,1DESI,1DORU,1TON,
      1NANO,1NOTTO,1HAITU,1PAASENTO,1PAATU,1BAARERU,1PIASUTORU,1PIKURU,1PIKO,1BIRU,1HUARADDO,
      1HUIITO,1BUSSYERU,1HURAN,1HEKUTAARU,1PESO,1PENIHI,1HERUTU,1PENSU,1PEEZI,1BEETA,1POINTO,
      1BORUTO,1HON,1PONDO,1HOORU,1HOON,1MAIKURO,1MAIRU,1MAHHA,1MARUKU,1MANSYON,1MIKURON,1MIRI,
      1MIRIBAARU,1MEGA,1MEGATON,1MEETORU,1YAADO,1YAARU,1YUAN,1RITTORU,1RIRA,1RUPII,1RUUBURU,1REMU,
      1RENTOGEN,1WATTO,0IDEOGRAPHIC TELEGRAPH SYMBOL FOR HOUR ZERO,5ONE,5TWO,5THREE,5FOUR,5FIVE,
      5SIX,5SEVEN,5EIGHT,5NINE,5TEN,5ELEVEN,5TWELVE,5THIRTEEN,5FOURTEEN,5FIFTEEN,5SIXTEEN,
      5SEVENTEEN,5EIGHTEEN,5NINETEEN,5TWENTY,5TWENTY-ONE,6TWO,6THREE,6FOUR,0SQUARE HPA,1DA,1AU,
      1BAR,1OV,1PC,1DM,1DM SQUARED,2CUBED,1IU,1ERA NAME HEISEI,3SYOUWA,3TAISYOU,3MEIZI,
      1CORPORATION,1PA AMPS,1NA,1MU A,1MA,1KA,1KB,1MB,1GB,1CAL,1KCAL,1PF,1NF,1MU F,2G,1MG,1KG,1HZ,
      1KHZ,1MHZ,1GHZ,1THZ,1MU L,1ML,1DL,1KL,1FM,1NM,1MU M,1MM,1CM,1KM,1MM SQUARED,1CM SQUARED,
      1M SQUARED,1KM SQUARED,1MM CUBED,1CM CUBED,1M CUBED,1KM CUBED,1M OVER S,3S SQUARED,1PA,1KPA,
      1MPA,1GPA,1RAD,1RAD OVER S,3S SQUARED,1PS,1NS,1MU S,1MS,1PV,1NV,1MU V,1MV,1KV,1MV MEGA,1PW,
      1NW,1MU W,1MW,1KW,1MW MEGA,1K OHM,1M OHM,1AM,1BQ,1CC,1CD,1C OVER KG,1CO,1DB,1GY,1HA,1HP,1IN,
      1KK,1KM CAPITAL,1KT,1LM,1LN,1LOG,1LX,1MB SMALL,1MIL,1MOL,1PH,1PM,1PPM,1PR,1SR,1SV,1WB,
      1V OVER M,1A OVER M,0IDEOGRAPHIC TELEGRAPH SYMBOL FOR DAY ONE,5TWO,5THREE,5FOUR,5FIVE,5SIX,
      5SEVEN,5EIGHT,5NINE,5TEN,5ELEVEN,5TWELVE,5THIRTEEN,5FOURTEEN,5FIFTEEN,5SIXTEEN,5SEVENTEEN,
      5EIGHTEEN,5NINETEEN,5TWENTY,5TWENTY-ONE,6TWO,6THREE,6FOUR,6FIVE,6SIX,6SEVEN,6EIGHT,6NINE,
      5THIRTY,5THIRTY-ONE,0SQUARE GAL"),
    (19904, "0HEXAGRAM FOR THE CREATIVE HEAVEN,3RECEPTIVE EARTH,2DIFFICULTY AT THE BEGINNING,
      2YOUTHFUL FOLLY,2WAITING,2CONFLICT,2THE ARMY,2HOLDING TOGETHER,2SMALL TAMING,2TREADING,
      2PEACE,2STANDSTILL,2FELLOWSHIP,2GREAT POSSESSION,2MODESTY,2ENTHUSIASM,2FOLLOWING,
      2WORK ON THE DECAYED,2APPROACH,2CONTEMPLATION,2BITING THROUGH,2GRACE,2SPLITTING APART,
      2RETURN,2INNOCENCE,2GREAT TAMING,2MOUTH CORNERS,2GREAT PREPONDERANCE,2THE ABYSMAL WATER,
      3CLINGING FIRE,2INFLUENCE,2DURATION,2RETREAT,2GREAT POWER,2PROGRESS,2DARKENING OF THE LIGHT,
      2THE FAMILY,2OPPOSITION,2OBSTRUCTION,2DELIVERANCE,2DECREASE,2INCREASE,2BREAKTHROUGH,
      2COMING TO MEET,2GATHERING TOGETHER,2PUSHING UPWARD,2OPPRESSION,2THE WELL,2REVOLUTION,
      2THE CAULDRON,3AROUSING THUNDER,3KEEPING STILL MOUNTAIN,2DEVELOPMENT,2THE MARRYING MAIDEN,
      2ABUNDANCE,2THE WANDERER,3GENTLE WIND,3JOYOUS LAKE,2DISPERSION,2LIMITATION,2INNER TRUTH,
      2SMALL PREPONDERANCE,2AFTER COMPLETION,2BEFORE COMPLETION"),
    (40960, "0YI SYLLABLE IT,2IX,2I,2IP,2IET,2IEX,2IE,2IEP,2AT,2AX,2A,2AP,2UOX,2UO,2UOP,2OT,2OX,2O,
      2OP,2EX,2E,2WU,2BIT,2BIX,2BI,2BIP,2BIET,2BIEX,2BIE,2BIEP,2BAT,2BAX,2BA,2BAP,2BUOX,2BUO,2BUOP,
      2BOT,2BOX,2BO,2BOP,2BEX,2BE,2BEP,2BUT,2BUX,2BU,2BUP,2BURX,2BUR,2BYT,2BYX,2BY,2BYP,2BYRX,2BYR,
      2PIT,2PIX,2PI,2PIP,2PIEX,2PIE,2PIEP,2PAT,2PAX,2PA,2PAP,2PUOX,2PUO,2PUOP,2POT,2POX,2PO,2POP,
      2PUT,2PUX,2PU,2PUP,2PURX,2PUR,2PYT,2PYX,2PY,2PYP,2PYRX,2PYR,2BBIT,2BBIX,2BBI,2BBIP,2BBIET,
      2BBIEX,2BBIE,2BBIEP,2BBAT,2BBAX,2BBA,2BBAP,2BBUOX,2BBUO,2BBUOP,2BBOT,2BBOX,2BBO,2BBOP,2BBEX,
      2BBE,2BBEP,2BBUT,2BBUX,2BBU,2BBUP,2BBURX,2BBUR,2BBYT,2BBYX,2BBY,2BBYP,2NBIT,2NBIX,2NBI,2NBIP,
      2NBIEX,2NBIE,2NBIEP,2NBAT,2NBAX,2NBA,2NBAP,2NBOT,2NBOX,2NBO,2NBOP,2NBUT,2NBUX,2NBU,2NBUP,
      2NBURX,2NBUR,2NBYT,2NBYX,2NBY,2NBYP,2NBYRX,2NBYR,2HMIT,2HMIX,2HMI,2HMIP,2HMIEX,2HMIE,2HMIEP,
      2HMAT,2HMAX,2HMA,2HMAP,2HMUOX,2HMUO,2HMUOP,2HMOT,2HMOX,2HMO,2HMOP,2HMUT,2HMUX,2HMU,2HMUP,
      2HMURX,2HMUR,2HMYX,2HMY,2HMYP,2HMYRX,2HMYR,2MIT,2MIX,2MI,2MIP,2MIEX,2MIE,2MIEP,2MAT,2MAX,2MA,
      2MAP,2MUOT,2MUOX,2MUO,2MUOP,2MOT,2MOX,2MO,2MOP,2MEX,2ME,2MUT,2MUX,2MU,2MUP,2MURX,2MUR,2MYT,
      2MYX,2MY,2MYP,2FIT,2FIX,2FI,2FIP,2FAT,2FAX,2FA,2FAP,2FOX,2FO,2FOP,2FUT,2FUX,2FU,2FUP,2FURX,
      2FUR,2FYT,2FYX,2FY,2FYP,2VIT,2VIX,2VI,2VIP,2VIET,2VIEX,2VIE,2VIEP,2VAT,2VAX,2VA,2VAP,2VOT,
      2VOX,2VO,2VOP,2VEX,2VEP,2VUT,2VUX,2VU,2VUP,2VURX,2VUR,2VYT,2VYX,2VY,2VYP,2VYRX,2VYR,2DIT,
      2DIX,2DI,2DIP,2DIEX,2DIE,2DIEP,2DAT,2DAX,2DA,2DAP,2DUOX,2DUO,2DOT,2DOX,2DO,2DOP,2DEX,2DE,
      2DEP,2DUT,2DUX,2DU,2DUP,2DURX,2DUR,2TIT,2TIX,2TI,2TIP,2TIEX,2TIE,2TIEP,2TAT,2TAX,2TA,2TAP,
      2TUOT,2TUOX,2TUO,2TUOP,2TOT,2TOX,2TO,2TOP,2TEX,2TE,2TEP,2TUT,2TUX,2TU,2TUP,2TURX,2TUR,2DDIT,
      2DDIX,2DDI,2DDIP,2DDIEX,2DDIE,2DDIEP,2DDAT,2DDAX,2DDA,2DDAP,2DDUOX,2DDUO,2DDUOP,2DDOT,2DDOX,
      2DDO,2DDOP,2DDEX,2DDE,2DDEP,2DDUT,2DDUX,2DDU,2DDUP,2DDURX,2DDUR,2NDIT,2NDIX,2NDI,2NDIP,
      2NDIEX,2NDIE,2NDAT,2NDAX,2NDA,2NDAP,2NDOT,2NDOX,2NDO,2NDOP,2NDEX,2NDE,2NDEP,2NDUT,2NDUX,2NDU,
      2NDUP,2NDURX,2NDUR,2HNIT,2HNIX,2HNI,2HNIP,2HNIET,2HNIEX,2HNIE,2HNIEP,2HNAT,2HNAX,2HNA,2HNAP,
      2HNUOX,2HNUO,2HNOT,2HNOX,2HNOP,2HNEX,2HNE,2HNEP,2HNUT,2NIT,2NIX,2NI,2NIP,2NIEX,2NIE,2NIEP,
      2NAX,2NA,2NAP,2NUOX,2NUO,2NUOP,2NOT,2NOX,2NO,2NOP,2NEX,2NE,2NEP,2NUT,2NUX,2NU,2NUP,2NURX,
      2NUR,2HLIT,2HLIX,2HLI,2HLIP,2HLIEX,2HLIE,2HLIEP,2HLAT,2HLAX,2HLA,2HLAP,2HLUOX,2HLUO,2HLUOP,
      2HLOX,2HLO,2HLOP,2HLEX,2HLE,2HLEP,2HLUT,2HLUX,2HLU,2HLUP,2HLURX,2HLUR,2HLYT,2HLYX,2HLY,2HLYP,
      2HLYRX,2HLYR,2LIT,2LIX,2LI,2LIP,2LIET,2LIEX,2LIE,2LIEP,2LAT,2LAX,2LA,2LAP,2LUOT,2LUOX,2LUO,
      2LUOP,2LOT,2LOX,2LO,2LOP,2LEX,2LE,2LEP,2LUT,2LUX,2LU,2LUP,2LURX,2LUR,2LYT,2LYX,2LY,2LYP,
      2LYRX,2LYR,2GIT,2GIX,2GI,2GIP,2GIET,2GIEX,2GIE,2GIEP,2GAT,2GAX,2GA,2GAP,2GUOT,2GUOX,2GUO,
      2GUOP,2GOT,2GOX,2GO,2GOP,2GET,2GEX,2GE,2GEP,2GUT,2GUX,2GU,2GUP,2GURX,2GUR,2KIT,2KIX,2KI,2KIP,
      2KIEX,2KIE,2KIEP,2KAT,2KAX,2KA,2KAP,2KUOX,2KUO,2KUOP,2KOT,2KOX,2KO,2KOP,2KET,2KEX,2KE,2KEP,
      2KUT,2KUX,2KU,2KUP,2KURX,2KUR,2GGIT,2GGIX,2GGI,2GGIEX,2GGIE,2GGIEP,2GGAT,2GGAX,2GGA,2GGAP,
      2GGUOT,2GGUOX,2GGUO,2GGUOP,2GGOT,2GGOX,2GGO,2GGOP,2GGET,2GGEX,2GGE,2GGEP,2GGUT,2GGUX,2GGU,
      2GGUP,2GGURX,2GGUR,2MGIEX,2MGIE,2MGAT,2MGAX,2MGA,2MGAP,2MGUOX,2MGUO,2MGUOP,2MGOT,2MGOX,2MGO,
      2MGOP,2MGEX,2MGE,2MGEP,2MGUT,2MGUX,2MGU,2MGUP,2MGURX,2MGUR,2HXIT,2HXIX,2HXI,2HXIP,2HXIET,
      2HXIEX,2HXIE,2HXIEP,2HXAT,2HXAX,2HXA,2HXAP,2HXUOT,2HXUOX,2HXUO,2HXUOP,2HXOT,2HXOX,2HXO,2HXOP,
      2HXEX,2HXE,2HXEP,2NGIEX,2NGIE,2NGIEP,2NGAT,2NGAX,2NGA,2NGAP,2NGUOT,2NGUOX,2NGUO,2NGOT,2NGOX,
      2NGO,2NGOP,2NGEX,2NGE,2NGEP,2HIT,2HIEX,2HIE,2HAT,2HAX,2HA,2HAP,2HUOT,2HUOX,2HUO,2HUOP,2HOT,
      2HOX,2HO,2HOP,2HEX,2HE,2HEP,2WAT,2WAX,2WA,2WAP,2WUOX,2WUO,2WUOP,2WOX,2WO,2WOP,2WEX,2WE,2WEP,
      2ZIT,2ZIX,2ZI,2ZIP,2ZIEX,2ZIE,2ZIEP,2ZAT,2ZAX,2ZA,2ZAP,2ZUOX,2ZUO,2ZUOP,2ZOT,2ZOX,2ZO,2ZOP,
      2ZEX,2ZE,2ZEP,2ZUT,2ZUX,2ZU,2ZUP,2ZURX,2ZUR,2ZYT,2ZYX,2ZY,2ZYP,2ZYRX,2ZYR,2CIT,2CIX,2CI,2CIP,
      2CIET,2CIEX,2CIE,2CIEP,2CAT,2CAX,2CA,2CAP,2CUOX,2CUO,2CUOP,2COT,2COX,2CO,2COP,2CEX,2CE,2CEP,
      2CUT,2CUX,2CU,2CUP,2CURX,2CUR,2CYT,2CYX,2CY,2CYP,2CYRX,2CYR,2ZZIT,2ZZIX,2ZZI,2ZZIP,2ZZIET,
      2ZZIEX,2ZZIE,2ZZIEP,2ZZAT,2ZZAX,2ZZA,2ZZAP,2ZZOX,2ZZO,2ZZOP,2ZZEX,2ZZE,2ZZEP,2ZZUX,2ZZU,
      2ZZUP,2ZZURX,2ZZUR,2ZZYT,2ZZYX,2ZZY,2ZZYP,2ZZYRX,2ZZYR,2NZIT,2NZIX,2NZI,2NZIP,2NZIEX,2NZIE,
      2NZIEP,2NZAT,2NZAX,2NZA,2NZAP,2NZUOX,2NZUO,2NZOX,2NZOP,2NZEX,2NZE,2NZUX,2NZU,2NZUP,2NZURX,
      2NZUR,2NZYT,2NZYX,2NZY,2NZYP,2NZYRX,2NZYR,2SIT,2SIX,2SI,2SIP,2SIEX,2SIE,2SIEP,2SAT,2SAX,2SA,
      2SAP,2SUOX,2SUO,2SUOP,2SOT,2SOX,2SO,2SOP,2SEX,2SE,2SEP,2SUT,2SUX,2SU,2SUP,2SURX,2SUR,2SYT,
      2SYX,2SY,2SYP,2SYRX,2SYR,2SSIT,2SSIX,2SSI,2SSIP,2SSIEX,2SSIE,2SSIEP,2SSAT,2SSAX,2SSA,2SSAP,
      2SSOT,2SSOX,2SSO,2SSOP,2SSEX,2SSE,2SSEP,2SSUT,2SSUX,2SSU,2SSUP,2SSYT,2SSYX,2SSY,2SSYP,2SSYRX,
      2SSYR,2ZHAT,2ZHAX,2ZHA,2ZHAP,2ZHUOX,2ZHUO,2ZHUOP,2ZHOT,2ZHOX,2ZHO,2ZHOP,2ZHET,2ZHEX,2ZHE,
      2ZHEP,2ZHUT,2ZHUX,2ZHU,2ZHUP,2ZHURX,2ZHUR,2ZHYT,2ZHYX,2ZHY,2ZHYP,2ZHYRX,2ZHYR,2CHAT,2CHAX,
      2CHA,2CHAP,2CHUOT,2CHUOX,2CHUO,2CHUOP,2CHOT,2CHOX,2CHO,2CHOP,2CHET,2CHEX,2CHE,2CHEP,2CHUX,
      2CHU,2CHUP,2CHURX,2CHUR,2CHYT,2CHYX,2CHY,2CHYP,2CHYRX,2CHYR,2RRAX,2RRA,2RRUOX,2RRUO,2RROT,
      2RROX,2RRO,2RROP,2RRET,2RREX,2RRE,2RREP,2RRUT,2RRUX,2RRU,2RRUP,2RRURX,2RRUR,2RRYT,2RRYX,2RRY,
      2RRYP,2RRYRX,2RRYR,2NRAT,2NRAX,2NRA,2NRAP,2NROX,2NRO,2NROP,2NRET,2NREX,2NRE,2NREP,2NRUT,
      2NRUX,2NRU,2NRUP,2NRURX,2NRUR,2NRYT,2NRYX,2NRY,2NRYP,2NRYRX,2NRYR,2SHAT,2SHAX,2SHA,2SHAP,
      2SHUOX,2SHUO,2SHUOP,2SHOT,2SHOX,2SHO,2SHOP,2SHET,2SHEX,2SHE,2SHEP,2SHUT,2SHUX,2SHU,2SHUP,
      2SHURX,2SHUR,2SHYT,2SHYX,2SHY,2SHYP,2SHYRX,2SHYR,2RAT,2RAX,2RA,2RAP,2RUOX,2RUO,2RUOP,2ROT,
      2ROX,2RO,2ROP,2REX,2RE,2REP,2RUT,2RUX,2RU,2RUP,2RURX,2RUR,2RYT,2RYX,2RY,2RYP,2RYRX,2RYR,2JIT,
      2JIX,2JI,2JIP,2JIET,2JIEX,2JIE,2JIEP,2JUOT,2JUOX,2JUO,2JUOP,2JOT,2JOX,2JO,2JOP,2JUT,2JUX,2JU,
      2JUP,2JURX,2JUR,2JYT,2JYX,2JY,2JYP,2JYRX,2JYR,2QIT,2QIX,2QI,2QIP,2QIET,2QIEX,2QIE,2QIEP,
      2QUOT,2QUOX,2QUO,2QUOP,2QOT,2QOX,2QO,2QOP,2QUT,2QUX,2QU,2QUP,2QURX,2QUR,2QYT,2QYX,2QY,2QYP,
      2QYRX,2QYR,2JJIT,2JJIX,2JJI,2JJIP,2JJIET,2JJIEX,2JJIE,2JJIEP,2JJUOX,2JJUO,2JJUOP,2JJOT,2JJOX,
      2JJO,2JJOP,2JJUT,2JJUX,2JJU,2JJUP,2JJURX,2JJUR,2JJYT,2JJYX,2JJY,2JJYP,2NJIT,2NJIX,2NJI,2NJIP,
      2NJIET,2NJIEX,2NJIE,2NJIEP,2NJUOX,2NJUO,2NJOT,2NJOX,2NJO,2NJOP,2NJUX,2NJU,2NJUP,2NJURX,2NJUR,
      2NJYT,2NJYX,2NJY,2NJYP,2NJYRX,2NJYR,2NYIT,2NYIX,2NYI,2NYIP,2NYIET,2NYIEX,2NYIE,2NYIEP,2NYUOX,
      2NYUO,2NYUOP,2NYOT,2NYOX,2NYO,2NYOP,2NYUT,2NYUX,2NYU,2NYUP,2XIT,2XIX,2XI,2XIP,2XIET,2XIEX,
      2XIE,2XIEP,2XUOX,2XUO,2XOT,2XOX,2XO,2XOP,2XYT,2XYX,2XY,2XYP,2XYRX,2XYR,2YIT,2YIX,2YI,2YIP,
      2YIET,2YIEX,2YIE,2YIEP,2YUOT,2YUOX,2YUO,2YUOP,2YOT,2YOX,2YO,2YOP,2YUT,2YUX,2YU,2YUP,2YURX,
      2YUR,2YYT,2YYX,2YY,2YYP,2YYRX,2YYR"),
    (42128, "0YI RADICAL QOT,2LI,2KIT,2NYIP,2CYP,2SSI,2GGOP,2GEP,2MI,2HXIT,2LYR,2BBUT,2MOP,2YO,
      2PUT,2HXUO,2TAT,2GA,2ZUP,2CYT,2DDUR,2BUR,2GGUO,2NYOP,2TU,2OP,2JJUT,2ZOT,2PYT,2HMO,2YIT,2VUR,
      2SHY,2VEP,2ZA,2JO,2NZUP,2JJY,2GOT,2JJIE,2WO,2DU,2SHUR,2LIE,2CY,2CUOP,2CIP,2HXOP,2SHAT,2ZUR,
      2SHOP,2CHE,2ZZIET,2NBIE,2KE"),
    (42192, "0LISU LETTER BA,2PA,2PHA,2DA,2TA,2THA,2GA,2KA,2KHA,2JA,2CA,2CHA,2DZA,2TSA,2TSHA,2MA,
      2NA,2LA,2SA,2ZHA,2ZA,2NGA,2HA,2XA,2HHA,2FA,2WA,2SHA,2YA,2GHA,2A,2AE,2E,2EU,2I,2O,2U,2UE,2UH,
      2OE,2TONE MYA TI,3NA PO,3MYA CYA,4BO,4NA,4JEU,1PUNCTUATION COMMA,2FULL STOP,0VAI SYLLABLE EE,
      2EEN,2HEE,2WEE,2WEEN,2PEE,2BHEE,2BEE,2MBEE,2KPEE,2MGBEE,2GBEE,2FEE,2VEE,2TEE,2THEE,2DHEE,
      2DHHEE,2LEE,2REE,2DEE,2NDEE,2SEE,2SHEE,2ZEE,2ZHEE,2CEE,2JEE,2NJEE,2YEE,2KEE,2NGGEE,2GEE,2MEE,
      2NEE,2NYEE,2I,2IN,2HI,2HIN,2WI,2WIN,2PI,2BHI,2BI,2MBI,2KPI,2MGBI,2GBI,2FI,2VI,2TI,2THI,2DHI,
      2DHHI,2LI,2RI,2DI,2NDI,2SI,2SHI,2ZI,2ZHI,2CI,2JI,2NJI,2YI,2KI,2NGGI,2GI,2MI,2NI,2NYI,2A,2AN,
      2NGAN,2HA,2HAN,2WA,2WAN,2PA,2BHA,2BA,2MBA,2KPA,2KPAN,2MGBA,2GBA,2FA,2VA,2TA,2THA,2DHA,2DHHA,
      2LA,2RA,2DA,2NDA,2SA,2SHA,2ZA,2ZHA,2CA,2JA,2NJA,2YA,2KA,2KAN,2NGGA,2GA,2MA,2NA,2NYA,2OO,2OON,
      2HOO,2WOO,2WOON,2POO,2BHOO,2BOO,2MBOO,2KPOO,2MGBOO,2GBOO,2FOO,2VOO,2TOO,2THOO,2DHOO,2DHHOO,
      2LOO,2ROO,2DOO,2NDOO,2SOO,2SHOO,2ZOO,2ZHOO,2COO,2JOO,2NJOO,2YOO,2KOO,2NGGOO,2GOO,2MOO,2NOO,
      2NYOO,2U,2UN,2HU,2HUN,2WU,2WUN,2PU,2BHU,2BU,2MBU,2KPU,2MGBU,2GBU,2FU,2VU,2TU,2THU,2DHU,2DHHU,
      2LU,2RU,2DU,2NDU,2SU,2SHU,2ZU,2ZHU,2CU,2JU,2NJU,2YU,2KU,2NGGU,2GU,2MU,2NU,2NYU,2O,2ON,2NGON,
      2HO,2HON,2WO,2WON,2PO,2BHO,2BO,2MBO,2KPO,2MGBO,2GBO,2GBON,2FO,2VO,2TO,2THO,2DHO,2DHHO,2LO,
      2RO,2DO,2NDO,2SO,2SHO,2ZO,2ZHO,2CO,2JO,2NJO,2YO,2KO,2NGGO,2GO,2MO,2NO,2NYO,2E,2EN,2NGEN,2HE,
      2HEN,2WE,2WEN,2PE,2BHE,2BE,2MBE,2KPE,2KPEN,2MGBE,2GBE,2GBEN,2FE,2VE,2TE,2THE,2DHE,2DHHE,2LE,
      2RE,2DE,2NDE,2SE,2SHE,2ZE,2ZHE,2CE,2JE,2NJE,2YE,2KE,2NGGE,2NGGEN,2GE,2GEN,2ME,2NE,2NYE,2NG,
      2LENGTHENER,1COMMA,1FULL STOP,1QUESTION MARK,1SYLLABLE NDOLE FA,3KA,3SOO,1SYMBOL FEENG,
      2KEENG,2TING,2NII,2BANG,2FAA,2TAA,2DANG,2DOONG,2KUNG,2TONG,2DO-O,2JONG,1DIGIT ZERO,2ONE,2TWO,
      2THREE,2FOUR,2FIVE,2SIX,2SEVEN,2EIGHT,2NINE,1SYLLABLE NDOLE MA,3DO"),
    (42560, "0CYRILLIC CAPITAL LETTER ZEMLYA,1SMALL LETTER ZEMLYA,1CAPITAL LETTER DZELO,
      1SMALL LETTER DZELO,1CAPITAL LETTER REVERSED DZE,1SMALL LETTER REVERSED DZE,
      1CAPITAL LETTER IOTA,1SMALL LETTER IOTA,1CAPITAL LETTER DJERV,1SMALL LETTER DJERV,
      1CAPITAL LETTER MONOGRAPH UK,1SMALL LETTER MONOGRAPH UK,1CAPITAL LETTER BROAD OMEGA,
      1SMALL LETTER BROAD OMEGA,1CAPITAL LETTER NEUTRAL YER,1SMALL LETTER NEUTRAL YER,
      1CAPITAL LETTER YERU WITH BACK YER,1SMALL LETTER YERU WITH BACK YER,
      1CAPITAL LETTER IOTIFIED YAT,1SMALL LETTER IOTIFIED YAT,1CAPITAL LETTER REVERSED YU,
      1SMALL LETTER REVERSED YU,1CAPITAL LETTER IOTIFIED A,1SMALL LETTER IOTIFIED A,
      1CAPITAL LETTER CLOSED LITTLE YUS,1SMALL LETTER CLOSED LITTLE YUS,
      1CAPITAL LETTER BLENDED YUS,1SMALL LETTER BLENDED YUS,
      1CAPITAL LETTER IOTIFIED CLOSED LITTLE YUS,1SMALL LETTER IOTIFIED CLOSED LITTLE YUS,
      1CAPITAL LETTER YN,1SMALL LETTER YN,1CAPITAL LETTER REVERSED TSE,1SMALL LETTER REVERSED TSE,
      1CAPITAL LETTER SOFT DE,1SMALL LETTER SOFT DE,1CAPITAL LETTER SOFT EL,1SMALL LETTER SOFT EL,
      1CAPITAL LETTER SOFT EM,1SMALL LETTER SOFT EM,1CAPITAL LETTER MONOCULAR O,
      1SMALL LETTER MONOCULAR O,1CAPITAL LETTER BINOCULAR O,1SMALL LETTER BINOCULAR O,
      1CAPITAL LETTER DOUBLE MONOCULAR O,1SMALL LETTER DOUBLE MONOCULAR O,1LETTER MULTIOCULAR O,
      0COMBINING CYRILLIC VZMET,2TEN MILLIONS SIGN,2HUNDRED MILLIONS SIGN,2THOUSAND MILLIONS SIGN,
      0SLAVONIC ASTERISK,0COMBINING CYRILLIC LETTER UKRAINIAN IE,3I,3YI,3U,3HARD SIGN,3YERU,
      3SOFT SIGN,3OMEGA,2KAVYKA,2PAYEROK,0CYRILLIC KAVYKA,1PAYEROK,1CAPITAL LETTER DWE,
      1SMALL LETTER DWE,1CAPITAL LETTER DZWE,1SMALL LETTER DZWE,1CAPITAL LETTER ZHWE,
      1SMALL LETTER ZHWE,1CAPITAL LETTER CCHE,1SMALL LETTER CCHE,1CAPITAL LETTER DZZE,
      1SMALL LETTER DZZE,1CAPITAL LETTER TE WITH MIDDLE HOOK,1SMALL LETTER TE WITH MIDDLE HOOK,
      1CAPITAL LETTER TWE,1SMALL LETTER TWE,1CAPITAL LETTER TSWE,1SMALL LETTER TSWE,
      1CAPITAL LETTER TSSE,1SMALL LETTER TSSE,1CAPITAL LETTER TCHE,1SMALL LETTER TCHE,
      1CAPITAL LETTER HWE,1SMALL LETTER HWE,1CAPITAL LETTER SHWE,1SMALL LETTER SHWE,
      1CAPITAL LETTER DOUBLE O,1SMALL LETTER DOUBLE O,1CAPITAL LETTER CROSSED O,
      1SMALL LETTER CROSSED O,0MODIFIER LETTER CYRILLIC HARD SIGN,3SOFT SIGN,
      0COMBINING CYRILLIC LETTER EF,3IOTIFIED E,0BAMUM LETTER A,2KA,2U,2KU,2EE,2REE,2TAE,2O,2NYI,
      2I,2LA,2PA,2RII,2RIEE,2LEEEE,2MEEEE,2TAA,2NDAA,2NJAEM,2M,2SUU,2MU,2SHII,2SI,2SHEUX,2SEUX,
      2KYEE,2KET,2NUAE,2NU,2NJUAE,2YOQ,2SHU,2YUQ,2YA,2NSHA,2KEUX,2PEUX,2NJEE,2NTEE,2PUE,2WUE,2PEE,
      2FEE,2RU,2LU,2MI,2NI,2REUX,2RAE,2KEN,2NGKWAEN,2NGGA,2NGA,2SHO,2PUAE,2FU,2FOM,2WA,2NA,2LI,2PI,
      2LOQ,2KO,2MBEN,2REN,2MEN,2MA,2TI,2KI,2MO,2MBAA,2TET,2KPA,2TEN,2NTUU,2SAMBA,2FAAMAE,2KOVUU,
      2KOGHOM,1COMBINING MARK KOQNDON,3TUKWENTIS,1NJAEMLI,1FULL STOP,1COLON,1COMMA,1SEMICOLON,
      1QUESTION MARK"),
    (42752, "0MODIFIER LETTER CHINESE TONE YIN PING,4YANG PING,4YIN SHANG,4YANG SHANG,4YIN QU,
      4YANG QU,4YIN RU,4YANG RU,2EXTRA-HIGH DOTTED TONE BAR,2HIGH DOTTED TONE BAR,
      2MID DOTTED TONE BAR,2LOW DOTTED TONE BAR,2EXTRA-LOW DOTTED TONE BAR,
      3HIGH DOTTED LEFT-STEM TONE BAR,2HIGH DOTTED LEFT-STEM TONE BAR,
      2MID DOTTED LEFT-STEM TONE BAR,2LOW DOTTED LEFT-STEM TONE BAR,
      2EXTRA-LOW DOTTED LEFT-STEM TONE BAR,3HIGH LEFT-STEM TONE BAR,2HIGH LEFT-STEM TONE BAR,
      2MID LEFT-STEM TONE BAR,2LOW LEFT-STEM TONE BAR,2EXTRA-LOW LEFT-STEM TONE BAR,
      2DOT VERTICAL BAR,3SLASH,3HORIZONTAL BAR,2LOWER RIGHT CORNER ANGLE,2RAISED UP ARROW,
      3DOWN ARROW,3EXCLAMATION MARK,3INVERTED EXCLAMATION MARK,2LOW INVERTED EXCLAMATION MARK,
      2STRESS AND HIGH TONE,4LOW TONE,0LATIN CAPITAL LETTER EGYPTOLOGICAL ALEF,
      1SMALL LETTER EGYPTOLOGICAL ALEF,1CAPITAL LETTER EGYPTOLOGICAL AIN,
      1SMALL LETTER EGYPTOLOGICAL AIN,1CAPITAL LETTER HENG,1SMALL LETTER HENG,1CAPITAL LETTER TZ,
      1SMALL LETTER TZ,1CAPITAL LETTER TRESILLO,1SMALL LETTER TRESILLO,1CAPITAL LETTER CUATRILLO,
      1SMALL LETTER CUATRILLO,1CAPITAL LETTER CUATRILLO WITH COMMA,
      1SMALL LETTER CUATRILLO WITH COMMA,1LETTER SMALL CAPITAL F,4S,1CAPITAL LETTER AA,
      1SMALL LETTER AA,1CAPITAL LETTER AO,1SMALL LETTER AO,1CAPITAL LETTER AU,1SMALL LETTER AU,
      1CAPITAL LETTER AV,1SMALL LETTER AV,1CAPITAL LETTER AV WITH HORIZONTAL BAR,
      1SMALL LETTER AV WITH HORIZONTAL BAR,1CAPITAL LETTER AY,1SMALL LETTER AY,
      1CAPITAL LETTER REVERSED C WITH DOT,1SMALL LETTER REVERSED C WITH DOT,
      1CAPITAL LETTER K WITH STROKE,1SMALL LETTER K WITH STROKE,
      1CAPITAL LETTER K WITH DIAGONAL STROKE,1SMALL LETTER K WITH DIAGONAL STROKE,
      1CAPITAL LETTER K WITH STROKE AND DIAGONAL STROKE,
      1SMALL LETTER K WITH STROKE AND DIAGONAL STROKE,1CAPITAL LETTER BROKEN L,
      1SMALL LETTER BROKEN L,1CAPITAL LETTER L WITH HIGH STROKE,1SMALL LETTER L WITH HIGH STROKE,
      1CAPITAL LETTER O WITH LONG STROKE OVERLAY,1SMALL LETTER O WITH LONG STROKE OVERLAY,
      1CAPITAL LETTER O WITH LOOP,1SMALL LETTER O WITH LOOP,1CAPITAL LETTER OO,1SMALL LETTER OO,
      1CAPITAL LETTER P WITH STROKE THROUGH DESCENDER,
      1SMALL LETTER P WITH STROKE THROUGH DESCENDER,1CAPITAL LETTER P WITH FLOURISH,
      1SMALL LETTER P WITH FLOURISH,1CAPITAL LETTER P WITH SQUIRREL TAIL,
      1SMALL LETTER P WITH SQUIRREL TAIL,1CAPITAL LETTER Q WITH STROKE THROUGH DESCENDER,
      1SMALL LETTER Q WITH STROKE THROUGH DESCENDER,1CAPITAL LETTER Q WITH DIAGONAL STROKE,
      1SMALL LETTER Q WITH DIAGONAL STROKE,1CAPITAL LETTER R ROTUNDA,1SMALL LETTER R ROTUNDA,
      1CAPITAL LETTER RUM ROTUNDA,1SMALL LETTER RUM ROTUNDA,1CAPITAL LETTER V WITH DIAGONAL STROKE,
      1SMALL LETTER V WITH DIAGONAL STROKE,1CAPITAL LETTER VY,1SMALL LETTER VY,
      1CAPITAL LETTER VISIGOTHIC Z,1SMALL LETTER VISIGOTHIC Z,1CAPITAL LETTER THORN WITH STROKE,
      1SMALL LETTER THORN WITH STROKE,1CAPITAL LETTER THORN WITH STROKE THROUGH DESCENDER,
      1SMALL LETTER THORN WITH STROKE THROUGH DESCENDER,1CAPITAL LETTER VEND,1SMALL LETTER VEND,
      1CAPITAL LETTER ET,1SMALL LETTER ET,1CAPITAL LETTER IS,1SMALL LETTER IS,1CAPITAL LETTER CON,
      1SMALL LETTER CON,0MODIFIER LETTER US,0LATIN SMALL LETTER DUM,3LUM,3MUM,3NUM,3RUM,
      1LETTER SMALL CAPITAL RUM,1SMALL LETTER TUM,3UM,1CAPITAL LETTER INSULAR D,
      1SMALL LETTER INSULAR D,1CAPITAL LETTER INSULAR F,1SMALL LETTER INSULAR F,
      1CAPITAL LETTER INSULAR G,3TURNED INSULAR G,1SMALL LETTER TURNED INSULAR G,
      1CAPITAL LETTER TURNED L,1SMALL LETTER TURNED L,1CAPITAL LETTER INSULAR R,
      1SMALL LETTER INSULAR R,1CAPITAL LETTER INSULAR S,1SMALL LETTER INSULAR S,
      1CAPITAL LETTER INSULAR T,1SMALL LETTER INSULAR T,0MODIFIER LETTER LOW CIRCUMFLEX ACCENT,
      2COLON,2SHORT EQUALS SIGN,0LATIN CAPITAL LETTER SALTILLO,1SMALL LETTER SALTILLO,
      1CAPITAL LETTER TURNED H,1SMALL LETTER L WITH RETROFLEX HOOK AND BELT,
      1LETTER SINOLOGICAL DOT,1CAPITAL LETTER N WITH DESCENDER,1SMALL LETTER N WITH DESCENDER,
      1CAPITAL LETTER C WITH BAR,1SMALL LETTER C WITH BAR,5PALATAL HOOK,3H WITH PALATAL HOOK,
      1CAPITAL LETTER B WITH FLOURISH,1SMALL LETTER B WITH FLOURISH,1CAPITAL LETTER F WITH STROKE,
      1SMALL LETTER F WITH STROKE,1CAPITAL LETTER VOLAPUK AE,1SMALL LETTER VOLAPUK AE,
      1CAPITAL LETTER VOLAPUK OE,1SMALL LETTER VOLAPUK OE,1CAPITAL LETTER VOLAPUK UE,
      1SMALL LETTER VOLAPUK UE,1CAPITAL LETTER G WITH OBLIQUE STROKE,
      1SMALL LETTER G WITH OBLIQUE STROKE,1CAPITAL LETTER K WITH OBLIQUE STROKE,
      1SMALL LETTER K WITH OBLIQUE STROKE,1CAPITAL LETTER N WITH OBLIQUE STROKE,
      1SMALL LETTER N WITH OBLIQUE STROKE,1CAPITAL LETTER R WITH OBLIQUE STROKE,
      1SMALL LETTER R WITH OBLIQUE STROKE,1CAPITAL LETTER S WITH OBLIQUE STROKE,
      1SMALL LETTER S WITH OBLIQUE STROKE,1CAPITAL LETTER H WITH HOOK,3REVERSED OPEN E,3SCRIPT G,
      3L WITH BELT,3SMALL CAPITAL I,1LETTER SMALL CAPITAL Q,1CAPITAL LETTER TURNED K,4T,
      3J WITH CROSSED-TAIL,3CHI,3BETA,1SMALL LETTER BETA,1CAPITAL LETTER OMEGA,1SMALL LETTER OMEGA,
      1CAPITAL LETTER U WITH STROKE,1SMALL LETTER U WITH STROKE,1CAPITAL LETTER GLOTTAL A,
      1SMALL LETTER GLOTTAL A,1CAPITAL LETTER GLOTTAL I,1SMALL LETTER GLOTTAL I,
      1CAPITAL LETTER GLOTTAL U,1SMALL LETTER GLOTTAL U,1CAPITAL LETTER OLD POLISH O,
      1SMALL LETTER OLD POLISH O,1CAPITAL LETTER ANGLICANA W,1SMALL LETTER ANGLICANA W,
      1CAPITAL LETTER C WITH PALATAL HOOK,3S WITH HOOK,3Z WITH PALATAL HOOK,
      3D WITH SHORT STROKE OVERLAY,1SMALL LETTER D WITH SHORT STROKE OVERLAY,
      1CAPITAL LETTER S WITH SHORT STROKE OVERLAY,1SMALL LETTER S WITH SHORT STROKE OVERLAY"),
    (42960, "0LATIN CAPITAL LETTER CLOSED INSULAR G,1SMALL LETTER CLOSED INSULAR G"),
    (42963, "0LATIN SMALL LETTER DOUBLE THORN"),
    (42965, "0LATIN SMALL LETTER DOUBLE WYNN,1CAPITAL LETTER MIDDLE SCOTS S,
      1SMALL LETTER MIDDLE SCOTS S,1CAPITAL LETTER SIGMOID S,1SMALL LETTER SIGMOID S"),
    (42994, "0MODIFIER LETTER CAPITAL C,3F,3Q,0LATIN CAPITAL LETTER REVERSED HALF H,
      1SMALL LETTER REVERSED HALF H,1EPIGRAPHIC LETTER SIDEWAYS I,
      0MODIFIER LETTER CAPITAL H WITH STROKE,2SMALL LIGATURE OE,
      0LATIN LETTER SMALL CAPITAL TURNED M,1EPIGRAPHIC LETTER REVERSED F,4P,3INVERTED M,3I LONGA,
      3ARCHAIC M,0SYLOTI NAGRI LETTER A,3I,2SIGN DVISVARA,2LETTER U,3E,3O,2SIGN HASANTA,2LETTER KO,
      3KHO,3GO,3GHO,2SIGN ANUSVARA,2LETTER CO,3CHO,3JO,3JHO,3TTO,3TTHO,3DDO,3DDHO,3TO,3THO,3DO,
      3DHO,3NO,3PO,3PHO,3BO,3BHO,3MO,3RO,3LO,3RRO,3SO,3HO,2VOWEL SIGN A,4I,4U,4E,4OO,
      2POETRY MARK-1,42,43,44,2SIGN ALTERNATE HASANTA"),
    (43056, "0NORTH INDIC FRACTION ONE QUARTER,4HALF,3THREE QUARTERS,3ONE SIXTEENTH,4EIGHTH,
      3THREE SIXTEENTHS,2QUARTER MARK,2PLACEHOLDER MARK,2RUPEE MARK,2QUANTITY MARK"),
    (43072, "0PHAGS-PA LETTER KA,3KHA,3GA,3NGA,3CA,3CHA,3JA,3NYA,3TA,3THA,3DA,3NA,3PA,3PHA,3BA,3MA,
      3TSA,3TSHA,3DZA,3WA,3ZHA,3ZA,3SMALL A,3YA,3RA,3LA,3SHA,3SA,3HA,3A,3I,3U,3E,3O,3QA,3XA,3FA,
      3GGA,3EE,2SUBJOINED LETTER WA,4YA,2LETTER TTA,3TTHA,3DDA,3NNA,3ALTERNATE YA,3VOICELESS SHA,
      3VOICED HA,3ASPIRATED FA,2SUBJOINED LETTER RA,2SUPERFIXED LETTER RA,2LETTER CANDRABINDU,
      2SINGLE HEAD MARK,2DOUBLE HEAD MARK,2MARK SHAD,3DOUBLE SHAD"),
    (43136, "0SAURASHTRA SIGN ANUSVARA,2VISARGA,1LETTER A,2AA,2I,2II,2U,2UU,2VOCALIC R,3RR,3L,3LL,
      2E,2EE,2AI,2O,2OO,2AU,2KA,2KHA,2GA,2GHA,2NGA,2CA,2CHA,2JA,2JHA,2NYA,2TTA,2TTHA,2DDA,2DDHA,
      2NNA,2TA,2THA,2DA,2DHA,2NA,2PA,2PHA,2BA,2BHA,2MA,2YA,2RA,2LA,2VA,2SHA,2SSA,2SA,2HA,2LLA,
      1CONSONANT SIGN HAARU,1VOWEL SIGN AA,3I,3II,3U,3UU,3VOCALIC R,4RR,4L,4LL,3E,3EE,3AI,3O,3OO,
      3AU,1SIGN VIRAMA,2CANDRABINDU"),
    (43214, "0SAURASHTRA DANDA,1DOUBLE DANDA,1DIGIT ZERO,2ONE,2TWO,2THREE,2FOUR,2FIVE,2SIX,2SEVEN,
      2EIGHT,2NINE"),
    (43232, "0COMBINING DEVANAGARI DIGIT ZERO,3ONE,3TWO,3THREE,3FOUR,3FIVE,3SIX,3SEVEN,3EIGHT,
      3NINE,2LETTER A,3U,3KA,3NA,3PA,3RA,3VI,2SIGN AVAGRAHA,0DEVANAGARI SIGN SPACING CANDRABINDU,
      2CANDRABINDU VIRAMA,2DOUBLE CANDRABINDU VIRAMA,2CANDRABINDU TWO,3THREE,3AVAGRAHA,2PUSHPIKA,
      1GAP FILLER,1CARET,1HEADSTROKE,1SIGN SIDDHAM,1JAIN OM,1LETTER AY,1VOWEL SIGN AY,
      0KAYAH LI DIGIT ZERO,3ONE,3TWO,3THREE,3FOUR,3FIVE,3SIX,3SEVEN,3EIGHT,3NINE,2LETTER KA,3KHA,
      3GA,3NGA,3SA,3SHA,3ZA,3NYA,3TA,3HTA,3NA,3PA,3PHA,3MA,3DA,3BA,3RA,3YA,3LA,3WA,3THA,3HA,3VA,
      3CA,3A,3OE,3I,3OO,2VOWEL UE,3E,3U,3EE,3O,2TONE PLOPHU,3CALYA,3CALYA PLOPHU,2SIGN CWI,3SHYA,
      0REJANG LETTER KA,2GA,2NGA,2TA,2DA,2NA,2PA,2BA,2MA,2CA,2JA,2NYA,2SA,2RA,2LA,2YA,2WA,2HA,2MBA,
      2NGGA,2NDA,2NYJA,2A,1VOWEL SIGN I,3U,3E,3AI,3O,3AU,3EU,3EA,1CONSONANT SIGN NG,3N,3R,3H,
      1VIRAMA"),
    (43359, "0REJANG SECTION MARK,0HANGUL CHOSEONG TIKEUT-MIEUM,3PIEUP,3SIOS,3CIEUC,2RIEUL-KIYEOK,
      3SSANGKIYEOK,3TIKEUT,3SSANGTIKEUT,3MIEUM,3PIEUP,3SSANGPIEUP,3KAPYEOUNPIEUP,3SIOS,3CIEUC,
      3KHIEUKH,2MIEUM-KIYEOK,3TIKEUT,3SIOS,2PIEUP-SIOS-THIEUTH,3KHIEUKH,3HIEUH,2SSANGSIOS-PIEUP,
      2IEUNG-RIEUL,3HIEUH,2SSANGCIEUC-HIEUH,2SSANGTHIEUTH,2PHIEUPH-HIEUH,2HIEUH-SIOS,
      2SSANGYEORINHIEUH"),
    (43392, "0JAVANESE SIGN PANYANGGA,2CECAK,2LAYAR,2WIGNYAN,1LETTER A,2I KAWI,2I,2II,2U,2PA CEREK,
      2NGA LELET,3LELET RASWADI,2E,2AI,2O,2KA,2KA SASAK,3MURDA,2GA,2GA MURDA,2NGA,2CA,2CA MURDA,
      2JA,2NYA MURDA,2JA MAHAPRANA,2NYA,2TTA,2TTA MAHAPRANA,2DDA,2DDA MAHAPRANA,2NA MURDA,2TA,
      2TA MURDA,2DA,2DA MAHAPRANA,2NA,2PA,2PA MURDA,2BA,2BA MURDA,2MA,2YA,2RA,2RA AGUNG,2LA,2WA,
      2SA MURDA,3MAHAPRANA,2SA,2HA,1SIGN CECAK TELU,1VOWEL SIGN TARUNG,3TOLONG,3WULU,3WULU MELIK,
      3SUKU,3SUKU MENDUT,3TALING,3DIRGA MURE,3PEPET,1CONSONANT SIGN KERET,3PENGKAL,3CAKRA,1PANGKON,
      1LEFT RERENGGAN,1RIGHT RERENGGAN,1PADA ANDAP,2MADYA,2LUHUR,2WINDU,2PANGKAT,2LINGSA,2LUNGSI,
      2ADEG,2ADEG ADEG,2PISELEH,1TURNED PADA PISELEH"),
    (43471, "0JAVANESE PANGRANGKEP,1DIGIT ZERO,2ONE,2TWO,2THREE,2FOUR,2FIVE,2SIX,2SEVEN,2EIGHT,
      2NINE"),
    (43486, "0JAVANESE PADA TIRTA TUMETES,2ISEN-ISEN,0MYANMAR LETTER SHAN GHA,3CHA,3JHA,3NNA,3BHA,
      1SIGN SHAN SAW,1MODIFIER LETTER SHAN REDUPLICATION,1LETTER TAI LAING NYA,4FA,4GA,4GHA,4JA,
      4JHA,4DDA,4DDHA,4NNA,1TAI LAING DIGIT ZERO,4ONE,4TWO,4THREE,4FOUR,4FIVE,4SIX,4SEVEN,4EIGHT,
      4NINE,1LETTER TAI LAING LLA,4DA,4DHA,4BA,4BHA"),
    (43520, "0CHAM LETTER A,2I,2U,2E,2AI,2O,2KA,2KHA,2GA,2GHA,2NGUE,2NGA,2CHA,2CHHA,2JA,2JHA,2NHUE,
      2NHA,2NHJA,2TA,2THA,2DA,2DHA,2NUE,2NA,2DDA,2PA,2PPA,2PHA,2BA,2BHA,2MUE,2MA,2BBA,2YA,2RA,2LA,
      2VA,2SSA,2SA,2HA,1VOWEL SIGN AA,3I,3II,3EI,3U,3OE,3O,3AI,3AU,3UE,1CONSONANT SIGN YA,3RA,3LA,
      3WA"),
    (43584, "0CHAM LETTER FINAL K,3G,3NG,1CONSONANT SIGN FINAL NG,1LETTER FINAL CH,3T,3N,3P,3Y,3R,
      3L,3SS,1CONSONANT SIGN FINAL M,4H"),
    (43600, "0CHAM DIGIT ZERO,2ONE,2TWO,2THREE,2FOUR,2FIVE,2SIX,2SEVEN,2EIGHT,2NINE"),
    (43612, "0CHAM PUNCTUATION SPIRAL,2DANDA,2DOUBLE DANDA,2TRIPLE DANDA,0MYANMAR LETTER KHAMTI GA,
      3CA,3CHA,3JA,3JHA,3NYA,3TTA,3TTHA,3DDA,3DDHA,3DHA,3NA,3SA,3HA,3HHA,3FA,
      1MODIFIER LETTER KHAMTI REDUPLICATION,1LETTER KHAMTI XA,3ZA,3RA,1LOGOGRAM KHAMTI OAY,3QN,3HM,
      1SYMBOL AITON EXCLAMATION,3ONE,3TWO,1LETTER AITON RA,1SIGN PAO KAREN TONE,2TAI LAING TONE-2,
      55,1LETTER SHWE PALAUNG CHA,4SHA,0TAI VIET LETTER LOW KO,3HIGH KO,3LOW KHO,3HIGH KHO,
      3LOW KHHO,3HIGH KHHO,3LOW GO,3HIGH GO,3LOW NGO,3HIGH NGO,3LOW CO,3HIGH CO,3LOW CHO,3HIGH CHO,
      3LOW SO,3HIGH SO,3LOW NYO,3HIGH NYO,3LOW DO,3HIGH DO,3LOW TO,3HIGH TO,3LOW THO,3HIGH THO,
      3LOW NO,3HIGH NO,3LOW BO,3HIGH BO,3LOW PO,3HIGH PO,3LOW PHO,3HIGH PHO,3LOW FO,3HIGH FO,
      3LOW MO,3HIGH MO,3LOW YO,3HIGH YO,3LOW RO,3HIGH RO,3LOW LO,3HIGH LO,3LOW VO,3HIGH VO,3LOW HO,
      3HIGH HO,3LOW O,3HIGH O,2MAI KANG,2VOWEL AA,3I,3UE,3U,3E,3O,2MAI KHIT,2VOWEL IA,3UEA,3UA,
      3AUE,3AY,3AN,3AM,2TONE MAI EK,4NUENG,4THO,4SONG"),
    (43739, "0TAI VIET SYMBOL KON,3NUENG,3SAM,3HO HOI,3KOI KOI,0MEETEI MAYEK LETTER E,3O,3CHA,3NYA,
      3TTA,3TTHA,3DDA,3DDHA,3NNA,3SHA,3SSA,2VOWEL SIGN II,4UU,4AAI,4AU,4AAU,2CHEIKHAN,
      2AHANG KHUDAM,2ANJI,2SYLLABLE REPETITION MARK,2WORD REPETITION MARK,2VOWEL SIGN VISARGA,
      2VIRAMA"),
    (43777, "0ETHIOPIC SYLLABLE TTHU,2TTHI,2TTHAA,2TTHEE,2TTHE,2TTHO"),
    (43785, "0ETHIOPIC SYLLABLE DDHU,2DDHI,2DDHAA,2DDHEE,2DDHE,2DDHO"),
    (43793, "0ETHIOPIC SYLLABLE DZU,2DZI,2DZAA,2DZEE,2DZE,2DZO"),
    (43808, "0ETHIOPIC SYLLABLE CCHHA,2CCHHU,2CCHHI,2CCHHAA,2CCHHEE,2CCHHE,2CCHHO"),
    (43816, "0ETHIOPIC SYLLABLE BBA,2BBU,2BBI,2BBAA,2BBEE,2BBE,2BBO"),
    (43824, "0LATIN SMALL LETTER BARRED ALPHA,3A REVERSED-SCHWA,3BLACKLETTER E,3BARRED E,
      3E WITH FLOURISH,3LENIS F,3SCRIPT G WITH CROSSED-TAIL,3L WITH INVERTED LAZY S,
      5DOUBLE MIDDLE TILDE,5MIDDLE RING,3M WITH CROSSED-TAIL,3N WITH CROSSED-TAIL,
      3ENG WITH CROSSED-TAIL,3BLACKLETTER O,4O WITH STROKE,3OPEN O WITH STROKE,3INVERTED OE,
      3TURNED OE WITH STROKE,6HORIZONTAL STROKE,4O OPEN-O,6O WITH STROKE,3STIRRUP R,
      1LETTER SMALL CAPITAL R WITH RIGHT LEG,1SMALL LETTER R WITHOUT HANDLE,3DOUBLE R,
      3R WITH CROSSED-TAIL,3DOUBLE R WITH CROSSED-TAIL,3SCRIPT R,4R WITH RING,3BASELINE ESH,
      3U WITH SHORT RIGHT LEG,4BAR WITH SHORT RIGHT LEG,3UI,3TURNED UI,3U WITH LEFT HOOK,3CHI,
      3CHI WITH LOW RIGHT RING,6LEFT SERIF,3X WITH LOW RIGHT RING,5LONG LEFT LEG,
      7LEG AND LOW RIGHT RING,8WITH SERIF,3Y WITH SHORT RIGHT LEG,
      0MODIFIER BREVE WITH INVERTED BREVE,1LETTER SMALL HENG,3L WITH INVERTED LAZY S,5MIDDLE TILDE,
      3U WITH LEFT HOOK,0LATIN SMALL LETTER SAKHA YAT,3IOTIFIED E,3OPEN OE,3UO,3INVERTED ALPHA,
      0GREEK LETTER SMALL CAPITAL OMEGA,0LATIN SMALL LETTER DZ DIGRAPH WITH RETROFLEX HOOK,
      3TS DIGRAPH WITH RETROFLEX HOOK,3TURNED R WITH MIDDLE TILDE,0MODIFIER LETTER SMALL TURNED W,
      2LEFT TACK,2RIGHT TACK"),
    (43888, "0CHEROKEE SMALL LETTER A,3E,3I,3O,3U,3V,3GA,3KA,3GE,3GI,3GO,3GU,3GV,3HA,3HE,3HI,3HO,
      3HU,3HV,3LA,3LE,3LI,3LO,3LU,3LV,3MA,3ME,3MI,3MO,3MU,3NA,3HNA,3NAH,3NE,3NI,3NO,3NU,3NV,3QUA,
      3QUE,3QUI,3QUO,3QUU,3QUV,3SA,3S,3SE,3SI,3SO,3SU,3SV,3DA,3TA,3DE,3TE,3DI,3TI,3DO,3DU,3DV,3DLA,
      3TLA,3TLE,3TLI,3TLO,3TLU,3TLV,3TSA,3TSE,3TSI,3TSO,3TSU,3TSV,3WA,3WE,3WI,3WO,3WU,3WV,3YA,
      0MEETEI MAYEK LETTER KOK,3SAM,3LAI,3MIT,3PA,3NA,3CHIL,3TIL,3KHOU,3NGOU,3THOU,3WAI,3YANG,3HUK,
      3UN,3I,3PHAM,3ATIYA,3GOK,3JHAM,3RAI,3BA,3JIL,3DIL,3GHOU,3DHOU,3BHAM,3KOK LONSUM,3LAI LONSUM,
      3MIT LONSUM,3PA LONSUM,3NA LONSUM,3TIL LONSUM,3NGOU LONSUM,3I LONSUM,2VOWEL SIGN ONAP,4INAP,
      4ANAP,4YENAP,4SOUNAP,4UNAP,4CHEINAP,4NUNG,2CHEIKHEI,2LUM IYEK,2APUN IYEK"),
    (44016, "0MEETEI MAYEK DIGIT ZERO,3ONE,3TWO,3THREE,3FOUR,3FIVE,3SIX,3SEVEN,3EIGHT,3NINE"),
    (55216, "0HANGUL JUNGSEONG O-YEO,3O-I,2YO-A,3AE,3EO,2U-YEO,3I-I,2YU-AE,3O,2EU-A,3EO,3E,3O,
      2I-YA-O,3YAE,3YEO,3YE,3O-I,3YO,3YU,3I,2ARAEA-A,3E"),
    (55243, "0HANGUL JONGSEONG NIEUN-RIEUL,3CHIEUCH,2SSANGTIKEUT,2SSANGTIKEUT-PIEUP,2TIKEUT-PIEUP,
      3SIOS,3SIOS-KIYEOK,3CIEUC,3CHIEUCH,3THIEUTH,2RIEUL-SSANGKIYEOK,3KIYEOK-HIEUH,
      2SSANGRIEUL-KHIEUKH,2RIEUL-MIEUM-HIEUH,3PIEUP-TIKEUT,4PHIEUPH,3YESIEUNG,3YEORINHIEUH-HIEUH,
      2KAPYEOUNRIEUL,2MIEUM-NIEUN,3SSANGNIEUN,2SSANGMIEUM,2MIEUM-PIEUP-SIOS,3CIEUC,2PIEUP-TIKEUT,
      3RIEUL-PHIEUPH,3MIEUM,2SSANGPIEUP,2PIEUP-SIOS-TIKEUT,3CIEUC,3CHIEUCH,2SIOS-MIEUM,
      3KAPYEOUNPIEUP,2SSANGSIOS-KIYEOK,3TIKEUT,2SIOS-PANSIOS,3CIEUC,3CHIEUCH,3THIEUTH,3HIEUH,
      2PANSIOS-PIEUP,3KAPYEOUNPIEUP,2YESIEUNG-MIEUM,3HIEUH,2CIEUC-PIEUP,3SSANGPIEUP,2SSANGCIEUC,
      2PHIEUPH-SIOS,3THIEUTH"),
    (64256, "0LATIN SMALL LIGATURE FF,3FI,3FL,3FFI,3FFL,3LONG S T,3ST"),
    (64275, "0ARMENIAN SMALL LIGATURE MEN NOW,4ECH,4INI,3VEW NOW,3MEN XEH"),
    (64285, "0HEBREW LETTER YOD WITH HIRIQ,1POINT JUDEO-SPANISH VARIKA,
      1LIGATURE YIDDISH YOD YOD PATAH,1LETTER ALTERNATIVE AYIN,2WIDE ALEF,3DALET,3HE,3KAF,3LAMED,
      3FINAL MEM,3RESH,3TAV,2ALTERNATIVE PLUS SIGN,2SHIN WITH SHIN DOT,4SIN DOT,
      4DAGESH AND SHIN DOT,6SIN DOT,2ALEF WITH PATAH,4QAMATS,4MAPIQ,2BET WITH DAGESH,
      2GIMEL WITH DAGESH,2DALET WITH DAGESH,2HE WITH MAPIQ,2VAV WITH DAGESH,2ZAYIN WITH DAGESH"),
    (64312, "0HEBREW LETTER TET WITH DAGESH,2YOD WITH DAGESH,2FINAL KAF WITH DAGESH,
      2KAF WITH DAGESH,2LAMED WITH DAGESH"),
    (64318, "0HEBREW LETTER MEM WITH DAGESH"),
    (64320, "0HEBREW LETTER NUN WITH DAGESH,2SAMEKH WITH DAGESH"),
    (64323, "0HEBREW LETTER FINAL PE WITH DAGESH,2PE WITH DAGESH"),
    (64326, "0HEBREW LETTER TSADI WITH DAGESH,2QOF WITH DAGESH,2RESH WITH DAGESH,2SHIN WITH DAGESH,
      2TAV WITH DAGESH,2VAV WITH HOLAM,2BET WITH RAFE,2KAF WITH RAFE,2PE WITH RAFE,
      1LIGATURE ALEF LAMED,0ARABIC LETTER ALEF WASLA ISOLATED FORM,4FINAL FORM,2BEEH ISOLATED FORM,
      3FINAL FORM,3INITIAL FORM,3MEDIAL FORM,2PEH ISOLATED FORM,3FINAL FORM,3INITIAL FORM,
      3MEDIAL FORM,2BEHEH ISOLATED FORM,3FINAL FORM,3INITIAL FORM,3MEDIAL FORM,
      2TTEHEH ISOLATED FORM,3FINAL FORM,3INITIAL FORM,3MEDIAL FORM,2TEHEH ISOLATED FORM,
      3FINAL FORM,3INITIAL FORM,3MEDIAL FORM,2TTEH ISOLATED FORM,3FINAL FORM,3INITIAL FORM,
      3MEDIAL FORM,2VEH ISOLATED FORM,3FINAL FORM,3INITIAL FORM,3MEDIAL FORM,2PEHEH ISOLATED FORM,
      3FINAL FORM,3INITIAL FORM,3MEDIAL FORM,2DYEH ISOLATED FORM,3FINAL FORM,3INITIAL FORM,
      3MEDIAL FORM,2NYEH ISOLATED FORM,3FINAL FORM,3INITIAL FORM,3MEDIAL FORM,2TCHEH ISOLATED FORM,
      3FINAL FORM,3INITIAL FORM,3MEDIAL FORM,2TCHEHEH ISOLATED FORM,3FINAL FORM,3INITIAL FORM,
      3MEDIAL FORM,2DDAHAL ISOLATED FORM,3FINAL FORM,2DAHAL ISOLATED FORM,3FINAL FORM,
      2DUL ISOLATED FORM,3FINAL FORM,2DDAL ISOLATED FORM,3FINAL FORM,2JEH ISOLATED FORM,
      3FINAL FORM,2RREH ISOLATED FORM,3FINAL FORM,2KEHEH ISOLATED FORM,3FINAL FORM,3INITIAL FORM,
      3MEDIAL FORM,2GAF ISOLATED FORM,3FINAL FORM,3INITIAL FORM,3MEDIAL FORM,2GUEH ISOLATED FORM,
      3FINAL FORM,3INITIAL FORM,3MEDIAL FORM,2NGOEH ISOLATED FORM,3FINAL FORM,3INITIAL FORM,
      3MEDIAL FORM,2NOON GHUNNA ISOLATED FORM,4FINAL FORM,2RNOON ISOLATED FORM,3FINAL FORM,
      3INITIAL FORM,3MEDIAL FORM,2HEH WITH YEH ABOVE ISOLATED FORM,6FINAL FORM,3GOAL ISOLATED FORM,
      4FINAL FORM,4INITIAL FORM,4MEDIAL FORM,3DOACHASHMEE ISOLATED FORM,4FINAL FORM,4INITIAL FORM,
      4MEDIAL FORM,2YEH BARREE ISOLATED FORM,4FINAL FORM,4WITH HAMZA ABOVE ISOLATED FORM,
      7FINAL FORM,1SYMBOL DOT ABOVE,3BELOW,2TWO DOTS ABOVE,4BELOW,2THREE DOTS ABOVE,4BELOW,
      4POINTING DOWNWARDS ABOVE,6BELOW,2FOUR DOTS ABOVE,4BELOW,2DOUBLE VERTICAL BAR BELOW,
      2TWO DOTS VERTICALLY ABOVE,5BELOW,2RING,2SMALL TAH ABOVE,4BELOW,2WASLA ABOVE"),
    (64467, "0ARABIC LETTER NG ISOLATED FORM,3FINAL FORM,3INITIAL FORM,3MEDIAL FORM,
      2U ISOLATED FORM,3FINAL FORM,2OE ISOLATED FORM,3FINAL FORM,2YU ISOLATED FORM,3FINAL FORM,
      2U WITH HAMZA ABOVE ISOLATED FORM,2VE ISOLATED FORM,3FINAL FORM,2KIRGHIZ OE ISOLATED FORM,
      4FINAL FORM,3YU ISOLATED FORM,4FINAL FORM,2E ISOLATED FORM,3FINAL FORM,3INITIAL FORM,
      3MEDIAL FORM,2UIGHUR KAZAKH KIRGHIZ ALEF MAKSURA INITIAL FORM,7MEDIAL FORM,
      1LIGATURE YEH WITH HAMZA ABOVE WITH ALEF ISOLATED FORM,8FINAL FORM,7AE ISOLATED FORM,
      8FINAL FORM,7WAW ISOLATED FORM,8FINAL FORM,7U ISOLATED FORM,8FINAL FORM,7OE ISOLATED FORM,
      8FINAL FORM,7YU ISOLATED FORM,8FINAL FORM,7E ISOLATED FORM,8FINAL FORM,8INITIAL FORM,
      2UIGHUR KIRGHIZ YEH WITH HAMZA ABOVE WITH ALEF MAKSURA ISOLATED FORM,
      9ALEF MAKSURA FINAL FORM,9ALEF MAKSURA INITIAL FORM,1LETTER FARSI YEH ISOLATED FORM,
      4FINAL FORM,4INITIAL FORM,4MEDIAL FORM,
      1LIGATURE YEH WITH HAMZA ABOVE WITH JEEM ISOLATED FORM,7HAH ISOLATED FORM,
      7MEEM ISOLATED FORM,7ALEF MAKSURA ISOLATED FORM,7YEH ISOLATED FORM,
      2BEH WITH JEEM ISOLATED FORM,4HAH ISOLATED FORM,4KHAH ISOLATED FORM,4MEEM ISOLATED FORM,
      4ALEF MAKSURA ISOLATED FORM,4YEH ISOLATED FORM,2TEH WITH JEEM ISOLATED FORM,
      4HAH ISOLATED FORM,4KHAH ISOLATED FORM,4MEEM ISOLATED FORM,4ALEF MAKSURA ISOLATED FORM,
      4YEH ISOLATED FORM,2THEH WITH JEEM ISOLATED FORM,4MEEM ISOLATED FORM,
      4ALEF MAKSURA ISOLATED FORM,4YEH ISOLATED FORM,2JEEM WITH HAH ISOLATED FORM,
      4MEEM ISOLATED FORM,2HAH WITH JEEM ISOLATED FORM,4MEEM ISOLATED FORM,
      2KHAH WITH JEEM ISOLATED FORM,4HAH ISOLATED FORM,4MEEM ISOLATED FORM,
      2SEEN WITH JEEM ISOLATED FORM,4HAH ISOLATED FORM,4KHAH ISOLATED FORM,4MEEM ISOLATED FORM,
      2SAD WITH HAH ISOLATED FORM,4MEEM ISOLATED FORM,2DAD WITH JEEM ISOLATED FORM,
      4HAH ISOLATED FORM,4KHAH ISOLATED FORM,4MEEM ISOLATED FORM,2TAH WITH HAH ISOLATED FORM,
      4MEEM ISOLATED FORM,2ZAH WITH MEEM ISOLATED FORM,2AIN WITH JEEM ISOLATED FORM,
      4MEEM ISOLATED FORM,2GHAIN WITH JEEM ISOLATED FORM,4MEEM ISOLATED FORM,
      2FEH WITH JEEM ISOLATED FORM,4HAH ISOLATED FORM,4KHAH ISOLATED FORM,4MEEM ISOLATED FORM,
      4ALEF MAKSURA ISOLATED FORM,4YEH ISOLATED FORM,2QAF WITH HAH ISOLATED FORM,
      4MEEM ISOLATED FORM,4ALEF MAKSURA ISOLATED FORM,4YEH ISOLATED FORM,
      2KAF WITH ALEF ISOLATED FORM,4JEEM ISOLATED FORM,4HAH ISOLATED FORM,4KHAH ISOLATED FORM,
      4LAM ISOLATED FORM,4MEEM ISOLATED FORM,4ALEF MAKSURA ISOLATED FORM,4YEH ISOLATED FORM,
      2LAM WITH JEEM ISOLATED FORM,4HAH ISOLATED FORM,4KHAH ISOLATED FORM,4MEEM ISOLATED FORM,
      4ALEF MAKSURA ISOLATED FORM,4YEH ISOLATED FORM,2MEEM WITH JEEM ISOLATED FORM,
      4HAH ISOLATED FORM,4KHAH ISOLATED FORM,4MEEM ISOLATED FORM,4ALEF MAKSURA ISOLATED FORM,
      4YEH ISOLATED FORM,2NOON WITH JEEM ISOLATED FORM,4HAH ISOLATED FORM,4KHAH ISOLATED FORM,
      4MEEM ISOLATED FORM,4ALEF MAKSURA ISOLATED FORM,4YEH ISOLATED FORM,
      2HEH WITH JEEM ISOLATED FORM,4MEEM ISOLATED FORM,4ALEF MAKSURA ISOLATED FORM,
      4YEH ISOLATED FORM,2YEH WITH JEEM ISOLATED FORM,4HAH ISOLATED FORM,4KHAH ISOLATED FORM,
      4MEEM ISOLATED FORM,4ALEF MAKSURA ISOLATED FORM,4YEH ISOLATED FORM,
      2THAL WITH SUPERSCRIPT ALEF ISOLATED FORM,2REH WITH SUPERSCRIPT ALEF ISOLATED FORM,
      2ALEF MAKSURA WITH SUPERSCRIPT ALEF ISOLATED FORM,2SHADDA WITH DAMMATAN ISOLATED FORM,
      4KASRATAN ISOLATED FORM,4FATHA ISOLATED FORM,4DAMMA ISOLATED FORM,4KASRA ISOLATED FORM,
      4SUPERSCRIPT ALEF ISOLATED FORM,2YEH WITH HAMZA ABOVE WITH REH FINAL FORM,7ZAIN FINAL FORM,
      7MEEM FINAL FORM,7NOON FINAL FORM,7ALEF MAKSURA FINAL FORM,7YEH FINAL FORM,
      2BEH WITH REH FINAL FORM,4ZAIN FINAL FORM,4MEEM FINAL FORM,4NOON FINAL FORM,
      4ALEF MAKSURA FINAL FORM,4YEH FINAL FORM,2TEH WITH REH FINAL FORM,4ZAIN FINAL FORM,
      4MEEM FINAL FORM,4NOON FINAL FORM,4ALEF MAKSURA FINAL FORM,4YEH FINAL FORM,
      2THEH WITH REH FINAL FORM,4ZAIN FINAL FORM,4MEEM FINAL FORM,4NOON FINAL FORM,
      4ALEF MAKSURA FINAL FORM,4YEH FINAL FORM,2FEH WITH ALEF MAKSURA FINAL FORM,4YEH FINAL FORM,
      2QAF WITH ALEF MAKSURA FINAL FORM,4YEH FINAL FORM,2KAF WITH ALEF FINAL FORM,4LAM FINAL FORM,
      4MEEM FINAL FORM,4ALEF MAKSURA FINAL FORM,4YEH FINAL FORM,2LAM WITH MEEM FINAL FORM,
      4ALEF MAKSURA FINAL FORM,4YEH FINAL FORM,2MEEM WITH ALEF FINAL FORM,4MEEM FINAL FORM,
      2NOON WITH REH FINAL FORM,4ZAIN FINAL FORM,4MEEM FINAL FORM,4NOON FINAL FORM,
      4ALEF MAKSURA FINAL FORM,4YEH FINAL FORM,2ALEF MAKSURA WITH SUPERSCRIPT ALEF FINAL FORM,
      2YEH WITH REH FINAL FORM,4ZAIN FINAL FORM,4MEEM FINAL FORM,4NOON FINAL FORM,
      4ALEF MAKSURA FINAL FORM,4YEH FINAL FORM,4HAMZA ABOVE WITH JEEM INITIAL FORM,
      7HAH INITIAL FORM,7KHAH INITIAL FORM,7MEEM INITIAL FORM,7HEH INITIAL FORM,
      2BEH WITH JEEM INITIAL FORM,4HAH INITIAL FORM,4KHAH INITIAL FORM,4MEEM INITIAL FORM,
      4HEH INITIAL FORM,2TEH WITH JEEM INITIAL FORM,4HAH INITIAL FORM,4KHAH INITIAL FORM,
      4MEEM INITIAL FORM,4HEH INITIAL FORM,2THEH WITH MEEM INITIAL FORM,
      2JEEM WITH HAH INITIAL FORM,4MEEM INITIAL FORM,2HAH WITH JEEM INITIAL FORM,
      4MEEM INITIAL FORM,2KHAH WITH JEEM INITIAL FORM,4MEEM INITIAL FORM,
      2SEEN WITH JEEM INITIAL FORM,4HAH INITIAL FORM,4KHAH INITIAL FORM,4MEEM INITIAL FORM,
      2SAD WITH HAH INITIAL FORM,4KHAH INITIAL FORM,4MEEM INITIAL FORM,2DAD WITH JEEM INITIAL FORM,
      4HAH INITIAL FORM,4KHAH INITIAL FORM,4MEEM INITIAL FORM,2TAH WITH HAH INITIAL FORM,
      2ZAH WITH MEEM INITIAL FORM,2AIN WITH JEEM INITIAL FORM,4MEEM INITIAL FORM,
      2GHAIN WITH JEEM INITIAL FORM,4MEEM INITIAL FORM,2FEH WITH JEEM INITIAL FORM,
      4HAH INITIAL FORM,4KHAH INITIAL FORM,4MEEM INITIAL FORM,2QAF WITH HAH INITIAL FORM,
      4MEEM INITIAL FORM,2KAF WITH JEEM INITIAL FORM,4HAH INITIAL FORM,4KHAH INITIAL FORM,
      4LAM INITIAL FORM,4MEEM INITIAL FORM,2LAM WITH JEEM INITIAL FORM,4HAH INITIAL FORM,
      4KHAH INITIAL FORM,4MEEM INITIAL FORM,4HEH INITIAL FORM,2MEEM WITH JEEM INITIAL FORM,
      4HAH INITIAL FORM,4KHAH INITIAL FORM,4MEEM INITIAL FORM,2NOON WITH JEEM INITIAL FORM,
      4HAH INITIAL FORM,4KHAH INITIAL FORM,4MEEM INITIAL FORM,4HEH INITIAL FORM,
      2HEH WITH JEEM INITIAL FORM,4MEEM INITIAL FORM,4SUPERSCRIPT ALEF INITIAL FORM,
      2YEH WITH JEEM INITIAL FORM,4HAH INITIAL FORM,4KHAH INITIAL FORM,4MEEM INITIAL FORM,
      4HEH INITIAL FORM,4HAMZA ABOVE WITH MEEM MEDIAL FORM,7HEH MEDIAL FORM,
      2BEH WITH MEEM MEDIAL FORM,4HEH MEDIAL FORM,2TEH WITH MEEM MEDIAL FORM,4HEH MEDIAL FORM,
      2THEH WITH MEEM MEDIAL FORM,4HEH MEDIAL FORM,2SEEN WITH MEEM MEDIAL FORM,4HEH MEDIAL FORM,
      2SHEEN WITH MEEM MEDIAL FORM,4HEH MEDIAL FORM,2KAF WITH LAM MEDIAL FORM,4MEEM MEDIAL FORM,
      2LAM WITH MEEM MEDIAL FORM,2NOON WITH MEEM MEDIAL FORM,4HEH MEDIAL FORM,
      2YEH WITH MEEM MEDIAL FORM,4HEH MEDIAL FORM,2SHADDA WITH FATHA MEDIAL FORM,
      4DAMMA MEDIAL FORM,4KASRA MEDIAL FORM,2TAH WITH ALEF MAKSURA ISOLATED FORM,
      4YEH ISOLATED FORM,2AIN WITH ALEF MAKSURA ISOLATED FORM,4YEH ISOLATED FORM,
      2GHAIN WITH ALEF MAKSURA ISOLATED FORM,4YEH ISOLATED FORM,
      2SEEN WITH ALEF MAKSURA ISOLATED FORM,4YEH ISOLATED FORM,
      2SHEEN WITH ALEF MAKSURA ISOLATED FORM,4YEH ISOLATED FORM,
      2HAH WITH ALEF MAKSURA ISOLATED FORM,4YEH ISOLATED FORM,
      2JEEM WITH ALEF MAKSURA ISOLATED FORM,4YEH ISOLATED FORM,
      2KHAH WITH ALEF MAKSURA ISOLATED FORM,4YEH ISOLATED FORM,
      2SAD WITH ALEF MAKSURA ISOLATED FORM,4YEH ISOLATED FORM,2DAD WITH ALEF MAKSURA ISOLATED FORM,
      4YEH ISOLATED FORM,2SHEEN WITH JEEM ISOLATED FORM,4HAH ISOLATED FORM,4KHAH ISOLATED FORM,
      4MEEM ISOLATED FORM,4REH ISOLATED FORM,2SEEN WITH REH ISOLATED FORM,
      2SAD WITH REH ISOLATED FORM,2DAD WITH REH ISOLATED FORM,2TAH WITH ALEF MAKSURA FINAL FORM,
      4YEH FINAL FORM,2AIN WITH ALEF MAKSURA FINAL FORM,4YEH FINAL FORM,
      2GHAIN WITH ALEF MAKSURA FINAL FORM,4YEH FINAL FORM,2SEEN WITH ALEF MAKSURA FINAL FORM,
      4YEH FINAL FORM,2SHEEN WITH ALEF MAKSURA FINAL FORM,4YEH FINAL FORM,
      2HAH WITH ALEF MAKSURA FINAL FORM,4YEH FINAL FORM,2JEEM WITH ALEF MAKSURA FINAL FORM,
      4YEH FINAL FORM,2KHAH WITH ALEF MAKSURA FINAL FORM,4YEH FINAL FORM,
      2SAD WITH ALEF MAKSURA FINAL FORM,4YEH FINAL FORM,2DAD WITH ALEF MAKSURA FINAL FORM,
      4YEH FINAL FORM,2SHEEN WITH JEEM FINAL FORM,4HAH FINAL FORM,4KHAH FINAL FORM,
      4MEEM FINAL FORM,4REH FINAL FORM,2SEEN WITH REH FINAL FORM,2SAD WITH REH FINAL FORM,
      2DAD WITH REH FINAL FORM,2SHEEN WITH JEEM INITIAL FORM,4HAH INITIAL FORM,4KHAH INITIAL FORM,
      4MEEM INITIAL FORM,2SEEN WITH HEH INITIAL FORM,2SHEEN WITH HEH INITIAL FORM,
      2TAH WITH MEEM INITIAL FORM,2SEEN WITH JEEM MEDIAL FORM,4HAH MEDIAL FORM,4KHAH MEDIAL FORM,
      2SHEEN WITH JEEM MEDIAL FORM,4HAH MEDIAL FORM,4KHAH MEDIAL FORM,2TAH WITH MEEM MEDIAL FORM,
      2ZAH WITH MEEM MEDIAL FORM,2ALEF WITH FATHATAN FINAL FORM,5ISOLATED FORM,
      0ORNATE LEFT PARENTHESIS,1RIGHT PARENTHESIS,0ARABIC LIGATURE RAHIMAHU ALLAAH,
      2RADI ALLAAHU ANH,4ANHAA,4ANHUM,4ANHUMAA,4ANHUNNA,2SALLALLAAHU ALAYHI WA-AALIH,
      2ALAYHI AS-SALAAM,2ALAYHIM AS-SALAAM,2ALAYHIMAA AS-SALAAM,2ALAYHI AS-SALAATU WAS-SALAAM,
      2QUDDISA SIRRAH,2SALLALLAHU ALAYHI WAAALIHEE WA-SALLAM,2ALAYHAA AS-SALAAM,
      2TABAARAKA WA-TAAALAA,2RAHIMAHUM ALLAAH,2TEH WITH JEEM WITH MEEM INITIAL FORM,
      4HAH WITH JEEM FINAL FORM,7INITIAL FORM,6MEEM INITIAL FORM,4KHAH WITH MEEM INITIAL FORM,
      4MEEM WITH JEEM INITIAL FORM,6HAH INITIAL FORM,6KHAH INITIAL FORM,
      2JEEM WITH MEEM WITH HAH FINAL FORM,7INITIAL FORM,2HAH WITH MEEM WITH YEH FINAL FORM,
      6ALEF MAKSURA FINAL FORM,2SEEN WITH HAH WITH JEEM INITIAL FORM,4JEEM WITH HAH INITIAL FORM,
      6ALEF MAKSURA FINAL FORM,4MEEM WITH HAH FINAL FORM,7INITIAL FORM,6JEEM INITIAL FORM,
      6MEEM FINAL FORM,7INITIAL FORM,2SAD WITH HAH WITH HAH FINAL FORM,7INITIAL FORM,
      4MEEM WITH MEEM FINAL FORM,2SHEEN WITH HAH WITH MEEM FINAL FORM,7INITIAL FORM,
      4JEEM WITH YEH FINAL FORM,4MEEM WITH KHAH FINAL FORM,7INITIAL FORM,6MEEM FINAL FORM,
      7INITIAL FORM,2DAD WITH HAH WITH ALEF MAKSURA FINAL FORM,4KHAH WITH MEEM FINAL FORM,
      7INITIAL FORM,2TAH WITH MEEM WITH HAH FINAL FORM,7INITIAL FORM,6MEEM INITIAL FORM,
      6YEH FINAL FORM,2AIN WITH JEEM WITH MEEM FINAL FORM,4MEEM WITH MEEM FINAL FORM,7INITIAL FORM,
      6ALEF MAKSURA FINAL FORM,2GHAIN WITH MEEM WITH MEEM FINAL FORM,6YEH FINAL FORM,
      6ALEF MAKSURA FINAL FORM,2FEH WITH KHAH WITH MEEM FINAL FORM,7INITIAL FORM,
      2QAF WITH MEEM WITH HAH FINAL FORM,6MEEM FINAL FORM,2LAM WITH HAH WITH MEEM FINAL FORM,
      6YEH FINAL FORM,6ALEF MAKSURA FINAL FORM,4JEEM WITH JEEM INITIAL FORM,7FINAL FORM,
      4KHAH WITH MEEM FINAL FORM,7INITIAL FORM,4MEEM WITH HAH FINAL FORM,7INITIAL FORM,
      2MEEM WITH HAH WITH JEEM INITIAL FORM,6MEEM INITIAL FORM,6YEH FINAL FORM,
      4JEEM WITH HAH INITIAL FORM,6MEEM INITIAL FORM,4KHAH WITH JEEM INITIAL FORM,
      6MEEM INITIAL FORM"),
    (64914, "0ARABIC LIGATURE MEEM WITH JEEM WITH KHAH INITIAL FORM,
      2HEH WITH MEEM WITH JEEM INITIAL FORM,6MEEM INITIAL FORM,
      2NOON WITH HAH WITH MEEM INITIAL FORM,6ALEF MAKSURA FINAL FORM,4JEEM WITH MEEM FINAL FORM,
      7INITIAL FORM,6ALEF MAKSURA FINAL FORM,4MEEM WITH YEH FINAL FORM,6ALEF MAKSURA FINAL FORM,
      2YEH WITH MEEM WITH MEEM FINAL FORM,7INITIAL FORM,2BEH WITH KHAH WITH YEH FINAL FORM,
      2TEH WITH JEEM WITH YEH FINAL FORM,6ALEF MAKSURA FINAL FORM,4KHAH WITH YEH FINAL FORM,
      6ALEF MAKSURA FINAL FORM,4MEEM WITH YEH FINAL FORM,6ALEF MAKSURA FINAL FORM,
      2JEEM WITH MEEM WITH YEH FINAL FORM,4HAH WITH ALEF MAKSURA FINAL FORM,
      4MEEM WITH ALEF MAKSURA FINAL FORM,2SEEN WITH KHAH WITH ALEF MAKSURA FINAL FORM,
      2SAD WITH HAH WITH YEH FINAL FORM,2SHEEN WITH HAH WITH YEH FINAL FORM,
      2DAD WITH HAH WITH YEH FINAL FORM,2LAM WITH JEEM WITH YEH FINAL FORM,
      4MEEM WITH YEH FINAL FORM,2YEH WITH HAH WITH YEH FINAL FORM,4JEEM WITH YEH FINAL FORM,
      4MEEM WITH YEH FINAL FORM,2MEEM WITH MEEM WITH YEH FINAL FORM,
      2QAF WITH MEEM WITH YEH FINAL FORM,2NOON WITH HAH WITH YEH FINAL FORM,
      2QAF WITH MEEM WITH HAH INITIAL FORM,2LAM WITH HAH WITH MEEM INITIAL FORM,
      2AIN WITH MEEM WITH YEH FINAL FORM,2KAF WITH MEEM WITH YEH FINAL FORM,
      2NOON WITH JEEM WITH HAH INITIAL FORM,2MEEM WITH KHAH WITH YEH FINAL FORM,
      2LAM WITH JEEM WITH MEEM INITIAL FORM,2KAF WITH MEEM WITH MEEM FINAL FORM,
      2LAM WITH JEEM WITH MEEM FINAL FORM,2NOON WITH JEEM WITH HAH FINAL FORM,
      2JEEM WITH HAH WITH YEH FINAL FORM,2HAH WITH JEEM WITH YEH FINAL FORM,
      2MEEM WITH JEEM WITH YEH FINAL FORM,2FEH WITH MEEM WITH YEH FINAL FORM,
      2BEH WITH HAH WITH YEH FINAL FORM,2KAF WITH MEEM WITH MEEM INITIAL FORM,
      2AIN WITH JEEM WITH MEEM INITIAL FORM,2SAD WITH MEEM WITH MEEM INITIAL FORM,
      2SEEN WITH KHAH WITH YEH FINAL FORM,2NOON WITH JEEM WITH YEH FINAL FORM"),
    (64975, "0ARABIC LIGATURE SALAAMUHU ALAYNAA"),
    (65008, "0ARABIC LIGATURE SALLA USED AS KORANIC STOP SIGN ISOLATED FORM,
      2QALA USED AS KORANIC STOP SIGN ISOLATED FORM,2ALLAH ISOLATED FORM,2AKBAR ISOLATED FORM,
      2MOHAMMAD ISOLATED FORM,2SALAM ISOLATED FORM,2RASOUL ISOLATED FORM,2ALAYHE ISOLATED FORM,
      2WASALLAM ISOLATED FORM,2SALLA ISOLATED FORM,2SALLALLAHOU ALAYHE WASALLAM,2JALLAJALALOUHOU,
      0RIAL SIGN,0ARABIC LIGATURE BISMILLAH AR-RAHMAN AR-RAHEEM,2SUBHAANAHU WA TAAALAA,
      2AZZA WA JALL,0VARIATION SELECTOR-1,22,23,24,25,26,27,28,29,210,211,212,213,214,215,216,
      0PRESENTATION FORM FOR VERTICAL COMMA,4IDEOGRAPHIC COMMA,5FULL STOP,4COLON,4SEMICOLON,
      4EXCLAMATION MARK,4QUESTION MARK,4LEFT WHITE LENTICULAR BRACKET,
      4RIGHT WHITE LENTICULAR BRAKCET,4HORIZONTAL ELLIPSIS"),
    (65056, "0COMBINING LIGATURE LEFT HALF,2RIGHT HALF,1DOUBLE TILDE LEFT HALF,3RIGHT HALF,
      1MACRON LEFT HALF,2RIGHT HALF,1CONJOINING MACRON,1LIGATURE LEFT HALF BELOW,2RIGHT HALF BELOW,
      1TILDE LEFT HALF BELOW,2RIGHT HALF BELOW,1MACRON LEFT HALF BELOW,2RIGHT HALF BELOW,
      1CONJOINING MACRON BELOW,1CYRILLIC TITLO LEFT HALF,3RIGHT HALF,
      0PRESENTATION FORM FOR VERTICAL TWO DOT LEADER,4EM DASH,4EN DASH,4LOW LINE,4WAVY LOW LINE,
      4LEFT PARENTHESIS,4RIGHT PARENTHESIS,4LEFT CURLY BRACKET,4RIGHT CURLY BRACKET,
      4LEFT TORTOISE SHELL BRACKET,4RIGHT TORTOISE SHELL BRACKET,4LEFT BLACK LENTICULAR BRACKET,
      4RIGHT BLACK LENTICULAR BRACKET,4LEFT DOUBLE ANGLE BRACKET,4RIGHT DOUBLE ANGLE BRACKET,
      4LEFT ANGLE BRACKET,4RIGHT ANGLE BRACKET,4LEFT CORNER BRACKET,4RIGHT CORNER BRACKET,
      4LEFT WHITE CORNER BRACKET,4RIGHT WHITE CORNER BRACKET,0SESAME DOT,0WHITE SESAME DOT,
      0PRESENTATION FORM FOR VERTICAL LEFT SQUARE BRACKET,4RIGHT SQUARE BRACKET,0DASHED OVERLINE,
      0CENTRELINE OVERLINE,0WAVY OVERLINE,0DOUBLE WAVY OVERLINE,0DASHED LOW LINE,
      0CENTRELINE LOW LINE,0WAVY LOW LINE,0SMALL COMMA,1IDEOGRAPHIC COMMA,1FULL STOP"),
    (65108, "0SMALL SEMICOLON,1COLON,1QUESTION MARK,1EXCLAMATION MARK,1EM DASH,1LEFT PARENTHESIS,
      1RIGHT PARENTHESIS,1LEFT CURLY BRACKET,1RIGHT CURLY BRACKET,1LEFT TORTOISE SHELL BRACKET,
      1RIGHT TORTOISE SHELL BRACKET,1NUMBER SIGN,1AMPERSAND,1ASTERISK,1PLUS SIGN,1HYPHEN-MINUS,
      1LESS-THAN SIGN,1GREATER-THAN SIGN,1EQUALS SIGN"),
    (65128, "0SMALL REVERSE SOLIDUS,1DOLLAR SIGN,1PERCENT SIGN,1COMMERCIAL AT"),
    (65136, "0ARABIC FATHATAN ISOLATED FORM,1TATWEEL WITH FATHATAN ABOVE,1DAMMATAN ISOLATED FORM,
      1TAIL FRAGMENT,1KASRATAN ISOLATED FORM"),
    (65142, "0ARABIC FATHA ISOLATED FORM,2MEDIAL FORM,1DAMMA ISOLATED FORM,2MEDIAL FORM,
      1KASRA ISOLATED FORM,2MEDIAL FORM,1SHADDA ISOLATED FORM,2MEDIAL FORM,1SUKUN ISOLATED FORM,
      2MEDIAL FORM,1LETTER HAMZA ISOLATED FORM,2ALEF WITH MADDA ABOVE ISOLATED FORM,6FINAL FORM,
      4HAMZA ABOVE ISOLATED FORM,6FINAL FORM,2WAW WITH HAMZA ABOVE ISOLATED FORM,6FINAL FORM,
      2ALEF WITH HAMZA BELOW ISOLATED FORM,6FINAL FORM,2YEH WITH HAMZA ABOVE ISOLATED FORM,
      6FINAL FORM,6INITIAL FORM,6MEDIAL FORM,2ALEF ISOLATED FORM,3FINAL FORM,2BEH ISOLATED FORM,
      3FINAL FORM,3INITIAL FORM,3MEDIAL FORM,2TEH MARBUTA ISOLATED FORM,4FINAL FORM,3ISOLATED FORM,
      3FINAL FORM,3INITIAL FORM,3MEDIAL FORM,2THEH ISOLATED FORM,3FINAL FORM,3INITIAL FORM,
      3MEDIAL FORM,2JEEM ISOLATED FORM,3FINAL FORM,3INITIAL FORM,3MEDIAL FORM,2HAH ISOLATED FORM,
      3FINAL FORM,3INITIAL FORM,3MEDIAL FORM,2KHAH ISOLATED FORM,3FINAL FORM,3INITIAL FORM,
      3MEDIAL FORM,2DAL ISOLATED FORM,3FINAL FORM,2THAL ISOLATED FORM,3FINAL FORM,
      2REH ISOLATED FORM,3FINAL FORM,2ZAIN ISOLATED FORM,3FINAL FORM,2SEEN ISOLATED FORM,
      3FINAL FORM,3INITIAL FORM,3MEDIAL FORM,2SHEEN ISOLATED FORM,3FINAL FORM,3INITIAL FORM,
      3MEDIAL FORM,2SAD ISOLATED FORM,3FINAL FORM,3INITIAL FORM,3MEDIAL FORM,2DAD ISOLATED FORM,
      3FINAL FORM,3INITIAL FORM,3MEDIAL FORM,2TAH ISOLATED FORM,3FINAL FORM,3INITIAL FORM,
      3MEDIAL FORM,2ZAH ISOLATED FORM,3FINAL FORM,3INITIAL FORM,3MEDIAL FORM,2AIN ISOLATED FORM,
      3FINAL FORM,3INITIAL FORM,3MEDIAL FORM,2GHAIN ISOLATED FORM,3FINAL FORM,3INITIAL FORM,
      3MEDIAL FORM,2FEH ISOLATED FORM,3FINAL FORM,3INITIAL FORM,3MEDIAL FORM,2QAF ISOLATED FORM,
      3FINAL FORM,3INITIAL FORM,3MEDIAL FORM,2KAF ISOLATED FORM,3FINAL FORM,3INITIAL FORM,
      3MEDIAL FORM,2LAM ISOLATED FORM,3FINAL FORM,3INITIAL FORM,3MEDIAL FORM,2MEEM ISOLATED FORM,
      3FINAL FORM,3INITIAL FORM,3MEDIAL FORM,2NOON ISOLATED FORM,3FINAL FORM,3INITIAL FORM,
      3MEDIAL FORM,2HEH ISOLATED FORM,3FINAL FORM,3INITIAL FORM,3MEDIAL FORM,2WAW ISOLATED FORM,
      3FINAL FORM,2ALEF MAKSURA ISOLATED FORM,4FINAL FORM,2YEH ISOLATED FORM,3FINAL FORM,
      3INITIAL FORM,3MEDIAL FORM,1LIGATURE LAM WITH ALEF WITH MADDA ABOVE ISOLATED FORM,
      8FINAL FORM,6HAMZA ABOVE ISOLATED FORM,8FINAL FORM,7BELOW ISOLATED FORM,8FINAL FORM,
      5ISOLATED FORM,5FINAL FORM"),
    (65279, "0ZERO WIDTH NO-BREAK SPACE"),
    (65281, "0FULLWIDTH EXCLAMATION MARK,1QUOTATION MARK,1NUMBER SIGN,1DOLLAR SIGN,1PERCENT SIGN,
      1AMPERSAND,1APOSTROPHE,1LEFT PARENTHESIS,1RIGHT PARENTHESIS,1ASTERISK,1PLUS SIGN,1COMMA,
      1HYPHEN-MINUS,1FULL STOP,1SOLIDUS,1DIGIT ZERO,2ONE,2TWO,2THREE,2FOUR,2FIVE,2SIX,2SEVEN,
      2EIGHT,2NINE,1COLON,1SEMICOLON,1LESS-THAN SIGN,1EQUALS SIGN,1GREATER-THAN SIGN,
      1QUESTION MARK,1COMMERCIAL AT,1LATIN CAPITAL LETTER A,4B,4C,4D,4E,4F,4G,4H,4I,4J,4K,4L,4M,4N,
      4O,4P,4Q,4R,4S,4T,4U,4V,4W,4X,4Y,4Z,1LEFT SQUARE BRACKET,1REVERSE SOLIDUS,
      1RIGHT SQUARE BRACKET,1CIRCUMFLEX ACCENT,1LOW LINE,1GRAVE ACCENT,1LATIN SMALL LETTER A,4B,4C,
      4D,4E,4F,4G,4H,4I,4J,4K,4L,4M,4N,4O,4P,4Q,4R,4S,4T,4U,4V,4W,4X,4Y,4Z,1LEFT CURLY BRACKET,
      1VERTICAL LINE,1RIGHT CURLY BRACKET,1TILDE,1LEFT WHITE PARENTHESIS,1RIGHT WHITE PARENTHESIS,
      0HALFWIDTH IDEOGRAPHIC FULL STOP,1LEFT CORNER BRACKET,1RIGHT CORNER BRACKET,
      1IDEOGRAPHIC COMMA,1KATAKANA MIDDLE DOT,2LETTER WO,3SMALL A,4I,4U,4E,4O,4YA,4YU,4YO,4TU,
      1KATAKANA-HIRAGANA PROLONGED SOUND MARK,1KATAKANA LETTER A,3I,3U,3E,3O,3KA,3KI,3KU,3KE,3KO,
      3SA,3SI,3SU,3SE,3SO,3TA,3TI,3TU,3TE,3TO,3NA,3NI,3NU,3NE,3NO,3HA,3HI,3HU,3HE,3HO,3MA,3MI,3MU,
      3ME,3MO,3YA,3YU,3YO,3RA,3RI,3RU,3RE,3RO,3WA,3N,2VOICED SOUND MARK,2SEMI-VOICED SOUND MARK,
      1HANGUL FILLER,2LETTER KIYEOK,3SSANGKIYEOK,3KIYEOK-SIOS,3NIEUN,3NIEUN-CIEUC,4HIEUH,3TIKEUT,
      3SSANGTIKEUT,3RIEUL,3RIEUL-KIYEOK,4MIEUM,4PIEUP,4SIOS,4THIEUTH,4PHIEUPH,4HIEUH,3MIEUM,3PIEUP,
      3SSANGPIEUP,3PIEUP-SIOS,3SIOS,3SSANGSIOS,3IEUNG,3CIEUC,3SSANGCIEUC,3CHIEUCH,3KHIEUKH,
      3THIEUTH,3PHIEUPH,3HIEUH"),
    (65474, "0HALFWIDTH HANGUL LETTER A,3AE,3YA,3YAE,3EO,3E"),
    (65482, "0HALFWIDTH HANGUL LETTER YEO,3YE,3O,3WA,3WAE,3OE"),
    (65490, "0HALFWIDTH HANGUL LETTER YO,3U,3WEO,3WE,3WI,3YU"),
    (65498, "0HALFWIDTH HANGUL LETTER EU,3YI,3I"),
    (65504, "0FULLWIDTH CENT SIGN,1POUND SIGN,1NOT SIGN,1MACRON,1BROKEN BAR,1YEN SIGN,1WON SIGN"),
    (65512, "0HALFWIDTH FORMS LIGHT VERTICAL,1LEFTWARDS ARROW,1UPWARDS ARROW,1RIGHTWARDS ARROW,
      1DOWNWARDS ARROW,1BLACK SQUARE,1WHITE CIRCLE"),
    (65529, "0INTERLINEAR ANNOTATION ANCHOR,2SEPARATOR,2TERMINATOR,0OBJECT REPLACEMENT CHARACTER,
      0REPLACEMENT CHARACTER")
  ]

end BooleanSearch.Text
