/-!
# Names of the characters up to 0xFFFF

A line gives the first code point and its name; after each slash comes the name of the next code
point, as the number of words that it begins with like the name before it, and its other words.
-/

namespace ProblemMatcher.Text

/-- Names that follow a rule are left out. -/
def basicPlaneNames : String := "
  0020 SPACE/0 EXCLAMATION MARK/0 QUOTATION MARK/0 NUMBER SIGN/0 DOLLAR SIGN/0 PERCENT SIGN
  0026 AMPERSAND/0 APOSTROPHE/0 LEFT PARENTHESIS/0 RIGHT PARENTHESIS/0 ASTERISK/0 PLUS SIGN/0 COMMA
  002D HYPHEN-MINUS/0 FULL STOP/0 SOLIDUS/0 DIGIT ZERO/1 ONE/1 TWO/1 THREE/1 FOUR/1 FIVE/1 SIX
  0037 DIGIT SEVEN/1 EIGHT/1 NINE/0 COLON/0 SEMICOLON/0 LESS-THAN SIGN/0 EQUALS SIGN
  003E GREATER-THAN SIGN/0 QUESTION MARK/0 COMMERCIAL AT/0 LATIN CAPITAL LETTER A/3 B/3 C/3 D/3 E
  0046 LATIN CAPITAL LETTER F/3 G/3 H/3 I/3 J/3 K/3 L/3 M/3 N/3 O/3 P/3 Q/3 R/3 S/3 T/3 U/3 V/3 W
  0058 LATIN CAPITAL LETTER X/3 Y/3 Z/0 LEFT SQUARE BRACKET/0 REVERSE SOLIDUS/0 RIGHT SQUARE BRACKET
  005E CIRCUMFLEX ACCENT/0 LOW LINE/0 GRAVE ACCENT/0 LATIN SMALL LETTER A/3 B/3 C/3 D/3 E/3 F/3 G
  0068 LATIN SMALL LETTER H/3 I/3 J/3 K/3 L/3 M/3 N/3 O/3 P/3 Q/3 R/3 S/3 T/3 U/3 V/3 W/3 X/3 Y/3 Z
  007B LEFT CURLY BRACKET/0 VERTICAL LINE/0 RIGHT CURLY BRACKET/0 TILDE
  00A0 NO-BREAK SPACE/0 INVERTED EXCLAMATION MARK/0 CENT SIGN/0 POUND SIGN/0 CURRENCY SIGN
  00A5 YEN SIGN/0 BROKEN BAR/0 SECTION SIGN/0 DIAERESIS/0 COPYRIGHT SIGN
  00AA FEMININE ORDINAL INDICATOR/0 LEFT-POINTING DOUBLE ANGLE QUOTATION MARK/0 NOT SIGN
  00AD SOFT HYPHEN/0 REGISTERED SIGN/0 MACRON/0 DEGREE SIGN/0 PLUS-MINUS SIGN/0 SUPERSCRIPT TWO
  00B3 SUPERSCRIPT THREE/0 ACUTE ACCENT/0 MICRO SIGN/0 PILCROW SIGN/0 MIDDLE DOT/0 CEDILLA
  00B9 SUPERSCRIPT ONE/0 MASCULINE ORDINAL INDICATOR/0 RIGHT-POINTING DOUBLE ANGLE QUOTATION MARK
  00BC VULGAR FRACTION ONE QUARTER/3 HALF/2 THREE QUARTERS/0 INVERTED QUESTION MARK
  00C0 LATIN CAPITAL LETTER A WITH GRAVE/5 ACUTE/5 CIRCUMFLEX/5 TILDE/5 DIAERESIS/5 RING ABOVE/3 AE
  00C7 LATIN CAPITAL LETTER C WITH CEDILLA/3 E WITH GRAVE/5 ACUTE/5 CIRCUMFLEX/5 DIAERESIS
  00CC LATIN CAPITAL LETTER I WITH GRAVE/5 ACUTE/5 CIRCUMFLEX/5 DIAERESIS/3 ETH/3 N WITH TILDE
  00D2 LATIN CAPITAL LETTER O WITH GRAVE/5 ACUTE/5 CIRCUMFLEX/5 TILDE/5 DIAERESIS
  00D7 MULTIPLICATION SIGN/0 LATIN CAPITAL LETTER O WITH STROKE/3 U WITH GRAVE/5 ACUTE/5 CIRCUMFLEX
  00DC LATIN CAPITAL LETTER U WITH DIAERESIS/3 Y WITH ACUTE/3 THORN/1 SMALL LETTER SHARP S
  00E0 LATIN SMALL LETTER A WITH GRAVE/5 ACUTE/5 CIRCUMFLEX/5 TILDE/5 DIAERESIS/5 RING ABOVE/3 AE
  00E7 LATIN SMALL LETTER C WITH CEDILLA/3 E WITH GRAVE/5 ACUTE/5 CIRCUMFLEX/5 DIAERESIS
  00EC LATIN SMALL LETTER I WITH GRAVE/5 ACUTE/5 CIRCUMFLEX/5 DIAERESIS/3 ETH/3 N WITH TILDE
  00F2 LATIN SMALL LETTER O WITH GRAVE/5 ACUTE/5 CIRCUMFLEX/5 TILDE/5 DIAERESIS/0 DIVISION SIGN
  00F8 LATIN SMALL LETTER O WITH STROKE/3 U WITH GRAVE/5 ACUTE/5 CIRCUMFLEX/5 DIAERESIS
  00FD LATIN SMALL LETTER Y WITH ACUTE/3 THORN/3 Y WITH DIAERESIS/1 CAPITAL LETTER A WITH MACRON
  0101 LATIN SMALL LETTER A WITH MACRON/1 CAPITAL LETTER A WITH BREVE/1 SMALL LETTER A WITH BREVE
  0104 LATIN CAPITAL LETTER A WITH OGONEK/1 SMALL LETTER A WITH OGONEK/1 CAPITAL LETTER C WITH ACUTE
  0107 LATIN SMALL LETTER C WITH ACUTE/1 CAPITAL LETTER C WITH CIRCUMFLEX
  0109 LATIN SMALL LETTER C WITH CIRCUMFLEX/1 CAPITAL LETTER C WITH DOT ABOVE
  010B LATIN SMALL LETTER C WITH DOT ABOVE/1 CAPITAL LETTER C WITH CARON/1 SMALL LETTER C WITH CARON
  010E LATIN CAPITAL LETTER D WITH CARON/1 SMALL LETTER D WITH CARON/1 CAPITAL LETTER D WITH STROKE
  0111 LATIN SMALL LETTER D WITH STROKE/1 CAPITAL LETTER E WITH MACRON/1 SMALL LETTER E WITH MACRON
  0114 LATIN CAPITAL LETTER E WITH BREVE/1 SMALL LETTER E WITH BREVE
  0116 LATIN CAPITAL LETTER E WITH DOT ABOVE/1 SMALL LETTER E WITH DOT ABOVE
  0118 LATIN CAPITAL LETTER E WITH OGONEK/1 SMALL LETTER E WITH OGONEK/1 CAPITAL LETTER E WITH CARON
  011B LATIN SMALL LETTER E WITH CARON/1 CAPITAL LETTER G WITH CIRCUMFLEX
  011D LATIN SMALL LETTER G WITH CIRCUMFLEX/1 CAPITAL LETTER G WITH BREVE
  011F LATIN SMALL LETTER G WITH BREVE/1 CAPITAL LETTER G WITH DOT ABOVE
  0121 LATIN SMALL LETTER G WITH DOT ABOVE/1 CAPITAL LETTER G WITH CEDILLA
  0123 LATIN SMALL LETTER G WITH CEDILLA/1 CAPITAL LETTER H WITH CIRCUMFLEX
  0125 LATIN SMALL LETTER H WITH CIRCUMFLEX/1 CAPITAL LETTER H WITH STROKE
  0127 LATIN SMALL LETTER H WITH STROKE/1 CAPITAL LETTER I WITH TILDE/1 SMALL LETTER I WITH TILDE
  012A LATIN CAPITAL LETTER I WITH MACRON/1 SMALL LETTER I WITH MACRON/1 CAPITAL LETTER I WITH BREVE
  012D LATIN SMALL LETTER I WITH BREVE/1 CAPITAL LETTER I WITH OGONEK/1 SMALL LETTER I WITH OGONEK
  0130 LATIN CAPITAL LETTER I WITH DOT ABOVE/1 SMALL LETTER DOTLESS I/1 CAPITAL LIGATURE IJ
  0133 LATIN SMALL LIGATURE IJ/1 CAPITAL LETTER J WITH CIRCUMFLEX/1 SMALL LETTER J WITH CIRCUMFLEX
  0136 LATIN CAPITAL LETTER K WITH CEDILLA/1 SMALL LETTER K WITH CEDILLA/3 KRA
  0139 LATIN CAPITAL LETTER L WITH ACUTE/1 SMALL LETTER L WITH ACUTE/1 CAPITAL LETTER L WITH CEDILLA
  013C LATIN SMALL LETTER L WITH CEDILLA/1 CAPITAL LETTER L WITH CARON/1 SMALL LETTER L WITH CARON
  013F LATIN CAPITAL LETTER L WITH MIDDLE DOT/1 SMALL LETTER L WITH MIDDLE DOT
  0141 LATIN CAPITAL LETTER L WITH STROKE/1 SMALL LETTER L WITH STROKE/1 CAPITAL LETTER N WITH ACUTE
  0144 LATIN SMALL LETTER N WITH ACUTE/1 CAPITAL LETTER N WITH CEDILLA/1 SMALL LETTER N WITH CEDILLA
  0147 LATIN CAPITAL LETTER N WITH CARON/1 SMALL LETTER N WITH CARON/4 PRECEDED BY APOSTROPHE
  014A LATIN CAPITAL LETTER ENG/1 SMALL LETTER ENG/1 CAPITAL LETTER O WITH MACRON
  014D LATIN SMALL LETTER O WITH MACRON/1 CAPITAL LETTER O WITH BREVE/1 SMALL LETTER O WITH BREVE
  0150 LATIN CAPITAL LETTER O WITH DOUBLE ACUTE/1 SMALL LETTER O WITH DOUBLE ACUTE
  0152 LATIN CAPITAL LIGATURE OE/1 SMALL LIGATURE OE/1 CAPITAL LETTER R WITH ACUTE
  0155 LATIN SMALL LETTER R WITH ACUTE/1 CAPITAL LETTER R WITH CEDILLA/1 SMALL LETTER R WITH CEDILLA
  0158 LATIN CAPITAL LETTER R WITH CARON/1 SMALL LETTER R WITH CARON/1 CAPITAL LETTER S WITH ACUTE
  015B LATIN SMALL LETTER S WITH ACUTE/1 CAPITAL LETTER S WITH CIRCUMFLEX
  015D LATIN SMALL LETTER S WITH CIRCUMFLEX/1 CAPITAL LETTER S WITH CEDILLA
  015F LATIN SMALL LETTER S WITH CEDILLA/1 CAPITAL LETTER S WITH CARON/1 SMALL LETTER S WITH CARON
  0162 LATIN CAPITAL LETTER T WITH CEDILLA/1 SMALL LETTER T WITH CEDILLA
  0164 LATIN CAPITAL LETTER T WITH CARON/1 SMALL LETTER T WITH CARON/1 CAPITAL LETTER T WITH STROKE
  0167 LATIN SMALL LETTER T WITH STROKE/1 CAPITAL LETTER U WITH TILDE/1 SMALL LETTER U WITH TILDE
  016A LATIN CAPITAL LETTER U WITH MACRON/1 SMALL LETTER U WITH MACRON/1 CAPITAL LETTER U WITH BREVE
  016D LATIN SMALL LETTER U WITH BREVE/1 CAPITAL LETTER U WITH RING ABOVE
  016F LATIN SMALL LETTER U WITH RING ABOVE/1 CAPITAL LETTER U WITH DOUBLE ACUTE
  0171 LATIN SMALL LETTER U WITH DOUBLE ACUTE/1 CAPITAL LETTER U WITH OGONEK
  0173 LATIN SMALL LETTER U WITH OGONEK/1 CAPITAL LETTER W WITH CIRCUMFLEX
  0175 LATIN SMALL LETTER W WITH CIRCUMFLEX/1 CAPITAL LETTER Y WITH CIRCUMFLEX
  0177 LATIN SMALL LETTER Y WITH CIRCUMFLEX/1 CAPITAL LETTER Y WITH DIAERESIS/3 Z WITH ACUTE
  017A LATIN SMALL LETTER Z WITH ACUTE/1 CAPITAL LETTER Z WITH DOT ABOVE
  017C LATIN SMALL LETTER Z WITH DOT ABOVE/1 CAPITAL LETTER Z WITH CARON/1 SMALL LETTER Z WITH CARON
  017F LATIN SMALL LETTER LONG S/3 B WITH STROKE/1 CAPITAL LETTER B WITH HOOK/5 TOPBAR
  0183 LATIN SMALL LETTER B WITH TOPBAR/1 CAPITAL LETTER TONE SIX/1 SMALL LETTER TONE SIX
  0186 LATIN CAPITAL LETTER OPEN O/3 C WITH HOOK/1 SMALL LETTER C WITH HOOK
  0189 LATIN CAPITAL LETTER AFRICAN D/3 D WITH HOOK/5 TOPBAR/1 SMALL LETTER D WITH TOPBAR
  018D LATIN SMALL LETTER TURNED DELTA/1 CAPITAL LETTER REVERSED E/3 SCHWA/3 OPEN E/3 F WITH HOOK
  0192 LATIN SMALL LETTER F WITH HOOK/1 CAPITAL LETTER G WITH HOOK/3 GAMMA/1 SMALL LETTER HV
  0196 LATIN CAPITAL LETTER IOTA/3 I WITH STROKE/3 K WITH HOOK/1 SMALL LETTER K WITH HOOK
  019A LATIN SMALL LETTER L WITH BAR/3 LAMBDA WITH STROKE/1 CAPITAL LETTER TURNED M
  019D LATIN CAPITAL LETTER N WITH LEFT HOOK/1 SMALL LETTER N WITH LONG RIGHT LEG
  019F LATIN CAPITAL LETTER O WITH MIDDLE TILDE/5 HORN/1 SMALL LETTER O WITH HORN
  01A2 LATIN CAPITAL LETTER OI/1 SMALL LETTER OI/1 CAPITAL LETTER P WITH HOOK
  01A5 LATIN SMALL LETTER P WITH HOOK/1 LETTER YR/1 CAPITAL LETTER TONE TWO/1 SMALL LETTER TONE TWO
  01A9 LATIN CAPITAL LETTER ESH/1 LETTER REVERSED ESH LOOP/1 SMALL LETTER T WITH PALATAL HOOK
  01AC LATIN CAPITAL LETTER T WITH HOOK/1 SMALL LETTER T WITH HOOK
  01AE LATIN CAPITAL LETTER T WITH RETROFLEX HOOK/3 U WITH HORN/1 SMALL LETTER U WITH HORN
  01B1 LATIN CAPITAL LETTER UPSILON/3 V WITH HOOK/3 Y WITH HOOK/1 SMALL LETTER Y WITH HOOK
  01B5 LATIN CAPITAL LETTER Z WITH STROKE/1 SMALL LETTER Z WITH STROKE/1 CAPITAL LETTER EZH
  01B8 LATIN CAPITAL LETTER EZH REVERSED/1 SMALL LETTER EZH REVERSED/4 WITH TAIL
  01BB LATIN LETTER TWO WITH STROKE/1 CAPITAL LETTER TONE FIVE/1 SMALL LETTER TONE FIVE
  01BE LATIN LETTER INVERTED GLOTTAL STOP WITH STROKE/2 WYNN/2 DENTAL CLICK/2 LATERAL CLICK
  01C2 LATIN LETTER ALVEOLAR CLICK/2 RETROFLEX CLICK/1 CAPITAL LETTER DZ WITH CARON
  01C5 LATIN CAPITAL LETTER D WITH SMALL LETTER Z WITH CARON/1 SMALL LETTER DZ WITH CARON
  01C7 LATIN CAPITAL LETTER LJ/3 L WITH SMALL LETTER J/1 SMALL LETTER LJ/1 CAPITAL LETTER NJ
  01CB LATIN CAPITAL LETTER N WITH SMALL LETTER J/1 SMALL LETTER NJ/1 CAPITAL LETTER A WITH CARON
  01CE LATIN SMALL LETTER A WITH CARON/1 CAPITAL LETTER I WITH CARON/1 SMALL LETTER I WITH CARON
  01D1 LATIN CAPITAL LETTER O WITH CARON/1 SMALL LETTER O WITH CARON/1 CAPITAL LETTER U WITH CARON
  01D4 LATIN SMALL LETTER U WITH CARON/1 CAPITAL LETTER U WITH DIAERESIS AND MACRON
  01D6 LATIN SMALL LETTER U WITH DIAERESIS AND MACRON/1 CAPITAL LETTER U WITH DIAERESIS AND ACUTE
  01D8 LATIN SMALL LETTER U WITH DIAERESIS AND ACUTE/1 CAPITAL LETTER U WITH DIAERESIS AND CARON
  01DA LATIN SMALL LETTER U WITH DIAERESIS AND CARON/1 CAPITAL LETTER U WITH DIAERESIS AND GRAVE
  01DC LATIN SMALL LETTER U WITH DIAERESIS AND GRAVE/3 TURNED E
  01DE LATIN CAPITAL LETTER A WITH DIAERESIS AND MACRON/1 SMALL LETTER A WITH DIAERESIS AND MACRON
  01E0 LATIN CAPITAL LETTER A WITH DOT ABOVE AND MACRON/1 SMALL LETTER A WITH DOT ABOVE AND MACRON
  01E2 LATIN CAPITAL LETTER AE WITH MACRON/1 SMALL LETTER AE WITH MACRON
  01E4 LATIN CAPITAL LETTER G WITH STROKE/1 SMALL LETTER G WITH STROKE/1 CAPITAL LETTER G WITH CARON
  01E7 LATIN SMALL LETTER G WITH CARON/1 CAPITAL LETTER K WITH CARON/1 SMALL LETTER K WITH CARON
  01EA LATIN CAPITAL LETTER O WITH OGONEK/1 SMALL LETTER O WITH OGONEK
  01EC LATIN CAPITAL LETTER O WITH OGONEK AND MACRON/1 SMALL LETTER O WITH OGONEK AND MACRON
  01EE LATIN CAPITAL LETTER EZH WITH CARON/1 SMALL LETTER EZH WITH CARON/3 J WITH CARON
  01F1 LATIN CAPITAL LETTER DZ/3 D WITH SMALL LETTER Z/1 SMALL LETTER DZ
  01F4 LATIN CAPITAL LETTER G WITH ACUTE/1 SMALL LETTER G WITH ACUTE/1 CAPITAL LETTER HWAIR/3 WYNN
  01F8 LATIN CAPITAL LETTER N WITH GRAVE/1 SMALL LETTER N WITH GRAVE
  01FA LATIN CAPITAL LETTER A WITH RING ABOVE AND ACUTE/1 SMALL LETTER A WITH RING ABOVE AND ACUTE
  01FC LATIN CAPITAL LETTER AE WITH ACUTE/1 SMALL LETTER AE WITH ACUTE
  01FE LATIN CAPITAL LETTER O WITH STROKE AND ACUTE/1 SMALL LETTER O WITH STROKE AND ACUTE
  0200 LATIN CAPITAL LETTER A WITH DOUBLE GRAVE/1 SMALL LETTER A WITH DOUBLE GRAVE
  0202 LATIN CAPITAL LETTER A WITH INVERTED BREVE/1 SMALL LETTER A WITH INVERTED BREVE
  0204 LATIN CAPITAL LETTER E WITH DOUBLE GRAVE/1 SMALL LETTER E WITH DOUBLE GRAVE
  0206 LATIN CAPITAL LETTER E WITH INVERTED BREVE/1 SMALL LETTER E WITH INVERTED BREVE
  0208 LATIN CAPITAL LETTER I WITH DOUBLE GRAVE/1 SMALL LETTER I WITH DOUBLE GRAVE
  020A LATIN CAPITAL LETTER I WITH INVERTED BREVE/1 SMALL LETTER I WITH INVERTED BREVE
  020C LATIN CAPITAL LETTER O WITH DOUBLE GRAVE/1 SMALL LETTER O WITH DOUBLE GRAVE
  020E LATIN CAPITAL LETTER O WITH INVERTED BREVE/1 SMALL LETTER O WITH INVERTED BREVE
  0210 LATIN CAPITAL LETTER R WITH DOUBLE GRAVE/1 SMALL LETTER R WITH DOUBLE GRAVE
  0212 LATIN CAPITAL LETTER R WITH INVERTED BREVE/1 SMALL LETTER R WITH INVERTED BREVE
  0214 LATIN CAPITAL LETTER U WITH DOUBLE GRAVE/1 SMALL LETTER U WITH DOUBLE GRAVE
  0216 LATIN CAPITAL LETTER U WITH INVERTED BREVE/1 SMALL LETTER U WITH INVERTED BREVE
  0218 LATIN CAPITAL LETTER S WITH COMMA BELOW/1 SMALL LETTER S WITH COMMA BELOW
  021A LATIN CAPITAL LETTER T WITH COMMA BELOW/1 SMALL LETTER T WITH COMMA BELOW
  021C LATIN CAPITAL LETTER YOGH/1 SMALL LETTER YOGH/1 CAPITAL LETTER H WITH CARON
  021F LATIN SMALL LETTER H WITH CARON/1 CAPITAL LETTER N WITH LONG RIGHT LEG
  0221 LATIN SMALL LETTER D WITH CURL/1 CAPITAL LETTER OU/1 SMALL LETTER OU
  0224 LATIN CAPITAL LETTER Z WITH HOOK/1 SMALL LETTER Z WITH HOOK/1 CAPITAL LETTER A WITH DOT ABOVE
  0227 LATIN SMALL LETTER A WITH DOT ABOVE/1 CAPITAL LETTER E WITH CEDILLA
  0229 LATIN SMALL LETTER E WITH CEDILLA/1 CAPITAL LETTER O WITH DIAERESIS AND MACRON
  022B LATIN SMALL LETTER O WITH DIAERESIS AND MACRON/1 CAPITAL LETTER O WITH TILDE AND MACRON
  022D LATIN SMALL LETTER O WITH TILDE AND MACRON/1 CAPITAL LETTER O WITH DOT ABOVE
  022F LATIN SMALL LETTER O WITH DOT ABOVE/1 CAPITAL LETTER O WITH DOT ABOVE AND MACRON
  0231 LATIN SMALL LETTER O WITH DOT ABOVE AND MACRON/1 CAPITAL LETTER Y WITH MACRON
  0233 LATIN SMALL LETTER Y WITH MACRON/3 L WITH CURL/3 N WITH CURL/3 T WITH CURL/3 DOTLESS J
  0238 LATIN SMALL LETTER DB DIGRAPH/3 QP DIGRAPH/1 CAPITAL LETTER A WITH STROKE/3 C WITH STROKE
  023C LATIN SMALL LETTER C WITH STROKE/1 CAPITAL LETTER L WITH BAR/3 T WITH DIAGONAL STROKE
  023F LATIN SMALL LETTER S WITH SWASH TAIL/3 Z WITH SWASH TAIL/1 CAPITAL LETTER GLOTTAL STOP
  0242 LATIN SMALL LETTER GLOTTAL STOP/1 CAPITAL LETTER B WITH STROKE/3 U BAR/3 TURNED V
  0246 LATIN CAPITAL LETTER E WITH STROKE/1 SMALL LETTER E WITH STROKE
  0248 LATIN CAPITAL LETTER J WITH STROKE/1 SMALL LETTER J WITH STROKE
  024A LATIN CAPITAL LETTER SMALL Q WITH HOOK TAIL/1 SMALL LETTER Q WITH HOOK TAIL
  024C LATIN CAPITAL LETTER R WITH STROKE/1 SMALL LETTER R WITH STROKE
  024E LATIN CAPITAL LETTER Y WITH STROKE/1 SMALL LETTER Y WITH STROKE/3 TURNED A/3 ALPHA
  0252 LATIN SMALL LETTER TURNED ALPHA/3 B WITH HOOK/3 OPEN O/3 C WITH CURL/3 D WITH TAIL/5 HOOK
  0258 LATIN SMALL LETTER REVERSED E/3 SCHWA/4 WITH HOOK/3 OPEN E/3 REVERSED OPEN E/6 WITH HOOK
  025E LATIN SMALL LETTER CLOSED REVERSED OPEN E/3 DOTLESS J WITH STROKE/3 G WITH HOOK/3 SCRIPT G
  0262 LATIN LETTER SMALL CAPITAL G/1 SMALL LETTER GAMMA/3 RAMS HORN/3 TURNED H/3 H WITH HOOK
  0267 LATIN SMALL LETTER HENG WITH HOOK/3 I WITH STROKE/3 IOTA/1 LETTER SMALL CAPITAL I
  026B LATIN SMALL LETTER L WITH MIDDLE TILDE/5 BELT/5 RETROFLEX HOOK/3 LEZH/3 TURNED M
  0270 LATIN SMALL LETTER TURNED M WITH LONG LEG/3 M WITH HOOK/3 N WITH LEFT HOOK/5 RETROFLEX HOOK
  0274 LATIN LETTER SMALL CAPITAL N/1 SMALL LETTER BARRED O/1 LETTER SMALL CAPITAL OE
  0277 LATIN SMALL LETTER CLOSED OMEGA/3 PHI/3 TURNED R/5 WITH LONG LEG/6 HOOK/3 R WITH LONG LEG
  027D LATIN SMALL LETTER R WITH TAIL/5 FISHHOOK/3 REVERSED R WITH FISHHOOK/1 LETTER SMALL CAPITAL R
  0281 LATIN LETTER SMALL CAPITAL INVERTED R/1 SMALL LETTER S WITH HOOK/3 ESH
  0284 LATIN SMALL LETTER DOTLESS J WITH STROKE AND HOOK/3 SQUAT REVERSED ESH/3 ESH WITH CURL
  0287 LATIN SMALL LETTER TURNED T/3 T WITH RETROFLEX HOOK/3 U BAR/3 UPSILON/3 V WITH HOOK
  028C LATIN SMALL LETTER TURNED V/4 W/4 Y/1 LETTER SMALL CAPITAL Y
  0290 LATIN SMALL LETTER Z WITH RETROFLEX HOOK/5 CURL/3 EZH/4 WITH CURL/1 LETTER GLOTTAL STOP
  0295 LATIN LETTER PHARYNGEAL VOICED FRICATIVE/2 INVERTED GLOTTAL STOP/2 STRETCHED C
  0298 LATIN LETTER BILABIAL CLICK/2 SMALL CAPITAL B/1 SMALL LETTER CLOSED OPEN E
  029B LATIN LETTER SMALL CAPITAL G WITH HOOK/4 H/1 SMALL LETTER J WITH CROSSED-TAIL/3 TURNED K
  029F LATIN LETTER SMALL CAPITAL L/1 SMALL LETTER Q WITH HOOK/1 LETTER GLOTTAL STOP WITH STROKE
  02A2 LATIN LETTER REVERSED GLOTTAL STOP WITH STROKE/1 SMALL LETTER DZ DIGRAPH/3 DEZH DIGRAPH
  02A5 LATIN SMALL LETTER DZ DIGRAPH WITH CURL/3 TS DIGRAPH/3 TESH DIGRAPH/3 TC DIGRAPH WITH CURL
  02A9 LATIN SMALL LETTER FENG DIGRAPH/3 LS DIGRAPH/3 LZ DIGRAPH/1 LETTER BILABIAL PERCUSSIVE
  02AD LATIN LETTER BIDENTAL PERCUSSIVE/1 SMALL LETTER TURNED H WITH FISHHOOK/7 AND TAIL
  02B0 MODIFIER LETTER SMALL H/4 WITH HOOK/3 J/3 R/3 TURNED R/5 WITH HOOK/3 CAPITAL INVERTED R/3 W
  02B8 MODIFIER LETTER SMALL Y/2 PRIME/2 DOUBLE PRIME/2 TURNED COMMA/2 APOSTROPHE/2 REVERSED COMMA
  02BE MODIFIER LETTER RIGHT HALF RING/2 LEFT HALF RING/2 GLOTTAL STOP/2 REVERSED GLOTTAL STOP
  02C2 MODIFIER LETTER LEFT ARROWHEAD/2 RIGHT ARROWHEAD/2 UP ARROWHEAD/2 DOWN ARROWHEAD
  02C6 MODIFIER LETTER CIRCUMFLEX ACCENT/0 CARON/0 MODIFIER LETTER VERTICAL LINE/2 MACRON
  02CA MODIFIER LETTER ACUTE ACCENT/2 GRAVE ACCENT/2 LOW VERTICAL LINE/3 MACRON/3 GRAVE ACCENT
  02CF MODIFIER LETTER LOW ACUTE ACCENT/2 TRIANGULAR COLON/2 HALF TRIANGULAR COLON
  02D2 MODIFIER LETTER CENTRED RIGHT HALF RING/3 LEFT HALF RING/2 UP TACK/2 DOWN TACK/2 PLUS SIGN
  02D7 MODIFIER LETTER MINUS SIGN/0 BREVE/0 DOT ABOVE/0 RING ABOVE/0 OGONEK/0 SMALL TILDE
  02DD DOUBLE ACUTE ACCENT/0 MODIFIER LETTER RHOTIC HOOK/2 CROSS ACCENT/2 SMALL GAMMA/3 L/3 S/3 X
  02E4 MODIFIER LETTER SMALL REVERSED GLOTTAL STOP/2 EXTRA-HIGH TONE BAR/2 HIGH TONE BAR
  02E7 MODIFIER LETTER MID TONE BAR/2 LOW TONE BAR/2 EXTRA-LOW TONE BAR/2 YIN DEPARTING TONE MARK
  02EB MODIFIER LETTER YANG DEPARTING TONE MARK/2 VOICING/2 UNASPIRATED/2 DOUBLE APOSTROPHE
  02EF MODIFIER LETTER LOW DOWN ARROWHEAD/3 UP ARROWHEAD/3 LEFT ARROWHEAD/3 RIGHT ARROWHEAD/3 RING
  02F4 MODIFIER LETTER MIDDLE GRAVE ACCENT/3 DOUBLE GRAVE ACCENT/4 ACUTE ACCENT/2 LOW TILDE
  02F8 MODIFIER LETTER RAISED COLON/2 BEGIN HIGH TONE/2 END HIGH TONE/2 BEGIN LOW TONE
  02FC MODIFIER LETTER END LOW TONE/2 SHELF/2 OPEN SHELF/2 LOW LEFT ARROW/0 COMBINING GRAVE ACCENT
  0301 COMBINING ACUTE ACCENT/1 CIRCUMFLEX ACCENT/1 TILDE/1 MACRON/1 OVERLINE/1 BREVE/1 DOT ABOVE
  0308 COMBINING DIAERESIS/1 HOOK ABOVE/1 RING ABOVE/1 DOUBLE ACUTE ACCENT/1 CARON
  030D COMBINING VERTICAL LINE ABOVE/1 DOUBLE VERTICAL LINE ABOVE/2 GRAVE ACCENT/1 CANDRABINDU
  0311 COMBINING INVERTED BREVE/1 TURNED COMMA ABOVE/1 COMMA ABOVE/1 REVERSED COMMA ABOVE
  0315 COMBINING COMMA ABOVE RIGHT/1 GRAVE ACCENT BELOW/1 ACUTE ACCENT BELOW/1 LEFT TACK BELOW
  0319 COMBINING RIGHT TACK BELOW/1 LEFT ANGLE ABOVE/1 HORN/1 LEFT HALF RING BELOW/1 UP TACK BELOW
  031E COMBINING DOWN TACK BELOW/1 PLUS SIGN BELOW/1 MINUS SIGN BELOW/1 PALATALIZED HOOK BELOW
  0322 COMBINING RETROFLEX HOOK BELOW/1 DOT BELOW/1 DIAERESIS BELOW/1 RING BELOW/1 COMMA BELOW
  0327 COMBINING CEDILLA/1 OGONEK/1 VERTICAL LINE BELOW/1 BRIDGE BELOW/1 INVERTED DOUBLE ARCH BELOW
  032C COMBINING CARON BELOW/1 CIRCUMFLEX ACCENT BELOW/1 BREVE BELOW/1 INVERTED BREVE BELOW
  0330 COMBINING TILDE BELOW/1 MACRON BELOW/1 LOW LINE/1 DOUBLE LOW LINE/1 TILDE OVERLAY
  0335 COMBINING SHORT STROKE OVERLAY/1 LONG STROKE OVERLAY/1 SHORT SOLIDUS OVERLAY
  0338 COMBINING LONG SOLIDUS OVERLAY/1 RIGHT HALF RING BELOW/1 INVERTED BRIDGE BELOW/1 SQUARE BELOW
  033C COMBINING SEAGULL BELOW/1 X ABOVE/1 VERTICAL TILDE/1 DOUBLE OVERLINE/1 GRAVE TONE MARK
  0341 COMBINING ACUTE TONE MARK/1 GREEK PERISPOMENI/2 KORONIS/2 DIALYTIKA TONOS/2 YPOGEGRAMMENI
  0346 COMBINING BRIDGE ABOVE/1 EQUALS SIGN BELOW/1 DOUBLE VERTICAL LINE BELOW/1 LEFT ANGLE BELOW
  034A COMBINING NOT TILDE ABOVE/1 HOMOTHETIC ABOVE/1 ALMOST EQUAL TO ABOVE/1 LEFT RIGHT ARROW BELOW
  034E COMBINING UPWARDS ARROW BELOW/1 GRAPHEME JOINER/1 RIGHT ARROWHEAD ABOVE
  0351 COMBINING LEFT HALF RING ABOVE/1 FERMATA/1 X BELOW/1 LEFT ARROWHEAD BELOW
  0355 COMBINING RIGHT ARROWHEAD BELOW/3 AND UP ARROWHEAD BELOW/2 HALF RING ABOVE/1 DOT ABOVE RIGHT
  0359 COMBINING ASTERISK BELOW/1 DOUBLE RING BELOW/1 ZIGZAG ABOVE/1 DOUBLE BREVE BELOW/3/2 MACRON
  035F COMBINING DOUBLE MACRON BELOW/2 TILDE/2 INVERTED BREVE/2 RIGHTWARDS ARROW BELOW
  0363 COMBINING LATIN SMALL LETTER A/4 E/4 I/4 O/4 U/4 C/4 D/4 H/4 M/4 R/4 T/4 V/4 X
  0370 GREEK CAPITAL LETTER HETA/1 SMALL LETTER HETA/1 CAPITAL LETTER ARCHAIC SAMPI
  0373 GREEK SMALL LETTER ARCHAIC SAMPI/1 NUMERAL SIGN/1 LOWER NUMERAL SIGN
  0376 GREEK CAPITAL LETTER PAMPHYLIAN DIGAMMA/1 SMALL LETTER PAMPHYLIAN DIGAMMA
  037A GREEK YPOGEGRAMMENI/1 SMALL REVERSED LUNATE SIGMA SYMBOL/2 DOTTED LUNATE SIGMA SYMBOL
  037D GREEK SMALL REVERSED DOTTED LUNATE SIGMA SYMBOL/1 QUESTION MARK/1 CAPITAL LETTER YOT
  0384 GREEK TONOS/1 DIALYTIKA TONOS/1 CAPITAL LETTER ALPHA WITH TONOS/1 ANO TELEIA
  0388 GREEK CAPITAL LETTER EPSILON WITH TONOS/3 ETA WITH TONOS/3 IOTA WITH TONOS
  038C GREEK CAPITAL LETTER OMICRON WITH TONOS
  038E GREEK CAPITAL LETTER UPSILON WITH TONOS/3 OMEGA WITH TONOS
  0390 GREEK SMALL LETTER IOTA WITH DIALYTIKA AND TONOS/1 CAPITAL LETTER ALPHA/3 BETA/3 GAMMA
  0394 GREEK CAPITAL LETTER DELTA/3 EPSILON/3 ZETA/3 ETA/3 THETA/3 IOTA/3 KAPPA/3 LAMDA/3 MU/3 NU
  039E GREEK CAPITAL LETTER XI/3 OMICRON/3 PI/3 RHO
  03A3 GREEK CAPITAL LETTER SIGMA/3 TAU/3 UPSILON/3 PHI/3 CHI/3 PSI/3 OMEGA/3 IOTA WITH DIALYTIKA
  03AB GREEK CAPITAL LETTER UPSILON WITH DIALYTIKA/1 SMALL LETTER ALPHA WITH TONOS
  03AD GREEK SMALL LETTER EPSILON WITH TONOS/3 ETA WITH TONOS/3 IOTA WITH TONOS
  03B0 GREEK SMALL LETTER UPSILON WITH DIALYTIKA AND TONOS/3 ALPHA/3 BETA/3 GAMMA/3 DELTA/3 EPSILON
  03B6 GREEK SMALL LETTER ZETA/3 ETA/3 THETA/3 IOTA/3 KAPPA/3 LAMDA/3 MU/3 NU/3 XI/3 OMICRON/3 PI
  03C1 GREEK SMALL LETTER RHO/3 FINAL SIGMA/3 SIGMA/3 TAU/3 UPSILON/3 PHI/3 CHI/3 PSI/3 OMEGA
  03CA GREEK SMALL LETTER IOTA WITH DIALYTIKA/3 UPSILON WITH DIALYTIKA/3 OMICRON WITH TONOS
  03CD GREEK SMALL LETTER UPSILON WITH TONOS/3 OMEGA WITH TONOS/1 CAPITAL KAI SYMBOL/1 BETA SYMBOL
  03D1 GREEK THETA SYMBOL/1 UPSILON WITH HOOK SYMBOL/3 ACUTE AND HOOK SYMBOL
  03D4 GREEK UPSILON WITH DIAERESIS AND HOOK SYMBOL/1 PHI SYMBOL/1 PI SYMBOL/1 KAI SYMBOL
  03D8 GREEK LETTER ARCHAIC KOPPA/1 SMALL LETTER ARCHAIC KOPPA/1 LETTER STIGMA/1 SMALL LETTER STIGMA
  03DC GREEK LETTER DIGAMMA/1 SMALL LETTER DIGAMMA/1 LETTER KOPPA/1 SMALL LETTER KOPPA
  03E0 GREEK LETTER SAMPI/1 SMALL LETTER SAMPI/0 COPTIC CAPITAL LETTER SHEI/1 SMALL LETTER SHEI
  03E4 COPTIC CAPITAL LETTER FEI/1 SMALL LETTER FEI/1 CAPITAL LETTER KHEI/1 SMALL LETTER KHEI
  03E8 COPTIC CAPITAL LETTER HORI/1 SMALL LETTER HORI/1 CAPITAL LETTER GANGIA/1 SMALL LETTER GANGIA
  03EC COPTIC CAPITAL LETTER SHIMA/1 SMALL LETTER SHIMA/1 CAPITAL LETTER DEI/1 SMALL LETTER DEI
  03F0 GREEK KAPPA SYMBOL/1 RHO SYMBOL/1 LUNATE SIGMA SYMBOL/1 LETTER YOT/1 CAPITAL THETA SYMBOL
  03F5 GREEK LUNATE EPSILON SYMBOL/1 REVERSED LUNATE EPSILON SYMBOL/1 CAPITAL LETTER SHO
  03F8 GREEK SMALL LETTER SHO/1 CAPITAL LUNATE SIGMA SYMBOL/2 LETTER SAN/1 SMALL LETTER SAN
  03FC GREEK RHO WITH STROKE SYMBOL/1 CAPITAL REVERSED LUNATE SIGMA SYMBOL
  03FE GREEK CAPITAL DOTTED LUNATE SIGMA SYMBOL/2 REVERSED DOTTED LUNATE SIGMA SYMBOL
  0400 CYRILLIC CAPITAL LETTER IE WITH GRAVE/3 IO/3 DJE/3 GJE/3 UKRAINIAN IE/3 DZE
  0406 CYRILLIC CAPITAL LETTER BYELORUSSIAN-UKRAINIAN I/3 YI/3 JE/3 LJE/3 NJE/3 TSHE/3 KJE
  040D CYRILLIC CAPITAL LETTER I WITH GRAVE/3 SHORT U/3 DZHE/3 A/3 BE/3 VE/3 GHE/3 DE/3 IE/3 ZHE
  0417 CYRILLIC CAPITAL LETTER ZE/3 I/3 SHORT I/3 KA/3 EL/3 EM/3 EN/3 O/3 PE/3 ER/3 ES/3 TE/3 U/3 EF
  0425 CYRILLIC CAPITAL LETTER HA/3 TSE/3 CHE/3 SHA/3 SHCHA/3 HARD SIGN/3 YERU/3 SOFT SIGN/3 E/3 YU
  042F CYRILLIC CAPITAL LETTER YA/1 SMALL LETTER A/3 BE/3 VE/3 GHE/3 DE/3 IE/3 ZHE/3 ZE/3 I
  0439 CYRILLIC SMALL LETTER SHORT I/3 KA/3 EL/3 EM/3 EN/3 O/3 PE/3 ER/3 ES/3 TE/3 U/3 EF/3 HA/3 TSE
  0447 CYRILLIC SMALL LETTER CHE/3 SHA/3 SHCHA/3 HARD SIGN/3 YERU/3 SOFT SIGN/3 E/3 YU/3 YA
  0450 CYRILLIC SMALL LETTER IE WITH GRAVE/3 IO/3 DJE/3 GJE/3 UKRAINIAN IE/3 DZE
  0456 CYRILLIC SMALL LETTER BYELORUSSIAN-UKRAINIAN I/3 YI/3 JE/3 LJE/3 NJE/3 TSHE/3 KJE
  045D CYRILLIC SMALL LETTER I WITH GRAVE/3 SHORT U/3 DZHE/1 CAPITAL LETTER OMEGA
  0461 CYRILLIC SMALL LETTER OMEGA/1 CAPITAL LETTER YAT/1 SMALL LETTER YAT
  0464 CYRILLIC CAPITAL LETTER IOTIFIED E/1 SMALL LETTER IOTIFIED E/1 CAPITAL LETTER LITTLE YUS
  0467 CYRILLIC SMALL LETTER LITTLE YUS/1 CAPITAL LETTER IOTIFIED LITTLE YUS
  0469 CYRILLIC SMALL LETTER IOTIFIED LITTLE YUS/1 CAPITAL LETTER BIG YUS/1 SMALL LETTER BIG YUS
  046C CYRILLIC CAPITAL LETTER IOTIFIED BIG YUS/1 SMALL LETTER IOTIFIED BIG YUS/1 CAPITAL LETTER KSI
  046F CYRILLIC SMALL LETTER KSI/1 CAPITAL LETTER PSI/1 SMALL LETTER PSI/1 CAPITAL LETTER FITA
  0473 CYRILLIC SMALL LETTER FITA/1 CAPITAL LETTER IZHITSA/1 SMALL LETTER IZHITSA
  0476 CYRILLIC CAPITAL LETTER IZHITSA WITH DOUBLE GRAVE ACCENT
  0477 CYRILLIC SMALL LETTER IZHITSA WITH DOUBLE GRAVE ACCENT/1 CAPITAL LETTER UK/1 SMALL LETTER UK
  047A CYRILLIC CAPITAL LETTER ROUND OMEGA/1 SMALL LETTER ROUND OMEGA
  047C CYRILLIC CAPITAL LETTER OMEGA WITH TITLO/1 SMALL LETTER OMEGA WITH TITLO/1 CAPITAL LETTER OT
  047F CYRILLIC SMALL LETTER OT/1 CAPITAL LETTER KOPPA/1 SMALL LETTER KOPPA/1 THOUSANDS SIGN
  0483 COMBINING CYRILLIC TITLO/2 PALATALIZATION/2 DASIA PNEUMATA/2 PSILI PNEUMATA/2 POKRYTIE
  0488 COMBINING CYRILLIC HUNDRED THOUSANDS SIGN/2 MILLIONS SIGN
  048A CYRILLIC CAPITAL LETTER SHORT I WITH TAIL/1 SMALL LETTER SHORT I WITH TAIL
  048C CYRILLIC CAPITAL LETTER SEMISOFT SIGN/1 SMALL LETTER SEMISOFT SIGN
  048E CYRILLIC CAPITAL LETTER ER WITH TICK/1 SMALL LETTER ER WITH TICK
  0490 CYRILLIC CAPITAL LETTER GHE WITH UPTURN/1 SMALL LETTER GHE WITH UPTURN
  0492 CYRILLIC CAPITAL LETTER GHE WITH STROKE/1 SMALL LETTER GHE WITH STROKE
  0494 CYRILLIC CAPITAL LETTER GHE WITH MIDDLE HOOK/1 SMALL LETTER GHE WITH MIDDLE HOOK
  0496 CYRILLIC CAPITAL LETTER ZHE WITH DESCENDER/1 SMALL LETTER ZHE WITH DESCENDER
  0498 CYRILLIC CAPITAL LETTER ZE WITH DESCENDER/1 SMALL LETTER ZE WITH DESCENDER
  049A CYRILLIC CAPITAL LETTER KA WITH DESCENDER/1 SMALL LETTER KA WITH DESCENDER
  049C CYRILLIC CAPITAL LETTER KA WITH VERTICAL STROKE/1 SMALL LETTER KA WITH VERTICAL STROKE
  049E CYRILLIC CAPITAL LETTER KA WITH STROKE/1 SMALL LETTER KA WITH STROKE
  04A0 CYRILLIC CAPITAL LETTER BASHKIR KA/1 SMALL LETTER BASHKIR KA
  04A2 CYRILLIC CAPITAL LETTER EN WITH DESCENDER/1 SMALL LETTER EN WITH DESCENDER
  04A4 CYRILLIC CAPITAL LIGATURE EN GHE/1 SMALL LIGATURE EN GHE/1 CAPITAL LETTER PE WITH MIDDLE HOOK
  04A7 CYRILLIC SMALL LETTER PE WITH MIDDLE HOOK/1 CAPITAL LETTER ABKHASIAN HA
  04A9 CYRILLIC SMALL LETTER ABKHASIAN HA/1 CAPITAL LETTER ES WITH DESCENDER
  04AB CYRILLIC SMALL LETTER ES WITH DESCENDER/1 CAPITAL LETTER TE WITH DESCENDER
  04AD CYRILLIC SMALL LETTER TE WITH DESCENDER/1 CAPITAL LETTER STRAIGHT U/1 SMALL LETTER STRAIGHT U
  04B0 CYRILLIC CAPITAL LETTER STRAIGHT U WITH STROKE/1 SMALL LETTER STRAIGHT U WITH STROKE
  04B2 CYRILLIC CAPITAL LETTER HA WITH DESCENDER/1 SMALL LETTER HA WITH DESCENDER
  04B4 CYRILLIC CAPITAL LIGATURE TE TSE/1 SMALL LIGATURE TE TSE/1 CAPITAL LETTER CHE WITH DESCENDER
  04B7 CYRILLIC SMALL LETTER CHE WITH DESCENDER/1 CAPITAL LETTER CHE WITH VERTICAL STROKE
  04B9 CYRILLIC SMALL LETTER CHE WITH VERTICAL STROKE/1 CAPITAL LETTER SHHA/1 SMALL LETTER SHHA
  04BC CYRILLIC CAPITAL LETTER ABKHASIAN CHE/1 SMALL LETTER ABKHASIAN CHE
  04BE CYRILLIC CAPITAL LETTER ABKHASIAN CHE WITH DESCENDER
  04BF CYRILLIC SMALL LETTER ABKHASIAN CHE WITH DESCENDER/1 LETTER PALOCHKA
  04C1 CYRILLIC CAPITAL LETTER ZHE WITH BREVE/1 SMALL LETTER ZHE WITH BREVE
  04C3 CYRILLIC CAPITAL LETTER KA WITH HOOK/1 SMALL LETTER KA WITH HOOK
  04C5 CYRILLIC CAPITAL LETTER EL WITH TAIL/1 SMALL LETTER EL WITH TAIL
  04C7 CYRILLIC CAPITAL LETTER EN WITH HOOK/1 SMALL LETTER EN WITH HOOK
  04C9 CYRILLIC CAPITAL LETTER EN WITH TAIL/1 SMALL LETTER EN WITH TAIL
  04CB CYRILLIC CAPITAL LETTER KHAKASSIAN CHE/1 SMALL LETTER KHAKASSIAN CHE
  04CD CYRILLIC CAPITAL LETTER EM WITH TAIL/1 SMALL LETTER EM WITH TAIL/3 PALOCHKA
  04D0 CYRILLIC CAPITAL LETTER A WITH BREVE/1 SMALL LETTER A WITH BREVE
  04D2 CYRILLIC CAPITAL LETTER A WITH DIAERESIS/1 SMALL LETTER A WITH DIAERESIS
  04D4 CYRILLIC CAPITAL LIGATURE A IE/1 SMALL LIGATURE A IE/1 CAPITAL LETTER IE WITH BREVE
  04D7 CYRILLIC SMALL LETTER IE WITH BREVE/1 CAPITAL LETTER SCHWA/1 SMALL LETTER SCHWA
  04DA CYRILLIC CAPITAL LETTER SCHWA WITH DIAERESIS/1 SMALL LETTER SCHWA WITH DIAERESIS
  04DC CYRILLIC CAPITAL LETTER ZHE WITH DIAERESIS/1 SMALL LETTER ZHE WITH DIAERESIS
  04DE CYRILLIC CAPITAL LETTER ZE WITH DIAERESIS/1 SMALL LETTER ZE WITH DIAERESIS
  04E0 CYRILLIC CAPITAL LETTER ABKHASIAN DZE/1 SMALL LETTER ABKHASIAN DZE
  04E2 CYRILLIC CAPITAL LETTER I WITH MACRON/1 SMALL LETTER I WITH MACRON
  04E4 CYRILLIC CAPITAL LETTER I WITH DIAERESIS/1 SMALL LETTER I WITH DIAERESIS
  04E6 CYRILLIC CAPITAL LETTER O WITH DIAERESIS/1 SMALL LETTER O WITH DIAERESIS
  04E8 CYRILLIC CAPITAL LETTER BARRED O/1 SMALL LETTER BARRED O
  04EA CYRILLIC CAPITAL LETTER BARRED O WITH DIAERESIS/1 SMALL LETTER BARRED O WITH DIAERESIS
  04EC CYRILLIC CAPITAL LETTER E WITH DIAERESIS/1 SMALL LETTER E WITH DIAERESIS
  04EE CYRILLIC CAPITAL LETTER U WITH MACRON/1 SMALL LETTER U WITH MACRON
  04F0 CYRILLIC CAPITAL LETTER U WITH DIAERESIS/1 SMALL LETTER U WITH DIAERESIS
  04F2 CYRILLIC CAPITAL LETTER U WITH DOUBLE ACUTE/1 SMALL LETTER U WITH DOUBLE ACUTE
  04F4 CYRILLIC CAPITAL LETTER CHE WITH DIAERESIS/1 SMALL LETTER CHE WITH DIAERESIS
  04F6 CYRILLIC CAPITAL LETTER GHE WITH DESCENDER/1 SMALL LETTER GHE WITH DESCENDER
  04F8 CYRILLIC CAPITAL LETTER YERU WITH DIAERESIS/1 SMALL LETTER YERU WITH DIAERESIS
  04FA CYRILLIC CAPITAL LETTER GHE WITH STROKE AND HOOK/1 SMALL LETTER GHE WITH STROKE AND HOOK
  04FC CYRILLIC CAPITAL LETTER HA WITH HOOK/1 SMALL LETTER HA WITH HOOK
  04FE CYRILLIC CAPITAL LETTER HA WITH STROKE/1 SMALL LETTER HA WITH STROKE/1 CAPITAL LETTER KOMI DE
  0501 CYRILLIC SMALL LETTER KOMI DE/1 CAPITAL LETTER KOMI DJE/1 SMALL LETTER KOMI DJE
  0504 CYRILLIC CAPITAL LETTER KOMI ZJE/1 SMALL LETTER KOMI ZJE/1 CAPITAL LETTER KOMI DZJE
  0507 CYRILLIC SMALL LETTER KOMI DZJE/1 CAPITAL LETTER KOMI LJE/1 SMALL LETTER KOMI LJE
  050A CYRILLIC CAPITAL LETTER KOMI NJE/1 SMALL LETTER KOMI NJE/1 CAPITAL LETTER KOMI SJE
  050D CYRILLIC SMALL LETTER KOMI SJE/1 CAPITAL LETTER KOMI TJE/1 SMALL LETTER KOMI TJE
  0510 CYRILLIC CAPITAL LETTER REVERSED ZE/1 SMALL LETTER REVERSED ZE/1 CAPITAL LETTER EL WITH HOOK
  0513 CYRILLIC SMALL LETTER EL WITH HOOK/1 CAPITAL LETTER LHA/1 SMALL LETTER LHA
  0516 CYRILLIC CAPITAL LETTER RHA/1 SMALL LETTER RHA/1 CAPITAL LETTER YAE/1 SMALL LETTER YAE
  051A CYRILLIC CAPITAL LETTER QA/1 SMALL LETTER QA/1 CAPITAL LETTER WE/1 SMALL LETTER WE
  051E CYRILLIC CAPITAL LETTER ALEUT KA/1 SMALL LETTER ALEUT KA/1 CAPITAL LETTER EL WITH MIDDLE HOOK
  0521 CYRILLIC SMALL LETTER EL WITH MIDDLE HOOK/1 CAPITAL LETTER EN WITH MIDDLE HOOK
  0523 CYRILLIC SMALL LETTER EN WITH MIDDLE HOOK/1 CAPITAL LETTER PE WITH DESCENDER
  0525 CYRILLIC SMALL LETTER PE WITH DESCENDER/1 CAPITAL LETTER SHHA WITH DESCENDER
  0527 CYRILLIC SMALL LETTER SHHA WITH DESCENDER/1 CAPITAL LETTER EN WITH LEFT HOOK
  0529 CYRILLIC SMALL LETTER EN WITH LEFT HOOK/1 CAPITAL LETTER DZZHE/1 SMALL LETTER DZZHE
  052C CYRILLIC CAPITAL LETTER DCHE/1 SMALL LETTER DCHE/1 CAPITAL LETTER EL WITH DESCENDER
  052F CYRILLIC SMALL LETTER EL WITH DESCENDER
  0531 ARMENIAN CAPITAL LETTER AYB/3 BEN/3 GIM/3 DA/3 ECH/3 ZA/3 EH/3 ET/3 TO/3 ZHE/3 INI/3 LIWN
  053D ARMENIAN CAPITAL LETTER XEH/3 CA/3 KEN/3 HO/3 JA/3 GHAD/3 CHEH/3 MEN/3 YI/3 NOW/3 SHA/3 VO
  0549 ARMENIAN CAPITAL LETTER CHA/3 PEH/3 JHEH/3 RA/3 SEH/3 VEW/3 TIWN/3 REH/3 CO/3 YIWN/3 PIWR
  0554 ARMENIAN CAPITAL LETTER KEH/3 OH/3 FEH
  0559 ARMENIAN MODIFIER LETTER LEFT HALF RING/1 APOSTROPHE/1 EMPHASIS MARK/1 EXCLAMATION MARK
  055D ARMENIAN COMMA/1 QUESTION MARK/1 ABBREVIATION MARK/1 SMALL LETTER TURNED AYB/3 AYB/3 BEN
  0563 ARMENIAN SMALL LETTER GIM/3 DA/3 ECH/3 ZA/3 EH/3 ET/3 TO/3 ZHE/3 INI/3 LIWN/3 XEH/3 CA/3 KEN
  0570 ARMENIAN SMALL LETTER HO/3 JA/3 GHAD/3 CHEH/3 MEN/3 YI/3 NOW/3 SHA/3 VO/3 CHA/3 PEH/3 JHEH
  057C ARMENIAN SMALL LETTER RA/3 SEH/3 VEW/3 TIWN/3 REH/3 CO/3 YIWN/3 PIWR/3 KEH/3 OH/3 FEH
  0587 ARMENIAN SMALL LIGATURE ECH YIWN/2 LETTER YI WITH STROKE/1 FULL STOP/1 HYPHEN
  058D RIGHT-FACING ARMENIAN ETERNITY SIGN/0 LEFT-FACING ARMENIAN ETERNITY SIGN/0 ARMENIAN DRAM SIGN
  0591 HEBREW ACCENT ETNAHTA/2 SEGOL/2 SHALSHELET/2 ZAQEF QATAN/3 GADOL/2 TIPEHA/2 REVIA/2 ZARQA
  0599 HEBREW ACCENT PASHTA/2 YETIV/2 TEVIR/2 GERESH/3 MUQDAM/2 GERSHAYIM/2 QARNEY PARA
  05A0 HEBREW ACCENT TELISHA GEDOLA/2 PAZER/2 ATNAH HAFUKH/2 MUNAH/2 MAHAPAKH/2 MERKHA/3 KEFULA
  05A7 HEBREW ACCENT DARGA/2 QADMA/2 TELISHA QETANA/2 YERAH BEN YOMO/2 OLE/2 ILUY/2 DEHI/2 ZINOR
  05AF HEBREW MARK MASORA CIRCLE/1 POINT SHEVA/2 HATAF SEGOL/3 PATAH/3 QAMATS/2 HIRIQ/2 TSERE
  05B6 HEBREW POINT SEGOL/2 PATAH/2 QAMATS/2 HOLAM/3 HASER FOR VAV/2 QUBUTS/2 DAGESH OR MAPIQ
  05BD HEBREW POINT METEG/1 PUNCTUATION MAQAF/1 POINT RAFE/1 PUNCTUATION PASEQ/1 POINT SHIN DOT
  05C2 HEBREW POINT SIN DOT/1 PUNCTUATION SOF PASUQ/1 MARK UPPER DOT/2 LOWER DOT
  05C6 HEBREW PUNCTUATION NUN HAFUKHA/1 POINT QAMATS QATAN
  05D0 HEBREW LETTER ALEF/2 BET/2 GIMEL/2 DALET/2 HE/2 VAV/2 ZAYIN/2 HET/2 TET/2 YOD/2 FINAL KAF
  05DB HEBREW LETTER KAF/2 LAMED/2 FINAL MEM/2 MEM/2 FINAL NUN/2 NUN/2 SAMEKH/2 AYIN/2 FINAL PE/2 PE
  05E5 HEBREW LETTER FINAL TSADI/2 TSADI/2 QOF/2 RESH/2 SHIN/2 TAV
  05EF HEBREW YOD TRIANGLE/1 LIGATURE YIDDISH DOUBLE VAV/3 VAV YOD/3 DOUBLE YOD/1 PUNCTUATION GERESH
  05F4 HEBREW PUNCTUATION GERSHAYIM
  0600 ARABIC NUMBER SIGN/1 SIGN SANAH/1 FOOTNOTE MARKER/1 SIGN SAFHA/2 SAMVAT/1 NUMBER MARK ABOVE
  0606 ARABIC-INDIC CUBE ROOT/1 FOURTH ROOT/0 ARABIC RAY/0 ARABIC-INDIC PER MILLE SIGN
  060A ARABIC-INDIC PER TEN THOUSAND SIGN/0 AFGHANI SIGN/0 ARABIC COMMA/1 DATE SEPARATOR
  060E ARABIC POETIC VERSE SIGN/1 SIGN MISRA/2 SALLALLAHOU ALAYHE WASSALLAM/2 ALAYHE ASSALLAM
  0612 ARABIC SIGN RAHMATULLAH ALAYHE/2 RADI ALLAHOU ANHU/2 TAKHALLUS/1 SMALL HIGH TAH
  0616 ARABIC SMALL HIGH LIGATURE ALEF WITH LAM WITH YEH/3 ZAIN/2 FATHA/2 DAMMA/2 KASRA/1 SEMICOLON
  061C ARABIC LETTER MARK/1 END OF TEXT MARK/1 TRIPLE DOT PUNCTUATION MARK/1 QUESTION MARK
  0620 ARABIC LETTER KASHMIRI YEH/2 HAMZA/2 ALEF WITH MADDA ABOVE/4 HAMZA ABOVE
  0624 ARABIC LETTER WAW WITH HAMZA ABOVE/2 ALEF WITH HAMZA BELOW/2 YEH WITH HAMZA ABOVE/2 ALEF
  0628 ARABIC LETTER BEH/2 TEH MARBUTA/3/2 THEH/2 JEEM/2 HAH/2 KHAH/2 DAL/2 THAL/2 REH/2 ZAIN/2 SEEN
  0634 ARABIC LETTER SHEEN/2 SAD/2 DAD/2 TAH/2 ZAH/2 AIN/2 GHAIN/2 KEHEH WITH TWO DOTS ABOVE
  063C ARABIC LETTER KEHEH WITH THREE DOTS BELOW/2 FARSI YEH WITH INVERTED V/5 TWO DOTS ABOVE
  063F ARABIC LETTER FARSI YEH WITH THREE DOTS ABOVE/1 TATWEEL/1 LETTER FEH/2 QAF/2 KAF/2 LAM/2 MEEM
  0646 ARABIC LETTER NOON/2 HEH/2 WAW/2 ALEF MAKSURA/2 YEH/1 FATHATAN/1 DAMMATAN/1 KASRATAN/1 FATHA
  064F ARABIC DAMMA/1 KASRA/1 SHADDA/1 SUKUN/1 MADDAH ABOVE/1 HAMZA ABOVE/2 BELOW/1 SUBSCRIPT ALEF
  0657 ARABIC INVERTED DAMMA/1 MARK NOON GHUNNA/1 ZWARAKAY/1 VOWEL SIGN SMALL V ABOVE
  065B ARABIC VOWEL SIGN INVERTED SMALL V ABOVE/3 DOT BELOW/1 REVERSED DAMMA/1 FATHA WITH TWO DOTS
  065F ARABIC WAVY HAMZA BELOW/0 ARABIC-INDIC DIGIT ZERO/2 ONE/2 TWO/2 THREE/2 FOUR/2 FIVE/2 SIX
  0667 ARABIC-INDIC DIGIT SEVEN/2 EIGHT/2 NINE/0 ARABIC PERCENT SIGN/1 DECIMAL SEPARATOR
  066C ARABIC THOUSANDS SEPARATOR/1 FIVE POINTED STAR/1 LETTER DOTLESS BEH/3 QAF/2 SUPERSCRIPT ALEF
  0671 ARABIC LETTER ALEF WASLA/3 WITH WAVY HAMZA ABOVE/6 BELOW/2 HIGH HAMZA/4 ALEF/4 WAW
  0677 ARABIC LETTER U WITH HAMZA ABOVE/2 HIGH HAMZA YEH/2 TTEH/2 TTEHEH/2 BEEH/2 TEH WITH RING
  067D ARABIC LETTER TEH WITH THREE DOTS ABOVE DOWNWARDS/2 PEH/2 TEHEH/2 BEHEH
  0681 ARABIC LETTER HAH WITH HAMZA ABOVE/4 TWO DOTS VERTICAL ABOVE/2 NYEH/2 DYEH
  0685 ARABIC LETTER HAH WITH THREE DOTS ABOVE/2 TCHEH/2 TCHEHEH/2 DDAL/2 DAL WITH RING/4 DOT BELOW
  068B ARABIC LETTER DAL WITH DOT BELOW AND SMALL TAH/2 DAHAL/2 DDAHAL/2 DUL
  068F ARABIC LETTER DAL WITH THREE DOTS ABOVE DOWNWARDS/4 FOUR DOTS ABOVE/2 RREH/2 REH WITH SMALL V
  0693 ARABIC LETTER REH WITH RING/4 DOT BELOW/4 SMALL V BELOW/4 DOT BELOW AND DOT ABOVE
  0697 ARABIC LETTER REH WITH TWO DOTS ABOVE/2 JEH/2 REH WITH FOUR DOTS ABOVE
  069A ARABIC LETTER SEEN WITH DOT BELOW AND DOT ABOVE/4 THREE DOTS BELOW/7 AND THREE DOTS ABOVE
  069D ARABIC LETTER SAD WITH TWO DOTS BELOW/4 THREE DOTS ABOVE/2 TAH WITH THREE DOTS ABOVE
  06A0 ARABIC LETTER AIN WITH THREE DOTS ABOVE/2 DOTLESS FEH/2 FEH WITH DOT MOVED BELOW/5 BELOW
  06A4 ARABIC LETTER VEH/2 FEH WITH THREE DOTS BELOW/2 PEHEH/2 QAF WITH DOT ABOVE/4 THREE DOTS ABOVE
  06A9 ARABIC LETTER KEHEH/2 SWASH KAF/2 KAF WITH RING/4 DOT ABOVE/2 NG/2 KAF WITH THREE DOTS BELOW
  06AF ARABIC LETTER GAF/3 WITH RING/2 NGOEH/2 GAF WITH TWO DOTS BELOW/2 GUEH
  06B4 ARABIC LETTER GAF WITH THREE DOTS ABOVE/2 LAM WITH SMALL V/4 DOT ABOVE/4 THREE DOTS ABOVE
  06B8 ARABIC LETTER LAM WITH THREE DOTS BELOW/2 NOON WITH DOT BELOW/3 GHUNNA/2 RNOON
  06BC ARABIC LETTER NOON WITH RING/4 THREE DOTS ABOVE/2 HEH DOACHASHMEE/2 TCHEH WITH DOT ABOVE
  06C0 ARABIC LETTER HEH WITH YEH ABOVE/3 GOAL/4 WITH HAMZA ABOVE/2 TEH MARBUTA GOAL/2 WAW WITH RING
  06C5 ARABIC LETTER KIRGHIZ OE/2 OE/2 U/2 YU/2 KIRGHIZ YU/2 WAW WITH TWO DOTS ABOVE/2 VE
  06CC ARABIC LETTER FARSI YEH/2 YEH WITH TAIL/4 SMALL V/2 WAW WITH DOT ABOVE/2 E
  06D1 ARABIC LETTER YEH WITH THREE DOTS BELOW/3 BARREE/4 WITH HAMZA ABOVE/1 FULL STOP/1 LETTER AE
  06D6 ARABIC SMALL HIGH LIGATURE SAD WITH LAM WITH ALEF MAKSURA/4 QAF WITH LAM WITH ALEF MAKSURA
  06D8 ARABIC SMALL HIGH MEEM INITIAL FORM/3 LAM ALEF/3 JEEM/3 THREE DOTS/3 SEEN/1 END OF AYAH
  06DE ARABIC START OF RUB EL HIZB/1 SMALL HIGH ROUNDED ZERO/3 UPRIGHT RECTANGULAR ZERO
  06E1 ARABIC SMALL HIGH DOTLESS HEAD OF KHAH/3 MEEM ISOLATED FORM/2 LOW SEEN/2 HIGH MADDA/2 WAW
  06E6 ARABIC SMALL YEH/2 HIGH YEH/3 NOON/1 PLACE OF SAJDAH/1 EMPTY CENTRE LOW STOP/3 HIGH STOP
  06EC ARABIC ROUNDED HIGH STOP WITH FILLED CENTRE/1 SMALL LOW MEEM/1 LETTER DAL WITH INVERTED V
  06EF ARABIC LETTER REH WITH INVERTED V/0 EXTENDED ARABIC-INDIC DIGIT ZERO/3 ONE/3 TWO/3 THREE
  06F4 EXTENDED ARABIC-INDIC DIGIT FOUR/3 FIVE/3 SIX/3 SEVEN/3 EIGHT/3 NINE
  06FA ARABIC LETTER SHEEN WITH DOT BELOW/2 DAD WITH DOT BELOW/2 GHAIN WITH DOT BELOW
  06FD ARABIC SIGN SINDHI AMPERSAND/3 POSTPOSITION MEN/1 LETTER HEH WITH INVERTED V
  0700 SYRIAC END OF PARAGRAPH/1 SUPRALINEAR FULL STOP/1 SUBLINEAR FULL STOP/1 SUPRALINEAR COLON
  0704 SYRIAC SUBLINEAR COLON/1 HORIZONTAL COLON/1 COLON SKEWED LEFT/3 RIGHT
  0708 SYRIAC SUPRALINEAR COLON SKEWED LEFT/1 SUBLINEAR COLON SKEWED RIGHT/1 CONTRACTION
  070B SYRIAC HARKLEAN OBELUS/2 METOBELUS/2 ASTERISCUS
  070F SYRIAC ABBREVIATION MARK/1 LETTER ALAPH/2 SUPERSCRIPT ALAPH/2 BETH/2 GAMAL/3 GARSHUNI
  0715 SYRIAC LETTER DALATH/2 DOTLESS DALATH RISH/2 HE/2 WAW/2 ZAIN/2 HETH/2 TETH/3 GARSHUNI/2 YUDH
  071E SYRIAC LETTER YUDH HE/2 KAPH/2 LAMADH/2 MIM/2 NUN/2 SEMKATH/2 FINAL SEMKATH/2 E/2 PE
  0727 SYRIAC LETTER REVERSED PE/2 SADHE/2 QAPH/2 RISH/2 SHIN/2 TAW/2 PERSIAN BHETH/3 GHAMAL
  072F SYRIAC LETTER PERSIAN DHALATH/1 PTHAHA ABOVE/2 BELOW/2 DOTTED/1 ZQAPHA ABOVE/2 BELOW/2 DOTTED
  0736 SYRIAC RBASA ABOVE/2 BELOW/1 DOTTED ZLAMA HORIZONTAL/3 ANGULAR/1 HBASA ABOVE/2 BELOW
  073C SYRIAC HBASA-ESASA DOTTED/1 ESASA ABOVE/2 BELOW/1 RWAHA/1 FEMININE DOT/1 QUSHSHAYA/1 RUKKAKHA
  0743 SYRIAC TWO VERTICAL DOTS ABOVE/4 BELOW/1 THREE DOTS ABOVE/3 BELOW/1 OBLIQUE LINE ABOVE
  0748 SYRIAC OBLIQUE LINE BELOW/1 MUSIC/1 BARREKH
  074D SYRIAC LETTER SOGDIAN ZHAIN/3 KHAPH/3 FE
  0750 ARABIC LETTER BEH WITH THREE DOTS HORIZONTALLY BELOW/4 DOT BELOW AND THREE DOTS ABOVE
  0752 ARABIC LETTER BEH WITH THREE DOTS POINTING UPWARDS BELOW/9 AND TWO DOTS ABOVE
  0754 ARABIC LETTER BEH WITH TWO DOTS BELOW AND DOT ABOVE/4 INVERTED SMALL V BELOW/4 SMALL V
  0757 ARABIC LETTER HAH WITH TWO DOTS ABOVE/4 THREE DOTS POINTING UPWARDS BELOW
  0759 ARABIC LETTER DAL WITH TWO DOTS VERTICALLY BELOW AND SMALL TAH/4 INVERTED SMALL V BELOW
  075B ARABIC LETTER REH WITH STROKE/2 SEEN WITH FOUR DOTS ABOVE/2 AIN WITH TWO DOTS ABOVE
  075E ARABIC LETTER AIN WITH THREE DOTS POINTING DOWNWARDS ABOVE/4 TWO DOTS VERTICALLY ABOVE
  0760 ARABIC LETTER FEH WITH TWO DOTS BELOW/4 THREE DOTS POINTING UPWARDS BELOW
  0762 ARABIC LETTER KEHEH WITH DOT ABOVE/4 THREE DOTS ABOVE/6 POINTING UPWARDS BELOW
  0765 ARABIC LETTER MEEM WITH DOT ABOVE/5 BELOW/2 NOON WITH TWO DOTS BELOW/4 SMALL TAH/5 V
  076A ARABIC LETTER LAM WITH BAR/2 REH WITH TWO DOTS VERTICALLY ABOVE/4 HAMZA ABOVE
  076D ARABIC LETTER SEEN WITH TWO DOTS VERTICALLY ABOVE/2 HAH WITH SMALL ARABIC LETTER TAH BELOW
  076F ARABIC LETTER HAH WITH SMALL ARABIC LETTER TAH AND TWO DOTS
  0770 ARABIC LETTER SEEN WITH SMALL ARABIC LETTER TAH AND TWO DOTS
  0771 ARABIC LETTER REH WITH SMALL ARABIC LETTER TAH AND TWO DOTS
  0772 ARABIC LETTER HAH WITH SMALL ARABIC LETTER TAH ABOVE
  0773 ARABIC LETTER ALEF WITH EXTENDED ARABIC-INDIC DIGIT TWO ABOVE/7 THREE ABOVE
  0775 ARABIC LETTER FARSI YEH WITH EXTENDED ARABIC-INDIC DIGIT TWO ABOVE/8 THREE ABOVE/8 FOUR BELOW
  0778 ARABIC LETTER WAW WITH EXTENDED ARABIC-INDIC DIGIT TWO ABOVE/7 THREE ABOVE
  077A ARABIC LETTER YEH BARREE WITH EXTENDED ARABIC-INDIC DIGIT TWO ABOVE/8 THREE ABOVE
  077C ARABIC LETTER HAH WITH EXTENDED ARABIC-INDIC DIGIT FOUR BELOW
  077D ARABIC LETTER SEEN WITH EXTENDED ARABIC-INDIC DIGIT FOUR ABOVE/4 INVERTED V
  077F ARABIC LETTER KAF WITH TWO DOTS ABOVE/0 THAANA LETTER HAA/2 SHAVIYANI/2 NOONU/2 RAA/2 BAA
  0785 THAANA LETTER LHAVIYANI/2 KAAFU/2 ALIFU/2 VAAVU/2 MEEMU/2 FAAFU/2 DHAALU/2 THAA/2 LAAMU
  078E THAANA LETTER GAAFU/2 GNAVIYANI/2 SEENU/2 DAVIYANI/2 ZAVIYANI/2 TAVIYANI/2 YAA/2 PAVIYANI
  0796 THAANA LETTER JAVIYANI/2 CHAVIYANI/2 TTAA/2 HHAA/2 KHAA/2 THAALU/2 ZAA/2 SHEENU/2 SAADHU
  079F THAANA LETTER DAADHU/2 TO/2 ZO/2 AINU/2 GHAINU/2 QAAFU/2 WAAVU/1 ABAFILI/1 AABAAFILI
  07A8 THAANA IBIFILI/1 EEBEEFILI/1 UBUFILI/1 OOBOOFILI/1 EBEFILI/1 EYBEYFILI/1 OBOFILI/1 OABOAFILI
  07B0 THAANA SUKUN/1 LETTER NAA
  07C0 NKO DIGIT ZERO/2 ONE/2 TWO/2 THREE/2 FOUR/2 FIVE/2 SIX/2 SEVEN/2 EIGHT/2 NINE/1 LETTER A/2 EE
  07CC NKO LETTER I/2 E/2 U/2 OO/2 O/2 DAGBASINNA/2 N/2 BA/2 PA/2 TA/2 JA/2 CHA/2 DA/2 RA/2 RRA/2 SA
  07DC NKO LETTER GBA/2 FA/2 KA/2 LA/2 NA WOLOSO/2 MA/2 NYA/2 NA/2 HA/2 WA/2 YA/2 NYA WOLOSO
  07E8 NKO LETTER JONA JA/3 CHA/3 RA/1 COMBINING SHORT HIGH TONE/3 LOW TONE/3 RISING TONE
  07EE NKO COMBINING LONG DESCENDING TONE/3 HIGH TONE/3 LOW TONE/3 RISING TONE/2 NASALIZATION MARK
  07F3 NKO COMBINING DOUBLE DOT ABOVE/1 HIGH TONE APOSTROPHE/1 LOW TONE APOSTROPHE
  07F6 NKO SYMBOL OO DENNEN/2 GBAKURUNEN/1 COMMA/1 EXCLAMATION MARK/1 LAJANYALAN
  07FD NKO DANTAYALAN/1 DOROME SIGN/1 TAMAN SIGN/0 SAMARITAN LETTER ALAF/2 BIT/2 GAMAN/2 DALAT/2 IY
  0805 SAMARITAN LETTER BAA/2 ZEN/2 IT/2 TIT/2 YUT/2 KAAF/2 LABAT/2 MIM/2 NUN/2 SINGAAT/2 IN/2 FI
  0811 SAMARITAN LETTER TSAADIY/2 QUF/2 RISH/2 SHAN/2 TAAF/1 MARK IN/2 IN-ALAF/2 OCCLUSION/2 DAGESH
  081A SAMARITAN MODIFIER LETTER EPENTHETIC YUT/1 MARK EPENTHETIC YUT/1 VOWEL SIGN LONG E/3 E
  081E SAMARITAN VOWEL SIGN OVERLONG AA/3 LONG AA/3 AA/3 OVERLONG A/3 LONG A/3 A
  0824 SAMARITAN MODIFIER LETTER SHORT A/1 VOWEL SIGN SHORT A/3 LONG U/3 U/1 MODIFIER LETTER I
  0829 SAMARITAN VOWEL SIGN LONG I/3 I/3 O/3 SUKUN/1 MARK NEQUDAA
  0830 SAMARITAN PUNCTUATION NEQUDAA/2 AFSAAQ/2 ANGED/2 BAU/2 ATMAAU/2 SHIYYAALAA
  0836 SAMARITAN ABBREVIATION MARK/1 PUNCTUATION MELODIC QITSA/2 ZIQAA/2 QITSA/2 ZAEF/2 TURU
  083C SAMARITAN PUNCTUATION ARKAANU/2 SOF MASHFAAT/2 ANNAAU
  0840 MANDAIC LETTER HALQA/2 AB/2 AG/2 AD/2 AH/2 USHENNA/2 AZ/2 IT/2 ATT/2 AKSA/2 AK/2 AL/2 AM/2 AN
  084E MANDAIC LETTER AS/2 IN/2 AP/2 ASZ/2 AQ/2 AR/2 ASH/2 AT/2 DUSHENNA/2 KAD/2 AIN
  0859 MANDAIC AFFRICATION MARK/1 VOCALIZATION MARK/1 GEMINATION MARK
  085E MANDAIC PUNCTUATION
  0860 SYRIAC LETTER MALAYALAM NGA/3 JA/3 NYA/3 TTA/3 NNA/3 NNNA/3 BHA/3 RA/3 LLA/3 LLLA/3 SSA
  0870 ARABIC LETTER ALEF WITH ATTACHED FATHA/5 TOP RIGHT FATHA/4 RIGHT MIDDLE STROKE
  0873 ARABIC LETTER ALEF WITH LEFT MIDDLE STROKE/4 ATTACHED KASRA/5 BOTTOM RIGHT KASRA
  0876 ARABIC LETTER ALEF WITH ATTACHED ROUND DOT ABOVE/5 RIGHT ROUND DOT/5 LEFT ROUND DOT
  0879 ARABIC LETTER ALEF WITH ATTACHED ROUND DOT BELOW/4 DOT ABOVE
  087B ARABIC LETTER ALEF WITH ATTACHED TOP RIGHT FATHA AND DOT ABOVE
  087C ARABIC LETTER ALEF WITH RIGHT MIDDLE STROKE AND DOT ABOVE
  087D ARABIC LETTER ALEF WITH ATTACHED BOTTOM RIGHT KASRA AND DOT ABOVE
  087E ARABIC LETTER ALEF WITH ATTACHED TOP RIGHT FATHA AND LEFT RING
  087F ARABIC LETTER ALEF WITH RIGHT MIDDLE STROKE AND LEFT RING
  0880 ARABIC LETTER ALEF WITH ATTACHED BOTTOM RIGHT KASRA AND LEFT RING/5 RIGHT HAMZA/5 LEFT HAMZA
  0883 ARABIC TATWEEL WITH OVERSTRUCK HAMZA/4 WAW/3 TWO DOTS BELOW/1 LETTER THIN YEH
  0887 ARABIC BASELINE ROUND DOT/1 RAISED ROUND DOT/1 LETTER NOON WITH INVERTED SMALL V
  088A ARABIC LETTER HAH WITH INVERTED SMALL V BELOW/2 TAH WITH DOT BELOW/4 THREE DOTS BELOW
  088D ARABIC LETTER KEHEH WITH TWO DOTS VERTICALLY BELOW/1 VERTICAL TAIL
  0890 ARABIC POUND MARK ABOVE/1 PIASTRE MARK ABOVE
  0898 ARABIC SMALL HIGH WORD AL-JUZ/2 LOW WORD ISHMAAM/4 IMAALA/4 TASHEEL/1 MADDA WAAJIB
  089D ARABIC SUPERSCRIPT ALEF MOKHASSAS/1 DOUBLED MADDA/1 HALF MADDA OVER MADDA
  08A0 ARABIC LETTER BEH WITH SMALL V BELOW/4 HAMZA ABOVE/2 JEEM WITH TWO DOTS ABOVE
  08A3 ARABIC LETTER TAH WITH TWO DOTS ABOVE/2 FEH WITH DOT BELOW AND THREE DOTS ABOVE
  08A5 ARABIC LETTER QAF WITH DOT BELOW/2 LAM WITH DOUBLE BAR/2 MEEM WITH THREE DOTS ABOVE
  08A8 ARABIC LETTER YEH WITH TWO DOTS BELOW AND HAMZA ABOVE/8 DOT ABOVE/2 REH WITH LOOP
  08AB ARABIC LETTER WAW WITH DOT WITHIN/2 ROHINGYA YEH/2 LOW ALEF/2 DAL WITH THREE DOTS BELOW
  08AF ARABIC LETTER SAD WITH THREE DOTS BELOW/2 GAF WITH INVERTED STROKE/2 STRAIGHT WAW
  08B2 ARABIC LETTER ZAIN WITH INVERTED V ABOVE/2 AIN WITH THREE DOTS BELOW/2 KAF WITH DOT BELOW
  08B5 ARABIC LETTER QAF WITH DOT BELOW AND NO DOTS ABOVE/2 BEH WITH SMALL MEEM ABOVE
  08B7 ARABIC LETTER PEH WITH SMALL MEEM ABOVE/2 TEH WITH SMALL TEH ABOVE
  08B9 ARABIC LETTER REH WITH SMALL NOON ABOVE/2 YEH WITH TWO DOTS BELOW AND SMALL NOON ABOVE
  08BB ARABIC LETTER AFRICAN FEH/3 QAF/3 NOON/2 PEH WITH SMALL V/2 TEH WITH SMALL V
  08C0 ARABIC LETTER TTEH WITH SMALL V/2 TCHEH WITH SMALL V/2 KEHEH WITH SMALL V
  08C3 ARABIC LETTER GHAIN WITH THREE DOTS ABOVE/2 AFRICAN QAF WITH THREE DOTS ABOVE
  08C5 ARABIC LETTER JEEM WITH THREE DOTS ABOVE/6 BELOW/2 LAM WITH SMALL ARABIC LETTER TAH ABOVE
  08C8 ARABIC LETTER GRAF/1 SMALL FARSI YEH/2 HIGH FARSI YEH/3 YEH BARREE WITH TWO DOTS BELOW
  08CC ARABIC SMALL HIGH WORD SAH/3 ZAH/1 LARGE ROUND DOT ABOVE/4 BELOW/1 SUKUN BELOW
  08D1 ARABIC LARGE CIRCLE BELOW/2 ROUND DOT INSIDE CIRCLE BELOW/1 SMALL LOW WAW/2 HIGH WORD AR-RUB
  08D5 ARABIC SMALL HIGH SAD/3 AIN/3 QAF/3 NOON WITH KASRA/2 LOW NOON WITH KASRA
  08DA ARABIC SMALL HIGH WORD ATH-THALATHA/4 AS-SAJDA/4 AN-NISF/4 SAKTA/4 QIF/4 WAQFA
  08E0 ARABIC SMALL HIGH FOOTNOTE MARKER/3 SIGN SAFHA/1 DISPUTED END OF AYAH/1 TURNED DAMMA BELOW
  08E4 ARABIC CURLY FATHA/2 DAMMA/2 KASRA/2 FATHATAN/2 DAMMATAN/2 KASRATAN/1 TONE ONE DOT ABOVE
  08EB ARABIC TONE TWO DOTS ABOVE/2 LOOP ABOVE/2 ONE DOT BELOW/2 TWO DOTS BELOW/2 LOOP BELOW
  08F0 ARABIC OPEN FATHATAN/2 DAMMATAN/2 KASRATAN/1 SMALL HIGH WAW/1 FATHA WITH RING/3 DOT ABOVE
  08F6 ARABIC KASRA WITH DOT BELOW/1 LEFT ARROWHEAD ABOVE/1 RIGHT ARROWHEAD ABOVE
  08F9 ARABIC LEFT ARROWHEAD BELOW/1 RIGHT ARROWHEAD BELOW/1 DOUBLE RIGHT ARROWHEAD ABOVE/5 WITH DOT
  08FD ARABIC RIGHT ARROWHEAD ABOVE WITH DOT/1 DAMMA WITH DOT/1 MARK SIDEWAYS NOON GHUNNA
  0900 DEVANAGARI SIGN INVERTED CANDRABINDU/2 CANDRABINDU/2 ANUSVARA/2 VISARGA/1 LETTER SHORT A/2 A
  0906 DEVANAGARI LETTER AA/2 I/2 II/2 U/2 UU/2 VOCALIC R/3 L/2 CANDRA E/2 SHORT E/2 E/2 AI
  0911 DEVANAGARI LETTER CANDRA O/2 SHORT O/2 O/2 AU/2 KA/2 KHA/2 GA/2 GHA/2 NGA/2 CA/2 CHA/2 JA
  091D DEVANAGARI LETTER JHA/2 NYA/2 TTA/2 TTHA/2 DDA/2 DDHA/2 NNA/2 TA/2 THA/2 DA/2 DHA/2 NA/2 NNNA
  092A DEVANAGARI LETTER PA/2 PHA/2 BA/2 BHA/2 MA/2 YA/2 RA/2 RRA/2 LA/2 LLA/2 LLLA/2 VA/2 SHA/2 SSA
  0938 DEVANAGARI LETTER SA/2 HA/1 VOWEL SIGN OE/3 OOE/1 SIGN NUKTA/2 AVAGRAHA/1 VOWEL SIGN AA/3 I
  0940 DEVANAGARI VOWEL SIGN II/3 U/3 UU/3 VOCALIC R/4 RR/3 CANDRA E/3 SHORT E/3 E/3 AI/3 CANDRA O
  094A DEVANAGARI VOWEL SIGN SHORT O/3 O/3 AU/1 SIGN VIRAMA/1 VOWEL SIGN PRISHTHAMATRA E/3 AW/1 OM
  0951 DEVANAGARI STRESS SIGN UDATTA/3 ANUDATTA/1 GRAVE ACCENT/1 ACUTE ACCENT
  0955 DEVANAGARI VOWEL SIGN CANDRA LONG E/3 UE/3 UUE/1 LETTER QA/2 KHHA/2 GHHA/2 ZA/2 DDDHA/2 RHA
  095E DEVANAGARI LETTER FA/2 YYA/2 VOCALIC RR/3 LL/1 VOWEL SIGN VOCALIC L/4 LL/1 DANDA
  0965 DEVANAGARI DOUBLE DANDA/1 DIGIT ZERO/2 ONE/2 TWO/2 THREE/2 FOUR/2 FIVE/2 SIX/2 SEVEN/2 EIGHT
  096F DEVANAGARI DIGIT NINE/1 ABBREVIATION SIGN/1 SIGN HIGH SPACING DOT/1 LETTER CANDRA A/2 OE
  0974 DEVANAGARI LETTER OOE/2 AW/2 UE/2 UUE/2 MARWARI DDA/2 ZHA/2 HEAVY YA/2 GGA/2 JJA
  097D DEVANAGARI LETTER GLOTTAL STOP/2 DDDA/2 BBA/0 BENGALI ANJI/1 SIGN CANDRABINDU/2 ANUSVARA
  0983 BENGALI SIGN VISARGA
  0985 BENGALI LETTER A/2 AA/2 I/2 II/2 U/2 UU/2 VOCALIC R/3 L
  098F BENGALI LETTER E/2 AI
  0993 BENGALI LETTER O/2 AU/2 KA/2 KHA/2 GA/2 GHA/2 NGA/2 CA/2 CHA/2 JA/2 JHA/2 NYA/2 TTA/2 TTHA
  09A1 BENGALI LETTER DDA/2 DDHA/2 NNA/2 TA/2 THA/2 DA/2 DHA/2 NA
  09AA BENGALI LETTER PA/2 PHA/2 BA/2 BHA/2 MA/2 YA/2 RA
  09B2 BENGALI LETTER LA
  09B6 BENGALI LETTER SHA/2 SSA/2 SA/2 HA
  09BC BENGALI SIGN NUKTA/2 AVAGRAHA/1 VOWEL SIGN AA/3 I/3 II/3 U/3 UU/3 VOCALIC R/4 RR
  09C7 BENGALI VOWEL SIGN E/3 AI
  09CB BENGALI VOWEL SIGN O/3 AU/1 SIGN VIRAMA/1 LETTER KHANDA TA
  09D7 BENGALI AU LENGTH MARK
  09DC BENGALI LETTER RRA/2 RHA
  09DF BENGALI LETTER YYA/2 VOCALIC RR/3 LL/1 VOWEL SIGN VOCALIC L/4 LL
  09E6 BENGALI DIGIT ZERO/2 ONE/2 TWO/2 THREE/2 FOUR/2 FIVE/2 SIX/2 SEVEN/2 EIGHT/2 NINE
  09F0 BENGALI LETTER RA WITH MIDDLE DIAGONAL/4 LOWER DIAGONAL/1 RUPEE MARK/2 SIGN
  09F4 BENGALI CURRENCY NUMERATOR ONE/3 TWO/3 THREE/3 FOUR/3 ONE LESS THAN THE DENOMINATOR
  09F9 BENGALI CURRENCY DENOMINATOR SIXTEEN/1 ISSHAR/1 GANDA MARK/1 LETTER VEDIC ANUSVARA
  09FD BENGALI ABBREVIATION SIGN/1 SANDHI MARK
  0A01 GURMUKHI SIGN ADAK BINDI/2 BINDI/2 VISARGA
  0A05 GURMUKHI LETTER A/2 AA/2 I/2 II/2 U/2 UU
  0A0F GURMUKHI LETTER EE/2 AI
  0A13 GURMUKHI LETTER OO/2 AU/2 KA/2 KHA/2 GA/2 GHA/2 NGA/2 CA/2 CHA/2 JA/2 JHA/2 NYA/2 TTA/2 TTHA
  0A21 GURMUKHI LETTER DDA/2 DDHA/2 NNA/2 TA/2 THA/2 DA/2 DHA/2 NA
  0A2A GURMUKHI LETTER PA/2 PHA/2 BA/2 BHA/2 MA/2 YA/2 RA
  0A32 GURMUKHI LETTER LA/2 LLA
  0A35 GURMUKHI LETTER VA/2 SHA
  0A38 GURMUKHI LETTER SA/2 HA
  0A3C GURMUKHI SIGN NUKTA
  0A3E GURMUKHI VOWEL SIGN AA/3 I/3 II/3 U/3 UU
  0A47 GURMUKHI VOWEL SIGN EE/3 AI
  0A4B GURMUKHI VOWEL SIGN OO/3 AU/1 SIGN VIRAMA
  0A51 GURMUKHI SIGN UDAAT
  0A59 GURMUKHI LETTER KHHA/2 GHHA/2 ZA/2 RRA
  0A5E GURMUKHI LETTER FA
  0A66 GURMUKHI DIGIT ZERO/2 ONE/2 TWO/2 THREE/2 FOUR/2 FIVE/2 SIX/2 SEVEN/2 EIGHT/2 NINE/1 TIPPI
  0A71 GURMUKHI ADDAK/1 IRI/1 URA/1 EK ONKAR/1 SIGN YAKASH/1 ABBREVIATION SIGN
  0A81 GUJARATI SIGN CANDRABINDU/2 ANUSVARA/2 VISARGA
  0A85 GUJARATI LETTER A/2 AA/2 I/2 II/2 U/2 UU/2 VOCALIC R/3 L/1 VOWEL CANDRA E
  0A8F GUJARATI LETTER E/2 AI/1 VOWEL CANDRA O
  0A93 GUJARATI LETTER O/2 AU/2 KA/2 KHA/2 GA/2 GHA/2 NGA/2 CA/2 CHA/2 JA/2 JHA/2 NYA/2 TTA/2 TTHA
  0AA1 GUJARATI LETTER DDA/2 DDHA/2 NNA/2 TA/2 THA/2 DA/2 DHA/2 NA
  0AAA GUJARATI LETTER PA/2 PHA/2 BA/2 BHA/2 MA/2 YA/2 RA
  0AB2 GUJARATI LETTER LA/2 LLA
  0AB5 GUJARATI LETTER VA/2 SHA/2 SSA/2 SA/2 HA
  0ABC GUJARATI SIGN NUKTA/2 AVAGRAHA/1 VOWEL SIGN AA/3 I/3 II/3 U/3 UU/3 VOCALIC R/4 RR/3 CANDRA E
  0AC7 GUJARATI VOWEL SIGN E/3 AI/3 CANDRA O
  0ACB GUJARATI VOWEL SIGN O/3 AU/1 SIGN VIRAMA
  0AD0 GUJARATI OM
  0AE0 GUJARATI LETTER VOCALIC RR/3 LL/1 VOWEL SIGN VOCALIC L/4 LL
  0AE6 GUJARATI DIGIT ZERO/2 ONE/2 TWO/2 THREE/2 FOUR/2 FIVE/2 SIX/2 SEVEN/2 EIGHT/2 NINE
  0AF0 GUJARATI ABBREVIATION SIGN/1 RUPEE SIGN
  0AF9 GUJARATI LETTER ZHA/1 SIGN SUKUN/2 SHADDA/2 MADDAH/2 THREE-DOT NUKTA ABOVE
  0AFE GUJARATI SIGN CIRCLE NUKTA ABOVE/2 TWO-CIRCLE NUKTA ABOVE
  0B01 ORIYA SIGN CANDRABINDU/2 ANUSVARA/2 VISARGA
  0B05 ORIYA LETTER A/2 AA/2 I/2 II/2 U/2 UU/2 VOCALIC R/3 L
  0B0F ORIYA LETTER E/2 AI
  0B13 ORIYA LETTER O/2 AU/2 KA/2 KHA/2 GA/2 GHA/2 NGA/2 CA/2 CHA/2 JA/2 JHA/2 NYA/2 TTA/2 TTHA
  0B21 ORIYA LETTER DDA/2 DDHA/2 NNA/2 TA/2 THA/2 DA/2 DHA/2 NA
  0B2A ORIYA LETTER PA/2 PHA/2 BA/2 BHA/2 MA/2 YA/2 RA
  0B32 ORIYA LETTER LA/2 LLA
  0B35 ORIYA LETTER VA/2 SHA/2 SSA/2 SA/2 HA
  0B3C ORIYA SIGN NUKTA/2 AVAGRAHA/1 VOWEL SIGN AA/3 I/3 II/3 U/3 UU/3 VOCALIC R/4 RR
  0B47 ORIYA VOWEL SIGN E/3 AI
  0B4B ORIYA VOWEL SIGN O/3 AU/1 SIGN VIRAMA
  0B55 ORIYA SIGN OVERLINE/1 AI LENGTH MARK/1 AU LENGTH MARK
  0B5C ORIYA LETTER RRA/2 RHA
  0B5F ORIYA LETTER YYA/2 VOCALIC RR/3 LL/1 VOWEL SIGN VOCALIC L/4 LL
  0B66 ORIYA DIGIT ZERO/2 ONE/2 TWO/2 THREE/2 FOUR/2 FIVE/2 SIX/2 SEVEN/2 EIGHT/2 NINE/1 ISSHAR
  0B71 ORIYA LETTER WA/1 FRACTION ONE QUARTER/3 HALF/2 THREE QUARTERS/2 ONE SIXTEENTH/3 EIGHTH
  0B77 ORIYA FRACTION THREE SIXTEENTHS
  0B82 TAMIL SIGN ANUSVARA/2 VISARGA
  0B85 TAMIL LETTER A/2 AA/2 I/2 II/2 U/2 UU
  0B8E TAMIL LETTER E/2 EE/2 AI
  0B92 TAMIL LETTER O/2 OO/2 AU/2 KA
  0B99 TAMIL LETTER NGA/2 CA
  0B9C TAMIL LETTER JA
  0B9E TAMIL LETTER NYA/2 TTA
  0BA3 TAMIL LETTER NNA/2 TA
  0BA8 TAMIL LETTER NA/2 NNNA/2 PA
  0BAE TAMIL LETTER MA/2 YA/2 RA/2 RRA/2 LA/2 LLA/2 LLLA/2 VA/2 SHA/2 SSA/2 SA/2 HA
  0BBE TAMIL VOWEL SIGN AA/3 I/3 II/3 U/3 UU
  0BC6 TAMIL VOWEL SIGN E/3 EE/3 AI
  0BCA TAMIL VOWEL SIGN O/3 OO/3 AU/1 SIGN VIRAMA
  0BD0 TAMIL OM
  0BD7 TAMIL AU LENGTH MARK
  0BE6 TAMIL DIGIT ZERO/2 ONE/2 TWO/2 THREE/2 FOUR/2 FIVE/2 SIX/2 SEVEN/2 EIGHT/2 NINE/1 NUMBER TEN
  0BF1 TAMIL NUMBER ONE HUNDRED/3 THOUSAND/1 DAY SIGN/1 MONTH SIGN/1 YEAR SIGN/1 DEBIT SIGN
  0BF7 TAMIL CREDIT SIGN/1 AS ABOVE SIGN/1 RUPEE SIGN/1 NUMBER SIGN
  0C00 TELUGU SIGN COMBINING CANDRABINDU ABOVE/2 CANDRABINDU/2 ANUSVARA/2 VISARGA
  0C04 TELUGU SIGN COMBINING ANUSVARA ABOVE/1 LETTER A/2 AA/2 I/2 II/2 U/2 UU/2 VOCALIC R/3 L
  0C0E TELUGU LETTER E/2 EE/2 AI
  0C12 TELUGU LETTER O/2 OO/2 AU/2 KA/2 KHA/2 GA/2 GHA/2 NGA/2 CA/2 CHA/2 JA/2 JHA/2 NYA/2 TTA
  0C20 TELUGU LETTER TTHA/2 DDA/2 DDHA/2 NNA/2 TA/2 THA/2 DA/2 DHA/2 NA
  0C2A TELUGU LETTER PA/2 PHA/2 BA/2 BHA/2 MA/2 YA/2 RA/2 RRA/2 LA/2 LLA/2 LLLA/2 VA/2 SHA/2 SSA
  0C38 TELUGU LETTER SA/2 HA
  0C3C TELUGU SIGN NUKTA/2 AVAGRAHA/1 VOWEL SIGN AA/3 I/3 II/3 U/3 UU/3 VOCALIC R/4 RR
  0C46 TELUGU VOWEL SIGN E/3 EE/3 AI
  0C4A TELUGU VOWEL SIGN O/3 OO/3 AU/1 SIGN VIRAMA
  0C55 TELUGU LENGTH MARK/1 AI LENGTH MARK
  0C58 TELUGU LETTER TSA/2 DZA/2 RRRA
  0C5D TELUGU LETTER NAKAARA POLLU
  0C60 TELUGU LETTER VOCALIC RR/3 LL/1 VOWEL SIGN VOCALIC L/4 LL
  0C66 TELUGU DIGIT ZERO/2 ONE/2 TWO/2 THREE/2 FOUR/2 FIVE/2 SIX/2 SEVEN/2 EIGHT/2 NINE
  0C77 TELUGU SIGN SIDDHAM/1 FRACTION DIGIT ZERO FOR ODD POWERS OF FOUR/3 ONE FOR ODD POWERS OF FOUR
  0C7A TELUGU FRACTION DIGIT TWO FOR ODD POWERS OF FOUR/3 THREE FOR ODD POWERS OF FOUR
  0C7C TELUGU FRACTION DIGIT ONE FOR EVEN POWERS OF FOUR/3 TWO FOR EVEN POWERS OF FOUR
  0C7E TELUGU FRACTION DIGIT THREE FOR EVEN POWERS OF FOUR/1 SIGN TUUMU
  0C80 KANNADA SIGN SPACING CANDRABINDU/2 CANDRABINDU/2 ANUSVARA/2 VISARGA/2 SIDDHAM/1 LETTER A/2 AA
  0C87 KANNADA LETTER I/2 II/2 U/2 UU/2 VOCALIC R/3 L
  0C8E KANNADA LETTER E/2 EE/2 AI
  0C92 KANNADA LETTER O/2 OO/2 AU/2 KA/2 KHA/2 GA/2 GHA/2 NGA/2 CA/2 CHA/2 JA/2 JHA/2 NYA/2 TTA
  0CA0 KANNADA LETTER TTHA/2 DDA/2 DDHA/2 NNA/2 TA/2 THA/2 DA/2 DHA/2 NA
  0CAA KANNADA LETTER PA/2 PHA/2 BA/2 BHA/2 MA/2 YA/2 RA/2 RRA/2 LA/2 LLA
  0CB5 KANNADA LETTER VA/2 SHA/2 SSA/2 SA/2 HA
  0CBC KANNADA SIGN NUKTA/2 AVAGRAHA/1 VOWEL SIGN AA/3 I/3 II/3 U/3 UU/3 VOCALIC R/4 RR
  0CC6 KANNADA VOWEL SIGN E/3 EE/3 AI
  0CCA KANNADA VOWEL SIGN O/3 OO/3 AU/1 SIGN VIRAMA
  0CD5 KANNADA LENGTH MARK/1 AI LENGTH MARK
  0CDD KANNADA LETTER NAKAARA POLLU/2 FA
  0CE0 KANNADA LETTER VOCALIC RR/3 LL/1 VOWEL SIGN VOCALIC L/4 LL
  0CE6 KANNADA DIGIT ZERO/2 ONE/2 TWO/2 THREE/2 FOUR/2 FIVE/2 SIX/2 SEVEN/2 EIGHT/2 NINE
  0CF1 KANNADA SIGN JIHVAMULIYA/2 UPADHMANIYA
  0D00 MALAYALAM SIGN COMBINING ANUSVARA ABOVE/2 CANDRABINDU/2 ANUSVARA/2 VISARGA
  0D04 MALAYALAM LETTER VEDIC ANUSVARA/2 A/2 AA/2 I/2 II/2 U/2 UU/2 VOCALIC R/3 L
  0D0E MALAYALAM LETTER E/2 EE/2 AI
  0D12 MALAYALAM LETTER O/2 OO/2 AU/2 KA/2 KHA/2 GA/2 GHA/2 NGA/2 CA/2 CHA/2 JA/2 JHA/2 NYA/2 TTA
  0D20 MALAYALAM LETTER TTHA/2 DDA/2 DDHA/2 NNA/2 TA/2 THA/2 DA/2 DHA/2 NA/2 NNNA/2 PA/2 PHA/2 BA
  0D2D MALAYALAM LETTER BHA/2 MA/2 YA/2 RA/2 RRA/2 LA/2 LLA/2 LLLA/2 VA/2 SHA/2 SSA/2 SA/2 HA/2 TTTA
  0D3B MALAYALAM SIGN VERTICAL BAR VIRAMA/2 CIRCULAR VIRAMA/2 AVAGRAHA/1 VOWEL SIGN AA/3 I/3 II/3 U
  0D42 MALAYALAM VOWEL SIGN UU/3 VOCALIC R/4 RR
  0D46 MALAYALAM VOWEL SIGN E/3 EE/3 AI
  0D4A MALAYALAM VOWEL SIGN O/3 OO/3 AU/1 SIGN VIRAMA/1 LETTER DOT REPH/1 SIGN PARA
  0D54 MALAYALAM LETTER CHILLU M/3 Y/3 LLL/1 AU LENGTH MARK/1 FRACTION ONE ONE-HUNDRED-AND-SIXTIETH
  0D59 MALAYALAM FRACTION ONE FORTIETH/2 THREE EIGHTIETHS/2 ONE TWENTIETH/3 TENTH/2 THREE TWENTIETHS
  0D5E MALAYALAM FRACTION ONE FIFTH/1 LETTER ARCHAIC II/2 VOCALIC RR/3 LL/1 VOWEL SIGN VOCALIC L
  0D63 MALAYALAM VOWEL SIGN VOCALIC LL
  0D66 MALAYALAM DIGIT ZERO/2 ONE/2 TWO/2 THREE/2 FOUR/2 FIVE/2 SIX/2 SEVEN/2 EIGHT/2 NINE
  0D70 MALAYALAM NUMBER TEN/2 ONE HUNDRED/3 THOUSAND/1 FRACTION ONE QUARTER/3 HALF/2 THREE QUARTERS
  0D76 MALAYALAM FRACTION ONE SIXTEENTH/3 EIGHTH/2 THREE SIXTEENTHS/1 DATE MARK/1 LETTER CHILLU NN
  0D7B MALAYALAM LETTER CHILLU N/3 RR/3 L/3 LL/3 K
  0D81 SINHALA SIGN CANDRABINDU/2 ANUSVARAYA/2 VISARGAYA
  0D85 SINHALA LETTER AYANNA/2 AAYANNA/2 AEYANNA/2 AEEYANNA/2 IYANNA/2 IIYANNA/2 UYANNA/2 UUYANNA
  0D8D SINHALA LETTER IRUYANNA/2 IRUUYANNA/2 ILUYANNA/2 ILUUYANNA/2 EYANNA/2 EEYANNA/2 AIYANNA
  0D94 SINHALA LETTER OYANNA/2 OOYANNA/2 AUYANNA
  0D9A SINHALA LETTER ALPAPRAANA KAYANNA/2 MAHAAPRAANA KAYANNA/2 ALPAPRAANA GAYANNA
  0D9D SINHALA LETTER MAHAAPRAANA GAYANNA/2 KANTAJA NAASIKYAYA/2 SANYAKA GAYANNA
  0DA0 SINHALA LETTER ALPAPRAANA CAYANNA/2 MAHAAPRAANA CAYANNA/2 ALPAPRAANA JAYANNA
  0DA3 SINHALA LETTER MAHAAPRAANA JAYANNA/2 TAALUJA NAASIKYAYA/3 SANYOOGA NAAKSIKYAYA
  0DA6 SINHALA LETTER SANYAKA JAYANNA/2 ALPAPRAANA TTAYANNA/2 MAHAAPRAANA TTAYANNA
  0DA9 SINHALA LETTER ALPAPRAANA DDAYANNA/2 MAHAAPRAANA DDAYANNA/2 MUURDHAJA NAYANNA
  0DAC SINHALA LETTER SANYAKA DDAYANNA/2 ALPAPRAANA TAYANNA/2 MAHAAPRAANA TAYANNA
  0DAF SINHALA LETTER ALPAPRAANA DAYANNA/2 MAHAAPRAANA DAYANNA/2 DANTAJA NAYANNA
  0DB3 SINHALA LETTER SANYAKA DAYANNA/2 ALPAPRAANA PAYANNA/2 MAHAAPRAANA PAYANNA
  0DB6 SINHALA LETTER ALPAPRAANA BAYANNA/2 MAHAAPRAANA BAYANNA/2 MAYANNA/2 AMBA BAYANNA/2 YAYANNA
  0DBB SINHALA LETTER RAYANNA
  0DBD SINHALA LETTER DANTAJA LAYANNA
  0DC0 SINHALA LETTER VAYANNA/2 TAALUJA SAYANNA/2 MUURDHAJA SAYANNA/2 DANTAJA SAYANNA/2 HAYANNA
  0DC5 SINHALA LETTER MUURDHAJA LAYANNA/2 FAYANNA
  0DCA SINHALA SIGN AL-LAKUNA
  0DCF SINHALA VOWEL SIGN AELA-PILLA/3 KETTI AEDA-PILLA/3 DIGA AEDA-PILLA/3 KETTI IS-PILLA
  0DD3 SINHALA VOWEL SIGN DIGA IS-PILLA/3 KETTI PAA-PILLA
  0DD6 SINHALA VOWEL SIGN DIGA PAA-PILLA
  0DD8 SINHALA VOWEL SIGN GAETTA-PILLA/3 KOMBUVA/3 DIGA KOMBUVA/3 KOMBU DEKA
  0DDC SINHALA VOWEL SIGN KOMBUVA HAA AELA-PILLA/5 DIGA AELA-PILLA/5 GAYANUKITTA/3 GAYANUKITTA
  0DE6 SINHALA LITH DIGIT ZERO/3 ONE/3 TWO/3 THREE/3 FOUR/3 FIVE/3 SIX/3 SEVEN/3 EIGHT/3 NINE
  0DF2 SINHALA VOWEL SIGN DIGA GAETTA-PILLA/4 GAYANUKITTA/1 PUNCTUATION KUNDDALIYA
  0E01 THAI CHARACTER KO KAI/2 KHO KHAI/3 KHUAT/3 KHWAI/3 KHON/3 RAKHANG/2 NGO NGU/2 CHO CHAN
  0E09 THAI CHARACTER CHO CHING/3 CHANG/2 SO SO/2 CHO CHOE/2 YO YING/2 DO CHADA/2 TO PATAK
  0E10 THAI CHARACTER THO THAN/3 NANGMONTHO/3 PHUTHAO/2 NO NEN/2 DO DEK/2 TO TAO/2 THO THUNG
  0E17 THAI CHARACTER THO THAHAN/3 THONG/2 NO NU/2 BO BAIMAI/2 PO PLA/2 PHO PHUNG/2 FO FA/2 PHO PHAN
  0E1F THAI CHARACTER FO FAN/2 PHO SAMPHAO/2 MO MA/2 YO YAK/2 RO RUA/2 RU/2 LO LING/2 LU/2 WO WAEN
  0E28 THAI CHARACTER SO SALA/3 RUSI/3 SUA/2 HO HIP/2 LO CHULA/2 O ANG/2 HO NOKHUK/2 PAIYANNOI
  0E30 THAI CHARACTER SARA A/2 MAI HAN-AKAT/2 SARA AA/3 AM/3 I/3 II/3 UE/3 UEE/3 U/3 UU/2 PHINTHU
  0E3F THAI CURRENCY SYMBOL BAHT/1 CHARACTER SARA E/3 AE/3 O/3 AI MAIMUAN/4 MAIMALAI/2 LAKKHANGYAO
  0E46 THAI CHARACTER MAIYAMOK/2 MAITAIKHU/2 MAI EK/3 THO/3 TRI/3 CHATTAWA/2 THANTHAKHAT/2 NIKHAHIT
  0E4E THAI CHARACTER YAMAKKAN/2 FONGMAN/1 DIGIT ZERO/2 ONE/2 TWO/2 THREE/2 FOUR/2 FIVE/2 SIX
  0E57 THAI DIGIT SEVEN/2 EIGHT/2 NINE/1 CHARACTER ANGKHANKHU/2 KHOMUT
  0E81 LAO LETTER KO/2 KHO SUNG
  0E84 LAO LETTER KHO TAM
  0E86 LAO LETTER PALI GHA/2 NGO/2 CO/2 PALI CHA/2 SO TAM
  0E8C LAO LETTER PALI JHA/2 NYO/2 PALI NYA/3 TTA/3 TTHA/3 DDA/3 DDHA/3 NNA/2 DO/2 TO/2 THO SUNG
  0E97 LAO LETTER THO TAM/2 PALI DHA/2 NO/2 BO/2 PO/2 PHO SUNG/2 FO TAM/2 PHO TAM/2 FO SUNG
  0EA0 LAO LETTER PALI BHA/2 MO/2 YO/2 LO LING
  0EA5 LAO LETTER LO LOOT
  0EA7 LAO LETTER WO/2 SANSKRIT SHA/3 SSA/2 SO SUNG/2 HO SUNG/2 PALI LLA/2 O/2 HO TAM/1 ELLIPSIS
  0EB0 LAO VOWEL SIGN A/3 MAI KAN/3 AA/3 AM/3 I/3 II/3 Y/3 YY/3 U/3 UU/1 SIGN PALI VIRAMA
  0EBB LAO VOWEL SIGN MAI KON/1 SEMIVOWEL SIGN LO/3 NYO
  0EC0 LAO VOWEL SIGN E/3 EI/3 O/3 AY/3 AI
  0EC6 LAO KO LA
  0EC8 LAO TONE MAI EK/3 THO/3 TI/3 CATAWA/1 CANCELLATION MARK/1 NIGGAHITA
  0ED0 LAO DIGIT ZERO/2 ONE/2 TWO/2 THREE/2 FOUR/2 FIVE/2 SIX/2 SEVEN/2 EIGHT/2 NINE
  0EDC LAO HO NO/2 MO/1 LETTER KHMU GO/3 NYO
  0F00 TIBETAN SYLLABLE OM/1 MARK GTER YIG MGO TRUNCATED A/5 -UM RNAM BCAD MA/6 GTER TSHEG MA
  0F04 TIBETAN MARK INITIAL YIG MGO MDUN MA/2 CLOSING YIG MGO SGAB MA/2 CARET YIG MGO PHUR SHAD MA
  0F07 TIBETAN MARK YIG MGO TSHEG SHAD MA/2 SBRUL SHAD/2 BSKUR YIG MGO/2 BKA- SHOG YIG MGO
  0F0B TIBETAN MARK INTERSYLLABIC TSHEG/2 DELIMITER TSHEG BSTAR/2 SHAD/2 NYIS SHAD/2 TSHEG SHAD
  0F10 TIBETAN MARK NYIS TSHEG SHAD/2 RIN CHEN SPUNGS SHAD/2 RGYA GRAM SHAD
  0F13 TIBETAN MARK CARET -DZUD RTAGS ME LONG CAN/2 GTER TSHEG/1 LOGOTYPE SIGN CHAD RTAGS
  0F16 TIBETAN LOGOTYPE SIGN LHAG RTAGS/1 ASTROLOGICAL SIGN SGRA GCAN -CHAR RTAGS/3 -KHYUD PA
  0F19 TIBETAN ASTROLOGICAL SIGN SDONG TSHUGS/1 SIGN RDEL DKAR GCIG/4 GNYIS/4 GSUM/3 NAG GCIG
  0F1E TIBETAN SIGN RDEL NAG GNYIS/3 DKAR RDEL NAG/1 DIGIT ZERO/2 ONE/2 TWO/2 THREE/2 FOUR/2 FIVE
  0F26 TIBETAN DIGIT SIX/2 SEVEN/2 EIGHT/2 NINE/2 HALF ONE/3 TWO/3 THREE/3 FOUR/3 FIVE/3 SIX/3 SEVEN
  0F31 TIBETAN DIGIT HALF EIGHT/3 NINE/3 ZERO/1 MARK BSDUS RTAGS/2 NGAS BZUNG NYI ZLA
  0F36 TIBETAN MARK CARET -DZUD RTAGS BZHI MIG CAN/2 NGAS BZUNG SGOR RTAGS/2 CHE MGO/2 TSA -PHRU
  0F3A TIBETAN MARK GUG RTAGS GYON/4 GYAS/2 ANG KHANG GYON/4 GYAS/1 SIGN YAR TSHES/2 MAR TSHES
  0F40 TIBETAN LETTER KA/2 KHA/2 GA/2 GHA/2 NGA/2 CA/2 CHA/2 JA
  0F49 TIBETAN LETTER NYA/2 TTA/2 TTHA/2 DDA/2 DDHA/2 NNA/2 TA/2 THA/2 DA/2 DHA/2 NA/2 PA/2 PHA/2 BA
  0F57 TIBETAN LETTER BHA/2 MA/2 TSA/2 TSHA/2 DZA/2 DZHA/2 WA/2 ZHA/2 ZA/2 -A/2 YA/2 RA/2 LA/2 SHA
  0F65 TIBETAN LETTER SSA/2 SA/2 HA/2 A/2 KSSA/2 FIXED-FORM RA/2 KKA/2 RRA
  0F71 TIBETAN VOWEL SIGN AA/3 I/3 II/3 U/3 UU/3 VOCALIC R/4 RR/4 L/4 LL/3 E/3 EE/3 O/3 OO
  0F7E TIBETAN SIGN RJES SU NGA RO/2 RNAM BCAD/1 VOWEL SIGN REVERSED I/4 II/1 SIGN NYI ZLA NAA DA
  0F83 TIBETAN SIGN SNA LDAN/1 MARK HALANTA/2 PALUTA/1 SIGN LCI RTAGS/2 YANG RTAGS/2 LCE TSA CAN
  0F89 TIBETAN SIGN MCHU CAN/2 GRU CAN RGYINGS/3 MED RGYINGS/2 INVERTED MCHU CAN
  0F8D TIBETAN SUBJOINED SIGN LCE TSA CAN/3 MCHU CAN/3 INVERTED MCHU CAN/2 LETTER KA/3 KHA/3 GA
  0F93 TIBETAN SUBJOINED LETTER GHA/3 NGA/3 CA/3 CHA/3 JA
  0F99 TIBETAN SUBJOINED LETTER NYA/3 TTA/3 TTHA/3 DDA/3 DDHA/3 NNA/3 TA/3 THA/3 DA/3 DHA/3 NA/3 PA
  0FA5 TIBETAN SUBJOINED LETTER PHA/3 BA/3 BHA/3 MA/3 TSA/3 TSHA/3 DZA/3 DZHA/3 WA/3 ZHA/3 ZA/3 -A
  0FB1 TIBETAN SUBJOINED LETTER YA/3 RA/3 LA/3 SHA/3 SSA/3 SA/3 HA/3 A/3 KSSA/3 FIXED-FORM WA/4 YA
  0FBC TIBETAN SUBJOINED LETTER FIXED-FORM RA
  0FBE TIBETAN KU RU KHA/4 BZHI MIG CAN/1 CANTILLATION SIGN HEAVY BEAT/3 LIGHT BEAT/3 CANG TE-U
  0FC3 TIBETAN CANTILLATION SIGN SBUB -CHAL/1 SYMBOL DRIL BU/2 RDO RJE/2 PADMA GDAN
  0FC7 TIBETAN SYMBOL RDO RJE RGYA GRAM/2 PHUR PA/2 NOR BU/4 NYIS -KHYIL/4 GSUM -KHYIL/4 BZHI -KHYIL
  0FCE TIBETAN SIGN RDEL NAG RDEL DKAR/4 GSUM/1 MARK BSKA- SHOG GI MGO RGYAN
  0FD1 TIBETAN MARK MNYAM YIG GI MGO RGYAN/2 NYIS TSHEG/2 INITIAL BRDA RNYING YIG MGO MDUN MA
  0FD4 TIBETAN MARK CLOSING BRDA RNYING YIG MGO SGAB MA/0 RIGHT-FACING SVASTI SIGN
  0FD6 LEFT-FACING SVASTI SIGN/0 RIGHT-FACING SVASTI SIGN WITH DOTS
  0FD8 LEFT-FACING SVASTI SIGN WITH DOTS/0 TIBETAN MARK LEADING MCHAN RTAGS/2 TRAILING MCHAN RTAGS
  1000 MYANMAR LETTER KA/2 KHA/2 GA/2 GHA/2 NGA/2 CA/2 CHA/2 JA/2 JHA/2 NYA/2 NNYA/2 TTA/2 TTHA
  100D MYANMAR LETTER DDA/2 DDHA/2 NNA/2 TA/2 THA/2 DA/2 DHA/2 NA/2 PA/2 PHA/2 BA/2 BHA/2 MA/2 YA
  101B MYANMAR LETTER RA/2 LA/2 WA/2 SA/2 HA/2 LLA/2 A/2 SHAN A/2 I/2 II/2 U/2 UU/2 E/2 MON E/2 O
  102A MYANMAR LETTER AU/1 VOWEL SIGN TALL AA/3 AA/3 I/3 II/3 U/3 UU/3 E/3 AI/3 MON II/4 O/3 E ABOVE
  1036 MYANMAR SIGN ANUSVARA/2 DOT BELOW/2 VISARGA/2 VIRAMA/2 ASAT/1 CONSONANT SIGN MEDIAL YA/4 RA
  103D MYANMAR CONSONANT SIGN MEDIAL WA/4 HA/1 LETTER GREAT SA/1 DIGIT ZERO/2 ONE/2 TWO/2 THREE
  1044 MYANMAR DIGIT FOUR/2 FIVE/2 SIX/2 SEVEN/2 EIGHT/2 NINE/1 SIGN LITTLE SECTION/2 SECTION
  104C MYANMAR SYMBOL LOCATIVE/2 COMPLETED/2 AFOREMENTIONED/2 GENITIVE/1 LETTER SHA/2 SSA
  1052 MYANMAR LETTER VOCALIC R/3 RR/3 L/3 LL/1 VOWEL SIGN VOCALIC R/4 RR/4 L/4 LL/1 LETTER MON NGA
  105B MYANMAR LETTER MON JHA/3 BBA/3 BBE/1 CONSONANT SIGN MON MEDIAL NA/5 MA/5 LA
  1061 MYANMAR LETTER SGAW KAREN SHA/1 VOWEL SIGN SGAW KAREN EU/1 TONE MARK SGAW KAREN HATHI
  1064 MYANMAR TONE MARK SGAW KAREN KE PHO/1 LETTER WESTERN PWO KAREN THA/5 PWA
  1067 MYANMAR VOWEL SIGN WESTERN PWO KAREN EU/6 UE/1 SIGN WESTERN PWO KAREN TONE-1/5 TONE-2
  106B MYANMAR SIGN WESTERN PWO KAREN TONE-3/5 TONE-4/5 TONE-5/1 LETTER EASTERN PWO KAREN NNA/5 YWA
  1070 MYANMAR LETTER EASTERN PWO KAREN GHWA/1 VOWEL SIGN GEBA KAREN I/3 KAYAH OE/4 U/4 EE
  1075 MYANMAR LETTER SHAN KA/3 KHA/3 GA/3 CA/3 ZA/3 NYA/3 DA/3 NA/3 PHA/3 FA/3 BA/3 THA/3 HA
  1082 MYANMAR CONSONANT SIGN SHAN MEDIAL WA/1 VOWEL SIGN SHAN AA/4 E/5 ABOVE/4 FINAL Y
  1087 MYANMAR SIGN SHAN TONE-2/3 TONE-3/3 TONE-5/3 TONE-6/3 COUNCIL TONE-2/4 TONE-3/4 EMPHATIC TONE
  108E MYANMAR LETTER RUMAI PALAUNG FA/1 SIGN RUMAI PALAUNG TONE-5/1 SHAN DIGIT ZERO/3 ONE/3 TWO
  1093 MYANMAR SHAN DIGIT THREE/3 FOUR/3 FIVE/3 SIX/3 SEVEN/3 EIGHT/3 NINE/1 SIGN KHAMTI TONE-1
  109B MYANMAR SIGN KHAMTI TONE-3/1 VOWEL SIGN AITON A/4 AI/1 SYMBOL SHAN ONE/3 EXCLAMATION
  10A0 GEORGIAN CAPITAL LETTER AN/3 BAN/3 GAN/3 DON/3 EN/3 VIN/3 ZEN/3 TAN/3 IN/3 KAN/3 LAS/3 MAN
  10AC GEORGIAN CAPITAL LETTER NAR/3 ON/3 PAR/3 ZHAR/3 RAE/3 SAN/3 TAR/3 UN/3 PHAR/3 KHAR/3 GHAN
  10B7 GEORGIAN CAPITAL LETTER QAR/3 SHIN/3 CHIN/3 CAN/3 JIL/3 CIL/3 CHAR/3 XAN/3 JHAN/3 HAE/3 HE
  10C2 GEORGIAN CAPITAL LETTER HIE/3 WE/3 HAR/3 HOE
  10C7 GEORGIAN CAPITAL LETTER YN
  10CD GEORGIAN CAPITAL LETTER AEN
  10D0 GEORGIAN LETTER AN/2 BAN/2 GAN/2 DON/2 EN/2 VIN/2 ZEN/2 TAN/2 IN/2 KAN/2 LAS/2 MAN/2 NAR/2 ON
  10DE GEORGIAN LETTER PAR/2 ZHAR/2 RAE/2 SAN/2 TAR/2 UN/2 PHAR/2 KHAR/2 GHAN/2 QAR/2 SHIN/2 CHIN
  10EA GEORGIAN LETTER CAN/2 JIL/2 CIL/2 CHAR/2 XAN/2 JHAN/2 HAE/2 HE/2 HIE/2 WE/2 HAR/2 HOE/2 FI
  10F7 GEORGIAN LETTER YN/2 ELIFI/2 TURNED GAN/2 AIN/1 PARAGRAPH SEPARATOR
  10FC MODIFIER LETTER GEORGIAN NAR/0 GEORGIAN LETTER AEN/2 HARD SIGN/2 LABIAL SIGN
  1100 HANGUL CHOSEONG KIYEOK/2 SSANGKIYEOK/2 NIEUN/2 TIKEUT/2 SSANGTIKEUT/2 RIEUL/2 MIEUM/2 PIEUP
  1108 HANGUL CHOSEONG SSANGPIEUP/2 SIOS/2 SSANGSIOS/2 IEUNG/2 CIEUC/2 SSANGCIEUC/2 CHIEUCH
  110F HANGUL CHOSEONG KHIEUKH/2 THIEUTH/2 PHIEUPH/2 HIEUH/2 NIEUN-KIYEOK/2 SSANGNIEUN
  1115 HANGUL CHOSEONG NIEUN-TIKEUT/2 NIEUN-PIEUP/2 TIKEUT-KIYEOK/2 RIEUL-NIEUN/2 SSANGRIEUL
  111A HANGUL CHOSEONG RIEUL-HIEUH/2 KAPYEOUNRIEUL/2 MIEUM-PIEUP/2 KAPYEOUNMIEUM/2 PIEUP-KIYEOK
  111F HANGUL CHOSEONG PIEUP-NIEUN/2 PIEUP-TIKEUT/2 PIEUP-SIOS/2 PIEUP-SIOS-KIYEOK
  1123 HANGUL CHOSEONG PIEUP-SIOS-TIKEUT/2 PIEUP-SIOS-PIEUP/2 PIEUP-SSANGSIOS/2 PIEUP-SIOS-CIEUC
  1127 HANGUL CHOSEONG PIEUP-CIEUC/2 PIEUP-CHIEUCH/2 PIEUP-THIEUTH/2 PIEUP-PHIEUPH/2 KAPYEOUNPIEUP
  112C HANGUL CHOSEONG KAPYEOUNSSANGPIEUP/2 SIOS-KIYEOK/2 SIOS-NIEUN/2 SIOS-TIKEUT/2 SIOS-RIEUL
  1131 HANGUL CHOSEONG SIOS-MIEUM/2 SIOS-PIEUP/2 SIOS-PIEUP-KIYEOK/2 SIOS-SSANGSIOS/2 SIOS-IEUNG
  1136 HANGUL CHOSEONG SIOS-CIEUC/2 SIOS-CHIEUCH/2 SIOS-KHIEUKH/2 SIOS-THIEUTH/2 SIOS-PHIEUPH
  113B HANGUL CHOSEONG SIOS-HIEUH/2 CHITUEUMSIOS/2 CHITUEUMSSANGSIOS/2 CEONGCHIEUMSIOS
  113F HANGUL CHOSEONG CEONGCHIEUMSSANGSIOS/2 PANSIOS/2 IEUNG-KIYEOK/2 IEUNG-TIKEUT/2 IEUNG-MIEUM
  1144 HANGUL CHOSEONG IEUNG-PIEUP/2 IEUNG-SIOS/2 IEUNG-PANSIOS/2 SSANGIEUNG/2 IEUNG-CIEUC
  1149 HANGUL CHOSEONG IEUNG-CHIEUCH/2 IEUNG-THIEUTH/2 IEUNG-PHIEUPH/2 YESIEUNG/2 CIEUC-IEUNG
  114E HANGUL CHOSEONG CHITUEUMCIEUC/2 CHITUEUMSSANGCIEUC/2 CEONGCHIEUMCIEUC/2 CEONGCHIEUMSSANGCIEUC
  1152 HANGUL CHOSEONG CHIEUCH-KHIEUKH/2 CHIEUCH-HIEUH/2 CHITUEUMCHIEUCH/2 CEONGCHIEUMCHIEUCH
  1156 HANGUL CHOSEONG PHIEUPH-PIEUP/2 KAPYEOUNPHIEUPH/2 SSANGHIEUH/2 YEORINHIEUH/2 KIYEOK-TIKEUT
  115B HANGUL CHOSEONG NIEUN-SIOS/2 NIEUN-CIEUC/2 NIEUN-HIEUH/2 TIKEUT-RIEUL/2 FILLER
  1160 HANGUL JUNGSEONG FILLER/2 A/2 AE/2 YA/2 YAE/2 EO/2 E/2 YEO/2 YE/2 O/2 WA/2 WAE/2 OE/2 YO/2 U
  116F HANGUL JUNGSEONG WEO/2 WE/2 WI/2 YU/2 EU/2 YI/2 I/2 A-O/2 A-U/2 YA-O/2 YA-YO/2 EO-O/2 EO-U
  117C HANGUL JUNGSEONG EO-EU/2 YEO-O/2 YEO-U/2 O-EO/2 O-E/2 O-YE/2 O-O/2 O-U/2 YO-YA/2 YO-YAE
  1186 HANGUL JUNGSEONG YO-YEO/2 YO-O/2 YO-I/2 U-A/2 U-AE/2 U-EO-EU/2 U-YE/2 U-U/2 YU-A/2 YU-EO
  1190 HANGUL JUNGSEONG YU-E/2 YU-YEO/2 YU-YE/2 YU-U/2 YU-I/2 EU-U/2 EU-EU/2 YI-U/2 I-A/2 I-YA/2 I-O
  119B HANGUL JUNGSEONG I-U/2 I-EU/2 I-ARAEA/2 ARAEA/2 ARAEA-EO/2 ARAEA-U/2 ARAEA-I/2 SSANGARAEA
  11A3 HANGUL JUNGSEONG A-EU/2 YA-U/2 YEO-YA/2 O-YA/2 O-YAE/1 JONGSEONG KIYEOK/2 SSANGKIYEOK
  11AA HANGUL JONGSEONG KIYEOK-SIOS/2 NIEUN/2 NIEUN-CIEUC/2 NIEUN-HIEUH/2 TIKEUT/2 RIEUL
  11B0 HANGUL JONGSEONG RIEUL-KIYEOK/2 RIEUL-MIEUM/2 RIEUL-PIEUP/2 RIEUL-SIOS/2 RIEUL-THIEUTH
  11B5 HANGUL JONGSEONG RIEUL-PHIEUPH/2 RIEUL-HIEUH/2 MIEUM/2 PIEUP/2 PIEUP-SIOS/2 SIOS/2 SSANGSIOS
  11BC HANGUL JONGSEONG IEUNG/2 CIEUC/2 CHIEUCH/2 KHIEUKH/2 THIEUTH/2 PHIEUPH/2 HIEUH/2 KIYEOK-RIEUL
  11C4 HANGUL JONGSEONG KIYEOK-SIOS-KIYEOK/2 NIEUN-KIYEOK/2 NIEUN-TIKEUT/2 NIEUN-SIOS
  11C8 HANGUL JONGSEONG NIEUN-PANSIOS/2 NIEUN-THIEUTH/2 TIKEUT-KIYEOK/2 TIKEUT-RIEUL
  11CC HANGUL JONGSEONG RIEUL-KIYEOK-SIOS/2 RIEUL-NIEUN/2 RIEUL-TIKEUT/2 RIEUL-TIKEUT-HIEUH
  11D0 HANGUL JONGSEONG SSANGRIEUL/2 RIEUL-MIEUM-KIYEOK/2 RIEUL-MIEUM-SIOS/2 RIEUL-PIEUP-SIOS
  11D4 HANGUL JONGSEONG RIEUL-PIEUP-HIEUH/2 RIEUL-KAPYEOUNPIEUP/2 RIEUL-SSANGSIOS/2 RIEUL-PANSIOS
  11D8 HANGUL JONGSEONG RIEUL-KHIEUKH/2 RIEUL-YEORINHIEUH/2 MIEUM-KIYEOK/2 MIEUM-RIEUL/2 MIEUM-PIEUP
  11DD HANGUL JONGSEONG MIEUM-SIOS/2 MIEUM-SSANGSIOS/2 MIEUM-PANSIOS/2 MIEUM-CHIEUCH/2 MIEUM-HIEUH
  11E2 HANGUL JONGSEONG KAPYEOUNMIEUM/2 PIEUP-RIEUL/2 PIEUP-PHIEUPH/2 PIEUP-HIEUH/2 KAPYEOUNPIEUP
  11E7 HANGUL JONGSEONG SIOS-KIYEOK/2 SIOS-TIKEUT/2 SIOS-RIEUL/2 SIOS-PIEUP/2 PANSIOS/2 IEUNG-KIYEOK
  11ED HANGUL JONGSEONG IEUNG-SSANGKIYEOK/2 SSANGIEUNG/2 IEUNG-KHIEUKH/2 YESIEUNG/2 YESIEUNG-SIOS
  11F2 HANGUL JONGSEONG YESIEUNG-PANSIOS/2 PHIEUPH-PIEUP/2 KAPYEOUNPHIEUPH/2 HIEUH-NIEUN
  11F6 HANGUL JONGSEONG HIEUH-RIEUL/2 HIEUH-MIEUM/2 HIEUH-PIEUP/2 YEORINHIEUH/2 KIYEOK-NIEUN
  11FB HANGUL JONGSEONG KIYEOK-PIEUP/2 KIYEOK-CHIEUCH/2 KIYEOK-KHIEUKH/2 KIYEOK-HIEUH/2 SSANGNIEUN
  1200 ETHIOPIC SYLLABLE HA/2 HU/2 HI/2 HAA/2 HEE/2 HE/2 HO/2 HOA/2 LA/2 LU/2 LI/2 LAA/2 LEE/2 LE
  120E ETHIOPIC SYLLABLE LO/2 LWA/2 HHA/2 HHU/2 HHI/2 HHAA/2 HHEE/2 HHE/2 HHO/2 HHWA/2 MA/2 MU/2 MI
  121B ETHIOPIC SYLLABLE MAA/2 MEE/2 ME/2 MO/2 MWA/2 SZA/2 SZU/2 SZI/2 SZAA/2 SZEE/2 SZE/2 SZO
  1227 ETHIOPIC SYLLABLE SZWA/2 RA/2 RU/2 RI/2 RAA/2 REE/2 RE/2 RO/2 RWA/2 SA/2 SU/2 SI/2 SAA/2 SEE
  1235 ETHIOPIC SYLLABLE SE/2 SO/2 SWA/2 SHA/2 SHU/2 SHI/2 SHAA/2 SHEE/2 SHE/2 SHO/2 SHWA/2 QA/2 QU
  1242 ETHIOPIC SYLLABLE QI/2 QAA/2 QEE/2 QE/2 QO/2 QOA/2 QWA
  124A ETHIOPIC SYLLABLE QWI/2 QWAA/2 QWEE/2 QWE
  1250 ETHIOPIC SYLLABLE QHA/2 QHU/2 QHI/2 QHAA/2 QHEE/2 QHE/2 QHO
  1258 ETHIOPIC SYLLABLE QHWA
  125A ETHIOPIC SYLLABLE QHWI/2 QHWAA/2 QHWEE/2 QHWE
  1260 ETHIOPIC SYLLABLE BA/2 BU/2 BI/2 BAA/2 BEE/2 BE/2 BO/2 BWA/2 VA/2 VU/2 VI/2 VAA/2 VEE/2 VE
  126E ETHIOPIC SYLLABLE VO/2 VWA/2 TA/2 TU/2 TI/2 TAA/2 TEE/2 TE/2 TO/2 TWA/2 CA/2 CU/2 CI/2 CAA
  127C ETHIOPIC SYLLABLE CEE/2 CE/2 CO/2 CWA/2 XA/2 XU/2 XI/2 XAA/2 XEE/2 XE/2 XO/2 XOA/2 XWA
  128A ETHIOPIC SYLLABLE XWI/2 XWAA/2 XWEE/2 XWE
  1290 ETHIOPIC SYLLABLE NA/2 NU/2 NI/2 NAA/2 NEE/2 NE/2 NO/2 NWA/2 NYA/2 NYU/2 NYI/2 NYAA/2 NYEE
  129D ETHIOPIC SYLLABLE NYE/2 NYO/2 NYWA/2 GLOTTAL A/3 U/3 I/3 AA/3 EE/3 E/3 O/3 WA/2 KA/2 KU/2 KI
  12AB ETHIOPIC SYLLABLE KAA/2 KEE/2 KE/2 KO/2 KOA/2 KWA
  12B2 ETHIOPIC SYLLABLE KWI/2 KWAA/2 KWEE/2 KWE
  12B8 ETHIOPIC SYLLABLE KXA/2 KXU/2 KXI/2 KXAA/2 KXEE/2 KXE/2 KXO
  12C0 ETHIOPIC SYLLABLE KXWA
  12C2 ETHIOPIC SYLLABLE KXWI/2 KXWAA/2 KXWEE/2 KXWE
  12C8 ETHIOPIC SYLLABLE WA/2 WU/2 WI/2 WAA/2 WEE/2 WE/2 WO/2 WOA/2 PHARYNGEAL A/3 U/3 I/3 AA/3 EE
  12D5 ETHIOPIC SYLLABLE PHARYNGEAL E/3 O
  12D8 ETHIOPIC SYLLABLE ZA/2 ZU/2 ZI/2 ZAA/2 ZEE/2 ZE/2 ZO/2 ZWA/2 ZHA/2 ZHU/2 ZHI/2 ZHAA/2 ZHEE
  12E5 ETHIOPIC SYLLABLE ZHE/2 ZHO/2 ZHWA/2 YA/2 YU/2 YI/2 YAA/2 YEE/2 YE/2 YO/2 YOA/2 DA/2 DU/2 DI
  12F3 ETHIOPIC SYLLABLE DAA/2 DEE/2 DE/2 DO/2 DWA/2 DDA/2 DDU/2 DDI/2 DDAA/2 DDEE/2 DDE/2 DDO
  12FF ETHIOPIC SYLLABLE DDWA/2 JA/2 JU/2 JI/2 JAA/2 JEE/2 JE/2 JO/2 JWA/2 GA/2 GU/2 GI/2 GAA/2 GEE
  130D ETHIOPIC SYLLABLE GE/2 GO/2 GOA/2 GWA
  1312 ETHIOPIC SYLLABLE GWI/2 GWAA/2 GWEE/2 GWE
  1318 ETHIOPIC SYLLABLE GGA/2 GGU/2 GGI/2 GGAA/2 GGEE/2 GGE/2 GGO/2 GGWAA/2 THA/2 THU/2 THI/2 THAA
  1324 ETHIOPIC SYLLABLE THEE/2 THE/2 THO/2 THWA/2 CHA/2 CHU/2 CHI/2 CHAA/2 CHEE/2 CHE/2 CHO/2 CHWA
  1330 ETHIOPIC SYLLABLE PHA/2 PHU/2 PHI/2 PHAA/2 PHEE/2 PHE/2 PHO/2 PHWA/2 TSA/2 TSU/2 TSI/2 TSAA
  133C ETHIOPIC SYLLABLE TSEE/2 TSE/2 TSO/2 TSWA/2 TZA/2 TZU/2 TZI/2 TZAA/2 TZEE/2 TZE/2 TZO/2 TZOA
  1348 ETHIOPIC SYLLABLE FA/2 FU/2 FI/2 FAA/2 FEE/2 FE/2 FO/2 FWA/2 PA/2 PU/2 PI/2 PAA/2 PEE/2 PE
  1356 ETHIOPIC SYLLABLE PO/2 PWA/2 RYA/2 MYA/2 FYA
  135D ETHIOPIC COMBINING GEMINATION AND VOWEL LENGTH MARK/2 VOWEL LENGTH MARK/2 GEMINATION MARK
  1360 ETHIOPIC SECTION MARK/1 WORDSPACE/1 FULL STOP/1 COMMA/1 SEMICOLON/1 COLON/1 PREFACE COLON
  1367 ETHIOPIC QUESTION MARK/1 PARAGRAPH SEPARATOR/1 DIGIT ONE/2 TWO/2 THREE/2 FOUR/2 FIVE/2 SIX
  136F ETHIOPIC DIGIT SEVEN/2 EIGHT/2 NINE/1 NUMBER TEN/2 TWENTY/2 THIRTY/2 FORTY/2 FIFTY/2 SIXTY
  1378 ETHIOPIC NUMBER SEVENTY/2 EIGHTY/2 NINETY/2 HUNDRED/2 TEN THOUSAND
  1380 ETHIOPIC SYLLABLE SEBATBEIT MWA/2 MWI/2 MWEE/2 MWE/2 SEBATBEIT BWA/2 BWI/2 BWEE/2 BWE
  1388 ETHIOPIC SYLLABLE SEBATBEIT FWA/2 FWI/2 FWEE/2 FWE/2 SEBATBEIT PWA/2 PWI/2 PWEE/2 PWE
  1390 ETHIOPIC TONAL MARK YIZET/3 DERET/3 RIKRIK/3 SHORT RIKRIK/3 DIFAT/3 KENAT/3 CHIRET/3 HIDET
  1398 ETHIOPIC TONAL MARK DERET-HIDET/3 KURT
  13A0 CHEROKEE LETTER A/2 E/2 I/2 O/2 U/2 V/2 GA/2 KA/2 GE/2 GI/2 GO/2 GU/2 GV/2 HA/2 HE/2 HI/2 HO
  13B1 CHEROKEE LETTER HU/2 HV/2 LA/2 LE/2 LI/2 LO/2 LU/2 LV/2 MA/2 ME/2 MI/2 MO/2 MU/2 NA/2 HNA
  13C0 CHEROKEE LETTER NAH/2 NE/2 NI/2 NO/2 NU/2 NV/2 QUA/2 QUE/2 QUI/2 QUO/2 QUU/2 QUV/2 SA/2 S
  13CE CHEROKEE LETTER SE/2 SI/2 SO/2 SU/2 SV/2 DA/2 TA/2 DE/2 TE/2 DI/2 TI/2 DO/2 DU/2 DV/2 DLA
  13DD CHEROKEE LETTER TLA/2 TLE/2 TLI/2 TLO/2 TLU/2 TLV/2 TSA/2 TSE/2 TSI/2 TSO/2 TSU/2 TSV/2 WA
  13EA CHEROKEE LETTER WE/2 WI/2 WO/2 WU/2 WV/2 YA/2 YE/2 YI/2 YO/2 YU/2 YV/2 MV
  13F8 CHEROKEE SMALL LETTER YE/3 YI/3 YO/3 YU/3 YV/3 MV
  1400 CANADIAN SYLLABICS HYPHEN/2 E/2 AAI/2 I/2 II/2 O/2 OO/2 Y-CREE OO/2 CARRIER EE/3 I/2 A/2 AA
  140C CANADIAN SYLLABICS WE/2 WEST-CREE WE/2 WI/2 WEST-CREE WI/2 WII/2 WEST-CREE WII/2 WO
  1413 CANADIAN SYLLABICS WEST-CREE WO/2 WOO/2 WEST-CREE WOO/2 NASKAPI WOO/2 WA/2 WEST-CREE WA/2 WAA
  141A CANADIAN SYLLABICS WEST-CREE WAA/2 NASKAPI WAA/2 AI/2 Y-CREE W/2 GLOTTAL STOP/2 FINAL ACUTE
  1420 CANADIAN SYLLABICS FINAL GRAVE/3 BOTTOM HALF RING/3 TOP HALF RING/3 RIGHT HALF RING/3 RING
  1425 CANADIAN SYLLABICS FINAL DOUBLE ACUTE/4 SHORT VERTICAL STROKES/3 MIDDLE DOT
  1428 CANADIAN SYLLABICS FINAL SHORT HORIZONTAL STROKE/3 PLUS/3 DOWN TACK/2 EN/2 IN/2 ON/2 AN/2 PE
  1430 CANADIAN SYLLABICS PAAI/2 PI/2 PII/2 PO/2 POO/2 Y-CREE POO/2 CARRIER HEE/3 HI/2 PA/2 PAA
  143A CANADIAN SYLLABICS PWE/2 WEST-CREE PWE/2 PWI/2 WEST-CREE PWI/2 PWII/2 WEST-CREE PWII/2 PWO
  1441 CANADIAN SYLLABICS WEST-CREE PWO/2 PWOO/2 WEST-CREE PWOO/2 PWA/2 WEST-CREE PWA/2 PWAA
  1447 CANADIAN SYLLABICS WEST-CREE PWAA/2 Y-CREE PWAA/2 P/2 WEST-CREE P/2 CARRIER H/2 TE/2 TAAI
  144E CANADIAN SYLLABICS TI/2 TII/2 TO/2 TOO/2 Y-CREE TOO/2 CARRIER DEE/3 DI/2 TA/2 TAA/2 TWE
  1458 CANADIAN SYLLABICS WEST-CREE TWE/2 TWI/2 WEST-CREE TWI/2 TWII/2 WEST-CREE TWII/2 TWO
  145E CANADIAN SYLLABICS WEST-CREE TWO/2 TWOO/2 WEST-CREE TWOO/2 TWA/2 WEST-CREE TWA/2 TWAA
  1464 CANADIAN SYLLABICS WEST-CREE TWAA/2 NASKAPI TWAA/2 T/2 TTE/2 TTI/2 TTO/2 TTA/2 KE/2 KAAI/2 KI
  146E CANADIAN SYLLABICS KII/2 KO/2 KOO/2 Y-CREE KOO/2 KA/2 KAA/2 KWE/2 WEST-CREE KWE/2 KWI
  1477 CANADIAN SYLLABICS WEST-CREE KWI/2 KWII/2 WEST-CREE KWII/2 KWO/2 WEST-CREE KWO/2 KWOO
  147D CANADIAN SYLLABICS WEST-CREE KWOO/2 KWA/2 WEST-CREE KWA/2 KWAA/2 WEST-CREE KWAA
  1482 CANADIAN SYLLABICS NASKAPI KWAA/2 K/2 KW/2 SOUTH-SLAVEY KEH/3 KIH/3 KOH/3 KAH/2 CE/2 CAAI
  148B CANADIAN SYLLABICS CI/2 CII/2 CO/2 COO/2 Y-CREE COO/2 CA/2 CAA/2 CWE/2 WEST-CREE CWE/2 CWI
  1495 CANADIAN SYLLABICS WEST-CREE CWI/2 CWII/2 WEST-CREE CWII/2 CWO/2 WEST-CREE CWO/2 CWOO
  149B CANADIAN SYLLABICS WEST-CREE CWOO/2 CWA/2 WEST-CREE CWA/2 CWAA/2 WEST-CREE CWAA
  14A0 CANADIAN SYLLABICS NASKAPI CWAA/2 C/2 SAYISI TH/2 ME/2 MAAI/2 MI/2 MII/2 MO/2 MOO
  14A9 CANADIAN SYLLABICS Y-CREE MOO/2 MA/2 MAA/2 MWE/2 WEST-CREE MWE/2 MWI/2 WEST-CREE MWI/2 MWII
  14B1 CANADIAN SYLLABICS WEST-CREE MWII/2 MWO/2 WEST-CREE MWO/2 MWOO/2 WEST-CREE MWOO/2 MWA
  14B7 CANADIAN SYLLABICS WEST-CREE MWA/2 MWAA/2 WEST-CREE MWAA/2 NASKAPI MWAA/2 M/2 WEST-CREE M
  14BD CANADIAN SYLLABICS MH/2 ATHAPASCAN M/2 SAYISI M/2 NE/2 NAAI/2 NI/2 NII/2 NO/2 NOO
  14C6 CANADIAN SYLLABICS Y-CREE NOO/2 NA/2 NAA/2 NWE/2 WEST-CREE NWE/2 NWA/2 WEST-CREE NWA/2 NWAA
  14CE CANADIAN SYLLABICS WEST-CREE NWAA/2 NASKAPI NWAA/2 N/2 CARRIER NG/2 NH/2 LE/2 LAAI/2 LI/2 LII
  14D7 CANADIAN SYLLABICS LO/2 LOO/2 Y-CREE LOO/2 LA/2 LAA/2 LWE/2 WEST-CREE LWE/2 LWI
  14DF CANADIAN SYLLABICS WEST-CREE LWI/2 LWII/2 WEST-CREE LWII/2 LWO/2 WEST-CREE LWO/2 LWOO
  14E5 CANADIAN SYLLABICS WEST-CREE LWOO/2 LWA/2 WEST-CREE LWA/2 LWAA/2 WEST-CREE LWAA/2 L
  14EB CANADIAN SYLLABICS WEST-CREE L/2 MEDIAL L/2 SE/2 SAAI/2 SI/2 SII/2 SO/2 SOO/2 Y-CREE SOO/2 SA
  14F5 CANADIAN SYLLABICS SAA/2 SWE/2 WEST-CREE SWE/2 SWI/2 WEST-CREE SWI/2 SWII/2 WEST-CREE SWII
  14FC CANADIAN SYLLABICS SWO/2 WEST-CREE SWO/2 SWOO/2 WEST-CREE SWOO/2 SWA/2 WEST-CREE SWA/2 SWAA
  1503 CANADIAN SYLLABICS WEST-CREE SWAA/2 NASKAPI SWAA/2 S/2 ATHAPASCAN S/2 SW/2 BLACKFOOT S
  1509 CANADIAN SYLLABICS MOOSE-CREE SK/2 NASKAPI SKW/3 S-W/3 SPWA/3 STWA/3 SKWA/3 SCWA/2 SHE/2 SHI
  1512 CANADIAN SYLLABICS SHII/2 SHO/2 SHOO/2 SHA/2 SHAA/2 SHWE/2 WEST-CREE SHWE/2 SHWI
  151A CANADIAN SYLLABICS WEST-CREE SHWI/2 SHWII/2 WEST-CREE SHWII/2 SHWO/2 WEST-CREE SHWO/2 SHWOO
  1520 CANADIAN SYLLABICS WEST-CREE SHWOO/2 SHWA/2 WEST-CREE SHWA/2 SHWAA/2 WEST-CREE SHWAA/2 SH
  1526 CANADIAN SYLLABICS YE/2 YAAI/2 YI/2 YII/2 YO/2 YOO/2 Y-CREE YOO/2 YA/2 YAA/2 YWE
  1530 CANADIAN SYLLABICS WEST-CREE YWE/2 YWI/2 WEST-CREE YWI/2 YWII/2 WEST-CREE YWII/2 YWO
  1536 CANADIAN SYLLABICS WEST-CREE YWO/2 YWOO/2 WEST-CREE YWOO/2 YWA/2 WEST-CREE YWA/2 YWAA
  153C CANADIAN SYLLABICS WEST-CREE YWAA/2 NASKAPI YWAA/2 Y/2 BIBLE-CREE Y/2 WEST-CREE Y/2 SAYISI YI
  1542 CANADIAN SYLLABICS RE/2 R-CREE RE/2 WEST-CREE LE/2 RAAI/2 RI/2 RII/2 RO/2 ROO/2 WEST-CREE LO
  154B CANADIAN SYLLABICS RA/2 RAA/2 WEST-CREE LA/2 RWAA/2 WEST-CREE RWAA/2 R/2 WEST-CREE R
  1552 CANADIAN SYLLABICS MEDIAL R/2 FE/2 FAAI/2 FI/2 FII/2 FO/2 FOO/2 FA/2 FAA/2 FWAA
  155C CANADIAN SYLLABICS WEST-CREE FWAA/2 F/2 THE/2 N-CREE THE/2 THI/2 N-CREE THI/2 THII
  1563 CANADIAN SYLLABICS N-CREE THII/2 THO/2 THOO/2 THA/2 THAA/2 THWAA/2 WEST-CREE THWAA/2 TH
  156B CANADIAN SYLLABICS TTHE/2 TTHI/2 TTHO/2 TTHA/2 TTH/2 TYE/2 TYI/2 TYO/2 TYA/2 NUNAVIK HE/3 HI
  1576 CANADIAN SYLLABICS NUNAVIK HII/3 HO/3 HOO/3 HA/3 HAA/3 H/2 NUNAVUT H/2 HK/2 QAAI/2 QI/2 QII
  1581 CANADIAN SYLLABICS QO/2 QOO/2 QA/2 QAA/2 Q/2 TLHE/2 TLHI/2 TLHO/2 TLHA/2 WEST-CREE RE/3 RI
  158C CANADIAN SYLLABICS WEST-CREE RO/3 RA/2 NGAAI/2 NGI/2 NGII/2 NGO/2 NGOO/2 NGA/2 NGAA/2 NG
  1596 CANADIAN SYLLABICS NNG/2 SAYISI SHE/3 SHI/3 SHO/3 SHA/2 WOODS-CREE THE/3 THI/3 THO/3 THA/3 TH
  15A0 CANADIAN SYLLABICS LHI/2 LHII/2 LHO/2 LHOO/2 LHA/2 LHAA/2 LH/2 TH-CREE THE/3 THI/3 THII/3 THO
  15AB CANADIAN SYLLABICS TH-CREE THOO/3 THA/3 THAA/3 TH/2 AIVILIK B/2 BLACKFOOT E/3 I/3 O/3 A/3 WE
  15B5 CANADIAN SYLLABICS BLACKFOOT WI/3 WO/3 WA/3 NE/3 NI/3 NO/3 NA/3 KE/3 KI/3 KO/3 KA/2 SAYISI HE
  15C1 CANADIAN SYLLABICS SAYISI HI/3 HO/3 HA/2 CARRIER GHU/3 GHO/3 GHE/3 GHEE/3 GHI/3 GHA/3 RU/3 RO
  15CC CANADIAN SYLLABICS CARRIER RE/3 REE/3 RI/3 RA/3 WU/3 WO/3 WE/3 WEE/3 WI/3 WA/3 HWU/3 HWO
  15D8 CANADIAN SYLLABICS CARRIER HWE/3 HWEE/3 HWI/3 HWA/3 THU/3 THO/3 THE/3 THEE/3 THI/3 THA/3 TTU
  15E3 CANADIAN SYLLABICS CARRIER TTO/3 TTE/3 TTEE/3 TTI/3 TTA/3 PU/3 PO/3 PE/3 PEE/3 PI/3 PA/3 P
  15EF CANADIAN SYLLABICS CARRIER GU/3 GO/3 GE/3 GEE/3 GI/3 GA/3 KHU/3 KHO/3 KHE/3 KHEE/3 KHI/3 KHA
  15FB CANADIAN SYLLABICS CARRIER KKU/3 KKO/3 KKE/3 KKEE/3 KKI/3 KKA/3 KK/3 NU/3 NO/3 NE/3 NEE/3 NI
  1607 CANADIAN SYLLABICS CARRIER NA/3 MU/3 MO/3 ME/3 MEE/3 MI/3 MA/3 YU/3 YO/3 YE/3 YEE/3 YI/3 YA
  1614 CANADIAN SYLLABICS CARRIER JU/2 SAYISI JU/2 CARRIER JO/3 JE/3 JEE/3 JI/2 SAYISI JI
  161B CANADIAN SYLLABICS CARRIER JA/3 JJU/3 JJO/3 JJE/3 JJEE/3 JJI/3 JJA/3 LU/3 LO/3 LE/3 LEE/3 LI
  1627 CANADIAN SYLLABICS CARRIER LA/3 DLU/3 DLO/3 DLE/3 DLEE/3 DLI/3 DLA/3 LHU/3 LHO/3 LHE/3 LHEE
  1632 CANADIAN SYLLABICS CARRIER LHI/3 LHA/3 TLHU/3 TLHO/3 TLHE/3 TLHEE/3 TLHI/3 TLHA/3 TLU/3 TLO
  163C CANADIAN SYLLABICS CARRIER TLE/3 TLEE/3 TLI/3 TLA/3 ZU/3 ZO/3 ZE/3 ZEE/3 ZI/3 ZA/3 Z
  1647 CANADIAN SYLLABICS CARRIER INITIAL Z/3 DZU/3 DZO/3 DZE/3 DZEE/3 DZI/3 DZA/3 SU/3 SO/3 SE
  1651 CANADIAN SYLLABICS CARRIER SEE/3 SI/3 SA/3 SHU/3 SHO/3 SHE/3 SHEE/3 SHI/3 SHA/3 SH/3 TSU
  165C CANADIAN SYLLABICS CARRIER TSO/3 TSE/3 TSEE/3 TSI/3 TSA/3 CHU/3 CHO/3 CHE/3 CHEE/3 CHI/3 CHA
  1667 CANADIAN SYLLABICS CARRIER TTSU/3 TTSO/3 TTSE/3 TTSEE/3 TTSI/3 TTSA/2 CHI SIGN/2 FULL STOP
  166F CANADIAN SYLLABICS QAI/2 NGAI/2 NNGI/2 NNGII/2 NNGO/2 NNGOO/2 NNGA/2 NNGAA/2 WOODS-CREE THWEE
  1678 CANADIAN SYLLABICS WOODS-CREE THWI/3 THWII/3 THWO/3 THWOO/3 THWA/3 THWAA/3 FINAL TH
  167F CANADIAN SYLLABICS BLACKFOOT W/0 OGHAM SPACE MARK/1 LETTER BEITH/2 LUIS/2 FEARN/2 SAIL/2 NION
  1686 OGHAM LETTER UATH/2 DAIR/2 TINNE/2 COLL/2 CEIRT/2 MUIN/2 GORT/2 NGEADAL/2 STRAIF/2 RUIS
  1690 OGHAM LETTER AILM/2 ONN/2 UR/2 EADHADH/2 IODHADH/2 EABHADH/2 OR/2 UILLEANN/2 IFIN
  1699 OGHAM LETTER EAMHANCHOLL/2 PEITH/1 FEATHER MARK/1 REVERSED FEATHER MARK
  16A0 RUNIC LETTER FEHU FEOH FE F/2 V/2 URUZ UR U/2 YR/2 Y/2 W/2 THURISAZ THURS THORN/2 ETH
  16A8 RUNIC LETTER ANSUZ A/2 OS O/2 AC A/2 AESC/2 LONG-BRANCH-OSS O/2 SHORT-TWIG-OSS O/2 O/2 OE
  16B0 RUNIC LETTER ON/2 RAIDO RAD REID R/2 KAUNA/2 CEN/2 KAUN K/2 G/2 ENG/2 GEBO GYFU G/2 GAR
  16B9 RUNIC LETTER WUNJO WYNN W/2 HAGLAZ H/2 HAEGL H/2 LONG-BRANCH-HAGALL H/2 SHORT-TWIG-HAGALL H
  16BE RUNIC LETTER NAUDIZ NYD NAUD N/2 SHORT-TWIG-NAUD N/2 DOTTED-N/2 ISAZ IS ISS I/2 E/2 JERAN J
  16C4 RUNIC LETTER GER/2 LONG-BRANCH-AR AE/2 SHORT-TWIG-AR A/2 IWAZ EOH/2 PERTHO PEORTH P
  16C9 RUNIC LETTER ALGIZ EOLHX/2 SOWILO S/2 SIGEL LONG-BRANCH-SOL S/2 SHORT-TWIG-SOL S/2 C/2 Z
  16CF RUNIC LETTER TIWAZ TIR TYR T/2 SHORT-TWIG-TYR T/2 D/2 BERKANAN BEORC BJARKAN B
  16D3 RUNIC LETTER SHORT-TWIG-BJARKAN B/2 DOTTED-P/2 OPEN-P/2 EHWAZ EH E/2 MANNAZ MAN M
  16D8 RUNIC LETTER LONG-BRANCH-MADR M/2 SHORT-TWIG-MADR M/2 LAUKAZ LAGU LOGR L/2 DOTTED-L/2 INGWAZ
  16DD RUNIC LETTER ING/2 DAGAZ DAEG D/2 OTHALAN ETHEL O/2 EAR/2 IOR/2 CWEORTH/2 CALC/2 CEALC/2 STAN
  16E6 RUNIC LETTER LONG-BRANCH-YR/2 SHORT-TWIG-YR/2 ICELANDIC-YR/2 Q/2 X/1 SINGLE PUNCTUATION
  16EC RUNIC MULTIPLE PUNCTUATION/1 CROSS PUNCTUATION/1 ARLAUG SYMBOL/1 TVIMADUR SYMBOL
  16F0 RUNIC BELGTHOR SYMBOL/1 LETTER K/2 SH/2 OO/2 FRANKS CASKET OS/4 IS/4 EH/4 AC/4 AESC
  1700 TAGALOG LETTER A/2 I/2 U/2 KA/2 GA/2 NGA/2 TA/2 DA/2 NA/2 PA/2 BA/2 MA/2 YA/2 RA/2 LA/2 WA
  1710 TAGALOG LETTER SA/2 HA/1 VOWEL SIGN I/3 U/1 SIGN VIRAMA/2 PAMUDPOD
  171F TAGALOG LETTER ARCHAIC RA/0 HANUNOO LETTER A/2 I/2 U/2 KA/2 GA/2 NGA/2 TA/2 DA/2 NA/2 PA/2 BA
  172B HANUNOO LETTER MA/2 YA/2 RA/2 LA/2 WA/2 SA/2 HA/1 VOWEL SIGN I/3 U/1 SIGN PAMUDPOD
  1735 PHILIPPINE SINGLE PUNCTUATION/1 DOUBLE PUNCTUATION
  1740 BUHID LETTER A/2 I/2 U/2 KA/2 GA/2 NGA/2 TA/2 DA/2 NA/2 PA/2 BA/2 MA/2 YA/2 RA/2 LA/2 WA/2 SA
  1751 BUHID LETTER HA/1 VOWEL SIGN I/3 U
  1760 TAGBANWA LETTER A/2 I/2 U/2 KA/2 GA/2 NGA/2 TA/2 DA/2 NA/2 PA/2 BA/2 MA/2 YA
  176E TAGBANWA LETTER LA/2 WA/2 SA
  1772 TAGBANWA VOWEL SIGN I/3 U
  1780 KHMER LETTER KA/2 KHA/2 KO/2 KHO/2 NGO/2 CA/2 CHA/2 CO/2 CHO/2 NYO/2 DA/2 TTHA/2 DO/2 TTHO
  178E KHMER LETTER NNO/2 TA/2 THA/2 TO/2 THO/2 NO/2 BA/2 PHA/2 PO/2 PHO/2 MO/2 YO/2 RO/2 LO/2 VO
  179D KHMER LETTER SHA/2 SSO/2 SA/2 HA/2 LA/2 QA/1 INDEPENDENT VOWEL QAQ/3 QAA/3 QI/3 QII/3 QU
  17A8 KHMER INDEPENDENT VOWEL QUK/3 QUU/3 QUUV/3 RY/3 RYY/3 LY/3 LYY/3 QE/3 QAI/3 QOO TYPE ONE
  17B2 KHMER INDEPENDENT VOWEL QOO TYPE TWO/3 QAU/1 VOWEL INHERENT AQ/3 AA/2 SIGN AA/3 I/3 II/3 Y
  17BA KHMER VOWEL SIGN YY/3 U/3 UU/3 UA/3 OE/3 YA/3 IE/3 E/3 AE/3 AI/3 OO/3 AU/1 SIGN NIKAHIT
  17C7 KHMER SIGN REAHMUK/2 YUUKALEAPINTU/2 MUUSIKATOAN/2 TRIISAP/2 BANTOC/2 ROBAT/2 TOANDAKHIAT
  17CE KHMER SIGN KAKABAT/2 AHSDA/2 SAMYOK SANNYA/2 VIRIAM/2 COENG/2 BATHAMASAT/2 KHAN/2 BARIYOOSAN
  17D6 KHMER SIGN CAMNUC PII KUUH/2 LEK TOO/2 BEYYAL/2 PHNAEK MUAN/2 KOOMUUT/1 CURRENCY SYMBOL RIEL
  17DC KHMER SIGN AVAKRAHASANYA/2 ATTHACAN
  17E0 KHMER DIGIT ZERO/2 ONE/2 TWO/2 THREE/2 FOUR/2 FIVE/2 SIX/2 SEVEN/2 EIGHT/2 NINE
  17F0 KHMER SYMBOL LEK ATTAK SON/4 MUOY/4 PII/4 BEI/4 BUON/4 PRAM/4 PRAM-MUOY/4 PRAM-PII/4 PRAM-BEI
  17F9 KHMER SYMBOL LEK ATTAK PRAM-BUON
  1800 MONGOLIAN BIRGA/1 ELLIPSIS/1 COMMA/1 FULL STOP/1 COLON/1 FOUR DOTS/1 TODO SOFT HYPHEN
  1807 MONGOLIAN SIBE SYLLABLE BOUNDARY MARKER/1 MANCHU COMMA/2 FULL STOP/1 NIRUGU
  180B MONGOLIAN FREE VARIATION SELECTOR ONE/4 TWO/4 THREE/1 VOWEL SEPARATOR
  180F MONGOLIAN FREE VARIATION SELECTOR FOUR/1 DIGIT ZERO/2 ONE/2 TWO/2 THREE/2 FOUR/2 FIVE/2 SIX
  1817 MONGOLIAN DIGIT SEVEN/2 EIGHT/2 NINE
  1820 MONGOLIAN LETTER A/2 E/2 I/2 O/2 U/2 OE/2 UE/2 EE/2 NA/2 ANG/2 BA/2 PA/2 QA/2 GA/2 MA/2 LA
  1830 MONGOLIAN LETTER SA/2 SHA/2 TA/2 DA/2 CHA/2 JA/2 YA/2 RA/2 WA/2 FA/2 KA/2 KHA/2 TSA/2 ZA
  183E MONGOLIAN LETTER HAA/2 ZRA/2 LHA/2 ZHI/2 CHI/2 TODO LONG VOWEL SIGN/3 E/3 I/3 O/3 U/3 OE/3 UE
  184A MONGOLIAN LETTER TODO ANG/3 BA/3 PA/3 QA/3 GA/3 MA/3 TA/3 DA/3 CHA/3 JA/3 TSA/3 YA/3 WA/3 KA
  1858 MONGOLIAN LETTER TODO GAA/3 HAA/3 JIA/3 NIA/3 DZA/2 SIBE E/3 I/3 IY/3 UE/3 U/3 ANG/3 KA/3 GA
  1865 MONGOLIAN LETTER SIBE HA/3 PA/3 SHA/3 TA/3 DA/3 JA/3 FA/3 GAA/3 HAA/3 TSA/3 ZA/3 RAA/3 CHA
  1872 MONGOLIAN LETTER SIBE ZHA/2 MANCHU I/3 KA/3 RA/3 FA/3 ZHA/2 CHA WITH TWO DOTS
  1880 MONGOLIAN LETTER ALI GALI ANUSVARA ONE/4 VISARGA ONE/4 DAMARU/4 UBADAMA/4 INVERTED UBADAMA
  1885 MONGOLIAN LETTER ALI GALI BALUDA/4 THREE BALUDA/4 A/4 I/4 KA/4 NGA/4 CA/4 TTA/4 TTHA/4 DDA
  188F MONGOLIAN LETTER ALI GALI NNA/4 TA/4 DA/4 PA/4 PHA/4 SSA/4 ZHA/4 ZA/4 AH/2 TODO ALI GALI TA
  1899 MONGOLIAN LETTER TODO ALI GALI ZHA/2 MANCHU ALI GALI GHA/5 NGA/5 CA/5 JHA/5 TTA/5 DDHA/5 TA
  18A1 MONGOLIAN LETTER MANCHU ALI GALI DHA/5 SSA/5 CYA/5 ZHA/5 ZA/2 ALI GALI HALF U/5 YA
  18A8 MONGOLIAN LETTER MANCHU ALI GALI BHA/2 ALI GALI DAGALGA/2 MANCHU ALI GALI LHA
  18B0 CANADIAN SYLLABICS OY/2 AY/2 AAY/2 WAY/2 POY/2 PAY/2 PWOY/2 TAY/2 KAY/2 KWAY/2 MAY/2 NOY
  18BC CANADIAN SYLLABICS NAY/2 LAY/2 SOY/2 SAY/2 SHOY/2 SHAY/2 SHWOY/2 YOY/2 YAY/2 RAY/2 NWI
  18C7 CANADIAN SYLLABICS OJIBWAY NWI/2 NWII/2 OJIBWAY NWII/2 NWO/2 OJIBWAY NWO/2 NWOO
  18CD CANADIAN SYLLABICS OJIBWAY NWOO/2 RWEE/2 RWI/2 RWII/2 RWO/2 RWOO/2 RWA/2 OJIBWAY P/3 T/3 K
  18D7 CANADIAN SYLLABICS OJIBWAY C/3 M/3 N/3 S/3 SH/2 EASTERN W/2 WESTERN W/2 FINAL SMALL RING
  18DF CANADIAN SYLLABICS FINAL RAISED DOT/2 R-CREE RWE/2 WEST-CREE LOO/3 LAA/2 THWE/2 THWA/2 TTHWE
  18E6 CANADIAN SYLLABICS TTHOO/2 TTHAA/2 TLHWE/2 TLHOO/2 SAYISI SHWE/3 SHOO/3 HOO/2 CARRIER GWU
  18EE CANADIAN SYLLABICS CARRIER DENE GEE/3 GAA/3 GWA/2 SAYISI JUU/2 CARRIER JWA/2 BEAVER DENE L
  18F4 CANADIAN SYLLABICS BEAVER DENE R/2 CARRIER DENTAL S
  1900 LIMBU VOWEL-CARRIER LETTER/1 LETTER KA/2 KHA/2 GA/2 GHA/2 NGA/2 CA/2 CHA/2 JA/2 JHA/2 YAN
  190B LIMBU LETTER TA/2 THA/2 DA/2 DHA/2 NA/2 PA/2 PHA/2 BA/2 BHA/2 MA/2 YA/2 RA/2 LA/2 WA/2 SHA
  191A LIMBU LETTER SSA/2 SA/2 HA/2 GYAN/2 TRA
  1920 LIMBU VOWEL SIGN A/3 I/3 U/3 EE/3 AI/3 OO/3 AU/3 E/3 O/1 SUBJOINED LETTER YA/3 RA/3 WA
  1930 LIMBU SMALL LETTER KA/3 NGA/3 ANUSVARA/3 TA/3 NA/3 PA/3 MA/3 RA/3 LA/1 SIGN MUKPHRENG
  193A LIMBU SIGN KEMPHRENG/2 SA-I
  1940 LIMBU SIGN LOO
  1944 LIMBU EXCLAMATION MARK/1 QUESTION MARK/1 DIGIT ZERO/2 ONE/2 TWO/2 THREE/2 FOUR/2 FIVE/2 SIX
  194D LIMBU DIGIT SEVEN/2 EIGHT/2 NINE/0 TAI LE LETTER KA/3 XA/3 NGA/3 TSA/3 SA/3 YA/3 TA/3 THA
  1958 TAI LE LETTER LA/3 PA/3 PHA/3 MA/3 FA/3 VA/3 HA/3 QA/3 KHA/3 TSHA/3 NA/3 A/3 I/3 EE/3 EH/3 U
  1968 TAI LE LETTER OO/3 O/3 UE/3 E/3 AUE/3 AI
  1970 TAI LE LETTER TONE-2/3 TONE-3/3 TONE-4/3 TONE-5/3 TONE-6
  1980 NEW TAI LUE LETTER HIGH QA/4 LOW QA/4 HIGH KA/5 XA/5 NGA/4 LOW KA/5 XA/5 NGA/4 HIGH TSA/5 SA
  198A NEW TAI LUE LETTER HIGH YA/4 LOW TSA/5 SA/5 YA/4 HIGH TA/5 THA/5 NA/4 LOW TA/5 THA/5 NA
  1994 NEW TAI LUE LETTER HIGH PA/5 PHA/5 MA/4 LOW PA/5 PHA/5 MA/4 HIGH FA/5 VA/5 LA/4 LOW FA/5 VA
  199F NEW TAI LUE LETTER LOW LA/4 HIGH HA/5 DA/5 BA/4 LOW HA/5 DA/5 BA/4 HIGH KVA/5 XVA/4 LOW KVA
  19A9 NEW TAI LUE LETTER LOW XVA/4 HIGH SUA/4 LOW SUA
  19B0 NEW TAI LUE VOWEL SIGN VOWEL SHORTENER/5 AA/5 II/5 U/5 UU/5 E/5 AE/5 O/5 OA/5 UE/5 AY/5 AAY
  19BC NEW TAI LUE VOWEL SIGN UY/5 OY/5 OAY/5 UEY/5 IY/3 LETTER FINAL V/5 NG/5 N/5 M/5 K/5 D/5 B
  19C8 NEW TAI LUE TONE MARK-1/4 MARK-2
  19D0 NEW TAI LUE DIGIT ZERO/4 ONE/4 TWO/4 THREE/4 FOUR/4 FIVE/4 SIX/4 SEVEN/4 EIGHT/4 NINE
  19DA NEW TAI LUE THAM DIGIT ONE
  19DE NEW TAI LUE SIGN LAE/4 LAEV/0 KHMER SYMBOL PATHAMASAT/2 MUOY KOET/2 PII KOET/2 BEI KOET
  19E4 KHMER SYMBOL BUON KOET/2 PRAM KOET/2 PRAM-MUOY KOET/2 PRAM-PII KOET/2 PRAM-BEI KOET
  19E9 KHMER SYMBOL PRAM-BUON KOET/2 DAP KOET/2 DAP-MUOY KOET/2 DAP-PII KOET/2 DAP-BEI KOET
  19EE KHMER SYMBOL DAP-BUON KOET/2 DAP-PRAM KOET/2 TUTEYASAT/2 MUOY ROC/2 PII ROC/2 BEI ROC
  19F4 KHMER SYMBOL BUON ROC/2 PRAM ROC/2 PRAM-MUOY ROC/2 PRAM-PII ROC/2 PRAM-BEI ROC
  19F9 KHMER SYMBOL PRAM-BUON ROC/2 DAP ROC/2 DAP-MUOY ROC/2 DAP-PII ROC/2 DAP-BEI ROC
  19FE KHMER SYMBOL DAP-BUON ROC/2 DAP-PRAM ROC/0 BUGINESE LETTER KA/2 GA/2 NGA/2 NGKA/2 PA/2 BA
  1A06 BUGINESE LETTER MA/2 MPA/2 TA/2 DA/2 NA/2 NRA/2 CA/2 JA/2 NYA/2 NYCA/2 YA/2 RA/2 LA/2 VA/2 SA
  1A15 BUGINESE LETTER A/2 HA/1 VOWEL SIGN I/3 U/3 E/3 O/3 AE
  1A1E BUGINESE PALLAWA/1 END OF SECTION/0 TAI THAM LETTER HIGH KA/4 KHA/4 KXA/3 LOW KA/4 KXA/4 KHA
  1A26 TAI THAM LETTER NGA/3 HIGH CA/4 CHA/3 LOW CA/4 SA/4 CHA/3 NYA/3 RATA/3 HIGH RATHA/3 DA
  1A30 TAI THAM LETTER LOW RATHA/3 RANA/3 HIGH TA/4 THA/3 LOW TA/4 THA/3 NA/3 BA/3 HIGH PA/4 PHA
  1A3A TAI THAM LETTER HIGH FA/3 LOW PA/4 FA/4 PHA/3 MA/3 LOW YA/3 HIGH YA/3 RA/3 RUE/3 LA/3 LUE
  1A45 TAI THAM LETTER WA/3 HIGH SHA/4 SSA/4 SA/4 HA/3 LLA/3 A/3 LOW HA/3 I/3 II/3 U/3 UU/3 EE/3 OO
  1A53 TAI THAM LETTER LAE/3 GREAT SA/2 CONSONANT SIGN MEDIAL RA/5 LA/4 LA TANG LAI
  1A58 TAI THAM SIGN MAI KANG LAI/2 CONSONANT SIGN FINAL NGA/4 LOW PA/4 HIGH RATHA OR LOW PA/4 MA
  1A5D TAI THAM CONSONANT SIGN BA/4 SA
  1A60 TAI THAM SIGN SAKOT/2 VOWEL SIGN A/4 MAI SAT/4 AA/4 TALL AA/4 I/4 II/4 UE/4 UUE/4 U/4 UU/4 O
  1A6C TAI THAM VOWEL SIGN OA BELOW/4 OY/4 E/4 AE/4 OO/4 AI/4 THAM AI/4 OA ABOVE/2 SIGN MAI KANG
  1A75 TAI THAM SIGN TONE-1/3 TONE-2/3 KHUEN TONE-3/4 TONE-4/4 TONE-5/3 RA HAAM/3 MAI SAM
  1A7C TAI THAM SIGN KHUEN-LUE KARAN
  1A7F TAI THAM COMBINING CRYPTOGRAMMIC DOT/2 HORA DIGIT ZERO/4 ONE/4 TWO/4 THREE/4 FOUR/4 FIVE
  1A86 TAI THAM HORA DIGIT SIX/4 SEVEN/4 EIGHT/4 NINE
  1A90 TAI THAM THAM DIGIT ZERO/4 ONE/4 TWO/4 THREE/4 FOUR/4 FIVE/4 SIX/4 SEVEN/4 EIGHT/4 NINE
  1AA0 TAI THAM SIGN WIANG/3 WIANGWAAK/3 SAWAN/3 KEOW/3 HOY/3 DOKMAI/3 REVERSED ROTATED RANA
  1AA7 TAI THAM SIGN MAI YAMOK/3 KAAN/3 KAANKUU/3 SATKAAN/3 SATKAANKUU/3 HANG/3 CAANG
  1AB0 COMBINING DOUBLED CIRCUMFLEX ACCENT/1 DIAERESIS-RING/1 INFINITY/1 DOWNWARDS ARROW
  1AB4 COMBINING TRIPLE DOT/1 X-X BELOW/1 WIGGLY LINE BELOW/1 OPEN MARK BELOW
  1AB8 COMBINING DOUBLE OPEN MARK BELOW/1 LIGHT CENTRALIZATION STROKE BELOW
  1ABA COMBINING STRONG CENTRALIZATION STROKE BELOW/1 PARENTHESES ABOVE/1 DOUBLE PARENTHESES ABOVE
  1ABD COMBINING PARENTHESES BELOW/2 OVERLAY/1 LATIN SMALL LETTER W BELOW/4 TURNED W BELOW
  1AC1 COMBINING LEFT PARENTHESIS ABOVE LEFT/1 RIGHT PARENTHESIS ABOVE RIGHT
  1AC3 COMBINING LEFT PARENTHESIS BELOW LEFT/1 RIGHT PARENTHESIS BELOW RIGHT/1 SQUARE BRACKETS ABOVE
  1AC6 COMBINING NUMBER SIGN ABOVE/1 INVERTED DOUBLE ARCH ABOVE/1 PLUS SIGN ABOVE
  1AC9 COMBINING DOUBLE PLUS SIGN ABOVE/4 BELOW/1 TRIPLE ACUTE ACCENT/1 LATIN SMALL LETTER INSULAR G
  1ACD COMBINING LATIN SMALL LETTER INSULAR R/5 T
  1B00 BALINESE SIGN ULU RICEM/3 CANDRA/2 CECEK/2 SURANG/2 BISAH/1 LETTER AKARA/3 TEDUNG/2 IKARA
  1B08 BALINESE LETTER IKARA TEDUNG/2 UKARA/3 TEDUNG/2 RA REPA/4 TEDUNG/2 LA LENGA/4 TEDUNG/2 EKARA
  1B10 BALINESE LETTER AIKARA/2 OKARA/3 TEDUNG/2 KA/3 MAHAPRANA/2 GA/3 GORA/2 NGA/2 CA/3 LACA/2 JA
  1B1B BALINESE LETTER JA JERA/2 NYA/2 TA LATIK/3 MURDA MAHAPRANA/2 DA MURDA ALPAPRANA/4 MAHAPRANA
  1B21 BALINESE LETTER NA RAMBAT/2 TA/3 TAWA/2 DA/3 MADU/2 NA/2 PA/3 KAPAL/2 BA/3 KEMBANG/2 MA/2 YA
  1B2D BALINESE LETTER RA/2 LA/2 WA/2 SA SAGA/3 SAPA/3/2 HA/1 SIGN REREKAN/1 VOWEL SIGN TEDUNG/3 ULU
  1B37 BALINESE VOWEL SIGN ULU SARI/3 SUKU/4 ILUT/3 RA REPA/5 TEDUNG/3 LA LENGA/5 TEDUNG/3 TALING
  1B3F BALINESE VOWEL SIGN TALING REPA/4 TEDUNG/4 REPA TEDUNG/3 PEPET/4 TEDUNG/1 ADEG ADEG
  1B45 BALINESE LETTER KAF SASAK/2 KHOT SASAK/2 TZIR SASAK/2 EF SASAK/2 VE SASAK/2 ZAL SASAK
  1B4B BALINESE LETTER ASYURA SASAK/2 ARCHAIC JNYA
  1B50 BALINESE DIGIT ZERO/2 ONE/2 TWO/2 THREE/2 FOUR/2 FIVE/2 SIX/2 SEVEN/2 EIGHT/2 NINE/1 PANTI
  1B5B BALINESE PAMADA/1 WINDU/1 CARIK PAMUNGKAH/2 SIKI/2 PAREREN/1 PAMENENG/1 MUSICAL SYMBOL DONG
  1B62 BALINESE MUSICAL SYMBOL DENG/3 DUNG/3 DANG/4 SURANG/3 DING/3 DAENG/3 DEUNG/3 DAING
  1B6A BALINESE MUSICAL SYMBOL DANG GEDE/3 COMBINING TEGEH/4 ENDEP/4 KEMPUL/4 KEMPLI/4 JEGOGAN
  1B70 BALINESE MUSICAL SYMBOL COMBINING KEMPUL WITH JEGOGAN/4 KEMPLI WITH JEGOGAN/4 BENDE/4 GONG
  1B74 BALINESE MUSICAL SYMBOL RIGHT-HAND OPEN DUG/5 DAG/4 CLOSED TUK/5 TAK/3 LEFT-HAND OPEN PANG
  1B79 BALINESE MUSICAL SYMBOL LEFT-HAND OPEN PUNG/4 CLOSED PLAK/5 PLUK/4 OPEN PING/1 PANTI LANTANG
  1B7E BALINESE PAMADA LANTANG
  1B80 SUNDANESE SIGN PANYECEK/2 PANGLAYAR/2 PANGWISAD/1 LETTER A/2 I/2 U/2 AE/2 O/2 E/2 EU/2 KA
  1B8B SUNDANESE LETTER QA/2 GA/2 NGA/2 CA/2 JA/2 ZA/2 NYA/2 TA/2 DA/2 NA/2 PA/2 FA/2 VA/2 BA/2 MA
  1B9A SUNDANESE LETTER YA/2 RA/2 LA/2 WA/2 SA/2 XA/2 HA/1 CONSONANT SIGN PAMINGKAL/3 PANYAKRA
  1BA3 SUNDANESE CONSONANT SIGN PANYIKU/1 VOWEL SIGN PANGHULU/3 PANYUKU/3 PANAELAENG/3 PANOLONG
  1BA8 SUNDANESE VOWEL SIGN PAMEPET/3 PANEULEUNG/1 SIGN PAMAAEH/2 VIRAMA
  1BAC SUNDANESE CONSONANT SIGN PASANGAN MA/4 WA/1 LETTER KHA/2 SYA/1 DIGIT ZERO/2 ONE/2 TWO/2 THREE
  1BB4 SUNDANESE DIGIT FOUR/2 FIVE/2 SIX/2 SEVEN/2 EIGHT/2 NINE/1 AVAGRAHA/1 LETTER REU/2 LEU/2 BHA
  1BBE SUNDANESE LETTER FINAL K/3 M/0 BATAK LETTER A/2 SIMALUNGUN A/2 HA/2 SIMALUNGUN HA
  1BC4 BATAK LETTER MANDAILING HA/2 BA/2 KARO BA/2 PA/2 SIMALUNGUN PA/2 NA/2 MANDAILING NA/2 WA
  1BCC BATAK LETTER SIMALUNGUN WA/2 PAKPAK WA/2 GA/2 SIMALUNGUN GA/2 JA/2 DA/2 RA/2 SIMALUNGUN RA
  1BD4 BATAK LETTER MA/2 SIMALUNGUN MA/2 SOUTHERN TA/2 NORTHERN TA/2 SA/2 SIMALUNGUN SA
  1BDA BATAK LETTER MANDAILING SA/2 YA/2 SIMALUNGUN YA/2 NGA/2 LA/2 SIMALUNGUN LA/2 NYA/2 CA/2 NDA
  1BE3 BATAK LETTER MBA/2 I/2 U/1 SIGN TOMPI/1 VOWEL SIGN E/3 PAKPAK E/3 EE/3 I/3 KARO I/3 O
  1BED BATAK VOWEL SIGN KARO O/3 U/4 FOR SIMALUNGUN SA/1 CONSONANT SIGN NG/3 H/1 PANGOLAT
  1BF3 BATAK PANONGONAN
  1BFC BATAK SYMBOL BINDU NA METEK/3 PINARBORAS/3 JUDUL/3 PANGOLAT/0 LEPCHA LETTER KA/2 KLA/2 KHA
  1C03 LEPCHA LETTER GA/2 GLA/2 NGA/2 CA/2 CHA/2 JA/2 NYA/2 TA/2 THA/2 DA/2 NA/2 PA/2 PLA/2 PHA/2 FA
  1C12 LEPCHA LETTER FLA/2 BA/2 BLA/2 MA/2 MLA/2 TSA/2 TSHA/2 DZA/2 YA/2 RA/2 LA/2 HA/2 HLA/2 VA
  1C20 LEPCHA LETTER SA/2 SHA/2 WA/2 A/1 SUBJOINED LETTER YA/3 RA/1 VOWEL SIGN AA/3 I/3 O/3 OO/3 U
  1C2B LEPCHA VOWEL SIGN UU/3 E/1 CONSONANT SIGN K/3 M/3 L/3 N/3 P/3 R/3 T/3 NYIN-DO/3 KANG
  1C36 LEPCHA SIGN RAN/2 NUKTA
  1C3B LEPCHA PUNCTUATION TA-ROL/2 NYET THYOOM TA-ROL/2 CER-WA/2 TSHOOK CER-WA/3/1 DIGIT ZERO/2 ONE
  1C42 LEPCHA DIGIT TWO/2 THREE/2 FOUR/2 FIVE/2 SIX/2 SEVEN/2 EIGHT/2 NINE
  1C4D LEPCHA LETTER TTA/2 TTHA/2 DDA/0 OL CHIKI DIGIT ZERO/3 ONE/3 TWO/3 THREE/3 FOUR/3 FIVE/3 SIX
  1C57 OL CHIKI DIGIT SEVEN/3 EIGHT/3 NINE/2 LETTER LA/3 AT/3 AG/3 ANG/3 AL/3 LAA/3 AAK/3 AAJ/3 AAM
  1C63 OL CHIKI LETTER AAW/3 LI/3 IS/3 IH/3 INY/3 IR/3 LU/3 UC/3 UD/3 UNN/3 UY/3 LE/3 EP/3 EDD/3 EN
  1C72 OL CHIKI LETTER ERR/3 LO/3 OTT/3 OB/3 OV/3 OH/2 MU TTUDDAG/2 GAAHLAA TTUDDAAG
  1C7A OL CHIKI MU-GAAHLAA TTUDDAAG/2 RELAA/2 PHAARKAA/2 AHAD/2 PUNCTUATION MUCAAD/3 DOUBLE MUCAAD
  1C80 CYRILLIC SMALL LETTER ROUNDED VE/3 LONG-LEGGED DE/3 NARROW O/3 WIDE ES/3 TALL TE
  1C85 CYRILLIC SMALL LETTER THREE-LEGGED TE/3 TALL HARD SIGN/4 YAT/3 UNBLENDED UK
  1C90 GEORGIAN MTAVRULI CAPITAL LETTER AN/4 BAN/4 GAN/4 DON/4 EN/4 VIN/4 ZEN/4 TAN/4 IN/4 KAN/4 LAS
  1C9B GEORGIAN MTAVRULI CAPITAL LETTER MAN/4 NAR/4 ON/4 PAR/4 ZHAR/4 RAE/4 SAN/4 TAR/4 UN/4 PHAR
  1CA5 GEORGIAN MTAVRULI CAPITAL LETTER KHAR/4 GHAN/4 QAR/4 SHIN/4 CHIN/4 CAN/4 JIL/4 CIL/4 CHAR
  1CAE GEORGIAN MTAVRULI CAPITAL LETTER XAN/4 JHAN/4 HAE/4 HE/4 HIE/4 WE/4 HAR/4 HOE/4 FI/4 YN
  1CB8 GEORGIAN MTAVRULI CAPITAL LETTER ELIFI/4 TURNED GAN/4 AIN
  1CBD GEORGIAN MTAVRULI CAPITAL LETTER AEN/4 HARD SIGN/4 LABIAL SIGN
  1CC0 SUNDANESE PUNCTUATION BINDU SURYA/3 PANGLONG/3 PURNAMA/3 CAKRA/3 LEU SATANGA/3 KA SATANGA
  1CC6 SUNDANESE PUNCTUATION BINDU DA SATANGA/3 BA SATANGA
  1CD0 VEDIC TONE KARSHANA/2 SHARA/2 PRENKHA/1 SIGN NIHSHVASA/2 YAJURVEDIC MIDLINE SVARITA
  1CD5 VEDIC TONE YAJURVEDIC AGGRAVATED INDEPENDENT SVARITA/3 INDEPENDENT SVARITA
  1CD7 VEDIC TONE YAJURVEDIC KATHAKA INDEPENDENT SVARITA/2 CANDRA BELOW
  1CD9 VEDIC TONE YAJURVEDIC KATHAKA INDEPENDENT SVARITA SCHROEDER/2 DOUBLE SVARITA/2 TRIPLE SVARITA
  1CDC VEDIC TONE KATHAKA ANUDATTA/2 DOT BELOW/2 TWO DOTS BELOW/2 THREE DOTS BELOW
  1CE0 VEDIC TONE RIGVEDIC KASHMIRI INDEPENDENT SVARITA/2 ATHARVAVEDIC INDEPENDENT SVARITA
  1CE2 VEDIC SIGN VISARGA SVARITA/3 UDATTA/2 REVERSED VISARGA UDATTA/2 VISARGA ANUDATTA
  1CE6 VEDIC SIGN REVERSED VISARGA ANUDATTA/2 VISARGA UDATTA WITH TAIL/3 ANUDATTA WITH TAIL
  1CE9 VEDIC SIGN ANUSVARA ANTARGOMUKHA/3 BAHIRGOMUKHA/3 VAMAGOMUKHA/4 WITH TAIL/2 TIRYAK
  1CEE VEDIC SIGN HEXIFORM LONG ANUSVARA/2 LONG ANUSVARA/2 RTHANG LONG ANUSVARA
  1CF1 VEDIC SIGN ANUSVARA UBHAYATO MUKHA/2 ARDHAVISARGA/2 ROTATED ARDHAVISARGA/1 TONE CANDRA ABOVE
  1CF5 VEDIC SIGN JIHVAMULIYA/2 UPADHMANIYA/2 ATIKRAMA/1 TONE RING ABOVE/2 DOUBLE RING ABOVE
  1CFA VEDIC SIGN DOUBLE ANUSVARA ANTARGOMUKHA
  1D00 LATIN LETTER SMALL CAPITAL A/4 AE/1 SMALL LETTER TURNED AE/1 LETTER SMALL CAPITAL BARRED B
  1D04 LATIN LETTER SMALL CAPITAL C/4 D/4 ETH/4 E/1 SMALL LETTER TURNED OPEN E/4 I
  1D0A LATIN LETTER SMALL CAPITAL J/4 K/4 L WITH STROKE/4 M/4 REVERSED N/4 O/4 OPEN O
  1D11 LATIN SMALL LETTER SIDEWAYS O/4 OPEN O/4 O WITH STROKE/3 TURNED OE/1 LETTER SMALL CAPITAL OU
  1D16 LATIN SMALL LETTER TOP HALF O/3 BOTTOM HALF O/1 LETTER SMALL CAPITAL P/4 REVERSED R
  1D1A LATIN LETTER SMALL CAPITAL TURNED R/4 T/4 U/1 SMALL LETTER SIDEWAYS U/4 DIAERESIZED U
  1D1F LATIN SMALL LETTER SIDEWAYS TURNED M/1 LETTER SMALL CAPITAL V/4 W/4 Z/4 EZH
  1D24 LATIN LETTER VOICED LARYNGEAL SPIRANT/2 AIN/0 GREEK LETTER SMALL CAPITAL GAMMA/4 LAMDA/4 PI
  1D29 GREEK LETTER SMALL CAPITAL RHO/4 PSI/0 CYRILLIC LETTER SMALL CAPITAL EL
  1D2C MODIFIER LETTER CAPITAL A/3 AE/3 B/3 BARRED B/3 D/3 E/3 REVERSED E/3 G/3 H/3 I/3 J/3 K/3 L
  1D39 MODIFIER LETTER CAPITAL M/3 N/3 REVERSED N/3 O/3 OU/3 P/3 R/3 T/3 U/3 W/2 SMALL A/3 TURNED A
  1D45 MODIFIER LETTER SMALL ALPHA/3 TURNED AE/3 B/3 D/3 E/3 SCHWA/3 OPEN E/3 TURNED OPEN E/3 G
  1D4E MODIFIER LETTER SMALL TURNED I/3 K/3 M/3 ENG/3 O/3 OPEN O/3 TOP HALF O/3 BOTTOM HALF O/3 P
  1D57 MODIFIER LETTER SMALL T/3 U/3 SIDEWAYS U/3 TURNED M/3 V/3 AIN/3 BETA/3 GREEK GAMMA/3 DELTA
  1D60 MODIFIER LETTER SMALL GREEK PHI/3 CHI/0 LATIN SUBSCRIPT SMALL LETTER I/4 R/4 U/4 V
  1D66 GREEK SUBSCRIPT SMALL LETTER BETA/4 GAMMA/4 RHO/4 PHI/4 CHI/0 LATIN SMALL LETTER UE
  1D6C LATIN SMALL LETTER B WITH MIDDLE TILDE/3 D WITH MIDDLE TILDE/3 F WITH MIDDLE TILDE
  1D6F LATIN SMALL LETTER M WITH MIDDLE TILDE/3 N WITH MIDDLE TILDE/3 P WITH MIDDLE TILDE
  1D72 LATIN SMALL LETTER R WITH MIDDLE TILDE/5 FISHHOOK AND MIDDLE TILDE/3 S WITH MIDDLE TILDE
  1D75 LATIN SMALL LETTER T WITH MIDDLE TILDE/3 Z WITH MIDDLE TILDE/3 TURNED G
  1D78 MODIFIER LETTER CYRILLIC EN/0 LATIN SMALL LETTER INSULAR G/3 TH WITH STRIKETHROUGH
  1D7B LATIN SMALL CAPITAL LETTER I WITH STROKE/2 LETTER IOTA WITH STROKE/3 P WITH STROKE
  1D7E LATIN SMALL CAPITAL LETTER U WITH STROKE/2 LETTER UPSILON WITH STROKE/3 B WITH PALATAL HOOK
  1D81 LATIN SMALL LETTER D WITH PALATAL HOOK/3 F WITH PALATAL HOOK/3 G WITH PALATAL HOOK
  1D84 LATIN SMALL LETTER K WITH PALATAL HOOK/3 L WITH PALATAL HOOK/3 M WITH PALATAL HOOK
  1D87 LATIN SMALL LETTER N WITH PALATAL HOOK/3 P WITH PALATAL HOOK/3 R WITH PALATAL HOOK
  1D8A LATIN SMALL LETTER S WITH PALATAL HOOK/3 ESH WITH PALATAL HOOK/3 V WITH PALATAL HOOK
  1D8D LATIN SMALL LETTER X WITH PALATAL HOOK/3 Z WITH PALATAL HOOK/3 A WITH RETROFLEX HOOK
  1D90 LATIN SMALL LETTER ALPHA WITH RETROFLEX HOOK/3 D WITH HOOK AND TAIL/3 E WITH RETROFLEX HOOK
  1D93 LATIN SMALL LETTER OPEN E WITH RETROFLEX HOOK/3 REVERSED OPEN E WITH RETROFLEX HOOK
  1D95 LATIN SMALL LETTER SCHWA WITH RETROFLEX HOOK/3 I WITH RETROFLEX HOOK
  1D97 LATIN SMALL LETTER OPEN O WITH RETROFLEX HOOK/3 ESH WITH RETROFLEX HOOK
  1D99 LATIN SMALL LETTER U WITH RETROFLEX HOOK/3 EZH WITH RETROFLEX HOOK
  1D9B MODIFIER LETTER SMALL TURNED ALPHA/3 C/4 WITH CURL/3 ETH/3 REVERSED OPEN E/3 F
  1DA1 MODIFIER LETTER SMALL DOTLESS J WITH STROKE/3 SCRIPT G/3 TURNED H/3 I WITH STROKE/3 IOTA
  1DA6 MODIFIER LETTER SMALL CAPITAL I/5 WITH STROKE/3 J WITH CROSSED-TAIL/3 L WITH RETROFLEX HOOK
  1DAA MODIFIER LETTER SMALL L WITH PALATAL HOOK/3 CAPITAL L/3 M WITH HOOK/3 TURNED M WITH LONG LEG
  1DAE MODIFIER LETTER SMALL N WITH LEFT HOOK/5 RETROFLEX HOOK/3 CAPITAL N/3 BARRED O/3 PHI
  1DB3 MODIFIER LETTER SMALL S WITH HOOK/3 ESH/3 T WITH PALATAL HOOK/3 U BAR/3 UPSILON/3 CAPITAL U
  1DB9 MODIFIER LETTER SMALL V WITH HOOK/3 TURNED V/3 Z/4 WITH RETROFLEX HOOK/5 CURL/3 EZH/3 THETA
  1DC0 COMBINING DOTTED GRAVE ACCENT/2 ACUTE ACCENT/1 SNAKE BELOW/1 SUSPENSION MARK/1 MACRON-ACUTE
  1DC5 COMBINING GRAVE-MACRON/1 MACRON-GRAVE/1 ACUTE-MACRON/1 GRAVE-ACUTE-GRAVE/1 ACUTE-GRAVE-ACUTE
  1DCA COMBINING LATIN SMALL LETTER R BELOW/1 BREVE-MACRON/1 MACRON-BREVE/1 DOUBLE CIRCUMFLEX ABOVE
  1DCE COMBINING OGONEK ABOVE/1 ZIGZAG BELOW/1 IS BELOW/1 UR ABOVE/1 US ABOVE
  1DD3 COMBINING LATIN SMALL LETTER FLATTENED OPEN A ABOVE/4 AE/4 AO/4 AV/4 C CEDILLA/4 INSULAR D
  1DD9 COMBINING LATIN SMALL LETTER ETH/4 G/2 LETTER SMALL CAPITAL G/2 SMALL LETTER K/4 L
  1DDE COMBINING LATIN LETTER SMALL CAPITAL L/5 M/2 SMALL LETTER N/2 LETTER SMALL CAPITAL N/5 R
  1DE3 COMBINING LATIN SMALL LETTER R ROTUNDA/4 S/4 LONG S/4 Z/4 ALPHA/4 B/4 BETA/4 SCHWA/4 F
  1DEC COMBINING LATIN SMALL LETTER L WITH DOUBLE MIDDLE TILDE/4 O WITH LIGHT CENTRALIZATION STROKE
  1DEE COMBINING LATIN SMALL LETTER P/4 ESH/4 U WITH LIGHT CENTRALIZATION STROKE/4 W
  1DF2 COMBINING LATIN SMALL LETTER A WITH DIAERESIS/4 O WITH DIAERESIS/4 U WITH DIAERESIS
  1DF5 COMBINING UP TACK ABOVE/1 KAVYKA ABOVE RIGHT/3 LEFT/1 DOT ABOVE LEFT
  1DF9 COMBINING WIDE INVERTED BRIDGE BELOW/1 DOT BELOW LEFT/1 DELETION MARK
  1DFC COMBINING DOUBLE INVERTED BREVE BELOW/1 ALMOST EQUAL TO BELOW/1 LEFT ARROWHEAD ABOVE
  1DFF COMBINING RIGHT ARROWHEAD AND DOWN ARROWHEAD BELOW/0 LATIN CAPITAL LETTER A WITH RING BELOW
  1E01 LATIN SMALL LETTER A WITH RING BELOW/1 CAPITAL LETTER B WITH DOT ABOVE
  1E03 LATIN SMALL LETTER B WITH DOT ABOVE/1 CAPITAL LETTER B WITH DOT BELOW
  1E05 LATIN SMALL LETTER B WITH DOT BELOW/1 CAPITAL LETTER B WITH LINE BELOW
  1E07 LATIN SMALL LETTER B WITH LINE BELOW/1 CAPITAL LETTER C WITH CEDILLA AND ACUTE
  1E09 LATIN SMALL LETTER C WITH CEDILLA AND ACUTE/1 CAPITAL LETTER D WITH DOT ABOVE
  1E0B LATIN SMALL LETTER D WITH DOT ABOVE/1 CAPITAL LETTER D WITH DOT BELOW
  1E0D LATIN SMALL LETTER D WITH DOT BELOW/1 CAPITAL LETTER D WITH LINE BELOW
  1E0F LATIN SMALL LETTER D WITH LINE BELOW/1 CAPITAL LETTER D WITH CEDILLA
  1E11 LATIN SMALL LETTER D WITH CEDILLA/1 CAPITAL LETTER D WITH CIRCUMFLEX BELOW
  1E13 LATIN SMALL LETTER D WITH CIRCUMFLEX BELOW/1 CAPITAL LETTER E WITH MACRON AND GRAVE
  1E15 LATIN SMALL LETTER E WITH MACRON AND GRAVE/1 CAPITAL LETTER E WITH MACRON AND ACUTE
  1E17 LATIN SMALL LETTER E WITH MACRON AND ACUTE/1 CAPITAL LETTER E WITH CIRCUMFLEX BELOW
  1E19 LATIN SMALL LETTER E WITH CIRCUMFLEX BELOW/1 CAPITAL LETTER E WITH TILDE BELOW
  1E1B LATIN SMALL LETTER E WITH TILDE BELOW/1 CAPITAL LETTER E WITH CEDILLA AND BREVE
  1E1D LATIN SMALL LETTER E WITH CEDILLA AND BREVE/1 CAPITAL LETTER F WITH DOT ABOVE
  1E1F LATIN SMALL LETTER F WITH DOT ABOVE/1 CAPITAL LETTER G WITH MACRON
  1E21 LATIN SMALL LETTER G WITH MACRON/1 CAPITAL LETTER H WITH DOT ABOVE
  1E23 LATIN SMALL LETTER H WITH DOT ABOVE/1 CAPITAL LETTER H WITH DOT BELOW
  1E25 LATIN SMALL LETTER H WITH DOT BELOW/1 CAPITAL LETTER H WITH DIAERESIS
  1E27 LATIN SMALL LETTER H WITH DIAERESIS/1 CAPITAL LETTER H WITH CEDILLA
  1E29 LATIN SMALL LETTER H WITH CEDILLA/1 CAPITAL LETTER H WITH BREVE BELOW
  1E2B LATIN SMALL LETTER H WITH BREVE BELOW/1 CAPITAL LETTER I WITH TILDE BELOW
  1E2D LATIN SMALL LETTER I WITH TILDE BELOW/1 CAPITAL LETTER I WITH DIAERESIS AND ACUTE
  1E2F LATIN SMALL LETTER I WITH DIAERESIS AND ACUTE/1 CAPITAL LETTER K WITH ACUTE
  1E31 LATIN SMALL LETTER K WITH ACUTE/1 CAPITAL LETTER K WITH DOT BELOW
  1E33 LATIN SMALL LETTER K WITH DOT BELOW/1 CAPITAL LETTER K WITH LINE BELOW
  1E35 LATIN SMALL LETTER K WITH LINE BELOW/1 CAPITAL LETTER L WITH DOT BELOW
  1E37 LATIN SMALL LETTER L WITH DOT BELOW/1 CAPITAL LETTER L WITH DOT BELOW AND MACRON
  1E39 LATIN SMALL LETTER L WITH DOT BELOW AND MACRON/1 CAPITAL LETTER L WITH LINE BELOW
  1E3B LATIN SMALL LETTER L WITH LINE BELOW/1 CAPITAL LETTER L WITH CIRCUMFLEX BELOW
  1E3D LATIN SMALL LETTER L WITH CIRCUMFLEX BELOW/1 CAPITAL LETTER M WITH ACUTE
  1E3F LATIN SMALL LETTER M WITH ACUTE/1 CAPITAL LETTER M WITH DOT ABOVE
  1E41 LATIN SMALL LETTER M WITH DOT ABOVE/1 CAPITAL LETTER M WITH DOT BELOW
  1E43 LATIN SMALL LETTER M WITH DOT BELOW/1 CAPITAL LETTER N WITH DOT ABOVE
  1E45 LATIN SMALL LETTER N WITH DOT ABOVE/1 CAPITAL LETTER N WITH DOT BELOW
  1E47 LATIN SMALL LETTER N WITH DOT BELOW/1 CAPITAL LETTER N WITH LINE BELOW
  1E49 LATIN SMALL LETTER N WITH LINE BELOW/1 CAPITAL LETTER N WITH CIRCUMFLEX BELOW
  1E4B LATIN SMALL LETTER N WITH CIRCUMFLEX BELOW/1 CAPITAL LETTER O WITH TILDE AND ACUTE
  1E4D LATIN SMALL LETTER O WITH TILDE AND ACUTE/1 CAPITAL LETTER O WITH TILDE AND DIAERESIS
  1E4F LATIN SMALL LETTER O WITH TILDE AND DIAERESIS/1 CAPITAL LETTER O WITH MACRON AND GRAVE
  1E51 LATIN SMALL LETTER O WITH MACRON AND GRAVE/1 CAPITAL LETTER O WITH MACRON AND ACUTE
  1E53 LATIN SMALL LETTER O WITH MACRON AND ACUTE/1 CAPITAL LETTER P WITH ACUTE
  1E55 LATIN SMALL LETTER P WITH ACUTE/1 CAPITAL LETTER P WITH DOT ABOVE
  1E57 LATIN SMALL LETTER P WITH DOT ABOVE/1 CAPITAL LETTER R WITH DOT ABOVE
  1E59 LATIN SMALL LETTER R WITH DOT ABOVE/1 CAPITAL LETTER R WITH DOT BELOW
  1E5B LATIN SMALL LETTER R WITH DOT BELOW/1 CAPITAL LETTER R WITH DOT BELOW AND MACRON
  1E5D LATIN SMALL LETTER R WITH DOT BELOW AND MACRON/1 CAPITAL LETTER R WITH LINE BELOW
  1E5F LATIN SMALL LETTER R WITH LINE BELOW/1 CAPITAL LETTER S WITH DOT ABOVE
  1E61 LATIN SMALL LETTER S WITH DOT ABOVE/1 CAPITAL LETTER S WITH DOT BELOW
  1E63 LATIN SMALL LETTER S WITH DOT BELOW/1 CAPITAL LETTER S WITH ACUTE AND DOT ABOVE
  1E65 LATIN SMALL LETTER S WITH ACUTE AND DOT ABOVE/1 CAPITAL LETTER S WITH CARON AND DOT ABOVE
  1E67 LATIN SMALL LETTER S WITH CARON AND DOT ABOVE/1 CAPITAL LETTER S WITH DOT BELOW AND DOT ABOVE
  1E69 LATIN SMALL LETTER S WITH DOT BELOW AND DOT ABOVE/1 CAPITAL LETTER T WITH DOT ABOVE
  1E6B LATIN SMALL LETTER T WITH DOT ABOVE/1 CAPITAL LETTER T WITH DOT BELOW
  1E6D LATIN SMALL LETTER T WITH DOT BELOW/1 CAPITAL LETTER T WITH LINE BELOW
  1E6F LATIN SMALL LETTER T WITH LINE BELOW/1 CAPITAL LETTER T WITH CIRCUMFLEX BELOW
  1E71 LATIN SMALL LETTER T WITH CIRCUMFLEX BELOW/1 CAPITAL LETTER U WITH DIAERESIS BELOW
  1E73 LATIN SMALL LETTER U WITH DIAERESIS BELOW/1 CAPITAL LETTER U WITH TILDE BELOW
  1E75 LATIN SMALL LETTER U WITH TILDE BELOW/1 CAPITAL LETTER U WITH CIRCUMFLEX BELOW
  1E77 LATIN SMALL LETTER U WITH CIRCUMFLEX BELOW/1 CAPITAL LETTER U WITH TILDE AND ACUTE
  1E79 LATIN SMALL LETTER U WITH TILDE AND ACUTE/1 CAPITAL LETTER U WITH MACRON AND DIAERESIS
  1E7B LATIN SMALL LETTER U WITH MACRON AND DIAERESIS/1 CAPITAL LETTER V WITH TILDE
  1E7D LATIN SMALL LETTER V WITH TILDE/1 CAPITAL LETTER V WITH DOT BELOW
  1E7F LATIN SMALL LETTER V WITH DOT BELOW/1 CAPITAL LETTER W WITH GRAVE/1 SMALL LETTER W WITH GRAVE
  1E82 LATIN CAPITAL LETTER W WITH ACUTE/1 SMALL LETTER W WITH ACUTE
  1E84 LATIN CAPITAL LETTER W WITH DIAERESIS/1 SMALL LETTER W WITH DIAERESIS
  1E86 LATIN CAPITAL LETTER W WITH DOT ABOVE/1 SMALL LETTER W WITH DOT ABOVE
  1E88 LATIN CAPITAL LETTER W WITH DOT BELOW/1 SMALL LETTER W WITH DOT BELOW
  1E8A LATIN CAPITAL LETTER X WITH DOT ABOVE/1 SMALL LETTER X WITH DOT ABOVE
  1E8C LATIN CAPITAL LETTER X WITH DIAERESIS/1 SMALL LETTER X WITH DIAERESIS
  1E8E LATIN CAPITAL LETTER Y WITH DOT ABOVE/1 SMALL LETTER Y WITH DOT ABOVE
  1E90 LATIN CAPITAL LETTER Z WITH CIRCUMFLEX/1 SMALL LETTER Z WITH CIRCUMFLEX
  1E92 LATIN CAPITAL LETTER Z WITH DOT BELOW/1 SMALL LETTER Z WITH DOT BELOW
  1E94 LATIN CAPITAL LETTER Z WITH LINE BELOW/1 SMALL LETTER Z WITH LINE BELOW/3 H WITH LINE BELOW
  1E97 LATIN SMALL LETTER T WITH DIAERESIS/3 W WITH RING ABOVE/3 Y WITH RING ABOVE
  1E9A LATIN SMALL LETTER A WITH RIGHT HALF RING/3 LONG S WITH DOT ABOVE/6 DIAGONAL STROKE
  1E9D LATIN SMALL LETTER LONG S WITH HIGH STROKE/1 CAPITAL LETTER SHARP S/1 SMALL LETTER DELTA
  1EA0 LATIN CAPITAL LETTER A WITH DOT BELOW/1 SMALL LETTER A WITH DOT BELOW
  1EA2 LATIN CAPITAL LETTER A WITH HOOK ABOVE/1 SMALL LETTER A WITH HOOK ABOVE
  1EA4 LATIN CAPITAL LETTER A WITH CIRCUMFLEX AND ACUTE/1 SMALL LETTER A WITH CIRCUMFLEX AND ACUTE
  1EA6 LATIN CAPITAL LETTER A WITH CIRCUMFLEX AND GRAVE/1 SMALL LETTER A WITH CIRCUMFLEX AND GRAVE
  1EA8 LATIN CAPITAL LETTER A WITH CIRCUMFLEX AND HOOK ABOVE
  1EA9 LATIN SMALL LETTER A WITH CIRCUMFLEX AND HOOK ABOVE
  1EAA LATIN CAPITAL LETTER A WITH CIRCUMFLEX AND TILDE/1 SMALL LETTER A WITH CIRCUMFLEX AND TILDE
  1EAC LATIN CAPITAL LETTER A WITH CIRCUMFLEX AND DOT BELOW
  1EAD LATIN SMALL LETTER A WITH CIRCUMFLEX AND DOT BELOW/1 CAPITAL LETTER A WITH BREVE AND ACUTE
  1EAF LATIN SMALL LETTER A WITH BREVE AND ACUTE/1 CAPITAL LETTER A WITH BREVE AND GRAVE
  1EB1 LATIN SMALL LETTER A WITH BREVE AND GRAVE/1 CAPITAL LETTER A WITH BREVE AND HOOK ABOVE
  1EB3 LATIN SMALL LETTER A WITH BREVE AND HOOK ABOVE/1 CAPITAL LETTER A WITH BREVE AND TILDE
  1EB5 LATIN SMALL LETTER A WITH BREVE AND TILDE/1 CAPITAL LETTER A WITH BREVE AND DOT BELOW
  1EB7 LATIN SMALL LETTER A WITH BREVE AND DOT BELOW/1 CAPITAL LETTER E WITH DOT BELOW
  1EB9 LATIN SMALL LETTER E WITH DOT BELOW/1 CAPITAL LETTER E WITH HOOK ABOVE
  1EBB LATIN SMALL LETTER E WITH HOOK ABOVE/1 CAPITAL LETTER E WITH TILDE
  1EBD LATIN SMALL LETTER E WITH TILDE/1 CAPITAL LETTER E WITH CIRCUMFLEX AND ACUTE
  1EBF LATIN SMALL LETTER E WITH CIRCUMFLEX AND ACUTE/1 CAPITAL LETTER E WITH CIRCUMFLEX AND GRAVE
  1EC1 LATIN SMALL LETTER E WITH CIRCUMFLEX AND GRAVE
  1EC2 LATIN CAPITAL LETTER E WITH CIRCUMFLEX AND HOOK ABOVE
  1EC3 LATIN SMALL LETTER E WITH CIRCUMFLEX AND HOOK ABOVE
  1EC4 LATIN CAPITAL LETTER E WITH CIRCUMFLEX AND TILDE/1 SMALL LETTER E WITH CIRCUMFLEX AND TILDE
  1EC6 LATIN CAPITAL LETTER E WITH CIRCUMFLEX AND DOT BELOW
  1EC7 LATIN SMALL LETTER E WITH CIRCUMFLEX AND DOT BELOW/1 CAPITAL LETTER I WITH HOOK ABOVE
  1EC9 LATIN SMALL LETTER I WITH HOOK ABOVE/1 CAPITAL LETTER I WITH DOT BELOW
  1ECB LATIN SMALL LETTER I WITH DOT BELOW/1 CAPITAL LETTER O WITH DOT BELOW
  1ECD LATIN SMALL LETTER O WITH DOT BELOW/1 CAPITAL LETTER O WITH HOOK ABOVE
  1ECF LATIN SMALL LETTER O WITH HOOK ABOVE/1 CAPITAL LETTER O WITH CIRCUMFLEX AND ACUTE
  1ED1 LATIN SMALL LETTER O WITH CIRCUMFLEX AND ACUTE/1 CAPITAL LETTER O WITH CIRCUMFLEX AND GRAVE
  1ED3 LATIN SMALL LETTER O WITH CIRCUMFLEX AND GRAVE
  1ED4 LATIN CAPITAL LETTER O WITH CIRCUMFLEX AND HOOK ABOVE
  1ED5 LATIN SMALL LETTER O WITH CIRCUMFLEX AND HOOK ABOVE
  1ED6 LATIN CAPITAL LETTER O WITH CIRCUMFLEX AND TILDE/1 SMALL LETTER O WITH CIRCUMFLEX AND TILDE
  1ED8 LATIN CAPITAL LETTER O WITH CIRCUMFLEX AND DOT BELOW
  1ED9 LATIN SMALL LETTER O WITH CIRCUMFLEX AND DOT BELOW/1 CAPITAL LETTER O WITH HORN AND ACUTE
  1EDB LATIN SMALL LETTER O WITH HORN AND ACUTE/1 CAPITAL LETTER O WITH HORN AND GRAVE
  1EDD LATIN SMALL LETTER O WITH HORN AND GRAVE/1 CAPITAL LETTER O WITH HORN AND HOOK ABOVE
  1EDF LATIN SMALL LETTER O WITH HORN AND HOOK ABOVE/1 CAPITAL LETTER O WITH HORN AND TILDE
  1EE1 LATIN SMALL LETTER O WITH HORN AND TILDE/1 CAPITAL LETTER O WITH HORN AND DOT BELOW
  1EE3 LATIN SMALL LETTER O WITH HORN AND DOT BELOW/1 CAPITAL LETTER U WITH DOT BELOW
  1EE5 LATIN SMALL LETTER U WITH DOT BELOW/1 CAPITAL LETTER U WITH HOOK ABOVE
  1EE7 LATIN SMALL LETTER U WITH HOOK ABOVE/1 CAPITAL LETTER U WITH HORN AND ACUTE
  1EE9 LATIN SMALL LETTER U WITH HORN AND ACUTE/1 CAPITAL LETTER U WITH HORN AND GRAVE
  1EEB LATIN SMALL LETTER U WITH HORN AND GRAVE/1 CAPITAL LETTER U WITH HORN AND HOOK ABOVE
  1EED LATIN SMALL LETTER U WITH HORN AND HOOK ABOVE/1 CAPITAL LETTER U WITH HORN AND TILDE
  1EEF LATIN SMALL LETTER U WITH HORN AND TILDE/1 CAPITAL LETTER U WITH HORN AND DOT BELOW
  1EF1 LATIN SMALL LETTER U WITH HORN AND DOT BELOW/1 CAPITAL LETTER Y WITH GRAVE
  1EF3 LATIN SMALL LETTER Y WITH GRAVE/1 CAPITAL LETTER Y WITH DOT BELOW
  1EF5 LATIN SMALL LETTER Y WITH DOT BELOW/1 CAPITAL LETTER Y WITH HOOK ABOVE
  1EF7 LATIN SMALL LETTER Y WITH HOOK ABOVE/1 CAPITAL LETTER Y WITH TILDE
  1EF9 LATIN SMALL LETTER Y WITH TILDE/1 CAPITAL LETTER MIDDLE-WELSH LL
  1EFB LATIN SMALL LETTER MIDDLE-WELSH LL/1 CAPITAL LETTER MIDDLE-WELSH V
  1EFD LATIN SMALL LETTER MIDDLE-WELSH V/1 CAPITAL LETTER Y WITH LOOP/1 SMALL LETTER Y WITH LOOP
  1F00 GREEK SMALL LETTER ALPHA WITH PSILI/5 DASIA/5 PSILI AND VARIA/5 DASIA AND VARIA
  1F04 GREEK SMALL LETTER ALPHA WITH PSILI AND OXIA/5 DASIA AND OXIA/5 PSILI AND PERISPOMENI
  1F07 GREEK SMALL LETTER ALPHA WITH DASIA AND PERISPOMENI/1 CAPITAL LETTER ALPHA WITH PSILI/5 DASIA
  1F0A GREEK CAPITAL LETTER ALPHA WITH PSILI AND VARIA/5 DASIA AND VARIA/5 PSILI AND OXIA
  1F0D GREEK CAPITAL LETTER ALPHA WITH DASIA AND OXIA/5 PSILI AND PERISPOMENI
  1F0F GREEK CAPITAL LETTER ALPHA WITH DASIA AND PERISPOMENI/1 SMALL LETTER EPSILON WITH PSILI
  1F11 GREEK SMALL LETTER EPSILON WITH DASIA/5 PSILI AND VARIA/5 DASIA AND VARIA/5 PSILI AND OXIA
  1F15 GREEK SMALL LETTER EPSILON WITH DASIA AND OXIA
  1F18 GREEK CAPITAL LETTER EPSILON WITH PSILI/5 DASIA/5 PSILI AND VARIA/5 DASIA AND VARIA
  1F1C GREEK CAPITAL LETTER EPSILON WITH PSILI AND OXIA/5 DASIA AND OXIA
  1F20 GREEK SMALL LETTER ETA WITH PSILI/5 DASIA/5 PSILI AND VARIA/5 DASIA AND VARIA
  1F24 GREEK SMALL LETTER ETA WITH PSILI AND OXIA/5 DASIA AND OXIA/5 PSILI AND PERISPOMENI
  1F27 GREEK SMALL LETTER ETA WITH DASIA AND PERISPOMENI/1 CAPITAL LETTER ETA WITH PSILI/5 DASIA
  1F2A GREEK CAPITAL LETTER ETA WITH PSILI AND VARIA/5 DASIA AND VARIA/5 PSILI AND OXIA
  1F2D GREEK CAPITAL LETTER ETA WITH DASIA AND OXIA/5 PSILI AND PERISPOMENI/5 DASIA AND PERISPOMENI
  1F30 GREEK SMALL LETTER IOTA WITH PSILI/5 DASIA/5 PSILI AND VARIA/5 DASIA AND VARIA
  1F34 GREEK SMALL LETTER IOTA WITH PSILI AND OXIA/5 DASIA AND OXIA/5 PSILI AND PERISPOMENI
  1F37 GREEK SMALL LETTER IOTA WITH DASIA AND PERISPOMENI/1 CAPITAL LETTER IOTA WITH PSILI/5 DASIA
  1F3A GREEK CAPITAL LETTER IOTA WITH PSILI AND VARIA/5 DASIA AND VARIA/5 PSILI AND OXIA
  1F3D GREEK CAPITAL LETTER IOTA WITH DASIA AND OXIA/5 PSILI AND PERISPOMENI/5 DASIA AND PERISPOMENI
  1F40 GREEK SMALL LETTER OMICRON WITH PSILI/5 DASIA/5 PSILI AND VARIA/5 DASIA AND VARIA
  1F44 GREEK SMALL LETTER OMICRON WITH PSILI AND OXIA/5 DASIA AND OXIA
  1F48 GREEK CAPITAL LETTER OMICRON WITH PSILI/5 DASIA/5 PSILI AND VARIA/5 DASIA AND VARIA
  1F4C GREEK CAPITAL LETTER OMICRON WITH PSILI AND OXIA/5 DASIA AND OXIA
  1F50 GREEK SMALL LETTER UPSILON WITH PSILI/5 DASIA/5 PSILI AND VARIA/5 DASIA AND VARIA
  1F54 GREEK SMALL LETTER UPSILON WITH PSILI AND OXIA/5 DASIA AND OXIA/5 PSILI AND PERISPOMENI
  1F57 GREEK SMALL LETTER UPSILON WITH DASIA AND PERISPOMENI
  1F59 GREEK CAPITAL LETTER UPSILON WITH DASIA
  1F5B GREEK CAPITAL LETTER UPSILON WITH DASIA AND VARIA
  1F5D GREEK CAPITAL LETTER UPSILON WITH DASIA AND OXIA
  1F5F GREEK CAPITAL LETTER UPSILON WITH DASIA AND PERISPOMENI/1 SMALL LETTER OMEGA WITH PSILI
  1F61 GREEK SMALL LETTER OMEGA WITH DASIA/5 PSILI AND VARIA/5 DASIA AND VARIA/5 PSILI AND OXIA
  1F65 GREEK SMALL LETTER OMEGA WITH DASIA AND OXIA/5 PSILI AND PERISPOMENI/5 DASIA AND PERISPOMENI
  1F68 GREEK CAPITAL LETTER OMEGA WITH PSILI/5 DASIA/5 PSILI AND VARIA/5 DASIA AND VARIA
  1F6C GREEK CAPITAL LETTER OMEGA WITH PSILI AND OXIA/5 DASIA AND OXIA/5 PSILI AND PERISPOMENI
  1F6F GREEK CAPITAL LETTER OMEGA WITH DASIA AND PERISPOMENI/1 SMALL LETTER ALPHA WITH VARIA/5 OXIA
  1F72 GREEK SMALL LETTER EPSILON WITH VARIA/5 OXIA/3 ETA WITH VARIA/5 OXIA/3 IOTA WITH VARIA/5 OXIA
  1F78 GREEK SMALL LETTER OMICRON WITH VARIA/5 OXIA/3 UPSILON WITH VARIA/5 OXIA/3 OMEGA WITH VARIA
  1F7D GREEK SMALL LETTER OMEGA WITH OXIA
  1F80 GREEK SMALL LETTER ALPHA WITH PSILI AND YPOGEGRAMMENI/5 DASIA AND YPOGEGRAMMENI
  1F82 GREEK SMALL LETTER ALPHA WITH PSILI AND VARIA AND YPOGEGRAMMENI
  1F83 GREEK SMALL LETTER ALPHA WITH DASIA AND VARIA AND YPOGEGRAMMENI
  1F84 GREEK SMALL LETTER ALPHA WITH PSILI AND OXIA AND YPOGEGRAMMENI
  1F85 GREEK SMALL LETTER ALPHA WITH DASIA AND OXIA AND YPOGEGRAMMENI
  1F86 GREEK SMALL LETTER ALPHA WITH PSILI AND PERISPOMENI AND YPOGEGRAMMENI
  1F87 GREEK SMALL LETTER ALPHA WITH DASIA AND PERISPOMENI AND YPOGEGRAMMENI
  1F88 GREEK CAPITAL LETTER ALPHA WITH PSILI AND PROSGEGRAMMENI/5 DASIA AND PROSGEGRAMMENI
  1F8A GREEK CAPITAL LETTER ALPHA WITH PSILI AND VARIA AND PROSGEGRAMMENI
  1F8B GREEK CAPITAL LETTER ALPHA WITH DASIA AND VARIA AND PROSGEGRAMMENI
  1F8C GREEK CAPITAL LETTER ALPHA WITH PSILI AND OXIA AND PROSGEGRAMMENI
  1F8D GREEK CAPITAL LETTER ALPHA WITH DASIA AND OXIA AND PROSGEGRAMMENI
  1F8E GREEK CAPITAL LETTER ALPHA WITH PSILI AND PERISPOMENI AND PROSGEGRAMMENI
  1F8F GREEK CAPITAL LETTER ALPHA WITH DASIA AND PERISPOMENI AND PROSGEGRAMMENI
  1F90 GREEK SMALL LETTER ETA WITH PSILI AND YPOGEGRAMMENI/5 DASIA AND YPOGEGRAMMENI
  1F92 GREEK SMALL LETTER ETA WITH PSILI AND VARIA AND YPOGEGRAMMENI
  1F93 GREEK SMALL LETTER ETA WITH DASIA AND VARIA AND YPOGEGRAMMENI
  1F94 GREEK SMALL LETTER ETA WITH PSILI AND OXIA AND YPOGEGRAMMENI
  1F95 GREEK SMALL LETTER ETA WITH DASIA AND OXIA AND YPOGEGRAMMENI
  1F96 GREEK SMALL LETTER ETA WITH PSILI AND PERISPOMENI AND YPOGEGRAMMENI
  1F97 GREEK SMALL LETTER ETA WITH DASIA AND PERISPOMENI AND YPOGEGRAMMENI
  1F98 GREEK CAPITAL LETTER ETA WITH PSILI AND PROSGEGRAMMENI/5 DASIA AND PROSGEGRAMMENI
  1F9A GREEK CAPITAL LETTER ETA WITH PSILI AND VARIA AND PROSGEGRAMMENI
  1F9B GREEK CAPITAL LETTER ETA WITH DASIA AND VARIA AND PROSGEGRAMMENI
  1F9C GREEK CAPITAL LETTER ETA WITH PSILI AND OXIA AND PROSGEGRAMMENI
  1F9D GREEK CAPITAL LETTER ETA WITH DASIA AND OXIA AND PROSGEGRAMMENI
  1F9E GREEK CAPITAL LETTER ETA WITH PSILI AND PERISPOMENI AND PROSGEGRAMMENI
  1F9F GREEK CAPITAL LETTER ETA WITH DASIA AND PERISPOMENI AND PROSGEGRAMMENI
  1FA0 GREEK SMALL LETTER OMEGA WITH PSILI AND YPOGEGRAMMENI/5 DASIA AND YPOGEGRAMMENI
  1FA2 GREEK SMALL LETTER OMEGA WITH PSILI AND VARIA AND YPOGEGRAMMENI
  1FA3 GREEK SMALL LETTER OMEGA WITH DASIA AND VARIA AND YPOGEGRAMMENI
  1FA4 GREEK SMALL LETTER OMEGA WITH PSILI AND OXIA AND YPOGEGRAMMENI
  1FA5 GREEK SMALL LETTER OMEGA WITH DASIA AND OXIA AND YPOGEGRAMMENI
  1FA6 GREEK SMALL LETTER OMEGA WITH PSILI AND PERISPOMENI AND YPOGEGRAMMENI
  1FA7 GREEK SMALL LETTER OMEGA WITH DASIA AND PERISPOMENI AND YPOGEGRAMMENI
  1FA8 GREEK CAPITAL LETTER OMEGA WITH PSILI AND PROSGEGRAMMENI/5 DASIA AND PROSGEGRAMMENI
  1FAA GREEK CAPITAL LETTER OMEGA WITH PSILI AND VARIA AND PROSGEGRAMMENI
  1FAB GREEK CAPITAL LETTER OMEGA WITH DASIA AND VARIA AND PROSGEGRAMMENI
  1FAC GREEK CAPITAL LETTER OMEGA WITH PSILI AND OXIA AND PROSGEGRAMMENI
  1FAD GREEK CAPITAL LETTER OMEGA WITH DASIA AND OXIA AND PROSGEGRAMMENI
  1FAE GREEK CAPITAL LETTER OMEGA WITH PSILI AND PERISPOMENI AND PROSGEGRAMMENI
  1FAF GREEK CAPITAL LETTER OMEGA WITH DASIA AND PERISPOMENI AND PROSGEGRAMMENI
  1FB0 GREEK SMALL LETTER ALPHA WITH VRACHY/5 MACRON/5 VARIA AND YPOGEGRAMMENI/5 YPOGEGRAMMENI
  1FB4 GREEK SMALL LETTER ALPHA WITH OXIA AND YPOGEGRAMMENI
  1FB6 GREEK SMALL LETTER ALPHA WITH PERISPOMENI/6 AND YPOGEGRAMMENI
  1FB8 GREEK CAPITAL LETTER ALPHA WITH VRACHY/5 MACRON/5 VARIA/5 OXIA/5 PROSGEGRAMMENI/1 KORONIS
  1FBE GREEK PROSGEGRAMMENI/1 PSILI/1 PERISPOMENI/1 DIALYTIKA AND PERISPOMENI
  1FC2 GREEK SMALL LETTER ETA WITH VARIA AND YPOGEGRAMMENI/5 YPOGEGRAMMENI/5 OXIA AND YPOGEGRAMMENI
  1FC6 GREEK SMALL LETTER ETA WITH PERISPOMENI/6 AND YPOGEGRAMMENI
  1FC8 GREEK CAPITAL LETTER EPSILON WITH VARIA/5 OXIA/3 ETA WITH VARIA/5 OXIA/5 PROSGEGRAMMENI
  1FCD GREEK PSILI AND VARIA/3 OXIA/3 PERISPOMENI/1 SMALL LETTER IOTA WITH VRACHY/5 MACRON
  1FD2 GREEK SMALL LETTER IOTA WITH DIALYTIKA AND VARIA/7 OXIA
  1FD6 GREEK SMALL LETTER IOTA WITH PERISPOMENI/5 DIALYTIKA AND PERISPOMENI
  1FD8 GREEK CAPITAL LETTER IOTA WITH VRACHY/5 MACRON/5 VARIA/5 OXIA
  1FDD GREEK DASIA AND VARIA/3 OXIA/3 PERISPOMENI/1 SMALL LETTER UPSILON WITH VRACHY/5 MACRON
  1FE2 GREEK SMALL LETTER UPSILON WITH DIALYTIKA AND VARIA/7 OXIA/3 RHO WITH PSILI/5 DASIA
  1FE6 GREEK SMALL LETTER UPSILON WITH PERISPOMENI/5 DIALYTIKA AND PERISPOMENI
  1FE8 GREEK CAPITAL LETTER UPSILON WITH VRACHY/5 MACRON/5 VARIA/5 OXIA/3 RHO WITH DASIA
  1FED GREEK DIALYTIKA AND VARIA/3 OXIA/1 VARIA
  1FF2 GREEK SMALL LETTER OMEGA WITH VARIA AND YPOGEGRAMMENI/5 YPOGEGRAMMENI
  1FF4 GREEK SMALL LETTER OMEGA WITH OXIA AND YPOGEGRAMMENI
  1FF6 GREEK SMALL LETTER OMEGA WITH PERISPOMENI/6 AND YPOGEGRAMMENI
  1FF8 GREEK CAPITAL LETTER OMICRON WITH VARIA/5 OXIA/3 OMEGA WITH VARIA/5 OXIA/5 PROSGEGRAMMENI
  1FFD GREEK OXIA/1 DASIA
  2000 EN QUAD/0 EM QUAD/0 EN SPACE/0 EM SPACE/0 THREE-PER-EM SPACE/0 FOUR-PER-EM SPACE
  2006 SIX-PER-EM SPACE/0 FIGURE SPACE/0 PUNCTUATION SPACE/0 THIN SPACE/0 HAIR SPACE
  200B ZERO WIDTH SPACE/2 NON-JOINER/2 JOINER/0 LEFT-TO-RIGHT MARK/0 RIGHT-TO-LEFT MARK/0 HYPHEN
  2011 NON-BREAKING HYPHEN/0 FIGURE DASH/0 EN DASH/0 EM DASH/0 HORIZONTAL BAR/0 DOUBLE VERTICAL LINE
  2017 DOUBLE LOW LINE/0 LEFT SINGLE QUOTATION MARK/0 RIGHT SINGLE QUOTATION MARK
  201A SINGLE LOW-9 QUOTATION MARK/1 HIGH-REVERSED-9 QUOTATION MARK/0 LEFT DOUBLE QUOTATION MARK
  201D RIGHT DOUBLE QUOTATION MARK/0 DOUBLE LOW-9 QUOTATION MARK/1 HIGH-REVERSED-9 QUOTATION MARK
  2020 DAGGER/0 DOUBLE DAGGER/0 BULLET/0 TRIANGULAR BULLET/0 ONE DOT LEADER/0 TWO DOT LEADER
  2026 HORIZONTAL ELLIPSIS/0 HYPHENATION POINT/0 LINE SEPARATOR/0 PARAGRAPH SEPARATOR
  202A LEFT-TO-RIGHT EMBEDDING/0 RIGHT-TO-LEFT EMBEDDING/0 POP DIRECTIONAL FORMATTING
  202D LEFT-TO-RIGHT OVERRIDE/0 RIGHT-TO-LEFT OVERRIDE/0 NARROW NO-BREAK SPACE/0 PER MILLE SIGN
  2031 PER TEN THOUSAND SIGN/0 PRIME/0 DOUBLE PRIME/0 TRIPLE PRIME/0 REVERSED PRIME/1 DOUBLE PRIME
  2037 REVERSED TRIPLE PRIME/0 CARET/0 SINGLE LEFT-POINTING ANGLE QUOTATION MARK
  203A SINGLE RIGHT-POINTING ANGLE QUOTATION MARK/0 REFERENCE MARK/0 DOUBLE EXCLAMATION MARK
  203D INTERROBANG/0 OVERLINE/0 UNDERTIE/0 CHARACTER TIE/0 CARET INSERTION POINT/0 ASTERISM
  2043 HYPHEN BULLET/0 FRACTION SLASH/0 LEFT SQUARE BRACKET WITH QUILL
  2046 RIGHT SQUARE BRACKET WITH QUILL/0 DOUBLE QUESTION MARK/0 QUESTION EXCLAMATION MARK
  2049 EXCLAMATION QUESTION MARK/0 TIRONIAN SIGN ET/0 REVERSED PILCROW SIGN/0 BLACK LEFTWARDS BULLET
  204D BLACK RIGHTWARDS BULLET/0 LOW ASTERISK/0 REVERSED SEMICOLON/0 CLOSE UP
  2051 TWO ASTERISKS ALIGNED VERTICALLY/0 COMMERCIAL MINUS SIGN/0 SWUNG DASH/0 INVERTED UNDERTIE
  2055 FLOWER PUNCTUATION MARK/0 THREE DOT PUNCTUATION/0 QUADRUPLE PRIME/0 FOUR DOT PUNCTUATION
  2059 FIVE DOT PUNCTUATION/0 TWO DOT PUNCTUATION/0 FOUR DOT MARK/0 DOTTED CROSS/0 TRICOLON
  205E VERTICAL FOUR DOTS/0 MEDIUM MATHEMATICAL SPACE/0 WORD JOINER/0 FUNCTION APPLICATION
  2062 INVISIBLE TIMES/1 SEPARATOR/1 PLUS
  2066 LEFT-TO-RIGHT ISOLATE/0 RIGHT-TO-LEFT ISOLATE/0 FIRST STRONG ISOLATE
  2069 POP DIRECTIONAL ISOLATE/0 INHIBIT SYMMETRIC SWAPPING/0 ACTIVATE SYMMETRIC SWAPPING
  206C INHIBIT ARABIC FORM SHAPING/0 ACTIVATE ARABIC FORM SHAPING/0 NATIONAL DIGIT SHAPES
  206F NOMINAL DIGIT SHAPES/0 SUPERSCRIPT ZERO/1 LATIN SMALL LETTER I
  2074 SUPERSCRIPT FOUR/1 FIVE/1 SIX/1 SEVEN/1 EIGHT/1 NINE/1 PLUS SIGN/1 MINUS/1 EQUALS SIGN
  207D SUPERSCRIPT LEFT PARENTHESIS/1 RIGHT PARENTHESIS/1 LATIN SMALL LETTER N/0 SUBSCRIPT ZERO
  2081 SUBSCRIPT ONE/1 TWO/1 THREE/1 FOUR/1 FIVE/1 SIX/1 SEVEN/1 EIGHT/1 NINE/1 PLUS SIGN/1 MINUS
  208C SUBSCRIPT EQUALS SIGN/1 LEFT PARENTHESIS/1 RIGHT PARENTHESIS
  2090 LATIN SUBSCRIPT SMALL LETTER A/4 E/4 O/4 X/4 SCHWA/4 H/4 K/4 L/4 M/4 N/4 P/4 S/4 T
  20A0 EURO-CURRENCY SIGN/0 COLON SIGN/0 CRUZEIRO SIGN/0 FRENCH FRANC SIGN/0 LIRA SIGN/0 MILL SIGN
  20A6 NAIRA SIGN/0 PESETA SIGN/0 RUPEE SIGN/0 WON SIGN/0 NEW SHEQEL SIGN/0 DONG SIGN/0 EURO SIGN
  20AD KIP SIGN/0 TUGRIK SIGN/0 DRACHMA SIGN/0 GERMAN PENNY SIGN/0 PESO SIGN/0 GUARANI SIGN
  20B3 AUSTRAL SIGN/0 HRYVNIA SIGN/0 CEDI SIGN/0 LIVRE TOURNOIS SIGN/0 SPESMILO SIGN/0 TENGE SIGN
  20B9 INDIAN RUPEE SIGN/0 TURKISH LIRA SIGN/0 NORDIC MARK SIGN/0 MANAT SIGN/0 RUBLE SIGN
  20BE LARI SIGN/0 BITCOIN SIGN/0 SOM SIGN
  20D0 COMBINING LEFT HARPOON ABOVE/1 RIGHT HARPOON ABOVE/1 LONG VERTICAL LINE OVERLAY
  20D3 COMBINING SHORT VERTICAL LINE OVERLAY/1 ANTICLOCKWISE ARROW ABOVE/1 CLOCKWISE ARROW ABOVE
  20D6 COMBINING LEFT ARROW ABOVE/1 RIGHT ARROW ABOVE/1 RING OVERLAY/1 CLOCKWISE RING OVERLAY
  20DA COMBINING ANTICLOCKWISE RING OVERLAY/1 THREE DOTS ABOVE/1 FOUR DOTS ABOVE/1 ENCLOSING CIRCLE
  20DE COMBINING ENCLOSING SQUARE/2 DIAMOND/2 CIRCLE BACKSLASH/1 LEFT RIGHT ARROW ABOVE
  20E2 COMBINING ENCLOSING SCREEN/2 KEYCAP/2 UPWARD POINTING TRIANGLE/1 REVERSE SOLIDUS OVERLAY
  20E6 COMBINING DOUBLE VERTICAL STROKE OVERLAY/1 ANNUITY SYMBOL/1 TRIPLE UNDERDOT
  20E9 COMBINING WIDE BRIDGE ABOVE/1 LEFTWARDS ARROW OVERLAY/1 LONG DOUBLE SOLIDUS OVERLAY
  20EC COMBINING RIGHTWARDS HARPOON WITH BARB DOWNWARDS/1 LEFTWARDS HARPOON WITH BARB DOWNWARDS
  20EE COMBINING LEFT ARROW BELOW/1 RIGHT ARROW BELOW/1 ASTERISK ABOVE
  2100 ACCOUNT OF/0 ADDRESSED TO THE SUBJECT/0 DOUBLE-STRUCK CAPITAL C/0 DEGREE CELSIUS
  2104 CENTRE LINE SYMBOL/0 CARE OF/0 CADA UNA/0 EULER CONSTANT/0 SCRUPLE/0 DEGREE FAHRENHEIT
  210A SCRIPT SMALL G/1 CAPITAL H/0 BLACK-LETTER CAPITAL H/0 DOUBLE-STRUCK CAPITAL H
  210E PLANCK CONSTANT/2 OVER TWO PI/0 SCRIPT CAPITAL I/0 BLACK-LETTER CAPITAL I/0 SCRIPT CAPITAL L
  2113 SCRIPT SMALL L/0 L B BAR SYMBOL/0 DOUBLE-STRUCK CAPITAL N/0 NUMERO SIGN
  2117 SOUND RECORDING COPYRIGHT/0 SCRIPT CAPITAL P/0 DOUBLE-STRUCK CAPITAL P/2 Q/0 SCRIPT CAPITAL R
  211C BLACK-LETTER CAPITAL R/0 DOUBLE-STRUCK CAPITAL R/0 PRESCRIPTION TAKE/0 RESPONSE
  2120 SERVICE MARK/0 TELEPHONE SIGN/0 TRADE MARK SIGN/0 VERSICLE/0 DOUBLE-STRUCK CAPITAL Z
  2125 OUNCE SIGN/0 OHM SIGN/0 INVERTED OHM SIGN/0 BLACK-LETTER CAPITAL Z
  2129 TURNED GREEK SMALL LETTER IOTA/0 KELVIN SIGN/0 ANGSTROM SIGN/0 SCRIPT CAPITAL B
  212D BLACK-LETTER CAPITAL C/0 ESTIMATED SYMBOL/0 SCRIPT SMALL E/1 CAPITAL E/2 F/0 TURNED CAPITAL F
  2133 SCRIPT CAPITAL M/1 SMALL O/0 ALEF SYMBOL/0 BET SYMBOL/0 GIMEL SYMBOL/0 DALET SYMBOL
  2139 INFORMATION SOURCE/0 ROTATED CAPITAL Q/0 FACSIMILE SIGN/0 DOUBLE-STRUCK SMALL PI/2 GAMMA
  213E DOUBLE-STRUCK CAPITAL GAMMA/2 PI/1 N-ARY SUMMATION/0 TURNED SANS-SERIF CAPITAL G/3 L
  2143 REVERSED SANS-SERIF CAPITAL L/0 TURNED SANS-SERIF CAPITAL Y/0 DOUBLE-STRUCK ITALIC CAPITAL D
  2146 DOUBLE-STRUCK ITALIC SMALL D/3 E/3 I/3 J/0 PROPERTY LINE/0 TURNED AMPERSAND/0 PER SIGN
  214D AKTIESELSKAB/0 TURNED SMALL F/0 SYMBOL FOR SAMARITAN SOURCE/0 VULGAR FRACTION ONE SEVENTH
  2151 VULGAR FRACTION ONE NINTH/3 TENTH/3 THIRD/2 TWO THIRDS/2 ONE FIFTH/2 TWO FIFTHS
  2157 VULGAR FRACTION THREE FIFTHS/2 FOUR FIFTHS/2 ONE SIXTH/2 FIVE SIXTHS/2 ONE EIGHTH
  215C VULGAR FRACTION THREE EIGHTHS/2 FIVE EIGHTHS/2 SEVEN EIGHTHS/0 FRACTION NUMERATOR ONE
  2160 ROMAN NUMERAL ONE/2 TWO/2 THREE/2 FOUR/2 FIVE/2 SIX/2 SEVEN/2 EIGHT/2 NINE/2 TEN/2 ELEVEN
  216B ROMAN NUMERAL TWELVE/2 FIFTY/2 ONE HUNDRED/2 FIVE HUNDRED/2 ONE THOUSAND
  2170 SMALL ROMAN NUMERAL ONE/3 TWO/3 THREE/3 FOUR/3 FIVE/3 SIX/3 SEVEN/3 EIGHT/3 NINE/3 TEN
  217A SMALL ROMAN NUMERAL ELEVEN/3 TWELVE/3 FIFTY/3 ONE HUNDRED/3 FIVE HUNDRED/3 ONE THOUSAND
  2180 ROMAN NUMERAL ONE THOUSAND C D/2 FIVE THOUSAND/2 TEN THOUSAND/2 REVERSED ONE HUNDRED
  2184 LATIN SMALL LETTER REVERSED C/0 ROMAN NUMERAL SIX LATE FORM/2 FIFTY EARLY FORM/3 THOUSAND
  2188 ROMAN NUMERAL ONE HUNDRED THOUSAND/0 VULGAR FRACTION ZERO THIRDS/0 TURNED DIGIT TWO/2 THREE
  2190 LEFTWARDS ARROW/0 UPWARDS ARROW/0 RIGHTWARDS ARROW/0 DOWNWARDS ARROW/0 LEFT RIGHT ARROW
  2195 UP DOWN ARROW/0 NORTH WEST ARROW/1 EAST ARROW/0 SOUTH EAST ARROW/1 WEST ARROW
  219A LEFTWARDS ARROW WITH STROKE/0 RIGHTWARDS ARROW WITH STROKE/0 LEFTWARDS WAVE ARROW
  219D RIGHTWARDS WAVE ARROW/0 LEFTWARDS TWO HEADED ARROW/0 UPWARDS TWO HEADED ARROW
  21A0 RIGHTWARDS TWO HEADED ARROW/0 DOWNWARDS TWO HEADED ARROW/0 LEFTWARDS ARROW WITH TAIL
  21A3 RIGHTWARDS ARROW WITH TAIL/0 LEFTWARDS ARROW FROM BAR/0 UPWARDS ARROW FROM BAR
  21A6 RIGHTWARDS ARROW FROM BAR/0 DOWNWARDS ARROW FROM BAR/0 UP DOWN ARROW WITH BASE
  21A9 LEFTWARDS ARROW WITH HOOK/0 RIGHTWARDS ARROW WITH HOOK/0 LEFTWARDS ARROW WITH LOOP
  21AC RIGHTWARDS ARROW WITH LOOP/0 LEFT RIGHT WAVE ARROW/2 ARROW WITH STROKE
  21AF DOWNWARDS ZIGZAG ARROW/0 UPWARDS ARROW WITH TIP LEFTWARDS/4 RIGHTWARDS
  21B2 DOWNWARDS ARROW WITH TIP LEFTWARDS/4 RIGHTWARDS/0 RIGHTWARDS ARROW WITH CORNER DOWNWARDS
  21B5 DOWNWARDS ARROW WITH CORNER LEFTWARDS/0 ANTICLOCKWISE TOP SEMICIRCLE ARROW
  21B7 CLOCKWISE TOP SEMICIRCLE ARROW/0 NORTH WEST ARROW TO LONG BAR
  21B9 LEFTWARDS ARROW TO BAR OVER RIGHTWARDS ARROW TO BAR/0 ANTICLOCKWISE OPEN CIRCLE ARROW
  21BB CLOCKWISE OPEN CIRCLE ARROW/0 LEFTWARDS HARPOON WITH BARB UPWARDS/4 DOWNWARDS
  21BE UPWARDS HARPOON WITH BARB RIGHTWARDS/4 LEFTWARDS/0 RIGHTWARDS HARPOON WITH BARB UPWARDS
  21C1 RIGHTWARDS HARPOON WITH BARB DOWNWARDS/0 DOWNWARDS HARPOON WITH BARB RIGHTWARDS/4 LEFTWARDS
  21C4 RIGHTWARDS ARROW OVER LEFTWARDS ARROW/0 UPWARDS ARROW LEFTWARDS OF DOWNWARDS ARROW
  21C6 LEFTWARDS ARROW OVER RIGHTWARDS ARROW/1 PAIRED ARROWS/0 UPWARDS PAIRED ARROWS
  21C9 RIGHTWARDS PAIRED ARROWS/0 DOWNWARDS PAIRED ARROWS
  21CB LEFTWARDS HARPOON OVER RIGHTWARDS HARPOON/0 RIGHTWARDS HARPOON OVER LEFTWARDS HARPOON
  21CD LEFTWARDS DOUBLE ARROW WITH STROKE/0 LEFT RIGHT DOUBLE ARROW WITH STROKE
  21CF RIGHTWARDS DOUBLE ARROW WITH STROKE/0 LEFTWARDS DOUBLE ARROW/0 UPWARDS DOUBLE ARROW
  21D2 RIGHTWARDS DOUBLE ARROW/0 DOWNWARDS DOUBLE ARROW/0 LEFT RIGHT DOUBLE ARROW
  21D5 UP DOWN DOUBLE ARROW/0 NORTH WEST DOUBLE ARROW/1 EAST DOUBLE ARROW/0 SOUTH EAST DOUBLE ARROW
  21D9 SOUTH WEST DOUBLE ARROW/0 LEFTWARDS TRIPLE ARROW/0 RIGHTWARDS TRIPLE ARROW
  21DC LEFTWARDS SQUIGGLE ARROW/0 RIGHTWARDS SQUIGGLE ARROW/0 UPWARDS ARROW WITH DOUBLE STROKE
  21DF DOWNWARDS ARROW WITH DOUBLE STROKE/0 LEFTWARDS DASHED ARROW/0 UPWARDS DASHED ARROW
  21E2 RIGHTWARDS DASHED ARROW/0 DOWNWARDS DASHED ARROW/0 LEFTWARDS ARROW TO BAR
  21E5 RIGHTWARDS ARROW TO BAR/0 LEFTWARDS WHITE ARROW/0 UPWARDS WHITE ARROW
  21E8 RIGHTWARDS WHITE ARROW/0 DOWNWARDS WHITE ARROW/0 UPWARDS WHITE ARROW FROM BAR/3 ON PEDESTAL
  21EC UPWARDS WHITE ARROW ON PEDESTAL WITH HORIZONTAL BAR/6 VERTICAL BAR/2 DOUBLE ARROW
  21EF UPWARDS WHITE DOUBLE ARROW ON PEDESTAL/0 RIGHTWARDS WHITE ARROW FROM WALL
  21F1 NORTH WEST ARROW TO CORNER/0 SOUTH EAST ARROW TO CORNER/0 UP DOWN WHITE ARROW
  21F4 RIGHT ARROW WITH SMALL CIRCLE/0 DOWNWARDS ARROW LEFTWARDS OF UPWARDS ARROW
  21F6 THREE RIGHTWARDS ARROWS/0 LEFTWARDS ARROW WITH VERTICAL STROKE
  21F8 RIGHTWARDS ARROW WITH VERTICAL STROKE/0 LEFT RIGHT ARROW WITH VERTICAL STROKE
  21FA LEFTWARDS ARROW WITH DOUBLE VERTICAL STROKE/0 RIGHTWARDS ARROW WITH DOUBLE VERTICAL STROKE
  21FC LEFT RIGHT ARROW WITH DOUBLE VERTICAL STROKE/0 LEFTWARDS OPEN-HEADED ARROW
  21FE RIGHTWARDS OPEN-HEADED ARROW/0 LEFT RIGHT OPEN-HEADED ARROW/0 FOR ALL/0 COMPLEMENT
  2202 PARTIAL DIFFERENTIAL/0 THERE EXISTS/1 DOES NOT EXIST/0 EMPTY SET/0 INCREMENT/0 NABLA
  2208 ELEMENT OF/0 NOT AN ELEMENT OF/0 SMALL ELEMENT OF/0 CONTAINS AS MEMBER
  220C DOES NOT CONTAIN AS MEMBER/0 SMALL CONTAINS AS MEMBER/0 END OF PROOF/0 N-ARY PRODUCT
  2210 N-ARY COPRODUCT/1 SUMMATION/0 MINUS SIGN/0 MINUS-OR-PLUS SIGN/0 DOT PLUS/0 DIVISION SLASH
  2216 SET MINUS/0 ASTERISK OPERATOR/0 RING OPERATOR/0 BULLET OPERATOR/0 SQUARE ROOT/0 CUBE ROOT
  221C FOURTH ROOT/0 PROPORTIONAL TO/0 INFINITY/0 RIGHT ANGLE/0 ANGLE/0 MEASURED ANGLE
  2222 SPHERICAL ANGLE/0 DIVIDES/0 DOES NOT DIVIDE/0 PARALLEL TO/0 NOT PARALLEL TO/0 LOGICAL AND
  2228 LOGICAL OR/0 INTERSECTION/0 UNION/0 INTEGRAL/0 DOUBLE INTEGRAL/0 TRIPLE INTEGRAL
  222E CONTOUR INTEGRAL/0 SURFACE INTEGRAL/0 VOLUME INTEGRAL/0 CLOCKWISE INTEGRAL/1 CONTOUR INTEGRAL
  2233 ANTICLOCKWISE CONTOUR INTEGRAL/0 THEREFORE/0 BECAUSE/0 RATIO/0 PROPORTION/0 DOT MINUS
  2239 EXCESS/0 GEOMETRIC PROPORTION/0 HOMOTHETIC/0 TILDE OPERATOR/0 REVERSED TILDE
  223E INVERTED LAZY S/0 SINE WAVE/0 WREATH PRODUCT/0 NOT TILDE/0 MINUS TILDE
  2243 ASYMPTOTICALLY EQUAL TO/0 NOT ASYMPTOTICALLY EQUAL TO/0 APPROXIMATELY EQUAL TO
  2246 APPROXIMATELY BUT NOT ACTUALLY EQUAL TO/0 NEITHER APPROXIMATELY NOR ACTUALLY EQUAL TO
  2248 ALMOST EQUAL TO/0 NOT ALMOST EQUAL TO/0 ALMOST EQUAL OR EQUAL TO/0 TRIPLE TILDE
  224C ALL EQUAL TO/0 EQUIVALENT TO/0 GEOMETRICALLY EQUIVALENT TO/0 DIFFERENCE BETWEEN
  2250 APPROACHES THE LIMIT/0 GEOMETRICALLY EQUAL TO/0 APPROXIMATELY EQUAL TO OR THE IMAGE OF
  2253 IMAGE OF OR APPROXIMATELY EQUAL TO/0 COLON EQUALS/0 EQUALS COLON/0 RING IN EQUAL TO
  2257 RING EQUAL TO/0 CORRESPONDS TO/0 ESTIMATES/0 EQUIANGULAR TO/0 STAR EQUALS/0 DELTA EQUAL TO
  225D EQUAL TO BY DEFINITION/0 MEASURED BY/0 QUESTIONED EQUAL TO/0 NOT EQUAL TO/0 IDENTICAL TO
  2262 NOT IDENTICAL TO/0 STRICTLY EQUIVALENT TO/0 LESS-THAN OR EQUAL TO/0 GREATER-THAN OR EQUAL TO
  2266 LESS-THAN OVER EQUAL TO/0 GREATER-THAN OVER EQUAL TO/0 LESS-THAN BUT NOT EQUAL TO
  2269 GREATER-THAN BUT NOT EQUAL TO/0 MUCH LESS-THAN/1 GREATER-THAN/0 BETWEEN/0 NOT EQUIVALENT TO
  226E NOT LESS-THAN/1 GREATER-THAN/0 NEITHER LESS-THAN NOR EQUAL TO/1 GREATER-THAN NOR EQUAL TO
  2272 LESS-THAN OR EQUIVALENT TO/0 GREATER-THAN OR EQUIVALENT TO
  2274 NEITHER LESS-THAN NOR EQUIVALENT TO/1 GREATER-THAN NOR EQUIVALENT TO
  2276 LESS-THAN OR GREATER-THAN/0 GREATER-THAN OR LESS-THAN/0 NEITHER LESS-THAN NOR GREATER-THAN
  2279 NEITHER GREATER-THAN NOR LESS-THAN/0 PRECEDES/0 SUCCEEDS/0 PRECEDES OR EQUAL TO
  227D SUCCEEDS OR EQUAL TO/0 PRECEDES OR EQUIVALENT TO/0 SUCCEEDS OR EQUIVALENT TO
  2280 DOES NOT PRECEDE/2 SUCCEED/0 SUBSET OF/0 SUPERSET OF/0 NOT A SUBSET OF/2 SUPERSET OF
  2286 SUBSET OF OR EQUAL TO/0 SUPERSET OF OR EQUAL TO/0 NEITHER A SUBSET OF NOR EQUAL TO
  2289 NEITHER A SUPERSET OF NOR EQUAL TO/0 SUBSET OF WITH NOT EQUAL TO
  228B SUPERSET OF WITH NOT EQUAL TO/0 MULTISET/1 MULTIPLICATION/1 UNION/0 SQUARE IMAGE OF
  2290 SQUARE ORIGINAL OF/1 IMAGE OF OR EQUAL TO/1 ORIGINAL OF OR EQUAL TO/1 CAP/1 CUP
  2295 CIRCLED PLUS/1 MINUS/1 TIMES/1 DIVISION SLASH/1 DOT OPERATOR/1 RING OPERATOR
  229B CIRCLED ASTERISK OPERATOR/1 EQUALS/1 DASH/0 SQUARED PLUS/1 MINUS/1 TIMES/1 DOT OPERATOR
  22A2 RIGHT TACK/0 LEFT TACK/0 DOWN TACK/0 UP TACK/0 ASSERTION/0 MODELS/0 TRUE/0 FORCES
  22AA TRIPLE VERTICAL BAR RIGHT TURNSTILE/0 DOUBLE VERTICAL BAR DOUBLE RIGHT TURNSTILE
  22AC DOES NOT PROVE/0 NOT TRUE/0 DOES NOT FORCE
  22AF NEGATED DOUBLE VERTICAL BAR DOUBLE RIGHT TURNSTILE/0 PRECEDES UNDER RELATION
  22B1 SUCCEEDS UNDER RELATION/0 NORMAL SUBGROUP OF/0 CONTAINS AS NORMAL SUBGROUP
  22B4 NORMAL SUBGROUP OF OR EQUAL TO/0 CONTAINS AS NORMAL SUBGROUP OR EQUAL TO/0 ORIGINAL OF
  22B7 IMAGE OF/0 MULTIMAP/0 HERMITIAN CONJUGATE MATRIX/0 INTERCALATE/0 XOR/0 NAND/0 NOR
  22BE RIGHT ANGLE WITH ARC/1 TRIANGLE/0 N-ARY LOGICAL AND/2 OR/1 INTERSECTION/1 UNION
  22C4 DIAMOND OPERATOR/0 DOT OPERATOR/0 STAR OPERATOR/0 DIVISION TIMES/0 BOWTIE
  22C9 LEFT NORMAL FACTOR SEMIDIRECT PRODUCT/0 RIGHT NORMAL FACTOR SEMIDIRECT PRODUCT
  22CB LEFT SEMIDIRECT PRODUCT/0 RIGHT SEMIDIRECT PRODUCT/0 REVERSED TILDE EQUALS/0 CURLY LOGICAL OR
  22CF CURLY LOGICAL AND/0 DOUBLE SUBSET/1 SUPERSET/1 INTERSECTION/1 UNION/0 PITCHFORK
  22D5 EQUAL AND PARALLEL TO/0 LESS-THAN WITH DOT/0 GREATER-THAN WITH DOT/0 VERY MUCH LESS-THAN
  22D9 VERY MUCH GREATER-THAN/0 LESS-THAN EQUAL TO OR GREATER-THAN
  22DB GREATER-THAN EQUAL TO OR LESS-THAN/0 EQUAL TO OR LESS-THAN/3 GREATER-THAN/3 PRECEDES
  22DF EQUAL TO OR SUCCEEDS/0 DOES NOT PRECEDE OR EQUAL/2 SUCCEED OR EQUAL
  22E2 NOT SQUARE IMAGE OF OR EQUAL TO/2 ORIGINAL OF OR EQUAL TO/0 SQUARE IMAGE OF OR NOT EQUAL TO
  22E5 SQUARE ORIGINAL OF OR NOT EQUAL TO/0 LESS-THAN BUT NOT EQUIVALENT TO
  22E7 GREATER-THAN BUT NOT EQUIVALENT TO/0 PRECEDES BUT NOT EQUIVALENT TO
  22E9 SUCCEEDS BUT NOT EQUIVALENT TO/0 NOT NORMAL SUBGROUP OF/0 DOES NOT CONTAIN AS NORMAL SUBGROUP
  22EC NOT NORMAL SUBGROUP OF OR EQUAL TO/0 DOES NOT CONTAIN AS NORMAL SUBGROUP OR EQUAL
  22EE VERTICAL ELLIPSIS/0 MIDLINE HORIZONTAL ELLIPSIS/0 UP RIGHT DIAGONAL ELLIPSIS
  22F1 DOWN RIGHT DIAGONAL ELLIPSIS/0 ELEMENT OF WITH LONG HORIZONTAL STROKE
  22F3 ELEMENT OF WITH VERTICAL BAR AT END OF HORIZONTAL STROKE
  22F4 SMALL ELEMENT OF WITH VERTICAL BAR AT END OF HORIZONTAL STROKE/0 ELEMENT OF WITH DOT ABOVE
  22F6 ELEMENT OF WITH OVERBAR/0 SMALL ELEMENT OF WITH OVERBAR/0 ELEMENT OF WITH UNDERBAR
  22F9 ELEMENT OF WITH TWO HORIZONTAL STROKES/0 CONTAINS WITH LONG HORIZONTAL STROKE
  22FB CONTAINS WITH VERTICAL BAR AT END OF HORIZONTAL STROKE
  22FC SMALL CONTAINS WITH VERTICAL BAR AT END OF HORIZONTAL STROKE/0 CONTAINS WITH OVERBAR
  22FE SMALL CONTAINS WITH OVERBAR/0 Z NOTATION BAG MEMBERSHIP/0 DIAMETER SIGN/0 ELECTRIC ARROW
  2302 HOUSE/0 UP ARROWHEAD/0 DOWN ARROWHEAD/0 PROJECTIVE/0 PERSPECTIVE/0 WAVY LINE/0 LEFT CEILING
  2309 RIGHT CEILING/0 LEFT FLOOR/0 RIGHT FLOOR/0 BOTTOM RIGHT CROP/1 LEFT CROP/0 TOP RIGHT CROP
  230F TOP LEFT CROP/0 REVERSED NOT SIGN/0 SQUARE LOZENGE/0 ARC/0 SEGMENT/0 SECTOR
  2315 TELEPHONE RECORDER/0 POSITION INDICATOR/0 VIEWDATA SQUARE/0 PLACE OF INTEREST SIGN
  2319 TURNED NOT SIGN/0 WATCH/0 HOURGLASS/0 TOP LEFT CORNER/1 RIGHT CORNER/0 BOTTOM LEFT CORNER
  231F BOTTOM RIGHT CORNER/0 TOP HALF INTEGRAL/0 BOTTOM HALF INTEGRAL/0 FROWN/0 SMILE
  2324 UP ARROWHEAD BETWEEN TWO HORIZONTAL BARS/0 OPTION KEY/0 ERASE TO THE RIGHT
  2327 X IN A RECTANGLE BOX/0 KEYBOARD/0 LEFT-POINTING ANGLE BRACKET/0 RIGHT-POINTING ANGLE BRACKET
  232B ERASE TO THE LEFT/0 BENZENE RING/0 CYLINDRICITY/0 ALL AROUND-PROFILE/0 SYMMETRY
  2330 TOTAL RUNOUT/0 DIMENSION ORIGIN/0 CONICAL TAPER/0 SLOPE/0 COUNTERBORE/0 COUNTERSINK
  2336 APL FUNCTIONAL SYMBOL I-BEAM/3 SQUISH QUAD/3 QUAD EQUAL/4 DIVIDE/4 DIAMOND/4 JOT/4 CIRCLE
  233D APL FUNCTIONAL SYMBOL CIRCLE STILE/4 JOT/3 SLASH BAR/3 BACKSLASH BAR/3 QUAD SLASH/4 BACKSLASH
  2343 APL FUNCTIONAL SYMBOL QUAD LESS-THAN/4 GREATER-THAN/3 LEFTWARDS VANE/3 RIGHTWARDS VANE
  2347 APL FUNCTIONAL SYMBOL QUAD LEFTWARDS ARROW/4 RIGHTWARDS ARROW/3 CIRCLE BACKSLASH
  234A APL FUNCTIONAL SYMBOL DOWN TACK UNDERBAR/3 DELTA STILE/3 QUAD DOWN CARET/4 DELTA
  234E APL FUNCTIONAL SYMBOL DOWN TACK JOT/3 UPWARDS VANE/3 QUAD UPWARDS ARROW/3 UP TACK OVERBAR
  2352 APL FUNCTIONAL SYMBOL DEL STILE/3 QUAD UP CARET/4 DEL/3 UP TACK JOT/3 DOWNWARDS VANE
  2357 APL FUNCTIONAL SYMBOL QUAD DOWNWARDS ARROW/3 QUOTE UNDERBAR/3 DELTA UNDERBAR
  235A APL FUNCTIONAL SYMBOL DIAMOND UNDERBAR/3 JOT UNDERBAR/3 CIRCLE UNDERBAR/3 UP SHOE JOT
  235E APL FUNCTIONAL SYMBOL QUOTE QUAD/3 CIRCLE STAR/3 QUAD COLON/3 UP TACK DIAERESIS
  2362 APL FUNCTIONAL SYMBOL DEL DIAERESIS/3 STAR DIAERESIS/3 JOT DIAERESIS/3 CIRCLE DIAERESIS
  2366 APL FUNCTIONAL SYMBOL DOWN SHOE STILE/3 LEFT SHOE STILE/3 TILDE DIAERESIS
  2369 APL FUNCTIONAL SYMBOL GREATER-THAN DIAERESIS/3 COMMA BAR/3 DEL TILDE/3 ZILDE/3 STILE TILDE
  236E APL FUNCTIONAL SYMBOL SEMICOLON UNDERBAR/3 QUAD NOT EQUAL/4 QUESTION/3 DOWN CARET TILDE
  2372 APL FUNCTIONAL SYMBOL UP CARET TILDE/3 IOTA/3 RHO/3 OMEGA/3 ALPHA UNDERBAR/3 EPSILON UNDERBAR
  2378 APL FUNCTIONAL SYMBOL IOTA UNDERBAR/3 OMEGA UNDERBAR/3 ALPHA/0 NOT CHECK MARK
  237C RIGHT ANGLE WITH DOWNWARDS ZIGZAG ARROW/0 SHOULDERED OPEN BOX/0 BELL SYMBOL
  237F VERTICAL LINE WITH MIDDLE DOT/0 INSERTION SYMBOL/0 CONTINUOUS UNDERLINE SYMBOL
  2382 DISCONTINUOUS UNDERLINE SYMBOL/0 EMPHASIS SYMBOL/0 COMPOSITION SYMBOL
  2385 WHITE SQUARE WITH CENTRE VERTICAL LINE/0 ENTER SYMBOL/0 ALTERNATIVE KEY SYMBOL/0 HELM SYMBOL
  2389 CIRCLED HORIZONTAL BAR WITH NOTCH/1 TRIANGLE DOWN/0 BROKEN CIRCLE WITH NORTHWEST ARROW
  238C UNDO SYMBOL/0 MONOSTABLE SYMBOL/0 HYSTERESIS SYMBOL/0 OPEN-CIRCUIT-OUTPUT H-TYPE SYMBOL
  2390 OPEN-CIRCUIT-OUTPUT L-TYPE SYMBOL/0 PASSIVE-PULL-DOWN-OUTPUT SYMBOL
  2392 PASSIVE-PULL-UP-OUTPUT SYMBOL/0 DIRECT CURRENT SYMBOL FORM TWO/0 SOFTWARE-FUNCTION SYMBOL
  2395 APL FUNCTIONAL SYMBOL QUAD/0 DECIMAL SEPARATOR KEY SYMBOL/0 PREVIOUS PAGE/0 NEXT PAGE
  2399 PRINT SCREEN SYMBOL/0 CLEAR SCREEN SYMBOL/0 LEFT PARENTHESIS UPPER HOOK/2 EXTENSION
  239D LEFT PARENTHESIS LOWER HOOK/0 RIGHT PARENTHESIS UPPER HOOK/2 EXTENSION/2 LOWER HOOK
  23A1 LEFT SQUARE BRACKET UPPER CORNER/3 EXTENSION/3 LOWER CORNER
  23A4 RIGHT SQUARE BRACKET UPPER CORNER/3 EXTENSION/3 LOWER CORNER/0 LEFT CURLY BRACKET UPPER HOOK
  23A8 LEFT CURLY BRACKET MIDDLE PIECE/3 LOWER HOOK/0 CURLY BRACKET EXTENSION
  23AB RIGHT CURLY BRACKET UPPER HOOK/3 MIDDLE PIECE/3 LOWER HOOK/0 INTEGRAL EXTENSION
  23AF HORIZONTAL LINE EXTENSION/0 UPPER LEFT OR LOWER RIGHT CURLY BRACKET SECTION
  23B1 UPPER RIGHT OR LOWER LEFT CURLY BRACKET SECTION/0 SUMMATION TOP/1 BOTTOM/0 TOP SQUARE BRACKET
  23B5 BOTTOM SQUARE BRACKET/3 OVER TOP SQUARE BRACKET/0 RADICAL SYMBOL BOTTOM
  23B8 LEFT VERTICAL BOX LINE/0 RIGHT VERTICAL BOX LINE/0 HORIZONTAL SCAN LINE-1/2 LINE-3/2 LINE-7
  23BD HORIZONTAL SCAN LINE-9/0 DENTISTRY SYMBOL LIGHT VERTICAL AND TOP RIGHT/5 BOTTOM RIGHT
  23C0 DENTISTRY SYMBOL LIGHT VERTICAL WITH CIRCLE/3 DOWN AND HORIZONTAL WITH CIRCLE
  23C2 DENTISTRY SYMBOL LIGHT UP AND HORIZONTAL WITH CIRCLE/3 VERTICAL WITH TRIANGLE
  23C4 DENTISTRY SYMBOL LIGHT DOWN AND HORIZONTAL WITH TRIANGLE/3 UP AND HORIZONTAL WITH TRIANGLE
  23C6 DENTISTRY SYMBOL LIGHT VERTICAL AND WAVE/3 DOWN AND HORIZONTAL WITH WAVE
  23C8 DENTISTRY SYMBOL LIGHT UP AND HORIZONTAL WITH WAVE/3 DOWN AND HORIZONTAL/3 UP AND HORIZONTAL
  23CB DENTISTRY SYMBOL LIGHT VERTICAL AND TOP LEFT/5 BOTTOM LEFT/0 SQUARE FOOT/0 RETURN SYMBOL
  23CF EJECT SYMBOL/0 VERTICAL LINE EXTENSION/0 METRICAL BREVE/1 LONG OVER SHORT/1 SHORT OVER LONG
  23D4 METRICAL LONG OVER TWO SHORTS/1 TWO SHORTS OVER LONG/3 JOINED/1 TRISEME/1 TETRASEME
  23D9 METRICAL PENTASEME/0 EARTH GROUND/0 FUSE/0 TOP PARENTHESIS/0 BOTTOM PARENTHESIS
  23DE TOP CURLY BRACKET/0 BOTTOM CURLY BRACKET/0 TOP TORTOISE SHELL BRACKET
  23E1 BOTTOM TORTOISE SHELL BRACKET/0 WHITE TRAPEZIUM/0 BENZENE RING WITH CIRCLE/0 STRAIGHTNESS
  23E5 FLATNESS/0 AC CURRENT/0 ELECTRICAL INTERSECTION/0 DECIMAL EXPONENT SYMBOL
  23E9 BLACK RIGHT-POINTING DOUBLE TRIANGLE/1 LEFT-POINTING DOUBLE TRIANGLE
  23EB BLACK UP-POINTING DOUBLE TRIANGLE/1 DOWN-POINTING DOUBLE TRIANGLE
  23ED BLACK RIGHT-POINTING DOUBLE TRIANGLE WITH VERTICAL BAR
  23EE BLACK LEFT-POINTING DOUBLE TRIANGLE WITH VERTICAL BAR
  23EF BLACK RIGHT-POINTING TRIANGLE WITH DOUBLE VERTICAL BAR/0 ALARM CLOCK/0 STOPWATCH
  23F2 TIMER CLOCK/0 HOURGLASS WITH FLOWING SAND/0 BLACK MEDIUM LEFT-POINTING TRIANGLE
  23F5 BLACK MEDIUM RIGHT-POINTING TRIANGLE/2 UP-POINTING TRIANGLE/2 DOWN-POINTING TRIANGLE
  23F8 DOUBLE VERTICAL BAR/0 BLACK SQUARE FOR STOP/1 CIRCLE FOR RECORD/0 POWER SYMBOL
  23FC POWER ON-OFF SYMBOL/1 ON SYMBOL/1 SLEEP SYMBOL/0 OBSERVER EYE SYMBOL/0 SYMBOL FOR NULL
  2401 SYMBOL FOR START OF HEADING/4 TEXT/2 END OF TEXT/4 TRANSMISSION/2 ENQUIRY/2 ACKNOWLEDGE
  2407 SYMBOL FOR BELL/2 BACKSPACE/2 HORIZONTAL TABULATION/2 LINE FEED/2 VERTICAL TABULATION
  240C SYMBOL FOR FORM FEED/2 CARRIAGE RETURN/2 SHIFT OUT/3 IN/2 DATA LINK ESCAPE
  2411 SYMBOL FOR DEVICE CONTROL ONE/4 TWO/4 THREE/4 FOUR/2 NEGATIVE ACKNOWLEDGE/2 SYNCHRONOUS IDLE
  2417 SYMBOL FOR END OF TRANSMISSION BLOCK/2 CANCEL/2 END OF MEDIUM/2 SUBSTITUTE/2 ESCAPE
  241C SYMBOL FOR FILE SEPARATOR/2 GROUP SEPARATOR/2 RECORD SEPARATOR/2 UNIT SEPARATOR/2 SPACE
  2421 SYMBOL FOR DELETE/0 BLANK SYMBOL/0 OPEN BOX/0 SYMBOL FOR NEWLINE/2 DELETE FORM TWO
  2426 SYMBOL FOR SUBSTITUTE FORM TWO
  2440 OCR HOOK/1 CHAIR/1 FORK/1 INVERTED FORK/1 BELT BUCKLE/1 BOW TIE/1 BRANCH BANK IDENTIFICATION
  2447 OCR AMOUNT OF CHECK/1 DASH/1 CUSTOMER ACCOUNT NUMBER/1 DOUBLE BACKSLASH
  2460 CIRCLED DIGIT ONE/2 TWO/2 THREE/2 FOUR/2 FIVE/2 SIX/2 SEVEN/2 EIGHT/2 NINE/1 NUMBER TEN
  246A CIRCLED NUMBER ELEVEN/2 TWELVE/2 THIRTEEN/2 FOURTEEN/2 FIFTEEN/2 SIXTEEN/2 SEVENTEEN
  2471 CIRCLED NUMBER EIGHTEEN/2 NINETEEN/2 TWENTY/0 PARENTHESIZED DIGIT ONE/2 TWO/2 THREE/2 FOUR
  2478 PARENTHESIZED DIGIT FIVE/2 SIX/2 SEVEN/2 EIGHT/2 NINE/1 NUMBER TEN/2 ELEVEN/2 TWELVE
  2480 PARENTHESIZED NUMBER THIRTEEN/2 FOURTEEN/2 FIFTEEN/2 SIXTEEN/2 SEVENTEEN/2 EIGHTEEN
  2486 PARENTHESIZED NUMBER NINETEEN/2 TWENTY/0 DIGIT ONE FULL STOP/1 TWO FULL STOP
  248A DIGIT THREE FULL STOP/1 FOUR FULL STOP/1 FIVE FULL STOP/1 SIX FULL STOP/1 SEVEN FULL STOP
  248F DIGIT EIGHT FULL STOP/1 NINE FULL STOP/0 NUMBER TEN FULL STOP/1 ELEVEN FULL STOP
  2493 NUMBER TWELVE FULL STOP/1 THIRTEEN FULL STOP/1 FOURTEEN FULL STOP/1 FIFTEEN FULL STOP
  2497 NUMBER SIXTEEN FULL STOP/1 SEVENTEEN FULL STOP/1 EIGHTEEN FULL STOP/1 NINETEEN FULL STOP
  249B NUMBER TWENTY FULL STOP/0 PARENTHESIZED LATIN SMALL LETTER A/4 B/4 C/4 D/4 E/4 F/4 G/4 H/4 I
  24A5 PARENTHESIZED LATIN SMALL LETTER J/4 K/4 L/4 M/4 N/4 O/4 P/4 Q/4 R/4 S/4 T/4 U/4 V/4 W/4 X
  24B4 PARENTHESIZED LATIN SMALL LETTER Y/4 Z/0 CIRCLED LATIN CAPITAL LETTER A/4 B/4 C/4 D/4 E/4 F
  24BC CIRCLED LATIN CAPITAL LETTER G/4 H/4 I/4 J/4 K/4 L/4 M/4 N/4 O/4 P/4 Q/4 R/4 S/4 T/4 U/4 V
  24CC CIRCLED LATIN CAPITAL LETTER W/4 X/4 Y/4 Z/2 SMALL LETTER A/4 B/4 C/4 D/4 E/4 F/4 G/4 H/4 I
  24D9 CIRCLED LATIN SMALL LETTER J/4 K/4 L/4 M/4 N/4 O/4 P/4 Q/4 R/4 S/4 T/4 U/4 V/4 W/4 X/4 Y/4 Z
  24EA CIRCLED DIGIT ZERO/0 NEGATIVE CIRCLED NUMBER ELEVEN/3 TWELVE/3 THIRTEEN/3 FOURTEEN/3 FIFTEEN
  24F0 NEGATIVE CIRCLED NUMBER SIXTEEN/3 SEVENTEEN/3 EIGHTEEN/3 NINETEEN/3 TWENTY
  24F5 DOUBLE CIRCLED DIGIT ONE/3 TWO/3 THREE/3 FOUR/3 FIVE/3 SIX/3 SEVEN/3 EIGHT/3 NINE
  24FE DOUBLE CIRCLED NUMBER TEN/0 NEGATIVE CIRCLED DIGIT ZERO/0 BOX DRAWINGS LIGHT HORIZONTAL
  2501 BOX DRAWINGS HEAVY HORIZONTAL/2 LIGHT VERTICAL/2 HEAVY VERTICAL
  2504 BOX DRAWINGS LIGHT TRIPLE DASH HORIZONTAL/2 HEAVY TRIPLE DASH HORIZONTAL
  2506 BOX DRAWINGS LIGHT TRIPLE DASH VERTICAL/2 HEAVY TRIPLE DASH VERTICAL
  2508 BOX DRAWINGS LIGHT QUADRUPLE DASH HORIZONTAL/2 HEAVY QUADRUPLE DASH HORIZONTAL
  250A BOX DRAWINGS LIGHT QUADRUPLE DASH VERTICAL/2 HEAVY QUADRUPLE DASH VERTICAL
  250C BOX DRAWINGS LIGHT DOWN AND RIGHT/2 DOWN LIGHT AND RIGHT HEAVY/3 HEAVY AND RIGHT LIGHT
  250F BOX DRAWINGS HEAVY DOWN AND RIGHT/2 LIGHT DOWN AND LEFT/2 DOWN LIGHT AND LEFT HEAVY
  2512 BOX DRAWINGS DOWN HEAVY AND LEFT LIGHT/2 HEAVY DOWN AND LEFT/2 LIGHT UP AND RIGHT
  2515 BOX DRAWINGS UP LIGHT AND RIGHT HEAVY/3 HEAVY AND RIGHT LIGHT/2 HEAVY UP AND RIGHT
  2518 BOX DRAWINGS LIGHT UP AND LEFT/2 UP LIGHT AND LEFT HEAVY/3 HEAVY AND LEFT LIGHT
  251B BOX DRAWINGS HEAVY UP AND LEFT/2 LIGHT VERTICAL AND RIGHT/2 VERTICAL LIGHT AND RIGHT HEAVY
  251E BOX DRAWINGS UP HEAVY AND RIGHT DOWN LIGHT/2 DOWN HEAVY AND RIGHT UP LIGHT
  2520 BOX DRAWINGS VERTICAL HEAVY AND RIGHT LIGHT/2 DOWN LIGHT AND RIGHT UP HEAVY
  2522 BOX DRAWINGS UP LIGHT AND RIGHT DOWN HEAVY/2 HEAVY VERTICAL AND RIGHT
  2524 BOX DRAWINGS LIGHT VERTICAL AND LEFT/2 VERTICAL LIGHT AND LEFT HEAVY
  2526 BOX DRAWINGS UP HEAVY AND LEFT DOWN LIGHT/2 DOWN HEAVY AND LEFT UP LIGHT
  2528 BOX DRAWINGS VERTICAL HEAVY AND LEFT LIGHT/2 DOWN LIGHT AND LEFT UP HEAVY
  252A BOX DRAWINGS UP LIGHT AND LEFT DOWN HEAVY/2 HEAVY VERTICAL AND LEFT
  252C BOX DRAWINGS LIGHT DOWN AND HORIZONTAL/2 LEFT HEAVY AND RIGHT DOWN LIGHT
  252E BOX DRAWINGS RIGHT HEAVY AND LEFT DOWN LIGHT/2 DOWN LIGHT AND HORIZONTAL HEAVY
  2530 BOX DRAWINGS DOWN HEAVY AND HORIZONTAL LIGHT/2 RIGHT LIGHT AND LEFT DOWN HEAVY
  2532 BOX DRAWINGS LEFT LIGHT AND RIGHT DOWN HEAVY/2 HEAVY DOWN AND HORIZONTAL
  2534 BOX DRAWINGS LIGHT UP AND HORIZONTAL/2 LEFT HEAVY AND RIGHT UP LIGHT
  2536 BOX DRAWINGS RIGHT HEAVY AND LEFT UP LIGHT/2 UP LIGHT AND HORIZONTAL HEAVY
  2538 BOX DRAWINGS UP HEAVY AND HORIZONTAL LIGHT/2 RIGHT LIGHT AND LEFT UP HEAVY
  253A BOX DRAWINGS LEFT LIGHT AND RIGHT UP HEAVY/2 HEAVY UP AND HORIZONTAL
  253C BOX DRAWINGS LIGHT VERTICAL AND HORIZONTAL/2 LEFT HEAVY AND RIGHT VERTICAL LIGHT
  253E BOX DRAWINGS RIGHT HEAVY AND LEFT VERTICAL LIGHT/2 VERTICAL LIGHT AND HORIZONTAL HEAVY
  2540 BOX DRAWINGS UP HEAVY AND DOWN HORIZONTAL LIGHT/2 DOWN HEAVY AND UP HORIZONTAL LIGHT
  2542 BOX DRAWINGS VERTICAL HEAVY AND HORIZONTAL LIGHT/2 LEFT UP HEAVY AND RIGHT DOWN LIGHT
  2544 BOX DRAWINGS RIGHT UP HEAVY AND LEFT DOWN LIGHT/2 LEFT DOWN HEAVY AND RIGHT UP LIGHT
  2546 BOX DRAWINGS RIGHT DOWN HEAVY AND LEFT UP LIGHT/2 DOWN LIGHT AND UP HORIZONTAL HEAVY
  2548 BOX DRAWINGS UP LIGHT AND DOWN HORIZONTAL HEAVY/2 RIGHT LIGHT AND LEFT VERTICAL HEAVY
  254A BOX DRAWINGS LEFT LIGHT AND RIGHT VERTICAL HEAVY/2 HEAVY VERTICAL AND HORIZONTAL
  254C BOX DRAWINGS LIGHT DOUBLE DASH HORIZONTAL/2 HEAVY DOUBLE DASH HORIZONTAL
  254E BOX DRAWINGS LIGHT DOUBLE DASH VERTICAL/2 HEAVY DOUBLE DASH VERTICAL/2 DOUBLE HORIZONTAL
  2551 BOX DRAWINGS DOUBLE VERTICAL/2 DOWN SINGLE AND RIGHT DOUBLE/3 DOUBLE AND RIGHT SINGLE
  2554 BOX DRAWINGS DOUBLE DOWN AND RIGHT/2 DOWN SINGLE AND LEFT DOUBLE/3 DOUBLE AND LEFT SINGLE
  2557 BOX DRAWINGS DOUBLE DOWN AND LEFT/2 UP SINGLE AND RIGHT DOUBLE/3 DOUBLE AND RIGHT SINGLE
  255A BOX DRAWINGS DOUBLE UP AND RIGHT/2 UP SINGLE AND LEFT DOUBLE/3 DOUBLE AND LEFT SINGLE
  255D BOX DRAWINGS DOUBLE UP AND LEFT/2 VERTICAL SINGLE AND RIGHT DOUBLE/3 DOUBLE AND RIGHT SINGLE
  2560 BOX DRAWINGS DOUBLE VERTICAL AND RIGHT/2 VERTICAL SINGLE AND LEFT DOUBLE
  2562 BOX DRAWINGS VERTICAL DOUBLE AND LEFT SINGLE/2 DOUBLE VERTICAL AND LEFT
  2564 BOX DRAWINGS DOWN SINGLE AND HORIZONTAL DOUBLE/3 DOUBLE AND HORIZONTAL SINGLE
  2566 BOX DRAWINGS DOUBLE DOWN AND HORIZONTAL/2 UP SINGLE AND HORIZONTAL DOUBLE
  2568 BOX DRAWINGS UP DOUBLE AND HORIZONTAL SINGLE/2 DOUBLE UP AND HORIZONTAL
  256A BOX DRAWINGS VERTICAL SINGLE AND HORIZONTAL DOUBLE/3 DOUBLE AND HORIZONTAL SINGLE
  256C BOX DRAWINGS DOUBLE VERTICAL AND HORIZONTAL/2 LIGHT ARC DOWN AND RIGHT/6 LEFT/4 UP AND LEFT
  2570 BOX DRAWINGS LIGHT ARC UP AND RIGHT/3 DIAGONAL UPPER RIGHT TO LOWER LEFT
  2572 BOX DRAWINGS LIGHT DIAGONAL UPPER LEFT TO LOWER RIGHT/4 CROSS/3 LEFT/3 UP/3 RIGHT/3 DOWN
  2578 BOX DRAWINGS HEAVY LEFT/3 UP/3 RIGHT/3 DOWN/2 LIGHT LEFT AND HEAVY RIGHT/3 UP AND HEAVY DOWN
  257E BOX DRAWINGS HEAVY LEFT AND LIGHT RIGHT/3 UP AND LIGHT DOWN/0 UPPER HALF BLOCK
  2581 LOWER ONE EIGHTH BLOCK/2 QUARTER BLOCK/1 THREE EIGHTHS BLOCK/1 HALF BLOCK
  2585 LOWER FIVE EIGHTHS BLOCK/1 THREE QUARTERS BLOCK/1 SEVEN EIGHTHS BLOCK/0 FULL BLOCK
  2589 LEFT SEVEN EIGHTHS BLOCK/1 THREE QUARTERS BLOCK/1 FIVE EIGHTHS BLOCK/1 HALF BLOCK
  258D LEFT THREE EIGHTHS BLOCK/1 ONE QUARTER BLOCK/2 EIGHTH BLOCK/0 RIGHT HALF BLOCK/0 LIGHT SHADE
  2592 MEDIUM SHADE/0 DARK SHADE/0 UPPER ONE EIGHTH BLOCK/0 RIGHT ONE EIGHTH BLOCK
  2596 QUADRANT LOWER LEFT/2 RIGHT/1 UPPER LEFT/3 AND LOWER LEFT AND LOWER RIGHT/5 RIGHT
  259B QUADRANT UPPER LEFT AND UPPER RIGHT AND LOWER LEFT/8 RIGHT/2 RIGHT/3 AND LOWER LEFT
  259F QUADRANT UPPER RIGHT AND LOWER LEFT AND LOWER RIGHT/0 BLACK SQUARE/0 WHITE SQUARE
  25A2 WHITE SQUARE WITH ROUNDED CORNERS/2 CONTAINING BLACK SMALL SQUARE
  25A4 SQUARE WITH HORIZONTAL FILL/2 VERTICAL FILL/2 ORTHOGONAL CROSSHATCH FILL
  25A7 SQUARE WITH UPPER LEFT TO LOWER RIGHT FILL/3 RIGHT TO LOWER LEFT FILL
  25A9 SQUARE WITH DIAGONAL CROSSHATCH FILL/0 BLACK SMALL SQUARE/0 WHITE SMALL SQUARE
  25AC BLACK RECTANGLE/0 WHITE RECTANGLE/0 BLACK VERTICAL RECTANGLE/0 WHITE VERTICAL RECTANGLE
  25B0 BLACK PARALLELOGRAM/0 WHITE PARALLELOGRAM/0 BLACK UP-POINTING TRIANGLE
  25B3 WHITE UP-POINTING TRIANGLE/0 BLACK UP-POINTING SMALL TRIANGLE
  25B5 WHITE UP-POINTING SMALL TRIANGLE/0 BLACK RIGHT-POINTING TRIANGLE
  25B7 WHITE RIGHT-POINTING TRIANGLE/0 BLACK RIGHT-POINTING SMALL TRIANGLE
  25B9 WHITE RIGHT-POINTING SMALL TRIANGLE/0 BLACK RIGHT-POINTING POINTER
  25BB WHITE RIGHT-POINTING POINTER/0 BLACK DOWN-POINTING TRIANGLE/0 WHITE DOWN-POINTING TRIANGLE
  25BE BLACK DOWN-POINTING SMALL TRIANGLE/0 WHITE DOWN-POINTING SMALL TRIANGLE
  25C0 BLACK LEFT-POINTING TRIANGLE/0 WHITE LEFT-POINTING TRIANGLE
  25C2 BLACK LEFT-POINTING SMALL TRIANGLE/0 WHITE LEFT-POINTING SMALL TRIANGLE
  25C4 BLACK LEFT-POINTING POINTER/0 WHITE LEFT-POINTING POINTER/0 BLACK DIAMOND/0 WHITE DIAMOND
  25C8 WHITE DIAMOND CONTAINING BLACK SMALL DIAMOND/0 FISHEYE/0 LOZENGE/0 WHITE CIRCLE
  25CC DOTTED CIRCLE/0 CIRCLE WITH VERTICAL FILL/0 BULLSEYE/0 BLACK CIRCLE
  25D0 CIRCLE WITH LEFT HALF BLACK/2 RIGHT HALF BLACK/2 LOWER HALF BLACK/2 UPPER HALF BLACK
  25D4 CIRCLE WITH UPPER RIGHT QUADRANT BLACK/2 ALL BUT UPPER LEFT QUADRANT BLACK
  25D6 LEFT HALF BLACK CIRCLE/0 RIGHT HALF BLACK CIRCLE/0 INVERSE BULLET/1 WHITE CIRCLE
  25DA UPPER HALF INVERSE WHITE CIRCLE/0 LOWER HALF INVERSE WHITE CIRCLE
  25DC UPPER LEFT QUADRANT CIRCULAR ARC/1 RIGHT QUADRANT CIRCULAR ARC
  25DE LOWER RIGHT QUADRANT CIRCULAR ARC/1 LEFT QUADRANT CIRCULAR ARC/0 UPPER HALF CIRCLE
  25E1 LOWER HALF CIRCLE/0 BLACK LOWER RIGHT TRIANGLE/2 LEFT TRIANGLE/1 UPPER LEFT TRIANGLE
  25E5 BLACK UPPER RIGHT TRIANGLE/0 WHITE BULLET/0 SQUARE WITH LEFT HALF BLACK/2 RIGHT HALF BLACK
  25E9 SQUARE WITH UPPER LEFT DIAGONAL HALF BLACK/2 LOWER RIGHT DIAGONAL HALF BLACK
  25EB WHITE SQUARE WITH VERTICAL BISECTING LINE/1 UP-POINTING TRIANGLE WITH DOT
  25ED UP-POINTING TRIANGLE WITH LEFT HALF BLACK/3 RIGHT HALF BLACK/0 LARGE CIRCLE
  25F0 WHITE SQUARE WITH UPPER LEFT QUADRANT/3 LOWER LEFT QUADRANT/4 RIGHT QUADRANT
  25F3 WHITE SQUARE WITH UPPER RIGHT QUADRANT/1 CIRCLE WITH UPPER LEFT QUADRANT
  25F5 WHITE CIRCLE WITH LOWER LEFT QUADRANT/4 RIGHT QUADRANT/3 UPPER RIGHT QUADRANT
  25F8 UPPER LEFT TRIANGLE/1 RIGHT TRIANGLE/0 LOWER LEFT TRIANGLE/0 WHITE MEDIUM SQUARE
  25FC BLACK MEDIUM SQUARE/0 WHITE MEDIUM SMALL SQUARE/0 BLACK MEDIUM SMALL SQUARE
  25FF LOWER RIGHT TRIANGLE/0 BLACK SUN WITH RAYS/0 CLOUD/0 UMBRELLA/0 SNOWMAN/0 COMET/0 BLACK STAR
  2606 WHITE STAR/0 LIGHTNING/0 THUNDERSTORM/0 SUN/0 ASCENDING NODE/0 DESCENDING NODE/0 CONJUNCTION
  260D OPPOSITION/0 BLACK TELEPHONE/0 WHITE TELEPHONE/0 BALLOT BOX/2 WITH CHECK/3 X/0 SALTIRE
  2614 UMBRELLA WITH RAIN DROPS/0 HOT BEVERAGE/0 WHITE SHOGI PIECE/0 BLACK SHOGI PIECE/0 SHAMROCK
  2619 REVERSED ROTATED FLORAL HEART BULLET/0 BLACK LEFT POINTING INDEX/1 RIGHT POINTING INDEX
  261C WHITE LEFT POINTING INDEX/1 UP POINTING INDEX/1 RIGHT POINTING INDEX/1 DOWN POINTING INDEX
  2620 SKULL AND CROSSBONES/0 CAUTION SIGN/0 RADIOACTIVE SIGN/0 BIOHAZARD SIGN/0 CADUCEUS/0 ANKH
  2626 ORTHODOX CROSS/0 CHI RHO/0 CROSS OF LORRAINE/2 JERUSALEM/0 STAR AND CRESCENT/0 FARSI SYMBOL
  262C ADI SHAKTI/0 HAMMER AND SICKLE/0 PEACE SYMBOL/0 YIN YANG/0 TRIGRAM FOR HEAVEN/2 LAKE/2 FIRE
  2633 TRIGRAM FOR THUNDER/2 WIND/2 WATER/2 MOUNTAIN/2 EARTH/0 WHEEL OF DHARMA/0 WHITE FROWNING FACE
  263A WHITE SMILING FACE/0 BLACK SMILING FACE/0 WHITE SUN WITH RAYS/0 FIRST QUARTER MOON
  263E LAST QUARTER MOON/0 MERCURY/0 FEMALE SIGN/0 EARTH/0 MALE SIGN/0 JUPITER/0 SATURN/0 URANUS
  2646 NEPTUNE/0 PLUTO/0 ARIES/0 TAURUS/0 GEMINI/0 CANCER/0 LEO/0 VIRGO/0 LIBRA/0 SCORPIUS
  2650 SAGITTARIUS/0 CAPRICORN/0 AQUARIUS/0 PISCES/0 WHITE CHESS KING/2 QUEEN/2 ROOK/2 BISHOP
  2658 WHITE CHESS KNIGHT/2 PAWN/0 BLACK CHESS KING/2 QUEEN/2 ROOK/2 BISHOP/2 KNIGHT/2 PAWN
  2660 BLACK SPADE SUIT/0 WHITE HEART SUIT/1 DIAMOND SUIT/0 BLACK CLUB SUIT/0 WHITE SPADE SUIT
  2665 BLACK HEART SUIT/1 DIAMOND SUIT/0 WHITE CLUB SUIT/0 HOT SPRINGS/0 QUARTER NOTE/0 EIGHTH NOTE
  266B BEAMED EIGHTH NOTES/1 SIXTEENTH NOTES/0 MUSIC FLAT SIGN/1 NATURAL SIGN/1 SHARP SIGN
  2670 WEST SYRIAC CROSS/0 EAST SYRIAC CROSS/0 UNIVERSAL RECYCLING SYMBOL
  2673 RECYCLING SYMBOL FOR TYPE-1 PLASTICS/3 TYPE-2 PLASTICS/3 TYPE-3 PLASTICS/3 TYPE-4 PLASTICS
  2677 RECYCLING SYMBOL FOR TYPE-5 PLASTICS/3 TYPE-6 PLASTICS/3 TYPE-7 PLASTICS/3 GENERIC MATERIALS
  267B BLACK UNIVERSAL RECYCLING SYMBOL/0 RECYCLED PAPER SYMBOL/0 PARTIALLY-RECYCLED PAPER SYMBOL
  267E PERMANENT PAPER SIGN/0 WHEELCHAIR SYMBOL/0 DIE FACE-1/1 FACE-2/1 FACE-3/1 FACE-4/1 FACE-5
  2685 DIE FACE-6/0 WHITE CIRCLE WITH DOT RIGHT/3 TWO DOTS/0 BLACK CIRCLE WITH WHITE DOT RIGHT
  2689 BLACK CIRCLE WITH TWO WHITE DOTS/0 MONOGRAM FOR YANG/2 YIN/0 DIGRAM FOR GREATER YANG
  268D DIGRAM FOR LESSER YIN/3 YANG/2 GREATER YIN/0 WHITE FLAG/0 BLACK FLAG/0 HAMMER AND PICK
  2693 ANCHOR/0 CROSSED SWORDS/0 STAFF OF AESCULAPIUS/0 SCALES/0 ALEMBIC/0 FLOWER/0 GEAR
  269A STAFF OF HERMES/0 ATOM SYMBOL/0 FLEUR-DE-LIS/0 OUTLINED WHITE STAR
  269E THREE LINES CONVERGING RIGHT/3 LEFT/0 WARNING SIGN/0 HIGH VOLTAGE SIGN/0 DOUBLED FEMALE SIGN
  26A3 DOUBLED MALE SIGN/0 INTERLOCKED FEMALE AND MALE SIGN/0 MALE AND FEMALE SIGN
  26A6 MALE WITH STROKE SIGN/3 AND MALE AND FEMALE SIGN/0 VERTICAL MALE WITH STROKE SIGN
  26A9 HORIZONTAL MALE WITH STROKE SIGN/0 MEDIUM WHITE CIRCLE/1 BLACK CIRCLE/1 SMALL WHITE CIRCLE
  26AD MARRIAGE SYMBOL/0 DIVORCE SYMBOL/0 UNMARRIED PARTNERSHIP SYMBOL/0 COFFIN/0 FUNERAL URN
  26B2 NEUTER/0 CERES/0 PALLAS/0 JUNO/0 VESTA/0 CHIRON/0 BLACK MOON LILITH/0 SEXTILE/0 SEMISEXTILE
  26BB QUINCUNX/0 SESQUIQUADRATE/0 SOCCER BALL/0 BASEBALL/0 SQUARED KEY/0 WHITE DRAUGHTS MAN/2 KING
  26C2 BLACK DRAUGHTS MAN/2 KING/0 SNOWMAN WITHOUT SNOW/0 SUN BEHIND CLOUD/0 RAIN/0 BLACK SNOWMAN
  26C8 THUNDER CLOUD AND RAIN/0 TURNED WHITE SHOGI PIECE/1 BLACK SHOGI PIECE
  26CB WHITE DIAMOND IN SQUARE/0 CROSSING LANES/0 DISABLED CAR/0 OPHIUCHUS/0 PICK/0 CAR SLIDING
  26D1 HELMET WITH WHITE CROSS/0 CIRCLED CROSSING LANES/0 CHAINS/0 NO ENTRY
  26D5 ALTERNATE ONE-WAY LEFT WAY TRAFFIC/0 BLACK TWO-WAY LEFT WAY TRAFFIC
  26D7 WHITE TWO-WAY LEFT WAY TRAFFIC/0 BLACK LEFT LANE MERGE/0 WHITE LEFT LANE MERGE
  26DA DRIVE SLOW SIGN/0 HEAVY WHITE DOWN-POINTING TRIANGLE/0 LEFT CLOSED ENTRY/0 SQUARED SALTIRE
  26DE FALLING DIAGONAL IN WHITE CIRCLE IN BLACK SQUARE/0 BLACK TRUCK/0 RESTRICTED LEFT ENTRY-1
  26E1 RESTRICTED LEFT ENTRY-2/0 ASTRONOMICAL SYMBOL FOR URANUS
  26E3 HEAVY CIRCLE WITH STROKE AND TWO DOTS ABOVE/0 PENTAGRAM/0 RIGHT-HANDED INTERLACED PENTAGRAM
  26E6 LEFT-HANDED INTERLACED PENTAGRAM/0 INVERTED PENTAGRAM/0 BLACK CROSS ON SHIELD/0 SHINTO SHRINE
  26EA CHURCH/0 CASTLE/0 HISTORIC SITE/0 GEAR WITHOUT HUB/1 WITH HANDLES/0 MAP SYMBOL FOR LIGHTHOUSE
  26F0 MOUNTAIN/0 UMBRELLA ON GROUND/0 FOUNTAIN/0 FLAG IN HOLE/0 FERRY/0 SAILBOAT
  26F6 SQUARE FOUR CORNERS/0 SKIER/0 ICE SKATE/0 PERSON WITH BALL/0 TENT/0 JAPANESE BANK SYMBOL
  26FC HEADSTONE GRAVEYARD SYMBOL/0 FUEL PUMP/0 CUP ON BLACK SQUARE
  26FF WHITE FLAG WITH HORIZONTAL MIDDLE BLACK STRIPE/0 BLACK SAFETY SCISSORS/0 UPPER BLADE SCISSORS
  2702 BLACK SCISSORS/0 LOWER BLADE SCISSORS/0 WHITE SCISSORS/1 HEAVY CHECK MARK
  2706 TELEPHONE LOCATION SIGN/0 TAPE DRIVE/0 AIRPLANE/0 ENVELOPE/0 RAISED FIST/1 HAND
  270C VICTORY HAND/0 WRITING HAND/0 LOWER RIGHT PENCIL/0 PENCIL/0 UPPER RIGHT PENCIL/0 WHITE NIB
  2712 BLACK NIB/0 CHECK MARK/0 HEAVY CHECK MARK/0 MULTIPLICATION X/0 HEAVY MULTIPLICATION X
  2717 BALLOT X/0 HEAVY BALLOT X/0 OUTLINED GREEK CROSS/0 HEAVY GREEK CROSS/0 OPEN CENTRE CROSS
  271C HEAVY OPEN CENTRE CROSS/0 LATIN CROSS/0 SHADOWED WHITE LATIN CROSS/0 OUTLINED LATIN CROSS
  2720 MALTESE CROSS/0 STAR OF DAVID/0 FOUR TEARDROP-SPOKED ASTERISK/1 BALLOON-SPOKED ASTERISK
  2724 HEAVY FOUR BALLOON-SPOKED ASTERISK/0 FOUR CLUB-SPOKED ASTERISK/0 BLACK FOUR POINTED STAR
  2727 WHITE FOUR POINTED STAR/0 SPARKLES/0 STRESS OUTLINED WHITE STAR/0 CIRCLED WHITE STAR
  272B OPEN CENTRE BLACK STAR/0 BLACK CENTRE WHITE STAR/0 OUTLINED BLACK STAR
  272E HEAVY OUTLINED BLACK STAR/0 PINWHEEL STAR/0 SHADOWED WHITE STAR/0 HEAVY ASTERISK
  2732 OPEN CENTRE ASTERISK/0 EIGHT SPOKED ASTERISK/1 POINTED BLACK STAR/2 PINWHEEL STAR
  2736 SIX POINTED BLACK STAR/0 EIGHT POINTED RECTILINEAR BLACK STAR
  2738 HEAVY EIGHT POINTED RECTILINEAR BLACK STAR/0 TWELVE POINTED BLACK STAR
  273A SIXTEEN POINTED ASTERISK/0 TEARDROP-SPOKED ASTERISK/0 OPEN CENTRE TEARDROP-SPOKED ASTERISK
  273D HEAVY TEARDROP-SPOKED ASTERISK/0 SIX PETALLED BLACK AND WHITE FLORETTE/0 BLACK FLORETTE
  2740 WHITE FLORETTE/0 EIGHT PETALLED OUTLINED BLACK FLORETTE
  2742 CIRCLED OPEN CENTRE EIGHT POINTED STAR/0 HEAVY TEARDROP-SPOKED PINWHEEL ASTERISK/0 SNOWFLAKE
  2745 TIGHT TRIFOLIATE SNOWFLAKE/0 HEAVY CHEVRON SNOWFLAKE/0 SPARKLE/0 HEAVY SPARKLE
  2749 BALLOON-SPOKED ASTERISK/0 EIGHT TEARDROP-SPOKED PROPELLER ASTERISK
  274B HEAVY EIGHT TEARDROP-SPOKED PROPELLER ASTERISK/0 CROSS MARK/0 SHADOWED WHITE CIRCLE
  274E NEGATIVE SQUARED CROSS MARK/0 LOWER RIGHT DROP-SHADOWED WHITE SQUARE
  2750 UPPER RIGHT DROP-SHADOWED WHITE SQUARE/0 LOWER RIGHT SHADOWED WHITE SQUARE
  2752 UPPER RIGHT SHADOWED WHITE SQUARE/0 BLACK QUESTION MARK ORNAMENT
  2754 WHITE QUESTION MARK ORNAMENT/1 EXCLAMATION MARK ORNAMENT/0 BLACK DIAMOND MINUS WHITE X
  2757 HEAVY EXCLAMATION MARK SYMBOL/0 LIGHT VERTICAL BAR/0 MEDIUM VERTICAL BAR/0 HEAVY VERTICAL BAR
  275B HEAVY SINGLE TURNED COMMA QUOTATION MARK ORNAMENT/2 COMMA QUOTATION MARK ORNAMENT
  275D HEAVY DOUBLE TURNED COMMA QUOTATION MARK ORNAMENT/2 COMMA QUOTATION MARK ORNAMENT
  275F HEAVY LOW SINGLE COMMA QUOTATION MARK ORNAMENT/2 DOUBLE COMMA QUOTATION MARK ORNAMENT
  2761 CURVED STEM PARAGRAPH SIGN ORNAMENT/0 HEAVY EXCLAMATION MARK ORNAMENT
  2763 HEAVY HEART EXCLAMATION MARK ORNAMENT/1 BLACK HEART/0 ROTATED HEAVY BLACK HEART BULLET
  2766 FLORAL HEART/0 ROTATED FLORAL HEART BULLET/0 MEDIUM LEFT PARENTHESIS ORNAMENT
  2769 MEDIUM RIGHT PARENTHESIS ORNAMENT/1 FLATTENED LEFT PARENTHESIS ORNAMENT
  276B MEDIUM FLATTENED RIGHT PARENTHESIS ORNAMENT/1 LEFT-POINTING ANGLE BRACKET ORNAMENT
  276D MEDIUM RIGHT-POINTING ANGLE BRACKET ORNAMENT
  276E HEAVY LEFT-POINTING ANGLE QUOTATION MARK ORNAMENT
  276F HEAVY RIGHT-POINTING ANGLE QUOTATION MARK ORNAMENT/1 LEFT-POINTING ANGLE BRACKET ORNAMENT
  2771 HEAVY RIGHT-POINTING ANGLE BRACKET ORNAMENT/0 LIGHT LEFT TORTOISE SHELL BRACKET ORNAMENT
  2773 LIGHT RIGHT TORTOISE SHELL BRACKET ORNAMENT/0 MEDIUM LEFT CURLY BRACKET ORNAMENT
  2775 MEDIUM RIGHT CURLY BRACKET ORNAMENT/0 DINGBAT NEGATIVE CIRCLED DIGIT ONE/4 TWO/4 THREE/4 FOUR
  277A DINGBAT NEGATIVE CIRCLED DIGIT FIVE/4 SIX/4 SEVEN/4 EIGHT/4 NINE/3 NUMBER TEN
  2780 DINGBAT CIRCLED SANS-SERIF DIGIT ONE/4 TWO/4 THREE/4 FOUR/4 FIVE/4 SIX/4 SEVEN/4 EIGHT/4 NINE
  2789 DINGBAT CIRCLED SANS-SERIF NUMBER TEN/1 NEGATIVE CIRCLED SANS-SERIF DIGIT ONE/5 TWO/5 THREE
  278D DINGBAT NEGATIVE CIRCLED SANS-SERIF DIGIT FOUR/5 FIVE/5 SIX/5 SEVEN/5 EIGHT/5 NINE
  2793 DINGBAT NEGATIVE CIRCLED SANS-SERIF NUMBER TEN/0 HEAVY WIDE-HEADED RIGHTWARDS ARROW
  2795 HEAVY PLUS SIGN/1 MINUS SIGN/1 DIVISION SIGN/1 SOUTH EAST ARROW/1 RIGHTWARDS ARROW
  279A HEAVY NORTH EAST ARROW/0 DRAFTING POINT RIGHTWARDS ARROW
  279C HEAVY ROUND-TIPPED RIGHTWARDS ARROW/0 TRIANGLE-HEADED RIGHTWARDS ARROW
  279E HEAVY TRIANGLE-HEADED RIGHTWARDS ARROW/0 DASHED TRIANGLE-HEADED RIGHTWARDS ARROW
  27A0 HEAVY DASHED TRIANGLE-HEADED RIGHTWARDS ARROW/0 BLACK RIGHTWARDS ARROW
  27A2 THREE-D TOP-LIGHTED RIGHTWARDS ARROWHEAD/1 BOTTOM-LIGHTED RIGHTWARDS ARROWHEAD
  27A4 BLACK RIGHTWARDS ARROWHEAD/0 HEAVY BLACK CURVED DOWNWARDS AND RIGHTWARDS ARROW
  27A6 HEAVY BLACK CURVED UPWARDS AND RIGHTWARDS ARROW/0 SQUAT BLACK RIGHTWARDS ARROW
  27A8 HEAVY CONCAVE-POINTED BLACK RIGHTWARDS ARROW/0 RIGHT-SHADED WHITE RIGHTWARDS ARROW
  27AA LEFT-SHADED WHITE RIGHTWARDS ARROW/0 BACK-TILTED SHADOWED WHITE RIGHTWARDS ARROW
  27AC FRONT-TILTED SHADOWED WHITE RIGHTWARDS ARROW
  27AD HEAVY LOWER RIGHT-SHADOWED WHITE RIGHTWARDS ARROW
  27AE HEAVY UPPER RIGHT-SHADOWED WHITE RIGHTWARDS ARROW
  27AF NOTCHED LOWER RIGHT-SHADOWED WHITE RIGHTWARDS ARROW/0 CURLY LOOP
  27B1 NOTCHED UPPER RIGHT-SHADOWED WHITE RIGHTWARDS ARROW/0 CIRCLED HEAVY WHITE RIGHTWARDS ARROW
  27B3 WHITE-FEATHERED RIGHTWARDS ARROW/0 BLACK-FEATHERED SOUTH EAST ARROW/1 RIGHTWARDS ARROW
  27B6 BLACK-FEATHERED NORTH EAST ARROW/0 HEAVY BLACK-FEATHERED SOUTH EAST ARROW/2 RIGHTWARDS ARROW
  27B9 HEAVY BLACK-FEATHERED NORTH EAST ARROW/0 TEARDROP-BARBED RIGHTWARDS ARROW
  27BB HEAVY TEARDROP-SHANKED RIGHTWARDS ARROW/0 WEDGE-TAILED RIGHTWARDS ARROW
  27BD HEAVY WEDGE-TAILED RIGHTWARDS ARROW/0 OPEN-OUTLINED RIGHTWARDS ARROW/0 DOUBLE CURLY LOOP
  27C0 THREE DIMENSIONAL ANGLE/0 WHITE TRIANGLE CONTAINING SMALL WHITE TRIANGLE/0 PERPENDICULAR
  27C3 OPEN SUBSET/1 SUPERSET/0 LEFT S-SHAPED BAG DELIMITER/0 RIGHT S-SHAPED BAG DELIMITER
  27C7 OR WITH DOT INSIDE/0 REVERSE SOLIDUS PRECEDING SUBSET/0 SUPERSET PRECEDING SOLIDUS
  27CA VERTICAL BAR WITH HORIZONTAL STROKE/0 MATHEMATICAL RISING DIAGONAL/0 LONG DIVISION
  27CD MATHEMATICAL FALLING DIAGONAL/0 SQUARED LOGICAL AND/2 OR/0 WHITE DIAMOND WITH CENTRED DOT
  27D1 AND WITH DOT/0 ELEMENT OF OPENING UPWARDS/0 LOWER RIGHT CORNER WITH DOT
  27D4 UPPER LEFT CORNER WITH DOT/0 LEFT OUTER JOIN/0 RIGHT OUTER JOIN/0 FULL OUTER JOIN
  27D8 LARGE UP TACK/1 DOWN TACK/0 LEFT AND RIGHT DOUBLE TURNSTILE/3 TACK/1 MULTIMAP
  27DD LONG RIGHT TACK/1 LEFT TACK/0 UP TACK WITH CIRCLE ABOVE/0 LOZENGE DIVIDED BY HORIZONTAL RULE
  27E1 WHITE CONCAVE-SIDED DIAMOND/3 WITH LEFTWARDS TICK/4 RIGHTWARDS TICK
  27E4 WHITE SQUARE WITH LEFTWARDS TICK/3 RIGHTWARDS TICK/0 MATHEMATICAL LEFT WHITE SQUARE BRACKET
  27E7 MATHEMATICAL RIGHT WHITE SQUARE BRACKET/1 LEFT ANGLE BRACKET/1 RIGHT ANGLE BRACKET
  27EA MATHEMATICAL LEFT DOUBLE ANGLE BRACKET/1 RIGHT DOUBLE ANGLE BRACKET
  27EC MATHEMATICAL LEFT WHITE TORTOISE SHELL BRACKET/1 RIGHT WHITE TORTOISE SHELL BRACKET
  27EE MATHEMATICAL LEFT FLATTENED PARENTHESIS/1 RIGHT FLATTENED PARENTHESIS
  27F0 UPWARDS QUADRUPLE ARROW/0 DOWNWARDS QUADRUPLE ARROW/0 ANTICLOCKWISE GAPPED CIRCLE ARROW
  27F3 CLOCKWISE GAPPED CIRCLE ARROW/0 RIGHT ARROW WITH CIRCLED PLUS/0 LONG LEFTWARDS ARROW
  27F6 LONG RIGHTWARDS ARROW/1 LEFT RIGHT ARROW/1 LEFTWARDS DOUBLE ARROW/1 RIGHTWARDS DOUBLE ARROW
  27FA LONG LEFT RIGHT DOUBLE ARROW/1 LEFTWARDS ARROW FROM BAR/1 RIGHTWARDS ARROW FROM BAR
  27FD LONG LEFTWARDS DOUBLE ARROW FROM BAR/1 RIGHTWARDS DOUBLE ARROW FROM BAR/2 SQUIGGLE ARROW
  2800 BRAILLE PATTERN BLANK/2 DOTS-1/2 DOTS-2/2 DOTS-12/2 DOTS-3/2 DOTS-13/2 DOTS-23/2 DOTS-123
  2808 BRAILLE PATTERN DOTS-4/2 DOTS-14/2 DOTS-24/2 DOTS-124/2 DOTS-34/2 DOTS-134/2 DOTS-234
  280F BRAILLE PATTERN DOTS-1234/2 DOTS-5/2 DOTS-15/2 DOTS-25/2 DOTS-125/2 DOTS-35/2 DOTS-135
  2816 BRAILLE PATTERN DOTS-235/2 DOTS-1235/2 DOTS-45/2 DOTS-145/2 DOTS-245/2 DOTS-1245/2 DOTS-345
  281D BRAILLE PATTERN DOTS-1345/2 DOTS-2345/2 DOTS-12345/2 DOTS-6/2 DOTS-16/2 DOTS-26/2 DOTS-126
  2824 BRAILLE PATTERN DOTS-36/2 DOTS-136/2 DOTS-236/2 DOTS-1236/2 DOTS-46/2 DOTS-146/2 DOTS-246
  282B BRAILLE PATTERN DOTS-1246/2 DOTS-346/2 DOTS-1346/2 DOTS-2346/2 DOTS-12346/2 DOTS-56
  2831 BRAILLE PATTERN DOTS-156/2 DOTS-256/2 DOTS-1256/2 DOTS-356/2 DOTS-1356/2 DOTS-2356
  2837 BRAILLE PATTERN DOTS-12356/2 DOTS-456/2 DOTS-1456/2 DOTS-2456/2 DOTS-12456/2 DOTS-3456
  283D BRAILLE PATTERN DOTS-13456/2 DOTS-23456/2 DOTS-123456/2 DOTS-7/2 DOTS-17/2 DOTS-27/2 DOTS-127
  2844 BRAILLE PATTERN DOTS-37/2 DOTS-137/2 DOTS-237/2 DOTS-1237/2 DOTS-47/2 DOTS-147/2 DOTS-247
  284B BRAILLE PATTERN DOTS-1247/2 DOTS-347/2 DOTS-1347/2 DOTS-2347/2 DOTS-12347/2 DOTS-57
  2851 BRAILLE PATTERN DOTS-157/2 DOTS-257/2 DOTS-1257/2 DOTS-357/2 DOTS-1357/2 DOTS-2357
  2857 BRAILLE PATTERN DOTS-12357/2 DOTS-457/2 DOTS-1457/2 DOTS-2457/2 DOTS-12457/2 DOTS-3457
  285D BRAILLE PATTERN DOTS-13457/2 DOTS-23457/2 DOTS-123457/2 DOTS-67/2 DOTS-167/2 DOTS-267
  2863 BRAILLE PATTERN DOTS-1267/2 DOTS-367/2 DOTS-1367/2 DOTS-2367/2 DOTS-12367/2 DOTS-467
  2869 BRAILLE PATTERN DOTS-1467/2 DOTS-2467/2 DOTS-12467/2 DOTS-3467/2 DOTS-13467/2 DOTS-23467
  286F BRAILLE PATTERN DOTS-123467/2 DOTS-567/2 DOTS-1567/2 DOTS-2567/2 DOTS-12567/2 DOTS-3567
  2875 BRAILLE PATTERN DOTS-13567/2 DOTS-23567/2 DOTS-123567/2 DOTS-4567/2 DOTS-14567/2 DOTS-24567
  287B BRAILLE PATTERN DOTS-124567/2 DOTS-34567/2 DOTS-134567/2 DOTS-234567/2 DOTS-1234567/2 DOTS-8
  2881 BRAILLE PATTERN DOTS-18/2 DOTS-28/2 DOTS-128/2 DOTS-38/2 DOTS-138/2 DOTS-238/2 DOTS-1238
  2888 BRAILLE PATTERN DOTS-48/2 DOTS-148/2 DOTS-248/2 DOTS-1248/2 DOTS-348/2 DOTS-1348/2 DOTS-2348
  288F BRAILLE PATTERN DOTS-12348/2 DOTS-58/2 DOTS-158/2 DOTS-258/2 DOTS-1258/2 DOTS-358/2 DOTS-1358
  2896 BRAILLE PATTERN DOTS-2358/2 DOTS-12358/2 DOTS-458/2 DOTS-1458/2 DOTS-2458/2 DOTS-12458
  289C BRAILLE PATTERN DOTS-3458/2 DOTS-13458/2 DOTS-23458/2 DOTS-123458/2 DOTS-68/2 DOTS-168
  28A2 BRAILLE PATTERN DOTS-268/2 DOTS-1268/2 DOTS-368/2 DOTS-1368/2 DOTS-2368/2 DOTS-12368
  28A8 BRAILLE PATTERN DOTS-468/2 DOTS-1468/2 DOTS-2468/2 DOTS-12468/2 DOTS-3468/2 DOTS-13468
  28AE BRAILLE PATTERN DOTS-23468/2 DOTS-123468/2 DOTS-568/2 DOTS-1568/2 DOTS-2568/2 DOTS-12568
  28B4 BRAILLE PATTERN DOTS-3568/2 DOTS-13568/2 DOTS-23568/2 DOTS-123568/2 DOTS-4568/2 DOTS-14568
  28BA BRAILLE PATTERN DOTS-24568/2 DOTS-124568/2 DOTS-34568/2 DOTS-134568/2 DOTS-234568
  28BF BRAILLE PATTERN DOTS-1234568/2 DOTS-78/2 DOTS-178/2 DOTS-278/2 DOTS-1278/2 DOTS-378
  28C5 BRAILLE PATTERN DOTS-1378/2 DOTS-2378/2 DOTS-12378/2 DOTS-478/2 DOTS-1478/2 DOTS-2478
  28CB BRAILLE PATTERN DOTS-12478/2 DOTS-3478/2 DOTS-13478/2 DOTS-23478/2 DOTS-123478/2 DOTS-578
  28D1 BRAILLE PATTERN DOTS-1578/2 DOTS-2578/2 DOTS-12578/2 DOTS-3578/2 DOTS-13578/2 DOTS-23578
  28D7 BRAILLE PATTERN DOTS-123578/2 DOTS-4578/2 DOTS-14578/2 DOTS-24578/2 DOTS-124578/2 DOTS-34578
  28DD BRAILLE PATTERN DOTS-134578/2 DOTS-234578/2 DOTS-1234578/2 DOTS-678/2 DOTS-1678/2 DOTS-2678
  28E3 BRAILLE PATTERN DOTS-12678/2 DOTS-3678/2 DOTS-13678/2 DOTS-23678/2 DOTS-123678/2 DOTS-4678
  28E9 BRAILLE PATTERN DOTS-14678/2 DOTS-24678/2 DOTS-124678/2 DOTS-34678/2 DOTS-134678
  28EE BRAILLE PATTERN DOTS-234678/2 DOTS-1234678/2 DOTS-5678/2 DOTS-15678/2 DOTS-25678
  28F3 BRAILLE PATTERN DOTS-125678/2 DOTS-35678/2 DOTS-135678/2 DOTS-235678/2 DOTS-1235678
  28F8 BRAILLE PATTERN DOTS-45678/2 DOTS-145678/2 DOTS-245678/2 DOTS-1245678/2 DOTS-345678
  28FD BRAILLE PATTERN DOTS-1345678/2 DOTS-2345678/2 DOTS-12345678
  2900 RIGHTWARDS TWO-HEADED ARROW WITH VERTICAL STROKE/4 DOUBLE VERTICAL STROKE
  2902 LEFTWARDS DOUBLE ARROW WITH VERTICAL STROKE/0 RIGHTWARDS DOUBLE ARROW WITH VERTICAL STROKE
  2904 LEFT RIGHT DOUBLE ARROW WITH VERTICAL STROKE/0 RIGHTWARDS TWO-HEADED ARROW FROM BAR
  2906 LEFTWARDS DOUBLE ARROW FROM BAR/0 RIGHTWARDS DOUBLE ARROW FROM BAR
  2908 DOWNWARDS ARROW WITH HORIZONTAL STROKE/0 UPWARDS ARROW WITH HORIZONTAL STROKE/1 TRIPLE ARROW
  290B DOWNWARDS TRIPLE ARROW/0 LEFTWARDS DOUBLE DASH ARROW/0 RIGHTWARDS DOUBLE DASH ARROW
  290E LEFTWARDS TRIPLE DASH ARROW/0 RIGHTWARDS TRIPLE DASH ARROW/1 TWO-HEADED TRIPLE DASH ARROW
  2911 RIGHTWARDS ARROW WITH DOTTED STEM/0 UPWARDS ARROW TO BAR/0 DOWNWARDS ARROW TO BAR
  2914 RIGHTWARDS ARROW WITH TAIL WITH VERTICAL STROKE/5 DOUBLE VERTICAL STROKE
  2916 RIGHTWARDS TWO-HEADED ARROW WITH TAIL/5 WITH VERTICAL STROKE/6 DOUBLE VERTICAL STROKE
  2919 LEFTWARDS ARROW-TAIL/0 RIGHTWARDS ARROW-TAIL/0 LEFTWARDS DOUBLE ARROW-TAIL
  291C RIGHTWARDS DOUBLE ARROW-TAIL/0 LEFTWARDS ARROW TO BLACK DIAMOND
  291E RIGHTWARDS ARROW TO BLACK DIAMOND/0 LEFTWARDS ARROW FROM BAR TO BLACK DIAMOND
  2920 RIGHTWARDS ARROW FROM BAR TO BLACK DIAMOND/0 NORTH WEST AND SOUTH EAST ARROW
  2922 NORTH EAST AND SOUTH WEST ARROW/1 WEST ARROW WITH HOOK/1 EAST ARROW WITH HOOK
  2925 SOUTH EAST ARROW WITH HOOK/1 WEST ARROW WITH HOOK/0 NORTH WEST ARROW AND NORTH EAST ARROW
  2928 NORTH EAST ARROW AND SOUTH EAST ARROW/0 SOUTH EAST ARROW AND SOUTH WEST ARROW
  292A SOUTH WEST ARROW AND NORTH WEST ARROW/0 RISING DIAGONAL CROSSING FALLING DIAGONAL
  292C FALLING DIAGONAL CROSSING RISING DIAGONAL/0 SOUTH EAST ARROW CROSSING NORTH EAST ARROW
  292E NORTH EAST ARROW CROSSING SOUTH EAST ARROW/0 FALLING DIAGONAL CROSSING NORTH EAST ARROW
  2930 RISING DIAGONAL CROSSING SOUTH EAST ARROW/0 NORTH EAST ARROW CROSSING NORTH WEST ARROW
  2932 NORTH WEST ARROW CROSSING NORTH EAST ARROW/0 WAVE ARROW POINTING DIRECTLY RIGHT
  2934 ARROW POINTING RIGHTWARDS THEN CURVING UPWARDS/5 DOWNWARDS/2 DOWNWARDS THEN CURVING LEFTWARDS
  2937 ARROW POINTING DOWNWARDS THEN CURVING RIGHTWARDS/0 RIGHT-SIDE ARC CLOCKWISE ARROW
  2939 LEFT-SIDE ARC ANTICLOCKWISE ARROW/0 TOP ARC ANTICLOCKWISE ARROW
  293B BOTTOM ARC ANTICLOCKWISE ARROW/0 TOP ARC CLOCKWISE ARROW WITH MINUS
  293D TOP ARC ANTICLOCKWISE ARROW WITH PLUS/0 LOWER RIGHT SEMICIRCULAR CLOCKWISE ARROW
  293F LOWER LEFT SEMICIRCULAR ANTICLOCKWISE ARROW/0 ANTICLOCKWISE CLOSED CIRCLE ARROW
  2941 CLOCKWISE CLOSED CIRCLE ARROW/0 RIGHTWARDS ARROW ABOVE SHORT LEFTWARDS ARROW
  2943 LEFTWARDS ARROW ABOVE SHORT RIGHTWARDS ARROW/0 SHORT RIGHTWARDS ARROW ABOVE LEFTWARDS ARROW
  2945 RIGHTWARDS ARROW WITH PLUS BELOW/0 LEFTWARDS ARROW WITH PLUS BELOW
  2947 RIGHTWARDS ARROW THROUGH X/0 LEFT RIGHT ARROW THROUGH SMALL CIRCLE
  2949 UPWARDS TWO-HEADED ARROW FROM SMALL CIRCLE/0 LEFT BARB UP RIGHT BARB DOWN HARPOON
  294B LEFT BARB DOWN RIGHT BARB UP HARPOON/0 UP BARB RIGHT DOWN BARB LEFT HARPOON
  294D UP BARB LEFT DOWN BARB RIGHT HARPOON/0 LEFT BARB UP RIGHT BARB UP HARPOON
  294F UP BARB RIGHT DOWN BARB RIGHT HARPOON/0 LEFT BARB DOWN RIGHT BARB DOWN HARPOON
  2951 UP BARB LEFT DOWN BARB LEFT HARPOON/0 LEFTWARDS HARPOON WITH BARB UP TO BAR
  2953 RIGHTWARDS HARPOON WITH BARB UP TO BAR/0 UPWARDS HARPOON WITH BARB RIGHT TO BAR
  2955 DOWNWARDS HARPOON WITH BARB RIGHT TO BAR/0 LEFTWARDS HARPOON WITH BARB DOWN TO BAR
  2957 RIGHTWARDS HARPOON WITH BARB DOWN TO BAR/0 UPWARDS HARPOON WITH BARB LEFT TO BAR
  2959 DOWNWARDS HARPOON WITH BARB LEFT TO BAR/0 LEFTWARDS HARPOON WITH BARB UP FROM BAR
  295B RIGHTWARDS HARPOON WITH BARB UP FROM BAR/0 UPWARDS HARPOON WITH BARB RIGHT FROM BAR
  295D DOWNWARDS HARPOON WITH BARB RIGHT FROM BAR/0 LEFTWARDS HARPOON WITH BARB DOWN FROM BAR
  295F RIGHTWARDS HARPOON WITH BARB DOWN FROM BAR/0 UPWARDS HARPOON WITH BARB LEFT FROM BAR
  2961 DOWNWARDS HARPOON WITH BARB LEFT FROM BAR
  2962 LEFTWARDS HARPOON WITH BARB UP ABOVE LEFTWARDS HARPOON WITH BARB DOWN
  2963 UPWARDS HARPOON WITH BARB LEFT BESIDE UPWARDS HARPOON WITH BARB RIGHT
  2964 RIGHTWARDS HARPOON WITH BARB UP ABOVE RIGHTWARDS HARPOON WITH BARB DOWN
  2965 DOWNWARDS HARPOON WITH BARB LEFT BESIDE DOWNWARDS HARPOON WITH BARB RIGHT
  2966 LEFTWARDS HARPOON WITH BARB UP ABOVE RIGHTWARDS HARPOON WITH BARB UP
  2967 LEFTWARDS HARPOON WITH BARB DOWN ABOVE RIGHTWARDS HARPOON WITH BARB DOWN
  2968 RIGHTWARDS HARPOON WITH BARB UP ABOVE LEFTWARDS HARPOON WITH BARB UP
  2969 RIGHTWARDS HARPOON WITH BARB DOWN ABOVE LEFTWARDS HARPOON WITH BARB DOWN
  296A LEFTWARDS HARPOON WITH BARB UP ABOVE LONG DASH/4 DOWN BELOW LONG DASH
  296C RIGHTWARDS HARPOON WITH BARB UP ABOVE LONG DASH/4 DOWN BELOW LONG DASH
  296E UPWARDS HARPOON WITH BARB LEFT BESIDE DOWNWARDS HARPOON WITH BARB RIGHT
  296F DOWNWARDS HARPOON WITH BARB LEFT BESIDE UPWARDS HARPOON WITH BARB RIGHT
  2970 RIGHT DOUBLE ARROW WITH ROUNDED HEAD/0 EQUALS SIGN ABOVE RIGHTWARDS ARROW
  2972 TILDE OPERATOR ABOVE RIGHTWARDS ARROW/0 LEFTWARDS ARROW ABOVE TILDE OPERATOR
  2974 RIGHTWARDS ARROW ABOVE TILDE OPERATOR/3 ALMOST EQUAL TO/0 LESS-THAN ABOVE LEFTWARDS ARROW
  2977 LEFTWARDS ARROW THROUGH LESS-THAN/0 GREATER-THAN ABOVE RIGHTWARDS ARROW
  2979 SUBSET ABOVE RIGHTWARDS ARROW/0 LEFTWARDS ARROW THROUGH SUBSET
  297B SUPERSET ABOVE LEFTWARDS ARROW/0 LEFT FISH TAIL/0 RIGHT FISH TAIL/0 UP FISH TAIL
  297F DOWN FISH TAIL/0 TRIPLE VERTICAL BAR DELIMITER/0 Z NOTATION SPOT/2 TYPE COLON
  2983 LEFT WHITE CURLY BRACKET/0 RIGHT WHITE CURLY BRACKET/0 LEFT WHITE PARENTHESIS
  2986 RIGHT WHITE PARENTHESIS/0 Z NOTATION LEFT IMAGE BRACKET/2 RIGHT IMAGE BRACKET
  2989 Z NOTATION LEFT BINDING BRACKET/2 RIGHT BINDING BRACKET/0 LEFT SQUARE BRACKET WITH UNDERBAR
  298C RIGHT SQUARE BRACKET WITH UNDERBAR/0 LEFT SQUARE BRACKET WITH TICK IN TOP CORNER
  298E RIGHT SQUARE BRACKET WITH TICK IN BOTTOM CORNER
  298F LEFT SQUARE BRACKET WITH TICK IN BOTTOM CORNER/0 RIGHT SQUARE BRACKET WITH TICK IN TOP CORNER
  2991 LEFT ANGLE BRACKET WITH DOT/0 RIGHT ANGLE BRACKET WITH DOT/0 LEFT ARC LESS-THAN BRACKET
  2994 RIGHT ARC GREATER-THAN BRACKET/0 DOUBLE LEFT ARC GREATER-THAN BRACKET
  2996 DOUBLE RIGHT ARC LESS-THAN BRACKET/0 LEFT BLACK TORTOISE SHELL BRACKET
  2998 RIGHT BLACK TORTOISE SHELL BRACKET/0 DOTTED FENCE/0 VERTICAL ZIGZAG LINE
  299B MEASURED ANGLE OPENING LEFT/0 RIGHT ANGLE VARIANT WITH SQUARE/0 MEASURED RIGHT ANGLE WITH DOT
  299E ANGLE WITH S INSIDE/0 ACUTE ANGLE/0 SPHERICAL ANGLE OPENING LEFT/3 UP/0 TURNED ANGLE
  29A3 REVERSED ANGLE/0 ANGLE WITH UNDERBAR/0 REVERSED ANGLE WITH UNDERBAR
  29A6 OBLIQUE ANGLE OPENING UP/3 DOWN
  29A8 MEASURED ANGLE WITH OPEN ARM ENDING IN ARROW POINTING UP AND RIGHT/11 LEFT/9 DOWN AND RIGHT
  29AB MEASURED ANGLE WITH OPEN ARM ENDING IN ARROW POINTING DOWN AND LEFT/9 RIGHT AND UP
  29AD MEASURED ANGLE WITH OPEN ARM ENDING IN ARROW POINTING LEFT AND UP/9 RIGHT AND DOWN
  29AF MEASURED ANGLE WITH OPEN ARM ENDING IN ARROW POINTING LEFT AND DOWN/0 REVERSED EMPTY SET
  29B1 EMPTY SET WITH OVERBAR/3 SMALL CIRCLE ABOVE/3 RIGHT ARROW ABOVE/3 LEFT ARROW ABOVE
  29B5 CIRCLE WITH HORIZONTAL BAR/0 CIRCLED VERTICAL BAR/1 PARALLEL/1 REVERSE SOLIDUS
  29B9 CIRCLED PERPENDICULAR/0 CIRCLE DIVIDED BY HORIZONTAL BAR AND TOP HALF DIVIDED BY VERTICAL BAR
  29BB CIRCLE WITH SUPERIMPOSED X/0 CIRCLED ANTICLOCKWISE-ROTATED DIVISION SIGN
  29BD UP ARROW THROUGH CIRCLE/0 CIRCLED WHITE BULLET/1 BULLET/1 LESS-THAN/1 GREATER-THAN
  29C2 CIRCLE WITH SMALL CIRCLE TO THE RIGHT/2 TWO HORIZONTAL STROKES TO THE RIGHT
  29C4 SQUARED RISING DIAGONAL SLASH/1 FALLING DIAGONAL SLASH/1 ASTERISK/1 SMALL CIRCLE/1 SQUARE
  29C9 TWO JOINED SQUARES/0 TRIANGLE WITH DOT ABOVE/2 UNDERBAR/0 S IN TRIANGLE
  29CD TRIANGLE WITH SERIFS AT BOTTOM/0 RIGHT TRIANGLE ABOVE LEFT TRIANGLE
  29CF LEFT TRIANGLE BESIDE VERTICAL BAR/0 VERTICAL BAR BESIDE RIGHT TRIANGLE
  29D1 BOWTIE WITH LEFT HALF BLACK/2 RIGHT HALF BLACK/0 BLACK BOWTIE/0 TIMES WITH LEFT HALF BLACK
  29D5 TIMES WITH RIGHT HALF BLACK/0 WHITE HOURGLASS/0 BLACK HOURGLASS/0 LEFT WIGGLY FENCE
  29D9 RIGHT WIGGLY FENCE/0 LEFT DOUBLE WIGGLY FENCE/0 RIGHT DOUBLE WIGGLY FENCE
  29DC INCOMPLETE INFINITY/0 TIE OVER INFINITY/0 INFINITY NEGATED WITH VERTICAL BAR
  29DF DOUBLE-ENDED MULTIMAP/0 SQUARE WITH CONTOURED OUTLINE/0 INCREASES AS/0 SHUFFLE PRODUCT
  29E3 EQUALS SIGN AND SLANTED PARALLEL/5 WITH TILDE ABOVE/0 IDENTICAL TO AND SLANTED PARALLEL
  29E6 GLEICH STARK/0 THERMODYNAMIC/0 DOWN-POINTING TRIANGLE WITH LEFT HALF BLACK/3 RIGHT HALF BLACK
  29EA BLACK DIAMOND WITH DOWN ARROW/1 LOZENGE/0 WHITE CIRCLE WITH DOWN ARROW
  29ED BLACK CIRCLE WITH DOWN ARROW/0 ERROR-BARRED WHITE SQUARE/1 BLACK SQUARE/1 WHITE DIAMOND
  29F1 ERROR-BARRED BLACK DIAMOND/1 WHITE CIRCLE/1 BLACK CIRCLE/0 RULE-DELAYED
  29F5 REVERSE SOLIDUS OPERATOR/0 SOLIDUS WITH OVERBAR/0 REVERSE SOLIDUS WITH HORIZONTAL STROKE
  29F8 BIG SOLIDUS/1 REVERSE SOLIDUS/0 DOUBLE PLUS/0 TRIPLE PLUS
  29FC LEFT-POINTING CURVED ANGLE BRACKET/0 RIGHT-POINTING CURVED ANGLE BRACKET/0 TINY/0 MINY
  2A00 N-ARY CIRCLED DOT OPERATOR/2 PLUS OPERATOR/2 TIMES OPERATOR/1 UNION OPERATOR WITH DOT/4 PLUS
  2A05 N-ARY SQUARE INTERSECTION OPERATOR/2 UNION OPERATOR/0 TWO LOGICAL AND OPERATOR/2 OR OPERATOR
  2A09 N-ARY TIMES OPERATOR/0 MODULO TWO SUM/0 SUMMATION WITH INTEGRAL/0 QUADRUPLE INTEGRAL OPERATOR
  2A0D FINITE PART INTEGRAL/0 INTEGRAL WITH DOUBLE STROKE/1 AVERAGE WITH SLASH
  2A10 CIRCULATION FUNCTION/0 ANTICLOCKWISE INTEGRATION
  2A12 LINE INTEGRATION WITH RECTANGULAR PATH AROUND POLE/3 SEMICIRCULAR PATH AROUND POLE
  2A14 LINE INTEGRATION NOT INCLUDING THE POLE/0 INTEGRAL AROUND A POINT OPERATOR
  2A16 QUATERNION INTEGRAL OPERATOR/0 INTEGRAL WITH LEFTWARDS ARROW WITH HOOK/2 TIMES SIGN
  2A19 INTEGRAL WITH INTERSECTION/2 UNION/2 OVERBAR/2 UNDERBAR/0 JOIN/0 LARGE LEFT TRIANGLE OPERATOR
  2A1F Z NOTATION SCHEMA COMPOSITION/3 PIPING/3 PROJECTION/0 PLUS SIGN WITH SMALL CIRCLE ABOVE
  2A23 PLUS SIGN WITH CIRCUMFLEX ACCENT ABOVE/3 TILDE ABOVE/3 DOT BELOW/3 TILDE BELOW
  2A27 PLUS SIGN WITH SUBSCRIPT TWO/3 BLACK TRIANGLE/0 MINUS SIGN WITH COMMA ABOVE/3 DOT BELOW
  2A2B MINUS SIGN WITH FALLING DOTS/3 RISING DOTS/0 PLUS SIGN IN LEFT HALF CIRCLE
  2A2E PLUS SIGN IN RIGHT HALF CIRCLE/0 VECTOR OR CROSS PRODUCT/0 MULTIPLICATION SIGN WITH DOT ABOVE
  2A31 MULTIPLICATION SIGN WITH UNDERBAR/0 SEMIDIRECT PRODUCT WITH BOTTOM CLOSED/0 SMASH PRODUCT
  2A34 MULTIPLICATION SIGN IN LEFT HALF CIRCLE/3 RIGHT HALF CIRCLE
  2A36 CIRCLED MULTIPLICATION SIGN WITH CIRCUMFLEX ACCENT/0 MULTIPLICATION SIGN IN DOUBLE CIRCLE
  2A38 CIRCLED DIVISION SIGN/0 PLUS SIGN IN TRIANGLE/0 MINUS SIGN IN TRIANGLE
  2A3B MULTIPLICATION SIGN IN TRIANGLE/0 INTERIOR PRODUCT/0 RIGHTHAND INTERIOR PRODUCT
  2A3E Z NOTATION RELATIONAL COMPOSITION/0 AMALGAMATION OR COPRODUCT/0 INTERSECTION WITH DOT
  2A41 UNION WITH MINUS SIGN/2 OVERBAR/0 INTERSECTION WITH OVERBAR/2 LOGICAL AND
  2A45 UNION WITH LOGICAL OR/1 ABOVE INTERSECTION/0 INTERSECTION ABOVE UNION
  2A48 UNION ABOVE BAR ABOVE INTERSECTION/0 INTERSECTION ABOVE BAR ABOVE UNION
  2A4A UNION BESIDE AND JOINED WITH UNION/0 INTERSECTION BESIDE AND JOINED WITH INTERSECTION
  2A4C CLOSED UNION WITH SERIFS/1 INTERSECTION WITH SERIFS/0 DOUBLE SQUARE INTERSECTION/2 UNION
  2A50 CLOSED UNION WITH SERIFS AND SMASH PRODUCT/0 LOGICAL AND WITH DOT ABOVE/1 OR WITH DOT ABOVE
  2A53 DOUBLE LOGICAL AND/2 OR/0 TWO INTERSECTING LOGICAL AND/3 OR/0 SLOPING LARGE OR/2 AND
  2A59 LOGICAL OR OVERLAPPING LOGICAL AND/1 AND WITH MIDDLE STEM/1 OR WITH MIDDLE STEM
  2A5C LOGICAL AND WITH HORIZONTAL DASH/1 OR WITH HORIZONTAL DASH/1 AND WITH DOUBLE OVERBAR
  2A5F LOGICAL AND WITH UNDERBAR/3 DOUBLE UNDERBAR/0 SMALL VEE WITH UNDERBAR
  2A62 LOGICAL OR WITH DOUBLE OVERBAR/4 UNDERBAR/0 Z NOTATION DOMAIN ANTIRESTRICTION
  2A65 Z NOTATION RANGE ANTIRESTRICTION/0 EQUALS SIGN WITH DOT BELOW/0 IDENTICAL WITH DOT ABOVE
  2A68 TRIPLE HORIZONTAL BAR WITH DOUBLE VERTICAL STROKE/4 TRIPLE VERTICAL STROKE
  2A6A TILDE OPERATOR WITH DOT ABOVE/3 RISING DOTS/0 SIMILAR MINUS SIMILAR
  2A6D CONGRUENT WITH DOT ABOVE/0 EQUALS WITH ASTERISK/0 ALMOST EQUAL TO WITH CIRCUMFLEX ACCENT
  2A70 APPROXIMATELY EQUAL OR EQUAL TO/0 EQUALS SIGN ABOVE PLUS SIGN/0 PLUS SIGN ABOVE EQUALS SIGN
  2A73 EQUALS SIGN ABOVE TILDE OPERATOR/0 DOUBLE COLON EQUAL/0 TWO CONSECUTIVE EQUALS SIGNS
  2A76 THREE CONSECUTIVE EQUALS SIGNS/0 EQUALS SIGN WITH TWO DOTS ABOVE AND TWO DOTS BELOW
  2A78 EQUIVALENT WITH FOUR DOTS ABOVE/0 LESS-THAN WITH CIRCLE INSIDE
  2A7A GREATER-THAN WITH CIRCLE INSIDE/0 LESS-THAN WITH QUESTION MARK ABOVE
  2A7C GREATER-THAN WITH QUESTION MARK ABOVE/0 LESS-THAN OR SLANTED EQUAL TO
  2A7E GREATER-THAN OR SLANTED EQUAL TO/0 LESS-THAN OR SLANTED EQUAL TO WITH DOT INSIDE
  2A80 GREATER-THAN OR SLANTED EQUAL TO WITH DOT INSIDE
  2A81 LESS-THAN OR SLANTED EQUAL TO WITH DOT ABOVE
  2A82 GREATER-THAN OR SLANTED EQUAL TO WITH DOT ABOVE
  2A83 LESS-THAN OR SLANTED EQUAL TO WITH DOT ABOVE RIGHT
  2A84 GREATER-THAN OR SLANTED EQUAL TO WITH DOT ABOVE LEFT/0 LESS-THAN OR APPROXIMATE
  2A86 GREATER-THAN OR APPROXIMATE/0 LESS-THAN AND SINGLE-LINE NOT EQUAL TO
  2A88 GREATER-THAN AND SINGLE-LINE NOT EQUAL TO/0 LESS-THAN AND NOT APPROXIMATE
  2A8A GREATER-THAN AND NOT APPROXIMATE/0 LESS-THAN ABOVE DOUBLE-LINE EQUAL ABOVE GREATER-THAN
  2A8C GREATER-THAN ABOVE DOUBLE-LINE EQUAL ABOVE LESS-THAN/0 LESS-THAN ABOVE SIMILAR OR EQUAL
  2A8E GREATER-THAN ABOVE SIMILAR OR EQUAL/0 LESS-THAN ABOVE SIMILAR ABOVE GREATER-THAN
  2A90 GREATER-THAN ABOVE SIMILAR ABOVE LESS-THAN
  2A91 LESS-THAN ABOVE GREATER-THAN ABOVE DOUBLE-LINE EQUAL
  2A92 GREATER-THAN ABOVE LESS-THAN ABOVE DOUBLE-LINE EQUAL
  2A93 LESS-THAN ABOVE SLANTED EQUAL ABOVE GREATER-THAN ABOVE SLANTED EQUAL
  2A94 GREATER-THAN ABOVE SLANTED EQUAL ABOVE LESS-THAN ABOVE SLANTED EQUAL
  2A95 SLANTED EQUAL TO OR LESS-THAN/4 GREATER-THAN/4 LESS-THAN WITH DOT INSIDE
  2A98 SLANTED EQUAL TO OR GREATER-THAN WITH DOT INSIDE/0 DOUBLE-LINE EQUAL TO OR LESS-THAN
  2A9A DOUBLE-LINE EQUAL TO OR GREATER-THAN/1 SLANTED EQUAL TO OR LESS-THAN/5 GREATER-THAN
  2A9D SIMILAR OR LESS-THAN/2 GREATER-THAN/1 ABOVE LESS-THAN ABOVE EQUALS SIGN
  2AA0 SIMILAR ABOVE GREATER-THAN ABOVE EQUALS SIGN/0 DOUBLE NESTED LESS-THAN/2 GREATER-THAN
  2AA3 DOUBLE NESTED LESS-THAN WITH UNDERBAR/0 GREATER-THAN OVERLAPPING LESS-THAN/1 BESIDE LESS-THAN
  2AA6 LESS-THAN CLOSED BY CURVE/0 GREATER-THAN CLOSED BY CURVE
  2AA8 LESS-THAN CLOSED BY CURVE ABOVE SLANTED EQUAL
  2AA9 GREATER-THAN CLOSED BY CURVE ABOVE SLANTED EQUAL/0 SMALLER THAN/0 LARGER THAN
  2AAC SMALLER THAN OR EQUAL TO/0 LARGER THAN OR EQUAL TO/0 EQUALS SIGN WITH BUMPY ABOVE
  2AAF PRECEDES ABOVE SINGLE-LINE EQUALS SIGN/0 SUCCEEDS ABOVE SINGLE-LINE EQUALS SIGN
  2AB1 PRECEDES ABOVE SINGLE-LINE NOT EQUAL TO/0 SUCCEEDS ABOVE SINGLE-LINE NOT EQUAL TO
  2AB3 PRECEDES ABOVE EQUALS SIGN/0 SUCCEEDS ABOVE EQUALS SIGN/0 PRECEDES ABOVE NOT EQUAL TO
  2AB6 SUCCEEDS ABOVE NOT EQUAL TO/0 PRECEDES ABOVE ALMOST EQUAL TO/0 SUCCEEDS ABOVE ALMOST EQUAL TO
  2AB9 PRECEDES ABOVE NOT ALMOST EQUAL TO/0 SUCCEEDS ABOVE NOT ALMOST EQUAL TO/0 DOUBLE PRECEDES
  2ABC DOUBLE SUCCEEDS/0 SUBSET WITH DOT/0 SUPERSET WITH DOT/0 SUBSET WITH PLUS SIGN BELOW
  2AC0 SUPERSET WITH PLUS SIGN BELOW/0 SUBSET WITH MULTIPLICATION SIGN BELOW
  2AC2 SUPERSET WITH MULTIPLICATION SIGN BELOW/0 SUBSET OF OR EQUAL TO WITH DOT ABOVE
  2AC4 SUPERSET OF OR EQUAL TO WITH DOT ABOVE/0 SUBSET OF ABOVE EQUALS SIGN
  2AC6 SUPERSET OF ABOVE EQUALS SIGN/0 SUBSET OF ABOVE TILDE OPERATOR
  2AC8 SUPERSET OF ABOVE TILDE OPERATOR/0 SUBSET OF ABOVE ALMOST EQUAL TO
  2ACA SUPERSET OF ABOVE ALMOST EQUAL TO/0 SUBSET OF ABOVE NOT EQUAL TO
  2ACC SUPERSET OF ABOVE NOT EQUAL TO/0 SQUARE LEFT OPEN BOX OPERATOR/1 RIGHT OPEN BOX OPERATOR
  2ACF CLOSED SUBSET/1 SUPERSET/1 SUBSET OR EQUAL TO/1 SUPERSET OR EQUAL TO/0 SUBSET ABOVE SUPERSET
  2AD4 SUPERSET ABOVE SUBSET/0 SUBSET ABOVE SUBSET/0 SUPERSET ABOVE SUPERSET/1 BESIDE SUBSET
  2AD8 SUPERSET BESIDE AND JOINED BY DASH WITH SUBSET/0 ELEMENT OF OPENING DOWNWARDS
  2ADA PITCHFORK WITH TEE TOP/0 TRANSVERSAL INTERSECTION/0 FORKING/0 NONFORKING/0 SHORT LEFT TACK
  2ADF SHORT DOWN TACK/1 UP TACK/0 PERPENDICULAR WITH S/0 VERTICAL BAR TRIPLE RIGHT TURNSTILE
  2AE3 DOUBLE VERTICAL BAR LEFT TURNSTILE/0 VERTICAL BAR DOUBLE LEFT TURNSTILE
  2AE5 DOUBLE VERTICAL BAR DOUBLE LEFT TURNSTILE/0 LONG DASH FROM LEFT MEMBER OF DOUBLE VERTICAL
  2AE7 SHORT DOWN TACK WITH OVERBAR/1 UP TACK WITH UNDERBAR/3 ABOVE SHORT DOWN TACK
  2AEA DOUBLE DOWN TACK/1 UP TACK/1 STROKE NOT SIGN/0 REVERSED DOUBLE STROKE NOT SIGN
  2AEE DOES NOT DIVIDE WITH REVERSED NEGATION SLASH/0 VERTICAL LINE WITH CIRCLE ABOVE/4 BELOW
  2AF1 DOWN TACK WITH CIRCLE BELOW/0 PARALLEL WITH HORIZONTAL STROKE/2 TILDE OPERATOR
  2AF4 TRIPLE VERTICAL BAR BINARY RELATION/3 WITH HORIZONTAL STROKE/1 COLON OPERATOR
  2AF7 TRIPLE NESTED LESS-THAN/2 GREATER-THAN/0 DOUBLE-LINE SLANTED LESS-THAN OR EQUAL TO
  2AFA DOUBLE-LINE SLANTED GREATER-THAN OR EQUAL TO/0 TRIPLE SOLIDUS BINARY RELATION
  2AFC LARGE TRIPLE VERTICAL BAR OPERATOR/0 DOUBLE SOLIDUS OPERATOR/0 WHITE VERTICAL BAR
  2AFF N-ARY WHITE VERTICAL BAR/0 NORTH EAST WHITE ARROW/1 WEST WHITE ARROW/0 SOUTH EAST WHITE ARROW
  2B03 SOUTH WEST WHITE ARROW/0 LEFT RIGHT WHITE ARROW/0 LEFTWARDS BLACK ARROW/0 UPWARDS BLACK ARROW
  2B07 DOWNWARDS BLACK ARROW/0 NORTH EAST BLACK ARROW/1 WEST BLACK ARROW/0 SOUTH EAST BLACK ARROW
  2B0B SOUTH WEST BLACK ARROW/0 LEFT RIGHT BLACK ARROW/0 UP DOWN BLACK ARROW
  2B0E RIGHTWARDS ARROW WITH TIP DOWNWARDS/4 UPWARDS/0 LEFTWARDS ARROW WITH TIP DOWNWARDS/4 UPWARDS
  2B12 SQUARE WITH TOP HALF BLACK/2 BOTTOM HALF BLACK/2 UPPER RIGHT DIAGONAL HALF BLACK
  2B15 SQUARE WITH LOWER LEFT DIAGONAL HALF BLACK/0 DIAMOND WITH LEFT HALF BLACK/2 RIGHT HALF BLACK
  2B18 DIAMOND WITH TOP HALF BLACK/2 BOTTOM HALF BLACK/0 DOTTED SQUARE/0 BLACK LARGE SQUARE
  2B1C WHITE LARGE SQUARE/0 BLACK VERY SMALL SQUARE/0 WHITE VERY SMALL SQUARE/0 BLACK PENTAGON
  2B20 WHITE PENTAGON/1 HEXAGON/0 BLACK HEXAGON/0 HORIZONTAL BLACK HEXAGON/0 BLACK LARGE CIRCLE
  2B25 BLACK MEDIUM DIAMOND/0 WHITE MEDIUM DIAMOND/0 BLACK MEDIUM LOZENGE/0 WHITE MEDIUM LOZENGE
  2B29 BLACK SMALL DIAMOND/2 LOZENGE/0 WHITE SMALL LOZENGE/0 BLACK HORIZONTAL ELLIPSE
  2B2D WHITE HORIZONTAL ELLIPSE/0 BLACK VERTICAL ELLIPSE/0 WHITE VERTICAL ELLIPSE
  2B30 LEFT ARROW WITH SMALL CIRCLE/0 THREE LEFTWARDS ARROWS/0 LEFT ARROW WITH CIRCLED PLUS
  2B33 LONG LEFTWARDS SQUIGGLE ARROW/0 LEFTWARDS TWO-HEADED ARROW WITH VERTICAL STROKE
  2B35 LEFTWARDS TWO-HEADED ARROW WITH DOUBLE VERTICAL STROKE/3 FROM BAR/2 TRIPLE DASH ARROW
  2B38 LEFTWARDS ARROW WITH DOTTED STEM/3 TAIL WITH VERTICAL STROKE/5 DOUBLE VERTICAL STROKE
  2B3B LEFTWARDS TWO-HEADED ARROW WITH TAIL/5 WITH VERTICAL STROKE/6 DOUBLE VERTICAL STROKE
  2B3E LEFTWARDS ARROW THROUGH X/0 WAVE ARROW POINTING DIRECTLY LEFT
  2B40 EQUALS SIGN ABOVE LEFTWARDS ARROW/0 REVERSE TILDE OPERATOR ABOVE LEFTWARDS ARROW
  2B42 LEFTWARDS ARROW ABOVE REVERSE ALMOST EQUAL TO/0 RIGHTWARDS ARROW THROUGH GREATER-THAN
  2B44 RIGHTWARDS ARROW THROUGH SUPERSET/0 LEFTWARDS QUADRUPLE ARROW/0 RIGHTWARDS QUADRUPLE ARROW
  2B47 REVERSE TILDE OPERATOR ABOVE RIGHTWARDS ARROW
  2B48 RIGHTWARDS ARROW ABOVE REVERSE ALMOST EQUAL TO/0 TILDE OPERATOR ABOVE LEFTWARDS ARROW
  2B4A LEFTWARDS ARROW ABOVE ALMOST EQUAL TO/3 REVERSE TILDE OPERATOR
  2B4C RIGHTWARDS ARROW ABOVE REVERSE TILDE OPERATOR/0 DOWNWARDS TRIANGLE-HEADED ZIGZAG ARROW
  2B4E SHORT SLANTED NORTH ARROW/1 BACKSLANTED SOUTH ARROW/0 WHITE MEDIUM STAR/0 BLACK SMALL STAR
  2B52 WHITE SMALL STAR/0 BLACK RIGHT-POINTING PENTAGON/0 WHITE RIGHT-POINTING PENTAGON
  2B55 HEAVY LARGE CIRCLE/1 OVAL WITH OVAL INSIDE/1 CIRCLE WITH CIRCLE INSIDE/2/1 CIRCLED SALTIRE
  2B5A SLANTED NORTH ARROW WITH HOOKED HEAD/0 BACKSLANTED SOUTH ARROW WITH HOOKED TAIL
  2B5C SLANTED NORTH ARROW WITH HORIZONTAL TAIL/0 BACKSLANTED SOUTH ARROW WITH HORIZONTAL TAIL
  2B5E BENT ARROW POINTING DOWNWARDS THEN NORTH EAST
  2B5F SHORT BENT ARROW POINTING DOWNWARDS THEN NORTH EAST/0 LEFTWARDS TRIANGLE-HEADED ARROW
  2B61 UPWARDS TRIANGLE-HEADED ARROW/0 RIGHTWARDS TRIANGLE-HEADED ARROW
  2B63 DOWNWARDS TRIANGLE-HEADED ARROW/0 LEFT RIGHT TRIANGLE-HEADED ARROW
  2B65 UP DOWN TRIANGLE-HEADED ARROW/0 NORTH WEST TRIANGLE-HEADED ARROW/1 EAST TRIANGLE-HEADED ARROW
  2B68 SOUTH EAST TRIANGLE-HEADED ARROW/1 WEST TRIANGLE-HEADED ARROW
  2B6A LEFTWARDS TRIANGLE-HEADED DASHED ARROW/0 UPWARDS TRIANGLE-HEADED DASHED ARROW
  2B6C RIGHTWARDS TRIANGLE-HEADED DASHED ARROW/0 DOWNWARDS TRIANGLE-HEADED DASHED ARROW
  2B6E CLOCKWISE TRIANGLE-HEADED OPEN CIRCLE ARROW/0 ANTICLOCKWISE TRIANGLE-HEADED OPEN CIRCLE ARROW
  2B70 LEFTWARDS TRIANGLE-HEADED ARROW TO BAR/0 UPWARDS TRIANGLE-HEADED ARROW TO BAR
  2B72 RIGHTWARDS TRIANGLE-HEADED ARROW TO BAR/0 DOWNWARDS TRIANGLE-HEADED ARROW TO BAR
  2B76 NORTH WEST TRIANGLE-HEADED ARROW TO BAR/1 EAST TRIANGLE-HEADED ARROW TO BAR
  2B78 SOUTH EAST TRIANGLE-HEADED ARROW TO BAR/1 WEST TRIANGLE-HEADED ARROW TO BAR
  2B7A LEFTWARDS TRIANGLE-HEADED ARROW WITH DOUBLE HORIZONTAL STROKE
  2B7B UPWARDS TRIANGLE-HEADED ARROW WITH DOUBLE HORIZONTAL STROKE
  2B7C RIGHTWARDS TRIANGLE-HEADED ARROW WITH DOUBLE HORIZONTAL STROKE
  2B7D DOWNWARDS TRIANGLE-HEADED ARROW WITH DOUBLE HORIZONTAL STROKE/0 HORIZONTAL TAB KEY
  2B7F VERTICAL TAB KEY/0 LEFTWARDS TRIANGLE-HEADED ARROW OVER RIGHTWARDS TRIANGLE-HEADED ARROW
  2B81 UPWARDS TRIANGLE-HEADED ARROW LEFTWARDS OF DOWNWARDS TRIANGLE-HEADED ARROW
  2B82 RIGHTWARDS TRIANGLE-HEADED ARROW OVER LEFTWARDS TRIANGLE-HEADED ARROW
  2B83 DOWNWARDS TRIANGLE-HEADED ARROW LEFTWARDS OF UPWARDS TRIANGLE-HEADED ARROW
  2B84 LEFTWARDS TRIANGLE-HEADED PAIRED ARROWS/0 UPWARDS TRIANGLE-HEADED PAIRED ARROWS
  2B86 RIGHTWARDS TRIANGLE-HEADED PAIRED ARROWS/0 DOWNWARDS TRIANGLE-HEADED PAIRED ARROWS
  2B88 LEFTWARDS BLACK CIRCLED WHITE ARROW/0 UPWARDS BLACK CIRCLED WHITE ARROW
  2B8A RIGHTWARDS BLACK CIRCLED WHITE ARROW/0 DOWNWARDS BLACK CIRCLED WHITE ARROW
  2B8C ANTICLOCKWISE TRIANGLE-HEADED RIGHT U-SHAPED ARROW/2 BOTTOM U-SHAPED ARROW
  2B8E ANTICLOCKWISE TRIANGLE-HEADED LEFT U-SHAPED ARROW/2 TOP U-SHAPED ARROW/0 RETURN LEFT/1 RIGHT
  2B92 NEWLINE LEFT/1 RIGHT/0 FOUR CORNER ARROWS CIRCLING ANTICLOCKWISE/0 RIGHTWARDS BLACK ARROW
  2B97 SYMBOL FOR TYPE A ELECTRONICS/0 THREE-D TOP-LIGHTED LEFTWARDS EQUILATERAL ARROWHEAD
  2B99 THREE-D RIGHT-LIGHTED UPWARDS EQUILATERAL ARROWHEAD
  2B9A THREE-D TOP-LIGHTED RIGHTWARDS EQUILATERAL ARROWHEAD
  2B9B THREE-D LEFT-LIGHTED DOWNWARDS EQUILATERAL ARROWHEAD/0 BLACK LEFTWARDS EQUILATERAL ARROWHEAD
  2B9D BLACK UPWARDS EQUILATERAL ARROWHEAD/1 RIGHTWARDS EQUILATERAL ARROWHEAD
  2B9F BLACK DOWNWARDS EQUILATERAL ARROWHEAD
  2BA0 DOWNWARDS TRIANGLE-HEADED ARROW WITH LONG TIP LEFTWARDS/6 RIGHTWARDS
  2BA2 UPWARDS TRIANGLE-HEADED ARROW WITH LONG TIP LEFTWARDS/6 RIGHTWARDS
  2BA4 LEFTWARDS TRIANGLE-HEADED ARROW WITH LONG TIP UPWARDS
  2BA5 RIGHTWARDS TRIANGLE-HEADED ARROW WITH LONG TIP UPWARDS
  2BA6 LEFTWARDS TRIANGLE-HEADED ARROW WITH LONG TIP DOWNWARDS
  2BA7 RIGHTWARDS TRIANGLE-HEADED ARROW WITH LONG TIP DOWNWARDS
  2BA8 BLACK CURVED DOWNWARDS AND LEFTWARDS ARROW/4 RIGHTWARDS ARROW/2 UPWARDS AND LEFTWARDS ARROW
  2BAB BLACK CURVED UPWARDS AND RIGHTWARDS ARROW/2 LEFTWARDS AND UPWARDS ARROW
  2BAD BLACK CURVED RIGHTWARDS AND UPWARDS ARROW/2 LEFTWARDS AND DOWNWARDS ARROW
  2BAF BLACK CURVED RIGHTWARDS AND DOWNWARDS ARROW/0 RIBBON ARROW DOWN LEFT/3 RIGHT/2 UP LEFT
  2BB3 RIBBON ARROW UP RIGHT/2 LEFT UP/2 RIGHT UP/2 LEFT DOWN/2 RIGHT DOWN
  2BB8 UPWARDS WHITE ARROW FROM BAR WITH HORIZONTAL BAR/0 UP ARROWHEAD IN A RECTANGLE BOX
  2BBA OVERLAPPING WHITE SQUARES/2 AND BLACK SQUARES/1 BLACK SQUARES/0 BALLOT BOX WITH LIGHT X
  2BBE CIRCLED X/1 BOLD X/0 BLACK SQUARE CENTRED/1 DIAMOND CENTRED/0 TURNED BLACK PENTAGON
  2BC3 HORIZONTAL BLACK OCTAGON/0 BLACK OCTAGON/1 MEDIUM UP-POINTING TRIANGLE CENTRED
  2BC6 BLACK MEDIUM DOWN-POINTING TRIANGLE CENTRED/2 LEFT-POINTING TRIANGLE CENTRED
  2BC8 BLACK MEDIUM RIGHT-POINTING TRIANGLE CENTRED/0 NEPTUNE FORM TWO/0 TOP HALF BLACK CIRCLE
  2BCB BOTTOM HALF BLACK CIRCLE/0 LIGHT FOUR POINTED BLACK CUSP
  2BCD ROTATED LIGHT FOUR POINTED BLACK CUSP/0 WHITE FOUR POINTED CUSP
  2BCF ROTATED WHITE FOUR POINTED CUSP/0 SQUARE POSITION INDICATOR/0 UNCERTAINTY SIGN/0 GROUP MARK
  2BD3 PLUTO FORM TWO/2 THREE/2 FOUR/2 FIVE/0 TRANSPLUTO/0 PROSERPINA/0 ASTRAEA/0 HYGIEA/0 PHOLUS
  2BDC NESSUS/0 WHITE MOON SELENA/0 BLACK DIAMOND ON CROSS/0 TRUE LIGHT MOON ARTA/0 CUPIDO/0 HADES
  2BE2 ZEUS/0 KRONOS/0 APOLLON/0 ADMETOS/0 VULCANUS/0 POSEIDON/0 LEFT HALF BLACK STAR
  2BE9 RIGHT HALF BLACK STAR/0 STAR WITH LEFT HALF BLACK/2 RIGHT HALF BLACK
  2BEC LEFTWARDS TWO-HEADED ARROW WITH TRIANGLE ARROWHEADS
  2BED UPWARDS TWO-HEADED ARROW WITH TRIANGLE ARROWHEADS
  2BEE RIGHTWARDS TWO-HEADED ARROW WITH TRIANGLE ARROWHEADS
  2BEF DOWNWARDS TWO-HEADED ARROW WITH TRIANGLE ARROWHEADS/0 ERIS FORM ONE/2 TWO/0 SEDNA
  2BF3 RUSSIAN ASTROLOGICAL SYMBOL VIGINTILE/3 NOVILE/3 QUINTILE/3 BINOVILE/3 SENTAGON/3 TREDECILE
  2BF9 EQUALS SIGN WITH INFINITY BELOW/0 UNITED SYMBOL/0 SEPARATED SYMBOL/0 DOUBLED SYMBOL
  2BFD PASSED SYMBOL/0 REVERSED RIGHT ANGLE/0 HELLSCHREIBER PAUSE SYMBOL
  2C00 GLAGOLITIC CAPITAL LETTER AZU/3 BUKY/3 VEDE/3 GLAGOLI/3 DOBRO/3 YESTU/3 ZHIVETE/3 DZELO
  2C08 GLAGOLITIC CAPITAL LETTER ZEMLJA/3 IZHE/3 INITIAL IZHE/3 I/3 DJERVI/3 KAKO/3 LJUDIJE
  2C0F GLAGOLITIC CAPITAL LETTER MYSLITE/3 NASHI/3 ONU/3 POKOJI/3 RITSI/3 SLOVO/3 TVRIDO/3 UKU
  2C17 GLAGOLITIC CAPITAL LETTER FRITU/3 HERU/3 OTU/3 PE/3 SHTA/3 TSI/3 CHRIVI/3 SHA/3 YERU/3 YERI
  2C21 GLAGOLITIC CAPITAL LETTER YATI/3 SPIDERY HA/3 YU/3 SMALL YUS/5 WITH TAIL/3 YO
  2C27 GLAGOLITIC CAPITAL LETTER IOTATED SMALL YUS/3 BIG YUS/3 IOTATED BIG YUS/3 FITA/3 IZHITSA
  2C2C GLAGOLITIC CAPITAL LETTER SHTAPIC/3 TROKUTASTI A/3 LATINATE MYSLITE/3 CAUDATE CHRIVI
  2C30 GLAGOLITIC SMALL LETTER AZU/3 BUKY/3 VEDE/3 GLAGOLI/3 DOBRO/3 YESTU/3 ZHIVETE/3 DZELO
  2C38 GLAGOLITIC SMALL LETTER ZEMLJA/3 IZHE/3 INITIAL IZHE/3 I/3 DJERVI/3 KAKO/3 LJUDIJE/3 MYSLITE
  2C40 GLAGOLITIC SMALL LETTER NASHI/3 ONU/3 POKOJI/3 RITSI/3 SLOVO/3 TVRIDO/3 UKU/3 FRITU/3 HERU
  2C49 GLAGOLITIC SMALL LETTER OTU/3 PE/3 SHTA/3 TSI/3 CHRIVI/3 SHA/3 YERU/3 YERI/3 YATI
  2C52 GLAGOLITIC SMALL LETTER SPIDERY HA/3 YU/3 SMALL YUS/5 WITH TAIL/3 YO/3 IOTATED SMALL YUS
  2C58 GLAGOLITIC SMALL LETTER BIG YUS/3 IOTATED BIG YUS/3 FITA/3 IZHITSA/3 SHTAPIC/3 TROKUTASTI A
  2C5E GLAGOLITIC SMALL LETTER LATINATE MYSLITE/3 CAUDATE CHRIVI
  2C60 LATIN CAPITAL LETTER L WITH DOUBLE BAR/1 SMALL LETTER L WITH DOUBLE BAR
  2C62 LATIN CAPITAL LETTER L WITH MIDDLE TILDE/3 P WITH STROKE/3 R WITH TAIL
  2C65 LATIN SMALL LETTER A WITH STROKE/3 T WITH DIAGONAL STROKE/1 CAPITAL LETTER H WITH DESCENDER
  2C68 LATIN SMALL LETTER H WITH DESCENDER/1 CAPITAL LETTER K WITH DESCENDER
  2C6A LATIN SMALL LETTER K WITH DESCENDER/1 CAPITAL LETTER Z WITH DESCENDER
  2C6C LATIN SMALL LETTER Z WITH DESCENDER/1 CAPITAL LETTER ALPHA/3 M WITH HOOK/3 TURNED A/4 ALPHA
  2C71 LATIN SMALL LETTER V WITH RIGHT HOOK/1 CAPITAL LETTER W WITH HOOK/1 SMALL LETTER W WITH HOOK
  2C74 LATIN SMALL LETTER V WITH CURL/1 CAPITAL LETTER HALF H/1 SMALL LETTER HALF H/3 TAILLESS PHI
  2C78 LATIN SMALL LETTER E WITH NOTCH/3 TURNED R WITH TAIL/3 O WITH LOW RING INSIDE
  2C7B LATIN LETTER SMALL CAPITAL TURNED E/1 SUBSCRIPT SMALL LETTER J/0 MODIFIER LETTER CAPITAL V
  2C7E LATIN CAPITAL LETTER S WITH SWASH TAIL/3 Z WITH SWASH TAIL/0 COPTIC CAPITAL LETTER ALFA
  2C81 COPTIC SMALL LETTER ALFA/1 CAPITAL LETTER VIDA/1 SMALL LETTER VIDA/1 CAPITAL LETTER GAMMA
  2C85 COPTIC SMALL LETTER GAMMA/1 CAPITAL LETTER DALDA/1 SMALL LETTER DALDA/1 CAPITAL LETTER EIE
  2C89 COPTIC SMALL LETTER EIE/1 CAPITAL LETTER SOU/1 SMALL LETTER SOU/1 CAPITAL LETTER ZATA
  2C8D COPTIC SMALL LETTER ZATA/1 CAPITAL LETTER HATE/1 SMALL LETTER HATE/1 CAPITAL LETTER THETHE
  2C91 COPTIC SMALL LETTER THETHE/1 CAPITAL LETTER IAUDA/1 SMALL LETTER IAUDA/1 CAPITAL LETTER KAPA
  2C95 COPTIC SMALL LETTER KAPA/1 CAPITAL LETTER LAULA/1 SMALL LETTER LAULA/1 CAPITAL LETTER MI
  2C99 COPTIC SMALL LETTER MI/1 CAPITAL LETTER NI/1 SMALL LETTER NI/1 CAPITAL LETTER KSI
  2C9D COPTIC SMALL LETTER KSI/1 CAPITAL LETTER O/1 SMALL LETTER O/1 CAPITAL LETTER PI
  2CA1 COPTIC SMALL LETTER PI/1 CAPITAL LETTER RO/1 SMALL LETTER RO/1 CAPITAL LETTER SIMA
  2CA5 COPTIC SMALL LETTER SIMA/1 CAPITAL LETTER TAU/1 SMALL LETTER TAU/1 CAPITAL LETTER UA
  2CA9 COPTIC SMALL LETTER UA/1 CAPITAL LETTER FI/1 SMALL LETTER FI/1 CAPITAL LETTER KHI
  2CAD COPTIC SMALL LETTER KHI/1 CAPITAL LETTER PSI/1 SMALL LETTER PSI/1 CAPITAL LETTER OOU
  2CB1 COPTIC SMALL LETTER OOU/1 CAPITAL LETTER DIALECT-P ALEF/1 SMALL LETTER DIALECT-P ALEF
  2CB4 COPTIC CAPITAL LETTER OLD COPTIC AIN/1 SMALL LETTER OLD COPTIC AIN
  2CB6 COPTIC CAPITAL LETTER CRYPTOGRAMMIC EIE/1 SMALL LETTER CRYPTOGRAMMIC EIE
  2CB8 COPTIC CAPITAL LETTER DIALECT-P KAPA/1 SMALL LETTER DIALECT-P KAPA
  2CBA COPTIC CAPITAL LETTER DIALECT-P NI/1 SMALL LETTER DIALECT-P NI
  2CBC COPTIC CAPITAL LETTER CRYPTOGRAMMIC NI/1 SMALL LETTER CRYPTOGRAMMIC NI
  2CBE COPTIC CAPITAL LETTER OLD COPTIC OOU/1 SMALL LETTER OLD COPTIC OOU/1 CAPITAL LETTER SAMPI
  2CC1 COPTIC SMALL LETTER SAMPI/1 CAPITAL LETTER CROSSED SHEI/1 SMALL LETTER CROSSED SHEI
  2CC4 COPTIC CAPITAL LETTER OLD COPTIC SHEI/1 SMALL LETTER OLD COPTIC SHEI
  2CC6 COPTIC CAPITAL LETTER OLD COPTIC ESH/1 SMALL LETTER OLD COPTIC ESH
  2CC8 COPTIC CAPITAL LETTER AKHMIMIC KHEI/1 SMALL LETTER AKHMIMIC KHEI
  2CCA COPTIC CAPITAL LETTER DIALECT-P HORI/1 SMALL LETTER DIALECT-P HORI
  2CCC COPTIC CAPITAL LETTER OLD COPTIC HORI/1 SMALL LETTER OLD COPTIC HORI
  2CCE COPTIC CAPITAL LETTER OLD COPTIC HA/1 SMALL LETTER OLD COPTIC HA/1 CAPITAL LETTER L-SHAPED HA
  2CD1 COPTIC SMALL LETTER L-SHAPED HA/1 CAPITAL LETTER OLD COPTIC HEI/1 SMALL LETTER OLD COPTIC HEI
  2CD4 COPTIC CAPITAL LETTER OLD COPTIC HAT/1 SMALL LETTER OLD COPTIC HAT
  2CD6 COPTIC CAPITAL LETTER OLD COPTIC GANGIA/1 SMALL LETTER OLD COPTIC GANGIA
  2CD8 COPTIC CAPITAL LETTER OLD COPTIC DJA/1 SMALL LETTER OLD COPTIC DJA
  2CDA COPTIC CAPITAL LETTER OLD COPTIC SHIMA/1 SMALL LETTER OLD COPTIC SHIMA
  2CDC COPTIC CAPITAL LETTER OLD NUBIAN SHIMA/1 SMALL LETTER OLD NUBIAN SHIMA
  2CDE COPTIC CAPITAL LETTER OLD NUBIAN NGI/1 SMALL LETTER OLD NUBIAN NGI
  2CE0 COPTIC CAPITAL LETTER OLD NUBIAN NYI/1 SMALL LETTER OLD NUBIAN NYI
  2CE2 COPTIC CAPITAL LETTER OLD NUBIAN WAU/1 SMALL LETTER OLD NUBIAN WAU/1 SYMBOL KAI/2 MI RO
  2CE6 COPTIC SYMBOL PI RO/2 STAUROS/2 TAU RO/2 KHI RO/2 SHIMA SIMA
  2CEB COPTIC CAPITAL LETTER CRYPTOGRAMMIC SHEI/1 SMALL LETTER CRYPTOGRAMMIC SHEI
  2CED COPTIC CAPITAL LETTER CRYPTOGRAMMIC GANGIA/1 SMALL LETTER CRYPTOGRAMMIC GANGIA
  2CEF COPTIC COMBINING NI ABOVE/2 SPIRITUS ASPER/3 LENIS/1 CAPITAL LETTER BOHAIRIC KHEI
  2CF3 COPTIC SMALL LETTER BOHAIRIC KHEI
  2CF9 COPTIC OLD NUBIAN FULL STOP/3 DIRECT QUESTION MARK/3 INDIRECT QUESTION MARK/3 VERSE DIVIDER
  2CFD COPTIC FRACTION ONE HALF/1 FULL STOP/1 MORPHOLOGICAL DIVIDER/0 GEORGIAN SMALL LETTER AN/3 BAN
  2D02 GEORGIAN SMALL LETTER GAN/3 DON/3 EN/3 VIN/3 ZEN/3 TAN/3 IN/3 KAN/3 LAS/3 MAN/3 NAR/3 ON
  2D0E GEORGIAN SMALL LETTER PAR/3 ZHAR/3 RAE/3 SAN/3 TAR/3 UN/3 PHAR/3 KHAR/3 GHAN/3 QAR/3 SHIN
  2D19 GEORGIAN SMALL LETTER CHIN/3 CAN/3 JIL/3 CIL/3 CHAR/3 XAN/3 JHAN/3 HAE/3 HE/3 HIE/3 WE/3 HAR
  2D25 GEORGIAN SMALL LETTER HOE
  2D27 GEORGIAN SMALL LETTER YN
  2D2D GEORGIAN SMALL LETTER AEN
  2D30 TIFINAGH LETTER YA/2 YAB/2 YABH/2 YAG/2 YAGHH/2 BERBER ACADEMY YAJ/2 YAJ/2 YAD/2 YADH/2 YADD
  2D3A TIFINAGH LETTER YADDH/2 YEY/2 YAF/2 YAK/2 TUAREG YAK/2 YAKHH/2 YAH/2 BERBER ACADEMY YAH
  2D42 TIFINAGH LETTER TUAREG YAH/2 YAHH/2 YAA/2 YAKH/2 TUAREG YAKH/2 YAQ/2 TUAREG YAQ/2 YI/2 YAZH
  2D4B TIFINAGH LETTER AHAGGAR YAZH/2 TUAREG YAZH/2 YAL/2 YAM/2 YAN/2 TUAREG YAGN/3 YANG/2 YAP/2 YU
  2D54 TIFINAGH LETTER YAR/2 YARR/2 YAGH/2 TUAREG YAGH/2 AYER YAGH/2 YAS/2 YASS/2 YASH/2 YAT/2 YATH
  2D5E TIFINAGH LETTER YACH/2 YATT/2 YAV/2 YAW/2 YAY/2 YAZ/2 TAWELLEMET YAZ/2 YAZZ/2 YE/2 YO
  2D6F TIFINAGH MODIFIER LETTER LABIALIZATION MARK/1 SEPARATOR MARK
  2D7F TIFINAGH CONSONANT JOINER/0 ETHIOPIC SYLLABLE LOA/2 MOA/2 ROA/2 SOA/2 SHOA/2 BOA/2 TOA/2 COA
  2D88 ETHIOPIC SYLLABLE NOA/2 NYOA/2 GLOTTAL OA/2 ZOA/2 DOA/2 DDOA/2 JOA/2 THOA/2 CHOA/2 PHOA/2 POA
  2D93 ETHIOPIC SYLLABLE GGWA/2 GGWI/2 GGWEE/2 GGWE
  2DA0 ETHIOPIC SYLLABLE SSA/2 SSU/2 SSI/2 SSAA/2 SSEE/2 SSE/2 SSO
  2DA8 ETHIOPIC SYLLABLE CCA/2 CCU/2 CCI/2 CCAA/2 CCEE/2 CCE/2 CCO
  2DB0 ETHIOPIC SYLLABLE ZZA/2 ZZU/2 ZZI/2 ZZAA/2 ZZEE/2 ZZE/2 ZZO
  2DB8 ETHIOPIC SYLLABLE CCHA/2 CCHU/2 CCHI/2 CCHAA/2 CCHEE/2 CCHE/2 CCHO
  2DC0 ETHIOPIC SYLLABLE QYA/2 QYU/2 QYI/2 QYAA/2 QYEE/2 QYE/2 QYO
  2DC8 ETHIOPIC SYLLABLE KYA/2 KYU/2 KYI/2 KYAA/2 KYEE/2 KYE/2 KYO
  2DD0 ETHIOPIC SYLLABLE XYA/2 XYU/2 XYI/2 XYAA/2 XYEE/2 XYE/2 XYO
  2DD8 ETHIOPIC SYLLABLE GYA/2 GYU/2 GYI/2 GYAA/2 GYEE/2 GYE/2 GYO
  2DE0 COMBINING CYRILLIC LETTER BE/3 VE/3 GHE/3 DE/3 ZHE/3 ZE/3 KA/3 EL/3 EM/3 EN/3 O/3 PE/3 ER
  2DED COMBINING CYRILLIC LETTER ES/3 TE/3 HA/3 TSE/3 CHE/3 SHA/3 SHCHA/3 FITA/3 ES-TE/3 A/3 IE
  2DF8 COMBINING CYRILLIC LETTER DJERV/3 MONOGRAPH UK/3 YAT/3 YU/3 IOTIFIED A/3 LITTLE YUS/3 BIG YUS
  2DFF COMBINING CYRILLIC LETTER IOTIFIED BIG YUS/0 RIGHT ANGLE SUBSTITUTION MARKER
  2E01 RIGHT ANGLE DOTTED SUBSTITUTION MARKER/0 LEFT SUBSTITUTION BRACKET
  2E03 RIGHT SUBSTITUTION BRACKET/0 LEFT DOTTED SUBSTITUTION BRACKET
  2E05 RIGHT DOTTED SUBSTITUTION BRACKET/0 RAISED INTERPOLATION MARKER/1 DOTTED INTERPOLATION MARKER
  2E08 DOTTED TRANSPOSITION MARKER/0 LEFT TRANSPOSITION BRACKET/0 RIGHT TRANSPOSITION BRACKET
  2E0B RAISED SQUARE/0 LEFT RAISED OMISSION BRACKET/0 RIGHT RAISED OMISSION BRACKET
  2E0E EDITORIAL CORONIS/0 PARAGRAPHOS/0 FORKED PARAGRAPHOS/0 REVERSED FORKED PARAGRAPHOS
  2E12 HYPODIASTOLE/0 DOTTED OBELOS/0 DOWNWARDS ANCORA/0 UPWARDS ANCORA
  2E16 DOTTED RIGHT-POINTING ANGLE/0 DOUBLE OBLIQUE HYPHEN/0 INVERTED INTERROBANG/0 PALM BRANCH
  2E1A HYPHEN WITH DIAERESIS/0 TILDE WITH RING ABOVE/0 LEFT LOW PARAPHRASE BRACKET
  2E1D RIGHT LOW PARAPHRASE BRACKET/0 TILDE WITH DOT ABOVE/3 BELOW/0 LEFT VERTICAL BAR WITH QUILL
  2E21 RIGHT VERTICAL BAR WITH QUILL/0 TOP LEFT HALF BRACKET/1 RIGHT HALF BRACKET
  2E24 BOTTOM LEFT HALF BRACKET/1 RIGHT HALF BRACKET/0 LEFT SIDEWAYS U BRACKET
  2E27 RIGHT SIDEWAYS U BRACKET/0 LEFT DOUBLE PARENTHESIS/0 RIGHT DOUBLE PARENTHESIS
  2E2A TWO DOTS OVER ONE DOT PUNCTUATION/0 ONE DOT OVER TWO DOTS PUNCTUATION
  2E2C SQUARED FOUR DOT PUNCTUATION/0 FIVE DOT MARK/0 REVERSED QUESTION MARK/0 VERTICAL TILDE
  2E30 RING POINT/0 WORD SEPARATOR MIDDLE DOT/0 TURNED COMMA/0 RAISED DOT/1 COMMA/0 TURNED SEMICOLON
  2E36 DAGGER WITH LEFT GUARD/2 RIGHT GUARD/0 TURNED DAGGER/0 TOP HALF SECTION SIGN/0 TWO-EM DASH
  2E3B THREE-EM DASH/0 STENOGRAPHIC FULL STOP/0 VERTICAL SIX DOTS/0 WIGGLY VERTICAL LINE/0 CAPITULUM
  2E40 DOUBLE HYPHEN/0 REVERSED COMMA/0 DOUBLE LOW-REVERSED-9 QUOTATION MARK/0 DASH WITH LEFT UPTURN
  2E44 DOUBLE SUSPENSION MARK/0 INVERTED LOW KAVYKA/3 WITH KAVYKA ABOVE/0 LOW KAVYKA/2 WITH DOT
  2E49 DOUBLE STACKED COMMA/0 DOTTED SOLIDUS/0 TRIPLE DAGGER/0 MEDIEVAL COMMA/0 PARAGRAPHUS MARK
  2E4E PUNCTUS ELEVATUS MARK/0 CORNISH VERSE DIVIDER/0 CROSS PATTY WITH RIGHT CROSSBAR
  2E51 CROSS PATTY WITH LEFT CROSSBAR/0 TIRONIAN SIGN CAPITAL ET/0 MEDIEVAL EXCLAMATION MARK
  2E54 MEDIEVAL QUESTION MARK/0 LEFT SQUARE BRACKET WITH STROKE/0 RIGHT SQUARE BRACKET WITH STROKE
  2E57 LEFT SQUARE BRACKET WITH DOUBLE STROKE/0 RIGHT SQUARE BRACKET WITH DOUBLE STROKE
  2E59 TOP HALF LEFT PARENTHESIS/2 RIGHT PARENTHESIS/0 BOTTOM HALF LEFT PARENTHESIS
  2E5C BOTTOM HALF RIGHT PARENTHESIS/0 OBLIQUE HYPHEN
  2E80 CJK RADICAL REPEAT/2 CLIFF/2 SECOND ONE/3 TWO/3 THREE/2 PERSON/2 BOX/2 TABLE/2 KNIFE ONE
  2E89 CJK RADICAL KNIFE TWO/2 DIVINATION/2 SEAL/2 SMALL ONE/3 TWO/2 LAME ONE/3 TWO/3 THREE/3 FOUR
  2E92 CJK RADICAL SNAKE/2 THREAD/2 SNOUT ONE/3 TWO/2 HEART ONE/3 TWO/2 HAND/2 RAP
  2E9B CJK RADICAL CHOKE/2 SUN/2 MOON/2 DEATH/2 MOTHER/2 CIVILIAN/2 WATER ONE/3 TWO/2 FIRE/2 PAW ONE
  2EA5 CJK RADICAL PAW TWO/2 SIMPLIFIED HALF TREE TRUNK/2 COW/2 DOG/2 JADE/2 BOLT OF CLOTH/2 EYE
  2EAC CJK RADICAL SPIRIT ONE/3 TWO/2 BAMBOO/2 SILK/2 C-SIMPLIFIED SILK/2 NET ONE/3 TWO/3 THREE
  2EB4 CJK RADICAL NET FOUR/2 MESH/2 SHEEP/2 RAM/2 EWE/2 OLD/2 BRUSH ONE/3 TWO/2 MEAT/2 MORTAR
  2EBE CJK RADICAL GRASS ONE/3 TWO/3 THREE/2 TIGER/2 CLOTHES/2 WEST ONE/3 TWO/2 C-SIMPLIFIED SEE
  2EC6 CJK RADICAL SIMPLIFIED HORN/2 HORN/2 C-SIMPLIFIED SPEECH/3 SHELL/2 FOOT/2 C-SIMPLIFIED CART
  2ECC CJK RADICAL SIMPLIFIED WALK/2 WALK ONE/3 TWO/2 CITY/2 C-SIMPLIFIED GOLD/2 LONG ONE/3 TWO
  2ED3 CJK RADICAL C-SIMPLIFIED LONG/3 GATE/2 MOUND ONE/3 TWO/2 RAIN/2 BLUE
  2ED9 CJK RADICAL C-SIMPLIFIED TANNED LEATHER/3 LEAF/3 WIND/3 FLY/2 EAT ONE/3 TWO/3 THREE
  2EE0 CJK RADICAL C-SIMPLIFIED EAT/2 HEAD/2 C-SIMPLIFIED HORSE/2 BONE/2 GHOST/2 C-SIMPLIFIED FISH
  2EE6 CJK RADICAL C-SIMPLIFIED BIRD/3 SALT/2 SIMPLIFIED WHEAT/3 YELLOW/2 C-SIMPLIFIED FROG
  2EEB CJK RADICAL J-SIMPLIFIED EVEN/2 C-SIMPLIFIED EVEN/2 J-SIMPLIFIED TOOTH/2 C-SIMPLIFIED TOOTH
  2EEF CJK RADICAL J-SIMPLIFIED DRAGON/2 C-SIMPLIFIED DRAGON/2 TURTLE/2 J-SIMPLIFIED TURTLE
  2EF3 CJK RADICAL C-SIMPLIFIED TURTLE
  2F00 KANGXI RADICAL ONE/2 LINE/2 DOT/2 SLASH/2 SECOND/2 HOOK/2 TWO/2 LID/2 MAN/2 LEGS/2 ENTER
  2F0B KANGXI RADICAL EIGHT/2 DOWN BOX/2 COVER/2 ICE/2 TABLE/2 OPEN BOX/2 KNIFE/2 POWER/2 WRAP
  2F14 KANGXI RADICAL SPOON/2 RIGHT OPEN BOX/2 HIDING ENCLOSURE/2 TEN/2 DIVINATION/2 SEAL/2 CLIFF
  2F1B KANGXI RADICAL PRIVATE/2 AGAIN/2 MOUTH/2 ENCLOSURE/2 EARTH/2 SCHOLAR/2 GO/3 SLOWLY/2 EVENING
  2F24 KANGXI RADICAL BIG/2 WOMAN/2 CHILD/2 ROOF/2 INCH/2 SMALL/2 LAME/2 CORPSE/2 SPROUT/2 MOUNTAIN
  2F2E KANGXI RADICAL RIVER/2 WORK/2 ONESELF/2 TURBAN/2 DRY/2 SHORT THREAD/2 DOTTED CLIFF
  2F35 KANGXI RADICAL LONG STRIDE/2 TWO HANDS/2 SHOOT/2 BOW/2 SNOUT/2 BRISTLE/2 STEP/2 HEART
  2F3D KANGXI RADICAL HALBERD/2 DOOR/2 HAND/2 BRANCH/2 RAP/2 SCRIPT/2 DIPPER/2 AXE/2 SQUARE/2 NOT
  2F47 KANGXI RADICAL SUN/2 SAY/2 MOON/2 TREE/2 LACK/2 STOP/2 DEATH/2 WEAPON/2 DO NOT/2 COMPARE
  2F51 KANGXI RADICAL FUR/2 CLAN/2 STEAM/2 WATER/2 FIRE/2 CLAW/2 FATHER/2 DOUBLE X/2 HALF TREE TRUNK
  2F5A KANGXI RADICAL SLICE/2 FANG/2 COW/2 DOG/2 PROFOUND/2 JADE/2 MELON/2 TILE/2 SWEET/2 LIFE/2 USE
  2F65 KANGXI RADICAL FIELD/2 BOLT OF CLOTH/2 SICKNESS/2 DOTTED TENT/2 WHITE/2 SKIN/2 DISH/2 EYE
  2F6D KANGXI RADICAL SPEAR/2 ARROW/2 STONE/2 SPIRIT/2 TRACK/2 GRAIN/2 CAVE/2 STAND/2 BAMBOO/2 RICE
  2F77 KANGXI RADICAL SILK/2 JAR/2 NET/2 SHEEP/2 FEATHER/2 OLD/2 AND/2 PLOW/2 EAR/2 BRUSH/2 MEAT
  2F82 KANGXI RADICAL MINISTER/2 SELF/2 ARRIVE/2 MORTAR/2 TONGUE/2 OPPOSE/2 BOAT/2 STOPPING/2 COLOR
  2F8B KANGXI RADICAL GRASS/2 TIGER/2 INSECT/2 BLOOD/2 WALK ENCLOSURE/2 CLOTHES/2 WEST/2 SEE/2 HORN
  2F94 KANGXI RADICAL SPEECH/2 VALLEY/2 BEAN/2 PIG/2 BADGER/2 SHELL/2 RED/2 RUN/2 FOOT/2 BODY/2 CART
  2F9F KANGXI RADICAL BITTER/2 MORNING/2 WALK/2 CITY/2 WINE/2 DISTINGUISH/2 VILLAGE/2 GOLD/2 LONG
  2FA8 KANGXI RADICAL GATE/2 MOUND/2 SLAVE/2 SHORT TAILED BIRD/2 RAIN/2 BLUE/2 WRONG/2 FACE
  2FB0 KANGXI RADICAL LEATHER/2 TANNED LEATHER/2 LEEK/2 SOUND/2 LEAF/2 WIND/2 FLY/2 EAT/2 HEAD
  2FB9 KANGXI RADICAL FRAGRANT/2 HORSE/2 BONE/2 TALL/2 HAIR/2 FIGHT/2 SACRIFICIAL WINE/2 CAULDRON
  2FC1 KANGXI RADICAL GHOST/2 FISH/2 BIRD/2 SALT/2 DEER/2 WHEAT/2 HEMP/2 YELLOW/2 MILLET/2 BLACK
  2FCB KANGXI RADICAL EMBROIDERY/2 FROG/2 TRIPOD/2 DRUM/2 RAT/2 NOSE/2 EVEN/2 TOOTH/2 DRAGON
  2FD4 KANGXI RADICAL TURTLE/2 FLUTE
  2FF0 IDEOGRAPHIC DESCRIPTION CHARACTER LEFT TO RIGHT/3 ABOVE TO BELOW/3 LEFT TO MIDDLE AND RIGHT
  2FF3 IDEOGRAPHIC DESCRIPTION CHARACTER ABOVE TO MIDDLE AND BELOW/3 FULL SURROUND
  2FF5 IDEOGRAPHIC DESCRIPTION CHARACTER SURROUND FROM ABOVE/5 BELOW/5 LEFT/5 UPPER LEFT/6 RIGHT
  2FFA IDEOGRAPHIC DESCRIPTION CHARACTER SURROUND FROM LOWER LEFT/3 OVERLAID
  3000 IDEOGRAPHIC SPACE/1 COMMA/1 FULL STOP/0 DITTO MARK/0 JAPANESE INDUSTRIAL STANDARD SYMBOL
  3005 IDEOGRAPHIC ITERATION MARK/1 CLOSING MARK/1 NUMBER ZERO/0 LEFT ANGLE BRACKET
  3009 RIGHT ANGLE BRACKET/0 LEFT DOUBLE ANGLE BRACKET/0 RIGHT DOUBLE ANGLE BRACKET
  300C LEFT CORNER BRACKET/0 RIGHT CORNER BRACKET/0 LEFT WHITE CORNER BRACKET
  300F RIGHT WHITE CORNER BRACKET/0 LEFT BLACK LENTICULAR BRACKET/0 RIGHT BLACK LENTICULAR BRACKET
  3012 POSTAL MARK/0 GETA MARK/0 LEFT TORTOISE SHELL BRACKET/0 RIGHT TORTOISE SHELL BRACKET
  3016 LEFT WHITE LENTICULAR BRACKET/0 RIGHT WHITE LENTICULAR BRACKET
  3018 LEFT WHITE TORTOISE SHELL BRACKET/0 RIGHT WHITE TORTOISE SHELL BRACKET
  301A LEFT WHITE SQUARE BRACKET/0 RIGHT WHITE SQUARE BRACKET/0 WAVE DASH
  301D REVERSED DOUBLE PRIME QUOTATION MARK/0 DOUBLE PRIME QUOTATION MARK
  301F LOW DOUBLE PRIME QUOTATION MARK/0 POSTAL MARK FACE/0 HANGZHOU NUMERAL ONE/2 TWO/2 THREE
  3024 HANGZHOU NUMERAL FOUR/2 FIVE/2 SIX/2 SEVEN/2 EIGHT/2 NINE/0 IDEOGRAPHIC LEVEL TONE MARK
  302B IDEOGRAPHIC RISING TONE MARK/1 DEPARTING TONE MARK/1 ENTERING TONE MARK
  302E HANGUL SINGLE DOT TONE MARK/1 DOUBLE DOT TONE MARK/0 WAVY DASH/0 VERTICAL KANA REPEAT MARK
  3032 VERTICAL KANA REPEAT WITH VOICED SOUND MARK/3 MARK UPPER HALF
  3034 VERTICAL KANA REPEAT WITH VOICED SOUND MARK UPPER HALF/3 MARK LOWER HALF
  3036 CIRCLED POSTAL MARK/0 IDEOGRAPHIC TELEGRAPH LINE FEED SEPARATOR SYMBOL/0 HANGZHOU NUMERAL TEN
  3039 HANGZHOU NUMERAL TWENTY/2 THIRTY/0 VERTICAL IDEOGRAPHIC ITERATION MARK/0 MASU MARK
  303D PART ALTERNATION MARK/0 IDEOGRAPHIC VARIATION INDICATOR/1 HALF FILL SPACE
  3041 HIRAGANA LETTER SMALL A/2 A/2 SMALL I/2 I/2 SMALL U/2 U/2 SMALL E/2 E/2 SMALL O/2 O/2 KA/2 GA
  304D HIRAGANA LETTER KI/2 GI/2 KU/2 GU/2 KE/2 GE/2 KO/2 GO/2 SA/2 ZA/2 SI/2 ZI/2 SU/2 ZU/2 SE/2 ZE
  305D HIRAGANA LETTER SO/2 ZO/2 TA/2 DA/2 TI/2 DI/2 SMALL TU/2 TU/2 DU/2 TE/2 DE/2 TO/2 DO/2 NA
  306B HIRAGANA LETTER NI/2 NU/2 NE/2 NO/2 HA/2 BA/2 PA/2 HI/2 BI/2 PI/2 HU/2 BU/2 PU/2 HE/2 BE/2 PE
  307B HIRAGANA LETTER HO/2 BO/2 PO/2 MA/2 MI/2 MU/2 ME/2 MO/2 SMALL YA/2 YA/2 SMALL YU/2 YU
  3087 HIRAGANA LETTER SMALL YO/2 YO/2 RA/2 RI/2 RU/2 RE/2 RO/2 SMALL WA/2 WA/2 WI/2 WE/2 WO/2 N
  3094 HIRAGANA LETTER VU/2 SMALL KA/3 KE
  3099 COMBINING KATAKANA-HIRAGANA VOICED SOUND MARK/2 SEMI-VOICED SOUND MARK
  309B KATAKANA-HIRAGANA VOICED SOUND MARK/1 SEMI-VOICED SOUND MARK/0 HIRAGANA ITERATION MARK
  309E HIRAGANA VOICED ITERATION MARK/1 DIGRAPH YORI/0 KATAKANA-HIRAGANA DOUBLE HYPHEN
  30A1 KATAKANA LETTER SMALL A/2 A/2 SMALL I/2 I/2 SMALL U/2 U/2 SMALL E/2 E/2 SMALL O/2 O/2 KA/2 GA
  30AD KATAKANA LETTER KI/2 GI/2 KU/2 GU/2 KE/2 GE/2 KO/2 GO/2 SA/2 ZA/2 SI/2 ZI/2 SU/2 ZU/2 SE/2 ZE
  30BD KATAKANA LETTER SO/2 ZO/2 TA/2 DA/2 TI/2 DI/2 SMALL TU/2 TU/2 DU/2 TE/2 DE/2 TO/2 DO/2 NA
  30CB KATAKANA LETTER NI/2 NU/2 NE/2 NO/2 HA/2 BA/2 PA/2 HI/2 BI/2 PI/2 HU/2 BU/2 PU/2 HE/2 BE/2 PE
  30DB KATAKANA LETTER HO/2 BO/2 PO/2 MA/2 MI/2 MU/2 ME/2 MO/2 SMALL YA/2 YA/2 SMALL YU/2 YU
  30E7 KATAKANA LETTER SMALL YO/2 YO/2 RA/2 RI/2 RU/2 RE/2 RO/2 SMALL WA/2 WA/2 WI/2 WE/2 WO/2 N
  30F4 KATAKANA LETTER VU/2 SMALL KA/3 KE/2 VA/2 VI/2 VE/2 VO/1 MIDDLE DOT
  30FC KATAKANA-HIRAGANA PROLONGED SOUND MARK/0 KATAKANA ITERATION MARK/1 VOICED ITERATION MARK
  30FF KATAKANA DIGRAPH KOTO
  3105 BOPOMOFO LETTER B/2 P/2 M/2 F/2 D/2 T/2 N/2 L/2 G/2 K/2 H/2 J/2 Q/2 X/2 ZH/2 CH/2 SH/2 R/2 Z
  3118 BOPOMOFO LETTER C/2 S/2 A/2 O/2 E/2 EH/2 AI/2 EI/2 AU/2 OU/2 AN/2 EN/2 ANG/2 ENG/2 ER/2 I/2 U
  3129 BOPOMOFO LETTER IU/2 V/2 NG/2 GN/2 IH/2 O WITH DOT ABOVE/2 NN
  3131 HANGUL LETTER KIYEOK/2 SSANGKIYEOK/2 KIYEOK-SIOS/2 NIEUN/2 NIEUN-CIEUC/2 NIEUN-HIEUH/2 TIKEUT
  3138 HANGUL LETTER SSANGTIKEUT/2 RIEUL/2 RIEUL-KIYEOK/2 RIEUL-MIEUM/2 RIEUL-PIEUP/2 RIEUL-SIOS
  313E HANGUL LETTER RIEUL-THIEUTH/2 RIEUL-PHIEUPH/2 RIEUL-HIEUH/2 MIEUM/2 PIEUP/2 SSANGPIEUP
  3144 HANGUL LETTER PIEUP-SIOS/2 SIOS/2 SSANGSIOS/2 IEUNG/2 CIEUC/2 SSANGCIEUC/2 CHIEUCH/2 KHIEUKH
  314C HANGUL LETTER THIEUTH/2 PHIEUPH/2 HIEUH/2 A/2 AE/2 YA/2 YAE/2 EO/2 E/2 YEO/2 YE/2 O/2 WA
  3159 HANGUL LETTER WAE/2 OE/2 YO/2 U/2 WEO/2 WE/2 WI/2 YU/2 EU/2 YI/2 I/1 FILLER
  3165 HANGUL LETTER SSANGNIEUN/2 NIEUN-TIKEUT/2 NIEUN-SIOS/2 NIEUN-PANSIOS/2 RIEUL-KIYEOK-SIOS
  316A HANGUL LETTER RIEUL-TIKEUT/2 RIEUL-PIEUP-SIOS/2 RIEUL-PANSIOS/2 RIEUL-YEORINHIEUH
  316E HANGUL LETTER MIEUM-PIEUP/2 MIEUM-SIOS/2 MIEUM-PANSIOS/2 KAPYEOUNMIEUM/2 PIEUP-KIYEOK
  3173 HANGUL LETTER PIEUP-TIKEUT/2 PIEUP-SIOS-KIYEOK/2 PIEUP-SIOS-TIKEUT/2 PIEUP-CIEUC
  3177 HANGUL LETTER PIEUP-THIEUTH/2 KAPYEOUNPIEUP/2 KAPYEOUNSSANGPIEUP/2 SIOS-KIYEOK/2 SIOS-NIEUN
  317C HANGUL LETTER SIOS-TIKEUT/2 SIOS-PIEUP/2 SIOS-CIEUC/2 PANSIOS/2 SSANGIEUNG/2 YESIEUNG
  3182 HANGUL LETTER YESIEUNG-SIOS/2 YESIEUNG-PANSIOS/2 KAPYEOUNPHIEUPH/2 SSANGHIEUH/2 YEORINHIEUH
  3187 HANGUL LETTER YO-YA/2 YO-YAE/2 YO-I/2 YU-YEO/2 YU-YE/2 YU-I/2 ARAEA/2 ARAEAE
  3190 IDEOGRAPHIC ANNOTATION LINKING MARK/2 REVERSE MARK/2 ONE MARK/2 TWO MARK/2 THREE MARK
  3195 IDEOGRAPHIC ANNOTATION FOUR MARK/2 TOP MARK/2 MIDDLE MARK/2 BOTTOM MARK/2 FIRST MARK
  319A IDEOGRAPHIC ANNOTATION SECOND MARK/2 THIRD MARK/2 FOURTH MARK/2 HEAVEN MARK/2 EARTH MARK
  319F IDEOGRAPHIC ANNOTATION MAN MARK/0 BOPOMOFO LETTER BU/2 ZI/2 JI/2 GU/2 EE/2 ENN/2 OO/2 ONN
  31A8 BOPOMOFO LETTER IR/2 ANN/2 INN/2 UNN/2 IM/2 NGG/2 AINN/2 AUNN/2 AM/2 OM/2 ONG/2 INNN
  31B4 BOPOMOFO FINAL LETTER P/3 T/3 K/3 H/1 LETTER GH/2 LH/2 ZY/1 FINAL LETTER G/1 LETTER GW/2 KW
  31BE BOPOMOFO LETTER OE/2 AH/0 CJK STROKE T/2 WG/2 XG/2 BXG/2 SW/2 HZZ/2 HZG/2 HP/2 HZWG/2 SZWG
  31CA CJK STROKE HZT/2 HZZP/2 HPWG/2 HZW/2 HZZZ/2 N/2 H/2 S/2 P/2 SP/2 D/2 HZ/2 HG/2 SZ/2 SWZ/2 ST
  31DA CJK STROKE SG/2 PD/2 PZ/2 TN/2 SZZ/2 SWG/2 HXWG/2 HZZZG/2 PG/2 Q
  31F0 KATAKANA LETTER SMALL KU/3 SI/3 SU/3 TO/3 NU/3 HA/3 HI/3 HU/3 HE/3 HO/3 MU/3 RA/3 RI/3 RU
  31FE KATAKANA LETTER SMALL RE/3 RO/0 PARENTHESIZED HANGUL KIYEOK/2 NIEUN/2 TIKEUT/2 RIEUL/2 MIEUM
  3205 PARENTHESIZED HANGUL PIEUP/2 SIOS/2 IEUNG/2 CIEUC/2 CHIEUCH/2 KHIEUKH/2 THIEUTH/2 PHIEUPH
  320D PARENTHESIZED HANGUL HIEUH/2 KIYEOK A/2 NIEUN A/2 TIKEUT A/2 RIEUL A/2 MIEUM A/2 PIEUP A
  3214 PARENTHESIZED HANGUL SIOS A/2 IEUNG A/2 CIEUC A/2 CHIEUCH A/2 KHIEUKH A/2 THIEUTH A
  321A PARENTHESIZED HANGUL PHIEUPH A/2 HIEUH A/2 CIEUC U/1 KOREAN CHARACTER OJEON/3 O HU
  3220 PARENTHESIZED IDEOGRAPH ONE/2 TWO/2 THREE/2 FOUR/2 FIVE/2 SIX/2 SEVEN/2 EIGHT/2 NINE/2 TEN
  322A PARENTHESIZED IDEOGRAPH MOON/2 FIRE/2 WATER/2 WOOD/2 METAL/2 EARTH/2 SUN/2 STOCK/2 HAVE
  3233 PARENTHESIZED IDEOGRAPH SOCIETY/2 NAME/2 SPECIAL/2 FINANCIAL/2 CONGRATULATION/2 LABOR
  3239 PARENTHESIZED IDEOGRAPH REPRESENT/2 CALL/2 STUDY/2 SUPERVISE/2 ENTERPRISE/2 RESOURCE
  323F PARENTHESIZED IDEOGRAPH ALLIANCE/2 FESTIVAL/2 REST/2 SELF/2 REACH
  3244 CIRCLED IDEOGRAPH QUESTION/2 KINDERGARTEN/2 SCHOOL/2 KOTO/1 NUMBER TEN ON BLACK SQUARE
  3249 CIRCLED NUMBER TWENTY ON BLACK SQUARE/2 THIRTY ON BLACK SQUARE/2 FORTY ON BLACK SQUARE
  324C CIRCLED NUMBER FIFTY ON BLACK SQUARE/2 SIXTY ON BLACK SQUARE/2 SEVENTY ON BLACK SQUARE
  324F CIRCLED NUMBER EIGHTY ON BLACK SQUARE/0 PARTNERSHIP SIGN/0 CIRCLED NUMBER TWENTY ONE/3 TWO
  3253 CIRCLED NUMBER TWENTY THREE/3 FOUR/3 FIVE/3 SIX/3 SEVEN/3 EIGHT/3 NINE/2 THIRTY/3 ONE/3 TWO
  325D CIRCLED NUMBER THIRTY THREE/3 FOUR/3 FIVE/1 HANGUL KIYEOK/2 NIEUN/2 TIKEUT/2 RIEUL/2 MIEUM
  3265 CIRCLED HANGUL PIEUP/2 SIOS/2 IEUNG/2 CIEUC/2 CHIEUCH/2 KHIEUKH/2 THIEUTH/2 PHIEUPH/2 HIEUH
  326E CIRCLED HANGUL KIYEOK A/2 NIEUN A/2 TIKEUT A/2 RIEUL A/2 MIEUM A/2 PIEUP A/2 SIOS A/2 IEUNG A
  3276 CIRCLED HANGUL CIEUC A/2 CHIEUCH A/2 KHIEUKH A/2 THIEUTH A/2 PHIEUPH A/2 HIEUH A
  327C CIRCLED KOREAN CHARACTER CHAMKO/3 JUEUI/1 HANGUL IEUNG U/0 KOREAN STANDARD SYMBOL
  3280 CIRCLED IDEOGRAPH ONE/2 TWO/2 THREE/2 FOUR/2 FIVE/2 SIX/2 SEVEN/2 EIGHT/2 NINE/2 TEN/2 MOON
  328B CIRCLED IDEOGRAPH FIRE/2 WATER/2 WOOD/2 METAL/2 EARTH/2 SUN/2 STOCK/2 HAVE/2 SOCIETY/2 NAME
  3295 CIRCLED IDEOGRAPH SPECIAL/2 FINANCIAL/2 CONGRATULATION/2 LABOR/2 SECRET/2 MALE/2 FEMALE
  329C CIRCLED IDEOGRAPH SUITABLE/2 EXCELLENT/2 PRINT/2 ATTENTION/2 ITEM/2 REST/2 COPY/2 CORRECT
  32A4 CIRCLED IDEOGRAPH HIGH/2 CENTRE/2 LOW/2 LEFT/2 RIGHT/2 MEDICINE/2 RELIGION/2 STUDY
  32AC CIRCLED IDEOGRAPH SUPERVISE/2 ENTERPRISE/2 RESOURCE/2 ALLIANCE/2 NIGHT/1 NUMBER THIRTY SIX
  32B2 CIRCLED NUMBER THIRTY SEVEN/3 EIGHT/3 NINE/2 FORTY/3 ONE/3 TWO/3 THREE/3 FOUR/3 FIVE/3 SIX
  32BC CIRCLED NUMBER FORTY SEVEN/3 EIGHT/3 NINE/2 FIFTY/0 IDEOGRAPHIC TELEGRAPH SYMBOL FOR JANUARY
  32C1 IDEOGRAPHIC TELEGRAPH SYMBOL FOR FEBRUARY/4 MARCH/4 APRIL/4 MAY/4 JUNE/4 JULY/4 AUGUST
  32C8 IDEOGRAPHIC TELEGRAPH SYMBOL FOR SEPTEMBER/4 OCTOBER/4 NOVEMBER/4 DECEMBER/0 SQUARE HG/1 ERG
  32CE SQUARE EV/0 LIMITED LIABILITY SIGN/0 CIRCLED KATAKANA A/2 I/2 U/2 E/2 O/2 KA/2 KI/2 KU/2 KE
  32D9 CIRCLED KATAKANA KO/2 SA/2 SI/2 SU/2 SE/2 SO/2 TA/2 TI/2 TU/2 TE/2 TO/2 NA/2 NI/2 NU/2 NE
  32E8 CIRCLED KATAKANA NO/2 HA/2 HI/2 HU/2 HE/2 HO/2 MA/2 MI/2 MU/2 ME/2 MO/2 YA/2 YU/2 YO/2 RA
  32F7 CIRCLED KATAKANA RI/2 RU/2 RE/2 RO/2 WA/2 WI/2 WE/2 WO/0 SQUARE ERA NAME REIWA/1 APAATO
  3301 SQUARE ARUHUA/1 ANPEA/1 AARU/1 ININGU/1 INTI/1 UON/1 ESUKUUDO/1 EEKAA/1 ONSU/1 OOMU/1 KAIRI
  330C SQUARE KARATTO/1 KARORII/1 GARON/1 GANMA/1 GIGA/1 GINII/1 KYURII/1 GIRUDAA/1 KIRO
  3315 SQUARE KIROGURAMU/1 KIROMEETORU/1 KIROWATTO/1 GURAMU/1 GURAMUTON/1 KURUZEIRO/1 KUROONE
  331C SQUARE KEESU/1 KORUNA/1 KOOPO/1 SAIKURU/1 SANTIIMU/1 SIRINGU/1 SENTI/1 SENTO/1 DAASU/1 DESI
  3326 SQUARE DORU/1 TON/1 NANO/1 NOTTO/1 HAITU/1 PAASENTO/1 PAATU/1 BAARERU/1 PIASUTORU/1 PIKURU
  3330 SQUARE PIKO/1 BIRU/1 HUARADDO/1 HUIITO/1 BUSSYERU/1 HURAN/1 HEKUTAARU/1 PESO/1 PENIHI
  3339 SQUARE HERUTU/1 PENSU/1 PEEZI/1 BEETA/1 POINTO/1 BORUTO/1 HON/1 PONDO/1 HOORU/1 HOON
  3343 SQUARE MAIKURO/1 MAIRU/1 MAHHA/1 MARUKU/1 MANSYON/1 MIKURON/1 MIRI/1 MIRIBAARU/1 MEGA
  334C SQUARE MEGATON/1 MEETORU/1 YAADO/1 YAARU/1 YUAN/1 RITTORU/1 RIRA/1 RUPII/1 RUUBURU/1 REMU
  3356 SQUARE RENTOGEN/1 WATTO/0 IDEOGRAPHIC TELEGRAPH SYMBOL FOR HOUR ZERO/5 ONE/5 TWO/5 THREE
  335C IDEOGRAPHIC TELEGRAPH SYMBOL FOR HOUR FOUR/5 FIVE/5 SIX/5 SEVEN/5 EIGHT/5 NINE/5 TEN/5 ELEVEN
  3364 IDEOGRAPHIC TELEGRAPH SYMBOL FOR HOUR TWELVE/5 THIRTEEN/5 FOURTEEN/5 FIFTEEN/5 SIXTEEN
  3369 IDEOGRAPHIC TELEGRAPH SYMBOL FOR HOUR SEVENTEEN/5 EIGHTEEN/5 NINETEEN/5 TWENTY/5 TWENTY-ONE
  336E IDEOGRAPHIC TELEGRAPH SYMBOL FOR HOUR TWENTY-TWO/5 TWENTY-THREE/5 TWENTY-FOUR/0 SQUARE HPA
  3372 SQUARE DA/1 AU/1 BAR/1 OV/1 PC/1 DM/2 SQUARED/2 CUBED/1 IU/1 ERA NAME HEISEI/3 SYOUWA
  337D SQUARE ERA NAME TAISYOU/3 MEIZI/1 CORPORATION/1 PA AMPS/1 NA/1 MU A/1 MA/1 KA/1 KB/1 MB/1 GB
  3388 SQUARE CAL/1 KCAL/1 PF/1 NF/1 MU F/2 G/1 MG/1 KG/1 HZ/1 KHZ/1 MHZ/1 GHZ/1 THZ/1 MU L/1 ML
  3397 SQUARE DL/1 KL/1 FM/1 NM/1 MU M/1 MM/1 CM/1 KM/1 MM SQUARED/1 CM SQUARED/1 M SQUARED
  33A2 SQUARE KM SQUARED/1 MM CUBED/1 CM CUBED/1 M CUBED/1 KM CUBED/1 M OVER S/4 SQUARED/1 PA/1 KPA
  33AB SQUARE MPA/1 GPA/1 RAD/2 OVER S/4 SQUARED/1 PS/1 NS/1 MU S/1 MS/1 PV/1 NV/1 MU V/1 MV/1 KV
  33B9 SQUARE MV MEGA/1 PW/1 NW/1 MU W/1 MW/1 KW/1 MW MEGA/1 K OHM/1 M OHM/1 AM/1 BQ/1 CC/1 CD
  33C6 SQUARE C OVER KG/1 CO/1 DB/1 GY/1 HA/1 HP/1 IN/1 KK/1 KM CAPITAL/1 KT/1 LM/1 LN/1 LOG/1 LX
  33D4 SQUARE MB SMALL/1 MIL/1 MOL/1 PH/1 PM/1 PPM/1 PR/1 SR/1 SV/1 WB/1 V OVER M/1 A OVER M
  33E0 IDEOGRAPHIC TELEGRAPH SYMBOL FOR DAY ONE/5 TWO/5 THREE/5 FOUR/5 FIVE/5 SIX/5 SEVEN/5 EIGHT
  33E8 IDEOGRAPHIC TELEGRAPH SYMBOL FOR DAY NINE/5 TEN/5 ELEVEN/5 TWELVE/5 THIRTEEN/5 FOURTEEN
  33EE IDEOGRAPHIC TELEGRAPH SYMBOL FOR DAY FIFTEEN/5 SIXTEEN/5 SEVENTEEN/5 EIGHTEEN/5 NINETEEN
  33F3 IDEOGRAPHIC TELEGRAPH SYMBOL FOR DAY TWENTY/5 TWENTY-ONE/5 TWENTY-TWO/5 TWENTY-THREE
  33F7 IDEOGRAPHIC TELEGRAPH SYMBOL FOR DAY TWENTY-FOUR/5 TWENTY-FIVE/5 TWENTY-SIX/5 TWENTY-SEVEN
  33FB IDEOGRAPHIC TELEGRAPH SYMBOL FOR DAY TWENTY-EIGHT/5 TWENTY-NINE/5 THIRTY/5 THIRTY-ONE
  33FF SQUARE GAL
  4DC0 HEXAGRAM FOR THE CREATIVE HEAVEN/3 RECEPTIVE EARTH/2 DIFFICULTY AT THE BEGINNING
  4DC3 HEXAGRAM FOR YOUTHFUL FOLLY/2 WAITING/2 CONFLICT/2 THE ARMY/2 HOLDING TOGETHER/2 SMALL TAMING
  4DC9 HEXAGRAM FOR TREADING/2 PEACE/2 STANDSTILL/2 FELLOWSHIP/2 GREAT POSSESSION/2 MODESTY
  4DCF HEXAGRAM FOR ENTHUSIASM/2 FOLLOWING/2 WORK ON THE DECAYED/2 APPROACH/2 CONTEMPLATION
  4DD4 HEXAGRAM FOR BITING THROUGH/2 GRACE/2 SPLITTING APART/2 RETURN/2 INNOCENCE/2 GREAT TAMING
  4DDA HEXAGRAM FOR MOUTH CORNERS/2 GREAT PREPONDERANCE/2 THE ABYSMAL WATER/3 CLINGING FIRE
  4DDE HEXAGRAM FOR INFLUENCE/2 DURATION/2 RETREAT/2 GREAT POWER/2 PROGRESS/2 DARKENING OF THE LIGHT
  4DE4 HEXAGRAM FOR THE FAMILY/2 OPPOSITION/2 OBSTRUCTION/2 DELIVERANCE/2 DECREASE/2 INCREASE
  4DEA HEXAGRAM FOR BREAKTHROUGH/2 COMING TO MEET/2 GATHERING TOGETHER/2 PUSHING UPWARD/2 OPPRESSION
  4DEF HEXAGRAM FOR THE WELL/2 REVOLUTION/2 THE CAULDRON/3 AROUSING THUNDER/3 KEEPING STILL MOUNTAIN
  4DF4 HEXAGRAM FOR DEVELOPMENT/2 THE MARRYING MAIDEN/2 ABUNDANCE/2 THE WANDERER/3 GENTLE WIND
  4DF9 HEXAGRAM FOR THE JOYOUS LAKE/2 DISPERSION/2 LIMITATION/2 INNER TRUTH/2 SMALL PREPONDERANCE
  4DFE HEXAGRAM FOR AFTER COMPLETION/2 BEFORE COMPLETION
  A000 YI SYLLABLE IT/2 IX/2 I/2 IP/2 IET/2 IEX/2 IE/2 IEP/2 AT/2 AX/2 A/2 AP/2 UOX/2 UO/2 UOP/2 OT
  A010 YI SYLLABLE OX/2 O/2 OP/2 EX/2 E/2 WU/2 BIT/2 BIX/2 BI/2 BIP/2 BIET/2 BIEX/2 BIE/2 BIEP/2 BAT
  A01F YI SYLLABLE BAX/2 BA/2 BAP/2 BUOX/2 BUO/2 BUOP/2 BOT/2 BOX/2 BO/2 BOP/2 BEX/2 BE/2 BEP/2 BUT
  A02D YI SYLLABLE BUX/2 BU/2 BUP/2 BURX/2 BUR/2 BYT/2 BYX/2 BY/2 BYP/2 BYRX/2 BYR/2 PIT/2 PIX/2 PI
  A03B YI SYLLABLE PIP/2 PIEX/2 PIE/2 PIEP/2 PAT/2 PAX/2 PA/2 PAP/2 PUOX/2 PUO/2 PUOP/2 POT/2 POX
  A048 YI SYLLABLE PO/2 POP/2 PUT/2 PUX/2 PU/2 PUP/2 PURX/2 PUR/2 PYT/2 PYX/2 PY/2 PYP/2 PYRX/2 PYR
  A056 YI SYLLABLE BBIT/2 BBIX/2 BBI/2 BBIP/2 BBIET/2 BBIEX/2 BBIE/2 BBIEP/2 BBAT/2 BBAX/2 BBA
  A061 YI SYLLABLE BBAP/2 BBUOX/2 BBUO/2 BBUOP/2 BBOT/2 BBOX/2 BBO/2 BBOP/2 BBEX/2 BBE/2 BBEP/2 BBUT
  A06D YI SYLLABLE BBUX/2 BBU/2 BBUP/2 BBURX/2 BBUR/2 BBYT/2 BBYX/2 BBY/2 BBYP/2 NBIT/2 NBIX/2 NBI
  A079 YI SYLLABLE NBIP/2 NBIEX/2 NBIE/2 NBIEP/2 NBAT/2 NBAX/2 NBA/2 NBAP/2 NBOT/2 NBOX/2 NBO/2 NBOP
  A085 YI SYLLABLE NBUT/2 NBUX/2 NBU/2 NBUP/2 NBURX/2 NBUR/2 NBYT/2 NBYX/2 NBY/2 NBYP/2 NBYRX/2 NBYR
  A091 YI SYLLABLE HMIT/2 HMIX/2 HMI/2 HMIP/2 HMIEX/2 HMIE/2 HMIEP/2 HMAT/2 HMAX/2 HMA/2 HMAP
  A09C YI SYLLABLE HMUOX/2 HMUO/2 HMUOP/2 HMOT/2 HMOX/2 HMO/2 HMOP/2 HMUT/2 HMUX/2 HMU/2 HMUP
  A0A7 YI SYLLABLE HMURX/2 HMUR/2 HMYX/2 HMY/2 HMYP/2 HMYRX/2 HMYR/2 MIT/2 MIX/2 MI/2 MIP/2 MIEX
  A0B3 YI SYLLABLE MIE/2 MIEP/2 MAT/2 MAX/2 MA/2 MAP/2 MUOT/2 MUOX/2 MUO/2 MUOP/2 MOT/2 MOX/2 MO
  A0C0 YI SYLLABLE MOP/2 MEX/2 ME/2 MUT/2 MUX/2 MU/2 MUP/2 MURX/2 MUR/2 MYT/2 MYX/2 MY/2 MYP/2 FIT
  A0CE YI SYLLABLE FIX/2 FI/2 FIP/2 FAT/2 FAX/2 FA/2 FAP/2 FOX/2 FO/2 FOP/2 FUT/2 FUX/2 FU/2 FUP
  A0DC YI SYLLABLE FURX/2 FUR/2 FYT/2 FYX/2 FY/2 FYP/2 VIT/2 VIX/2 VI/2 VIP/2 VIET/2 VIEX/2 VIE
  A0E9 YI SYLLABLE VIEP/2 VAT/2 VAX/2 VA/2 VAP/2 VOT/2 VOX/2 VO/2 VOP/2 VEX/2 VEP/2 VUT/2 VUX/2 VU
  A0F7 YI SYLLABLE VUP/2 VURX/2 VUR/2 VYT/2 VYX/2 VY/2 VYP/2 VYRX/2 VYR/2 DIT/2 DIX/2 DI/2 DIP
  A104 YI SYLLABLE DIEX/2 DIE/2 DIEP/2 DAT/2 DAX/2 DA/2 DAP/2 DUOX/2 DUO/2 DOT/2 DOX/2 DO/2 DOP
  A111 YI SYLLABLE DEX/2 DE/2 DEP/2 DUT/2 DUX/2 DU/2 DUP/2 DURX/2 DUR/2 TIT/2 TIX/2 TI/2 TIP/2 TIEX
  A11F YI SYLLABLE TIE/2 TIEP/2 TAT/2 TAX/2 TA/2 TAP/2 TUOT/2 TUOX/2 TUO/2 TUOP/2 TOT/2 TOX/2 TO
  A12C YI SYLLABLE TOP/2 TEX/2 TE/2 TEP/2 TUT/2 TUX/2 TU/2 TUP/2 TURX/2 TUR/2 DDIT/2 DDIX/2 DDI
  A139 YI SYLLABLE DDIP/2 DDIEX/2 DDIE/2 DDIEP/2 DDAT/2 DDAX/2 DDA/2 DDAP/2 DDUOX/2 DDUO/2 DDUOP
  A144 YI SYLLABLE DDOT/2 DDOX/2 DDO/2 DDOP/2 DDEX/2 DDE/2 DDEP/2 DDUT/2 DDUX/2 DDU/2 DDUP/2 DDURX
  A150 YI SYLLABLE DDUR/2 NDIT/2 NDIX/2 NDI/2 NDIP/2 NDIEX/2 NDIE/2 NDAT/2 NDAX/2 NDA/2 NDAP/2 NDOT
  A15C YI SYLLABLE NDOX/2 NDO/2 NDOP/2 NDEX/2 NDE/2 NDEP/2 NDUT/2 NDUX/2 NDU/2 NDUP/2 NDURX/2 NDUR
  A168 YI SYLLABLE HNIT/2 HNIX/2 HNI/2 HNIP/2 HNIET/2 HNIEX/2 HNIE/2 HNIEP/2 HNAT/2 HNAX/2 HNA
  A173 YI SYLLABLE HNAP/2 HNUOX/2 HNUO/2 HNOT/2 HNOX/2 HNOP/2 HNEX/2 HNE/2 HNEP/2 HNUT/2 NIT/2 NIX
  A17F YI SYLLABLE NI/2 NIP/2 NIEX/2 NIE/2 NIEP/2 NAX/2 NA/2 NAP/2 NUOX/2 NUO/2 NUOP/2 NOT/2 NOX
  A18C YI SYLLABLE NO/2 NOP/2 NEX/2 NE/2 NEP/2 NUT/2 NUX/2 NU/2 NUP/2 NURX/2 NUR/2 HLIT/2 HLIX/2 HLI
  A19A YI SYLLABLE HLIP/2 HLIEX/2 HLIE/2 HLIEP/2 HLAT/2 HLAX/2 HLA/2 HLAP/2 HLUOX/2 HLUO/2 HLUOP
  A1A5 YI SYLLABLE HLOX/2 HLO/2 HLOP/2 HLEX/2 HLE/2 HLEP/2 HLUT/2 HLUX/2 HLU/2 HLUP/2 HLURX/2 HLUR
  A1B1 YI SYLLABLE HLYT/2 HLYX/2 HLY/2 HLYP/2 HLYRX/2 HLYR/2 LIT/2 LIX/2 LI/2 LIP/2 LIET/2 LIEX
  A1BD YI SYLLABLE LIE/2 LIEP/2 LAT/2 LAX/2 LA/2 LAP/2 LUOT/2 LUOX/2 LUO/2 LUOP/2 LOT/2 LOX/2 LO
  A1CA YI SYLLABLE LOP/2 LEX/2 LE/2 LEP/2 LUT/2 LUX/2 LU/2 LUP/2 LURX/2 LUR/2 LYT/2 LYX/2 LY/2 LYP
  A1D8 YI SYLLABLE LYRX/2 LYR/2 GIT/2 GIX/2 GI/2 GIP/2 GIET/2 GIEX/2 GIE/2 GIEP/2 GAT/2 GAX/2 GA
  A1E5 YI SYLLABLE GAP/2 GUOT/2 GUOX/2 GUO/2 GUOP/2 GOT/2 GOX/2 GO/2 GOP/2 GET/2 GEX/2 GE/2 GEP
  A1F2 YI SYLLABLE GUT/2 GUX/2 GU/2 GUP/2 GURX/2 GUR/2 KIT/2 KIX/2 KI/2 KIP/2 KIEX/2 KIE/2 KIEP
  A1FF YI SYLLABLE KAT/2 KAX/2 KA/2 KAP/2 KUOX/2 KUO/2 KUOP/2 KOT/2 KOX/2 KO/2 KOP/2 KET/2 KEX/2 KE
  A20D YI SYLLABLE KEP/2 KUT/2 KUX/2 KU/2 KUP/2 KURX/2 KUR/2 GGIT/2 GGIX/2 GGI/2 GGIEX/2 GGIE
  A219 YI SYLLABLE GGIEP/2 GGAT/2 GGAX/2 GGA/2 GGAP/2 GGUOT/2 GGUOX/2 GGUO/2 GGUOP/2 GGOT/2 GGOX
  A224 YI SYLLABLE GGO/2 GGOP/2 GGET/2 GGEX/2 GGE/2 GGEP/2 GGUT/2 GGUX/2 GGU/2 GGUP/2 GGURX/2 GGUR
  A230 YI SYLLABLE MGIEX/2 MGIE/2 MGAT/2 MGAX/2 MGA/2 MGAP/2 MGUOX/2 MGUO/2 MGUOP/2 MGOT/2 MGOX
  A23B YI SYLLABLE MGO/2 MGOP/2 MGEX/2 MGE/2 MGEP/2 MGUT/2 MGUX/2 MGU/2 MGUP/2 MGURX/2 MGUR/2 HXIT
  A247 YI SYLLABLE HXIX/2 HXI/2 HXIP/2 HXIET/2 HXIEX/2 HXIE/2 HXIEP/2 HXAT/2 HXAX/2 HXA/2 HXAP
  A252 YI SYLLABLE HXUOT/2 HXUOX/2 HXUO/2 HXUOP/2 HXOT/2 HXOX/2 HXO/2 HXOP/2 HXEX/2 HXE/2 HXEP
  A25D YI SYLLABLE NGIEX/2 NGIE/2 NGIEP/2 NGAT/2 NGAX/2 NGA/2 NGAP/2 NGUOT/2 NGUOX/2 NGUO/2 NGOT
  A268 YI SYLLABLE NGOX/2 NGO/2 NGOP/2 NGEX/2 NGE/2 NGEP/2 HIT/2 HIEX/2 HIE/2 HAT/2 HAX/2 HA/2 HAP
  A275 YI SYLLABLE HUOT/2 HUOX/2 HUO/2 HUOP/2 HOT/2 HOX/2 HO/2 HOP/2 HEX/2 HE/2 HEP/2 WAT/2 WAX/2 WA
  A283 YI SYLLABLE WAP/2 WUOX/2 WUO/2 WUOP/2 WOX/2 WO/2 WOP/2 WEX/2 WE/2 WEP/2 ZIT/2 ZIX/2 ZI/2 ZIP
  A291 YI SYLLABLE ZIEX/2 ZIE/2 ZIEP/2 ZAT/2 ZAX/2 ZA/2 ZAP/2 ZUOX/2 ZUO/2 ZUOP/2 ZOT/2 ZOX/2 ZO
  A29E YI SYLLABLE ZOP/2 ZEX/2 ZE/2 ZEP/2 ZUT/2 ZUX/2 ZU/2 ZUP/2 ZURX/2 ZUR/2 ZYT/2 ZYX/2 ZY/2 ZYP
  A2AC YI SYLLABLE ZYRX/2 ZYR/2 CIT/2 CIX/2 CI/2 CIP/2 CIET/2 CIEX/2 CIE/2 CIEP/2 CAT/2 CAX/2 CA
  A2B9 YI SYLLABLE CAP/2 CUOX/2 CUO/2 CUOP/2 COT/2 COX/2 CO/2 COP/2 CEX/2 CE/2 CEP/2 CUT/2 CUX/2 CU
  A2C7 YI SYLLABLE CUP/2 CURX/2 CUR/2 CYT/2 CYX/2 CY/2 CYP/2 CYRX/2 CYR/2 ZZIT/2 ZZIX/2 ZZI/2 ZZIP
  A2D4 YI SYLLABLE ZZIET/2 ZZIEX/2 ZZIE/2 ZZIEP/2 ZZAT/2 ZZAX/2 ZZA/2 ZZAP/2 ZZOX/2 ZZO/2 ZZOP
  A2DF YI SYLLABLE ZZEX/2 ZZE/2 ZZEP/2 ZZUX/2 ZZU/2 ZZUP/2 ZZURX/2 ZZUR/2 ZZYT/2 ZZYX/2 ZZY/2 ZZYP
  A2EB YI SYLLABLE ZZYRX/2 ZZYR/2 NZIT/2 NZIX/2 NZI/2 NZIP/2 NZIEX/2 NZIE/2 NZIEP/2 NZAT/2 NZAX
  A2F6 YI SYLLABLE NZA/2 NZAP/2 NZUOX/2 NZUO/2 NZOX/2 NZOP/2 NZEX/2 NZE/2 NZUX/2 NZU/2 NZUP/2 NZURX
  A302 YI SYLLABLE NZUR/2 NZYT/2 NZYX/2 NZY/2 NZYP/2 NZYRX/2 NZYR/2 SIT/2 SIX/2 SI/2 SIP/2 SIEX
  A30E YI SYLLABLE SIE/2 SIEP/2 SAT/2 SAX/2 SA/2 SAP/2 SUOX/2 SUO/2 SUOP/2 SOT/2 SOX/2 SO/2 SOP
  A31B YI SYLLABLE SEX/2 SE/2 SEP/2 SUT/2 SUX/2 SU/2 SUP/2 SURX/2 SUR/2 SYT/2 SYX/2 SY/2 SYP/2 SYRX
  A329 YI SYLLABLE SYR/2 SSIT/2 SSIX/2 SSI/2 SSIP/2 SSIEX/2 SSIE/2 SSIEP/2 SSAT/2 SSAX/2 SSA/2 SSAP
  A335 YI SYLLABLE SSOT/2 SSOX/2 SSO/2 SSOP/2 SSEX/2 SSE/2 SSEP/2 SSUT/2 SSUX/2 SSU/2 SSUP/2 SSYT
  A341 YI SYLLABLE SSYX/2 SSY/2 SSYP/2 SSYRX/2 SSYR/2 ZHAT/2 ZHAX/2 ZHA/2 ZHAP/2 ZHUOX/2 ZHUO
  A34C YI SYLLABLE ZHUOP/2 ZHOT/2 ZHOX/2 ZHO/2 ZHOP/2 ZHET/2 ZHEX/2 ZHE/2 ZHEP/2 ZHUT/2 ZHUX/2 ZHU
  A358 YI SYLLABLE ZHUP/2 ZHURX/2 ZHUR/2 ZHYT/2 ZHYX/2 ZHY/2 ZHYP/2 ZHYRX/2 ZHYR/2 CHAT/2 CHAX/2 CHA
  A364 YI SYLLABLE CHAP/2 CHUOT/2 CHUOX/2 CHUO/2 CHUOP/2 CHOT/2 CHOX/2 CHO/2 CHOP/2 CHET/2 CHEX
  A36F YI SYLLABLE CHE/2 CHEP/2 CHUX/2 CHU/2 CHUP/2 CHURX/2 CHUR/2 CHYT/2 CHYX/2 CHY/2 CHYP/2 CHYRX
  A37B YI SYLLABLE CHYR/2 RRAX/2 RRA/2 RRUOX/2 RRUO/2 RROT/2 RROX/2 RRO/2 RROP/2 RRET/2 RREX/2 RRE
  A387 YI SYLLABLE RREP/2 RRUT/2 RRUX/2 RRU/2 RRUP/2 RRURX/2 RRUR/2 RRYT/2 RRYX/2 RRY/2 RRYP/2 RRYRX
  A393 YI SYLLABLE RRYR/2 NRAT/2 NRAX/2 NRA/2 NRAP/2 NROX/2 NRO/2 NROP/2 NRET/2 NREX/2 NRE/2 NREP
  A39F YI SYLLABLE NRUT/2 NRUX/2 NRU/2 NRUP/2 NRURX/2 NRUR/2 NRYT/2 NRYX/2 NRY/2 NRYP/2 NRYRX/2 NRYR
  A3AB YI SYLLABLE SHAT/2 SHAX/2 SHA/2 SHAP/2 SHUOX/2 SHUO/2 SHUOP/2 SHOT/2 SHOX/2 SHO/2 SHOP/2 SHET
  A3B7 YI SYLLABLE SHEX/2 SHE/2 SHEP/2 SHUT/2 SHUX/2 SHU/2 SHUP/2 SHURX/2 SHUR/2 SHYT/2 SHYX/2 SHY
  A3C3 YI SYLLABLE SHYP/2 SHYRX/2 SHYR/2 RAT/2 RAX/2 RA/2 RAP/2 RUOX/2 RUO/2 RUOP/2 ROT/2 ROX/2 RO
  A3D0 YI SYLLABLE ROP/2 REX/2 RE/2 REP/2 RUT/2 RUX/2 RU/2 RUP/2 RURX/2 RUR/2 RYT/2 RYX/2 RY/2 RYP
  A3DE YI SYLLABLE RYRX/2 RYR/2 JIT/2 JIX/2 JI/2 JIP/2 JIET/2 JIEX/2 JIE/2 JIEP/2 JUOT/2 JUOX/2 JUO
  A3EB YI SYLLABLE JUOP/2 JOT/2 JOX/2 JO/2 JOP/2 JUT/2 JUX/2 JU/2 JUP/2 JURX/2 JUR/2 JYT/2 JYX/2 JY
  A3F9 YI SYLLABLE JYP/2 JYRX/2 JYR/2 QIT/2 QIX/2 QI/2 QIP/2 QIET/2 QIEX/2 QIE/2 QIEP/2 QUOT/2 QUOX
  A406 YI SYLLABLE QUO/2 QUOP/2 QOT/2 QOX/2 QO/2 QOP/2 QUT/2 QUX/2 QU/2 QUP/2 QURX/2 QUR/2 QYT/2 QYX
  A414 YI SYLLABLE QY/2 QYP/2 QYRX/2 QYR/2 JJIT/2 JJIX/2 JJI/2 JJIP/2 JJIET/2 JJIEX/2 JJIE/2 JJIEP
  A420 YI SYLLABLE JJUOX/2 JJUO/2 JJUOP/2 JJOT/2 JJOX/2 JJO/2 JJOP/2 JJUT/2 JJUX/2 JJU/2 JJUP
  A42B YI SYLLABLE JJURX/2 JJUR/2 JJYT/2 JJYX/2 JJY/2 JJYP/2 NJIT/2 NJIX/2 NJI/2 NJIP/2 NJIET
  A436 YI SYLLABLE NJIEX/2 NJIE/2 NJIEP/2 NJUOX/2 NJUO/2 NJOT/2 NJOX/2 NJO/2 NJOP/2 NJUX/2 NJU
  A441 YI SYLLABLE NJUP/2 NJURX/2 NJUR/2 NJYT/2 NJYX/2 NJY/2 NJYP/2 NJYRX/2 NJYR/2 NYIT/2 NYIX/2 NYI
  A44D YI SYLLABLE NYIP/2 NYIET/2 NYIEX/2 NYIE/2 NYIEP/2 NYUOX/2 NYUO/2 NYUOP/2 NYOT/2 NYOX/2 NYO
  A458 YI SYLLABLE NYOP/2 NYUT/2 NYUX/2 NYU/2 NYUP/2 XIT/2 XIX/2 XI/2 XIP/2 XIET/2 XIEX/2 XIE/2 XIEP
  A465 YI SYLLABLE XUOX/2 XUO/2 XOT/2 XOX/2 XO/2 XOP/2 XYT/2 XYX/2 XY/2 XYP/2 XYRX/2 XYR/2 YIT/2 YIX
  A473 YI SYLLABLE YI/2 YIP/2 YIET/2 YIEX/2 YIE/2 YIEP/2 YUOT/2 YUOX/2 YUO/2 YUOP/2 YOT/2 YOX/2 YO
  A480 YI SYLLABLE YOP/2 YUT/2 YUX/2 YU/2 YUP/2 YURX/2 YUR/2 YYT/2 YYX/2 YY/2 YYP/2 YYRX/2 YYR
  A490 YI RADICAL QOT/2 LI/2 KIT/2 NYIP/2 CYP/2 SSI/2 GGOP/2 GEP/2 MI/2 HXIT/2 LYR/2 BBUT/2 MOP/2 YO
  A49E YI RADICAL PUT/2 HXUO/2 TAT/2 GA/2 ZUP/2 CYT/2 DDUR/2 BUR/2 GGUO/2 NYOP/2 TU/2 OP/2 JJUT
  A4AB YI RADICAL ZOT/2 PYT/2 HMO/2 YIT/2 VUR/2 SHY/2 VEP/2 ZA/2 JO/2 NZUP/2 JJY/2 GOT/2 JJIE/2 WO
  A4B9 YI RADICAL DU/2 SHUR/2 LIE/2 CY/2 CUOP/2 CIP/2 HXOP/2 SHAT/2 ZUR/2 SHOP/2 CHE/2 ZZIET/2 NBIE
  A4C6 YI RADICAL KE
  A4D0 LISU LETTER BA/2 PA/2 PHA/2 DA/2 TA/2 THA/2 GA/2 KA/2 KHA/2 JA/2 CA/2 CHA/2 DZA/2 TSA/2 TSHA
  A4DF LISU LETTER MA/2 NA/2 LA/2 SA/2 ZHA/2 ZA/2 NGA/2 HA/2 XA/2 HHA/2 FA/2 WA/2 SHA/2 YA/2 GHA/2 A
  A4EF LISU LETTER AE/2 E/2 EU/2 I/2 O/2 U/2 UE/2 UH/2 OE/2 TONE MYA TI/3 NA PO/3 MYA CYA/4 BO/4 NA
  A4FD LISU LETTER TONE MYA JEU/1 PUNCTUATION COMMA/2 FULL STOP/0 VAI SYLLABLE EE/2 EEN/2 HEE/2 WEE
  A504 VAI SYLLABLE WEEN/2 PEE/2 BHEE/2 BEE/2 MBEE/2 KPEE/2 MGBEE/2 GBEE/2 FEE/2 VEE/2 TEE/2 THEE
  A510 VAI SYLLABLE DHEE/2 DHHEE/2 LEE/2 REE/2 DEE/2 NDEE/2 SEE/2 SHEE/2 ZEE/2 ZHEE/2 CEE/2 JEE
  A51C VAI SYLLABLE NJEE/2 YEE/2 KEE/2 NGGEE/2 GEE/2 MEE/2 NEE/2 NYEE/2 I/2 IN/2 HI/2 HIN/2 WI/2 WIN
  A52A VAI SYLLABLE PI/2 BHI/2 BI/2 MBI/2 KPI/2 MGBI/2 GBI/2 FI/2 VI/2 TI/2 THI/2 DHI/2 DHHI/2 LI
  A538 VAI SYLLABLE RI/2 DI/2 NDI/2 SI/2 SHI/2 ZI/2 ZHI/2 CI/2 JI/2 NJI/2 YI/2 KI/2 NGGI/2 GI/2 MI
  A547 VAI SYLLABLE NI/2 NYI/2 A/2 AN/2 NGAN/2 HA/2 HAN/2 WA/2 WAN/2 PA/2 BHA/2 BA/2 MBA/2 KPA
  A555 VAI SYLLABLE KPAN/2 MGBA/2 GBA/2 FA/2 VA/2 TA/2 THA/2 DHA/2 DHHA/2 LA/2 RA/2 DA/2 NDA/2 SA
  A563 VAI SYLLABLE SHA/2 ZA/2 ZHA/2 CA/2 JA/2 NJA/2 YA/2 KA/2 KAN/2 NGGA/2 GA/2 MA/2 NA/2 NYA/2 OO
  A572 VAI SYLLABLE OON/2 HOO/2 WOO/2 WOON/2 POO/2 BHOO/2 BOO/2 MBOO/2 KPOO/2 MGBOO/2 GBOO/2 FOO
  A57E VAI SYLLABLE VOO/2 TOO/2 THOO/2 DHOO/2 DHHOO/2 LOO/2 ROO/2 DOO/2 NDOO/2 SOO/2 SHOO/2 ZOO
  A58A VAI SYLLABLE ZHOO/2 COO/2 JOO/2 NJOO/2 YOO/2 KOO/2 NGGOO/2 GOO/2 MOO/2 NOO/2 NYOO/2 U/2 UN
  A597 VAI SYLLABLE HU/2 HUN/2 WU/2 WUN/2 PU/2 BHU/2 BU/2 MBU/2 KPU/2 MGBU/2 GBU/2 FU/2 VU/2 TU
  A5A5 VAI SYLLABLE THU/2 DHU/2 DHHU/2 LU/2 RU/2 DU/2 NDU/2 SU/2 SHU/2 ZU/2 ZHU/2 CU/2 JU/2 NJU/2 YU
  A5B4 VAI SYLLABLE KU/2 NGGU/2 GU/2 MU/2 NU/2 NYU/2 O/2 ON/2 NGON/2 HO/2 HON/2 WO/2 WON/2 PO/2 BHO
  A5C3 VAI SYLLABLE BO/2 MBO/2 KPO/2 MGBO/2 GBO/2 GBON/2 FO/2 VO/2 TO/2 THO/2 DHO/2 DHHO/2 LO/2 RO
  A5D1 VAI SYLLABLE DO/2 NDO/2 SO/2 SHO/2 ZO/2 ZHO/2 CO/2 JO/2 NJO/2 YO/2 KO/2 NGGO/2 GO/2 MO/2 NO
  A5E0 VAI SYLLABLE NYO/2 E/2 EN/2 NGEN/2 HE/2 HEN/2 WE/2 WEN/2 PE/2 BHE/2 BE/2 MBE/2 KPE/2 KPEN
  A5EE VAI SYLLABLE MGBE/2 GBE/2 GBEN/2 FE/2 VE/2 TE/2 THE/2 DHE/2 DHHE/2 LE/2 RE/2 DE/2 NDE/2 SE
  A5FC VAI SYLLABLE SHE/2 ZE/2 ZHE/2 CE/2 JE/2 NJE/2 YE/2 KE/2 NGGE/2 NGGEN/2 GE/2 GEN/2 ME/2 NE
  A60A VAI SYLLABLE NYE/2 NG/2 LENGTHENER/1 COMMA/1 FULL STOP/1 QUESTION MARK/1 SYLLABLE NDOLE FA
  A611 VAI SYLLABLE NDOLE KA/3 SOO/1 SYMBOL FEENG/2 KEENG/2 TING/2 NII/2 BANG/2 FAA/2 TAA/2 DANG
  A61B VAI SYMBOL DOONG/2 KUNG/2 TONG/2 DO-O/2 JONG/1 DIGIT ZERO/2 ONE/2 TWO/2 THREE/2 FOUR/2 FIVE
  A626 VAI DIGIT SIX/2 SEVEN/2 EIGHT/2 NINE/1 SYLLABLE NDOLE MA/3 DO
  A640 CYRILLIC CAPITAL LETTER ZEMLYA/1 SMALL LETTER ZEMLYA/1 CAPITAL LETTER DZELO
  A643 CYRILLIC SMALL LETTER DZELO/1 CAPITAL LETTER REVERSED DZE/1 SMALL LETTER REVERSED DZE
  A646 CYRILLIC CAPITAL LETTER IOTA/1 SMALL LETTER IOTA/1 CAPITAL LETTER DJERV/1 SMALL LETTER DJERV
  A64A CYRILLIC CAPITAL LETTER MONOGRAPH UK/1 SMALL LETTER MONOGRAPH UK/1 CAPITAL LETTER BROAD OMEGA
  A64D CYRILLIC SMALL LETTER BROAD OMEGA/1 CAPITAL LETTER NEUTRAL YER/1 SMALL LETTER NEUTRAL YER
  A650 CYRILLIC CAPITAL LETTER YERU WITH BACK YER/1 SMALL LETTER YERU WITH BACK YER
  A652 CYRILLIC CAPITAL LETTER IOTIFIED YAT/1 SMALL LETTER IOTIFIED YAT/1 CAPITAL LETTER REVERSED YU
  A655 CYRILLIC SMALL LETTER REVERSED YU/1 CAPITAL LETTER IOTIFIED A/1 SMALL LETTER IOTIFIED A
  A658 CYRILLIC CAPITAL LETTER CLOSED LITTLE YUS/1 SMALL LETTER CLOSED LITTLE YUS
  A65A CYRILLIC CAPITAL LETTER BLENDED YUS/1 SMALL LETTER BLENDED YUS
  A65C CYRILLIC CAPITAL LETTER IOTIFIED CLOSED LITTLE YUS/1 SMALL LETTER IOTIFIED CLOSED LITTLE YUS
  A65E CYRILLIC CAPITAL LETTER YN/1 SMALL LETTER YN/1 CAPITAL LETTER REVERSED TSE
  A661 CYRILLIC SMALL LETTER REVERSED TSE/1 CAPITAL LETTER SOFT DE/1 SMALL LETTER SOFT DE
  A664 CYRILLIC CAPITAL LETTER SOFT EL/1 SMALL LETTER SOFT EL/1 CAPITAL LETTER SOFT EM
  A667 CYRILLIC SMALL LETTER SOFT EM/1 CAPITAL LETTER MONOCULAR O/1 SMALL LETTER MONOCULAR O
  A66A CYRILLIC CAPITAL LETTER BINOCULAR O/1 SMALL LETTER BINOCULAR O
  A66C CYRILLIC CAPITAL LETTER DOUBLE MONOCULAR O/1 SMALL LETTER DOUBLE MONOCULAR O
  A66E CYRILLIC LETTER MULTIOCULAR O/0 COMBINING CYRILLIC VZMET/2 TEN MILLIONS SIGN
  A671 COMBINING CYRILLIC HUNDRED MILLIONS SIGN/2 THOUSAND MILLIONS SIGN/0 SLAVONIC ASTERISK
  A674 COMBINING CYRILLIC LETTER UKRAINIAN IE/3 I/3 YI/3 U/3 HARD SIGN/3 YERU/3 SOFT SIGN/3 OMEGA
  A67C COMBINING CYRILLIC KAVYKA/2 PAYEROK/0 CYRILLIC KAVYKA/1 PAYEROK/1 CAPITAL LETTER DWE
  A681 CYRILLIC SMALL LETTER DWE/1 CAPITAL LETTER DZWE/1 SMALL LETTER DZWE/1 CAPITAL LETTER ZHWE
  A685 CYRILLIC SMALL LETTER ZHWE/1 CAPITAL LETTER CCHE/1 SMALL LETTER CCHE/1 CAPITAL LETTER DZZE
  A689 CYRILLIC SMALL LETTER DZZE/1 CAPITAL LETTER TE WITH MIDDLE HOOK
  A68B CYRILLIC SMALL LETTER TE WITH MIDDLE HOOK/1 CAPITAL LETTER TWE/1 SMALL LETTER TWE
  A68E CYRILLIC CAPITAL LETTER TSWE/1 SMALL LETTER TSWE/1 CAPITAL LETTER TSSE/1 SMALL LETTER TSSE
  A692 CYRILLIC CAPITAL LETTER TCHE/1 SMALL LETTER TCHE/1 CAPITAL LETTER HWE/1 SMALL LETTER HWE
  A696 CYRILLIC CAPITAL LETTER SHWE/1 SMALL LETTER SHWE/1 CAPITAL LETTER DOUBLE O
  A699 CYRILLIC SMALL LETTER DOUBLE O/1 CAPITAL LETTER CROSSED O/1 SMALL LETTER CROSSED O
  A69C MODIFIER LETTER CYRILLIC HARD SIGN/3 SOFT SIGN/0 COMBINING CYRILLIC LETTER EF/3 IOTIFIED E
  A6A0 BAMUM LETTER A/2 KA/2 U/2 KU/2 EE/2 REE/2 TAE/2 O/2 NYI/2 I/2 LA/2 PA/2 RII/2 RIEE/2 LEEEE
  A6AF BAMUM LETTER MEEEE/2 TAA/2 NDAA/2 NJAEM/2 M/2 SUU/2 MU/2 SHII/2 SI/2 SHEUX/2 SEUX/2 KYEE
  A6BB BAMUM LETTER KET/2 NUAE/2 NU/2 NJUAE/2 YOQ/2 SHU/2 YUQ/2 YA/2 NSHA/2 KEUX/2 PEUX/2 NJEE
  A6C7 BAMUM LETTER NTEE/2 PUE/2 WUE/2 PEE/2 FEE/2 RU/2 LU/2 MI/2 NI/2 REUX/2 RAE/2 KEN/2 NGKWAEN
  A6D4 BAMUM LETTER NGGA/2 NGA/2 SHO/2 PUAE/2 FU/2 FOM/2 WA/2 NA/2 LI/2 PI/2 LOQ/2 KO/2 MBEN/2 REN
  A6E2 BAMUM LETTER MEN/2 MA/2 TI/2 KI/2 MO/2 MBAA/2 TET/2 KPA/2 TEN/2 NTUU/2 SAMBA/2 FAAMAE/2 KOVUU
  A6EF BAMUM LETTER KOGHOM/1 COMBINING MARK KOQNDON/3 TUKWENTIS/1 NJAEMLI/1 FULL STOP/1 COLON
  A6F5 BAMUM COMMA/1 SEMICOLON/1 QUESTION MARK
  A700 MODIFIER LETTER CHINESE TONE YIN PING/4 YANG PING/4 YIN SHANG/4 YANG SHANG/4 YIN QU/4 YANG QU
  A706 MODIFIER LETTER CHINESE TONE YIN RU/4 YANG RU/2 EXTRA-HIGH DOTTED TONE BAR
  A709 MODIFIER LETTER HIGH DOTTED TONE BAR/2 MID DOTTED TONE BAR/2 LOW DOTTED TONE BAR
  A70C MODIFIER LETTER EXTRA-LOW DOTTED TONE BAR/2 EXTRA-HIGH DOTTED LEFT-STEM TONE BAR
  A70E MODIFIER LETTER HIGH DOTTED LEFT-STEM TONE BAR/2 MID DOTTED LEFT-STEM TONE BAR
  A710 MODIFIER LETTER LOW DOTTED LEFT-STEM TONE BAR/2 EXTRA-LOW DOTTED LEFT-STEM TONE BAR
  A712 MODIFIER LETTER EXTRA-HIGH LEFT-STEM TONE BAR/2 HIGH LEFT-STEM TONE BAR
  A714 MODIFIER LETTER MID LEFT-STEM TONE BAR/2 LOW LEFT-STEM TONE BAR
  A716 MODIFIER LETTER EXTRA-LOW LEFT-STEM TONE BAR/2 DOT VERTICAL BAR/3 SLASH/3 HORIZONTAL BAR
  A71A MODIFIER LETTER LOWER RIGHT CORNER ANGLE/2 RAISED UP ARROW/3 DOWN ARROW/3 EXCLAMATION MARK
  A71E MODIFIER LETTER RAISED INVERTED EXCLAMATION MARK/2 LOW INVERTED EXCLAMATION MARK
  A720 MODIFIER LETTER STRESS AND HIGH TONE/4 LOW TONE/0 LATIN CAPITAL LETTER EGYPTOLOGICAL ALEF
  A723 LATIN SMALL LETTER EGYPTOLOGICAL ALEF/1 CAPITAL LETTER EGYPTOLOGICAL AIN
  A725 LATIN SMALL LETTER EGYPTOLOGICAL AIN/1 CAPITAL LETTER HENG/1 SMALL LETTER HENG
  A728 LATIN CAPITAL LETTER TZ/1 SMALL LETTER TZ/1 CAPITAL LETTER TRESILLO/1 SMALL LETTER TRESILLO
  A72C LATIN CAPITAL LETTER CUATRILLO/1 SMALL LETTER CUATRILLO/1 CAPITAL LETTER CUATRILLO WITH COMMA
  A72F LATIN SMALL LETTER CUATRILLO WITH COMMA/1 LETTER SMALL CAPITAL F/4 S/1 CAPITAL LETTER AA
  A733 LATIN SMALL LETTER AA/1 CAPITAL LETTER AO/1 SMALL LETTER AO/1 CAPITAL LETTER AU
  A737 LATIN SMALL LETTER AU/1 CAPITAL LETTER AV/1 SMALL LETTER AV
  A73A LATIN CAPITAL LETTER AV WITH HORIZONTAL BAR/1 SMALL LETTER AV WITH HORIZONTAL BAR
  A73C LATIN CAPITAL LETTER AY/1 SMALL LETTER AY/1 CAPITAL LETTER REVERSED C WITH DOT
  A73F LATIN SMALL LETTER REVERSED C WITH DOT/1 CAPITAL LETTER K WITH STROKE
  A741 LATIN SMALL LETTER K WITH STROKE/1 CAPITAL LETTER K WITH DIAGONAL STROKE
  A743 LATIN SMALL LETTER K WITH DIAGONAL STROKE/1 CAPITAL LETTER K WITH STROKE AND DIAGONAL STROKE
  A745 LATIN SMALL LETTER K WITH STROKE AND DIAGONAL STROKE/1 CAPITAL LETTER BROKEN L
  A747 LATIN SMALL LETTER BROKEN L/1 CAPITAL LETTER L WITH HIGH STROKE
  A749 LATIN SMALL LETTER L WITH HIGH STROKE/1 CAPITAL LETTER O WITH LONG STROKE OVERLAY
  A74B LATIN SMALL LETTER O WITH LONG STROKE OVERLAY/1 CAPITAL LETTER O WITH LOOP
  A74D LATIN SMALL LETTER O WITH LOOP/1 CAPITAL LETTER OO/1 SMALL LETTER OO
  A750 LATIN CAPITAL LETTER P WITH STROKE THROUGH DESCENDER
  A751 LATIN SMALL LETTER P WITH STROKE THROUGH DESCENDER/1 CAPITAL LETTER P WITH FLOURISH
  A753 LATIN SMALL LETTER P WITH FLOURISH/1 CAPITAL LETTER P WITH SQUIRREL TAIL
  A755 LATIN SMALL LETTER P WITH SQUIRREL TAIL/1 CAPITAL LETTER Q WITH STROKE THROUGH DESCENDER
  A757 LATIN SMALL LETTER Q WITH STROKE THROUGH DESCENDER/1 CAPITAL LETTER Q WITH DIAGONAL STROKE
  A759 LATIN SMALL LETTER Q WITH DIAGONAL STROKE/1 CAPITAL LETTER R ROTUNDA/1 SMALL LETTER R ROTUNDA
  A75C LATIN CAPITAL LETTER RUM ROTUNDA/1 SMALL LETTER RUM ROTUNDA
  A75E LATIN CAPITAL LETTER V WITH DIAGONAL STROKE/1 SMALL LETTER V WITH DIAGONAL STROKE
  A760 LATIN CAPITAL LETTER VY/1 SMALL LETTER VY/1 CAPITAL LETTER VISIGOTHIC Z
  A763 LATIN SMALL LETTER VISIGOTHIC Z/1 CAPITAL LETTER THORN WITH STROKE
  A765 LATIN SMALL LETTER THORN WITH STROKE/1 CAPITAL LETTER THORN WITH STROKE THROUGH DESCENDER
  A767 LATIN SMALL LETTER THORN WITH STROKE THROUGH DESCENDER/1 CAPITAL LETTER VEND
  A769 LATIN SMALL LETTER VEND/1 CAPITAL LETTER ET/1 SMALL LETTER ET/1 CAPITAL LETTER IS
  A76D LATIN SMALL LETTER IS/1 CAPITAL LETTER CON/1 SMALL LETTER CON/0 MODIFIER LETTER US
  A771 LATIN SMALL LETTER DUM/3 LUM/3 MUM/3 NUM/3 RUM/1 LETTER SMALL CAPITAL RUM/1 SMALL LETTER TUM
  A778 LATIN SMALL LETTER UM/1 CAPITAL LETTER INSULAR D/1 SMALL LETTER INSULAR D
  A77B LATIN CAPITAL LETTER INSULAR F/1 SMALL LETTER INSULAR F/1 CAPITAL LETTER INSULAR G
  A77E LATIN CAPITAL LETTER TURNED INSULAR G/1 SMALL LETTER TURNED INSULAR G
  A780 LATIN CAPITAL LETTER TURNED L/1 SMALL LETTER TURNED L/1 CAPITAL LETTER INSULAR R
  A783 LATIN SMALL LETTER INSULAR R/1 CAPITAL LETTER INSULAR S/1 SMALL LETTER INSULAR S
  A786 LATIN CAPITAL LETTER INSULAR T/1 SMALL LETTER INSULAR T
  A788 MODIFIER LETTER LOW CIRCUMFLEX ACCENT/2 COLON/2 SHORT EQUALS SIGN
  A78B LATIN CAPITAL LETTER SALTILLO/1 SMALL LETTER SALTILLO/1 CAPITAL LETTER TURNED H
  A78E LATIN SMALL LETTER L WITH RETROFLEX HOOK AND BELT/1 LETTER SINOLOGICAL DOT
  A790 LATIN CAPITAL LETTER N WITH DESCENDER/1 SMALL LETTER N WITH DESCENDER
  A792 LATIN CAPITAL LETTER C WITH BAR/1 SMALL LETTER C WITH BAR/5 PALATAL HOOK
  A795 LATIN SMALL LETTER H WITH PALATAL HOOK/1 CAPITAL LETTER B WITH FLOURISH
  A797 LATIN SMALL LETTER B WITH FLOURISH/1 CAPITAL LETTER F WITH STROKE
  A799 LATIN SMALL LETTER F WITH STROKE/1 CAPITAL LETTER VOLAPUK AE/1 SMALL LETTER VOLAPUK AE
  A79C LATIN CAPITAL LETTER VOLAPUK OE/1 SMALL LETTER VOLAPUK OE/1 CAPITAL LETTER VOLAPUK UE
  A79F LATIN SMALL LETTER VOLAPUK UE/1 CAPITAL LETTER G WITH OBLIQUE STROKE
  A7A1 LATIN SMALL LETTER G WITH OBLIQUE STROKE/1 CAPITAL LETTER K WITH OBLIQUE STROKE
  A7A3 LATIN SMALL LETTER K WITH OBLIQUE STROKE/1 CAPITAL LETTER N WITH OBLIQUE STROKE
  A7A5 LATIN SMALL LETTER N WITH OBLIQUE STROKE/1 CAPITAL LETTER R WITH OBLIQUE STROKE
  A7A7 LATIN SMALL LETTER R WITH OBLIQUE STROKE/1 CAPITAL LETTER S WITH OBLIQUE STROKE
  A7A9 LATIN SMALL LETTER S WITH OBLIQUE STROKE/1 CAPITAL LETTER H WITH HOOK/3 REVERSED OPEN E
  A7AC LATIN CAPITAL LETTER SCRIPT G/3 L WITH BELT/3 SMALL CAPITAL I/1 LETTER SMALL CAPITAL Q
  A7B0 LATIN CAPITAL LETTER TURNED K/4 T/3 J WITH CROSSED-TAIL/3 CHI/3 BETA/1 SMALL LETTER BETA
  A7B6 LATIN CAPITAL LETTER OMEGA/1 SMALL LETTER OMEGA/1 CAPITAL LETTER U WITH STROKE
  A7B9 LATIN SMALL LETTER U WITH STROKE/1 CAPITAL LETTER GLOTTAL A/1 SMALL LETTER GLOTTAL A
  A7BC LATIN CAPITAL LETTER GLOTTAL I/1 SMALL LETTER GLOTTAL I/1 CAPITAL LETTER GLOTTAL U
  A7BF LATIN SMALL LETTER GLOTTAL U/1 CAPITAL LETTER OLD POLISH O/1 SMALL LETTER OLD POLISH O
  A7C2 LATIN CAPITAL LETTER ANGLICANA W/1 SMALL LETTER ANGLICANA W
  A7C4 LATIN CAPITAL LETTER C WITH PALATAL HOOK/3 S WITH HOOK/3 Z WITH PALATAL HOOK
  A7C7 LATIN CAPITAL LETTER D WITH SHORT STROKE OVERLAY/1 SMALL LETTER D WITH SHORT STROKE OVERLAY
  A7C9 LATIN CAPITAL LETTER S WITH SHORT STROKE OVERLAY/1 SMALL LETTER S WITH SHORT STROKE OVERLAY
  A7D0 LATIN CAPITAL LETTER CLOSED INSULAR G/1 SMALL LETTER CLOSED INSULAR G
  A7D3 LATIN SMALL LETTER DOUBLE THORN
  A7D5 LATIN SMALL LETTER DOUBLE WYNN/1 CAPITAL LETTER MIDDLE SCOTS S/1 SMALL LETTER MIDDLE SCOTS S
  A7D8 LATIN CAPITAL LETTER SIGMOID S/1 SMALL LETTER SIGMOID S
  A7F2 MODIFIER LETTER CAPITAL C/3 F/3 Q/0 LATIN CAPITAL LETTER REVERSED HALF H
  A7F6 LATIN SMALL LETTER REVERSED HALF H/1 EPIGRAPHIC LETTER SIDEWAYS I
  A7F8 MODIFIER LETTER CAPITAL H WITH STROKE/2 SMALL LIGATURE OE
  A7FA LATIN LETTER SMALL CAPITAL TURNED M/1 EPIGRAPHIC LETTER REVERSED F/4 P/3 INVERTED M/3 I LONGA
  A7FF LATIN EPIGRAPHIC LETTER ARCHAIC M/0 SYLOTI NAGRI LETTER A/3 I/2 SIGN DVISVARA/2 LETTER U/3 E
  A805 SYLOTI NAGRI LETTER O/2 SIGN HASANTA/2 LETTER KO/3 KHO/3 GO/3 GHO/2 SIGN ANUSVARA/2 LETTER CO
  A80D SYLOTI NAGRI LETTER CHO/3 JO/3 JHO/3 TTO/3 TTHO/3 DDO/3 DDHO/3 TO/3 THO/3 DO/3 DHO/3 NO/3 PO
  A81A SYLOTI NAGRI LETTER PHO/3 BO/3 BHO/3 MO/3 RO/3 LO/3 RRO/3 SO/3 HO/2 VOWEL SIGN A/4 I/4 U/4 E
  A827 SYLOTI NAGRI VOWEL SIGN OO/2 POETRY MARK-1/3 MARK-2/3 MARK-3/3 MARK-4
  A82C SYLOTI NAGRI SIGN ALTERNATE HASANTA
  A830 NORTH INDIC FRACTION ONE QUARTER/4 HALF/3 THREE QUARTERS/3 ONE SIXTEENTH/4 EIGHTH
  A835 NORTH INDIC FRACTION THREE SIXTEENTHS/2 QUARTER MARK/2 PLACEHOLDER MARK/2 RUPEE MARK
  A839 NORTH INDIC QUANTITY MARK
  A840 PHAGS-PA LETTER KA/2 KHA/2 GA/2 NGA/2 CA/2 CHA/2 JA/2 NYA/2 TA/2 THA/2 DA/2 NA/2 PA/2 PHA
  A84E PHAGS-PA LETTER BA/2 MA/2 TSA/2 TSHA/2 DZA/2 WA/2 ZHA/2 ZA/2 SMALL A/2 YA/2 RA/2 LA/2 SHA
  A85B PHAGS-PA LETTER SA/2 HA/2 A/2 I/2 U/2 E/2 O/2 QA/2 XA/2 FA/2 GGA/2 EE/1 SUBJOINED LETTER WA
  A868 PHAGS-PA SUBJOINED LETTER YA/1 LETTER TTA/2 TTHA/2 DDA/2 NNA/2 ALTERNATE YA/2 VOICELESS SHA
  A86F PHAGS-PA LETTER VOICED HA/2 ASPIRATED FA/1 SUBJOINED LETTER RA/1 SUPERFIXED LETTER RA
  A873 PHAGS-PA LETTER CANDRABINDU/1 SINGLE HEAD MARK/1 DOUBLE HEAD MARK/1 MARK SHAD/2 DOUBLE SHAD
  A880 SAURASHTRA SIGN ANUSVARA/2 VISARGA/1 LETTER A/2 AA/2 I/2 II/2 U/2 UU/2 VOCALIC R/3 RR/3 L
  A88B SAURASHTRA LETTER VOCALIC LL/2 E/2 EE/2 AI/2 O/2 OO/2 AU/2 KA/2 KHA/2 GA/2 GHA/2 NGA/2 CA
  A898 SAURASHTRA LETTER CHA/2 JA/2 JHA/2 NYA/2 TTA/2 TTHA/2 DDA/2 DDHA/2 NNA/2 TA/2 THA/2 DA/2 DHA
  A8A5 SAURASHTRA LETTER NA/2 PA/2 PHA/2 BA/2 BHA/2 MA/2 YA/2 RA/2 LA/2 VA/2 SHA/2 SSA/2 SA/2 HA
  A8B3 SAURASHTRA LETTER LLA/1 CONSONANT SIGN HAARU/1 VOWEL SIGN AA/3 I/3 II/3 U/3 UU/3 VOCALIC R
  A8BB SAURASHTRA VOWEL SIGN VOCALIC RR/4 L/4 LL/3 E/3 EE/3 AI/3 O/3 OO/3 AU/1 SIGN VIRAMA
  A8C5 SAURASHTRA SIGN CANDRABINDU
  A8CE SAURASHTRA DANDA/1 DOUBLE DANDA/1 DIGIT ZERO/2 ONE/2 TWO/2 THREE/2 FOUR/2 FIVE/2 SIX/2 SEVEN
  A8D8 SAURASHTRA DIGIT EIGHT/2 NINE
  A8E0 COMBINING DEVANAGARI DIGIT ZERO/3 ONE/3 TWO/3 THREE/3 FOUR/3 FIVE/3 SIX/3 SEVEN/3 EIGHT
  A8E9 COMBINING DEVANAGARI DIGIT NINE/2 LETTER A/3 U/3 KA/3 NA/3 PA/3 RA/3 VI/2 SIGN AVAGRAHA
  A8F2 DEVANAGARI SIGN SPACING CANDRABINDU/2 CANDRABINDU VIRAMA/2 DOUBLE CANDRABINDU VIRAMA
  A8F5 DEVANAGARI SIGN CANDRABINDU TWO/3 THREE/3 AVAGRAHA/2 PUSHPIKA/1 GAP FILLER/1 CARET
  A8FB DEVANAGARI HEADSTROKE/1 SIGN SIDDHAM/1 JAIN OM/1 LETTER AY/1 VOWEL SIGN AY
  A900 KAYAH LI DIGIT ZERO/3 ONE/3 TWO/3 THREE/3 FOUR/3 FIVE/3 SIX/3 SEVEN/3 EIGHT/3 NINE
  A90A KAYAH LI LETTER KA/3 KHA/3 GA/3 NGA/3 SA/3 SHA/3 ZA/3 NYA/3 TA/3 HTA/3 NA/3 PA/3 PHA/3 MA
  A918 KAYAH LI LETTER DA/3 BA/3 RA/3 YA/3 LA/3 WA/3 THA/3 HA/3 VA/3 CA/3 A/3 OE/3 I/3 OO/2 VOWEL UE
  A927 KAYAH LI VOWEL E/3 U/3 EE/3 O/2 TONE PLOPHU/3 CALYA/4 PLOPHU/2 SIGN CWI/3 SHYA
  A930 REJANG LETTER KA/2 GA/2 NGA/2 TA/2 DA/2 NA/2 PA/2 BA/2 MA/2 CA/2 JA/2 NYA/2 SA/2 RA/2 LA/2 YA
  A940 REJANG LETTER WA/2 HA/2 MBA/2 NGGA/2 NDA/2 NYJA/2 A/1 VOWEL SIGN I/3 U/3 E/3 AI/3 O/3 AU/3 EU
  A94E REJANG VOWEL SIGN EA/1 CONSONANT SIGN NG/3 N/3 R/3 H/1 VIRAMA
  A95F REJANG SECTION MARK/0 HANGUL CHOSEONG TIKEUT-MIEUM/2 TIKEUT-PIEUP/2 TIKEUT-SIOS
  A963 HANGUL CHOSEONG TIKEUT-CIEUC/2 RIEUL-KIYEOK/2 RIEUL-SSANGKIYEOK/2 RIEUL-TIKEUT
  A967 HANGUL CHOSEONG RIEUL-SSANGTIKEUT/2 RIEUL-MIEUM/2 RIEUL-PIEUP/2 RIEUL-SSANGPIEUP
  A96B HANGUL CHOSEONG RIEUL-KAPYEOUNPIEUP/2 RIEUL-SIOS/2 RIEUL-CIEUC/2 RIEUL-KHIEUKH/2 MIEUM-KIYEOK
  A970 HANGUL CHOSEONG MIEUM-TIKEUT/2 MIEUM-SIOS/2 PIEUP-SIOS-THIEUTH/2 PIEUP-KHIEUKH/2 PIEUP-HIEUH
  A975 HANGUL CHOSEONG SSANGSIOS-PIEUP/2 IEUNG-RIEUL/2 IEUNG-HIEUH/2 SSANGCIEUC-HIEUH/2 SSANGTHIEUTH
  A97A HANGUL CHOSEONG PHIEUPH-HIEUH/2 HIEUH-SIOS/2 SSANGYEORINHIEUH
  A980 JAVANESE SIGN PANYANGGA/2 CECAK/2 LAYAR/2 WIGNYAN/1 LETTER A/2 I KAWI/3/2 II/2 U/2 PA CEREK
  A98A JAVANESE LETTER NGA LELET/4 RASWADI/2 E/2 AI/2 O/2 KA/3 SASAK/3 MURDA/2 GA/3 MURDA/2 NGA/2 CA
  A996 JAVANESE LETTER CA MURDA/2 JA/2 NYA MURDA/2 JA MAHAPRANA/2 NYA/2 TTA/3 MAHAPRANA/2 DDA
  A99E JAVANESE LETTER DDA MAHAPRANA/2 NA MURDA/2 TA/3 MURDA/2 DA/3 MAHAPRANA/2 NA/2 PA/3 MURDA/2 BA
  A9A8 JAVANESE LETTER BA MURDA/2 MA/2 YA/2 RA/3 AGUNG/2 LA/2 WA/2 SA MURDA/3 MAHAPRANA/3/2 HA
  A9B3 JAVANESE SIGN CECAK TELU/1 VOWEL SIGN TARUNG/3 TOLONG/3 WULU/4 MELIK/3 SUKU/4 MENDUT/3 TALING
  A9BB JAVANESE VOWEL SIGN DIRGA MURE/3 PEPET/1 CONSONANT SIGN KERET/3 PENGKAL/3 CAKRA/1 PANGKON
  A9C1 JAVANESE LEFT RERENGGAN/1 RIGHT RERENGGAN/1 PADA ANDAP/2 MADYA/2 LUHUR/2 WINDU/2 PANGKAT
  A9C8 JAVANESE PADA LINGSA/2 LUNGSI/2 ADEG/3 ADEG/2 PISELEH/1 TURNED PADA PISELEH
  A9CF JAVANESE PANGRANGKEP/1 DIGIT ZERO/2 ONE/2 TWO/2 THREE/2 FOUR/2 FIVE/2 SIX/2 SEVEN/2 EIGHT
  A9D9 JAVANESE DIGIT NINE
  A9DE JAVANESE PADA TIRTA TUMETES/2 ISEN-ISEN/0 MYANMAR LETTER SHAN GHA/3 CHA/3 JHA/3 NNA/3 BHA
  A9E5 MYANMAR SIGN SHAN SAW/1 MODIFIER LETTER SHAN REDUPLICATION/1 LETTER TAI LAING NYA/4 FA/4 GA
  A9EA MYANMAR LETTER TAI LAING GHA/4 JA/4 JHA/4 DDA/4 DDHA/4 NNA/1 TAI LAING DIGIT ZERO/4 ONE/4 TWO
  A9F3 MYANMAR TAI LAING DIGIT THREE/4 FOUR/4 FIVE/4 SIX/4 SEVEN/4 EIGHT/4 NINE
  A9FA MYANMAR LETTER TAI LAING LLA/4 DA/4 DHA/4 BA/4 BHA
  AA00 CHAM LETTER A/2 I/2 U/2 E/2 AI/2 O/2 KA/2 KHA/2 GA/2 GHA/2 NGUE/2 NGA/2 CHA/2 CHHA/2 JA/2 JHA
  AA10 CHAM LETTER NHUE/2 NHA/2 NHJA/2 TA/2 THA/2 DA/2 DHA/2 NUE/2 NA/2 DDA/2 PA/2 PPA/2 PHA/2 BA
  AA1E CHAM LETTER BHA/2 MUE/2 MA/2 BBA/2 YA/2 RA/2 LA/2 VA/2 SSA/2 SA/2 HA/1 VOWEL SIGN AA/3 I/3 II
  AA2C CHAM VOWEL SIGN EI/3 U/3 OE/3 O/3 AI/3 AU/3 UE/1 CONSONANT SIGN YA/3 RA/3 LA/3 WA
  AA40 CHAM LETTER FINAL K/3 G/3 NG/1 CONSONANT SIGN FINAL NG/1 LETTER FINAL CH/3 T/3 N/3 P/3 Y/3 R
  AA4A CHAM LETTER FINAL L/3 SS/1 CONSONANT SIGN FINAL M/4 H
  AA50 CHAM DIGIT ZERO/2 ONE/2 TWO/2 THREE/2 FOUR/2 FIVE/2 SIX/2 SEVEN/2 EIGHT/2 NINE
  AA5C CHAM PUNCTUATION SPIRAL/2 DANDA/2 DOUBLE DANDA/2 TRIPLE DANDA/0 MYANMAR LETTER KHAMTI GA/3 CA
  AA62 MYANMAR LETTER KHAMTI CHA/3 JA/3 JHA/3 NYA/3 TTA/3 TTHA/3 DDA/3 DDHA/3 DHA/3 NA/3 SA/3 HA
  AA6E MYANMAR LETTER KHAMTI HHA/3 FA/1 MODIFIER LETTER KHAMTI REDUPLICATION/1 LETTER KHAMTI XA/3 ZA
  AA73 MYANMAR LETTER KHAMTI RA/1 LOGOGRAM KHAMTI OAY/3 QN/3 HM/1 SYMBOL AITON EXCLAMATION/3 ONE
  AA79 MYANMAR SYMBOL AITON TWO/1 LETTER AITON RA/1 SIGN PAO KAREN TONE/2 TAI LAING TONE-2/4 TONE-5
  AA7E MYANMAR LETTER SHWE PALAUNG CHA/4 SHA/0 TAI VIET LETTER LOW KO/3 HIGH KO/3 LOW KHO/3 HIGH KHO
  AA84 TAI VIET LETTER LOW KHHO/3 HIGH KHHO/3 LOW GO/3 HIGH GO/3 LOW NGO/3 HIGH NGO/3 LOW CO
  AA8B TAI VIET LETTER HIGH CO/3 LOW CHO/3 HIGH CHO/3 LOW SO/3 HIGH SO/3 LOW NYO/3 HIGH NYO/3 LOW DO
  AA93 TAI VIET LETTER HIGH DO/3 LOW TO/3 HIGH TO/3 LOW THO/3 HIGH THO/3 LOW NO/3 HIGH NO/3 LOW BO
  AA9B TAI VIET LETTER HIGH BO/3 LOW PO/3 HIGH PO/3 LOW PHO/3 HIGH PHO/3 LOW FO/3 HIGH FO/3 LOW MO
  AAA3 TAI VIET LETTER HIGH MO/3 LOW YO/3 HIGH YO/3 LOW RO/3 HIGH RO/3 LOW LO/3 HIGH LO/3 LOW VO
  AAAB TAI VIET LETTER HIGH VO/3 LOW HO/3 HIGH HO/3 LOW O/3 HIGH O/2 MAI KANG/2 VOWEL AA/3 I/3 UE
  AAB4 TAI VIET VOWEL U/3 E/3 O/2 MAI KHIT/2 VOWEL IA/3 UEA/3 UA/3 AUE/3 AY/3 AN/3 AM/2 TONE MAI EK
  AAC0 TAI VIET TONE MAI NUENG/4 THO/4 SONG
  AADB TAI VIET SYMBOL KON/3 NUENG/3 SAM/3 HO HOI/3 KOI KOI/0 MEETEI MAYEK LETTER E/3 O/3 CHA/3 NYA
  AAE4 MEETEI MAYEK LETTER TTA/3 TTHA/3 DDA/3 DDHA/3 NNA/3 SHA/3 SSA/2 VOWEL SIGN II/4 UU/4 AAI/4 AU
  AAEF MEETEI MAYEK VOWEL SIGN AAU/2 CHEIKHAN/2 AHANG KHUDAM/2 ANJI/2 SYLLABLE REPETITION MARK
  AAF4 MEETEI MAYEK WORD REPETITION MARK/2 VOWEL SIGN VISARGA/2 VIRAMA
  AB01 ETHIOPIC SYLLABLE TTHU/2 TTHI/2 TTHAA/2 TTHEE/2 TTHE/2 TTHO
  AB09 ETHIOPIC SYLLABLE DDHU/2 DDHI/2 DDHAA/2 DDHEE/2 DDHE/2 DDHO
  AB11 ETHIOPIC SYLLABLE DZU/2 DZI/2 DZAA/2 DZEE/2 DZE/2 DZO
  AB20 ETHIOPIC SYLLABLE CCHHA/2 CCHHU/2 CCHHI/2 CCHHAA/2 CCHHEE/2 CCHHE/2 CCHHO
  AB28 ETHIOPIC SYLLABLE BBA/2 BBU/2 BBI/2 BBAA/2 BBEE/2 BBE/2 BBO
  AB30 LATIN SMALL LETTER BARRED ALPHA/3 A REVERSED-SCHWA/3 BLACKLETTER E/3 BARRED E
  AB34 LATIN SMALL LETTER E WITH FLOURISH/3 LENIS F/3 SCRIPT G WITH CROSSED-TAIL
  AB37 LATIN SMALL LETTER L WITH INVERTED LAZY S/5 DOUBLE MIDDLE TILDE/5 MIDDLE RING
  AB3A LATIN SMALL LETTER M WITH CROSSED-TAIL/3 N WITH CROSSED-TAIL/3 ENG WITH CROSSED-TAIL
  AB3D LATIN SMALL LETTER BLACKLETTER O/5 WITH STROKE/3 OPEN O WITH STROKE/3 INVERTED OE
  AB41 LATIN SMALL LETTER TURNED OE WITH STROKE/6 HORIZONTAL STROKE/4 O OPEN-O/6 WITH STROKE
  AB45 LATIN SMALL LETTER STIRRUP R/1 LETTER SMALL CAPITAL R WITH RIGHT LEG
  AB47 LATIN SMALL LETTER R WITHOUT HANDLE/3 DOUBLE R/3 R WITH CROSSED-TAIL
  AB4A LATIN SMALL LETTER DOUBLE R WITH CROSSED-TAIL/3 SCRIPT R/5 WITH RING/3 BASELINE ESH
  AB4E LATIN SMALL LETTER U WITH SHORT RIGHT LEG/4 BAR WITH SHORT RIGHT LEG/3 UI/3 TURNED UI
  AB52 LATIN SMALL LETTER U WITH LEFT HOOK/3 CHI/4 WITH LOW RIGHT RING/6 LEFT SERIF
  AB56 LATIN SMALL LETTER X WITH LOW RIGHT RING/5 LONG LEFT LEG/8 AND LOW RIGHT RING/8 WITH SERIF
  AB5A LATIN SMALL LETTER Y WITH SHORT RIGHT LEG/0 MODIFIER BREVE WITH INVERTED BREVE
  AB5C MODIFIER LETTER SMALL HENG/3 L WITH INVERTED LAZY S/5 MIDDLE TILDE/3 U WITH LEFT HOOK
  AB60 LATIN SMALL LETTER SAKHA YAT/3 IOTIFIED E/3 OPEN OE/3 UO/3 INVERTED ALPHA
  AB65 GREEK LETTER SMALL CAPITAL OMEGA/0 LATIN SMALL LETTER DZ DIGRAPH WITH RETROFLEX HOOK
  AB67 LATIN SMALL LETTER TS DIGRAPH WITH RETROFLEX HOOK/3 TURNED R WITH MIDDLE TILDE
  AB69 MODIFIER LETTER SMALL TURNED W/2 LEFT TACK/2 RIGHT TACK
  AB70 CHEROKEE SMALL LETTER A/3 E/3 I/3 O/3 U/3 V/3 GA/3 KA/3 GE/3 GI/3 GO/3 GU/3 GV/3 HA/3 HE/3 HI
  AB80 CHEROKEE SMALL LETTER HO/3 HU/3 HV/3 LA/3 LE/3 LI/3 LO/3 LU/3 LV/3 MA/3 ME/3 MI/3 MO/3 MU
  AB8E CHEROKEE SMALL LETTER NA/3 HNA/3 NAH/3 NE/3 NI/3 NO/3 NU/3 NV/3 QUA/3 QUE/3 QUI/3 QUO/3 QUU
  AB9B CHEROKEE SMALL LETTER QUV/3 SA/3 S/3 SE/3 SI/3 SO/3 SU/3 SV/3 DA/3 TA/3 DE/3 TE/3 DI/3 TI
  ABA9 CHEROKEE SMALL LETTER DO/3 DU/3 DV/3 DLA/3 TLA/3 TLE/3 TLI/3 TLO/3 TLU/3 TLV/3 TSA/3 TSE
  ABB5 CHEROKEE SMALL LETTER TSI/3 TSO/3 TSU/3 TSV/3 WA/3 WE/3 WI/3 WO/3 WU/3 WV/3 YA
  ABC0 MEETEI MAYEK LETTER KOK/3 SAM/3 LAI/3 MIT/3 PA/3 NA/3 CHIL/3 TIL/3 KHOU/3 NGOU/3 THOU/3 WAI
  ABCC MEETEI MAYEK LETTER YANG/3 HUK/3 UN/3 I/3 PHAM/3 ATIYA/3 GOK/3 JHAM/3 RAI/3 BA/3 JIL/3 DIL
  ABD8 MEETEI MAYEK LETTER GHOU/3 DHOU/3 BHAM/3 KOK LONSUM/3 LAI LONSUM/3 MIT LONSUM/3 PA LONSUM
  ABDF MEETEI MAYEK LETTER NA LONSUM/3 TIL LONSUM/3 NGOU LONSUM/3 I LONSUM/2 VOWEL SIGN ONAP/4 INAP
  ABE5 MEETEI MAYEK VOWEL SIGN ANAP/4 YENAP/4 SOUNAP/4 UNAP/4 CHEINAP/4 NUNG/2 CHEIKHEI/2 LUM IYEK
  ABED MEETEI MAYEK APUN IYEK
  ABF0 MEETEI MAYEK DIGIT ZERO/3 ONE/3 TWO/3 THREE/3 FOUR/3 FIVE/3 SIX/3 SEVEN/3 EIGHT/3 NINE
  D7B0 HANGUL JUNGSEONG O-YEO/2 O-O-I/2 YO-A/2 YO-AE/2 YO-EO/2 U-YEO/2 U-I-I/2 YU-AE/2 YU-O/2 EU-A
  D7BA HANGUL JUNGSEONG EU-EO/2 EU-E/2 EU-O/2 I-YA-O/2 I-YAE/2 I-YEO/2 I-YE/2 I-O-I/2 I-YO/2 I-YU
  D7C4 HANGUL JUNGSEONG I-I/2 ARAEA-A/2 ARAEA-E
  D7CB HANGUL JONGSEONG NIEUN-RIEUL/2 NIEUN-CHIEUCH/2 SSANGTIKEUT/2 SSANGTIKEUT-PIEUP/2 TIKEUT-PIEUP
  D7D0 HANGUL JONGSEONG TIKEUT-SIOS/2 TIKEUT-SIOS-KIYEOK/2 TIKEUT-CIEUC/2 TIKEUT-CHIEUCH
  D7D4 HANGUL JONGSEONG TIKEUT-THIEUTH/2 RIEUL-SSANGKIYEOK/2 RIEUL-KIYEOK-HIEUH/2 SSANGRIEUL-KHIEUKH
  D7D8 HANGUL JONGSEONG RIEUL-MIEUM-HIEUH/2 RIEUL-PIEUP-TIKEUT/2 RIEUL-PIEUP-PHIEUPH
  D7DB HANGUL JONGSEONG RIEUL-YESIEUNG/2 RIEUL-YEORINHIEUH-HIEUH/2 KAPYEOUNRIEUL/2 MIEUM-NIEUN
  D7DF HANGUL JONGSEONG MIEUM-SSANGNIEUN/2 SSANGMIEUM/2 MIEUM-PIEUP-SIOS/2 MIEUM-CIEUC
  D7E3 HANGUL JONGSEONG PIEUP-TIKEUT/2 PIEUP-RIEUL-PHIEUPH/2 PIEUP-MIEUM/2 SSANGPIEUP
  D7E7 HANGUL JONGSEONG PIEUP-SIOS-TIKEUT/2 PIEUP-CIEUC/2 PIEUP-CHIEUCH/2 SIOS-MIEUM
  D7EB HANGUL JONGSEONG SIOS-KAPYEOUNPIEUP/2 SSANGSIOS-KIYEOK/2 SSANGSIOS-TIKEUT/2 SIOS-PANSIOS
  D7EF HANGUL JONGSEONG SIOS-CIEUC/2 SIOS-CHIEUCH/2 SIOS-THIEUTH/2 SIOS-HIEUH/2 PANSIOS-PIEUP
  D7F4 HANGUL JONGSEONG PANSIOS-KAPYEOUNPIEUP/2 YESIEUNG-MIEUM/2 YESIEUNG-HIEUH/2 CIEUC-PIEUP
  D7F8 HANGUL JONGSEONG CIEUC-SSANGPIEUP/2 SSANGCIEUC/2 PHIEUPH-SIOS/2 PHIEUPH-THIEUTH
  FB00 LATIN SMALL LIGATURE FF/3 FI/3 FL/3 FFI/3 FFL/3 LONG S T/3 ST
  FB13 ARMENIAN SMALL LIGATURE MEN NOW/4 ECH/4 INI/3 VEW NOW/3 MEN XEH
  FB1D HEBREW LETTER YOD WITH HIRIQ/1 POINT JUDEO-SPANISH VARIKA/1 LIGATURE YIDDISH YOD YOD PATAH
  FB20 HEBREW LETTER ALTERNATIVE AYIN/2 WIDE ALEF/3 DALET/3 HE/3 KAF/3 LAMED/3 FINAL MEM/3 RESH
  FB28 HEBREW LETTER WIDE TAV/2 ALTERNATIVE PLUS SIGN/2 SHIN WITH SHIN DOT/4 SIN DOT
  FB2C HEBREW LETTER SHIN WITH DAGESH AND SHIN DOT/6 SIN DOT/2 ALEF WITH PATAH/4 QAMATS/4 MAPIQ
  FB31 HEBREW LETTER BET WITH DAGESH/2 GIMEL WITH DAGESH/2 DALET WITH DAGESH/2 HE WITH MAPIQ
  FB35 HEBREW LETTER VAV WITH DAGESH/2 ZAYIN WITH DAGESH
  FB38 HEBREW LETTER TET WITH DAGESH/2 YOD WITH DAGESH/2 FINAL KAF WITH DAGESH/2 KAF WITH DAGESH
  FB3C HEBREW LETTER LAMED WITH DAGESH
  FB3E HEBREW LETTER MEM WITH DAGESH
  FB40 HEBREW LETTER NUN WITH DAGESH/2 SAMEKH WITH DAGESH
  FB43 HEBREW LETTER FINAL PE WITH DAGESH/2 PE WITH DAGESH
  FB46 HEBREW LETTER TSADI WITH DAGESH/2 QOF WITH DAGESH/2 RESH WITH DAGESH/2 SHIN WITH DAGESH
  FB4A HEBREW LETTER TAV WITH DAGESH/2 VAV WITH HOLAM/2 BET WITH RAFE/2 KAF WITH RAFE/2 PE WITH RAFE
  FB4F HEBREW LIGATURE ALEF LAMED/0 ARABIC LETTER ALEF WASLA ISOLATED FORM/4 FINAL FORM
  FB52 ARABIC LETTER BEEH ISOLATED FORM/3 FINAL FORM/3 INITIAL FORM/3 MEDIAL FORM
  FB56 ARABIC LETTER PEH ISOLATED FORM/3 FINAL FORM/3 INITIAL FORM/3 MEDIAL FORM
  FB5A ARABIC LETTER BEHEH ISOLATED FORM/3 FINAL FORM/3 INITIAL FORM/3 MEDIAL FORM
  FB5E ARABIC LETTER TTEHEH ISOLATED FORM/3 FINAL FORM/3 INITIAL FORM/3 MEDIAL FORM
  FB62 ARABIC LETTER TEHEH ISOLATED FORM/3 FINAL FORM/3 INITIAL FORM/3 MEDIAL FORM
  FB66 ARABIC LETTER TTEH ISOLATED FORM/3 FINAL FORM/3 INITIAL FORM/3 MEDIAL FORM
  FB6A ARABIC LETTER VEH ISOLATED FORM/3 FINAL FORM/3 INITIAL FORM/3 MEDIAL FORM
  FB6E ARABIC LETTER PEHEH ISOLATED FORM/3 FINAL FORM/3 INITIAL FORM/3 MEDIAL FORM
  FB72 ARABIC LETTER DYEH ISOLATED FORM/3 FINAL FORM/3 INITIAL FORM/3 MEDIAL FORM
  FB76 ARABIC LETTER NYEH ISOLATED FORM/3 FINAL FORM/3 INITIAL FORM/3 MEDIAL FORM
  FB7A ARABIC LETTER TCHEH ISOLATED FORM/3 FINAL FORM/3 INITIAL FORM/3 MEDIAL FORM
  FB7E ARABIC LETTER TCHEHEH ISOLATED FORM/3 FINAL FORM/3 INITIAL FORM/3 MEDIAL FORM
  FB82 ARABIC LETTER DDAHAL ISOLATED FORM/3 FINAL FORM/2 DAHAL ISOLATED FORM/3 FINAL FORM
  FB86 ARABIC LETTER DUL ISOLATED FORM/3 FINAL FORM/2 DDAL ISOLATED FORM/3 FINAL FORM
  FB8A ARABIC LETTER JEH ISOLATED FORM/3 FINAL FORM/2 RREH ISOLATED FORM/3 FINAL FORM
  FB8E ARABIC LETTER KEHEH ISOLATED FORM/3 FINAL FORM/3 INITIAL FORM/3 MEDIAL FORM
  FB92 ARABIC LETTER GAF ISOLATED FORM/3 FINAL FORM/3 INITIAL FORM/3 MEDIAL FORM
  FB96 ARABIC LETTER GUEH ISOLATED FORM/3 FINAL FORM/3 INITIAL FORM/3 MEDIAL FORM
  FB9A ARABIC LETTER NGOEH ISOLATED FORM/3 FINAL FORM/3 INITIAL FORM/3 MEDIAL FORM
  FB9E ARABIC LETTER NOON GHUNNA ISOLATED FORM/4 FINAL FORM/2 RNOON ISOLATED FORM/3 FINAL FORM
  FBA2 ARABIC LETTER RNOON INITIAL FORM/3 MEDIAL FORM/2 HEH WITH YEH ABOVE ISOLATED FORM
  FBA5 ARABIC LETTER HEH WITH YEH ABOVE FINAL FORM/3 GOAL ISOLATED FORM/4 FINAL FORM/4 INITIAL FORM
  FBA9 ARABIC LETTER HEH GOAL MEDIAL FORM/3 DOACHASHMEE ISOLATED FORM/4 FINAL FORM/4 INITIAL FORM
  FBAD ARABIC LETTER HEH DOACHASHMEE MEDIAL FORM/2 YEH BARREE ISOLATED FORM/4 FINAL FORM
  FBB0 ARABIC LETTER YEH BARREE WITH HAMZA ABOVE ISOLATED FORM/7 FINAL FORM/1 SYMBOL DOT ABOVE
  FBB3 ARABIC SYMBOL DOT BELOW/2 TWO DOTS ABOVE/4 BELOW/2 THREE DOTS ABOVE/4 BELOW
  FBB8 ARABIC SYMBOL THREE DOTS POINTING DOWNWARDS ABOVE/6 BELOW/2 FOUR DOTS ABOVE/4 BELOW
  FBBC ARABIC SYMBOL DOUBLE VERTICAL BAR BELOW/2 TWO DOTS VERTICALLY ABOVE/5 BELOW/2 RING
  FBC0 ARABIC SYMBOL SMALL TAH ABOVE/4 BELOW/2 WASLA ABOVE
  FBD3 ARABIC LETTER NG ISOLATED FORM/3 FINAL FORM/3 INITIAL FORM/3 MEDIAL FORM/2 U ISOLATED FORM
  FBD8 ARABIC LETTER U FINAL FORM/2 OE ISOLATED FORM/3 FINAL FORM/2 YU ISOLATED FORM/3 FINAL FORM
  FBDD ARABIC LETTER U WITH HAMZA ABOVE ISOLATED FORM/2 VE ISOLATED FORM/3 FINAL FORM
  FBE0 ARABIC LETTER KIRGHIZ OE ISOLATED FORM/4 FINAL FORM/3 YU ISOLATED FORM/4 FINAL FORM
  FBE4 ARABIC LETTER E ISOLATED FORM/3 FINAL FORM/3 INITIAL FORM/3 MEDIAL FORM
  FBE8 ARABIC LETTER UIGHUR KAZAKH KIRGHIZ ALEF MAKSURA INITIAL FORM/7 MEDIAL FORM
  FBEA ARABIC LIGATURE YEH WITH HAMZA ABOVE WITH ALEF ISOLATED FORM/8 FINAL FORM/7 AE ISOLATED FORM
  FBED ARABIC LIGATURE YEH WITH HAMZA ABOVE WITH AE FINAL FORM/7 WAW ISOLATED FORM/8 FINAL FORM
  FBF0 ARABIC LIGATURE YEH WITH HAMZA ABOVE WITH U ISOLATED FORM/8 FINAL FORM/7 OE ISOLATED FORM
  FBF3 ARABIC LIGATURE YEH WITH HAMZA ABOVE WITH OE FINAL FORM/7 YU ISOLATED FORM/8 FINAL FORM
  FBF6 ARABIC LIGATURE YEH WITH HAMZA ABOVE WITH E ISOLATED FORM/8 FINAL FORM/8 INITIAL FORM
  FBF9 ARABIC LIGATURE UIGHUR KIRGHIZ YEH WITH HAMZA ABOVE WITH ALEF MAKSURA ISOLATED FORM
  FBFA ARABIC LIGATURE UIGHUR KIRGHIZ YEH WITH HAMZA ABOVE WITH ALEF MAKSURA FINAL FORM
  FBFB ARABIC LIGATURE UIGHUR KIRGHIZ YEH WITH HAMZA ABOVE WITH ALEF MAKSURA INITIAL FORM
  FBFC ARABIC LETTER FARSI YEH ISOLATED FORM/4 FINAL FORM/4 INITIAL FORM/4 MEDIAL FORM
  FC00 ARABIC LIGATURE YEH WITH HAMZA ABOVE WITH JEEM ISOLATED FORM/7 HAH ISOLATED FORM
  FC02 ARABIC LIGATURE YEH WITH HAMZA ABOVE WITH MEEM ISOLATED FORM/7 ALEF MAKSURA ISOLATED FORM
  FC04 ARABIC LIGATURE YEH WITH HAMZA ABOVE WITH YEH ISOLATED FORM/2 BEH WITH JEEM ISOLATED FORM
  FC06 ARABIC LIGATURE BEH WITH HAH ISOLATED FORM/4 KHAH ISOLATED FORM/4 MEEM ISOLATED FORM
  FC09 ARABIC LIGATURE BEH WITH ALEF MAKSURA ISOLATED FORM/4 YEH ISOLATED FORM
  FC0B ARABIC LIGATURE TEH WITH JEEM ISOLATED FORM/4 HAH ISOLATED FORM/4 KHAH ISOLATED FORM
  FC0E ARABIC LIGATURE TEH WITH MEEM ISOLATED FORM/4 ALEF MAKSURA ISOLATED FORM/4 YEH ISOLATED FORM
  FC11 ARABIC LIGATURE THEH WITH JEEM ISOLATED FORM/4 MEEM ISOLATED FORM
  FC13 ARABIC LIGATURE THEH WITH ALEF MAKSURA ISOLATED FORM/4 YEH ISOLATED FORM
  FC15 ARABIC LIGATURE JEEM WITH HAH ISOLATED FORM/4 MEEM ISOLATED FORM
  FC17 ARABIC LIGATURE HAH WITH JEEM ISOLATED FORM/4 MEEM ISOLATED FORM
  FC19 ARABIC LIGATURE KHAH WITH JEEM ISOLATED FORM/4 HAH ISOLATED FORM/4 MEEM ISOLATED FORM
  FC1C ARABIC LIGATURE SEEN WITH JEEM ISOLATED FORM/4 HAH ISOLATED FORM/4 KHAH ISOLATED FORM
  FC1F ARABIC LIGATURE SEEN WITH MEEM ISOLATED FORM/2 SAD WITH HAH ISOLATED FORM
  FC21 ARABIC LIGATURE SAD WITH MEEM ISOLATED FORM/2 DAD WITH JEEM ISOLATED FORM/4 HAH ISOLATED FORM
  FC24 ARABIC LIGATURE DAD WITH KHAH ISOLATED FORM/4 MEEM ISOLATED FORM/2 TAH WITH HAH ISOLATED FORM
  FC27 ARABIC LIGATURE TAH WITH MEEM ISOLATED FORM/2 ZAH WITH MEEM ISOLATED FORM
  FC29 ARABIC LIGATURE AIN WITH JEEM ISOLATED FORM/4 MEEM ISOLATED FORM
  FC2B ARABIC LIGATURE GHAIN WITH JEEM ISOLATED FORM/4 MEEM ISOLATED FORM
  FC2D ARABIC LIGATURE FEH WITH JEEM ISOLATED FORM/4 HAH ISOLATED FORM/4 KHAH ISOLATED FORM
  FC30 ARABIC LIGATURE FEH WITH MEEM ISOLATED FORM/4 ALEF MAKSURA ISOLATED FORM/4 YEH ISOLATED FORM
  FC33 ARABIC LIGATURE QAF WITH HAH ISOLATED FORM/4 MEEM ISOLATED FORM/4 ALEF MAKSURA ISOLATED FORM
  FC36 ARABIC LIGATURE QAF WITH YEH ISOLATED FORM/2 KAF WITH ALEF ISOLATED FORM/4 JEEM ISOLATED FORM
  FC39 ARABIC LIGATURE KAF WITH HAH ISOLATED FORM/4 KHAH ISOLATED FORM/4 LAM ISOLATED FORM
  FC3C ARABIC LIGATURE KAF WITH MEEM ISOLATED FORM/4 ALEF MAKSURA ISOLATED FORM/4 YEH ISOLATED FORM
  FC3F ARABIC LIGATURE LAM WITH JEEM ISOLATED FORM/4 HAH ISOLATED FORM/4 KHAH ISOLATED FORM
  FC42 ARABIC LIGATURE LAM WITH MEEM ISOLATED FORM/4 ALEF MAKSURA ISOLATED FORM/4 YEH ISOLATED FORM
  FC45 ARABIC LIGATURE MEEM WITH JEEM ISOLATED FORM/4 HAH ISOLATED FORM/4 KHAH ISOLATED FORM
  FC48 ARABIC LIGATURE MEEM WITH MEEM ISOLATED FORM/4 ALEF MAKSURA ISOLATED FORM/4 YEH ISOLATED FORM
  FC4B ARABIC LIGATURE NOON WITH JEEM ISOLATED FORM/4 HAH ISOLATED FORM/4 KHAH ISOLATED FORM
  FC4E ARABIC LIGATURE NOON WITH MEEM ISOLATED FORM/4 ALEF MAKSURA ISOLATED FORM/4 YEH ISOLATED FORM
  FC51 ARABIC LIGATURE HEH WITH JEEM ISOLATED FORM/4 MEEM ISOLATED FORM/4 ALEF MAKSURA ISOLATED FORM
  FC54 ARABIC LIGATURE HEH WITH YEH ISOLATED FORM/2 YEH WITH JEEM ISOLATED FORM/4 HAH ISOLATED FORM
  FC57 ARABIC LIGATURE YEH WITH KHAH ISOLATED FORM/4 MEEM ISOLATED FORM/4 ALEF MAKSURA ISOLATED FORM
  FC5A ARABIC LIGATURE YEH WITH YEH ISOLATED FORM/2 THAL WITH SUPERSCRIPT ALEF ISOLATED FORM
  FC5C ARABIC LIGATURE REH WITH SUPERSCRIPT ALEF ISOLATED FORM
  FC5D ARABIC LIGATURE ALEF MAKSURA WITH SUPERSCRIPT ALEF ISOLATED FORM
  FC5E ARABIC LIGATURE SHADDA WITH DAMMATAN ISOLATED FORM/4 KASRATAN ISOLATED FORM
  FC60 ARABIC LIGATURE SHADDA WITH FATHA ISOLATED FORM/4 DAMMA ISOLATED FORM/4 KASRA ISOLATED FORM
  FC63 ARABIC LIGATURE SHADDA WITH SUPERSCRIPT ALEF ISOLATED FORM
  FC64 ARABIC LIGATURE YEH WITH HAMZA ABOVE WITH REH FINAL FORM/7 ZAIN FINAL FORM/7 MEEM FINAL FORM
  FC67 ARABIC LIGATURE YEH WITH HAMZA ABOVE WITH NOON FINAL FORM/7 ALEF MAKSURA FINAL FORM
  FC69 ARABIC LIGATURE YEH WITH HAMZA ABOVE WITH YEH FINAL FORM/2 BEH WITH REH FINAL FORM
  FC6B ARABIC LIGATURE BEH WITH ZAIN FINAL FORM/4 MEEM FINAL FORM/4 NOON FINAL FORM
  FC6E ARABIC LIGATURE BEH WITH ALEF MAKSURA FINAL FORM/4 YEH FINAL FORM/2 TEH WITH REH FINAL FORM
  FC71 ARABIC LIGATURE TEH WITH ZAIN FINAL FORM/4 MEEM FINAL FORM/4 NOON FINAL FORM
  FC74 ARABIC LIGATURE TEH WITH ALEF MAKSURA FINAL FORM/4 YEH FINAL FORM/2 THEH WITH REH FINAL FORM
  FC77 ARABIC LIGATURE THEH WITH ZAIN FINAL FORM/4 MEEM FINAL FORM/4 NOON FINAL FORM
  FC7A ARABIC LIGATURE THEH WITH ALEF MAKSURA FINAL FORM/4 YEH FINAL FORM
  FC7C ARABIC LIGATURE FEH WITH ALEF MAKSURA FINAL FORM/4 YEH FINAL FORM
  FC7E ARABIC LIGATURE QAF WITH ALEF MAKSURA FINAL FORM/4 YEH FINAL FORM/2 KAF WITH ALEF FINAL FORM
  FC81 ARABIC LIGATURE KAF WITH LAM FINAL FORM/4 MEEM FINAL FORM/4 ALEF MAKSURA FINAL FORM
  FC84 ARABIC LIGATURE KAF WITH YEH FINAL FORM/2 LAM WITH MEEM FINAL FORM/4 ALEF MAKSURA FINAL FORM
  FC87 ARABIC LIGATURE LAM WITH YEH FINAL FORM/2 MEEM WITH ALEF FINAL FORM/4 MEEM FINAL FORM
  FC8A ARABIC LIGATURE NOON WITH REH FINAL FORM/4 ZAIN FINAL FORM/4 MEEM FINAL FORM
  FC8D ARABIC LIGATURE NOON WITH NOON FINAL FORM/4 ALEF MAKSURA FINAL FORM/4 YEH FINAL FORM
  FC90 ARABIC LIGATURE ALEF MAKSURA WITH SUPERSCRIPT ALEF FINAL FORM/2 YEH WITH REH FINAL FORM
  FC92 ARABIC LIGATURE YEH WITH ZAIN FINAL FORM/4 MEEM FINAL FORM/4 NOON FINAL FORM
  FC95 ARABIC LIGATURE YEH WITH ALEF MAKSURA FINAL FORM/4 YEH FINAL FORM
  FC97 ARABIC LIGATURE YEH WITH HAMZA ABOVE WITH JEEM INITIAL FORM/7 HAH INITIAL FORM
  FC99 ARABIC LIGATURE YEH WITH HAMZA ABOVE WITH KHAH INITIAL FORM/7 MEEM INITIAL FORM
  FC9B ARABIC LIGATURE YEH WITH HAMZA ABOVE WITH HEH INITIAL FORM/2 BEH WITH JEEM INITIAL FORM
  FC9D ARABIC LIGATURE BEH WITH HAH INITIAL FORM/4 KHAH INITIAL FORM/4 MEEM INITIAL FORM
  FCA0 ARABIC LIGATURE BEH WITH HEH INITIAL FORM/2 TEH WITH JEEM INITIAL FORM/4 HAH INITIAL FORM
  FCA3 ARABIC LIGATURE TEH WITH KHAH INITIAL FORM/4 MEEM INITIAL FORM/4 HEH INITIAL FORM
  FCA6 ARABIC LIGATURE THEH WITH MEEM INITIAL FORM/2 JEEM WITH HAH INITIAL FORM/4 MEEM INITIAL FORM
  FCA9 ARABIC LIGATURE HAH WITH JEEM INITIAL FORM/4 MEEM INITIAL FORM/2 KHAH WITH JEEM INITIAL FORM
  FCAC ARABIC LIGATURE KHAH WITH MEEM INITIAL FORM/2 SEEN WITH JEEM INITIAL FORM/4 HAH INITIAL FORM
  FCAF ARABIC LIGATURE SEEN WITH KHAH INITIAL FORM/4 MEEM INITIAL FORM/2 SAD WITH HAH INITIAL FORM
  FCB2 ARABIC LIGATURE SAD WITH KHAH INITIAL FORM/4 MEEM INITIAL FORM/2 DAD WITH JEEM INITIAL FORM
  FCB5 ARABIC LIGATURE DAD WITH HAH INITIAL FORM/4 KHAH INITIAL FORM/4 MEEM INITIAL FORM
  FCB8 ARABIC LIGATURE TAH WITH HAH INITIAL FORM/2 ZAH WITH MEEM INITIAL FORM
  FCBA ARABIC LIGATURE AIN WITH JEEM INITIAL FORM/4 MEEM INITIAL FORM/2 GHAIN WITH JEEM INITIAL FORM
  FCBD ARABIC LIGATURE GHAIN WITH MEEM INITIAL FORM/2 FEH WITH JEEM INITIAL FORM/4 HAH INITIAL FORM
  FCC0 ARABIC LIGATURE FEH WITH KHAH INITIAL FORM/4 MEEM INITIAL FORM/2 QAF WITH HAH INITIAL FORM
  FCC3 ARABIC LIGATURE QAF WITH MEEM INITIAL FORM/2 KAF WITH JEEM INITIAL FORM/4 HAH INITIAL FORM
  FCC6 ARABIC LIGATURE KAF WITH KHAH INITIAL FORM/4 LAM INITIAL FORM/4 MEEM INITIAL FORM
  FCC9 ARABIC LIGATURE LAM WITH JEEM INITIAL FORM/4 HAH INITIAL FORM/4 KHAH INITIAL FORM
  FCCC ARABIC LIGATURE LAM WITH MEEM INITIAL FORM/4 HEH INITIAL FORM/2 MEEM WITH JEEM INITIAL FORM
  FCCF ARABIC LIGATURE MEEM WITH HAH INITIAL FORM/4 KHAH INITIAL FORM/4 MEEM INITIAL FORM
  FCD2 ARABIC LIGATURE NOON WITH JEEM INITIAL FORM/4 HAH INITIAL FORM/4 KHAH INITIAL FORM
  FCD5 ARABIC LIGATURE NOON WITH MEEM INITIAL FORM/4 HEH INITIAL FORM/2 HEH WITH JEEM INITIAL FORM
  FCD8 ARABIC LIGATURE HEH WITH MEEM INITIAL FORM/4 SUPERSCRIPT ALEF INITIAL FORM
  FCDA ARABIC LIGATURE YEH WITH JEEM INITIAL FORM/4 HAH INITIAL FORM/4 KHAH INITIAL FORM
  FCDD ARABIC LIGATURE YEH WITH MEEM INITIAL FORM/4 HEH INITIAL FORM
  FCDF ARABIC LIGATURE YEH WITH HAMZA ABOVE WITH MEEM MEDIAL FORM/7 HEH MEDIAL FORM
  FCE1 ARABIC LIGATURE BEH WITH MEEM MEDIAL FORM/4 HEH MEDIAL FORM/2 TEH WITH MEEM MEDIAL FORM
  FCE4 ARABIC LIGATURE TEH WITH HEH MEDIAL FORM/2 THEH WITH MEEM MEDIAL FORM/4 HEH MEDIAL FORM
  FCE7 ARABIC LIGATURE SEEN WITH MEEM MEDIAL FORM/4 HEH MEDIAL FORM/2 SHEEN WITH MEEM MEDIAL FORM
  FCEA ARABIC LIGATURE SHEEN WITH HEH MEDIAL FORM/2 KAF WITH LAM MEDIAL FORM/4 MEEM MEDIAL FORM
  FCED ARABIC LIGATURE LAM WITH MEEM MEDIAL FORM/2 NOON WITH MEEM MEDIAL FORM/4 HEH MEDIAL FORM
  FCF0 ARABIC LIGATURE YEH WITH MEEM MEDIAL FORM/4 HEH MEDIAL FORM/2 SHADDA WITH FATHA MEDIAL FORM
  FCF3 ARABIC LIGATURE SHADDA WITH DAMMA MEDIAL FORM/4 KASRA MEDIAL FORM
  FCF5 ARABIC LIGATURE TAH WITH ALEF MAKSURA ISOLATED FORM/4 YEH ISOLATED FORM
  FCF7 ARABIC LIGATURE AIN WITH ALEF MAKSURA ISOLATED FORM/4 YEH ISOLATED FORM
  FCF9 ARABIC LIGATURE GHAIN WITH ALEF MAKSURA ISOLATED FORM/4 YEH ISOLATED FORM
  FCFB ARABIC LIGATURE SEEN WITH ALEF MAKSURA ISOLATED FORM/4 YEH ISOLATED FORM
  FCFD ARABIC LIGATURE SHEEN WITH ALEF MAKSURA ISOLATED FORM/4 YEH ISOLATED FORM
  FCFF ARABIC LIGATURE HAH WITH ALEF MAKSURA ISOLATED FORM/4 YEH ISOLATED FORM
  FD01 ARABIC LIGATURE JEEM WITH ALEF MAKSURA ISOLATED FORM/4 YEH ISOLATED FORM
  FD03 ARABIC LIGATURE KHAH WITH ALEF MAKSURA ISOLATED FORM/4 YEH ISOLATED FORM
  FD05 ARABIC LIGATURE SAD WITH ALEF MAKSURA ISOLATED FORM/4 YEH ISOLATED FORM
  FD07 ARABIC LIGATURE DAD WITH ALEF MAKSURA ISOLATED FORM/4 YEH ISOLATED FORM
  FD09 ARABIC LIGATURE SHEEN WITH JEEM ISOLATED FORM/4 HAH ISOLATED FORM/4 KHAH ISOLATED FORM
  FD0C ARABIC LIGATURE SHEEN WITH MEEM ISOLATED FORM/4 REH ISOLATED FORM
  FD0E ARABIC LIGATURE SEEN WITH REH ISOLATED FORM/2 SAD WITH REH ISOLATED FORM
  FD10 ARABIC LIGATURE DAD WITH REH ISOLATED FORM/2 TAH WITH ALEF MAKSURA FINAL FORM
  FD12 ARABIC LIGATURE TAH WITH YEH FINAL FORM/2 AIN WITH ALEF MAKSURA FINAL FORM/4 YEH FINAL FORM
  FD15 ARABIC LIGATURE GHAIN WITH ALEF MAKSURA FINAL FORM/4 YEH FINAL FORM
  FD17 ARABIC LIGATURE SEEN WITH ALEF MAKSURA FINAL FORM/4 YEH FINAL FORM
  FD19 ARABIC LIGATURE SHEEN WITH ALEF MAKSURA FINAL FORM/4 YEH FINAL FORM
  FD1B ARABIC LIGATURE HAH WITH ALEF MAKSURA FINAL FORM/4 YEH FINAL FORM
  FD1D ARABIC LIGATURE JEEM WITH ALEF MAKSURA FINAL FORM/4 YEH FINAL FORM
  FD1F ARABIC LIGATURE KHAH WITH ALEF MAKSURA FINAL FORM/4 YEH FINAL FORM
  FD21 ARABIC LIGATURE SAD WITH ALEF MAKSURA FINAL FORM/4 YEH FINAL FORM
  FD23 ARABIC LIGATURE DAD WITH ALEF MAKSURA FINAL FORM/4 YEH FINAL FORM
  FD25 ARABIC LIGATURE SHEEN WITH JEEM FINAL FORM/4 HAH FINAL FORM/4 KHAH FINAL FORM
  FD28 ARABIC LIGATURE SHEEN WITH MEEM FINAL FORM/4 REH FINAL FORM/2 SEEN WITH REH FINAL FORM
  FD2B ARABIC LIGATURE SAD WITH REH FINAL FORM/2 DAD WITH REH FINAL FORM
  FD2D ARABIC LIGATURE SHEEN WITH JEEM INITIAL FORM/4 HAH INITIAL FORM/4 KHAH INITIAL FORM
  FD30 ARABIC LIGATURE SHEEN WITH MEEM INITIAL FORM/2 SEEN WITH HEH INITIAL FORM
  FD32 ARABIC LIGATURE SHEEN WITH HEH INITIAL FORM/2 TAH WITH MEEM INITIAL FORM
  FD34 ARABIC LIGATURE SEEN WITH JEEM MEDIAL FORM/4 HAH MEDIAL FORM/4 KHAH MEDIAL FORM
  FD37 ARABIC LIGATURE SHEEN WITH JEEM MEDIAL FORM/4 HAH MEDIAL FORM/4 KHAH MEDIAL FORM
  FD3A ARABIC LIGATURE TAH WITH MEEM MEDIAL FORM/2 ZAH WITH MEEM MEDIAL FORM
  FD3C ARABIC LIGATURE ALEF WITH FATHATAN FINAL FORM/5 ISOLATED FORM/0 ORNATE LEFT PARENTHESIS
  FD3F ORNATE RIGHT PARENTHESIS/0 ARABIC LIGATURE RAHIMAHU ALLAAH/2 RADI ALLAAHU ANH/4 ANHAA/4 ANHUM
  FD44 ARABIC LIGATURE RADI ALLAAHU ANHUMAA/4 ANHUNNA/2 SALLALLAAHU ALAYHI WA-AALIH
  FD47 ARABIC LIGATURE ALAYHI AS-SALAAM/2 ALAYHIM AS-SALAAM/2 ALAYHIMAA AS-SALAAM
  FD4A ARABIC LIGATURE ALAYHI AS-SALAATU WAS-SALAAM/2 QUDDISA SIRRAH
  FD4C ARABIC LIGATURE SALLALLAHU ALAYHI WAAALIHEE WA-SALLAM/2 ALAYHAA AS-SALAAM
  FD4E ARABIC LIGATURE TABAARAKA WA-TAAALAA/2 RAHIMAHUM ALLAAH
  FD50 ARABIC LIGATURE TEH WITH JEEM WITH MEEM INITIAL FORM/4 HAH WITH JEEM FINAL FORM
  FD52 ARABIC LIGATURE TEH WITH HAH WITH JEEM INITIAL FORM/6 MEEM INITIAL FORM
  FD54 ARABIC LIGATURE TEH WITH KHAH WITH MEEM INITIAL FORM/4 MEEM WITH JEEM INITIAL FORM
  FD56 ARABIC LIGATURE TEH WITH MEEM WITH HAH INITIAL FORM/6 KHAH INITIAL FORM
  FD58 ARABIC LIGATURE JEEM WITH MEEM WITH HAH FINAL FORM/7 INITIAL FORM
  FD5A ARABIC LIGATURE HAH WITH MEEM WITH YEH FINAL FORM/6 ALEF MAKSURA FINAL FORM
  FD5C ARABIC LIGATURE SEEN WITH HAH WITH JEEM INITIAL FORM/4 JEEM WITH HAH INITIAL FORM
  FD5E ARABIC LIGATURE SEEN WITH JEEM WITH ALEF MAKSURA FINAL FORM/4 MEEM WITH HAH FINAL FORM
  FD60 ARABIC LIGATURE SEEN WITH MEEM WITH HAH INITIAL FORM/6 JEEM INITIAL FORM/6 MEEM FINAL FORM
  FD63 ARABIC LIGATURE SEEN WITH MEEM WITH MEEM INITIAL FORM/2 SAD WITH HAH WITH HAH FINAL FORM
  FD65 ARABIC LIGATURE SAD WITH HAH WITH HAH INITIAL FORM/4 MEEM WITH MEEM FINAL FORM
  FD67 ARABIC LIGATURE SHEEN WITH HAH WITH MEEM FINAL FORM/7 INITIAL FORM/4 JEEM WITH YEH FINAL FORM
  FD6A ARABIC LIGATURE SHEEN WITH MEEM WITH KHAH FINAL FORM/7 INITIAL FORM/6 MEEM FINAL FORM
  FD6D ARABIC LIGATURE SHEEN WITH MEEM WITH MEEM INITIAL FORM
  FD6E ARABIC LIGATURE DAD WITH HAH WITH ALEF MAKSURA FINAL FORM/4 KHAH WITH MEEM FINAL FORM
  FD70 ARABIC LIGATURE DAD WITH KHAH WITH MEEM INITIAL FORM/2 TAH WITH MEEM WITH HAH FINAL FORM
  FD72 ARABIC LIGATURE TAH WITH MEEM WITH HAH INITIAL FORM/6 MEEM INITIAL FORM/6 YEH FINAL FORM
  FD75 ARABIC LIGATURE AIN WITH JEEM WITH MEEM FINAL FORM/4 MEEM WITH MEEM FINAL FORM/7 INITIAL FORM
  FD78 ARABIC LIGATURE AIN WITH MEEM WITH ALEF MAKSURA FINAL FORM
  FD79 ARABIC LIGATURE GHAIN WITH MEEM WITH MEEM FINAL FORM/6 YEH FINAL FORM
  FD7B ARABIC LIGATURE GHAIN WITH MEEM WITH ALEF MAKSURA FINAL FORM
  FD7C ARABIC LIGATURE FEH WITH KHAH WITH MEEM FINAL FORM/7 INITIAL FORM
  FD7E ARABIC LIGATURE QAF WITH MEEM WITH HAH FINAL FORM/6 MEEM FINAL FORM
  FD80 ARABIC LIGATURE LAM WITH HAH WITH MEEM FINAL FORM/6 YEH FINAL FORM/6 ALEF MAKSURA FINAL FORM
  FD83 ARABIC LIGATURE LAM WITH JEEM WITH JEEM INITIAL FORM/7 FINAL FORM/4 KHAH WITH MEEM FINAL FORM
  FD86 ARABIC LIGATURE LAM WITH KHAH WITH MEEM INITIAL FORM/4 MEEM WITH HAH FINAL FORM
  FD88 ARABIC LIGATURE LAM WITH MEEM WITH HAH INITIAL FORM/2 MEEM WITH HAH WITH JEEM INITIAL FORM
  FD8A ARABIC LIGATURE MEEM WITH HAH WITH MEEM INITIAL FORM/6 YEH FINAL FORM
  FD8C ARABIC LIGATURE MEEM WITH JEEM WITH HAH INITIAL FORM/6 MEEM INITIAL FORM
  FD8E ARABIC LIGATURE MEEM WITH KHAH WITH JEEM INITIAL FORM/6 MEEM INITIAL FORM
  FD92 ARABIC LIGATURE MEEM WITH JEEM WITH KHAH INITIAL FORM/2 HEH WITH MEEM WITH JEEM INITIAL FORM
  FD94 ARABIC LIGATURE HEH WITH MEEM WITH MEEM INITIAL FORM/2 NOON WITH HAH WITH MEEM INITIAL FORM
  FD96 ARABIC LIGATURE NOON WITH HAH WITH ALEF MAKSURA FINAL FORM/4 JEEM WITH MEEM FINAL FORM
  FD98 ARABIC LIGATURE NOON WITH JEEM WITH MEEM INITIAL FORM/6 ALEF MAKSURA FINAL FORM
  FD9A ARABIC LIGATURE NOON WITH MEEM WITH YEH FINAL FORM/6 ALEF MAKSURA FINAL FORM
  FD9C ARABIC LIGATURE YEH WITH MEEM WITH MEEM FINAL FORM/7 INITIAL FORM
  FD9E ARABIC LIGATURE BEH WITH KHAH WITH YEH FINAL FORM/2 TEH WITH JEEM WITH YEH FINAL FORM
  FDA0 ARABIC LIGATURE TEH WITH JEEM WITH ALEF MAKSURA FINAL FORM/4 KHAH WITH YEH FINAL FORM
  FDA2 ARABIC LIGATURE TEH WITH KHAH WITH ALEF MAKSURA FINAL FORM/4 MEEM WITH YEH FINAL FORM
  FDA4 ARABIC LIGATURE TEH WITH MEEM WITH ALEF MAKSURA FINAL FORM
  FDA5 ARABIC LIGATURE JEEM WITH MEEM WITH YEH FINAL FORM/4 HAH WITH ALEF MAKSURA FINAL FORM
  FDA7 ARABIC LIGATURE JEEM WITH MEEM WITH ALEF MAKSURA FINAL FORM
  FDA8 ARABIC LIGATURE SEEN WITH KHAH WITH ALEF MAKSURA FINAL FORM
  FDA9 ARABIC LIGATURE SAD WITH HAH WITH YEH FINAL FORM/2 SHEEN WITH HAH WITH YEH FINAL FORM
  FDAB ARABIC LIGATURE DAD WITH HAH WITH YEH FINAL FORM/2 LAM WITH JEEM WITH YEH FINAL FORM
  FDAD ARABIC LIGATURE LAM WITH MEEM WITH YEH FINAL FORM/2 YEH WITH HAH WITH YEH FINAL FORM
  FDAF ARABIC LIGATURE YEH WITH JEEM WITH YEH FINAL FORM/4 MEEM WITH YEH FINAL FORM
  FDB1 ARABIC LIGATURE MEEM WITH MEEM WITH YEH FINAL FORM/2 QAF WITH MEEM WITH YEH FINAL FORM
  FDB3 ARABIC LIGATURE NOON WITH HAH WITH YEH FINAL FORM/2 QAF WITH MEEM WITH HAH INITIAL FORM
  FDB5 ARABIC LIGATURE LAM WITH HAH WITH MEEM INITIAL FORM/2 AIN WITH MEEM WITH YEH FINAL FORM
  FDB7 ARABIC LIGATURE KAF WITH MEEM WITH YEH FINAL FORM/2 NOON WITH JEEM WITH HAH INITIAL FORM
  FDB9 ARABIC LIGATURE MEEM WITH KHAH WITH YEH FINAL FORM/2 LAM WITH JEEM WITH MEEM INITIAL FORM
  FDBB ARABIC LIGATURE KAF WITH MEEM WITH MEEM FINAL FORM/2 LAM WITH JEEM WITH MEEM FINAL FORM
  FDBD ARABIC LIGATURE NOON WITH JEEM WITH HAH FINAL FORM/2 JEEM WITH HAH WITH YEH FINAL FORM
  FDBF ARABIC LIGATURE HAH WITH JEEM WITH YEH FINAL FORM/2 MEEM WITH JEEM WITH YEH FINAL FORM
  FDC1 ARABIC LIGATURE FEH WITH MEEM WITH YEH FINAL FORM/2 BEH WITH HAH WITH YEH FINAL FORM
  FDC3 ARABIC LIGATURE KAF WITH MEEM WITH MEEM INITIAL FORM/2 AIN WITH JEEM WITH MEEM INITIAL FORM
  FDC5 ARABIC LIGATURE SAD WITH MEEM WITH MEEM INITIAL FORM/2 SEEN WITH KHAH WITH YEH FINAL FORM
  FDC7 ARABIC LIGATURE NOON WITH JEEM WITH YEH FINAL FORM
  FDCF ARABIC LIGATURE SALAAMUHU ALAYNAA
  FDF0 ARABIC LIGATURE SALLA USED AS KORANIC STOP SIGN ISOLATED FORM
  FDF1 ARABIC LIGATURE QALA USED AS KORANIC STOP SIGN ISOLATED FORM/2 ALLAH ISOLATED FORM
  FDF3 ARABIC LIGATURE AKBAR ISOLATED FORM/2 MOHAMMAD ISOLATED FORM/2 SALAM ISOLATED FORM
  FDF6 ARABIC LIGATURE RASOUL ISOLATED FORM/2 ALAYHE ISOLATED FORM/2 WASALLAM ISOLATED FORM
  FDF9 ARABIC LIGATURE SALLA ISOLATED FORM/2 SALLALLAHOU ALAYHE WASALLAM/2 JALLAJALALOUHOU
  FDFC RIAL SIGN/0 ARABIC LIGATURE BISMILLAH AR-RAHMAN AR-RAHEEM/2 SUBHAANAHU WA TAAALAA
  FDFF ARABIC LIGATURE AZZA WA JALL/0 VARIATION SELECTOR-1/1 SELECTOR-2/1 SELECTOR-3/1 SELECTOR-4
  FE04 VARIATION SELECTOR-5/1 SELECTOR-6/1 SELECTOR-7/1 SELECTOR-8/1 SELECTOR-9/1 SELECTOR-10
  FE0A VARIATION SELECTOR-11/1 SELECTOR-12/1 SELECTOR-13/1 SELECTOR-14/1 SELECTOR-15/1 SELECTOR-16
  FE10 PRESENTATION FORM FOR VERTICAL COMMA/4 IDEOGRAPHIC COMMA/5 FULL STOP/4 COLON/4 SEMICOLON
  FE15 PRESENTATION FORM FOR VERTICAL EXCLAMATION MARK/4 QUESTION MARK
  FE17 PRESENTATION FORM FOR VERTICAL LEFT WHITE LENTICULAR BRACKET/4 RIGHT WHITE LENTICULAR BRAKCET
  FE19 PRESENTATION FORM FOR VERTICAL HORIZONTAL ELLIPSIS
  FE20 COMBINING LIGATURE LEFT HALF/2 RIGHT HALF/1 DOUBLE TILDE LEFT HALF/3 RIGHT HALF
  FE24 COMBINING MACRON LEFT HALF/2 RIGHT HALF/1 CONJOINING MACRON/1 LIGATURE LEFT HALF BELOW
  FE28 COMBINING LIGATURE RIGHT HALF BELOW/1 TILDE LEFT HALF BELOW/2 RIGHT HALF BELOW
  FE2B COMBINING MACRON LEFT HALF BELOW/2 RIGHT HALF BELOW/1 CONJOINING MACRON BELOW
  FE2E COMBINING CYRILLIC TITLO LEFT HALF/3 RIGHT HALF
  FE30 PRESENTATION FORM FOR VERTICAL TWO DOT LEADER/4 EM DASH/4 EN DASH/4 LOW LINE/4 WAVY LOW LINE
  FE35 PRESENTATION FORM FOR VERTICAL LEFT PARENTHESIS/4 RIGHT PARENTHESIS/4 LEFT CURLY BRACKET
  FE38 PRESENTATION FORM FOR VERTICAL RIGHT CURLY BRACKET/4 LEFT TORTOISE SHELL BRACKET
  FE3A PRESENTATION FORM FOR VERTICAL RIGHT TORTOISE SHELL BRACKET/4 LEFT BLACK LENTICULAR BRACKET
  FE3C PRESENTATION FORM FOR VERTICAL RIGHT BLACK LENTICULAR BRACKET/4 LEFT DOUBLE ANGLE BRACKET
  FE3E PRESENTATION FORM FOR VERTICAL RIGHT DOUBLE ANGLE BRACKET/4 LEFT ANGLE BRACKET
  FE40 PRESENTATION FORM FOR VERTICAL RIGHT ANGLE BRACKET/4 LEFT CORNER BRACKET
  FE42 PRESENTATION FORM FOR VERTICAL RIGHT CORNER BRACKET/4 LEFT WHITE CORNER BRACKET
  FE44 PRESENTATION FORM FOR VERTICAL RIGHT WHITE CORNER BRACKET/0 SESAME DOT/0 WHITE SESAME DOT
  FE47 PRESENTATION FORM FOR VERTICAL LEFT SQUARE BRACKET/4 RIGHT SQUARE BRACKET/0 DASHED OVERLINE
  FE4A CENTRELINE OVERLINE/0 WAVY OVERLINE/0 DOUBLE WAVY OVERLINE/0 DASHED LOW LINE
  FE4E CENTRELINE LOW LINE/0 WAVY LOW LINE/0 SMALL COMMA/1 IDEOGRAPHIC COMMA/1 FULL STOP
  FE54 SMALL SEMICOLON/1 COLON/1 QUESTION MARK/1 EXCLAMATION MARK/1 EM DASH/1 LEFT PARENTHESIS
  FE5A SMALL RIGHT PARENTHESIS/1 LEFT CURLY BRACKET/1 RIGHT CURLY BRACKET
  FE5D SMALL LEFT TORTOISE SHELL BRACKET/1 RIGHT TORTOISE SHELL BRACKET/1 NUMBER SIGN/1 AMPERSAND
  FE61 SMALL ASTERISK/1 PLUS SIGN/1 HYPHEN-MINUS/1 LESS-THAN SIGN/1 GREATER-THAN SIGN/1 EQUALS SIGN
  FE68 SMALL REVERSE SOLIDUS/1 DOLLAR SIGN/1 PERCENT SIGN/1 COMMERCIAL AT
  FE70 ARABIC FATHATAN ISOLATED FORM/1 TATWEEL WITH FATHATAN ABOVE/1 DAMMATAN ISOLATED FORM
  FE73 ARABIC TAIL FRAGMENT/1 KASRATAN ISOLATED FORM
  FE76 ARABIC FATHA ISOLATED FORM/2 MEDIAL FORM/1 DAMMA ISOLATED FORM/2 MEDIAL FORM
  FE7A ARABIC KASRA ISOLATED FORM/2 MEDIAL FORM/1 SHADDA ISOLATED FORM/2 MEDIAL FORM
  FE7E ARABIC SUKUN ISOLATED FORM/2 MEDIAL FORM/1 LETTER HAMZA ISOLATED FORM
  FE81 ARABIC LETTER ALEF WITH MADDA ABOVE ISOLATED FORM/6 FINAL FORM/4 HAMZA ABOVE ISOLATED FORM
  FE84 ARABIC LETTER ALEF WITH HAMZA ABOVE FINAL FORM/2 WAW WITH HAMZA ABOVE ISOLATED FORM
  FE86 ARABIC LETTER WAW WITH HAMZA ABOVE FINAL FORM/2 ALEF WITH HAMZA BELOW ISOLATED FORM
  FE88 ARABIC LETTER ALEF WITH HAMZA BELOW FINAL FORM/2 YEH WITH HAMZA ABOVE ISOLATED FORM
  FE8A ARABIC LETTER YEH WITH HAMZA ABOVE FINAL FORM/6 INITIAL FORM/6 MEDIAL FORM
  FE8D ARABIC LETTER ALEF ISOLATED FORM/3 FINAL FORM/2 BEH ISOLATED FORM/3 FINAL FORM/3 INITIAL FORM
  FE92 ARABIC LETTER BEH MEDIAL FORM/2 TEH MARBUTA ISOLATED FORM/4 FINAL FORM/3 ISOLATED FORM
  FE96 ARABIC LETTER TEH FINAL FORM/3 INITIAL FORM/3 MEDIAL FORM/2 THEH ISOLATED FORM/3 FINAL FORM
  FE9B ARABIC LETTER THEH INITIAL FORM/3 MEDIAL FORM/2 JEEM ISOLATED FORM/3 FINAL FORM
  FE9F ARABIC LETTER JEEM INITIAL FORM/3 MEDIAL FORM/2 HAH ISOLATED FORM/3 FINAL FORM/3 INITIAL FORM
  FEA4 ARABIC LETTER HAH MEDIAL FORM/2 KHAH ISOLATED FORM/3 FINAL FORM/3 INITIAL FORM/3 MEDIAL FORM
  FEA9 ARABIC LETTER DAL ISOLATED FORM/3 FINAL FORM/2 THAL ISOLATED FORM/3 FINAL FORM
  FEAD ARABIC LETTER REH ISOLATED FORM/3 FINAL FORM/2 ZAIN ISOLATED FORM/3 FINAL FORM
  FEB1 ARABIC LETTER SEEN ISOLATED FORM/3 FINAL FORM/3 INITIAL FORM/3 MEDIAL FORM
  FEB5 ARABIC LETTER SHEEN ISOLATED FORM/3 FINAL FORM/3 INITIAL FORM/3 MEDIAL FORM
  FEB9 ARABIC LETTER SAD ISOLATED FORM/3 FINAL FORM/3 INITIAL FORM/3 MEDIAL FORM/2 DAD ISOLATED FORM
  FEBE ARABIC LETTER DAD FINAL FORM/3 INITIAL FORM/3 MEDIAL FORM/2 TAH ISOLATED FORM/3 FINAL FORM
  FEC3 ARABIC LETTER TAH INITIAL FORM/3 MEDIAL FORM/2 ZAH ISOLATED FORM/3 FINAL FORM/3 INITIAL FORM
  FEC8 ARABIC LETTER ZAH MEDIAL FORM/2 AIN ISOLATED FORM/3 FINAL FORM/3 INITIAL FORM/3 MEDIAL FORM
  FECD ARABIC LETTER GHAIN ISOLATED FORM/3 FINAL FORM/3 INITIAL FORM/3 MEDIAL FORM
  FED1 ARABIC LETTER FEH ISOLATED FORM/3 FINAL FORM/3 INITIAL FORM/3 MEDIAL FORM/2 QAF ISOLATED FORM
  FED6 ARABIC LETTER QAF FINAL FORM/3 INITIAL FORM/3 MEDIAL FORM/2 KAF ISOLATED FORM/3 FINAL FORM
  FEDB ARABIC LETTER KAF INITIAL FORM/3 MEDIAL FORM/2 LAM ISOLATED FORM/3 FINAL FORM/3 INITIAL FORM
  FEE0 ARABIC LETTER LAM MEDIAL FORM/2 MEEM ISOLATED FORM/3 FINAL FORM/3 INITIAL FORM/3 MEDIAL FORM
  FEE5 ARABIC LETTER NOON ISOLATED FORM/3 FINAL FORM/3 INITIAL FORM/3 MEDIAL FORM
  FEE9 ARABIC LETTER HEH ISOLATED FORM/3 FINAL FORM/3 INITIAL FORM/3 MEDIAL FORM/2 WAW ISOLATED FORM
  FEEE ARABIC LETTER WAW FINAL FORM/2 ALEF MAKSURA ISOLATED FORM/4 FINAL FORM/2 YEH ISOLATED FORM
  FEF2 ARABIC LETTER YEH FINAL FORM/3 INITIAL FORM/3 MEDIAL FORM
  FEF5 ARABIC LIGATURE LAM WITH ALEF WITH MADDA ABOVE ISOLATED FORM/8 FINAL FORM
  FEF7 ARABIC LIGATURE LAM WITH ALEF WITH HAMZA ABOVE ISOLATED FORM/8 FINAL FORM
  FEF9 ARABIC LIGATURE LAM WITH ALEF WITH HAMZA BELOW ISOLATED FORM/8 FINAL FORM/5 ISOLATED FORM
  FEFC ARABIC LIGATURE LAM WITH ALEF FINAL FORM
  FEFF ZERO WIDTH NO-BREAK SPACE
  FF01 FULLWIDTH EXCLAMATION MARK/1 QUOTATION MARK/1 NUMBER SIGN/1 DOLLAR SIGN/1 PERCENT SIGN
  FF06 FULLWIDTH AMPERSAND/1 APOSTROPHE/1 LEFT PARENTHESIS/1 RIGHT PARENTHESIS/1 ASTERISK
  FF0B FULLWIDTH PLUS SIGN/1 COMMA/1 HYPHEN-MINUS/1 FULL STOP/1 SOLIDUS/1 DIGIT ZERO/2 ONE/2 TWO
  FF13 FULLWIDTH DIGIT THREE/2 FOUR/2 FIVE/2 SIX/2 SEVEN/2 EIGHT/2 NINE/1 COLON/1 SEMICOLON
  FF1C FULLWIDTH LESS-THAN SIGN/1 EQUALS SIGN/1 GREATER-THAN SIGN/1 QUESTION MARK/1 COMMERCIAL AT
  FF21 FULLWIDTH LATIN CAPITAL LETTER A/4 B/4 C/4 D/4 E/4 F/4 G/4 H/4 I/4 J/4 K/4 L/4 M/4 N/4 O/4 P
  FF31 FULLWIDTH LATIN CAPITAL LETTER Q/4 R/4 S/4 T/4 U/4 V/4 W/4 X/4 Y/4 Z/1 LEFT SQUARE BRACKET
  FF3C FULLWIDTH REVERSE SOLIDUS/1 RIGHT SQUARE BRACKET/1 CIRCUMFLEX ACCENT/1 LOW LINE
  FF40 FULLWIDTH GRAVE ACCENT/1 LATIN SMALL LETTER A/4 B/4 C/4 D/4 E/4 F/4 G/4 H/4 I/4 J/4 K/4 L/4 M
  FF4E FULLWIDTH LATIN SMALL LETTER N/4 O/4 P/4 Q/4 R/4 S/4 T/4 U/4 V/4 W/4 X/4 Y/4 Z
  FF5B FULLWIDTH LEFT CURLY BRACKET/1 VERTICAL LINE/1 RIGHT CURLY BRACKET/1 TILDE
  FF5F FULLWIDTH LEFT WHITE PARENTHESIS/1 RIGHT WHITE PARENTHESIS/0 HALFWIDTH IDEOGRAPHIC FULL STOP
  FF62 HALFWIDTH LEFT CORNER BRACKET/1 RIGHT CORNER BRACKET/1 IDEOGRAPHIC COMMA
  FF65 HALFWIDTH KATAKANA MIDDLE DOT/2 LETTER WO/3 SMALL A/4 I/4 U/4 E/4 O/4 YA/4 YU/4 YO/4 TU
  FF70 HALFWIDTH KATAKANA-HIRAGANA PROLONGED SOUND MARK/1 KATAKANA LETTER A/3 I/3 U/3 E/3 O/3 KA
  FF77 HALFWIDTH KATAKANA LETTER KI/3 KU/3 KE/3 KO/3 SA/3 SI/3 SU/3 SE/3 SO/3 TA/3 TI/3 TU/3 TE/3 TO
  FF85 HALFWIDTH KATAKANA LETTER NA/3 NI/3 NU/3 NE/3 NO/3 HA/3 HI/3 HU/3 HE/3 HO/3 MA/3 MI/3 MU/3 ME
  FF93 HALFWIDTH KATAKANA LETTER MO/3 YA/3 YU/3 YO/3 RA/3 RI/3 RU/3 RE/3 RO/3 WA/3 N
  FF9E HALFWIDTH KATAKANA VOICED SOUND MARK/2 SEMI-VOICED SOUND MARK/1 HANGUL FILLER/2 LETTER KIYEOK
  FFA2 HALFWIDTH HANGUL LETTER SSANGKIYEOK/3 KIYEOK-SIOS/3 NIEUN/3 NIEUN-CIEUC/3 NIEUN-HIEUH
  FFA7 HALFWIDTH HANGUL LETTER TIKEUT/3 SSANGTIKEUT/3 RIEUL/3 RIEUL-KIYEOK/3 RIEUL-MIEUM
  FFAC HALFWIDTH HANGUL LETTER RIEUL-PIEUP/3 RIEUL-SIOS/3 RIEUL-THIEUTH/3 RIEUL-PHIEUPH
  FFB0 HALFWIDTH HANGUL LETTER RIEUL-HIEUH/3 MIEUM/3 PIEUP/3 SSANGPIEUP/3 PIEUP-SIOS/3 SIOS
  FFB6 HALFWIDTH HANGUL LETTER SSANGSIOS/3 IEUNG/3 CIEUC/3 SSANGCIEUC/3 CHIEUCH/3 KHIEUKH/3 THIEUTH
  FFBD HALFWIDTH HANGUL LETTER PHIEUPH/3 HIEUH
  FFC2 HALFWIDTH HANGUL LETTER A/3 AE/3 YA/3 YAE/3 EO/3 E
  FFCA HALFWIDTH HANGUL LETTER YEO/3 YE/3 O/3 WA/3 WAE/3 OE
  FFD2 HALFWIDTH HANGUL LETTER YO/3 U/3 WEO/3 WE/3 WI/3 YU
  FFDA HALFWIDTH HANGUL LETTER EU/3 YI/3 I
  FFE0 FULLWIDTH CENT SIGN/1 POUND SIGN/1 NOT SIGN/1 MACRON/1 BROKEN BAR/1 YEN SIGN/1 WON SIGN
  FFE8 HALFWIDTH FORMS LIGHT VERTICAL/1 LEFTWARDS ARROW/1 UPWARDS ARROW/1 RIGHTWARDS ARROW
  FFEC HALFWIDTH DOWNWARDS ARROW/1 BLACK SQUARE/1 WHITE CIRCLE
  FFF9 INTERLINEAR ANNOTATION ANCHOR/2 SEPARATOR/2 TERMINATOR/0 OBJECT REPLACEMENT CHARACTER
  FFFD REPLACEMENT CHARACTER"

end ProblemMatcher.Text
