/-
  Muffle.Text.CharName.Table

  The names of characters, but for those that follow from their numbers. A table is a list of
  entries between semicolons and line ends, in the order of the characters. An entry starts with
  the number of its character and a colon, unless it is the next one. Then comes how many words it
  shares with the start of the name before, the words between, and how many words it shares with
  its end. Other names of characters stand in a table of their own, unabridged.
-/

namespace Muffle.Text.CharName

/-- Scripts in use today, from the Latin letters on. -/
def scriptNames : String := "
20:0SPACE0;0EXCLAMATION MARK0;0QUOTATION1;0NUMBER SIGN0;0DOLLAR1;0PERCENT1;0AMPERSAND0
0APOSTROPHE0;0LEFT PARENTHESIS0;0RIGHT1;0ASTERISK0;0PLUS SIGN0;0COMMA0;0HYPHEN-MINUS0;0FULL STOP0
0SOLIDUS0;0DIGIT ZERO0;1ONE0;1TWO0;1THREE0;1FOUR0;1FIVE0;1SIX0;1SEVEN0;1EIGHT0;1NINE0;0COLON0
0SEMICOLON0;0LESS-THAN SIGN0;0EQUALS1;0GREATER-THAN1;0QUESTION MARK0;0COMMERCIAL AT0
0LATIN CAPITAL LETTER A0;3B0;3C0;3D0;3E0;3F0;3G0;3H0;3I0;3J0;3K0;3L0;3M0;3N0;3O0;3P0;3Q0;3R0;3S0
3T0;3U0;3V0;3W0;3X0;3Y0;3Z0;0LEFT SQUARE BRACKET0;0REVERSE SOLIDUS0;0RIGHT SQUARE BRACKET0
0CIRCUMFLEX ACCENT0;0LOW LINE0;0GRAVE ACCENT0;0LATIN SMALL LETTER A0;3B0;3C0;3D0;3E0;3F0;3G0;3H0
3I0;3J0;3K0;3L0;3M0;3N0;3O0;3P0;3Q0;3R0;3S0;3T0;3U0;3V0;3W0;3X0;3Y0;3Z0;0LEFT CURLY BRACKET0
0VERTICAL LINE0;0RIGHT CURLY BRACKET0;0TILDE0;a0:0NO-BREAK SPACE0;0INVERTED EXCLAMATION MARK0
0CENT SIGN0;0POUND1;0CURRENCY1;0YEN1;0BROKEN BAR0;0SECTION SIGN0;0DIAERESIS0;0COPYRIGHT SIGN0
0FEMININE ORDINAL INDICATOR0;0LEFT-POINTING DOUBLE ANGLE QUOTATION MARK0;0NOT SIGN0;0SOFT HYPHEN0
0REGISTERED SIGN0;0MACRON0;0DEGREE SIGN0;0PLUS-MINUS1;0SUPERSCRIPT TWO0;1THREE0;0ACUTE ACCENT0
0MICRO SIGN0;0PILCROW1;0MIDDLE DOT0;0CEDILLA0;0SUPERSCRIPT ONE0;0MASCULINE ORDINAL INDICATOR0
0RIGHT-POINTING DOUBLE ANGLE QUOTATION MARK0;0VULGAR FRACTION ONE QUARTER0;3HALF0;2THREE QUARTERS0
0INVERTED QUESTION MARK0;0LATIN CAPITAL LETTER A WITH GRAVE0;5ACUTE0;5CIRCUMFLEX0;5TILDE0
5DIAERESIS0;5RING ABOVE0;3AE0;3C WITH CEDILLA0;3E WITH GRAVE0;5ACUTE0;5CIRCUMFLEX0;5DIAERESIS0
3I WITH GRAVE0;5ACUTE0;5CIRCUMFLEX0;5DIAERESIS0;3ETH0;3N WITH TILDE0;3O WITH GRAVE0;5ACUTE0
5CIRCUMFLEX0;5TILDE0;5DIAERESIS0;0MULTIPLICATION SIGN0;0LATIN CAPITAL LETTER O WITH STROKE0
3U WITH GRAVE0;5ACUTE0;5CIRCUMFLEX0;5DIAERESIS0;3Y WITH ACUTE0;3THORN0;1SMALL LETTER SHARP S0
3A WITH GRAVE0;5ACUTE0;5CIRCUMFLEX0;5TILDE0;5DIAERESIS0;5RING ABOVE0;3AE0;3C WITH CEDILLA0
3E WITH GRAVE0;5ACUTE0;5CIRCUMFLEX0;5DIAERESIS0;3I WITH GRAVE0;5ACUTE0;5CIRCUMFLEX0;5DIAERESIS0
3ETH0;3N WITH TILDE0;3O WITH GRAVE0;5ACUTE0;5CIRCUMFLEX0;5TILDE0;5DIAERESIS0;0DIVISION SIGN0
0LATIN SMALL LETTER O WITH STROKE0;3U WITH GRAVE0;5ACUTE0;5CIRCUMFLEX0;5DIAERESIS0;3Y WITH ACUTE0
3THORN0;3Y WITH DIAERESIS0;1CAPITAL LETTER A WITH MACRON0;1SMALL4;1CAPITAL LETTER A WITH BREVE0
1SMALL4;1CAPITAL LETTER A WITH OGONEK0;1SMALL4;1CAPITAL LETTER C WITH ACUTE0;1SMALL4
1CAPITAL LETTER C WITH CIRCUMFLEX0;1SMALL4;1CAPITAL LETTER C WITH DOT ABOVE0;1SMALL5
1CAPITAL LETTER C WITH CARON0;1SMALL4;1CAPITAL LETTER D2;1SMALL4;1CAPITAL LETTER D WITH STROKE0
1SMALL4;1CAPITAL LETTER E WITH MACRON0;1SMALL4;1CAPITAL LETTER E WITH BREVE0;1SMALL4
1CAPITAL LETTER E WITH DOT ABOVE0;1SMALL5;1CAPITAL LETTER E WITH OGONEK0;1SMALL4
1CAPITAL LETTER E WITH CARON0;1SMALL4;1CAPITAL LETTER G WITH CIRCUMFLEX0;1SMALL4
1CAPITAL LETTER G WITH BREVE0;1SMALL4;1CAPITAL LETTER G WITH DOT ABOVE0;1SMALL5
1CAPITAL LETTER G WITH CEDILLA0;1SMALL4;1CAPITAL LETTER H WITH CIRCUMFLEX0;1SMALL4
1CAPITAL LETTER H WITH STROKE0;1SMALL4;1CAPITAL LETTER I WITH TILDE0;1SMALL4
1CAPITAL LETTER I WITH MACRON0;1SMALL4;1CAPITAL LETTER I WITH BREVE0;1SMALL4
1CAPITAL LETTER I WITH OGONEK0;1SMALL4;1CAPITAL LETTER I WITH DOT ABOVE0;1SMALL LETTER DOTLESS I0
1CAPITAL LIGATURE IJ0;1SMALL2;1CAPITAL LETTER J WITH CIRCUMFLEX0;1SMALL4
1CAPITAL LETTER K WITH CEDILLA0;1SMALL4;3KRA0;1CAPITAL LETTER L WITH ACUTE0;1SMALL4
1CAPITAL LETTER L WITH CEDILLA0;1SMALL4;1CAPITAL LETTER L WITH CARON0;1SMALL4
1CAPITAL LETTER L WITH MIDDLE DOT0;1SMALL5;1CAPITAL LETTER L WITH STROKE0;1SMALL4
1CAPITAL LETTER N WITH ACUTE0;1SMALL4;1CAPITAL LETTER N WITH CEDILLA0;1SMALL4
1CAPITAL LETTER N WITH CARON0;1SMALL4;4PRECEDED BY APOSTROPHE0;1CAPITAL LETTER ENG0;1SMALL2
1CAPITAL LETTER O WITH MACRON0;1SMALL4;1CAPITAL LETTER O WITH BREVE0;1SMALL4
1CAPITAL LETTER O WITH DOUBLE ACUTE0;1SMALL5;1CAPITAL LIGATURE OE0;1SMALL2
1CAPITAL LETTER R WITH ACUTE0;1SMALL4;1CAPITAL LETTER R WITH CEDILLA0;1SMALL4
1CAPITAL LETTER R WITH CARON0;1SMALL4;1CAPITAL LETTER S WITH ACUTE0;1SMALL4
1CAPITAL LETTER S WITH CIRCUMFLEX0;1SMALL4;1CAPITAL LETTER S WITH CEDILLA0;1SMALL4
1CAPITAL LETTER S WITH CARON0;1SMALL4;1CAPITAL LETTER T WITH CEDILLA0;1SMALL4
1CAPITAL LETTER T WITH CARON0;1SMALL4;1CAPITAL LETTER T WITH STROKE0;1SMALL4
1CAPITAL LETTER U WITH TILDE0;1SMALL4;1CAPITAL LETTER U WITH MACRON0;1SMALL4
1CAPITAL LETTER U WITH BREVE0;1SMALL4;1CAPITAL LETTER U WITH RING ABOVE0;1SMALL5
1CAPITAL LETTER U WITH DOUBLE ACUTE0;1SMALL5;1CAPITAL LETTER U WITH OGONEK0;1SMALL4
1CAPITAL LETTER W WITH CIRCUMFLEX0;1SMALL4;1CAPITAL LETTER Y2;1SMALL4
1CAPITAL LETTER Y WITH DIAERESIS0;3Z WITH ACUTE0;1SMALL4;1CAPITAL LETTER Z WITH DOT ABOVE0;1SMALL5
1CAPITAL LETTER Z WITH CARON0;1SMALL4;3LONG S0;3B WITH STROKE0;1CAPITAL LETTER B WITH HOOK0
5TOPBAR0;1SMALL4;1CAPITAL LETTER TONE SIX0;1SMALL3;1CAPITAL LETTER OPEN O0;3C WITH HOOK0;1SMALL4
1CAPITAL LETTER AFRICAN D0;3D WITH HOOK0;5TOPBAR0;1SMALL4;3TURNED DELTA0
1CAPITAL LETTER REVERSED E0;3SCHWA0;3OPEN E0;3F WITH HOOK0;1SMALL4;1CAPITAL LETTER G2;3GAMMA0
1SMALL LETTER HV0;1CAPITAL LETTER IOTA0;3I WITH STROKE0;3K WITH HOOK0;1SMALL4;3L WITH BAR0
3LAMBDA WITH STROKE0;1CAPITAL LETTER TURNED M0;3N WITH LEFT HOOK0
1SMALL LETTER N WITH LONG RIGHT LEG0;1CAPITAL LETTER O WITH MIDDLE TILDE0;5HORN0;1SMALL4
1CAPITAL LETTER OI0;1SMALL2;1CAPITAL LETTER P WITH HOOK0;1SMALL4;1LETTER YR0
1CAPITAL LETTER TONE TWO0;1SMALL3;1CAPITAL LETTER ESH0;1LETTER REVERSED ESH LOOP0
1SMALL LETTER T WITH PALATAL HOOK0;1CAPITAL LETTER T WITH1;1SMALL4
1CAPITAL LETTER T WITH RETROFLEX1;3U WITH HORN0;1SMALL4;1CAPITAL LETTER UPSILON0;3V WITH HOOK0;3Y2
1SMALL4;1CAPITAL LETTER Z WITH STROKE0;1SMALL4;1CAPITAL LETTER EZH0;4REVERSED0;1SMALL3;4WITH TAIL0
1LETTER TWO WITH STROKE0;1CAPITAL LETTER TONE FIVE0;1SMALL3
1LETTER INVERTED GLOTTAL STOP WITH STROKE0;2WYNN0;2DENTAL CLICK0;2LATERAL1;2ALVEOLAR1;2RETROFLEX1
1CAPITAL LETTER DZ WITH CARON0;3D WITH SMALL LETTER Z2;1SMALL LETTER DZ2;1CAPITAL LETTER LJ0
3L WITH SMALL LETTER J0;1SMALL LETTER LJ0;1CAPITAL LETTER NJ0;3N WITH SMALL LETTER J0
1SMALL LETTER NJ0;1CAPITAL LETTER A WITH CARON0;1SMALL4;1CAPITAL LETTER I2;1SMALL4
1CAPITAL LETTER O2;1SMALL4;1CAPITAL LETTER U2;1SMALL4;1CAPITAL LETTER U WITH DIAERESIS AND MACRON0
1SMALL6;1CAPITAL LETTER U WITH DIAERESIS AND ACUTE0;1SMALL6
1CAPITAL LETTER U WITH DIAERESIS AND CARON0;1SMALL6;1CAPITAL LETTER U WITH DIAERESIS AND GRAVE0
1SMALL6;3TURNED E0;1CAPITAL LETTER A WITH DIAERESIS AND MACRON0;1SMALL6
1CAPITAL LETTER A WITH DOT ABOVE2;1SMALL7;1CAPITAL LETTER AE WITH1;1SMALL4
1CAPITAL LETTER G WITH STROKE0;1SMALL4;1CAPITAL LETTER G WITH CARON0;1SMALL4;1CAPITAL LETTER K2
1SMALL4;1CAPITAL LETTER O WITH OGONEK0;1SMALL4;1CAPITAL LETTER O WITH OGONEK AND MACRON0;1SMALL6
1CAPITAL LETTER EZH WITH CARON0;1SMALL4;3J2;1CAPITAL LETTER DZ0;3D WITH SMALL LETTER Z0
1SMALL LETTER DZ0;1CAPITAL LETTER G WITH ACUTE0;1SMALL4;1CAPITAL LETTER HWAIR0;3WYNN0
3N WITH GRAVE0;1SMALL4;1CAPITAL LETTER A WITH RING ABOVE AND ACUTE0;1SMALL7
1CAPITAL LETTER AE WITH1;1SMALL4;1CAPITAL LETTER O WITH STROKE AND1;1SMALL6
1CAPITAL LETTER A WITH DOUBLE GRAVE0;1SMALL5;1CAPITAL LETTER A WITH INVERTED BREVE0;1SMALL5
1CAPITAL LETTER E WITH DOUBLE GRAVE0;1SMALL5;1CAPITAL LETTER E WITH INVERTED BREVE0;1SMALL5
1CAPITAL LETTER I WITH DOUBLE GRAVE0;1SMALL5;1CAPITAL LETTER I WITH INVERTED BREVE0;1SMALL5
1CAPITAL LETTER O WITH DOUBLE GRAVE0;1SMALL5;1CAPITAL LETTER O WITH INVERTED BREVE0;1SMALL5
1CAPITAL LETTER R WITH DOUBLE GRAVE0;1SMALL5;1CAPITAL LETTER R WITH INVERTED BREVE0;1SMALL5
1CAPITAL LETTER U WITH DOUBLE GRAVE0;1SMALL5;1CAPITAL LETTER U WITH INVERTED BREVE0;1SMALL5
1CAPITAL LETTER S WITH COMMA BELOW0;1SMALL5;1CAPITAL LETTER T3;1SMALL5;1CAPITAL LETTER YOGH0
1SMALL2;1CAPITAL LETTER H WITH CARON0;1SMALL4;1CAPITAL LETTER N WITH LONG RIGHT LEG0
1SMALL LETTER D WITH CURL0;1CAPITAL LETTER OU0;1SMALL2;1CAPITAL LETTER Z WITH HOOK0;1SMALL4
1CAPITAL LETTER A WITH DOT ABOVE0;1SMALL5;1CAPITAL LETTER E WITH CEDILLA0;1SMALL4
1CAPITAL LETTER O WITH DIAERESIS AND MACRON0;1SMALL6;1CAPITAL LETTER O WITH TILDE2;1SMALL6
1CAPITAL LETTER O WITH DOT ABOVE0;1SMALL5;1CAPITAL LETTER O WITH DOT ABOVE AND MACRON0;1SMALL7
1CAPITAL LETTER Y WITH1;1SMALL4;3L WITH CURL0;3N2;3T2;3DOTLESS J0;3DB DIGRAPH0;3QP1
1CAPITAL LETTER A WITH STROKE0;3C2;1SMALL4;1CAPITAL LETTER L WITH BAR0;3T WITH DIAGONAL STROKE0
1SMALL LETTER S WITH SWASH TAIL0;3Z3;1CAPITAL LETTER GLOTTAL STOP0;1SMALL3
1CAPITAL LETTER B WITH STROKE0;3U BAR0;3TURNED V0;3E WITH STROKE0;1SMALL4;1CAPITAL LETTER J2
1SMALL4;1CAPITAL LETTER SMALL Q WITH HOOK TAIL0;1SMALL LETTER4;1CAPITAL LETTER R WITH STROKE0
1SMALL4;1CAPITAL LETTER Y2;1SMALL4;3TURNED A0;3ALPHA0;3TURNED1;3B WITH HOOK0;3OPEN O0
3C WITH CURL0;3D WITH TAIL0;5HOOK0;3REVERSED E0;3SCHWA0;4WITH HOOK0;3OPEN E0;3REVERSED2
6WITH HOOK0;3CLOSED REVERSED OPEN E0;3DOTLESS J WITH STROKE0;3G WITH HOOK0;3SCRIPT G0
1LETTER SMALL CAPITAL1;1SMALL LETTER GAMMA0;3RAMS HORN0;3TURNED H0;3H WITH HOOK0;3HENG2
3I WITH STROKE0;3IOTA0;1LETTER SMALL CAPITAL I0;1SMALL LETTER L WITH MIDDLE TILDE0;5BELT0
5RETROFLEX HOOK0;3LEZH0;3TURNED M0;5WITH LONG LEG0;3M WITH HOOK0;3N WITH LEFT1;5RETROFLEX1
1LETTER SMALL CAPITAL N0;1SMALL LETTER BARRED O0;1LETTER SMALL CAPITAL OE0
1SMALL LETTER CLOSED OMEGA0;3PHI0;3TURNED R0;5WITH LONG LEG0;6HOOK0;3R WITH LONG LEG0;5TAIL0
5FISHHOOK0;3REVERSED3;1LETTER SMALL CAPITAL R0;4INVERTED1;1SMALL LETTER S WITH HOOK0;3ESH0
3DOTLESS J WITH STROKE AND HOOK0;3SQUAT REVERSED ESH0;3ESH WITH CURL0;3TURNED T0
3T WITH RETROFLEX HOOK0;3U BAR0;3UPSILON0;3V WITH HOOK0;3TURNED V0;4W0;4Y0;1LETTER SMALL CAPITAL1
1SMALL LETTER Z WITH RETROFLEX HOOK0;5CURL0;3EZH0;4WITH CURL0;1LETTER GLOTTAL STOP0
2PHARYNGEAL VOICED FRICATIVE0;2INVERTED GLOTTAL STOP0;2STRETCHED C0;2BILABIAL CLICK0
2SMALL CAPITAL B0;1SMALL LETTER CLOSED OPEN E0;1LETTER SMALL CAPITAL G WITH HOOK0;4H0
1SMALL LETTER J WITH CROSSED-TAIL0;3TURNED K0;1LETTER SMALL CAPITAL L0;1SMALL LETTER Q WITH HOOK0
1LETTER GLOTTAL STOP WITH STROKE0;2REVERSED4;1SMALL LETTER DZ DIGRAPH0;3DEZH1
3DZ DIGRAPH WITH CURL0;3TS DIGRAPH0;3TESH1;3TC DIGRAPH WITH CURL0;3FENG DIGRAPH0;3LS1;3LZ1
1LETTER BILABIAL PERCUSSIVE0;2BIDENTAL1;1SMALL LETTER TURNED H WITH FISHHOOK0;7AND TAIL0
0MODIFIER LETTER SMALL H0;4WITH HOOK0;3J0;3R0;3TURNED1;5WITH HOOK0;3CAPITAL INVERTED R0;3W0;3Y0
2PRIME0;2DOUBLE1;2TURNED COMMA0;2APOSTROPHE0;2REVERSED COMMA0;2RIGHT HALF RING0;2LEFT2
2GLOTTAL STOP0;2REVERSED2;2LEFT ARROWHEAD0;2RIGHT1;2UP1;2DOWN1;2CIRCUMFLEX ACCENT0;0CARON0
0MODIFIER LETTER VERTICAL LINE0;2MACRON0;2ACUTE ACCENT0;2GRAVE1;2LOW VERTICAL LINE0;3MACRON0
3GRAVE ACCENT0;3ACUTE1;2TRIANGULAR COLON0;2HALF2;2CENTRED RIGHT HALF RING0;3LEFT2;2UP TACK0;2DOWN1
2PLUS SIGN0;2MINUS1;0BREVE0;0DOT ABOVE0;0RING1;0OGONEK0;0SMALL TILDE0;0DOUBLE ACUTE ACCENT0
0MODIFIER LETTER RHOTIC HOOK0;2CROSS ACCENT0;2SMALL GAMMA0;3L0;3S0;3X0;3REVERSED GLOTTAL STOP0
2EXTRA-HIGH TONE BAR0;2HIGH2;2MID2;2LOW2;2EXTRA-LOW2;2YIN DEPARTING TONE MARK0;2YANG3;2VOICING0
2UNASPIRATED0;2DOUBLE APOSTROPHE0;2LOW DOWN ARROWHEAD0;3UP1;3LEFT1;3RIGHT1;3RING0
2MIDDLE GRAVE ACCENT0;3DOUBLE2;4ACUTE1;2LOW TILDE0;2RAISED COLON0;2BEGIN HIGH TONE0;2END2
2BEGIN LOW1;2END2;2SHELF0;2OPEN1;2LOW LEFT ARROW0;0COMBINING GRAVE ACCENT0;1ACUTE1;1CIRCUMFLEX1
1TILDE0;1MACRON0;1OVERLINE0;1BREVE0;1DOT ABOVE0;1DIAERESIS0;1HOOK ABOVE0;1RING1
1DOUBLE ACUTE ACCENT0;1CARON0;1VERTICAL LINE ABOVE0;1DOUBLE3;2GRAVE ACCENT0;1CANDRABINDU0
1INVERTED BREVE0;1TURNED COMMA ABOVE0;12;1REVERSED2;1COMMA ABOVE RIGHT0;1GRAVE ACCENT BELOW0
1ACUTE2;1LEFT TACK1;1RIGHT2;1LEFT ANGLE ABOVE0;1HORN0;1LEFT HALF RING BELOW0;1UP TACK1;1DOWN2
1PLUS SIGN1;1MINUS2;1PALATALIZED HOOK1;1RETROFLEX2;1DOT1;1DIAERESIS1;1RING1;1COMMA1;1CEDILLA0
1OGONEK0;1VERTICAL LINE BELOW0;1BRIDGE1;1INVERTED DOUBLE ARCH1;1CARON1;1CIRCUMFLEX ACCENT1;1BREVE1
1INVERTED2;1TILDE1;1MACRON1;1LOW LINE0;1DOUBLE2;1TILDE OVERLAY0;1SHORT STROKE1;1LONG2
1SHORT SOLIDUS1;1LONG2;1RIGHT HALF RING BELOW0;1INVERTED BRIDGE1;1SQUARE1;1SEAGULL1;1X ABOVE0
1VERTICAL TILDE0;1DOUBLE OVERLINE0;1GRAVE TONE MARK0;1ACUTE2;1GREEK PERISPOMENI0;2KORONIS0
2DIALYTIKA TONOS0;2YPOGEGRAMMENI0;1BRIDGE ABOVE0;1EQUALS SIGN BELOW0;1DOUBLE VERTICAL LINE1
1LEFT ANGLE1;1NOT TILDE ABOVE0;1HOMOTHETIC1;1ALMOST EQUAL TO1;1LEFT RIGHT ARROW BELOW0;1UPWARDS2
1GRAPHEME JOINER0;1RIGHT ARROWHEAD ABOVE0;1LEFT HALF RING1;1FERMATA0;1X BELOW0;1LEFT ARROWHEAD1
1RIGHT2;3AND UP ARROWHEAD1;2HALF RING ABOVE0;1DOT ABOVE RIGHT0;1ASTERISK BELOW0;1DOUBLE RING1
1ZIGZAG ABOVE0;1DOUBLE BREVE BELOW0;30;2MACRON0;3BELOW0;2TILDE0;2INVERTED BREVE0
2RIGHTWARDS ARROW BELOW0;1LATIN SMALL LETTER A0;4E0;4I0;4O0;4U0;4C0;4D0;4H0;4M0;4R0;4T0;4V0;4X0
0GREEK CAPITAL LETTER HETA0;1SMALL2;1CAPITAL LETTER ARCHAIC SAMPI0;1SMALL3;1NUMERAL SIGN0;1LOWER2
1CAPITAL LETTER PAMPHYLIAN DIGAMMA0;1SMALL3;37a:0GREEK YPOGEGRAMMENI0
1SMALL REVERSED LUNATE SIGMA SYMBOL0;2DOTTED3;2REVERSED4;1QUESTION MARK0;1CAPITAL LETTER YOT0
384:0GREEK TONOS0;1DIALYTIKA1;1CAPITAL LETTER ALPHA WITH1;1ANO TELEIA0
1CAPITAL LETTER EPSILON WITH TONOS0;3ETA2;3IOTA2;38c:0GREEK CAPITAL LETTER OMICRON WITH TONOS0
38e:0GREEK CAPITAL LETTER UPSILON WITH TONOS0;3OMEGA2;1SMALL LETTER IOTA WITH DIALYTIKA AND1
1CAPITAL LETTER ALPHA0;3BETA0;3GAMMA0;3DELTA0;3EPSILON0;3ZETA0;3ETA0;3THETA0;3IOTA0;3KAPPA0
3LAMDA0;3MU0;3NU0;3XI0;3OMICRON0;3PI0;3RHO0;3a3:0GREEK CAPITAL LETTER SIGMA0;3TAU0;3UPSILON0;3PHI0
3CHI0;3PSI0;3OMEGA0;3IOTA WITH DIALYTIKA0;3UPSILON2;1SMALL LETTER ALPHA WITH TONOS0;3EPSILON2
3ETA2;3IOTA2;3UPSILON WITH DIALYTIKA AND1;3ALPHA0;3BETA0;3GAMMA0;3DELTA0;3EPSILON0;3ZETA0;3ETA0
3THETA0;3IOTA0;3KAPPA0;3LAMDA0;3MU0;3NU0;3XI0;3OMICRON0;3PI0;3RHO0;3FINAL SIGMA0;31;3TAU0
3UPSILON0;3PHI0;3CHI0;3PSI0;3OMEGA0;3IOTA WITH DIALYTIKA0;3UPSILON2;3OMICRON WITH TONOS0;3UPSILON2
3OMEGA2;1CAPITAL KAI SYMBOL0;1BETA1;1THETA1;1UPSILON WITH HOOK1;3ACUTE AND2;3DIAERESIS3;1PHI1;1PI1
1KAI1;1LETTER ARCHAIC KOPPA0;1SMALL3;1LETTER STIGMA0;1SMALL2;1LETTER DIGAMMA0;1SMALL2
1LETTER KOPPA0;1SMALL2;1LETTER SAMPI0;1SMALL2;0COPTIC CAPITAL LETTER SHEI0;1SMALL2
1CAPITAL LETTER FEI0;1SMALL2;1CAPITAL LETTER KHEI0;1SMALL2;1CAPITAL LETTER HORI0;1SMALL2
1CAPITAL LETTER GANGIA0;1SMALL2;1CAPITAL LETTER SHIMA0;1SMALL2;1CAPITAL LETTER DEI0;1SMALL2
0GREEK KAPPA SYMBOL0;1RHO1;1LUNATE SIGMA1;1LETTER YOT0;1CAPITAL THETA SYMBOL0;1LUNATE EPSILON1
1REVERSED3;1CAPITAL LETTER SHO0;1SMALL2;1CAPITAL LUNATE SIGMA SYMBOL0;2LETTER SAN0;1SMALL2
1RHO WITH STROKE SYMBOL0;1CAPITAL REVERSED LUNATE SIGMA1;2DOTTED3;2REVERSED4
0CYRILLIC CAPITAL LETTER IE WITH GRAVE0;3IO0;3DJE0;3GJE0;3UKRAINIAN IE0;3DZE0
3BYELORUSSIAN-UKRAINIAN I0;3YI0;3JE0;3LJE0;3NJE0;3TSHE0;3KJE0;3I WITH GRAVE0;3SHORT U0;3DZHE0;3A0
3BE0;3VE0;3GHE0;3DE0;3IE0;3ZHE0;3ZE0;3I0;3SHORT1;3KA0;3EL0;3EM0;3EN0;3O0;3PE0;3ER0;3ES0;3TE0;3U0
3EF0;3HA0;3TSE0;3CHE0;3SHA0;3SHCHA0;3HARD SIGN0;3YERU0;3SOFT SIGN0;3E0;3YU0;3YA0;1SMALL LETTER A0
3BE0;3VE0;3GHE0;3DE0;3IE0;3ZHE0;3ZE0;3I0;3SHORT1;3KA0;3EL0;3EM0;3EN0;3O0;3PE0;3ER0;3ES0;3TE0;3U0
3EF0;3HA0;3TSE0;3CHE0;3SHA0;3SHCHA0;3HARD SIGN0;3YERU0;3SOFT SIGN0;3E0;3YU0;3YA0;3IE WITH GRAVE0
3IO0;3DJE0;3GJE0;3UKRAINIAN IE0;3DZE0;3BYELORUSSIAN-UKRAINIAN I0;3YI0;3JE0;3LJE0;3NJE0;3TSHE0
3KJE0;3I WITH GRAVE0;3SHORT U0;3DZHE0;1CAPITAL LETTER OMEGA0;1SMALL2;1CAPITAL LETTER YAT0;1SMALL2
1CAPITAL LETTER IOTIFIED E0;1SMALL3;1CAPITAL LETTER LITTLE YUS0;1SMALL3;1CAPITAL LETTER IOTIFIED2
1SMALL4;1CAPITAL LETTER BIG1;1SMALL3;1CAPITAL LETTER IOTIFIED2;1SMALL4;1CAPITAL LETTER KSI0
1SMALL2;1CAPITAL LETTER PSI0;1SMALL2;1CAPITAL LETTER FITA0;1SMALL2;1CAPITAL LETTER IZHITSA0
1SMALL2;1CAPITAL LETTER IZHITSA WITH DOUBLE GRAVE ACCENT0;1SMALL6;1CAPITAL LETTER UK0;1SMALL2
1CAPITAL LETTER ROUND OMEGA0;1SMALL3;1CAPITAL LETTER OMEGA WITH TITLO0;1SMALL4;1CAPITAL LETTER OT0
1SMALL2;1CAPITAL LETTER KOPPA0;1SMALL2;1THOUSANDS SIGN0;0COMBINING CYRILLIC TITLO0
2PALATALIZATION0;2DASIA PNEUMATA0;2PSILI1;2POKRYTIE0;2HUNDRED THOUSANDS SIGN0;2MILLIONS1
0CYRILLIC CAPITAL LETTER SHORT I WITH TAIL0;1SMALL5;1CAPITAL LETTER SEMISOFT SIGN0;1SMALL3
1CAPITAL LETTER ER WITH TICK0;1SMALL4;1CAPITAL LETTER GHE WITH UPTURN0;1SMALL4
1CAPITAL LETTER GHE WITH STROKE0;1SMALL4;1CAPITAL LETTER GHE WITH MIDDLE HOOK0;1SMALL5
1CAPITAL LETTER ZHE WITH DESCENDER0;1SMALL4;1CAPITAL LETTER ZE2;1SMALL4;1CAPITAL LETTER KA2
1SMALL4;1CAPITAL LETTER KA WITH VERTICAL STROKE0;1SMALL5;1CAPITAL LETTER KA WITH1;1SMALL4
1CAPITAL LETTER BASHKIR KA0;1SMALL3;1CAPITAL LETTER EN WITH DESCENDER0;1SMALL4
1CAPITAL LIGATURE EN GHE0;1SMALL3;1CAPITAL LETTER PE WITH MIDDLE HOOK0;1SMALL5
1CAPITAL LETTER ABKHASIAN HA0;1SMALL3;1CAPITAL LETTER ES WITH DESCENDER0;1SMALL4
1CAPITAL LETTER TE2;1SMALL4;1CAPITAL LETTER STRAIGHT U0;1SMALL3
1CAPITAL LETTER STRAIGHT U WITH STROKE0;1SMALL5;1CAPITAL LETTER HA WITH DESCENDER0;1SMALL4
1CAPITAL LIGATURE TE TSE0;1SMALL3;1CAPITAL LETTER CHE WITH DESCENDER0;1SMALL4
1CAPITAL LETTER CHE WITH VERTICAL STROKE0;1SMALL5;1CAPITAL LETTER SHHA0;1SMALL2
1CAPITAL LETTER ABKHASIAN CHE0;1SMALL3;1CAPITAL LETTER ABKHASIAN CHE WITH DESCENDER0;1SMALL5
1LETTER PALOCHKA0;1CAPITAL LETTER ZHE WITH BREVE0;1SMALL4;1CAPITAL LETTER KA WITH HOOK0;1SMALL4
1CAPITAL LETTER EL WITH TAIL0;1SMALL4;1CAPITAL LETTER EN WITH HOOK0;1SMALL4
1CAPITAL LETTER EN WITH TAIL0;1SMALL4;1CAPITAL LETTER KHAKASSIAN CHE0;1SMALL3
1CAPITAL LETTER EM WITH TAIL0;1SMALL4;3PALOCHKA0;1CAPITAL LETTER A WITH BREVE0;1SMALL4
1CAPITAL LETTER A WITH DIAERESIS0;1SMALL4;1CAPITAL LIGATURE A IE0;1SMALL3
1CAPITAL LETTER IE WITH BREVE0;1SMALL4;1CAPITAL LETTER SCHWA0;1SMALL2
1CAPITAL LETTER SCHWA WITH DIAERESIS0;1SMALL4;1CAPITAL LETTER ZHE2;1SMALL4;1CAPITAL LETTER ZE2
1SMALL4;1CAPITAL LETTER ABKHASIAN DZE0;1SMALL3;1CAPITAL LETTER I WITH MACRON0;1SMALL4
1CAPITAL LETTER I WITH DIAERESIS0;1SMALL4;1CAPITAL LETTER O2;1SMALL4;1CAPITAL LETTER BARRED O0
1SMALL3;1CAPITAL LETTER BARRED O WITH DIAERESIS0;1SMALL5;1CAPITAL LETTER E2;1SMALL4
1CAPITAL LETTER U WITH MACRON0;1SMALL4;1CAPITAL LETTER U WITH DIAERESIS0;1SMALL4
1CAPITAL LETTER U WITH DOUBLE ACUTE0;1SMALL5;1CAPITAL LETTER CHE WITH DIAERESIS0;1SMALL4
1CAPITAL LETTER GHE WITH DESCENDER0;1SMALL4;1CAPITAL LETTER YERU WITH DIAERESIS0;1SMALL4
1CAPITAL LETTER GHE WITH STROKE AND HOOK0;1SMALL6;1CAPITAL LETTER HA WITH1;1SMALL4
1CAPITAL LETTER HA WITH STROKE0;1SMALL4;1CAPITAL LETTER KOMI DE0;1SMALL3;1CAPITAL LETTER KOMI DJE0
1SMALL3;1CAPITAL LETTER KOMI ZJE0;1SMALL3;1CAPITAL LETTER KOMI DZJE0;1SMALL3
1CAPITAL LETTER KOMI LJE0;1SMALL3;1CAPITAL LETTER KOMI NJE0;1SMALL3;1CAPITAL LETTER KOMI SJE0
1SMALL3;1CAPITAL LETTER KOMI TJE0;1SMALL3;1CAPITAL LETTER REVERSED ZE0;1SMALL3
1CAPITAL LETTER EL WITH HOOK0;1SMALL4;1CAPITAL LETTER LHA0;1SMALL2;1CAPITAL LETTER RHA0;1SMALL2
1CAPITAL LETTER YAE0;1SMALL2;1CAPITAL LETTER QA0;1SMALL2;1CAPITAL LETTER WE0;1SMALL2
1CAPITAL LETTER ALEUT KA0;1SMALL3;1CAPITAL LETTER EL WITH MIDDLE HOOK0;1SMALL5;1CAPITAL LETTER EN3
1SMALL5;1CAPITAL LETTER PE WITH DESCENDER0;1SMALL4;1CAPITAL LETTER SHHA2;1SMALL4
1CAPITAL LETTER EN WITH LEFT HOOK0;1SMALL5;1CAPITAL LETTER DZZHE0;1SMALL2;1CAPITAL LETTER DCHE0
1SMALL2;1CAPITAL LETTER EL WITH DESCENDER0;1SMALL4;531:0ARMENIAN CAPITAL LETTER AYB0;3BEN0;3GIM0
3DA0;3ECH0;3ZA0;3EH0;3ET0;3TO0;3ZHE0;3INI0;3LIWN0;3XEH0;3CA0;3KEN0;3HO0;3JA0;3GHAD0;3CHEH0;3MEN0
3YI0;3NOW0;3SHA0;3VO0;3CHA0;3PEH0;3JHEH0;3RA0;3SEH0;3VEW0;3TIWN0;3REH0;3CO0;3YIWN0;3PIWR0;3KEH0
3OH0;3FEH0;559:0ARMENIAN MODIFIER LETTER LEFT HALF RING0;1APOSTROPHE0;1EMPHASIS MARK0
1EXCLAMATION1;1COMMA0;1QUESTION MARK0;1ABBREVIATION1;1SMALL LETTER TURNED AYB0;31;3BEN0;3GIM0;3DA0
3ECH0;3ZA0;3EH0;3ET0;3TO0;3ZHE0;3INI0;3LIWN0;3XEH0;3CA0;3KEN0;3HO0;3JA0;3GHAD0;3CHEH0;3MEN0;3YI0
3NOW0;3SHA0;3VO0;3CHA0;3PEH0;3JHEH0;3RA0;3SEH0;3VEW0;3TIWN0;3REH0;3CO0;3YIWN0;3PIWR0;3KEH0;3OH0
3FEH0;2LIGATURE ECH YIWN0;2LETTER YI WITH STROKE0;1FULL STOP0;1HYPHEN0
58d:0RIGHT-FACING ARMENIAN ETERNITY SIGN0;0LEFT-FACING3;0ARMENIAN DRAM1
591:0HEBREW ACCENT ETNAHTA0;2SEGOL0;2SHALSHELET0;2ZAQEF QATAN0;3GADOL0;2TIPEHA0;2REVIA0;2ZARQA0
2PASHTA0;2YETIV0;2TEVIR0;2GERESH0;3MUQDAM0;2GERSHAYIM0;2QARNEY PARA0;2TELISHA GEDOLA0;2PAZER0
2ATNAH HAFUKH0;2MUNAH0;2MAHAPAKH0;2MERKHA0;3KEFULA0;2DARGA0;2QADMA0;2TELISHA QETANA0
2YERAH BEN YOMO0;2OLE0;2ILUY0;2DEHI0;2ZINOR0;1MARK MASORA CIRCLE0;1POINT SHEVA0;2HATAF SEGOL0
3PATAH0;3QAMATS0;2HIRIQ0;2TSERE0;2SEGOL0;2PATAH0;2QAMATS0;2HOLAM0;3HASER FOR VAV0;2QUBUTS0
2DAGESH OR MAPIQ0;2METEG0;1PUNCTUATION MAQAF0;1POINT RAFE0;1PUNCTUATION PASEQ0;1POINT SHIN DOT0
2SIN1;1PUNCTUATION SOF PASUQ0;1MARK UPPER DOT0;2LOWER1;1PUNCTUATION NUN HAFUKHA0
1POINT QAMATS QATAN0;5d0:0HEBREW LETTER ALEF0;2BET0;2GIMEL0;2DALET0;2HE0;2VAV0;2ZAYIN0;2HET0;2TET0
2YOD0;2FINAL KAF0;21;2LAMED0;2FINAL MEM0;21;2FINAL NUN0;21;2SAMEKH0;2AYIN0;2FINAL PE0;21
2FINAL TSADI0;21;2QOF0;2RESH0;2SHIN0;2TAV0;5ef:0HEBREW YOD TRIANGLE0;1LIGATURE YIDDISH DOUBLE VAV0
3VAV YOD0;3DOUBLE1;1PUNCTUATION GERESH0;2GERSHAYIM0;600:0ARABIC NUMBER SIGN0;1SIGN SANAH0
1FOOTNOTE MARKER0;1SIGN SAFHA0;2SAMVAT0;1NUMBER MARK ABOVE0;0ARABIC-INDIC CUBE ROOT0;1FOURTH1
0ARABIC RAY0;0ARABIC-INDIC PER MILLE SIGN0;2TEN THOUSAND1;0AFGHANI1;0ARABIC COMMA0
1DATE SEPARATOR0;1POETIC VERSE SIGN0;1SIGN MISRA0;2SALLALLAHOU ALAYHE WASSALLAM0;2ALAYHE ASSALLAM0
2RAHMATULLAH ALAYHE0;2RADI ALLAHOU ANHU0;2TAKHALLUS0;1SMALL HIGH TAH0
3LIGATURE ALEF WITH LAM WITH YEH0;3ZAIN0;2FATHA0;2DAMMA0;2KASRA0;1SEMICOLON0;1LETTER MARK0
1END OF TEXT1;1TRIPLE DOT PUNCTUATION1;1QUESTION1;1LETTER KASHMIRI YEH0;2HAMZA0
2ALEF WITH MADDA ABOVE0;4HAMZA1;2WAW3;2ALEF WITH HAMZA BELOW0;2YEH WITH HAMZA ABOVE0;2ALEF0;2BEH0
2TEH MARBUTA0;30;2THEH0;2JEEM0;2HAH0;2KHAH0;2DAL0;2THAL0;2REH0;2ZAIN0;2SEEN0;2SHEEN0;2SAD0;2DAD0
2TAH0;2ZAH0;2AIN0;2GHAIN0;2KEHEH WITH TWO DOTS ABOVE0;4THREE DOTS BELOW0
2FARSI YEH WITH INVERTED V0;5TWO DOTS ABOVE0;5THREE2;1TATWEEL0;1LETTER FEH0;2QAF0;2KAF0;2LAM0
2MEEM0;2NOON0;2HEH0;2WAW0;2ALEF MAKSURA0;2YEH0;1FATHATAN0;1DAMMATAN0;1KASRATAN0;1FATHA0;1DAMMA0
1KASRA0;1SHADDA0;1SUKUN0;1MADDAH ABOVE0;1HAMZA1;2BELOW0;1SUBSCRIPT ALEF0;1INVERTED DAMMA0
1MARK NOON GHUNNA0;1ZWARAKAY0;1VOWEL SIGN SMALL V ABOVE0;3INVERTED3;3DOT BELOW0;1REVERSED DAMMA0
1FATHA WITH TWO DOTS0;1WAVY HAMZA BELOW0;0ARABIC-INDIC DIGIT ZERO0;2ONE0;2TWO0;2THREE0;2FOUR0
2FIVE0;2SIX0;2SEVEN0;2EIGHT0;2NINE0;0ARABIC PERCENT SIGN0;1DECIMAL SEPARATOR0;1THOUSANDS1
1FIVE POINTED STAR0;1LETTER DOTLESS BEH0;3QAF0;2SUPERSCRIPT ALEF0;2ALEF WASLA0
3WITH WAVY HAMZA ABOVE0;6BELOW0;2HIGH HAMZA0;4ALEF0;4WAW0;2U WITH HAMZA ABOVE0;2HIGH HAMZA YEH0
2TTEH0;2TTEHEH0;2BEEH0;2TEH WITH RING0;4THREE DOTS ABOVE DOWNWARDS0;2PEH0;2TEHEH0;2BEHEH0
2HAH WITH HAMZA ABOVE0;4TWO DOTS VERTICAL1;2NYEH0;2DYEH0;2HAH WITH THREE DOTS ABOVE0;2TCHEH0
2TCHEHEH0;2DDAL0;2DAL WITH RING0;4DOT BELOW0;6AND SMALL TAH0;2DAHAL0;2DDAHAL0;2DUL0
2DAL WITH THREE DOTS ABOVE DOWNWARDS0;4FOUR DOTS ABOVE0;2RREH0;2REH WITH SMALL V0;4RING0
4DOT BELOW0;4SMALL V1;4DOT BELOW AND DOT ABOVE0;4TWO DOTS1;2JEH0;2REH WITH FOUR DOTS ABOVE0
2SEEN WITH DOT BELOW AND DOT1;4THREE DOTS BELOW0;7AND THREE DOTS ABOVE0;2SAD WITH TWO DOTS BELOW0
4THREE DOTS ABOVE0;2TAH4;2AIN4;2DOTLESS FEH0;2FEH WITH DOT MOVED BELOW0;51;2VEH0
2FEH WITH THREE DOTS BELOW0;2PEHEH0;2QAF WITH DOT ABOVE0;4THREE DOTS1;2KEHEH0;2SWASH KAF0
2KAF WITH RING0;4DOT ABOVE0;2NG0;2KAF WITH THREE DOTS BELOW0;2GAF0;3WITH RING0;2NGOEH0
2GAF WITH TWO DOTS BELOW0;2GUEH0;2GAF WITH THREE DOTS ABOVE0;2LAM WITH SMALL V0;4DOT ABOVE0
4THREE DOTS1;6BELOW0;2NOON WITH DOT1;3GHUNNA0;2RNOON0;2NOON WITH RING0;4THREE DOTS ABOVE0
2HEH DOACHASHMEE0;2TCHEH WITH DOT ABOVE0;2HEH WITH YEH1;3GOAL0;4WITH HAMZA ABOVE0
2TEH MARBUTA GOAL0;2WAW WITH RING0;2KIRGHIZ OE0;21;2U0;2YU0;2KIRGHIZ1;2WAW WITH TWO DOTS ABOVE0
2VE0;2FARSI YEH0;2YEH WITH TAIL0;4SMALL V0;2WAW WITH DOT ABOVE0;2E0;2YEH WITH THREE DOTS BELOW0
3BARREE0;4WITH HAMZA ABOVE0;1FULL STOP0;1LETTER AE0
1SMALL HIGH LIGATURE SAD WITH LAM WITH ALEF MAKSURA0;4QAF5;3MEEM INITIAL FORM0;3LAM ALEF0;3JEEM0
3THREE DOTS0;3SEEN0;1END OF AYAH0;1START OF RUB EL HIZB0;1SMALL HIGH ROUNDED ZERO0
3UPRIGHT RECTANGULAR1;3DOTLESS HEAD OF KHAH0;3MEEM ISOLATED FORM0;2LOW SEEN0;2HIGH MADDA0;2WAW0
2YEH0;2HIGH1;3NOON0;1PLACE OF SAJDAH0;1EMPTY CENTRE LOW STOP0;3HIGH1
1ROUNDED HIGH STOP WITH FILLED CENTRE0;1SMALL LOW MEEM0;1LETTER DAL WITH INVERTED V0;2REH3
0EXTENDED ARABIC-INDIC DIGIT ZERO0;3ONE0;3TWO0;3THREE0;3FOUR0;3FIVE0;3SIX0;3SEVEN0;3EIGHT0;3NINE0
0ARABIC LETTER SHEEN WITH DOT BELOW0;2DAD3;2GHAIN3;1SIGN SINDHI AMPERSAND0;3POSTPOSITION MEN0
1LETTER HEH WITH INVERTED V0;0SYRIAC END OF PARAGRAPH0;1SUPRALINEAR FULL STOP0;1SUBLINEAR2
1SUPRALINEAR COLON0;1SUBLINEAR1;1HORIZONTAL1;1COLON SKEWED LEFT0;3RIGHT0
1SUPRALINEAR COLON SKEWED LEFT0;1SUBLINEAR COLON SKEWED RIGHT0;1CONTRACTION0;1HARKLEAN OBELUS0
2METOBELUS0;2ASTERISCUS0;70f:0SYRIAC ABBREVIATION MARK0;1LETTER ALAPH0;2SUPERSCRIPT1;2BETH0
2GAMAL0;3GARSHUNI0;2DALATH0;2DOTLESS DALATH RISH0;2HE0;2WAW0;2ZAIN0;2HETH0;2TETH0;3GARSHUNI0
2YUDH0;3HE0;2KAPH0;2LAMADH0;2MIM0;2NUN0;2SEMKATH0;2FINAL1;2E0;2PE0;2REVERSED1;2SADHE0;2QAPH0
2RISH0;2SHIN0;2TAW0;2PERSIAN BHETH0;3GHAMAL0;3DHALATH0;1PTHAHA ABOVE0;2BELOW0;2DOTTED0
1ZQAPHA ABOVE0;2BELOW0;2DOTTED0;1RBASA ABOVE0;2BELOW0;1DOTTED ZLAMA HORIZONTAL0;3ANGULAR0
1HBASA ABOVE0;2BELOW0;1HBASA-ESASA DOTTED0;1ESASA ABOVE0;2BELOW0;1RWAHA0;1FEMININE DOT0
1QUSHSHAYA0;1RUKKAKHA0;1TWO VERTICAL DOTS ABOVE0;4BELOW0;1THREE DOTS ABOVE0;3BELOW0
1OBLIQUE LINE ABOVE0;3BELOW0;1MUSIC0;1BARREKH0;74d:0SYRIAC LETTER SOGDIAN ZHAIN0;3KHAPH0;3FE0
0ARABIC LETTER BEH WITH THREE DOTS HORIZONTALLY BELOW0;4DOT BELOW AND THREE DOTS ABOVE0
4THREE DOTS POINTING UPWARDS BELOW0;9AND TWO DOTS ABOVE0;4TWO DOTS BELOW AND DOT1
4INVERTED SMALL V BELOW0;4SMALL V0;2HAH WITH TWO DOTS ABOVE0;4THREE DOTS POINTING UPWARDS BELOW0
2DAL WITH TWO DOTS VERTICALLY BELOW AND SMALL TAH0;4INVERTED SMALL V BELOW0;2REH WITH STROKE0
2SEEN WITH FOUR DOTS ABOVE0;2AIN WITH TWO2;4THREE DOTS POINTING DOWNWARDS1;4TWO DOTS VERTICALLY1
2FEH WITH TWO DOTS BELOW0;4THREE DOTS POINTING UPWARDS1;2KEHEH WITH DOT ABOVE0;4THREE DOTS1
6POINTING UPWARDS BELOW0;2MEEM WITH DOT ABOVE0;5BELOW0;2NOON WITH TWO DOTS1;4SMALL TAH0;5V0
2LAM WITH BAR0;2REH WITH TWO DOTS VERTICALLY ABOVE0;4HAMZA1;2SEEN WITH TWO DOTS VERTICALLY1
2HAH WITH SMALL ARABIC LETTER TAH BELOW0;8AND TWO DOTS0;2SEEN8;2REH8
2HAH WITH SMALL ARABIC LETTER TAH ABOVE0;2ALEF WITH EXTENDED ARABIC-INDIC DIGIT TWO1;7THREE1
2FARSI YEH WITH EXTENDED ARABIC-INDIC DIGIT TWO1;8THREE1;8FOUR BELOW0
2WAW WITH EXTENDED ARABIC-INDIC DIGIT TWO ABOVE0;7THREE1
2YEH BARREE WITH EXTENDED ARABIC-INDIC DIGIT TWO1;8THREE1
2HAH WITH EXTENDED ARABIC-INDIC DIGIT FOUR BELOW0
2SEEN WITH EXTENDED ARABIC-INDIC DIGIT FOUR ABOVE0;4INVERTED V0;2KAF WITH TWO DOTS ABOVE0
0THAANA LETTER HAA0;2SHAVIYANI0;2NOONU0;2RAA0;2BAA0;2LHAVIYANI0;2KAAFU0;2ALIFU0;2VAAVU0;2MEEMU0
2FAAFU0;2DHAALU0;2THAA0;2LAAMU0;2GAAFU0;2GNAVIYANI0;2SEENU0;2DAVIYANI0;2ZAVIYANI0;2TAVIYANI0;2YAA0
2PAVIYANI0;2JAVIYANI0;2CHAVIYANI0;2TTAA0;2HHAA0;2KHAA0;2THAALU0;2ZAA0;2SHEENU0;2SAADHU0;2DAADHU0
2TO0;2ZO0;2AINU0;2GHAINU0;2QAAFU0;2WAAVU0;1ABAFILI0;1AABAAFILI0;1IBIFILI0;1EEBEEFILI0;1UBUFILI0
1OOBOOFILI0;1EBEFILI0;1EYBEYFILI0;1OBOFILI0;1OABOAFILI0;1SUKUN0;1LETTER NAA0;7c0:0NKO DIGIT ZERO0
2ONE0;2TWO0;2THREE0;2FOUR0;2FIVE0;2SIX0;2SEVEN0;2EIGHT0;2NINE0;1LETTER A0;2EE0;2I0;2E0;2U0;2OO0
2O0;2DAGBASINNA0;2N0;2BA0;2PA0;2TA0;2JA0;2CHA0;2DA0;2RA0;2RRA0;2SA0;2GBA0;2FA0;2KA0;2LA0
2NA WOLOSO0;2MA0;2NYA0;2NA0;2HA0;2WA0;2YA0;2NYA WOLOSO0;2JONA JA0;3CHA0;3RA0
1COMBINING SHORT HIGH TONE0;3LOW1;3RISING1;2LONG DESCENDING1;3HIGH1;3LOW1;3RISING1
2NASALIZATION MARK0;2DOUBLE DOT ABOVE0;1HIGH TONE APOSTROPHE0;1LOW2;1SYMBOL OO DENNEN0
2GBAKURUNEN0;1COMMA0;1EXCLAMATION MARK0;1LAJANYALAN0;7fd:0NKO DANTAYALAN0;1DOROME SIGN0;1TAMAN1
0SAMARITAN LETTER ALAF0;2BIT0;2GAMAN0;2DALAT0;2IY0;2BAA0;2ZEN0;2IT0;2TIT0;2YUT0;2KAAF0;2LABAT0
2MIM0;2NUN0;2SINGAAT0;2IN0;2FI0;2TSAADIY0;2QUF0;2RISH0;2SHAN0;2TAAF0;1MARK IN0;2IN-ALAF0
2OCCLUSION0;2DAGESH0;1MODIFIER LETTER EPENTHETIC YUT0;1MARK2;1VOWEL SIGN LONG E0;31;3OVERLONG AA0
3LONG1;31;3OVERLONG A0;3LONG1;31;1MODIFIER LETTER SHORT1;1VOWEL SIGN2;3LONG U0;31
1MODIFIER LETTER I0;1VOWEL SIGN LONG1;31;3O0;3SUKUN0;1MARK NEQUDAA0
830:0SAMARITAN PUNCTUATION NEQUDAA0;2AFSAAQ0;2ANGED0;2BAU0;2ATMAAU0;2SHIYYAALAA0
1ABBREVIATION MARK0;1PUNCTUATION MELODIC QITSA0;2ZIQAA0;2QITSA0;2ZAEF0;2TURU0;2ARKAANU0
2SOF MASHFAAT0;2ANNAAU0;840:0MANDAIC LETTER HALQA0;2AB0;2AG0;2AD0;2AH0;2USHENNA0;2AZ0;2IT0;2ATT0
2AKSA0;2AK0;2AL0;2AM0;2AN0;2AS0;2IN0;2AP0;2ASZ0;2AQ0;2AR0;2ASH0;2AT0;2DUSHENNA0;2KAD0;2AIN0
1AFFRICATION MARK0;1VOCALIZATION1;1GEMINATION1;85e:0MANDAIC PUNCTUATION0
860:0SYRIAC LETTER MALAYALAM NGA0;3JA0;3NYA0;3TTA0;3NNA0;3NNNA0;3BHA0;3RA0;3LLA0;3LLLA0;3SSA0
870:0ARABIC LETTER ALEF WITH ATTACHED FATHA0;5TOP RIGHT1;4RIGHT MIDDLE STROKE0;4LEFT2
4ATTACHED KASRA0;5BOTTOM RIGHT1;5ROUND DOT ABOVE0;5RIGHT ROUND DOT0;5LEFT2;5ROUND DOT BELOW0
4DOT ABOVE0;4ATTACHED TOP RIGHT FATHA AND2;4RIGHT MIDDLE STROKE3;4ATTACHED BOTTOM RIGHT KASRA3
5TOP RIGHT FATHA AND LEFT RING0;4RIGHT MIDDLE STROKE3;4ATTACHED BOTTOM RIGHT KASRA3;5RIGHT HAMZA0
5LEFT1;1TATWEEL WITH OVERSTRUCK1;4WAW0;3TWO DOTS BELOW0;1LETTER THIN YEH0;1BASELINE ROUND DOT0
1RAISED2;1LETTER NOON WITH INVERTED SMALL V0;2HAH WITH INVERTED SMALL V BELOW0;2TAH WITH DOT1
4THREE DOTS1;2KEHEH WITH TWO DOTS VERTICALLY1;1VERTICAL TAIL0;890:0ARABIC POUND MARK ABOVE0
1PIASTRE2;898:0ARABIC SMALL HIGH WORD AL-JUZ0;2LOW WORD ISHMAAM0;4IMAALA0;4TASHEEL0;1MADDA WAAJIB0
1SUPERSCRIPT ALEF MOKHASSAS0;1DOUBLED MADDA0;1HALF MADDA OVER1;1LETTER BEH WITH SMALL V BELOW0
4HAMZA ABOVE0;2JEEM WITH TWO DOTS1;2TAH4;2FEH WITH DOT BELOW AND THREE2;2QAF WITH DOT BELOW0
2LAM WITH DOUBLE BAR0;2MEEM WITH THREE DOTS ABOVE0;2YEH WITH TWO DOTS BELOW AND HAMZA1;8DOT1
2REH WITH LOOP0;2WAW WITH DOT WITHIN0;2ROHINGYA YEH0;2LOW ALEF0;2DAL WITH THREE DOTS BELOW0;2SAD4
2GAF WITH INVERTED STROKE0;2STRAIGHT WAW0;2ZAIN WITH INVERTED V ABOVE0;2AIN WITH THREE DOTS BELOW0
2KAF WITH DOT1;2QAF WITH DOT BELOW AND NO DOTS ABOVE0;2BEH WITH SMALL MEEM1;2PEH4
2TEH WITH SMALL TEH1;2REH WITH SMALL NOON1;2YEH WITH TWO DOTS BELOW AND3;2AFRICAN FEH0;3QAF0
3NOON0;2PEH WITH SMALL V0;2TEH3;2TTEH3;2TCHEH3;2KEHEH3;2GHAIN WITH THREE DOTS ABOVE0;2AFRICAN QAF4
2JEEM4;6BELOW0;2LAM WITH SMALL ARABIC LETTER TAH ABOVE0;2GRAF0;1SMALL FARSI YEH0;2HIGH2
3YEH BARREE WITH TWO DOTS BELOW0;3WORD SAH0;3ZAH0;1LARGE ROUND DOT ABOVE0;4BELOW0;1SUKUN1
1LARGE CIRCLE1;2ROUND DOT INSIDE2;1SMALL LOW WAW0;2HIGH WORD AR-RUB0;3SAD0;3AIN0;3QAF0
3NOON WITH KASRA0;2LOW3;2HIGH WORD ATH-THALATHA0;4AS-SAJDA0;4AN-NISF0;4SAKTA0;4QIF0;4WAQFA0
3FOOTNOTE MARKER0;3SIGN SAFHA0;1DISPUTED END OF AYAH0;1TURNED DAMMA BELOW0;1CURLY FATHA0;2DAMMA0
2KASRA0;2FATHATAN0;2DAMMATAN0;2KASRATAN0;1TONE ONE DOT ABOVE0;2TWO DOTS1;2LOOP1;2ONE DOT BELOW0
2TWO DOTS1;2LOOP1;1OPEN FATHATAN0;2DAMMATAN0;2KASRATAN0;1SMALL HIGH WAW0;1FATHA WITH RING0
3DOT ABOVE0;1KASRA WITH DOT BELOW0;1LEFT ARROWHEAD ABOVE0;1RIGHT2;1LEFT ARROWHEAD BELOW0;1RIGHT2
1DOUBLE RIGHT ARROWHEAD ABOVE0;5WITH DOT0;15;1DAMMA2;1MARK SIDEWAYS NOON GHUNNA0
0DEVANAGARI SIGN INVERTED CANDRABINDU0;21;2ANUSVARA0;2VISARGA0;1LETTER SHORT A0;21;2AA0;2I0;2II0
2U0;2UU0;2VOCALIC R0;3L0;2CANDRA E0;2SHORT1;21;2AI0;2CANDRA O0;2SHORT1;21;2AU0;2KA0;2KHA0;2GA0
2GHA0;2NGA0;2CA0;2CHA0;2JA0;2JHA0;2NYA0;2TTA0;2TTHA0;2DDA0;2DDHA0;2NNA0;2TA0;2THA0;2DA0;2DHA0;2NA0
2NNNA0;2PA0;2PHA0;2BA0;2BHA0;2MA0;2YA0;2RA0;2RRA0;2LA0;2LLA0;2LLLA0;2VA0;2SHA0;2SSA0;2SA0;2HA0
1VOWEL SIGN OE0;3OOE0;1SIGN NUKTA0;2AVAGRAHA0;1VOWEL SIGN AA0;3I0;3II0;3U0;3UU0;3VOCALIC R0;4RR0
3CANDRA E0;3SHORT1;31;3AI0;3CANDRA O0;3SHORT1;31;3AU0;1SIGN VIRAMA0;1VOWEL SIGN PRISHTHAMATRA E0
3AW0;1OM0;1STRESS SIGN UDATTA0;3ANUDATTA0;1GRAVE ACCENT0;1ACUTE1;1VOWEL SIGN CANDRA LONG E0;3UE0
3UUE0;1LETTER QA0;2KHHA0;2GHHA0;2ZA0;2DDDHA0;2RHA0;2FA0;2YYA0;2VOCALIC RR0;3LL0
1VOWEL SIGN VOCALIC L0;4LL0;1DANDA0;1DOUBLE1;1DIGIT ZERO0;2ONE0;2TWO0;2THREE0;2FOUR0;2FIVE0;2SIX0
2SEVEN0;2EIGHT0;2NINE0;1ABBREVIATION SIGN0;1SIGN HIGH SPACING DOT0;1LETTER CANDRA A0;2OE0;2OOE0
2AW0;2UE0;2UUE0;2MARWARI DDA0;2ZHA0;2HEAVY YA0;2GGA0;2JJA0;2GLOTTAL STOP0;2DDDA0;2BBA0
0BENGALI ANJI0;1SIGN CANDRABINDU0;2ANUSVARA0;2VISARGA0;985:0BENGALI LETTER A0;2AA0;2I0;2II0;2U0
2UU0;2VOCALIC R0;3L0;98f:0BENGALI LETTER E0;2AI0;993:0BENGALI LETTER O0;2AU0;2KA0;2KHA0;2GA0;2GHA0
2NGA0;2CA0;2CHA0;2JA0;2JHA0;2NYA0;2TTA0;2TTHA0;2DDA0;2DDHA0;2NNA0;2TA0;2THA0;2DA0;2DHA0;2NA0
9aa:0BENGALI LETTER PA0;2PHA0;2BA0;2BHA0;2MA0;2YA0;2RA0;9b2:0BENGALI LETTER LA0
9b6:0BENGALI LETTER SHA0;2SSA0;2SA0;2HA0;9bc:0BENGALI SIGN NUKTA0;2AVAGRAHA0;1VOWEL SIGN AA0;3I0
3II0;3U0;3UU0;3VOCALIC R0;4RR0;9c7:0BENGALI VOWEL SIGN E0;3AI0;9cb:0BENGALI VOWEL SIGN O0;3AU0
1SIGN VIRAMA0;1LETTER KHANDA TA0;9d7:0BENGALI AU LENGTH MARK0;9dc:0BENGALI LETTER RRA0;2RHA0
9df:0BENGALI LETTER YYA0;2VOCALIC RR0;3LL0;1VOWEL SIGN VOCALIC L0;4LL0;9e6:0BENGALI DIGIT ZERO0
2ONE0;2TWO0;2THREE0;2FOUR0;2FIVE0;2SIX0;2SEVEN0;2EIGHT0;2NINE0;1LETTER RA WITH MIDDLE DIAGONAL0
4LOWER1;1RUPEE MARK0;2SIGN0;1CURRENCY NUMERATOR ONE0;3TWO0;3THREE0;3FOUR0
3ONE LESS THAN THE DENOMINATOR0;2DENOMINATOR SIXTEEN0;1ISSHAR0;1GANDA MARK0
1LETTER VEDIC ANUSVARA0;1ABBREVIATION SIGN0;1SANDHI MARK0;a01:0GURMUKHI SIGN ADAK BINDI0;21
2VISARGA0;a05:0GURMUKHI LETTER A0;2AA0;2I0;2II0;2U0;2UU0;a0f:0GURMUKHI LETTER EE0;2AI0
a13:0GURMUKHI LETTER OO0;2AU0;2KA0;2KHA0;2GA0;2GHA0;2NGA0;2CA0;2CHA0;2JA0;2JHA0;2NYA0;2TTA0;2TTHA0
2DDA0;2DDHA0;2NNA0;2TA0;2THA0;2DA0;2DHA0;2NA0;a2a:0GURMUKHI LETTER PA0;2PHA0;2BA0;2BHA0;2MA0;2YA0
2RA0;a32:0GURMUKHI LETTER LA0;2LLA0;a35:0GURMUKHI LETTER VA0;2SHA0;a38:0GURMUKHI LETTER SA0;2HA0
a3c:0GURMUKHI SIGN NUKTA0;a3e:0GURMUKHI VOWEL SIGN AA0;3I0;3II0;3U0;3UU0
a47:0GURMUKHI VOWEL SIGN EE0;3AI0;a4b:0GURMUKHI VOWEL SIGN OO0;3AU0;1SIGN VIRAMA0
a51:0GURMUKHI SIGN UDAAT0;a59:0GURMUKHI LETTER KHHA0;2GHHA0;2ZA0;2RRA0;a5e:0GURMUKHI LETTER FA0
a66:0GURMUKHI DIGIT ZERO0;2ONE0;2TWO0;2THREE0;2FOUR0;2FIVE0;2SIX0;2SEVEN0;2EIGHT0;2NINE0;1TIPPI0
1ADDAK0;1IRI0;1URA0;1EK ONKAR0;1SIGN YAKASH0;1ABBREVIATION SIGN0;a81:0GUJARATI SIGN CANDRABINDU0
2ANUSVARA0;2VISARGA0;a85:0GUJARATI LETTER A0;2AA0;2I0;2II0;2U0;2UU0;2VOCALIC R0;3L0
1VOWEL CANDRA E0;a8f:0GUJARATI LETTER E0;2AI0;1VOWEL CANDRA O0;a93:0GUJARATI LETTER O0;2AU0;2KA0
2KHA0;2GA0;2GHA0;2NGA0;2CA0;2CHA0;2JA0;2JHA0;2NYA0;2TTA0;2TTHA0;2DDA0;2DDHA0;2NNA0;2TA0;2THA0;2DA0
2DHA0;2NA0;aaa:0GUJARATI LETTER PA0;2PHA0;2BA0;2BHA0;2MA0;2YA0;2RA0;ab2:0GUJARATI LETTER LA0;2LLA0
ab5:0GUJARATI LETTER VA0;2SHA0;2SSA0;2SA0;2HA0;abc:0GUJARATI SIGN NUKTA0;2AVAGRAHA0
1VOWEL SIGN AA0;3I0;3II0;3U0;3UU0;3VOCALIC R0;4RR0;3CANDRA E0;ac7:0GUJARATI VOWEL SIGN E0;3AI0
3CANDRA O0;acb:0GUJARATI VOWEL SIGN O0;3AU0;1SIGN VIRAMA0;ad0:0GUJARATI OM0
ae0:0GUJARATI LETTER VOCALIC RR0;3LL0;1VOWEL SIGN VOCALIC L0;4LL0;ae6:0GUJARATI DIGIT ZERO0;2ONE0
2TWO0;2THREE0;2FOUR0;2FIVE0;2SIX0;2SEVEN0;2EIGHT0;2NINE0;1ABBREVIATION SIGN0;1RUPEE1
af9:0GUJARATI LETTER ZHA0;1SIGN SUKUN0;2SHADDA0;2MADDAH0;2THREE-DOT NUKTA ABOVE0;2CIRCLE2
2TWO-CIRCLE2;b01:0ORIYA SIGN CANDRABINDU0;2ANUSVARA0;2VISARGA0;b05:0ORIYA LETTER A0;2AA0;2I0;2II0
2U0;2UU0;2VOCALIC R0;3L0;b0f:0ORIYA LETTER E0;2AI0;b13:0ORIYA LETTER O0;2AU0;2KA0;2KHA0;2GA0;2GHA0
2NGA0;2CA0;2CHA0;2JA0;2JHA0;2NYA0;2TTA0;2TTHA0;2DDA0;2DDHA0;2NNA0;2TA0;2THA0;2DA0;2DHA0;2NA0
b2a:0ORIYA LETTER PA0;2PHA0;2BA0;2BHA0;2MA0;2YA0;2RA0;b32:0ORIYA LETTER LA0;2LLA0
b35:0ORIYA LETTER VA0;2SHA0;2SSA0;2SA0;2HA0;b3c:0ORIYA SIGN NUKTA0;2AVAGRAHA0;1VOWEL SIGN AA0;3I0
3II0;3U0;3UU0;3VOCALIC R0;4RR0;b47:0ORIYA VOWEL SIGN E0;3AI0;b4b:0ORIYA VOWEL SIGN O0;3AU0
1SIGN VIRAMA0;b55:0ORIYA SIGN OVERLINE0;1AI LENGTH MARK0;1AU2;b5c:0ORIYA LETTER RRA0;2RHA0
b5f:0ORIYA LETTER YYA0;2VOCALIC RR0;3LL0;1VOWEL SIGN VOCALIC L0;4LL0;b66:0ORIYA DIGIT ZERO0;2ONE0
2TWO0;2THREE0;2FOUR0;2FIVE0;2SIX0;2SEVEN0;2EIGHT0;2NINE0;1ISSHAR0;1LETTER WA0
1FRACTION ONE QUARTER0;3HALF0;2THREE QUARTERS0;2ONE SIXTEENTH0;3EIGHTH0;2THREE SIXTEENTHS0
b82:0TAMIL SIGN ANUSVARA0;2VISARGA0;b85:0TAMIL LETTER A0;2AA0;2I0;2II0;2U0;2UU0
b8e:0TAMIL LETTER E0;2EE0;2AI0;b92:0TAMIL LETTER O0;2OO0;2AU0;2KA0;b99:0TAMIL LETTER NGA0;2CA0
b9c:0TAMIL LETTER JA0;b9e:0TAMIL LETTER NYA0;2TTA0;ba3:0TAMIL LETTER NNA0;2TA0
ba8:0TAMIL LETTER NA0;2NNNA0;2PA0;bae:0TAMIL LETTER MA0;2YA0;2RA0;2RRA0;2LA0;2LLA0;2LLLA0;2VA0
2SHA0;2SSA0;2SA0;2HA0;bbe:0TAMIL VOWEL SIGN AA0;3I0;3II0;3U0;3UU0;bc6:0TAMIL VOWEL SIGN E0;3EE0
3AI0;bca:0TAMIL VOWEL SIGN O0;3OO0;3AU0;1SIGN VIRAMA0;bd0:0TAMIL OM0;bd7:0TAMIL AU LENGTH MARK0
be6:0TAMIL DIGIT ZERO0;2ONE0;2TWO0;2THREE0;2FOUR0;2FIVE0;2SIX0;2SEVEN0;2EIGHT0;2NINE0;1NUMBER TEN0
2ONE HUNDRED0;3THOUSAND0;1DAY SIGN0;1MONTH1;1YEAR1;1DEBIT1;1CREDIT1;1AS ABOVE1;1RUPEE1;1NUMBER1
c00:0TELUGU SIGN COMBINING CANDRABINDU ABOVE0;2CANDRABINDU0;2ANUSVARA0;2VISARGA0
2COMBINING ANUSVARA ABOVE0;1LETTER A0;2AA0;2I0;2II0;2U0;2UU0;2VOCALIC R0;3L0;c0e:0TELUGU LETTER E0
2EE0;2AI0;c12:0TELUGU LETTER O0;2OO0;2AU0;2KA0;2KHA0;2GA0;2GHA0;2NGA0;2CA0;2CHA0;2JA0;2JHA0;2NYA0
2TTA0;2TTHA0;2DDA0;2DDHA0;2NNA0;2TA0;2THA0;2DA0;2DHA0;2NA0;c2a:0TELUGU LETTER PA0;2PHA0;2BA0;2BHA0
2MA0;2YA0;2RA0;2RRA0;2LA0;2LLA0;2LLLA0;2VA0;2SHA0;2SSA0;2SA0;2HA0;c3c:0TELUGU SIGN NUKTA0
2AVAGRAHA0;1VOWEL SIGN AA0;3I0;3II0;3U0;3UU0;3VOCALIC R0;4RR0;c46:0TELUGU VOWEL SIGN E0;3EE0;3AI0
c4a:0TELUGU VOWEL SIGN O0;3OO0;3AU0;1SIGN VIRAMA0;c55:0TELUGU LENGTH MARK0;1AI2
c58:0TELUGU LETTER TSA0;2DZA0;2RRRA0;c5d:0TELUGU LETTER NAKAARA POLLU0
c60:0TELUGU LETTER VOCALIC RR0;3LL0;1VOWEL SIGN VOCALIC L0;4LL0;c66:0TELUGU DIGIT ZERO0;2ONE0
2TWO0;2THREE0;2FOUR0;2FIVE0;2SIX0;2SEVEN0;2EIGHT0;2NINE0;c77:0TELUGU SIGN SIDDHAM0
1FRACTION DIGIT ZERO FOR ODD POWERS OF FOUR0;3ONE5;3TWO5;3THREE5;3ONE FOR EVEN3;3TWO5;3THREE5
1SIGN TUUMU0;0KANNADA SIGN SPACING CANDRABINDU0;21;2ANUSVARA0;2VISARGA0;2SIDDHAM0;1LETTER A0;2AA0
2I0;2II0;2U0;2UU0;2VOCALIC R0;3L0;c8e:0KANNADA LETTER E0;2EE0;2AI0;c92:0KANNADA LETTER O0;2OO0
2AU0;2KA0;2KHA0;2GA0;2GHA0;2NGA0;2CA0;2CHA0;2JA0;2JHA0;2NYA0;2TTA0;2TTHA0;2DDA0;2DDHA0;2NNA0;2TA0
2THA0;2DA0;2DHA0;2NA0;caa:0KANNADA LETTER PA0;2PHA0;2BA0;2BHA0;2MA0;2YA0;2RA0;2RRA0;2LA0;2LLA0
cb5:0KANNADA LETTER VA0;2SHA0;2SSA0;2SA0;2HA0;cbc:0KANNADA SIGN NUKTA0;2AVAGRAHA0;1VOWEL SIGN AA0
3I0;3II0;3U0;3UU0;3VOCALIC R0;4RR0;cc6:0KANNADA VOWEL SIGN E0;3EE0;3AI0;cca:0KANNADA VOWEL SIGN O0
3OO0;3AU0;1SIGN VIRAMA0;cd5:0KANNADA LENGTH MARK0;1AI2;cdd:0KANNADA LETTER NAKAARA POLLU0;2FA0
ce0:0KANNADA LETTER VOCALIC RR0;3LL0;1VOWEL SIGN VOCALIC L0;4LL0;ce6:0KANNADA DIGIT ZERO0;2ONE0
2TWO0;2THREE0;2FOUR0;2FIVE0;2SIX0;2SEVEN0;2EIGHT0;2NINE0;cf1:0KANNADA SIGN JIHVAMULIYA0
2UPADHMANIYA0;d00:0MALAYALAM SIGN COMBINING ANUSVARA ABOVE0;2CANDRABINDU0;2ANUSVARA0;2VISARGA0
1LETTER VEDIC ANUSVARA0;2A0;2AA0;2I0;2II0;2U0;2UU0;2VOCALIC R0;3L0;d0e:0MALAYALAM LETTER E0;2EE0
2AI0;d12:0MALAYALAM LETTER O0;2OO0;2AU0;2KA0;2KHA0;2GA0;2GHA0;2NGA0;2CA0;2CHA0;2JA0;2JHA0;2NYA0
2TTA0;2TTHA0;2DDA0;2DDHA0;2NNA0;2TA0;2THA0;2DA0;2DHA0;2NA0;2NNNA0;2PA0;2PHA0;2BA0;2BHA0;2MA0;2YA0
2RA0;2RRA0;2LA0;2LLA0;2LLLA0;2VA0;2SHA0;2SSA0;2SA0;2HA0;2TTTA0;1SIGN VERTICAL BAR VIRAMA0
2CIRCULAR1;2AVAGRAHA0;1VOWEL SIGN AA0;3I0;3II0;3U0;3UU0;3VOCALIC R0;4RR0
d46:0MALAYALAM VOWEL SIGN E0;3EE0;3AI0;d4a:0MALAYALAM VOWEL SIGN O0;3OO0;3AU0;1SIGN VIRAMA0
1LETTER DOT REPH0;1SIGN PARA0;d54:0MALAYALAM LETTER CHILLU M0;3Y0;3LLL0;1AU LENGTH MARK0
1FRACTION ONE ONE-HUNDRED-AND-SIXTIETH0;3FORTIETH0;2THREE EIGHTIETHS0;2ONE TWENTIETH0;3TENTH0
2THREE TWENTIETHS0;2ONE FIFTH0;1LETTER ARCHAIC II0;2VOCALIC RR0;3LL0;1VOWEL SIGN VOCALIC L0;4LL0
d66:0MALAYALAM DIGIT ZERO0;2ONE0;2TWO0;2THREE0;2FOUR0;2FIVE0;2SIX0;2SEVEN0;2EIGHT0;2NINE0
1NUMBER TEN0;2ONE HUNDRED0;3THOUSAND0;1FRACTION ONE QUARTER0;3HALF0;2THREE QUARTERS0
2ONE SIXTEENTH0;3EIGHTH0;2THREE SIXTEENTHS0;1DATE MARK0;1LETTER CHILLU NN0;3N0;3RR0;3L0;3LL0;3K0
d81:0SINHALA SIGN CANDRABINDU0;2ANUSVARAYA0;2VISARGAYA0;d85:0SINHALA LETTER AYANNA0;2AAYANNA0
2AEYANNA0;2AEEYANNA0;2IYANNA0;2IIYANNA0;2UYANNA0;2UUYANNA0;2IRUYANNA0;2IRUUYANNA0;2ILUYANNA0
2ILUUYANNA0;2EYANNA0;2EEYANNA0;2AIYANNA0;2OYANNA0;2OOYANNA0;2AUYANNA0
d9a:0SINHALA LETTER ALPAPRAANA KAYANNA0;2MAHAAPRAANA1;2ALPAPRAANA GAYANNA0;2MAHAAPRAANA1
2KANTAJA NAASIKYAYA0;2SANYAKA GAYANNA0;2ALPAPRAANA CAYANNA0;2MAHAAPRAANA1;2ALPAPRAANA JAYANNA0
2MAHAAPRAANA1;2TAALUJA NAASIKYAYA0;3SANYOOGA NAAKSIKYAYA0;2SANYAKA JAYANNA0;2ALPAPRAANA TTAYANNA0
2MAHAAPRAANA1;2ALPAPRAANA DDAYANNA0;2MAHAAPRAANA1;2MUURDHAJA NAYANNA0;2SANYAKA DDAYANNA0
2ALPAPRAANA TAYANNA0;2MAHAAPRAANA1;2ALPAPRAANA DAYANNA0;2MAHAAPRAANA1;2DANTAJA NAYANNA0
db3:0SINHALA LETTER SANYAKA DAYANNA0;2ALPAPRAANA PAYANNA0;2MAHAAPRAANA1;2ALPAPRAANA BAYANNA0
2MAHAAPRAANA1;2MAYANNA0;2AMBA BAYANNA0;2YAYANNA0;2RAYANNA0;dbd:0SINHALA LETTER DANTAJA LAYANNA0
dc0:0SINHALA LETTER VAYANNA0;2TAALUJA SAYANNA0;2MUURDHAJA1;2DANTAJA1;2HAYANNA0;2MUURDHAJA LAYANNA0
2FAYANNA0;dca:0SINHALA SIGN AL-LAKUNA0;dcf:0SINHALA VOWEL SIGN AELA-PILLA0;3KETTI AEDA-PILLA0
3DIGA1;3KETTI IS-PILLA0;3DIGA1;3KETTI PAA-PILLA0;dd6:0SINHALA VOWEL SIGN DIGA PAA-PILLA0
dd8:0SINHALA VOWEL SIGN GAETTA-PILLA0;3KOMBUVA0;3DIGA1;3KOMBU DEKA0;3KOMBUVA HAA AELA-PILLA0
5DIGA1;5GAYANUKITTA0;31;de6:0SINHALA LITH DIGIT ZERO0;3ONE0;3TWO0;3THREE0;3FOUR0;3FIVE0;3SIX0
3SEVEN0;3EIGHT0;3NINE0;df2:0SINHALA VOWEL SIGN DIGA GAETTA-PILLA0;4GAYANUKITTA0
1PUNCTUATION KUNDDALIYA0;e01:0THAI CHARACTER KO KAI0;2KHO KHAI0;3KHUAT0;3KHWAI0;3KHON0;3RAKHANG0
2NGO NGU0;2CHO CHAN0;3CHING0;3CHANG0;2SO SO0;2CHO CHOE0;2YO YING0;2DO CHADA0;2TO PATAK0;2THO THAN0
3NANGMONTHO0;3PHUTHAO0;2NO NEN0;2DO DEK0;2TO TAO0;2THO THUNG0;3THAHAN0;3THONG0;2NO NU0;2BO BAIMAI0
2PO PLA0;2PHO PHUNG0;2FO FA0;2PHO PHAN0;2FO FAN0;2PHO SAMPHAO0;2MO MA0;2YO YAK0;2RO RUA0;2RU0
2LO LING0;2LU0;2WO WAEN0;2SO SALA0;3RUSI0;3SUA0;2HO HIP0;2LO CHULA0;2O ANG0;2HO NOKHUK0
2PAIYANNOI0;2SARA A0;2MAI HAN-AKAT0;2SARA AA0;3AM0;3I0;3II0;3UE0;3UEE0;3U0;3UU0;2PHINTHU0
e3f:0THAI CURRENCY SYMBOL BAHT0;1CHARACTER SARA E0;3AE0;3O0;3AI MAIMUAN0;4MAIMALAI0;2LAKKHANGYAO0
2MAIYAMOK0;2MAITAIKHU0;2MAI EK0;3THO0;3TRI0;3CHATTAWA0;2THANTHAKHAT0;2NIKHAHIT0;2YAMAKKAN0
2FONGMAN0;1DIGIT ZERO0;2ONE0;2TWO0;2THREE0;2FOUR0;2FIVE0;2SIX0;2SEVEN0;2EIGHT0;2NINE0
1CHARACTER ANGKHANKHU0;2KHOMUT0;e81:0LAO LETTER KO0;2KHO SUNG0;e84:0LAO LETTER KHO TAM0
e86:0LAO LETTER PALI GHA0;2NGO0;2CO0;2PALI CHA0;2SO TAM0;e8c:0LAO LETTER PALI JHA0;2NYO0
2PALI NYA0;3TTA0;3TTHA0;3DDA0;3DDHA0;3NNA0;2DO0;2TO0;2THO SUNG0;3TAM0;2PALI DHA0;2NO0;2BO0;2PO0
2PHO SUNG0;2FO TAM0;2PHO1;2FO SUNG0;2PALI BHA0;2MO0;2YO0;2LO LING0;ea5:0LAO LETTER LO LOOT0
ea7:0LAO LETTER WO0;2SANSKRIT SHA0;3SSA0;2SO SUNG0;2HO1;2PALI LLA0;2O0;2HO TAM0;1ELLIPSIS0
1VOWEL SIGN A0;3MAI KAN0;3AA0;3AM0;3I0;3II0;3Y0;3YY0;3U0;3UU0;1SIGN PALI VIRAMA0
1VOWEL SIGN MAI KON0;1SEMIVOWEL SIGN LO0;3NYO0;ec0:0LAO VOWEL SIGN E0;3EI0;3O0;3AY0;3AI0
ec6:0LAO KO LA0;ec8:0LAO TONE MAI EK0;3THO0;3TI0;3CATAWA0;1CANCELLATION MARK0;1NIGGAHITA0
ed0:0LAO DIGIT ZERO0;2ONE0;2TWO0;2THREE0;2FOUR0;2FIVE0;2SIX0;2SEVEN0;2EIGHT0;2NINE0
edc:0LAO HO NO0;2MO0;1LETTER KHMU GO0;3NYO0;f00:0TIBETAN SYLLABLE OM0
1MARK GTER YIG MGO TRUNCATED A0;5-UM RNAM BCAD MA0;6GTER TSHEG1;2INITIAL YIG MGO MDUN1
2CLOSING YIG MGO SGAB1;2CARET YIG MGO PHUR SHAD1;2YIG MGO TSHEG2;2SBRUL SHAD0;2BSKUR YIG MGO0
2BKA- SHOG2;2INTERSYLLABIC TSHEG0;2DELIMITER TSHEG BSTAR0;2SHAD0;2NYIS1;2TSHEG1;2NYIS2
2RIN CHEN SPUNGS1;2RGYA GRAM1;2CARET -DZUD RTAGS ME LONG CAN0;2GTER TSHEG0
1LOGOTYPE SIGN CHAD RTAGS0;3LHAG1;1ASTROLOGICAL SIGN SGRA GCAN -CHAR1;3-KHYUD PA0;3SDONG TSHUGS0
1SIGN RDEL DKAR GCIG0;4GNYIS0;4GSUM0;3NAG GCIG0;4GNYIS0;3DKAR RDEL NAG0;1DIGIT ZERO0;2ONE0;2TWO0
2THREE0;2FOUR0;2FIVE0;2SIX0;2SEVEN0;2EIGHT0;2NINE0;2HALF ONE0;3TWO0;3THREE0;3FOUR0;3FIVE0;3SIX0
3SEVEN0;3EIGHT0;3NINE0;3ZERO0;1MARK BSDUS RTAGS0;2NGAS BZUNG NYI ZLA0
2CARET -DZUD RTAGS BZHI MIG CAN0;2NGAS BZUNG SGOR RTAGS0;2CHE MGO0;2TSA -PHRU0;2GUG RTAGS GYON0
4GYAS0;2ANG KHANG GYON0;4GYAS0;1SIGN YAR TSHES0;2MAR1;1LETTER KA0;2KHA0;2GA0;2GHA0;2NGA0;2CA0
2CHA0;2JA0;f49:0TIBETAN LETTER NYA0;2TTA0;2TTHA0;2DDA0;2DDHA0;2NNA0;2TA0;2THA0;2DA0;2DHA0;2NA0
2PA0;2PHA0;2BA0;2BHA0;2MA0;2TSA0;2TSHA0;2DZA0;2DZHA0;2WA0;2ZHA0;2ZA0;2-A0;2YA0;2RA0;2LA0;2SHA0
2SSA0;2SA0;2HA0;2A0;2KSSA0;2FIXED-FORM RA0;2KKA0;2RRA0;f71:0TIBETAN VOWEL SIGN AA0;3I0;3II0;3U0
3UU0;3VOCALIC R0;4RR0;4L0;4LL0;3E0;3EE0;3O0;3OO0;1SIGN RJES SU NGA RO0;2RNAM BCAD0
1VOWEL SIGN REVERSED I0;4II0;1SIGN NYI ZLA NAA DA0;2SNA LDAN0;1MARK HALANTA0;2PALUTA0
1SIGN LCI RTAGS0;2YANG1;2LCE TSA CAN0;2MCHU1;2GRU CAN RGYINGS0;3MED1;2INVERTED MCHU CAN0
1SUBJOINED SIGN LCE TSA1;3MCHU1;3INVERTED2;2LETTER KA0;3KHA0;3GA0;3GHA0;3NGA0;3CA0;3CHA0;3JA0
f99:0TIBETAN SUBJOINED LETTER NYA0;3TTA0;3TTHA0;3DDA0;3DDHA0;3NNA0;3TA0;3THA0;3DA0;3DHA0;3NA0;3PA0
3PHA0;3BA0;3BHA0;3MA0;3TSA0;3TSHA0;3DZA0;3DZHA0;3WA0;3ZHA0;3ZA0;3-A0;3YA0;3RA0;3LA0;3SHA0;3SSA0
3SA0;3HA0;3A0;3KSSA0;3FIXED-FORM WA0;4YA0;4RA0;fbe:0TIBETAN KU RU KHA0;4BZHI MIG CAN0
1CANTILLATION SIGN HEAVY BEAT0;3LIGHT1;3CANG TE-U0;3SBUB -CHAL0;1SYMBOL DRIL BU0;2RDO RJE0
2PADMA GDAN0;2RDO RJE RGYA GRAM0;2PHUR PA0;2NOR BU0;4NYIS -KHYIL0;4GSUM1;4BZHI1
fce:0TIBETAN SIGN RDEL NAG RDEL DKAR0;4GSUM0;1MARK BSKA- SHOG GI MGO RGYAN0;2MNYAM YIG3
2NYIS TSHEG0;2INITIAL BRDA RNYING YIG MGO MDUN MA0;2CLOSING BRDA RNYING YIG MGO SGAB1
0RIGHT-FACING SVASTI SIGN0;0LEFT-FACING2;0RIGHT-FACING SVASTI SIGN WITH DOTS0;0LEFT-FACING4
0TIBETAN MARK LEADING MCHAN RTAGS0;2TRAILING2;1000:0MYANMAR LETTER KA0;2KHA0;2GA0;2GHA0;2NGA0;2CA0
2CHA0;2JA0;2JHA0;2NYA0;2NNYA0;2TTA0;2TTHA0;2DDA0;2DDHA0;2NNA0;2TA0;2THA0;2DA0;2DHA0;2NA0;2PA0
2PHA0;2BA0;2BHA0;2MA0;2YA0;2RA0;2LA0;2WA0;2SA0;2HA0;2LLA0;2A0;2SHAN1;2I0;2II0;2U0;2UU0;2E0;2MON1
2O0;2AU0;1VOWEL SIGN TALL AA0;31;3I0;3II0;3U0;3UU0;3E0;3AI0;3MON II0;4O0;3E ABOVE0;1SIGN ANUSVARA0
2DOT BELOW0;2VISARGA0;2VIRAMA0;2ASAT0;1CONSONANT SIGN MEDIAL YA0;4RA0;4WA0;4HA0;1LETTER GREAT SA0
1DIGIT ZERO0;2ONE0;2TWO0;2THREE0;2FOUR0;2FIVE0;2SIX0;2SEVEN0;2EIGHT0;2NINE0;1SIGN LITTLE SECTION0
21;1SYMBOL LOCATIVE0;2COMPLETED0;2AFOREMENTIONED0;2GENITIVE0;1LETTER SHA0;2SSA0;2VOCALIC R0;3RR0
3L0;3LL0;1VOWEL SIGN VOCALIC R0;4RR0;4L0;4LL0;1LETTER MON NGA0;3JHA0;3BBA0;3BBE0
1CONSONANT SIGN MON MEDIAL NA0;5MA0;5LA0;1LETTER SGAW KAREN SHA0;1VOWEL SIGN SGAW KAREN EU0
1TONE MARK SGAW KAREN HATHI0;5KE PHO0;1LETTER WESTERN PWO KAREN THA0;5PWA0
1VOWEL SIGN WESTERN PWO KAREN EU0;6UE0;1SIGN WESTERN PWO KAREN TONE-10;5TONE-20;5TONE-30;5TONE-40
5TONE-50;1LETTER EASTERN PWO KAREN NNA0;5YWA0;5GHWA0;1VOWEL SIGN GEBA KAREN I0;3KAYAH OE0;4U0;4EE0
1LETTER SHAN KA0;3KHA0;3GA0;3CA0;3ZA0;3NYA0;3DA0;3NA0;3PHA0;3FA0;3BA0;3THA0;3HA0
1CONSONANT SIGN SHAN MEDIAL WA0;1VOWEL SIGN SHAN AA0;4E0;5ABOVE0;4FINAL Y0;1SIGN SHAN TONE-20
3TONE-30;3TONE-50;3TONE-60;3COUNCIL TONE-20;4TONE-30;4EMPHATIC TONE0;1LETTER RUMAI PALAUNG FA0
1SIGN RUMAI PALAUNG TONE-50;1SHAN DIGIT ZERO0;3ONE0;3TWO0;3THREE0;3FOUR0;3FIVE0;3SIX0;3SEVEN0
3EIGHT0;3NINE0;1SIGN KHAMTI TONE-10;3TONE-30;1VOWEL SIGN AITON A0;4AI0;1SYMBOL SHAN ONE0
3EXCLAMATION0;0GEORGIAN CAPITAL LETTER AN0;3BAN0;3GAN0;3DON0;3EN0;3VIN0;3ZEN0;3TAN0;3IN0;3KAN0
3LAS0;3MAN0;3NAR0;3ON0;3PAR0;3ZHAR0;3RAE0;3SAN0;3TAR0;3UN0;3PHAR0;3KHAR0;3GHAN0;3QAR0;3SHIN0
3CHIN0;3CAN0;3JIL0;3CIL0;3CHAR0;3XAN0;3JHAN0;3HAE0;3HE0;3HIE0;3WE0;3HAR0;3HOE0
10c7:0GEORGIAN CAPITAL LETTER YN0;10cd:0GEORGIAN CAPITAL LETTER AEN0;10d0:0GEORGIAN LETTER AN0
2BAN0;2GAN0;2DON0;2EN0;2VIN0;2ZEN0;2TAN0;2IN0;2KAN0;2LAS0;2MAN0;2NAR0;2ON0;2PAR0;2ZHAR0;2RAE0
2SAN0;2TAR0;2UN0;2PHAR0;2KHAR0;2GHAN0;2QAR0;2SHIN0;2CHIN0;2CAN0;2JIL0;2CIL0;2CHAR0;2XAN0;2JHAN0
2HAE0;2HE0;2HIE0;2WE0;2HAR0;2HOE0;2FI0;2YN0;2ELIFI0;2TURNED GAN0;2AIN0;1PARAGRAPH SEPARATOR0
0MODIFIER LETTER GEORGIAN NAR0;0GEORGIAN LETTER AEN0;2HARD SIGN0;2LABIAL1;0HANGUL CHOSEONG KIYEOK0
2SSANGKIYEOK0;2NIEUN0;2TIKEUT0;2SSANGTIKEUT0;2RIEUL0;2MIEUM0;2PIEUP0;2SSANGPIEUP0;2SIOS0
2SSANGSIOS0;2IEUNG0;2CIEUC0;2SSANGCIEUC0;2CHIEUCH0;2KHIEUKH0;2THIEUTH0;2PHIEUPH0;2HIEUH0
2NIEUN-KIYEOK0;2SSANGNIEUN0;2NIEUN-TIKEUT0;2NIEUN-PIEUP0;2TIKEUT-KIYEOK0;2RIEUL-NIEUN0
2SSANGRIEUL0;2RIEUL-HIEUH0;2KAPYEOUNRIEUL0;2MIEUM-PIEUP0;2KAPYEOUNMIEUM0;2PIEUP-KIYEOK0
2PIEUP-NIEUN0;2PIEUP-TIKEUT0;2PIEUP-SIOS0;2PIEUP-SIOS-KIYEOK0;2PIEUP-SIOS-TIKEUT0
2PIEUP-SIOS-PIEUP0;2PIEUP-SSANGSIOS0;2PIEUP-SIOS-CIEUC0;2PIEUP-CIEUC0;2PIEUP-CHIEUCH0
2PIEUP-THIEUTH0;2PIEUP-PHIEUPH0;2KAPYEOUNPIEUP0;2KAPYEOUNSSANGPIEUP0;2SIOS-KIYEOK0;2SIOS-NIEUN0
2SIOS-TIKEUT0;2SIOS-RIEUL0;2SIOS-MIEUM0;2SIOS-PIEUP0;2SIOS-PIEUP-KIYEOK0;2SIOS-SSANGSIOS0
2SIOS-IEUNG0;2SIOS-CIEUC0;2SIOS-CHIEUCH0;2SIOS-KHIEUKH0;2SIOS-THIEUTH0;2SIOS-PHIEUPH0;2SIOS-HIEUH0
2CHITUEUMSIOS0;2CHITUEUMSSANGSIOS0;2CEONGCHIEUMSIOS0;2CEONGCHIEUMSSANGSIOS0;2PANSIOS0
2IEUNG-KIYEOK0;2IEUNG-TIKEUT0;2IEUNG-MIEUM0;2IEUNG-PIEUP0;2IEUNG-SIOS0;2IEUNG-PANSIOS0
2SSANGIEUNG0;2IEUNG-CIEUC0;2IEUNG-CHIEUCH0;2IEUNG-THIEUTH0;2IEUNG-PHIEUPH0;2YESIEUNG0
2CIEUC-IEUNG0;2CHITUEUMCIEUC0;2CHITUEUMSSANGCIEUC0;2CEONGCHIEUMCIEUC0;2CEONGCHIEUMSSANGCIEUC0
2CHIEUCH-KHIEUKH0;2CHIEUCH-HIEUH0;2CHITUEUMCHIEUCH0;2CEONGCHIEUMCHIEUCH0;2PHIEUPH-PIEUP0
2KAPYEOUNPHIEUPH0;2SSANGHIEUH0;2YEORINHIEUH0;2KIYEOK-TIKEUT0;2NIEUN-SIOS0;2NIEUN-CIEUC0
2NIEUN-HIEUH0;2TIKEUT-RIEUL0;2FILLER0;1JUNGSEONG1;2A0;2AE0;2YA0;2YAE0;2EO0;2E0;2YEO0;2YE0;2O0;2WA0
2WAE0;2OE0;2YO0;2U0;2WEO0;2WE0;2WI0;2YU0;2EU0;2YI0;2I0;2A-O0;2A-U0;2YA-O0;2YA-YO0;2EO-O0;2EO-U0
2EO-EU0;2YEO-O0;2YEO-U0;2O-EO0;2O-E0;2O-YE0;2O-O0;2O-U0;2YO-YA0;2YO-YAE0;2YO-YEO0;2YO-O0;2YO-I0
2U-A0;2U-AE0;2U-EO-EU0;2U-YE0;2U-U0;2YU-A0;2YU-EO0;2YU-E0;2YU-YEO0;2YU-YE0;2YU-U0;2YU-I0;2EU-U0
2EU-EU0;2YI-U0;2I-A0;2I-YA0;2I-O0;2I-U0;2I-EU0;2I-ARAEA0;2ARAEA0;2ARAEA-EO0;2ARAEA-U0;2ARAEA-I0
2SSANGARAEA0;2A-EU0;2YA-U0;2YEO-YA0;2O-YA0;2O-YAE0;1JONGSEONG KIYEOK0;2SSANGKIYEOK0;2KIYEOK-SIOS0
2NIEUN0;2NIEUN-CIEUC0;2NIEUN-HIEUH0;2TIKEUT0;2RIEUL0;2RIEUL-KIYEOK0;2RIEUL-MIEUM0;2RIEUL-PIEUP0
2RIEUL-SIOS0;2RIEUL-THIEUTH0;2RIEUL-PHIEUPH0;2RIEUL-HIEUH0;2MIEUM0;2PIEUP0;2PIEUP-SIOS0;2SIOS0
2SSANGSIOS0;2IEUNG0;2CIEUC0;2CHIEUCH0;2KHIEUKH0;2THIEUTH0;2PHIEUPH0;2HIEUH0;2KIYEOK-RIEUL0
2KIYEOK-SIOS-KIYEOK0;2NIEUN-KIYEOK0;2NIEUN-TIKEUT0;2NIEUN-SIOS0;2NIEUN-PANSIOS0;2NIEUN-THIEUTH0
2TIKEUT-KIYEOK0;2TIKEUT-RIEUL0;2RIEUL-KIYEOK-SIOS0;2RIEUL-NIEUN0;2RIEUL-TIKEUT0
2RIEUL-TIKEUT-HIEUH0;2SSANGRIEUL0;2RIEUL-MIEUM-KIYEOK0;2RIEUL-MIEUM-SIOS0;2RIEUL-PIEUP-SIOS0
2RIEUL-PIEUP-HIEUH0;2RIEUL-KAPYEOUNPIEUP0;2RIEUL-SSANGSIOS0;2RIEUL-PANSIOS0;2RIEUL-KHIEUKH0
2RIEUL-YEORINHIEUH0;2MIEUM-KIYEOK0;2MIEUM-RIEUL0;2MIEUM-PIEUP0;2MIEUM-SIOS0;2MIEUM-SSANGSIOS0
2MIEUM-PANSIOS0;2MIEUM-CHIEUCH0;2MIEUM-HIEUH0;2KAPYEOUNMIEUM0;2PIEUP-RIEUL0;2PIEUP-PHIEUPH0
2PIEUP-HIEUH0;2KAPYEOUNPIEUP0;2SIOS-KIYEOK0;2SIOS-TIKEUT0;2SIOS-RIEUL0;2SIOS-PIEUP0;2PANSIOS0
2IEUNG-KIYEOK0;2IEUNG-SSANGKIYEOK0;2SSANGIEUNG0;2IEUNG-KHIEUKH0;2YESIEUNG0;2YESIEUNG-SIOS0
2YESIEUNG-PANSIOS0;2PHIEUPH-PIEUP0;2KAPYEOUNPHIEUPH0;2HIEUH-NIEUN0;2HIEUH-RIEUL0;2HIEUH-MIEUM0
2HIEUH-PIEUP0;2YEORINHIEUH0;2KIYEOK-NIEUN0;2KIYEOK-PIEUP0;2KIYEOK-CHIEUCH0;2KIYEOK-KHIEUKH0
2KIYEOK-HIEUH0;2SSANGNIEUN0;0ETHIOPIC SYLLABLE HA0;2HU0;2HI0;2HAA0;2HEE0;2HE0;2HO0;2HOA0;2LA0;2LU0
2LI0;2LAA0;2LEE0;2LE0;2LO0;2LWA0;2HHA0;2HHU0;2HHI0;2HHAA0;2HHEE0;2HHE0;2HHO0;2HHWA0;2MA0;2MU0;2MI0
2MAA0;2MEE0;2ME0;2MO0;2MWA0;2SZA0;2SZU0;2SZI0;2SZAA0;2SZEE0;2SZE0;2SZO0;2SZWA0;2RA0;2RU0;2RI0
2RAA0;2REE0;2RE0;2RO0;2RWA0;2SA0;2SU0;2SI0;2SAA0;2SEE0;2SE0;2SO0;2SWA0;2SHA0;2SHU0;2SHI0;2SHAA0
2SHEE0;2SHE0;2SHO0;2SHWA0;2QA0;2QU0;2QI0;2QAA0;2QEE0;2QE0;2QO0;2QOA0;2QWA0
124a:0ETHIOPIC SYLLABLE QWI0;2QWAA0;2QWEE0;2QWE0;1250:0ETHIOPIC SYLLABLE QHA0;2QHU0;2QHI0;2QHAA0
2QHEE0;2QHE0;2QHO0;1258:0ETHIOPIC SYLLABLE QHWA0;125a:0ETHIOPIC SYLLABLE QHWI0;2QHWAA0;2QHWEE0
2QHWE0;1260:0ETHIOPIC SYLLABLE BA0;2BU0;2BI0;2BAA0;2BEE0;2BE0;2BO0;2BWA0;2VA0;2VU0;2VI0;2VAA0
2VEE0;2VE0;2VO0;2VWA0;2TA0;2TU0;2TI0;2TAA0;2TEE0;2TE0;2TO0;2TWA0;2CA0;2CU0;2CI0;2CAA0;2CEE0;2CE0
2CO0;2CWA0;2XA0;2XU0;2XI0;2XAA0;2XEE0;2XE0;2XO0;2XOA0;2XWA0;128a:0ETHIOPIC SYLLABLE XWI0;2XWAA0
2XWEE0;2XWE0;1290:0ETHIOPIC SYLLABLE NA0;2NU0;2NI0;2NAA0;2NEE0;2NE0;2NO0;2NWA0;2NYA0;2NYU0;2NYI0
2NYAA0;2NYEE0;2NYE0;2NYO0;2NYWA0;2GLOTTAL A0;3U0;3I0;3AA0;3EE0;3E0;3O0;3WA0;2KA0;2KU0;2KI0;2KAA0
2KEE0;2KE0;2KO0;2KOA0;2KWA0;12b2:0ETHIOPIC SYLLABLE KWI0;2KWAA0;2KWEE0;2KWE0
12b8:0ETHIOPIC SYLLABLE KXA0;2KXU0;2KXI0;2KXAA0;2KXEE0;2KXE0;2KXO0;12c0:0ETHIOPIC SYLLABLE KXWA0
12c2:0ETHIOPIC SYLLABLE KXWI0;2KXWAA0;2KXWEE0;2KXWE0;12c8:0ETHIOPIC SYLLABLE WA0;2WU0;2WI0;2WAA0
2WEE0;2WE0;2WO0;2WOA0;2PHARYNGEAL A0;3U0;3I0;3AA0;3EE0;3E0;3O0;12d8:0ETHIOPIC SYLLABLE ZA0;2ZU0
2ZI0;2ZAA0;2ZEE0;2ZE0;2ZO0;2ZWA0;2ZHA0;2ZHU0;2ZHI0;2ZHAA0;2ZHEE0;2ZHE0;2ZHO0;2ZHWA0;2YA0;2YU0;2YI0
2YAA0;2YEE0;2YE0;2YO0;2YOA0;2DA0;2DU0;2DI0;2DAA0;2DEE0;2DE0;2DO0;2DWA0;2DDA0;2DDU0;2DDI0;2DDAA0
2DDEE0;2DDE0;2DDO0;2DDWA0;2JA0;2JU0;2JI0;2JAA0;2JEE0;2JE0;2JO0;2JWA0;2GA0;2GU0;2GI0;2GAA0;2GEE0
2GE0;2GO0;2GOA0;2GWA0;1312:0ETHIOPIC SYLLABLE GWI0;2GWAA0;2GWEE0;2GWE0
1318:0ETHIOPIC SYLLABLE GGA0;2GGU0;2GGI0;2GGAA0;2GGEE0;2GGE0;2GGO0;2GGWAA0;2THA0;2THU0;2THI0
2THAA0;2THEE0;2THE0;2THO0;2THWA0;2CHA0;2CHU0;2CHI0;2CHAA0;2CHEE0;2CHE0;2CHO0;2CHWA0;2PHA0;2PHU0
2PHI0;2PHAA0;2PHEE0;2PHE0;2PHO0;2PHWA0;2TSA0;2TSU0;2TSI0;2TSAA0;2TSEE0;2TSE0;2TSO0;2TSWA0;2TZA0
2TZU0;2TZI0;2TZAA0;2TZEE0;2TZE0;2TZO0;2TZOA0;2FA0;2FU0;2FI0;2FAA0;2FEE0;2FE0;2FO0;2FWA0;2PA0;2PU0
2PI0;2PAA0;2PEE0;2PE0;2PO0;2PWA0;2RYA0;2MYA0;2FYA0
135d:0ETHIOPIC COMBINING GEMINATION AND VOWEL LENGTH MARK0;23;2GEMINATION1;1SECTION1;1WORDSPACE0
1FULL STOP0;1COMMA0;1SEMICOLON0;1COLON0;1PREFACE1;1QUESTION MARK0;1PARAGRAPH SEPARATOR0
1DIGIT ONE0;2TWO0;2THREE0;2FOUR0;2FIVE0;2SIX0;2SEVEN0;2EIGHT0;2NINE0;1NUMBER TEN0;2TWENTY0
2THIRTY0;2FORTY0;2FIFTY0;2SIXTY0;2SEVENTY0;2EIGHTY0;2NINETY0;2HUNDRED0;2TEN THOUSAND0
1380:0ETHIOPIC SYLLABLE SEBATBEIT MWA0;2MWI0;2MWEE0;2MWE0;2SEBATBEIT BWA0;2BWI0;2BWEE0;2BWE0
2SEBATBEIT FWA0;2FWI0;2FWEE0;2FWE0;2SEBATBEIT PWA0;2PWI0;2PWEE0;2PWE0;1TONAL MARK YIZET0;3DERET0
3RIKRIK0;3SHORT1;3DIFAT0;3KENAT0;3CHIRET0;3HIDET0;3DERET-HIDET0;3KURT0;13a0:0CHEROKEE LETTER A0
2E0;2I0;2O0;2U0;2V0;2GA0;2KA0;2GE0;2GI0;2GO0;2GU0;2GV0;2HA0;2HE0;2HI0;2HO0;2HU0;2HV0;2LA0;2LE0
2LI0;2LO0;2LU0;2LV0;2MA0;2ME0;2MI0;2MO0;2MU0;2NA0;2HNA0;2NAH0;2NE0;2NI0;2NO0;2NU0;2NV0;2QUA0;2QUE0
2QUI0;2QUO0;2QUU0;2QUV0;2SA0;2S0;2SE0;2SI0;2SO0;2SU0;2SV0;2DA0;2TA0;2DE0;2TE0;2DI0;2TI0;2DO0;2DU0
2DV0;2DLA0;2TLA0;2TLE0;2TLI0;2TLO0;2TLU0;2TLV0;2TSA0;2TSE0;2TSI0;2TSO0;2TSU0;2TSV0;2WA0;2WE0;2WI0
2WO0;2WU0;2WV0;2YA0;2YE0;2YI0;2YO0;2YU0;2YV0;2MV0;13f8:0CHEROKEE SMALL LETTER YE0;3YI0;3YO0;3YU0
3YV0;3MV0;1400:0CANADIAN SYLLABICS HYPHEN0;2E0;2AAI0;2I0;2II0;2O0;2OO0;2Y-CREE1;2CARRIER EE0;3I0
2A0;2AA0;2WE0;2WEST-CREE1;2WI0;2WEST-CREE1;2WII0;2WEST-CREE1;2WO0;2WEST-CREE1;2WOO0;2WEST-CREE1
2NASKAPI1;2WA0;2WEST-CREE1;2WAA0;2WEST-CREE1;2NASKAPI1;2AI0;2Y-CREE W0;2GLOTTAL STOP0
2FINAL ACUTE0;3GRAVE0;3BOTTOM HALF RING0;3TOP2;3RIGHT2;31;3DOUBLE ACUTE0;4SHORT VERTICAL STROKES0
3MIDDLE DOT0;3SHORT HORIZONTAL STROKE0;3PLUS0;3DOWN TACK0;2EN0;2IN0;2ON0;2AN0;2PE0;2PAAI0;2PI0
2PII0;2PO0;2POO0;2Y-CREE1;2CARRIER HEE0;3HI0;2PA0;2PAA0;2PWE0;2WEST-CREE1;2PWI0;2WEST-CREE1;2PWII0
2WEST-CREE1;2PWO0;2WEST-CREE1;2PWOO0;2WEST-CREE1;2PWA0;2WEST-CREE1;2PWAA0;2WEST-CREE1;2Y-CREE1;2P0
2WEST-CREE1;2CARRIER H0;2TE0;2TAAI0;2TI0;2TII0;2TO0;2TOO0;2Y-CREE1;2CARRIER DEE0;3DI0;2TA0;2TAA0
2TWE0;2WEST-CREE1;2TWI0;2WEST-CREE1;2TWII0;2WEST-CREE1;2TWO0;2WEST-CREE1;2TWOO0;2WEST-CREE1;2TWA0
2WEST-CREE1;2TWAA0;2WEST-CREE1;2NASKAPI1;2T0;2TTE0;2TTI0;2TTO0;2TTA0;2KE0;2KAAI0;2KI0;2KII0;2KO0
2KOO0;2Y-CREE1;2KA0;2KAA0;2KWE0;2WEST-CREE1;2KWI0;2WEST-CREE1;2KWII0;2WEST-CREE1;2KWO0;2WEST-CREE1
2KWOO0;2WEST-CREE1;2KWA0;2WEST-CREE1;2KWAA0;2WEST-CREE1;2NASKAPI1;2K0;2KW0;2SOUTH-SLAVEY KEH0
3KIH0;3KOH0;3KAH0;2CE0;2CAAI0;2CI0;2CII0;2CO0;2COO0;2Y-CREE1;2CA0;2CAA0;2CWE0;2WEST-CREE1;2CWI0
2WEST-CREE1;2CWII0;2WEST-CREE1;2CWO0;2WEST-CREE1;2CWOO0;2WEST-CREE1;2CWA0;2WEST-CREE1;2CWAA0
2WEST-CREE1;2NASKAPI1;2C0;2SAYISI TH0;2ME0;2MAAI0;2MI0;2MII0;2MO0;2MOO0;2Y-CREE1;2MA0;2MAA0;2MWE0
2WEST-CREE1;2MWI0;2WEST-CREE1;2MWII0;2WEST-CREE1;2MWO0;2WEST-CREE1;2MWOO0;2WEST-CREE1;2MWA0
2WEST-CREE1;2MWAA0;2WEST-CREE1;2NASKAPI1;2M0;2WEST-CREE1;2MH0;2ATHAPASCAN M0;2SAYISI1;2NE0;2NAAI0
2NI0;2NII0;2NO0;2NOO0;2Y-CREE1;2NA0;2NAA0;2NWE0;2WEST-CREE1;2NWA0;2WEST-CREE1;2NWAA0;2WEST-CREE1
2NASKAPI1;2N0;2CARRIER NG0;2NH0;2LE0;2LAAI0;2LI0;2LII0;2LO0;2LOO0;2Y-CREE1;2LA0;2LAA0;2LWE0
2WEST-CREE1;2LWI0;2WEST-CREE1;2LWII0;2WEST-CREE1;2LWO0;2WEST-CREE1;2LWOO0;2WEST-CREE1;2LWA0
2WEST-CREE1;2LWAA0;2WEST-CREE1;2L0;2WEST-CREE1;2MEDIAL1;2SE0;2SAAI0;2SI0;2SII0;2SO0;2SOO0;2Y-CREE1
2SA0;2SAA0;2SWE0;2WEST-CREE1;2SWI0;2WEST-CREE1;2SWII0;2WEST-CREE1;2SWO0;2WEST-CREE1;2SWOO0
2WEST-CREE1;2SWA0;2WEST-CREE1;2SWAA0;2WEST-CREE1;2NASKAPI1;2S0;2ATHAPASCAN1;2SW0;2BLACKFOOT S0
2MOOSE-CREE SK0;2NASKAPI SKW0;3S-W0;3SPWA0;3STWA0;3SKWA0;3SCWA0;2SHE0;2SHI0;2SHII0;2SHO0;2SHOO0
2SHA0;2SHAA0;2SHWE0;2WEST-CREE1;2SHWI0;2WEST-CREE1;2SHWII0;2WEST-CREE1;2SHWO0;2WEST-CREE1;2SHWOO0
2WEST-CREE1;2SHWA0;2WEST-CREE1;2SHWAA0;2WEST-CREE1;2SH0;2YE0;2YAAI0;2YI0;2YII0;2YO0;2YOO0;2Y-CREE1
2YA0;2YAA0;2YWE0;2WEST-CREE1;2YWI0;2WEST-CREE1;2YWII0;2WEST-CREE1;2YWO0;2WEST-CREE1;2YWOO0
2WEST-CREE1;2YWA0;2WEST-CREE1;2YWAA0;2WEST-CREE1;2NASKAPI1;2Y0;2BIBLE-CREE1;2WEST-CREE1
2SAYISI YI0;2RE0;2R-CREE1;2WEST-CREE LE0;2RAAI0;2RI0;2RII0;2RO0;2ROO0;2WEST-CREE LO0;2RA0;2RAA0
2WEST-CREE LA0;2RWAA0;2WEST-CREE1;2R0;2WEST-CREE1;2MEDIAL1;2FE0;2FAAI0;2FI0;2FII0;2FO0;2FOO0;2FA0
2FAA0;2FWAA0;2WEST-CREE1;2F0;2THE0;2N-CREE1;2THI0;2N-CREE1;2THII0;2N-CREE1;2THO0;2THOO0;2THA0
2THAA0;2THWAA0;2WEST-CREE1;2TH0;2TTHE0;2TTHI0;2TTHO0;2TTHA0;2TTH0;2TYE0;2TYI0;2TYO0;2TYA0
2NUNAVIK HE0;3HI0;3HII0;3HO0;3HOO0;3HA0;3HAA0;3H0;2NUNAVUT1;2HK0;2QAAI0;2QI0;2QII0;2QO0;2QOO0;2QA0
2QAA0;2Q0;2TLHE0;2TLHI0;2TLHO0;2TLHA0;2WEST-CREE RE0;3RI0;3RO0;3RA0;2NGAAI0;2NGI0;2NGII0;2NGO0
2NGOO0;2NGA0;2NGAA0;2NG0;2NNG0;2SAYISI SHE0;3SHI0;3SHO0;3SHA0;2WOODS-CREE THE0;3THI0;3THO0;3THA0
3TH0;2LHI0;2LHII0;2LHO0;2LHOO0;2LHA0;2LHAA0;2LH0;2TH-CREE THE0;3THI0;3THII0;3THO0;3THOO0;3THA0
3THAA0;3TH0;2AIVILIK B0;2BLACKFOOT E0;3I0;3O0;3A0;3WE0;3WI0;3WO0;3WA0;3NE0;3NI0;3NO0;3NA0;3KE0
3KI0;3KO0;3KA0;2SAYISI HE0;3HI0;3HO0;3HA0;2CARRIER GHU0;3GHO0;3GHE0;3GHEE0;3GHI0;3GHA0;3RU0;3RO0
3RE0;3REE0;3RI0;3RA0;3WU0;3WO0;3WE0;3WEE0;3WI0;3WA0;3HWU0;3HWO0;3HWE0;3HWEE0;3HWI0;3HWA0;3THU0
3THO0;3THE0;3THEE0;3THI0;3THA0;3TTU0;3TTO0;3TTE0;3TTEE0;3TTI0;3TTA0;3PU0;3PO0;3PE0;3PEE0;3PI0;3PA0
3P0;3GU0;3GO0;3GE0;3GEE0;3GI0;3GA0;3KHU0;3KHO0;3KHE0;3KHEE0;3KHI0;3KHA0;3KKU0;3KKO0;3KKE0;3KKEE0
3KKI0;3KKA0;3KK0;3NU0;3NO0;3NE0;3NEE0;3NI0;3NA0;3MU0;3MO0;3ME0;3MEE0;3MI0;3MA0;3YU0;3YO0;3YE0
3YEE0;3YI0;3YA0;3JU0;2SAYISI1;2CARRIER JO0;3JE0;3JEE0;3JI0;2SAYISI1;2CARRIER JA0;3JJU0;3JJO0;3JJE0
3JJEE0;3JJI0;3JJA0;3LU0;3LO0;3LE0;3LEE0;3LI0;3LA0;3DLU0;3DLO0;3DLE0;3DLEE0;3DLI0;3DLA0;3LHU0;3LHO0
3LHE0;3LHEE0;3LHI0;3LHA0;3TLHU0;3TLHO0;3TLHE0;3TLHEE0;3TLHI0;3TLHA0;3TLU0;3TLO0;3TLE0;3TLEE0;3TLI0
3TLA0;3ZU0;3ZO0;3ZE0;3ZEE0;3ZI0;3ZA0;3Z0;3INITIAL1;3DZU0;3DZO0;3DZE0;3DZEE0;3DZI0;3DZA0;3SU0;3SO0
3SE0;3SEE0;3SI0;3SA0;3SHU0;3SHO0;3SHE0;3SHEE0;3SHI0;3SHA0;3SH0;3TSU0;3TSO0;3TSE0;3TSEE0;3TSI0
3TSA0;3CHU0;3CHO0;3CHE0;3CHEE0;3CHI0;3CHA0;3TTSU0;3TTSO0;3TTSE0;3TTSEE0;3TTSI0;3TTSA0;2CHI SIGN0
2FULL STOP0;2QAI0;2NGAI0;2NNGI0;2NNGII0;2NNGO0;2NNGOO0;2NNGA0;2NNGAA0;2WOODS-CREE THWEE0;3THWI0
3THWII0;3THWO0;3THWOO0;3THWA0;3THWAA0;3FINAL TH0;2BLACKFOOT W0;0OGHAM SPACE MARK0;1LETTER BEITH0
2LUIS0;2FEARN0;2SAIL0;2NION0;2UATH0;2DAIR0;2TINNE0;2COLL0;2CEIRT0;2MUIN0;2GORT0;2NGEADAL0;2STRAIF0
2RUIS0;2AILM0;2ONN0;2UR0;2EADHADH0;2IODHADH0;2EABHADH0;2OR0;2UILLEANN0;2IFIN0;2EAMHANCHOLL0
2PEITH0;1FEATHER MARK0;1REVERSED2;16a0:0RUNIC LETTER FEHU FEOH FE F0;2V0;2URUZ UR U0;2YR0;2Y0;2W0
2THURISAZ THURS THORN0;2ETH0;2ANSUZ A0;2OS O0;2AC A0;2AESC0;2LONG-BRANCH-OSS O0;2SHORT-TWIG-OSS1
21;2OE0;2ON0;2RAIDO RAD REID R0;2KAUNA0;2CEN0;2KAUN K0;2G0;2ENG0;2GEBO GYFU G0;2GAR0
2WUNJO WYNN W0;2HAGLAZ H0;2HAEGL1;2LONG-BRANCH-HAGALL1;2SHORT-TWIG-HAGALL1;2NAUDIZ NYD NAUD N0
2SHORT-TWIG-NAUD1;2DOTTED-N0;2ISAZ IS ISS I0;2E0;2JERAN J0;2GER0;2LONG-BRANCH-AR AE0
2SHORT-TWIG-AR A0;2IWAZ EOH0;2PERTHO PEORTH P0;2ALGIZ EOLHX0;2SOWILO S0;2SIGEL LONG-BRANCH-SOL1
2SHORT-TWIG-SOL1;2C0;2Z0;2TIWAZ TIR TYR T0;2SHORT-TWIG-TYR1;2D0;2BERKANAN BEORC BJARKAN B0
2SHORT-TWIG-BJARKAN1;2DOTTED-P0;2OPEN-P0;2EHWAZ EH E0;2MANNAZ MAN M0;2LONG-BRANCH-MADR1
2SHORT-TWIG-MADR1;2LAUKAZ LAGU LOGR L0;2DOTTED-L0;2INGWAZ0;2ING0;2DAGAZ DAEG D0;2OTHALAN ETHEL O0
2EAR0;2IOR0;2CWEORTH0;2CALC0;2CEALC0;2STAN0;2LONG-BRANCH-YR0;2SHORT-TWIG-YR0;2ICELANDIC-YR0;2Q0
2X0;1SINGLE PUNCTUATION0;1MULTIPLE1;1CROSS1;1ARLAUG SYMBOL0;1TVIMADUR1;1BELGTHOR1;1LETTER K0;2SH0
2OO0;2FRANKS CASKET OS0;4IS0;4EH0;4AC0;4AESC0;1700:0TAGALOG LETTER A0;2I0;2U0;2KA0;2GA0;2NGA0;2TA0
2DA0;2NA0;2PA0;2BA0;2MA0;2YA0;2RA0;2LA0;2WA0;2SA0;2HA0;1VOWEL SIGN I0;3U0;1SIGN VIRAMA0;2PAMUDPOD0
171f:0TAGALOG LETTER ARCHAIC RA0;0HANUNOO LETTER A0;2I0;2U0;2KA0;2GA0;2NGA0;2TA0;2DA0;2NA0;2PA0
2BA0;2MA0;2YA0;2RA0;2LA0;2WA0;2SA0;2HA0;1VOWEL SIGN I0;3U0;1SIGN PAMUDPOD0
0PHILIPPINE SINGLE PUNCTUATION0;1DOUBLE1;1740:0BUHID LETTER A0;2I0;2U0;2KA0;2GA0;2NGA0;2TA0;2DA0
2NA0;2PA0;2BA0;2MA0;2YA0;2RA0;2LA0;2WA0;2SA0;2HA0;1VOWEL SIGN I0;3U0;1760:0TAGBANWA LETTER A0;2I0
2U0;2KA0;2GA0;2NGA0;2TA0;2DA0;2NA0;2PA0;2BA0;2MA0;2YA0;176e:0TAGBANWA LETTER LA0;2WA0;2SA0
1772:0TAGBANWA VOWEL SIGN I0;3U0;1780:0KHMER LETTER KA0;2KHA0;2KO0;2KHO0;2NGO0;2CA0;2CHA0;2CO0
2CHO0;2NYO0;2DA0;2TTHA0;2DO0;2TTHO0;2NNO0;2TA0;2THA0;2TO0;2THO0;2NO0;2BA0;2PHA0;2PO0;2PHO0;2MO0
2YO0;2RO0;2LO0;2VO0;2SHA0;2SSO0;2SA0;2HA0;2LA0;2QA0;1INDEPENDENT VOWEL QAQ0;3QAA0;3QI0;3QII0;3QU0
3QUK0;3QUU0;3QUUV0;3RY0;3RYY0;3LY0;3LYY0;3QE0;3QAI0;3QOO TYPE ONE0;5TWO0;3QAU0;1VOWEL INHERENT AQ0
3AA0;2SIGN1;3I0;3II0;3Y0;3YY0;3U0;3UU0;3UA0;3OE0;3YA0;3IE0;3E0;3AE0;3AI0;3OO0;3AU0;1SIGN NIKAHIT0
2REAHMUK0;2YUUKALEAPINTU0;2MUUSIKATOAN0;2TRIISAP0;2BANTOC0;2ROBAT0;2TOANDAKHIAT0;2KAKABAT0;2AHSDA0
2SAMYOK SANNYA0;2VIRIAM0;2COENG0;2BATHAMASAT0;2KHAN0;2BARIYOOSAN0;2CAMNUC PII KUUH0;2LEK TOO0
2BEYYAL0;2PHNAEK MUAN0;2KOOMUUT0;1CURRENCY SYMBOL RIEL0;1SIGN AVAKRAHASANYA0;2ATTHACAN0
17e0:0KHMER DIGIT ZERO0;2ONE0;2TWO0;2THREE0;2FOUR0;2FIVE0;2SIX0;2SEVEN0;2EIGHT0;2NINE0
17f0:0KHMER SYMBOL LEK ATTAK SON0;4MUOY0;4PII0;4BEI0;4BUON0;4PRAM0;4PRAM-MUOY0;4PRAM-PII0
4PRAM-BEI0;4PRAM-BUON0;1800:0MONGOLIAN BIRGA0;1ELLIPSIS0;1COMMA0;1FULL STOP0;1COLON0;1FOUR DOTS0
1TODO SOFT HYPHEN0;1SIBE SYLLABLE BOUNDARY MARKER0;1MANCHU COMMA0;2FULL STOP0;1NIRUGU0
1FREE VARIATION SELECTOR ONE0;4TWO0;4THREE0;1VOWEL SEPARATOR0;1FREE VARIATION SELECTOR FOUR0
1DIGIT ZERO0;2ONE0;2TWO0;2THREE0;2FOUR0;2FIVE0;2SIX0;2SEVEN0;2EIGHT0;2NINE0
1820:0MONGOLIAN LETTER A0;2E0;2I0;2O0;2U0;2OE0;2UE0;2EE0;2NA0;2ANG0;2BA0;2PA0;2QA0;2GA0;2MA0;2LA0
2SA0;2SHA0;2TA0;2DA0;2CHA0;2JA0;2YA0;2RA0;2WA0;2FA0;2KA0;2KHA0;2TSA0;2ZA0;2HAA0;2ZRA0;2LHA0;2ZHI0
2CHI0;2TODO LONG VOWEL SIGN0;3E0;3I0;3O0;3U0;3OE0;3UE0;3ANG0;3BA0;3PA0;3QA0;3GA0;3MA0;3TA0;3DA0
3CHA0;3JA0;3TSA0;3YA0;3WA0;3KA0;3GAA0;3HAA0;3JIA0;3NIA0;3DZA0;2SIBE E0;3I0;3IY0;3UE0;3U0;3ANG0
3KA0;3GA0;3HA0;3PA0;3SHA0;3TA0;3DA0;3JA0;3FA0;3GAA0;3HAA0;3TSA0;3ZA0;3RAA0;3CHA0;3ZHA0;2MANCHU I0
3KA0;3RA0;3FA0;3ZHA0;2CHA WITH TWO DOTS0;1880:0MONGOLIAN LETTER ALI GALI ANUSVARA ONE0;4VISARGA1
4DAMARU0;4UBADAMA0;4INVERTED1;4BALUDA0;4THREE1;4A0;4I0;4KA0;4NGA0;4CA0;4TTA0;4TTHA0;4DDA0;4NNA0
4TA0;4DA0;4PA0;4PHA0;4SSA0;4ZHA0;4ZA0;4AH0;2TODO ALI GALI TA0;5ZHA0;2MANCHU ALI GALI GHA0;5NGA0
5CA0;5JHA0;5TTA0;5DDHA0;5TA0;5DHA0;5SSA0;5CYA0;5ZHA0;5ZA0;2ALI GALI HALF U0;5YA0
2MANCHU ALI GALI BHA0;2ALI GALI DAGALGA0;2MANCHU ALI GALI LHA0;18b0:0CANADIAN SYLLABICS OY0;2AY0
2AAY0;2WAY0;2POY0;2PAY0;2PWOY0;2TAY0;2KAY0;2KWAY0;2MAY0;2NOY0;2NAY0;2LAY0;2SOY0;2SAY0;2SHOY0
2SHAY0;2SHWOY0;2YOY0;2YAY0;2RAY0;2NWI0;2OJIBWAY1;2NWII0;2OJIBWAY1;2NWO0;2OJIBWAY1;2NWOO0;2OJIBWAY1
2RWEE0;2RWI0;2RWII0;2RWO0;2RWOO0;2RWA0;2OJIBWAY P0;3T0;3K0;3C0;3M0;3N0;3S0;3SH0;2EASTERN W0
2WESTERN1;2FINAL SMALL RING0;3RAISED DOT0;2R-CREE RWE0;2WEST-CREE LOO0;3LAA0;2THWE0;2THWA0;2TTHWE0
2TTHOO0;2TTHAA0;2TLHWE0;2TLHOO0;2SAYISI SHWE0;3SHOO0;3HOO0;2CARRIER GWU0;3DENE GEE0;3GAA0;3GWA0
2SAYISI JUU0;2CARRIER JWA0;2BEAVER DENE L0;4R0;2CARRIER DENTAL S0
1900:0LIMBU VOWEL-CARRIER LETTER0;1LETTER KA0;2KHA0;2GA0;2GHA0;2NGA0;2CA0;2CHA0;2JA0;2JHA0;2YAN0
2TA0;2THA0;2DA0;2DHA0;2NA0;2PA0;2PHA0;2BA0;2BHA0;2MA0;2YA0;2RA0;2LA0;2WA0;2SHA0;2SSA0;2SA0;2HA0
2GYAN0;2TRA0;1920:0LIMBU VOWEL SIGN A0;3I0;3U0;3EE0;3AI0;3OO0;3AU0;3E0;3O0;1SUBJOINED LETTER YA0
3RA0;3WA0;1930:0LIMBU SMALL LETTER KA0;3NGA0;3ANUSVARA0;3TA0;3NA0;3PA0;3MA0;3RA0;3LA0
1SIGN MUKPHRENG0;2KEMPHRENG0;2SA-I0;1940:0LIMBU SIGN LOO0;1944:0LIMBU EXCLAMATION MARK0;1QUESTION1
1DIGIT ZERO0;2ONE0;2TWO0;2THREE0;2FOUR0;2FIVE0;2SIX0;2SEVEN0;2EIGHT0;2NINE0;0TAI LE LETTER KA0
3XA0;3NGA0;3TSA0;3SA0;3YA0;3TA0;3THA0;3LA0;3PA0;3PHA0;3MA0;3FA0;3VA0;3HA0;3QA0;3KHA0;3TSHA0;3NA0
3A0;3I0;3EE0;3EH0;3U0;3OO0;3O0;3UE0;3E0;3AUE0;3AI0;1970:0TAI LE LETTER TONE-20;3TONE-30;3TONE-40
3TONE-50;3TONE-60;1980:0NEW TAI LUE LETTER HIGH QA0;4LOW1;4HIGH KA0;5XA0;5NGA0;4LOW KA0;5XA0;5NGA0
4HIGH TSA0;5SA0;5YA0;4LOW TSA0;5SA0;5YA0;4HIGH TA0;5THA0;5NA0;4LOW TA0;5THA0;5NA0;4HIGH PA0;5PHA0
5MA0;4LOW PA0;5PHA0;5MA0;4HIGH FA0;5VA0;5LA0;4LOW FA0;5VA0;5LA0;4HIGH HA0;5DA0;5BA0;4LOW HA0;5DA0
5BA0;4HIGH KVA0;5XVA0;4LOW KVA0;5XVA0;4HIGH SUA0;4LOW1
19b0:0NEW TAI LUE VOWEL SIGN VOWEL SHORTENER0;5AA0;5II0;5U0;5UU0;5E0;5AE0;5O0;5OA0;5UE0;5AY0;5AAY0
5UY0;5OY0;5OAY0;5UEY0;5IY0;3LETTER FINAL V0;5NG0;5N0;5M0;5K0;5D0;5B0;3TONE MARK-10;4MARK-20
19d0:0NEW TAI LUE DIGIT ZERO0;4ONE0;4TWO0;4THREE0;4FOUR0;4FIVE0;4SIX0;4SEVEN0;4EIGHT0;4NINE0
3THAM DIGIT ONE0;19de:0NEW TAI LUE SIGN LAE0;4LAEV0;0KHMER SYMBOL PATHAMASAT0;2MUOY KOET0;2PII1
2BEI1;2BUON1;2PRAM1;2PRAM-MUOY1;2PRAM-PII1;2PRAM-BEI1;2PRAM-BUON1;2DAP1;2DAP-MUOY1;2DAP-PII1
2DAP-BEI1;2DAP-BUON1;2DAP-PRAM1;2TUTEYASAT0;2MUOY ROC0;2PII1;2BEI1;2BUON1;2PRAM1;2PRAM-MUOY1
2PRAM-PII1;2PRAM-BEI1;2PRAM-BUON1;2DAP1;2DAP-MUOY1;2DAP-PII1;2DAP-BEI1;2DAP-BUON1;2DAP-PRAM1
0BUGINESE LETTER KA0;2GA0;2NGA0;2NGKA0;2PA0;2BA0;2MA0;2MPA0;2TA0;2DA0;2NA0;2NRA0;2CA0;2JA0;2NYA0
2NYCA0;2YA0;2RA0;2LA0;2VA0;2SA0;2A0;2HA0;1VOWEL SIGN I0;3U0;3E0;3O0;3AE0;1a1e:0BUGINESE PALLAWA0
1END OF SECTION0;0TAI THAM LETTER HIGH KA0;4KHA0;4KXA0;3LOW KA0;4KXA0;4KHA0;3NGA0;3HIGH CA0;4CHA0
3LOW CA0;4SA0;4CHA0;3NYA0;3RATA0;3HIGH RATHA0;3DA0;3LOW RATHA0;3RANA0;3HIGH TA0;4THA0;3LOW TA0
4THA0;3NA0;3BA0;3HIGH PA0;4PHA0;4FA0;3LOW PA0;4FA0;4PHA0;3MA0;3LOW YA0;3HIGH1;3RA0;3RUE0;3LA0
3LUE0;3WA0;3HIGH SHA0;4SSA0;4SA0;4HA0;3LLA0;3A0;3LOW HA0;3I0;3II0;3U0;3UU0;3EE0;3OO0;3LAE0
3GREAT SA0;2CONSONANT SIGN MEDIAL RA0;5LA0;4LA TANG LAI0;2SIGN MAI KANG1
2CONSONANT SIGN FINAL NGA0;4LOW PA0;4HIGH RATHA OR2;4MA0;4BA0;4SA0;1a60:0TAI THAM SIGN SAKOT0
2VOWEL SIGN A0;4MAI SAT0;4AA0;4TALL1;4I0;4II0;4UE0;4UUE0;4U0;4UU0;4O0;4OA BELOW0;4OY0;4E0;4AE0
4OO0;4AI0;4THAM1;4OA ABOVE0;2SIGN MAI KANG0;3TONE-10;3TONE-20;3KHUEN TONE-30;4TONE-40;4TONE-50
3RA HAAM0;3MAI SAM0;3KHUEN-LUE KARAN0;1a7f:0TAI THAM COMBINING CRYPTOGRAMMIC DOT0
2HORA DIGIT ZERO0;4ONE0;4TWO0;4THREE0;4FOUR0;4FIVE0;4SIX0;4SEVEN0;4EIGHT0;4NINE0
1a90:0TAI THAM THAM DIGIT ZERO0;4ONE0;4TWO0;4THREE0;4FOUR0;4FIVE0;4SIX0;4SEVEN0;4EIGHT0;4NINE0
1aa0:0TAI THAM SIGN WIANG0;3WIANGWAAK0;3SAWAN0;3KEOW0;3HOY0;3DOKMAI0;3REVERSED ROTATED RANA0
3MAI YAMOK0;3KAAN0;3KAANKUU0;3SATKAAN0;3SATKAANKUU0;3HANG0;3CAANG0
1ab0:0COMBINING DOUBLED CIRCUMFLEX ACCENT0;1DIAERESIS-RING0;1INFINITY0;1DOWNWARDS ARROW0
1TRIPLE DOT0;1X-X BELOW0;1WIGGLY LINE1;1OPEN MARK1;1DOUBLE3;1LIGHT CENTRALIZATION STROKE1;1STRONG3
1PARENTHESES ABOVE0;1DOUBLE2;1PARENTHESES BELOW0;2OVERLAY0;1LATIN SMALL LETTER W BELOW0;4TURNED2
1LEFT PARENTHESIS ABOVE LEFT0;1RIGHT PARENTHESIS ABOVE RIGHT0;1LEFT PARENTHESIS BELOW LEFT0
1RIGHT PARENTHESIS BELOW RIGHT0;1SQUARE BRACKETS ABOVE0;1NUMBER SIGN1;1INVERTED DOUBLE ARCH1
1PLUS SIGN1;1DOUBLE3;4BELOW0;1TRIPLE ACUTE ACCENT0;1LATIN SMALL LETTER INSULAR G0;5R0;5T0
1b00:0BALINESE SIGN ULU RICEM0;3CANDRA0;2CECEK0;2SURANG0;2BISAH0;1LETTER AKARA0;3TEDUNG0;2IKARA0
3TEDUNG0;2UKARA0;3TEDUNG0;2RA REPA0;4TEDUNG0;2LA LENGA0;4TEDUNG0;2EKARA0;2AIKARA0;2OKARA0;3TEDUNG0
2KA0;3MAHAPRANA0;2GA0;3GORA0;2NGA0;2CA0;3LACA0;2JA0;3JERA0;2NYA0;2TA LATIK0;3MURDA MAHAPRANA0
2DA MURDA ALPAPRANA0;4MAHAPRANA0;2NA RAMBAT0;2TA0;3TAWA0;2DA0;3MADU0;2NA0;2PA0;3KAPAL0;2BA0
3KEMBANG0;2MA0;2YA0;2RA0;2LA0;2WA0;2SA SAGA0;3SAPA0;30;2HA0;1SIGN REREKAN0;1VOWEL SIGN TEDUNG0
3ULU0;4SARI0;3SUKU0;4ILUT0;3RA REPA0;5TEDUNG0;3LA LENGA0;5TEDUNG0;3TALING0;4REPA0;4TEDUNG0;4REPA1
3PEPET0;4TEDUNG0;1ADEG ADEG0;1LETTER KAF SASAK0;2KHOT1;2TZIR1;2EF1;2VE1;2ZAL1;2ASYURA1
2ARCHAIC JNYA0;1b50:0BALINESE DIGIT ZERO0;2ONE0;2TWO0;2THREE0;2FOUR0;2FIVE0;2SIX0;2SEVEN0;2EIGHT0
2NINE0;1PANTI0;1PAMADA0;1WINDU0;1CARIK PAMUNGKAH0;2SIKI0;2PAREREN0;1PAMENENG0
1MUSICAL SYMBOL DONG0;3DENG0;3DUNG0;3DANG0;4SURANG0;3DING0;3DAENG0;3DEUNG0;3DAING0;3DANG GEDE0
3COMBINING TEGEH0;4ENDEP0;4KEMPUL0;4KEMPLI0;4JEGOGAN0;4KEMPUL WITH1;4KEMPLI2;4BENDE0;4GONG0
3RIGHT-HAND OPEN DUG0;5DAG0;4CLOSED TUK0;5TAK0;3LEFT-HAND OPEN PANG0;5PUNG0;4CLOSED PLAK0;5PLUK0
4OPEN PING0;1PANTI LANTANG0;1PAMADA1;1b80:0SUNDANESE SIGN PANYECEK0;2PANGLAYAR0;2PANGWISAD0
1LETTER A0;2I0;2U0;2AE0;2O0;2E0;2EU0;2KA0;2QA0;2GA0;2NGA0;2CA0;2JA0;2ZA0;2NYA0;2TA0;2DA0;2NA0;2PA0
2FA0;2VA0;2BA0;2MA0;2YA0;2RA0;2LA0;2WA0;2SA0;2XA0;2HA0;1CONSONANT SIGN PAMINGKAL0;3PANYAKRA0
3PANYIKU0;1VOWEL SIGN PANGHULU0;3PANYUKU0;3PANAELAENG0;3PANOLONG0;3PAMEPET0;3PANEULEUNG0
1SIGN PAMAAEH0;2VIRAMA0;1CONSONANT SIGN PASANGAN MA0;4WA0;1LETTER KHA0;2SYA0;1DIGIT ZERO0;2ONE0
2TWO0;2THREE0;2FOUR0;2FIVE0;2SIX0;2SEVEN0;2EIGHT0;2NINE0;1AVAGRAHA0;1LETTER REU0;2LEU0;2BHA0
2FINAL K0;3M0;0BATAK LETTER A0;2SIMALUNGUN1;2HA0;2SIMALUNGUN1;2MANDAILING1;2BA0;2KARO1;2PA0
2SIMALUNGUN1;2NA0;2MANDAILING1;2WA0;2SIMALUNGUN1;2PAKPAK1;2GA0;2SIMALUNGUN1;2JA0;2DA0;2RA0
2SIMALUNGUN1;2MA0;2SIMALUNGUN1;2SOUTHERN TA0;2NORTHERN1;2SA0;2SIMALUNGUN1;2MANDAILING1;2YA0
2SIMALUNGUN1;2NGA0;2LA0;2SIMALUNGUN1;2NYA0;2CA0;2NDA0;2MBA0;2I0;2U0;1SIGN TOMPI0;1VOWEL SIGN E0
3PAKPAK1;3EE0;3I0;3KARO1;3O0;3KARO1;3U0;4FOR SIMALUNGUN SA0;1CONSONANT SIGN NG0;3H0;1PANGOLAT0
1PANONGONAN0;1bfc:0BATAK SYMBOL BINDU NA METEK0;3PINARBORAS0;3JUDUL0;3PANGOLAT0;0LEPCHA LETTER KA0
2KLA0;2KHA0;2GA0;2GLA0;2NGA0;2CA0;2CHA0;2JA0;2NYA0;2TA0;2THA0;2DA0;2NA0;2PA0;2PLA0;2PHA0;2FA0
2FLA0;2BA0;2BLA0;2MA0;2MLA0;2TSA0;2TSHA0;2DZA0;2YA0;2RA0;2LA0;2HA0;2HLA0;2VA0;2SA0;2SHA0;2WA0;2A0
1SUBJOINED LETTER YA0;3RA0;1VOWEL SIGN AA0;3I0;3O0;3OO0;3U0;3UU0;3E0;1CONSONANT SIGN K0;3M0;3L0
3N0;3P0;3R0;3T0;3NYIN-DO0;3KANG0;1SIGN RAN0;2NUKTA0;1c3b:0LEPCHA PUNCTUATION TA-ROL0;2NYET THYOOM1
2CER-WA0;2TSHOOK1;30;1DIGIT ZERO0;2ONE0;2TWO0;2THREE0;2FOUR0;2FIVE0;2SIX0;2SEVEN0;2EIGHT0;2NINE0
1c4d:0LEPCHA LETTER TTA0;2TTHA0;2DDA0;0OL CHIKI DIGIT ZERO0;3ONE0;3TWO0;3THREE0;3FOUR0;3FIVE0
3SIX0;3SEVEN0;3EIGHT0;3NINE0;2LETTER LA0;3AT0;3AG0;3ANG0;3AL0;3LAA0;3AAK0;3AAJ0;3AAM0;3AAW0;3LI0
3IS0;3IH0;3INY0;3IR0;3LU0;3UC0;3UD0;3UNN0;3UY0;3LE0;3EP0;3EDD0;3EN0;3ERR0;3LO0;3OTT0;3OB0;3OV0
3OH0;2MU TTUDDAG0;2GAAHLAA TTUDDAAG0;2MU-GAAHLAA1;2RELAA0;2PHAARKAA0;2AHAD0;2PUNCTUATION MUCAAD0
3DOUBLE1;0CYRILLIC SMALL LETTER ROUNDED VE0;3LONG-LEGGED DE0;3NARROW O0;3WIDE ES0;3TALL TE0
3THREE-LEGGED1;3TALL HARD SIGN0;4YAT0;3UNBLENDED UK0;1c90:0GEORGIAN MTAVRULI CAPITAL LETTER AN0
4BAN0;4GAN0;4DON0;4EN0;4VIN0;4ZEN0;4TAN0;4IN0;4KAN0;4LAS0;4MAN0;4NAR0;4ON0;4PAR0;4ZHAR0;4RAE0
4SAN0;4TAR0;4UN0;4PHAR0;4KHAR0;4GHAN0;4QAR0;4SHIN0;4CHIN0;4CAN0;4JIL0;4CIL0;4CHAR0;4XAN0;4JHAN0
4HAE0;4HE0;4HIE0;4WE0;4HAR0;4HOE0;4FI0;4YN0;4ELIFI0;4TURNED GAN0;4AIN0
1cbd:0GEORGIAN MTAVRULI CAPITAL LETTER AEN0;4HARD SIGN0;4LABIAL1
0SUNDANESE PUNCTUATION BINDU SURYA0;3PANGLONG0;3PURNAMA0;3CAKRA0;3LEU SATANGA0;3KA1;3DA1;3BA1
1cd0:0VEDIC TONE KARSHANA0;2SHARA0;2PRENKHA0;1SIGN NIHSHVASA0;2YAJURVEDIC MIDLINE SVARITA0
1TONE YAJURVEDIC AGGRAVATED INDEPENDENT1;32;3KATHAKA2;2CANDRA BELOW0
2YAJURVEDIC KATHAKA INDEPENDENT SVARITA SCHROEDER0;2DOUBLE SVARITA0;2TRIPLE1;2KATHAKA ANUDATTA0
2DOT BELOW0;2TWO DOTS1;2THREE2;2RIGVEDIC KASHMIRI INDEPENDENT SVARITA0;2ATHARVAVEDIC2
1SIGN VISARGA1;3UDATTA0;2REVERSED2;2VISARGA ANUDATTA0;2REVERSED2;2VISARGA UDATTA WITH TAIL0
3ANUDATTA2;2ANUSVARA ANTARGOMUKHA0;3BAHIRGOMUKHA0;3VAMAGOMUKHA0;4WITH TAIL0;2TIRYAK0
2HEXIFORM LONG ANUSVARA0;22;2RTHANG2;2ANUSVARA UBHAYATO MUKHA0;2ARDHAVISARGA0;2ROTATED1
1TONE CANDRA ABOVE0;1SIGN JIHVAMULIYA0;2UPADHMANIYA0;2ATIKRAMA0;1TONE RING ABOVE0;2DOUBLE2
1SIGN DOUBLE ANUSVARA ANTARGOMUKHA0;1d00:0LATIN LETTER SMALL CAPITAL A0;4AE0;1SMALL LETTER TURNED1
1LETTER SMALL CAPITAL BARRED B0;4C0;4D0;4ETH0;4E0;1SMALL LETTER TURNED OPEN1;4I0
1LETTER SMALL CAPITAL J0;4K0;4L WITH STROKE0;4M0;4REVERSED N0;4O0;4OPEN1;1SMALL LETTER SIDEWAYS1
4OPEN1;4O WITH STROKE0;3TURNED OE0;1LETTER SMALL CAPITAL OU0;1SMALL LETTER TOP HALF O0;3BOTTOM2
1LETTER SMALL CAPITAL P0;4REVERSED R0;4TURNED1;4T0;4U0;1SMALL LETTER SIDEWAYS1;4DIAERESIZED1
4TURNED M0;1LETTER SMALL CAPITAL V0;4W0;4Z0;4EZH0;2VOICED LARYNGEAL SPIRANT0;2AIN0
0GREEK LETTER SMALL CAPITAL GAMMA0;4LAMDA0;4PI0;4RHO0;4PSI0;0CYRILLIC LETTER SMALL CAPITAL EL0
0MODIFIER LETTER CAPITAL A0;3AE0;3B0;3BARRED1;3D0;3E0;3REVERSED1;3G0;3H0;3I0;3J0;3K0;3L0;3M0;3N0
3REVERSED1;3O0;3OU0;3P0;3R0;3T0;3U0;3W0;2SMALL A0;3TURNED1;3ALPHA0;3TURNED AE0;3B0;3D0;3E0;3SCHWA0
3OPEN E0;3TURNED2;3G0;3TURNED I0;3K0;3M0;3ENG0;3O0;3OPEN1;3TOP HALF1;3BOTTOM2;3P0;3T0;3U0
3SIDEWAYS1;3TURNED M0;3V0;3AIN0;3BETA0;3GREEK GAMMA0;3DELTA0;3GREEK PHI0;3CHI0
0LATIN SUBSCRIPT SMALL LETTER I0;4R0;4U0;4V0;0GREEK SUBSCRIPT SMALL LETTER BETA0;4GAMMA0;4RHO0
4PHI0;4CHI0;0LATIN SMALL LETTER UE0;3B WITH MIDDLE TILDE0;3D3;3F3;3M3;3N3;3P3;3R3;5FISHHOOK AND2
3S WITH2;3T3;3Z3;3TURNED G0;0MODIFIER LETTER CYRILLIC EN0;0LATIN SMALL LETTER INSULAR G0
3TH WITH STRIKETHROUGH0;2CAPITAL LETTER I WITH STROKE0;2LETTER IOTA2;3P2;2CAPITAL LETTER U2
2LETTER UPSILON2;3B WITH PALATAL HOOK0;3D3;3F3;3G3;3K3;3L3;3M3;3N3;3P3;3R3;3S3;3ESH3;3V3;3X3;3Z3
3A WITH RETROFLEX1;3ALPHA3;3D WITH HOOK AND TAIL0;3E WITH RETROFLEX HOOK0;3OPEN4;3REVERSED5
3SCHWA3;3I3;3OPEN O3;3ESH3;3U3;3EZH3;0MODIFIER LETTER SMALL TURNED ALPHA0;3C0;4WITH CURL0;3ETH0
3REVERSED OPEN E0;3F0;3DOTLESS J WITH STROKE0;3SCRIPT G0;3TURNED H0;3I WITH STROKE0;3IOTA0
3CAPITAL I0;5WITH STROKE0;3J WITH CROSSED-TAIL0;3L WITH RETROFLEX HOOK0;5PALATAL1;3CAPITAL L0
3M WITH HOOK0;3TURNED M WITH LONG LEG0;3N WITH LEFT HOOK0;5RETROFLEX1;3CAPITAL N0;3BARRED O0;3PHI0
3S WITH HOOK0;3ESH0;3T WITH PALATAL HOOK0;3U BAR0;3UPSILON0;3CAPITAL U0;3V WITH HOOK0;3TURNED V0
3Z0;4WITH RETROFLEX HOOK0;5CURL0;3EZH0;3THETA0;0COMBINING DOTTED GRAVE ACCENT0;2ACUTE1
1SNAKE BELOW0;1SUSPENSION MARK0;1MACRON-ACUTE0;1GRAVE-MACRON0;1MACRON-GRAVE0;1ACUTE-MACRON0
1GRAVE-ACUTE-GRAVE0;1ACUTE-GRAVE-ACUTE0;1LATIN SMALL LETTER R BELOW0;1BREVE-MACRON0;1MACRON-BREVE0
1DOUBLE CIRCUMFLEX ABOVE0;1OGONEK1;1ZIGZAG BELOW0;1IS1;1UR ABOVE0;1US1
1LATIN SMALL LETTER FLATTENED OPEN A1;4AE0;4AO0;4AV0;4C CEDILLA0;4INSULAR D0;4ETH0;4G0
2LETTER SMALL CAPITAL1;2SMALL LETTER K0;4L0;2LETTER SMALL CAPITAL1;5M0;2SMALL LETTER N0
2LETTER SMALL CAPITAL1;5R0;2SMALL LETTER R ROTUNDA0;4S0;4LONG1;4Z0;4ALPHA0;4B0;4BETA0;4SCHWA0;4F0
4L WITH DOUBLE MIDDLE TILDE0;4O WITH LIGHT CENTRALIZATION STROKE0;4P0;4ESH0
4U WITH LIGHT CENTRALIZATION STROKE0;4W0;4A WITH DIAERESIS0;4O2;4U2;1UP TACK ABOVE0
1KAVYKA ABOVE RIGHT0;3LEFT0;1DOT2;1WIDE INVERTED BRIDGE BELOW0;1DOT BELOW LEFT0;1DELETION MARK0
1DOUBLE INVERTED BREVE BELOW0;1ALMOST EQUAL TO1;1LEFT ARROWHEAD ABOVE0
1RIGHT ARROWHEAD AND DOWN ARROWHEAD BELOW0;0LATIN CAPITAL LETTER A WITH RING1;1SMALL5
1CAPITAL LETTER B WITH DOT ABOVE0;1SMALL5;1CAPITAL LETTER B WITH DOT BELOW0;1SMALL5
1CAPITAL LETTER B WITH LINE1;1SMALL5;1CAPITAL LETTER C WITH CEDILLA AND ACUTE0;1SMALL6
1CAPITAL LETTER D WITH DOT ABOVE0;1SMALL5;1CAPITAL LETTER D WITH DOT BELOW0;1SMALL5
1CAPITAL LETTER D WITH LINE1;1SMALL5;1CAPITAL LETTER D WITH CEDILLA0;1SMALL4
1CAPITAL LETTER D WITH CIRCUMFLEX BELOW0;1SMALL5;1CAPITAL LETTER E WITH MACRON AND GRAVE0;1SMALL6
1CAPITAL LETTER E WITH MACRON AND ACUTE0;1SMALL6;1CAPITAL LETTER E WITH CIRCUMFLEX BELOW0;1SMALL5
1CAPITAL LETTER E WITH TILDE1;1SMALL5;1CAPITAL LETTER E WITH CEDILLA AND BREVE0;1SMALL6
1CAPITAL LETTER F WITH DOT ABOVE0;1SMALL5;1CAPITAL LETTER G WITH MACRON0;1SMALL4
1CAPITAL LETTER H WITH DOT ABOVE0;1SMALL5;1CAPITAL LETTER H WITH DOT BELOW0;1SMALL5
1CAPITAL LETTER H WITH DIAERESIS0;1SMALL4;1CAPITAL LETTER H WITH CEDILLA0;1SMALL4
1CAPITAL LETTER H WITH BREVE BELOW0;1SMALL5;1CAPITAL LETTER I WITH TILDE1;1SMALL5
1CAPITAL LETTER I WITH DIAERESIS AND ACUTE0;1SMALL6;1CAPITAL LETTER K WITH1;1SMALL4
1CAPITAL LETTER K WITH DOT BELOW0;1SMALL5;1CAPITAL LETTER K WITH LINE1;1SMALL5
1CAPITAL LETTER L WITH DOT1;1SMALL5;1CAPITAL LETTER L WITH DOT BELOW AND MACRON0;1SMALL7
1CAPITAL LETTER L WITH LINE BELOW0;1SMALL5;1CAPITAL LETTER L WITH CIRCUMFLEX1;1SMALL5
1CAPITAL LETTER M WITH ACUTE0;1SMALL4;1CAPITAL LETTER M WITH DOT ABOVE0;1SMALL5
1CAPITAL LETTER M WITH DOT BELOW0;1SMALL5;1CAPITAL LETTER N WITH DOT ABOVE0;1SMALL5
1CAPITAL LETTER N WITH DOT BELOW0;1SMALL5;1CAPITAL LETTER N WITH LINE1;1SMALL5
1CAPITAL LETTER N WITH CIRCUMFLEX1;1SMALL5;1CAPITAL LETTER O WITH TILDE AND ACUTE0;1SMALL6
1CAPITAL LETTER O WITH TILDE AND DIAERESIS0;1SMALL6;1CAPITAL LETTER O WITH MACRON AND GRAVE0
1SMALL6;1CAPITAL LETTER O WITH MACRON AND ACUTE0;1SMALL6;1CAPITAL LETTER P WITH1;1SMALL4
1CAPITAL LETTER P WITH DOT ABOVE0;1SMALL5;1CAPITAL LETTER R3;1SMALL5
1CAPITAL LETTER R WITH DOT BELOW0;1SMALL5;1CAPITAL LETTER R WITH DOT BELOW AND MACRON0;1SMALL7
1CAPITAL LETTER R WITH LINE BELOW0;1SMALL5;1CAPITAL LETTER S WITH DOT ABOVE0;1SMALL5
1CAPITAL LETTER S WITH DOT BELOW0;1SMALL5;1CAPITAL LETTER S WITH ACUTE AND DOT ABOVE0;1SMALL7
1CAPITAL LETTER S WITH CARON3;1SMALL7;1CAPITAL LETTER S WITH DOT BELOW3;1SMALL8
1CAPITAL LETTER T WITH2;1SMALL5;1CAPITAL LETTER T WITH DOT BELOW0;1SMALL5
1CAPITAL LETTER T WITH LINE1;1SMALL5;1CAPITAL LETTER T WITH CIRCUMFLEX1;1SMALL5
1CAPITAL LETTER U WITH DIAERESIS1;1SMALL5;1CAPITAL LETTER U WITH TILDE1;1SMALL5
1CAPITAL LETTER U WITH CIRCUMFLEX1;1SMALL5;1CAPITAL LETTER U WITH TILDE AND ACUTE0;1SMALL6
1CAPITAL LETTER U WITH MACRON AND DIAERESIS0;1SMALL6;1CAPITAL LETTER V WITH TILDE0;1SMALL4
1CAPITAL LETTER V WITH DOT BELOW0;1SMALL5;1CAPITAL LETTER W WITH GRAVE0;1SMALL4
1CAPITAL LETTER W WITH ACUTE0;1SMALL4;1CAPITAL LETTER W WITH DIAERESIS0;1SMALL4
1CAPITAL LETTER W WITH DOT ABOVE0;1SMALL5;1CAPITAL LETTER W WITH DOT BELOW0;1SMALL5
1CAPITAL LETTER X WITH DOT ABOVE0;1SMALL5;1CAPITAL LETTER X WITH DIAERESIS0;1SMALL4
1CAPITAL LETTER Y WITH DOT ABOVE0;1SMALL5;1CAPITAL LETTER Z WITH CIRCUMFLEX0;1SMALL4
1CAPITAL LETTER Z WITH DOT BELOW0;1SMALL5;1CAPITAL LETTER Z WITH LINE1;1SMALL5;3H3
3T WITH DIAERESIS0;3W WITH RING ABOVE0;3Y3;3A WITH RIGHT HALF RING0;3LONG S WITH DOT ABOVE0
6DIAGONAL STROKE0;6HIGH1;1CAPITAL LETTER SHARP S0;1SMALL LETTER DELTA0
1CAPITAL LETTER A WITH DOT BELOW0;1SMALL5;1CAPITAL LETTER A WITH HOOK ABOVE0;1SMALL5
1CAPITAL LETTER A WITH CIRCUMFLEX AND ACUTE0;1SMALL6;1CAPITAL LETTER A WITH CIRCUMFLEX AND GRAVE0
1SMALL6;1CAPITAL LETTER A WITH CIRCUMFLEX AND HOOK ABOVE0;1SMALL7
1CAPITAL LETTER A WITH CIRCUMFLEX AND TILDE0;1SMALL6
1CAPITAL LETTER A WITH CIRCUMFLEX AND DOT BELOW0;1SMALL7;1CAPITAL LETTER A WITH BREVE AND ACUTE0
1SMALL6;1CAPITAL LETTER A WITH BREVE AND GRAVE0;1SMALL6
1CAPITAL LETTER A WITH BREVE AND HOOK ABOVE0;1SMALL7;1CAPITAL LETTER A WITH BREVE AND TILDE0
1SMALL6;1CAPITAL LETTER A WITH BREVE AND DOT BELOW0;1SMALL7;1CAPITAL LETTER E WITH2;1SMALL5
1CAPITAL LETTER E WITH HOOK ABOVE0;1SMALL5;1CAPITAL LETTER E WITH TILDE0;1SMALL4
1CAPITAL LETTER E WITH CIRCUMFLEX AND ACUTE0;1SMALL6;1CAPITAL LETTER E WITH CIRCUMFLEX AND GRAVE0
1SMALL6;1CAPITAL LETTER E WITH CIRCUMFLEX AND HOOK ABOVE0;1SMALL7
1CAPITAL LETTER E WITH CIRCUMFLEX AND TILDE0;1SMALL6
1CAPITAL LETTER E WITH CIRCUMFLEX AND DOT BELOW0;1SMALL7;1CAPITAL LETTER I WITH HOOK ABOVE0
1SMALL5;1CAPITAL LETTER I WITH DOT BELOW0;1SMALL5;1CAPITAL LETTER O3;1SMALL5
1CAPITAL LETTER O WITH HOOK ABOVE0;1SMALL5;1CAPITAL LETTER O WITH CIRCUMFLEX AND ACUTE0;1SMALL6
1CAPITAL LETTER O WITH CIRCUMFLEX AND GRAVE0;1SMALL6
1CAPITAL LETTER O WITH CIRCUMFLEX AND HOOK ABOVE0;1SMALL7
1CAPITAL LETTER O WITH CIRCUMFLEX AND TILDE0;1SMALL6
1CAPITAL LETTER O WITH CIRCUMFLEX AND DOT BELOW0;1SMALL7;1CAPITAL LETTER O WITH HORN AND ACUTE0
1SMALL6;1CAPITAL LETTER O WITH HORN AND GRAVE0;1SMALL6;1CAPITAL LETTER O WITH HORN AND HOOK ABOVE0
1SMALL7;1CAPITAL LETTER O WITH HORN AND TILDE0;1SMALL6;1CAPITAL LETTER O WITH HORN AND DOT BELOW0
1SMALL7;1CAPITAL LETTER U WITH2;1SMALL5;1CAPITAL LETTER U WITH HOOK ABOVE0;1SMALL5
1CAPITAL LETTER U WITH HORN AND ACUTE0;1SMALL6;1CAPITAL LETTER U WITH HORN AND GRAVE0;1SMALL6
1CAPITAL LETTER U WITH HORN AND HOOK ABOVE0;1SMALL7;1CAPITAL LETTER U WITH HORN AND TILDE0;1SMALL6
1CAPITAL LETTER U WITH HORN AND DOT BELOW0;1SMALL7;1CAPITAL LETTER Y WITH GRAVE0;1SMALL4
1CAPITAL LETTER Y WITH DOT BELOW0;1SMALL5;1CAPITAL LETTER Y WITH HOOK ABOVE0;1SMALL5
1CAPITAL LETTER Y WITH TILDE0;1SMALL4;1CAPITAL LETTER MIDDLE-WELSH LL0;1SMALL3
1CAPITAL LETTER MIDDLE-WELSH V0;1SMALL3;1CAPITAL LETTER Y WITH LOOP0;1SMALL4
0GREEK SMALL LETTER ALPHA WITH PSILI0;5DASIA0;5PSILI AND VARIA0;5DASIA2;5PSILI AND OXIA0;5DASIA2
5PSILI AND PERISPOMENI0;5DASIA2;1CAPITAL LETTER ALPHA WITH PSILI0;5DASIA0;5PSILI AND VARIA0
5DASIA2;5PSILI AND OXIA0;5DASIA2;5PSILI AND PERISPOMENI0;5DASIA2;1SMALL LETTER EPSILON WITH PSILI0
5DASIA0;5PSILI AND VARIA0;5DASIA2;5PSILI AND OXIA0;5DASIA2
1f18:0GREEK CAPITAL LETTER EPSILON WITH PSILI0;5DASIA0;5PSILI AND VARIA0;5DASIA2;5PSILI AND OXIA0
5DASIA2;1f20:0GREEK SMALL LETTER ETA WITH PSILI0;5DASIA0;5PSILI AND VARIA0;5DASIA2
5PSILI AND OXIA0;5DASIA2;5PSILI AND PERISPOMENI0;5DASIA2;1CAPITAL LETTER ETA WITH PSILI0;5DASIA0
5PSILI AND VARIA0;5DASIA2;5PSILI AND OXIA0;5DASIA2;5PSILI AND PERISPOMENI0;5DASIA2
1SMALL LETTER IOTA WITH PSILI0;5DASIA0;5PSILI AND VARIA0;5DASIA2;5PSILI AND OXIA0;5DASIA2
5PSILI AND PERISPOMENI0;5DASIA2;1CAPITAL LETTER IOTA WITH PSILI0;5DASIA0;5PSILI AND VARIA0;5DASIA2
5PSILI AND OXIA0;5DASIA2;5PSILI AND PERISPOMENI0;5DASIA2;1SMALL LETTER OMICRON WITH PSILI0;5DASIA0
5PSILI AND VARIA0;5DASIA2;5PSILI AND OXIA0;5DASIA2;1f48:0GREEK CAPITAL LETTER OMICRON WITH PSILI0
5DASIA0;5PSILI AND VARIA0;5DASIA2;5PSILI AND OXIA0;5DASIA2
1f50:0GREEK SMALL LETTER UPSILON WITH PSILI0;5DASIA0;5PSILI AND VARIA0;5DASIA2;5PSILI AND OXIA0
5DASIA2;5PSILI AND PERISPOMENI0;5DASIA2;1f59:0GREEK CAPITAL LETTER UPSILON WITH DASIA0
1f5b:0GREEK CAPITAL LETTER UPSILON WITH DASIA AND VARIA0
1f5d:0GREEK CAPITAL LETTER UPSILON WITH DASIA AND OXIA0
1f5f:0GREEK CAPITAL LETTER UPSILON WITH DASIA AND PERISPOMENI0;1SMALL LETTER OMEGA WITH PSILI0
5DASIA0;5PSILI AND VARIA0;5DASIA2;5PSILI AND OXIA0;5DASIA2;5PSILI AND PERISPOMENI0;5DASIA2
1CAPITAL LETTER OMEGA WITH PSILI0;5DASIA0;5PSILI AND VARIA0;5DASIA2;5PSILI AND OXIA0;5DASIA2
5PSILI AND PERISPOMENI0;5DASIA2;1SMALL LETTER ALPHA WITH VARIA0;5OXIA0;3EPSILON WITH VARIA0;5OXIA0
3ETA WITH VARIA0;5OXIA0;3IOTA WITH VARIA0;5OXIA0;3OMICRON WITH VARIA0;5OXIA0;3UPSILON WITH VARIA0
5OXIA0;3OMEGA WITH VARIA0;5OXIA0;1f80:0GREEK SMALL LETTER ALPHA WITH PSILI AND YPOGEGRAMMENI0
5DASIA2;5PSILI AND VARIA2;5DASIA4;5PSILI AND OXIA2;5DASIA4;5PSILI AND PERISPOMENI2;5DASIA4
1CAPITAL LETTER ALPHA WITH PSILI AND PROSGEGRAMMENI0;5DASIA2;5PSILI AND VARIA2;5DASIA4
5PSILI AND OXIA2;5DASIA4;5PSILI AND PERISPOMENI2;5DASIA4
1SMALL LETTER ETA WITH PSILI AND YPOGEGRAMMENI0;5DASIA2;5PSILI AND VARIA2;5DASIA4;5PSILI AND OXIA2
5DASIA4;5PSILI AND PERISPOMENI2;5DASIA4;1CAPITAL LETTER ETA WITH PSILI AND PROSGEGRAMMENI0;5DASIA2
5PSILI AND VARIA2;5DASIA4;5PSILI AND OXIA2;5DASIA4;5PSILI AND PERISPOMENI2;5DASIA4
1SMALL LETTER OMEGA WITH PSILI AND YPOGEGRAMMENI0;5DASIA2;5PSILI AND VARIA2;5DASIA4
5PSILI AND OXIA2;5DASIA4;5PSILI AND PERISPOMENI2;5DASIA4
1CAPITAL LETTER OMEGA WITH PSILI AND PROSGEGRAMMENI0;5DASIA2;5PSILI AND VARIA2;5DASIA4
5PSILI AND OXIA2;5DASIA4;5PSILI AND PERISPOMENI2;5DASIA4;1SMALL LETTER ALPHA WITH VRACHY0;5MACRON0
5VARIA AND YPOGEGRAMMENI0;51;5OXIA AND1;1fb6:0GREEK SMALL LETTER ALPHA WITH PERISPOMENI0
6AND YPOGEGRAMMENI0;1CAPITAL LETTER ALPHA WITH VRACHY0;5MACRON0;5VARIA0;5OXIA0;5PROSGEGRAMMENI0
1KORONIS0;1PROSGEGRAMMENI0;1PSILI0;1PERISPOMENI0;1DIALYTIKA AND1
1SMALL LETTER ETA WITH VARIA AND YPOGEGRAMMENI0;51;5OXIA AND1
1fc6:0GREEK SMALL LETTER ETA WITH PERISPOMENI0;6AND YPOGEGRAMMENI0
1CAPITAL LETTER EPSILON WITH VARIA0;5OXIA0;3ETA WITH VARIA0;5OXIA0;5PROSGEGRAMMENI0
1PSILI AND VARIA0;3OXIA0;3PERISPOMENI0;1SMALL LETTER IOTA WITH VRACHY0;5MACRON0
5DIALYTIKA AND VARIA0;7OXIA0;1fd6:0GREEK SMALL LETTER IOTA WITH PERISPOMENI0;5DIALYTIKA AND1
1CAPITAL LETTER IOTA WITH VRACHY0;5MACRON0;5VARIA0;5OXIA0;1fdd:0GREEK DASIA AND VARIA0;3OXIA0
3PERISPOMENI0;1SMALL LETTER UPSILON WITH VRACHY0;5MACRON0;5DIALYTIKA AND VARIA0;7OXIA0
3RHO WITH PSILI0;5DASIA0;3UPSILON WITH PERISPOMENI0;5DIALYTIKA AND1
1CAPITAL LETTER UPSILON WITH VRACHY0;5MACRON0;5VARIA0;5OXIA0;3RHO WITH DASIA0
1DIALYTIKA AND VARIA0;3OXIA0;1VARIA0;1ff2:0GREEK SMALL LETTER OMEGA WITH VARIA AND YPOGEGRAMMENI0
51;5OXIA AND1;1ff6:0GREEK SMALL LETTER OMEGA WITH PERISPOMENI0;6AND YPOGEGRAMMENI0
1CAPITAL LETTER OMICRON WITH VARIA0;5OXIA0;3OMEGA WITH VARIA0;5OXIA0;5PROSGEGRAMMENI0;1OXIA0
1DASIA0"

/-- Punctuation, arrows, mathematical and technical signs, and shapes. -/
def symbolNames : String := "
2000:0EN QUAD0;0EM1;0EN SPACE0;0EM1;0THREE-PER-EM1;0FOUR-PER-EM1;0SIX-PER-EM1;0FIGURE1
0PUNCTUATION1;0THIN1;0HAIR1;0ZERO WIDTH1;2NON-JOINER0;2JOINER0;0LEFT-TO-RIGHT MARK0
0RIGHT-TO-LEFT1;0HYPHEN0;0NON-BREAKING1;0FIGURE DASH0;0EN1;0EM1;0HORIZONTAL BAR0
0DOUBLE VERTICAL LINE0;1LOW1;0LEFT SINGLE QUOTATION MARK0;0RIGHT3;0SINGLE LOW-92;1HIGH-REVERSED-92
0LEFT DOUBLE2;0RIGHT3;0DOUBLE LOW-92;1HIGH-REVERSED-92;0DAGGER0;0DOUBLE1;0BULLET0;0TRIANGULAR1
0ONE DOT LEADER0;0TWO2;0HORIZONTAL ELLIPSIS0;0HYPHENATION POINT0;0LINE SEPARATOR0;0PARAGRAPH1
0LEFT-TO-RIGHT EMBEDDING0;0RIGHT-TO-LEFT1;0POP DIRECTIONAL FORMATTING0;0LEFT-TO-RIGHT OVERRIDE0
0RIGHT-TO-LEFT1;0NARROW NO-BREAK SPACE0;0PER MILLE SIGN0;1TEN THOUSAND1;0PRIME0;0DOUBLE1;0TRIPLE1
0REVERSED1;1DOUBLE1;1TRIPLE1;0CARET0;0SINGLE LEFT-POINTING ANGLE QUOTATION MARK0;1RIGHT-POINTING3
0REFERENCE1;0DOUBLE EXCLAMATION1;0INTERROBANG0;0OVERLINE0;0UNDERTIE0;0CHARACTER TIE0
0CARET INSERTION POINT0;0ASTERISM0;0HYPHEN BULLET0;0FRACTION SLASH0
0LEFT SQUARE BRACKET WITH QUILL0;0RIGHT4;0DOUBLE QUESTION MARK0;0QUESTION EXCLAMATION1
0EXCLAMATION QUESTION1;0TIRONIAN SIGN ET0;0REVERSED PILCROW SIGN0;0BLACK LEFTWARDS BULLET0
1RIGHTWARDS1;0LOW ASTERISK0;0REVERSED SEMICOLON0;0CLOSE UP0;0TWO ASTERISKS ALIGNED VERTICALLY0
0COMMERCIAL MINUS SIGN0;0SWUNG DASH0;0INVERTED UNDERTIE0;0FLOWER PUNCTUATION MARK0
0THREE DOT PUNCTUATION0;0QUADRUPLE PRIME0;0FOUR DOT PUNCTUATION0;0FIVE2;0TWO2;0FOUR DOT MARK0
0DOTTED CROSS0;0TRICOLON0;0VERTICAL FOUR DOTS0;0MEDIUM MATHEMATICAL SPACE0;0WORD JOINER0
0FUNCTION APPLICATION0;0INVISIBLE TIMES0;1SEPARATOR0;1PLUS0;2066:0LEFT-TO-RIGHT ISOLATE0
0RIGHT-TO-LEFT1;0FIRST STRONG1;0POP DIRECTIONAL1;0INHIBIT SYMMETRIC SWAPPING0;0ACTIVATE2
0INHIBIT ARABIC FORM SHAPING0;0ACTIVATE3;0NATIONAL DIGIT SHAPES0;0NOMINAL2;0SUPERSCRIPT ZERO0
1LATIN SMALL LETTER I0;2074:0SUPERSCRIPT FOUR0;1FIVE0;1SIX0;1SEVEN0;1EIGHT0;1NINE0;1PLUS SIGN0
1MINUS0;1EQUALS SIGN0;1LEFT PARENTHESIS0;1RIGHT1;1LATIN SMALL LETTER N0;0SUBSCRIPT ZERO0;1ONE0
1TWO0;1THREE0;1FOUR0;1FIVE0;1SIX0;1SEVEN0;1EIGHT0;1NINE0;1PLUS SIGN0;1MINUS0;1EQUALS SIGN0
1LEFT PARENTHESIS0;1RIGHT1;2090:0LATIN SUBSCRIPT SMALL LETTER A0;4E0;4O0;4X0;4SCHWA0;4H0;4K0;4L0
4M0;4N0;4P0;4S0;4T0;20a0:0EURO-CURRENCY SIGN0;0COLON1;0CRUZEIRO1;0FRENCH FRANC1;0LIRA1;0MILL1
0NAIRA1;0PESETA1;0RUPEE1;0WON1;0NEW SHEQEL1;0DONG1;0EURO1;0KIP1;0TUGRIK1;0DRACHMA1;0GERMAN PENNY1
0PESO1;0GUARANI1;0AUSTRAL1;0HRYVNIA1;0CEDI1;0LIVRE TOURNOIS1;0SPESMILO1;0TENGE1;0INDIAN RUPEE1
0TURKISH LIRA1;0NORDIC MARK1;0MANAT1;0RUBLE1;0LARI1;0BITCOIN1;0SOM1
20d0:0COMBINING LEFT HARPOON ABOVE0;1RIGHT2;1LONG VERTICAL LINE OVERLAY0;1SHORT3
1ANTICLOCKWISE ARROW ABOVE0;1CLOCKWISE2;1LEFT2;1RIGHT2;1RING OVERLAY0;1CLOCKWISE2;1ANTICLOCKWISE2
1THREE DOTS ABOVE0;1FOUR2;1ENCLOSING CIRCLE0;2SQUARE0;2DIAMOND0;2CIRCLE BACKSLASH0
1LEFT RIGHT ARROW ABOVE0;1ENCLOSING SCREEN0;2KEYCAP0;2UPWARD POINTING TRIANGLE0
1REVERSE SOLIDUS OVERLAY0;1DOUBLE VERTICAL STROKE1;1ANNUITY SYMBOL0;1TRIPLE UNDERDOT0
1WIDE BRIDGE ABOVE0;1LEFTWARDS ARROW OVERLAY0;1LONG DOUBLE SOLIDUS1
1RIGHTWARDS HARPOON WITH BARB DOWNWARDS0;1LEFTWARDS4;1LEFT ARROW BELOW0;1RIGHT2;1ASTERISK ABOVE0
2100:0ACCOUNT OF0;0ADDRESSED TO THE SUBJECT0;0DOUBLE-STRUCK CAPITAL C0;0DEGREE CELSIUS0
0CENTRE LINE SYMBOL0;0CARE OF0;0CADA UNA0;0EULER CONSTANT0;0SCRUPLE0;0DEGREE FAHRENHEIT0
0SCRIPT SMALL G0;1CAPITAL H0;0BLACK-LETTER2;0DOUBLE-STRUCK2;0PLANCK CONSTANT0;2OVER TWO PI0
0SCRIPT CAPITAL I0;0BLACK-LETTER2;0SCRIPT CAPITAL L0;1SMALL1;0L B BAR SYMBOL0
0DOUBLE-STRUCK CAPITAL N0;0NUMERO SIGN0;0SOUND RECORDING COPYRIGHT0;0SCRIPT CAPITAL P0
0DOUBLE-STRUCK2;2Q0;0SCRIPT CAPITAL R0;0BLACK-LETTER2;0DOUBLE-STRUCK2;0PRESCRIPTION TAKE0
0RESPONSE0;0SERVICE MARK0;0TELEPHONE SIGN0;0TRADE MARK1;0VERSICLE0;0DOUBLE-STRUCK CAPITAL Z0
0OUNCE SIGN0;0OHM1;0INVERTED2;0BLACK-LETTER CAPITAL Z0;0TURNED GREEK SMALL LETTER IOTA0
0KELVIN SIGN0;0ANGSTROM1;0SCRIPT CAPITAL B0;0BLACK-LETTER CAPITAL C0;0ESTIMATED SYMBOL0
0SCRIPT SMALL E0;1CAPITAL1;2F0;0TURNED2;0SCRIPT CAPITAL M0;1SMALL O0;0ALEF SYMBOL0;0BET1;0GIMEL1
0DALET1;0INFORMATION SOURCE0;0ROTATED CAPITAL Q0;0FACSIMILE SIGN0;0DOUBLE-STRUCK SMALL PI0;2GAMMA0
1CAPITAL1;2PI0;1N-ARY SUMMATION0;0TURNED SANS-SERIF CAPITAL G0;3L0;0REVERSED3
0TURNED SANS-SERIF CAPITAL Y0;0DOUBLE-STRUCK ITALIC CAPITAL D0;2SMALL1;3E0;3I0;3J0;0PROPERTY LINE0
0TURNED AMPERSAND0;0PER SIGN0;0AKTIESELSKAB0;0TURNED SMALL F0;0SYMBOL FOR SAMARITAN SOURCE0
0VULGAR FRACTION ONE SEVENTH0;3NINTH0;3TENTH0;3THIRD0;2TWO THIRDS0;2ONE FIFTH0;2TWO FIFTHS0
2THREE1;2FOUR1;2ONE SIXTH0;2FIVE SIXTHS0;2ONE EIGHTH0;2THREE EIGHTHS0;2FIVE1;2SEVEN1
0FRACTION NUMERATOR ONE0;0ROMAN NUMERAL1;2TWO0;2THREE0;2FOUR0;2FIVE0;2SIX0;2SEVEN0;2EIGHT0;2NINE0
2TEN0;2ELEVEN0;2TWELVE0;2FIFTY0;2ONE HUNDRED0;2FIVE1;2ONE THOUSAND0;0SMALL ROMAN NUMERAL ONE0
3TWO0;3THREE0;3FOUR0;3FIVE0;3SIX0;3SEVEN0;3EIGHT0;3NINE0;3TEN0;3ELEVEN0;3TWELVE0;3FIFTY0
3ONE HUNDRED0;3FIVE1;3ONE THOUSAND0;0ROMAN NUMERAL ONE THOUSAND C D0;2FIVE THOUSAND0;2TEN1
2REVERSED ONE HUNDRED0;0LATIN SMALL LETTER REVERSED C0;0ROMAN NUMERAL SIX LATE FORM0;2FIFTY EARLY1
3THOUSAND0;2ONE HUNDRED1;0VULGAR FRACTION ZERO THIRDS0;0TURNED DIGIT TWO0;2THREE0
2190:0LEFTWARDS ARROW0;0UPWARDS1;0RIGHTWARDS1;0DOWNWARDS1;0LEFT RIGHT1;0UP DOWN1;0NORTH WEST1
1EAST1;0SOUTH2;1WEST1;0LEFTWARDS ARROW WITH STROKE0;0RIGHTWARDS3;0LEFTWARDS WAVE ARROW0
0RIGHTWARDS2;0LEFTWARDS TWO HEADED1;0UPWARDS3;0RIGHTWARDS3;0DOWNWARDS3;0LEFTWARDS ARROW WITH TAIL0
0RIGHTWARDS3;0LEFTWARDS ARROW FROM BAR0;0UPWARDS3;0RIGHTWARDS3;0DOWNWARDS3
0UP DOWN ARROW WITH BASE0;0LEFTWARDS ARROW WITH HOOK0;0RIGHTWARDS3;0LEFTWARDS ARROW WITH LOOP0
0RIGHTWARDS3;0LEFT RIGHT WAVE ARROW0;2ARROW WITH STROKE0;0DOWNWARDS ZIGZAG ARROW0
0UPWARDS ARROW WITH TIP LEFTWARDS0;4RIGHTWARDS0;0DOWNWARDS ARROW WITH TIP LEFTWARDS0;4RIGHTWARDS0
0RIGHTWARDS ARROW WITH CORNER DOWNWARDS0;0DOWNWARDS ARROW WITH CORNER LEFTWARDS0
0ANTICLOCKWISE TOP SEMICIRCLE ARROW0;0CLOCKWISE3;0NORTH WEST ARROW TO LONG BAR0
0LEFTWARDS ARROW TO BAR OVER RIGHTWARDS ARROW TO1;0ANTICLOCKWISE OPEN CIRCLE ARROW0;0CLOCKWISE3
0LEFTWARDS HARPOON WITH BARB UPWARDS0;4DOWNWARDS0;0UPWARDS HARPOON WITH BARB RIGHTWARDS0
4LEFTWARDS0;0RIGHTWARDS HARPOON WITH BARB UPWARDS0;4DOWNWARDS0
0DOWNWARDS HARPOON WITH BARB RIGHTWARDS0;4LEFTWARDS0;0RIGHTWARDS ARROW OVER LEFTWARDS ARROW0
0UPWARDS ARROW LEFTWARDS OF DOWNWARDS1;0LEFTWARDS ARROW OVER RIGHTWARDS1;1PAIRED ARROWS0;0UPWARDS2
0RIGHTWARDS2;0DOWNWARDS2;0LEFTWARDS HARPOON OVER RIGHTWARDS HARPOON0
0RIGHTWARDS HARPOON OVER LEFTWARDS1;0LEFTWARDS DOUBLE ARROW WITH STROKE0;0LEFT RIGHT4;0RIGHTWARDS4
0LEFTWARDS DOUBLE ARROW0;0UPWARDS2;0RIGHTWARDS2;0DOWNWARDS2;0LEFT RIGHT2;0UP DOWN2;0NORTH WEST2
1EAST2;0SOUTH3;1WEST2;0LEFTWARDS TRIPLE1;0RIGHTWARDS2;0LEFTWARDS SQUIGGLE1;0RIGHTWARDS2
0UPWARDS ARROW WITH DOUBLE STROKE0;0DOWNWARDS4;0LEFTWARDS DASHED ARROW0;0UPWARDS2;0RIGHTWARDS2
0DOWNWARDS2;0LEFTWARDS ARROW TO BAR0;0RIGHTWARDS3;0LEFTWARDS WHITE ARROW0;0UPWARDS2;0RIGHTWARDS2
0DOWNWARDS2;0UPWARDS WHITE ARROW FROM BAR0;3ON PEDESTAL0;5WITH HORIZONTAL BAR0;6VERTICAL1
2DOUBLE ARROW0;4ON PEDESTAL0;0RIGHTWARDS WHITE ARROW FROM WALL0;0NORTH WEST ARROW TO CORNER0
0SOUTH EAST3;0UP DOWN WHITE ARROW0;0RIGHT ARROW WITH SMALL CIRCLE0
0DOWNWARDS ARROW LEFTWARDS OF UPWARDS ARROW0;0THREE RIGHTWARDS ARROWS0
0LEFTWARDS ARROW WITH VERTICAL STROKE0;0RIGHTWARDS4;0LEFT RIGHT4;0LEFTWARDS ARROW WITH DOUBLE2
0RIGHTWARDS5;0LEFT RIGHT5;0LEFTWARDS OPEN-HEADED ARROW0;0RIGHTWARDS2;0LEFT RIGHT2;0FOR ALL0
0COMPLEMENT0;0PARTIAL DIFFERENTIAL0;0THERE EXISTS0;1DOES NOT EXIST0;0EMPTY SET0;0INCREMENT0
0NABLA0;0ELEMENT OF0;0NOT AN2;0SMALL2;0CONTAINS AS MEMBER0;0DOES NOT CONTAIN2;0SMALL CONTAINS2
0END OF PROOF0;0N-ARY PRODUCT0;1COPRODUCT0;1SUMMATION0;0MINUS SIGN0;0MINUS-OR-PLUS1;0DOT PLUS0
0DIVISION SLASH0;0SET MINUS0;0ASTERISK OPERATOR0;0RING1;0BULLET1;0SQUARE ROOT0;0CUBE1;0FOURTH1
0PROPORTIONAL TO0;0INFINITY0;0RIGHT ANGLE0;01;0MEASURED1;0SPHERICAL1;0DIVIDES0;0DOES NOT DIVIDE0
0PARALLEL TO0;0NOT2;0LOGICAL AND0;1OR0;0INTERSECTION0;0UNION0;0INTEGRAL0;0DOUBLE1;0TRIPLE1
0CONTOUR1;0SURFACE1;0VOLUME1;0CLOCKWISE1;1CONTOUR1;0ANTICLOCKWISE2;0THEREFORE0;0BECAUSE0;0RATIO0
0PROPORTION0;0DOT MINUS0;0EXCESS0;0GEOMETRIC PROPORTION0;0HOMOTHETIC0;0TILDE OPERATOR0
0REVERSED TILDE0;0INVERTED LAZY S0;0SINE WAVE0;0WREATH PRODUCT0;0NOT TILDE0;0MINUS1
0ASYMPTOTICALLY EQUAL TO0;0NOT3;0APPROXIMATELY2;1BUT NOT ACTUALLY2;0NEITHER APPROXIMATELY NOR3
0ALMOST2;0NOT3;0ALMOST EQUAL OR2;0TRIPLE TILDE0;0ALL EQUAL TO0;0EQUIVALENT1;0GEOMETRICALLY2
0DIFFERENCE BETWEEN0;0APPROACHES THE LIMIT0;0GEOMETRICALLY EQUAL TO0
0APPROXIMATELY EQUAL TO OR THE IMAGE OF0;0IMAGE OF OR APPROXIMATELY EQUAL TO0;0COLON EQUALS0
0EQUALS COLON0;0RING IN EQUAL TO0;12;0CORRESPONDS1;0ESTIMATES0;0EQUIANGULAR TO0;0STAR EQUALS0
0DELTA EQUAL TO0;0EQUAL TO BY DEFINITION0;0MEASURED BY0;0QUESTIONED EQUAL TO0;0NOT2;0IDENTICAL1
0NOT2;0STRICTLY EQUIVALENT1;0LESS-THAN OR EQUAL1;0GREATER-THAN3;0LESS-THAN OVER2;0GREATER-THAN3
0LESS-THAN BUT NOT2;0GREATER-THAN4;0MUCH LESS-THAN0;1GREATER-THAN0;0BETWEEN0;0NOT EQUIVALENT TO0
1LESS-THAN0;1GREATER-THAN0;0NEITHER LESS-THAN NOR EQUAL TO0;1GREATER-THAN3
0LESS-THAN OR EQUIVALENT1;0GREATER-THAN3;0NEITHER LESS-THAN NOR2;1GREATER-THAN3
0LESS-THAN OR GREATER-THAN0;0GREATER-THAN OR LESS-THAN0;0NEITHER LESS-THAN NOR GREATER-THAN0
1GREATER-THAN NOR LESS-THAN0;0PRECEDES0;0SUCCEEDS0;0PRECEDES OR EQUAL TO0;0SUCCEEDS3
0PRECEDES OR EQUIVALENT1;0SUCCEEDS3;0DOES NOT PRECEDE0;2SUCCEED0;0SUBSET OF0;0SUPERSET1
0NOT A SUBSET1;2SUPERSET1;0SUBSET OF OR EQUAL TO0;0SUPERSET4;0NEITHER A SUBSET OF NOR2;2SUPERSET4
0SUBSET OF WITH NOT2;0SUPERSET5;0MULTISET0;1MULTIPLICATION0;1UNION0;0SQUARE IMAGE OF0;1ORIGINAL1
1IMAGE OF OR EQUAL TO0;1ORIGINAL4;1CAP0;1CUP0;0CIRCLED PLUS0;1MINUS0;1TIMES0;1DIVISION SLASH0
1DOT OPERATOR0;1RING1;1ASTERISK1;1EQUALS0;1DASH0;0SQUARED PLUS0;1MINUS0;1TIMES0;1DOT OPERATOR0
0RIGHT TACK0;0LEFT1;0DOWN1;0UP1;0ASSERTION0;0MODELS0;0TRUE0;0FORCES0
0TRIPLE VERTICAL BAR RIGHT TURNSTILE0;0DOUBLE VERTICAL BAR DOUBLE2;0DOES NOT PROVE0;0NOT TRUE0
0DOES NOT FORCE0;0NEGATED DOUBLE VERTICAL BAR DOUBLE RIGHT TURNSTILE0;0PRECEDES UNDER RELATION0
0SUCCEEDS2;0NORMAL SUBGROUP OF0;0CONTAINS AS NORMAL SUBGROUP0;0NORMAL SUBGROUP OF OR EQUAL TO0
0CONTAINS AS NORMAL SUBGROUP3;0ORIGINAL OF0;0IMAGE1;0MULTIMAP0;0HERMITIAN CONJUGATE MATRIX0
0INTERCALATE0;0XOR0;0NAND0;0NOR0;0RIGHT ANGLE WITH ARC0;1TRIANGLE0;0N-ARY LOGICAL AND0;2OR0
1INTERSECTION0;1UNION0;0DIAMOND OPERATOR0;0DOT1;0STAR1;0DIVISION TIMES0;0BOWTIE0
0LEFT NORMAL FACTOR SEMIDIRECT PRODUCT0;0RIGHT4;0LEFT2;0RIGHT2;0REVERSED TILDE EQUALS0
0CURLY LOGICAL OR0;2AND0;0DOUBLE SUBSET0;1SUPERSET0;1INTERSECTION0;1UNION0;0PITCHFORK0
0EQUAL AND PARALLEL TO0;0LESS-THAN WITH DOT0;0GREATER-THAN2;0VERY MUCH LESS-THAN0;2GREATER-THAN0
0LESS-THAN EQUAL TO OR1;0GREATER-THAN EQUAL TO OR LESS-THAN0;04;3GREATER-THAN0;3PRECEDES0
3SUCCEEDS0;0DOES NOT PRECEDE OR EQUAL0;2SUCCEED2;0NOT SQUARE IMAGE OF OR EQUAL TO0;2ORIGINAL4
0SQUARE IMAGE OF OR NOT2;1ORIGINAL5;0LESS-THAN BUT NOT EQUIVALENT1;0GREATER-THAN4;0PRECEDES4
0SUCCEEDS4;0NOT NORMAL SUBGROUP OF0;0DOES NOT CONTAIN AS NORMAL SUBGROUP0
0NOT NORMAL SUBGROUP OF OR EQUAL TO0;0DOES NOT CONTAIN AS NORMAL SUBGROUP OR EQUAL0
0VERTICAL ELLIPSIS0;0MIDLINE HORIZONTAL1;0UP RIGHT DIAGONAL1;0DOWN3
0ELEMENT OF WITH LONG HORIZONTAL STROKE0;3VERTICAL BAR AT END OF2;0SMALL ELEMENT9
0ELEMENT OF WITH DOT ABOVE0;3OVERBAR0;0SMALL4;0ELEMENT OF WITH UNDERBAR0;3TWO HORIZONTAL STROKES0
0CONTAINS WITH LONG HORIZONTAL STROKE0;2VERTICAL BAR AT END OF2;0SMALL9;0CONTAINS WITH OVERBAR0
0SMALL3;0Z NOTATION BAG MEMBERSHIP0;0DIAMETER SIGN0;0ELECTRIC ARROW0;0HOUSE0;0UP ARROWHEAD0;0DOWN1
0PROJECTIVE0;0PERSPECTIVE0;0WAVY LINE0;0LEFT CEILING0;0RIGHT1;0LEFT FLOOR0;0RIGHT1
0BOTTOM RIGHT CROP0;1LEFT1;0TOP RIGHT1;1LEFT1;0REVERSED NOT SIGN0;0SQUARE LOZENGE0;0ARC0;0SEGMENT0
0SECTOR0;0TELEPHONE RECORDER0;0POSITION INDICATOR0;0VIEWDATA SQUARE0;0PLACE OF INTEREST SIGN0
0TURNED NOT1;0WATCH0;0HOURGLASS0;0TOP LEFT CORNER0;1RIGHT1;0BOTTOM LEFT1;1RIGHT1
0TOP HALF INTEGRAL0;0BOTTOM2;0FROWN0;0SMILE0;0UP ARROWHEAD BETWEEN TWO HORIZONTAL BARS0
0OPTION KEY0;0ERASE TO THE RIGHT0;0X IN A RECTANGLE BOX0;0KEYBOARD0;0LEFT-POINTING ANGLE BRACKET0
0RIGHT-POINTING2;0ERASE TO THE LEFT0;0BENZENE RING0;0CYLINDRICITY0;0ALL AROUND-PROFILE0;0SYMMETRY0
0TOTAL RUNOUT0;0DIMENSION ORIGIN0;0CONICAL TAPER0;0SLOPE0;0COUNTERBORE0;0COUNTERSINK0
0APL FUNCTIONAL SYMBOL I-BEAM0;3SQUISH QUAD0;3QUAD EQUAL0;4DIVIDE0;4DIAMOND0;4JOT0;4CIRCLE0
3CIRCLE STILE0;4JOT0;3SLASH BAR0;3BACKSLASH1;3QUAD SLASH0;4BACKSLASH0;4LESS-THAN0;4GREATER-THAN0
3LEFTWARDS VANE0;3RIGHTWARDS1;3QUAD LEFTWARDS ARROW0;4RIGHTWARDS1;3CIRCLE BACKSLASH0
3DOWN TACK UNDERBAR0;3DELTA STILE0;3QUAD DOWN CARET0;4DELTA0;3DOWN TACK JOT0;3UPWARDS VANE0
3QUAD UPWARDS ARROW0;3UP TACK OVERBAR0;3DEL STILE0;3QUAD UP CARET0;4DEL0;3UP TACK JOT0
3DOWNWARDS VANE0;3QUAD DOWNWARDS ARROW0;3QUOTE UNDERBAR0;3DELTA1;3DIAMOND1;3JOT1;3CIRCLE1
3UP SHOE JOT0;3QUOTE QUAD0;3CIRCLE STAR0;3QUAD COLON0;3UP TACK DIAERESIS0;3DEL1;3STAR1;3JOT1
3CIRCLE1;3DOWN SHOE STILE0;3LEFT2;3TILDE DIAERESIS0;3GREATER-THAN1;3COMMA BAR0;3DEL TILDE0;3ZILDE0
3STILE TILDE0;3SEMICOLON UNDERBAR0;3QUAD NOT EQUAL0;4QUESTION0;3DOWN CARET TILDE0;3UP2;3IOTA0
3RHO0;3OMEGA0;3ALPHA UNDERBAR0;3EPSILON1;3IOTA1;3OMEGA1;3ALPHA0;0NOT CHECK MARK0
0RIGHT ANGLE WITH DOWNWARDS ZIGZAG ARROW0;0SHOULDERED OPEN BOX0;0BELL SYMBOL0
0VERTICAL LINE WITH MIDDLE DOT0;0INSERTION SYMBOL0;0CONTINUOUS UNDERLINE1;0DISCONTINUOUS2
0EMPHASIS1;0COMPOSITION1;0WHITE SQUARE WITH CENTRE VERTICAL LINE0;0ENTER SYMBOL0;0ALTERNATIVE KEY1
0HELM1;0CIRCLED HORIZONTAL BAR WITH NOTCH0;1TRIANGLE DOWN0;0BROKEN CIRCLE WITH NORTHWEST ARROW0
0UNDO SYMBOL0;0MONOSTABLE1;0HYSTERESIS1;0OPEN-CIRCUIT-OUTPUT H-TYPE1;1L-TYPE1
0PASSIVE-PULL-DOWN-OUTPUT1;0PASSIVE-PULL-UP-OUTPUT1;0DIRECT CURRENT SYMBOL FORM TWO0
0SOFTWARE-FUNCTION SYMBOL0;0APL FUNCTIONAL SYMBOL QUAD0;0DECIMAL SEPARATOR KEY SYMBOL0
0PREVIOUS PAGE0;0NEXT1;0PRINT SCREEN SYMBOL0;0CLEAR2;0LEFT PARENTHESIS UPPER HOOK0;2EXTENSION0
2LOWER HOOK0;0RIGHT PARENTHESIS UPPER1;2EXTENSION0;2LOWER HOOK0;0LEFT SQUARE BRACKET UPPER CORNER0
3EXTENSION0;3LOWER CORNER0;0RIGHT SQUARE BRACKET UPPER1;3EXTENSION0;3LOWER CORNER0
0LEFT CURLY BRACKET UPPER HOOK0;3MIDDLE PIECE0;3LOWER HOOK0;0CURLY BRACKET EXTENSION0
0RIGHT CURLY BRACKET UPPER HOOK0;3MIDDLE PIECE0;3LOWER HOOK0;0INTEGRAL EXTENSION0
0HORIZONTAL LINE1;0UPPER LEFT OR LOWER RIGHT CURLY BRACKET SECTION0;1RIGHT OR LOWER LEFT3
0SUMMATION TOP0;1BOTTOM0;0TOP SQUARE BRACKET0;0BOTTOM2;3OVER TOP SQUARE BRACKET0
0RADICAL SYMBOL BOTTOM0;0LEFT VERTICAL BOX LINE0;0RIGHT3;0HORIZONTAL SCAN LINE-10;2LINE-30
2LINE-70;2LINE-90;0DENTISTRY SYMBOL LIGHT VERTICAL AND TOP RIGHT0;5BOTTOM1;4WITH CIRCLE0
3DOWN AND HORIZONTAL2;3UP4;3VERTICAL WITH TRIANGLE0;3DOWN AND HORIZONTAL2;3UP4;3VERTICAL AND WAVE0
3DOWN AND HORIZONTAL WITH1;3UP4;3DOWN AND HORIZONTAL0;3UP2;3VERTICAL AND TOP LEFT0;5BOTTOM1
0SQUARE FOOT0;0RETURN SYMBOL0;0EJECT1;0VERTICAL LINE EXTENSION0;0METRICAL BREVE0;1LONG OVER SHORT0
1SHORT OVER LONG0;1LONG OVER TWO SHORTS0;1TWO SHORTS OVER LONG0;3JOINED0;1TRISEME0;1TETRASEME0
1PENTASEME0;0EARTH GROUND0;0FUSE0;0TOP PARENTHESIS0;0BOTTOM1;0TOP CURLY BRACKET0;0BOTTOM2
0TOP TORTOISE SHELL1;0BOTTOM3;0WHITE TRAPEZIUM0;0BENZENE RING WITH CIRCLE0;0STRAIGHTNESS0
0FLATNESS0;0AC CURRENT0;0ELECTRICAL INTERSECTION0;0DECIMAL EXPONENT SYMBOL0
0BLACK RIGHT-POINTING DOUBLE TRIANGLE0;1LEFT-POINTING2;1UP-POINTING2;1DOWN-POINTING2
1RIGHT-POINTING DOUBLE TRIANGLE WITH VERTICAL BAR0;1LEFT-POINTING5
1RIGHT-POINTING TRIANGLE WITH DOUBLE2;0ALARM CLOCK0;0STOPWATCH0;0TIMER CLOCK0
0HOURGLASS WITH FLOWING SAND0;0BLACK MEDIUM LEFT-POINTING TRIANGLE0;2RIGHT-POINTING1;2UP-POINTING1
2DOWN-POINTING1;0DOUBLE VERTICAL BAR0;0BLACK SQUARE FOR STOP0;1CIRCLE FOR RECORD0;0POWER SYMBOL0
1ON-OFF1;1ON1;1SLEEP1;0OBSERVER EYE1;0SYMBOL FOR NULL0;2START OF HEADING0;4TEXT0;2END2
4TRANSMISSION0;2ENQUIRY0;2ACKNOWLEDGE0;2BELL0;2BACKSPACE0;2HORIZONTAL TABULATION0;2LINE FEED0
2VERTICAL TABULATION0;2FORM FEED0;2CARRIAGE RETURN0;2SHIFT OUT0;3IN0;2DATA LINK ESCAPE0
2DEVICE CONTROL ONE0;4TWO0;4THREE0;4FOUR0;2NEGATIVE ACKNOWLEDGE0;2SYNCHRONOUS IDLE0
2END OF TRANSMISSION BLOCK0;2CANCEL0;2END OF MEDIUM0;2SUBSTITUTE0;2ESCAPE0;2FILE SEPARATOR0
2GROUP1;2RECORD1;2UNIT1;2SPACE0;2DELETE0;0BLANK SYMBOL0;0OPEN BOX0;0SYMBOL FOR NEWLINE0
2DELETE FORM TWO0;2SUBSTITUTE2;2440:0OCR HOOK0;1CHAIR0;1FORK0;1INVERTED1;1BELT BUCKLE0;1BOW TIE0
1BRANCH BANK IDENTIFICATION0;1AMOUNT OF CHECK0;1DASH0;1CUSTOMER ACCOUNT NUMBER0;1DOUBLE BACKSLASH0
2460:0CIRCLED DIGIT ONE0;2TWO0;2THREE0;2FOUR0;2FIVE0;2SIX0;2SEVEN0;2EIGHT0;2NINE0;1NUMBER TEN0
2ELEVEN0;2TWELVE0;2THIRTEEN0;2FOURTEEN0;2FIFTEEN0;2SIXTEEN0;2SEVENTEEN0;2EIGHTEEN0;2NINETEEN0
2TWENTY0;0PARENTHESIZED DIGIT ONE0;2TWO0;2THREE0;2FOUR0;2FIVE0;2SIX0;2SEVEN0;2EIGHT0;2NINE0
1NUMBER TEN0;2ELEVEN0;2TWELVE0;2THIRTEEN0;2FOURTEEN0;2FIFTEEN0;2SIXTEEN0;2SEVENTEEN0;2EIGHTEEN0
2NINETEEN0;2TWENTY0;0DIGIT ONE FULL STOP0;1TWO2;1THREE2;1FOUR2;1FIVE2;1SIX2;1SEVEN2;1EIGHT2;1NINE2
0NUMBER TEN2;1ELEVEN2;1TWELVE2;1THIRTEEN2;1FOURTEEN2;1FIFTEEN2;1SIXTEEN2;1SEVENTEEN2;1EIGHTEEN2
1NINETEEN2;1TWENTY2;0PARENTHESIZED LATIN SMALL LETTER A0;4B0;4C0;4D0;4E0;4F0;4G0;4H0;4I0;4J0;4K0
4L0;4M0;4N0;4O0;4P0;4Q0;4R0;4S0;4T0;4U0;4V0;4W0;4X0;4Y0;4Z0;0CIRCLED LATIN CAPITAL LETTER A0;4B0
4C0;4D0;4E0;4F0;4G0;4H0;4I0;4J0;4K0;4L0;4M0;4N0;4O0;4P0;4Q0;4R0;4S0;4T0;4U0;4V0;4W0;4X0;4Y0;4Z0
2SMALL LETTER A0;4B0;4C0;4D0;4E0;4F0;4G0;4H0;4I0;4J0;4K0;4L0;4M0;4N0;4O0;4P0;4Q0;4R0;4S0;4T0;4U0
4V0;4W0;4X0;4Y0;4Z0;1DIGIT ZERO0;0NEGATIVE CIRCLED NUMBER ELEVEN0;3TWELVE0;3THIRTEEN0;3FOURTEEN0
3FIFTEEN0;3SIXTEEN0;3SEVENTEEN0;3EIGHTEEN0;3NINETEEN0;3TWENTY0;0DOUBLE CIRCLED DIGIT ONE0;3TWO0
3THREE0;3FOUR0;3FIVE0;3SIX0;3SEVEN0;3EIGHT0;3NINE0;2NUMBER TEN0;0NEGATIVE CIRCLED DIGIT ZERO0
0BOX DRAWINGS LIGHT HORIZONTAL0;2HEAVY1;2LIGHT VERTICAL0;2HEAVY1;2LIGHT TRIPLE DASH HORIZONTAL0
2HEAVY3;2LIGHT TRIPLE DASH VERTICAL0;2HEAVY3;2LIGHT QUADRUPLE DASH HORIZONTAL0;2HEAVY3
2LIGHT QUADRUPLE DASH VERTICAL0;2HEAVY3;2LIGHT DOWN AND RIGHT0;2DOWN LIGHT AND RIGHT HEAVY0
3HEAVY AND RIGHT LIGHT0;2HEAVY DOWN AND RIGHT0;2LIGHT DOWN AND LEFT0;2DOWN LIGHT AND LEFT HEAVY0
3HEAVY AND LEFT LIGHT0;2HEAVY DOWN AND LEFT0;2LIGHT UP AND RIGHT0;2UP LIGHT AND RIGHT HEAVY0
3HEAVY AND RIGHT LIGHT0;2HEAVY UP AND RIGHT0;2LIGHT UP AND LEFT0;2UP LIGHT AND LEFT HEAVY0
3HEAVY AND LEFT LIGHT0;2HEAVY UP AND LEFT0;2LIGHT VERTICAL AND RIGHT0
2VERTICAL LIGHT AND RIGHT HEAVY0;2UP HEAVY AND RIGHT DOWN LIGHT0;2DOWN HEAVY AND RIGHT UP1
2VERTICAL HEAVY AND RIGHT1;2DOWN LIGHT AND RIGHT UP HEAVY0;2UP LIGHT AND RIGHT DOWN1
2HEAVY VERTICAL AND RIGHT0;2LIGHT VERTICAL AND LEFT0;2VERTICAL LIGHT AND LEFT HEAVY0
2UP HEAVY AND LEFT DOWN LIGHT0;2DOWN HEAVY AND LEFT UP1;2VERTICAL HEAVY AND LEFT1
2DOWN LIGHT AND LEFT UP HEAVY0;2UP LIGHT AND LEFT DOWN1;2HEAVY VERTICAL AND LEFT0
2LIGHT DOWN AND HORIZONTAL0;2LEFT HEAVY AND RIGHT DOWN LIGHT0;2RIGHT HEAVY AND LEFT2
2DOWN LIGHT AND HORIZONTAL HEAVY0;3HEAVY AND HORIZONTAL LIGHT0;2RIGHT LIGHT AND LEFT DOWN HEAVY0
2LEFT LIGHT AND RIGHT2;2HEAVY DOWN AND HORIZONTAL0;2LIGHT UP2;2LEFT HEAVY AND RIGHT UP LIGHT0
2RIGHT HEAVY AND LEFT2;2UP LIGHT AND HORIZONTAL HEAVY0;3HEAVY AND HORIZONTAL LIGHT0
2RIGHT LIGHT AND LEFT UP HEAVY0;2LEFT LIGHT AND RIGHT2;2HEAVY UP AND HORIZONTAL0;2LIGHT VERTICAL2
2LEFT HEAVY AND RIGHT VERTICAL LIGHT0;2RIGHT HEAVY AND LEFT2;2VERTICAL LIGHT AND HORIZONTAL HEAVY0
2UP HEAVY AND DOWN HORIZONTAL LIGHT0;2DOWN HEAVY AND UP2;2VERTICAL HEAVY AND2
2LEFT UP HEAVY AND RIGHT DOWN1;2RIGHT UP HEAVY AND LEFT2;2LEFT DOWN HEAVY AND RIGHT UP1
2RIGHT DOWN HEAVY AND LEFT2;2DOWN LIGHT AND UP HORIZONTAL HEAVY0;2UP LIGHT AND DOWN2
2RIGHT LIGHT AND LEFT VERTICAL1;2LEFT LIGHT AND RIGHT2;2HEAVY VERTICAL AND HORIZONTAL0
2LIGHT DOUBLE DASH1;2HEAVY3;2LIGHT DOUBLE DASH VERTICAL0;2HEAVY3;2DOUBLE HORIZONTAL0;3VERTICAL0
2DOWN SINGLE AND RIGHT DOUBLE0;3DOUBLE AND RIGHT SINGLE0;2DOUBLE DOWN AND RIGHT0
2DOWN SINGLE AND LEFT DOUBLE0;3DOUBLE AND LEFT SINGLE0;2DOUBLE DOWN AND LEFT0
2UP SINGLE AND RIGHT DOUBLE0;3DOUBLE AND RIGHT SINGLE0;2DOUBLE UP AND RIGHT0
2UP SINGLE AND LEFT DOUBLE0;3DOUBLE AND LEFT SINGLE0;2DOUBLE UP AND LEFT0
2VERTICAL SINGLE AND RIGHT DOUBLE0;3DOUBLE AND RIGHT SINGLE0;2DOUBLE VERTICAL AND RIGHT0
2VERTICAL SINGLE AND LEFT DOUBLE0;3DOUBLE AND LEFT SINGLE0;2DOUBLE VERTICAL AND LEFT0
2DOWN SINGLE AND HORIZONTAL DOUBLE0;3DOUBLE AND HORIZONTAL SINGLE0;2DOUBLE DOWN AND HORIZONTAL0
2UP SINGLE AND HORIZONTAL DOUBLE0;3DOUBLE AND HORIZONTAL SINGLE0;2DOUBLE UP AND HORIZONTAL0
2VERTICAL SINGLE AND HORIZONTAL DOUBLE0;3DOUBLE AND HORIZONTAL SINGLE0
2DOUBLE VERTICAL AND HORIZONTAL0;2LIGHT ARC DOWN AND RIGHT0;6LEFT0;4UP2;6RIGHT0
3DIAGONAL UPPER RIGHT TO LOWER LEFT0;5LEFT TO LOWER RIGHT0;4CROSS0;3LEFT0;3UP0;3RIGHT0;3DOWN0
2HEAVY LEFT0;3UP0;3RIGHT0;3DOWN0;2LIGHT LEFT AND HEAVY RIGHT0;3UP AND HEAVY DOWN0
2HEAVY LEFT AND LIGHT RIGHT0;3UP AND LIGHT DOWN0;0UPPER HALF BLOCK0;0LOWER ONE EIGHTH1;2QUARTER1
1THREE EIGHTHS1;1HALF1;1FIVE EIGHTHS1;1THREE QUARTERS1;1SEVEN EIGHTHS1;0FULL1;0LEFT SEVEN EIGHTHS1
1THREE QUARTERS1;1FIVE EIGHTHS1;1HALF1;1THREE EIGHTHS1;1ONE QUARTER1;2EIGHTH1;0RIGHT HALF1
0LIGHT SHADE0;0MEDIUM1;0DARK1;0UPPER ONE EIGHTH BLOCK0;0RIGHT3;0QUADRANT LOWER LEFT0;2RIGHT0
1UPPER LEFT0;3AND LOWER LEFT AND LOWER RIGHT0;51;4UPPER RIGHT AND LOWER LEFT0;8RIGHT0;21
3AND LOWER LEFT0;6AND LOWER RIGHT0;0BLACK SQUARE0;0WHITE1;2WITH ROUNDED CORNERS0
2CONTAINING BLACK SMALL SQUARE0;0SQUARE WITH HORIZONTAL FILL0;2VERTICAL1;2ORTHOGONAL CROSSHATCH1
2UPPER LEFT TO LOWER RIGHT1;3RIGHT TO LOWER LEFT1;2DIAGONAL CROSSHATCH1;0BLACK SMALL SQUARE0
0WHITE2;0BLACK RECTANGLE0;0WHITE1;0BLACK VERTICAL1;0WHITE2;0BLACK PARALLELOGRAM0;0WHITE1
0BLACK UP-POINTING TRIANGLE0;0WHITE2;0BLACK UP-POINTING SMALL1;0WHITE3;0BLACK RIGHT-POINTING1
0WHITE2;0BLACK RIGHT-POINTING SMALL1;0WHITE3;0BLACK RIGHT-POINTING POINTER0;0WHITE2
0BLACK DOWN-POINTING TRIANGLE0;0WHITE2;0BLACK DOWN-POINTING SMALL1;0WHITE3;0BLACK LEFT-POINTING1
0WHITE2;0BLACK LEFT-POINTING SMALL1;0WHITE3;0BLACK LEFT-POINTING POINTER0;0WHITE2;0BLACK DIAMOND0
0WHITE1;2CONTAINING BLACK SMALL DIAMOND0;0FISHEYE0;0LOZENGE0;0WHITE CIRCLE0;0DOTTED1
0CIRCLE WITH VERTICAL FILL0;0BULLSEYE0;0BLACK CIRCLE0;0CIRCLE WITH LEFT HALF BLACK0;2RIGHT2
2LOWER2;2UPPER2;3RIGHT QUADRANT1;2ALL BUT UPPER LEFT2;0LEFT HALF BLACK CIRCLE0;0RIGHT3
0INVERSE BULLET0;1WHITE CIRCLE0;0UPPER HALF3;0LOWER4;0UPPER LEFT QUADRANT CIRCULAR ARC0;1RIGHT3
0LOWER4;1LEFT3;0UPPER HALF CIRCLE0;0LOWER2;0BLACK LOWER RIGHT TRIANGLE0;2LEFT1;1UPPER2;2RIGHT1
0WHITE BULLET0;0SQUARE WITH LEFT HALF BLACK0;2RIGHT2;2UPPER LEFT DIAGONAL2;2LOWER RIGHT3
0WHITE SQUARE WITH VERTICAL BISECTING LINE0;1UP-POINTING TRIANGLE WITH DOT0
0UP-POINTING TRIANGLE WITH LEFT HALF BLACK0;3RIGHT2;0LARGE CIRCLE0
0WHITE SQUARE WITH UPPER LEFT QUADRANT0;3LOWER2;4RIGHT1;3UPPER2;1CIRCLE WITH UPPER LEFT1;3LOWER2
4RIGHT1;3UPPER2;0UPPER LEFT TRIANGLE0;1RIGHT1;0LOWER LEFT1;0WHITE MEDIUM SQUARE0;0BLACK2
0WHITE MEDIUM SMALL1;0BLACK3;0LOWER RIGHT TRIANGLE0;0BLACK SUN WITH RAYS0;0CLOUD0;0UMBRELLA0
0SNOWMAN0;0COMET0;0BLACK STAR0;0WHITE1;0LIGHTNING0;0THUNDERSTORM0;0SUN0;0ASCENDING NODE0
0DESCENDING1;0CONJUNCTION0;0OPPOSITION0;0BLACK TELEPHONE0;0WHITE1;0BALLOT BOX0;2WITH CHECK0;3X0
0SALTIRE0;0UMBRELLA WITH RAIN DROPS0;0HOT BEVERAGE0;0WHITE SHOGI PIECE0;0BLACK2;0SHAMROCK0
0REVERSED ROTATED FLORAL HEART BULLET0;0BLACK LEFT POINTING INDEX0;1RIGHT2;0WHITE LEFT2;1UP2
1RIGHT2;1DOWN2;0SKULL AND CROSSBONES0;0CAUTION SIGN0;0RADIOACTIVE1;0BIOHAZARD1;0CADUCEUS0;0ANKH0
0ORTHODOX CROSS0;0CHI RHO0;0CROSS OF LORRAINE0;2JERUSALEM0;0STAR AND CRESCENT0;0FARSI SYMBOL0
0ADI SHAKTI0;0HAMMER AND SICKLE0;0PEACE SYMBOL0;0YIN YANG0;0TRIGRAM FOR HEAVEN0;2LAKE0;2FIRE0
2THUNDER0;2WIND0;2WATER0;2MOUNTAIN0;2EARTH0;0WHEEL OF DHARMA0;0WHITE FROWNING FACE0;1SMILING1
0BLACK2;0WHITE SUN WITH RAYS0;0FIRST QUARTER MOON0;0LAST2;0MERCURY0;0FEMALE SIGN0;0EARTH0
0MALE SIGN0;0JUPITER0;0SATURN0;0URANUS0;0NEPTUNE0;0PLUTO0;0ARIES0;0TAURUS0;0GEMINI0;0CANCER0;0LEO0
0VIRGO0;0LIBRA0;0SCORPIUS0;0SAGITTARIUS0;0CAPRICORN0;0AQUARIUS0;0PISCES0;0WHITE CHESS KING0
2QUEEN0;2ROOK0;2BISHOP0;2KNIGHT0;2PAWN0;0BLACK CHESS KING0;2QUEEN0;2ROOK0;2BISHOP0;2KNIGHT0;2PAWN0
1SPADE SUIT0;0WHITE HEART1;1DIAMOND1;0BLACK CLUB1;0WHITE SPADE1;0BLACK HEART1;1DIAMOND1
0WHITE CLUB1;0HOT SPRINGS0;0QUARTER NOTE0;0EIGHTH1;0BEAMED EIGHTH NOTES0;1SIXTEENTH1
0MUSIC FLAT SIGN0;1NATURAL1;1SHARP1;0WEST SYRIAC CROSS0;0EAST2;0UNIVERSAL RECYCLING SYMBOL0
0RECYCLING SYMBOL FOR TYPE-1 PLASTICS0;3TYPE-21;3TYPE-31;3TYPE-41;3TYPE-51;3TYPE-61;3TYPE-71
3GENERIC MATERIALS0;0BLACK UNIVERSAL RECYCLING SYMBOL0;0RECYCLED PAPER1;0PARTIALLY-RECYCLED2
0PERMANENT PAPER SIGN0;0WHEELCHAIR SYMBOL0;0DIE FACE-10;1FACE-20;1FACE-30;1FACE-40;1FACE-50
1FACE-60;0WHITE CIRCLE WITH DOT RIGHT0;3TWO DOTS0;0BLACK CIRCLE WITH WHITE DOT RIGHT0
3TWO WHITE DOTS0;0MONOGRAM FOR YANG0;2YIN0;0DIGRAM FOR GREATER YANG0;2LESSER YIN0;3YANG0
2GREATER YIN0;0WHITE FLAG0;0BLACK1;0HAMMER AND PICK0;0ANCHOR0;0CROSSED SWORDS0
0STAFF OF AESCULAPIUS0;0SCALES0;0ALEMBIC0;0FLOWER0;0GEAR0;0STAFF OF HERMES0;0ATOM SYMBOL0
0FLEUR-DE-LIS0;0OUTLINED WHITE STAR0;0THREE LINES CONVERGING RIGHT0;3LEFT0;0WARNING SIGN0
0HIGH VOLTAGE1;0DOUBLED FEMALE1;1MALE1;0INTERLOCKED FEMALE AND2;0MALE AND FEMALE1;1WITH STROKE1
3AND MALE AND FEMALE1;0VERTICAL MALE WITH STROKE1;0HORIZONTAL4;0MEDIUM WHITE CIRCLE0;1BLACK1
1SMALL WHITE1;0MARRIAGE SYMBOL0;0DIVORCE1;0UNMARRIED PARTNERSHIP1;0COFFIN0;0FUNERAL URN0;0NEUTER0
0CERES0;0PALLAS0;0JUNO0;0VESTA0;0CHIRON0;0BLACK MOON LILITH0;0SEXTILE0;0SEMISEXTILE0;0QUINCUNX0
0SESQUIQUADRATE0;0SOCCER BALL0;0BASEBALL0;0SQUARED KEY0;0WHITE DRAUGHTS MAN0;2KING0
0BLACK DRAUGHTS MAN0;2KING0;0SNOWMAN WITHOUT SNOW0;0SUN BEHIND CLOUD0;0RAIN0;0BLACK SNOWMAN0
0THUNDER CLOUD AND RAIN0;0TURNED WHITE SHOGI PIECE0;1BLACK2;0WHITE DIAMOND IN SQUARE0
0CROSSING LANES0;0DISABLED CAR0;0OPHIUCHUS0;0PICK0;0CAR SLIDING0;0HELMET WITH WHITE CROSS0
0CIRCLED CROSSING LANES0;0CHAINS0;0NO ENTRY0;0ALTERNATE ONE-WAY LEFT WAY TRAFFIC0;0BLACK TWO-WAY3
0WHITE4;0BLACK LEFT LANE MERGE0;0WHITE3;0DRIVE SLOW SIGN0;0HEAVY WHITE DOWN-POINTING TRIANGLE0
0LEFT CLOSED ENTRY0;0SQUARED SALTIRE0;0FALLING DIAGONAL IN WHITE CIRCLE IN BLACK SQUARE0
0BLACK TRUCK0;0RESTRICTED LEFT ENTRY-10;2ENTRY-20;0ASTRONOMICAL SYMBOL FOR URANUS0
0HEAVY CIRCLE WITH STROKE AND TWO DOTS ABOVE0;0PENTAGRAM0;0RIGHT-HANDED INTERLACED1;0LEFT-HANDED2
0INVERTED1;0BLACK CROSS ON SHIELD0;0SHINTO SHRINE0;0CHURCH0;0CASTLE0;0HISTORIC SITE0
0GEAR WITHOUT HUB0;1WITH HANDLES0;0MAP SYMBOL FOR LIGHTHOUSE0;0MOUNTAIN0;0UMBRELLA ON GROUND0
0FOUNTAIN0;0FLAG IN HOLE0;0FERRY0;0SAILBOAT0;0SQUARE FOUR CORNERS0;0SKIER0;0ICE SKATE0
0PERSON WITH BALL0;0TENT0;0JAPANESE BANK SYMBOL0;0HEADSTONE GRAVEYARD1;0FUEL PUMP0
0CUP ON BLACK SQUARE0;0WHITE FLAG WITH HORIZONTAL MIDDLE BLACK STRIPE0;0BLACK SAFETY SCISSORS0
0UPPER BLADE1;0BLACK1;0LOWER BLADE1;0WHITE1;1HEAVY CHECK MARK0;0TELEPHONE LOCATION SIGN0
0TAPE DRIVE0;0AIRPLANE0;0ENVELOPE0;0RAISED FIST0;1HAND0;0VICTORY1;0WRITING1;0LOWER RIGHT PENCIL0
01;0UPPER RIGHT1;0WHITE NIB0;0BLACK1;0CHECK MARK0;0HEAVY2;0MULTIPLICATION X0;0HEAVY2;0BALLOT1
0HEAVY2;0OUTLINED GREEK CROSS0;0HEAVY2;0OPEN CENTRE1;0HEAVY3;0LATIN1;0SHADOWED WHITE2;0OUTLINED2
0MALTESE1;0STAR OF DAVID0;0FOUR TEARDROP-SPOKED ASTERISK0;1BALLOON-SPOKED1;0HEAVY3
0FOUR CLUB-SPOKED1;0BLACK FOUR POINTED STAR0;0WHITE3;0SPARKLES0;0STRESS OUTLINED WHITE STAR0
0CIRCLED2;0OPEN CENTRE BLACK1;0BLACK CENTRE WHITE1;0OUTLINED BLACK1;0HEAVY3;0PINWHEEL1
0SHADOWED WHITE1;0HEAVY ASTERISK0;0OPEN CENTRE1;0EIGHT SPOKED1;1POINTED BLACK STAR0;2PINWHEEL1
0SIX POINTED BLACK1;0EIGHT POINTED RECTILINEAR2;0HEAVY5;0TWELVE POINTED2
0SIXTEEN POINTED ASTERISK0;0TEARDROP-SPOKED1;0OPEN CENTRE2;0HEAVY2
0SIX PETALLED BLACK AND WHITE FLORETTE0;0BLACK1;0WHITE1;0EIGHT PETALLED OUTLINED BLACK1
0CIRCLED OPEN CENTRE EIGHT POINTED STAR0;0HEAVY TEARDROP-SPOKED PINWHEEL ASTERISK0;0SNOWFLAKE0
0TIGHT TRIFOLIATE1;0HEAVY CHEVRON1;0SPARKLE0;0HEAVY1;0BALLOON-SPOKED ASTERISK0
0EIGHT TEARDROP-SPOKED PROPELLER1;0HEAVY4;0CROSS MARK0;0SHADOWED WHITE CIRCLE0
0NEGATIVE SQUARED CROSS MARK0;0LOWER RIGHT DROP-SHADOWED WHITE SQUARE0;0UPPER4
0LOWER RIGHT SHADOWED2;0UPPER4;0BLACK QUESTION MARK ORNAMENT0;0WHITE3;1EXCLAMATION2
0BLACK DIAMOND MINUS WHITE X0;0HEAVY EXCLAMATION MARK SYMBOL0;0LIGHT VERTICAL BAR0;0MEDIUM2
0HEAVY2;1SINGLE TURNED COMMA QUOTATION MARK ORNAMENT0;24;1DOUBLE TURNED4;24;1LOW SINGLE4;2DOUBLE4
0CURVED STEM PARAGRAPH SIGN1;0HEAVY EXCLAMATION MARK1;1HEART3;1BLACK HEART0
0ROTATED HEAVY BLACK HEART BULLET0;0FLORAL HEART0;0ROTATED FLORAL HEART BULLET0
0MEDIUM LEFT PARENTHESIS ORNAMENT0;1RIGHT2;1FLATTENED LEFT2;2RIGHT2;1LEFT-POINTING ANGLE BRACKET1
1RIGHT-POINTING3;0HEAVY LEFT-POINTING ANGLE QUOTATION MARK1;1RIGHT-POINTING4
1LEFT-POINTING ANGLE BRACKET1;1RIGHT-POINTING3;0LIGHT LEFT TORTOISE SHELL2;1RIGHT4
0MEDIUM LEFT CURLY2;1RIGHT3;0DINGBAT NEGATIVE CIRCLED DIGIT ONE0;4TWO0;4THREE0;4FOUR0;4FIVE0;4SIX0
4SEVEN0;4EIGHT0;4NINE0;3NUMBER TEN0;1CIRCLED SANS-SERIF DIGIT ONE0;4TWO0;4THREE0;4FOUR0;4FIVE0
4SIX0;4SEVEN0;4EIGHT0;4NINE0;3NUMBER TEN0;1NEGATIVE CIRCLED SANS-SERIF DIGIT ONE0;5TWO0;5THREE0
5FOUR0;5FIVE0;5SIX0;5SEVEN0;5EIGHT0;5NINE0;4NUMBER TEN0;0HEAVY WIDE-HEADED RIGHTWARDS ARROW0
1PLUS SIGN0;1MINUS1;1DIVISION1;1SOUTH EAST ARROW0;1RIGHTWARDS1;1NORTH EAST1
0DRAFTING POINT RIGHTWARDS1;0HEAVY ROUND-TIPPED2;0TRIANGLE-HEADED2;0HEAVY3;0DASHED3;0HEAVY4
0BLACK2;0THREE-D TOP-LIGHTED RIGHTWARDS ARROWHEAD0;1BOTTOM-LIGHTED2;0BLACK2
0HEAVY BLACK CURVED DOWNWARDS AND RIGHTWARDS ARROW0;3UPWARDS3;0SQUAT BLACK2
0HEAVY CONCAVE-POINTED3;0RIGHT-SHADED WHITE2;0LEFT-SHADED3;0BACK-TILTED SHADOWED3;0FRONT-TILTED4
0HEAVY LOWER RIGHT-SHADOWED3;1UPPER4;0NOTCHED LOWER4;0CURLY LOOP0
0NOTCHED UPPER RIGHT-SHADOWED WHITE RIGHTWARDS ARROW0;0CIRCLED HEAVY3;0WHITE-FEATHERED2
0BLACK-FEATHERED SOUTH EAST1;1RIGHTWARDS1;1NORTH EAST1;0HEAVY BLACK-FEATHERED SOUTH2;2RIGHTWARDS1
2NORTH EAST1;0TEARDROP-BARBED RIGHTWARDS1;0HEAVY TEARDROP-SHANKED2;0WEDGE-TAILED2;0HEAVY3
0OPEN-OUTLINED2;0DOUBLE CURLY LOOP0;0THREE DIMENSIONAL ANGLE0
0WHITE TRIANGLE CONTAINING SMALL WHITE TRIANGLE0;0PERPENDICULAR0;0OPEN SUBSET0;1SUPERSET0
0LEFT S-SHAPED BAG DELIMITER0;0RIGHT3;0OR WITH DOT INSIDE0;0REVERSE SOLIDUS PRECEDING SUBSET0
0SUPERSET PRECEDING SOLIDUS0;0VERTICAL BAR WITH HORIZONTAL STROKE0;0MATHEMATICAL RISING DIAGONAL0
0LONG DIVISION0;0MATHEMATICAL FALLING DIAGONAL0;0SQUARED LOGICAL AND0;2OR0
0WHITE DIAMOND WITH CENTRED DOT0;0AND WITH1;0ELEMENT OF OPENING UPWARDS0
0LOWER RIGHT CORNER WITH DOT0;0UPPER LEFT3;0LEFT OUTER JOIN0;0RIGHT2;0FULL2;0LARGE UP TACK0;1DOWN1
0LEFT AND RIGHT DOUBLE TURNSTILE0;3TACK0;1MULTIMAP0;0LONG RIGHT TACK0;1LEFT1
0UP TACK WITH CIRCLE ABOVE0;0LOZENGE DIVIDED BY HORIZONTAL RULE0;0WHITE CONCAVE-SIDED DIAMOND0
3WITH LEFTWARDS TICK0;4RIGHTWARDS1;1SQUARE WITH LEFTWARDS1;3RIGHTWARDS1
0MATHEMATICAL LEFT WHITE SQUARE BRACKET0;1RIGHT3;1LEFT ANGLE1;1RIGHT2;1LEFT DOUBLE2;1RIGHT3
1LEFT WHITE TORTOISE SHELL1;1RIGHT4;1LEFT FLATTENED PARENTHESIS0;1RIGHT2;0UPWARDS QUADRUPLE ARROW0
0DOWNWARDS2;0ANTICLOCKWISE GAPPED CIRCLE1;0CLOCKWISE3;0RIGHT ARROW WITH CIRCLED PLUS0
0LONG LEFTWARDS ARROW0;1RIGHTWARDS1;1LEFT RIGHT1;1LEFTWARDS DOUBLE1;1RIGHTWARDS2;1LEFT RIGHT2
1LEFTWARDS ARROW FROM BAR0;1RIGHTWARDS3;1LEFTWARDS DOUBLE3;1RIGHTWARDS4;2SQUIGGLE ARROW0
0BRAILLE PATTERN BLANK0;2DOTS-10;2DOTS-20;2DOTS-120;2DOTS-30;2DOTS-130;2DOTS-230;2DOTS-1230
2DOTS-40;2DOTS-140;2DOTS-240;2DOTS-1240;2DOTS-340;2DOTS-1340;2DOTS-2340;2DOTS-12340;2DOTS-50
2DOTS-150;2DOTS-250;2DOTS-1250;2DOTS-350;2DOTS-1350;2DOTS-2350;2DOTS-12350;2DOTS-450;2DOTS-1450
2DOTS-2450;2DOTS-12450;2DOTS-3450;2DOTS-13450;2DOTS-23450;2DOTS-123450;2DOTS-60;2DOTS-160
2DOTS-260;2DOTS-1260;2DOTS-360;2DOTS-1360;2DOTS-2360;2DOTS-12360;2DOTS-460;2DOTS-1460;2DOTS-2460
2DOTS-12460;2DOTS-3460;2DOTS-13460;2DOTS-23460;2DOTS-123460;2DOTS-560;2DOTS-1560;2DOTS-2560
2DOTS-12560;2DOTS-3560;2DOTS-13560;2DOTS-23560;2DOTS-123560;2DOTS-4560;2DOTS-14560;2DOTS-24560
2DOTS-124560;2DOTS-34560;2DOTS-134560;2DOTS-234560;2DOTS-1234560;2DOTS-70;2DOTS-170;2DOTS-270
2DOTS-1270;2DOTS-370;2DOTS-1370;2DOTS-2370;2DOTS-12370;2DOTS-470;2DOTS-1470;2DOTS-2470;2DOTS-12470
2DOTS-3470;2DOTS-13470;2DOTS-23470;2DOTS-123470;2DOTS-570;2DOTS-1570;2DOTS-2570;2DOTS-12570
2DOTS-3570;2DOTS-13570;2DOTS-23570;2DOTS-123570;2DOTS-4570;2DOTS-14570;2DOTS-24570;2DOTS-124570
2DOTS-34570;2DOTS-134570;2DOTS-234570;2DOTS-1234570;2DOTS-670;2DOTS-1670;2DOTS-2670;2DOTS-12670
2DOTS-3670;2DOTS-13670;2DOTS-23670;2DOTS-123670;2DOTS-4670;2DOTS-14670;2DOTS-24670;2DOTS-124670
2DOTS-34670;2DOTS-134670;2DOTS-234670;2DOTS-1234670;2DOTS-5670;2DOTS-15670;2DOTS-25670
2DOTS-125670;2DOTS-35670;2DOTS-135670;2DOTS-235670;2DOTS-1235670;2DOTS-45670;2DOTS-145670
2DOTS-245670;2DOTS-1245670;2DOTS-345670;2DOTS-1345670;2DOTS-2345670;2DOTS-12345670;2DOTS-80
2DOTS-180;2DOTS-280;2DOTS-1280;2DOTS-380;2DOTS-1380;2DOTS-2380;2DOTS-12380;2DOTS-480;2DOTS-1480
2DOTS-2480;2DOTS-12480;2DOTS-3480;2DOTS-13480;2DOTS-23480;2DOTS-123480;2DOTS-580;2DOTS-1580
2DOTS-2580;2DOTS-12580;2DOTS-3580;2DOTS-13580;2DOTS-23580;2DOTS-123580;2DOTS-4580;2DOTS-14580
2DOTS-24580;2DOTS-124580;2DOTS-34580;2DOTS-134580;2DOTS-234580;2DOTS-1234580;2DOTS-680;2DOTS-1680
2DOTS-2680;2DOTS-12680;2DOTS-3680;2DOTS-13680;2DOTS-23680;2DOTS-123680;2DOTS-4680;2DOTS-14680
2DOTS-24680;2DOTS-124680;2DOTS-34680;2DOTS-134680;2DOTS-234680;2DOTS-1234680;2DOTS-5680
2DOTS-15680;2DOTS-25680;2DOTS-125680;2DOTS-35680;2DOTS-135680;2DOTS-235680;2DOTS-1235680
2DOTS-45680;2DOTS-145680;2DOTS-245680;2DOTS-1245680;2DOTS-345680;2DOTS-1345680;2DOTS-2345680
2DOTS-12345680;2DOTS-780;2DOTS-1780;2DOTS-2780;2DOTS-12780;2DOTS-3780;2DOTS-13780;2DOTS-23780
2DOTS-123780;2DOTS-4780;2DOTS-14780;2DOTS-24780;2DOTS-124780;2DOTS-34780;2DOTS-134780;2DOTS-234780
2DOTS-1234780;2DOTS-5780;2DOTS-15780;2DOTS-25780;2DOTS-125780;2DOTS-35780;2DOTS-135780
2DOTS-235780;2DOTS-1235780;2DOTS-45780;2DOTS-145780;2DOTS-245780;2DOTS-1245780;2DOTS-345780
2DOTS-1345780;2DOTS-2345780;2DOTS-12345780;2DOTS-6780;2DOTS-16780;2DOTS-26780;2DOTS-126780
2DOTS-36780;2DOTS-136780;2DOTS-236780;2DOTS-1236780;2DOTS-46780;2DOTS-146780;2DOTS-246780
2DOTS-1246780;2DOTS-346780;2DOTS-1346780;2DOTS-2346780;2DOTS-12346780;2DOTS-56780;2DOTS-156780
2DOTS-256780;2DOTS-1256780;2DOTS-356780;2DOTS-1356780;2DOTS-2356780;2DOTS-12356780;2DOTS-456780
2DOTS-1456780;2DOTS-2456780;2DOTS-12456780;2DOTS-3456780;2DOTS-13456780;2DOTS-23456780
2DOTS-123456780;0RIGHTWARDS TWO-HEADED ARROW WITH VERTICAL STROKE0;4DOUBLE2
0LEFTWARDS DOUBLE ARROW WITH2;0RIGHTWARDS5;0LEFT RIGHT5;0RIGHTWARDS TWO-HEADED ARROW FROM BAR0
0LEFTWARDS DOUBLE3;0RIGHTWARDS4;0DOWNWARDS ARROW WITH HORIZONTAL STROKE0;0UPWARDS4;1TRIPLE ARROW0
0DOWNWARDS2;0LEFTWARDS DOUBLE DASH1;0RIGHTWARDS3;0LEFTWARDS TRIPLE2;0RIGHTWARDS3;1TWO-HEADED3
1ARROW WITH DOTTED STEM0;0UPWARDS ARROW TO BAR0;0DOWNWARDS3
0RIGHTWARDS ARROW WITH TAIL WITH VERTICAL STROKE0;5DOUBLE2;1TWO-HEADED ARROW WITH TAIL0
5WITH VERTICAL STROKE0;6DOUBLE2;0LEFTWARDS ARROW-TAIL0;0RIGHTWARDS1;0LEFTWARDS DOUBLE1
0RIGHTWARDS2;0LEFTWARDS ARROW TO BLACK DIAMOND0;0RIGHTWARDS4;0LEFTWARDS ARROW FROM BAR3
0RIGHTWARDS6;0NORTH WEST AND SOUTH EAST ARROW0;1EAST AND SOUTH WEST1;1WEST ARROW WITH HOOK0;1EAST3
0SOUTH4;1WEST3;0NORTH WEST ARROW AND NORTH EAST ARROW0;1EAST ARROW AND SOUTH2
0SOUTH EAST ARROW AND SOUTH WEST1;1WEST ARROW AND NORTH2
0RISING DIAGONAL CROSSING FALLING DIAGONAL0;0FALLING DIAGONAL CROSSING RISING1
0SOUTH EAST ARROW CROSSING NORTH EAST ARROW0;0NORTH EAST ARROW CROSSING SOUTH2
0FALLING DIAGONAL CROSSING NORTH2;0RISING DIAGONAL CROSSING SOUTH2
0NORTH EAST ARROW CROSSING NORTH WEST1;1WEST ARROW CROSSING NORTH EAST1
0WAVE ARROW POINTING DIRECTLY RIGHT0;0ARROW POINTING RIGHTWARDS THEN CURVING UPWARDS0;5DOWNWARDS0
2DOWNWARDS THEN CURVING LEFTWARDS0;5RIGHTWARDS0;0RIGHT-SIDE ARC CLOCKWISE ARROW0
0LEFT-SIDE ARC ANTICLOCKWISE1;0TOP3;0BOTTOM3;0TOP ARC CLOCKWISE ARROW WITH MINUS0
2ANTICLOCKWISE ARROW WITH PLUS0;0LOWER RIGHT SEMICIRCULAR CLOCKWISE ARROW0
1LEFT SEMICIRCULAR ANTICLOCKWISE1;0ANTICLOCKWISE CLOSED CIRCLE1;0CLOCKWISE3
0RIGHTWARDS ARROW ABOVE SHORT LEFTWARDS1;0LEFTWARDS ARROW ABOVE SHORT RIGHTWARDS1
0SHORT RIGHTWARDS ARROW ABOVE LEFTWARDS1;0RIGHTWARDS ARROW WITH PLUS BELOW0;0LEFTWARDS4
0RIGHTWARDS ARROW THROUGH X0;0LEFT RIGHT ARROW THROUGH SMALL CIRCLE0
0UPWARDS TWO-HEADED ARROW FROM2;0LEFT BARB UP RIGHT BARB DOWN HARPOON0;2DOWN RIGHT BARB UP1
0UP BARB RIGHT DOWN BARB LEFT1;2LEFT DOWN BARB RIGHT1;0LEFT BARB UP RIGHT BARB UP1
0UP BARB RIGHT DOWN BARB RIGHT1;0LEFT BARB DOWN RIGHT BARB DOWN1;0UP BARB LEFT DOWN BARB LEFT1
0LEFTWARDS HARPOON WITH BARB UP TO BAR0;0RIGHTWARDS6;0UPWARDS HARPOON WITH BARB RIGHT2;0DOWNWARDS6
0LEFTWARDS HARPOON WITH BARB DOWN2;0RIGHTWARDS6;0UPWARDS HARPOON WITH BARB LEFT2;0DOWNWARDS6
0LEFTWARDS HARPOON WITH BARB UP FROM1;0RIGHTWARDS6;0UPWARDS HARPOON WITH BARB RIGHT2;0DOWNWARDS6
0LEFTWARDS HARPOON WITH BARB DOWN2;0RIGHTWARDS6;0UPWARDS HARPOON WITH BARB LEFT2;0DOWNWARDS6
0LEFTWARDS HARPOON WITH BARB UP ABOVE LEFTWARDS HARPOON WITH BARB DOWN0
0UPWARDS HARPOON WITH BARB LEFT BESIDE UPWARDS HARPOON WITH BARB RIGHT0
0RIGHTWARDS HARPOON WITH BARB UP ABOVE RIGHTWARDS HARPOON WITH BARB DOWN0
0DOWNWARDS HARPOON WITH BARB LEFT BESIDE DOWNWARDS HARPOON WITH BARB RIGHT0
0LEFTWARDS HARPOON WITH BARB UP ABOVE RIGHTWARDS HARPOON WITH BARB UP0
4DOWN ABOVE RIGHTWARDS HARPOON WITH BARB DOWN0
0RIGHTWARDS HARPOON WITH BARB UP ABOVE LEFTWARDS HARPOON WITH BARB UP0
4DOWN ABOVE LEFTWARDS HARPOON WITH BARB DOWN0;0LEFTWARDS HARPOON WITH BARB UP ABOVE LONG DASH0
4DOWN BELOW2;0RIGHTWARDS HARPOON WITH BARB UP ABOVE2;4DOWN BELOW2
0UPWARDS HARPOON WITH BARB LEFT BESIDE DOWNWARDS HARPOON WITH BARB RIGHT0
0DOWNWARDS HARPOON WITH BARB LEFT BESIDE UPWARDS4;0RIGHT DOUBLE ARROW WITH ROUNDED HEAD0
0EQUALS SIGN ABOVE RIGHTWARDS ARROW0;0TILDE OPERATOR3;0LEFTWARDS ARROW ABOVE TILDE OPERATOR0
0RIGHTWARDS4;3ALMOST EQUAL TO0;0LESS-THAN ABOVE LEFTWARDS ARROW0
0LEFTWARDS ARROW THROUGH LESS-THAN0;0GREATER-THAN ABOVE RIGHTWARDS ARROW0;0SUBSET3
0LEFTWARDS ARROW THROUGH SUBSET0;0SUPERSET ABOVE LEFTWARDS ARROW0;0LEFT FISH TAIL0;0RIGHT2;0UP2
0DOWN2;0TRIPLE VERTICAL BAR DELIMITER0;0Z NOTATION SPOT0;2TYPE COLON0;0LEFT WHITE CURLY BRACKET0
0RIGHT3;0LEFT WHITE PARENTHESIS0;0RIGHT2;0Z NOTATION LEFT IMAGE BRACKET0;2RIGHT2;2LEFT BINDING1
2RIGHT2;0LEFT SQUARE BRACKET WITH UNDERBAR0;0RIGHT4;0LEFT SQUARE BRACKET WITH TICK IN TOP CORNER0
0RIGHT SQUARE BRACKET WITH TICK IN BOTTOM1;0LEFT7;0RIGHT SQUARE BRACKET WITH TICK IN TOP1
0LEFT ANGLE BRACKET WITH DOT0;0RIGHT4;0LEFT ARC LESS-THAN BRACKET0;0RIGHT ARC GREATER-THAN1
0DOUBLE LEFT3;1RIGHT ARC LESS-THAN1;0LEFT BLACK TORTOISE SHELL1;0RIGHT4;0DOTTED FENCE0
0VERTICAL ZIGZAG LINE0;0MEASURED ANGLE OPENING LEFT0;0RIGHT ANGLE VARIANT WITH SQUARE0
0MEASURED RIGHT ANGLE WITH DOT0;0ANGLE WITH S INSIDE0;0ACUTE ANGLE0;0SPHERICAL ANGLE OPENING LEFT0
3UP0;0TURNED ANGLE0;0REVERSED1;0ANGLE WITH UNDERBAR0;0REVERSED3;0OBLIQUE ANGLE OPENING UP0;3DOWN0
0MEASURED ANGLE WITH OPEN ARM ENDING IN ARROW POINTING UP AND RIGHT0;9UP AND LEFT0
9DOWN AND RIGHT0;9DOWN AND LEFT0;9RIGHT AND UP0;9LEFT2;9RIGHT AND DOWN0;9LEFT2
0REVERSED EMPTY SET0;0EMPTY SET WITH OVERBAR0;3SMALL CIRCLE ABOVE0;3RIGHT ARROW1;3LEFT2
0CIRCLE WITH HORIZONTAL BAR0;0CIRCLED VERTICAL1;1PARALLEL0;1REVERSE SOLIDUS0;1PERPENDICULAR0
0CIRCLE DIVIDED BY HORIZONTAL BAR AND TOP HALF DIVIDED BY VERTICAL BAR0;1WITH SUPERIMPOSED X0
0CIRCLED ANTICLOCKWISE-ROTATED DIVISION SIGN0;0UP ARROW THROUGH CIRCLE0;0CIRCLED WHITE BULLET0;11
1LESS-THAN0;1GREATER-THAN0;0CIRCLE WITH SMALL CIRCLE TO THE RIGHT0;2TWO HORIZONTAL STROKES3
0SQUARED RISING DIAGONAL SLASH0;1FALLING2;1ASTERISK0;1SMALL CIRCLE0;1SQUARE0;0TWO JOINED SQUARES0
0TRIANGLE WITH DOT ABOVE0;2UNDERBAR0;0S IN TRIANGLE0;0TRIANGLE WITH SERIFS AT BOTTOM0
0RIGHT TRIANGLE ABOVE LEFT TRIANGLE0;0LEFT TRIANGLE BESIDE VERTICAL BAR0
0VERTICAL BAR BESIDE RIGHT TRIANGLE0;0BOWTIE WITH LEFT HALF BLACK0;2RIGHT2;0BLACK BOWTIE0
0TIMES WITH LEFT HALF BLACK0;2RIGHT2;0WHITE HOURGLASS0;0BLACK1;0LEFT WIGGLY FENCE0;0RIGHT2
0LEFT DOUBLE2;0RIGHT3;0INCOMPLETE INFINITY0;0TIE OVER1;0INFINITY NEGATED WITH VERTICAL BAR0
0DOUBLE-ENDED MULTIMAP0;0SQUARE WITH CONTOURED OUTLINE0;0INCREASES AS0;0SHUFFLE PRODUCT0
0EQUALS SIGN AND SLANTED PARALLEL0;5WITH TILDE ABOVE0;0IDENTICAL TO AND SLANTED PARALLEL0
0GLEICH STARK0;0THERMODYNAMIC0;0DOWN-POINTING TRIANGLE WITH LEFT HALF BLACK0;3RIGHT2
0BLACK DIAMOND WITH DOWN ARROW0;1LOZENGE0;0WHITE CIRCLE WITH DOWN ARROW0;0BLACK4
0ERROR-BARRED WHITE SQUARE0;1BLACK1;1WHITE DIAMOND0;1BLACK1;1WHITE CIRCLE0;1BLACK1;0RULE-DELAYED0
0REVERSE SOLIDUS OPERATOR0;0SOLIDUS WITH OVERBAR0;0REVERSE SOLIDUS WITH HORIZONTAL STROKE0
0BIG SOLIDUS0;1REVERSE1;0DOUBLE PLUS0;0TRIPLE1;0LEFT-POINTING CURVED ANGLE BRACKET0
0RIGHT-POINTING3;0TINY0;0MINY0;0N-ARY CIRCLED DOT OPERATOR0;2PLUS1;2TIMES1
1UNION OPERATOR WITH DOT0;4PLUS0;1SQUARE INTERSECTION OPERATOR0;2UNION1;0TWO LOGICAL AND1;2OR1
0N-ARY TIMES1;0MODULO TWO SUM0;0SUMMATION WITH INTEGRAL0;0QUADRUPLE INTEGRAL OPERATOR0
0FINITE PART INTEGRAL0;0INTEGRAL WITH DOUBLE STROKE0;1AVERAGE WITH SLASH0;0CIRCULATION FUNCTION0
0ANTICLOCKWISE INTEGRATION0;0LINE INTEGRATION WITH RECTANGULAR PATH AROUND POLE0;3SEMICIRCULAR3
2NOT INCLUDING THE1;0INTEGRAL AROUND A POINT OPERATOR0;0QUATERNION INTEGRAL1
0INTEGRAL WITH LEFTWARDS ARROW WITH HOOK0;2TIMES SIGN0;2INTERSECTION0;2UNION0;2OVERBAR0;2UNDERBAR0
0JOIN0;0LARGE LEFT TRIANGLE OPERATOR0;0Z NOTATION SCHEMA COMPOSITION0;3PIPING0;3PROJECTION0
0PLUS SIGN WITH SMALL CIRCLE ABOVE0;3CIRCUMFLEX ACCENT1;3TILDE1;3DOT BELOW0;3TILDE1
3SUBSCRIPT TWO0;3BLACK TRIANGLE0;0MINUS SIGN WITH COMMA ABOVE0;3DOT BELOW0;3FALLING DOTS0;3RISING1
0PLUS SIGN IN LEFT HALF CIRCLE0;3RIGHT2;0VECTOR OR CROSS PRODUCT0
0MULTIPLICATION SIGN WITH DOT ABOVE0;3UNDERBAR0;0SEMIDIRECT PRODUCT WITH BOTTOM CLOSED0
0SMASH PRODUCT0;0MULTIPLICATION SIGN IN LEFT HALF CIRCLE0;3RIGHT2
0CIRCLED MULTIPLICATION SIGN WITH CIRCUMFLEX ACCENT0;0MULTIPLICATION SIGN IN DOUBLE CIRCLE0
0CIRCLED DIVISION SIGN0;0PLUS SIGN IN TRIANGLE0;0MINUS3;0MULTIPLICATION3;0INTERIOR PRODUCT0
0RIGHTHAND2;0Z NOTATION RELATIONAL COMPOSITION0;0AMALGAMATION OR COPRODUCT0
0INTERSECTION WITH DOT0;0UNION WITH MINUS SIGN0;2OVERBAR0;0INTERSECTION2;2LOGICAL AND0
0UNION WITH LOGICAL OR0;1ABOVE INTERSECTION0;0INTERSECTION ABOVE UNION0
0UNION ABOVE BAR ABOVE INTERSECTION0;0INTERSECTION ABOVE BAR ABOVE UNION0
0UNION BESIDE AND JOINED WITH1;0INTERSECTION BESIDE AND JOINED WITH INTERSECTION0
0CLOSED UNION WITH SERIFS0;1INTERSECTION2;0DOUBLE SQUARE INTERSECTION0;2UNION0
0CLOSED UNION WITH SERIFS AND SMASH PRODUCT0;0LOGICAL AND WITH DOT ABOVE0;1OR3
0DOUBLE LOGICAL AND0;2OR0;0TWO INTERSECTING LOGICAL AND0;3OR0;0SLOPING LARGE1;2AND0
0LOGICAL OR OVERLAPPING LOGICAL1;1AND WITH MIDDLE STEM0;1OR3;1AND WITH HORIZONTAL DASH0;1OR3
1AND WITH DOUBLE OVERBAR0;3UNDERBAR0;3DOUBLE1;0SMALL VEE WITH1;0LOGICAL OR WITH DOUBLE OVERBAR0
4UNDERBAR0;0Z NOTATION DOMAIN ANTIRESTRICTION0;2RANGE1;0EQUALS SIGN WITH DOT BELOW0
0IDENTICAL WITH DOT ABOVE0;0TRIPLE HORIZONTAL BAR WITH DOUBLE VERTICAL STROKE0;4TRIPLE2
0TILDE OPERATOR WITH DOT ABOVE0;3RISING DOTS0;0SIMILAR MINUS SIMILAR0;0CONGRUENT WITH DOT ABOVE0
0EQUALS WITH ASTERISK0;0ALMOST EQUAL TO WITH CIRCUMFLEX ACCENT0;0APPROXIMATELY EQUAL OR EQUAL TO0
0EQUALS SIGN ABOVE PLUS SIGN0;0PLUS SIGN ABOVE EQUALS1;0EQUALS SIGN ABOVE TILDE OPERATOR0
0DOUBLE COLON EQUAL0;0TWO CONSECUTIVE EQUALS SIGNS0;0THREE3
0EQUALS SIGN WITH TWO DOTS ABOVE AND TWO DOTS BELOW0;0EQUIVALENT WITH FOUR DOTS ABOVE0
0LESS-THAN WITH CIRCLE INSIDE0;0GREATER-THAN3;0LESS-THAN WITH QUESTION MARK ABOVE0;0GREATER-THAN4
0LESS-THAN OR SLANTED EQUAL TO0;0GREATER-THAN4;0LESS-THAN OR SLANTED EQUAL TO WITH DOT INSIDE0
0GREATER-THAN7;0LESS-THAN OR SLANTED EQUAL TO WITH DOT ABOVE0;0GREATER-THAN7
0LESS-THAN OR SLANTED EQUAL TO WITH DOT ABOVE RIGHT0
0GREATER-THAN OR SLANTED EQUAL TO WITH DOT ABOVE LEFT0;0LESS-THAN OR APPROXIMATE0;0GREATER-THAN2
0LESS-THAN AND SINGLE-LINE NOT EQUAL TO0;0GREATER-THAN5;0LESS-THAN AND NOT APPROXIMATE0
0GREATER-THAN3;0LESS-THAN ABOVE DOUBLE-LINE EQUAL ABOVE GREATER-THAN0
0GREATER-THAN ABOVE DOUBLE-LINE EQUAL ABOVE LESS-THAN0;0LESS-THAN ABOVE SIMILAR OR EQUAL0
0GREATER-THAN4;0LESS-THAN ABOVE SIMILAR ABOVE GREATER-THAN0
0GREATER-THAN ABOVE SIMILAR ABOVE LESS-THAN0
0LESS-THAN ABOVE GREATER-THAN ABOVE DOUBLE-LINE EQUAL0;0GREATER-THAN ABOVE LESS-THAN3
0LESS-THAN ABOVE SLANTED EQUAL ABOVE GREATER-THAN ABOVE SLANTED1
0GREATER-THAN ABOVE SLANTED EQUAL ABOVE LESS-THAN3;0SLANTED EQUAL TO OR LESS-THAN0;4GREATER-THAN0
4LESS-THAN WITH DOT INSIDE0;4GREATER-THAN3;0DOUBLE-LINE EQUAL TO OR LESS-THAN0;4GREATER-THAN0
1SLANTED EQUAL TO OR LESS-THAN0;5GREATER-THAN0;0SIMILAR OR LESS-THAN0;2GREATER-THAN0
1ABOVE LESS-THAN ABOVE EQUALS SIGN0;2GREATER-THAN3;0DOUBLE NESTED LESS-THAN0;2GREATER-THAN0
2LESS-THAN WITH UNDERBAR0;0GREATER-THAN OVERLAPPING LESS-THAN0;1BESIDE1
0LESS-THAN CLOSED BY CURVE0;0GREATER-THAN3;0LESS-THAN CLOSED BY CURVE ABOVE SLANTED EQUAL0
0GREATER-THAN6;0SMALLER THAN0;0LARGER1;0SMALLER THAN OR EQUAL TO0;0LARGER4
0EQUALS SIGN WITH BUMPY ABOVE0;0PRECEDES ABOVE SINGLE-LINE EQUALS SIGN0;0SUCCEEDS4
0PRECEDES ABOVE SINGLE-LINE NOT EQUAL TO0;0SUCCEEDS5;0PRECEDES ABOVE EQUALS SIGN0;0SUCCEEDS3
0PRECEDES ABOVE NOT EQUAL TO0;0SUCCEEDS4;0PRECEDES ABOVE ALMOST2;0SUCCEEDS4;0PRECEDES ABOVE NOT3
0SUCCEEDS5;0DOUBLE PRECEDES0;1SUCCEEDS0;0SUBSET WITH DOT0;0SUPERSET2;0SUBSET WITH PLUS SIGN BELOW0
0SUPERSET4;0SUBSET WITH MULTIPLICATION2;0SUPERSET4;0SUBSET OF OR EQUAL TO WITH DOT ABOVE0
0SUPERSET7;0SUBSET OF ABOVE EQUALS SIGN0;0SUPERSET4;0SUBSET OF ABOVE TILDE OPERATOR0;0SUPERSET4
0SUBSET OF ABOVE ALMOST EQUAL TO0;0SUPERSET5;0SUBSET OF ABOVE NOT2;0SUPERSET5
0SQUARE LEFT OPEN BOX OPERATOR0;1RIGHT3;0CLOSED SUBSET0;1SUPERSET0;1SUBSET OR EQUAL TO0;1SUPERSET3
0SUBSET ABOVE SUPERSET0;0SUPERSET ABOVE SUBSET0;0SUBSET2;0SUPERSET ABOVE SUPERSET0;1BESIDE SUBSET0
2AND JOINED BY DASH WITH1;0ELEMENT OF OPENING DOWNWARDS0;0PITCHFORK WITH TEE TOP0
0TRANSVERSAL INTERSECTION0;0FORKING0;0NONFORKING0;0SHORT LEFT TACK0;1DOWN1;1UP1
0PERPENDICULAR WITH S0;0VERTICAL BAR TRIPLE RIGHT TURNSTILE0;0DOUBLE VERTICAL BAR LEFT1
0VERTICAL BAR DOUBLE2;0DOUBLE5;0LONG DASH FROM LEFT MEMBER OF DOUBLE VERTICAL0
0SHORT DOWN TACK WITH OVERBAR0;1UP TACK WITH UNDERBAR0;3ABOVE SHORT DOWN TACK0;0DOUBLE2;1UP1
1STROKE NOT SIGN0;0REVERSED4;0DOES NOT DIVIDE WITH REVERSED NEGATION SLASH0
0VERTICAL LINE WITH CIRCLE ABOVE0;4BELOW0;0DOWN TACK3;0PARALLEL WITH HORIZONTAL STROKE0
2TILDE OPERATOR0;0TRIPLE VERTICAL BAR BINARY RELATION0;3WITH HORIZONTAL STROKE0;1COLON OPERATOR0
1NESTED LESS-THAN0;2GREATER-THAN0;0DOUBLE-LINE SLANTED LESS-THAN OR EQUAL TO0;2GREATER-THAN3
0TRIPLE SOLIDUS BINARY RELATION0;0LARGE TRIPLE VERTICAL BAR OPERATOR0;0DOUBLE SOLIDUS1
0WHITE VERTICAL BAR0;0N-ARY3;0NORTH EAST WHITE ARROW0;1WEST2;0SOUTH EAST2;1WEST2;0LEFT RIGHT2
0LEFTWARDS BLACK1;0UPWARDS2;0DOWNWARDS2;0NORTH EAST2;1WEST2;0SOUTH EAST2;1WEST2;0LEFT RIGHT2
0UP DOWN2;0RIGHTWARDS ARROW WITH TIP DOWNWARDS0;4UPWARDS0;0LEFTWARDS ARROW WITH TIP DOWNWARDS0
4UPWARDS0;0SQUARE WITH TOP HALF BLACK0;2BOTTOM2;2UPPER RIGHT DIAGONAL2;2LOWER LEFT3
0DIAMOND WITH LEFT2;2RIGHT2;2TOP2;2BOTTOM2;0DOTTED SQUARE0;0BLACK LARGE1;0WHITE2
0BLACK VERY SMALL1;0WHITE3;0BLACK PENTAGON0;0WHITE1;1HEXAGON0;0BLACK1;0HORIZONTAL2
0BLACK LARGE CIRCLE0;1MEDIUM DIAMOND0;0WHITE2;0BLACK MEDIUM LOZENGE0;0WHITE2;0BLACK SMALL DIAMOND0
2LOZENGE0;0WHITE2;0BLACK HORIZONTAL ELLIPSE0;0WHITE2;0BLACK VERTICAL1;0WHITE2
0LEFT ARROW WITH SMALL CIRCLE0;0THREE LEFTWARDS ARROWS0;0LEFT ARROW WITH CIRCLED PLUS0
0LONG LEFTWARDS SQUIGGLE ARROW0;0LEFTWARDS TWO-HEADED ARROW WITH VERTICAL STROKE0;4DOUBLE2
3FROM BAR0;2TRIPLE DASH ARROW0;1ARROW WITH DOTTED STEM0;3TAIL WITH VERTICAL STROKE0;5DOUBLE2
1TWO-HEADED ARROW WITH TAIL0;5WITH VERTICAL STROKE0;6DOUBLE2;1ARROW THROUGH X0
0WAVE ARROW POINTING DIRECTLY LEFT0;0EQUALS SIGN ABOVE LEFTWARDS ARROW0;0REVERSE TILDE OPERATOR3
0LEFTWARDS ARROW ABOVE REVERSE ALMOST EQUAL TO0;0RIGHTWARDS ARROW THROUGH GREATER-THAN0;3SUPERSET0
0LEFTWARDS QUADRUPLE ARROW0;0RIGHTWARDS2;0REVERSE TILDE OPERATOR ABOVE RIGHTWARDS1
0RIGHTWARDS ARROW ABOVE REVERSE ALMOST EQUAL TO0;0TILDE OPERATOR ABOVE LEFTWARDS ARROW0
0LEFTWARDS ARROW ABOVE ALMOST EQUAL TO0;3REVERSE TILDE OPERATOR0;0RIGHTWARDS5
0DOWNWARDS TRIANGLE-HEADED ZIGZAG ARROW0;0SHORT SLANTED NORTH1;1BACKSLANTED SOUTH1
0WHITE MEDIUM STAR0;0BLACK SMALL1;0WHITE2;0BLACK RIGHT-POINTING PENTAGON0;0WHITE2
0HEAVY LARGE CIRCLE0;1OVAL WITH OVAL INSIDE0;1CIRCLE WITH CIRCLE1;20;1CIRCLED SALTIRE0
0SLANTED NORTH ARROW WITH HOOKED HEAD0;0BACKSLANTED SOUTH ARROW WITH HOOKED TAIL0
0SLANTED NORTH ARROW WITH HORIZONTAL1;0BACKSLANTED SOUTH4
0BENT ARROW POINTING DOWNWARDS THEN NORTH EAST0;0SHORT7;0LEFTWARDS TRIANGLE-HEADED ARROW0
0UPWARDS2;0RIGHTWARDS2;0DOWNWARDS2;0LEFT RIGHT2;0UP DOWN2;0NORTH WEST2;1EAST2;0SOUTH3;1WEST2
0LEFTWARDS TRIANGLE-HEADED DASHED1;0UPWARDS3;0RIGHTWARDS3;0DOWNWARDS3
0CLOCKWISE TRIANGLE-HEADED OPEN CIRCLE1;0ANTICLOCKWISE4;0LEFTWARDS TRIANGLE-HEADED ARROW TO BAR0
0UPWARDS4;0RIGHTWARDS4;0DOWNWARDS4;2b76:0NORTH WEST TRIANGLE-HEADED ARROW TO BAR0;1EAST4;0SOUTH5
1WEST4;0LEFTWARDS TRIANGLE-HEADED ARROW WITH DOUBLE HORIZONTAL STROKE0;0UPWARDS6;0RIGHTWARDS6
0DOWNWARDS6;0HORIZONTAL TAB KEY0;0VERTICAL2
0LEFTWARDS TRIANGLE-HEADED ARROW OVER RIGHTWARDS TRIANGLE-HEADED ARROW0
0UPWARDS TRIANGLE-HEADED ARROW LEFTWARDS OF DOWNWARDS2
0RIGHTWARDS TRIANGLE-HEADED ARROW OVER LEFTWARDS2
0DOWNWARDS TRIANGLE-HEADED ARROW LEFTWARDS OF UPWARDS2;0LEFTWARDS TRIANGLE-HEADED PAIRED ARROWS0
0UPWARDS3;0RIGHTWARDS3;0DOWNWARDS3;0LEFTWARDS BLACK CIRCLED WHITE ARROW0;0UPWARDS4;0RIGHTWARDS4
0DOWNWARDS4;0ANTICLOCKWISE TRIANGLE-HEADED RIGHT U-SHAPED1;2BOTTOM2;2LEFT2;2TOP2;0RETURN LEFT0
1RIGHT0;0NEWLINE LEFT0;1RIGHT0;0FOUR CORNER ARROWS CIRCLING ANTICLOCKWISE0
0RIGHTWARDS BLACK ARROW0;2b97:0SYMBOL FOR TYPE A ELECTRONICS0
0THREE-D TOP-LIGHTED LEFTWARDS EQUILATERAL ARROWHEAD0;1RIGHT-LIGHTED UPWARDS2
1TOP-LIGHTED RIGHTWARDS2;1LEFT-LIGHTED DOWNWARDS2;0BLACK LEFTWARDS2;1UPWARDS2;1RIGHTWARDS2
1DOWNWARDS2;0DOWNWARDS TRIANGLE-HEADED ARROW WITH LONG TIP LEFTWARDS0;6RIGHTWARDS0
0UPWARDS TRIANGLE-HEADED ARROW WITH LONG TIP LEFTWARDS0;6RIGHTWARDS0
0LEFTWARDS TRIANGLE-HEADED ARROW WITH LONG TIP UPWARDS0;0RIGHTWARDS6
0LEFTWARDS TRIANGLE-HEADED ARROW WITH LONG TIP DOWNWARDS0;0RIGHTWARDS6
0BLACK CURVED DOWNWARDS AND LEFTWARDS ARROW0;4RIGHTWARDS1;2UPWARDS AND LEFTWARDS1;4RIGHTWARDS1
2LEFTWARDS AND UPWARDS1;2RIGHTWARDS3;2LEFTWARDS AND DOWNWARDS1;2RIGHTWARDS3
0RIBBON ARROW DOWN LEFT0;3RIGHT0;2UP LEFT0;3RIGHT0;2LEFT UP0;2RIGHT1;2LEFT DOWN0;2RIGHT1
0UPWARDS WHITE ARROW FROM BAR WITH HORIZONTAL BAR0;0UP ARROWHEAD IN A RECTANGLE BOX0
0OVERLAPPING WHITE SQUARES0;2AND BLACK1;12;0BALLOT BOX WITH LIGHT X0;0CIRCLED1;1BOLD1
0BLACK SQUARE CENTRED0;1DIAMOND1;0TURNED BLACK PENTAGON0;0HORIZONTAL BLACK OCTAGON0;02
1MEDIUM UP-POINTING TRIANGLE CENTRED0;2DOWN-POINTING2;2LEFT-POINTING2;2RIGHT-POINTING2
0NEPTUNE FORM TWO0;0TOP HALF BLACK CIRCLE0;0BOTTOM3;0LIGHT FOUR POINTED BLACK CUSP0;0ROTATED5
0WHITE FOUR POINTED1;0ROTATED4;0SQUARE POSITION INDICATOR0;0UNCERTAINTY SIGN0;0GROUP MARK0
0PLUTO FORM TWO0;2THREE0;2FOUR0;2FIVE0;0TRANSPLUTO0;0PROSERPINA0;0ASTRAEA0;0HYGIEA0;0PHOLUS0
0NESSUS0;0WHITE MOON SELENA0;0BLACK DIAMOND ON CROSS0;0TRUE LIGHT MOON ARTA0;0CUPIDO0;0HADES0
0ZEUS0;0KRONOS0;0APOLLON0;0ADMETOS0;0VULCANUS0;0POSEIDON0;0LEFT HALF BLACK STAR0;0RIGHT3
0STAR WITH LEFT HALF BLACK0;2RIGHT2;0LEFTWARDS TWO-HEADED ARROW WITH TRIANGLE ARROWHEADS0
0UPWARDS5;0RIGHTWARDS5;0DOWNWARDS5;0ERIS FORM ONE0;2TWO0;0SEDNA0
0RUSSIAN ASTROLOGICAL SYMBOL VIGINTILE0;3NOVILE0;3QUINTILE0;3BINOVILE0;3SENTAGON0;3TREDECILE0
0EQUALS SIGN WITH INFINITY BELOW0;0UNITED SYMBOL0;0SEPARATED1;0DOUBLED1;0PASSED1
0REVERSED RIGHT ANGLE0;0HELLSCHREIBER PAUSE SYMBOL0;0GLAGOLITIC CAPITAL LETTER AZU0;3BUKY0;3VEDE0
3GLAGOLI0;3DOBRO0;3YESTU0;3ZHIVETE0;3DZELO0;3ZEMLJA0;3IZHE0;3INITIAL1;3I0;3DJERVI0;3KAKO0
3LJUDIJE0;3MYSLITE0;3NASHI0;3ONU0;3POKOJI0;3RITSI0;3SLOVO0;3TVRIDO0;3UKU0;3FRITU0;3HERU0;3OTU0
3PE0;3SHTA0;3TSI0;3CHRIVI0;3SHA0;3YERU0;3YERI0;3YATI0;3SPIDERY HA0;3YU0;3SMALL YUS0;5WITH TAIL0
3YO0;3IOTATED SMALL YUS0;3BIG1;3IOTATED2;3FITA0;3IZHITSA0;3SHTAPIC0;3TROKUTASTI A0
3LATINATE MYSLITE0;3CAUDATE CHRIVI0;1SMALL LETTER AZU0;3BUKY0;3VEDE0;3GLAGOLI0;3DOBRO0;3YESTU0
3ZHIVETE0;3DZELO0;3ZEMLJA0;3IZHE0;3INITIAL1;3I0;3DJERVI0;3KAKO0;3LJUDIJE0;3MYSLITE0;3NASHI0;3ONU0
3POKOJI0;3RITSI0;3SLOVO0;3TVRIDO0;3UKU0;3FRITU0;3HERU0;3OTU0;3PE0;3SHTA0;3TSI0;3CHRIVI0;3SHA0
3YERU0;3YERI0;3YATI0;3SPIDERY HA0;3YU0;3SMALL YUS0;5WITH TAIL0;3YO0;3IOTATED SMALL YUS0;3BIG1
3IOTATED2;3FITA0;3IZHITSA0;3SHTAPIC0;3TROKUTASTI A0;3LATINATE MYSLITE0;3CAUDATE CHRIVI0
0LATIN CAPITAL LETTER L WITH DOUBLE BAR0;1SMALL5;1CAPITAL LETTER L WITH MIDDLE TILDE0
3P WITH STROKE0;3R WITH TAIL0;1SMALL LETTER A WITH STROKE0;3T WITH DIAGONAL1
1CAPITAL LETTER H WITH DESCENDER0;1SMALL4;1CAPITAL LETTER K2;1SMALL4;1CAPITAL LETTER Z2;1SMALL4
1CAPITAL LETTER ALPHA0;3M WITH HOOK0;3TURNED A0;4ALPHA0;1SMALL LETTER V WITH RIGHT HOOK0
1CAPITAL LETTER W WITH1;1SMALL4;3V WITH CURL0;1CAPITAL LETTER HALF H0;1SMALL3;3TAILLESS PHI0
3E WITH NOTCH0;3TURNED R WITH TAIL0;3O WITH LOW RING INSIDE0;1LETTER SMALL CAPITAL TURNED E0
1SUBSCRIPT SMALL LETTER J0;0MODIFIER LETTER CAPITAL V0;0LATIN CAPITAL LETTER S WITH SWASH TAIL0
3Z3;0COPTIC CAPITAL LETTER ALFA0;1SMALL2;1CAPITAL LETTER VIDA0;1SMALL2;1CAPITAL LETTER GAMMA0
1SMALL2;1CAPITAL LETTER DALDA0;1SMALL2;1CAPITAL LETTER EIE0;1SMALL2;1CAPITAL LETTER SOU0;1SMALL2
1CAPITAL LETTER ZATA0;1SMALL2;1CAPITAL LETTER HATE0;1SMALL2;1CAPITAL LETTER THETHE0;1SMALL2
1CAPITAL LETTER IAUDA0;1SMALL2;1CAPITAL LETTER KAPA0;1SMALL2;1CAPITAL LETTER LAULA0;1SMALL2
1CAPITAL LETTER MI0;1SMALL2;1CAPITAL LETTER NI0;1SMALL2;1CAPITAL LETTER KSI0;1SMALL2
1CAPITAL LETTER O0;1SMALL2;1CAPITAL LETTER PI0;1SMALL2;1CAPITAL LETTER RO0;1SMALL2
1CAPITAL LETTER SIMA0;1SMALL2;1CAPITAL LETTER TAU0;1SMALL2;1CAPITAL LETTER UA0;1SMALL2
1CAPITAL LETTER FI0;1SMALL2;1CAPITAL LETTER KHI0;1SMALL2;1CAPITAL LETTER PSI0;1SMALL2
1CAPITAL LETTER OOU0;1SMALL2;1CAPITAL LETTER DIALECT-P ALEF0;1SMALL3
1CAPITAL LETTER OLD COPTIC AIN0;1SMALL4;1CAPITAL LETTER CRYPTOGRAMMIC EIE0;1SMALL3
1CAPITAL LETTER DIALECT-P KAPA0;1SMALL3;1CAPITAL LETTER DIALECT-P NI0;1SMALL3
1CAPITAL LETTER CRYPTOGRAMMIC1;1SMALL3;1CAPITAL LETTER OLD COPTIC OOU0;1SMALL4
1CAPITAL LETTER SAMPI0;1SMALL2;1CAPITAL LETTER CROSSED SHEI0;1SMALL3;1CAPITAL LETTER OLD COPTIC1
1SMALL4;1CAPITAL LETTER OLD COPTIC ESH0;1SMALL4;1CAPITAL LETTER AKHMIMIC KHEI0;1SMALL3
1CAPITAL LETTER DIALECT-P HORI0;1SMALL3;1CAPITAL LETTER OLD COPTIC1;1SMALL4
1CAPITAL LETTER OLD COPTIC HA0;1SMALL4;1CAPITAL LETTER L-SHAPED1;1SMALL3
1CAPITAL LETTER OLD COPTIC HEI0;1SMALL4;1CAPITAL LETTER OLD COPTIC HAT0;1SMALL4
1CAPITAL LETTER OLD COPTIC GANGIA0;1SMALL4;1CAPITAL LETTER OLD COPTIC DJA0;1SMALL4
1CAPITAL LETTER OLD COPTIC SHIMA0;1SMALL4;1CAPITAL LETTER OLD NUBIAN1;1SMALL4
1CAPITAL LETTER OLD NUBIAN NGI0;1SMALL4;1CAPITAL LETTER OLD NUBIAN NYI0;1SMALL4
1CAPITAL LETTER OLD NUBIAN WAU0;1SMALL4;1SYMBOL KAI0;2MI RO0;2PI1;2STAUROS0;2TAU RO0;2KHI1
2SHIMA SIMA0;1CAPITAL LETTER CRYPTOGRAMMIC SHEI0;1SMALL3;1CAPITAL LETTER CRYPTOGRAMMIC GANGIA0
1SMALL3;1COMBINING NI ABOVE0;2SPIRITUS ASPER0;3LENIS0;1CAPITAL LETTER BOHAIRIC KHEI0;1SMALL3
2cf9:0COPTIC OLD NUBIAN FULL STOP0;3DIRECT QUESTION MARK0;3INDIRECT2;3VERSE DIVIDER0
1FRACTION ONE HALF0;1FULL STOP0;1MORPHOLOGICAL DIVIDER0;0GEORGIAN SMALL LETTER AN0;3BAN0;3GAN0
3DON0;3EN0;3VIN0;3ZEN0;3TAN0;3IN0;3KAN0;3LAS0;3MAN0;3NAR0;3ON0;3PAR0;3ZHAR0;3RAE0;3SAN0;3TAR0;3UN0
3PHAR0;3KHAR0;3GHAN0;3QAR0;3SHIN0;3CHIN0;3CAN0;3JIL0;3CIL0;3CHAR0;3XAN0;3JHAN0;3HAE0;3HE0;3HIE0
3WE0;3HAR0;3HOE0;2d27:0GEORGIAN SMALL LETTER YN0;2d2d:0GEORGIAN SMALL LETTER AEN0
2d30:0TIFINAGH LETTER YA0;2YAB0;2YABH0;2YAG0;2YAGHH0;2BERBER ACADEMY YAJ0;21;2YAD0;2YADH0;2YADD0
2YADDH0;2YEY0;2YAF0;2YAK0;2TUAREG1;2YAKHH0;2YAH0;2BERBER ACADEMY1;2TUAREG1;2YAHH0;2YAA0;2YAKH0
2TUAREG1;2YAQ0;2TUAREG1;2YI0;2YAZH0;2AHAGGAR1;2TUAREG1;2YAL0;2YAM0;2YAN0;2TUAREG YAGN0;3YANG0
2YAP0;2YU0;2YAR0;2YARR0;2YAGH0;2TUAREG1;2AYER1;2YAS0;2YASS0;2YASH0;2YAT0;2YATH0;2YACH0;2YATT0
2YAV0;2YAW0;2YAY0;2YAZ0;2TAWELLEMET1;2YAZZ0;2YE0;2YO0
2d6f:0TIFINAGH MODIFIER LETTER LABIALIZATION MARK0;1SEPARATOR1;2d7f:0TIFINAGH CONSONANT JOINER0
0ETHIOPIC SYLLABLE LOA0;2MOA0;2ROA0;2SOA0;2SHOA0;2BOA0;2TOA0;2COA0;2NOA0;2NYOA0;2GLOTTAL OA0;2ZOA0
2DOA0;2DDOA0;2JOA0;2THOA0;2CHOA0;2PHOA0;2POA0;2GGWA0;2GGWI0;2GGWEE0;2GGWE0
2da0:0ETHIOPIC SYLLABLE SSA0;2SSU0;2SSI0;2SSAA0;2SSEE0;2SSE0;2SSO0;2da8:0ETHIOPIC SYLLABLE CCA0
2CCU0;2CCI0;2CCAA0;2CCEE0;2CCE0;2CCO0;2db0:0ETHIOPIC SYLLABLE ZZA0;2ZZU0;2ZZI0;2ZZAA0;2ZZEE0;2ZZE0
2ZZO0;2db8:0ETHIOPIC SYLLABLE CCHA0;2CCHU0;2CCHI0;2CCHAA0;2CCHEE0;2CCHE0;2CCHO0
2dc0:0ETHIOPIC SYLLABLE QYA0;2QYU0;2QYI0;2QYAA0;2QYEE0;2QYE0;2QYO0;2dc8:0ETHIOPIC SYLLABLE KYA0
2KYU0;2KYI0;2KYAA0;2KYEE0;2KYE0;2KYO0;2dd0:0ETHIOPIC SYLLABLE XYA0;2XYU0;2XYI0;2XYAA0;2XYEE0;2XYE0
2XYO0;2dd8:0ETHIOPIC SYLLABLE GYA0;2GYU0;2GYI0;2GYAA0;2GYEE0;2GYE0;2GYO0
2de0:0COMBINING CYRILLIC LETTER BE0;3VE0;3GHE0;3DE0;3ZHE0;3ZE0;3KA0;3EL0;3EM0;3EN0;3O0;3PE0;3ER0
3ES0;3TE0;3HA0;3TSE0;3CHE0;3SHA0;3SHCHA0;3FITA0;3ES-TE0;3A0;3IE0;3DJERV0;3MONOGRAPH UK0;3YAT0;3YU0
3IOTIFIED A0;3LITTLE YUS0;3BIG1;3IOTIFIED2;0RIGHT ANGLE SUBSTITUTION MARKER0;2DOTTED2
0LEFT SUBSTITUTION BRACKET0;0RIGHT2;0LEFT DOTTED2;0RIGHT3;0RAISED INTERPOLATION MARKER0;1DOTTED2
0DOTTED TRANSPOSITION1;0LEFT TRANSPOSITION BRACKET0;0RIGHT2;0RAISED SQUARE0
0LEFT RAISED OMISSION BRACKET0;0RIGHT3;0EDITORIAL CORONIS0;0PARAGRAPHOS0;0FORKED1;0REVERSED2
0HYPODIASTOLE0;0DOTTED OBELOS0;0DOWNWARDS ANCORA0;0UPWARDS1;0DOTTED RIGHT-POINTING ANGLE0
0DOUBLE OBLIQUE HYPHEN0;0INVERTED INTERROBANG0;0PALM BRANCH0;0HYPHEN WITH DIAERESIS0
0TILDE WITH RING ABOVE0;0LEFT LOW PARAPHRASE BRACKET0;0RIGHT3;0TILDE WITH DOT ABOVE0;3BELOW0
0LEFT VERTICAL BAR WITH QUILL0;0RIGHT4;0TOP LEFT HALF BRACKET0;1RIGHT2;0BOTTOM LEFT2;1RIGHT2
0LEFT SIDEWAYS U1;0RIGHT3;0LEFT DOUBLE PARENTHESIS0;0RIGHT2;0TWO DOTS OVER ONE DOT PUNCTUATION0
0ONE DOT OVER TWO DOTS1;0SQUARED FOUR DOT1;0FIVE DOT MARK0;0REVERSED QUESTION1;0VERTICAL TILDE0
0RING POINT0;0WORD SEPARATOR MIDDLE DOT0;0TURNED COMMA0;0RAISED DOT0;1COMMA0;0TURNED SEMICOLON0
0DAGGER WITH LEFT GUARD0;2RIGHT1;0TURNED DAGGER0;0TOP HALF SECTION SIGN0;0TWO-EM DASH0;0THREE-EM1
0STENOGRAPHIC FULL STOP0;0VERTICAL SIX DOTS0;0WIGGLY VERTICAL LINE0;0CAPITULUM0;0DOUBLE HYPHEN0
0REVERSED COMMA0;0DOUBLE LOW-REVERSED-9 QUOTATION MARK0;0DASH WITH LEFT UPTURN0
0DOUBLE SUSPENSION MARK0;0INVERTED LOW KAVYKA0;3WITH KAVYKA ABOVE0;0LOW KAVYKA0;2WITH DOT0
0DOUBLE STACKED COMMA0;0DOTTED SOLIDUS0;0TRIPLE DAGGER0;0MEDIEVAL COMMA0;0PARAGRAPHUS MARK0
0PUNCTUS ELEVATUS1;0CORNISH VERSE DIVIDER0;0CROSS PATTY WITH RIGHT CROSSBAR0;3LEFT1
0TIRONIAN SIGN CAPITAL ET0;0MEDIEVAL EXCLAMATION MARK0;1QUESTION1
0LEFT SQUARE BRACKET WITH STROKE0;0RIGHT4;0LEFT SQUARE BRACKET WITH DOUBLE1;0RIGHT5
0TOP HALF LEFT PARENTHESIS0;2RIGHT1;0BOTTOM HALF LEFT1;2RIGHT1;0OBLIQUE HYPHEN0
2e80:0CJK RADICAL REPEAT0;2CLIFF0;2SECOND ONE0;3TWO0;3THREE0;2PERSON0;2BOX0;2TABLE0;2KNIFE ONE0
3TWO0;2DIVINATION0;2SEAL0;2SMALL ONE0;3TWO0;2LAME ONE0;3TWO0;3THREE0;3FOUR0;2SNAKE0;2THREAD0
2SNOUT ONE0;3TWO0;2HEART ONE0;3TWO0;2HAND0;2RAP0;2e9b:0CJK RADICAL CHOKE0;2SUN0;2MOON0;2DEATH0
2MOTHER0;2CIVILIAN0;2WATER ONE0;3TWO0;2FIRE0;2PAW ONE0;3TWO0;2SIMPLIFIED HALF TREE TRUNK0;2COW0
2DOG0;2JADE0;2BOLT OF CLOTH0;2EYE0;2SPIRIT ONE0;3TWO0;2BAMBOO0;2SILK0;2C-SIMPLIFIED1;2NET ONE0
3TWO0;3THREE0;3FOUR0;2MESH0;2SHEEP0;2RAM0;2EWE0;2OLD0;2BRUSH ONE0;3TWO0;2MEAT0;2MORTAR0
2GRASS ONE0;3TWO0;3THREE0;2TIGER0;2CLOTHES0;2WEST ONE0;3TWO0;2C-SIMPLIFIED SEE0;2SIMPLIFIED HORN0
21;2C-SIMPLIFIED SPEECH0;3SHELL0;2FOOT0;2C-SIMPLIFIED CART0;2SIMPLIFIED WALK0;2WALK ONE0;3TWO0
2CITY0;2C-SIMPLIFIED GOLD0;2LONG ONE0;3TWO0;2C-SIMPLIFIED LONG0;3GATE0;2MOUND ONE0;3TWO0;2RAIN0
2BLUE0;2C-SIMPLIFIED TANNED LEATHER0;3LEAF0;3WIND0;3FLY0;2EAT ONE0;3TWO0;3THREE0
2C-SIMPLIFIED EAT0;2HEAD0;2C-SIMPLIFIED HORSE0;2BONE0;2GHOST0;2C-SIMPLIFIED FISH0;3BIRD0;3SALT0
2SIMPLIFIED WHEAT0;3YELLOW0;2C-SIMPLIFIED FROG0;2J-SIMPLIFIED EVEN0;2C-SIMPLIFIED1
2J-SIMPLIFIED TOOTH0;2C-SIMPLIFIED1;2J-SIMPLIFIED DRAGON0;2C-SIMPLIFIED1;2TURTLE0;2J-SIMPLIFIED1
2C-SIMPLIFIED1;2f00:0KANGXI RADICAL ONE0;2LINE0;2DOT0;2SLASH0;2SECOND0;2HOOK0;2TWO0;2LID0;2MAN0
2LEGS0;2ENTER0;2EIGHT0;2DOWN BOX0;2COVER0;2ICE0;2TABLE0;2OPEN BOX0;2KNIFE0;2POWER0;2WRAP0;2SPOON0
2RIGHT OPEN BOX0;2HIDING ENCLOSURE0;2TEN0;2DIVINATION0;2SEAL0;2CLIFF0;2PRIVATE0;2AGAIN0;2MOUTH0
2ENCLOSURE0;2EARTH0;2SCHOLAR0;2GO0;3SLOWLY0;2EVENING0;2BIG0;2WOMAN0;2CHILD0;2ROOF0;2INCH0;2SMALL0
2LAME0;2CORPSE0;2SPROUT0;2MOUNTAIN0;2RIVER0;2WORK0;2ONESELF0;2TURBAN0;2DRY0;2SHORT THREAD0
2DOTTED CLIFF0;2LONG STRIDE0;2TWO HANDS0;2SHOOT0;2BOW0;2SNOUT0;2BRISTLE0;2STEP0;2HEART0;2HALBERD0
2DOOR0;2HAND0;2BRANCH0;2RAP0;2SCRIPT0;2DIPPER0;2AXE0;2SQUARE0;2NOT0;2SUN0;2SAY0;2MOON0;2TREE0
2LACK0;2STOP0;2DEATH0;2WEAPON0;2DO NOT0;2COMPARE0;2FUR0;2CLAN0;2STEAM0;2WATER0;2FIRE0;2CLAW0
2FATHER0;2DOUBLE X0;2HALF TREE TRUNK0;2SLICE0;2FANG0;2COW0;2DOG0;2PROFOUND0;2JADE0;2MELON0;2TILE0
2SWEET0;2LIFE0;2USE0;2FIELD0;2BOLT OF CLOTH0;2SICKNESS0;2DOTTED TENT0;2WHITE0;2SKIN0;2DISH0;2EYE0
2SPEAR0;2ARROW0;2STONE0;2SPIRIT0;2TRACK0;2GRAIN0;2CAVE0;2STAND0;2BAMBOO0;2RICE0;2SILK0;2JAR0;2NET0
2SHEEP0;2FEATHER0;2OLD0;2AND0;2PLOW0;2EAR0;2BRUSH0;2MEAT0;2MINISTER0;2SELF0;2ARRIVE0;2MORTAR0
2TONGUE0;2OPPOSE0;2BOAT0;2STOPPING0;2COLOR0;2GRASS0;2TIGER0;2INSECT0;2BLOOD0;2WALK ENCLOSURE0
2CLOTHES0;2WEST0;2SEE0;2HORN0;2SPEECH0;2VALLEY0;2BEAN0;2PIG0;2BADGER0;2SHELL0;2RED0;2RUN0;2FOOT0
2BODY0;2CART0;2BITTER0;2MORNING0;2WALK0;2CITY0;2WINE0;2DISTINGUISH0;2VILLAGE0;2GOLD0;2LONG0;2GATE0
2MOUND0;2SLAVE0;2SHORT TAILED BIRD0;2RAIN0;2BLUE0;2WRONG0;2FACE0;2LEATHER0;2TANNED1;2LEEK0;2SOUND0
2LEAF0;2WIND0;2FLY0;2EAT0;2HEAD0;2FRAGRANT0;2HORSE0;2BONE0;2TALL0;2HAIR0;2FIGHT0
2SACRIFICIAL WINE0;2CAULDRON0;2GHOST0;2FISH0;2BIRD0;2SALT0;2DEER0;2WHEAT0;2HEMP0;2YELLOW0;2MILLET0
2BLACK0;2EMBROIDERY0;2FROG0;2TRIPOD0;2DRUM0;2RAT0;2NOSE0;2EVEN0;2TOOTH0;2DRAGON0;2TURTLE0;2FLUTE0
2ff0:0IDEOGRAPHIC DESCRIPTION CHARACTER LEFT TO RIGHT0;3ABOVE TO BELOW0;3LEFT TO MIDDLE AND RIGHT0
3ABOVE TO MIDDLE AND BELOW0;3FULL SURROUND0;3SURROUND FROM ABOVE0;5BELOW0;5LEFT0;5UPPER1;6RIGHT0
5LOWER LEFT0;3OVERLAID0"

/-- Kana, bopomofo, jamo, and the signs that go with ideographs. -/
def eastAsianNames : String := "
3000:0IDEOGRAPHIC SPACE0;1COMMA0;1FULL STOP0;0DITTO MARK0;0JAPANESE INDUSTRIAL STANDARD SYMBOL0
0IDEOGRAPHIC ITERATION MARK0;1CLOSING1;1NUMBER ZERO0;0LEFT ANGLE BRACKET0;0RIGHT2;0LEFT DOUBLE2
0RIGHT3;0LEFT CORNER1;0RIGHT2;0LEFT WHITE2;0RIGHT3;0LEFT BLACK LENTICULAR1;0RIGHT3;0POSTAL MARK0
0GETA1;0LEFT TORTOISE SHELL BRACKET0;0RIGHT3;0LEFT WHITE LENTICULAR1;0RIGHT3
0LEFT WHITE TORTOISE SHELL1;0RIGHT4;0LEFT WHITE SQUARE1;0RIGHT3;0WAVE DASH0
0REVERSED DOUBLE PRIME QUOTATION MARK0;04;0LOW4;0POSTAL MARK FACE0;0HANGZHOU NUMERAL ONE0;2TWO0
2THREE0;2FOUR0;2FIVE0;2SIX0;2SEVEN0;2EIGHT0;2NINE0;0IDEOGRAPHIC LEVEL TONE MARK0;1RISING2
1DEPARTING2;1ENTERING2;0HANGUL SINGLE DOT2;1DOUBLE3;0WAVY DASH0;0VERTICAL KANA REPEAT MARK0
3WITH VOICED SOUND1;3MARK UPPER HALF0;3WITH VOICED SOUND3;3MARK LOWER1;0CIRCLED POSTAL MARK0
0IDEOGRAPHIC TELEGRAPH LINE FEED SEPARATOR SYMBOL0;0HANGZHOU NUMERAL TEN0;2TWENTY0;2THIRTY0
0VERTICAL IDEOGRAPHIC ITERATION MARK0;0MASU1;0PART ALTERNATION1;0IDEOGRAPHIC VARIATION INDICATOR0
1HALF FILL SPACE0;3041:0HIRAGANA LETTER SMALL A0;21;2SMALL I0;21;2SMALL U0;21;2SMALL E0;21
2SMALL O0;21;2KA0;2GA0;2KI0;2GI0;2KU0;2GU0;2KE0;2GE0;2KO0;2GO0;2SA0;2ZA0;2SI0;2ZI0;2SU0;2ZU0;2SE0
2ZE0;2SO0;2ZO0;2TA0;2DA0;2TI0;2DI0;2SMALL TU0;21;2DU0;2TE0;2DE0;2TO0;2DO0;2NA0;2NI0;2NU0;2NE0;2NO0
2HA0;2BA0;2PA0;2HI0;2BI0;2PI0;2HU0;2BU0;2PU0;2HE0;2BE0;2PE0;2HO0;2BO0;2PO0;2MA0;2MI0;2MU0;2ME0
2MO0;2SMALL YA0;21;2SMALL YU0;21;2SMALL YO0;21;2RA0;2RI0;2RU0;2RE0;2RO0;2SMALL WA0;21;2WI0;2WE0
2WO0;2N0;2VU0;2SMALL KA0;3KE0;3099:0COMBINING KATAKANA-HIRAGANA VOICED SOUND MARK0;2SEMI-VOICED2
0KATAKANA-HIRAGANA VOICED2;1SEMI-VOICED2;0HIRAGANA ITERATION1;1VOICED2;1DIGRAPH YORI0
0KATAKANA-HIRAGANA DOUBLE HYPHEN0;0KATAKANA LETTER SMALL A0;21;2SMALL I0;21;2SMALL U0;21;2SMALL E0
21;2SMALL O0;21;2KA0;2GA0;2KI0;2GI0;2KU0;2GU0;2KE0;2GE0;2KO0;2GO0;2SA0;2ZA0;2SI0;2ZI0;2SU0;2ZU0
2SE0;2ZE0;2SO0;2ZO0;2TA0;2DA0;2TI0;2DI0;2SMALL TU0;21;2DU0;2TE0;2DE0;2TO0;2DO0;2NA0;2NI0;2NU0;2NE0
2NO0;2HA0;2BA0;2PA0;2HI0;2BI0;2PI0;2HU0;2BU0;2PU0;2HE0;2BE0;2PE0;2HO0;2BO0;2PO0;2MA0;2MI0;2MU0
2ME0;2MO0;2SMALL YA0;21;2SMALL YU0;21;2SMALL YO0;21;2RA0;2RI0;2RU0;2RE0;2RO0;2SMALL WA0;21;2WI0
2WE0;2WO0;2N0;2VU0;2SMALL KA0;3KE0;2VA0;2VI0;2VE0;2VO0;1MIDDLE DOT0
0KATAKANA-HIRAGANA PROLONGED SOUND MARK0;0KATAKANA ITERATION1;1VOICED2;1DIGRAPH KOTO0
3105:0BOPOMOFO LETTER B0;2P0;2M0;2F0;2D0;2T0;2N0;2L0;2G0;2K0;2H0;2J0;2Q0;2X0;2ZH0;2CH0;2SH0;2R0
2Z0;2C0;2S0;2A0;2O0;2E0;2EH0;2AI0;2EI0;2AU0;2OU0;2AN0;2EN0;2ANG0;2ENG0;2ER0;2I0;2U0;2IU0;2V0;2NG0
2GN0;2IH0;2O WITH DOT ABOVE0;2NN0;3131:0HANGUL LETTER KIYEOK0;2SSANGKIYEOK0;2KIYEOK-SIOS0;2NIEUN0
2NIEUN-CIEUC0;2NIEUN-HIEUH0;2TIKEUT0;2SSANGTIKEUT0;2RIEUL0;2RIEUL-KIYEOK0;2RIEUL-MIEUM0
2RIEUL-PIEUP0;2RIEUL-SIOS0;2RIEUL-THIEUTH0;2RIEUL-PHIEUPH0;2RIEUL-HIEUH0;2MIEUM0;2PIEUP0
2SSANGPIEUP0;2PIEUP-SIOS0;2SIOS0;2SSANGSIOS0;2IEUNG0;2CIEUC0;2SSANGCIEUC0;2CHIEUCH0;2KHIEUKH0
2THIEUTH0;2PHIEUPH0;2HIEUH0;2A0;2AE0;2YA0;2YAE0;2EO0;2E0;2YEO0;2YE0;2O0;2WA0;2WAE0;2OE0;2YO0;2U0
2WEO0;2WE0;2WI0;2YU0;2EU0;2YI0;2I0;1FILLER0;1LETTER SSANGNIEUN0;2NIEUN-TIKEUT0;2NIEUN-SIOS0
2NIEUN-PANSIOS0;2RIEUL-KIYEOK-SIOS0;2RIEUL-TIKEUT0;2RIEUL-PIEUP-SIOS0;2RIEUL-PANSIOS0
2RIEUL-YEORINHIEUH0;2MIEUM-PIEUP0;2MIEUM-SIOS0;2MIEUM-PANSIOS0;2KAPYEOUNMIEUM0;2PIEUP-KIYEOK0
2PIEUP-TIKEUT0;2PIEUP-SIOS-KIYEOK0;2PIEUP-SIOS-TIKEUT0;2PIEUP-CIEUC0;2PIEUP-THIEUTH0
2KAPYEOUNPIEUP0;2KAPYEOUNSSANGPIEUP0;2SIOS-KIYEOK0;2SIOS-NIEUN0;2SIOS-TIKEUT0;2SIOS-PIEUP0
2SIOS-CIEUC0;2PANSIOS0;2SSANGIEUNG0;2YESIEUNG0;2YESIEUNG-SIOS0;2YESIEUNG-PANSIOS0
2KAPYEOUNPHIEUPH0;2SSANGHIEUH0;2YEORINHIEUH0;2YO-YA0;2YO-YAE0;2YO-I0;2YU-YEO0;2YU-YE0;2YU-I0
2ARAEA0;2ARAEAE0;3190:0IDEOGRAPHIC ANNOTATION LINKING MARK0;2REVERSE1;2ONE1;2TWO1;2THREE1;2FOUR1
2TOP1;2MIDDLE1;2BOTTOM1;2FIRST1;2SECOND1;2THIRD1;2FOURTH1;2HEAVEN1;2EARTH1;2MAN1
0BOPOMOFO LETTER BU0;2ZI0;2JI0;2GU0;2EE0;2ENN0;2OO0;2ONN0;2IR0;2ANN0;2INN0;2UNN0;2IM0;2NGG0;2AINN0
2AUNN0;2AM0;2OM0;2ONG0;2INNN0;1FINAL LETTER P0;3T0;3K0;3H0;1LETTER GH0;2LH0;2ZY0;1FINAL LETTER G0
1LETTER GW0;2KW0;2OE0;2AH0;0CJK STROKE T0;2WG0;2XG0;2BXG0;2SW0;2HZZ0;2HZG0;2HP0;2HZWG0;2SZWG0
2HZT0;2HZZP0;2HPWG0;2HZW0;2HZZZ0;2N0;2H0;2S0;2P0;2SP0;2D0;2HZ0;2HG0;2SZ0;2SWZ0;2ST0;2SG0;2PD0;2PZ0
2TN0;2SZZ0;2SWG0;2HXWG0;2HZZZG0;2PG0;2Q0;31f0:0KATAKANA LETTER SMALL KU0;3SI0;3SU0;3TO0;3NU0;3HA0
3HI0;3HU0;3HE0;3HO0;3MU0;3RA0;3RI0;3RU0;3RE0;3RO0;0PARENTHESIZED HANGUL KIYEOK0;2NIEUN0;2TIKEUT0
2RIEUL0;2MIEUM0;2PIEUP0;2SIOS0;2IEUNG0;2CIEUC0;2CHIEUCH0;2KHIEUKH0;2THIEUTH0;2PHIEUPH0;2HIEUH0
2KIYEOK A0;2NIEUN1;2TIKEUT1;2RIEUL1;2MIEUM1;2PIEUP1;2SIOS1;2IEUNG1;2CIEUC1;2CHIEUCH1;2KHIEUKH1
2THIEUTH1;2PHIEUPH1;2HIEUH1;2CIEUC U0;1KOREAN CHARACTER OJEON0;3O HU0
3220:0PARENTHESIZED IDEOGRAPH ONE0;2TWO0;2THREE0;2FOUR0;2FIVE0;2SIX0;2SEVEN0;2EIGHT0;2NINE0;2TEN0
2MOON0;2FIRE0;2WATER0;2WOOD0;2METAL0;2EARTH0;2SUN0;2STOCK0;2HAVE0;2SOCIETY0;2NAME0;2SPECIAL0
2FINANCIAL0;2CONGRATULATION0;2LABOR0;2REPRESENT0;2CALL0;2STUDY0;2SUPERVISE0;2ENTERPRISE0
2RESOURCE0;2ALLIANCE0;2FESTIVAL0;2REST0;2SELF0;2REACH0;0CIRCLED IDEOGRAPH QUESTION0;2KINDERGARTEN0
2SCHOOL0;2KOTO0;1NUMBER TEN ON BLACK SQUARE0;2TWENTY3;2THIRTY3;2FORTY3;2FIFTY3;2SIXTY3;2SEVENTY3
2EIGHTY3;0PARTNERSHIP SIGN0;0CIRCLED NUMBER TWENTY ONE0;3TWO0;3THREE0;3FOUR0;3FIVE0;3SIX0;3SEVEN0
3EIGHT0;3NINE0;2THIRTY0;3ONE0;3TWO0;3THREE0;3FOUR0;3FIVE0;1HANGUL KIYEOK0;2NIEUN0;2TIKEUT0;2RIEUL0
2MIEUM0;2PIEUP0;2SIOS0;2IEUNG0;2CIEUC0;2CHIEUCH0;2KHIEUKH0;2THIEUTH0;2PHIEUPH0;2HIEUH0;2KIYEOK A0
2NIEUN1;2TIKEUT1;2RIEUL1;2MIEUM1;2PIEUP1;2SIOS1;2IEUNG1;2CIEUC1;2CHIEUCH1;2KHIEUKH1;2THIEUTH1
2PHIEUPH1;2HIEUH1;1KOREAN CHARACTER CHAMKO0;3JUEUI0;1HANGUL IEUNG U0;0KOREAN STANDARD SYMBOL0
0CIRCLED IDEOGRAPH ONE0;2TWO0;2THREE0;2FOUR0;2FIVE0;2SIX0;2SEVEN0;2EIGHT0;2NINE0;2TEN0;2MOON0
2FIRE0;2WATER0;2WOOD0;2METAL0;2EARTH0;2SUN0;2STOCK0;2HAVE0;2SOCIETY0;2NAME0;2SPECIAL0;2FINANCIAL0
2CONGRATULATION0;2LABOR0;2SECRET0;2MALE0;2FEMALE0;2SUITABLE0;2EXCELLENT0;2PRINT0;2ATTENTION0
2ITEM0;2REST0;2COPY0;2CORRECT0;2HIGH0;2CENTRE0;2LOW0;2LEFT0;2RIGHT0;2MEDICINE0;2RELIGION0;2STUDY0
2SUPERVISE0;2ENTERPRISE0;2RESOURCE0;2ALLIANCE0;2NIGHT0;1NUMBER THIRTY SIX0;3SEVEN0;3EIGHT0;3NINE0
2FORTY0;3ONE0;3TWO0;3THREE0;3FOUR0;3FIVE0;3SIX0;3SEVEN0;3EIGHT0;3NINE0;2FIFTY0
0IDEOGRAPHIC TELEGRAPH SYMBOL FOR JANUARY0;4FEBRUARY0;4MARCH0;4APRIL0;4MAY0;4JUNE0;4JULY0;4AUGUST0
4SEPTEMBER0;4OCTOBER0;4NOVEMBER0;4DECEMBER0;0SQUARE HG0;1ERG0;1EV0;0LIMITED LIABILITY SIGN0
0CIRCLED KATAKANA A0;2I0;2U0;2E0;2O0;2KA0;2KI0;2KU0;2KE0;2KO0;2SA0;2SI0;2SU0;2SE0;2SO0;2TA0;2TI0
2TU0;2TE0;2TO0;2NA0;2NI0;2NU0;2NE0;2NO0;2HA0;2HI0;2HU0;2HE0;2HO0;2MA0;2MI0;2MU0;2ME0;2MO0;2YA0
2YU0;2YO0;2RA0;2RI0;2RU0;2RE0;2RO0;2WA0;2WI0;2WE0;2WO0;0SQUARE ERA NAME REIWA0;1APAATO0;1ARUHUA0
1ANPEA0;1AARU0;1ININGU0;1INTI0;1UON0;1ESUKUUDO0;1EEKAA0;1ONSU0;1OOMU0;1KAIRI0;1KARATTO0;1KARORII0
1GARON0;1GANMA0;1GIGA0;1GINII0;1KYURII0;1GIRUDAA0;1KIRO0;1KIROGURAMU0;1KIROMEETORU0;1KIROWATTO0
1GURAMU0;1GURAMUTON0;1KURUZEIRO0;1KUROONE0;1KEESU0;1KORUNA0;1KOOPO0;1SAIKURU0;1SANTIIMU0;1SIRINGU0
1SENTI0;1SENTO0;1DAASU0;1DESI0;1DORU0;1TON0;1NANO0;1NOTTO0;1HAITU0;1PAASENTO0;1PAATU0;1BAARERU0
1PIASUTORU0;1PIKURU0;1PIKO0;1BIRU0;1HUARADDO0;1HUIITO0;1BUSSYERU0;1HURAN0;1HEKUTAARU0;1PESO0
1PENIHI0;1HERUTU0;1PENSU0;1PEEZI0;1BEETA0;1POINTO0;1BORUTO0;1HON0;1PONDO0;1HOORU0;1HOON0;1MAIKURO0
1MAIRU0;1MAHHA0;1MARUKU0;1MANSYON0;1MIKURON0;1MIRI0;1MIRIBAARU0;1MEGA0;1MEGATON0;1MEETORU0;1YAADO0
1YAARU0;1YUAN0;1RITTORU0;1RIRA0;1RUPII0;1RUUBURU0;1REMU0;1RENTOGEN0;1WATTO0
0IDEOGRAPHIC TELEGRAPH SYMBOL FOR HOUR ZERO0;5ONE0;5TWO0;5THREE0;5FOUR0;5FIVE0;5SIX0;5SEVEN0
5EIGHT0;5NINE0;5TEN0;5ELEVEN0;5TWELVE0;5THIRTEEN0;5FOURTEEN0;5FIFTEEN0;5SIXTEEN0;5SEVENTEEN0
5EIGHTEEN0;5NINETEEN0;5TWENTY0;5TWENTY-ONE0;5TWENTY-TWO0;5TWENTY-THREE0;5TWENTY-FOUR0;0SQUARE HPA0
1DA0;1AU0;1BAR0;1OV0;1PC0;1DM0;2SQUARED0;2CUBED0;1IU0;1ERA NAME HEISEI0;3SYOUWA0;3TAISYOU0;3MEIZI0
1CORPORATION0;1PA AMPS0;1NA0;1MU A0;1MA0;1KA0;1KB0;1MB0;1GB0;1CAL0;1KCAL0;1PF0;1NF0;1MU F0;2G0
1MG0;1KG0;1HZ0;1KHZ0;1MHZ0;1GHZ0;1THZ0;1MU L0;1ML0;1DL0;1KL0;1FM0;1NM0;1MU M0;1MM0;1CM0;1KM0
1MM SQUARED0;1CM1;1M1;1KM1;1MM CUBED0;1CM1;1M1;1KM1;1M OVER S0;4SQUARED0;1PA0;1KPA0;1MPA0;1GPA0
1RAD0;2OVER S0;4SQUARED0;1PS0;1NS0;1MU S0;1MS0;1PV0;1NV0;1MU V0;1MV0;1KV0;1MV MEGA0;1PW0;1NW0
1MU W0;1MW0;1KW0;1MW MEGA0;1K OHM0;1M1;1AM0;1BQ0;1CC0;1CD0;1C OVER KG0;1CO0;1DB0;1GY0;1HA0;1HP0
1IN0;1KK0;1KM CAPITAL0;1KT0;1LM0;1LN0;1LOG0;1LX0;1MB SMALL0;1MIL0;1MOL0;1PH0;1PM0;1PPM0;1PR0;1SR0
1SV0;1WB0;1V OVER M0;1A2;0IDEOGRAPHIC TELEGRAPH SYMBOL FOR DAY ONE0;5TWO0;5THREE0;5FOUR0;5FIVE0
5SIX0;5SEVEN0;5EIGHT0;5NINE0;5TEN0;5ELEVEN0;5TWELVE0;5THIRTEEN0;5FOURTEEN0;5FIFTEEN0;5SIXTEEN0
5SEVENTEEN0;5EIGHTEEN0;5NINETEEN0;5TWENTY0;5TWENTY-ONE0;5TWENTY-TWO0;5TWENTY-THREE0;5TWENTY-FOUR0
5TWENTY-FIVE0;5TWENTY-SIX0;5TWENTY-SEVEN0;5TWENTY-EIGHT0;5TWENTY-NINE0;5THIRTY0;5THIRTY-ONE0
0SQUARE GAL0;4dc0:0HEXAGRAM FOR THE CREATIVE HEAVEN0;3RECEPTIVE EARTH0
2DIFFICULTY AT THE BEGINNING0;2YOUTHFUL FOLLY0;2WAITING0;2CONFLICT0;2THE ARMY0;2HOLDING TOGETHER0
2SMALL TAMING0;2TREADING0;2PEACE0;2STANDSTILL0;2FELLOWSHIP0;2GREAT POSSESSION0;2MODESTY0
2ENTHUSIASM0;2FOLLOWING0;2WORK ON THE DECAYED0;2APPROACH0;2CONTEMPLATION0;2BITING THROUGH0;2GRACE0
2SPLITTING APART0;2RETURN0;2INNOCENCE0;2GREAT TAMING0;2MOUTH CORNERS0;2GREAT PREPONDERANCE0
2THE ABYSMAL WATER0;3CLINGING FIRE0;2INFLUENCE0;2DURATION0;2RETREAT0;2GREAT POWER0;2PROGRESS0
2DARKENING OF THE LIGHT0;2THE FAMILY0;2OPPOSITION0;2OBSTRUCTION0;2DELIVERANCE0;2DECREASE0
2INCREASE0;2BREAKTHROUGH0;2COMING TO MEET0;2GATHERING TOGETHER0;2PUSHING UPWARD0;2OPPRESSION0
2THE WELL0;2REVOLUTION0;2THE CAULDRON0;3AROUSING THUNDER0;3KEEPING STILL MOUNTAIN0;2DEVELOPMENT0
2THE MARRYING MAIDEN0;2ABUNDANCE0;2THE WANDERER0;3GENTLE WIND0;3JOYOUS LAKE0;2DISPERSION0
2LIMITATION0;2INNER TRUTH0;2SMALL PREPONDERANCE0;2AFTER COMPLETION0;2BEFORE1;a000:0YI SYLLABLE IT0
2IX0;2I0;2IP0;2IET0;2IEX0;2IE0;2IEP0;2AT0;2AX0;2A0;2AP0;2UOX0;2UO0;2UOP0;2OT0;2OX0;2O0;2OP0;2EX0
2E0;2WU0;2BIT0;2BIX0;2BI0;2BIP0;2BIET0;2BIEX0;2BIE0;2BIEP0;2BAT0;2BAX0;2BA0;2BAP0;2BUOX0;2BUO0
2BUOP0;2BOT0;2BOX0;2BO0;2BOP0;2BEX0;2BE0;2BEP0;2BUT0;2BUX0;2BU0;2BUP0;2BURX0;2BUR0;2BYT0;2BYX0
2BY0;2BYP0;2BYRX0;2BYR0;2PIT0;2PIX0;2PI0;2PIP0;2PIEX0;2PIE0;2PIEP0;2PAT0;2PAX0;2PA0;2PAP0;2PUOX0
2PUO0;2PUOP0;2POT0;2POX0;2PO0;2POP0;2PUT0;2PUX0;2PU0;2PUP0;2PURX0;2PUR0;2PYT0;2PYX0;2PY0;2PYP0
2PYRX0;2PYR0;2BBIT0;2BBIX0;2BBI0;2BBIP0;2BBIET0;2BBIEX0;2BBIE0;2BBIEP0;2BBAT0;2BBAX0;2BBA0;2BBAP0
2BBUOX0;2BBUO0;2BBUOP0;2BBOT0;2BBOX0;2BBO0;2BBOP0;2BBEX0;2BBE0;2BBEP0;2BBUT0;2BBUX0;2BBU0;2BBUP0
2BBURX0;2BBUR0;2BBYT0;2BBYX0;2BBY0;2BBYP0;2NBIT0;2NBIX0;2NBI0;2NBIP0;2NBIEX0;2NBIE0;2NBIEP0;2NBAT0
2NBAX0;2NBA0;2NBAP0;2NBOT0;2NBOX0;2NBO0;2NBOP0;2NBUT0;2NBUX0;2NBU0;2NBUP0;2NBURX0;2NBUR0;2NBYT0
2NBYX0;2NBY0;2NBYP0;2NBYRX0;2NBYR0;2HMIT0;2HMIX0;2HMI0;2HMIP0;2HMIEX0;2HMIE0;2HMIEP0;2HMAT0;2HMAX0
2HMA0;2HMAP0;2HMUOX0;2HMUO0;2HMUOP0;2HMOT0;2HMOX0;2HMO0;2HMOP0;2HMUT0;2HMUX0;2HMU0;2HMUP0;2HMURX0
2HMUR0;2HMYX0;2HMY0;2HMYP0;2HMYRX0;2HMYR0;2MIT0;2MIX0;2MI0;2MIP0;2MIEX0;2MIE0;2MIEP0;2MAT0;2MAX0
2MA0;2MAP0;2MUOT0;2MUOX0;2MUO0;2MUOP0;2MOT0;2MOX0;2MO0;2MOP0;2MEX0;2ME0;2MUT0;2MUX0;2MU0;2MUP0
2MURX0;2MUR0;2MYT0;2MYX0;2MY0;2MYP0;2FIT0;2FIX0;2FI0;2FIP0;2FAT0;2FAX0;2FA0;2FAP0;2FOX0;2FO0;2FOP0
2FUT0;2FUX0;2FU0;2FUP0;2FURX0;2FUR0;2FYT0;2FYX0;2FY0;2FYP0;2VIT0;2VIX0;2VI0;2VIP0;2VIET0;2VIEX0
2VIE0;2VIEP0;2VAT0;2VAX0;2VA0;2VAP0;2VOT0;2VOX0;2VO0;2VOP0;2VEX0;2VEP0;2VUT0;2VUX0;2VU0;2VUP0
2VURX0;2VUR0;2VYT0;2VYX0;2VY0;2VYP0;2VYRX0;2VYR0;2DIT0;2DIX0;2DI0;2DIP0;2DIEX0;2DIE0;2DIEP0;2DAT0
2DAX0;2DA0;2DAP0;2DUOX0;2DUO0;2DOT0;2DOX0;2DO0;2DOP0;2DEX0;2DE0;2DEP0;2DUT0;2DUX0;2DU0;2DUP0
2DURX0;2DUR0;2TIT0;2TIX0;2TI0;2TIP0;2TIEX0;2TIE0;2TIEP0;2TAT0;2TAX0;2TA0;2TAP0;2TUOT0;2TUOX0;2TUO0
2TUOP0;2TOT0;2TOX0;2TO0;2TOP0;2TEX0;2TE0;2TEP0;2TUT0;2TUX0;2TU0;2TUP0;2TURX0;2TUR0;2DDIT0;2DDIX0
2DDI0;2DDIP0;2DDIEX0;2DDIE0;2DDIEP0;2DDAT0;2DDAX0;2DDA0;2DDAP0;2DDUOX0;2DDUO0;2DDUOP0;2DDOT0
2DDOX0;2DDO0;2DDOP0;2DDEX0;2DDE0;2DDEP0;2DDUT0;2DDUX0;2DDU0;2DDUP0;2DDURX0;2DDUR0;2NDIT0;2NDIX0
2NDI0;2NDIP0;2NDIEX0;2NDIE0;2NDAT0;2NDAX0;2NDA0;2NDAP0;2NDOT0;2NDOX0;2NDO0;2NDOP0;2NDEX0;2NDE0
2NDEP0;2NDUT0;2NDUX0;2NDU0;2NDUP0;2NDURX0;2NDUR0;2HNIT0;2HNIX0;2HNI0;2HNIP0;2HNIET0;2HNIEX0;2HNIE0
2HNIEP0;2HNAT0;2HNAX0;2HNA0;2HNAP0;2HNUOX0;2HNUO0;2HNOT0;2HNOX0;2HNOP0;2HNEX0;2HNE0;2HNEP0;2HNUT0
2NIT0;2NIX0;2NI0;2NIP0;2NIEX0;2NIE0;2NIEP0;2NAX0;2NA0;2NAP0;2NUOX0;2NUO0;2NUOP0;2NOT0;2NOX0;2NO0
2NOP0;2NEX0;2NE0;2NEP0;2NUT0;2NUX0;2NU0;2NUP0;2NURX0;2NUR0;2HLIT0;2HLIX0;2HLI0;2HLIP0;2HLIEX0
2HLIE0;2HLIEP0;2HLAT0;2HLAX0;2HLA0;2HLAP0;2HLUOX0;2HLUO0;2HLUOP0;2HLOX0;2HLO0;2HLOP0;2HLEX0;2HLE0
2HLEP0;2HLUT0;2HLUX0;2HLU0;2HLUP0;2HLURX0;2HLUR0;2HLYT0;2HLYX0;2HLY0;2HLYP0;2HLYRX0;2HLYR0;2LIT0
2LIX0;2LI0;2LIP0;2LIET0;2LIEX0;2LIE0;2LIEP0;2LAT0;2LAX0;2LA0;2LAP0;2LUOT0;2LUOX0;2LUO0;2LUOP0
2LOT0;2LOX0;2LO0;2LOP0;2LEX0;2LE0;2LEP0;2LUT0;2LUX0;2LU0;2LUP0;2LURX0;2LUR0;2LYT0;2LYX0;2LY0;2LYP0
2LYRX0;2LYR0;2GIT0;2GIX0;2GI0;2GIP0;2GIET0;2GIEX0;2GIE0;2GIEP0;2GAT0;2GAX0;2GA0;2GAP0;2GUOT0
2GUOX0;2GUO0;2GUOP0;2GOT0;2GOX0;2GO0;2GOP0;2GET0;2GEX0;2GE0;2GEP0;2GUT0;2GUX0;2GU0;2GUP0;2GURX0
2GUR0;2KIT0;2KIX0;2KI0;2KIP0;2KIEX0;2KIE0;2KIEP0;2KAT0;2KAX0;2KA0;2KAP0;2KUOX0;2KUO0;2KUOP0;2KOT0
2KOX0;2KO0;2KOP0;2KET0;2KEX0;2KE0;2KEP0;2KUT0;2KUX0;2KU0;2KUP0;2KURX0;2KUR0;2GGIT0;2GGIX0;2GGI0
2GGIEX0;2GGIE0;2GGIEP0;2GGAT0;2GGAX0;2GGA0;2GGAP0;2GGUOT0;2GGUOX0;2GGUO0;2GGUOP0;2GGOT0;2GGOX0
2GGO0;2GGOP0;2GGET0;2GGEX0;2GGE0;2GGEP0;2GGUT0;2GGUX0;2GGU0;2GGUP0;2GGURX0;2GGUR0;2MGIEX0;2MGIE0
2MGAT0;2MGAX0;2MGA0;2MGAP0;2MGUOX0;2MGUO0;2MGUOP0;2MGOT0;2MGOX0;2MGO0;2MGOP0;2MGEX0;2MGE0;2MGEP0
2MGUT0;2MGUX0;2MGU0;2MGUP0;2MGURX0;2MGUR0;2HXIT0;2HXIX0;2HXI0;2HXIP0;2HXIET0;2HXIEX0;2HXIE0
2HXIEP0;2HXAT0;2HXAX0;2HXA0;2HXAP0;2HXUOT0;2HXUOX0;2HXUO0;2HXUOP0;2HXOT0;2HXOX0;2HXO0;2HXOP0
2HXEX0;2HXE0;2HXEP0;2NGIEX0;2NGIE0;2NGIEP0;2NGAT0;2NGAX0;2NGA0;2NGAP0;2NGUOT0;2NGUOX0;2NGUO0
2NGOT0;2NGOX0;2NGO0;2NGOP0;2NGEX0;2NGE0;2NGEP0;2HIT0;2HIEX0;2HIE0;2HAT0;2HAX0;2HA0;2HAP0;2HUOT0
2HUOX0;2HUO0;2HUOP0;2HOT0;2HOX0;2HO0;2HOP0;2HEX0;2HE0;2HEP0;2WAT0;2WAX0;2WA0;2WAP0;2WUOX0;2WUO0
2WUOP0;2WOX0;2WO0;2WOP0;2WEX0;2WE0;2WEP0;2ZIT0;2ZIX0;2ZI0;2ZIP0;2ZIEX0;2ZIE0;2ZIEP0;2ZAT0;2ZAX0
2ZA0;2ZAP0;2ZUOX0;2ZUO0;2ZUOP0;2ZOT0;2ZOX0;2ZO0;2ZOP0;2ZEX0;2ZE0;2ZEP0;2ZUT0;2ZUX0;2ZU0;2ZUP0
2ZURX0;2ZUR0;2ZYT0;2ZYX0;2ZY0;2ZYP0;2ZYRX0;2ZYR0;2CIT0;2CIX0;2CI0;2CIP0;2CIET0;2CIEX0;2CIE0;2CIEP0
2CAT0;2CAX0;2CA0;2CAP0;2CUOX0;2CUO0;2CUOP0;2COT0;2COX0;2CO0;2COP0;2CEX0;2CE0;2CEP0;2CUT0;2CUX0
2CU0;2CUP0;2CURX0;2CUR0;2CYT0;2CYX0;2CY0;2CYP0;2CYRX0;2CYR0;2ZZIT0;2ZZIX0;2ZZI0;2ZZIP0;2ZZIET0
2ZZIEX0;2ZZIE0;2ZZIEP0;2ZZAT0;2ZZAX0;2ZZA0;2ZZAP0;2ZZOX0;2ZZO0;2ZZOP0;2ZZEX0;2ZZE0;2ZZEP0;2ZZUX0
2ZZU0;2ZZUP0;2ZZURX0;2ZZUR0;2ZZYT0;2ZZYX0;2ZZY0;2ZZYP0;2ZZYRX0;2ZZYR0;2NZIT0;2NZIX0;2NZI0;2NZIP0
2NZIEX0;2NZIE0;2NZIEP0;2NZAT0;2NZAX0;2NZA0;2NZAP0;2NZUOX0;2NZUO0;2NZOX0;2NZOP0;2NZEX0;2NZE0;2NZUX0
2NZU0;2NZUP0;2NZURX0;2NZUR0;2NZYT0;2NZYX0;2NZY0;2NZYP0;2NZYRX0;2NZYR0;2SIT0;2SIX0;2SI0;2SIP0
2SIEX0;2SIE0;2SIEP0;2SAT0;2SAX0;2SA0;2SAP0;2SUOX0;2SUO0;2SUOP0;2SOT0;2SOX0;2SO0;2SOP0;2SEX0;2SE0
2SEP0;2SUT0;2SUX0;2SU0;2SUP0;2SURX0;2SUR0;2SYT0;2SYX0;2SY0;2SYP0;2SYRX0;2SYR0;2SSIT0;2SSIX0;2SSI0
2SSIP0;2SSIEX0;2SSIE0;2SSIEP0;2SSAT0;2SSAX0;2SSA0;2SSAP0;2SSOT0;2SSOX0;2SSO0;2SSOP0;2SSEX0;2SSE0
2SSEP0;2SSUT0;2SSUX0;2SSU0;2SSUP0;2SSYT0;2SSYX0;2SSY0;2SSYP0;2SSYRX0;2SSYR0;2ZHAT0;2ZHAX0;2ZHA0
2ZHAP0;2ZHUOX0;2ZHUO0;2ZHUOP0;2ZHOT0;2ZHOX0;2ZHO0;2ZHOP0;2ZHET0;2ZHEX0;2ZHE0;2ZHEP0;2ZHUT0;2ZHUX0
2ZHU0;2ZHUP0;2ZHURX0;2ZHUR0;2ZHYT0;2ZHYX0;2ZHY0;2ZHYP0;2ZHYRX0;2ZHYR0;2CHAT0;2CHAX0;2CHA0;2CHAP0
2CHUOT0;2CHUOX0;2CHUO0;2CHUOP0;2CHOT0;2CHOX0;2CHO0;2CHOP0;2CHET0;2CHEX0;2CHE0;2CHEP0;2CHUX0;2CHU0
2CHUP0;2CHURX0;2CHUR0;2CHYT0;2CHYX0;2CHY0;2CHYP0;2CHYRX0;2CHYR0;2RRAX0;2RRA0;2RRUOX0;2RRUO0;2RROT0
2RROX0;2RRO0;2RROP0;2RRET0;2RREX0;2RRE0;2RREP0;2RRUT0;2RRUX0;2RRU0;2RRUP0;2RRURX0;2RRUR0;2RRYT0
2RRYX0;2RRY0;2RRYP0;2RRYRX0;2RRYR0;2NRAT0;2NRAX0;2NRA0;2NRAP0;2NROX0;2NRO0;2NROP0;2NRET0;2NREX0
2NRE0;2NREP0;2NRUT0;2NRUX0;2NRU0;2NRUP0;2NRURX0;2NRUR0;2NRYT0;2NRYX0;2NRY0;2NRYP0;2NRYRX0;2NRYR0
2SHAT0;2SHAX0;2SHA0;2SHAP0;2SHUOX0;2SHUO0;2SHUOP0;2SHOT0;2SHOX0;2SHO0;2SHOP0;2SHET0;2SHEX0;2SHE0
2SHEP0;2SHUT0;2SHUX0;2SHU0;2SHUP0;2SHURX0;2SHUR0;2SHYT0;2SHYX0;2SHY0;2SHYP0;2SHYRX0;2SHYR0;2RAT0
2RAX0;2RA0;2RAP0;2RUOX0;2RUO0;2RUOP0;2ROT0;2ROX0;2RO0;2ROP0;2REX0;2RE0;2REP0;2RUT0;2RUX0;2RU0
2RUP0;2RURX0;2RUR0;2RYT0;2RYX0;2RY0;2RYP0;2RYRX0;2RYR0;2JIT0;2JIX0;2JI0;2JIP0;2JIET0;2JIEX0;2JIE0
2JIEP0;2JUOT0;2JUOX0;2JUO0;2JUOP0;2JOT0;2JOX0;2JO0;2JOP0;2JUT0;2JUX0;2JU0;2JUP0;2JURX0;2JUR0;2JYT0
2JYX0;2JY0;2JYP0;2JYRX0;2JYR0;2QIT0;2QIX0;2QI0;2QIP0;2QIET0;2QIEX0;2QIE0;2QIEP0;2QUOT0;2QUOX0
2QUO0;2QUOP0;2QOT0;2QOX0;2QO0;2QOP0;2QUT0;2QUX0;2QU0;2QUP0;2QURX0;2QUR0;2QYT0;2QYX0;2QY0;2QYP0
2QYRX0;2QYR0;2JJIT0;2JJIX0;2JJI0;2JJIP0;2JJIET0;2JJIEX0;2JJIE0;2JJIEP0;2JJUOX0;2JJUO0;2JJUOP0
2JJOT0;2JJOX0;2JJO0;2JJOP0;2JJUT0;2JJUX0;2JJU0;2JJUP0;2JJURX0;2JJUR0;2JJYT0;2JJYX0;2JJY0;2JJYP0
2NJIT0;2NJIX0;2NJI0;2NJIP0;2NJIET0;2NJIEX0;2NJIE0;2NJIEP0;2NJUOX0;2NJUO0;2NJOT0;2NJOX0;2NJO0
2NJOP0;2NJUX0;2NJU0;2NJUP0;2NJURX0;2NJUR0;2NJYT0;2NJYX0;2NJY0;2NJYP0;2NJYRX0;2NJYR0;2NYIT0;2NYIX0
2NYI0;2NYIP0;2NYIET0;2NYIEX0;2NYIE0;2NYIEP0;2NYUOX0;2NYUO0;2NYUOP0;2NYOT0;2NYOX0;2NYO0;2NYOP0
2NYUT0;2NYUX0;2NYU0;2NYUP0;2XIT0;2XIX0;2XI0;2XIP0;2XIET0;2XIEX0;2XIE0;2XIEP0;2XUOX0;2XUO0;2XOT0
2XOX0;2XO0;2XOP0;2XYT0;2XYX0;2XY0;2XYP0;2XYRX0;2XYR0;2YIT0;2YIX0;2YI0;2YIP0;2YIET0;2YIEX0;2YIE0
2YIEP0;2YUOT0;2YUOX0;2YUO0;2YUOP0;2YOT0;2YOX0;2YO0;2YOP0;2YUT0;2YUX0;2YU0;2YUP0;2YURX0;2YUR0;2YYT0
2YYX0;2YY0;2YYP0;2YYRX0;2YYR0;a490:0YI RADICAL QOT0;2LI0;2KIT0;2NYIP0;2CYP0;2SSI0;2GGOP0;2GEP0
2MI0;2HXIT0;2LYR0;2BBUT0;2MOP0;2YO0;2PUT0;2HXUO0;2TAT0;2GA0;2ZUP0;2CYT0;2DDUR0;2BUR0;2GGUO0;2NYOP0
2TU0;2OP0;2JJUT0;2ZOT0;2PYT0;2HMO0;2YIT0;2VUR0;2SHY0;2VEP0;2ZA0;2JO0;2NZUP0;2JJY0;2GOT0;2JJIE0
2WO0;2DU0;2SHUR0;2LIE0;2CY0;2CUOP0;2CIP0;2HXOP0;2SHAT0;2ZUR0;2SHOP0;2CHE0;2ZZIET0;2NBIE0;2KE0"

/-- Scripts that came later, private forms of letters, and wide forms. -/
def laterScriptNames : String := "
a4d0:0LISU LETTER BA0;2PA0;2PHA0;2DA0;2TA0;2THA0;2GA0;2KA0;2KHA0;2JA0;2CA0;2CHA0;2DZA0;2TSA0
2TSHA0;2MA0;2NA0;2LA0;2SA0;2ZHA0;2ZA0;2NGA0;2HA0;2XA0;2HHA0;2FA0;2WA0;2SHA0;2YA0;2GHA0;2A0;2AE0
2E0;2EU0;2I0;2O0;2U0;2UE0;2UH0;2OE0;2TONE MYA TI0;3NA PO0;3MYA CYA0;4BO0;4NA0;4JEU0
1PUNCTUATION COMMA0;2FULL STOP0;0VAI SYLLABLE EE0;2EEN0;2HEE0;2WEE0;2WEEN0;2PEE0;2BHEE0;2BEE0
2MBEE0;2KPEE0;2MGBEE0;2GBEE0;2FEE0;2VEE0;2TEE0;2THEE0;2DHEE0;2DHHEE0;2LEE0;2REE0;2DEE0;2NDEE0
2SEE0;2SHEE0;2ZEE0;2ZHEE0;2CEE0;2JEE0;2NJEE0;2YEE0;2KEE0;2NGGEE0;2GEE0;2MEE0;2NEE0;2NYEE0;2I0;2IN0
2HI0;2HIN0;2WI0;2WIN0;2PI0;2BHI0;2BI0;2MBI0;2KPI0;2MGBI0;2GBI0;2FI0;2VI0;2TI0;2THI0;2DHI0;2DHHI0
2LI0;2RI0;2DI0;2NDI0;2SI0;2SHI0;2ZI0;2ZHI0;2CI0;2JI0;2NJI0;2YI0;2KI0;2NGGI0;2GI0;2MI0;2NI0;2NYI0
2A0;2AN0;2NGAN0;2HA0;2HAN0;2WA0;2WAN0;2PA0;2BHA0;2BA0;2MBA0;2KPA0;2KPAN0;2MGBA0;2GBA0;2FA0;2VA0
2TA0;2THA0;2DHA0;2DHHA0;2LA0;2RA0;2DA0;2NDA0;2SA0;2SHA0;2ZA0;2ZHA0;2CA0;2JA0;2NJA0;2YA0;2KA0;2KAN0
2NGGA0;2GA0;2MA0;2NA0;2NYA0;2OO0;2OON0;2HOO0;2WOO0;2WOON0;2POO0;2BHOO0;2BOO0;2MBOO0;2KPOO0;2MGBOO0
2GBOO0;2FOO0;2VOO0;2TOO0;2THOO0;2DHOO0;2DHHOO0;2LOO0;2ROO0;2DOO0;2NDOO0;2SOO0;2SHOO0;2ZOO0;2ZHOO0
2COO0;2JOO0;2NJOO0;2YOO0;2KOO0;2NGGOO0;2GOO0;2MOO0;2NOO0;2NYOO0;2U0;2UN0;2HU0;2HUN0;2WU0;2WUN0
2PU0;2BHU0;2BU0;2MBU0;2KPU0;2MGBU0;2GBU0;2FU0;2VU0;2TU0;2THU0;2DHU0;2DHHU0;2LU0;2RU0;2DU0;2NDU0
2SU0;2SHU0;2ZU0;2ZHU0;2CU0;2JU0;2NJU0;2YU0;2KU0;2NGGU0;2GU0;2MU0;2NU0;2NYU0;2O0;2ON0;2NGON0;2HO0
2HON0;2WO0;2WON0;2PO0;2BHO0;2BO0;2MBO0;2KPO0;2MGBO0;2GBO0;2GBON0;2FO0;2VO0;2TO0;2THO0;2DHO0;2DHHO0
2LO0;2RO0;2DO0;2NDO0;2SO0;2SHO0;2ZO0;2ZHO0;2CO0;2JO0;2NJO0;2YO0;2KO0;2NGGO0;2GO0;2MO0;2NO0;2NYO0
2E0;2EN0;2NGEN0;2HE0;2HEN0;2WE0;2WEN0;2PE0;2BHE0;2BE0;2MBE0;2KPE0;2KPEN0;2MGBE0;2GBE0;2GBEN0;2FE0
2VE0;2TE0;2THE0;2DHE0;2DHHE0;2LE0;2RE0;2DE0;2NDE0;2SE0;2SHE0;2ZE0;2ZHE0;2CE0;2JE0;2NJE0;2YE0;2KE0
2NGGE0;2NGGEN0;2GE0;2GEN0;2ME0;2NE0;2NYE0;2NG0;2LENGTHENER0;1COMMA0;1FULL STOP0;1QUESTION MARK0
1SYLLABLE NDOLE FA0;3KA0;3SOO0;1SYMBOL FEENG0;2KEENG0;2TING0;2NII0;2BANG0;2FAA0;2TAA0;2DANG0
2DOONG0;2KUNG0;2TONG0;2DO-O0;2JONG0;1DIGIT ZERO0;2ONE0;2TWO0;2THREE0;2FOUR0;2FIVE0;2SIX0;2SEVEN0
2EIGHT0;2NINE0;1SYLLABLE NDOLE MA0;3DO0;a640:0CYRILLIC CAPITAL LETTER ZEMLYA0;1SMALL2
1CAPITAL LETTER DZELO0;1SMALL2;1CAPITAL LETTER REVERSED DZE0;1SMALL3;1CAPITAL LETTER IOTA0;1SMALL2
1CAPITAL LETTER DJERV0;1SMALL2;1CAPITAL LETTER MONOGRAPH UK0;1SMALL3;1CAPITAL LETTER BROAD OMEGA0
1SMALL3;1CAPITAL LETTER NEUTRAL YER0;1SMALL3;1CAPITAL LETTER YERU WITH BACK1;1SMALL5
1CAPITAL LETTER IOTIFIED YAT0;1SMALL3;1CAPITAL LETTER REVERSED YU0;1SMALL3
1CAPITAL LETTER IOTIFIED A0;1SMALL3;1CAPITAL LETTER CLOSED LITTLE YUS0;1SMALL4
1CAPITAL LETTER BLENDED1;1SMALL3;1CAPITAL LETTER IOTIFIED CLOSED LITTLE1;1SMALL5
1CAPITAL LETTER YN0;1SMALL2;1CAPITAL LETTER REVERSED TSE0;1SMALL3;1CAPITAL LETTER SOFT DE0;1SMALL3
1CAPITAL LETTER SOFT EL0;1SMALL3;1CAPITAL LETTER SOFT EM0;1SMALL3;1CAPITAL LETTER MONOCULAR O0
1SMALL3;1CAPITAL LETTER BINOCULAR1;1SMALL3;1CAPITAL LETTER DOUBLE MONOCULAR1;1SMALL4
1LETTER MULTIOCULAR1;0COMBINING CYRILLIC VZMET0;2TEN MILLIONS SIGN0;2HUNDRED2;2THOUSAND2
0SLAVONIC ASTERISK0;0COMBINING CYRILLIC LETTER UKRAINIAN IE0;3I0;3YI0;3U0;3HARD SIGN0;3YERU0
3SOFT SIGN0;3OMEGA0;2KAVYKA0;2PAYEROK0;0CYRILLIC KAVYKA0;1PAYEROK0;1CAPITAL LETTER DWE0;1SMALL2
1CAPITAL LETTER DZWE0;1SMALL2;1CAPITAL LETTER ZHWE0;1SMALL2;1CAPITAL LETTER CCHE0;1SMALL2
1CAPITAL LETTER DZZE0;1SMALL2;1CAPITAL LETTER TE WITH MIDDLE HOOK0;1SMALL5;1CAPITAL LETTER TWE0
1SMALL2;1CAPITAL LETTER TSWE0;1SMALL2;1CAPITAL LETTER TSSE0;1SMALL2;1CAPITAL LETTER TCHE0;1SMALL2
1CAPITAL LETTER HWE0;1SMALL2;1CAPITAL LETTER SHWE0;1SMALL2;1CAPITAL LETTER DOUBLE O0;1SMALL3
1CAPITAL LETTER CROSSED1;1SMALL3;0MODIFIER LETTER CYRILLIC HARD SIGN0;3SOFT1
0COMBINING CYRILLIC LETTER EF0;3IOTIFIED E0;0BAMUM LETTER A0;2KA0;2U0;2KU0;2EE0;2REE0;2TAE0;2O0
2NYI0;2I0;2LA0;2PA0;2RII0;2RIEE0;2LEEEE0;2MEEEE0;2TAA0;2NDAA0;2NJAEM0;2M0;2SUU0;2MU0;2SHII0;2SI0
2SHEUX0;2SEUX0;2KYEE0;2KET0;2NUAE0;2NU0;2NJUAE0;2YOQ0;2SHU0;2YUQ0;2YA0;2NSHA0;2KEUX0;2PEUX0;2NJEE0
2NTEE0;2PUE0;2WUE0;2PEE0;2FEE0;2RU0;2LU0;2MI0;2NI0;2REUX0;2RAE0;2KEN0;2NGKWAEN0;2NGGA0;2NGA0;2SHO0
2PUAE0;2FU0;2FOM0;2WA0;2NA0;2LI0;2PI0;2LOQ0;2KO0;2MBEN0;2REN0;2MEN0;2MA0;2TI0;2KI0;2MO0;2MBAA0
2TET0;2KPA0;2TEN0;2NTUU0;2SAMBA0;2FAAMAE0;2KOVUU0;2KOGHOM0;1COMBINING MARK KOQNDON0;3TUKWENTIS0
1NJAEMLI0;1FULL STOP0;1COLON0;1COMMA0;1SEMICOLON0;1QUESTION MARK0
a700:0MODIFIER LETTER CHINESE TONE YIN PING0;4YANG1;4YIN SHANG0;4YANG1;4YIN QU0;4YANG1;4YIN RU0
4YANG1;2EXTRA-HIGH DOTTED TONE BAR0;2HIGH3;2MID3;2LOW3;2EXTRA-LOW3;2EXTRA-HIGH DOTTED LEFT-STEM2
2HIGH4;2MID4;2LOW4;2EXTRA-LOW4;2EXTRA-HIGH3;2HIGH3;2MID3;2LOW3;2EXTRA-LOW3;2DOT VERTICAL1;3SLASH0
3HORIZONTAL BAR0;2LOWER RIGHT CORNER ANGLE0;2RAISED UP ARROW0;3DOWN1;3EXCLAMATION MARK0;3INVERTED2
2LOW3;2STRESS AND HIGH TONE0;4LOW1;0LATIN CAPITAL LETTER EGYPTOLOGICAL ALEF0;1SMALL3
1CAPITAL LETTER EGYPTOLOGICAL AIN0;1SMALL3;1CAPITAL LETTER HENG0;1SMALL2;1CAPITAL LETTER TZ0
1SMALL2;1CAPITAL LETTER TRESILLO0;1SMALL2;1CAPITAL LETTER CUATRILLO0;1SMALL2
1CAPITAL LETTER CUATRILLO WITH COMMA0;1SMALL4;1LETTER SMALL CAPITAL F0;4S0;1CAPITAL LETTER AA0
1SMALL2;1CAPITAL LETTER AO0;1SMALL2;1CAPITAL LETTER AU0;1SMALL2;1CAPITAL LETTER AV0;1SMALL2
1CAPITAL LETTER AV WITH HORIZONTAL BAR0;1SMALL5;1CAPITAL LETTER AY0;1SMALL2
1CAPITAL LETTER REVERSED C WITH DOT0;1SMALL5;1CAPITAL LETTER K WITH STROKE0;1SMALL4
1CAPITAL LETTER K WITH DIAGONAL1;1SMALL5;1CAPITAL LETTER K WITH STROKE AND2;1SMALL7
1CAPITAL LETTER BROKEN L0;1SMALL3;1CAPITAL LETTER L WITH HIGH STROKE0;1SMALL5
1CAPITAL LETTER O WITH LONG STROKE OVERLAY0;1SMALL6;1CAPITAL LETTER O WITH LOOP0;1SMALL4
1CAPITAL LETTER OO0;1SMALL2;1CAPITAL LETTER P WITH STROKE THROUGH DESCENDER0;1SMALL6
1CAPITAL LETTER P WITH FLOURISH0;1SMALL4;1CAPITAL LETTER P WITH SQUIRREL TAIL0;1SMALL5
1CAPITAL LETTER Q WITH STROKE THROUGH DESCENDER0;1SMALL6;1CAPITAL LETTER Q WITH DIAGONAL STROKE0
1SMALL5;1CAPITAL LETTER R ROTUNDA0;1SMALL3;1CAPITAL LETTER RUM1;1SMALL3
1CAPITAL LETTER V WITH DIAGONAL STROKE0;1SMALL5;1CAPITAL LETTER VY0;1SMALL2
1CAPITAL LETTER VISIGOTHIC Z0;1SMALL3;1CAPITAL LETTER THORN WITH STROKE0;1SMALL4
1CAPITAL LETTER THORN WITH STROKE THROUGH DESCENDER0;1SMALL6;1CAPITAL LETTER VEND0;1SMALL2
1CAPITAL LETTER ET0;1SMALL2;1CAPITAL LETTER IS0;1SMALL2;1CAPITAL LETTER CON0;1SMALL2
0MODIFIER LETTER US0;0LATIN SMALL LETTER DUM0;3LUM0;3MUM0;3NUM0;3RUM0;1LETTER SMALL CAPITAL1
1SMALL LETTER TUM0;3UM0;1CAPITAL LETTER INSULAR D0;1SMALL3;1CAPITAL LETTER INSULAR F0;1SMALL3
1CAPITAL LETTER INSULAR G0;3TURNED2;1SMALL4;1CAPITAL LETTER TURNED L0;1SMALL3
1CAPITAL LETTER INSULAR R0;1SMALL3;1CAPITAL LETTER INSULAR S0;1SMALL3;1CAPITAL LETTER INSULAR T0
1SMALL3;0MODIFIER LETTER LOW CIRCUMFLEX ACCENT0;2COLON0;2SHORT EQUALS SIGN0
0LATIN CAPITAL LETTER SALTILLO0;1SMALL2;1CAPITAL LETTER TURNED H0
1SMALL LETTER L WITH RETROFLEX HOOK AND BELT0;1LETTER SINOLOGICAL DOT0
1CAPITAL LETTER N WITH DESCENDER0;1SMALL4;1CAPITAL LETTER C WITH BAR0;1SMALL4;5PALATAL HOOK0;3H3
1CAPITAL LETTER B WITH FLOURISH0;1SMALL4;1CAPITAL LETTER F WITH STROKE0;1SMALL4
1CAPITAL LETTER VOLAPUK AE0;1SMALL3;1CAPITAL LETTER VOLAPUK OE0;1SMALL3
1CAPITAL LETTER VOLAPUK UE0;1SMALL3;1CAPITAL LETTER G WITH OBLIQUE STROKE0;1SMALL5
1CAPITAL LETTER K3;1SMALL5;1CAPITAL LETTER N3;1SMALL5;1CAPITAL LETTER R3;1SMALL5
1CAPITAL LETTER S3;1SMALL5;1CAPITAL LETTER H WITH HOOK0;3REVERSED OPEN E0;3SCRIPT G0;3L WITH BELT0
3SMALL CAPITAL I0;1LETTER SMALL CAPITAL Q0;1CAPITAL LETTER TURNED K0;4T0;3J WITH CROSSED-TAIL0
3CHI0;3BETA0;1SMALL2;1CAPITAL LETTER OMEGA0;1SMALL2;1CAPITAL LETTER U WITH STROKE0;1SMALL4
1CAPITAL LETTER GLOTTAL A0;1SMALL3;1CAPITAL LETTER GLOTTAL I0;1SMALL3;1CAPITAL LETTER GLOTTAL U0
1SMALL3;1CAPITAL LETTER OLD POLISH O0;1SMALL4;1CAPITAL LETTER ANGLICANA W0;1SMALL3
1CAPITAL LETTER C WITH PALATAL HOOK0;3S WITH1;3Z WITH PALATAL1;3D WITH SHORT STROKE OVERLAY0
1SMALL6;1CAPITAL LETTER S4;1SMALL6;a7d0:0LATIN CAPITAL LETTER CLOSED INSULAR G0;1SMALL4
a7d3:0LATIN SMALL LETTER DOUBLE THORN0;a7d5:0LATIN SMALL LETTER DOUBLE WYNN0
1CAPITAL LETTER MIDDLE SCOTS S0;1SMALL4;1CAPITAL LETTER SIGMOID1;1SMALL3
a7f2:0MODIFIER LETTER CAPITAL C0;3F0;3Q0;0LATIN CAPITAL LETTER REVERSED HALF H0;1SMALL4
1EPIGRAPHIC LETTER SIDEWAYS I0;0MODIFIER LETTER CAPITAL H WITH STROKE0;2SMALL LIGATURE OE0
0LATIN LETTER SMALL CAPITAL TURNED M0;1EPIGRAPHIC LETTER REVERSED F0;4P0;3INVERTED M0;3I LONGA0
3ARCHAIC M0;0SYLOTI NAGRI LETTER A0;3I0;2SIGN DVISVARA0;2LETTER U0;3E0;3O0;2SIGN HASANTA0
2LETTER KO0;3KHO0;3GO0;3GHO0;2SIGN ANUSVARA0;2LETTER CO0;3CHO0;3JO0;3JHO0;3TTO0;3TTHO0;3DDO0
3DDHO0;3TO0;3THO0;3DO0;3DHO0;3NO0;3PO0;3PHO0;3BO0;3BHO0;3MO0;3RO0;3LO0;3RRO0;3SO0;3HO0
2VOWEL SIGN A0;4I0;4U0;4E0;4OO0;2POETRY MARK-10;3MARK-20;3MARK-30;3MARK-40
2SIGN ALTERNATE HASANTA0;a830:0NORTH INDIC FRACTION ONE QUARTER0;4HALF0;3THREE QUARTERS0
3ONE SIXTEENTH0;4EIGHTH0;3THREE SIXTEENTHS0;2QUARTER MARK0;2PLACEHOLDER1;2RUPEE1;2QUANTITY1
a840:0PHAGS-PA LETTER KA0;2KHA0;2GA0;2NGA0;2CA0;2CHA0;2JA0;2NYA0;2TA0;2THA0;2DA0;2NA0;2PA0;2PHA0
2BA0;2MA0;2TSA0;2TSHA0;2DZA0;2WA0;2ZHA0;2ZA0;2SMALL A0;2YA0;2RA0;2LA0;2SHA0;2SA0;2HA0;2A0;2I0;2U0
2E0;2O0;2QA0;2XA0;2FA0;2GGA0;2EE0;1SUBJOINED LETTER WA0;3YA0;1LETTER TTA0;2TTHA0;2DDA0;2NNA0
2ALTERNATE YA0;2VOICELESS SHA0;2VOICED HA0;2ASPIRATED FA0;1SUBJOINED LETTER RA0;1SUPERFIXED2
1LETTER CANDRABINDU0;1SINGLE HEAD MARK0;1DOUBLE2;1MARK SHAD0;2DOUBLE1
a880:0SAURASHTRA SIGN ANUSVARA0;2VISARGA0;1LETTER A0;2AA0;2I0;2II0;2U0;2UU0;2VOCALIC R0;3RR0;3L0
3LL0;2E0;2EE0;2AI0;2O0;2OO0;2AU0;2KA0;2KHA0;2GA0;2GHA0;2NGA0;2CA0;2CHA0;2JA0;2JHA0;2NYA0;2TTA0
2TTHA0;2DDA0;2DDHA0;2NNA0;2TA0;2THA0;2DA0;2DHA0;2NA0;2PA0;2PHA0;2BA0;2BHA0;2MA0;2YA0;2RA0;2LA0
2VA0;2SHA0;2SSA0;2SA0;2HA0;2LLA0;1CONSONANT SIGN HAARU0;1VOWEL SIGN AA0;3I0;3II0;3U0;3UU0
3VOCALIC R0;4RR0;4L0;4LL0;3E0;3EE0;3AI0;3O0;3OO0;3AU0;1SIGN VIRAMA0;2CANDRABINDU0
a8ce:0SAURASHTRA DANDA0;1DOUBLE1;1DIGIT ZERO0;2ONE0;2TWO0;2THREE0;2FOUR0;2FIVE0;2SIX0;2SEVEN0
2EIGHT0;2NINE0;a8e0:0COMBINING DEVANAGARI DIGIT ZERO0;3ONE0;3TWO0;3THREE0;3FOUR0;3FIVE0;3SIX0
3SEVEN0;3EIGHT0;3NINE0;2LETTER A0;3U0;3KA0;3NA0;3PA0;3RA0;3VI0;2SIGN AVAGRAHA0
0DEVANAGARI SIGN SPACING CANDRABINDU0;2CANDRABINDU VIRAMA0;2DOUBLE2;2CANDRABINDU TWO0;3THREE0
3AVAGRAHA0;2PUSHPIKA0;1GAP FILLER0;1CARET0;1HEADSTROKE0;1SIGN SIDDHAM0;1JAIN OM0;1LETTER AY0
1VOWEL SIGN1;0KAYAH LI DIGIT ZERO0;3ONE0;3TWO0;3THREE0;3FOUR0;3FIVE0;3SIX0;3SEVEN0;3EIGHT0;3NINE0
2LETTER KA0;3KHA0;3GA0;3NGA0;3SA0;3SHA0;3ZA0;3NYA0;3TA0;3HTA0;3NA0;3PA0;3PHA0;3MA0;3DA0;3BA0;3RA0
3YA0;3LA0;3WA0;3THA0;3HA0;3VA0;3CA0;3A0;3OE0;3I0;3OO0;2VOWEL UE0;3E0;3U0;3EE0;3O0;2TONE PLOPHU0
3CALYA0;4PLOPHU0;2SIGN CWI0;3SHYA0;0REJANG LETTER KA0;2GA0;2NGA0;2TA0;2DA0;2NA0;2PA0;2BA0;2MA0
2CA0;2JA0;2NYA0;2SA0;2RA0;2LA0;2YA0;2WA0;2HA0;2MBA0;2NGGA0;2NDA0;2NYJA0;2A0;1VOWEL SIGN I0;3U0;3E0
3AI0;3O0;3AU0;3EU0;3EA0;1CONSONANT SIGN NG0;3N0;3R0;3H0;1VIRAMA0;a95f:0REJANG SECTION MARK0
0HANGUL CHOSEONG TIKEUT-MIEUM0;2TIKEUT-PIEUP0;2TIKEUT-SIOS0;2TIKEUT-CIEUC0;2RIEUL-KIYEOK0
2RIEUL-SSANGKIYEOK0;2RIEUL-TIKEUT0;2RIEUL-SSANGTIKEUT0;2RIEUL-MIEUM0;2RIEUL-PIEUP0
2RIEUL-SSANGPIEUP0;2RIEUL-KAPYEOUNPIEUP0;2RIEUL-SIOS0;2RIEUL-CIEUC0;2RIEUL-KHIEUKH0;2MIEUM-KIYEOK0
2MIEUM-TIKEUT0;2MIEUM-SIOS0;2PIEUP-SIOS-THIEUTH0;2PIEUP-KHIEUKH0;2PIEUP-HIEUH0;2SSANGSIOS-PIEUP0
2IEUNG-RIEUL0;2IEUNG-HIEUH0;2SSANGCIEUC-HIEUH0;2SSANGTHIEUTH0;2PHIEUPH-HIEUH0;2HIEUH-SIOS0
2SSANGYEORINHIEUH0;a980:0JAVANESE SIGN PANYANGGA0;2CECAK0;2LAYAR0;2WIGNYAN0;1LETTER A0;2I KAWI0;30
2II0;2U0;2PA CEREK0;2NGA LELET0;4RASWADI0;2E0;2AI0;2O0;2KA0;3SASAK0;3MURDA0;2GA0;3MURDA0;2NGA0
2CA0;3MURDA0;2JA0;2NYA MURDA0;2JA MAHAPRANA0;2NYA0;2TTA0;3MAHAPRANA0;2DDA0;3MAHAPRANA0;2NA MURDA0
2TA0;3MURDA0;2DA0;3MAHAPRANA0;2NA0;2PA0;3MURDA0;2BA0;3MURDA0;2MA0;2YA0;2RA0;3AGUNG0;2LA0;2WA0
2SA MURDA0;3MAHAPRANA0;30;2HA0;1SIGN CECAK TELU0;1VOWEL SIGN TARUNG0;3TOLONG0;3WULU0;4MELIK0
3SUKU0;4MENDUT0;3TALING0;3DIRGA MURE0;3PEPET0;1CONSONANT SIGN KERET0;3PENGKAL0;3CAKRA0;1PANGKON0
1LEFT RERENGGAN0;1RIGHT1;1PADA ANDAP0;2MADYA0;2LUHUR0;2WINDU0;2PANGKAT0;2LINGSA0;2LUNGSI0;2ADEG0
3ADEG0;2PISELEH0;1TURNED2;a9cf:0JAVANESE PANGRANGKEP0;1DIGIT ZERO0;2ONE0;2TWO0;2THREE0;2FOUR0
2FIVE0;2SIX0;2SEVEN0;2EIGHT0;2NINE0;a9de:0JAVANESE PADA TIRTA TUMETES0;2ISEN-ISEN0
0MYANMAR LETTER SHAN GHA0;3CHA0;3JHA0;3NNA0;3BHA0;1SIGN SHAN SAW0
1MODIFIER LETTER SHAN REDUPLICATION0;1LETTER TAI LAING NYA0;4FA0;4GA0;4GHA0;4JA0;4JHA0;4DDA0
4DDHA0;4NNA0;1TAI LAING DIGIT ZERO0;4ONE0;4TWO0;4THREE0;4FOUR0;4FIVE0;4SIX0;4SEVEN0;4EIGHT0;4NINE0
1LETTER TAI LAING LLA0;4DA0;4DHA0;4BA0;4BHA0;aa00:0CHAM LETTER A0;2I0;2U0;2E0;2AI0;2O0;2KA0;2KHA0
2GA0;2GHA0;2NGUE0;2NGA0;2CHA0;2CHHA0;2JA0;2JHA0;2NHUE0;2NHA0;2NHJA0;2TA0;2THA0;2DA0;2DHA0;2NUE0
2NA0;2DDA0;2PA0;2PPA0;2PHA0;2BA0;2BHA0;2MUE0;2MA0;2BBA0;2YA0;2RA0;2LA0;2VA0;2SSA0;2SA0;2HA0
1VOWEL SIGN AA0;3I0;3II0;3EI0;3U0;3OE0;3O0;3AI0;3AU0;3UE0;1CONSONANT SIGN YA0;3RA0;3LA0;3WA0
aa40:0CHAM LETTER FINAL K0;3G0;3NG0;1CONSONANT SIGN2;1LETTER FINAL CH0;3T0;3N0;3P0;3Y0;3R0;3L0
3SS0;1CONSONANT SIGN FINAL M0;4H0;aa50:0CHAM DIGIT ZERO0;2ONE0;2TWO0;2THREE0;2FOUR0;2FIVE0;2SIX0
2SEVEN0;2EIGHT0;2NINE0;aa5c:0CHAM PUNCTUATION SPIRAL0;2DANDA0;2DOUBLE1;2TRIPLE1
0MYANMAR LETTER KHAMTI GA0;3CA0;3CHA0;3JA0;3JHA0;3NYA0;3TTA0;3TTHA0;3DDA0;3DDHA0;3DHA0;3NA0;3SA0
3HA0;3HHA0;3FA0;1MODIFIER LETTER KHAMTI REDUPLICATION0;1LETTER KHAMTI XA0;3ZA0;3RA0
1LOGOGRAM KHAMTI OAY0;3QN0;3HM0;1SYMBOL AITON EXCLAMATION0;3ONE0;3TWO0;1LETTER AITON RA0
1SIGN PAO KAREN TONE0;2TAI LAING TONE-20;4TONE-50;1LETTER SHWE PALAUNG CHA0;4SHA0
0TAI VIET LETTER LOW KO0;3HIGH1;3LOW KHO0;3HIGH1;3LOW KHHO0;3HIGH1;3LOW GO0;3HIGH1;3LOW NGO0
3HIGH1;3LOW CO0;3HIGH1;3LOW CHO0;3HIGH1;3LOW SO0;3HIGH1;3LOW NYO0;3HIGH1;3LOW DO0;3HIGH1;3LOW TO0
3HIGH1;3LOW THO0;3HIGH1;3LOW NO0;3HIGH1;3LOW BO0;3HIGH1;3LOW PO0;3HIGH1;3LOW PHO0;3HIGH1;3LOW FO0
3HIGH1;3LOW MO0;3HIGH1;3LOW YO0;3HIGH1;3LOW RO0;3HIGH1;3LOW LO0;3HIGH1;3LOW VO0;3HIGH1;3LOW HO0
3HIGH1;3LOW O0;3HIGH1;2MAI KANG0;2VOWEL AA0;3I0;3UE0;3U0;3E0;3O0;2MAI KHIT0;2VOWEL IA0;3UEA0;3UA0
3AUE0;3AY0;3AN0;3AM0;2TONE MAI EK0;4NUENG0;4THO0;4SONG0;aadb:0TAI VIET SYMBOL KON0;3NUENG0;3SAM0
3HO HOI0;3KOI KOI0;0MEETEI MAYEK LETTER E0;3O0;3CHA0;3NYA0;3TTA0;3TTHA0;3DDA0;3DDHA0;3NNA0;3SHA0
3SSA0;2VOWEL SIGN II0;4UU0;4AAI0;4AU0;4AAU0;2CHEIKHAN0;2AHANG KHUDAM0;2ANJI0
2SYLLABLE REPETITION MARK0;2WORD2;2VOWEL SIGN VISARGA0;2VIRAMA0;ab01:0ETHIOPIC SYLLABLE TTHU0
2TTHI0;2TTHAA0;2TTHEE0;2TTHE0;2TTHO0;ab09:0ETHIOPIC SYLLABLE DDHU0;2DDHI0;2DDHAA0;2DDHEE0;2DDHE0
2DDHO0;ab11:0ETHIOPIC SYLLABLE DZU0;2DZI0;2DZAA0;2DZEE0;2DZE0;2DZO0;ab20:0ETHIOPIC SYLLABLE CCHHA0
2CCHHU0;2CCHHI0;2CCHHAA0;2CCHHEE0;2CCHHE0;2CCHHO0;ab28:0ETHIOPIC SYLLABLE BBA0;2BBU0;2BBI0;2BBAA0
2BBEE0;2BBE0;2BBO0;ab30:0LATIN SMALL LETTER BARRED ALPHA0;3A REVERSED-SCHWA0;3BLACKLETTER E0
3BARRED1;3E WITH FLOURISH0;3LENIS F0;3SCRIPT G WITH CROSSED-TAIL0;3L WITH INVERTED LAZY S0
5DOUBLE MIDDLE TILDE0;5MIDDLE RING0;3M WITH CROSSED-TAIL0;3N2;3ENG2;3BLACKLETTER O0;5WITH STROKE0
3OPEN3;3INVERTED OE0;3TURNED OE WITH STROKE0;6HORIZONTAL1;4O OPEN-O0;6WITH STROKE0;3STIRRUP R0
1LETTER SMALL CAPITAL R WITH RIGHT LEG0;1SMALL LETTER R WITHOUT HANDLE0;3DOUBLE R0
3R WITH CROSSED-TAIL0;3DOUBLE3;3SCRIPT R0;5WITH RING0;3BASELINE ESH0;3U WITH SHORT RIGHT LEG0
4BAR4;3UI0;3TURNED1;3U WITH LEFT HOOK0;3CHI0;4WITH LOW RIGHT RING0;6LEFT SERIF0
3X WITH LOW RIGHT RING0;5LONG LEFT LEG0;8AND LOW RIGHT RING0;8WITH SERIF0;3Y WITH SHORT RIGHT LEG0
0MODIFIER BREVE WITH INVERTED BREVE0;1LETTER SMALL HENG0;3L WITH INVERTED LAZY S0;5MIDDLE TILDE0
3U WITH LEFT HOOK0;0LATIN SMALL LETTER SAKHA YAT0;3IOTIFIED E0;3OPEN OE0;3UO0;3INVERTED ALPHA0
0GREEK LETTER SMALL CAPITAL OMEGA0;0LATIN SMALL LETTER DZ DIGRAPH WITH RETROFLEX HOOK0;3TS4
3TURNED R WITH MIDDLE TILDE0;0MODIFIER LETTER SMALL TURNED W0;2LEFT TACK0;2RIGHT1
ab70:0CHEROKEE SMALL LETTER A0;3E0;3I0;3O0;3U0;3V0;3GA0;3KA0;3GE0;3GI0;3GO0;3GU0;3GV0;3HA0;3HE0
3HI0;3HO0;3HU0;3HV0;3LA0;3LE0;3LI0;3LO0;3LU0;3LV0;3MA0;3ME0;3MI0;3MO0;3MU0;3NA0;3HNA0;3NAH0;3NE0
3NI0;3NO0;3NU0;3NV0;3QUA0;3QUE0;3QUI0;3QUO0;3QUU0;3QUV0;3SA0;3S0;3SE0;3SI0;3SO0;3SU0;3SV0;3DA0
3TA0;3DE0;3TE0;3DI0;3TI0;3DO0;3DU0;3DV0;3DLA0;3TLA0;3TLE0;3TLI0;3TLO0;3TLU0;3TLV0;3TSA0;3TSE0
3TSI0;3TSO0;3TSU0;3TSV0;3WA0;3WE0;3WI0;3WO0;3WU0;3WV0;3YA0;0MEETEI MAYEK LETTER KOK0;3SAM0;3LAI0
3MIT0;3PA0;3NA0;3CHIL0;3TIL0;3KHOU0;3NGOU0;3THOU0;3WAI0;3YANG0;3HUK0;3UN0;3I0;3PHAM0;3ATIYA0;3GOK0
3JHAM0;3RAI0;3BA0;3JIL0;3DIL0;3GHOU0;3DHOU0;3BHAM0;3KOK LONSUM0;3LAI1;3MIT1;3PA1;3NA1;3TIL1;3NGOU1
3I1;2VOWEL SIGN ONAP0;4INAP0;4ANAP0;4YENAP0;4SOUNAP0;4UNAP0;4CHEINAP0;4NUNG0;2CHEIKHEI0;2LUM IYEK0
2APUN1;abf0:0MEETEI MAYEK DIGIT ZERO0;3ONE0;3TWO0;3THREE0;3FOUR0;3FIVE0;3SIX0;3SEVEN0;3EIGHT0
3NINE0;d7b0:0HANGUL JUNGSEONG O-YEO0;2O-O-I0;2YO-A0;2YO-AE0;2YO-EO0;2U-YEO0;2U-I-I0;2YU-AE0;2YU-O0
2EU-A0;2EU-EO0;2EU-E0;2EU-O0;2I-YA-O0;2I-YAE0;2I-YEO0;2I-YE0;2I-O-I0;2I-YO0;2I-YU0;2I-I0;2ARAEA-A0
2ARAEA-E0;d7cb:0HANGUL JONGSEONG NIEUN-RIEUL0;2NIEUN-CHIEUCH0;2SSANGTIKEUT0;2SSANGTIKEUT-PIEUP0
2TIKEUT-PIEUP0;2TIKEUT-SIOS0;2TIKEUT-SIOS-KIYEOK0;2TIKEUT-CIEUC0;2TIKEUT-CHIEUCH0;2TIKEUT-THIEUTH0
2RIEUL-SSANGKIYEOK0;2RIEUL-KIYEOK-HIEUH0;2SSANGRIEUL-KHIEUKH0;2RIEUL-MIEUM-HIEUH0
2RIEUL-PIEUP-TIKEUT0;2RIEUL-PIEUP-PHIEUPH0;2RIEUL-YESIEUNG0;2RIEUL-YEORINHIEUH-HIEUH0
2KAPYEOUNRIEUL0;2MIEUM-NIEUN0;2MIEUM-SSANGNIEUN0;2SSANGMIEUM0;2MIEUM-PIEUP-SIOS0;2MIEUM-CIEUC0
2PIEUP-TIKEUT0;2PIEUP-RIEUL-PHIEUPH0;2PIEUP-MIEUM0;2SSANGPIEUP0;2PIEUP-SIOS-TIKEUT0;2PIEUP-CIEUC0
2PIEUP-CHIEUCH0;2SIOS-MIEUM0;2SIOS-KAPYEOUNPIEUP0;2SSANGSIOS-KIYEOK0;2SSANGSIOS-TIKEUT0
2SIOS-PANSIOS0;2SIOS-CIEUC0;2SIOS-CHIEUCH0;2SIOS-THIEUTH0;2SIOS-HIEUH0;2PANSIOS-PIEUP0
2PANSIOS-KAPYEOUNPIEUP0;2YESIEUNG-MIEUM0;2YESIEUNG-HIEUH0;2CIEUC-PIEUP0;2CIEUC-SSANGPIEUP0
2SSANGCIEUC0;2PHIEUPH-SIOS0;2PHIEUPH-THIEUTH0;fb00:0LATIN SMALL LIGATURE FF0;3FI0;3FL0;3FFI0;3FFL0
3LONG S T0;3ST0;fb13:0ARMENIAN SMALL LIGATURE MEN NOW0;4ECH0;4INI0;3VEW NOW0;3MEN XEH0
fb1d:0HEBREW LETTER YOD WITH HIRIQ0;1POINT JUDEO-SPANISH VARIKA0;1LIGATURE YIDDISH YOD YOD PATAH0
1LETTER ALTERNATIVE AYIN0;2WIDE ALEF0;3DALET0;3HE0;3KAF0;3LAMED0;3FINAL MEM0;3RESH0;3TAV0
2ALTERNATIVE PLUS SIGN0;2SHIN WITH SHIN DOT0;4SIN1;4DAGESH AND SHIN1;6SIN1;2ALEF WITH PATAH0
4QAMATS0;4MAPIQ0;2BET WITH DAGESH0;2GIMEL2;2DALET2;2HE WITH MAPIQ0;2VAV WITH DAGESH0;2ZAYIN2
fb38:0HEBREW LETTER TET WITH DAGESH0;2YOD2;2FINAL KAF2;23;2LAMED2
fb3e:0HEBREW LETTER MEM WITH DAGESH0;fb40:0HEBREW LETTER NUN WITH DAGESH0;2SAMEKH2
fb43:0HEBREW LETTER FINAL PE WITH DAGESH0;23;fb46:0HEBREW LETTER TSADI WITH DAGESH0;2QOF2;2RESH2
2SHIN2;2TAV2;2VAV WITH HOLAM0;2BET WITH RAFE0;2KAF2;2PE2;1LIGATURE ALEF LAMED0
0ARABIC LETTER ALEF WASLA ISOLATED FORM0;4FINAL1;2BEEH ISOLATED1;3FINAL1;3INITIAL1;3MEDIAL1
2PEH ISOLATED1;3FINAL1;3INITIAL1;3MEDIAL1;2BEHEH ISOLATED1;3FINAL1;3INITIAL1;3MEDIAL1
2TTEHEH ISOLATED1;3FINAL1;3INITIAL1;3MEDIAL1;2TEHEH ISOLATED1;3FINAL1;3INITIAL1;3MEDIAL1
2TTEH ISOLATED1;3FINAL1;3INITIAL1;3MEDIAL1;2VEH ISOLATED1;3FINAL1;3INITIAL1;3MEDIAL1
2PEHEH ISOLATED1;3FINAL1;3INITIAL1;3MEDIAL1;2DYEH ISOLATED1;3FINAL1;3INITIAL1;3MEDIAL1
2NYEH ISOLATED1;3FINAL1;3INITIAL1;3MEDIAL1;2TCHEH ISOLATED1;3FINAL1;3INITIAL1;3MEDIAL1
2TCHEHEH ISOLATED1;3FINAL1;3INITIAL1;3MEDIAL1;2DDAHAL ISOLATED1;3FINAL1;2DAHAL ISOLATED1;3FINAL1
2DUL ISOLATED1;3FINAL1;2DDAL ISOLATED1;3FINAL1;2JEH ISOLATED1;3FINAL1;2RREH ISOLATED1;3FINAL1
2KEHEH ISOLATED1;3FINAL1;3INITIAL1;3MEDIAL1;2GAF ISOLATED1;3FINAL1;3INITIAL1;3MEDIAL1
2GUEH ISOLATED1;3FINAL1;3INITIAL1;3MEDIAL1;2NGOEH ISOLATED1;3FINAL1;3INITIAL1;3MEDIAL1
2NOON GHUNNA ISOLATED1;4FINAL1;2RNOON ISOLATED1;3FINAL1;3INITIAL1;3MEDIAL1
2HEH WITH YEH ABOVE ISOLATED1;6FINAL1;3GOAL ISOLATED1;4FINAL1;4INITIAL1;4MEDIAL1
3DOACHASHMEE ISOLATED1;4FINAL1;4INITIAL1;4MEDIAL1;2YEH BARREE ISOLATED1;4FINAL1
4WITH HAMZA ABOVE ISOLATED1;7FINAL1;1SYMBOL DOT ABOVE0;3BELOW0;2TWO DOTS ABOVE0;4BELOW0
2THREE DOTS ABOVE0;4BELOW0;4POINTING DOWNWARDS ABOVE0;6BELOW0;2FOUR DOTS ABOVE0;4BELOW0
2DOUBLE VERTICAL BAR1;2TWO DOTS VERTICALLY ABOVE0;5BELOW0;2RING0;2SMALL TAH ABOVE0;4BELOW0
2WASLA ABOVE0;fbd3:0ARABIC LETTER NG ISOLATED FORM0;3FINAL1;3INITIAL1;3MEDIAL1;2U ISOLATED1
3FINAL1;2OE ISOLATED1;3FINAL1;2YU ISOLATED1;3FINAL1;2U WITH HAMZA ABOVE ISOLATED1;2VE2;3FINAL1
2KIRGHIZ OE ISOLATED1;4FINAL1;3YU ISOLATED1;4FINAL1;2E ISOLATED1;3FINAL1;3INITIAL1;3MEDIAL1
2UIGHUR KAZAKH KIRGHIZ ALEF MAKSURA INITIAL1;7MEDIAL1
1LIGATURE YEH WITH HAMZA ABOVE WITH ALEF ISOLATED1;8FINAL1;7AE ISOLATED1;8FINAL1;7WAW ISOLATED1
8FINAL1;7U ISOLATED1;8FINAL1;7OE ISOLATED1;8FINAL1;7YU ISOLATED1;8FINAL1;7E ISOLATED1;8FINAL1
8INITIAL1;2UIGHUR KIRGHIZ YEH WITH HAMZA ABOVE WITH ALEF MAKSURA ISOLATED1;9ALEF MAKSURA FINAL1
9ALEF MAKSURA INITIAL1;1LETTER FARSI YEH ISOLATED1;4FINAL1;4INITIAL1;4MEDIAL1
1LIGATURE YEH WITH HAMZA ABOVE WITH JEEM ISOLATED1;7HAH2;7MEEM2;7ALEF MAKSURA2;7YEH2
2BEH WITH JEEM2;4HAH2;4KHAH2;4MEEM2;4ALEF MAKSURA2;4YEH2;2TEH WITH JEEM2;4HAH2;4KHAH2;4MEEM2
4ALEF MAKSURA2;4YEH2;2THEH WITH JEEM2;4MEEM2;4ALEF MAKSURA2;4YEH2;2JEEM WITH HAH2;4MEEM2
2HAH WITH JEEM2;4MEEM2;2KHAH WITH JEEM2;4HAH2;4MEEM2;2SEEN WITH JEEM2;4HAH2;4KHAH2;4MEEM2
2SAD WITH HAH2;4MEEM2;2DAD WITH JEEM2;4HAH2;4KHAH2;4MEEM2;2TAH WITH HAH2;4MEEM2;2ZAH4
2AIN WITH JEEM2;4MEEM2;2GHAIN WITH JEEM2;4MEEM2;2FEH WITH JEEM2;4HAH2;4KHAH2;4MEEM2;4ALEF MAKSURA2
4YEH2;2QAF WITH HAH2;4MEEM2;4ALEF MAKSURA2;4YEH2;2KAF WITH ALEF2;4JEEM2;4HAH2;4KHAH2;4LAM2;4MEEM2
4ALEF MAKSURA2;4YEH2;2LAM WITH JEEM2;4HAH2;4KHAH2;4MEEM2;4ALEF MAKSURA2;4YEH2;2MEEM WITH JEEM2
4HAH2;4KHAH2;4MEEM2;4ALEF MAKSURA2;4YEH2;2NOON WITH JEEM2;4HAH2;4KHAH2;4MEEM2;4ALEF MAKSURA2;4YEH2
2HEH WITH JEEM2;4MEEM2;4ALEF MAKSURA2;4YEH2;2YEH WITH JEEM2;4HAH2;4KHAH2;4MEEM2;4ALEF MAKSURA2
4YEH2;2THAL WITH SUPERSCRIPT ALEF2;2REH5;2ALEF MAKSURA5;2SHADDA WITH DAMMATAN2;4KASRATAN2;4FATHA2
4DAMMA2;4KASRA2;4SUPERSCRIPT ALEF2;2YEH WITH HAMZA ABOVE WITH REH FINAL1;7ZAIN2;7MEEM2;7NOON2
7ALEF MAKSURA2;7YEH2;2BEH WITH REH2;4ZAIN2;4MEEM2;4NOON2;4ALEF MAKSURA2;4YEH2;2TEH WITH REH2
4ZAIN2;4MEEM2;4NOON2;4ALEF MAKSURA2;4YEH2;2THEH WITH REH2;4ZAIN2;4MEEM2;4NOON2;4ALEF MAKSURA2
4YEH2;2FEH WITH ALEF MAKSURA2;4YEH2;2QAF WITH ALEF MAKSURA2;4YEH2;2KAF WITH ALEF2;4LAM2;4MEEM2
4ALEF MAKSURA2;4YEH2;2LAM WITH MEEM2;4ALEF MAKSURA2;4YEH2;2MEEM WITH ALEF2;4MEEM2;2NOON WITH REH2
4ZAIN2;4MEEM2;4NOON2;4ALEF MAKSURA2;4YEH2;2ALEF MAKSURA WITH SUPERSCRIPT ALEF2;2YEH WITH REH2
4ZAIN2;4MEEM2;4NOON2;4ALEF MAKSURA2;4YEH2;4HAMZA ABOVE WITH JEEM INITIAL1;7HAH2;7KHAH2;7MEEM2
7HEH2;2BEH WITH JEEM2;4HAH2;4KHAH2;4MEEM2;4HEH2;2TEH WITH JEEM2;4HAH2;4KHAH2;4MEEM2;4HEH2
2THEH WITH MEEM2;2JEEM WITH HAH2;4MEEM2;2HAH WITH JEEM2;4MEEM2;2KHAH WITH JEEM2;4MEEM2
2SEEN WITH JEEM2;4HAH2;4KHAH2;4MEEM2;2SAD WITH HAH2;4KHAH2;4MEEM2;2DAD WITH JEEM2;4HAH2;4KHAH2
4MEEM2;2TAH WITH HAH2;2ZAH WITH MEEM2;2AIN WITH JEEM2;4MEEM2;2GHAIN WITH JEEM2;4MEEM2
2FEH WITH JEEM2;4HAH2;4KHAH2;4MEEM2;2QAF WITH HAH2;4MEEM2;2KAF WITH JEEM2;4HAH2;4KHAH2;4LAM2
4MEEM2;2LAM WITH JEEM2;4HAH2;4KHAH2;4MEEM2;4HEH2;2MEEM WITH JEEM2;4HAH2;4KHAH2;4MEEM2
2NOON WITH JEEM2;4HAH2;4KHAH2;4MEEM2;4HEH2;2HEH WITH JEEM2;4MEEM2;4SUPERSCRIPT ALEF2
2YEH WITH JEEM2;4HAH2;4KHAH2;4MEEM2;4HEH2;4HAMZA ABOVE WITH MEEM MEDIAL1;7HEH2;2BEH WITH MEEM2
4HEH2;2TEH WITH MEEM2;4HEH2;2THEH WITH MEEM2;4HEH2;2SEEN WITH MEEM2;4HEH2;2SHEEN WITH MEEM2;4HEH2
2KAF WITH LAM2;4MEEM2;2LAM4;2NOON4;4HEH2;2YEH WITH MEEM2;4HEH2;2SHADDA WITH FATHA2;4DAMMA2;4KASRA2
2TAH WITH ALEF MAKSURA ISOLATED1;4YEH2;2AIN WITH ALEF MAKSURA2;4YEH2;2GHAIN WITH ALEF MAKSURA2
4YEH2;2SEEN WITH ALEF MAKSURA2;4YEH2;2SHEEN WITH ALEF MAKSURA2;4YEH2;2HAH WITH ALEF MAKSURA2;4YEH2
2JEEM WITH ALEF MAKSURA2;4YEH2;2KHAH WITH ALEF MAKSURA2;4YEH2;2SAD WITH ALEF MAKSURA2;4YEH2
2DAD WITH ALEF MAKSURA2;4YEH2;2SHEEN WITH JEEM2;4HAH2;4KHAH2;4MEEM2;4REH2;2SEEN4;2SAD4;2DAD4
2TAH WITH ALEF MAKSURA FINAL1;4YEH2;2AIN WITH ALEF MAKSURA2;4YEH2;2GHAIN WITH ALEF MAKSURA2;4YEH2
2SEEN WITH ALEF MAKSURA2;4YEH2;2SHEEN WITH ALEF MAKSURA2;4YEH2;2HAH WITH ALEF MAKSURA2;4YEH2
2JEEM WITH ALEF MAKSURA2;4YEH2;2KHAH WITH ALEF MAKSURA2;4YEH2;2SAD WITH ALEF MAKSURA2;4YEH2
2DAD WITH ALEF MAKSURA2;4YEH2;2SHEEN WITH JEEM2;4HAH2;4KHAH2;4MEEM2;4REH2;2SEEN4;2SAD4;2DAD4
2SHEEN WITH JEEM INITIAL1;4HAH2;4KHAH2;4MEEM2;2SEEN WITH HEH2;2SHEEN4;2TAH WITH MEEM2
2SEEN WITH JEEM MEDIAL1;4HAH2;4KHAH2;2SHEEN WITH JEEM2;4HAH2;4KHAH2;2TAH WITH MEEM2;2ZAH4
2ALEF WITH FATHATAN FINAL1;5ISOLATED1;0ORNATE LEFT PARENTHESIS0;1RIGHT1
0ARABIC LIGATURE RAHIMAHU ALLAAH0;2RADI ALLAAHU ANH0;4ANHAA0;4ANHUM0;4ANHUMAA0;4ANHUNNA0
2SALLALLAAHU ALAYHI WA-AALIH0;2ALAYHI AS-SALAAM0;2ALAYHIM1;2ALAYHIMAA1
2ALAYHI AS-SALAATU WAS-SALAAM0;2QUDDISA SIRRAH0;2SALLALLAHU ALAYHI WAAALIHEE WA-SALLAM0
2ALAYHAA AS-SALAAM0;2TABAARAKA WA-TAAALAA0;2RAHIMAHUM ALLAAH0
2TEH WITH JEEM WITH MEEM INITIAL FORM0;4HAH WITH JEEM FINAL1;7INITIAL1;6MEEM2;4KHAH4
4MEEM WITH JEEM2;6HAH2;6KHAH2;2JEEM WITH MEEM WITH HAH FINAL1;7INITIAL1
2HAH WITH MEEM WITH YEH FINAL1;6ALEF MAKSURA2;2SEEN WITH HAH WITH JEEM INITIAL1;4JEEM WITH HAH2
6ALEF MAKSURA FINAL1;4MEEM WITH HAH2;7INITIAL1;6JEEM2;6MEEM FINAL1;7INITIAL1
2SAD WITH HAH WITH HAH FINAL1;7INITIAL1;4MEEM WITH MEEM FINAL1;2SHEEN WITH HAH4;7INITIAL1
4JEEM WITH YEH FINAL1;4MEEM WITH KHAH2;7INITIAL1;6MEEM FINAL1;7INITIAL1
2DAD WITH HAH WITH ALEF MAKSURA FINAL1;4KHAH WITH MEEM2;7INITIAL1;2TAH WITH MEEM WITH HAH FINAL1
7INITIAL1;6MEEM2;6YEH FINAL1;2AIN WITH JEEM WITH MEEM2;4MEEM4;7INITIAL1;6ALEF MAKSURA FINAL1
2GHAIN WITH MEEM WITH MEEM2;6YEH2;6ALEF MAKSURA2;2FEH WITH KHAH WITH MEEM2;7INITIAL1
2QAF WITH MEEM WITH HAH FINAL1;6MEEM2;2LAM WITH HAH4;6YEH2;6ALEF MAKSURA2;4JEEM WITH JEEM INITIAL1
7FINAL1;4KHAH WITH MEEM2;7INITIAL1;4MEEM WITH HAH FINAL1;7INITIAL1;2MEEM WITH HAH WITH JEEM2
6MEEM2;6YEH FINAL1;4JEEM WITH HAH INITIAL1;6MEEM2;4KHAH WITH JEEM2;6MEEM2
fd92:0ARABIC LIGATURE MEEM WITH JEEM WITH KHAH INITIAL FORM0;2HEH WITH MEEM WITH JEEM2;6MEEM2
2NOON WITH HAH4;6ALEF MAKSURA FINAL1;4JEEM WITH MEEM2;7INITIAL1;6ALEF MAKSURA FINAL1
4MEEM WITH YEH2;6ALEF MAKSURA2;2YEH WITH MEEM WITH MEEM2;7INITIAL1;2BEH WITH KHAH WITH YEH FINAL1
2TEH WITH JEEM4;6ALEF MAKSURA2;4KHAH WITH YEH2;6ALEF MAKSURA2;4MEEM WITH YEH2;6ALEF MAKSURA2
2JEEM WITH MEEM WITH YEH2;4HAH WITH ALEF MAKSURA2;4MEEM5;2SEEN WITH KHAH5;2SAD WITH HAH WITH YEH2
2SHEEN6;2DAD6;2LAM WITH JEEM4;4MEEM4;2YEH WITH HAH4;4JEEM4;4MEEM4;2MEEM6;2QAF6;2NOON WITH HAH4
2QAF WITH MEEM WITH HAH INITIAL1;2LAM WITH HAH WITH MEEM2;2AIN WITH MEEM WITH YEH FINAL1;2KAF6
2NOON WITH JEEM WITH HAH INITIAL1;2MEEM WITH KHAH WITH YEH FINAL1
2LAM WITH JEEM WITH MEEM INITIAL1;2KAF WITH MEEM WITH MEEM FINAL1;2LAM WITH JEEM4
2NOON WITH JEEM WITH HAH2;2JEEM WITH HAH WITH YEH2;2HAH WITH JEEM4;2MEEM6;2FEH WITH MEEM4
2BEH WITH HAH4;2KAF WITH MEEM WITH MEEM INITIAL1;2AIN WITH JEEM4;2SAD WITH MEEM4
2SEEN WITH KHAH WITH YEH FINAL1;2NOON WITH JEEM4;fdcf:0ARABIC LIGATURE SALAAMUHU ALAYNAA0
fdf0:0ARABIC LIGATURE SALLA USED AS KORANIC STOP SIGN ISOLATED FORM0;2QALA7;2ALLAH2;2AKBAR2
2MOHAMMAD2;2SALAM2;2RASOUL2;2ALAYHE2;2WASALLAM2;2SALLA2;2SALLALLAHOU ALAYHE WASALLAM0
2JALLAJALALOUHOU0;0RIAL SIGN0;0ARABIC LIGATURE BISMILLAH AR-RAHMAN AR-RAHEEM0
2SUBHAANAHU WA TAAALAA0;2AZZA WA JALL0;0VARIATION SELECTOR-10;1SELECTOR-20;1SELECTOR-30
1SELECTOR-40;1SELECTOR-50;1SELECTOR-60;1SELECTOR-70;1SELECTOR-80;1SELECTOR-90;1SELECTOR-100
1SELECTOR-110;1SELECTOR-120;1SELECTOR-130;1SELECTOR-140;1SELECTOR-150;1SELECTOR-160
0PRESENTATION FORM FOR VERTICAL COMMA0;4IDEOGRAPHIC1;5FULL STOP0;4COLON0;4SEMICOLON0
4EXCLAMATION MARK0;4QUESTION1;4LEFT WHITE LENTICULAR BRACKET0;4RIGHT WHITE LENTICULAR BRAKCET0
4HORIZONTAL ELLIPSIS0;fe20:0COMBINING LIGATURE LEFT HALF0;2RIGHT1;1DOUBLE TILDE LEFT1;3RIGHT1
1MACRON LEFT1;2RIGHT1;1CONJOINING MACRON0;1LIGATURE LEFT HALF BELOW0;2RIGHT2;1TILDE LEFT2;2RIGHT2
1MACRON LEFT2;2RIGHT2;1CONJOINING MACRON1;1CYRILLIC TITLO LEFT HALF0;3RIGHT1
0PRESENTATION FORM FOR VERTICAL TWO DOT LEADER0;4EM DASH0;4EN1;4LOW LINE0;4WAVY2
4LEFT PARENTHESIS0;4RIGHT1;4LEFT CURLY BRACKET0;4RIGHT2;4LEFT TORTOISE SHELL1;4RIGHT3
4LEFT BLACK LENTICULAR1;4RIGHT3;4LEFT DOUBLE ANGLE1;4RIGHT3;4LEFT2;4RIGHT2;4LEFT CORNER1;4RIGHT2
4LEFT WHITE2;4RIGHT3;0SESAME DOT0;0WHITE2;0PRESENTATION FORM FOR VERTICAL LEFT SQUARE BRACKET0
4RIGHT2;0DASHED OVERLINE0;0CENTRELINE1;0WAVY1;0DOUBLE2;0DASHED LOW LINE0;0CENTRELINE2;0WAVY2
0SMALL COMMA0;1IDEOGRAPHIC1;1FULL STOP0;fe54:0SMALL SEMICOLON0;1COLON0;1QUESTION MARK0
1EXCLAMATION1;1EM DASH0;1LEFT PARENTHESIS0;1RIGHT1;1LEFT CURLY BRACKET0;1RIGHT2
1LEFT TORTOISE SHELL1;1RIGHT3;1NUMBER SIGN0;1AMPERSAND0;1ASTERISK0;1PLUS SIGN0;1HYPHEN-MINUS0
1LESS-THAN SIGN0;1GREATER-THAN1;1EQUALS1;fe68:0SMALL REVERSE SOLIDUS0;1DOLLAR SIGN0;1PERCENT1
1COMMERCIAL AT0;fe70:0ARABIC FATHATAN ISOLATED FORM0;1TATWEEL WITH FATHATAN ABOVE0
1DAMMATAN ISOLATED FORM0;1TAIL FRAGMENT0;1KASRATAN ISOLATED FORM0
fe76:0ARABIC FATHA ISOLATED FORM0;2MEDIAL1;1DAMMA ISOLATED1;2MEDIAL1;1KASRA ISOLATED1;2MEDIAL1
1SHADDA ISOLATED1;2MEDIAL1;1SUKUN ISOLATED1;2MEDIAL1;1LETTER HAMZA ISOLATED1
2ALEF WITH MADDA ABOVE2;6FINAL1;4HAMZA ABOVE ISOLATED1;6FINAL1;2WAW WITH HAMZA ABOVE ISOLATED1
6FINAL1;2ALEF WITH HAMZA BELOW ISOLATED1;6FINAL1;2YEH WITH HAMZA ABOVE ISOLATED1;6FINAL1;6INITIAL1
6MEDIAL1;2ALEF ISOLATED1;3FINAL1;2BEH ISOLATED1;3FINAL1;3INITIAL1;3MEDIAL1;2TEH MARBUTA ISOLATED1
4FINAL1;3ISOLATED1;3FINAL1;3INITIAL1;3MEDIAL1;2THEH ISOLATED1;3FINAL1;3INITIAL1;3MEDIAL1
2JEEM ISOLATED1;3FINAL1;3INITIAL1;3MEDIAL1;2HAH ISOLATED1;3FINAL1;3INITIAL1;3MEDIAL1
2KHAH ISOLATED1;3FINAL1;3INITIAL1;3MEDIAL1;2DAL ISOLATED1;3FINAL1;2THAL ISOLATED1;3FINAL1
2REH ISOLATED1;3FINAL1;2ZAIN ISOLATED1;3FINAL1;2SEEN ISOLATED1;3FINAL1;3INITIAL1;3MEDIAL1
2SHEEN ISOLATED1;3FINAL1;3INITIAL1;3MEDIAL1;2SAD ISOLATED1;3FINAL1;3INITIAL1;3MEDIAL1
2DAD ISOLATED1;3FINAL1;3INITIAL1;3MEDIAL1;2TAH ISOLATED1;3FINAL1;3INITIAL1;3MEDIAL1;2ZAH ISOLATED1
3FINAL1;3INITIAL1;3MEDIAL1;2AIN ISOLATED1;3FINAL1;3INITIAL1;3MEDIAL1;2GHAIN ISOLATED1;3FINAL1
3INITIAL1;3MEDIAL1;2FEH ISOLATED1;3FINAL1;3INITIAL1;3MEDIAL1;2QAF ISOLATED1;3FINAL1;3INITIAL1
3MEDIAL1;2KAF ISOLATED1;3FINAL1;3INITIAL1;3MEDIAL1;2LAM ISOLATED1;3FINAL1;3INITIAL1;3MEDIAL1
2MEEM ISOLATED1;3FINAL1;3INITIAL1;3MEDIAL1;2NOON ISOLATED1;3FINAL1;3INITIAL1;3MEDIAL1
2HEH ISOLATED1;3FINAL1;3INITIAL1;3MEDIAL1;2WAW ISOLATED1;3FINAL1;2ALEF MAKSURA ISOLATED1;4FINAL1
2YEH ISOLATED1;3FINAL1;3INITIAL1;3MEDIAL1;1LIGATURE LAM WITH ALEF WITH MADDA ABOVE ISOLATED1
8FINAL1;6HAMZA ABOVE ISOLATED1;8FINAL1;7BELOW ISOLATED1;8FINAL1;5ISOLATED1;5FINAL1
feff:0ZERO WIDTH NO-BREAK SPACE0;ff01:0FULLWIDTH EXCLAMATION MARK0;1QUOTATION1;1NUMBER SIGN0
1DOLLAR1;1PERCENT1;1AMPERSAND0;1APOSTROPHE0;1LEFT PARENTHESIS0;1RIGHT1;1ASTERISK0;1PLUS SIGN0
1COMMA0;1HYPHEN-MINUS0;1FULL STOP0;1SOLIDUS0;1DIGIT ZERO0;2ONE0;2TWO0;2THREE0;2FOUR0;2FIVE0;2SIX0
2SEVEN0;2EIGHT0;2NINE0;1COLON0;1SEMICOLON0;1LESS-THAN SIGN0;1EQUALS1;1GREATER-THAN1
1QUESTION MARK0;1COMMERCIAL AT0;1LATIN CAPITAL LETTER A0;4B0;4C0;4D0;4E0;4F0;4G0;4H0;4I0;4J0;4K0
4L0;4M0;4N0;4O0;4P0;4Q0;4R0;4S0;4T0;4U0;4V0;4W0;4X0;4Y0;4Z0;1LEFT SQUARE BRACKET0
1REVERSE SOLIDUS0;1RIGHT SQUARE BRACKET0;1CIRCUMFLEX ACCENT0;1LOW LINE0;1GRAVE ACCENT0
1LATIN SMALL LETTER A0;4B0;4C0;4D0;4E0;4F0;4G0;4H0;4I0;4J0;4K0;4L0;4M0;4N0;4O0;4P0;4Q0;4R0;4S0;4T0
4U0;4V0;4W0;4X0;4Y0;4Z0;1LEFT CURLY BRACKET0;1VERTICAL LINE0;1RIGHT CURLY BRACKET0;1TILDE0
1LEFT WHITE PARENTHESIS0;1RIGHT2;0HALFWIDTH IDEOGRAPHIC FULL STOP0;1LEFT CORNER BRACKET0;1RIGHT2
1IDEOGRAPHIC COMMA0;1KATAKANA MIDDLE DOT0;2LETTER WO0;3SMALL A0;4I0;4U0;4E0;4O0;4YA0;4YU0;4YO0
4TU0;1KATAKANA-HIRAGANA PROLONGED SOUND MARK0;1KATAKANA LETTER A0;3I0;3U0;3E0;3O0;3KA0;3KI0;3KU0
3KE0;3KO0;3SA0;3SI0;3SU0;3SE0;3SO0;3TA0;3TI0;3TU0;3TE0;3TO0;3NA0;3NI0;3NU0;3NE0;3NO0;3HA0;3HI0
3HU0;3HE0;3HO0;3MA0;3MI0;3MU0;3ME0;3MO0;3YA0;3YU0;3YO0;3RA0;3RI0;3RU0;3RE0;3RO0;3WA0;3N0
2VOICED SOUND MARK0;2SEMI-VOICED2;1HANGUL FILLER0;2LETTER KIYEOK0;3SSANGKIYEOK0;3KIYEOK-SIOS0
3NIEUN0;3NIEUN-CIEUC0;3NIEUN-HIEUH0;3TIKEUT0;3SSANGTIKEUT0;3RIEUL0;3RIEUL-KIYEOK0;3RIEUL-MIEUM0
3RIEUL-PIEUP0;3RIEUL-SIOS0;3RIEUL-THIEUTH0;3RIEUL-PHIEUPH0;3RIEUL-HIEUH0;3MIEUM0;3PIEUP0
3SSANGPIEUP0;3PIEUP-SIOS0;3SIOS0;3SSANGSIOS0;3IEUNG0;3CIEUC0;3SSANGCIEUC0;3CHIEUCH0;3KHIEUKH0
3THIEUTH0;3PHIEUPH0;3HIEUH0;ffc2:0HALFWIDTH HANGUL LETTER A0;3AE0;3YA0;3YAE0;3EO0;3E0
ffca:0HALFWIDTH HANGUL LETTER YEO0;3YE0;3O0;3WA0;3WAE0;3OE0;ffd2:0HALFWIDTH HANGUL LETTER YO0;3U0
3WEO0;3WE0;3WI0;3YU0;ffda:0HALFWIDTH HANGUL LETTER EU0;3YI0;3I0;ffe0:0FULLWIDTH CENT SIGN0;1POUND1
1NOT1;1MACRON0;1BROKEN BAR0;1YEN SIGN0;1WON1;ffe8:0HALFWIDTH FORMS LIGHT VERTICAL0
1LEFTWARDS ARROW0;1UPWARDS1;1RIGHTWARDS1;1DOWNWARDS1;1BLACK SQUARE0;1WHITE CIRCLE0
fff9:0INTERLINEAR ANNOTATION ANCHOR0;2SEPARATOR0;2TERMINATOR0;0OBJECT REPLACEMENT CHARACTER0;02"

/-- Scripts of antiquity and of small communities. -/
def ancientScriptNames : String := "
10000:0LINEAR B SYLLABLE B008 A0;3B038 E0;3B028 I0;3B061 O0;3B010 U0;3B001 DA0;3B045 DE0;3B007 DI0
3B014 DO0;3B051 DU0;3B057 JA0;3B046 JE0;1000d:0LINEAR B SYLLABLE B036 JO0;3B065 JU0;3B077 KA0
3B044 KE0;3B067 KI0;3B070 KO0;3B081 KU0;3B080 MA0;3B013 ME0;3B073 MI0;3B015 MO0;3B023 MU0
3B006 NA0;3B024 NE0;3B030 NI0;3B052 NO0;3B055 NU0;3B003 PA0;3B072 PE0;3B039 PI0;3B011 PO0
3B050 PU0;3B016 QA0;3B078 QE0;3B021 QI0;3B032 QO0;10028:0LINEAR B SYLLABLE B060 RA0;3B027 RE0
3B053 RI0;3B002 RO0;3B026 RU0;3B031 SA0;3B009 SE0;3B041 SI0;3B012 SO0;3B058 SU0;3B059 TA0
3B004 TE0;3B037 TI0;3B005 TO0;3B069 TU0;3B054 WA0;3B075 WE0;3B040 WI0;3B042 WO0
1003c:0LINEAR B SYLLABLE B017 ZA0;3B074 ZE0;1003f:0LINEAR B SYLLABLE B020 ZO0;3B025 A20;3B043 A30
3B085 AU0;3B071 DWE0;3B090 DWO0;3B048 NWA0;3B029 PU20;3B062 PTE0;3B076 RA20;3B033 RA30;3B068 RO20
3B066 TA20;3B087 TWE0;3B091 TWO0;10050:0LINEAR B SYMBOL B0180;3B0190;3B0220;3B0340;3B0470;3B0490
3B0560;3B0630;3B0640;3B0790;3B0820;3B0830;3B0860;3B0890;10080:0LINEAR B IDEOGRAM B100 MAN0
3B102 WOMAN0;3B104 DEER0;3B105 EQUID0;3B105F MARE0;3B105M STALLION0;3B106F EWE0;3B106M RAM0
3B107F SHE-GOAT0;3B107M HE-GOAT0;3B108F SOW0;3B108M BOAR0;3B109F COW0;3B109M BULL0;3B120 WHEAT0
3B121 BARLEY0;3B122 OLIVE0;3B123 SPICE0;3B125 CYPERUS0;2MONOGRAM B127 KAPO0;3B128 KANAKO0
2IDEOGRAM B130 OIL0;3B131 WINE0;3B1320;2MONOGRAM B133 AREPA0;3B135 MERI0;2IDEOGRAM B140 BRONZE0
3B141 GOLD0;3B1420;3B145 WOOL0;3B1460;3B1500;3B151 HORN0;3B1520;3B1530;3B1540
2MONOGRAM B156 TURO20;2IDEOGRAM B1570;3B1580;3B159 CLOTH0;3B1600;3B1610;3B162 GARMENT0
3B163 ARMOUR0;3B1640;3B1650;3B1660;3B1670;3B1680;3B1690;3B1700;3B1710;3B1720;3B173 MONTH0;3B1740
3B176 TREE0;3B1770;3B1780;3B1790;3B1800;3B1810;3B1820;3B1830;3B1840;3B1850;3B1890;3B1900
3B191 HELMET0;3B220 FOOTSTOOL0;3B225 BATHTUB0;3B230 SPEAR0;3B231 ARROW0;3B2320;3B233 SWORD0;3B2340
3B2360;3B240 WHEELED CHARIOT0;3B2411;3B242 CHARIOT FRAME0;3B243 WHEEL0;3B2450;3B2460
2MONOGRAM B247 DIPTE0;2IDEOGRAM B2480;3B2490;3B2510;3B2520;3B2530;3B254 DART0;3B2550;3B2560;3B2570
3B2580;3B2590;3VESSEL B1550;4B2000;4B2010;4B2020;4B2030;4B2040;4B2050;4B2060;4B2070;4B2080;4B2090
4B2100;4B2110;4B2120;4B2130;4B2140;4B2150;4B2160;4B2170;4B2180;4B2190;4B2210;4B2220;4B2260;4B2270
4B2280;4B2290;4B2500;4B3050;10100:0AEGEAN WORD SEPARATOR LINE0;3DOT0;1CHECK MARK0
10107:0AEGEAN NUMBER ONE0;2TWO0;2THREE0;2FOUR0;2FIVE0;2SIX0;2SEVEN0;2EIGHT0;2NINE0;2TEN0;2TWENTY0
2THIRTY0;2FORTY0;2FIFTY0;2SIXTY0;2SEVENTY0;2EIGHTY0;2NINETY0;2ONE HUNDRED0;2TWO1;2THREE1;2FOUR1
2FIVE1;2SIX1;2SEVEN1;2EIGHT1;2NINE1;2ONE THOUSAND0;2TWO1;2THREE1;2FOUR1;2FIVE1;2SIX1;2SEVEN1
2EIGHT1;2NINE1;2TEN1;2TWENTY1;2THIRTY1;2FORTY1;2FIFTY1;2SIXTY1;2SEVENTY1;2EIGHTY1;2NINETY1
10137:0AEGEAN WEIGHT BASE UNIT0;2FIRST SUBUNIT0;2SECOND1;2THIRD1;2FOURTH1;1DRY MEASURE FIRST1
1LIQUID3;1MEASURE SECOND1;2THIRD1;0GREEK ACROPHONIC ATTIC ONE QUARTER0;4HALF0;4DRACHMA0;3FIVE0
3FIFTY0;3FIVE HUNDRED0;4THOUSAND0;3FIFTY1;3FIVE TALENTS0;3TEN1;3FIFTY1;3ONE HUNDRED1;3FIVE2
3ONE THOUSAND1;3FIVE2;4STATERS0;3TEN1;3FIFTY1;3ONE HUNDRED1;3FIVE2;3ONE THOUSAND1;3TEN2;3FIFTY2
3TEN MNAS0;2HERAEUM ONE PLETHRON0;2THESPIAN ONE0;2HERMIONIAN1;2EPIDAUREAN TWO0;2THESPIAN1
2CYRENAIC TWO DRACHMAS0;2EPIDAUREAN2;2TROEZENIAN FIVE0;3TEN0;4ALTERNATE FORM0;2HERMIONIAN TEN0
2MESSENIAN1;2THESPIAN1;3THIRTY0;2TROEZENIAN FIFTY0;4ALTERNATE FORM0;2HERMIONIAN FIFTY0;2THESPIAN1
3ONE HUNDRED0;3THREE1;2EPIDAUREAN FIVE1;2TROEZENIAN2;2THESPIAN2;2CARYSTIAN2;2NAXIAN2
2THESPIAN ONE THOUSAND0;3FIVE1;2DELPHIC FIVE MNAS0;2STRATIAN FIFTY1;1ONE HALF SIGN0
4ALTERNATE FORM0;1TWO THIRDS SIGN0;1THREE QUARTERS1;1YEAR1;1TALENT1;1DRACHMA1;1OBOL1;1TWO OBOLS1
1THREE2;1FOUR2;1FIVE2;1METRETES1;1KYATHOS BASE1;1LITRA1;1OUNKIA1;1XESTES1;1ARTABE1;1AROURA1
1GRAMMA1;1TRYBLION BASE1;1ZERO1;1ONE QUARTER1;1SINUSOID1;1INDICTION1;0NOMISMA1
10190:0ROMAN SEXTANS SIGN0;1UNCIA1;1SEMUNCIA1;1SEXTULA1;1DIMIDIA2;1SILIQUA1;1DENARIUS1;1QUINARIUS1
1SESTERTIUS1;1DUPONDIUS1;1AS1;1CENTURIAL1;0ASCIA SYMBOL0;101a0:0GREEK SYMBOL TAU RHO0
101d0:0PHAISTOS DISC SIGN PEDESTRIAN0;3PLUMED HEAD0;3TATTOOED1;3CAPTIVE0;3CHILD0;3WOMAN0;3HELMET0
3GAUNTLET0;3TIARA0;3ARROW0;3BOW0;3SHIELD0;3CLUB0;3MANACLES0;3MATTOCK0;3SAW0;3LID0;3BOOMERANG0
3CARPENTRY PLANE0;3DOLIUM0;3COMB0;3SLING0;3COLUMN0;3BEEHIVE0;3SHIP0;3HORN0;3HIDE0;3BULLS LEG0
3CAT0;3RAM0;3EAGLE0;3DOVE0;3TUNNY0;3BEE0;3PLANE TREE0;3VINE0;3PAPYRUS0;3ROSETTE0;3LILY0;3OX BACK0
3FLUTE0;3GRATER0;3STRAINER0;3SMALL AXE0;3WAVY BAND0;3COMBINING OBLIQUE STROKE0
10280:0LYCIAN LETTER A0;2E0;2B0;2BH0;2G0;2D0;2I0;2W0;2Z0;2TH0;2J0;2K0;2Q0;2L0;2M0;2N0;2MM0;2NN0
2U0;2P0;2KK0;2R0;2S0;2T0;2TT0;2AN0;2EN0;2H0;2X0;102a0:0CARIAN LETTER A0;2P20;2D0;2L0;2UUU0;2R0
2LD0;2A20;2Q0;2B0;2M0;2O0;2D20;2T0;2SH0;2SH20;2S0;2C-180;2U0;2NN0;2X0;2N0;2TT20;2P0;2SS0;2I0;2E0
2UUUU0;2K0;2K20;2ND0;2UU0;2G0;2G20;2ST0;2ST20;2NG0;2II0;2C-390;2TT0;2UUU20;2RR0;2MB0;2MB20;2MB30
2MB40;2LD20;2E20;2UUU30;102e0:0COPTIC EPACT THOUSANDS MARK0;2DIGIT ONE0;3TWO0;3THREE0;3FOUR0
3FIVE0;3SIX0;3SEVEN0;3EIGHT0;3NINE0;2NUMBER TEN0;3TWENTY0;3THIRTY0;3FORTY0;3FIFTY0;3SIXTY0
3SEVENTY0;3EIGHTY0;3NINETY0;3ONE HUNDRED0;3TWO1;3THREE1;3FOUR1;3FIVE1;3SIX1;3SEVEN1;3EIGHT1;3NINE1
10300:0OLD ITALIC LETTER A0;3BE0;3KE0;3DE0;3E0;3VE0;3ZE0;3HE0;3THE0;3I0;3KA0;3EL0;3EM0;3EN0;3ESH0
3O0;3PE0;3SHE0;3KU0;3ER0;3ES0;3TE0;3U0;3EKS0;3PHE0;3KHE0;3EF0;3ERS0;3CHE0;3II0;3UU0;3ESS0
2NUMERAL ONE0;3FIVE0;3TEN0;3FIFTY0;1032d:0OLD ITALIC LETTER YE0;3NORTHERN TSE0;3SOUTHERN1
0GOTHIC LETTER AHSA0;2BAIRKAN0;2GIBA0;2DAGS0;2AIHVUS0;2QAIRTHRA0;2IUJA0;2HAGL0;2THIUTH0;2EIS0
2KUSMA0;2LAGUS0;2MANNA0;2NAUTHS0;2JER0;2URUS0;2PAIRTHRA0;2NINETY0;2RAIDA0;2SAUIL0;2TEIWS0;2WINJA0
2FAIHU0;2IGGWS0;2HWAIR0;2OTHAL0;2NINE HUNDRED0;10350:0OLD PERMIC LETTER AN0;3BUR0;3GAI0;3DOI0;3E0
3ZHOI0;3DZHOI0;3ZATA0;3DZITA0;3I0;3KOKE0;3LEI0;3MENOE0;3NENOE0;3VOOI0;3PEEI0;3REI0;3SII0;3TAI0;3U0
3CHERY0;3SHOOI0;3SHCHOOI0;3YRY0;3YERU0;3O0;3OO0;3EF0;3HA0;3TSIU0;3VER0;3YER0;3YERI0;3YAT0;3IE0
3YU0;3YA0;3IA0;0COMBINING OLD PERMIC LETTER AN0;4DOI0;4ZATA0;4NENOE0;4SII0
10380:0UGARITIC LETTER ALPA0;2BETA0;2GAMLA0;2KHA0;2DELTA0;2HO0;2WO0;2ZETA0;2HOTA0;2TET0;2YOD0
2KAF0;2SHIN0;2LAMDA0;2MEM0;2DHAL0;2NUN0;2ZU0;2SAMKA0;2AIN0;2PU0;2SADE0;2QOPA0;2RASHA0;2THANNA0
2GHAIN0;2TO0;2I0;2U0;2SSU0;1039f:0UGARITIC WORD DIVIDER0;0OLD PERSIAN SIGN A0;3I0;3U0;3KA0;3KU0
3GA0;3GU0;3XA0;3CA0;3JA0;3JI0;3TA0;3TU0;3DA0;3DI0;3DU0;3THA0;3PA0;3BA0;3FA0;3NA0;3NU0;3MA0;3MI0
3MU0;3YA0;3VA0;3VI0;3RA0;3RU0;3LA0;3SA0;3ZA0;3SHA0;3SSA0;3HA0;103c8:0OLD PERSIAN SIGN AURAMAZDAA0
3AURAMAZDAA-20;3AURAMAZDAAHA0;3XSHAAYATHIYA0;3DAHYAAUSH0;3DAHYAAUSH-20;3BAGA0;3BUUMISH0
2WORD DIVIDER0;2NUMBER ONE0;3TWO0;3TEN0;3TWENTY0;3HUNDRED0;10400:0DESERET CAPITAL LETTER LONG I0
4E0;4A0;4AH0;4O0;4OO0;3SHORT I0;4E0;4A0;4AH0;4O0;4OO0;3AY0;3OW0;3WU0;3YEE0;3H0;3PEE0;3BEE0;3TEE0
3DEE0;3CHEE0;3JEE0;3KAY0;3GAY0;3EF0;3VEE0;3ETH0;3THEE0;3ES0;3ZEE0;3ESH0;3ZHEE0;3ER0;3EL0;3EM0;3EN0
3ENG0;3OI0;3EW0;1SMALL LETTER LONG I0;4E0;4A0;4AH0;4O0;4OO0;3SHORT I0;4E0;4A0;4AH0;4O0;4OO0;3AY0
3OW0;3WU0;3YEE0;3H0;3PEE0;3BEE0;3TEE0;3DEE0;3CHEE0;3JEE0;3KAY0;3GAY0;3EF0;3VEE0;3ETH0;3THEE0;3ES0
3ZEE0;3ESH0;3ZHEE0;3ER0;3EL0;3EM0;3EN0;3ENG0;3OI0;3EW0;0SHAVIAN LETTER PEEP0;2TOT0;2KICK0;2FEE0
2THIGH0;2SO0;2SURE0;2CHURCH0;2YEA0;2HUNG0;2BIB0;2DEAD0;2GAG0;2VOW0;2THEY0;2ZOO0;2MEASURE0;2JUDGE0
2WOE0;2HA-HA0;2LOLL0;2MIME0;2IF0;2EGG0;2ASH0;2ADO0;2ON0;2WOOL0;2OUT0;2AH0;2ROAR0;2NUN0;2EAT0;2AGE0
2ICE0;2UP0;2OAK0;2OOZE0;2OIL0;2AWE0;2ARE0;2OR0;2AIR0;2ERR0;2ARRAY0;2EAR0;2IAN0;2YEW0
0OSMANYA LETTER ALEF0;2BA0;2TA0;2JA0;2XA0;2KHA0;2DEEL0;2RA0;2SA0;2SHIIN0;2DHA0;2CAYN0;2GA0;2FA0
2QAAF0;2KAAF0;2LAAN0;2MIIN0;2NUUN0;2WAW0;2HA0;2YA0;2A0;2E0;2I0;2O0;2U0;2AA0;2EE0;2OO0
104a0:0OSMANYA DIGIT ZERO0;2ONE0;2TWO0;2THREE0;2FOUR0;2FIVE0;2SIX0;2SEVEN0;2EIGHT0;2NINE0
104b0:0OSAGE CAPITAL LETTER A0;3AI0;3AIN0;3AH0;3BRA0;3CHA0;3EHCHA0;3E0;3EIN0;3HA0;3HYA0;3I0;3KA0
3EHKA0;3KYA0;3LA0;3MA0;3NA0;3O0;3OIN0;3PA0;3EHPA0;3SA0;3SHA0;3TA0;3EHTA0;3TSA0;3EHTSA0;3TSHA0
3DHA0;3U0;3WA0;3KHA0;3GHA0;3ZA0;3ZHA0;104d8:0OSAGE SMALL LETTER A0;3AI0;3AIN0;3AH0;3BRA0;3CHA0
3EHCHA0;3E0;3EIN0;3HA0;3HYA0;3I0;3KA0;3EHKA0;3KYA0;3LA0;3MA0;3NA0;3O0;3OIN0;3PA0;3EHPA0;3SA0;3SHA0
3TA0;3EHTA0;3TSA0;3EHTSA0;3TSHA0;3DHA0;3U0;3WA0;3KHA0;3GHA0;3ZA0;3ZHA0;10500:0ELBASAN LETTER A0
2BE0;2CE0;2CHE0;2DE0;2NDE0;2DHE0;2EI0;2E0;2FE0;2GE0;2GJE0;2HE0;2I0;2JE0;2KE0;2LE0;2LLE0;2ME0;2NE0
2NA0;2NJE0;2O0;2PE0;2QE0;2RE0;2RRE0;2SE0;2SHE0;2TE0;2THE0;2U0;2VE0;2XE0;2Y0;2ZE0;2ZHE0;2GHE0
2GHAMMA0;2KHE0;10530:0CAUCASIAN ALBANIAN LETTER ALT0;3BET0;3GIM0;3DAT0;3EB0;3ZARL0;3EYN0;3ZHIL0
3TAS0;3CHA0;3YOWD0;3ZHA0;3IRB0;3SHA0;3LAN0;3INYA0;3XEYN0;3DYAN0;3CAR0;3JHOX0;3KAR0;3LYIT0;3HEYT0
3QAY0;3AOR0;3CHOY0;3CHI0;3CYAY0;3MAQ0;3QAR0;3NOWC0;3DZYAY0;3SHAK0;3JAYN0;3ON0;3TYAY0;3FAM0;3DZAY0
3CHAT0;3PEN0;3GHEYS0;3RAT0;3SEYK0;3VEYZ0;3TIWR0;3SHOY0;3IWN0;3CYAW0;3CAYN0;3YAYD0;3PIWR0;3KIW0
1056f:0CAUCASIAN ALBANIAN CITATION MARK0;0VITHKUQI CAPITAL LETTER A0;3BBE0;3BE0;3CE0;3CHE0;3DE0
3DHE0;3EI0;3E0;3FE0;3GA0;1057c:0VITHKUQI CAPITAL LETTER HA0;3HHA0;3I0;3IJE0;3JE0;3KA0;3LA0;3LLA0
3ME0;3NE0;3NJE0;3O0;3PE0;3QA0;3RE0;1058c:0VITHKUQI CAPITAL LETTER SE0;3SHE0;3TE0;3THE0;3U0;3VE0
3XE0;10594:0VITHKUQI CAPITAL LETTER Y0;3ZE0;10597:0VITHKUQI SMALL LETTER A0;3BBE0;3BE0;3CE0;3CHE0
3DE0;3DHE0;3EI0;3E0;3FE0;3GA0;105a3:0VITHKUQI SMALL LETTER HA0;3HHA0;3I0;3IJE0;3JE0;3KA0;3LA0
3LLA0;3ME0;3NE0;3NJE0;3O0;3PE0;3QA0;3RE0;105b3:0VITHKUQI SMALL LETTER SE0;3SHE0;3TE0;3THE0;3U0
3VE0;3XE0;105bb:0VITHKUQI SMALL LETTER Y0;3ZE0;10600:0LINEAR A SIGN AB0010;3AB0020;3AB0030;3AB0040
3AB0050;3AB0060;3AB0070;3AB0080;3AB0090;3AB0100;3AB0110;3AB0130;3AB0160;3AB0170;3AB0200;3AB0210
3AB021F0;3AB021M0;3AB0220;3AB022F0;3AB022M0;3AB0230;3AB023M0;3AB0240;3AB0260;3AB0270;3AB0280
3A028B0;3AB0290;3AB0300;3AB0310;3AB0340;3AB0370;3AB0380;3AB0390;3AB0400;3AB0410;3AB0440;3AB0450
3AB0460;3AB0470;3AB0480;3AB0490;3AB0500;3AB0510;3AB0530;3AB0540;3AB0550;3AB0560;3AB0570;3AB0580
3AB0590;3AB0600;3AB0610;3AB0650;3AB0660;3AB0670;3AB0690;3AB0700;3AB0730;3AB0740;3AB0760;3AB0770
3AB0780;3AB0790;3AB0800;3AB0810;3AB0820;3AB0850;3AB0860;3AB0870;3A100-1020;3AB1180;3AB1200;3A120B0
3AB1220;3AB1230;3AB131A0;3AB131B0;3A131C0;3AB1640;3AB1710;3AB1800;3AB1880;3AB1910;3A3010;3A3020
3A3030;3A3040;3A3050;3A3060;3A3070;3A3080;3A309A0;3A309B0;3A309C0;3A3100;3A3110;3A3120;3A313A0
3A313B0;3A313C0;3A3140;3A3150;3A3160;3A3170;3A3180;3A3190;3A3200;3A3210;3A3220;3A3230;3A3240
3A3250;3A3260;3A3270;3A3280;3A3290;3A3300;3A3310;3A3320;3A3330;3A3340;3A3350;3A3360;3A3370;3A3380
3A3390;3A3400;3A3410;3A3420;3A3430;3A3440;3A3450;3A3460;3A3470;3A3480;3A3490;3A3500;3A3510;3A3520
3A3530;3A3540;3A3550;3A3560;3A3570;3A3580;3A3590;3A3600;3A3610;3A3620;3A3630;3A3640;3A3650;3A3660
3A3670;3A3680;3A3690;3A3700;3A3710;3A400-VAS0;3A401-VAS0;3A402-VAS0;3A403-VAS0;3A404-VAS0
3A405-VAS0;3A406-VAS0;3A407-VAS0;3A408-VAS0;3A409-VAS0;3A410-VAS0;3A411-VAS0;3A412-VAS0;3A413-VAS0
3A414-VAS0;3A415-VAS0;3A416-VAS0;3A417-VAS0;3A418-VAS0;3A5010;3A5020;3A5030;3A5040;3A5050;3A5060
3A5080;3A5090;3A5100;3A5110;3A5120;3A5130;3A5150;3A5160;3A5200;3A5210;3A5230;3A5240;3A5250;3A5260
3A5270;3A5280;3A5290;3A5300;3A5310;3A5320;3A5340;3A5350;3A5360;3A5370;3A5380;3A5390;3A5400;3A5410
3A5420;3A5450;3A5470;3A5480;3A5490;3A5500;3A5510;3A5520;3A5530;3A5540;3A5550;3A5560;3A5570;3A5590
3A5630;3A5640;3A5650;3A5660;3A5680;3A5690;3A5700;3A5710;3A5720;3A5730;3A5740;3A5750;3A5760;3A5770
3A5780;3A5790;3A5800;3A5810;3A5820;3A5830;3A5840;3A5850;3A5860;3A5870;3A5880;3A5890;3A5910;3A5920
3A5940;3A5950;3A5960;3A5980;3A6000;3A6010;3A6020;3A6030;3A6040;3A6060;3A6080;3A6090;3A6100;3A6110
3A6120;3A6130;3A6140;3A6150;3A6160;3A6170;3A6180;3A6190;3A6200;3A6210;3A6220;3A6230;3A6240;3A6260
3A6270;3A6280;3A6290;3A6340;3A6370;3A6380;3A6400;3A6420;3A6430;3A6440;3A6450;3A6460;3A6480;3A6490
3A6510;3A6520;3A6530;3A6540;3A6550;3A6560;3A6570;3A6580;3A6590;3A6600;3A6610;3A6620;3A6630;3A6640
10740:0LINEAR A SIGN A701 A0;3A702 B0;3A703 D0;3A704 E0;3A705 F0;3A706 H0;3A707 J0;3A708 K0
3A709 L0;3A709-2 L20;3A709-3 L30;3A709-4 L40;3A709-6 L60;3A710 W0;3A711 X0;3A712 Y0;3A713 OMEGA0
3A714 ABB0;3A715 BB0;3A717 DD0;3A726 EYYY0;3A732 JE0;10760:0LINEAR A SIGN A8000;3A8010;3A8020
3A8030;3A8040;3A8050;3A8060;3A8070;10780:0MODIFIER LETTER SMALL CAPITAL AA0
2SUPERSCRIPT TRIANGULAR COLON0;3HALF2;2SMALL AE0;3CAPITAL B0;3B WITH HOOK0
10787:0MODIFIER LETTER SMALL DZ DIGRAPH0;5WITH RETROFLEX HOOK0;6CURL0;3DEZH DIGRAPH0;3D WITH TAIL0
5HOOK0;6AND TAIL0;3REVERSED E0;3CLOSED REVERSED OPEN1;3FENG DIGRAPH0;3RAMS HORN0;3CAPITAL G0
3G WITH HOOK0;3CAPITAL3;3H WITH STROKE0;3CAPITAL H0;3HENG WITH HOOK0;3DOTLESS J WITH STROKE AND1
3LS DIGRAPH0;3LZ1;3L WITH BELT0;3CAPITAL3;3L WITH RETROFLEX HOOK AND1;3LEZH0;4WITH RETROFLEX HOOK0
3TURNED Y0;5WITH BELT0;3O WITH STROKE0;3CAPITAL OE0;3CLOSED OMEGA0;3Q0;3TURNED R WITH LONG LEG0
8AND RETROFLEX HOOK0;3R WITH TAIL0;5FISHHOOK0;3CAPITAL R0;3TC DIGRAPH WITH CURL0;3TS DIGRAPH0
5WITH RETROFLEX HOOK0;3TESH DIGRAPH0;3T WITH RETROFLEX HOOK0;3V WITH RIGHT1
107b2:0MODIFIER LETTER SMALL CAPITAL Y0;2GLOTTAL STOP WITH STROKE0;2REVERSED4;2BILABIAL CLICK0
2DENTAL1;2LATERAL1;2ALVEOLAR1;2RETROFLEX CLICK WITH RETROFLEX HOOK0;2SMALL S WITH CURL0
10800:0CYPRIOT SYLLABLE A0;2E0;2I0;2O0;2U0;2JA0;10808:0CYPRIOT SYLLABLE JO0
1080a:0CYPRIOT SYLLABLE KA0;2KE0;2KI0;2KO0;2KU0;2LA0;2LE0;2LI0;2LO0;2LU0;2MA0;2ME0;2MI0;2MO0;2MU0
2NA0;2NE0;2NI0;2NO0;2NU0;2PA0;2PE0;2PI0;2PO0;2PU0;2RA0;2RE0;2RI0;2RO0;2RU0;2SA0;2SE0;2SI0;2SO0
2SU0;2TA0;2TE0;2TI0;2TO0;2TU0;2WA0;2WE0;2WI0;2WO0;10837:0CYPRIOT SYLLABLE XA0;2XE0
1083c:0CYPRIOT SYLLABLE ZA0;1083f:0CYPRIOT SYLLABLE ZO0;0IMPERIAL ARAMAIC LETTER ALEPH0;3BETH0
3GIMEL0;3DALETH0;3HE0;3WAW0;3ZAYIN0;3HETH0;3TETH0;3YODH0;3KAPH0;3LAMEDH0;3MEM0;3NUN0;3SAMEKH0
3AYIN0;3PE0;3SADHE0;3QOPH0;3RESH0;3SHIN0;3TAW0;10857:0IMPERIAL ARAMAIC SECTION SIGN0;2NUMBER ONE0
3TWO0;3THREE0;3TEN0;3TWENTY0;3ONE HUNDRED0;4THOUSAND0;3TEN1;0PALMYRENE LETTER ALEPH0;2BETH0
2GIMEL0;2DALETH0;2HE0;2WAW0;2ZAYIN0;2HETH0;2TETH0;2YODH0;2KAPH0;2LAMEDH0;2MEM0;2FINAL NUN0;21
2SAMEKH0;2AYIN0;2PE0;2SADHE0;2QOPH0;2RESH0;2SHIN0;2TAW0;1LEFT-POINTING FLEURON0;1RIGHT-POINTING1
1NUMBER ONE0;2TWO0;2THREE0;2FOUR0;2FIVE0;2TEN0;2TWENTY0;0NABATAEAN LETTER FINAL ALEPH0;21
2FINAL BETH0;21;2GIMEL0;2DALETH0;2FINAL HE0;21;2WAW0;2ZAYIN0;2HETH0;2TETH0;2FINAL YODH0;21
2FINAL KAPH0;21;2FINAL LAMEDH0;21;2FINAL MEM0;21;2FINAL NUN0;21;2SAMEKH0;2AYIN0;2PE0;2SADHE0
2QOPH0;2RESH0;2FINAL SHIN0;21;2TAW0;108a7:0NABATAEAN NUMBER ONE0;2TWO0;2THREE0;2FOUR0;1CRUCIFORM2
1NUMBER FIVE0;2TEN0;2TWENTY0;2ONE HUNDRED0;108e0:0HATRAN LETTER ALEPH0;2BETH0;2GIMEL0
2DALETH-RESH0;2HE0;2WAW0;2ZAYN0;2HETH0;2TETH0;2YODH0;2KAPH0;2LAMEDH0;2MEM0;2NUN0;2SAMEKH0;2AYN0
2PE0;2SADHE0;2QOPH0;108f4:0HATRAN LETTER SHIN0;2TAW0;108fb:0HATRAN NUMBER ONE0;2FIVE0;2TEN0
2TWENTY0;2ONE HUNDRED0;0PHOENICIAN LETTER ALF0;2BET0;2GAML0;2DELT0;2HE0;2WAU0;2ZAI0;2HET0;2TET0
2YOD0;2KAF0;2LAMD0;2MEM0;2NUN0;2SEMK0;2AIN0;2PE0;2SADE0;2QOF0;2ROSH0;2SHIN0;2TAU0;1NUMBER ONE0
2TEN0;2TWENTY0;2ONE HUNDRED0;2TWO0;2THREE0;1091f:0PHOENICIAN WORD SEPARATOR0;0LYDIAN LETTER A0;2B0
2G0;2D0;2E0;2V0;2I0;2Y0;2K0;2L0;2M0;2N0;2O0;2R0;2SS0;2T0;2U0;2F0;2Q0;2S0;2TT0;2AN0;2EN0;2LY0;2NN0
2C0;1093f:0LYDIAN TRIANGULAR MARK0;10980:0MEROITIC HIEROGLYPHIC LETTER A0;3E0;3I0;3O0;3YA0;3WA0
3BA0;3BA-20;3PA0;3MA0;3NA0;3NA-20;3NE0;3NE-20;3RA0;3RA-20;3LA0;3KHA0;3HHA0;3SA0;3SA-20;3SE0;3KA0
3QA0;3TA0;3TA-20;3TE0;3TE-20;3TO0;3DA0;2SYMBOL VIDJ0;3VIDJ-20;1CURSIVE LETTER A0;3E0;3I0;3O0;3YA0
3WA0;3BA0;3PA0;3MA0;3NA0;3NE0;3RA0;3LA0;3KHA0;3HHA0;3SA0;3ARCHAIC1;3SE0;3KA0;3QA0;3TA0;3TE0;3TO0
3DA0;109bc:0MEROITIC CURSIVE FRACTION ELEVEN TWELFTHS0;3ONE HALF0;2LOGOGRAM RMT0;3IMN0
2NUMBER ONE0;3TWO0;3THREE0;3FOUR0;3FIVE0;3SIX0;3SEVEN0;3EIGHT0;3NINE0;3TEN0;3TWENTY0;3THIRTY0
3FORTY0;3FIFTY0;3SIXTY0;3SEVENTY0;109d2:0MEROITIC CURSIVE NUMBER ONE HUNDRED0;3TWO1;3THREE1;3FOUR1
3FIVE1;3SIX1;3SEVEN1;3EIGHT1;3NINE1;3ONE THOUSAND0;3TWO1;3THREE1;3FOUR1;3FIVE1;3SIX1;3SEVEN1
3EIGHT1;3NINE1;3TEN1;3TWENTY1;3THIRTY1;3FORTY1;3FIFTY1;3SIXTY1;3SEVENTY1;3EIGHTY1;3NINETY1
3ONE HUNDRED1;3TWO2;3THREE2;3FOUR2;3FIVE2;3SIX2;3SEVEN2;3EIGHT2;3NINE2;2FRACTION ONE TWELFTH0
3TWO TWELFTHS0;3THREE1;3FOUR1;3FIVE1;3SIX1;3SEVEN1;3EIGHT1;3NINE1;3TEN1;0KHAROSHTHI LETTER A0
1VOWEL SIGN I0;3U0;3VOCALIC R0;10a05:0KHAROSHTHI VOWEL SIGN E0;3O0
10a0c:0KHAROSHTHI VOWEL LENGTH MARK0;1SIGN DOUBLE RING BELOW0;2ANUSVARA0;2VISARGA0;1LETTER KA0
2KHA0;2GA0;2GHA0;10a15:0KHAROSHTHI LETTER CA0;2CHA0;2JA0;10a19:0KHAROSHTHI LETTER NYA0;2TTA0
2TTHA0;2DDA0;2DDHA0;2NNA0;2TA0;2THA0;2DA0;2DHA0;2NA0;2PA0;2PHA0;2BA0;2BHA0;2MA0;2YA0;2RA0;2LA0
2VA0;2SHA0;2SSA0;2SA0;2ZA0;2HA0;2KKA0;2TTTHA0;2TTTA0;2VHA0;10a38:0KHAROSHTHI SIGN BAR ABOVE0
2CAUDA0;2DOT BELOW0;10a3f:0KHAROSHTHI VIRAMA0;1DIGIT ONE0;2TWO0;2THREE0;2FOUR0;1NUMBER TEN0
2TWENTY0;2ONE HUNDRED0;3THOUSAND0;1FRACTION ONE HALF0;10a50:0KHAROSHTHI PUNCTUATION DOT0
2SMALL CIRCLE0;21;2CRESCENT BAR0;2MANGALAM0;2LOTUS0;2DANDA0;2DOUBLE1;2LINES0
10a60:0OLD SOUTH ARABIAN LETTER HE0;4LAMEDH0;4HETH0;4MEM0;4QOPH0;4WAW0;4SHIN0;4RESH0;4BETH0;4TAW0
4SAT0;4KAPH0;4NUN0;4KHETH0;4SADHE0;4SAMEKH0;4FE0;4ALEF0;4AYN0;4DHADHE0;4GIMEL0;4DALETH0;4GHAYN0
4TETH0;4ZAYN0;4DHALETH0;4YODH0;4THAW0;4THETH0;3NUMBER ONE0;4FIFTY0;3NUMERIC INDICATOR0
1NORTH ARABIAN LETTER HEH0;4LAM0;4HAH0;4MEEM0;4QAF0;4WAW0;4ES-20;4REH0;4BEH0;4TEH0;4ES-10;4KAF0
4NOON0;4KHAH0;4SAD0;4ES-30;4FEH0;4ALEF0;4AIN0;4DAD0;4GEEM0;4DAL0;4GHAIN0;4TAH0;4ZAIN0;4THAL0;4YEH0
4THEH0;4ZAH0;3NUMBER ONE0;4TEN0;4TWENTY0;10ac0:0MANICHAEAN LETTER ALEPH0;2BETH0;2BHETH0;2GIMEL0
2GHIMEL0;2DALETH0;2HE0;2WAW0;1SIGN UD0;1LETTER ZAYIN0;2ZHAYIN0;2JAYIN0;2JHAYIN0;2HETH0;2TETH0
2YODH0;2KAPH0;2XAPH0;2KHAPH0;2LAMEDH0;2DHAMEDH0;2THAMEDH0;2MEM0;2NUN0;2SAMEKH0;2AYIN0;2AAYIN0;2PE0
2FE0;2SADHE0;2QOPH0;2XOPH0;2QHOPH0;2RESH0;2SHIN0;2SSHIN0;2TAW0;1ABBREVIATION MARK ABOVE0;3BELOW0
10aeb:0MANICHAEAN NUMBER ONE0;2FIVE0;2TEN0;2TWENTY0;2ONE HUNDRED0;1PUNCTUATION STAR0;2FLEURON0
2DOUBLE DOT WITHIN DOT0;23;30;2TWO DOTS0;2LINE FILLER0;10b00:0AVESTAN LETTER A0;2AA0;2AO0;2AAO0
2AN0;2AAN0;2AE0;2AEE0;2E0;2EE0;2O0;2OO0;2I0;2II0;2U0;2UU0;2KE0;2XE0;2XYE0;2XVE0;2GE0;2GGE0;2GHE0
2CE0;2JE0;2TE0;2THE0;2DE0;2DHE0;2TTE0;2PE0;2FE0;2BE0;2BHE0;2NGE0;2NGYE0;2NGVE0;2NE0;2NYE0;2NNE0
2ME0;2HME0;2YYE0;2YE0;2VE0;2RE0;2LE0;2SE0;2ZE0;2SHE0;2ZHE0;2SHYE0;2SSHE0;2HE0
10b39:0AVESTAN ABBREVIATION MARK0;0TINY TWO DOTS OVER ONE DOT PUNCTUATION0;0SMALL6;0LARGE6
1ONE DOT OVER TWO DOTS1;1TWO RINGS OVER ONE RING1;1ONE RING OVER TWO RINGS1
0INSCRIPTIONAL PARTHIAN LETTER ALEPH0;3BETH0;3GIMEL0;3DALETH0;3HE0;3WAW0;3ZAYIN0;3HETH0;3TETH0
3YODH0;3KAPH0;3LAMEDH0;3MEM0;3NUN0;3SAMEKH0;3AYIN0;3PE0;3SADHE0;3QOPH0;3RESH0;3SHIN0;3TAW0
10b58:0INSCRIPTIONAL PARTHIAN NUMBER ONE0;3TWO0;3THREE0;3FOUR0;3TEN0;3TWENTY0;3ONE HUNDRED0
4THOUSAND0;1PAHLAVI LETTER ALEPH0;3BETH0;3GIMEL0;3DALETH0;3HE0;3WAW-AYIN-RESH0;3ZAYIN0;3HETH0
3TETH0;3YODH0;3KAPH0;3LAMEDH0;3MEM-QOPH0;3NUN0;3SAMEKH0;3PE0;3SADHE0;3SHIN0;3TAW0
10b78:0INSCRIPTIONAL PAHLAVI NUMBER ONE0;3TWO0;3THREE0;3FOUR0;3TEN0;3TWENTY0;3ONE HUNDRED0
4THOUSAND0;0PSALTER PAHLAVI LETTER ALEPH0;3BETH0;3GIMEL0;3DALETH0;3HE0;3WAW-AYIN-RESH0;3ZAYIN0
3HETH0;3YODH0;3KAPH0;3LAMEDH0;3MEM-QOPH0;3NUN0;3SAMEKH0;3PE0;3SADHE0;3SHIN0;3TAW0
10b99:0PSALTER PAHLAVI SECTION MARK0;2TURNED2;2FOUR DOTS WITH CROSS0;5DOT0
10ba9:0PSALTER PAHLAVI NUMBER ONE0;3TWO0;3THREE0;3FOUR0;3TEN0;3TWENTY0;3ONE HUNDRED0
10c00:0OLD TURKIC LETTER ORKHON A0;3YENISEI1;4AE0;3ORKHON I0;3YENISEI1;4E0;3ORKHON O0;4OE0
3YENISEI1;3ORKHON AB0;3YENISEI1;3ORKHON AEB0;3YENISEI1;3ORKHON AG0;3YENISEI1;3ORKHON AEG0
3YENISEI1;3ORKHON AD0;3YENISEI1;3ORKHON AED0;4EZ0;3YENISEI1;3ORKHON AY0;3YENISEI1;3ORKHON AEY0
3YENISEI1;3ORKHON AEK0;3YENISEI1;3ORKHON OEK0;3YENISEI1;3ORKHON AL0;3YENISEI1;3ORKHON AEL0;4ELT0
4EM0;4AN0;4AEN0;3YENISEI1;3ORKHON ENT0;3YENISEI1;3ORKHON ENC0;3YENISEI1;3ORKHON ENY0;3YENISEI1
4ANG0;3ORKHON ENG0;3YENISEI AENG0;3ORKHON EP0;4OP0;4IC0;4EC0;3YENISEI1;3ORKHON AQ0;3YENISEI1
3ORKHON IQ0;3YENISEI1;3ORKHON OQ0;3YENISEI1;3ORKHON AR0;3YENISEI1;3ORKHON AER0;4AS0;4AES0;4ASH0
3YENISEI1;3ORKHON ESH0;3YENISEI1;3ORKHON AT0;3YENISEI1;3ORKHON AET0;3YENISEI1;3ORKHON OT0;4BASH0
10c80:0OLD HUNGARIAN CAPITAL LETTER A0;4AA0;4EB0;4AMB0;4EC0;4ENC0;4ECS0;4ED0;4AND0;4E0;4CLOSE1
4EE0;4EF0;4EG0;4EGY0;4EH0;4I0;4II0;4EJ0;4EK0;4AK0;4UNK0;4EL0;4ELY0;4EM0;4EN0;4ENY0;4O0;4OO0
4NIKOLSBURG OE0;4RUDIMENTA1;4OEE0;4EP0;4EMP0;4ER0;4SHORT1;4ES0;4ESZ0;4ET0;4ENT0;4ETY0;4ECH0;4U0
4UU0;4NIKOLSBURG UE0;4RUDIMENTA1;4EV0;4EZ0;4EZS0;4ENT-SHAPED SIGN0;4US0
10cc0:0OLD HUNGARIAN SMALL LETTER A0;4AA0;4EB0;4AMB0;4EC0;4ENC0;4ECS0;4ED0;4AND0;4E0;4CLOSE1;4EE0
4EF0;4EG0;4EGY0;4EH0;4I0;4II0;4EJ0;4EK0;4AK0;4UNK0;4EL0;4ELY0;4EM0;4EN0;4ENY0;4O0;4OO0
4NIKOLSBURG OE0;4RUDIMENTA1;4OEE0;4EP0;4EMP0;4ER0;4SHORT1;4ES0;4ESZ0;4ET0;4ENT0;4ETY0;4ECH0;4U0
4UU0;4NIKOLSBURG UE0;4RUDIMENTA1;4EV0;4EZ0;4EZS0;4ENT-SHAPED SIGN0;4US0
10cfa:0OLD HUNGARIAN NUMBER ONE0;3FIVE0;3TEN0;3FIFTY0;3ONE HUNDRED0;4THOUSAND0
0HANIFI ROHINGYA LETTER A0;3BA0;3PA0;3TA0;3TTA0;3JA0;3CA0;3HA0;3KHA0;3FA0;3DA0;3DDA0;3RA0;3RRA0
3ZA0;3SA0;3SHA0;3KA0;3GA0;3LA0;3MA0;3NA0;3WA0;3KINNA1;3YA0;3KINNA1;3NGA0;3NYA0;3VA0;2VOWEL A0;3I0
3U0;3E0;3O0;2MARK SAKIN0;3NA KHONNA0;2SIGN HARBAHAY0;3TAHALA0;3TANA0;3TASSI0
10d30:0HANIFI ROHINGYA DIGIT ZERO0;3ONE0;3TWO0;3THREE0;3FOUR0;3FIVE0;3SIX0;3SEVEN0;3EIGHT0;3NINE0
10e60:0RUMI DIGIT ONE0;2TWO0;2THREE0;2FOUR0;2FIVE0;2SIX0;2SEVEN0;2EIGHT0;2NINE0;1NUMBER TEN0
2TWENTY0;2THIRTY0;2FORTY0;2FIFTY0;2SIXTY0;2SEVENTY0;2EIGHTY0;2NINETY0;2ONE HUNDRED0;2TWO1;2THREE1
2FOUR1;2FIVE1;2SIX1;2SEVEN1;2EIGHT1;2NINE1;1FRACTION ONE HALF0;3QUARTER0;3THIRD0;2TWO THIRDS0
10e80:0YEZIDI LETTER ELIF0;2BE0;2PE0;2PHE0;2THE0;2SE0;2CIM0;2CHIM0;2CHHIM0;2HHA0;2XA0;2DAL0;2ZAL0
2RA0;2RHA0;2ZA0;2JA0;2SIN0;2SHIN0;2SAD0;2DAD0;2TA0;2ZE0;2EYN0;2XHEYN0;2FA0;2VA0;3ALTERNATE FORM0
2QAF0;2KAF0;2KHAF0;2GAF0;2LAM0;2MIM0;2NUN0;2UM0;2WAW0;2OW0;2EW0;2HAY0;2YOT0;2ET0
10eab:0YEZIDI COMBINING HAMZA MARK0;2MADDA1;1HYPHENATION1;10eb0:0YEZIDI LETTER LAM WITH DOT ABOVE0
2YOT WITH CIRCUMFLEX1;10f00:0OLD SOGDIAN LETTER ALEPH0;3FINAL1;3BETH0;3FINAL1;3GIMEL0;3HE0;3FINAL1
3WAW0;3ZAYIN0;3HETH0;3YODH0;3KAPH0;3LAMEDH0;3MEM0;3NUN0;3FINAL1;5WITH VERTICAL TAIL0;3SAMEKH0
3AYIN0;3ALTERNATE1;3PE0;3SADHE0;3FINAL1;5WITH VERTICAL TAIL0;3RESH-AYIN-DALETH0;3SHIN0;3TAW0
3FINAL1;5WITH VERTICAL TAIL0;2NUMBER ONE0;3TWO0;3THREE0;3FOUR0;3FIVE0;3TEN0;3TWENTY0;3THIRTY0
3ONE HUNDRED0;2FRACTION ONE HALF0;2LIGATURE AYIN-DALETH0;10f30:0SOGDIAN LETTER ALEPH0;2BETH0
2GIMEL0;2HE0;2WAW0;2ZAYIN0;2HETH0;2YODH0;2KAPH0;2LAMEDH0;2MEM0;2NUN0;2SAMEKH0;2AYIN0;2PE0;2SADHE0
2RESH-AYIN0;2SHIN0;2TAW0;2FETH0;2LESH0;1INDEPENDENT SHIN0;1COMBINING DOT BELOW0;2TWO DOTS1
2DOT ABOVE0;2TWO DOTS1;2CURVE1;3BELOW0;2HOOK ABOVE0;3BELOW0;2LONG2;2RESH1;2STROKE1;1NUMBER ONE0
2TEN0;2TWENTY0;2ONE HUNDRED0;1PUNCTUATION TWO VERTICAL BARS0;5WITH DOTS0;2CIRCLE WITH DOT0
2TWO CIRCLES WITH DOTS0;2HALF CIRCLE WITH DOT0;10f70:0OLD UYGHUR LETTER ALEPH0;3BETH0;3GIMEL-HETH0
3WAW0;3ZAYIN0;3FINAL HETH0;3YODH0;3KAPH0;3LAMEDH0;3MEM0;3NUN0;3SAMEKH0;3PE0;3SADHE0;3RESH0;3SHIN0
3TAW0;3LESH0;2COMBINING DOT ABOVE0;4BELOW0;3TWO DOTS ABOVE0;5BELOW0;2PUNCTUATION BAR0;3TWO BARS0
4DOTS0;3FOUR1;10fb0:0CHORASMIAN LETTER ALEPH0;2SMALL1;2BETH0;2GIMEL0;2DALETH0;2HE0;2WAW0;2CURLED1
2ZAYIN0;2HETH0;2YODH0;2KAPH0;2LAMEDH0;2MEM0;2NUN0;2SAMEKH0;2AYIN0;2PE0;2RESH0;2SHIN0;2TAW0
1NUMBER ONE0;2TWO0;2THREE0;2FOUR0;2TEN0;2TWENTY0;2ONE HUNDRED0;10fe0:0ELYMAIC LETTER ALEPH0;2BETH0
2GIMEL0;2DALETH0;2HE0;2WAW0;2ZAYIN0;2HETH0;2TETH0;2YODH0;2KAPH0;2LAMEDH0;2MEM0;2NUN0;2SAMEKH0
2AYIN0;2PE0;2SADHE0;2QOPH0;2RESH0;2SHIN0;2TAW0;1LIGATURE ZAYIN-YODH0
11000:0BRAHMI SIGN CANDRABINDU0;2ANUSVARA0;2VISARGA0;2JIHVAMULIYA0;2UPADHMANIYA0;1LETTER A0;2AA0
2I0;2II0;2U0;2UU0;2VOCALIC R0;3RR0;3L0;3LL0;2E0;2AI0;2O0;2AU0;2KA0;2KHA0;2GA0;2GHA0;2NGA0;2CA0
2CHA0;2JA0;2JHA0;2NYA0;2TTA0;2TTHA0;2DDA0;2DDHA0;2NNA0;2TA0;2THA0;2DA0;2DHA0;2NA0;2PA0;2PHA0;2BA0
2BHA0;2MA0;2YA0;2RA0;2LA0;2VA0;2SHA0;2SSA0;2SA0;2HA0;2LLA0;2OLD TAMIL LLLA0;4RRA0;4NNNA0
1VOWEL SIGN AA0;3BHATTIPROLU1;3I0;3II0;3U0;3UU0;3VOCALIC R0;4RR0;4L0;4LL0;3E0;3AI0;3O0;3AU0
1VIRAMA0;1DANDA0;1DOUBLE1;1PUNCTUATION DOT0;2DOUBLE1;2LINE0;2CRESCENT BAR0;2LOTUS0
11052:0BRAHMI NUMBER ONE0;2TWO0;2THREE0;2FOUR0;2FIVE0;2SIX0;2SEVEN0;2EIGHT0;2NINE0;2TEN0;2TWENTY0
2THIRTY0;2FORTY0;2FIFTY0;2SIXTY0;2SEVENTY0;2EIGHTY0;2NINETY0;2ONE HUNDRED0;3THOUSAND0;1DIGIT ZERO0
2ONE0;2TWO0;2THREE0;2FOUR0;2FIVE0;2SIX0;2SEVEN0;2EIGHT0;2NINE0;1SIGN OLD TAMIL VIRAMA0
1LETTER OLD TAMIL SHORT E0;5O0;1VOWEL SIGN OLD TAMIL SHORT E0;6O0;1LETTER OLD TAMIL LLA0
1107f:0BRAHMI NUMBER JOINER0;0KAITHI SIGN CANDRABINDU0;2ANUSVARA0;2VISARGA0;1LETTER A0;2AA0;2I0
2II0;2U0;2UU0;2E0;2AI0;2O0;2AU0;2KA0;2KHA0;2GA0;2GHA0;2NGA0;2CA0;2CHA0;2JA0;2JHA0;2NYA0;2TTA0
2TTHA0;2DDA0;2DDDHA0;2DDHA0;2RHA0;2NNA0;2TA0;2THA0;2DA0;2DHA0;2NA0;2PA0;2PHA0;2BA0;2BHA0;2MA0;2YA0
2RA0;2LA0;2VA0;2SHA0;2SSA0;2SA0;2HA0;1VOWEL SIGN AA0;3I0;3II0;3U0;3UU0;3E0;3AI0;3O0;3AU0
1SIGN VIRAMA0;2NUKTA0;1ABBREVIATION SIGN0;1ENUMERATION1;1NUMBER1;1SECTION MARK0;1DOUBLE2;1DANDA0
1DOUBLE1;1VOWEL SIGN VOCALIC R0;110cd:0KAITHI NUMBER SIGN ABOVE0;110d0:0SORA SOMPENG LETTER SAH0
3TAH0;3BAH0;3CAH0;3DAH0;3GAH0;3MAH0;3NGAH0;3LAH0;3NAH0;3VAH0;3PAH0;3YAH0;3RAH0;3HAH0;3KAH0;3JAH0
3NYAH0;3AH0;3EEH0;3IH0;3UH0;3OH0;3EH0;3MAE0;110f0:0SORA SOMPENG DIGIT ZERO0;3ONE0;3TWO0;3THREE0
3FOUR0;3FIVE0;3SIX0;3SEVEN0;3EIGHT0;3NINE0;11100:0CHAKMA SIGN CANDRABINDU0;2ANUSVARA0;2VISARGA0
1LETTER AA0;2I0;2U0;2E0;2KAA0;2KHAA0;2GAA0;2GHAA0;2NGAA0;2CAA0;2CHAA0;2JAA0;2JHAA0;2NYAA0;2TTAA0
2TTHAA0;2DDAA0;2DDHAA0;2NNAA0;2TAA0;2THAA0;2DAA0;2DHAA0;2NAA0;2PAA0;2PHAA0;2BAA0;2BHAA0;2MAA0
2YYAA0;2YAA0;2RAA0;2LAA0;2WAA0;2SAA0;2HAA0;1VOWEL SIGN A0;3I0;3II0;3U0;3UU0;3E0;3AI0;3O0;3AU0;3OI0
1O MARK0;1AU1;1VIRAMA0;1MAAYYAA0;11136:0CHAKMA DIGIT ZERO0;2ONE0;2TWO0;2THREE0;2FOUR0;2FIVE0;2SIX0
2SEVEN0;2EIGHT0;2NINE0;1SECTION MARK0;1DANDA0;1DOUBLE1;1QUESTION MARK0;1LETTER LHAA0
1VOWEL SIGN AA0;3EI0;1LETTER VAA0;11150:0MAHAJANI LETTER A0;2I0;2U0;2E0;2O0;2KA0;2KHA0;2GA0;2GHA0
2CA0;2CHA0;2JA0;2JHA0;2NYA0;2TTA0;2TTHA0;2DDA0;2DDHA0;2NNA0;2TA0;2THA0;2DA0;2DHA0;2NA0;2PA0;2PHA0
2BA0;2BHA0;2MA0;2RA0;2LA0;2VA0;2SA0;2HA0;2RRA0;1SIGN NUKTA0;1ABBREVIATION SIGN0;1SECTION MARK0
1LIGATURE SHRI0;11180:0SHARADA SIGN CANDRABINDU0;2ANUSVARA0;2VISARGA0;1LETTER A0;2AA0;2I0;2II0;2U0
2UU0;2VOCALIC R0;3RR0;3L0;3LL0;2E0;2AI0;2O0;2AU0;2KA0;2KHA0;2GA0;2GHA0;2NGA0;2CA0;2CHA0;2JA0;2JHA0
2NYA0;2TTA0;2TTHA0;2DDA0;2DDHA0;2NNA0;2TA0;2THA0;2DA0;2DHA0;2NA0;2PA0;2PHA0;2BA0;2BHA0;2MA0;2YA0
2RA0;2LA0;2LLA0;2VA0;2SHA0;2SSA0;2SA0;2HA0;1VOWEL SIGN AA0;3I0;3II0;3U0;3UU0;3VOCALIC R0;4RR0;4L0
4LL0;3E0;3AI0;3O0;3AU0;1SIGN VIRAMA0;2AVAGRAHA0;2JIHVAMULIYA0;2UPADHMANIYA0;1OM0;1DANDA0;1DOUBLE1
1ABBREVIATION SIGN0;1SEPARATOR0;1SANDHI MARK0;1SIGN NUKTA0;1VOWEL MODIFIER MARK0
1EXTRA SHORT VOWEL1;1SUTRA1;1VOWEL SIGN PRISHTHAMATRA E0;1SIGN INVERTED CANDRABINDU0;1DIGIT ZERO0
2ONE0;2TWO0;2THREE0;2FOUR0;2FIVE0;2SIX0;2SEVEN0;2EIGHT0;2NINE0;1EKAM0;1SIGN SIDDHAM0;1HEADSTROKE0
1CONTINUATION SIGN0;1SECTION MARK-10;2MARK-20;111e1:0SINHALA ARCHAIC DIGIT ONE0;3TWO0;3THREE0
3FOUR0;3FIVE0;3SIX0;3SEVEN0;3EIGHT0;3NINE0;2NUMBER TEN0;3TWENTY0;3THIRTY0;3FORTY0;3FIFTY0;3SIXTY0
3SEVENTY0;3EIGHTY0;3NINETY0;3ONE HUNDRED0;4THOUSAND0;11200:0KHOJKI LETTER A0;2AA0;2I0;2U0;2E0;2AI0
2O0;2AU0;2KA0;2KHA0;2GA0;2GGA0;2GHA0;2NGA0;2CA0;2CHA0;2JA0;2JJA0;11213:0KHOJKI LETTER NYA0;2TTA0
2TTHA0;2DDA0;2DDHA0;2NNA0;2TA0;2THA0;2DA0;2DDDA0;2DHA0;2NA0;2PA0;2PHA0;2BA0;2BBA0;2BHA0;2MA0;2YA0
2RA0;2LA0;2VA0;2SA0;2HA0;2LLA0;1VOWEL SIGN AA0;3I0;3II0;3U0;3E0;3AI0;3O0;3AU0;1SIGN ANUSVARA0
2VIRAMA0;2NUKTA0;2SHADDA0;1DANDA0;1DOUBLE1;1WORD SEPARATOR0;1SECTION MARK0;1DOUBLE2
1ABBREVIATION SIGN0;1SIGN SUKUN0;11280:0MULTANI LETTER A0;2I0;2U0;2E0;2KA0;2KHA0;2GA0
11288:0MULTANI LETTER GHA0;1128a:0MULTANI LETTER CA0;2CHA0;2JA0;2JJA0;1128f:0MULTANI LETTER NYA0
2TTA0;2TTHA0;2DDA0;2DDDA0;2DDHA0;2NNA0;2TA0;2THA0;2DA0;2DHA0;2NA0;2PA0;2PHA0;2BA0
1129f:0MULTANI LETTER BHA0;2MA0;2YA0;2RA0;2LA0;2VA0;2SA0;2HA0;2RRA0;2RHA0;1SECTION MARK0
112b0:0KHUDAWADI LETTER A0;2AA0;2I0;2II0;2U0;2UU0;2E0;2AI0;2O0;2AU0;2KA0;2KHA0;2GA0;2GGA0;2GHA0
2NGA0;2CA0;2CHA0;2JA0;2JJA0;2JHA0;2NYA0;2TTA0;2TTHA0;2DDA0;2DDDA0;2RRA0;2DDHA0;2NNA0;2TA0;2THA0
2DA0;2DHA0;2NA0;2PA0;2PHA0;2BA0;2BBA0;2BHA0;2MA0;2YA0;2RA0;2LA0;2VA0;2SHA0;2SA0;2HA0
1SIGN ANUSVARA0;1VOWEL SIGN AA0;3I0;3II0;3U0;3UU0;3E0;3AI0;3O0;3AU0;1SIGN NUKTA0;2VIRAMA0
112f0:0KHUDAWADI DIGIT ZERO0;2ONE0;2TWO0;2THREE0;2FOUR0;2FIVE0;2SIX0;2SEVEN0;2EIGHT0;2NINE0
11300:0GRANTHA SIGN COMBINING ANUSVARA ABOVE0;2CANDRABINDU0;2ANUSVARA0;2VISARGA0
11305:0GRANTHA LETTER A0;2AA0;2I0;2II0;2U0;2UU0;2VOCALIC R0;3L0;1130f:0GRANTHA LETTER EE0;2AI0
11313:0GRANTHA LETTER OO0;2AU0;2KA0;2KHA0;2GA0;2GHA0;2NGA0;2CA0;2CHA0;2JA0;2JHA0;2NYA0;2TTA0
2TTHA0;2DDA0;2DDHA0;2NNA0;2TA0;2THA0;2DA0;2DHA0;2NA0;1132a:0GRANTHA LETTER PA0;2PHA0;2BA0;2BHA0
2MA0;2YA0;2RA0;11332:0GRANTHA LETTER LA0;2LLA0;11335:0GRANTHA LETTER VA0;2SHA0;2SSA0;2SA0;2HA0
1133b:0COMBINING BINDU BELOW0;0GRANTHA SIGN NUKTA0;2AVAGRAHA0;1VOWEL SIGN AA0;3I0;3II0;3U0;3UU0
3VOCALIC R0;4RR0;11347:0GRANTHA VOWEL SIGN EE0;3AI0;1134b:0GRANTHA VOWEL SIGN OO0;3AU0
1SIGN VIRAMA0;11350:0GRANTHA OM0;11357:0GRANTHA AU LENGTH MARK0;1135d:0GRANTHA SIGN PLUTA0
1LETTER VEDIC ANUSVARA0;3DOUBLE1;2VOCALIC RR0;3LL0;1VOWEL SIGN VOCALIC L0;4LL0
11366:0COMBINING GRANTHA DIGIT ZERO0;3ONE0;3TWO0;3THREE0;3FOUR0;3FIVE0;3SIX0
11370:0COMBINING GRANTHA LETTER A0;3KA0;3NA0;3VI0;3PA0;11400:0NEWA LETTER A0;2AA0;2I0;2II0;2U0
2UU0;2VOCALIC R0;3RR0;3L0;3LL0;2E0;2AI0;2O0;2AU0;2KA0;2KHA0;2GA0;2GHA0;2NGA0;2NGHA0;2CA0;2CHA0
2JA0;2JHA0;2NYA0;2NYHA0;2TTA0;2TTHA0;2DDA0;2DDHA0;2NNA0;2TA0;2THA0;2DA0;2DHA0;2NA0;2NHA0;2PA0
2PHA0;2BA0;2BHA0;2MA0;2MHA0;2YA0;2RA0;2RHA0;2LA0;2LHA0;2WA0;2SHA0;2SSA0;2SA0;2HA0;1VOWEL SIGN AA0
3I0;3II0;3U0;3UU0;3VOCALIC R0;4RR0;4L0;4LL0;3E0;3AI0;3O0;3AU0;1SIGN VIRAMA0;2CANDRABINDU0
2ANUSVARA0;2VISARGA0;2NUKTA0;2AVAGRAHA0;2FINAL ANUSVARA0;1OM0;1SIDDHI0;1DANDA0;1DOUBLE1;1COMMA0
1GAP FILLER0;1ABBREVIATION SIGN0;1DIGIT ZERO0;2ONE0;2TWO0;2THREE0;2FOUR0;2FIVE0;2SIX0;2SEVEN0
2EIGHT0;2NINE0;1DOUBLE COMMA0;1PLACEHOLDER MARK0;1145d:0NEWA INSERTION SIGN0;1SANDHI MARK0
1LETTER VEDIC ANUSVARA0;1SIGN JIHVAMULIYA0;2UPADHMANIYA0;11480:0TIRHUTA ANJI0;1LETTER A0;2AA0;2I0
2II0;2U0;2UU0;2VOCALIC R0;3RR0;3L0;3LL0;2E0;2AI0;2O0;2AU0;2KA0;2KHA0;2GA0;2GHA0;2NGA0;2CA0;2CHA0
2JA0;2JHA0;2NYA0;2TTA0;2TTHA0;2DDA0;2DDHA0;2NNA0;2TA0;2THA0;2DA0;2DHA0;2NA0;2PA0;2PHA0;2BA0;2BHA0
2MA0;2YA0;2RA0;2LA0;2VA0;2SHA0;2SSA0;2SA0;2HA0;1VOWEL SIGN AA0;3I0;3II0;3U0;3UU0;3VOCALIC R0;4RR0
4L0;4LL0;3E0;3SHORT1;3AI0;3O0;3SHORT1;3AU0;1SIGN CANDRABINDU0;2ANUSVARA0;2VISARGA0;2VIRAMA0
2NUKTA0;2AVAGRAHA0;1GVANG0;1ABBREVIATION SIGN0;1OM0;114d0:0TIRHUTA DIGIT ZERO0;2ONE0;2TWO0;2THREE0
2FOUR0;2FIVE0;2SIX0;2SEVEN0;2EIGHT0;2NINE0;11580:0SIDDHAM LETTER A0;2AA0;2I0;2II0;2U0;2UU0
2VOCALIC R0;3RR0;3L0;3LL0;2E0;2AI0;2O0;2AU0;2KA0;2KHA0;2GA0;2GHA0;2NGA0;2CA0;2CHA0;2JA0;2JHA0
2NYA0;2TTA0;2TTHA0;2DDA0;2DDHA0;2NNA0;2TA0;2THA0;2DA0;2DHA0;2NA0;2PA0;2PHA0;2BA0;2BHA0;2MA0;2YA0
2RA0;2LA0;2VA0;2SHA0;2SSA0;2SA0;2HA0;1VOWEL SIGN AA0;3I0;3II0;3U0;3UU0;3VOCALIC R0;4RR0
115b8:0SIDDHAM VOWEL SIGN E0;3AI0;3O0;3AU0;1SIGN CANDRABINDU0;2ANUSVARA0;2VISARGA0;2VIRAMA0
2NUKTA0;2SIDDHAM0;1DANDA0;1DOUBLE1;1SEPARATOR DOT0;2BAR0;1REPETITION MARK-10;2MARK-20;2MARK-30
1END OF TEXT MARK0;1SECTION MARK WITH TRIDENT AND U-SHAPED ORNAMENTS0;6DOTTED CRESCENTS0;4RAYS3
7DOUBLE1;7TRIPLE1;3DOUBLE RING0;5WITH RAYS0;3WITH DOUBLE CRESCENTS0;4TRIPLE1;4QUADRUPLE1
4SEPTUPLE1;4CIRCLES AND RAYS0;6TWO ENCLOSURES0;6FOUR1;1LETTER THREE-CIRCLE ALTERNATE I0
2TWO-CIRCLE2;4II0;2ALTERNATE U0;1VOWEL SIGN2;4UU0;11600:0MODI LETTER A0;2AA0;2I0;2II0;2U0;2UU0
2VOCALIC R0;3RR0;3L0;3LL0;2E0;2AI0;2O0;2AU0;2KA0;2KHA0;2GA0;2GHA0;2NGA0;2CA0;2CHA0;2JA0;2JHA0
2NYA0;2TTA0;2TTHA0;2DDA0;2DDHA0;2NNA0;2TA0;2THA0;2DA0;2DHA0;2NA0;2PA0;2PHA0;2BA0;2BHA0;2MA0;2YA0
2RA0;2LA0;2VA0;2SHA0;2SSA0;2SA0;2HA0;2LLA0;1VOWEL SIGN AA0;3I0;3II0;3U0;3UU0;3VOCALIC R0;4RR0;4L0
4LL0;3E0;3AI0;3O0;3AU0;1SIGN ANUSVARA0;2VISARGA0;2VIRAMA0;2ARDHACANDRA0;1DANDA0;1DOUBLE1
1ABBREVIATION SIGN0;1SIGN HUVA0;11650:0MODI DIGIT ZERO0;2ONE0;2TWO0;2THREE0;2FOUR0;2FIVE0;2SIX0
2SEVEN0;2EIGHT0;2NINE0;11660:0MONGOLIAN BIRGA WITH ORNAMENT0;1ROTATED BIRGA0
1DOUBLE BIRGA WITH ORNAMENT0;1TRIPLE3;1BIRGA WITH DOUBLE1;1ROTATED BIRGA WITH1;4DOUBLE1
1INVERTED BIRGA0;3WITH DOUBLE ORNAMENT0;1SWIRL BIRGA0;3WITH ORNAMENT0;4DOUBLE1;1TURNED5
11680:0TAKRI LETTER A0;2AA0;2I0;2II0;2U0;2UU0;2E0;2AI0;2O0;2AU0;2KA0;2KHA0;2GA0;2GHA0;2NGA0;2CA0
2CHA0;2JA0;2JHA0;2NYA0;2TTA0;2TTHA0;2DDA0;2DDHA0;2NNA0;2TA0;2THA0;2DA0;2DHA0;2NA0;2PA0;2PHA0;2BA0
2BHA0;2MA0;2YA0;2RA0;2LA0;2VA0;2SHA0;2SA0;2HA0;2RRA0;1SIGN ANUSVARA0;2VISARGA0;1VOWEL SIGN AA0;3I0
3II0;3U0;3UU0;3E0;3AI0;3O0;3AU0;1SIGN VIRAMA0;2NUKTA0;1LETTER ARCHAIC KHA0;1ABBREVIATION SIGN0
116c0:0TAKRI DIGIT ZERO0;2ONE0;2TWO0;2THREE0;2FOUR0;2FIVE0;2SIX0;2SEVEN0;2EIGHT0;2NINE0
11700:0AHOM LETTER KA0;2KHA0;2NGA0;2NA0;2TA0;2ALTERNATE1;2PA0;2PHA0;2BA0;2MA0;2JA0;2CHA0;2THA0
2RA0;2LA0;2SA0;2NYA0;2HA0;2A0;2DA0;2DHA0;2GA0;2ALTERNATE1;2GHA0;2BHA0;2JHA0;2ALTERNATE BA0
1171d:0AHOM CONSONANT SIGN MEDIAL LA0;4RA0;4LIGATING1;1VOWEL SIGN A0;3AA0;3I0;3II0;3U0;3UU0;3E0
3AW0;3O0;3AI0;3AM0;1SIGN KILLER0;11730:0AHOM DIGIT ZERO0;2ONE0;2TWO0;2THREE0;2FOUR0;2FIVE0;2SIX0
2SEVEN0;2EIGHT0;2NINE0;1NUMBER TEN0;2TWENTY0;1SIGN SMALL SECTION0;21;2RULAI0;1SYMBOL VI0
1LETTER CA0;2TTA0;2TTHA0;2DDA0;2DDHA0;2NNA0;2LLA0;11800:0DOGRA LETTER A0;2AA0;2I0;2II0;2U0;2UU0
2E0;2AI0;2O0;2AU0;2KA0;2KHA0;2GA0;2GHA0;2NGA0;2CA0;2CHA0;2JA0;2JHA0;2NYA0;2TTA0;2TTHA0;2DDA0
2DDHA0;2NNA0;2TA0;2THA0;2DA0;2DHA0;2NA0;2PA0;2PHA0;2BA0;2BHA0;2MA0;2YA0;2RA0;2LA0;2VA0;2SHA0;2SSA0
2SA0;2HA0;2RRA0;1VOWEL SIGN AA0;3I0;3II0;3U0;3UU0;3VOCALIC R0;4RR0;3E0;3AI0;3O0;3AU0
1SIGN ANUSVARA0;2VISARGA0;2VIRAMA0;2NUKTA0;1ABBREVIATION SIGN0
118a0:0WARANG CITI CAPITAL LETTER NGAA0;4A0;4WI0;4YU0;4YA0;4YO0;4II0;4UU0;4E0;4O0;4ANG0;4GA0;4KO0
4ENY0;4YUJ0;4UC0;4ENN0;4ODD0;4TTE0;4NUNG0;4DA0;4AT0;4AM0;4BU0;4PU0;4HIYO0;4HOLO0;4HORR0;4HAR0
4SSUU0;4SII0;4VIYO0;2SMALL LETTER NGAA0;4A0;4WI0;4YU0;4YA0;4YO0;4II0;4UU0;4E0;4O0;4ANG0;4GA0;4KO0
4ENY0;4YUJ0;4UC0;4ENN0;4ODD0;4TTE0;4NUNG0;4DA0;4AT0;4AM0;4BU0;4PU0;4HIYO0;4HOLO0;4HORR0;4HAR0
4SSUU0;4SII0;4VIYO0;2DIGIT ZERO0;3ONE0;3TWO0;3THREE0;3FOUR0;3FIVE0;3SIX0;3SEVEN0;3EIGHT0;3NINE0
2NUMBER TEN0;3TWENTY0;3THIRTY0;3FORTY0;3FIFTY0;3SIXTY0;3SEVENTY0;3EIGHTY0;3NINETY0
118ff:0WARANG CITI OM0;0DIVES AKURU LETTER A0;3AA0;3I0;3II0;3U0;3UU0;3E0
11909:0DIVES AKURU LETTER O0;1190c:0DIVES AKURU LETTER KA0;3KHA0;3GA0;3GHA0;3NGA0;3CA0;3CHA0;3JA0
11915:0DIVES AKURU LETTER NYA0;3TTA0;11918:0DIVES AKURU LETTER DDA0;3DDHA0;3NNA0;3TA0;3THA0;3DA0
3DHA0;3NA0;3PA0;3PHA0;3BA0;3BHA0;3MA0;3YA0;3YYA0;3RA0;3LA0;3VA0;3SHA0;3SSA0;3SA0;3HA0;3LLA0;3ZA0
2VOWEL SIGN AA0;4I0;4II0;4U0;4UU0;4E0;11937:0DIVES AKURU VOWEL SIGN AI0;4O0
1193b:0DIVES AKURU SIGN ANUSVARA0;3CANDRABINDU0;3HALANTA0;2VIRAMA0;2PREFIXED NASAL SIGN0
2MEDIAL YA0;2INITIAL RA0;2MEDIAL1;2SIGN NUKTA0;2DOUBLE DANDA0;2GAP FILLER0;2END OF TEXT MARK0
11950:0DIVES AKURU DIGIT ZERO0;3ONE0;3TWO0;3THREE0;3FOUR0;3FIVE0;3SIX0;3SEVEN0;3EIGHT0;3NINE0
119a0:0NANDINAGARI LETTER A0;2AA0;2I0;2II0;2U0;2UU0;2VOCALIC R0;3RR0;119aa:0NANDINAGARI LETTER E0
2AI0;2O0;2AU0;2KA0;2KHA0;2GA0;2GHA0;2NGA0;2CA0;2CHA0;2JA0;2JHA0;2NYA0;2TTA0;2TTHA0;2DDA0;2DDHA0
2NNA0;2TA0;2THA0;2DA0;2DHA0;2NA0;2PA0;2PHA0;2BA0;2BHA0;2MA0;2YA0;2RA0;2LA0;2VA0;2SHA0;2SSA0;2SA0
2HA0;2LLA0;2RRA0;1VOWEL SIGN AA0;3I0;3II0;3U0;3UU0;3VOCALIC R0;4RR0
119da:0NANDINAGARI VOWEL SIGN E0;3AI0;3O0;3AU0;1SIGN ANUSVARA0;2VISARGA0;2VIRAMA0;2AVAGRAHA0
2SIDDHAM0;1HEADSTROKE0;1VOWEL SIGN PRISHTHAMATRA E0;11a00:0ZANABAZAR SQUARE LETTER A0
2VOWEL SIGN I0;4UE0;4U0;4E0;4OE0;4O0;4AI0;4AU0;4REVERSED I0;3LENGTH MARK0;2LETTER KA0;3KHA0;3GA0
3GHA0;3NGA0;3CA0;3CHA0;3JA0;3NYA0;3TTA0;3TTHA0;3DDA0;3DDHA0;3NNA0;3TA0;3THA0;3DA0;3DHA0;3NA0;3PA0
3PHA0;3BA0;3BHA0;3MA0;3TSA0;3TSHA0;3DZA0;3DZHA0;3ZHA0;3ZA0;3-A0;3YA0;3RA0;3LA0;3VA0;3SHA0;3SSA0
3SA0;3HA0;3KSSA0;2FINAL CONSONANT MARK0;2SIGN VIRAMA0;3CANDRABINDU0;4WITH ORNAMENT0;3CANDRA2
3ANUSVARA0;3VISARGA0;2CLUSTER-INITIAL LETTER RA0;2CLUSTER-FINAL LETTER YA0;4RA0;4LA0;4VA0
2INITIAL HEAD MARK0;2CLOSING2;2MARK TSHEG0;3SHAD0;3DOUBLE1;3LONG TSHEG0
2INITIAL DOUBLE-LINED HEAD MARK0;2CLOSING3;2SUBJOINER0;11a50:0SOYOMBO LETTER A0;1VOWEL SIGN I0
3UE0;3U0;3E0;3O0;3OE0;3AI0;3AU0;3VOCALIC R0;4L0;2LENGTH MARK0;1LETTER KA0;2KHA0;2GA0;2GHA0;2NGA0
2CA0;2CHA0;2JA0;2JHA0;2NYA0;2TTA0;2TTHA0;2DDA0;2DDHA0;2NNA0;2TA0;2THA0;2DA0;2DHA0;2NA0;2PA0;2PHA0
2BA0;2BHA0;2MA0;2TSA0;2TSHA0;2DZA0;2ZHA0;2ZA0;2-A0;2YA0;2RA0;2LA0;2VA0;2SHA0;2SSA0;2SA0;2HA0
2KSSA0;1SIGN JIHVAMULIYA0;2UPADHMANIYA0;1CLUSTER-INITIAL LETTER RA0;3LA0;3SHA0;3SA0
1FINAL CONSONANT SIGN G0;4K0;4NG0;4D0;4N0;4B0;4M0;4R0;4L0;4SH0;4S0;4-A0;1SIGN ANUSVARA0;2VISARGA0
1GEMINATION MARK0;1SUBJOINER0;1MARK TSHEG0;2SHAD0;2DOUBLE1;2PLUTA0
1HEAD MARK WITH MOON AND SUN AND TRIPLE FLAME0;81;70;1TERMINAL MARK-10;2MARK-20
11ab0:0CANADIAN SYLLABICS NATTILIK HI0;3HII0;3HO0;3HOO0;3HA0;3HAA0;3SHRI0;3SHRII0;3SHRO0;3SHROO0
3SHRA0;3SHRAA0;2SPE0;2SPI0;2SPO0;2SPA0;0PAU CIN HAU LETTER PA0;4KA0;4LA0;4MA0;4DA0;4ZA0;4VA0;4NGA0
4HA0;4GA0;4KHA0;4SA0;4BA0;4CA0;4TA0;4THA0;4NA0;4PHA0;4RA0;4FA0;4CHA0;4A0;4E0;4I0;4O0;4U0;4UA0;4IA0
4FINAL P0;5K0;5T0;5M0;5N0;5L0;5W0;5NG0;5Y0;3RISING TONE LONG0;50;3SANDHI GLOTTAL STOP0
3RISING TONE LONG FINAL0;51;3SANDHI GLOTTAL STOP1;4TONE LONG0;50;5LONG FINAL0;51;3MID-LEVEL TONE0
3GLOTTAL STOP VARIANT0;3MID-LEVEL TONE LONG FINAL0;51;3LOW-FALLING TONE LONG0;50;3GLOTTAL STOP0
3LOW-FALLING TONE LONG FINAL0;51;3GLOTTAL STOP1;11c00:0BHAIKSUKI LETTER A0;2AA0;2I0;2II0;2U0;2UU0
2VOCALIC R0;3RR0;3L0;11c0a:0BHAIKSUKI LETTER E0;2AI0;2O0;2AU0;2KA0;2KHA0;2GA0;2GHA0;2NGA0;2CA0
2CHA0;2JA0;2JHA0;2NYA0;2TTA0;2TTHA0;2DDA0;2DDHA0;2NNA0;2TA0;2THA0;2DA0;2DHA0;2NA0;2PA0;2PHA0;2BA0
2BHA0;2MA0;2YA0;2RA0;2LA0;2VA0;2SHA0;2SSA0;2SA0;2HA0;1VOWEL SIGN AA0;3I0;3II0;3U0;3UU0;3VOCALIC R0
4RR0;4L0;11c38:0BHAIKSUKI VOWEL SIGN E0;3AI0;3O0;3AU0;1SIGN CANDRABINDU0;2ANUSVARA0;2VISARGA0
2VIRAMA0;2AVAGRAHA0;1DANDA0;1DOUBLE1;1WORD SEPARATOR0;1GAP FILLER-10;2FILLER-20
11c50:0BHAIKSUKI DIGIT ZERO0;2ONE0;2TWO0;2THREE0;2FOUR0;2FIVE0;2SIX0;2SEVEN0;2EIGHT0;2NINE0
1NUMBER ONE0;2TWO0;2THREE0;2FOUR0;2FIVE0;2SIX0;2SEVEN0;2EIGHT0;2NINE0;2TEN0;2TWENTY0;2THIRTY0
2FORTY0;2FIFTY0;2SIXTY0;2SEVENTY0;2EIGHTY0;2NINETY0;1HUNDREDS UNIT MARK0;11c70:0MARCHEN HEAD MARK0
1MARK SHAD0;1LETTER KA0;2KHA0;2GA0;2NGA0;2CA0;2CHA0;2JA0;2NYA0;2TA0;2THA0;2DA0;2NA0;2PA0;2PHA0
2BA0;2MA0;2TSA0;2TSHA0;2DZA0;2WA0;2ZHA0;2ZA0;2-A0;2YA0;2RA0;2LA0;2SHA0;2SA0;2HA0;2A0
11c92:0MARCHEN SUBJOINED LETTER KA0;3KHA0;3GA0;3NGA0;3CA0;3CHA0;3JA0;3NYA0;3TA0;3THA0;3DA0;3NA0
3PA0;3PHA0;3BA0;3MA0;3TSA0;3TSHA0;3DZA0;3WA0;3ZHA0;3ZA0;11ca9:0MARCHEN SUBJOINED LETTER YA0;3RA0
3LA0;3SHA0;3SA0;3HA0;3A0;1VOWEL SIGN AA0;3I0;3U0;3E0;3O0;1SIGN ANUSVARA0;2CANDRABINDU0
11d00:0MASARAM GONDI LETTER A0;3AA0;3I0;3II0;3U0;3UU0;3E0;11d08:0MASARAM GONDI LETTER AI0;3O0
11d0b:0MASARAM GONDI LETTER AU0;3KA0;3KHA0;3GA0;3GHA0;3NGA0;3CA0;3CHA0;3JA0;3JHA0;3NYA0;3TTA0
3TTHA0;3DDA0;3DDHA0;3NNA0;3TA0;3THA0;3DA0;3DHA0;3NA0;3PA0;3PHA0;3BA0;3BHA0;3MA0;3YA0;3RA0;3LA0
3VA0;3SHA0;3SSA0;3SA0;3HA0;3LLA0;3KSSA0;3JNYA0;3TRA0;2VOWEL SIGN AA0;4I0;4II0;4U0;4UU0;4VOCALIC R0
11d3a:0MASARAM GONDI VOWEL SIGN E0;11d3c:0MASARAM GONDI VOWEL SIGN AI0;4O0
11d3f:0MASARAM GONDI VOWEL SIGN AU0;2SIGN ANUSVARA0;3VISARGA0;3NUKTA0;3CANDRA0;3HALANTA0;2VIRAMA0
2REPHA0;2RA-KARA0;11d50:0MASARAM GONDI DIGIT ZERO0;3ONE0;3TWO0;3THREE0;3FOUR0;3FIVE0;3SIX0;3SEVEN0
3EIGHT0;3NINE0;11d60:0GUNJALA GONDI LETTER A0;3AA0;3I0;3II0;3U0;3UU0
11d67:0GUNJALA GONDI LETTER EE0;3AI0;11d6a:0GUNJALA GONDI LETTER OO0;3AU0;3YA0;3VA0;3BA0;3BHA0
3MA0;3KA0;3KHA0;3TA0;3THA0;3LA0;3GA0;3GHA0;3DA0;3DHA0;3NA0;3CA0;3CHA0;3TTA0;3TTHA0;3LLA0;3JA0
3JHA0;3DDA0;3DDHA0;3NGA0;3PA0;3PHA0;3HA0;3RA0;3SA0;2VOWEL SIGN AA0;4I0;4II0;4U0;4UU0
11d90:0GUNJALA GONDI VOWEL SIGN EE0;4AI0;11d93:0GUNJALA GONDI VOWEL SIGN OO0;4AU0;2SIGN ANUSVARA0
3VISARGA0;2VIRAMA0;2OM0;11da0:0GUNJALA GONDI DIGIT ZERO0;3ONE0;3TWO0;3THREE0;3FOUR0;3FIVE0;3SIX0
3SEVEN0;3EIGHT0;3NINE0;11ee0:0MAKASAR LETTER KA0;2GA0;2NGA0;2PA0;2BA0;2MA0;2TA0;2DA0;2NA0;2CA0
2JA0;2NYA0;2YA0;2RA0;2LA0;2VA0;2SA0;2A0;1ANGKA0;1VOWEL SIGN I0;3U0;3E0;3O0;1PASSIMBANG0
1END OF SECTION0;11fb0:0LISU LETTER YHA0;11fc0:0TAMIL FRACTION ONE THREE-HUNDRED-AND-TWENTIETH0
3ONE-HUNDRED-AND-SIXTIETH0;3EIGHTIETH0;3SIXTY-FOURTH0;3FORTIETH0;3THIRTY-SECOND0
2THREE EIGHTIETHS0;3SIXTY-FOURTHS0;2ONE TWENTIETH0;3SIXTEENTH-10;3SIXTEENTH-20;3TENTH0;3EIGHTH0
2THREE TWENTIETHS0;3SIXTEENTHS0;2ONE FIFTH0;3QUARTER0;3HALF-10;3HALF-20;2THREE QUARTERS0
2DOWNSCALING FACTOR KIIZH0;1SIGN NEL0;2CEVITU0;2AAZHAAKKU0;2UZHAKKU0;2MUUVUZHAKKU0;2KURUNI0
2PATHAKKU0;2MUKKURUNI0;2KAACU0;2PANAM0;2PON0;2VARAAKAN0;2PAARAM0;2KUZHI0;2VELI0
1WET CULTIVATION SIGN0;1DRY2;1LAND1;1SALT PAN1;1TRADITIONAL CREDIT1;2NUMBER1;1CURRENT1;1AND ODD1
1SPENT1;1TOTAL1;1IN POSSESSION1;1STARTING FROM1;1SIGN MUTHALIYA0;2VAKAIYARAA0
11fff:0TAMIL PUNCTUATION END OF TEXT0;0CUNEIFORM SIGN A0;3TIMES A0;4BAD0;4GAN2 TENU0;4HA0;4IGI0
4LAGAR GUNU0;4MUSH0;4SAG0;2A20;2AB0;3TIMES ASH20;4DUN3 GUNU0;4GAL0;4GAN2 TENU0;4HA0;4IGI GUNU0
4IMIN0;4LAGAB0;4SHESH0;4U PLUS U PLUS U0;3GUNU0;2AB20;3TIMES BALAG0;4GAN2 TENU0;4ME PLUS EN0
4SHA30;4TAK40;2AD0;2AK0;3TIMES ERIN20;4SHITA PLUS GISH0;2AL0;3TIMES AL0;4DIM20;4GISH0;4HA0;4KAD30
4KI0;4SHE0;4USH0;2ALAN0;2ALEPH0;2AMAR0;3TIMES SHE0;2AN0;3OVER AN0;3THREE TIMES0
3PLUS NAGA OPPOSING AN PLUS NAGA0;5SQUARED0;2ANSHE0;2APIN0;2ARAD0;3TIMES KUR0;2ARKAB0;2ASAL20
2ASH0;3ZIDA TENU0;3KABA1;3OVER ASH TUG2 OVER TUG2 TUG2 OVER TUG2 PAP0;5OVER ASH0
7CROSSING ASH OVER ASH OVER ASH0;2ASH20;2ASHGAB0;2BA0;2BAD0;2BAG30;2BAHAR20;2BAL0;3OVER BAL0
2BALAG0;2BAR0;2BARA20;2BI0;3TIMES A0;4GAR0;4IGI GUNU0;2BU0;3OVER BU AB0;5UN0;3CROSSING BU0;2BULUG0
3OVER BULUG0;2BUR0;2BUR20;2DA0;2DAG0;3KISIM5 TIMES A PLUS MASH0;5AMAR0;5BALAG0;5BI0;5GA0
6PLUS MASH0;5GI0;5GIR20;5GUD0;5HA0;5IR0;6PLUS LU0;5KAK0;5LA0;5LU0;6PLUS MASH20;5LUM0;5NE0
5PAP PLUS PAP0;5SI0;5TAK40;5U2 PLUS GIR20;5USH0;2DAM0;2DAR0;2DARA30;2DARA40;2DI0;2DIB0;2DIM0
3TIMES SHE0;2DIM20;2DIN0;3KASKAL U GUNU DISH0;21;2DU0;3OVER DU0;3GUNU0;3SHESHIG0;2DUB0
3TIMES ESH20;2DUB20;2DUG0;2DUGUD0;2DUH0;2DUN0;2DUN30;3GUNU0;4GUNU0;2DUN40;2DUR20;2E0;3TIMES PAP0
3OVER E NUN OVER NUN0;2E20;3TIMES A PLUS HA PLUS DA0;4GAR0;4MI0;4SAL0;4SHE0;4U0;2EDIN0;2EGIR0;2EL0
2EN0;3TIMES GAN20;5TENU0;4ME0;3CROSSING EN0;3OPPOSING1;3SQUARED0;2EREN0;2ERIN20;2ESH20;2EZEN0
3TIMES A0;5PLUS LAL0;7TIMES LAL0;4AN0;4BAD0;4DUN3 GUNU0;6GUNU0;4HA0;5GUNU0;4IGI1;4KASKAL0
5SQUARED0;4KU30;4LA0;4LAL TIMES LAL0;4LI0;4LU0;4U20;4UD0;2GA0;3GUNU0;2GA20
3TIMES A PLUS DA PLUS HA0;61;6IGI0;4AB2 TENU PLUS TAB0;4AN0;4ASH0;4ASH2 PLUS GAL0;4BAD0
4BAR PLUS RA0;4BUR0;5PLUS RA0;4DA0;4DI0;4DIM TIMES SHE0;4DUB0;4EL0;5PLUS LA0;4EN0
5TIMES GAN2 TENU0;42;4GAR0;4GI0;4GI40;5PLUS A0;4GIR2 PLUS SU0;4HA PLUS LU PLUS ESH20;4HAL0
5PLUS LA0;4HI PLUS LI0;4HUB20;4IGI GUNU0;4ISH PLUS HU PLUS ASH0;4KAK0;4KASKAL0;4KID0;5PLUS LAL0
4KU3 PLUS AN0;4LA0;4ME PLUS EN0;4MI0;4NUN0;5OVER NUN0;4PA0;4SAL0;4SAR0;4SHE0;5PLUS TUR0;4SHID0
4SUM0;4TAK40;4U0;4UD0;5PLUS DU0;3OVER GA20;2GABA0;3CROSSING GABA0;2GAD0;3OVER GAD GAR OVER GAR0
2GAL0;3GAD OVER GAD GAR OVER GAR0;2GALAM0;2GAM0;2GAN0;2GAN20;3TENU0;3OVER GAN20;3CROSSING1;2GAR0
2GAR30;2GASHAN0;2GESHTIN0;3TIMES KUR0;2GI0;3TIMES E0;4U0;3CROSSING GI0;2GI40;3OVER GI40;3CROSSING1
2GIDIM0;2GIR20;3GUNU0;2GIR30;3TIMES A PLUS IGI0;4GAN2 TENU0;4IGI0;4LU PLUS1;4PA0;2GISAL0;2GISH0
3CROSSING GISH0;3TIMES BAD0;4TAK40;3TENU0;2GU0;3CROSSING GU0;2GU20;3TIMES KAK0;5TIMES IGI GUNU0
4NUN0;4SAL PLUS TUG20;3GUNU0;2GUD0;3TIMES A PLUS KUR0;41;3OVER GUD LUGAL0;2GUL0;2GUM0;3TIMES SHE0
2GUR0;2GUR70;2GURUN0;2GURUSH0;2HA0;3TENU0;3GUNU0;2HAL0;2HI0;3TIMES ASH0;4ASH20;4BAD0;4DISH0;4GAD0
4KIN0;4NUN0;4SHE0;4U0;2HU0;2HUB20;3TIMES AN0;4HAL0;4KASKAL0;4LISH0;4UD0;2HUL20;2I0;3A0;2IB0;2IDIM0
3OVER IDIM BUR0;5SQUARED0;2IG0;2IGI0;3DIB0;3RI0;3OVER IGI SHIR OVER SHIR UD OVER UD0;3GUNU0;2IL0
3TIMES GAN2 TENU0;2IL20;2IM0;3TIMES TAK40;3CROSSING IM0;3OPPOSING1;3SQUARED0;2IMIN0;2IN0;2IR0
2ISH0;2KA0;3TIMES A0;4AD0;5PLUS KU30;4ASH20;4BAD0;4BALAG0;4BAR0;4BI0;4ERIN20;4ESH20;4GA0;4GAL0
4GAN2 TENU0;4GAR0;5PLUS SHA3 PLUS A0;4GI0;4GIR20;4GISH PLUS SAR0;5CROSSING GISH0;4GU0;4GUR70;4IGI0
4IM0;4KAK0;4KI0;4KID0;4LI0;4LU0;4ME0;5PLUS DU0;6GI0;6TE0;4MI0;5PLUS NUNUZ0;4NE0;4NUN0;4PI0;4RU0
4SA0;4SAR0;4SHA0;4SHE0;4SHID0;4SHU0;4SIG0;4SUHUR0;4TAR0;4U0;4U20;4UD0;4UMUM TIMES PA0;4USH0;4ZI0
2KA20;3CROSSING KA20;2KAB0;2KAD20;2KAD30;2KAD40;2KAD50;3OVER KAD50;2KAK0;3TIMES IGI GUNU0;2KAL0
3TIMES BAD0;3CROSSING KAL0;2KAM20;2KAM40;2KASKAL0;3LAGAB TIMES U OVER LAGAB TIMES U0;3OVER KASKAL7
2KESH20;2KI0;3TIMES BAD0;4U0;4UD0;2KID0;2KIN0;2KISAL0;2KISH0;2KISIM50;3OVER KISIM50;2KU0
3OVER HI TIMES ASH2 KU OVER HI TIMES ASH20;2KU30;2KU40;3VARIANT FORM0;2KU70;2KUL0;3GUNU0;2KUN0
2KUR0;3OPPOSING KUR0;2KUSHU20;2KWU3180;2LA0;2LAGAB0;3TIMES A0;5PLUS DA PLUS HA0;6GAR0;6LAL0;4AL0
4AN0;4ASH ZIDA TENU0;4BAD0;4BI0;4DAR0;4EN0;4GA0;4GAR0;4GUD0;5PLUS GUD0;4HA0;4HAL0;4HI TIMES NUN0
4IGI GUNU0;4IM0;5PLUS HA0;6LU0;4KI0;4KIN0;4KU30;4KUL0;5PLUS HI PLUS A0;4LAGAB0;4LISH0;4LU0;4LUL0
4ME0;5PLUS EN0;4MUSH0;4NE0;4SHE PLUS SUM0;4SHITA PLUS GISH PLUS ERIN20;7TENU0;4SHU20;5PLUS SHU20
4SUM0;4TAG0;4TAK40;4TE PLUS A PLUS SU PLUS NA0;4U0;5PLUS A0;6U PLUS U0;4U2 PLUS ASH0;4UD0;4USH0
3SQUARED0;2LAGAR0;3TIMES SHE0;5PLUS SUM0;3GUNU0;4OVER LAGAR GUNU SHE0;2LAHSHU0;2LAL0;3TIMES LAL0
2LAM0;3TIMES KUR0;5PLUS RU0;2LI0;2LIL0;2LIMMU20;2LISH0;2LU0;3TIMES BAD0;2LU20;3TIMES AL0;4BAD0
4ESH20;5TENU0;4GAN21;4HI TIMES BAD0;4IM0;4KAD20;4KAD30;5PLUS ASH0;4KI0;4LA PLUS ASH0;4LAGAB0
4ME PLUS EN0;4NE0;4NU0;4SI PLUS ASH0;4SIK2 PLUS BU0;4TUG20;3TENU0;3CROSSING LU20;3OPPOSING1
3SQUARED0;3SHESHIG0;2LU30;2LUGAL0;3OVER LUGAL0;3OPPOSING1;3SHESHIG0;2LUH0;2LUL0;2LUM0;3OVER LUM0
5GAR OVER GAR0;2MA0;3TIMES TAK40;3GUNU0;2MA20;2MAH0;2MAR0;2MASH0;2MASH20;2ME0;2MES0;2MI0;2MIN0
2MU0;3OVER MU0;2MUG0;3GUNU0;2MUNSUB0;2MURGU20;2MUSH0;3TIMES A0;4KUR0;4ZA0;3OVER MUSH0
5TIMES A PLUS NA0;3CROSSING MUSH0;2MUSH30;3TIMES A0;5PLUS DI0;41;3GUNU0;2NA0;2NA20;2NAGA0
3INVERTED0;3TIMES SHU TENU0;3OPPOSING NAGA0;2NAGAR0;2NAM NUTILLU0;30;2NAM20;2NE0;3TIMES A0;4UD0
3SHESHIG0;2NI0;3TIMES E0;2NI20;2NIM0;3TIMES GAN2 TENU0;4GAR PLUS2;2NINDA20;3TIMES AN0;4ASH0
5PLUS ASH0;4GUD0;4ME PLUS GAN2 TENU0;4NE0;4NUN0;4SHE0;5PLUS A AN0;6ASH0;7PLUS ASH0;4U22;4USH0
2NISAG0;2NU0;2NU110;2NUN0;3LAGAR TIMES GAR0;5MASH0;5SAL0;6OVER NUN LAGAR TIMES SAL0;5USH0;3TENU0
3OVER NUN0;3CROSSING1;5LAGAR OVER LAGAR0;2NUNUZ0;3AB2 TIMES ASHGAB0;5BI0;5DUG0;5GUD0;5IGI GUNU0
5KAD30;5LA0;5NE0;5SILA30;5U20;3KISIM5 TIMES BI0;6U0;2PA0;2PAD0;2PAN0;2PAP0;2PESH20;2PI0;3TIMES A0
4AB0;4BI0;4BU0;4E0;4I0;4IB0;4U0;4U20;3CROSSING PI0;2PIRIG0;3TIMES KAL0;4UD0;4ZA0;3OPPOSING PIRIG0
2RA0;2RAB0;2RI0;2RU0;2SA0;2SAG NUTILLU0;30;3TIMES A0;4DU0;4DUB0;4HA0;4KAK0;4KUR0;4LUM0;4MI0;4NUN0
4SAL0;4SHID0;4TAB0;4U20;4UB0;4UM0;4UR0;4USH0;3OVER SAG0;3GUNU0;2SAL0;3LAGAB TIMES ASH20;2SANGA20
2SAR0;2SHA0;2SHA30;3TIMES A0;4BAD0;4GISH0;4NE0;4SHU20;4TUR0;4U0;5PLUS A0;2SHA60;2SHAB60;2SHAR20
2SHE0;3HU0;3OVER SHE GAD OVER GAD GAR OVER GAR0;5TAB OVER TAB3;2SHEG90;2SHEN0;2SHESH0;2SHESH20
2SHESHLAM0;2SHID0;3TIMES A0;4IM0;2SHIM0;3TIMES A0;4BAL0;4BULUG0;4DIN0;4GAR0;4IGI0;5GUNU0;4KUSHU20
4LUL0;4MUG0;4SAL0;2SHINIG0;2SHIR0;3TENU0;3OVER SHIR BUR OVER BUR0;2SHITA0;2SHU0
3OVER INVERTED SHU0;2SHU20;2SHUBUR0;2SI0;3GUNU0;2SIG0;2SIG40;3OVER SIG4 SHU20;2SIK20;2SILA30;2SU0
3OVER SU0;2SUD0;2SUD20;2SUHUR0;2SUM0;2SUMASH0;2SUR0;2SUR90;2TA0;3ASTERISK0;3TIMES HI0;4MI0;3GUNU0
2TAB0;3OVER TAB NI OVER NI DISH OVER DISH0;3SQUARED0;2TAG0;3TIMES BI0;4GUD0;4SHE0;4SHU0;4TUG20
4UD0;2TAK40;2TAR0;2TE0;3GUNU0;2TI0;3TENU0;2TIL0;2TIR0;3TIMES TAK40;3OVER TIR0
5GAD OVER GAD GAR OVER GAR0;2TU0;2TUG20;2TUK0;2TUM0;2TUR0;3OVER TUR ZA OVER ZA0;2U0;3GUD0;3U U0
3OVER U PA OVER PA GAR OVER GAR0;5SUR OVER SUR0;5U REVERSED OVER U REVERSED0;2U20;2UB0;2UD0
3KUSHU20;3TIMES BAD0;4MI0;4U PLUS U PLUS U0;9GUNU0;31;3SHESHIG0;4TIMES BAD0;2UDUG0;2UM0
3TIMES LAGAB0;4ME PLUS DA0;4SHA30;4U0;2UMBIN0;2UMUM0;3TIMES KASKAL0;4PA0;2UN0;3GUNU0;2UR0
3CROSSING UR0;3SHESHIG0;2UR20;3TIMES A PLUS HA0;6NA0;4AL0;4HA0;4NUN0;4U20;5PLUS ASH0;6BI0;2UR40
2URI0;2URI30;2URU0;3TIMES A0;4ASHGAB0;4BAR0;4DUN0;4GA0;4GAL0;4GAN2 TENU0;4GAR0;4GU0;4HA0;4IGI0
4IM0;4ISH0;4KI0;4LUM0;4MIN0;4PA0;4SHE0;4SIG40;4TU0;4U PLUS GUD0;4UD0;4URUDA0;21;3TIMES U0;2USH0
3TIMES A0;4KU0;4KUR0;4TAK40;2USHX0;2USH20;2USHUMX0;2UTUKI0;2UZ30;3TIMES KASKAL0;2UZU0;2ZA0;3TENU0
3SQUARED TIMES KUR0;2ZAG0;2ZAMX0;2ZE20;2ZI0;3OVER ZI0;2ZI30;2ZIB0;3KABA TENU0;2ZIG0;2ZIZ20;2ZU0
2ZU50;3TIMES A0;2ZUBUR0;2ZUM0;2KAP ELAMITE0;2AB TIMES NUN0;2AB2 TIMES A0;2AMAR TIMES KUG0
2DAG KISIM5 TIMES U2 PLUS MASH0;2DAG30;2DISH PLUS SHU0;2DUB TIMES SHE0;2EZEN TIMES GUD0;4SHE0
2GA2 TIMES AN PLUS KAK PLUS A0;4ASH20;2GE220;2GIG0;2HUSH0;2KA TIMES ANSHE0;4ASH30;4GISH0;4GUD0
4HI TIMES ASH20;4LUM0;4PA0;4SHUL0;4TU0;4UR20;2LAGAB TIMES GI0;2LU2 SHESHIG TIMES BAD0
3TIMES ESH2 PLUS LAL0;4SHU0;2MESH0;2MUSH3 TIMES ZA0;2NA40;2NIN0;2NIN90;2NINDA2 TIMES BAL0;4GI0
2NU11 ROTATED NINETY DEGREES0;2PESH2 ASTERISK0;2PIR20;2SAG TIMES IGI GUNU0;2TI20;2UM TIMES ME0
2U U0;12400:0CUNEIFORM NUMERIC SIGN TWO ASH0;3THREE1;3FOUR1;3FIVE1;3SIX1;3SEVEN1;3EIGHT1;3NINE1
3THREE DISH0;3FOUR1;3FIVE1;3SIX1;3SEVEN1;3EIGHT1;3NINE1;3FOUR U0;3FIVE1;3SIX1;3SEVEN1;3EIGHT1
3NINE1;3ONE GESH20;3TWO1;3THREE1;3FOUR1;3FIVE1;3SIX1;3SEVEN1;3EIGHT1;3NINE1;3ONE GESHU0;3TWO1
3THREE1;3FOUR1;3FIVE1;3TWO SHAR20;3THREE1;5VARIANT FORM0;3FOUR SHAR20;3FIVE1;3SIX1;3SEVEN1;3EIGHT1
3NINE1;3ONE SHARU0;3TWO1;3THREE1;5VARIANT FORM0;3FOUR SHARU0;3FIVE1;3SHAR2 TIMES GAL PLUS DISH0
7MIN0;3ONE BURU0;3TWO1;3THREE1;5VARIANT FORM0;3FOUR BURU0;3FIVE1;3THREE VARIANT FORM ESH160
6ESH210;3FOUR VARIANT FORM LIMMU0;6LIMMU40;6LIMMU A0;7B0;3SIX VARIANT FORM ASH90
3SEVEN VARIANT FORM IMIN30;6IMIN A0;7B0;3EIGHT VARIANT FORM USSU0;6USSU30
3NINE VARIANT FORM ILIMMU0;6ILIMMU30;6ILIMMU40;6ILIMMU A0;3TWO ASH TENU0;3THREE2;3FOUR2;3FIVE2
3SIX2;3ONE BAN20;3TWO1;3THREE1;3FOUR1;5VARIANT FORM0;3FIVE BAN20;5VARIANT FORM0;3NIGIDAMIN0
3NIGIDAESH0;3ONE ESHE30;3TWO1;3ONE THIRD DISH0;3TWO THIRDS1;3FIVE SIXTHS1
3ONE THIRD VARIANT FORM A0;3TWO THIRDS3;3ONE EIGHTH ASH0;4QUARTER1;3OLD ASSYRIAN ONE SIXTH0
6QUARTER0;3ONE QUARTER GUR0;4HALF1;3ELAMITE ONE THIRD0;4TWO THIRDS0;4FORTY0;4FIFTY0
3FOUR U VARIANT FORM0;3FIVE3;3SIX3;3SEVEN3;3EIGHT3;3NINE3
12470:0CUNEIFORM PUNCTUATION SIGN OLD ASSYRIAN WORD DIVIDER0;3VERTICAL COLON0;3DIAGONAL1
4TRICOLON0;4QUADCOLON0;12480:0CUNEIFORM SIGN AB TIMES NUN TENU0;4SHU20;2AD TIMES ESH20
2BAD TIMES DISH TENU0;2BAHAR2 TIMES AB20;4NI0;4ZA0;2BU OVER BU TIMES NA20;2DA TIMES TAK40
2DAG TIMES KUR0;2DIM TIMES IGI0;4U U U0;2DIM2 TIMES UD0;2DUG TIMES ANSHE0;4ASH0;5AT LEFT0;4DIN0
4DUN0;4ERIN20;4GA0;4GI0;4GIR2 GUNU0;4GISH0;4HA0;4HI0;4IGI GUNU0;4KASKAL0;4KUR0;4KUSHU20
5PLUS KASKAL0;4LAK-0200;4LAM0;5TIMES KUR0;4LUH PLUS GISH0;4MASH0;4MES0;4MI0;4NI0;4PI0;4SHE0
4SI GUNU0;2E2 TIMES KUR0;4PAP0;2ERIN2 X0;2ESH2 CROSSING ESH20;2EZEN SHESHIG TIMES ASH0;5HI0
5IGI GUNU0;5LA0;5LAL0;5ME0;5MES0;5SU0;32;2GA2 TIMES BAHAR20;4DIM GUNU0;4DUG TIMES IGI1;6KASKAL0
4EREN0;4GA0;4GAR PLUS DI0;6NE0;4HA PLUS A0;4KUSHU2 PLUS KASKAL0;4LAM0;5TIMES KUR0;4LUH0;4MUSH0
4NE0;5PLUS E20;6GI0;4SHIM0;4ZIZ20;2GABA ROTATED NINETY DEGREES0;2GESHTIN TIMES U0
2GISH TIMES GISH CROSSING GISH0;2GU2 TIMES IGI GUNU0;2GUD PLUS GISH TIMES TAK40;2HA TENU GUNU0
2HI TIMES ASH OVER HI TIMES ASH0;2KA TIMES BU0;4KA0;4U U U0;4UR0;2LAGAB TIMES ZU OVER ZU0
2LAK-0030;2LAK-0210;2LAK-0250;2LAK-0300;2LAK-0500;2LAK-0510;2LAK-0620;2LAK-079 OVER LAK-079 GUNU0
2LAK-0800;2LAK-081 OVER LAK-0810;2LAK-0920;2LAK-1300;2LAK-1420;2LAK-2100;2LAK-2190;2LAK-2200
2LAK-2250;2LAK-2280;2LAK-2380;2LAK-2650;2LAK-2660;2LAK-3430;2LAK-3470;2LAK-3480;2LAK-3830
2LAK-3840;2LAK-3900;2LAK-4410;2LAK-4490;3TIMES GU0;4IGI0;4PAP PLUS LU30;6PAP PLUS1;4U2 PLUS BA0
2LAK-4500;2LAK-4570;2LAK-4700;2LAK-4830;2LAK-4900;2LAK-4920;2LAK-4930;2LAK-4950;2LAK-5500
2LAK-6080;2LAK-6170;3TIMES ASH0;4BAD0;4DUN3 GUNU GUNU0;4KU30;4LA0;4TAR0;4TE0;4U20;4UD0;4URUDA0
2LAK-6360;2LAK-6480;3TIMES DUB0;4GA0;4IGI0;5GUNU0;4NI0;4PAP PLUS PAP PLUS LU30;4SHESH PLUS KI0
4UD0;4URUDA0;2LAK-7240;2LAK-7490;2LU2 GUNU TIMES ASH0;3TIMES DISH0;4HAL0;4PAP0;5PLUS PAP PLUS LU30
4TAK40;2MI PLUS ZA70;2MUSH OVER MUSH TIMES GA0;6KAK0;2NINDA2 TIMES DIM GUNU0;4GISH0;4GUL0;4HI0
4KESH20;4LAK-0500;4MASH0;4PAP PLUS PAP0;4U0;5PLUS U0;4URUDA0;2SAG GUNU TIMES HA0;3TIMES EN0
4SHE AT LEFT0;4TAK40;2SHA6 TENU0;2SHE OVER SHE0;3PLUS HUB20;4NAM20;4SAR0;2SHU2 PLUS DUG TIMES NI0
4E2 TIMES AN0;2SI TIMES TAK40;2TAK4 PLUS SAG0;2TUM TIMES GAN2 TENU0;4THREE DISH0;2UR2 INVERTED0
3TIMES UD0;2URU TIMES DARA30;4LAK-6680;4LU30;2ZA70;2ZU OVER ZU PLUS SAR0
2ZU5 TIMES THREE DISH TENU0;12f90:0CYPRO-MINOAN SIGN CM0010;2CM0020;2CM0040;2CM0050;2CM0060
2CM0070;2CM0080;2CM0090;2CM0100;2CM0110;2CM0120;2CM012B0;2CM0130;2CM0150;2CM0170;2CM0190;2CM0210
2CM0230;2CM0240;2CM0250;2CM0260;2CM0270;2CM0280;2CM0290;2CM0300;2CM0330;2CM0340;2CM0350;2CM0360
2CM0370;2CM0380;2CM0390;2CM0400;2CM0410;2CM0440;2CM0460;2CM0470;2CM0490;2CM0500;2CM0510;2CM0520
2CM0530;2CM0540;2CM0550;2CM0560;2CM0580;2CM0590;2CM0600;2CM0610;2CM0620;2CM0630;2CM0640;2CM0660
2CM0670;2CM0680;2CM0690;2CM0700;2CM0710;2CM0720;2CM0730;2CM0740;2CM0750;2CM075B0;2CM0760;2CM0780
2CM0790;2CM0800;2CM0810;2CM0820;2CM0830;2CM0840;2CM0850;2CM0860;2CM0870;2CM0880;2CM0890;2CM0900
2CM0910;2CM0920;2CM0940;2CM0950;2CM0960;2CM0970;2CM0980;2CM0990;2CM1000;2CM1010;2CM1020;2CM1030
2CM1040;2CM1050;2CM1070;2CM1080;2CM1090;2CM1100;2CM1120;2CM1140;2CM3010;2CM3020
13000:0EGYPTIAN HIEROGLYPH A0010;2A0020;2A0030;2A0040;2A0050;2A005A0;2A0060;2A006A0;2A006B0;2A0070
2A0080;2A0090;2A0100;2A0110;2A0120;2A0130;2A0140;2A014A0;2A0150;2A0160;2A0170;2A017A0;2A0180
2A0190;2A0200;2A0210;2A0220;2A0230;2A0240;2A0250;2A0260;2A0270;2A0280;2A0290;2A0300;2A0310;2A0320
2A032A0;2A0330;2A0340;2A0350;2A0360;2A0370;2A0380;2A0390;2A0400;2A040A0;2A0410;2A0420;2A042A0
2A0430;2A043A0;2A0440;2A0450;2A045A0;2A0460;2A0470;2A0480;2A0490;2A0500;2A0510;2A0520;2A0530
2A0540;2A0550;2A0560;2A0570;2A0580;2A0590;2A0600;2A0610;2A0620;2A0630;2A0640;2A0650;2A0660;2A0670
2A0680;2A0690;2A0700;2B0010;2B0020;2B0030;2B0040;2B0050;2B005A0;2B0060;2B0070;2B0080;2B0090;2C0010
2C0020;2C002A0;2C002B0;2C002C0;2C0030;2C0040;2C0050;2C0060;2C0070;2C0080;2C0090;2C0100;2C010A0
2C0110;2C0120;2C0130;2C0140;2C0150;2C0160;2C0170;2C0180;2C0190;2C0200;2C0210;2C0220;2C0230;2C0240
2D0010;2D0020;2D0030;2D0040;2D0050;2D0060;2D0070;2D0080;2D008A0;2D0090;2D0100;2D0110;2D0120;2D0130
2D0140;2D0150;2D0160;2D0170;2D0180;2D0190;2D0200;2D0210;2D0220;2D0230;2D0240;2D0250;2D0260;2D0270
2D027A0;2D0280;2D0290;2D0300;2D0310;2D031A0;2D0320;2D0330;2D0340;2D034A0;2D0350;2D0360;2D0370
2D0380;2D0390;2D0400;2D0410;2D0420;2D0430;2D0440;2D0450;2D0460;2D046A0;2D0470;2D0480;2D048A0
2D0490;2D0500;2D050A0;2D050B0;2D050C0;2D050D0;2D050E0;2D050F0;2D050G0;2D050H0;2D050I0;2D0510
2D0520;2D052A0;2D0530;2D0540;2D054A0;2D0550;2D0560;2D0570;2D0580;2D0590;2D0600;2D0610;2D0620
2D0630;2D0640;2D0650;2D0660;2D0670;2D067A0;2D067B0;2D067C0;2D067D0;2D067E0;2D067F0;2D067G0;2D067H0
2E0010;2E0020;2E0030;2E0040;2E0050;2E0060;2E0070;2E0080;2E008A0;2E0090;2E009A0;2E0100;2E0110
2E0120;2E0130;2E0140;2E0150;2E0160;2E016A0;2E0170;2E017A0;2E0180;2E0190;2E0200;2E020A0;2E0210
2E0220;2E0230;2E0240;2E0250;2E0260;2E0270;2E0280;2E028A0;2E0290;2E0300;2E0310;2E0320;2E0330;2E0340
2E034A0;2E0360;2E0370;2E0380;2F0010;2F001A0;2F0020;2F0030;2F0040;2F0050;2F0060;2F0070;2F0080
2F0090;2F0100;2F0110;2F0120;2F0130;2F013A0;2F0140;2F0150;2F0160;2F0170;2F0180;2F0190;2F0200;2F0210
2F021A0;2F0220;2F0230;2F0240;2F0250;2F0260;2F0270;2F0280;2F0290;2F0300;2F0310;2F031A0;2F0320
2F0330;2F0340;2F0350;2F0360;2F0370;2F037A0;2F0380;2F038A0;2F0390;2F0400;2F0410;2F0420;2F0430
2F0440;2F0450;2F045A0;2F0460;2F046A0;2F0470;2F047A0;2F0480;2F0490;2F0500;2F0510;2F051A0;2F051B0
2F051C0;2F0520;2F0530;2G0010;2G0020;2G0030;2G0040;2G0050;2G0060;2G006A0;2G0070;2G007A0;2G007B0
2G0080;2G0090;2G0100;2G0110;2G011A0;2G0120;2G0130;2G0140;2G0150;2G0160;2G0170;2G0180;2G0190;2G0200
2G020A0;2G0210;2G0220;2G0230;2G0240;2G0250;2G0260;2G026A0;2G0270;2G0280;2G0290;2G0300;2G0310
2G0320;2G0330;2G0340;2G0350;2G0360;2G036A0;2G0370;2G037A0;2G0380;2G0390;2G0400;2G0410;2G0420
2G0430;2G043A0;2G0440;2G0450;2G045A0;2G0460;2G0470;2G0480;2G0490;2G0500;2G0510;2G0520;2G0530
2G0540;2H0010;2H0020;2H0030;2H0040;2H0050;2H0060;2H006A0;2H0070;2H0080;2I0010;2I0020;2I0030;2I0040
2I0050;2I005A0;2I0060;2I0070;2I0080;2I0090;2I009A0;2I0100;2I010A0;2I0110;2I011A0;2I0120;2I0130
2I0140;2I0150;2K0010;2K0020;2K0030;2K0040;2K0050;2K0060;2K0070;2K0080;2L0010;2L0020;2L002A0;2L0030
2L0040;2L0050;2L0060;2L006A0;2L0070;2L0080;2M0010;2M001A0;2M001B0;2M0020;2M0030;2M003A0;2M0040
2M0050;2M0060;2M0070;2M0080;2M0090;2M0100;2M010A0;2M0110;2M0120;2M012A0;2M012B0;2M012C0;2M012D0
2M012E0;2M012F0;2M012G0;2M012H0;2M0130;2M0140;2M0150;2M015A0;2M0160;2M016A0;2M0170;2M017A0;2M0180
2M0190;2M0200;2M0210;2M0220;2M022A0;2M0230;2M0240;2M024A0;2M0250;2M0260;2M0270;2M0280;2M028A0
2M0290;2M0300;2M0310;2M031A0;2M0320;2M0330;2M033A0;2M033B0;2M0340;2M0350;2M0360;2M0370;2M0380
2M0390;2M0400;2M040A0;2M0410;2M0420;2M0430;2M0440;2N0010;2N0020;2N0030;2N0040;2N0050;2N0060;2N0070
2N0080;2N0090;2N0100;2N0110;2N0120;2N0130;2N0140;2N0150;2N0160;2N0170;2N0180;2N018A0;2N018B0
2N0190;2N0200;2N0210;2N0220;2N0230;2N0240;2N0250;2N025A0;2N0260;2N0270;2N0280;2N0290;2N0300;2N0310
2N0320;2N0330;2N033A0;2N0340;2N034A0;2N0350;2N035A0;2N0360;2N0370;2N037A0;2N0380;2N0390;2N0400
2N0410;2N0420;2NL0010;2NL0020;2NL0030;2NL0040;2NL0050;2NL005A0;2NL0060;2NL0070;2NL0080;2NL0090
2NL0100;2NL0110;2NL0120;2NL0130;2NL0140;2NL0150;2NL0160;2NL0170;2NL017A0;2NL0180;2NL0190;2NL0200
2NU0010;2NU0020;2NU0030;2NU0040;2NU0050;2NU0060;2NU0070;2NU0080;2NU0090;2NU0100;2NU010A0;2NU0110
2NU011A0;2NU0120;2NU0130;2NU0140;2NU0150;2NU0160;2NU0170;2NU0180;2NU018A0;2NU0190;2NU0200;2NU0210
2NU0220;2NU022A0;2O0010;2O001A0;2O0020;2O0030;2O0040;2O0050;2O005A0;2O0060;2O006A0;2O006B0;2O006C0
2O006D0;2O006E0;2O006F0;2O0070;2O0080;2O0090;2O0100;2O010A0;2O010B0;2O010C0;2O0110;2O0120;2O0130
2O0140;2O0150;2O0160;2O0170;2O0180;2O0190;2O019A0;2O0200;2O020A0;2O0210;2O0220;2O0230;2O0240
2O024A0;2O0250;2O025A0;2O0260;2O0270;2O0280;2O0290;2O029A0;2O0300;2O030A0;2O0310;2O0320;2O0330
2O033A0;2O0340;2O0350;2O0360;2O036A0;2O036B0;2O036C0;2O036D0;2O0370;2O0380;2O0390;2O0400;2O0410
2O0420;2O0430;2O0440;2O0450;2O0460;2O0470;2O0480;2O0490;2O0500;2O050A0;2O050B0;2O0510;2P0010
2P001A0;2P0020;2P0030;2P003A0;2P0040;2P0050;2P0060;2P0070;2P0080;2P0090;2P0100;2P0110;2Q0010
2Q0020;2Q0030;2Q0040;2Q0050;2Q0060;2Q0070;2R0010;2R0020;2R002A0;2R0030;2R003A0;2R003B0;2R0040
2R0050;2R0060;2R0070;2R0080;2R0090;2R0100;2R010A0;2R0110;2R0120;2R0130;2R0140;2R0150;2R0160
2R016A0;2R0170;2R0180;2R0190;2R0200;2R0210;2R0220;2R0230;2R0240;2R0250;2R0260;2R0270;2R0280;2R0290
2S0010;2S0020;2S002A0;2S0030;2S0040;2S0050;2S0060;2S006A0;2S0070;2S0080;2S0090;2S0100;2S0110
2S0120;2S0130;2S0140;2S014A0;2S014B0;2S0150;2S0160;2S0170;2S017A0;2S0180;2S0190;2S0200;2S0210
2S0220;2S0230;2S0240;2S0250;2S0260;2S026A0;2S026B0;2S0270;2S0280;2S0290;2S0300;2S0310;2S0320
2S0330;2S0340;2S0350;2S035A0;2S0360;2S0370;2S0380;2S0390;2S0400;2S0410;2S0420;2S0430;2S0440;2S0450
2S0460;2T0010;2T0020;2T0030;2T003A0;2T0040;2T0050;2T0060;2T0070;2T007A0;2T0080;2T008A0;2T0090
2T009A0;2T0100;2T0110;2T011A0;2T0120;2T0130;2T0140;2T0150;2T0160;2T016A0;2T0170;2T0180;2T0190
2T0200;2T0210;2T0220;2T0230;2T0240;2T0250;2T0260;2T0270;2T0280;2T0290;2T0300;2T0310;2T0320;2T032A0
2T0330;2T033A0;2T0340;2T0350;2T0360;2U0010;2U0020;2U0030;2U0040;2U0050;2U0060;2U006A0;2U006B0
2U0070;2U0080;2U0090;2U0100;2U0110;2U0120;2U0130;2U0140;2U0150;2U0160;2U0170;2U0180;2U0190;2U0200
2U0210;2U0220;2U0230;2U023A0;2U0240;2U0250;2U0260;2U0270;2U0280;2U0290;2U029A0;2U0300;2U0310
2U0320;2U032A0;2U0330;2U0340;2U0350;2U0360;2U0370;2U0380;2U0390;2U0400;2U0410;2U0420;2V0010
2V001A0;2V001B0;2V001C0;2V001D0;2V001E0;2V001F0;2V001G0;2V001H0;2V001I0;2V0020;2V002A0;2V0030
2V0040;2V0050;2V0060;2V0070;2V007A0;2V007B0;2V0080;2V0090;2V0100;2V0110;2V011A0;2V011B0;2V011C0
2V0120;2V012A0;2V012B0;2V0130;2V0140;2V0150;2V0160;2V0170;2V0180;2V0190;2V0200;2V020A0;2V020B0
2V020C0;2V020D0;2V020E0;2V020F0;2V020G0;2V020H0;2V020I0;2V020J0;2V020K0;2V020L0;2V0210;2V0220
2V0230;2V023A0;2V0240;2V0250;2V0260;2V0270;2V0280;2V028A0;2V0290;2V029A0;2V0300;2V030A0;2V0310
2V031A0;2V0320;2V0330;2V033A0;2V0340;2V0350;2V0360;2V0370;2V037A0;2V0380;2V0390;2V0400;2V040A0
2W0010;2W0020;2W0030;2W003A0;2W0040;2W0050;2W0060;2W0070;2W0080;2W0090;2W009A0;2W0100;2W010A0
2W0110;2W0120;2W0130;2W0140;2W014A0;2W0150;2W0160;2W0170;2W017A0;2W0180;2W018A0;2W0190;2W0200
2W0210;2W0220;2W0230;2W0240;2W024A0;2W0250;2X0010;2X0020;2X0030;2X0040;2X004A0;2X004B0;2X0050
2X0060;2X006A0;2X0070;2X0080;2X008A0;2Y0010;2Y001A0;2Y0020;2Y0030;2Y0040;2Y0050;2Y0060;2Y0070
2Y0080;2Z0010;2Z0020;2Z002A0;2Z002B0;2Z002C0;2Z002D0;2Z0030;2Z003A0;2Z003B0;2Z0040;2Z004A0;2Z0050
2Z005A0;2Z0060;2Z0070;2Z0080;2Z0090;2Z0100;2Z0110;2Z0120;2Z0130;2Z0140;2Z0150;2Z015A0;2Z015B0
2Z015C0;2Z015D0;2Z015E0;2Z015F0;2Z015G0;2Z015H0;2Z015I0;2Z0160;2Z016A0;2Z016B0;2Z016C0;2Z016D0
2Z016E0;2Z016F0;2Z016G0;2Z016H0;2AA0010;2AA0020;2AA0030;2AA0040;2AA0050;2AA0060;2AA0070;2AA007A0
2AA007B0;2AA0080;2AA0090;2AA0100;2AA0110;2AA0120;2AA0130;2AA0140;2AA0150;2AA0160;2AA0170;2AA0180
2AA0190;2AA0200;2AA0210;2AA0220;2AA0230;2AA0240;2AA0250;2AA0260;2AA0270;2AA0280;2AA0290;2AA0300
2AA0310;2AA0320;13430:0EGYPTIAN HIEROGLYPH VERTICAL JOINER0;2HORIZONTAL1;2INSERT AT TOP START0
4BOTTOM1;4TOP END0;4BOTTOM1;2OVERLAY MIDDLE0;2BEGIN SEGMENT0;2END1
14400:0ANATOLIAN HIEROGLYPH A0010;2A0020;2A0030;2A0040;2A0050;2A0060;2A0070;2A0080;2A0090;2A0100
2A010A0;2A0110;2A0120;2A0130;2A0140;2A0150;2A0160;2A0170;2A0180;2A0190;2A0200;2A0210;2A0220;2A0230
2A0240;2A0250;2A0260;2A026A0;2A0270;2A0280;2A0290;2A0300;2A0310;2A0320;2A0330;2A0340;2A0350;2A0360
2A0370;2A0380;2A0390;2A039A0;2A0400;2A0410;2A041A0;2A0420;2A0430;2A0440;2A0450;2A045A0;2A0460
2A046A0;2A046B0;2A0470;2A0480;2A0490;2A0500;2A0510;2A0520;2A0530;2A0540;2A0550;2A0560;2A0570
2A0580;2A0590;2A0600;2A0610;2A0620;2A0630;2A0640;2A0650;2A0660;2A066A0;2A066B0;2A066C0;2A0670
2A0680;2A0690;2A0700;2A0710;2A0720;2A0730;2A0740;2A0750;2A0760;2A0770;2A0780;2A0790;2A0800;2A0810
2A0820;2A0830;2A0840;2A0850;2A0860;2A0870;2A0880;2A0890;2A0900;2A0910;2A0920;2A0930;2A0940;2A0950
2A0960;2A0970;2A097A0;2A0980;2A098A0;2A0990;2A1000;2A100A0;2A1010;2A101A0;2A1020;2A102A0;2A1030
2A1040;2A104A0;2A104B0;2A104C0;2A1050;2A105A0;2A105B0;2A1060;2A1070;2A107A0;2A107B0;2A107C0;2A1080
2A1090;2A1100;2A110A0;2A110B0;2A1110;2A1120;2A1130;2A1140;2A1150;2A115A0;2A1160;2A1170;2A1180
2A1190;2A1200;2A1210;2A1220;2A1230;2A1240;2A1250;2A125A0;2A1260;2A1270;2A1280;2A1290;2A1300;2A1310
2A1320;2A1330;2A1340;2A1350;2A135A0;2A1360;2A1370;2A1380;2A1390;2A1400;2A1410;2A1420;2A1430;2A1440
2A1450;2A1460;2A1470;2A1480;2A1490;2A1500;2A1510;2A1520;2A1530;2A1540;2A1550;2A1560;2A1570;2A1580
2A1590;2A1600;2A1610;2A1620;2A1630;2A1640;2A1650;2A1660;2A1670;2A1680;2A1690;2A1700;2A1710;2A1720
2A1730;2A1740;2A1750;2A1760;2A1770;2A1780;2A1790;2A1800;2A1810;2A1820;2A1830;2A1840;2A1850;2A1860
2A1870;2A1880;2A1890;2A1900;2A1910;2A1920;2A1930;2A1940;2A1950;2A1960;2A1970;2A1980;2A1990;2A2000
2A2010;2A2020;2A202A0;2A202B0;2A2030;2A2040;2A2050;2A2060;2A2070;2A207A0;2A2080;2A2090;2A209A0
2A2100;2A2110;2A2120;2A2130;2A2140;2A2150;2A215A0;2A2160;2A216A0;2A2170;2A2180;2A2190;2A2200
2A2210;2A2220;2A2230;2A2240;2A2250;2A2260;2A2270;2A227A0;2A2280;2A2290;2A2300;2A2310;2A2320;2A2330
2A2340;2A2350;2A2360;2A2370;2A2380;2A2390;2A2400;2A2410;2A2420;2A2430;2A2440;2A2450;2A2460;2A2470
2A2480;2A2490;2A2500;2A2510;2A2520;2A2530;2A2540;2A2550;2A2560;2A2570;2A2580;2A2590;2A2600;2A2610
2A2620;2A2630;2A2640;2A2650;2A2660;2A2670;2A267A0;2A2680;2A2690;2A2700;2A2710;2A2720;2A2730;2A2740
2A2750;2A2760;2A2770;2A2780;2A2790;2A2800;2A2810;2A2820;2A2830;2A2840;2A2850;2A2860;2A2870;2A2880
2A2890;2A289A0;2A2900;2A2910;2A2920;2A2930;2A2940;2A294A0;2A2950;2A2960;2A2970;2A2980;2A2990
2A299A0;2A3000;2A3010;2A3020;2A3030;2A3040;2A3050;2A3060;2A3070;2A3080;2A3090;2A309A0;2A3100
2A3110;2A3120;2A3130;2A3140;2A3150;2A3160;2A3170;2A3180;2A3190;2A3200;2A3210;2A3220;2A3230;2A3240
2A3250;2A3260;2A3270;2A3280;2A3290;2A329A0;2A3300;2A3310;2A332A0;2A332B0;2A332C0;2A3330;2A3340
2A3350;2A3360;2A336A0;2A336B0;2A336C0;2A3370;2A3380;2A3390;2A3400;2A3410;2A3420;2A3430;2A3440
2A3450;2A3460;2A3470;2A3480;2A3490;2A3500;2A3510;2A3520;2A3530;2A3540;2A3550;2A3560;2A3570;2A3580
2A3590;2A359A0;2A3600;2A3610;2A3620;2A3630;2A3640;2A364A0;2A3650;2A3660;2A3670;2A3680;2A368A0
2A3690;2A3700;2A3710;2A371A0;2A3720;2A3730;2A3740;2A3750;2A3760;2A3770;2A3780;2A3790;2A3800;2A3810
2A381A0;2A3820;2A383 RA OR RI0;2A383A0;2A3840;2A3850;2A3860;2A386A0;2A3870;2A3880;2A3890;2A3900
2A3910;2A3920;2A393 EIGHT0;2A3940;2A3950;2A3960;2A3970;2A3980;2A3990;2A4000;2A4010;2A4020;2A4030
2A4040;2A4050;2A4060;2A4070;2A4080;2A4090;2A410 BEGIN LOGOGRAM MARK0;2A410A END2;2A4110;2A4120
2A4130;2A4140;2A4150;2A4160;2A4170;2A4180;2A4190;2A4200;2A4210;2A4220;2A4230;2A4240;2A4250;2A4260
2A4270;2A4280;2A4290;2A4300;2A4310;2A4320;2A4330;2A4340;2A4350;2A4360;2A4370;2A4380;2A4390;2A4400
2A4410;2A4420;2A4430;2A4440;2A4450;2A4460;2A4470;2A4480;2A4490;2A4500;2A450A0;2A4510;2A4520;2A4530
2A4540;2A4550;2A4560;2A4570;2A457A0;2A4580;2A4590;2A4600;2A4610;2A4620;2A4630;2A4640;2A4650;2A4660
2A4670;2A4680;2A4690;2A4700;2A4710;2A4720;2A4730;2A4740;2A4750;2A4760;2A4770;2A4780;2A4790;2A4800
2A4810;2A4820;2A4830;2A4840;2A4850;2A4860;2A4870;2A4880;2A4890;2A4900;2A4910;2A4920;2A4930;2A4940
2A4950;2A4960;2A4970;2A5010;2A5020;2A5030;2A5040;2A5050;2A5060;2A5070;2A5080;2A5090;2A5100;2A5110
2A5120;2A5130;2A5140;2A5150;2A5160;2A5170;2A5180;2A5190;2A5200;2A5210;2A5220;2A5230;2A5240;2A5250
2A5260;2A5270;2A5280;2A5290;2A5300;16800:0BAMUM LETTER PHASE-A NGKUE MFON0;3GBIEE FON0
3PON MFON PIPAEMGBIEE0;5PIPAEMBA0;3NAA MFON0;3SHUENSHUET0;3TITA MFON0;3NZA1;3SHINDA PA NJI0
3PON PA NJI PIPAEMGBIEE0;6PIPAEMBA0;3MAEMBGBIEE0;3TU MAEMBA0;3NGANGU0;3MAEMVEUX0;3MANSUAE0
3MVEUAENGAM0;3SEUNYAM0;3NTOQPEN0;3KEUKEUTNDA0;3NKINDI0;3SUU0;3NGKUENZEUM0;3LAPAQ0;3LET KUT0
3NTAP MFAA0;3MAEKEUP0;3PASHAE0;3GHEUAERAE0;3PAMSHAE0;3MON NGGEUAET0;3NZUN MEUT0;3U YUQ NAE0
3GHEUAEGHEUAE0;3NTAP NTAA0;3SISA0;3MGBASA0;3MEUNJOMNDEUQ0;3MOOMPUQ0;3KAFA0;3PA LEERAEWA0;3NDA1
3PET0;3MAEMKPEN0;3NIKA0;3PUP0;3TUAEP0;3LUAEP0;3SONJAM0;3TEUTEUWEN0;3MAENYI0;3KET0;3NDAANGGEUAET0
3KUOQ0;3MOOMEUT0;3SHUM0;3LOMMAE0;3FIRI0;3ROM0;3KPOQ0;3SOQ0;3MAP PIEET0;3SHIRAE0;3NTAP0
3SHOQ NSHUT YUM0;3NYIT MONGKEUAEQ0;3PAARAE0;3NKAARAE0;3UNKNOWN0;3NGGEN0;3MAESI0;3NJAM0;3MBANYI0
3NYET0;3TEUAEN0;3SOT0;3PAAM0;3NSHIEE0;3MAEM0;3NYI0;3KAQ0;3NSHA0;3VEE0;3LU0;3NEN0;3NAQ0;3MBAQ0
2PHASE-B NSHUET0;3TU MAEMGBIEE0;3SIEE0;3SET TU0;3LOM NTEUM0;3MBA MAELEE0;3KIEEM0;3YEURAE0
3MBAARAE0;3KAM0;3PEESHI0;3YAFU LEERAEWA0;3LAM NSHUT NYAM0;3NTIEE SHEUOQ0;3NDU NJAA0;3GHEUGHEUAEM0
3PIT0;3TU NSIEE0;3SHET NJAQ0;3SHEUAEQTU0;3MFON TEUAEQ0;3MBIT MBAAKET0;3NYI NTEUM0;3KEUPUQ0
3GHEUGHEN0;3KEUYEUX0;3LAANAE0;3PARUM0;3VEUM0;3NGKINDI MVOP0;3NGGEU MBU0;3WUAET0;3SAKEUAE0;3TAAM0
3MEUQ0;3NGGUOQ0;4LARGE0;3MFIYAQ0;3SUE0;3MBEURI0;3MONTIEEN0;3NYAEMAE0;3PUNGAAM0;3MEUT NGGEET0
3FEUX0;3MBUOQ0;3FEE0;3KEUAEM0;3MA NJEUAENA0;4NJUQA0;3LET0;3NGGAAM0;3NSEN0;3MA0;3KIQ0;3NGOM0
2PHASE-C NGKUE MAEMBA0;3NZA0;3YUM0;3WANGKUOQ0;3NGGEN0;3NDEUAEREE0;3NGKAQ0;3GHARAE0;3MBEEKEET0
3GBAYI0;3NYIR MKPARAQ MEUN0;3NTU MBIT0;3MBEUM0;3PIRIEEN0;3NDOMBU0;3MBAA CABBAGE-TREE0;3KEUSHEUAEP0
3GHAP0;3KEUKAQ0;3YU MUOMAE0;3NZEUM0;3MBUE0;3NSEUAEN0;3MBIT0;3YEUQ0;3KPARAQ0;3KAA0;3SEUX0;3NDIDA0
3TAASHAE0;3NJUEQ0;3TITA YUE0;3SUAET0;3NGGUAEN NYAM0;3VEUX0;3NANSANAQ0;3MA KEUAERI0;3NTAA0;3NGGUON0
3LAP0;3MBIRIEEN0;3MGBASAQ0;3NTEUNGBA0;3TEUTEUX0;3NGGUM0;3FUE0;3NDEUT0;3NSA0;3NSHAQ0;3BUNG0
3VEUAEPEN0;3MBERAE0;3RU0;3NJAEM0;3LAM0;3TITUAEP0;3NSUOT NGOM0;3NJEEEE0;3KET0;3NGGU0;3MAESI0
3MBUAEM0;3LU0;3KUT0;3NJAM0;3NGOM0;3WUP0;3NGGUEET0;3NSOM0;3NTEN0;3KUOP NKAARAE0;3NSUN0;3NDAM0
3MA NSIEE0;3YAA0;3NDAP0;3SHUEQ0;3SETFON0;3MBI0;3MAEMBA0;3MBANYI0;3KEUSEUX0;3MBEUX0;3KEUM0
3MBAA PICKET0;3YUWOQ0;3NJEUX0;3MIEE0;3MUAE0;3SHIQ0;3KEN LAW0;4FATIGUE0;3NGAQ0;3NAQ0;3LIQ0;3PIN0
3PEN0;3TET0;2PHASE-D MBUO0;3WAP0;3NJI0;3MFON0;3NJIEE0;3LIEE0;3NJEUT0;3NSHEE0;3NGGAAMAE0;3NYAM0
3WUAEN0;3NGKUN0;3SHEE0;3NGKAP0;3KEUAETMEUN0;3TEUT0;3SHEUAE0;3NJAP0;3SUE0;3KET0;3YAEMMAE0;3KUOM0
3SAP0;3MFEUT0;3NDEUX0;3MALEERI0;3MEUT0;3SEUAEQ0;3YEN0;3NJEUAEM0;3KEUOT MBUAE0;3NGKEURI0;3TU0
3GHAA0;3NGKYEE0;3FEUFEUAET0;3NDEE0;3MGBOFUM0;3LEUAEP0;3NDON0;3MONI0;3MGBEUN0;3PUUT0;3MGBIEE0;3MFO0
3LUM0;3NSIEEP0;3MBAA0;3KWAET0;3NYET0;3TEUAEN0;3SOT0;3YUWOQ0;3KEUM0;3RAEM0;3TEEEE0;3NGKEUAEQ0
3MFEUAE0;3NSIEET0;3KEUP0;3PIP0;3PEUTAE0;3NYUE0;3LET0;3NGGAAM0;3MFIEE0;3NGGWAEN0;3YUOM0;3PAP0
3YUOP0;3NDAM0;3NTEUM0;3SUAE0;3KUN0;3NGGEUX0;3NGKIEE0;3TUOT0;3MEUN0;3KUQ0;3NSUM0;3TEUN0;3MAENJET0
3NGGAP0;3LEUM0;3NGGUOM0;3NSHUT0;3NJUEQ0;3GHEUAE0;3KU0;3REN OLD0;3TAE0;3TOQ0;3NYI0;3RII0;3LEEEE0
3MEEEE0;3M0;3SUU0;3MU0;3SHII0;3SHEUX0;3KYEE0;3NU0;3SHU0;3NTEE0;3PEE0;3NI0;3SHOQ0;3PUQ0;3MVOP0
3LOQ0;3REN MUCH0;3TI0;3NTUU0;3MBAA SEVEN0;3SAQ0;3FAA0;2PHASE-E NDAP0;3TOON0;3MBEUM0;3LAP0;3VOM0
3LOON0;3PAA0;3SOM0;3RAQ0;3NSHUOP0;3NDUN0;3PUAE0;3TAM0;3NGKA0;3KPEUX0;3WUO0;3SEE0;3NGGEUAET0;3PAAM0
3TOO0;3KUOP0;3LOM0;3NSHIEE0;3NGOP0;3MAEM0;3NGKEUX0;3NGOQ0;3NSHUE0;3RIMGBA0;3NJEUX0;3PEEM0;3SAA0
3NGGURAE0;3MGBA0;3GHEUX0;3NGKEUAEM0;3NJAEMLI0;3MAP0;3LOOT0;3NGGEEEE0;3NDIQ0;3TAEN NTEUM0;3SET0
3PUM0;3NDAA SOFTNESS0;3NGGUAESHAE NYAM0;3YIEE0;3GHEUN0;3TUAE0;3YEUAE0;3PO0;3TUMAE0;3KEUAE0;3SUAEN0
3TEUAEQ0;3VEUAE0;3WEUX0;3LAAM0;3PU0;3TAAQ0;3GHAAMAE0;3NGEUREUT0;3SHEUAEQ0;3MGBEN0;3MBEE0;3NZAQ0
3NKOM0;3GBET0;3TUM0;3KUET0;3YAP0;3NYI CLEAVER0;3YIT0;3MFEUQ0;3NDIAQ0;3PIEEQ0;3YUEQ0;3LEUAEM0;3FUE0
3GBEUX0;3NGKUP0;3KET0;3MAE0;3NGKAAMI0;3GHET0;3FA0;3NTUM0;3PEUT0;3YEUM0;3NGGEUAE0;3NYI BETWEEN0
3NZUQ0;3POON0;3MIEE0;3FUET0;3NAE0;3MUAE0;3GHEUAE0;3FU I0;3MVI0;3PUAQ0;3NGKUM0;3KUT0;3PIET0;3NTAP0
3YEUAET0;3NGGUP0;3PA PEOPLE0;3FU CALL0;3FOM0;3NJEE0;3A0;3TOQ0;3O0;3I0;3LAQ0;3PA PLURAL0;3TAA0
3TAQ0;3NDAA MY HOUSE0;3SHIQ0;3YEUX0;3NGUAE0;3YUAEN0;3YOQ SWIMMING0;4COVER0;3YUQ0;3YUN0;3KEUX0
3PEUX0;3NJEE EPOCH0;3PUE0;3WUE0;3FEE0;3VEE0;3LU0;3MI0;3REUX0;3RAE0;3NGUAET0;3NGA0;3SHO0;3SHOQ0
3FU REMEDY0;3NA0;3PI0;3LOQ0;3KO0;3MEN0;3MA0;3MAQ0;3TEU0;3KI0;3MON0;3TEN0;3FAQ0;3GHOM0;2PHASE-F KA0
3U0;3KU0;3EE0;3REE0;3TAE0;3NYI0;3LA0;3RII0;3RIEE0;3MEEEE0;3TAA0;3NDAA0;3NJAEM0;3M0;3SUU0;3SHII0
3SI0;3SEUX0;3KYEE0;3KET0;3NUAE0;3NU0;3NJUAE0;3YOQ0;3SHU0;3YA0;3NSHA0;3PEUX0;3NTEE0;3WUE0;3PEE0
3RU0;3NI0;3REUX0;3KEN0;3NGKWAEN0;3NGGA0;3SHO0;3PUAE0;3FOM0;3WA0;3LI0;3LOQ0;3KO0;3MBEN0;3REN0;3MA0
3MO0;3MBAA0;3TET0;3KPA0;3SAMBA0;3VUEQ0;16a40:0MRO LETTER TA0;2NGI0;2YO0;2MIM0;2BA0;2DA0;2A0;2PHI0
2KHAI0;2HAO0;2DAI0;2CHU0;2KEAAE0;2OL0;2MAEM0;2NIN0;2PA0;2OO0;2O0;2RO0;2SHI0;2THEA0;2EA0;2WA0;2E0
2KO0;2LAN0;2LA0;2HAI0;2RI0;2TEK0;16a60:0MRO DIGIT ZERO0;2ONE0;2TWO0;2THREE0;2FOUR0;2FIVE0;2SIX0
2SEVEN0;2EIGHT0;2NINE0;16a6e:0MRO DANDA0;1DOUBLE1;0TANGSA LETTER OZ0;2OC0;2OQ0;2OX0;2AZ0;2AC0;2AQ0
2AX0;2VZ0;2VC0;2VQ0;2VX0;2EZ0;2EC0;2EQ0;2EX0;2IZ0;2IC0;2IQ0;2IX0;2UZ0;2UC0;2UQ0;2UX0;2AWZ0;2AWC0
2AWQ0;2AWX0;2UIZ0;2UIC0;2UIQ0;2UIX0;2FINAL NG0;2LONG UEX0;2SHORT UEZ0;3AWX0;2UEC0;2UEZ0;2UEQ0
2UEX0;2UIUZ0;2UIUC0;2UIUQ0;2UIUX0;2MZ0;2MC0;2MQ0;2MX0;2KA0;2KHA0;2GA0;2NGA0;2SA0;2YA0;2WA0;2PA0
2NYA0;2PHA0;2BA0;2MA0;2NA0;2HA0;2LA0;2HTA0;2TA0;2DA0;2RA0;2NHA0;2SHA0;2CA0;2TSA0;2GHA0;2HTTA0
2THA0;2XA0;2FA0;2DHA0;2CHA0;2ZA0;16ac0:0TANGSA DIGIT ZERO0;2ONE0;2TWO0;2THREE0;2FOUR0;2FIVE0;2SIX0
2SEVEN0;2EIGHT0;2NINE0;16ad0:0BASSA VAH LETTER ENNI0;3KA0;3SE0;3FA0;3MBE0;3YIE0;3GAH0;3DHII0
3KPAH0;3JO0;3HWAH0;3WA0;3ZO0;3GBU0;3DO0;3CE0;3UWU0;3TO0;3BA0;3VU0;3YEIN0;3PA0;3WADDA0;3A0;3O0;3OO0
3U0;3EE0;3E0;3I0;16af0:0BASSA VAH COMBINING HIGH TONE0;3LOW1;3MID1;3LOW-MID1;3HIGH-LOW1
2FULL STOP0;16b00:0PAHAWH HMONG VOWEL KEEB0;3KEEV0;3KIB0;3KIV0;3KAUB0;3KAUV0;3KUB0;3KUV0;3KEB0
3KEV0;3KAIB0;3KAIV0;3KOOB0;3KOOV0;3KAWB0;3KAWV0;3KUAB0;3KUAV0;3KOB0;3KOV0;3KIAB0;3KIAV0;3KAB0
3KAV0;3KWB0;3KWV0;3KAAB0;3KAAV0;2CONSONANT VAU0;3NTSAU0;3LAU0;3HAU0;3NLAU0;3RAU0;3NKAU0;3QHAU0
3YAU0;3HLAU0;3MAU0;3CHAU0;3NCHAU0;3HNAU0;3PLHAU0;3NTHAU0;3NAU0;3AU0;3XAU0;3CAU0;2MARK CIM TUB0
4SO0;4KES0;4KHAV0;4SUAM0;4HOM0;4TAUM0;2SIGN VOS THOM0;4TSHAB CEEB0;3CIM CHEEM0;3VOS THIAB0;4FEEM0
3XYEEM NTXIV0;4RHO0;4TOV0;4FAIB0;3VOS SEEV0;3MEEJ SUAB0;3VOS NRUA0;3IB YAM0;3XAUS0;3CIM TSOV ROG0
16b50:0PAHAWH HMONG DIGIT ZERO0;3ONE0;3TWO0;3THREE0;3FOUR0;3FIVE0;3SIX0;3SEVEN0;3EIGHT0;3NINE0
16b5b:0PAHAWH HMONG NUMBER TENS0;3HUNDREDS0;3TEN THOUSANDS0;3MILLIONS0;3HUNDRED1;3TEN BILLIONS0
3TRILLIONS0;16b63:0PAHAWH HMONG SIGN VOS LUB0;3XYOO0;3HLI0;3THIRD-STAGE1;3ZWJ THAJ0;3HNUB0;3NQIG0
3XIAB0;3NTUJ0;3AV0;3TXHEEJ CEEV0;3MEEJ TSEEB0;3TAU0;3LOS0;3MUS0;3CIM HAIS LUS NTOG NTOG0
4CUAM TSHOOJ0;4TXWV0;5CHWV0;4PUB DAWB0;4NRES TOS0;16b7d:0PAHAWH HMONG CLAN SIGN TSHEEJ0;4YEEG0
4LIS0;4LAUJ0;4XYOOJ0;4KOO0;4HAWJ0;4MUAS0;4THOJ0;4TSAB0;4PHAB0;4KHAB0;4HAM0;4VAJ0;4FAJ0;4YAJ0
4TSWB0;4KWM0;4VWJ0;16e40:0MEDEFAIDRIN CAPITAL LETTER M0;3S0;3V0;3W0;3ATIU0;3Z0;3KP0;3P0;3T0;3G0
3F0;3I0;3K0;3A0;3J0;3E0;3B0;3C0;3U0;3YU0;3L0;3Q0;3HP0;3NY0;3X0;3D0;3OE0;3N0;3R0;3O0;3AI0;3Y0
1SMALL LETTER M0;3S0;3V0;3W0;3ATIU0;3Z0;3KP0;3P0;3T0;3G0;3F0;3I0;3K0;3A0;3J0;3E0;3B0;3C0;3U0;3YU0
3L0;3Q0;3HP0;3NY0;3X0;3D0;3OE0;3N0;3R0;3O0;3AI0;3Y0;1DIGIT ZERO0;2ONE0;2TWO0;2THREE0;2FOUR0;2FIVE0
2SIX0;2SEVEN0;2EIGHT0;2NINE0;1NUMBER TEN0;2ELEVEN0;2TWELVE0;2THIRTEEN0;2FOURTEEN0;2FIFTEEN0
2SIXTEEN0;2SEVENTEEN0;2EIGHTEEN0;2NINETEEN0;1DIGIT ONE ALTERNATE FORM0;2TWO2;2THREE2;1COMMA0
1FULL STOP0;1SYMBOL AIVA0;1EXCLAMATION OH0;16f00:0MIAO LETTER PA0;2BA0;2YI PA0;2PLA0;2MA0;2MHA0
2ARCHAIC MA0;2FA0;2VA0;2VFA0;2TA0;2DA0;2YI TTA0;3TA0;2TTA0;2DDA0;2NA0;2NHA0;2YI NNA0;2ARCHAIC NA0
2NNA0;2NNHA0;2LA0;2LYA0;2LHA0;2LHYA0;2TLHA0;2DLHA0;2TLHYA0;2DLHYA0;2KA0;2GA0;2YI KA0;2QA0;2QGA0
2NGA0;2NGHA0;2ARCHAIC NGA0;2HA0;2XA0;2GHA0;2GHHA0;2TSSA0;2DZZA0;2NYA0;2NYHA0;2TSHA0;2DZHA0
2YI TSHA0;3DZHA0;2REFORMED TSHA0;2SHA0;2SSA0;2ZHA0;2ZSHA0;2TSA0;2DZA0;2YI TSA0;2SA0;2ZA0;2ZSA0
2ZZA0;2ZZSA0;2ARCHAIC ZZA0;2ZZYA0;2ZZSYA0;2WA0;2AH0;2HHA0;2BRI0;2SYI0;2DZYI0;2TE0;2TSE0;2RTE0
16f4f:0MIAO SIGN CONSONANT MODIFIER BAR0;1LETTER NASALIZATION0;1SIGN ASPIRATION0
2REFORMED VOICING0;3ASPIRATION0;1VOWEL SIGN A0;3AA0;3AHH0;3AN0;3ANG0;3O0;3OO0;3WO0;3W0;3E0;3EN0
3ENG0;3OEY0;3I0;3IA0;3IAN0;3IANG0;3IO0;3IE0;3II0;3IU0;3ING0;3U0;3UA0;3UAN0;3UANG0;3UU0;3UEI0;3UNG0
3Y0;3YI0;3AE0;3AEE0;3ERR0;3ROUNDED1;3ER0;3ROUNDED1;3AI0;3EI0;3AU0;3OU0;3N0;3NG0;3UOG0;3YUI0;3OG0
3OER0;3VW0;3IG0;3EA0;3IONG0;3UI0;16f8f:0MIAO TONE RIGHT0;2TOP1;2ABOVE0;2BELOW0;1LETTER TONE-20
2TONE-30;2TONE-40;2TONE-50;2TONE-60;2TONE-70;2TONE-80;2REFORMED TONE-10;3TONE-20;3TONE-40;3TONE-50
3TONE-60;3TONE-80;16fe0:0TANGUT ITERATION MARK0;0NUSHU2;0OLD CHINESE HOOK1;2ITERATION1
0KHITAN SMALL SCRIPT FILLER0;16ff0:0VIETNAMESE ALTERNATE READING MARK CA0;4NHAY0"

/-- Components of ideographs, kana of old texts, and shorthand. -/
def ideographicNames : String := "
18800:0TANGUT COMPONENT-0010;1COMPONENT-0020;1COMPONENT-0030;1COMPONENT-0040;1COMPONENT-0050
1COMPONENT-0060;1COMPONENT-0070;1COMPONENT-0080;1COMPONENT-0090;1COMPONENT-0100;1COMPONENT-0110
1COMPONENT-0120;1COMPONENT-0130;1COMPONENT-0140;1COMPONENT-0150;1COMPONENT-0160;1COMPONENT-0170
1COMPONENT-0180;1COMPONENT-0190;1COMPONENT-0200;1COMPONENT-0210;1COMPONENT-0220;1COMPONENT-0230
1COMPONENT-0240;1COMPONENT-0250;1COMPONENT-0260;1COMPONENT-0270;1COMPONENT-0280;1COMPONENT-0290
1COMPONENT-0300;1COMPONENT-0310;1COMPONENT-0320;1COMPONENT-0330;1COMPONENT-0340;1COMPONENT-0350
1COMPONENT-0360;1COMPONENT-0370;1COMPONENT-0380;1COMPONENT-0390;1COMPONENT-0400;1COMPONENT-0410
1COMPONENT-0420;1COMPONENT-0430;1COMPONENT-0440;1COMPONENT-0450;1COMPONENT-0460;1COMPONENT-0470
1COMPONENT-0480;1COMPONENT-0490;1COMPONENT-0500;1COMPONENT-0510;1COMPONENT-0520;1COMPONENT-0530
1COMPONENT-0540;1COMPONENT-0550;1COMPONENT-0560;1COMPONENT-0570;1COMPONENT-0580;1COMPONENT-0590
1COMPONENT-0600;1COMPONENT-0610;1COMPONENT-0620;1COMPONENT-0630;1COMPONENT-0640;1COMPONENT-0650
1COMPONENT-0660;1COMPONENT-0670;1COMPONENT-0680;1COMPONENT-0690;1COMPONENT-0700;1COMPONENT-0710
1COMPONENT-0720;1COMPONENT-0730;1COMPONENT-0740;1COMPONENT-0750;1COMPONENT-0760;1COMPONENT-0770
1COMPONENT-0780;1COMPONENT-0790;1COMPONENT-0800;1COMPONENT-0810;1COMPONENT-0820;1COMPONENT-0830
1COMPONENT-0840;1COMPONENT-0850;1COMPONENT-0860;1COMPONENT-0870;1COMPONENT-0880;1COMPONENT-0890
1COMPONENT-0900;1COMPONENT-0910;1COMPONENT-0920;1COMPONENT-0930;1COMPONENT-0940;1COMPONENT-0950
1COMPONENT-0960;1COMPONENT-0970;1COMPONENT-0980;1COMPONENT-0990;1COMPONENT-1000;1COMPONENT-1010
1COMPONENT-1020;1COMPONENT-1030;1COMPONENT-1040;1COMPONENT-1050;1COMPONENT-1060;1COMPONENT-1070
1COMPONENT-1080;1COMPONENT-1090;1COMPONENT-1100;1COMPONENT-1110;1COMPONENT-1120;1COMPONENT-1130
1COMPONENT-1140;1COMPONENT-1150;1COMPONENT-1160;1COMPONENT-1170;1COMPONENT-1180;1COMPONENT-1190
1COMPONENT-1200;1COMPONENT-1210;1COMPONENT-1220;1COMPONENT-1230;1COMPONENT-1240;1COMPONENT-1250
1COMPONENT-1260;1COMPONENT-1270;1COMPONENT-1280;1COMPONENT-1290;1COMPONENT-1300;1COMPONENT-1310
1COMPONENT-1320;1COMPONENT-1330;1COMPONENT-1340;1COMPONENT-1350;1COMPONENT-1360;1COMPONENT-1370
1COMPONENT-1380;1COMPONENT-1390;1COMPONENT-1400;1COMPONENT-1410;1COMPONENT-1420;1COMPONENT-1430
1COMPONENT-1440;1COMPONENT-1450;1COMPONENT-1460;1COMPONENT-1470;1COMPONENT-1480;1COMPONENT-1490
1COMPONENT-1500;1COMPONENT-1510;1COMPONENT-1520;1COMPONENT-1530;1COMPONENT-1540;1COMPONENT-1550
1COMPONENT-1560;1COMPONENT-1570;1COMPONENT-1580;1COMPONENT-1590;1COMPONENT-1600;1COMPONENT-1610
1COMPONENT-1620;1COMPONENT-1630;1COMPONENT-1640;1COMPONENT-1650;1COMPONENT-1660;1COMPONENT-1670
1COMPONENT-1680;1COMPONENT-1690;1COMPONENT-1700;1COMPONENT-1710;1COMPONENT-1720;1COMPONENT-1730
1COMPONENT-1740;1COMPONENT-1750;1COMPONENT-1760;1COMPONENT-1770;1COMPONENT-1780;1COMPONENT-1790
1COMPONENT-1800;1COMPONENT-1810;1COMPONENT-1820;1COMPONENT-1830;1COMPONENT-1840;1COMPONENT-1850
1COMPONENT-1860;1COMPONENT-1870;1COMPONENT-1880;1COMPONENT-1890;1COMPONENT-1900;1COMPONENT-1910
1COMPONENT-1920;1COMPONENT-1930;1COMPONENT-1940;1COMPONENT-1950;1COMPONENT-1960;1COMPONENT-1970
1COMPONENT-1980;1COMPONENT-1990;1COMPONENT-2000;1COMPONENT-2010;1COMPONENT-2020;1COMPONENT-2030
1COMPONENT-2040;1COMPONENT-2050;1COMPONENT-2060;1COMPONENT-2070;1COMPONENT-2080;1COMPONENT-2090
1COMPONENT-2100;1COMPONENT-2110;1COMPONENT-2120;1COMPONENT-2130;1COMPONENT-2140;1COMPONENT-2150
1COMPONENT-2160;1COMPONENT-2170;1COMPONENT-2180;1COMPONENT-2190;1COMPONENT-2200;1COMPONENT-2210
1COMPONENT-2220;1COMPONENT-2230;1COMPONENT-2240;1COMPONENT-2250;1COMPONENT-2260;1COMPONENT-2270
1COMPONENT-2280;1COMPONENT-2290;1COMPONENT-2300;1COMPONENT-2310;1COMPONENT-2320;1COMPONENT-2330
1COMPONENT-2340;1COMPONENT-2350;1COMPONENT-2360;1COMPONENT-2370;1COMPONENT-2380;1COMPONENT-2390
1COMPONENT-2400;1COMPONENT-2410;1COMPONENT-2420;1COMPONENT-2430;1COMPONENT-2440;1COMPONENT-2450
1COMPONENT-2460;1COMPONENT-2470;1COMPONENT-2480;1COMPONENT-2490;1COMPONENT-2500;1COMPONENT-2510
1COMPONENT-2520;1COMPONENT-2530;1COMPONENT-2540;1COMPONENT-2550;1COMPONENT-2560;1COMPONENT-2570
1COMPONENT-2580;1COMPONENT-2590;1COMPONENT-2600;1COMPONENT-2610;1COMPONENT-2620;1COMPONENT-2630
1COMPONENT-2640;1COMPONENT-2650;1COMPONENT-2660;1COMPONENT-2670;1COMPONENT-2680;1COMPONENT-2690
1COMPONENT-2700;1COMPONENT-2710;1COMPONENT-2720;1COMPONENT-2730;1COMPONENT-2740;1COMPONENT-2750
1COMPONENT-2760;1COMPONENT-2770;1COMPONENT-2780;1COMPONENT-2790;1COMPONENT-2800;1COMPONENT-2810
1COMPONENT-2820;1COMPONENT-2830;1COMPONENT-2840;1COMPONENT-2850;1COMPONENT-2860;1COMPONENT-2870
1COMPONENT-2880;1COMPONENT-2890;1COMPONENT-2900;1COMPONENT-2910;1COMPONENT-2920;1COMPONENT-2930
1COMPONENT-2940;1COMPONENT-2950;1COMPONENT-2960;1COMPONENT-2970;1COMPONENT-2980;1COMPONENT-2990
1COMPONENT-3000;1COMPONENT-3010;1COMPONENT-3020;1COMPONENT-3030;1COMPONENT-3040;1COMPONENT-3050
1COMPONENT-3060;1COMPONENT-3070;1COMPONENT-3080;1COMPONENT-3090;1COMPONENT-3100;1COMPONENT-3110
1COMPONENT-3120;1COMPONENT-3130;1COMPONENT-3140;1COMPONENT-3150;1COMPONENT-3160;1COMPONENT-3170
1COMPONENT-3180;1COMPONENT-3190;1COMPONENT-3200;1COMPONENT-3210;1COMPONENT-3220;1COMPONENT-3230
1COMPONENT-3240;1COMPONENT-3250;1COMPONENT-3260;1COMPONENT-3270;1COMPONENT-3280;1COMPONENT-3290
1COMPONENT-3300;1COMPONENT-3310;1COMPONENT-3320;1COMPONENT-3330;1COMPONENT-3340;1COMPONENT-3350
1COMPONENT-3360;1COMPONENT-3370;1COMPONENT-3380;1COMPONENT-3390;1COMPONENT-3400;1COMPONENT-3410
1COMPONENT-3420;1COMPONENT-3430;1COMPONENT-3440;1COMPONENT-3450;1COMPONENT-3460;1COMPONENT-3470
1COMPONENT-3480;1COMPONENT-3490;1COMPONENT-3500;1COMPONENT-3510;1COMPONENT-3520;1COMPONENT-3530
1COMPONENT-3540;1COMPONENT-3550;1COMPONENT-3560;1COMPONENT-3570;1COMPONENT-3580;1COMPONENT-3590
1COMPONENT-3600;1COMPONENT-3610;1COMPONENT-3620;1COMPONENT-3630;1COMPONENT-3640;1COMPONENT-3650
1COMPONENT-3660;1COMPONENT-3670;1COMPONENT-3680;1COMPONENT-3690;1COMPONENT-3700;1COMPONENT-3710
1COMPONENT-3720;1COMPONENT-3730;1COMPONENT-3740;1COMPONENT-3750;1COMPONENT-3760;1COMPONENT-3770
1COMPONENT-3780;1COMPONENT-3790;1COMPONENT-3800;1COMPONENT-3810;1COMPONENT-3820;1COMPONENT-3830
1COMPONENT-3840;1COMPONENT-3850;1COMPONENT-3860;1COMPONENT-3870;1COMPONENT-3880;1COMPONENT-3890
1COMPONENT-3900;1COMPONENT-3910;1COMPONENT-3920;1COMPONENT-3930;1COMPONENT-3940;1COMPONENT-3950
1COMPONENT-3960;1COMPONENT-3970;1COMPONENT-3980;1COMPONENT-3990;1COMPONENT-4000;1COMPONENT-4010
1COMPONENT-4020;1COMPONENT-4030;1COMPONENT-4040;1COMPONENT-4050;1COMPONENT-4060;1COMPONENT-4070
1COMPONENT-4080;1COMPONENT-4090;1COMPONENT-4100;1COMPONENT-4110;1COMPONENT-4120;1COMPONENT-4130
1COMPONENT-4140;1COMPONENT-4150;1COMPONENT-4160;1COMPONENT-4170;1COMPONENT-4180;1COMPONENT-4190
1COMPONENT-4200;1COMPONENT-4210;1COMPONENT-4220;1COMPONENT-4230;1COMPONENT-4240;1COMPONENT-4250
1COMPONENT-4260;1COMPONENT-4270;1COMPONENT-4280;1COMPONENT-4290;1COMPONENT-4300;1COMPONENT-4310
1COMPONENT-4320;1COMPONENT-4330;1COMPONENT-4340;1COMPONENT-4350;1COMPONENT-4360;1COMPONENT-4370
1COMPONENT-4380;1COMPONENT-4390;1COMPONENT-4400;1COMPONENT-4410;1COMPONENT-4420;1COMPONENT-4430
1COMPONENT-4440;1COMPONENT-4450;1COMPONENT-4460;1COMPONENT-4470;1COMPONENT-4480;1COMPONENT-4490
1COMPONENT-4500;1COMPONENT-4510;1COMPONENT-4520;1COMPONENT-4530;1COMPONENT-4540;1COMPONENT-4550
1COMPONENT-4560;1COMPONENT-4570;1COMPONENT-4580;1COMPONENT-4590;1COMPONENT-4600;1COMPONENT-4610
1COMPONENT-4620;1COMPONENT-4630;1COMPONENT-4640;1COMPONENT-4650;1COMPONENT-4660;1COMPONENT-4670
1COMPONENT-4680;1COMPONENT-4690;1COMPONENT-4700;1COMPONENT-4710;1COMPONENT-4720;1COMPONENT-4730
1COMPONENT-4740;1COMPONENT-4750;1COMPONENT-4760;1COMPONENT-4770;1COMPONENT-4780;1COMPONENT-4790
1COMPONENT-4800;1COMPONENT-4810;1COMPONENT-4820;1COMPONENT-4830;1COMPONENT-4840;1COMPONENT-4850
1COMPONENT-4860;1COMPONENT-4870;1COMPONENT-4880;1COMPONENT-4890;1COMPONENT-4900;1COMPONENT-4910
1COMPONENT-4920;1COMPONENT-4930;1COMPONENT-4940;1COMPONENT-4950;1COMPONENT-4960;1COMPONENT-4970
1COMPONENT-4980;1COMPONENT-4990;1COMPONENT-5000;1COMPONENT-5010;1COMPONENT-5020;1COMPONENT-5030
1COMPONENT-5040;1COMPONENT-5050;1COMPONENT-5060;1COMPONENT-5070;1COMPONENT-5080;1COMPONENT-5090
1COMPONENT-5100;1COMPONENT-5110;1COMPONENT-5120;1COMPONENT-5130;1COMPONENT-5140;1COMPONENT-5150
1COMPONENT-5160;1COMPONENT-5170;1COMPONENT-5180;1COMPONENT-5190;1COMPONENT-5200;1COMPONENT-5210
1COMPONENT-5220;1COMPONENT-5230;1COMPONENT-5240;1COMPONENT-5250;1COMPONENT-5260;1COMPONENT-5270
1COMPONENT-5280;1COMPONENT-5290;1COMPONENT-5300;1COMPONENT-5310;1COMPONENT-5320;1COMPONENT-5330
1COMPONENT-5340;1COMPONENT-5350;1COMPONENT-5360;1COMPONENT-5370;1COMPONENT-5380;1COMPONENT-5390
1COMPONENT-5400;1COMPONENT-5410;1COMPONENT-5420;1COMPONENT-5430;1COMPONENT-5440;1COMPONENT-5450
1COMPONENT-5460;1COMPONENT-5470;1COMPONENT-5480;1COMPONENT-5490;1COMPONENT-5500;1COMPONENT-5510
1COMPONENT-5520;1COMPONENT-5530;1COMPONENT-5540;1COMPONENT-5550;1COMPONENT-5560;1COMPONENT-5570
1COMPONENT-5580;1COMPONENT-5590;1COMPONENT-5600;1COMPONENT-5610;1COMPONENT-5620;1COMPONENT-5630
1COMPONENT-5640;1COMPONENT-5650;1COMPONENT-5660;1COMPONENT-5670;1COMPONENT-5680;1COMPONENT-5690
1COMPONENT-5700;1COMPONENT-5710;1COMPONENT-5720;1COMPONENT-5730;1COMPONENT-5740;1COMPONENT-5750
1COMPONENT-5760;1COMPONENT-5770;1COMPONENT-5780;1COMPONENT-5790;1COMPONENT-5800;1COMPONENT-5810
1COMPONENT-5820;1COMPONENT-5830;1COMPONENT-5840;1COMPONENT-5850;1COMPONENT-5860;1COMPONENT-5870
1COMPONENT-5880;1COMPONENT-5890;1COMPONENT-5900;1COMPONENT-5910;1COMPONENT-5920;1COMPONENT-5930
1COMPONENT-5940;1COMPONENT-5950;1COMPONENT-5960;1COMPONENT-5970;1COMPONENT-5980;1COMPONENT-5990
1COMPONENT-6000;1COMPONENT-6010;1COMPONENT-6020;1COMPONENT-6030;1COMPONENT-6040;1COMPONENT-6050
1COMPONENT-6060;1COMPONENT-6070;1COMPONENT-6080;1COMPONENT-6090;1COMPONENT-6100;1COMPONENT-6110
1COMPONENT-6120;1COMPONENT-6130;1COMPONENT-6140;1COMPONENT-6150;1COMPONENT-6160;1COMPONENT-6170
1COMPONENT-6180;1COMPONENT-6190;1COMPONENT-6200;1COMPONENT-6210;1COMPONENT-6220;1COMPONENT-6230
1COMPONENT-6240;1COMPONENT-6250;1COMPONENT-6260;1COMPONENT-6270;1COMPONENT-6280;1COMPONENT-6290
1COMPONENT-6300;1COMPONENT-6310;1COMPONENT-6320;1COMPONENT-6330;1COMPONENT-6340;1COMPONENT-6350
1COMPONENT-6360;1COMPONENT-6370;1COMPONENT-6380;1COMPONENT-6390;1COMPONENT-6400;1COMPONENT-6410
1COMPONENT-6420;1COMPONENT-6430;1COMPONENT-6440;1COMPONENT-6450;1COMPONENT-6460;1COMPONENT-6470
1COMPONENT-6480;1COMPONENT-6490;1COMPONENT-6500;1COMPONENT-6510;1COMPONENT-6520;1COMPONENT-6530
1COMPONENT-6540;1COMPONENT-6550;1COMPONENT-6560;1COMPONENT-6570;1COMPONENT-6580;1COMPONENT-6590
1COMPONENT-6600;1COMPONENT-6610;1COMPONENT-6620;1COMPONENT-6630;1COMPONENT-6640;1COMPONENT-6650
1COMPONENT-6660;1COMPONENT-6670;1COMPONENT-6680;1COMPONENT-6690;1COMPONENT-6700;1COMPONENT-6710
1COMPONENT-6720;1COMPONENT-6730;1COMPONENT-6740;1COMPONENT-6750;1COMPONENT-6760;1COMPONENT-6770
1COMPONENT-6780;1COMPONENT-6790;1COMPONENT-6800;1COMPONENT-6810;1COMPONENT-6820;1COMPONENT-6830
1COMPONENT-6840;1COMPONENT-6850;1COMPONENT-6860;1COMPONENT-6870;1COMPONENT-6880;1COMPONENT-6890
1COMPONENT-6900;1COMPONENT-6910;1COMPONENT-6920;1COMPONENT-6930;1COMPONENT-6940;1COMPONENT-6950
1COMPONENT-6960;1COMPONENT-6970;1COMPONENT-6980;1COMPONENT-6990;1COMPONENT-7000;1COMPONENT-7010
1COMPONENT-7020;1COMPONENT-7030;1COMPONENT-7040;1COMPONENT-7050;1COMPONENT-7060;1COMPONENT-7070
1COMPONENT-7080;1COMPONENT-7090;1COMPONENT-7100;1COMPONENT-7110;1COMPONENT-7120;1COMPONENT-7130
1COMPONENT-7140;1COMPONENT-7150;1COMPONENT-7160;1COMPONENT-7170;1COMPONENT-7180;1COMPONENT-7190
1COMPONENT-7200;1COMPONENT-7210;1COMPONENT-7220;1COMPONENT-7230;1COMPONENT-7240;1COMPONENT-7250
1COMPONENT-7260;1COMPONENT-7270;1COMPONENT-7280;1COMPONENT-7290;1COMPONENT-7300;1COMPONENT-7310
1COMPONENT-7320;1COMPONENT-7330;1COMPONENT-7340;1COMPONENT-7350;1COMPONENT-7360;1COMPONENT-7370
1COMPONENT-7380;1COMPONENT-7390;1COMPONENT-7400;1COMPONENT-7410;1COMPONENT-7420;1COMPONENT-7430
1COMPONENT-7440;1COMPONENT-7450;1COMPONENT-7460;1COMPONENT-7470;1COMPONENT-7480;1COMPONENT-7490
1COMPONENT-7500;1COMPONENT-7510;1COMPONENT-7520;1COMPONENT-7530;1COMPONENT-7540;1COMPONENT-7550
1COMPONENT-7560;1COMPONENT-7570;1COMPONENT-7580;1COMPONENT-7590;1COMPONENT-7600;1COMPONENT-7610
1COMPONENT-7620;1COMPONENT-7630;1COMPONENT-7640;1COMPONENT-7650;1COMPONENT-7660;1COMPONENT-7670
1COMPONENT-7680;1aff0:0KATAKANA LETTER MINNAN TONE-20;3TONE-30;3TONE-40;3TONE-50
1aff5:0KATAKANA LETTER MINNAN TONE-70;3TONE-80;3NASALIZED TONE-10;4TONE-20;4TONE-30;4TONE-40
4TONE-50;1affd:0KATAKANA LETTER MINNAN NASALIZED TONE-70;4TONE-80
1b000:0KATAKANA LETTER ARCHAIC E0;0HIRAGANA LETTER ARCHAIC YE0;0HENTAIGANA LETTER A-10;2A-20;2A-30
2A-WO0;2I-10;2I-20;2I-30;2I-40;2U-10;2U-20;2U-30;2U-40;2U-50;2E-20;2E-30;2E-40;2E-50;2E-60;2O-10
2O-20;2O-30;2KA-10;2KA-20;2KA-30;2KA-40;2KA-50;2KA-60;2KA-70;2KA-80;2KA-90;2KA-100;2KA-110;2KA-KE0
2KI-10;2KI-20;2KI-30;2KI-40;2KI-50;2KI-60;2KI-70;2KI-80;2KU-10;2KU-20;2KU-30;2KU-40;2KU-50;2KU-60
2KU-70;2KE-10;2KE-20;2KE-30;2KE-40;2KE-50;2KE-60;2KO-10;2KO-20;2KO-30;2KO-KI0;2SA-10;2SA-20;2SA-30
2SA-40;2SA-50;2SA-60;2SA-70;2SA-80;2SI-10;2SI-20;2SI-30;2SI-40;2SI-50;2SI-60;2SU-10;2SU-20;2SU-30
2SU-40;2SU-50;2SU-60;2SU-70;2SU-80;2SE-10;2SE-20;2SE-30;2SE-40;2SE-50;2SO-10;2SO-20;2SO-30;2SO-40
2SO-50;2SO-60;2SO-70;2TA-10;2TA-20;2TA-30;2TA-40;2TI-10;2TI-20;2TI-30;2TI-40;2TI-50;2TI-60;2TI-70
2TU-10;2TU-20;2TU-30;2TU-40;2TU-TO0;2TE-10;2TE-20;2TE-30;2TE-40;2TE-50;2TE-60;2TE-70;2TE-80;2TE-90
2TO-10;2TO-20;2TO-30;2TO-40;2TO-50;2TO-60;2TO-RA0;2NA-10;2NA-20;2NA-30;2NA-40;2NA-50;2NA-60;2NA-70
2NA-80;2NA-90;2NI-10;2NI-20;2NI-30;2NI-40;2NI-50;2NI-60;2NI-70;2NI-TE0;2NU-10;2NU-20;2NU-30;2NE-10
2NE-20;2NE-30;2NE-40;2NE-50;2NE-60;2NE-KO0;2NO-10;2NO-20;2NO-30;2NO-40;2NO-50;2HA-10;2HA-20;2HA-30
2HA-40;2HA-50;2HA-60;2HA-70;2HA-80;2HA-90;2HA-100;2HA-110;2HI-10;2HI-20;2HI-30;2HI-40;2HI-50
2HI-60;2HI-70;2HU-10;2HU-20;2HU-30;2HE-10;2HE-20;2HE-30;2HE-40;2HE-50;2HE-60;2HE-70;2HO-10;2HO-20
2HO-30;2HO-40;2HO-50;2HO-60;2HO-70;2HO-80;2MA-10;2MA-20;2MA-30;2MA-40;2MA-50;2MA-60;2MA-70;2MI-10
2MI-20;2MI-30;2MI-40;2MI-50;2MI-60;2MI-70;2MU-10;2MU-20;2MU-30;2MU-40;2ME-10;2ME-20;2ME-MA0;2MO-10
2MO-20;2MO-30;2MO-40;2MO-50;2MO-60;2YA-10;2YA-20;2YA-30;2YA-40;2YA-50;2YA-YO0;2YU-10;2YU-20;2YU-30
2YU-40;2YO-10;2YO-20;2YO-30;2YO-40;2YO-50;2YO-60;2RA-10;2RA-20;2RA-30;2RA-40;2RI-10;2RI-20;2RI-30
2RI-40;2RI-50;2RI-60;2RI-70;2RU-10;2RU-20;2RU-30;2RU-40;2RU-50;2RU-60;2RE-10;2RE-20;2RE-30;2RE-40
2RO-10;2RO-20;2RO-30;2RO-40;2RO-50;2RO-60;2WA-10;2WA-20;2WA-30;2WA-40;2WA-50;2WI-10;2WI-20;2WI-30
2WI-40;2WI-50;2WE-10;2WE-20;2WE-30;2WE-40;2WO-10;2WO-20;2WO-30;2WO-40;2WO-50;2WO-60;2WO-70
2N-MU-MO-10;2N-MU-MO-20;0HIRAGANA LETTER ARCHAIC WU0;0KATAKANA LETTER ARCHAIC YI0;3YE0;3WU0
1b150:0HIRAGANA LETTER SMALL WI0;3WE0;3WO0;1b164:0KATAKANA LETTER SMALL WI0;3WE0;3WO0;3N0
1bc00:0DUPLOYAN LETTER H0;2X0;2P0;2T0;2F0;2K0;2L0;2B0;2D0;2V0;2G0;2R0;2P N0;2D S0;2F N0;2K M0
2R S0;2TH0;2SLOAN DH0;21;2KK0;2SLOAN J0;2HL0;2LH0;2RH0;2M0;2N0;2J0;2S0;2M N0;2N M0;2J1;2S J0
2M WITH DOT0;2N2;2J2;4DOTS INSIDE AND ABOVE0;2S WITH DOT0;5BELOW0;2M S0;2N1;2J1;2S1;2M N1;2N M1
2J2;2S J1;2J S WITH DOT0;3N0;4S0;2S T0;4R0;3P0;4R0;2T S0;3R1;2W0;2WH0;2W R0;2S N0;3M0;2K R S0;2G2
2S K0;4R0;2A0;2SLOAN OW0;2OA0;2O0;2AOU0;2I0;2E0;2IE0;2SHORT I0;2UI0;2EE0;2SLOAN EH0;2ROMANIAN I0
2SLOAN EE0;2LONG I0;2YE0;2U0;2EU0;2XW0;2U N0;2LONG U0;2ROMANIAN1;2UH0;2SLOAN U0;2OOH0;2OW0;2OU0
2WA0;2WO0;2WI0;2WEI0;2WOW0;2NASAL U0;3O0;3I0;3A0;2PERNIN AN0;3AM0;2SLOAN EN0;3AN0;3ON0;2VOCALIC M0
1bc70:0DUPLOYAN AFFIX LEFT HORIZONTAL SECANT0;2MID2;2RIGHT2;2LOW VERTICAL1;2MID2;2HIGH2;2ATTACHED1
3LEFT-TO-RIGHT1;3TANGENT0;3TAIL0;3E HOOK0;3I1;3TANGENT1;1bc80:0DUPLOYAN AFFIX HIGH ACUTE0;3TIGHT1
3GRAVE0;3LONG1;3DOT0;3CIRCLE0;3LINE0;3WAVE0;3VERTICAL0;1bc90:0DUPLOYAN AFFIX LOW ACUTE0;3TIGHT1
3GRAVE0;3LONG1;3DOT0;3CIRCLE0;3LINE0;3WAVE0;3VERTICAL0;3ARROW0;1bc9c:0DUPLOYAN SIGN O WITH CROSS0
1THICK LETTER SELECTOR0;1DOUBLE MARK0;1PUNCTUATION CHINOOK FULL STOP0
0SHORTHAND FORMAT LETTER OVERLAP0;2CONTINUING1;2DOWN STEP0;2UP1
1cf00:0ZNAMENNY COMBINING MARK GORAZDO NIZKO S KRYZHEM ON LEFT0;35;3TSATA2;3GORAZDO NIZKO2;33
3SREDNE2;3MALO POVYSHE2;33;3VYSOKO2;3MALO POVYSHE S KHOKHLOM2;35;3VYSOKO4
3GORAZDO NIZKO S KRYZHEM ON RIGHT0;35;3TSATA2;3GORAZDO NIZKO2;33;3SREDNE2;3MALO POVYSHE2;33
3VYSOKO2;3MALO POVYSHE S KHOKHLOM2;35;3VYSOKO4;3TSATA S KRYZHEM0;3MALO POVYSHE2
3STRANNO MALO POVYSHE0;3POVYSHE S KRYZHEM0;4STRANNO0;3VYSOKO S KRYZHEM0;3MALO POVYSHE STRANNO0
3GORAZDO VYSOKO0;3ZELO0;3ON0;3RAVNO0;3TIKHAYA0;3BORZAYA0;3UDARKA0;3PODVERTKA0;3LOMKA0;3KUPNAYA0
3KACHKA0;3ZEVOK0;3SKOBA0;3RAZSEKA0;3KRYZH ON LEFT0
1cf30:0ZNAMENNY COMBINING TONAL RANGE MARK MRACHNO0;5SVETLO0;5TRESVETLO0;2MARK ZADERZHKA0
3DEMESTVENNY1;3OTSECHKA0;3PODCHASHIE0;4WITH VERTICAL STROKE0;3CHASHKA0;4POLNAYA0;3OBLACHKO0
3SOROCHYA NOZHKA0;3TOCHKA0;3DVOETOCHIE0;2ATTACHING VERTICAL OMET0;2MARK CURVED1;3KRYZH0
2LOWER TONAL RANGE INDICATOR0;1PRIZNAK MODIFIER LEVEL-20;3LEVEL-30;3DIRECTION FLIP0;3KRYZH0;3ROG0
1cf50:0ZNAMENNY NEUME KRYUK0;3TIKHY0;2PARAKLIT0;2DVA V CHELNU0;2KLYUCH0;2ZANOZHEK0;2STOPITSA0
3S OCHKOM0;2PEREVODKA0;3NEPOSTOYANNAYA0;2STOPITSA WITH SOROCHYA NOZHKA0;2CHELYUSTKA0;2PALKA0
2ZAPYATAYA0;2GOLUBCHIK BORZY0;3TIKHY0;3MRACHNY0;3SVETLY0;3TRESVETLY0;2VRAKHIYA PROSTAYA0
3MRACHNAYA0;3SVETLAYA0;3TRESVETLAYA0;3KLYUCHEVAYA PROSTAYA0;4MRACHNAYA0;4SVETLAYA0;4TRESVETLAYA0
2DOUBLE ZAPYATAYA0;2REVERSED CHELYUSTKA0;2DERBITSA0;2KHAMILO0;2CHASHKA0;2PODCHASHIE0
2SKAMEYTSA MRACHNAYA0;3SVETLAYA0;3TRESVETLAYA0;3TIKHAYA0;2DEMESTVENNY KLYUCH0
2SKAMEYTSA KLYUCHEVAYA SVETLAYA0;3KLYUCHENEPOSTOYANNAYA0;3KLYUCHEVAYA TIKHAYA0
3DVOECHELNAYA PROSTAYA0;4SVETLAYA0;4NEPOSTOYANNAYA0;4KLYUCHEVAYA0;2SLOZHITIE0;3S ZAPYATOY0
3ZAKRYTOE0;3S KRYZHEM0;2KRYZH0;2ROG0;2FITA0;2KOBYLA0;2ZMEYTSA0;2STATYA0;3S ZAPYATOY0;4KRYZHEM0
4ZAPYATOY I1;4KRYZHEM I ZAPYATOY0;3ZAKRYTAYA0;4S ZAPYATOY0;3S ROGOM0;4DVUMYA ZAPYATYMI0
4ZAPYATOY I PODCHASHIEM0;2POLKULIZMY0;2STATYA NEPOSTOYANNAYA0;2STRELA PROSTAYA0;3MRACHNOTIKHAYA0
3KRYZHEVAYA0;3POLUPOVODNAYA0;3POVODNAYA0;3NEPOSTOYANNAYA0;3KLYUCHEPOVODNAYA0
3KLYUCHENEPOSTOYANNAYA0;3TIKHAYA PUTNAYA0;3DVOECHELNAYA0;3DVOECHELNOKRYZHEVAYA0
3DVOECHELNOPOVODNAYA0;3DVOECHELNAYA KLYUCHEVAYA0;3DVOECHELNOPOVODNAYA1
3GROMNAYA WITH SINGLE ZAPYATAYA0;3GROMOPOVODNAYA3;3GROMNAYA0;3GROMOPOVODNAYA0
4WITH DOUBLE ZAPYATAYA0;3GROMOKRYZHEVAYA0;4POVODNAYA0;2MECHIK0;3POVODNY0;3KLYUCHEVOY0
3KLYUCHEPOVODNY0;3KLYUCHENEPOSTOYANNY0;2STRELA TRYASOGLASNAYA0;3TRYASOPOVODNAYA0;3TRYASOSTRELNAYA0
2OSOKA0;3SVETLAYA0;3TRESVETLAYA0;3KRYUKOVAYA SVETLAYA0;3KLYUCHEVAYA1;4NEPOSTOYANNAYA0
2STRELA KRYUKOVAYA0;4POVODNAYA0;4GROMNAYA WITH SINGLE ZAPYATAYA0;4GROMOPOVODNAYA3;4GROMNAYA0
4GROMOPOVODNAYA0;5WITH DOUBLE ZAPYATAYA0;4GROMOKRYZHEVAYA0;5POVODNAYA0;4TRYASKA0;2KUFISMA0
2OBLAKO0;2DUDA0;2NEMKA0;2PAUK0"

/-- Music, mathematical alphabets, games, and pictographs. -/
def pictographNames : String := "
1d000:0BYZANTINE MUSICAL SYMBOL PSILI0;3DASEIA0;3PERISPOMENI0;3OXEIA EKFONITIKON0;4DIPLI0
3VAREIA EKFONITIKON0;4DIPLI0;3KATHISTI0;3SYRMATIKI0;3PARAKLITIKI0;3YPOKRISIS0;4DIPLI0;3KREMASTI0
3APESO EKFONITIKON0;3EXO1;3TELEIA0;3KENTIMATA0;3APOSTROFOS0;4DIPLI0;3SYNEVMA0;3THITA0
3OLIGON ARCHAION0;3GORGON1;3PSILON0;3CHAMILON0;3VATHY0;3ISON ARCHAION0;3KENTIMA1;3KENTIMATA1
3SAXIMATA0;3PARICHON0;3STAVROS APODEXIA0;3OXEIAI ARCHAION0;3VAREIAI1;3APODERMA1;3APOTHEMA0
3KLASMA0;3REVMA0;3PIASMA ARCHAION0;3TINAGMA0;3ANATRICHISMA0;3SEISMA0;3SYNAGMA ARCHAION0
4META STAVROU0;3OYRANISMA ARCHAION0;3THEMA0;3LEMOI0;3DYO0;3TRIA0;3TESSERA0;3KRATIMATA0
3APESO EXO NEO0;3FTHORA ARCHAION0;3IMIFTHORA0;3TROMIKON ARCHAION0;3KATAVA TROMIKON0;3PELASTON0
3PSIFISTON0;3KONTEVMA0;3CHOREVMA ARCHAION0;3RAPISMA0;3PARAKALESMA ARCHAION0;3PARAKLITIKI1
3ICHADIN0;3NANA0;3PETASMA0;3KONTEVMA ALLO0;3TROMIKON1;3STRAGGISMATA0;3GRONTHISMATA0;3ISON NEO0
3OLIGON1;3OXEIA1;3PETASTI0;3KOUFISMA0;3PETASTOKOUFISMA0;3KRATIMOKOUFISMA0;3PELASTON NEO0
3KENTIMATA NEO ANO0;3KENTIMA2;3YPSILI0;3APOSTROFOS NEO0;3APOSTROFOI SYNDESMOS1;3YPORROI0
3KRATIMOYPORROON0;3ELAFRON0;3CHAMILI0;3MIKRON ISON0;3VAREIA NEO0;3PIASMA1;3PSIFISTON1;3OMALON0
3ANTIKENOMA0;3LYGISMA0;3PARAKLITIKI NEO0;3PARAKALESMA1;3ETERON PARAKALESMA0;3KYLISMA0
3ANTIKENOKYLISMA0;3TROMIKON NEO0;3EKSTREPTON0;3SYNAGMA NEO0;3SYRMA0;3CHOREVMA NEO0;3EPEGERMA0
3SEISMA NEO0;3XIRON KLASMA0;3TROMIKOPSIFISTON0;3PSIFISTOLYGISMA0;3TROMIKOLYGISMA0
3TROMIKOPARAKALESMA0;3PSIFISTOPARAKALESMA0;3TROMIKOSYNAGMA0;3PSIFISTOSYNAGMA0;3GORGOSYNTHETON0
3ARGOSYNTHETON0;3ETERON1;3OYRANISMA NEO0;3THEMATISMOS ESO0;4EXO0;3THEMA APLOUN0;3THES KAI APOTHES0
3KATAVASMA0;3ENDOFONON0;3YFEN KATO0;4ANO0;3STAVROS0;3KLASMA ANO0;3DIPLI ARCHAION0;3KRATIMA1;4ALLO0
4NEO0;3APODERMA1;3APLI0;3DIPLI0;3TRIPLI0;3TETRAPLI0;3KORONIS0;3LEIMMA ENOS CHRONOU0;4DYO CHRONON0
4TRION1;4TESSARON1;4IMISEOS CHRONOU0;3GORGON NEO ANO0;4PARESTIGMENON ARISTERA0;5DEXIA0;3DIGORGON0
4PARESTIGMENON ARISTERA KATO0;6ANO0;5DEXIA0;3TRIGORGON0;3ARGON0;3IMIDIARGON0;3DIARGON0
3AGOGI POLI ARGI0;4ARGOTERI0;4ARGI0;4METRIA0;4MESI0;4GORGI0;4GORGOTERI0;4POLI GORGI0
3MARTYRIA PROTOS ICHOS0;4ALLI2;4DEYTEROS1;4ALLI2;4TRITOS1;4TRIFONIAS0;4TETARTOS ICHOS0;5LEGETOS1
42;4PLAGIOS1;3ISAKIA TELOUS ICHIMATOS0;3APOSTROFOI2;3FANEROSIS TETRAFONIAS0;4MONOFONIAS0
4DIFONIAS0;3MARTYRIA VARYS ICHOS0;4PROTOVARYS1;4PLAGIOS TETARTOS1;3GORTHMIKON N APLOUN0;5DIPLOUN0
3ENARXIS KAI FTHORA VOU0;3IMIFONON0;3IMIFTHORON0;3FTHORA ARCHAION DEYTEROU ICHOU0;4DIATONIKI PA0
5NANA0;4NAOS ICHOS0;4DIATONIKI DI0;4SKLIRON DIATONON1;4DIATONIKI KE0;5ZO0;5NI KATO0;6ANO0
4MALAKON CHROMA DIFONIAS0;6MONOFONIAS0;3FHTORA SKLIRON CHROMA VASIS0
3FTHORA SKLIRON CHROMA SYNAFI0;4NENANO0;3CHROA ZYGOS0;4KLITON0;4SPATHI0
3FTHORA I YFESIS TETARTIMORION0;4ENARMONIOS ANTIFONIA0;3YFESIS TRITIMORION0;3DIESIS1
4TETARTIMORION0;4APLI DYO DODEKATA0;4MONOGRAMMOS TESSERA1;4DIGRAMMOS EX1;4TRIGRAMMOS OKTO1
3YFESIS APLI DYO1;4MONOGRAMMOS TESSERA1;4DIGRAMMOS EX1;4TRIGRAMMOS OKTO1;3GENIKI DIESIS0;4YFESIS0
3DIASTOLI APLI MIKRI0;5MEGALI0;4DIPLI0;4THESEOS0;3SIMANSIS1;5DISIMOU0;5TRISIMOU0;5TETRASIMOU0
4ARSEOS0;5DISIMOU0;5TRISIMOU0;5TETRASIMOU0;3DIGRAMMA GG0;3DIFTOGGOS OU0;3STIGMA0;3ARKTIKO PA0
4VOU0;4GA0;4DI0;4KE0;4ZO0;4NI0;3KENTIMATA NEO MESO0;3KENTIMA2;3KENTIMATA NEO KATO0;3KENTIMA2
3KLASMA1;3GORGON NEO1;1d100:0MUSICAL SYMBOL SINGLE BARLINE0;2DOUBLE1;2FINAL1;2REVERSE2;2DASHED1
2SHORT1;2LEFT REPEAT SIGN0;2RIGHT2;2REPEAT DOTS0;2DAL SEGNO0;2DA CAPO0;2SEGNO0;2CODA0
2REPEATED FIGURE-10;3FIGURE-20;3FIGURE-30;2FERMATA0;3BELOW0;2BREATH MARK0;2CAESURA0;2BRACE0
2BRACKET0;2ONE-LINE STAFF0;2TWO-LINE1;2THREE-LINE1;2FOUR-LINE1;2FIVE-LINE1;2SIX-LINE1
2SIX-STRING FRETBOARD0;2FOUR-STRING1;2G CLEF0;4OTTAVA ALTA0;5BASSA0;2C CLEF0;2F1;4OTTAVA ALTA0
5BASSA0;2DRUM CLEF-10;3CLEF-20;1d129:0MUSICAL SYMBOL MULTIPLE MEASURE REST0;2DOUBLE SHARP0;3FLAT0
2FLAT UP0;3DOWN0;2NATURAL UP0;3DOWN0;2SHARP UP0;3DOWN0;2QUARTER TONE SHARP0;4FLAT0;2COMMON TIME0
2CUT1;2OTTAVA ALTA0;3BASSA0;2QUINDICESIMA ALTA0;3BASSA0;2MULTI REST0;2WHOLE1;2HALF1;2QUARTER1
2EIGHTH1;2SIXTEENTH1;2THIRTY-SECOND1;2SIXTY-FOURTH1;2ONE HUNDRED TWENTY-EIGHTH1;2X NOTEHEAD0
2PLUS1;2CIRCLE X1;2SQUARE NOTEHEAD WHITE0;4BLACK0;2TRIANGLE NOTEHEAD UP WHITE0;5BLACK0
4LEFT WHITE0;5BLACK0;4RIGHT WHITE0;5BLACK0;4DOWN WHITE0;5BLACK0;4UP RIGHT WHITE0;6BLACK0
2MOON NOTEHEAD WHITE0;4BLACK0;2TRIANGLE-ROUND NOTEHEAD DOWN WHITE0;5BLACK0;2PARENTHESIS NOTEHEAD0
2VOID1;2NOTEHEAD BLACK0;2NULL NOTEHEAD0;2CLUSTER NOTEHEAD WHITE0;4BLACK0;2BREVE0;2WHOLE NOTE0
2HALF1;2QUARTER1;2EIGHTH1;2SIXTEENTH1;2THIRTY-SECOND1;2SIXTY-FOURTH1;2ONE HUNDRED TWENTY-EIGHTH1
2COMBINING STEM0;3SPRECHGESANG1;3TREMOLO-10;3TREMOLO-20;3TREMOLO-30;2FINGERED TREMOLO-10
3TREMOLO-20;3TREMOLO-30;2COMBINING AUGMENTATION DOT0;3FLAG-10;3FLAG-20;3FLAG-30;3FLAG-40;3FLAG-50
2BEGIN BEAM0;2END1;2BEGIN TIE0;2END1;2BEGIN SLUR0;2END1;2BEGIN PHRASE0;2END1;2COMBINING ACCENT0
3STACCATO0;3TENUTO0;3STACCATISSIMO0;3MARCATO0;3MARCATO-STACCATO0;3ACCENT-STACCATO0;3LOURE0
2ARPEGGIATO UP0;3DOWN0;2COMBINING DOIT0;3RIP0;3FLIP0;3SMEAR0;3BEND0;3DOUBLE TONGUE0;3TRIPLE1
2RINFORZANDO0;2SUBITO0;2Z0;2PIANO0;2MEZZO0;2FORTE0;2CRESCENDO0;2DECRESCENDO0;2GRACE NOTE SLASH0
4NO1;2TR0;2TURN0;2INVERTED1;2TURN SLASH0;3UP0;2ORNAMENT STROKE-10;3STROKE-20;3STROKE-30;3STROKE-40
3STROKE-50;3STROKE-60;3STROKE-70;3STROKE-80;3STROKE-90;3STROKE-100;3STROKE-110;2HAUPTSTIMME0
2NEBENSTIMME0;2END OF STIMME0;2DEGREE SLASH0;2COMBINING DOWN BOW0;3UP1;3HARMONIC0;3SNAP PIZZICATO0
2PEDAL MARK0;3UP1;2HALF PEDAL1;2GLISSANDO UP0;3DOWN0;2WITH FINGERNAILS0;2DAMP0;3ALL0;2MAXIMA0
2LONGA0;2BREVIS0;2SEMIBREVIS WHITE0;3BLACK0;2MINIMA0;3BLACK0;2SEMIMINIMA WHITE0;3BLACK0
2FUSA WHITE0;3BLACK0;2LONGA PERFECTA REST0;3IMPERFECTA1;2BREVIS1;2SEMIBREVIS1;2MINIMA1
2SEMIMINIMA1;2TEMPUS PERFECTUM CUM PROLATIONE PERFECTA0;6IMPERFECTA0;6PERFECTA DIMINUTION-10
3IMPERFECTUM CUM PROLATIONE PERFECTA0;6IMPERFECTA0;7DIMINUTION-10;7DIMINUTION-20;7DIMINUTION-30
2CROIX0;2GREGORIAN C CLEF0;3F1;2SQUARE B0;2VIRGA0;2PODATUS0;2CLIVIS0;2SCANDICUS0;2CLIMACUS0
2TORCULUS0;2PORRECTUS0;3FLEXUS0;2SCANDICUS1;2TORCULUS RESUPINUS0;2PES SUBPUNCTIS0;2KIEVAN C CLEF0
3END OF PIECE0;3FINAL NOTE0;3RECITATIVE MARK0;3WHOLE NOTE0;3HALF1;3QUARTER NOTE STEM DOWN0;6UP0
3EIGHTH NOTE STEM DOWN0;6UP0;3FLAT SIGN0;2SORI0;2KORON0;1d200:0GREEK VOCAL NOTATION SYMBOL-10
3SYMBOL-20;3SYMBOL-30;3SYMBOL-40;3SYMBOL-50;3SYMBOL-60;3SYMBOL-70;3SYMBOL-80;3SYMBOL-90
3SYMBOL-100;3SYMBOL-110;3SYMBOL-120;3SYMBOL-130;3SYMBOL-140;3SYMBOL-150;3SYMBOL-160;3SYMBOL-170
3SYMBOL-180;3SYMBOL-190;3SYMBOL-200;3SYMBOL-210;3SYMBOL-220;3SYMBOL-230;3SYMBOL-240;3SYMBOL-500
3SYMBOL-510;3SYMBOL-520;3SYMBOL-530;3SYMBOL-540;1INSTRUMENTAL NOTATION SYMBOL-10;3SYMBOL-20
3SYMBOL-40;3SYMBOL-50;3SYMBOL-70;3SYMBOL-80;3SYMBOL-110;3SYMBOL-120;3SYMBOL-130;3SYMBOL-140
3SYMBOL-170;3SYMBOL-180;3SYMBOL-190;3SYMBOL-230;3SYMBOL-240;3SYMBOL-250;3SYMBOL-260;3SYMBOL-270
3SYMBOL-290;3SYMBOL-300;3SYMBOL-320;3SYMBOL-360;3SYMBOL-370;3SYMBOL-380;3SYMBOL-390;3SYMBOL-400
3SYMBOL-420;3SYMBOL-430;3SYMBOL-450;3SYMBOL-470;3SYMBOL-480;3SYMBOL-490;3SYMBOL-500;3SYMBOL-510
3SYMBOL-520;3SYMBOL-530;3SYMBOL-540;0COMBINING GREEK MUSICAL TRISEME0;3TETRASEME0;3PENTASEME0
0GREEK MUSICAL LEIMMA0;1d2e0:0MAYAN NUMERAL ZERO0;2ONE0;2TWO0;2THREE0;2FOUR0;2FIVE0;2SIX0;2SEVEN0
2EIGHT0;2NINE0;2TEN0;2ELEVEN0;2TWELVE0;2THIRTEEN0;2FOURTEEN0;2FIFTEEN0;2SIXTEEN0;2SEVENTEEN0
2EIGHTEEN0;2NINETEEN0;1d300:0MONOGRAM FOR EARTH0;0DIGRAM FOR HEAVENLY1;2HUMAN1;2EARTHLY HEAVEN0
3HUMAN0;2EARTH0;0TETRAGRAM FOR CENTRE0;2FULL CIRCLE0;2MIRED0;2BARRIER0;2KEEPING SMALL0
2CONTRARIETY0;2ASCENT0;2OPPOSITION0;2BRANCHING OUT0;2DEFECTIVENESS OR DISTORTION0;2DIVERGENCE0
2YOUTHFULNESS0;2INCREASE0;2PENETRATION0;2REACH0;2CONTACT0;2HOLDING BACK0;2WAITING0;2FOLLOWING0
2ADVANCE0;2RELEASE0;2RESISTANCE0;2EASE0;2JOY0;2CONTENTION0;2ENDEAVOUR0;2DUTIES0;2CHANGE0
2DECISIVENESS0;2BOLD RESOLUTION0;2PACKING0;2LEGION0;2CLOSENESS0;2KINSHIP0;2GATHERING0;2STRENGTH0
2PURITY0;2FULLNESS0;2RESIDENCE0;2LAW OR MODEL0;2RESPONSE0;2GOING TO MEET0;2ENCOUNTERS0;2STOVE0
2GREATNESS0;2ENLARGEMENT0;2PATTERN0;2RITUAL0;2FLIGHT0;2VASTNESS OR WASTING0;2CONSTANCY0;2MEASURE0
2ETERNITY0;2UNITY0;2DIMINISHMENT0;2CLOSED MOUTH0;2GUARDEDNESS0;2GATHERING IN0;2MASSING0
2ACCUMULATION0;2EMBELLISHMENT0;2DOUBT0;2WATCH0;2SINKING0;2INNER0;2DEPARTURE0;2DARKENING0;2DIMMING0
2EXHAUSTION0;2SEVERANCE0;2STOPPAGE0;2HARDNESS0;2COMPLETION0;2CLOSURE0;2FAILURE0;2AGGRAVATION0
2COMPLIANCE0;2ON THE VERGE0;2DIFFICULTIES0;2LABOURING0;2FOSTERING0
1d360:0COUNTING ROD UNIT DIGIT ONE0;4TWO0;4THREE0;4FOUR0;4FIVE0;4SIX0;4SEVEN0;4EIGHT0;4NINE0
2TENS DIGIT ONE0;4TWO0;4THREE0;4FOUR0;4FIVE0;4SIX0;4SEVEN0;4EIGHT0;4NINE0
0IDEOGRAPHIC TALLY MARK ONE0;3TWO0;3THREE0;3FOUR0;3FIVE0;0TALLY MARK ONE0;2FIVE0
1d400:0MATHEMATICAL BOLD CAPITAL A0;3B0;3C0;3D0;3E0;3F0;3G0;3H0;3I0;3J0;3K0;3L0;3M0;3N0;3O0;3P0
3Q0;3R0;3S0;3T0;3U0;3V0;3W0;3X0;3Y0;3Z0;2SMALL A0;3B0;3C0;3D0;3E0;3F0;3G0;3H0;3I0;3J0;3K0;3L0;3M0
3N0;3O0;3P0;3Q0;3R0;3S0;3T0;3U0;3V0;3W0;3X0;3Y0;3Z0;1ITALIC CAPITAL A0;3B0;3C0;3D0;3E0;3F0;3G0;3H0
3I0;3J0;3K0;3L0;3M0;3N0;3O0;3P0;3Q0;3R0;3S0;3T0;3U0;3V0;3W0;3X0;3Y0;3Z0;2SMALL A0;3B0;3C0;3D0;3E0
3F0;3G0;1d456:0MATHEMATICAL ITALIC SMALL I0;3J0;3K0;3L0;3M0;3N0;3O0;3P0;3Q0;3R0;3S0;3T0;3U0;3V0
3W0;3X0;3Y0;3Z0;1BOLD ITALIC CAPITAL A0;4B0;4C0;4D0;4E0;4F0;4G0;4H0;4I0;4J0;4K0;4L0;4M0;4N0;4O0
4P0;4Q0;4R0;4S0;4T0;4U0;4V0;4W0;4X0;4Y0;4Z0;3SMALL A0;4B0;4C0;4D0;4E0;4F0;4G0;4H0;4I0;4J0;4K0;4L0
4M0;4N0;4O0;4P0;4Q0;4R0;4S0;4T0;4U0;4V0;4W0;4X0;4Y0;4Z0;1SCRIPT CAPITAL A0
1d49e:0MATHEMATICAL SCRIPT CAPITAL C0;3D0;1d4a2:0MATHEMATICAL SCRIPT CAPITAL G0
1d4a5:0MATHEMATICAL SCRIPT CAPITAL J0;3K0;1d4a9:0MATHEMATICAL SCRIPT CAPITAL N0;3O0;3P0;3Q0
1d4ae:0MATHEMATICAL SCRIPT CAPITAL S0;3T0;3U0;3V0;3W0;3X0;3Y0;3Z0;2SMALL A0;3B0;3C0;3D0
1d4bb:0MATHEMATICAL SCRIPT SMALL F0;1d4bd:0MATHEMATICAL SCRIPT SMALL H0;3I0;3J0;3K0;3L0;3M0;3N0
1d4c5:0MATHEMATICAL SCRIPT SMALL P0;3Q0;3R0;3S0;3T0;3U0;3V0;3W0;3X0;3Y0;3Z0
1BOLD SCRIPT CAPITAL A0;4B0;4C0;4D0;4E0;4F0;4G0;4H0;4I0;4J0;4K0;4L0;4M0;4N0;4O0;4P0;4Q0;4R0;4S0
4T0;4U0;4V0;4W0;4X0;4Y0;4Z0;3SMALL A0;4B0;4C0;4D0;4E0;4F0;4G0;4H0;4I0;4J0;4K0;4L0;4M0;4N0;4O0;4P0
4Q0;4R0;4S0;4T0;4U0;4V0;4W0;4X0;4Y0;4Z0;1FRAKTUR CAPITAL A0;3B0
1d507:0MATHEMATICAL FRAKTUR CAPITAL D0;3E0;3F0;3G0;1d50d:0MATHEMATICAL FRAKTUR CAPITAL J0;3K0;3L0
3M0;3N0;3O0;3P0;3Q0;1d516:0MATHEMATICAL FRAKTUR CAPITAL S0;3T0;3U0;3V0;3W0;3X0;3Y0
1d51e:0MATHEMATICAL FRAKTUR SMALL A0;3B0;3C0;3D0;3E0;3F0;3G0;3H0;3I0;3J0;3K0;3L0;3M0;3N0;3O0;3P0
3Q0;3R0;3S0;3T0;3U0;3V0;3W0;3X0;3Y0;3Z0;1DOUBLE-STRUCK CAPITAL A0;3B0
1d53b:0MATHEMATICAL DOUBLE-STRUCK CAPITAL D0;3E0;3F0;3G0
1d540:0MATHEMATICAL DOUBLE-STRUCK CAPITAL I0;3J0;3K0;3L0;3M0
1d546:0MATHEMATICAL DOUBLE-STRUCK CAPITAL O0;1d54a:0MATHEMATICAL DOUBLE-STRUCK CAPITAL S0;3T0;3U0
3V0;3W0;3X0;3Y0;1d552:0MATHEMATICAL DOUBLE-STRUCK SMALL A0;3B0;3C0;3D0;3E0;3F0;3G0;3H0;3I0;3J0;3K0
3L0;3M0;3N0;3O0;3P0;3Q0;3R0;3S0;3T0;3U0;3V0;3W0;3X0;3Y0;3Z0;1BOLD FRAKTUR CAPITAL A0;4B0;4C0;4D0
4E0;4F0;4G0;4H0;4I0;4J0;4K0;4L0;4M0;4N0;4O0;4P0;4Q0;4R0;4S0;4T0;4U0;4V0;4W0;4X0;4Y0;4Z0;3SMALL A0
4B0;4C0;4D0;4E0;4F0;4G0;4H0;4I0;4J0;4K0;4L0;4M0;4N0;4O0;4P0;4Q0;4R0;4S0;4T0;4U0;4V0;4W0;4X0;4Y0
4Z0;1SANS-SERIF CAPITAL A0;3B0;3C0;3D0;3E0;3F0;3G0;3H0;3I0;3J0;3K0;3L0;3M0;3N0;3O0;3P0;3Q0;3R0;3S0
3T0;3U0;3V0;3W0;3X0;3Y0;3Z0;2SMALL A0;3B0;3C0;3D0;3E0;3F0;3G0;3H0;3I0;3J0;3K0;3L0;3M0;3N0;3O0;3P0
3Q0;3R0;3S0;3T0;3U0;3V0;3W0;3X0;3Y0;3Z0;2BOLD CAPITAL A0;4B0;4C0;4D0;4E0;4F0;4G0;4H0;4I0;4J0;4K0
4L0;4M0;4N0;4O0;4P0;4Q0;4R0;4S0;4T0;4U0;4V0;4W0;4X0;4Y0;4Z0;3SMALL A0;4B0;4C0;4D0;4E0;4F0;4G0;4H0
4I0;4J0;4K0;4L0;4M0;4N0;4O0;4P0;4Q0;4R0;4S0;4T0;4U0;4V0;4W0;4X0;4Y0;4Z0;2ITALIC CAPITAL A0;4B0;4C0
4D0;4E0;4F0;4G0;4H0;4I0;4J0;4K0;4L0;4M0;4N0;4O0;4P0;4Q0;4R0;4S0;4T0;4U0;4V0;4W0;4X0;4Y0;4Z0
3SMALL A0;4B0;4C0;4D0;4E0;4F0;4G0;4H0;4I0;4J0;4K0;4L0;4M0;4N0;4O0;4P0;4Q0;4R0;4S0;4T0;4U0;4V0;4W0
4X0;4Y0;4Z0;2BOLD ITALIC CAPITAL A0;5B0;5C0;5D0;5E0;5F0;5G0;5H0;5I0;5J0;5K0;5L0;5M0;5N0;5O0;5P0
5Q0;5R0;5S0;5T0;5U0;5V0;5W0;5X0;5Y0;5Z0;4SMALL A0;5B0;5C0;5D0;5E0;5F0;5G0;5H0;5I0;5J0;5K0;5L0;5M0
5N0;5O0;5P0;5Q0;5R0;5S0;5T0;5U0;5V0;5W0;5X0;5Y0;5Z0;1MONOSPACE CAPITAL A0;3B0;3C0;3D0;3E0;3F0;3G0
3H0;3I0;3J0;3K0;3L0;3M0;3N0;3O0;3P0;3Q0;3R0;3S0;3T0;3U0;3V0;3W0;3X0;3Y0;3Z0;2SMALL A0;3B0;3C0;3D0
3E0;3F0;3G0;3H0;3I0;3J0;3K0;3L0;3M0;3N0;3O0;3P0;3Q0;3R0;3S0;3T0;3U0;3V0;3W0;3X0;3Y0;3Z0
1ITALIC SMALL DOTLESS I0;4J0;1d6a8:0MATHEMATICAL BOLD CAPITAL ALPHA0;3BETA0;3GAMMA0;3DELTA0
3EPSILON0;3ZETA0;3ETA0;3THETA0;3IOTA0;3KAPPA0;3LAMDA0;3MU0;3NU0;3XI0;3OMICRON0;3PI0;3RHO0
3THETA SYMBOL0;3SIGMA0;3TAU0;3UPSILON0;3PHI0;3CHI0;3PSI0;3OMEGA0;2NABLA0;2SMALL ALPHA0;3BETA0
3GAMMA0;3DELTA0;3EPSILON0;3ZETA0;3ETA0;3THETA0;3IOTA0;3KAPPA0;3LAMDA0;3MU0;3NU0;3XI0;3OMICRON0
3PI0;3RHO0;3FINAL SIGMA0;31;3TAU0;3UPSILON0;3PHI0;3CHI0;3PSI0;3OMEGA0;2PARTIAL DIFFERENTIAL0
2EPSILON SYMBOL0;2THETA1;2KAPPA1;2PHI1;2RHO1;2PI1;1ITALIC CAPITAL ALPHA0;3BETA0;3GAMMA0;3DELTA0
3EPSILON0;3ZETA0;3ETA0;3THETA0;3IOTA0;3KAPPA0;3LAMDA0;3MU0;3NU0;3XI0;3OMICRON0;3PI0;3RHO0
3THETA SYMBOL0;3SIGMA0;3TAU0;3UPSILON0;3PHI0;3CHI0;3PSI0;3OMEGA0;2NABLA0;2SMALL ALPHA0;3BETA0
3GAMMA0;3DELTA0;3EPSILON0;3ZETA0;3ETA0;3THETA0;3IOTA0;3KAPPA0;3LAMDA0;3MU0;3NU0;3XI0;3OMICRON0
3PI0;3RHO0;3FINAL SIGMA0;31;3TAU0;3UPSILON0;3PHI0;3CHI0;3PSI0;3OMEGA0;2PARTIAL DIFFERENTIAL0
2EPSILON SYMBOL0;2THETA1;2KAPPA1;2PHI1;2RHO1;2PI1;1BOLD ITALIC CAPITAL ALPHA0;4BETA0;4GAMMA0
4DELTA0;4EPSILON0;4ZETA0;4ETA0;4THETA0;4IOTA0;4KAPPA0;4LAMDA0;4MU0;4NU0;4XI0;4OMICRON0;4PI0;4RHO0
4THETA SYMBOL0;4SIGMA0;4TAU0;4UPSILON0;4PHI0;4CHI0;4PSI0;4OMEGA0;3NABLA0;3SMALL ALPHA0;4BETA0
4GAMMA0;4DELTA0;4EPSILON0;4ZETA0;4ETA0;4THETA0;4IOTA0;4KAPPA0;4LAMDA0;4MU0;4NU0;4XI0;4OMICRON0
4PI0;4RHO0;4FINAL SIGMA0;41;4TAU0;4UPSILON0;4PHI0;4CHI0;4PSI0;4OMEGA0;3PARTIAL DIFFERENTIAL0
3EPSILON SYMBOL0;3THETA1;3KAPPA1;3PHI1;3RHO1;3PI1;1SANS-SERIF BOLD CAPITAL ALPHA0;4BETA0;4GAMMA0
4DELTA0;4EPSILON0;4ZETA0;4ETA0;4THETA0;4IOTA0;4KAPPA0;4LAMDA0;4MU0;4NU0;4XI0;4OMICRON0;4PI0;4RHO0
4THETA SYMBOL0;4SIGMA0;4TAU0;4UPSILON0;4PHI0;4CHI0;4PSI0;4OMEGA0;3NABLA0;3SMALL ALPHA0;4BETA0
4GAMMA0;4DELTA0;4EPSILON0;4ZETA0;4ETA0;4THETA0;4IOTA0;4KAPPA0;4LAMDA0;4MU0;4NU0;4XI0;4OMICRON0
4PI0;4RHO0;4FINAL SIGMA0;41;4TAU0;4UPSILON0;4PHI0;4CHI0;4PSI0;4OMEGA0;3PARTIAL DIFFERENTIAL0
3EPSILON SYMBOL0;3THETA1;3KAPPA1;3PHI1;3RHO1;3PI1;3ITALIC CAPITAL ALPHA0;5BETA0;5GAMMA0;5DELTA0
5EPSILON0;5ZETA0;5ETA0;5THETA0;5IOTA0;5KAPPA0;5LAMDA0;5MU0;5NU0;5XI0;5OMICRON0;5PI0;5RHO0
5THETA SYMBOL0;5SIGMA0;5TAU0;5UPSILON0;5PHI0;5CHI0;5PSI0;5OMEGA0;4NABLA0;4SMALL ALPHA0;5BETA0
5GAMMA0;5DELTA0;5EPSILON0;5ZETA0;5ETA0;5THETA0;5IOTA0;5KAPPA0;5LAMDA0;5MU0;5NU0;5XI0;5OMICRON0
5PI0;5RHO0;5FINAL SIGMA0;51;5TAU0;5UPSILON0;5PHI0;5CHI0;5PSI0;5OMEGA0;4PARTIAL DIFFERENTIAL0
4EPSILON SYMBOL0;4THETA1;4KAPPA1;4PHI1;4RHO1;4PI1;1BOLD CAPITAL DIGAMMA0;2SMALL1
1d7ce:0MATHEMATICAL BOLD DIGIT ZERO0;3ONE0;3TWO0;3THREE0;3FOUR0;3FIVE0;3SIX0;3SEVEN0;3EIGHT0
3NINE0;1DOUBLE-STRUCK DIGIT ZERO0;3ONE0;3TWO0;3THREE0;3FOUR0;3FIVE0;3SIX0;3SEVEN0;3EIGHT0;3NINE0
1SANS-SERIF DIGIT ZERO0;3ONE0;3TWO0;3THREE0;3FOUR0;3FIVE0;3SIX0;3SEVEN0;3EIGHT0;3NINE0
2BOLD DIGIT ZERO0;4ONE0;4TWO0;4THREE0;4FOUR0;4FIVE0;4SIX0;4SEVEN0;4EIGHT0;4NINE0
1MONOSPACE DIGIT ZERO0;3ONE0;3TWO0;3THREE0;3FOUR0;3FIVE0;3SIX0;3SEVEN0;3EIGHT0;3NINE0
0SIGNWRITING HAND-FIST INDEX0;1HAND-CIRCLE1;1HAND-CUP1;1HAND-OVAL1;1HAND-HINGE1;1HAND-ANGLE1
1HAND-FIST INDEX BENT0;1HAND-CIRCLE2;1HAND-FIST THUMB UNDER2;2INDEX RAISED KNUCKLE0;3CUPPED0
3HINGED0;4LOW0;1HAND-CIRCLE INDEX HINGE0;1HAND-FIST INDEX MIDDLE0;1HAND-CIRCLE2
1HAND-FIST INDEX MIDDLE BENT0;4RAISED KNUCKLES0;4HINGED0;3UP2;3HINGED MIDDLE UP0
3MIDDLE CONJOINED0;5INDEX BENT0;5MIDDLE1;5CUPPED0;5HINGED0;4CROSSED0;1HAND-CIRCLE3
1HAND-FIST MIDDLE BENT OVER INDEX0;2INDEX BENT OVER MIDDLE0;3MIDDLE THUMB0;1HAND-CIRCLE3
1HAND-FIST INDEX MIDDLE STRAIGHT THUMB BENT0;4BENT THUMB STRAIGHT0;4THUMB BENT0
4HINGED SPREAD THUMB SIDE0;3UP MIDDLE HINGED2;7CONJOINED0;3HINGED MIDDLE UP THUMB SIDE0
3MIDDLE UP SPREAD THUMB FORWARD0;4THUMB CUPPED0;5CIRCLED0;5HOOKED0;5HINGED0
2THUMB BETWEEN INDEX MIDDLE STRAIGHT0;2INDEX MIDDLE CONJOINED THUMB SIDE0;7CONJOINED0;7BENT0
2MIDDLE THUMB HOOKED INDEX UP0;2INDEX THUMB HOOKED MIDDLE1;3MIDDLE CONJOINED HINGED THUMB SIDE0
4CROSSED2;4CONJOINED THUMB FORWARD0;5CUPPED2;2MIDDLE THUMB CUPPED INDEX UP0
2INDEX THUMB CUPPED MIDDLE1;2MIDDLE THUMB CIRCLED INDEX1;6HINGED0
2INDEX THUMB ANGLED OUT MIDDLE UP0;5IN2;4CIRCLED2;3MIDDLE THUMB CONJOINED HINGED0;5ANGLED OUT0;60
2MIDDLE THUMB ANGLED OUT INDEX UP0;7CROSSED0;5INDEX UP0;2INDEX THUMB HOOKED MIDDLE HINGED0
1HAND-FLAT FOUR FINGERS0;4BENT0;4HINGED0;4CONJOINED0;5SPLIT0;1HAND-CLAW FOUR FINGERS CONJOINED0
1HAND-FIST FOUR FINGERS CONJOINED BENT0;1HAND-HINGE FOUR FINGERS CONJOINED0
1HAND-FLAT FIVE FINGERS SPREAD0;2HEEL3;2FIVE FINGERS SPREAD FOUR BENT0;2HEEL5
2FIVE FINGERS SPREAD1;2HEEL4;2FIVE FINGERS SPREAD THUMB FORWARD0;1HAND-CUP FIVE FINGERS SPREAD0
5OPEN0;1HAND-HINGE4;1HAND-OVAL FIVE FINGERS SPREAD0;1HAND-FLAT FIVE FINGERS SPREAD HINGED0
6THUMB SIDE0;6NO THUMB0;20;2BETWEEN PALM FACINGS0;2HEEL0;2THUMB SIDE0;2HEEL2;2THUMB BENT0
3FORWARD0;2SPLIT INDEX THUMB SIDE0;3CENTRE0;4THUMB SIDE0;6BENT0;3LITTLE0;1HAND-CLAW0;2THUMB SIDE0
2NO THUMB0;2THUMB FORWARD0;1HAND-HOOK CURLICUE0;20;1HAND-CUP OPEN0;20;2OPEN THUMB SIDE0;22
2OPEN NO THUMB0;22;2OPEN THUMB FORWARD0;22;1HAND-CURLICUE OPEN0;20;1HAND-CIRCLE0;1HAND-OVAL0
2THUMB SIDE0;2NO THUMB0;2THUMB FORWARD0;1HAND-HINGE OPEN0;3THUMB FORWARD0;20;2SMALL0
2OPEN THUMB SIDE0;22;2OPEN NO THUMB0;22;2THUMB SIDE TOUCHING INDEX0;3BETWEEN MIDDLE RING0
1HAND-ANGLE0;1HAND-FIST INDEX MIDDLE RING0;1HAND-CIRCLE3;1HAND-HINGE3;1HAND-ANGLE3
1HAND-HINGE LITTLE0;1HAND-FIST INDEX MIDDLE RING BENT0;5CONJOINED0;1HAND-HINGE4
1HAND-FIST LITTLE DOWN0;4RIPPLE STRAIGHT0;5CURVED0;4OTHERS CIRCLED0;3UP0;2THUMB UNDER2
1HAND-CIRCLE2;1HAND-OVAL2;1HAND-ANGLE2;1HAND-FIST LITTLE RAISED KNUCKLE0;3BENT0;3TOUCHES THUMB0;31
1HAND-HINGE2;1HAND-FIST LITTLE INDEX1;1HAND-HINGE3;1HAND-ANGLE LITTLE INDEX THUMB INDEX THUMB OUT0
70;1HAND-FIST LITTLE INDEX0;1HAND-CIRCLE2;1HAND-HINGE2;1HAND-ANGLE2
1HAND-FIST INDEX MIDDLE LITTLE0;1HAND-CIRCLE3;1HAND-HINGE3;2RING0;1HAND-ANGLE INDEX MIDDLE LITTLE0
1HAND-FIST INDEX MIDDLE CROSS1;1HAND-CIRCLE4;1HAND-FIST RING DOWN0
1HAND-HINGE RING DOWN INDEX THUMB HOOK MIDDLE0;1HAND-ANGLE RING DOWN MIDDLE THUMB INDEX CROSS0
1HAND-FIST RING UP0;3RAISED KNUCKLE0;3LITTLE0;1HAND-CIRCLE2;1HAND-OVAL2;1HAND-ANGLE2
1HAND-FIST RING MIDDLE0;4CONJOINED0;4RAISED KNUCKLES0;3INDEX0;3THUMB0;1HAND-HOOK2
1HAND-FIST INDEX RING LITTLE0;1HAND-CIRCLE3;1HAND-CURLICUE INDEX RING LITTLE ON0
1HAND-HOOK INDEX RING LITTLE OUT0;5IN0;5UNDER0;1HAND-CUP INDEX RING LITTLE0;1HAND-HINGE3
1HAND-ANGLE INDEX RING LITTLE OUT0;50;1HAND-FIST MIDDLE DOWN0;1HAND-HINGE MIDDLE0
1HAND-FIST MIDDLE UP0;1HAND-CIRCLE2;1HAND-FIST MIDDLE RAISED KNUCKLE0;3UP THUMB SIDE0
1HAND-HOOK MIDDLE THUMB0;1HAND-FIST MIDDLE THUMB LITTLE0;31;3RING1;1HAND-CIRCLE3
1HAND-CURLICUE MIDDLE RING LITTLE ON0;1HAND-CUP MIDDLE RING LITTLE0;1HAND-HINGE3
1HAND-ANGLE MIDDLE RING LITTLE OUT0;5IN0;50;1HAND-CIRCLE MIDDLE RING LITTLE BENT0
1HAND-CLAW MIDDLE RING LITTLE CONJOINED0;6SIDE0;1HAND-HOOK MIDDLE RING LITTLE CONJOINED OUT0;6IN0
60;1HAND-HINGE INDEX HINGED0;1HAND-FIST INDEX THUMB SIDE0;1HAND-HINGE3
1HAND-FIST INDEX THUMB SIDE THUMB DIAGONAL0;6CONJOINED0;6BENT0;5INDEX1;5BOTH1;5INDEX HINGE0
4FORWARD INDEX STRAIGHT0;6BENT0;4HOOK0;4CURLICUE0;4CURVE THUMB INSIDE0;1HAND-CLAW5
1HAND-FIST INDEX THUMB CURVE THUMB UNDER0;4CIRCLE0;1HAND-CUP INDEX THUMB0;4OPEN0;1HAND-HINGE3
4LARGE0;40;4SMALL0;1HAND-ANGLE INDEX THUMB OUT0;4IN0;40;1HAND-FIST1;3HEEL0;3SIDE DIAGONAL0
4CONJOINED0;4BENT0;3FORWARD0;3BETWEEN INDEX MIDDLE0;4MIDDLE RING0;4RING LITTLE0
3UNDER TWO FINGERS0;3OVER2;3UNDER THREE1;4FOUR1;3OVER FOUR RAISED KNUCKLES0;20;2HEEL0
1TOUCH SINGLE0;2MULTIPLE0;2BETWEEN0;1GRASP SINGLE0;2MULTIPLE0;2BETWEEN0;1STRIKE SINGLE0;2MULTIPLE0
2BETWEEN0;1BRUSH SINGLE0;2MULTIPLE0;2BETWEEN0;1RUB SINGLE0;2MULTIPLE0;2BETWEEN0;1SURFACE SYMBOLS0
2BETWEEN0;1SQUEEZE LARGE SINGLE0;2SMALL1;2LARGE MULTIPLE0;2SMALL1;2SEQUENTIAL0
1FLICK LARGE SINGLE0;2SMALL1;2LARGE MULTIPLE0;2SMALL1;2SEQUENTIAL0;1SQUEEZE FLICK ALTERNATING0
1MOVEMENT-HINGE UP DOWN LARGE0;4SMALL0;3SEQUENTIAL0;2DOWN1;2UP DOWN ALTERNATING LARGE0;5SMALL0
2SIDE TO SIDE SCISSORS0;1MOVEMENT-WALLPLANE FINGER CONTACT0;1MOVEMENT-FLOORPLANE2
1MOVEMENT-WALLPLANE SINGLE STRAIGHT SMALL0;4MEDIUM0;4LARGE0;4LARGEST0;3WRIST FLEX0
2DOUBLE STRAIGHT0;3WRIST FLEX0;3ALTERNATING0;4WRIST FLEX0;2CROSS0;2TRIPLE STRAIGHT MOVEMENT0
3WRIST FLEX0;3ALTERNATING0;4WRIST FLEX0;2BEND SMALL0;3MEDIUM0;3LARGE0;2CORNER SMALL0;3MEDIUM0
3LARGE0;3ROTATION0;2CHECK SMALL0;3MEDIUM0;3LARGE0;2BOX SMALL0;3MEDIUM0;3LARGE0;2ZIGZAG SMALL0
3MEDIUM0;3LARGE0;2PEAKS SMALL0;3MEDIUM0;3LARGE0;1TRAVEL-WALLPLANE ROTATION-WALLPLANE SINGLE0
3DOUBLE0;3ALTERNATING0;2ROTATION-FLOORPLANE SINGLE0;3DOUBLE0;3ALTERNATING0;2SHAKING0
2ARM SPIRAL SINGLE0;4DOUBLE0;4TRIPLE0;1MOVEMENT-DIAGONAL AWAY SMALL0;3MEDIUM0;3LARGE0;3LARGEST0
2TOWARDS SMALL0;3MEDIUM0;3LARGE0;3LARGEST0;2BETWEEN AWAY SMALL0;4MEDIUM0;4LARGE0;4LARGEST0
3TOWARDS SMALL0;4MEDIUM0;4LARGE0;4LARGEST0;1MOVEMENT-FLOORPLANE SINGLE STRAIGHT SMALL0;4MEDIUM0
4LARGE0;4LARGEST0;3WRIST FLEX0;2DOUBLE STRAIGHT0;3WRIST FLEX0;3ALTERNATING0;4WRIST FLEX0;2CROSS0
2TRIPLE STRAIGHT MOVEMENT0;3WRIST FLEX0;3ALTERNATING MOVEMENT0;4WRIST FLEX0;2BEND0;2CORNER SMALL0
3MEDIUM0;3LARGE0;2CHECK0;2BOX SMALL0;3MEDIUM0;3LARGE0;2ZIGZAG SMALL0;3MEDIUM0;3LARGE0
2PEAKS SMALL0;3MEDIUM0;3LARGE0;1TRAVEL-FLOORPLANE ROTATION-FLOORPLANE SINGLE0;3DOUBLE0
3ALTERNATING0;2ROTATION-WALLPLANE SINGLE0;3DOUBLE0;3ALTERNATING0;2SHAKING0
1MOVEMENT-WALLPLANE CURVE QUARTER SMALL0;4MEDIUM0;4LARGE0;4LARGEST0;3HALF-CIRCLE SMALL0;4MEDIUM0
4LARGE0;4LARGEST0;3THREE-QUARTER CIRCLE SMALL0;5MEDIUM0;2HUMP SMALL0;3MEDIUM0;3LARGE0;2LOOP SMALL0
3MEDIUM0;3LARGE0;3SMALL DOUBLE0;2WAVE CURVE DOUBLE SMALL0;5MEDIUM0;5LARGE0;4TRIPLE SMALL0;5MEDIUM0
5LARGE0;2CURVE THEN STRAIGHT0;2CURVED CROSS SMALL0;4MEDIUM0;1ROTATION-WALLPLANE SINGLE0;2DOUBLE0
2ALTERNATE0;1MOVEMENT-WALLPLANE SHAKING0;2CURVE HITTING FRONT WALL0;2HUMP3;2LOOP3;2WAVE3
1ROTATION-WALLPLANE SINGLE3;2DOUBLE3;2ALTERNATING3;1MOVEMENT-WALLPLANE CURVE HITTING CHEST0;2HUMP2
2LOOP2;2WAVE2;1ROTATION-WALLPLANE SINGLE2;2DOUBLE2;2ALTERNATING2
1MOVEMENT-WALLPLANE WAVE DIAGONAL PATH SMALL0;5MEDIUM0;5LARGE0
1MOVEMENT-FLOORPLANE CURVE HITTING CEILING SMALL0;5LARGE0;2HUMP HITTING CEILING SMALL DOUBLE0
5LARGE1;5SMALL TRIPLE0;5LARGE1;2LOOP HITTING CEILING SMALL SINGLE0;5LARGE1;5SMALL DOUBLE0;5LARGE1
2WAVE HITTING CEILING SMALL0;5LARGE0;1ROTATION-FLOORPLANE SINGLE HITTING CEILING0;2DOUBLE2
2ALTERNATING2;1MOVEMENT-FLOORPLANE CURVE HITTING FLOOR SMALL0;5LARGE0
2HUMP HITTING FLOOR SMALL DOUBLE0;5LARGE1;5TRIPLE SMALL TRIPLE0;6LARGE1
2LOOP HITTING FLOOR SMALL SINGLE0;5LARGE1;5SMALL DOUBLE0;5LARGE1;2WAVE HITTING FLOOR SMALL0
5LARGE0;1ROTATION-FLOORPLANE SINGLE HITTING FLOOR0;2DOUBLE2;2ALTERNATING2
1MOVEMENT-FLOORPLANE CURVE SMALL0;3MEDIUM0;3LARGE0;3LARGEST0;3COMBINED0;2HUMP SMALL0;2LOOP1
2WAVE SNAKE0;3SMALL0;3LARGE0;1ROTATION-FLOORPLANE SINGLE0;2DOUBLE0;2ALTERNATING0
1MOVEMENT-FLOORPLANE SHAKING PARALLEL0;1MOVEMENT-WALLPLANE ARM CIRCLE SMALL SINGLE0;4MEDIUM1
4SMALL DOUBLE0;4MEDIUM1;1MOVEMENT-FLOORPLANE ARM CIRCLE HITTING WALL SMALL SINGLE0;6MEDIUM1
6LARGE1;6SMALL DOUBLE0;6MEDIUM1;6LARGE1;1MOVEMENT-WALLPLANE WRIST CIRCLE FRONT SINGLE0;5DOUBLE0
1MOVEMENT-FLOORPLANE WRIST CIRCLE HITTING WALL SINGLE0;6DOUBLE0
1MOVEMENT-WALLPLANE FINGER CIRCLES SINGLE0;4DOUBLE0
1MOVEMENT-FLOORPLANE FINGER CIRCLES HITTING WALL SINGLE0;6DOUBLE0;1DYNAMIC ARROWHEAD SMALL0
3LARGE0;2FAST0;2SLOW0;2TENSE0;2RELAXED0;2SIMULTANEOUS0;3ALTERNATING0;2EVERY OTHER TIME0;2GRADUAL0
1HEAD0;2RIM0;2MOVEMENT-WALLPLANE STRAIGHT0;3TILT0;2MOVEMENT-FLOORPLANE STRAIGHT0
2MOVEMENT-WALLPLANE CURVE0;2MOVEMENT-FLOORPLANE1;2MOVEMENT CIRCLE0
1FACE DIRECTION POSITION NOSE FORWARD TILTING0;5UP OR DOWN0;8TILTING0;1EYEBROWS STRAIGHT UP0
3NEUTRAL0;3DOWN0;1DREAMY EYEBROWS NEUTRAL1;3DOWN NEUTRAL0;3UP1;3NEUTRAL UP0;1FOREHEAD NEUTRAL0
2CONTACT0;2WRINKLED0;1EYES OPEN0;2SQUEEZED0;2CLOSED0;1EYE BLINK SINGLE0;3MULTIPLE0
1EYES HALF OPEN0;2WIDE1;2HALF CLOSED0;2WIDENING MOVEMENT0;1EYE WINK0;1EYELASHES UP0;2DOWN0
2FLUTTERING0;1EYEGAZE-WALLPLANE STRAIGHT0;3DOUBLE0;3ALTERNATING0;1EYEGAZE-FLOORPLANE STRAIGHT0
3DOUBLE0;3ALTERNATING0;1EYEGAZE-WALLPLANE CURVED0;1EYEGAZE-FLOORPLANE1
1EYEGAZE-WALLPLANE CIRCLING0;1CHEEKS PUFFED0;2NEUTRAL0;2SUCKED0;1TENSE CHEEKS HIGH0;3MIDDLE0;3LOW0
1EARS0;1NOSE NEUTRAL0;2CONTACT0;2WRINKLES0;2WIGGLES0;1AIR BLOWING OUT0;2SUCKING IN0
2BLOW SMALL ROTATIONS0;2SUCK2;1BREATH INHALE0;2EXHALE0;1MOUTH CLOSED NEUTRAL0;3FORWARD0;3CONTACT0
2SMILE0;3WRINKLED0;3OPEN0;2FROWN0;3WRINKLED0;3OPEN0;2OPEN CIRCLE0;3FORWARD0;3WRINKLED0;3OVAL0
4WRINKLED0;4YAWN0;3RECTANGLE0;4WRINKLED0;4YAWN0;2KISS0;3FORWARD0;3WRINKLED0;2TENSE0;3FORWARD0
3SUCKED0;1LIPS PRESSED TOGETHER0;1LIP LOWER OVER UPPER0;2UPPER OVER LOWER0;1MOUTH CORNERS0
2WRINKLES SINGLE0;3DOUBLE0;1TONGUE STICKING OUT FAR0;2LICKING LIPS0;2TIP BETWEEN1
3TOUCHING INSIDE MOUTH0;2INSIDE MOUTH RELAXED0;2MOVES AGAINST CHEEK0;2CENTRE STICKING OUT0
3INSIDE MOUTH0;1TEETH0;2MOVEMENT0;2ON TONGUE0;4MOVEMENT0;3LIPS0;4MOVEMENT0;2BITE LIPS0
1MOVEMENT-WALLPLANE JAW0;1MOVEMENT-FLOORPLANE1;1NECK0;1HAIR0;1EXCITEMENT0;1SHOULDER HIP SPINE0
3POSITIONS0;1WALLPLANE SHOULDER HIP MOVE0;1FLOORPLANE3;1SHOULDER TILTING FROM WAIST0
1TORSO-WALLPLANE STRAIGHT STRETCH0;2CURVED BEND0;1TORSO-FLOORPLANE TWISTING0
1UPPER BODY TILTING FROM HIP JOINTS0;1LIMB COMBINATION0;2LENGTH-10;2LENGTH-20;2LENGTH-30
2LENGTH-40;2LENGTH-50;2LENGTH-60;2LENGTH-70;1FINGER0;1LOCATION-WALLPLANE SPACE0
1LOCATION-FLOORPLANE1;1LOCATION HEIGHT0;2WIDTH0;2DEPTH0;2HEAD NECK0;2TORSO0;2LIMBS DIGITS0;1COMMA0
1FULL STOP0;1SEMICOLON0;1COLON0;1PARENTHESIS0;1da9b:0SIGNWRITING FILL MODIFIER-20;2MODIFIER-30
2MODIFIER-40;2MODIFIER-50;2MODIFIER-60;1daa1:0SIGNWRITING ROTATION MODIFIER-20;2MODIFIER-30
2MODIFIER-40;2MODIFIER-50;2MODIFIER-60;2MODIFIER-70;2MODIFIER-80;2MODIFIER-90;2MODIFIER-100
2MODIFIER-110;2MODIFIER-120;2MODIFIER-130;2MODIFIER-140;2MODIFIER-150;2MODIFIER-160
1df00:0LATIN SMALL LETTER FENG DIGRAPH WITH TRILL0;3REVERSED SCRIPT G0
1LETTER SMALL CAPITAL TURNED1;1SMALL LETTER REVERSED K0;1LETTER SMALL CAPITAL L WITH BELT0
1SMALL LETTER LEZH WITH RETROFLEX HOOK0;3TURNED Y WITH BELT0;3REVERSED ENG0
3TURNED R WITH LONG LEG AND RETROFLEX HOOK0;3T WITH HOOK3;1LETTER RETROFLEX CLICK WITH2
1SMALL LETTER ESH WITH DOUBLE BAR0;7AND CURL0;3TURNED T WITH1;1LETTER INVERTED GLOTTAL STOP2
2STRETCHED C2;2SMALL CAPITAL TURNED K0;1SMALL LETTER L WITH FISHHOOK0
3DEZH DIGRAPH WITH PALATAL HOOK0;3L WITH BELT AND2;3ENG WITH2;3TURNED R3;3R WITH FISHHOOK AND2
3TESH DIGRAPH WITH2;3EZH3;3DEZH DIGRAPH WITH RETROFLEX1;3I WITH STROKE AND2;3O WITH2
3TESH DIGRAPH3;3C3;3S WITH CURL0;1e000:0COMBINING GLAGOLITIC LETTER AZU0;3BUKY0;3VEDE0;3GLAGOLI0
3DOBRO0;3YESTU0;3ZHIVETE0;1e008:0COMBINING GLAGOLITIC LETTER ZEMLJA0;3IZHE0;3INITIAL1;3I0;3DJERVI0
3KAKO0;3LJUDIJE0;3MYSLITE0;3NASHI0;3ONU0;3POKOJI0;3RITSI0;3SLOVO0;3TVRIDO0;3UKU0;3FRITU0;3HERU0
1e01b:0COMBINING GLAGOLITIC LETTER SHTA0;3TSI0;3CHRIVI0;3SHA0;3YERU0;3YERI0;3YATI0
1e023:0COMBINING GLAGOLITIC LETTER YU0;3SMALL YUS0;1e026:0COMBINING GLAGOLITIC LETTER YO0
3IOTATED SMALL YUS0;3BIG1;3IOTATED2;3FITA0;1e100:0NYIAKENG PUACHUE HMONG LETTER MA0;4TSA0;4NTA0
4TA0;4HA0;4NA0;4XA0;4NKA0;4CA0;4LA0;4SA0;4ZA0;4NCA0;4NTSA0;4KA0;4DA0;4NYA0;4NRA0;4VA0;4NTXA0;4TXA0
4FA0;4RA0;4QA0;4YA0;4NQA0;4PA0;4XYA0;4NPA0;4DLA0;4NPLA0;4HAH0;4MLA0;4PLA0;4GA0;4RRA0;4A0;4AA0;4I0
4U0;4O0;4OO0;4E0;4EE0;4W0;1e130:0NYIAKENG PUACHUE HMONG TONE-B0;3TONE-M0;3TONE-J0;3TONE-V0
3TONE-S0;3TONE-G0;3TONE-D0;3SIGN FOR PERSON0;5THING0;5LOCATION0;5ANIMAL0;5INVERTEBRATE0;4XW XW0
3SYLLABLE LENGTHENER0;1e140:0NYIAKENG PUACHUE HMONG DIGIT ZERO0;4ONE0;4TWO0;4THREE0;4FOUR0;4FIVE0
4SIX0;4SEVEN0;4EIGHT0;4NINE0;1e14e:0NYIAKENG PUACHUE HMONG LOGOGRAM NYAJ0;3CIRCLED CA0
1e290:0TOTO LETTER PA0;2BA0;2TA0;2DA0;2KA0;2GA0;2MA0;2NA0;2NGA0;2SA0;2CHA0;2YA0;2WA0;2JA0;2HA0
2RA0;2LA0;2I0;2BREATHY1;2IU0;2BREATHY1;2U0;2E0;2BREATHY1;2EO0;2BREATHY1;2O0;2AE0;2BREATHY1;2A0
1SIGN RISING TONE0;1e2c0:0WANCHO LETTER AA0;2A0;2BA0;2CA0;2DA0;2GA0;2YA0;2PHA0;2LA0;2NA0;2PA0;2TA0
2THA0;2FA0;2SA0;2SHA0;2JA0;2ZA0;2WA0;2VA0;2KA0;2O0;2AU0;2RA0;2MA0;2KHA0;2HA0;2E0;2I0;2NGA0;2U0
2LLHA0;2TSA0;2TRA0;2ONG0;2AANG0;2ANG0;2ING0;2ON0;2EN0;2AAN0;2NYA0;2UEN0;2YIH0;1TONE TUP0;2TUPNI0
2KOI0;2KOINI0;1DIGIT ZERO0;2ONE0;2TWO0;2THREE0;2FOUR0;2FIVE0;2SIX0;2SEVEN0;2EIGHT0;2NINE0
1e2ff:0WANCHO NGUN SIGN0;1e7e0:0ETHIOPIC SYLLABLE HHYA0;2HHYU0;2HHYI0;2HHYAA0;2HHYEE0;2HHYE0
2HHYO0;1e7e8:0ETHIOPIC SYLLABLE GURAGE HHWA0;2HHWI0;2HHWEE0;2HHWE0
1e7ed:0ETHIOPIC SYLLABLE GURAGE MWI0;3MWEE0;1e7f0:0ETHIOPIC SYLLABLE GURAGE QWI0;3QWEE0;3QWE0
3BWI0;3BWEE0;3KWI0;3KWEE0;3KWE0;3GWI0;3GWEE0;3GWE0;3FWI0;3FWEE0;3PWI0;3PWEE0
1e800:0MENDE KIKAKUI SYLLABLE M001 KI0;3M002 KA0;3M003 KU0;3M065 KEE0;3M095 KE0;3M076 KOO0
3M048 KO0;3M179 KUA0;3M004 WI0;3M005 WA0;3M006 WU0;3M126 WEE0;3M118 WE0;3M114 WOO0;3M045 WO0
3M194 WUI0;3M143 WEI0;3M061 WVI0;3M049 WVA0;3M139 WVE0;3M007 MIN0;3M008 MAN0;3M009 MUN0;3M059 MEN0
3M094 MON0;3M154 MUAN0;3M189 MUEN0;3M010 BI0;3M011 BA0;3M012 BU0;3M150 BEE0;3M097 BE0;3M103 BOO0
3M138 BO0;3M013 I0;3M014 A0;3M015 U0;3M163 EE0;3M100 E0;3M165 OO0;3M147 O0;3M137 EI0;3M131 IN0
3M1351;3M195 AN0;3M178 EN0;3M019 SI0;3M020 SA0;3M021 SU0;3M162 SEE0;3M116 SE0;3M136 SOO0;3M079 SO0
3M196 SIA0;3M025 LI0;3M026 LA0;3M027 LU0;3M084 LEE0;3M073 LE0;3M054 LOO0;3M153 LO0;3M110 LONG LE0
3M016 DI0;3M017 DA0;3M018 DU0;3M089 DEE0;3M180 DOO0;3M181 DO0;3M022 TI0;3M023 TA0;3M024 TU0
3M091 TEE0;3M055 TE0;3M104 TOO0;3M069 TO0;3M028 JI0;3M029 JA0;3M030 JU0;3M157 JEE0;3M113 JE0
3M160 JOO0;3M063 JO0;3M175 LONG1;3M031 YI0;3M032 YA0;3M033 YU0;3M109 YEE0;3M080 YE0;3M141 YOO0
3M121 YO0;3M034 FI0;3M035 FA0;3M036 FU0;3M078 FEE0;3M075 FE0;3M133 FOO0;3M088 FO0;3M197 FUA0
3M101 FAN0;3M037 NIN0;3M038 NAN0;3M039 NUN0;3M117 NEN0;3M169 NON0;3M176 HI0;3M041 HA0;3M186 HU0
3M040 HEE0;3M096 HE0;3M042 HOO0;3M140 HO0;3M083 HEEI0;3M128 HOOU0;3M053 HIN0;3M130 HAN0;3M087 HUN0
3M052 HEN0;3M193 HON0;3M046 HUAN0;3M090 NGGI0;3M043 NGGA0;3M082 NGGU0;3M115 NGGEE0;3M146 NGGE0
3M156 NGGOO0;3M120 NGGO0;3M159 NGGAA0;3M127 NGGUA0;3M086 LONG NGGE0;3M106 LONG NGGOO0
3M183 LONG NGGO0;3M155 GI0;3M111 GA0;3M168 GU0;3M190 GEE0;3M166 GUEI0;3M167 GUAN0;3M184 NGEN0
3M057 NGON0;3M177 NGUAN0;3M068 PI0;3M099 PA0;3M050 PU0;3M081 PEE0;3M051 PE0;3M102 POO0;3M066 PO0
3M145 MBI0;3M062 MBA0;3M122 MBU0;3M047 MBEE0;3M1881;3M072 MBE0;3M172 MBOO0;3M174 MBO0;3M187 MBUU0
3M161 LONG MBE0;3M105 LONG MBOO0;3M142 LONG MBO0;3M132 KPI0;3M092 KPA0;3M074 KPU0;3M044 KPEE0
3M108 KPE0;3M112 KPOO0;3M158 KPO0;3M124 GBI0;3M056 GBA0;3M148 GBU0;3M093 GBEE0;3M107 GBE0
3M071 GBOO0;3M070 GBO0;3M171 RA0;3M123 NDI0;3M129 NDA0;3M125 NDU0;3M191 NDEE0;3M119 NDE0
3M067 NDOO0;3M064 NDO0;3M152 NJA0;3M192 NJU0;3M149 NJEE0;3M134 NJOO0;3M182 VI0;3M185 VA0;3M151 VU0
3M173 VEE0;3M085 VE0;3M144 VOO0;3M077 VO0;3M164 NYIN0;3M058 NYAN0;3M170 NYUN0;3M098 NYEN0
3M060 NYON0;1e8c7:0MENDE KIKAKUI DIGIT ONE0;3TWO0;3THREE0;3FOUR0;3FIVE0;3SIX0;3SEVEN0;3EIGHT0
3NINE0;2COMBINING NUMBER TEENS0;4TENS0;4HUNDREDS0;4THOUSANDS0;4TEN1;4HUNDRED1;4MILLIONS0
1e900:0ADLAM CAPITAL LETTER ALIF0;3DAALI0;3LAAM0;3MIIM0;3BA0;3SINNYIIYHE0;3PE0;3BHE0;3RA0;3E0;3FA0
3I0;3O0;3DHA0;3YHE0;3WAW0;3NUN0;3KAF0;3YA0;3U0;3JIIM0;3CHI0;3HA0;3QAAF0;3GA0;3NYA0;3TU0;3NHA0;3VA0
3KHA0;3GBE0;3ZAL0;3KPO0;3SHA0;1SMALL LETTER ALIF0;3DAALI0;3LAAM0;3MIIM0;3BA0;3SINNYIIYHE0;3PE0
3BHE0;3RA0;3E0;3FA0;3I0;3O0;3DHA0;3YHE0;3WAW0;3NUN0;3KAF0;3YA0;3U0;3JIIM0;3CHI0;3HA0;3QAAF0;3GA0
3NYA0;3TU0;3NHA0;3VA0;3KHA0;3GBE0;3ZAL0;3KPO0;3SHA0;1ALIF LENGTHENER0;1VOWEL1;1GEMINATION MARK0
1HAMZA0;1CONSONANT MODIFIER0;1GEMINATE2;1NUKTA0;1NASALIZATION MARK0;1e950:0ADLAM DIGIT ZERO0;2ONE0
2TWO0;2THREE0;2FOUR0;2FIVE0;2SIX0;2SEVEN0;2EIGHT0;2NINE0;1e95e:0ADLAM INITIAL EXCLAMATION MARK0
2QUESTION1;1ec71:0INDIC SIYAQ NUMBER ONE0;3TWO0;3THREE0;3FOUR0;3FIVE0;3SIX0;3SEVEN0;3EIGHT0;3NINE0
3TEN0;3TWENTY0;3THIRTY0;3FORTY0;3FIFTY0;3SIXTY0;3SEVENTY0;3EIGHTY0;3NINETY0;3ONE HUNDRED0;3TWO1
3THREE1;3FOUR1;3FIVE1;3SIX1;3SEVEN1;3EIGHT1;3NINE1;3ONE THOUSAND0;3TWO1;3THREE1;3FOUR1;3FIVE1
3SIX1;3SEVEN1;3EIGHT1;3NINE1;3TEN1;3TWENTY1;3THIRTY1;3FORTY1;3FIFTY1;3SIXTY1;3SEVENTY1;3EIGHTY1
3NINETY1;3LAKH0;3LAKHAN0;2LAKH MARK0;2NUMBER KAROR0;3KARORAN0;3PREFIXED ONE0;4TWO0;4THREE0;4FOUR0
4FIVE0;4SIX0;4SEVEN0;4EIGHT0;4NINE0;2PLACEHOLDER0;2FRACTION ONE QUARTER0;4HALF0;3THREE QUARTERS0
2RUPEE MARK0;2NUMBER ALTERNATE ONE0;4TWO0;4TEN THOUSAND0;2ALTERNATE LAKH MARK0
1ed01:0OTTOMAN SIYAQ NUMBER ONE0;3TWO0;3THREE0;3FOUR0;3FIVE0;3SIX0;3SEVEN0;3EIGHT0;3NINE0;3TEN0
3TWENTY0;3THIRTY0;3FORTY0;3FIFTY0;3SIXTY0;3SEVENTY0;3EIGHTY0;3NINETY0;3ONE HUNDRED0;3TWO1;3THREE1
3FOUR1;3FIVE1;3SIX1;3SEVEN1;3EIGHT1;3NINE1;3ONE THOUSAND0;3TWO1;3THREE1;3FOUR1;3FIVE1;3SIX1
3SEVEN1;3EIGHT1;3NINE1;3TEN1;3TWENTY1;3THIRTY1;3FORTY1;3FIFTY1;3SIXTY1;3SEVENTY1;3EIGHTY1;3NINETY1
2MARRATAN0;2ALTERNATE NUMBER TWO0;4THREE0;4FOUR0;4FIVE0;4SIX0;4SEVEN0;4EIGHT0;4NINE0;4TEN0
4FOUR HUNDRED0;4SIX1;4TWO THOUSAND0;4TEN1;2FRACTION ONE HALF0;4SIXTH0
1ee00:0ARABIC MATHEMATICAL ALEF0;2BEH0;2JEEM0;2DAL0;1ee05:0ARABIC MATHEMATICAL WAW0;2ZAIN0;2HAH0
2TAH0;2YEH0;2KAF0;2LAM0;2MEEM0;2NOON0;2SEEN0;2AIN0;2FEH0;2SAD0;2QAF0;2REH0;2SHEEN0;2TEH0;2THEH0
2KHAH0;2THAL0;2DAD0;2ZAH0;2GHAIN0;2DOTLESS BEH0;3NOON0;3FEH0;3QAF0
1ee21:0ARABIC MATHEMATICAL INITIAL BEH0;3JEEM0;1ee24:0ARABIC MATHEMATICAL INITIAL HEH0
1ee27:0ARABIC MATHEMATICAL INITIAL HAH0;1ee29:0ARABIC MATHEMATICAL INITIAL YEH0;3KAF0;3LAM0;3MEEM0
3NOON0;3SEEN0;3AIN0;3FEH0;3SAD0;3QAF0;1ee34:0ARABIC MATHEMATICAL INITIAL SHEEN0;3TEH0;3THEH0
3KHAH0;1ee39:0ARABIC MATHEMATICAL INITIAL DAD0;1ee3b:0ARABIC MATHEMATICAL INITIAL GHAIN0
1ee42:0ARABIC MATHEMATICAL TAILED JEEM0;1ee47:0ARABIC MATHEMATICAL TAILED HAH0
1ee49:0ARABIC MATHEMATICAL TAILED YEH0;1ee4b:0ARABIC MATHEMATICAL TAILED LAM0
1ee4d:0ARABIC MATHEMATICAL TAILED NOON0;3SEEN0;3AIN0;1ee51:0ARABIC MATHEMATICAL TAILED SAD0;3QAF0
1ee54:0ARABIC MATHEMATICAL TAILED SHEEN0;1ee57:0ARABIC MATHEMATICAL TAILED KHAH0
1ee59:0ARABIC MATHEMATICAL TAILED DAD0;1ee5b:0ARABIC MATHEMATICAL TAILED GHAIN0
1ee5d:0ARABIC MATHEMATICAL TAILED DOTLESS NOON0;1ee5f:0ARABIC MATHEMATICAL TAILED DOTLESS QAF0
1ee61:0ARABIC MATHEMATICAL STRETCHED BEH0;3JEEM0;1ee64:0ARABIC MATHEMATICAL STRETCHED HEH0
1ee67:0ARABIC MATHEMATICAL STRETCHED HAH0;3TAH0;3YEH0;3KAF0
1ee6c:0ARABIC MATHEMATICAL STRETCHED MEEM0;3NOON0;3SEEN0;3AIN0;3FEH0;3SAD0;3QAF0
1ee74:0ARABIC MATHEMATICAL STRETCHED SHEEN0;3TEH0;3THEH0;3KHAH0
1ee79:0ARABIC MATHEMATICAL STRETCHED DAD0;3ZAH0;3GHAIN0;3DOTLESS BEH0
1ee7e:0ARABIC MATHEMATICAL STRETCHED DOTLESS FEH0;1ee80:0ARABIC MATHEMATICAL LOOPED ALEF0;3BEH0
3JEEM0;3DAL0;3HEH0;3WAW0;3ZAIN0;3HAH0;3TAH0;3YEH0;1ee8b:0ARABIC MATHEMATICAL LOOPED LAM0;3MEEM0
3NOON0;3SEEN0;3AIN0;3FEH0;3SAD0;3QAF0;3REH0;3SHEEN0;3TEH0;3THEH0;3KHAH0;3THAL0;3DAD0;3ZAH0;3GHAIN0
1eea1:0ARABIC MATHEMATICAL DOUBLE-STRUCK BEH0;3JEEM0;3DAL0
1eea5:0ARABIC MATHEMATICAL DOUBLE-STRUCK WAW0;3ZAIN0;3HAH0;3TAH0;3YEH0
1eeab:0ARABIC MATHEMATICAL DOUBLE-STRUCK LAM0;3MEEM0;3NOON0;3SEEN0;3AIN0;3FEH0;3SAD0;3QAF0;3REH0
3SHEEN0;3TEH0;3THEH0;3KHAH0;3THAL0;3DAD0;3ZAH0;3GHAIN0
1eef0:0ARABIC MATHEMATICAL OPERATOR MEEM WITH HAH WITH TATWEEL0;3HAH WITH DAL0
1f000:0MAHJONG TILE EAST WIND0;2SOUTH1;2WEST1;2NORTH1;2RED DRAGON0;2GREEN1;2WHITE1
2ONE OF CHARACTERS0;2TWO2;2THREE2;2FOUR2;2FIVE2;2SIX2;2SEVEN2;2EIGHT2;2NINE2;2ONE OF BAMBOOS0
2TWO2;2THREE2;2FOUR2;2FIVE2;2SIX2;2SEVEN2;2EIGHT2;2NINE2;2ONE OF CIRCLES0;2TWO2;2THREE2;2FOUR2
2FIVE2;2SIX2;2SEVEN2;2EIGHT2;2NINE2;2PLUM0;2ORCHID0;2BAMBOO0;2CHRYSANTHEMUM0;2SPRING0;2SUMMER0
2AUTUMN0;2WINTER0;2JOKER0;2BACK0;1f030:0DOMINO TILE HORIZONTAL BACK0;2HORIZONTAL-00-000
2HORIZONTAL-00-010;2HORIZONTAL-00-020;2HORIZONTAL-00-030;2HORIZONTAL-00-040;2HORIZONTAL-00-050
2HORIZONTAL-00-060;2HORIZONTAL-01-000;2HORIZONTAL-01-010;2HORIZONTAL-01-020;2HORIZONTAL-01-030
2HORIZONTAL-01-040;2HORIZONTAL-01-050;2HORIZONTAL-01-060;2HORIZONTAL-02-000;2HORIZONTAL-02-010
2HORIZONTAL-02-020;2HORIZONTAL-02-030;2HORIZONTAL-02-040;2HORIZONTAL-02-050;2HORIZONTAL-02-060
2HORIZONTAL-03-000;2HORIZONTAL-03-010;2HORIZONTAL-03-020;2HORIZONTAL-03-030;2HORIZONTAL-03-040
2HORIZONTAL-03-050;2HORIZONTAL-03-060;2HORIZONTAL-04-000;2HORIZONTAL-04-010;2HORIZONTAL-04-020
2HORIZONTAL-04-030;2HORIZONTAL-04-040;2HORIZONTAL-04-050;2HORIZONTAL-04-060;2HORIZONTAL-05-000
2HORIZONTAL-05-010;2HORIZONTAL-05-020;2HORIZONTAL-05-030;2HORIZONTAL-05-040;2HORIZONTAL-05-050
2HORIZONTAL-05-060;2HORIZONTAL-06-000;2HORIZONTAL-06-010;2HORIZONTAL-06-020;2HORIZONTAL-06-030
2HORIZONTAL-06-040;2HORIZONTAL-06-050;2HORIZONTAL-06-060;2VERTICAL BACK0;2VERTICAL-00-000
2VERTICAL-00-010;2VERTICAL-00-020;2VERTICAL-00-030;2VERTICAL-00-040;2VERTICAL-00-050
2VERTICAL-00-060;2VERTICAL-01-000;2VERTICAL-01-010;2VERTICAL-01-020;2VERTICAL-01-030
2VERTICAL-01-040;2VERTICAL-01-050;2VERTICAL-01-060;2VERTICAL-02-000;2VERTICAL-02-010
2VERTICAL-02-020;2VERTICAL-02-030;2VERTICAL-02-040;2VERTICAL-02-050;2VERTICAL-02-060
2VERTICAL-03-000;2VERTICAL-03-010;2VERTICAL-03-020;2VERTICAL-03-030;2VERTICAL-03-040
2VERTICAL-03-050;2VERTICAL-03-060;2VERTICAL-04-000;2VERTICAL-04-010;2VERTICAL-04-020
2VERTICAL-04-030;2VERTICAL-04-040;2VERTICAL-04-050;2VERTICAL-04-060;2VERTICAL-05-000
2VERTICAL-05-010;2VERTICAL-05-020;2VERTICAL-05-030;2VERTICAL-05-040;2VERTICAL-05-050
2VERTICAL-05-060;2VERTICAL-06-000;2VERTICAL-06-010;2VERTICAL-06-020;2VERTICAL-06-030
2VERTICAL-06-040;2VERTICAL-06-050;2VERTICAL-06-060;1f0a0:0PLAYING CARD BACK0;2ACE OF SPADES0;2TWO2
2THREE2;2FOUR2;2FIVE2;2SIX2;2SEVEN2;2EIGHT2;2NINE2;2TEN2;2JACK2;2KNIGHT2;2QUEEN2;2KING2
1f0b1:0PLAYING CARD ACE OF HEARTS0;2TWO2;2THREE2;2FOUR2;2FIVE2;2SIX2;2SEVEN2;2EIGHT2;2NINE2;2TEN2
2JACK2;2KNIGHT2;2QUEEN2;2KING2;2RED JOKER0;1f0c1:0PLAYING CARD ACE OF DIAMONDS0;2TWO2;2THREE2
2FOUR2;2FIVE2;2SIX2;2SEVEN2;2EIGHT2;2NINE2;2TEN2;2JACK2;2KNIGHT2;2QUEEN2;2KING2;2BLACK JOKER0
1f0d1:0PLAYING CARD ACE OF CLUBS0;2TWO2;2THREE2;2FOUR2;2FIVE2;2SIX2;2SEVEN2;2EIGHT2;2NINE2;2TEN2
2JACK2;2KNIGHT2;2QUEEN2;2KING2;2WHITE JOKER0;2FOOL0;2TRUMP-10;2TRUMP-20;2TRUMP-30;2TRUMP-40
2TRUMP-50;2TRUMP-60;2TRUMP-70;2TRUMP-80;2TRUMP-90;2TRUMP-100;2TRUMP-110;2TRUMP-120;2TRUMP-130
2TRUMP-140;2TRUMP-150;2TRUMP-160;2TRUMP-170;2TRUMP-180;2TRUMP-190;2TRUMP-200;2TRUMP-210
1f100:0DIGIT ZERO FULL STOP0;2COMMA0;1ONE1;1TWO1;1THREE1;1FOUR1;1FIVE1;1SIX1;1SEVEN1;1EIGHT1
1NINE1;0DINGBAT CIRCLED SANS-SERIF DIGIT ZERO0;1NEGATIVE4;0CIRCLED ZERO WITH SLASH0
1ANTICLOCKWISE ARROW0;1DOLLAR SIGN WITH OVERLAID BACKSLASH0;0PARENTHESIZED LATIN CAPITAL LETTER A0
4B0;4C0;4D0;4E0;4F0;4G0;4H0;4I0;4J0;4K0;4L0;4M0;4N0;4O0;4P0;4Q0;4R0;4S0;4T0;4U0;4V0;4W0;4X0;4Y0
4Z0;0TORTOISE SHELL BRACKETED LATIN CAPITAL LETTER S0;0CIRCLED ITALIC LATIN CAPITAL LETTER C0;5R0
1CD0;1WZ0;0COPYLEFT SYMBOL0;0SQUARED LATIN CAPITAL LETTER A0;4B0;4C0;4D0;4E0;4F0;4G0;4H0;4I0;4J0
4K0;4L0;4M0;4N0;4O0;4P0;4Q0;4R0;4S0;4T0;4U0;4V0;4W0;4X0;4Y0;4Z0;1HV0;1MV0;1SD0;1SS0;1PPV0;1WC0
0NEGATIVE CIRCLED LATIN CAPITAL LETTER A0;5B0;5C0;5D0;5E0;5F0;5G0;5H0;5I0;5J0;5K0;5L0;5M0;5N0;5O0
5P0;5Q0;5R0;5S0;5T0;5U0;5V0;5W0;5X0;5Y0;5Z0;0RAISED MC SIGN0;1MD1;1MR1;0CIRCLED CC0
1C WITH OVERLAID BACKSLASH0;1HUMAN FIGURE0;0NEGATIVE SQUARED LATIN CAPITAL LETTER A0;5B0;5C0;5D0
5E0;5F0;5G0;5H0;5I0;5J0;5K0;5L0;5M0;5N0;5O0;5P0;5Q0;5R0;5S0;5T0;5U0;5V0;5W0;5X0;5Y0;5Z0
0CROSSED NEGATIVE SQUARED LATIN CAPITAL LETTER P0;0NEGATIVE SQUARED IC0;2PA0;2SA0;2AB0;2WC0
0SQUARE DJ0;0SQUARED CL0;1COOL0;1FREE0;1ID0;1NEW0;1NG0;1OK0;1SOS0;1UP WITH EXCLAMATION MARK0;1VS0
1THREE D0;1SECOND SCREEN0;1TWO K0;1FOUR1;1EIGHT1;1FIVE POINT ONE0;1SEVEN2;1TWENTY-TWO POINT TWO0
1SIXTY P0;1ONE HUNDRED TWENTY1;1LATIN SMALL LETTER D0;1HC0;1HDR0;1HI-RES0;1LOSSLESS0;1SHV0;1UHD0
1VOD0;0MASK WORK SYMBOL0;1f1e6:0REGIONAL INDICATOR SYMBOL LETTER A0;4B0;4C0;4D0;4E0;4F0;4G0;4H0
4I0;4J0;4K0;4L0;4M0;4N0;4O0;4P0;4Q0;4R0;4S0;4T0;4U0;4V0;4W0;4X0;4Y0;4Z0;0SQUARE HIRAGANA HOKA0
0SQUARED KATAKANA KOKO0;2SA0;1f210:0SQUARED CJK UNIFIED IDEOGRAPH-624B0;3IDEOGRAPH-5B570
3IDEOGRAPH-53CC0;1KATAKANA DE0;1CJK UNIFIED IDEOGRAPH-4E8C0;3IDEOGRAPH-591A0;3IDEOGRAPH-89E30
3IDEOGRAPH-59290;3IDEOGRAPH-4EA40;3IDEOGRAPH-66200;3IDEOGRAPH-71210;3IDEOGRAPH-65990
3IDEOGRAPH-524D0;3IDEOGRAPH-5F8C0;3IDEOGRAPH-518D0;3IDEOGRAPH-65B00;3IDEOGRAPH-521D0
3IDEOGRAPH-7D420;3IDEOGRAPH-751F0;3IDEOGRAPH-8CA90;3IDEOGRAPH-58F00;3IDEOGRAPH-54390
3IDEOGRAPH-6F140;3IDEOGRAPH-62950;3IDEOGRAPH-63550;3IDEOGRAPH-4E000;3IDEOGRAPH-4E090
3IDEOGRAPH-904A0;3IDEOGRAPH-5DE60;3IDEOGRAPH-4E2D0;3IDEOGRAPH-53F30;3IDEOGRAPH-63070
3IDEOGRAPH-8D700;3IDEOGRAPH-62530;3IDEOGRAPH-79810;3IDEOGRAPH-7A7A0;3IDEOGRAPH-54080
3IDEOGRAPH-6E800;3IDEOGRAPH-67090;3IDEOGRAPH-67080;3IDEOGRAPH-75330;3IDEOGRAPH-52720
3IDEOGRAPH-55B60;3IDEOGRAPH-914D0;1f240:0TORTOISE SHELL BRACKETED CJK UNIFIED IDEOGRAPH-672C0
5IDEOGRAPH-4E090;5IDEOGRAPH-4E8C0;5IDEOGRAPH-5B890;5IDEOGRAPH-70B90;5IDEOGRAPH-62530
5IDEOGRAPH-76D70;5IDEOGRAPH-52DD0;5IDEOGRAPH-65570;1f250:0CIRCLED IDEOGRAPH ADVANTAGE0;2ACCEPT0
1f260:0ROUNDED SYMBOL FOR FU0;3LU0;3SHOU0;3XI0;3SHUANGXI0;3CAI0;1f300:0CYCLONE0;0FOGGY0
0CLOSED UMBRELLA0;0NIGHT WITH STARS0;0SUNRISE OVER MOUNTAINS0;10;0CITYSCAPE AT DUSK0
0SUNSET OVER BUILDINGS0;0RAINBOW0;0BRIDGE AT NIGHT0;0WATER WAVE0;0VOLCANO0;0MILKY WAY0
0EARTH GLOBE EUROPE-AFRICA0;2AMERICAS0;2ASIA-AUSTRALIA0;0GLOBE WITH MERIDIANS0;0NEW MOON SYMBOL0
0WAXING CRESCENT2;0FIRST QUARTER2;0WAXING GIBBOUS2;0FULL2;0WANING GIBBOUS2;0LAST QUARTER2
0WANING CRESCENT2;0CRESCENT MOON0;0NEW MOON WITH FACE0;0FIRST QUARTER3;0LAST4;0FULL3;0SUN2
0GLOWING STAR0;0SHOOTING1;0THERMOMETER0;0BLACK DROPLET0;0WHITE SUN0;2WITH SMALL CLOUD0;2BEHIND1
4WITH RAIN0;03;2SNOW0;2LIGHTNING0;2TORNADO0;0FOG0;0WIND BLOWING FACE0;0HOT DOG0;0TACO0;0BURRITO0
0CHESTNUT0;0SEEDLING0;0EVERGREEN TREE0;0DECIDUOUS1;0PALM1;0CACTUS0;0HOT PEPPER0;0TULIP0
0CHERRY BLOSSOM0;0ROSE0;0HIBISCUS0;0SUNFLOWER0;0BLOSSOM0;0EAR OF MAIZE0;2RICE0;0HERB0
0FOUR LEAF CLOVER0;0MAPLE LEAF0;0FALLEN1;0LEAF FLUTTERING IN WIND0;0MUSHROOM0;0TOMATO0;0AUBERGINE0
0GRAPES0;0MELON0;0WATERMELON0;0TANGERINE0;0LEMON0;0BANANA0;0PINEAPPLE0;0RED APPLE0;0GREEN1;0PEAR0
0PEACH0;0CHERRIES0;0STRAWBERRY0;0HAMBURGER0;0SLICE OF PIZZA0;0MEAT ON BONE0;0POULTRY LEG0
0RICE CRACKER0;1BALL0;0COOKED RICE0;0CURRY AND1;0STEAMING BOWL0;0SPAGHETTI0;0BREAD0;0FRENCH FRIES0
0ROASTED SWEET POTATO0;0DANGO0;0ODEN0;0SUSHI0;0FRIED SHRIMP0;0FISH CAKE WITH SWIRL DESIGN0
0SOFT ICE CREAM0;0SHAVED ICE0;0ICE CREAM0;0DOUGHNUT0;0COOKIE0;0CHOCOLATE BAR0;0CANDY0;0LOLLIPOP0
0CUSTARD0;0HONEY POT0;0SHORTCAKE0;0BENTO BOX0;0POT OF FOOD0;0COOKING0;0FORK AND KNIFE0
0TEACUP WITHOUT HANDLE0;0SAKE BOTTLE AND CUP0;0WINE GLASS0;0COCKTAIL1;0TROPICAL DRINK0;0BEER MUG0
0CLINKING BEER MUGS0;0BABY BOTTLE0;0FORK AND KNIFE WITH PLATE0;0BOTTLE WITH POPPING CORK0
0POPCORN0;0RIBBON0;0WRAPPED PRESENT0;0BIRTHDAY CAKE0;0JACK-O-LANTERN0;0CHRISTMAS TREE0
0FATHER CHRISTMAS0;0FIREWORKS0;0FIREWORK SPARKLER0;0BALLOON0;0PARTY POPPER0;0CONFETTI BALL0
0TANABATA TREE0;0CROSSED FLAGS0;0PINE DECORATION0;0JAPANESE DOLLS0;0CARP STREAMER0;0WIND CHIME0
0MOON VIEWING CEREMONY0;0SCHOOL SATCHEL0;0GRADUATION CAP0;0HEART WITH TIP ON THE LEFT0
0BOUQUET OF FLOWERS0;0MILITARY MEDAL0;0REMINDER RIBBON0;0MUSICAL KEYBOARD WITH JACKS0
0STUDIO MICROPHONE0;0LEVEL SLIDER0;0CONTROL KNOBS0;0BEAMED ASCENDING MUSICAL NOTES0;1DESCENDING2
0FILM FRAMES0;0ADMISSION TICKETS0;0CAROUSEL HORSE0;0FERRIS WHEEL0;0ROLLER COASTER0
0FISHING POLE AND FISH0;0MICROPHONE0;0MOVIE CAMERA0;0CINEMA0;0HEADPHONE0;0ARTIST PALETTE0
0TOP HAT0;0CIRCUS TENT0;0TICKET0;0CLAPPER BOARD0;0PERFORMING ARTS0;0VIDEO GAME0;0DIRECT HIT0
0SLOT MACHINE0;0BILLIARDS0;0GAME DIE0;0BOWLING0;0FLOWER PLAYING CARDS0;0MUSICAL NOTE0
0MULTIPLE MUSICAL NOTES0;0SAXOPHONE0;0GUITAR0;0MUSICAL KEYBOARD0;0TRUMPET0;0VIOLIN0
0MUSICAL SCORE0;0RUNNING SHIRT WITH SASH0;0TENNIS RACQUET AND BALL0;0SKI AND SKI BOOT0
0BASKETBALL AND HOOP0;0CHEQUERED FLAG0;0SNOWBOARDER0;0RUNNER0;0SURFER0;0SPORTS MEDAL0;0TROPHY0
0HORSE RACING0;0AMERICAN FOOTBALL0;0RUGBY1;0SWIMMER0;0WEIGHT LIFTER0;0GOLFER0;0RACING MOTORCYCLE0
1CAR0;0CRICKET BAT AND BALL0;0VOLLEYBALL0;0FIELD HOCKEY STICK AND BALL0
0ICE HOCKEY STICK AND PUCK0;0TABLE TENNIS PADDLE AND BALL0;0SNOW CAPPED MOUNTAIN0;0CAMPING0
0BEACH WITH UMBRELLA0;0BUILDING CONSTRUCTION0;0HOUSE BUILDINGS0;0CITYSCAPE0
0DERELICT HOUSE BUILDING0;0CLASSICAL1;0DESERT0;1ISLAND0;0NATIONAL PARK0;0STADIUM0;0HOUSE BUILDING0
1WITH GARDEN0;0OFFICE BUILDING0;0JAPANESE POST OFFICE0;0EUROPEAN2;0HOSPITAL0;0BANK0
0AUTOMATED TELLER MACHINE0;0HOTEL0;0LOVE1;0CONVENIENCE STORE0;0SCHOOL0;0DEPARTMENT STORE0
0FACTORY0;0IZAKAYA LANTERN0;0JAPANESE CASTLE0;0EUROPEAN1;0WHITE PENNANT0;0BLACK1
0WAVING WHITE FLAG0;1BLACK1;0ROSETTE0;0BLACK1;0LABEL0;0BADMINTON RACQUET AND SHUTTLECOCK0
0BOW AND ARROW0;0AMPHORA0;0EMOJI MODIFIER FITZPATRICK TYPE-1-20;3TYPE-30;3TYPE-40;3TYPE-50
3TYPE-60;0RAT0;0MOUSE0;0OX0;0WATER BUFFALO0;0COW0;0TIGER0;0LEOPARD0;0RABBIT0;0CAT0;0DRAGON0
0CROCODILE0;0WHALE0;0SNAIL0;0SNAKE0;0HORSE0;0RAM0;0GOAT0;0SHEEP0;0MONKEY0;0ROOSTER0;0CHICKEN0
0DOG0;0PIG0;0BOAR0;0ELEPHANT0;0OCTOPUS0;0SPIRAL SHELL0;0BUG0;0ANT0;0HONEYBEE0;0LADY BEETLE0;0FISH0
0TROPICAL1;0BLOWFISH0;0TURTLE0;0HATCHING CHICK0;0BABY1;0FRONT-FACING2;0BIRD0;0PENGUIN0;0KOALA0
0POODLE0;0DROMEDARY CAMEL0;0BACTRIAN1;0DOLPHIN0;0MOUSE FACE0;0COW1;0TIGER1;0RABBIT1;0CAT1;0DRAGON1
0SPOUTING WHALE0;0HORSE FACE0;0MONKEY1;0DOG1;0PIG1;0FROG1;0HAMSTER1;0WOLF1;0BEAR1;0PANDA1
0PIG NOSE0;0PAW PRINTS0;0CHIPMUNK0;0EYES0;0EYE0;0EAR0;0NOSE0;0MOUTH0;0TONGUE0
0WHITE UP POINTING BACKHAND INDEX0;1DOWN3;1LEFT3;1RIGHT3;0FISTED HAND SIGN0;0WAVING2;0OK2
0THUMBS UP1;1DOWN1;0CLAPPING HANDS1;0OPEN2;0CROWN0;0WOMANS HAT0;0EYEGLASSES0;0NECKTIE0;0T-SHIRT0
0JEANS0;0DRESS0;0KIMONO0;0BIKINI0;0WOMANS CLOTHES0;0PURSE0;0HANDBAG0;0POUCH0;0MANS SHOE0
0ATHLETIC1;0HIGH-HEELED1;0WOMANS SANDAL0;1BOOTS0;0FOOTPRINTS0;0BUST IN SILHOUETTE0;0BUSTS2;0BOY0
0GIRL0;0MAN0;0WOMAN0;0FAMILY0;0MAN AND WOMAN HOLDING HANDS0;0TWO MEN2;1WOMEN2;0POLICE OFFICER0
0WOMAN WITH BUNNY EARS0;0BRIDE WITH VEIL0;0PERSON WITH BLOND HAIR0;0MAN WITH GUA PI MAO0;2TURBAN0
0OLDER MAN0;1WOMAN0;0BABY0;0CONSTRUCTION WORKER0;0PRINCESS0;0JAPANESE OGRE0;1GOBLIN0;0GHOST0
0BABY ANGEL0;0EXTRATERRESTRIAL ALIEN0;0ALIEN MONSTER0;0IMP0;0SKULL0;0INFORMATION DESK PERSON0
0GUARDSMAN0;0DANCER0;0LIPSTICK0;0NAIL POLISH0;0FACE MASSAGE0;0HAIRCUT0;0BARBER POLE0;0SYRINGE0
0PILL0;0KISS MARK0;0LOVE LETTER0;0RING0;0GEM STONE0;0KISS0;0BOUQUET0;0COUPLE WITH HEART0;0WEDDING0
0BEATING HEART0;0BROKEN1;0TWO HEARTS0;0SPARKLING HEART0;0GROWING1;0HEART WITH ARROW0;0BLUE HEART0
0GREEN1;0YELLOW1;0PURPLE1;0HEART WITH RIBBON0;0REVOLVING HEARTS0;0HEART DECORATION0
0DIAMOND SHAPE WITH A DOT INSIDE0;0ELECTRIC LIGHT BULB0;0ANGER SYMBOL0;0BOMB0;0SLEEPING SYMBOL0
0COLLISION1;0SPLASHING SWEAT1;0DROPLET0;0DASH SYMBOL0;0PILE OF POO0;0FLEXED BICEPS0;0DIZZY SYMBOL0
0SPEECH BALLOON0;0THOUGHT1;0WHITE FLOWER0;0HUNDRED POINTS SYMBOL0;0MONEY BAG0;0CURRENCY EXCHANGE0
0HEAVY DOLLAR SIGN0;0CREDIT CARD0;0BANKNOTE WITH YEN SIGN0;2DOLLAR1;2EURO1;2POUND1
0MONEY WITH WINGS0;0CHART WITH UPWARDS TREND AND YEN SIGN0;0SEAT0;0PERSONAL COMPUTER0;0BRIEFCASE0
0MINIDISC0;0FLOPPY DISK0;0OPTICAL DISC0;0DVD0;0FILE FOLDER0;0OPEN2;0PAGE WITH CURL0;1FACING UP0
0CALENDAR0;0TEAR-OFF1;0CARD INDEX0;0CHART WITH UPWARDS TREND0;2DOWNWARDS1;0BAR CHART0;0CLIPBOARD0
0PUSHPIN0;0ROUND1;0PAPERCLIP0;0STRAIGHT RULER0;0TRIANGULAR1;0BOOKMARK TABS0;0LEDGER0;0NOTEBOOK0
1WITH DECORATIVE COVER0;0CLOSED BOOK0;0OPEN1;0GREEN1;0BLUE1;0ORANGE1;0BOOKS0;0NAME BADGE0;0SCROLL0
0MEMO0;0TELEPHONE RECEIVER0;0PAGER0;0FAX MACHINE0;0SATELLITE ANTENNA0;0PUBLIC ADDRESS LOUDSPEAKER0
0CHEERING MEGAPHONE0;0OUTBOX TRAY0;0INBOX1;0PACKAGE0;0E-MAIL SYMBOL0;0INCOMING ENVELOPE0
0ENVELOPE WITH DOWNWARDS ARROW ABOVE0;0CLOSED MAILBOX WITH LOWERED FLAG0;3RAISED1;0OPEN4;3LOWERED1
0POSTBOX0;0POSTAL HORN0;0NEWSPAPER0;0MOBILE PHONE0;2WITH RIGHTWARDS ARROW AT LEFT0
0VIBRATION MODE0;0MOBILE PHONE OFF0;0NO MOBILE PHONES0;0ANTENNA WITH BARS0;0CAMERA0;1WITH FLASH0
0VIDEO CAMERA0;0TELEVISION0;0RADIO0;0VIDEOCASSETTE0;0FILM PROJECTOR0;0PORTABLE STEREO0
0PRAYER BEADS0;0TWISTED RIGHTWARDS ARROWS0;0CLOCKWISE RIGHTWARDS AND LEFTWARDS OPEN CIRCLE1
7WITH CIRCLED ONE OVERLAY0;1DOWNWARDS AND UPWARDS OPEN CIRCLE ARROWS0;0ANTICLOCKWISE6
0LOW BRIGHTNESS SYMBOL0;0HIGH2;0SPEAKER WITH CANCELLATION STROKE0;10;1WITH ONE SOUND WAVE0
2THREE SOUND WAVES0;0BATTERY0;0ELECTRIC PLUG0;0LEFT-POINTING MAGNIFYING GLASS0;0RIGHT-POINTING2
0LOCK WITH INK PEN0;0CLOSED LOCK WITH KEY0;01;0LOCK0;0OPEN1;0BELL0;1WITH CANCELLATION STROKE0
0BOOKMARK0;0LINK SYMBOL0;0RADIO BUTTON0;0BACK WITH LEFTWARDS ARROW ABOVE0;0END4
0ON WITH EXCLAMATION MARK WITH LEFT RIGHT2;0SOON WITH RIGHTWARDS2;0TOP WITH UPWARDS2
0NO ONE UNDER EIGHTEEN SYMBOL0;0KEYCAP TEN0;0INPUT SYMBOL FOR LATIN CAPITAL LETTERS0;4SMALL1
3NUMBERS0;3SYMBOLS0;3LATIN LETTERS0;0FIRE0;0ELECTRIC TORCH0;0WRENCH0;0HAMMER0;0NUT AND BOLT0
0HOCHO0;0PISTOL0;0MICROSCOPE0;0TELESCOPE0;0CRYSTAL BALL0;0SIX POINTED STAR WITH MIDDLE DOT0
0JAPANESE SYMBOL FOR BEGINNER0;0TRIDENT EMBLEM0;0BLACK SQUARE BUTTON0;0WHITE2;0LARGE RED CIRCLE0
1BLUE1;1ORANGE DIAMOND0;1BLUE1;0SMALL ORANGE1;1BLUE1;0UP-POINTING RED TRIANGLE0;0DOWN-POINTING2
0UP-POINTING SMALL2;0DOWN-POINTING3;0LOWER RIGHT SHADOWED WHITE CIRCLE0;0UPPER4
0CIRCLED CROSS POMMEE0;0CROSS POMMEE WITH HALF-CIRCLE BELOW0;20
0NOTCHED LEFT SEMICIRCLE WITH THREE DOTS0;1RIGHT4;0SYMBOL FOR MARKS CHAPTER0;0WHITE LATIN CROSS0
0HEAVY2;0CELTIC1;0OM SYMBOL0;0DOVE OF PEACE0;0KAABA0;0MOSQUE0;0SYNAGOGUE0
0MENORAH WITH NINE BRANCHES0;0BOWL OF HYGIEIA0;0CLOCK FACE ONE OCLOCK0;2TWO1;2THREE1;2FOUR1;2FIVE1
2SIX1;2SEVEN1;2EIGHT1;2NINE1;2TEN1;2ELEVEN1;2TWELVE1;2ONE-THIRTY0;2TWO-THIRTY0;2THREE-THIRTY0
2FOUR-THIRTY0;2FIVE-THIRTY0;2SIX-THIRTY0;2SEVEN-THIRTY0;2EIGHT-THIRTY0;2NINE-THIRTY0;2TEN-THIRTY0
2ELEVEN-THIRTY0;2TWELVE-THIRTY0;0RIGHT SPEAKER0;2WITH ONE SOUND WAVE0;3THREE SOUND WAVES0
0BULLHORN0;1WITH SOUND WAVES0;0RINGING BELL0;0BOOK0;0CANDLE0;0MANTELPIECE CLOCK0
0BLACK SKULL AND CROSSBONES0;0NO PIRACY0;0HOLE0;0MAN IN BUSINESS SUIT LEVITATING0;0SLEUTH OR SPY0
0DARK SUNGLASSES0;0SPIDER0;1WEB0;0JOYSTICK0;0MAN DANCING0;0LEFT HAND TELEPHONE RECEIVER0
0TELEPHONE RECEIVER WITH PAGE0;0RIGHT HAND TELEPHONE RECEIVER0;0WHITE TOUCHTONE TELEPHONE0;0BLACK2
0TELEPHONE ON TOP OF MODEM0;0CLAMSHELL MOBILE PHONE0;0BACK OF ENVELOPE0;0STAMPED1
0ENVELOPE WITH LIGHTNING0;0FLYING ENVELOPE0;0PEN OVER STAMPED1;0LINKED PAPERCLIPS0;0BLACK PUSHPIN0
0LOWER LEFT PENCIL0;2BALLPOINT PEN0;2FOUNTAIN1;2PAINTBRUSH0;2CRAYON0;0LEFT WRITING HAND0
0TURNED OK HAND SIGN0;0RAISED HAND WITH FINGERS SPLAYED0;0REVERSED5;1THUMBS UP SIGN0;2DOWN1
1VICTORY HAND0;1HAND WITH MIDDLE FINGER EXTENDED0
0RAISED HAND WITH PART BETWEEN MIDDLE AND RING FINGERS0;0WHITE DOWN POINTING LEFT HAND INDEX0
0SIDEWAYS WHITE LEFT POINTING1;2RIGHT2;1BLACK LEFT2;2RIGHT2;0BLACK LEFT POINTING BACKHAND1;1RIGHT3
0SIDEWAYS WHITE UP POINTING1;2DOWN2;1BLACK UP2;2DOWN2;0BLACK UP POINTING BACKHAND1;1DOWN3;1HEART0
0DESKTOP COMPUTER0;0KEYBOARD AND MOUSE0;0THREE NETWORKED COMPUTERS0;0PRINTER0;0POCKET CALCULATOR0
0BLACK HARD SHELL FLOPPY DISK0;0WHITE4;0SOFT3;0TAPE CARTRIDGE0;0WIRED KEYBOARD0;0ONE BUTTON MOUSE0
0TWO2;0THREE2;0TRACKBALL0;0OLD PERSONAL COMPUTER0;0HARD DISK0;0SCREEN0;0PRINTER ICON0;0FAX1
0OPTICAL DISC1;0DOCUMENT WITH TEXT0;3AND PICTURE0;21;0FRAME2;2TILES0;2AN X0;0BLACK FOLDER0;01
0OPEN1;0CARD INDEX DIVIDERS0;1FILE BOX0;0FILE CABINET0;0EMPTY NOTE0;2PAGE0;2PAD0;0NOTE0;1PAGE0
1PAD0;0EMPTY DOCUMENT0;1PAGE0;1PAGES0;0DOCUMENT0;0PAGE0;0PAGES0;0WASTEBASKET0;0SPIRAL NOTE PAD0
1CALENDAR1;0DESKTOP WINDOW0;0MINIMIZE0;0MAXIMIZE0;0OVERLAP0
0CLOCKWISE RIGHT AND LEFT SEMICIRCLE ARROWS0;0CANCELLATION X0;0INCREASE FONT SIZE SYMBOL0
0DECREASE3;0COMPRESSION0;0OLD KEY0;0ROLLED-UP NEWSPAPER0;0PAGE WITH CIRCLED TEXT0;0STOCK CHART0
0DAGGER KNIFE0;0LIPS0;0SPEAKING HEAD IN SILHOUETTE0;0THREE RAYS ABOVE0;2BELOW0;2LEFT0;2RIGHT0
0LEFT SPEECH BUBBLE0;0RIGHT2;0TWO SPEECH BUBBLES0;0THREE2;0LEFT THOUGHT BUBBLE0;0RIGHT2
0LEFT ANGER1;0RIGHT2;0MOOD1;0LIGHTNING2;20;0BALLOT BOX WITH BALLOT0;1SCRIPT X0;1BOX WITH2;1BOLD2
1BOX WITH3;0LIGHT CHECK MARK0;0BALLOT BOX WITH BOLD CHECK0;0WORLD MAP0;0MOUNT FUJI0;0TOKYO TOWER0
0STATUE OF LIBERTY0;0SILHOUETTE OF JAPAN0;0MOYAI0;0GRINNING FACE0;2WITH SMILING EYES0
0FACE WITH TEARS OF JOY0;0SMILING FACE WITH OPEN MOUTH0;5AND SMILING EYES0;6COLD SWEAT0
6TIGHTLY-CLOSED EYES0;3HALO0;3HORNS0;0WINKING FACE0;0SMILING FACE WITH SMILING EYES0
0FACE SAVOURING DELICIOUS FOOD0;0RELIEVED FACE0;0SMILING FACE WITH HEART-SHAPED EYES0;3SUNGLASSES0
0SMIRKING FACE0;0NEUTRAL1;0EXPRESSIONLESS1;0UNAMUSED1;0FACE WITH COLD SWEAT0;0PENSIVE FACE0
0CONFUSED1;0CONFOUNDED1;0KISSING1;0FACE THROWING A KISS0;0KISSING FACE WITH SMILING EYES0;3CLOSED1
0FACE WITH STUCK-OUT TONGUE0;4AND WINKING EYE0;5TIGHTLY-CLOSED EYES0;0DISAPPOINTED FACE0;0WORRIED1
0ANGRY1;0POUTING1;0CRYING1;0PERSEVERING1;0FACE WITH LOOK OF TRIUMPH0
0DISAPPOINTED BUT RELIEVED FACE0;0FROWNING FACE WITH OPEN MOUTH0;0ANGUISHED FACE0;0FEARFUL1
0WEARY1;0SLEEPY1;0TIRED1;0GRIMACING1;0LOUDLY CRYING1;0FACE WITH OPEN MOUTH0;0HUSHED FACE0
0FACE WITH OPEN MOUTH AND COLD SWEAT0;1SCREAMING IN FEAR0;0ASTONISHED FACE0;0FLUSHED1;0SLEEPING1
0DIZZY1;0FACE WITHOUT MOUTH0;1WITH MEDICAL MASK0;0GRINNING CAT FACE WITH SMILING EYES0
0CAT FACE WITH TEARS OF JOY0;0SMILING CAT FACE WITH OPEN MOUTH0;4HEART-SHAPED EYES0
0CAT FACE WITH WRY SMILE0;0KISSING CAT FACE WITH CLOSED EYES0;0POUTING CAT FACE0;0CRYING2;0WEARY2
0SLIGHTLY FROWNING1;1SMILING1;0UPSIDE-DOWN1;0FACE WITH ROLLING EYES0;2NO GOOD GESTURE0;2OK1
0PERSON BOWING DEEPLY0;0SEE-NO-EVIL MONKEY0;0HEAR-NO-EVIL1;0SPEAK-NO-EVIL1
0HAPPY PERSON RAISING ONE HAND0;0PERSON RAISING BOTH HANDS IN CELEBRATION0;1FROWNING0
1WITH POUTING FACE0;2FOLDED HANDS0;0NORTH WEST POINTING LEAF0;0SOUTH3;0NORTH EAST2;0SOUTH3
0TURNED NORTH WEST2;1SOUTH3;1NORTH EAST2;1SOUTH3;0NORTH WEST POINTING VINE1;0SOUTH4;0NORTH EAST3
0SOUTH4;0HEAVY NORTH WEST3;1SOUTH4;1NORTH EAST3;1SOUTH4;0NORTH WEST POINTING BUD0;0SOUTH3
0NORTH EAST2;0SOUTH3;0HEAVY NORTH WEST2;1SOUTH3;1NORTH EAST2;1SOUTH3
0HOLLOW QUILT SQUARE ORNAMENT0;4IN BLACK SQUARE0;0SOLID QUILT SQUARE ORNAMENT0;4IN BLACK SQUARE0
0LEFTWARDS ROCKET0;0UPWARDS1;0RIGHTWARDS1;0DOWNWARDS1;0SCRIPT LIGATURE ET ORNAMENT0;0HEAVY4
0LIGATURE OPEN2;0HEAVY4;1AMPERSAND1;0SWASH2;0SANS-SERIF HEAVY DOUBLE TURNED COMMA QUOTATION MARK1
34;2LOW5;0HEAVY INTERROBANG1;0SANS-SERIF2;0HEAVY3;0VERY HEAVY SOLIDUS0;2REVERSE1;0CHECKER BOARD0
0REVERSE2;0ROCKET0;0HELICOPTER0;0STEAM LOCOMOTIVE0;0RAILWAY CAR0;0HIGH-SPEED TRAIN0
2WITH BULLET NOSE0;0TRAIN0;0METRO0;0LIGHT RAIL0;0STATION0;0TRAM0;1CAR0;0BUS0;0ONCOMING1
0TROLLEYBUS0;0BUS STOP0;0MINIBUS0;0AMBULANCE0;0FIRE ENGINE0;0POLICE CAR0;0ONCOMING2;0TAXI0
0ONCOMING1;0AUTOMOBILE0;0ONCOMING1;0RECREATIONAL VEHICLE0;0DELIVERY TRUCK0;0ARTICULATED LORRY0
0TRACTOR0;0MONORAIL0;0MOUNTAIN RAILWAY0;0SUSPENSION1;0MOUNTAIN CABLEWAY0;0AERIAL TRAMWAY0;0SHIP0
0ROWBOAT0;0SPEEDBOAT0;0HORIZONTAL TRAFFIC LIGHT0;0VERTICAL2;0CONSTRUCTION SIGN0
0POLICE CARS REVOLVING LIGHT0;0TRIANGULAR FLAG ON POST0;0DOOR0;0NO ENTRY SIGN0;0SMOKING SYMBOL0
0NO2;0PUT LITTER IN ITS PLACE1;0DO NOT LITTER1;0POTABLE WATER1;0NON-POTABLE2;0BICYCLE0
0NO BICYCLES0;0BICYCLIST0;0MOUNTAIN1;0PEDESTRIAN0;0NO PEDESTRIANS0;0CHILDREN CROSSING0
0MENS SYMBOL0;0WOMENS1;0RESTROOM0;0BABY SYMBOL0;0TOILET0;0WATER CLOSET0;0SHOWER0;0BATH0;0BATHTUB0
0PASSPORT CONTROL0;0CUSTOMS0;0BAGGAGE CLAIM0;0LEFT LUGGAGE0;0TRIANGLE WITH ROUNDED CORNERS0
0PROHIBITED SIGN0;0CIRCLED INFORMATION SOURCE0;0BOYS SYMBOL0;0GIRLS1;0COUCH AND LAMP0
0SLEEPING ACCOMMODATION0;0SHOPPING BAGS0;0BELLHOP BELL0;0BED0;0PLACE OF WORSHIP0;0OCTAGONAL SIGN0
0SHOPPING TROLLEY0;0STUPA0;0PAGODA0;0HINDU TEMPLE0;0HUT0;0ELEVATOR0;1f6dd:0PLAYGROUND SLIDE0
0WHEEL0;0RING BUOY0;0HAMMER AND WRENCH0;0SHIELD0;0OIL DRUM0;0MOTORWAY0;0RAILWAY TRACK0
0MOTOR BOAT0;0UP-POINTING MILITARY AIRPLANE0;11;1SMALL1;02;0NORTHEAST-POINTING1
0AIRPLANE DEPARTURE0;1ARRIVING0;1f6f0:0SATELLITE0;0ONCOMING FIRE ENGINE0;0DIESEL LOCOMOTIVE0
0PASSENGER SHIP0;0SCOOTER0;0MOTOR1;0CANOE0;0SLED0;0FLYING SAUCER0;0SKATEBOARD0;0AUTO RICKSHAW0
0PICKUP TRUCK0;0ROLLER SKATE0;1f700:0ALCHEMICAL SYMBOL FOR QUINTESSENCE0;3AIR0;3FIRE0;3EARTH0
3WATER0;3AQUAFORTIS0;3AQUA REGIA0;4REGIA-20;4VITAE0;4VITAE-20;3VINEGAR0;3VINEGAR-20;3VINEGAR-30
3SULFUR0;3PHILOSOPHERS1;3BLACK1;3MERCURY SUBLIMATE0;4SUBLIMATE-20;4SUBLIMATE-30;3CINNABAR0;3SALT0
3NITRE0;3VITRIOL0;3VITRIOL-20;3ROCK SALT0;4SALT-20;3GOLD0;3SILVER0;3IRON ORE0;4ORE-20
3CROCUS OF IRON0;3REGULUS2;3COPPER ORE0;3IRON-COPPER1;3SUBLIMATE OF COPPER0;3CROCUS2;5COPPER-20
3COPPER ANTIMONIATE0;3SALT OF2;3SUBLIMATE OF SALT OF COPPER0;3VERDIGRIS0;3TIN ORE0;3LEAD1
3ANTIMONY1;3SUBLIMATE OF ANTIMONY0;3SALT2;3SUBLIMATE OF3;3VINEGAR2;3REGULUS2;5ANTIMONY-20;40
3REGULUS-20;3REGULUS-30;3REGULUS-40;3ALKALI0;3ALKALI-20;3MARCASITE0;3SAL-AMMONIAC0;3ARSENIC0
3REALGAR0;3REALGAR-20;3AURIPIGMENT0;3BISMUTH ORE0;3TARTAR0;3TARTAR-20;3QUICK LIME0;3BORAX0
3BORAX-20;3BORAX-30;3ALUM0;3OIL0;3SPIRIT0;3TINCTURE0;3GUM0;3WAX0;3POWDER0;3CALX0;3TUTTY0
3CAPUT MORTUUM0;3SCEPTER OF JOVE0;3CADUCEUS0;3TRIDENT0;3STARRED1;3LODESTONE0;3SOAP0;3URINE0
3HORSE DUNG0;3ASHES0;3POT1;3BRICK0;3POWDERED1;3AMALGAM0;3STRATUM SUPER STRATUM0;5STRATUM-20
3SUBLIMATION0;3PRECIPITATE0;3DISTILL0;3DISSOLVE0;3DISSOLVE-20;3PURIFY0;3PUTREFACTION0;3CRUCIBLE0
3CRUCIBLE-20;3CRUCIBLE-30;3CRUCIBLE-40;3CRUCIBLE-50;3ALEMBIC0;3BATH OF MARY0;5VAPOURS0;3RETORT0
3HOUR0;3NIGHT0;3DAY-NIGHT0;3MONTH0;3HALF DRAM0;4OUNCE0
1f780:0BLACK LEFT-POINTING ISOSCELES RIGHT TRIANGLE0;1UP-POINTING3;1RIGHT-POINTING3
1DOWN-POINTING3;1SLIGHTLY SMALL CIRCLE0;0MEDIUM BOLD WHITE1;03;0HEAVY2;0VERY3;0EXTREMELY3
0WHITE CIRCLE CONTAINING BLACK SMALL1;0ROUND TARGET0;0BLACK TINY SQUARE0;1SLIGHTLY SMALL1
0LIGHT WHITE1;0MEDIUM2;0BOLD2;0HEAVY2;0VERY3;0EXTREMELY3
0WHITE SQUARE CONTAINING BLACK VERY SMALL1;4MEDIUM1;0SQUARE TARGET0;0BLACK TINY DIAMOND0
1VERY SMALL1;1MEDIUM2;0WHITE DIAMOND CONTAINING BLACK VERY2;4MEDIUM1;0DIAMOND TARGET0
0BLACK TINY LOZENGE0;1VERY SMALL1;1MEDIUM2;0WHITE LOZENGE CONTAINING BLACK2;0THIN GREEK CROSS0
0LIGHT2;0MEDIUM2;0BOLD2;0VERY3;1HEAVY2;0EXTREMELY3;0THIN SALTIRE0;0LIGHT1;0MEDIUM1;0BOLD1;0HEAVY1
0VERY2;0EXTREMELY2;0LIGHT FIVE SPOKED ASTERISK0;0MEDIUM3;0BOLD3;0HEAVY3;0VERY4;0EXTREMELY4
0LIGHT SIX2;0MEDIUM3;0BOLD3;0HEAVY3;0VERY4;0EXTREMELY4;0LIGHT EIGHT2;0MEDIUM3;0BOLD3;0HEAVY3
0VERY4;0LIGHT THREE POINTED BLACK STAR0;0MEDIUM4;04;0MEDIUM THREE POINTED PINWHEEL1
0LIGHT FOUR POINTED BLACK1;0MEDIUM4;04;0MEDIUM FOUR POINTED PINWHEEL1;0REVERSE LIGHT4
0LIGHT FIVE POINTED BLACK1;0HEAVY4;0MEDIUM SIX3;0HEAVY4;0SIX POINTED PINWHEEL1
0MEDIUM EIGHT POINTED BLACK1;0HEAVY4;0VERY5;0HEAVY EIGHT POINTED PINWHEEL1
0LIGHT TWELVE POINTED BLACK1;0HEAVY4;3PINWHEEL1;0CIRCLED TRIANGLE0;0NEGATIVE2;0CIRCLED SQUARE0
0NEGATIVE2;1f7e0:0LARGE ORANGE CIRCLE0;1YELLOW1;1GREEN1;1PURPLE1;1BROWN1;1RED SQUARE0;1BLUE1
1ORANGE1;1YELLOW1;1GREEN1;1PURPLE1;1BROWN1;1f7f0:0HEAVY EQUALS SIGN0
1f800:0LEFTWARDS ARROW WITH SMALL TRIANGLE ARROWHEAD0;0UPWARDS5;0RIGHTWARDS5;0DOWNWARDS5
0LEFTWARDS ARROW WITH MEDIUM2;0UPWARDS5;0RIGHTWARDS5;0DOWNWARDS5;0LEFTWARDS ARROW WITH LARGE2
0UPWARDS5;0RIGHTWARDS5;0DOWNWARDS5;1f810:0LEFTWARDS ARROW WITH SMALL EQUILATERAL ARROWHEAD0
0UPWARDS5;0RIGHTWARDS5;0DOWNWARDS5;0LEFTWARDS ARROW WITH2;0UPWARDS4;0RIGHTWARDS4;0DOWNWARDS4
0HEAVY LEFTWARDS4;1UPWARDS4;1RIGHTWARDS4;1DOWNWARDS4;1LEFTWARDS ARROW WITH LARGE2;1UPWARDS5
1RIGHTWARDS5;1DOWNWARDS5;0LEFTWARDS TRIANGLE-HEADED ARROW WITH NARROW SHAFT0;0UPWARDS5
0RIGHTWARDS5;0DOWNWARDS5;0LEFTWARDS TRIANGLE-HEADED ARROW WITH MEDIUM1;0UPWARDS5;0RIGHTWARDS5
0DOWNWARDS5;0LEFTWARDS TRIANGLE-HEADED ARROW WITH BOLD1;0UPWARDS5;0RIGHTWARDS5;0DOWNWARDS5
0LEFTWARDS TRIANGLE-HEADED ARROW WITH HEAVY1;0UPWARDS5;0RIGHTWARDS5;0DOWNWARDS5
0LEFTWARDS TRIANGLE-HEADED ARROW WITH VERY2;0UPWARDS6;0RIGHTWARDS6;0DOWNWARDS6
0LEFTWARDS FINGER-POST ARROW0;0UPWARDS2;0RIGHTWARDS2;0DOWNWARDS2;0LEFTWARDS SQUARED1;0UPWARDS2
0RIGHTWARDS2;0DOWNWARDS2;0LEFTWARDS COMPRESSED1;0UPWARDS2;0RIGHTWARDS2;0DOWNWARDS2
0LEFTWARDS HEAVY2;0UPWARDS3;0RIGHTWARDS3;0DOWNWARDS3;0LEFTWARDS HEAVY1;0UPWARDS2;0RIGHTWARDS2
0DOWNWARDS2;1f850:0LEFTWARDS SANS-SERIF ARROW0;0UPWARDS2;0RIGHTWARDS2;0DOWNWARDS2;0NORTH WEST2
1EAST2;0SOUTH3;1WEST2;0LEFT RIGHT2;0UP DOWN2;1f860:0WIDE-HEADED LEFTWARDS LIGHT BARB ARROW0
1UPWARDS3;1RIGHTWARDS3;1DOWNWARDS3;1NORTH WEST3;2EAST3;1SOUTH4;2WEST3;1LEFTWARDS2;1UPWARDS2
1RIGHTWARDS2;1DOWNWARDS2;1NORTH WEST2;2EAST2;1SOUTH3;2WEST2;1LEFTWARDS MEDIUM2;1UPWARDS3
1RIGHTWARDS3;1DOWNWARDS3;1NORTH WEST3;2EAST3;1SOUTH4;2WEST3;1LEFTWARDS HEAVY2;1UPWARDS3
1RIGHTWARDS3;1DOWNWARDS3;1NORTH WEST3;2EAST3;1SOUTH4;2WEST3;1LEFTWARDS VERY3;1UPWARDS4
1RIGHTWARDS4;1DOWNWARDS4;1NORTH WEST4;2EAST4;1SOUTH5;2WEST4;1f890:0LEFTWARDS TRIANGLE ARROWHEAD0
0UPWARDS2;0RIGHTWARDS2;0DOWNWARDS2;0LEFTWARDS WHITE ARROW WITHIN2;0UPWARDS5;0RIGHTWARDS5
0DOWNWARDS5;0LEFTWARDS ARROW WITH NOTCHED TAIL0;0UPWARDS4;0RIGHTWARDS4;0DOWNWARDS4
0HEAVY ARROW SHAFT WIDTH ONE0;4TWO THIRDS0;4ONE HALF0;5THIRD0
0LEFTWARDS BOTTOM-SHADED WHITE ARROW0;0RIGHTWARDS BOTTOM SHADED2;0LEFTWARDS TOP3;0RIGHTWARDS4
0LEFTWARDS LEFT-SHADED2;0RIGHTWARDS RIGHT-SHADED2;0LEFTWARDS3;0RIGHTWARDS LEFT-SHADED2
0LEFTWARDS BACK-TILTED SHADOWED2;0RIGHTWARDS4;0LEFTWARDS FRONT-TILTED3;0RIGHTWARDS4
0WHITE ARROW SHAFT WIDTH ONE0;4TWO THIRDS0;1f8b0:0ARROW POINTING UPWARDS THEN NORTH WEST0
2RIGHTWARDS THEN CURVING SOUTH1;1f900:0CIRCLED CROSS FORMEE WITH FOUR DOTS0;4TWO1;30
0LEFT HALF CIRCLE WITH FOUR DOTS0;4THREE1;4TWO1;4DOT0;30;0DOWNWARD FACING HOOK0;2NOTCHED1
2HOOK WITH DOT0;2NOTCHED3;0PINCHED FINGERS0;0WHITE HEART0;0BROWN1;0PINCHING HAND0
0ZIPPER-MOUTH FACE0;0MONEY-MOUTH1;0FACE WITH THERMOMETER0;0NERD FACE0;0THINKING1
0FACE WITH HEAD-BANDAGE0;0ROBOT FACE0;0HUGGING1;0SIGN OF THE HORNS0;0CALL ME HAND0
0RAISED BACK OF1;0LEFT-FACING FIST0;0RIGHT-FACING1;0HANDSHAKE0
0HAND WITH INDEX AND MIDDLE FINGERS CROSSED0;0I LOVE YOU HAND SIGN0;0FACE WITH COWBOY HAT0
0CLOWN FACE0;0NAUSEATED1;0ROLLING ON THE FLOOR LAUGHING0;0DROOLING FACE0;0LYING1;0FACE PALM0
0SNEEZING FACE0;0FACE WITH ONE EYEBROW RAISED0;0GRINNING FACE WITH STAR EYES0
3ONE LARGE AND ONE SMALL EYE0;0FACE WITH FINGER COVERING CLOSED LIPS0
0SERIOUS FACE WITH SYMBOLS COVERING MOUTH0;0SMILING FACE WITH SMILING EYES AND HAND2
0FACE WITH OPEN MOUTH VOMITING0;0SHOCKED FACE WITH EXPLODING HEAD0;0PREGNANT WOMAN0
0BREAST-FEEDING0;0PALMS UP TOGETHER0;0SELFIE0;0PRINCE0;0MAN IN TUXEDO0;0MOTHER CHRISTMAS0;0SHRUG0
0PERSON DOING CARTWHEEL0;0JUGGLING0;0FENCER0;0MODERN PENTATHLON0;0WRESTLERS0;0WATER POLO0
0HANDBALL0;0DIVING MASK0;0WILTED FLOWER0;0DRUM WITH DRUMSTICKS0;0CLINKING GLASSES0;0TUMBLER GLASS0
0SPOON0;0GOAL NET0;0RIFLE0;0FIRST PLACE MEDAL0;0SECOND2;0THIRD2;0BOXING GLOVE0
0MARTIAL ARTS UNIFORM0;0CURLING STONE0;0LACROSSE STICK AND BALL0;0SOFTBALL0;0FLYING DISC0
0CROISSANT0;0AVOCADO0;0CUCUMBER0;0BACON0;0POTATO0;0CARROT0;0BAGUETTE BREAD0;0GREEN SALAD0
0SHALLOW PAN OF FOOD0;0STUFFED FLATBREAD0;0EGG0;0GLASS OF MILK0;0PEANUTS0;0KIWIFRUIT0;0PANCAKES0
0DUMPLING0;0FORTUNE COOKIE0;0TAKEOUT BOX0;0CHOPSTICKS0;0BOWL WITH SPOON0;0CUP WITH STRAW0
0COCONUT0;0BROCCOLI0;0PIE0;0PRETZEL0;0CUT OF MEAT0;0SANDWICH0;0CANNED FOOD0;0LEAFY GREEN0;0MANGO0
0MOON CAKE0;0BAGEL0;0SMILING FACE WITH SMILING EYES AND THREE HEARTS0;0YAWNING FACE0
0SMILING FACE WITH TEAR0;0FACE WITH PARTY HORN AND PARTY HAT0;2UNEVEN EYES AND WAVY MOUTH0
0OVERHEATED FACE0;0FREEZING1;0NINJA0;0DISGUISED FACE0;0FACE HOLDING BACK TEARS0
1WITH PLEADING EYES0;0SARI0;0LAB COAT0;0GOGGLES0;0HIKING BOOT0;0FLAT SHOE0;0CRAB0;0LION FACE0
0SCORPION0;0TURKEY0;0UNICORN FACE0;0EAGLE0;0DUCK0;0BAT0;0SHARK0;0OWL0;0FOX FACE0;0BUTTERFLY0
0DEER0;0GORILLA0;0LIZARD0;0RHINOCEROS0;0SHRIMP0;0SQUID0;0GIRAFFE FACE0;0ZEBRA1;0HEDGEHOG0
0SAUROPOD0;0T-REX0;0CRICKET0;0KANGAROO0;0LLAMA0;0PEACOCK0;0HIPPOPOTAMUS0;0PARROT0;0RACCOON0
0LOBSTER0;0MOSQUITO0;0MICROBE0;0BADGER0;0SWAN0;0MAMMOTH0;0DODO0;0SLOTH0;0OTTER0;0ORANGUTAN0
0SKUNK0;0FLAMINGO0;0OYSTER0;0BEAVER0;0BISON0;0SEAL0;0GUIDE DOG0;0PROBING CANE0
0EMOJI COMPONENT RED HAIR0;2CURLY1;2BALD0;2WHITE HAIR0;0BONE0;0LEG0;0FOOT0;0TOOTH0;0SUPERHERO0
0SUPERVILLAIN0;0SAFETY VEST0;0EAR WITH HEARING AID0;0MOTORIZED WHEELCHAIR0;0MANUAL1
0MECHANICAL ARM0;1LEG0;0CHEESE WEDGE0;0CUPCAKE0;0SALT SHAKER0;0BEVERAGE BOX0;0GARLIC0;0ONION0
0FALAFEL0;0WAFFLE0;0BUTTER0;0MATE DRINK0;0ICE CUBE0;0BUBBLE TEA0;0TROLL0;0STANDING PERSON0
0KNEELING1;0DEAF1;0FACE WITH MONOCLE0;0ADULT0;0CHILD0;0OLDER ADULT0;0BEARDED PERSON0
0PERSON WITH HEADSCARF0;1IN STEAMY ROOM0;1CLIMBING0;1IN LOTUS POSITION0;0MAGE0;0FAIRY0;0VAMPIRE0
0MERPERSON0;0ELF0;0GENIE0;0ZOMBIE0;0BRAIN0;0ORANGE HEART0;0BILLED CAP0;0SCARF0;0GLOVES0;0COAT0
0SOCKS0;0RED GIFT ENVELOPE0;0FIRECRACKER0;0JIGSAW PUZZLE PIECE0;0TEST TUBE0;0PETRI DISH0
0DNA DOUBLE HELIX0;0COMPASS0;0ABACUS0;0FIRE EXTINGUISHER0;0TOOLBOX0;0BRICK0;0MAGNET0;0LUGGAGE0
0LOTION BOTTLE0;0SPOOL OF THREAD0;0BALL OF YARN0;0SAFETY PIN0;0TEDDY BEAR0;0BROOM0;0BASKET0
0ROLL OF PAPER0;0BAR OF SOAP0;0SPONGE0;0RECEIPT0;0NAZAR AMULET0;0NEUTRAL CHESS KING0;2QUEEN0
2ROOK0;2BISHOP0;2KNIGHT0;2PAWN0;0WHITE CHESS KNIGHT ROTATED FORTY-FIVE DEGREES0;0BLACK5;0NEUTRAL5
0WHITE CHESS KING ROTATED NINETY1;2QUEEN3;2ROOK3;2BISHOP3;2KNIGHT3;2PAWN3;0BLACK CHESS KING3
2QUEEN3;2ROOK3;2BISHOP3;2KNIGHT3;2PAWN3;0NEUTRAL CHESS KING3;2QUEEN3;2ROOK3;2BISHOP3;2KNIGHT3
2PAWN3;0WHITE CHESS KNIGHT ROTATED ONE HUNDRED THIRTY-FIVE1;0BLACK7;0NEUTRAL7
0WHITE CHESS TURNED KING0;3QUEEN0;3ROOK0;3BISHOP0;3KNIGHT0;3PAWN0;0BLACK CHESS TURNED KING0
3QUEEN0;3ROOK0;3BISHOP0;3KNIGHT0;3PAWN0;0NEUTRAL CHESS TURNED KING0;3QUEEN0;3ROOK0;3BISHOP0
3KNIGHT0;3PAWN0;0WHITE CHESS KNIGHT ROTATED TWO HUNDRED TWENTY-FIVE DEGREES0;0BLACK7;0NEUTRAL7
0WHITE CHESS KING ROTATED TWO HUNDRED SEVENTY1;2QUEEN5;2ROOK5;2BISHOP5;2KNIGHT5;2PAWN5
0BLACK CHESS KING5;2QUEEN5;2ROOK5;2BISHOP5;2KNIGHT5;2PAWN5;0NEUTRAL CHESS KING5;2QUEEN5;2ROOK5
2BISHOP5;2KNIGHT5;2PAWN5;0WHITE CHESS KNIGHT ROTATED THREE HUNDRED FIFTEEN1;0BLACK7;0NEUTRAL7
0WHITE CHESS EQUIHOPPER0;0BLACK2;0NEUTRAL2;0WHITE CHESS EQUIHOPPER ROTATED NINETY DEGREES0;0BLACK5
0NEUTRAL5;0WHITE CHESS KNIGHT-QUEEN0;2KNIGHT-ROOK0;2KNIGHT-BISHOP0;0BLACK CHESS KNIGHT-QUEEN0
2KNIGHT-ROOK0;2KNIGHT-BISHOP0;1fa60:0XIANGQI RED GENERAL0;2MANDARIN0;2ELEPHANT0;2HORSE0;2CHARIOT0
2CANNON0;2SOLDIER0;1BLACK GENERAL0;2MANDARIN0;2ELEPHANT0;2HORSE0;2CHARIOT0;2CANNON0;2SOLDIER0
1fa70:0BALLET SHOES0;0ONE-PIECE SWIMSUIT0;0BRIEFS0;0SHORTS0;0THONG SANDAL0;1fa78:0DROP OF BLOOD0
0ADHESIVE BANDAGE0;0STETHOSCOPE0;0X-RAY0;0CRUTCH0;1fa80:0YO-YO0;0KITE0;0PARACHUTE0;0BOOMERANG0
0MAGIC WAND0;0PINATA0;0NESTING DOLLS0;1fa90:0RINGED PLANET0;0CHAIR0;0RAZOR0;0AXE0;0DIYA LAMP0
0BANJO0;0MILITARY HELMET0;0ACCORDION0;0LONG DRUM0;0COIN0;0CARPENTRY SAW0;0SCREWDRIVER0;0LADDER0
0HOOK0;0MIRROR0;0WINDOW0;0PLUNGER0;0SEWING NEEDLE0;0KNOT0;0BUCKET0;0MOUSE TRAP0;0TOOTHBRUSH0
0HEADSTONE0;0PLACARD0;0ROCK0;0MIRROR BALL0;0IDENTIFICATION CARD0;0LOW BATTERY0;0HAMSA0;1fab0:0FLY0
0WORM0;0BEETLE0;0COCKROACH0;0POTTED PLANT0;0WOOD0;0FEATHER0;0LOTUS0;0CORAL0;0EMPTY NEST0
0NEST WITH EGGS0;1fac0:0ANATOMICAL HEART0;0LUNGS0;0PEOPLE HUGGING0;0PREGNANT MAN0;1PERSON0
0PERSON WITH CROWN0;1fad0:0BLUEBERRIES0;0BELL PEPPER0;0OLIVE0;0FLATBREAD0;0TAMALE0;0FONDUE0
0TEAPOT0;0POURING LIQUID0;0BEANS0;0JAR0;1fae0:0MELTING FACE0;0SALUTING1
0FACE WITH OPEN EYES AND HAND OVER MOUTH0;2PEEKING EYE0;2DIAGONAL MOUTH0;0DOTTED LINE FACE0
0BITING LIP0;0BUBBLES0;1faf0:0HAND WITH INDEX FINGER AND THUMB CROSSED0;0RIGHTWARDS HAND0
0LEFTWARDS1;0PALM DOWN1;1UP1;0INDEX POINTING AT THE VIEWER0;0HEART HANDS0;1fb00:0BLOCK SEXTANT-10
1SEXTANT-20;1SEXTANT-120;1SEXTANT-30;1SEXTANT-130;1SEXTANT-230;1SEXTANT-1230;1SEXTANT-40
1SEXTANT-140;1SEXTANT-240;1SEXTANT-1240;1SEXTANT-340;1SEXTANT-1340;1SEXTANT-2340;1SEXTANT-12340
1SEXTANT-50;1SEXTANT-150;1SEXTANT-250;1SEXTANT-1250;1SEXTANT-350;1SEXTANT-2350;1SEXTANT-12350
1SEXTANT-450;1SEXTANT-1450;1SEXTANT-2450;1SEXTANT-12450;1SEXTANT-3450;1SEXTANT-13450
1SEXTANT-23450;1SEXTANT-123450;1SEXTANT-60;1SEXTANT-160;1SEXTANT-260;1SEXTANT-1260;1SEXTANT-360
1SEXTANT-1360;1SEXTANT-2360;1SEXTANT-12360;1SEXTANT-460;1SEXTANT-1460;1SEXTANT-12460;1SEXTANT-3460
1SEXTANT-13460;1SEXTANT-23460;1SEXTANT-123460;1SEXTANT-560;1SEXTANT-1560;1SEXTANT-2560
1SEXTANT-12560;1SEXTANT-3560;1SEXTANT-13560;1SEXTANT-23560;1SEXTANT-123560;1SEXTANT-4560
1SEXTANT-14560;1SEXTANT-24560;1SEXTANT-124560;1SEXTANT-34560;1SEXTANT-134560;1SEXTANT-234560
0LOWER LEFT BLOCK DIAGONAL LOWER MIDDLE LEFT TO LOWER CENTRE0;9RIGHT0
4UPPER MIDDLE LEFT TO LOWER CENTRE0;9RIGHT0;5LEFT TO LOWER CENTRE0
1RIGHT BLOCK DIAGONAL UPPER MIDDLE LEFT TO UPPER1;9RIGHT0;4LOWER MIDDLE LEFT TO UPPER CENTRE0
9RIGHT0;5LEFT TO UPPER CENTRE0;5MIDDLE LEFT TO UPPER MIDDLE RIGHT0;5CENTRE TO LOWER2;5LEFT4
5CENTRE TO UPPER2;5LEFT4;5CENTRE TO UPPER1;1LEFT BLOCK DIAGONAL UPPER CENTRE TO UPPER MIDDLE1
5LEFT4;5CENTRE TO LOWER2;5LEFT4;5CENTRE TO LOWER1;5MIDDLE LEFT TO LOWER MIDDLE1
0UPPER RIGHT BLOCK DIAGONAL LOWER MIDDLE LEFT TO LOWER CENTRE0;9RIGHT0
4UPPER MIDDLE LEFT TO LOWER CENTRE0;9RIGHT0;5LEFT TO LOWER CENTRE0
1LEFT BLOCK DIAGONAL UPPER MIDDLE LEFT TO UPPER1;9RIGHT0;4LOWER MIDDLE LEFT TO UPPER CENTRE0
9RIGHT0;5LEFT TO UPPER CENTRE0;5MIDDLE LEFT TO UPPER MIDDLE RIGHT0;5CENTRE TO LOWER2;5LEFT4
5CENTRE TO UPPER2;5LEFT4;5CENTRE TO UPPER1;1RIGHT BLOCK DIAGONAL UPPER CENTRE TO UPPER MIDDLE1
5LEFT4;5CENTRE TO LOWER2;5LEFT4;5CENTRE TO LOWER1;5MIDDLE LEFT TO LOWER MIDDLE1
1AND RIGHT AND LOWER TRIANGULAR THREE QUARTERS BLOCK0;0LEFT AND LOWER AND RIGHT4
0UPPER AND LEFT AND LOWER4;0LEFT AND UPPER AND RIGHT4;1TRIANGULAR ONE QUARTER1;0UPPER4;0RIGHT4
0LOWER4;0VERTICAL ONE EIGHTH BLOCK-20;3BLOCK-30;3BLOCK-40;3BLOCK-50;3BLOCK-60;3BLOCK-70
0HORIZONTAL ONE EIGHTH BLOCK-20;3BLOCK-30;3BLOCK-40;3BLOCK-50;3BLOCK-60;3BLOCK-70
0LEFT AND LOWER ONE EIGHTH BLOCK0;2UPPER3;0RIGHT5;2LOWER3;0UPPER5
0HORIZONTAL ONE EIGHTH BLOCK-13580;0UPPER ONE QUARTER BLOCK0;1THREE EIGHTHS1;1FIVE2
1THREE QUARTERS1;1SEVEN EIGHTHS1;0RIGHT ONE QUARTER1;1THREE EIGHTHS1;1FIVE2;1THREE QUARTERS1
1SEVEN EIGHTHS1;0LEFT HALF MEDIUM SHADE0;0RIGHT3;0UPPER3;0LOWER3;0INVERSE2
0UPPER HALF BLOCK AND LOWER HALF3;2INVERSE MEDIUM SHADE AND LOWER HALF BLOCK0
1fb94:0LEFT HALF INVERSE MEDIUM SHADE AND RIGHT HALF BLOCK0;0CHECKER BOARD FILL0;0INVERSE3
0HEAVY HORIZONTAL1;0UPPER LEFT TO LOWER RIGHT1;1RIGHT TO LOWER LEFT1
1AND LOWER TRIANGULAR HALF BLOCK0;0LEFT AND RIGHT3;0UPPER LEFT TRIANGULAR MEDIUM SHADE0;1RIGHT3
0LOWER4;1LEFT3;0BOX DRAWINGS LIGHT DIAGONAL UPPER CENTRE TO MIDDLE LEFT0;8RIGHT0
4MIDDLE LEFT TO LOWER CENTRE0;5RIGHT3;4UPPER CENTRE TO MIDDLE LEFT3;8RIGHT3
4MIDDLE LEFT TO LOWER CENTRE TO MIDDLE RIGHT0;7UPPER4
4UPPER CENTRE TO MIDDLE LEFT AND MIDDLE RIGHT TO LOWER CENTRE0;8RIGHT AND MIDDLE LEFT3
9TO LOWER CENTRE TO MIDDLE LEFT0;8LEFT TO LOWER CENTRE TO MIDDLE RIGHT0
4MIDDLE LEFT TO UPPER CENTRE TO MIDDLE RIGHT TO LOWER CENTRE0
5RIGHT TO UPPER CENTRE TO MIDDLE LEFT3;4DIAMOND0;3HORIZONTAL WITH VERTICAL STROKE0
0ARROWHEAD-SHAPED POINTER0;0INVERSE CHECK MARK0;0LEFT HALF RUNNING MAN0;0RIGHT3
0INVERSE DOWNWARDS ARROW WITH TIP LEFTWARDS0
0LEFTWARDS ARROW AND UPPER AND LOWER ONE EIGHTH BLOCK0;0RIGHTWARDS8;0DOWNWARDS ARROW AND RIGHT3
0UPWARDS6;0LEFT HALF FOLDER0;0RIGHT2;0VOIDED GREEK CROSS0;0RIGHT OPEN SQUARED DOT0
0NEGATIVE DIAGONAL CROSS0;2MIDDLE RIGHT TO LOWER CENTRE0;2DIAMOND0
0WHITE HEAVY SALTIRE WITH ROUNDED CORNERS0;0LEFT THIRD WHITE RIGHT POINTING INDEX0;0MIDDLE5
0RIGHT5;0NEGATIVE SQUARED QUESTION MARK0;0STICK FIGURE0;2WITH ARMS RAISED0;2LEANING LEFT0;3RIGHT0
2WITH DRESS0;0WHITE UP-POINTING CHEVRON0;1fbf0:0SEGMENTED DIGIT ZERO0;2ONE0;2TWO0;2THREE0;2FOUR0
2FIVE0;2SIX0;2SEVEN0;2EIGHT0;2NINE0"

/-- Tags and variation selectors. -/
def tagNames : String := "
e0001:0LANGUAGE TAG0;e0020:0TAG SPACE0;1EXCLAMATION MARK0;1QUOTATION1;1NUMBER SIGN0;1DOLLAR1
1PERCENT1;1AMPERSAND0;1APOSTROPHE0;1LEFT PARENTHESIS0;1RIGHT1;1ASTERISK0;1PLUS SIGN0;1COMMA0
1HYPHEN-MINUS0;1FULL STOP0;1SOLIDUS0;1DIGIT ZERO0;2ONE0;2TWO0;2THREE0;2FOUR0;2FIVE0;2SIX0;2SEVEN0
2EIGHT0;2NINE0;1COLON0;1SEMICOLON0;1LESS-THAN SIGN0;1EQUALS1;1GREATER-THAN1;1QUESTION MARK0
1COMMERCIAL AT0;1LATIN CAPITAL LETTER A0;4B0;4C0;4D0;4E0;4F0;4G0;4H0;4I0;4J0;4K0;4L0;4M0;4N0;4O0
4P0;4Q0;4R0;4S0;4T0;4U0;4V0;4W0;4X0;4Y0;4Z0;1LEFT SQUARE BRACKET0;1REVERSE SOLIDUS0
1RIGHT SQUARE BRACKET0;1CIRCUMFLEX ACCENT0;1LOW LINE0;1GRAVE ACCENT0;1LATIN SMALL LETTER A0;4B0
4C0;4D0;4E0;4F0;4G0;4H0;4I0;4J0;4K0;4L0;4M0;4N0;4O0;4P0;4Q0;4R0;4S0;4T0;4U0;4V0;4W0;4X0;4Y0;4Z0
1LEFT CURLY BRACKET0;1VERTICAL LINE0;1RIGHT CURLY BRACKET0;1TILDE0;0CANCEL TAG0
e0100:0VARIATION SELECTOR-170;1SELECTOR-180;1SELECTOR-190;1SELECTOR-200;1SELECTOR-210
1SELECTOR-220;1SELECTOR-230;1SELECTOR-240;1SELECTOR-250;1SELECTOR-260;1SELECTOR-270;1SELECTOR-280
1SELECTOR-290;1SELECTOR-300;1SELECTOR-310;1SELECTOR-320;1SELECTOR-330;1SELECTOR-340;1SELECTOR-350
1SELECTOR-360;1SELECTOR-370;1SELECTOR-380;1SELECTOR-390;1SELECTOR-400;1SELECTOR-410;1SELECTOR-420
1SELECTOR-430;1SELECTOR-440;1SELECTOR-450;1SELECTOR-460;1SELECTOR-470;1SELECTOR-480;1SELECTOR-490
1SELECTOR-500;1SELECTOR-510;1SELECTOR-520;1SELECTOR-530;1SELECTOR-540;1SELECTOR-550;1SELECTOR-560
1SELECTOR-570;1SELECTOR-580;1SELECTOR-590;1SELECTOR-600;1SELECTOR-610;1SELECTOR-620;1SELECTOR-630
1SELECTOR-640;1SELECTOR-650;1SELECTOR-660;1SELECTOR-670;1SELECTOR-680;1SELECTOR-690;1SELECTOR-700
1SELECTOR-710;1SELECTOR-720;1SELECTOR-730;1SELECTOR-740;1SELECTOR-750;1SELECTOR-760;1SELECTOR-770
1SELECTOR-780;1SELECTOR-790;1SELECTOR-800;1SELECTOR-810;1SELECTOR-820;1SELECTOR-830;1SELECTOR-840
1SELECTOR-850;1SELECTOR-860;1SELECTOR-870;1SELECTOR-880;1SELECTOR-890;1SELECTOR-900;1SELECTOR-910
1SELECTOR-920;1SELECTOR-930;1SELECTOR-940;1SELECTOR-950;1SELECTOR-960;1SELECTOR-970;1SELECTOR-980
1SELECTOR-990;1SELECTOR-1000;1SELECTOR-1010;1SELECTOR-1020;1SELECTOR-1030;1SELECTOR-1040
1SELECTOR-1050;1SELECTOR-1060;1SELECTOR-1070;1SELECTOR-1080;1SELECTOR-1090;1SELECTOR-1100
1SELECTOR-1110;1SELECTOR-1120;1SELECTOR-1130;1SELECTOR-1140;1SELECTOR-1150;1SELECTOR-1160
1SELECTOR-1170;1SELECTOR-1180;1SELECTOR-1190;1SELECTOR-1200;1SELECTOR-1210;1SELECTOR-1220
1SELECTOR-1230;1SELECTOR-1240;1SELECTOR-1250;1SELECTOR-1260;1SELECTOR-1270;1SELECTOR-1280
1SELECTOR-1290;1SELECTOR-1300;1SELECTOR-1310;1SELECTOR-1320;1SELECTOR-1330;1SELECTOR-1340
1SELECTOR-1350;1SELECTOR-1360;1SELECTOR-1370;1SELECTOR-1380;1SELECTOR-1390;1SELECTOR-1400
1SELECTOR-1410;1SELECTOR-1420;1SELECTOR-1430;1SELECTOR-1440;1SELECTOR-1450;1SELECTOR-1460
1SELECTOR-1470;1SELECTOR-1480;1SELECTOR-1490;1SELECTOR-1500;1SELECTOR-1510;1SELECTOR-1520
1SELECTOR-1530;1SELECTOR-1540;1SELECTOR-1550;1SELECTOR-1560;1SELECTOR-1570;1SELECTOR-1580
1SELECTOR-1590;1SELECTOR-1600;1SELECTOR-1610;1SELECTOR-1620;1SELECTOR-1630;1SELECTOR-1640
1SELECTOR-1650;1SELECTOR-1660;1SELECTOR-1670;1SELECTOR-1680;1SELECTOR-1690;1SELECTOR-1700
1SELECTOR-1710;1SELECTOR-1720;1SELECTOR-1730;1SELECTOR-1740;1SELECTOR-1750;1SELECTOR-1760
1SELECTOR-1770;1SELECTOR-1780;1SELECTOR-1790;1SELECTOR-1800;1SELECTOR-1810;1SELECTOR-1820
1SELECTOR-1830;1SELECTOR-1840;1SELECTOR-1850;1SELECTOR-1860;1SELECTOR-1870;1SELECTOR-1880
1SELECTOR-1890;1SELECTOR-1900;1SELECTOR-1910;1SELECTOR-1920;1SELECTOR-1930;1SELECTOR-1940
1SELECTOR-1950;1SELECTOR-1960;1SELECTOR-1970;1SELECTOR-1980;1SELECTOR-1990;1SELECTOR-2000
1SELECTOR-2010;1SELECTOR-2020;1SELECTOR-2030;1SELECTOR-2040;1SELECTOR-2050;1SELECTOR-2060
1SELECTOR-2070;1SELECTOR-2080;1SELECTOR-2090;1SELECTOR-2100;1SELECTOR-2110;1SELECTOR-2120
1SELECTOR-2130;1SELECTOR-2140;1SELECTOR-2150;1SELECTOR-2160;1SELECTOR-2170;1SELECTOR-2180
1SELECTOR-2190;1SELECTOR-2200;1SELECTOR-2210;1SELECTOR-2220;1SELECTOR-2230;1SELECTOR-2240
1SELECTOR-2250;1SELECTOR-2260;1SELECTOR-2270;1SELECTOR-2280;1SELECTOR-2290;1SELECTOR-2300
1SELECTOR-2310;1SELECTOR-2320;1SELECTOR-2330;1SELECTOR-2340;1SELECTOR-2350;1SELECTOR-2360
1SELECTOR-2370;1SELECTOR-2380;1SELECTOR-2390;1SELECTOR-2400;1SELECTOR-2410;1SELECTOR-2420
1SELECTOR-2430;1SELECTOR-2440;1SELECTOR-2450;1SELECTOR-2460;1SELECTOR-2470;1SELECTOR-2480
1SELECTOR-2490;1SELECTOR-2500;1SELECTOR-2510;1SELECTOR-2520;1SELECTOR-2530;1SELECTOR-2540
1SELECTOR-2550;1SELECTOR-2560"

/-- Other names: of controls, abbreviations, and corrections of names. -/
def otherNames : String := "
0:NULL;0:NUL;1:START OF HEADING;1:SOH;2:START OF TEXT;2:STX;3:END OF TEXT;3:ETX
4:END OF TRANSMISSION;4:EOT;5:ENQUIRY;5:ENQ;6:ACKNOWLEDGE;6:ACK;7:ALERT;7:BEL;8:BACKSPACE;8:BS
9:CHARACTER TABULATION;9:HORIZONTAL TABULATION;9:HT;9:TAB;a:LINE FEED;a:NEW LINE;a:END OF LINE
a:EOL;a:LF;a:NL;b:LINE TABULATION;b:VERTICAL TABULATION;b:VT;c:FORM FEED;c:FF;d:CARRIAGE RETURN
d:CR;e:SHIFT OUT;e:LOCKING-SHIFT ONE;e:SO;f:SHIFT IN;f:LOCKING-SHIFT ZERO;f:SI;10:DATA LINK ESCAPE
10:DLE;11:DEVICE CONTROL ONE;11:DC1;12:DEVICE CONTROL TWO;12:DC2;13:DEVICE CONTROL THREE;13:DC3
14:DEVICE CONTROL FOUR;14:DC4;15:NEGATIVE ACKNOWLEDGE;15:NAK;16:SYNCHRONOUS IDLE;16:SYN
17:END OF TRANSMISSION BLOCK;17:ETB;18:CANCEL;18:CAN;19:END OF MEDIUM;19:EOM;1a:SUBSTITUTE;1a:SUB
1b:ESCAPE;1b:ESC;1c:INFORMATION SEPARATOR FOUR;1c:FILE SEPARATOR;1c:FS
1d:INFORMATION SEPARATOR THREE;1d:GROUP SEPARATOR;1d:GS;1e:INFORMATION SEPARATOR TWO
1e:RECORD SEPARATOR;1e:RS;1f:INFORMATION SEPARATOR ONE;1f:UNIT SEPARATOR;1f:US;20:SP;7f:DELETE
7f:DEL;80:PADDING CHARACTER;80:PAD;81:HIGH OCTET PRESET;81:HOP;82:BREAK PERMITTED HERE;82:BPH
83:NO BREAK HERE;83:NBH;84:INDEX;84:IND;85:NEXT LINE;85:NEL;86:START OF SELECTED AREA;86:SSA
87:END OF SELECTED AREA;87:ESA;88:CHARACTER TABULATION SET;88:HORIZONTAL TABULATION SET;88:HTS
89:CHARACTER TABULATION WITH JUSTIFICATION;89:HORIZONTAL TABULATION WITH JUSTIFICATION;89:HTJ
8a:LINE TABULATION SET;8a:VERTICAL TABULATION SET;8a:VTS;8b:PARTIAL LINE FORWARD
8b:PARTIAL LINE DOWN;8b:PLD;8c:PARTIAL LINE BACKWARD;8c:PARTIAL LINE UP;8c:PLU
8d:REVERSE LINE FEED;8d:REVERSE INDEX;8d:RI;8e:SINGLE SHIFT TWO;8e:SINGLE-SHIFT-2;8e:SS2
8f:SINGLE SHIFT THREE;8f:SINGLE-SHIFT-3;8f:SS3;90:DEVICE CONTROL STRING;90:DCS;91:PRIVATE USE ONE
91:PRIVATE USE-1;91:PU1;92:PRIVATE USE TWO;92:PRIVATE USE-2;92:PU2;93:SET TRANSMIT STATE;93:STS
94:CANCEL CHARACTER;94:CCH;95:MESSAGE WAITING;95:MW;96:START OF GUARDED AREA
96:START OF PROTECTED AREA;96:SPA;97:END OF GUARDED AREA;97:END OF PROTECTED AREA;97:EPA
98:START OF STRING;98:SOS;99:SINGLE GRAPHIC CHARACTER INTRODUCER;99:SGC
9a:SINGLE CHARACTER INTRODUCER;9a:SCI;9b:CONTROL SEQUENCE INTRODUCER;9b:CSI;9c:STRING TERMINATOR
9c:ST;9d:OPERATING SYSTEM COMMAND;9d:OSC;9e:PRIVACY MESSAGE;9e:PM;9f:APPLICATION PROGRAM COMMAND
9f:APC;a0:NBSP;ad:SHY;1a2:LATIN CAPITAL LETTER GHA;1a3:LATIN SMALL LETTER GHA;34f:CGJ;61c:ALM
709:SYRIAC SUBLINEAR COLON SKEWED LEFT;cde:KANNADA LETTER LLLA;e9d:LAO LETTER FO FON
e9f:LAO LETTER FO FAY;ea3:LAO LETTER RO;ea5:LAO LETTER LO;fd0:TIBETAN MARK BKA- SHOG GI MGO RGYAN
11ec:HANGUL JONGSEONG YESIEUNG-KIYEOK;11ed:HANGUL JONGSEONG YESIEUNG-SSANGKIYEOK
11ee:HANGUL JONGSEONG SSANGYESIEUNG;11ef:HANGUL JONGSEONG YESIEUNG-KHIEUKH;180b:FVS1;180c:FVS2
180d:FVS3;180e:MVS;180f:FVS4;200b:ZWSP;200c:ZWNJ;200d:ZWJ;200e:LRM;200f:RLM;202a:LRE;202b:RLE
202c:PDF;202d:LRO;202e:RLO;202f:NNBSP;205f:MMSP;2060:WJ;2066:LRI;2067:RLI;2068:FSI;2069:PDI
2118:WEIERSTRASS ELLIPTIC FUNCTION;2448:MICR ON US SYMBOL;2449:MICR DASH SYMBOL
2b7a:LEFTWARDS TRIANGLE-HEADED ARROW WITH DOUBLE VERTICAL STROKE
2b7c:RIGHTWARDS TRIANGLE-HEADED ARROW WITH DOUBLE VERTICAL STROKE;a015:YI SYLLABLE ITERATION MARK
aa6e:MYANMAR LETTER KHAMTI LLA;fe18:PRESENTATION FORM FOR VERTICAL RIGHT WHITE LENTICULAR BRACKET
feff:BYTE ORDER MARK;feff:BOM;feff:ZWNBSP;122d4:CUNEIFORM SIGN NU11 TENU
122d5:CUNEIFORM SIGN NU11 OVER NU11 BUR OVER BUR;16e56:MEDEFAIDRIN CAPITAL LETTER H
16e57:MEDEFAIDRIN CAPITAL LETTER NG;16e76:MEDEFAIDRIN SMALL LETTER H
16e77:MEDEFAIDRIN SMALL LETTER NG;1b001:HENTAIGANA LETTER E-1
1d0c5:BYZANTINE MUSICAL SYMBOL FTHORA SKLIRON CHROMA VASIS"

end Muffle.Text.CharName
