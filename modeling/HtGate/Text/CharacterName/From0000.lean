/-!
# Names of characters from U+0000 to U+0FFF

The names in the order of code points, as strings of names that follow one another from a code point on.
The small letters before a name say how many characters it has in common with the name before it, which
are left out.
-/

namespace HtGate.Text.CharacterName

/-- The names from U+0000 to U+0FFF. -/
def from0000 : List (Nat × String) :=
  [(0x20, "aSPACEaEXCLAMATION MARKaQUOTATION MARKaNUMBER SIGNaDOLLAR SIGNaPERCENT SIGN"),
   (0x26, "aAMPERSANDbPOSTROPHEaLEFT PARENTHESISaRIGHT PARENTHESISaASTERISKaPLUS SIGNaCOMMA"),
   (0x2D, "aHYPHEN-MINUSaFULL STOPaSOLIDUSaDIGIT ZEROgONEgTWOhHREEgFOURhIVEgSIXhEVENgEIGHTgNINE"),
   (0x3A, "aCOLONaSEMICOLONaLESS-THAN SIGNaEQUALS SIGNaGREATER-THAN SIGNaQUESTION MARK"),
   (0x40, "aCOMMERCIAL ATaLATIN CAPITAL LETTER AvBvCvDvEvFvGvHvIvJvKvLvMvNvOvPvQvRvSvTvUvVvWvX"),
   (0x59, "vYvZbEFT SQUARE BRACKETaREVERSE SOLIDUSbIGHT SQUARE BRACKETaCIRCUMFLEX ACCENT"),
   (0x5F, "aLOW LINEaGRAVE ACCENTaLATIN SMALL LETTER AtBtCtDtEtFtGtHtItJtKtLtMtNtOtPtQtRtStTtU"),
   (0x76, "tVtWtXtYtZbEFT CURLY BRACKETaVERTICAL LINEaRIGHT CURLY BRACKETaTILDE"),
   (0xA0, "aNO-BREAK SPACEaINVERTED EXCLAMATION MARKaCENT SIGNaPOUND SIGNaCURRENCY SIGN"),
   (0xA5, "aYEN SIGNaBROKEN BARaSECTION SIGNaDIAERESISaCOPYRIGHT SIGN"),
   (0xAA, "aFEMININE ORDINAL INDICATORaLEFT-POINTING DOUBLE ANGLE QUOTATION MARKaNOT SIGN"),
   (0xAD, "aSOFT HYPHENaREGISTERED SIGNaMACRONaDEGREE SIGNaPLUS-MINUS SIGNaSUPERSCRIPT TWOnHREE"),
   (0xB4, "aACUTE ACCENTaMICRO SIGNaPILCROW SIGNaMIDDLE DOTaCEDILLAaSUPERSCRIPT ONE"),
   (0xBA, "aMASCULINE ORDINAL INDICATORaRIGHT-POINTING DOUBLE ANGLE QUOTATION MARK"),
   (0xBC, "aVULGAR FRACTION ONE QUARTERuHALFqTHREE QUARTERSaINVERTED QUESTION MARK"),
   (0xC0, "aLATIN CAPITAL LETTER A WITH GRAVEzdACUTEzdCIRCUMFLEXzdTILDEzdDIAERESISzdRING ABOVE"),
   (0xC6, "wEvC WITH CEDILLAvE WITH GRAVEzdACUTEzdCIRCUMFLEXzdDIAERESISvI WITH GRAVEzdACUTE"),
   (0xCE, "zdCIRCUMFLEXzdDIAERESISvETHvN WITH TILDEvO WITH GRAVEzdACUTEzdCIRCUMFLEXzdTILDE"),
   (0xD6, "zdDIAERESISaMULTIPLICATION SIGNaLATIN CAPITAL LETTER O WITH STROKEvU WITH GRAVE"),
   (0xDA, "zdACUTEzdCIRCUMFLEXzdDIAERESISvY WITH ACUTEvTHORNgSMALL LETTER SHARP StA WITH GRAVE"),
   (0xE1, "zbACUTEzbCIRCUMFLEXzbTILDEzbDIAERESISzbRING ABOVEuEtC WITH CEDILLAtE WITH GRAVE"),
   (0xE9, "zbACUTEzbCIRCUMFLEXzbDIAERESIStI WITH GRAVEzbACUTEzbCIRCUMFLEXzbDIAERESIStETH"),
   (0xF1, "tN WITH TILDEtO WITH GRAVEzbACUTEzbCIRCUMFLEXzbTILDEzbDIAERESISaDIVISION SIGN"),
   (0xF8, "aLATIN SMALL LETTER O WITH STROKEtU WITH GRAVEzbACUTEzbCIRCUMFLEXzbDIAERESIS"),
   (0xFD, "tY WITH ACUTEtTHORNtY WITH DIAERESISgCAPITAL LETTER A WITH MACRON"),
   (0x101, "gSMALL LETTER A WITH MACRONgCAPITAL LETTER A WITH BREVEgSMALL LETTER A WITH BREVE"),
   (0x104, "gCAPITAL LETTER A WITH OGONEKgSMALL LETTER A WITH OGONEKgCAPITAL LETTER C WITH ACUTE"),
   (0x107, "gSMALL LETTER C WITH ACUTEgCAPITAL LETTER C WITH CIRCUMFLEX"),
   (0x109, "gSMALL LETTER C WITH CIRCUMFLEXgCAPITAL LETTER C WITH DOT ABOVE"),
   (0x10B, "gSMALL LETTER C WITH DOT ABOVEgCAPITAL LETTER C WITH CARONgSMALL LETTER C WITH CARON"),
   (0x10E, "gCAPITAL LETTER D WITH CARONgSMALL LETTER D WITH CARONgCAPITAL LETTER D WITH STROKE"),
   (0x111, "gSMALL LETTER D WITH STROKEgCAPITAL LETTER E WITH MACRONgSMALL LETTER E WITH MACRON"),
   (0x114, "gCAPITAL LETTER E WITH BREVEgSMALL LETTER E WITH BREVE"),
   (0x116, "gCAPITAL LETTER E WITH DOT ABOVEgSMALL LETTER E WITH DOT ABOVE"),
   (0x118, "gCAPITAL LETTER E WITH OGONEKgSMALL LETTER E WITH OGONEKgCAPITAL LETTER E WITH CARON"),
   (0x11B, "gSMALL LETTER E WITH CARONgCAPITAL LETTER G WITH CIRCUMFLEX"),
   (0x11D, "gSMALL LETTER G WITH CIRCUMFLEXgCAPITAL LETTER G WITH BREVE"),
   (0x11F, "gSMALL LETTER G WITH BREVEgCAPITAL LETTER G WITH DOT ABOVE"),
   (0x121, "gSMALL LETTER G WITH DOT ABOVEgCAPITAL LETTER G WITH CEDILLA"),
   (0x123, "gSMALL LETTER G WITH CEDILLAgCAPITAL LETTER H WITH CIRCUMFLEX"),
   (0x125, "gSMALL LETTER H WITH CIRCUMFLEXgCAPITAL LETTER H WITH STROKE"),
   (0x127, "gSMALL LETTER H WITH STROKEgCAPITAL LETTER I WITH TILDEgSMALL LETTER I WITH TILDE"),
   (0x12A, "gCAPITAL LETTER I WITH MACRONgSMALL LETTER I WITH MACRONgCAPITAL LETTER I WITH BREVE"),
   (0x12D, "gSMALL LETTER I WITH BREVEgCAPITAL LETTER I WITH OGONEKgSMALL LETTER I WITH OGONEK"),
   (0x130, "gCAPITAL LETTER I WITH DOT ABOVEgSMALL LETTER DOTLESS IgCAPITAL LIGATURE IJ"),
   (0x133, "gSMALL LIGATURE IJgCAPITAL LETTER J WITH CIRCUMFLEXgSMALL LETTER J WITH CIRCUMFLEX"),
   (0x136, "gCAPITAL LETTER K WITH CEDILLAgSMALL LETTER K WITH CEDILLAuRA"),
   (0x139, "gCAPITAL LETTER L WITH ACUTEgSMALL LETTER L WITH ACUTEgCAPITAL LETTER L WITH CEDILLA"),
   (0x13C, "gSMALL LETTER L WITH CEDILLAgCAPITAL LETTER L WITH CARONgSMALL LETTER L WITH CARON"),
   (0x13F, "gCAPITAL LETTER L WITH MIDDLE DOTgSMALL LETTER L WITH MIDDLE DOT"),
   (0x141, "gCAPITAL LETTER L WITH STROKEgSMALL LETTER L WITH STROKEgCAPITAL LETTER N WITH ACUTE"),
   (0x144, "gSMALL LETTER N WITH ACUTEgCAPITAL LETTER N WITH CEDILLAgSMALL LETTER N WITH CEDILLA"),
   (0x147, "gCAPITAL LETTER N WITH CARONgSMALL LETTER N WITH CARONvPRECEDED BY APOSTROPHE"),
   (0x14A, "gCAPITAL LETTER ENGgSMALL LETTER ENGgCAPITAL LETTER O WITH MACRON"),
   (0x14D, "gSMALL LETTER O WITH MACRONgCAPITAL LETTER O WITH BREVEgSMALL LETTER O WITH BREVE"),
   (0x150, "gCAPITAL LETTER O WITH DOUBLE ACUTEgSMALL LETTER O WITH DOUBLE ACUTE"),
   (0x152, "gCAPITAL LIGATURE OEgSMALL LIGATURE OEgCAPITAL LETTER R WITH ACUTE"),
   (0x155, "gSMALL LETTER R WITH ACUTEgCAPITAL LETTER R WITH CEDILLAgSMALL LETTER R WITH CEDILLA"),
   (0x158, "gCAPITAL LETTER R WITH CARONgSMALL LETTER R WITH CARONgCAPITAL LETTER S WITH ACUTE"),
   (0x15B, "gSMALL LETTER S WITH ACUTEgCAPITAL LETTER S WITH CIRCUMFLEX"),
   (0x15D, "gSMALL LETTER S WITH CIRCUMFLEXgCAPITAL LETTER S WITH CEDILLA"),
   (0x15F, "gSMALL LETTER S WITH CEDILLAgCAPITAL LETTER S WITH CARONgSMALL LETTER S WITH CARON"),
   (0x162, "gCAPITAL LETTER T WITH CEDILLAgSMALL LETTER T WITH CEDILLA"),
   (0x164, "gCAPITAL LETTER T WITH CARONgSMALL LETTER T WITH CARONgCAPITAL LETTER T WITH STROKE"),
   (0x167, "gSMALL LETTER T WITH STROKEgCAPITAL LETTER U WITH TILDEgSMALL LETTER U WITH TILDE"),
   (0x16A, "gCAPITAL LETTER U WITH MACRONgSMALL LETTER U WITH MACRONgCAPITAL LETTER U WITH BREVE"),
   (0x16D, "gSMALL LETTER U WITH BREVEgCAPITAL LETTER U WITH RING ABOVE"),
   (0x16F, "gSMALL LETTER U WITH RING ABOVEgCAPITAL LETTER U WITH DOUBLE ACUTE"),
   (0x171, "gSMALL LETTER U WITH DOUBLE ACUTEgCAPITAL LETTER U WITH OGONEK"),
   (0x173, "gSMALL LETTER U WITH OGONEKgCAPITAL LETTER W WITH CIRCUMFLEX"),
   (0x175, "gSMALL LETTER W WITH CIRCUMFLEXgCAPITAL LETTER Y WITH CIRCUMFLEX"),
   (0x177, "gSMALL LETTER Y WITH CIRCUMFLEXgCAPITAL LETTER Y WITH DIAERESISvZ WITH ACUTE"),
   (0x17A, "gSMALL LETTER Z WITH ACUTEgCAPITAL LETTER Z WITH DOT ABOVE"),
   (0x17C, "gSMALL LETTER Z WITH DOT ABOVEgCAPITAL LETTER Z WITH CARONgSMALL LETTER Z WITH CARON"),
   (0x17F, "tLONG StB WITH STROKEgCAPITAL LETTER B WITH HOOKzdTOPBARgSMALL LETTER B WITH TOPBAR"),
   (0x184, "gCAPITAL LETTER TONE SIXgSMALL LETTER TONE SIXgCAPITAL LETTER OPEN OvC WITH HOOK"),
   (0x188, "gSMALL LETTER C WITH HOOKgCAPITAL LETTER AFRICAN DvD WITH HOOKzdTOPBAR"),
   (0x18C, "gSMALL LETTER D WITH TOPBARtTURNED DELTAgCAPITAL LETTER REVERSED EvSCHWAvOPEN E"),
   (0x191, "vF WITH HOOKgSMALL LETTER F WITH HOOKgCAPITAL LETTER G WITH HOOKwAMMA"),
   (0x195, "gSMALL LETTER HVgCAPITAL LETTER IOTAw WITH STROKEvK WITH HOOK"),
   (0x199, "gSMALL LETTER K WITH HOOKtL WITH BARuAMBDA WITH STROKEgCAPITAL LETTER TURNED M"),
   (0x19D, "vN WITH LEFT HOOKgSMALL LETTER N WITH LONG RIGHT LEG"),
   (0x19F, "gCAPITAL LETTER O WITH MIDDLE TILDEzdHORNgSMALL LETTER O WITH HORNgCAPITAL LETTER OI"),
   (0x1A3, "gSMALL LETTER OIgCAPITAL LETTER P WITH HOOKgSMALL LETTER P WITH HOOKgLETTER YR"),
   (0x1A7, "gCAPITAL LETTER TONE TWOgSMALL LETTER TONE TWOgCAPITAL LETTER ESH"),
   (0x1AA, "gLETTER REVERSED ESH LOOPgSMALL LETTER T WITH PALATAL HOOK"),
   (0x1AC, "gCAPITAL LETTER T WITH HOOKgSMALL LETTER T WITH HOOK"),
   (0x1AE, "gCAPITAL LETTER T WITH RETROFLEX HOOKvU WITH HORNgSMALL LETTER U WITH HORN"),
   (0x1B1, "gCAPITAL LETTER UPSILONvV WITH HOOKvY WITH HOOKgSMALL LETTER Y WITH HOOK"),
   (0x1B5, "gCAPITAL LETTER Z WITH STROKEgSMALL LETTER Z WITH STROKEgCAPITAL LETTER EZH"),
   (0x1B8, "y REVERSEDgSMALL LETTER EZH REVERSEDxWITH TAILgLETTER TWO WITH STROKE"),
   (0x1BC, "gCAPITAL LETTER TONE FIVEgSMALL LETTER TONE FIVE"),
   (0x1BE, "gLETTER INVERTED GLOTTAL STOP WITH STROKEnWYNNnDENTAL CLICKnLATERAL CLICK"),
   (0x1C2, "nALVEOLAR CLICKnRETROFLEX CLICKgCAPITAL LETTER DZ WITH CARON"),
   (0x1C5, "w WITH SMALL LETTER Z WITH CARONgSMALL LETTER DZ WITH CARONgCAPITAL LETTER LJ"),
   (0x1C8, "w WITH SMALL LETTER JgSMALL LETTER LJgCAPITAL LETTER NJw WITH SMALL LETTER J"),
   (0x1CC, "gSMALL LETTER NJgCAPITAL LETTER A WITH CARONgSMALL LETTER A WITH CARON"),
   (0x1CF, "gCAPITAL LETTER I WITH CARONgSMALL LETTER I WITH CARONgCAPITAL LETTER O WITH CARON"),
   (0x1D2, "gSMALL LETTER O WITH CARONgCAPITAL LETTER U WITH CARONgSMALL LETTER U WITH CARON"),
   (0x1D5, "gCAPITAL LETTER U WITH DIAERESIS AND MACRONgSMALL LETTER U WITH DIAERESIS AND MACRON"),
   (0x1D7, "gCAPITAL LETTER U WITH DIAERESIS AND ACUTEgSMALL LETTER U WITH DIAERESIS AND ACUTE"),
   (0x1D9, "gCAPITAL LETTER U WITH DIAERESIS AND CARONgSMALL LETTER U WITH DIAERESIS AND CARON"),
   (0x1DB, "gCAPITAL LETTER U WITH DIAERESIS AND GRAVEgSMALL LETTER U WITH DIAERESIS AND GRAVE"),
   (0x1DD, "tTURNED EgCAPITAL LETTER A WITH DIAERESIS AND MACRON"),
   (0x1DF, "gSMALL LETTER A WITH DIAERESIS AND MACRONgCAPITAL LETTER A WITH DOT ABOVE AND MACRON"),
   (0x1E1, "gSMALL LETTER A WITH DOT ABOVE AND MACRONgCAPITAL LETTER AE WITH MACRON"),
   (0x1E3, "gSMALL LETTER AE WITH MACRONgCAPITAL LETTER G WITH STROKEgSMALL LETTER G WITH STROKE"),
   (0x1E6, "gCAPITAL LETTER G WITH CARONgSMALL LETTER G WITH CARONgCAPITAL LETTER K WITH CARON"),
   (0x1E9, "gSMALL LETTER K WITH CARONgCAPITAL LETTER O WITH OGONEKgSMALL LETTER O WITH OGONEK"),
   (0x1EC, "gCAPITAL LETTER O WITH OGONEK AND MACRONgSMALL LETTER O WITH OGONEK AND MACRON"),
   (0x1EE, "gCAPITAL LETTER EZH WITH CARONgSMALL LETTER EZH WITH CARONtJ WITH CARON"),
   (0x1F1, "gCAPITAL LETTER DZw WITH SMALL LETTER ZgSMALL LETTER DZgCAPITAL LETTER G WITH ACUTE"),
   (0x1F5, "gSMALL LETTER G WITH ACUTEgCAPITAL LETTER HWAIRvWYNNvN WITH GRAVE"),
   (0x1F9, "gSMALL LETTER N WITH GRAVEgCAPITAL LETTER A WITH RING ABOVE AND ACUTE"),
   (0x1FB, "gSMALL LETTER A WITH RING ABOVE AND ACUTEgCAPITAL LETTER AE WITH ACUTE"),
   (0x1FD, "gSMALL LETTER AE WITH ACUTEgCAPITAL LETTER O WITH STROKE AND ACUTE"),
   (0x1FF, "gSMALL LETTER O WITH STROKE AND ACUTEgCAPITAL LETTER A WITH DOUBLE GRAVE"),
   (0x201, "gSMALL LETTER A WITH DOUBLE GRAVEgCAPITAL LETTER A WITH INVERTED BREVE"),
   (0x203, "gSMALL LETTER A WITH INVERTED BREVEgCAPITAL LETTER E WITH DOUBLE GRAVE"),
   (0x205, "gSMALL LETTER E WITH DOUBLE GRAVEgCAPITAL LETTER E WITH INVERTED BREVE"),
   (0x207, "gSMALL LETTER E WITH INVERTED BREVEgCAPITAL LETTER I WITH DOUBLE GRAVE"),
   (0x209, "gSMALL LETTER I WITH DOUBLE GRAVEgCAPITAL LETTER I WITH INVERTED BREVE"),
   (0x20B, "gSMALL LETTER I WITH INVERTED BREVEgCAPITAL LETTER O WITH DOUBLE GRAVE"),
   (0x20D, "gSMALL LETTER O WITH DOUBLE GRAVEgCAPITAL LETTER O WITH INVERTED BREVE"),
   (0x20F, "gSMALL LETTER O WITH INVERTED BREVEgCAPITAL LETTER R WITH DOUBLE GRAVE"),
   (0x211, "gSMALL LETTER R WITH DOUBLE GRAVEgCAPITAL LETTER R WITH INVERTED BREVE"),
   (0x213, "gSMALL LETTER R WITH INVERTED BREVEgCAPITAL LETTER U WITH DOUBLE GRAVE"),
   (0x215, "gSMALL LETTER U WITH DOUBLE GRAVEgCAPITAL LETTER U WITH INVERTED BREVE"),
   (0x217, "gSMALL LETTER U WITH INVERTED BREVEgCAPITAL LETTER S WITH COMMA BELOW"),
   (0x219, "gSMALL LETTER S WITH COMMA BELOWgCAPITAL LETTER T WITH COMMA BELOW"),
   (0x21B, "gSMALL LETTER T WITH COMMA BELOWgCAPITAL LETTER YOGHgSMALL LETTER YOGH"),
   (0x21E, "gCAPITAL LETTER H WITH CARONgSMALL LETTER H WITH CARON"),
   (0x220, "gCAPITAL LETTER N WITH LONG RIGHT LEGgSMALL LETTER D WITH CURLgCAPITAL LETTER OU"),
   (0x223, "gSMALL LETTER OUgCAPITAL LETTER Z WITH HOOKgSMALL LETTER Z WITH HOOK"),
   (0x226, "gCAPITAL LETTER A WITH DOT ABOVEgSMALL LETTER A WITH DOT ABOVE"),
   (0x228, "gCAPITAL LETTER E WITH CEDILLAgSMALL LETTER E WITH CEDILLA"),
   (0x22A, "gCAPITAL LETTER O WITH DIAERESIS AND MACRONgSMALL LETTER O WITH DIAERESIS AND MACRON"),
   (0x22C, "gCAPITAL LETTER O WITH TILDE AND MACRONgSMALL LETTER O WITH TILDE AND MACRON"),
   (0x22E, "gCAPITAL LETTER O WITH DOT ABOVEgSMALL LETTER O WITH DOT ABOVE"),
   (0x230, "gCAPITAL LETTER O WITH DOT ABOVE AND MACRONgSMALL LETTER O WITH DOT ABOVE AND MACRON"),
   (0x232, "gCAPITAL LETTER Y WITH MACRONgSMALL LETTER Y WITH MACRONtL WITH CURLtN WITH CURL"),
   (0x236, "tT WITH CURLtDOTLESS JuB DIGRAPHtQP DIGRAPHgCAPITAL LETTER A WITH STROKE"),
   (0x23B, "vC WITH STROKEgSMALL LETTER C WITH STROKEgCAPITAL LETTER L WITH BAR"),
   (0x23E, "vT WITH DIAGONAL STROKEgSMALL LETTER S WITH SWASH TAILtZ WITH SWASH TAIL"),
   (0x241, "gCAPITAL LETTER GLOTTAL STOPgSMALL LETTER GLOTTAL STOPgCAPITAL LETTER B WITH STROKE"),
   (0x244, "vU BARvTURNED VvE WITH STROKEgSMALL LETTER E WITH STROKE"),
   (0x248, "gCAPITAL LETTER J WITH STROKEgSMALL LETTER J WITH STROKE"),
   (0x24A, "gCAPITAL LETTER SMALL Q WITH HOOK TAILgSMALL LETTER Q WITH HOOK TAIL"),
   (0x24C, "gCAPITAL LETTER R WITH STROKEgSMALL LETTER R WITH STROKE"),
   (0x24E, "gCAPITAL LETTER Y WITH STROKEgSMALL LETTER Y WITH STROKEtTURNED AtALPHAtTURNED ALPHA"),
   (0x253, "tB WITH HOOKtOPEN OtC WITH CURLtD WITH TAILzbHOOKtREVERSED EtSCHWAy WITH HOOKtOPEN E"),
   (0x25C, "tREVERSED OPEN Ezj WITH HOOKtCLOSED REVERSED OPEN EtDOTLESS J WITH STROKE"),
   (0x260, "tG WITH HOOKtSCRIPT GgLETTER SMALL CAPITAL GgSMALL LETTER GAMMAtRAMS HORNtTURNED H"),
   (0x266, "tH WITH HOOKuENG WITH HOOKtI WITH STROKEuOTAgLETTER SMALL CAPITAL I"),
   (0x26B, "gSMALL LETTER L WITH MIDDLE TILDEzbBELTzbRETROFLEX HOOKuEZHtTURNED Mzc WITH LONG LEG"),
   (0x271, "tM WITH HOOKtN WITH LEFT HOOKzbRETROFLEX HOOKgLETTER SMALL CAPITAL N"),
   (0x275, "gSMALL LETTER BARRED OgLETTER SMALL CAPITAL OEgSMALL LETTER CLOSED OMEGAtPHI"),
   (0x279, "tTURNED Rzc WITH LONG LEGziHOOKtR WITH LONG LEGzbTAILzbFISHHOOK"),
   (0x27F, "uEVERSED R WITH FISHHOOKgLETTER SMALL CAPITAL RzcINVERTED RgSMALL LETTER S WITH HOOK"),
   (0x283, "tESHtDOTLESS J WITH STROKE AND HOOKtSQUAT REVERSED ESHtESH WITH CURLtTURNED T"),
   (0x288, "u WITH RETROFLEX HOOKtU BARuPSILONtV WITH HOOKtTURNED VzbWzbYgLETTER SMALL CAPITAL Y"),
   (0x290, "gSMALL LETTER Z WITH RETROFLEX HOOKzbCURLtEZHw WITH CURLgLETTER GLOTTAL STOP"),
   (0x295, "nPHARYNGEAL VOICED FRICATIVEnINVERTED GLOTTAL STOPnSTRETCHED CnBILABIAL CLICK"),
   (0x299, "nSMALL CAPITAL BgSMALL LETTER CLOSED OPEN EgLETTER SMALL CAPITAL G WITH HOOKzcH"),
   (0x29D, "gSMALL LETTER J WITH CROSSED-TAILtTURNED KgLETTER SMALL CAPITAL L"),
   (0x2A0, "gSMALL LETTER Q WITH HOOKgLETTER GLOTTAL STOP WITH STROKE"),
   (0x2A2, "nREVERSED GLOTTAL STOP WITH STROKEgSMALL LETTER DZ DIGRAPHuEZH DIGRAPH"),
   (0x2A5, "uZ DIGRAPH WITH CURLtTS DIGRAPHuESH DIGRAPHuC DIGRAPH WITH CURLtFENG DIGRAPH"),
   (0x2AA, "tLS DIGRAPHuZ DIGRAPHgLETTER BILABIAL PERCUSSIVEpDENTAL PERCUSSIVE"),
   (0x2AE, "gSMALL LETTER TURNED H WITH FISHHOOKzq AND TAILaMODIFIER LETTER SMALL Hx WITH HOOKwJ"),
   (0x2B3, "wRwTURNED Rzf WITH HOOKwCAPITAL INVERTED RwWwYqPRIMEqDOUBLE PRIMEqTURNED COMMA"),
   (0x2BC, "qAPOSTROPHEqREVERSED COMMArIGHT HALF RINGqLEFT HALF RINGqGLOTTAL STOP"),
   (0x2C1, "qREVERSED GLOTTAL STOPqLEFT ARROWHEADqRIGHT ARROWHEADqUP ARROWHEADqDOWN ARROWHEAD"),
   (0x2C6, "qCIRCUMFLEX ACCENTaCARONaMODIFIER LETTER VERTICAL LINEqMACRONqACUTE ACCENT"),
   (0x2CB, "qGRAVE ACCENTqLOW VERTICAL LINEuMACRONuGRAVE ACCENTuACUTE ACCENTqTRIANGULAR COLON"),
   (0x2D1, "qHALF TRIANGULAR COLONqCENTRED RIGHT HALF RINGyLEFT HALF RINGqUP TACKqDOWN TACK"),
   (0x2D6, "qPLUS SIGNqMINUS SIGNaBREVEaDOT ABOVEaRING ABOVEaOGONEKaSMALL TILDE"),
   (0x2DD, "aDOUBLE ACUTE ACCENTaMODIFIER LETTER RHOTIC HOOKqCROSS ACCENTqSMALL GAMMAwLwSwX"),
   (0x2E4, "wREVERSED GLOTTAL STOPqEXTRA-HIGH TONE BARqHIGH TONE BARqMID TONE BARqLOW TONE BAR"),
   (0x2E9, "qEXTRA-LOW TONE BARqYIN DEPARTING TONE MARKrANG DEPARTING TONE MARKqVOICING"),
   (0x2ED, "qUNASPIRATEDqDOUBLE APOSTROPHEqLOW DOWN ARROWHEADuUP ARROWHEADuLEFT ARROWHEAD"),
   (0x2F2, "uRIGHT ARROWHEADwNGqMIDDLE GRAVE ACCENTxDOUBLE GRAVE ACCENTzfACUTE ACCENTqLOW TILDE"),
   (0x2F8, "qRAISED COLONqBEGIN HIGH TONEqEND HIGH TONEqBEGIN LOW TONEqEND LOW TONEqSHELF"),
   (0x2FE, "qOPEN SHELFqLOW LEFT ARROWaCOMBINING GRAVE ACCENTkACUTE ACCENTkCIRCUMFLEX ACCENT"),
   (0x303, "kTILDEkMACRONkOVERLINEkBREVEkDOT ABOVElIAERESISkHOOK ABOVEkRING ABOVE"),
   (0x30B, "kDOUBLE ACUTE ACCENTkCARONkVERTICAL LINE ABOVEkDOUBLE VERTICAL LINE ABOVE"),
   (0x30F, "rGRAVE ACCENTkCANDRABINDUkINVERTED BREVEkTURNED COMMA ABOVEkCOMMA ABOVE"),
   (0x314, "kREVERSED COMMA ABOVEkCOMMA ABOVE RIGHTkGRAVE ACCENT BELOWkACUTE ACCENT BELOW"),
   (0x318, "kLEFT TACK BELOWkRIGHT TACK BELOWkLEFT ANGLE ABOVEkHORNkLEFT HALF RING BELOW"),
   (0x31D, "kUP TACK BELOWkDOWN TACK BELOWkPLUS SIGN BELOWkMINUS SIGN BELOW"),
   (0x321, "kPALATALIZED HOOK BELOWkRETROFLEX HOOK BELOWkDOT BELOWlIAERESIS BELOWkRING BELOW"),
   (0x326, "kCOMMA BELOWlEDILLAkOGONEKkVERTICAL LINE BELOWkBRIDGE BELOW"),
   (0x32B, "kINVERTED DOUBLE ARCH BELOWkCARON BELOWlIRCUMFLEX ACCENT BELOWkBREVE BELOW"),
   (0x32F, "kINVERTED BREVE BELOWkTILDE BELOWkMACRON BELOWkLOW LINEkDOUBLE LOW LINE"),
   (0x334, "kTILDE OVERLAYkSHORT STROKE OVERLAYkLONG STROKE OVERLAYkSHORT SOLIDUS OVERLAY"),
   (0x338, "kLONG SOLIDUS OVERLAYkRIGHT HALF RING BELOWkINVERTED BRIDGE BELOWkSQUARE BELOW"),
   (0x33C, "lEAGULL BELOWkX ABOVEkVERTICAL TILDEkDOUBLE OVERLINEkGRAVE TONE MARKkACUTE TONE MARK"),
   (0x342, "kGREEK PERISPOMENIqKORONISqDIALYTIKA TONOSqYPOGEGRAMMENIkBRIDGE ABOVE"),
   (0x347, "kEQUALS SIGN BELOWkDOUBLE VERTICAL LINE BELOWkLEFT ANGLE BELOWkNOT TILDE ABOVE"),
   (0x34B, "kHOMOTHETIC ABOVEkALMOST EQUAL TO ABOVEkLEFT RIGHT ARROW BELOWkUPWARDS ARROW BELOW"),
   (0x34F, "kGRAPHEME JOINERkRIGHT ARROWHEAD ABOVEkLEFT HALF RING ABOVEkFERMATAkX BELOW"),
   (0x354, "kLEFT ARROWHEAD BELOWkRIGHT ARROWHEAD BELOWzbAND UP ARROWHEAD BELOWqHALF RING ABOVE"),
   (0x358, "kDOT ABOVE RIGHTkASTERISK BELOWkDOUBLE RING BELOWkZIGZAG ABOVEkDOUBLE BREVE BELOWvE"),
   (0x35E, "rMACRONx BELOWrTILDErINVERTED BREVErRIGHTWARDS ARROW BELOWkLATIN SMALL LETTER AzeE"),
   (0x365, "zeIzeOzeUzeCzeDzeHzeMzeRzeTzeVzeXaGREEK CAPITAL LETTER HETAgSMALL LETTER HETA"),
   (0x372, "gCAPITAL LETTER ARCHAIC SAMPIgSMALL LETTER ARCHAIC SAMPIgNUMERAL SIGN"),
   (0x375, "gLOWER NUMERAL SIGNgCAPITAL LETTER PAMPHYLIAN DIGAMMA"),
   (0x377, "gSMALL LETTER PAMPHYLIAN DIGAMMA"),
   (0x37A, "gYPOGEGRAMMENIgSMALL REVERSED LUNATE SIGMA SYMBOLmDOTTED LUNATE SIGMA SYMBOL"),
   (0x37D, "mREVERSED DOTTED LUNATE SIGMA SYMBOLgQUESTION MARKgCAPITAL LETTER YOT"),
   (0x384, "gTONOSgDIALYTIKA TONOSgCAPITAL LETTER ALPHA WITH TONOSgANO TELEIA"),
   (0x388, "gCAPITAL LETTER EPSILON WITH TONOSwTA WITH TONOSvIOTA WITH TONOS"),
   (0x38C, "vOMICRON WITH TONOS"),
   (0x38E, "vUPSILON WITH TONOSvOMEGA WITH TONOSgSMALL LETTER IOTA WITH DIALYTIKA AND TONOS"),
   (0x391, "gCAPITAL LETTER ALPHAvBETAvGAMMAvDELTAvEPSILONvZETAvETAvTHETAvIOTAvKAPPAvLAMDAvMUvNU"),
   (0x39E, "vXIvOMICRONvPIvRHO"),
   (0x3A3, "vSIGMAvTAUvUPSILONvPHIvCHIvPSIvOMEGAvIOTA WITH DIALYTIKAvUPSILON WITH DIALYTIKA"),
   (0x3AC, "gSMALL LETTER ALPHA WITH TONOStEPSILON WITH TONOSuTA WITH TONOStIOTA WITH TONOS"),
   (0x3B0, "tUPSILON WITH DIALYTIKA AND TONOStALPHAtBETAtGAMMAtDELTAtEPSILONtZETAtETAtTHETAtIOTA"),
   (0x3BA, "tKAPPAtLAMDAtMUtNUtXItOMICRONtPItRHOtFINAL SIGMAtSIGMAtTAUtUPSILONtPHItCHItPSItOMEGA"),
   (0x3CA, "tIOTA WITH DIALYTIKAtUPSILON WITH DIALYTIKAtOMICRON WITH TONOStUPSILON WITH TONOS"),
   (0x3CE, "tOMEGA WITH TONOSgCAPITAL KAI SYMBOLgBETA SYMBOLgTHETA SYMBOL"),
   (0x3D2, "gUPSILON WITH HOOK SYMBOLtACUTE AND HOOK SYMBOLtDIAERESIS AND HOOK SYMBOLgPHI SYMBOL"),
   (0x3D6, "hI SYMBOLgKAI SYMBOLgLETTER ARCHAIC KOPPAgSMALL LETTER ARCHAIC KOPPAgLETTER STIGMA"),
   (0x3DB, "gSMALL LETTER STIGMAgLETTER DIGAMMAgSMALL LETTER DIGAMMAgLETTER KOPPA"),
   (0x3DF, "gSMALL LETTER KOPPAgLETTER SAMPIgSMALL LETTER SAMPIaCOPTIC CAPITAL LETTER SHEI"),
   (0x3E3, "hSMALL LETTER SHEIhCAPITAL LETTER FEIhSMALL LETTER FEIhCAPITAL LETTER KHEI"),
   (0x3E7, "hSMALL LETTER KHEIhCAPITAL LETTER HORIhSMALL LETTER HORIhCAPITAL LETTER GANGIA"),
   (0x3EB, "hSMALL LETTER GANGIAhCAPITAL LETTER SHIMAhSMALL LETTER SHIMAhCAPITAL LETTER DEI"),
   (0x3EF, "hSMALL LETTER DEIaGREEK KAPPA SYMBOLgRHO SYMBOLgLUNATE SIGMA SYMBOLhETTER YOT"),
   (0x3F4, "gCAPITAL THETA SYMBOLgLUNATE EPSILON SYMBOLgREVERSED LUNATE EPSILON SYMBOL"),
   (0x3F7, "gCAPITAL LETTER SHOgSMALL LETTER SHOgCAPITAL LUNATE SIGMA SYMBOLpETTER SAN"),
   (0x3FB, "gSMALL LETTER SANgRHO WITH STROKE SYMBOLgCAPITAL REVERSED LUNATE SIGMA SYMBOL"),
   (0x3FE, "oDOTTED LUNATE SIGMA SYMBOLoREVERSED DOTTED LUNATE SIGMA SYMBOL"),
   (0x400, "aCYRILLIC CAPITAL LETTER IE WITH GRAVEzOyDJEyGJEyUKRAINIAN IEyDZE"),
   (0x406, "yBYELORUSSIAN-UKRAINIAN IyYIyJEyLJEyNJEyTSHEyKJEyI WITH GRAVEySHORT UyDZHEyAyBEyVE"),
   (0x413, "yGHEyDEyIEyZHEzEyIySHORT IyKAyELzMzNyOyPEyERzSyTEyUyEFyHAyTSEyCHEySHAzbCHAyHARD SIGN"),
   (0x42B, "yYERUySOFT SIGNyEyYUzAjSMALL LETTER AwBEwVEwGHEwDEwIEwZHExEwIwSHORT IwKAwELxMxNwOwPE"),
   (0x440, "wERxSwTEwUwEFwHAwTSEwCHEwSHAyCHAwHARD SIGNwYERUwSOFT SIGNwEwYUxAwIE WITH GRAVExOwDJE"),
   (0x453, "wGJEwUKRAINIAN IEwDZEwBYELORUSSIAN-UKRAINIAN IwYIwJEwLJEwNJEwTSHEwKJEwI WITH GRAVE"),
   (0x45E, "wSHORT UwDZHEjCAPITAL LETTER OMEGAjSMALL LETTER OMEGAjCAPITAL LETTER YAT"),
   (0x463, "jSMALL LETTER YATjCAPITAL LETTER IOTIFIED EjSMALL LETTER IOTIFIED E"),
   (0x466, "jCAPITAL LETTER LITTLE YUSjSMALL LETTER LITTLE YUS"),
   (0x468, "jCAPITAL LETTER IOTIFIED LITTLE YUSjSMALL LETTER IOTIFIED LITTLE YUS"),
   (0x46A, "jCAPITAL LETTER BIG YUSjSMALL LETTER BIG YUSjCAPITAL LETTER IOTIFIED BIG YUS"),
   (0x46D, "jSMALL LETTER IOTIFIED BIG YUSjCAPITAL LETTER KSIjSMALL LETTER KSI"),
   (0x470, "jCAPITAL LETTER PSIjSMALL LETTER PSIjCAPITAL LETTER FITAjSMALL LETTER FITA"),
   (0x474, "jCAPITAL LETTER IZHITSAjSMALL LETTER IZHITSA"),
   (0x476, "jCAPITAL LETTER IZHITSA WITH DOUBLE GRAVE ACCENT"),
   (0x477, "jSMALL LETTER IZHITSA WITH DOUBLE GRAVE ACCENTjCAPITAL LETTER UKjSMALL LETTER UK"),
   (0x47A, "jCAPITAL LETTER ROUND OMEGAjSMALL LETTER ROUND OMEGAjCAPITAL LETTER OMEGA WITH TITLO"),
   (0x47D, "jSMALL LETTER OMEGA WITH TITLOjCAPITAL LETTER OTjSMALL LETTER OT"),
   (0x480, "jCAPITAL LETTER KOPPAjSMALL LETTER KOPPAjTHOUSANDS SIGNbOMBINING CYRILLIC TITLO"),
   (0x484, "tPALATALIZATIONtDASIA PNEUMATAtPSILI PNEUMATAuOKRYTIEtHUNDRED THOUSANDS SIGN"),
   (0x489, "tMILLIONS SIGNbYRILLIC CAPITAL LETTER SHORT I WITH TAIL"),
   (0x48B, "jSMALL LETTER SHORT I WITH TAILjCAPITAL LETTER SEMISOFT SIGN"),
   (0x48D, "jSMALL LETTER SEMISOFT SIGNjCAPITAL LETTER ER WITH TICKjSMALL LETTER ER WITH TICK"),
   (0x490, "jCAPITAL LETTER GHE WITH UPTURNjSMALL LETTER GHE WITH UPTURN"),
   (0x492, "jCAPITAL LETTER GHE WITH STROKEjSMALL LETTER GHE WITH STROKE"),
   (0x494, "jCAPITAL LETTER GHE WITH MIDDLE HOOKjSMALL LETTER GHE WITH MIDDLE HOOK"),
   (0x496, "jCAPITAL LETTER ZHE WITH DESCENDERjSMALL LETTER ZHE WITH DESCENDER"),
   (0x498, "jCAPITAL LETTER ZE WITH DESCENDERjSMALL LETTER ZE WITH DESCENDER"),
   (0x49A, "jCAPITAL LETTER KA WITH DESCENDERjSMALL LETTER KA WITH DESCENDER"),
   (0x49C, "jCAPITAL LETTER KA WITH VERTICAL STROKEjSMALL LETTER KA WITH VERTICAL STROKE"),
   (0x49E, "jCAPITAL LETTER KA WITH STROKEjSMALL LETTER KA WITH STROKEjCAPITAL LETTER BASHKIR KA"),
   (0x4A1, "jSMALL LETTER BASHKIR KAjCAPITAL LETTER EN WITH DESCENDER"),
   (0x4A3, "jSMALL LETTER EN WITH DESCENDERjCAPITAL LIGATURE EN GHEjSMALL LIGATURE EN GHE"),
   (0x4A6, "jCAPITAL LETTER PE WITH MIDDLE HOOKjSMALL LETTER PE WITH MIDDLE HOOK"),
   (0x4A8, "jCAPITAL LETTER ABKHASIAN HAjSMALL LETTER ABKHASIAN HA"),
   (0x4AA, "jCAPITAL LETTER ES WITH DESCENDERjSMALL LETTER ES WITH DESCENDER"),
   (0x4AC, "jCAPITAL LETTER TE WITH DESCENDERjSMALL LETTER TE WITH DESCENDER"),
   (0x4AE, "jCAPITAL LETTER STRAIGHT UjSMALL LETTER STRAIGHT U"),
   (0x4B0, "jCAPITAL LETTER STRAIGHT U WITH STROKEjSMALL LETTER STRAIGHT U WITH STROKE"),
   (0x4B2, "jCAPITAL LETTER HA WITH DESCENDERjSMALL LETTER HA WITH DESCENDER"),
   (0x4B4, "jCAPITAL LIGATURE TE TSEjSMALL LIGATURE TE TSEjCAPITAL LETTER CHE WITH DESCENDER"),
   (0x4B7, "jSMALL LETTER CHE WITH DESCENDERjCAPITAL LETTER CHE WITH VERTICAL STROKE"),
   (0x4B9, "jSMALL LETTER CHE WITH VERTICAL STROKEjCAPITAL LETTER SHHAjSMALL LETTER SHHA"),
   (0x4BC, "jCAPITAL LETTER ABKHASIAN CHEjSMALL LETTER ABKHASIAN CHE"),
   (0x4BE, "jCAPITAL LETTER ABKHASIAN CHE WITH DESCENDER"),
   (0x4BF, "jSMALL LETTER ABKHASIAN CHE WITH DESCENDERjLETTER PALOCHKA"),
   (0x4C1, "jCAPITAL LETTER ZHE WITH BREVEjSMALL LETTER ZHE WITH BREVE"),
   (0x4C3, "jCAPITAL LETTER KA WITH HOOKjSMALL LETTER KA WITH HOOKjCAPITAL LETTER EL WITH TAIL"),
   (0x4C6, "jSMALL LETTER EL WITH TAILjCAPITAL LETTER EN WITH HOOKjSMALL LETTER EN WITH HOOK"),
   (0x4C9, "jCAPITAL LETTER EN WITH TAILjSMALL LETTER EN WITH TAILjCAPITAL LETTER KHAKASSIAN CHE"),
   (0x4CC, "jSMALL LETTER KHAKASSIAN CHEjCAPITAL LETTER EM WITH TAILjSMALL LETTER EM WITH TAIL"),
   (0x4CF, "wPALOCHKAjCAPITAL LETTER A WITH BREVEjSMALL LETTER A WITH BREVE"),
   (0x4D2, "jCAPITAL LETTER A WITH DIAERESISjSMALL LETTER A WITH DIAERESISjCAPITAL LIGATURE A IE"),
   (0x4D5, "jSMALL LIGATURE A IEjCAPITAL LETTER IE WITH BREVEjSMALL LETTER IE WITH BREVE"),
   (0x4D8, "jCAPITAL LETTER SCHWAjSMALL LETTER SCHWAjCAPITAL LETTER SCHWA WITH DIAERESIS"),
   (0x4DB, "jSMALL LETTER SCHWA WITH DIAERESISjCAPITAL LETTER ZHE WITH DIAERESIS"),
   (0x4DD, "jSMALL LETTER ZHE WITH DIAERESISjCAPITAL LETTER ZE WITH DIAERESIS"),
   (0x4DF, "jSMALL LETTER ZE WITH DIAERESISjCAPITAL LETTER ABKHASIAN DZE"),
   (0x4E1, "jSMALL LETTER ABKHASIAN DZEjCAPITAL LETTER I WITH MACRONjSMALL LETTER I WITH MACRON"),
   (0x4E4, "jCAPITAL LETTER I WITH DIAERESISjSMALL LETTER I WITH DIAERESIS"),
   (0x4E6, "jCAPITAL LETTER O WITH DIAERESISjSMALL LETTER O WITH DIAERESIS"),
   (0x4E8, "jCAPITAL LETTER BARRED OjSMALL LETTER BARRED O"),
   (0x4EA, "jCAPITAL LETTER BARRED O WITH DIAERESISjSMALL LETTER BARRED O WITH DIAERESIS"),
   (0x4EC, "jCAPITAL LETTER E WITH DIAERESISjSMALL LETTER E WITH DIAERESIS"),
   (0x4EE, "jCAPITAL LETTER U WITH MACRONjSMALL LETTER U WITH MACRON"),
   (0x4F0, "jCAPITAL LETTER U WITH DIAERESISjSMALL LETTER U WITH DIAERESIS"),
   (0x4F2, "jCAPITAL LETTER U WITH DOUBLE ACUTEjSMALL LETTER U WITH DOUBLE ACUTE"),
   (0x4F4, "jCAPITAL LETTER CHE WITH DIAERESISjSMALL LETTER CHE WITH DIAERESIS"),
   (0x4F6, "jCAPITAL LETTER GHE WITH DESCENDERjSMALL LETTER GHE WITH DESCENDER"),
   (0x4F8, "jCAPITAL LETTER YERU WITH DIAERESISjSMALL LETTER YERU WITH DIAERESIS"),
   (0x4FA, "jCAPITAL LETTER GHE WITH STROKE AND HOOKjSMALL LETTER GHE WITH STROKE AND HOOK"),
   (0x4FC, "jCAPITAL LETTER HA WITH HOOKjSMALL LETTER HA WITH HOOKjCAPITAL LETTER HA WITH STROKE"),
   (0x4FF, "jSMALL LETTER HA WITH STROKEjCAPITAL LETTER KOMI DEjSMALL LETTER KOMI DE"),
   (0x502, "jCAPITAL LETTER KOMI DJEjSMALL LETTER KOMI DJEjCAPITAL LETTER KOMI ZJE"),
   (0x505, "jSMALL LETTER KOMI ZJEjCAPITAL LETTER KOMI DZJEjSMALL LETTER KOMI DZJE"),
   (0x508, "jCAPITAL LETTER KOMI LJEjSMALL LETTER KOMI LJEjCAPITAL LETTER KOMI NJE"),
   (0x50B, "jSMALL LETTER KOMI NJEjCAPITAL LETTER KOMI SJEjSMALL LETTER KOMI SJE"),
   (0x50E, "jCAPITAL LETTER KOMI TJEjSMALL LETTER KOMI TJEjCAPITAL LETTER REVERSED ZE"),
   (0x511, "jSMALL LETTER REVERSED ZEjCAPITAL LETTER EL WITH HOOKjSMALL LETTER EL WITH HOOK"),
   (0x514, "jCAPITAL LETTER LHAjSMALL LETTER LHAjCAPITAL LETTER RHAjSMALL LETTER RHA"),
   (0x518, "jCAPITAL LETTER YAEjSMALL LETTER YAEjCAPITAL LETTER QAjSMALL LETTER QA"),
   (0x51C, "jCAPITAL LETTER WEjSMALL LETTER WEjCAPITAL LETTER ALEUT KAjSMALL LETTER ALEUT KA"),
   (0x520, "jCAPITAL LETTER EL WITH MIDDLE HOOKjSMALL LETTER EL WITH MIDDLE HOOK"),
   (0x522, "jCAPITAL LETTER EN WITH MIDDLE HOOKjSMALL LETTER EN WITH MIDDLE HOOK"),
   (0x524, "jCAPITAL LETTER PE WITH DESCENDERjSMALL LETTER PE WITH DESCENDER"),
   (0x526, "jCAPITAL LETTER SHHA WITH DESCENDERjSMALL LETTER SHHA WITH DESCENDER"),
   (0x528, "jCAPITAL LETTER EN WITH LEFT HOOKjSMALL LETTER EN WITH LEFT HOOK"),
   (0x52A, "jCAPITAL LETTER DZZHEjSMALL LETTER DZZHEjCAPITAL LETTER DCHEjSMALL LETTER DCHE"),
   (0x52E, "jCAPITAL LETTER EL WITH DESCENDERjSMALL LETTER EL WITH DESCENDER"),
   (0x531, "aARMENIAN CAPITAL LETTER AYByBENyGIMyDAyECHyZAyEHzTyTOyZHEyINIyLIWNyXEHyCAyKENyHOyJA"),
   (0x542, "yGHADyCHEHyMENyYIyNOWySHAyVOyCHAyPEHyJHEHyRAySEHyVEWyTIWNyREHyCOyYIWNyPIWRyKEHyOH"),
   (0x556, "yFEH"),
   (0x559, "jMODIFIER LETTER LEFT HALF RINGjAPOSTROPHEjEMPHASIS MARKkXCLAMATION MARKjCOMMA"),
   (0x55E, "jQUESTION MARKjABBREVIATION MARKjSMALL LETTER TURNED AYBwAYBwBENwGIMwDAwECHwZAwEHxT"),
   (0x569, "wTOwZHEwINIwLIWNwXEHwCAwKENwHOwJAwGHADwCHEHwMENwYIwNOWwSHAwVOwCHAwPEHwJHEHwRAwSEH"),
   (0x57E, "wVEWwTIWNwREHwCOwYIWNwPIWRwKEHwOHwFEHqIGATURE ECH YIWNqETTER YI WITH STROKE"),
   (0x589, "jFULL STOPjHYPHEN"),
   (0x58D, "aRIGHT-FACING ARMENIAN ETERNITY SIGNaLEFT-FACING ARMENIAN ETERNITY SIGN"),
   (0x58F, "aARMENIAN DRAM SIGN"),
   (0x591, "aHEBREW ACCENT ETNAHTAoSEGOLpHALSHELEToZAQEF QATANuGADOLoTIPEHAoREVIAoZARQAoPASHTA"),
   (0x59A, "oYETIVoTEVIRoGERESHu MUQDAMrSHAYIMoQARNEY PARAoTELISHA GEDOLAoPAZERoATNAH HAFUKH"),
   (0x5A3, "oMUNAHpAHAPAKHpERKHAu KEFULAoDARGAoQADMAoTELISHA QETANAoYERAH BEN YOMOoOLEoILUYoDEHI"),
   (0x5AE, "oZINORhMARK MASORA CIRCLEhPOINT SHEVAnHATAF SEGOLtPATAHtQAMATSoIRIQnTSEREnSEGOL"),
   (0x5B7, "nPATAHnQAMATSnHOLAMs HASER FOR VAVnQUBUTSnDAGESH OR MAPIQnMETEGiUNCTUATION MAQAF"),
   (0x5BF, "iOINT RAFEiUNCTUATION PASEQiOINT SHIN DOToIN DOTiUNCTUATION SOF PASUQhMARK UPPER DOT"),
   (0x5C5, "mLOWER DOThPUNCTUATION NUN HAFUKHAiOINT QAMATS QATAN"),
   (0x5D0, "hLETTER ALEFoBEToGIMELoDALEToHEoVAVoZAYINoHEToTEToYODoFINAL KAFoKAFoLAMEDoFINAL MEM"),
   (0x5DE, "oMEMoFINAL NUNoNUNoSAMEKHoAYINoFINAL PEoPEoFINAL TSADIoTSADIoQOFoRESHoSHINoTAV"),
   (0x5EF, "hYOD TRIANGLEhLIGATURE YIDDISH DOUBLE VAVyVAV YODyDOUBLE YODhPUNCTUATION GERESH"),
   (0x5F4, "wSHAYIM"),
   (0x600, "aARABIC NUMBER SIGNhSIGN SANAHhFOOTNOTE MARKERhSIGN SAFHAoMVAThNUMBER MARK ABOVE"),
   (0x606, "g-INDIC CUBE ROOTnFOURTH ROOTg RAYg-INDIC PER MILLE SIGNrTEN THOUSAND SIGN"),
   (0x60B, "bFGHANI SIGNbRABIC COMMAhDATE SEPARATORhPOETIC VERSE SIGNhSIGN MISRA"),
   (0x610, "mSALLALLAHOU ALAYHE WASSALLAMmALAYHE ASSALLAMmRAHMATULLAH ALAYHEoDI ALLAHOU ANHU"),
   (0x614, "mTAKHALLUSiMALL HIGH TAHsLIGATURE ALEF WITH LAM WITH YEHsZAINnFATHAnDAMMAnKASRA"),
   (0x61B, "iEMICOLONhLETTER MARKhEND OF TEXT MARKhTRIPLE DOT PUNCTUATION MARKhQUESTION MARK"),
   (0x620, "hLETTER KASHMIRI YEHoHAMZAoALEF WITH MADDA ABOVEyHAMZA ABOVEoWAW WITH HAMZA ABOVE"),
   (0x625, "oALEF WITH HAMZA BELOWoYEH WITH HAMZA ABOVEoALEFoBEHoTEH MARBUTAqHpHEHoJEEMoHAHoKHAH"),
   (0x62F, "oDALoTHALoREHoZAINoSEENpHEENpADoDADoTAHoZAHoAINoGHAINoKEHEH WITH TWO DOTS ABOVE"),
   (0x63C, "zbHREE DOTS BELOWoFARSI YEH WITH INVERTED VzeTWO DOTS ABOVEzfHREE DOTS ABOVEhTATWEEL"),
   (0x641, "hLETTER FEHoQAFoKAFoLAMoMEEMoNOONoHEHoWAWoALEF MAKSURAoYEHhFATHATANhDAMMATAN"),
   (0x64D, "hKASRATANhFATHAhDAMMAhKASRAhSHADDAiUKUNhMADDAH ABOVEhHAMZA ABOVEnBELOW"),
   (0x656, "hSUBSCRIPT ALEFhINVERTED DAMMAhMARK NOON GHUNNAhZWARAKAYhVOWEL SIGN SMALL V ABOVE"),
   (0x65B, "sINVERTED SMALL V ABOVEsDOT BELOWhREVERSED DAMMAhFATHA WITH TWO DOTS"),
   (0x65F, "hWAVY HAMZA BELOWg-INDIC DIGIT ZEROtONEtTWOuHREEtFOURuIVEtSIXuEVENtEIGHTtNINE"),
   (0x66A, "g PERCENT SIGNhDECIMAL SEPARATORhTHOUSANDS SEPARATORhFIVE POINTED STAR"),
   (0x66E, "hLETTER DOTLESS BEHwQAFoSUPERSCRIPT ALEFoALEF WASLAuITH WAVY HAMZA ABOVEzkBELOW"),
   (0x674, "oHIGH HAMZAy ALEFzWAWoU WITH HAMZA ABOVEoHIGH HAMZA YEHoTTEHsEHoBEEHoTEH WITH RING"),
   (0x67D, "xTHREE DOTS ABOVE DOWNWARDSoPEHoTEHEHoBEHEHoHAH WITH HAMZA ABOVE"),
   (0x682, "xTWO DOTS VERTICAL ABOVEoNYEHoDYEHoHAH WITH THREE DOTS ABOVEoTCHEHtEHoDDAL"),
   (0x689, "pAL WITH RINGxDOT BELOWzh AND SMALL TAHqHALpDAHALpUL"),
   (0x68F, "pAL WITH THREE DOTS ABOVE DOWNWARDSxFOUR DOTS ABOVEoRREHpEH WITH SMALL VxRING"),
   (0x694, "xDOT BELOWxSMALL V BELOWxDOT BELOW AND DOT ABOVExTWO DOTS ABOVEoJEH"),
   (0x699, "oREH WITH FOUR DOTS ABOVEoSEEN WITH DOT BELOW AND DOT ABOVEyTHREE DOTS BELOW"),
   (0x69C, "zp AND THREE DOTS ABOVEpAD WITH TWO DOTS BELOWyHREE DOTS ABOVE"),
   (0x69F, "oTAH WITH THREE DOTS ABOVEoAIN WITH THREE DOTS ABOVEoDOTLESS FEH"),
   (0x6A2, "oFEH WITH DOT MOVED BELOWzcBELOWoVEHoFEH WITH THREE DOTS BELOWoPEHEH"),
   (0x6A7, "oQAF WITH DOT ABOVExTHREE DOTS ABOVEoKEHEHoSWASH KAFoKAF WITH RINGxDOT ABOVEoNG"),
   (0x6AE, "oKAF WITH THREE DOTS BELOWoGAFr WITH RINGoNGOEHoGAF WITH TWO DOTS BELOWpUEH"),
   (0x6B4, "pAF WITH THREE DOTS ABOVEoLAM WITH SMALL VxDOT ABOVExTHREE DOTS ABOVEzjBELOW"),
   (0x6B9, "oNOON WITH DOT BELOWtGHUNNAoRNOONoNOON WITH RINGyTHREE DOTS ABOVEoHEH DOACHASHMEE"),
   (0x6BF, "oTCHEH WITH DOT ABOVEoHEH WITH YEH ABOVEsGOALw WITH HAMZA ABOVEoTEH MARBUTA GOAL"),
   (0x6C4, "oWAW WITH RINGoKIRGHIZ OEoOEoUoYUoKIRGHIZ YUoWAW WITH TWO DOTS ABOVEoVEoFARSI YEH"),
   (0x6CD, "oYEH WITH TAILxSMALL VoWAW WITH DOT ABOVEoEoYEH WITH THREE DOTS BELOWsBARREE"),
   (0x6D3, "y WITH HAMZA ABOVEhFULL STOPhLETTER AE"),
   (0x6D6, "hSMALL HIGH LIGATURE SAD WITH LAM WITH ALEF MAKSURAzcQAF WITH LAM WITH ALEF MAKSURA"),
   (0x6D8, "sMEEM INITIAL FORMsLAM ALEFsJEEMsTHREE DOTSsSEENhEND OF AYAHhSTART OF RUB EL HIZB"),
   (0x6DF, "iMALL HIGH ROUNDED ZEROsUPRIGHT RECTANGULAR ZEROsDOTLESS HEAD OF KHAH"),
   (0x6E2, "sMEEM ISOLATED FORMnLOW SEENnHIGH MADDAnWAWnYEHnHIGH YEHsNOONhPLACE OF SAJDAH"),
   (0x6EA, "hEMPTY CENTRE LOW STOPuHIGH STOPhROUNDED HIGH STOP WITH FILLED CENTREhSMALL LOW MEEM"),
   (0x6EE, "hLETTER DAL WITH INVERTED VoREH WITH INVERTED VaEXTENDED ARABIC-INDIC DIGIT ZERO"),
   (0x6F1, "zdONEzdTWOzeHREEzdFOURzeIVEzdSIXzeEVENzdEIGHTzdNINE"),
   (0x6FA, "aARABIC LETTER SHEEN WITH DOT BELOWoDAD WITH DOT BELOWoGHAIN WITH DOT BELOW"),
   (0x6FD, "hSIGN SINDHI AMPERSANDtPOSTPOSITION MENhLETTER HEH WITH INVERTED V"),
   (0x700, "aSYRIAC END OF PARAGRAPHhSUPRALINEAR FULL STOPjBLINEAR FULL STOPjPRALINEAR COLON"),
   (0x704, "jBLINEAR COLONhHORIZONTAL COLONhCOLON SKEWED LEFTuRIGHT"),
   (0x708, "hSUPRALINEAR COLON SKEWED LEFTjBLINEAR COLON SKEWED RIGHThCONTRACTION"),
   (0x70B, "hHARKLEAN OBELUSqMETOBELUSqASTERISCUS"),
   (0x70F, "hABBREVIATION MARKhLETTER ALAPHoSUPERSCRIPT ALAPHoBETHoGAMALt GARSHUNIoDALATH"),
   (0x716, "pOTLESS DALATH RISHoHEoWAWoZAINoHETHoTETHs GARSHUNIoYUDHs HEoKAPHoLAMADHoMIMoNUN"),
   (0x723, "oSEMKATHoFINAL SEMKATHoEoPEoREVERSED PEoSADHEoQAPHoRISHoSHINoTAWoPERSIAN BHETH"),
   (0x72E, "wGHAMALwDHALATHhPTHAHA ABOVEoBELOWoDOTTEDhZQAPHA ABOVEoBELOWoDOTTEDhRBASA ABOVE"),
   (0x737, "nBELOWhDOTTED ZLAMA HORIZONTALuANGULARhHBASA ABOVEnBELOWm-ESASA DOTTEDhESASA ABOVE"),
   (0x73E, "nBELOWhRWAHAhFEMININE DOThQUSHSHAYAhRUKKAKHAhTWO VERTICAL DOTS ABOVEzBELOW"),
   (0x745, "iHREE DOTS ABOVEsBELOWhOBLIQUE LINE ABOVEuBELOWhMUSIChBARREKH"),
   (0x74D, "hLETTER SOGDIAN ZHAINwKHAPHwFEaARABIC LETTER BEH WITH THREE DOTS HORIZONTALLY BELOW"),
   (0x751, "xDOT BELOW AND THREE DOTS ABOVExTHREE DOTS POINTING UPWARDS BELOW"),
   (0x753, "zzg AND TWO DOTS ABOVEyWO DOTS BELOW AND DOT ABOVExINVERTED SMALL V BELOWxSMALL V"),
   (0x757, "oHAH WITH TWO DOTS ABOVEyHREE DOTS POINTING UPWARDS BELOW"),
   (0x759, "oDAL WITH TWO DOTS VERTICALLY BELOW AND SMALL TAHxINVERTED SMALL V BELOW"),
   (0x75B, "oREH WITH STROKEoSEEN WITH FOUR DOTS ABOVEoAIN WITH TWO DOTS ABOVE"),
   (0x75E, "yHREE DOTS POINTING DOWNWARDS ABOVEyWO DOTS VERTICALLY ABOVEoFEH WITH TWO DOTS BELOW"),
   (0x761, "yHREE DOTS POINTING UPWARDS BELOWoKEHEH WITH DOT ABOVEzTHREE DOTS ABOVE"),
   (0x764, "zlPOINTING UPWARDS BELOWoMEEM WITH DOT ABOVEzdBELOWoNOON WITH TWO DOTS BELOW"),
   (0x768, "ySMALL TAHzfVoLAM WITH BARoREH WITH TWO DOTS VERTICALLY ABOVExHAMZA ABOVE"),
   (0x76D, "oSEEN WITH TWO DOTS VERTICALLY ABOVEoHAH WITH SMALL ARABIC LETTER TAH BELOW"),
   (0x76F, "zwAND TWO DOTSoSEEN WITH SMALL ARABIC LETTER TAH AND TWO DOTS"),
   (0x771, "oREH WITH SMALL ARABIC LETTER TAH AND TWO DOTS"),
   (0x772, "oHAH WITH SMALL ARABIC LETTER TAH ABOVE"),
   (0x773, "oALEF WITH EXTENDED ARABIC-INDIC DIGIT TWO ABOVEzzdHREE ABOVE"),
   (0x775, "oFARSI YEH WITH EXTENDED ARABIC-INDIC DIGIT TWO ABOVEzziHREE ABOVEzzhFOUR BELOW"),
   (0x778, "oWAW WITH EXTENDED ARABIC-INDIC DIGIT TWO ABOVEzzcHREE ABOVE"),
   (0x77A, "oYEH BARREE WITH EXTENDED ARABIC-INDIC DIGIT TWO ABOVEzzjHREE ABOVE"),
   (0x77C, "oHAH WITH EXTENDED ARABIC-INDIC DIGIT FOUR BELOW"),
   (0x77D, "oSEEN WITH EXTENDED ARABIC-INDIC DIGIT FOUR ABOVEyINVERTED VoKAF WITH TWO DOTS ABOVE"),
   (0x780, "aTHAANA LETTER HAAoSHAVIYANIoNOONUoRAAoBAAoLHAVIYANIoKAAFUoALIFUoVAAVUoMEEMUoFAAFU"),
   (0x78B, "oDHAALUoTHAAoLAAMUoGAAFUpNAVIYANIoSEENUoDAVIYANIoZAVIYANIoTAVIYANIoYAAoPAVIYANI"),
   (0x796, "oJAVIYANIoCHAVIYANIoTTAAoHHAAoKHAAoTHAALUoZAAoSHEENUpAADHUoDAADHUoTOoZOoAINUoGHAINU"),
   (0x7A4, "oQAAFUoWAAVUhABAFILIiABAAFILIhIBIFILIhEEBEEFILIhUBUFILIhOOBOOFILIhEBEFILIiYBEYFILI"),
   (0x7AE, "hOBOFILIiABOAFILIhSUKUNhLETTER NAA"),
   (0x7C0, "aNKO DIGIT ZEROkONEkTWOlHREEkFOURlIVEkSIXlEVENkEIGHTkNINEeLETTER AlEElIlElUlOOlO"),
   (0x7D1, "lDAGBASINNAlNlBAlPAlTAlJAlCHAlDAlRAmRAlSAlGBAlFAlKAlLAlNA WOLOSOlMAlNYAmAlHAlWAlYA"),
   (0x7E7, "lNYA WOLOSOlJONA JAqCHAqRAeCOMBINING SHORT HIGH TONEuLOW TONEuRISING TONE"),
   (0x7EE, "oLONG DESCENDING TONEtHIGH TONEtLOW TONEtRISING TONEoNASALIZATION MARK"),
   (0x7F3, "oDOUBLE DOT ABOVEeHIGH TONE APOSTROPHEeLOW TONE APOSTROPHEeSYMBOL OO DENNEN"),
   (0x7F7, "lGBAKURUNENeCOMMAeEXCLAMATION MARKeLAJANYALAN"),
   (0x7FD, "eDANTAYALANfOROME SIGNeTAMAN SIGNaSAMARITAN LETTER ALAFrBITrGAMANrDALATrIYrBAArZEN"),
   (0x807, "rITrTITrYUTrKAAFrLABATrMIMrNUNrSINGAATrINrFIrTSAADIYrQUFrRISHrSHANrTAAFkMARK IN"),
   (0x817, "r-ALAFpOCCLUSIONpDAGESHlODIFIER LETTER EPENTHETIC YUTlARK EPENTHETIC YUT"),
   (0x81C, "kVOWEL SIGN LONG EvEvOVERLONG AAvLONG AAvAAvOVERLONG AvLONG AvA"),
   (0x824, "kMODIFIER LETTER SHORT AkVOWEL SIGN SHORT AvLONG UvUkMODIFIER LETTER I"),
   (0x829, "kVOWEL SIGN LONG IvIvOvSUKUNkMARK NEQUDAA"),
   (0x830, "kPUNCTUATION NEQUDAAwAFSAAQxNGEDwBAUwATMAAUwSHIYYAALAAkABBREVIATION MARK"),
   (0x837, "kPUNCTUATION MELODIC QITSAwZIQAAwQITSAwZAEFwTURUwARKAANUwSOF MASHFAATwANNAAU"),
   (0x840, "aMANDAIC LETTER HALQApABqGqDqHpUSHENNApAZpITpATTqKSAqKqLqMqNqSpINpAPqSZqQqRqSHqT"),
   (0x856, "pDUSHENNApKADpAINiAFFRICATION MARKiVOCALIZATION MARKiGEMINATION MARK"),
   (0x85E, "iPUNCTUATION"),
   (0x860, "aSYRIAC LETTER MALAYALAM NGAyJAyNYAyTTAyNNAzbNAyBHAyRAyLLAzbLAySSA"),
   (0x870, "aARABIC LETTER ALEF WITH ATTACHED FATHAziTOP RIGHT FATHAyRIGHT MIDDLE STROKE"),
   (0x873, "yLEFT MIDDLE STROKEyATTACHED KASRAziBOTTOM RIGHT KASRAziROUND DOT ABOVE"),
   (0x877, "zjIGHT ROUND DOTziLEFT ROUND DOTziROUND DOT BELOWyDOT ABOVE"),
   (0x87B, "yATTACHED TOP RIGHT FATHA AND DOT ABOVEyRIGHT MIDDLE STROKE AND DOT ABOVE"),
   (0x87D, "yATTACHED BOTTOM RIGHT KASRA AND DOT ABOVEziTOP RIGHT FATHA AND LEFT RING"),
   (0x87F, "yRIGHT MIDDLE STROKE AND LEFT RINGyATTACHED BOTTOM RIGHT KASRA AND LEFT RING"),
   (0x881, "ziRIGHT HAMZAziLEFT HAMZAhTATWEEL WITH OVERSTRUCK HAMZAzgWAWuTWO DOTS BELOW"),
   (0x886, "hLETTER THIN YEHhBASELINE ROUND DOThRAISED ROUND DOT"),
   (0x889, "hLETTER NOON WITH INVERTED SMALL VoHAH WITH INVERTED SMALL V BELOW"),
   (0x88B, "oTAH WITH DOT BELOWxTHREE DOTS BELOWoKEHEH WITH TWO DOTS VERTICALLY BELOW"),
   (0x88E, "hVERTICAL TAIL"),
   (0x890, "hPOUND MARK ABOVEiIASTRE MARK ABOVE"),
   (0x898, "hSMALL HIGH WORD AL-JUZnLOW WORD ISHMAAMxMAALAwTASHEELhMADDA WAAJIB"),
   (0x89D, "hSUPERSCRIPT ALEF MOKHASSAShDOUBLED MADDAhHALF MADDA OVER MADDA"),
   (0x8A0, "hLETTER BEH WITH SMALL V BELOWxHAMZA ABOVEoJEEM WITH TWO DOTS ABOVE"),
   (0x8A3, "oTAH WITH TWO DOTS ABOVEoFEH WITH DOT BELOW AND THREE DOTS ABOVEoQAF WITH DOT BELOW"),
   (0x8A6, "oLAM WITH DOUBLE BARoMEEM WITH THREE DOTS ABOVE"),
   (0x8A8, "oYEH WITH TWO DOTS BELOW AND HAMZA ABOVEzrDOT ABOVEoREH WITH LOOP"),
   (0x8AB, "oWAW WITH DOT WITHINoROHINGYA YEHoLOW ALEFoDAL WITH THREE DOTS BELOW"),
   (0x8AF, "oSAD WITH THREE DOTS BELOWoGAF WITH INVERTED STROKEoSTRAIGHT WAW"),
   (0x8B2, "oZAIN WITH INVERTED V ABOVEoAIN WITH THREE DOTS BELOWoKAF WITH DOT BELOW"),
   (0x8B5, "oQAF WITH DOT BELOW AND NO DOTS ABOVEoBEH WITH SMALL MEEM ABOVE"),
   (0x8B7, "oPEH WITH SMALL MEEM ABOVEoTEH WITH SMALL TEH ABOVEoREH WITH SMALL NOON ABOVE"),
   (0x8BA, "oYEH WITH TWO DOTS BELOW AND SMALL NOON ABOVEoAFRICAN FEHwQAFwNOONoPEH WITH SMALL V"),
   (0x8BF, "oTEH WITH SMALL VpTEH WITH SMALL VpCHEH WITH SMALL VoKEHEH WITH SMALL V"),
   (0x8C3, "oGHAIN WITH THREE DOTS ABOVEoAFRICAN QAF WITH THREE DOTS ABOVE"),
   (0x8C5, "oJEEM WITH THREE DOTS ABOVEzkBELOWoLAM WITH SMALL ARABIC LETTER TAH ABOVEoGRAF"),
   (0x8C9, "hSMALL FARSI YEHnHIGH FARSI YEHsYEH BARREE WITH TWO DOTS BELOWsWORD SAHsZAH"),
   (0x8CE, "hLARGE ROUND DOT ABOVExBELOWhSUKUN BELOWhLARGE CIRCLE BELOW"),
   (0x8D2, "nROUND DOT INSIDE CIRCLE BELOWhSMALL LOW WAWnHIGH WORD AR-RUBsSADsAINsQAF"),
   (0x8D8, "sNOON WITH KASRAnLOW NOON WITH KASRAnHIGH WORD ATH-THALATHAyS-SAJDAyN-NISFxSAKTAxQIF"),
   (0x8DF, "xWAQFAsFOOTNOTE MARKERsSIGN SAFHAhDISPUTED END OF AYAHhTURNED DAMMA BELOW"),
   (0x8E4, "hCURLY FATHAnDAMMAnKASRAnFATHATANnDAMMATANnKASRATANhTONE ONE DOT ABOVE"),
   (0x8EB, "mTWO DOTS ABOVEmLOOP ABOVEmONE DOT BELOWmTWO DOTS BELOWmLOOP BELOWhOPEN FATHATAN"),
   (0x8F1, "mDAMMATANmKASRATANhSMALL HIGH WAWhFATHA WITH RINGsDOT ABOVEhKASRA WITH DOT BELOW"),
   (0x8F7, "hLEFT ARROWHEAD ABOVEhRIGHT ARROWHEAD ABOVEhLEFT ARROWHEAD BELOW"),
   (0x8FA, "hRIGHT ARROWHEAD BELOWhDOUBLE RIGHT ARROWHEAD ABOVEzk WITH DOT"),
   (0x8FD, "hRIGHT ARROWHEAD ABOVE WITH DOThDAMMA WITH DOThMARK SIDEWAYS NOON GHUNNA"),
   (0x900, "aDEVANAGARI SIGN INVERTED CANDRABINDUqCANDRABINDUqANUSVARAqVISARGAlLETTER SHORT AsA"),
   (0x906, "tAsItIsUtUsVOCALIC RzbLsCANDRA EsSHORT EsEsAIsCANDRA OsSHORT OsOsAUsKAtHAsGAtHAsNGA"),
   (0x91A, "sCAtHAsJAtHAsNYAsTTAuHAsDDAuHAsNNAsTAtHAsDAtHAsNAtNNAsPAtHAsBAtHAsMAsYAsRAtRAsLAtLA"),
   (0x934, "uLAsVAsSHAtSAtAsHAlVOWEL SIGN OExOElSIGN NUKTAqAVAGRAHAlVOWEL SIGN AAwIxIwUxU"),
   (0x943, "wVOCALIC RzgRwCANDRA EwSHORT EwEwAIwCANDRA OwSHORT OwOwAUlSIGN VIRAMA"),
   (0x94E, "lVOWEL SIGN PRISHTHAMATRA EwAWlOMlSTRESS SIGN UDATTAxANUDATTAlGRAVE ACCENT"),
   (0x954, "lACUTE ACCENTlVOWEL SIGN CANDRA LONG EwUExUElLETTER QAsKHHAsGHHAsZAsDDDHAsRHAsFAsYYA"),
   (0x960, "sVOCALIC RRzbLLlVOWEL SIGN VOCALIC LzgLlDANDAmOUBLE DANDAmIGIT ZEROrONErTWOsHREE"),
   (0x96A, "rFOURsIVErSIXsEVENrEIGHTrNINElABBREVIATION SIGNlSIGN HIGH SPACING DOT"),
   (0x972, "lLETTER CANDRA AsOEtOEsAWsUEtUEsMARWARI DDAsZHAsHEAVY YAsGGAsJJAsGLOTTAL STOPsDDDA"),
   (0x97F, "sBBAaBENGALI ANJIiSIGN CANDRABINDUnANUSVARAnVISARGA"),
   (0x985, "iLETTER AqApIqIpUqUpVOCALIC RxL"),
   (0x98F, "pEpAI"),
   (0x993, "pOpAUpKAqHApGAqHApNGApCAqHApJAqHApNYApTTArHApDDArHApNNApTAqHApDAqHApNA"),
   (0x9AA, "pPAqHApBAqHApMApYApRA"),
   (0x9B2, "pLA"),
   (0x9B6, "pSHAqSAqApHA"),
   (0x9BC, "iSIGN NUKTAnAVAGRAHAiVOWEL SIGN AAtIuItUuUtVOCALIC RzdR"),
   (0x9C7, "tEtAI"),
   (0x9CB, "tOtAUiSIGN VIRAMAiLETTER KHANDA TA"),
   (0x9D7, "iAU LENGTH MARK"),
   (0x9DC, "iLETTER RRAqHA"),
   (0x9DF, "pYYApVOCALIC RRxLLiVOWEL SIGN VOCALIC LzdL"),
   (0x9E6, "iDIGIT ZEROoONEoTWOpHREEoFOURpIVEoSIXpEVENoEIGHToNINEiLETTER RA WITH MIDDLE DIAGONAL"),
   (0x9F1, "xLOWER DIAGONALiRUPEE MARKoSIGNiCURRENCY NUMERATOR ONEzcTWOzdHREEzcFOUR"),
   (0x9F8, "zcONE LESS THAN THE DENOMINATORrDENOMINATOR SIXTEENiISSHARiGANDA MARK"),
   (0x9FC, "iLETTER VEDIC ANUSVARAiABBREVIATION SIGNiSANDHI MARK"),
   (0xA01, "aGURMUKHI SIGN ADAK BINDIoBINDIoVISARGA"),
   (0xA05, "jLETTER ArAqIrIqUrU"),
   (0xA0F, "qEEqAI"),
   (0xA13, "qOOqAUqKArHAqGArHAqNGAqCArHAqJArHAqNYAqTTAsHAqDDAsHAqNNAqTArHAqDArHAqNA"),
   (0xA2A, "qPArHAqBArHAqMAqYAqRA"),
   (0xA32, "qLArLA"),
   (0xA35, "qVAqSHA"),
   (0xA38, "rAqHA"),
   (0xA3C, "jSIGN NUKTA"),
   (0xA3E, "jVOWEL SIGN AAuIvIuUvU"),
   (0xA47, "uEEuAI"),
   (0xA4B, "uOOuAUjSIGN VIRAMA"),
   (0xA51, "oUDAAT"),
   (0xA59, "jLETTER KHHAqGHHAqZAqRRA"),
   (0xA5E, "qFA"),
   (0xA66, "jDIGIT ZEROpONEpTWOqHREEpFOURqIVEpSIXqEVENpEIGHTpNINEjTIPPIjADDAKjIRIjURAjEK ONKAR"),
   (0xA75, "jSIGN YAKASHjABBREVIATION SIGN"),
   (0xA81, "cJARATI SIGN CANDRABINDUoANUSVARAoVISARGA"),
   (0xA85, "jLETTER ArAqIrIqUrUqVOCALIC RyLjVOWEL CANDRA E"),
   (0xA8F, "jLETTER EqAIjVOWEL CANDRA O"),
   (0xA93, "jLETTER OqAUqKArHAqGArHAqNGAqCArHAqJArHAqNYAqTTAsHAqDDAsHAqNNAqTArHAqDArHAqNA"),
   (0xAAA, "qPArHAqBArHAqMAqYAqRA"),
   (0xAB2, "qLArLA"),
   (0xAB5, "qVAqSHArSArAqHA"),
   (0xABC, "jSIGN NUKTAoAVAGRAHAjVOWEL SIGN AAuIvIuUvUuVOCALIC RzeRuCANDRA E"),
   (0xAC7, "uEuAIuCANDRA O"),
   (0xACB, "uOuAUjSIGN VIRAMA"),
   (0xAD0, "jOM"),
   (0xAE0, "jLETTER VOCALIC RRyLLjVOWEL SIGN VOCALIC LzeL"),
   (0xAE6, "jDIGIT ZEROpONEpTWOqHREEpFOURqIVEpSIXqEVENpEIGHTpNINEjABBREVIATION SIGNjRUPEE SIGN"),
   (0xAF9, "jLETTER ZHAjSIGN SUKUNpHADDAoMADDAHoTHREE-DOT NUKTA ABOVEoCIRCLE NUKTA ABOVE"),
   (0xAFF, "oTWO-CIRCLE NUKTA ABOVE"),
   (0xB01, "aORIYA SIGN CANDRABINDUlANUSVARAlVISARGA"),
   (0xB05, "gLETTER AoAnIoInUoUnVOCALIC RvL"),
   (0xB0F, "nEnAI"),
   (0xB13, "nOnAUnKAoHAnGAoHAnNGAnCAoHAnJAoHAnNYAnTTApHAnDDApHAnNNAnTAoHAnDAoHAnNA"),
   (0xB2A, "nPAoHAnBAoHAnMAnYAnRA"),
   (0xB32, "nLAoLA"),
   (0xB35, "nVAnSHAoSAoAnHA"),
   (0xB3C, "gSIGN NUKTAlAVAGRAHAgVOWEL SIGN AArIsIrUsUrVOCALIC RzbR"),
   (0xB47, "rErAI"),
   (0xB4B, "rOrAUgSIGN VIRAMA"),
   (0xB55, "lOVERLINEgAI LENGTH MARKhU LENGTH MARK"),
   (0xB5C, "gLETTER RRAoHA"),
   (0xB5F, "nYYAnVOCALIC RRvLLgVOWEL SIGN VOCALIC LzbL"),
   (0xB66, "gDIGIT ZEROmONEmTWOnHREEmFOURnIVEmSIXnEVENmEIGHTmNINEgISSHARgLETTER WA"),
   (0xB72, "gFRACTION ONE QUARTERtHALFpTHREE QUARTERSpONE SIXTEENTHtEIGHTHpTHREE SIXTEENTHS"),
   (0xB82, "aTAMIL SIGN ANUSVARAlVISARGA"),
   (0xB85, "gLETTER AoAnIoInUoU"),
   (0xB8E, "nEoEnAI"),
   (0xB92, "nOoOnAUnKA"),
   (0xB99, "nNGAnCA"),
   (0xB9C, "nJA"),
   (0xB9E, "nNYAnTTA"),
   (0xBA3, "nNNAnTA"),
   (0xBA8, "nNAoNNAnPA"),
   (0xBAE, "nMAnYAnRAoRAnLAoLApLAnVAnSHAoSAoAnHA"),
   (0xBBE, "gVOWEL SIGN AArIsIrUsU"),
   (0xBC6, "rEsErAI"),
   (0xBCA, "rOsOrAUgSIGN VIRAMA"),
   (0xBD0, "gOM"),
   (0xBD7, "gAU LENGTH MARK"),
   (0xBE6, "gDIGIT ZEROmONEmTWOnHREEmFOURnIVEmSIXnEVENmEIGHTmNINEgNUMBER TENnONE HUNDRED"),
   (0xBF2, "rTHOUSANDgDAY SIGNgMONTH SIGNgYEAR SIGNgDEBIT SIGNgCREDIT SIGNgAS ABOVE SIGN"),
   (0xBF9, "gRUPEE SIGNgNUMBER SIGN"),
   (0xC00, "bELUGU SIGN COMBINING CANDRABINDU ABOVEnANDRABINDUmANUSVARAmVISARGA"),
   (0xC04, "mCOMBINING ANUSVARA ABOVEhLETTER ApAoIpIoUpUoVOCALIC RwL"),
   (0xC0E, "oEpEoAI"),
   (0xC12, "oOpOoAUoKApHAoGApHAoNGAoCApHAoJApHAoNYAoTTAqHAoDDAqHAoNNAoTApHAoDApHAoNA"),
   (0xC2A, "oPApHAoBApHAoMAoYAoRApRAoLApLAqLAoVAoSHApSApAoHA"),
   (0xC3C, "hSIGN NUKTAmAVAGRAHAhVOWEL SIGN AAsItIsUtUsVOCALIC RzcR"),
   (0xC46, "sEtEsAI"),
   (0xC4A, "sOtOsAUhSIGN VIRAMA"),
   (0xC55, "hLENGTH MARKhAI LENGTH MARK"),
   (0xC58, "hLETTER TSAoDZAoRRRA"),
   (0xC5D, "oNAKAARA POLLU"),
   (0xC60, "oVOCALIC RRwLLhVOWEL SIGN VOCALIC LzcL"),
   (0xC66, "hDIGIT ZEROnONEnTWOoHREEnFOURoIVEnSIXoEVENnEIGHTnNINE"),
   (0xC77, "hSIGN SIDDHAMhFRACTION DIGIT ZERO FOR ODD POWERS OF FOURwONE FOR ODD POWERS OF FOUR"),
   (0xC7A, "wTWO FOR ODD POWERS OF FOURxHREE FOR ODD POWERS OF FOURwONE FOR EVEN POWERS OF FOUR"),
   (0xC7D, "wTWO FOR EVEN POWERS OF FOURxHREE FOR EVEN POWERS OF FOURhSIGN TUUMU"),
   (0xC80, "aKANNADA SIGN SPACING CANDRABINDUnCANDRABINDUnANUSVARAnVISARGAnSIDDHAMiLETTER AqApI"),
   (0xC88, "qIpUqUpVOCALIC RxL"),
   (0xC8E, "pEqEpAI"),
   (0xC92, "pOqOpAUpKAqHApGAqHApNGApCAqHApJAqHApNYApTTArHApDDArHApNNApTAqHApDAqHApNA"),
   (0xCAA, "pPAqHApBAqHApMApYApRAqRApLAqLA"),
   (0xCB5, "pVApSHAqSAqApHA"),
   (0xCBC, "iSIGN NUKTAnAVAGRAHAiVOWEL SIGN AAtIuItUuUtVOCALIC RzdR"),
   (0xCC6, "tEuEtAI"),
   (0xCCA, "tOuOtAUiSIGN VIRAMA"),
   (0xCD5, "iLENGTH MARKiAI LENGTH MARK"),
   (0xCDD, "iLETTER NAKAARA POLLUpFA"),
   (0xCE0, "pVOCALIC RRxLLiVOWEL SIGN VOCALIC LzdL"),
   (0xCE6, "iDIGIT ZEROoONEoTWOpHREEoFOURpIVEoSIXpEVENoEIGHToNINE"),
   (0xCF1, "iSIGN JIHVAMULIYAnUPADHMANIYA"),
   (0xD00, "aMALAYALAM SIGN COMBINING ANUSVARA ABOVEqANDRABINDUpANUSVARApVISARGA"),
   (0xD04, "kLETTER VEDIC ANUSVARArAsArIsIrUsUrVOCALIC RzL"),
   (0xD0E, "rEsErAI"),
   (0xD12, "rOsOrAUrKAsHArGAsHArNGArCAsHArJAsHArNYArTTAtHArDDAtHArNNArTAsHArDAsHArNAsNNArPAsHA"),
   (0xD2C, "rBAsHArMArYArRAsRArLAsLAtLArVArSHAsSAsArHArTTTAkSIGN VERTICAL BAR VIRAMA"),
   (0xD3C, "pCIRCULAR VIRAMApAVAGRAHAkVOWEL SIGN AAvIwIvUwUvVOCALIC RzfR"),
   (0xD46, "vEwEvAI"),
   (0xD4A, "vOwOvAUkSIGN VIRAMAkLETTER DOT REPHkSIGN PARA"),
   (0xD54, "kLETTER CHILLU MyYyLLLkAU LENGTH MARKkFRACTION ONE ONE-HUNDRED-AND-SIXTIETHxFORTIETH"),
   (0xD5A, "tTHREE EIGHTIETHStONE TWENTIETHyENTHtTHREE TWENTIETHStONE FIFTHkLETTER ARCHAIC II"),
   (0xD60, "rVOCALIC RRzLLkVOWEL SIGN VOCALIC LzfL"),
   (0xD66, "kDIGIT ZEROqONEqTWOrHREEqFOURrIVEqSIXrEVENqEIGHTqNINEkNUMBER TENrONE HUNDRED"),
   (0xD72, "vTHOUSANDkFRACTION ONE QUARTERxHALFtTHREE QUARTERStONE SIXTEENTHxEIGHTH"),
   (0xD78, "tTHREE SIXTEENTHSkDATE MARKkLETTER CHILLU NNyNyRRyLzLyK"),
   (0xD81, "aSINHALA SIGN CANDRABINDUnANUSVARAYAnVISARGAYA"),
   (0xD85, "iLETTER AYANNAqAYANNAqEYANNArEYANNApIYANNAqIYANNApUYANNAqUYANNApIRUYANNAsUYANNA"),
   (0xD8F, "qLUYANNAsUYANNApEYANNAqEYANNApAIYANNApOYANNAqOYANNApAUYANNA"),
   (0xD9A, "qLPAPRAANA KAYANNApMAHAAPRAANA KAYANNApALPAPRAANA GAYANNApMAHAAPRAANA GAYANNA"),
   (0xD9E, "pKANTAJA NAASIKYAYApSANYAKA GAYANNApALPAPRAANA CAYANNApMAHAAPRAANA CAYANNA"),
   (0xDA2, "pALPAPRAANA JAYANNApMAHAAPRAANA JAYANNApTAALUJA NAASIKYAYAxSANYOOGA NAAKSIKYAYA"),
   (0xDA6, "pSANYAKA JAYANNApALPAPRAANA TTAYANNApMAHAAPRAANA TTAYANNApALPAPRAANA DDAYANNA"),
   (0xDAA, "pMAHAAPRAANA DDAYANNAqUURDHAJA NAYANNApSANYAKA DDAYANNApALPAPRAANA TAYANNA"),
   (0xDAE, "pMAHAAPRAANA TAYANNApALPAPRAANA DAYANNApMAHAAPRAANA DAYANNApDANTAJA NAYANNA"),
   (0xDB3, "pSANYAKA DAYANNApALPAPRAANA PAYANNApMAHAAPRAANA PAYANNApALPAPRAANA BAYANNA"),
   (0xDB7, "pMAHAAPRAANA BAYANNArYANNApAMBA BAYANNApYAYANNApRAYANNA"),
   (0xDBD, "pDANTAJA LAYANNA"),
   (0xDC0, "pVAYANNApTAALUJA SAYANNApMUURDHAJA SAYANNApDANTAJA SAYANNApHAYANNApMUURDHAJA LAYANNA"),
   (0xDC6, "pFAYANNA"),
   (0xDCA, "iSIGN AL-LAKUNA"),
   (0xDCF, "iVOWEL SIGN AELA-PILLAtKETTI AEDA-PILLAtDIGA AEDA-PILLAtKETTI IS-PILLAtDIGA IS-PILLA"),
   (0xDD4, "tKETTI PAA-PILLA"),
   (0xDD6, "tDIGA PAA-PILLA"),
   (0xDD8, "tGAETTA-PILLAtKOMBUVAtDIGA KOMBUVAtKOMBU DEKAyVA HAA AELA-PILLAzgDIGA AELA-PILLA"),
   (0xDDE, "zgGAYANUKITTAtGAYANUKITTA"),
   (0xDE6, "iLITH DIGIT ZEROtONEtTWOuHREEtFOURuIVEtSIXuEVENtEIGHTtNINE"),
   (0xDF2, "iVOWEL SIGN DIGA GAETTA-PILLAzbYANUKITTAiPUNCTUATION KUNDDALIYA"),
   (0xE01, "aTHAI CHARACTER KO KAIqHO KHAIvUATvWAIvONtRAKHANGpNGO NGUpCHO CHANvINGvANGpSO SO"),
   (0xE0C, "pCHO CHOEpYO YINGpDO CHADApTO PATAKqHO THANtNANGMONTHOtPHUTHAOpNO NENpDO DEKpTO TAO"),
   (0xE16, "qHO THUNGvAHANvONGpNO NUpBO BAIMAIpPO PLAqHO PHUNGpFO FApPHO PHANpFO FANpPHO SAMPHAO"),
   (0xE21, "pMO MApYO YAKpRO RUAqUpLO LINGqUpWO WAENpSO SALAsRUSIsSUApHO HIPpLO CHULApO ANG"),
   (0xE2E, "pHO NOKHUKpPAIYANNOIpSARA ApMAI HAN-AKATpSARA AAvMuIvIuUEwEuUvUpPHINTHU"),
   (0xE3F, "gURRENCY SYMBOL BAHTgHARACTER SARA EuAEuOuAI MAIMUANzcALAIpLAKKHANGYAOpMAIYAMOK"),
   (0xE47, "sTAIKHUs EKtTHOuRItCHATTAWApTHANTHAKHATpNIKHAHITpYAMAKKANpFONGMANfDIGIT ZEROlONElTWO"),
   (0xE53, "mHREElFOURmIVElSIXmEVENlEIGHTlNINEfCHARACTER ANGKHANKHUpKHOMUT"),
   (0xE81, "aLAO LETTER KOmHO SUNG"),
   (0xE84, "pTAM"),
   (0xE86, "lPALI GHAlNGOlCOlPALI CHAlSO TAM"),
   (0xE8C, "lPALI JHAlNYOlPALI NYAqTTAsHAqDDAsHAqNNAlDOlTOmHO SUNGpTAMlPALI DHAlNOlBOlPOmHO SUNG"),
   (0xE9D, "lFO TAMlPHO TAMlFO SUNGlPALI BHAlMOlYOlLO LING"),
   (0xEA5, "pOOT"),
   (0xEA7, "lWOlSANSKRIT SHAvSAmO SUNGlHO SUNGlPALI LLAlOlHO TAMeELLIPSISeVOWEL SIGN ApMAI KAN"),
   (0xEB2, "pAAqMpIqIpYqYpUqUeSIGN PALI VIRAMAeVOWEL SIGN MAI KONeSEMIVOWEL SIGN LOtNYO"),
   (0xEC0, "eVOWEL SIGN EqIpOpAYqI"),
   (0xEC6, "eKO LA"),
   (0xEC8, "eTONE MAI EKnTHOoInCATAWAeCANCELLATION MARKeNIGGAHITA"),
   (0xED0, "eDIGIT ZEROkONEkTWOlHREEkFOURlIVEkSIXlEVENkEIGHTkNINE"),
   (0xEDC, "eHO NOhMOeLETTER KHMU GOqNYO"),
   (0xF00, "aTIBETAN SYLLABLE OMiMARK GTER YIG MGO TRUNCATED Azb-UM RNAM BCAD MAzfGTER TSHEG MA"),
   (0xF04, "nINITIAL YIG MGO MDUN MAnCLOSING YIG MGO SGAB MAoARET YIG MGO PHUR SHAD MA"),
   (0xF07, "nYIG MGO TSHEG SHAD MAnSBRUL SHADnBSKUR YIG MGOoKA- SHOG YIG MGOnINTERSYLLABIC TSHEG"),
   (0xF0C, "nDELIMITER TSHEG BSTARnSHADnNYIS SHADnTSHEG SHADnNYIS TSHEG SHAD"),
   (0xF11, "nRIN CHEN SPUNGS SHADoGYA GRAM SHADnCARET -DZUD RTAGS ME LONG CANnGTER TSHEG"),
   (0xF15, "iLOGOTYPE SIGN CHAD RTAGSwLHAG RTAGSiASTROLOGICAL SIGN SGRA GCAN -CHAR RTAGS"),
   (0xF18, "zb-KHYUD PAzbSDONG TSHUGSiSIGN RDEL DKAR GCIGyNYISySUMsNAG GCIGxNYISsDKAR RDEL NAG"),
   (0xF20, "iDIGIT ZEROoONEoTWOpHREEoFOURpIVEoSIXpEVENoEIGHToNINEoHALF ONEtTWOuHREEtFOURuIVEtSIX"),
   (0xF30, "uEVENtEIGHTtNINEtZEROiMARK BSDUS RTAGSnNGAS BZUNG NYI ZLA"),
   (0xF36, "nCARET -DZUD RTAGS BZHI MIG CANnNGAS BZUNG SGOR RTAGSnCHE MGOnTSA -PHRU"),
   (0xF3A, "nGUG RTAGS GYONzASnANG KHANG GYONzASiSIGN YAR TSHESnMAR TSHESiLETTER KAqHApGAqHApNGA"),
   (0xF45, "pCAqHApJA"),
   (0xF49, "pNYApTTArHApDDArHApNNApTAqHApDAqHApNApPAqHApBAqHApMApTSArHApDZArHApWApZHAqAp-ApYApRA"),
   (0xF63, "pLApSHAqSAqApHApApKSSApFIXED-FORM RApKKApRRA"),
   (0xF71, "iVOWEL SIGN AAtIuItUuUtVOCALIC RzdRzcLzdLtEuEtOuOiSIGN RJES SU NGA ROoNAM BCAD"),
   (0xF80, "iVOWEL SIGN REVERSED IzeIiSIGN NYI ZLA NAA DAnSNA LDANiMARK HALANTAnPALUTA"),
   (0xF86, "iSIGN LCI RTAGSnYANG RTAGSnLCE TSA CANnMCHU CANnGRU CAN RGYINGSrMED RGYINGS"),
   (0xF8C, "nINVERTED MCHU CANjUBJOINED SIGN LCE TSA CANxMCHU CANxINVERTED MCHU CANsLETTER KA"),
   (0xF91, "zbHAzGAzbHAzNGAzCAzbHAzJA"),
   (0xF99, "zNYAzTTAzcHAzDDAzcHAzNNAzTAzbHAzDAzbHAzNAzPAzbHAzBAzbHAzMAzTSAzcHAzDZAzcHAzWAzZHAzbA"),
   (0xFB0, "z-AzYAzRAzLAzSHAzbSAzbAzHAzAzKSSAzFIXED-FORM WAzlYAzlRA"),
   (0xFBE, "iKU RU KHAr BZHI MIG CANiCANTILLATION SIGN HEAVY BEATzbLIGHT BEATzbCANG TE-U"),
   (0xFC3, "zbSBUB -CHALiSYMBOL DRIL BUpRDO RJEpPADMA GDANpRDO RJE RGYA GRAMpPHUR PApNOR BU"),
   (0xFCA, "v NYIS -KHYILwGSUM -KHYILwBZHI -KHYIL"),
   (0xFCE, "jIGN RDEL NAG RDEL DKARwGSUMiMARK BSKA- SHOG GI MGO RGYANnMNYAM YIG GI MGO RGYAN"),
   (0xFD2, "nNYIS TSHEGnINITIAL BRDA RNYING YIG MGO MDUN MAnCLOSING BRDA RNYING YIG MGO SGAB MA"),
   (0xFD5, "aRIGHT-FACING SVASTI SIGNaLEFT-FACING SVASTI SIGNaRIGHT-FACING SVASTI SIGN WITH DOTS"),
   (0xFD8, "aLEFT-FACING SVASTI SIGN WITH DOTSaTIBETAN MARK LEADING MCHAN RTAGS"),
   (0xFDA, "nTRAILING MCHAN RTAGS")]

end HtGate.Text.CharacterName
