/-!
# Names of characters from U+2000 to U+2FFF

The names in the order of code points, as strings of names that follow one another from a code point on.
The small letters before a name say how many characters it has in common with the name before it, which
are left out.
-/

namespace HtGate.Text.CharacterName

/-- The names from U+2000 to U+2FFF. -/
def from2000 : List (Nat × String) :=
  [(0x2000, "aEN QUADbM QUADbN SPACEbM SPACEaTHREE-PER-EM SPACEaFOUR-PER-EM SPACE"),
   (0x2006, "aSIX-PER-EM SPACEaFIGURE SPACEaPUNCTUATION SPACEaTHIN SPACEaHAIR SPACE"),
   (0x200B, "aZERO WIDTH SPACElNON-JOINERlJOINERaLEFT-TO-RIGHT MARKaRIGHT-TO-LEFT MARKaHYPHEN"),
   (0x2011, "aNON-BREAKING HYPHENaFIGURE DASHaEN DASHbM DASHaHORIZONTAL BARaDOUBLE VERTICAL LINE"),
   (0x2017, "hLOW LINEaLEFT SINGLE QUOTATION MARKaRIGHT SINGLE QUOTATION MARK"),
   (0x201A, "aSINGLE LOW-9 QUOTATION MARKhHIGH-REVERSED-9 QUOTATION MARK"),
   (0x201C, "aLEFT DOUBLE QUOTATION MARKaRIGHT DOUBLE QUOTATION MARKaDOUBLE LOW-9 QUOTATION MARK"),
   (0x201F, "hHIGH-REVERSED-9 QUOTATION MARKbAGGERbOUBLE DAGGERaBULLETaTRIANGULAR BULLET"),
   (0x2024, "aONE DOT LEADERaTWO DOT LEADERaHORIZONTAL ELLIPSISbYPHENATION POINTaLINE SEPARATOR"),
   (0x2029, "aPARAGRAPH SEPARATORaLEFT-TO-RIGHT EMBEDDINGaRIGHT-TO-LEFT EMBEDDING"),
   (0x202C, "aPOP DIRECTIONAL FORMATTINGaLEFT-TO-RIGHT OVERRIDEaRIGHT-TO-LEFT OVERRIDE"),
   (0x202F, "aNARROW NO-BREAK SPACEaPER MILLE SIGNeTEN THOUSAND SIGNbRIMEaDOUBLE PRIME"),
   (0x2034, "aTRIPLE PRIMEaREVERSED PRIMEjDOUBLE PRIMEjTRIPLE PRIMEaCARET"),
   (0x2039, "aSINGLE LEFT-POINTING ANGLE QUOTATION MARKhRIGHT-POINTING ANGLE QUOTATION MARK"),
   (0x203B, "aREFERENCE MARKaDOUBLE EXCLAMATION MARKaINTERROBANGaOVERLINEaUNDERTIEaCHARACTER TIE"),
   (0x2041, "bARET INSERTION POINTaASTERISMaHYPHEN BULLETaFRACTION SLASH"),
   (0x2045, "aLEFT SQUARE BRACKET WITH QUILLaRIGHT SQUARE BRACKET WITH QUILLaDOUBLE QUESTION MARK"),
   (0x2048, "aQUESTION EXCLAMATION MARKaEXCLAMATION QUESTION MARKaTIRONIAN SIGN ET"),
   (0x204B, "aREVERSED PILCROW SIGNaBLACK LEFTWARDS BULLETgRIGHTWARDS BULLETaLOW ASTERISK"),
   (0x204F, "aREVERSED SEMICOLONaCLOSE UPaTWO ASTERISKS ALIGNED VERTICALLYaCOMMERCIAL MINUS SIGN"),
   (0x2053, "aSWUNG DASHaINVERTED UNDERTIEaFLOWER PUNCTUATION MARKaTHREE DOT PUNCTUATION"),
   (0x2057, "aQUADRUPLE PRIMEaFOUR DOT PUNCTUATIONbIVE DOT PUNCTUATIONaTWO DOT PUNCTUATION"),
   (0x205B, "aFOUR DOT MARKaDOTTED CROSSaTRICOLONaVERTICAL FOUR DOTSaMEDIUM MATHEMATICAL SPACE"),
   (0x2060, "aWORD JOINERaFUNCTION APPLICATIONaINVISIBLE TIMESkSEPARATORkPLUS"),
   (0x2066, "aLEFT-TO-RIGHT ISOLATEaRIGHT-TO-LEFT ISOLATEaFIRST STRONG ISOLATE"),
   (0x2069, "aPOP DIRECTIONAL ISOLATEaINHIBIT SYMMETRIC SWAPPINGaACTIVATE SYMMETRIC SWAPPING"),
   (0x206C, "aINHIBIT ARABIC FORM SHAPINGaACTIVATE ARABIC FORM SHAPINGaNATIONAL DIGIT SHAPES"),
   (0x206F, "bOMINAL DIGIT SHAPESaSUPERSCRIPT ZEROmLATIN SMALL LETTER I"),
   (0x2074, "mFOURnIVEmSIXnEVENmEIGHTmNINEmPLUS SIGNmMINUSmEQUALS SIGNmLEFT PARENTHESIS"),
   (0x207E, "mRIGHT PARENTHESISmLATIN SMALL LETTER NcBSCRIPT ZEROkONEkTWOlHREEkFOURlIVEkSIXlEVEN"),
   (0x2088, "kEIGHTkNINEkPLUS SIGNkMINUSkEQUALS SIGNkLEFT PARENTHESISkRIGHT PARENTHESIS"),
   (0x2090, "aLATIN SUBSCRIPT SMALL LETTER AzeEzeOzeXzeSCHWAzeHzeKzeLzeMzeNzePzeSzeT"),
   (0x20A0, "aEURO-CURRENCY SIGNaCOLON SIGNbRUZEIRO SIGNaFRENCH FRANC SIGNaLIRA SIGNaMILL SIGN"),
   (0x20A6, "aNAIRA SIGNaPESETA SIGNaRUPEE SIGNaWON SIGNaNEW SHEQEL SIGNaDONG SIGNaEURO SIGN"),
   (0x20AD, "aKIP SIGNaTUGRIK SIGNaDRACHMA SIGNaGERMAN PENNY SIGNaPESO SIGNaGUARANI SIGN"),
   (0x20B3, "aAUSTRAL SIGNaHRYVNIA SIGNaCEDI SIGNaLIVRE TOURNOIS SIGNaSPESMILO SIGNaTENGE SIGN"),
   (0x20B9, "aINDIAN RUPEE SIGNaTURKISH LIRA SIGNaNORDIC MARK SIGNaMANAT SIGNaRUBLE SIGN"),
   (0x20BE, "aLARI SIGNaBITCOIN SIGNaSOM SIGN"),
   (0x20D0, "aCOMBINING LEFT HARPOON ABOVEkRIGHT HARPOON ABOVEkLONG VERTICAL LINE OVERLAY"),
   (0x20D3, "kSHORT VERTICAL LINE OVERLAYkANTICLOCKWISE ARROW ABOVEkCLOCKWISE ARROW ABOVE"),
   (0x20D6, "kLEFT ARROW ABOVEkRIGHT ARROW ABOVEmNG OVERLAYkCLOCKWISE RING OVERLAY"),
   (0x20DA, "kANTICLOCKWISE RING OVERLAYkTHREE DOTS ABOVEkFOUR DOTS ABOVEkENCLOSING CIRCLEuSQUARE"),
   (0x20DF, "uDIAMONDuCIRCLE BACKSLASHkLEFT RIGHT ARROW ABOVEkENCLOSING SCREENuKEYCAP"),
   (0x20E4, "uUPWARD POINTING TRIANGLEkREVERSE SOLIDUS OVERLAYkDOUBLE VERTICAL STROKE OVERLAY"),
   (0x20E7, "kANNUITY SYMBOLkTRIPLE UNDERDOTkWIDE BRIDGE ABOVEkLEFTWARDS ARROW OVERLAY"),
   (0x20EB, "lONG DOUBLE SOLIDUS OVERLAYkRIGHTWARDS HARPOON WITH BARB DOWNWARDS"),
   (0x20ED, "kLEFTWARDS HARPOON WITH BARB DOWNWARDSo ARROW BELOWkRIGHT ARROW BELOWkASTERISK ABOVE"),
   (0x2100, "aACCOUNT OFbDDRESSED TO THE SUBJECTaDOUBLE-STRUCK CAPITAL CbEGREE CELSIUS"),
   (0x2104, "aCENTRE LINE SYMBOLbARE OFcDA UNAaEULER CONSTANTaSCRUPLEaDEGREE FAHRENHEIT"),
   (0x210A, "aSCRIPT SMALL GhCAPITAL HaBLACK-LETTER CAPITAL HaDOUBLE-STRUCK CAPITAL H"),
   (0x210E, "aPLANCK CONSTANTp OVER TWO PIaSCRIPT CAPITAL IaBLACK-LETTER CAPITAL I"),
   (0x2112, "aSCRIPT CAPITAL LhSMALL LaL B BAR SYMBOLaDOUBLE-STRUCK CAPITAL NaNUMERO SIGN"),
   (0x2117, "aSOUND RECORDING COPYRIGHTbCRIPT CAPITAL PaDOUBLE-STRUCK CAPITAL PwQ"),
   (0x211B, "aSCRIPT CAPITAL RaBLACK-LETTER CAPITAL RaDOUBLE-STRUCK CAPITAL RaPRESCRIPTION TAKE"),
   (0x211F, "aRESPONSEaSERVICE MARKaTELEPHONE SIGNbRADE MARK SIGNaVERSICLE"),
   (0x2124, "aDOUBLE-STRUCK CAPITAL ZaOUNCE SIGNbHM SIGNaINVERTED OHM SIGNaBLACK-LETTER CAPITAL Z"),
   (0x2129, "aTURNED GREEK SMALL LETTER IOTAaKELVIN SIGNaANGSTROM SIGNaSCRIPT CAPITAL B"),
   (0x212D, "aBLACK-LETTER CAPITAL CaESTIMATED SYMBOLaSCRIPT SMALL EhCAPITAL EpFaTURNED CAPITAL F"),
   (0x2133, "aSCRIPT CAPITAL MhSMALL OaALEF SYMBOLaBET SYMBOLaGIMEL SYMBOLaDALET SYMBOL"),
   (0x2139, "aINFORMATION SOURCEaROTATED CAPITAL QaFACSIMILE SIGNaDOUBLE-STRUCK SMALL PIuGAMMA"),
   (0x213E, "oCAPITAL GAMMAwPIoN-ARY SUMMATIONaTURNED SANS-SERIF CAPITAL GzbL"),
   (0x2143, "aREVERSED SANS-SERIF CAPITAL LaTURNED SANS-SERIF CAPITAL Y"),
   (0x2145, "aDOUBLE-STRUCK ITALIC CAPITAL DvSMALL DzcEzcIzcJaPROPERTY LINEaTURNED AMPERSAND"),
   (0x214C, "aPER SIGNaAKTIESELSKABaTURNED SMALL FaSYMBOL FOR SAMARITAN SOURCE"),
   (0x2150, "aVULGAR FRACTION ONE SEVENTHuNINTHuTENTHvHIRDqTWO THIRDSqONE FIFTHqTWO FIFTHS"),
   (0x2157, "rHREE FIFTHSqFOUR FIFTHSqONE SIXTHqFIVE SIXTHSqONE EIGHTHqTHREE EIGHTHSqFIVE EIGHTHS"),
   (0x215E, "qSEVEN EIGHTHSaFRACTION NUMERATOR ONEaROMAN NUMERAL ONEoTWOpHREEoFOURpIVEoSIXpEVEN"),
   (0x2167, "oEIGHToNINEoTENoELEVENoTWELVEoFIFTYoONE HUNDREDoFIVE HUNDREDoONE THOUSAND"),
   (0x2170, "aSMALL ROMAN NUMERAL ONEuTWOvHREEuFOURvIVEuSIXvEVENuEIGHTuNINEuTENuELEVENuTWELVE"),
   (0x217C, "uFIFTYuONE HUNDREDuFIVE HUNDREDuONE THOUSANDaROMAN NUMERAL ONE THOUSAND C D"),
   (0x2181, "oFIVE THOUSANDoTEN THOUSANDoREVERSED ONE HUNDREDaLATIN SMALL LETTER REVERSED C"),
   (0x2185, "aROMAN NUMERAL SIX LATE FORMoFIFTY EARLY FORMuTHOUSANDoONE HUNDRED THOUSAND"),
   (0x2189, "aVULGAR FRACTION ZERO THIRDSaTURNED DIGIT TWOoHREE"),
   (0x2190, "aLEFTWARDS ARROWaUPWARDS ARROWaRIGHTWARDS ARROWaDOWNWARDS ARROWaLEFT RIGHT ARROW"),
   (0x2195, "aUP DOWN ARROWaNORTH WEST ARROWgEAST ARROWaSOUTH EAST ARROWgWEST ARROW"),
   (0x219A, "aLEFTWARDS ARROW WITH STROKEaRIGHTWARDS ARROW WITH STROKEaLEFTWARDS WAVE ARROW"),
   (0x219D, "aRIGHTWARDS WAVE ARROWaLEFTWARDS TWO HEADED ARROWaUPWARDS TWO HEADED ARROW"),
   (0x21A0, "aRIGHTWARDS TWO HEADED ARROWaDOWNWARDS TWO HEADED ARROWaLEFTWARDS ARROW WITH TAIL"),
   (0x21A3, "aRIGHTWARDS ARROW WITH TAILaLEFTWARDS ARROW FROM BARaUPWARDS ARROW FROM BAR"),
   (0x21A6, "aRIGHTWARDS ARROW FROM BARaDOWNWARDS ARROW FROM BARaUP DOWN ARROW WITH BASE"),
   (0x21A9, "aLEFTWARDS ARROW WITH HOOKaRIGHTWARDS ARROW WITH HOOKaLEFTWARDS ARROW WITH LOOP"),
   (0x21AC, "aRIGHTWARDS ARROW WITH LOOPaLEFT RIGHT WAVE ARROWlARROW WITH STROKE"),
   (0x21AF, "aDOWNWARDS ZIGZAG ARROWaUPWARDS ARROW WITH TIP LEFTWARDSxRIGHTWARDS"),
   (0x21B2, "aDOWNWARDS ARROW WITH TIP LEFTWARDSzRIGHTWARDS"),
   (0x21B4, "aRIGHTWARDS ARROW WITH CORNER DOWNWARDSaDOWNWARDS ARROW WITH CORNER LEFTWARDS"),
   (0x21B6, "aANTICLOCKWISE TOP SEMICIRCLE ARROWaCLOCKWISE TOP SEMICIRCLE ARROW"),
   (0x21B8, "aNORTH WEST ARROW TO LONG BARaLEFTWARDS ARROW TO BAR OVER RIGHTWARDS ARROW TO BAR"),
   (0x21BA, "aANTICLOCKWISE OPEN CIRCLE ARROWaCLOCKWISE OPEN CIRCLE ARROW"),
   (0x21BC, "aLEFTWARDS HARPOON WITH BARB UPWARDSzdDOWNWARDSaUPWARDS HARPOON WITH BARB RIGHTWARDS"),
   (0x21BF, "zbLEFTWARDSaRIGHTWARDS HARPOON WITH BARB UPWARDSzeDOWNWARDS"),
   (0x21C2, "aDOWNWARDS HARPOON WITH BARB RIGHTWARDSzdLEFTWARDS"),
   (0x21C4, "aRIGHTWARDS ARROW OVER LEFTWARDS ARROWaUPWARDS ARROW LEFTWARDS OF DOWNWARDS ARROW"),
   (0x21C6, "aLEFTWARDS ARROW OVER RIGHTWARDS ARROWkPAIRED ARROWSaUPWARDS PAIRED ARROWS"),
   (0x21C9, "aRIGHTWARDS PAIRED ARROWSaDOWNWARDS PAIRED ARROWS"),
   (0x21CB, "aLEFTWARDS HARPOON OVER RIGHTWARDS HARPOONaRIGHTWARDS HARPOON OVER LEFTWARDS HARPOON"),
   (0x21CD, "aLEFTWARDS DOUBLE ARROW WITH STROKEe RIGHT DOUBLE ARROW WITH STROKE"),
   (0x21CF, "aRIGHTWARDS DOUBLE ARROW WITH STROKEaLEFTWARDS DOUBLE ARROWaUPWARDS DOUBLE ARROW"),
   (0x21D2, "aRIGHTWARDS DOUBLE ARROWaDOWNWARDS DOUBLE ARROWaLEFT RIGHT DOUBLE ARROW"),
   (0x21D5, "aUP DOWN DOUBLE ARROWaNORTH WEST DOUBLE ARROWgEAST DOUBLE ARROW"),
   (0x21D8, "aSOUTH EAST DOUBLE ARROWgWEST DOUBLE ARROWaLEFTWARDS TRIPLE ARROW"),
   (0x21DB, "aRIGHTWARDS TRIPLE ARROWaLEFTWARDS SQUIGGLE ARROWaRIGHTWARDS SQUIGGLE ARROW"),
   (0x21DE, "aUPWARDS ARROW WITH DOUBLE STROKEaDOWNWARDS ARROW WITH DOUBLE STROKE"),
   (0x21E0, "aLEFTWARDS DASHED ARROWaUPWARDS DASHED ARROWaRIGHTWARDS DASHED ARROW"),
   (0x21E3, "aDOWNWARDS DASHED ARROWaLEFTWARDS ARROW TO BARaRIGHTWARDS ARROW TO BAR"),
   (0x21E6, "aLEFTWARDS WHITE ARROWaUPWARDS WHITE ARROWaRIGHTWARDS WHITE ARROW"),
   (0x21E9, "aDOWNWARDS WHITE ARROWaUPWARDS WHITE ARROW FROM BARuON PEDESTAL"),
   (0x21EC, "zg WITH HORIZONTAL BARzmVERTICAL BARoDOUBLE ARROWzb ON PEDESTAL"),
   (0x21F0, "aRIGHTWARDS WHITE ARROW FROM WALLaNORTH WEST ARROW TO CORNER"),
   (0x21F2, "aSOUTH EAST ARROW TO CORNERaUP DOWN WHITE ARROWaRIGHT ARROW WITH SMALL CIRCLE"),
   (0x21F5, "aDOWNWARDS ARROW LEFTWARDS OF UPWARDS ARROWaTHREE RIGHTWARDS ARROWS"),
   (0x21F7, "aLEFTWARDS ARROW WITH VERTICAL STROKEaRIGHTWARDS ARROW WITH VERTICAL STROKE"),
   (0x21F9, "aLEFT RIGHT ARROW WITH VERTICAL STROKEeWARDS ARROW WITH DOUBLE VERTICAL STROKE"),
   (0x21FB, "aRIGHTWARDS ARROW WITH DOUBLE VERTICAL STROKE"),
   (0x21FC, "aLEFT RIGHT ARROW WITH DOUBLE VERTICAL STROKEeWARDS OPEN-HEADED ARROW"),
   (0x21FE, "aRIGHTWARDS OPEN-HEADED ARROWaLEFT RIGHT OPEN-HEADED ARROWaFOR ALLaCOMPLEMENT"),
   (0x2202, "aPARTIAL DIFFERENTIALaTHERE EXISTSgDOES NOT EXISTaEMPTY SETaINCREMENTaNABLA"),
   (0x2208, "aELEMENT OFaNOT AN ELEMENT OFaSMALL ELEMENT OFaCONTAINS AS MEMBER"),
   (0x220C, "aDOES NOT CONTAIN AS MEMBERaSMALL CONTAINS AS MEMBERaEND OF PROOFaN-ARY PRODUCT"),
   (0x2210, "gCOPRODUCTgSUMMATIONaMINUS SIGNf-OR-PLUS SIGNaDOT PLUSbIVISION SLASHaSET MINUS"),
   (0x2217, "aASTERISK OPERATORaRING OPERATORaBULLET OPERATORaSQUARE ROOTaCUBE ROOTaFOURTH ROOT"),
   (0x221D, "aPROPORTIONAL TOaINFINITYaRIGHT ANGLEaANGLEaMEASURED ANGLEaSPHERICAL ANGLEaDIVIDES"),
   (0x2224, "bOES NOT DIVIDEaPARALLEL TOaNOT PARALLEL TOaLOGICAL ANDiORaINTERSECTIONaUNION"),
   (0x222B, "aINTEGRALaDOUBLE INTEGRALaTRIPLE INTEGRALaCONTOUR INTEGRALaSURFACE INTEGRAL"),
   (0x2230, "aVOLUME INTEGRALaCLOCKWISE INTEGRALkCONTOUR INTEGRALaANTICLOCKWISE CONTOUR INTEGRAL"),
   (0x2234, "aTHEREFOREaBECAUSEaRATIOaPROPORTIONaDOT MINUSaEXCESSaGEOMETRIC PROPORTIONaHOMOTHETIC"),
   (0x223C, "aTILDE OPERATORaREVERSED TILDEaINVERTED LAZY SaSINE WAVEaWREATH PRODUCTaNOT TILDE"),
   (0x2242, "aMINUS TILDEaASYMPTOTICALLY EQUAL TOaNOT ASYMPTOTICALLY EQUAL TO"),
   (0x2245, "aAPPROXIMATELY EQUAL TOoBUT NOT ACTUALLY EQUAL TO"),
   (0x2247, "aNEITHER APPROXIMATELY NOR ACTUALLY EQUAL TOaALMOST EQUAL TOaNOT ALMOST EQUAL TO"),
   (0x224A, "aALMOST EQUAL OR EQUAL TOaTRIPLE TILDEaALL EQUAL TOaEQUIVALENT TO"),
   (0x224E, "aGEOMETRICALLY EQUIVALENT TOaDIFFERENCE BETWEENaAPPROACHES THE LIMIT"),
   (0x2251, "aGEOMETRICALLY EQUAL TOaAPPROXIMATELY EQUAL TO OR THE IMAGE OF"),
   (0x2253, "aIMAGE OF OR APPROXIMATELY EQUAL TOaCOLON EQUALSaEQUALS COLONaRING IN EQUAL TO"),
   (0x2257, "fEQUAL TOaCORRESPONDS TOaESTIMATESbQUIANGULAR TOaSTAR EQUALSaDELTA EQUAL TO"),
   (0x225D, "aEQUAL TO BY DEFINITIONaMEASURED BYaQUESTIONED EQUAL TOaNOT EQUAL TOaIDENTICAL TO"),
   (0x2262, "aNOT IDENTICAL TOaSTRICTLY EQUIVALENT TOaLESS-THAN OR EQUAL TO"),
   (0x2265, "aGREATER-THAN OR EQUAL TOaLESS-THAN OVER EQUAL TOaGREATER-THAN OVER EQUAL TO"),
   (0x2268, "aLESS-THAN BUT NOT EQUAL TOaGREATER-THAN BUT NOT EQUAL TOaMUCH LESS-THAN"),
   (0x226B, "fGREATER-THANaBETWEENaNOT EQUIVALENT TOeLESS-THANeGREATER-THAN"),
   (0x2270, "bEITHER LESS-THAN NOR EQUAL TOiGREATER-THAN NOR EQUAL TOaLESS-THAN OR EQUIVALENT TO"),
   (0x2273, "aGREATER-THAN OR EQUIVALENT TOaNEITHER LESS-THAN NOR EQUIVALENT TO"),
   (0x2275, "iGREATER-THAN NOR EQUIVALENT TOaLESS-THAN OR GREATER-THANaGREATER-THAN OR LESS-THAN"),
   (0x2278, "aNEITHER LESS-THAN NOR GREATER-THANiGREATER-THAN NOR LESS-THANaPRECEDESaSUCCEEDS"),
   (0x227C, "aPRECEDES OR EQUAL TOaSUCCEEDS OR EQUAL TOaPRECEDES OR EQUIVALENT TO"),
   (0x227F, "aSUCCEEDS OR EQUIVALENT TOaDOES NOT PRECEDEjSUCCEEDaSUBSET OFcPERSET OF"),
   (0x2284, "aNOT A SUBSET OFiPERSET OFaSUBSET OF OR EQUAL TOcPERSET OF OR EQUAL TO"),
   (0x2288, "aNEITHER A SUBSET OF NOR EQUAL TOmPERSET OF NOR EQUAL TOaSUBSET OF WITH NOT EQUAL TO"),
   (0x228B, "cPERSET OF WITH NOT EQUAL TOaMULTISETi MULTIPLICATIONjUNIONaSQUARE IMAGE OF"),
   (0x2290, "hORIGINAL OFhIMAGE OF OR EQUAL TOhORIGINAL OF OR EQUAL TOhCAPiUPaCIRCLED PLUSiMINUS"),
   (0x2297, "iTIMESiDIVISION SLASHjOT OPERATORiRING OPERATORiASTERISK OPERATORiEQUALSiDASH"),
   (0x229E, "aSQUARED PLUSiMINUSiTIMESiDOT OPERATORaRIGHT TACKaLEFT TACKaDOWN TACKaUP TACK"),
   (0x22A6, "aASSERTIONaMODELSaTRUEaFORCESaTRIPLE VERTICAL BAR RIGHT TURNSTILE"),
   (0x22AB, "aDOUBLE VERTICAL BAR DOUBLE RIGHT TURNSTILEcES NOT PROVEaNOT TRUEaDOES NOT FORCE"),
   (0x22AF, "aNEGATED DOUBLE VERTICAL BAR DOUBLE RIGHT TURNSTILEaPRECEDES UNDER RELATION"),
   (0x22B1, "aSUCCEEDS UNDER RELATIONaNORMAL SUBGROUP OFaCONTAINS AS NORMAL SUBGROUP"),
   (0x22B4, "aNORMAL SUBGROUP OF OR EQUAL TOaCONTAINS AS NORMAL SUBGROUP OR EQUAL TOaORIGINAL OF"),
   (0x22B7, "aIMAGE OFaMULTIMAPaHERMITIAN CONJUGATE MATRIXaINTERCALATEaXORaNANDbOR"),
   (0x22BE, "aRIGHT ANGLE WITH ARCgTRIANGLEaN-ARY LOGICAL ANDoORgINTERSECTIONgUNION"),
   (0x22C4, "aDIAMOND OPERATORbOT OPERATORaSTAR OPERATORaDIVISION TIMESaBOWTIE"),
   (0x22C9, "aLEFT NORMAL FACTOR SEMIDIRECT PRODUCTaRIGHT NORMAL FACTOR SEMIDIRECT PRODUCT"),
   (0x22CB, "aLEFT SEMIDIRECT PRODUCTaRIGHT SEMIDIRECT PRODUCTbEVERSED TILDE EQUALS"),
   (0x22CE, "aCURLY LOGICAL ORoANDaDOUBLE SUBSETjPERSEThINTERSECTIONhUNIONaPITCHFORK"),
   (0x22D5, "aEQUAL AND PARALLEL TOaLESS-THAN WITH DOTaGREATER-THAN WITH DOTaVERY MUCH LESS-THAN"),
   (0x22D9, "kGREATER-THANaLESS-THAN EQUAL TO OR GREATER-THANaGREATER-THAN EQUAL TO OR LESS-THAN"),
   (0x22DC, "aEQUAL TO OR LESS-THANmGREATER-THANmPRECEDESmSUCCEEDSaDOES NOT PRECEDE OR EQUAL"),
   (0x22E1, "jSUCCEED OR EQUALaNOT SQUARE IMAGE OF OR EQUAL TOlORIGINAL OF OR EQUAL TO"),
   (0x22E4, "aSQUARE IMAGE OF OR NOT EQUAL TOhORIGINAL OF OR NOT EQUAL TO"),
   (0x22E6, "aLESS-THAN BUT NOT EQUIVALENT TOaGREATER-THAN BUT NOT EQUIVALENT TO"),
   (0x22E8, "aPRECEDES BUT NOT EQUIVALENT TOaSUCCEEDS BUT NOT EQUIVALENT TO"),
   (0x22EA, "aNOT NORMAL SUBGROUP OFaDOES NOT CONTAIN AS NORMAL SUBGROUP"),
   (0x22EC, "aNOT NORMAL SUBGROUP OF OR EQUAL TOaDOES NOT CONTAIN AS NORMAL SUBGROUP OR EQUAL"),
   (0x22EE, "aVERTICAL ELLIPSISaMIDLINE HORIZONTAL ELLIPSISaUP RIGHT DIAGONAL ELLIPSIS"),
   (0x22F1, "aDOWN RIGHT DIAGONAL ELLIPSISaELEMENT OF WITH LONG HORIZONTAL STROKE"),
   (0x22F3, "qVERTICAL BAR AT END OF HORIZONTAL STROKE"),
   (0x22F4, "aSMALL ELEMENT OF WITH VERTICAL BAR AT END OF HORIZONTAL STROKE"),
   (0x22F5, "aELEMENT OF WITH DOT ABOVEqOVERBARaSMALL ELEMENT OF WITH OVERBAR"),
   (0x22F8, "aELEMENT OF WITH UNDERBARqTWO HORIZONTAL STROKES"),
   (0x22FA, "aCONTAINS WITH LONG HORIZONTAL STROKEoVERTICAL BAR AT END OF HORIZONTAL STROKE"),
   (0x22FC, "aSMALL CONTAINS WITH VERTICAL BAR AT END OF HORIZONTAL STROKEaCONTAINS WITH OVERBAR"),
   (0x22FE, "aSMALL CONTAINS WITH OVERBARaZ NOTATION BAG MEMBERSHIPaDIAMETER SIGNaELECTRIC ARROW"),
   (0x2302, "aHOUSEaUP ARROWHEADaDOWN ARROWHEADaPROJECTIVEbERSPECTIVEaWAVY LINEaLEFT CEILING"),
   (0x2309, "aRIGHT CEILINGaLEFT FLOORaRIGHT FLOORaBOTTOM RIGHT CROPhLEFT CROPaTOP RIGHT CROP"),
   (0x230F, "eLEFT CROPaREVERSED NOT SIGNaSQUARE LOZENGEaARCaSEGMENTcCTORaTELEPHONE RECORDER"),
   (0x2316, "aPOSITION INDICATORaVIEWDATA SQUAREaPLACE OF INTEREST SIGNaTURNED NOT SIGNaWATCH"),
   (0x231B, "aHOURGLASSaTOP LEFT CORNEReRIGHT CORNERaBOTTOM LEFT CORNERhRIGHT CORNER"),
   (0x2320, "aTOP HALF INTEGRALaBOTTOM HALF INTEGRALaFROWNaSMILE"),
   (0x2324, "aUP ARROWHEAD BETWEEN TWO HORIZONTAL BARSaOPTION KEYaERASE TO THE RIGHT"),
   (0x2327, "aX IN A RECTANGLE BOXaKEYBOARDaLEFT-POINTING ANGLE BRACKET"),
   (0x232A, "aRIGHT-POINTING ANGLE BRACKETaERASE TO THE LEFTaBENZENE RINGaCYLINDRICITY"),
   (0x232E, "aALL AROUND-PROFILEaSYMMETRYaTOTAL RUNOUTaDIMENSION ORIGINaCONICAL TAPERaSLOPE"),
   (0x2334, "aCOUNTERBOREhSINKaAPL FUNCTIONAL SYMBOL I-BEAMwSQUISH QUADwQUAD EQUALzcDIVIDEzeAMOND"),
   (0x233B, "zcJOTzcCIRCLEwCIRCLE STILEzeJOTwSLASH BARwBACKSLASH BARwQUAD SLASHzcBACKSLASH"),
   (0x2343, "zcLESS-THANzcGREATER-THANwLEFTWARDS VANEwRIGHTWARDS VANEwQUAD LEFTWARDS ARROW"),
   (0x2348, "zcRIGHTWARDS ARROWwCIRCLE BACKSLASHwDOWN TACK UNDERBARxELTA STILEwQUAD DOWN CARET"),
   (0x234D, "zdELTAwDOWN TACK JOTwUPWARDS VANEwQUAD UPWARDS ARROWwUP TACK OVERBARwDEL STILE"),
   (0x2353, "wQUAD UP CARETzcDELwUP TACK JOTwDOWNWARDS VANEwQUAD DOWNWARDS ARROWyOTE UNDERBAR"),
   (0x2359, "wDELTA UNDERBARxIAMOND UNDERBARwJOT UNDERBARwCIRCLE UNDERBARwUP SHOE JOTwQUOTE QUAD"),
   (0x235F, "wCIRCLE STARwQUAD COLONwUP TACK DIAERESISwDEL DIAERESISwSTAR DIAERESISwJOT DIAERESIS"),
   (0x2365, "wCIRCLE DIAERESISwDOWN SHOE STILEwLEFT SHOE STILEwTILDE DIAERESIS"),
   (0x2369, "wGREATER-THAN DIAERESISwCOMMA BARwDEL TILDEwZILDEwSTILE TILDExEMICOLON UNDERBAR"),
   (0x236F, "wQUAD NOT EQUALzcQUESTIONwDOWN CARET TILDEwUP CARET TILDEwIOTAwRHOwOMEGA"),
   (0x2376, "wALPHA UNDERBARwEPSILON UNDERBARwIOTA UNDERBARwOMEGA UNDERBARwALPHAaNOT CHECK MARK"),
   (0x237C, "aRIGHT ANGLE WITH DOWNWARDS ZIGZAG ARROWaSHOULDERED OPEN BOXaBELL SYMBOL"),
   (0x237F, "aVERTICAL LINE WITH MIDDLE DOTaINSERTION SYMBOLaCONTINUOUS UNDERLINE SYMBOL"),
   (0x2382, "aDISCONTINUOUS UNDERLINE SYMBOLaEMPHASIS SYMBOLaCOMPOSITION SYMBOL"),
   (0x2385, "aWHITE SQUARE WITH CENTRE VERTICAL LINEaENTER SYMBOLaALTERNATIVE KEY SYMBOL"),
   (0x2388, "aHELM SYMBOLaCIRCLED HORIZONTAL BAR WITH NOTCHiTRIANGLE DOWN"),
   (0x238B, "aBROKEN CIRCLE WITH NORTHWEST ARROWaUNDO SYMBOLaMONOSTABLE SYMBOLaHYSTERESIS SYMBOL"),
   (0x238F, "aOPEN-CIRCUIT-OUTPUT H-TYPE SYMBOLuL-TYPE SYMBOLaPASSIVE-PULL-DOWN-OUTPUT SYMBOL"),
   (0x2392, "nUP-OUTPUT SYMBOLaDIRECT CURRENT SYMBOL FORM TWOaSOFTWARE-FUNCTION SYMBOL"),
   (0x2395, "aAPL FUNCTIONAL SYMBOL QUADaDECIMAL SEPARATOR KEY SYMBOLaPREVIOUS PAGEaNEXT PAGE"),
   (0x2399, "aPRINT SCREEN SYMBOLaCLEAR SCREEN SYMBOLaLEFT PARENTHESIS UPPER HOOKrEXTENSION"),
   (0x239D, "rLOWER HOOKaRIGHT PARENTHESIS UPPER HOOKsEXTENSIONsLOWER HOOK"),
   (0x23A1, "aLEFT SQUARE BRACKET UPPER CORNERuEXTENSIONuLOWER CORNER"),
   (0x23A4, "aRIGHT SQUARE BRACKET UPPER CORNERvEXTENSIONvLOWER CORNER"),
   (0x23A7, "aLEFT CURLY BRACKET UPPER HOOKtMIDDLE PIECEtLOWER HOOKaCURLY BRACKET EXTENSION"),
   (0x23AB, "aRIGHT CURLY BRACKET UPPER HOOKuMIDDLE PIECEuLOWER HOOKaINTEGRAL EXTENSION"),
   (0x23AF, "aHORIZONTAL LINE EXTENSIONaUPPER LEFT OR LOWER RIGHT CURLY BRACKET SECTION"),
   (0x23B1, "gRIGHT OR LOWER LEFT CURLY BRACKET SECTIONaSUMMATION TOPkBOTTOMaTOP SQUARE BRACKET"),
   (0x23B5, "aBOTTOM SQUARE BRACKETv OVER TOP SQUARE BRACKETaRADICAL SYMBOL BOTTOM"),
   (0x23B8, "aLEFT VERTICAL BOX LINEaRIGHT VERTICAL BOX LINEaHORIZONTAL SCAN LINE-1v3v7v9"),
   (0x23BE, "aDENTISTRY SYMBOL LIGHT VERTICAL AND TOP RIGHTzlBOTTOM RIGHTzhWITH CIRCLE"),
   (0x23C1, "xDOWN AND HORIZONTAL WITH CIRCLExUP AND HORIZONTAL WITH CIRCLE"),
   (0x23C3, "xVERTICAL WITH TRIANGLExDOWN AND HORIZONTAL WITH TRIANGLE"),
   (0x23C5, "xUP AND HORIZONTAL WITH TRIANGLExVERTICAL AND WAVExDOWN AND HORIZONTAL WITH WAVE"),
   (0x23C8, "xUP AND HORIZONTAL WITH WAVExDOWN AND HORIZONTALxUP AND HORIZONTAL"),
   (0x23CB, "xVERTICAL AND TOP LEFTzlBOTTOM LEFTaSQUARE FOOTaRETURN SYMBOLaEJECT SYMBOL"),
   (0x23D0, "aVERTICAL LINE EXTENSIONaMETRICAL BREVEjLONG OVER SHORTjSHORT OVER LONG"),
   (0x23D4, "jLONG OVER TWO SHORTSjTWO SHORTS OVER LONGuJOINEDkRISEMEkETRASEMEjPENTASEME"),
   (0x23DA, "aEARTH GROUNDaFUSEaTOP PARENTHESISaBOTTOM PARENTHESISaTOP CURLY BRACKET"),
   (0x23DF, "aBOTTOM CURLY BRACKETaTOP TORTOISE SHELL BRACKETaBOTTOM TORTOISE SHELL BRACKET"),
   (0x23E2, "aWHITE TRAPEZIUMaBENZENE RING WITH CIRCLEaSTRAIGHTNESSaFLATNESSaAC CURRENT"),
   (0x23E7, "aELECTRICAL INTERSECTIONaDECIMAL EXPONENT SYMBOL"),
   (0x23E9, "aBLACK RIGHT-POINTING DOUBLE TRIANGLEgLEFT-POINTING DOUBLE TRIANGLE"),
   (0x23EB, "gUP-POINTING DOUBLE TRIANGLEgDOWN-POINTING DOUBLE TRIANGLE"),
   (0x23ED, "gRIGHT-POINTING DOUBLE TRIANGLE WITH VERTICAL BAR"),
   (0x23EE, "gLEFT-POINTING DOUBLE TRIANGLE WITH VERTICAL BAR"),
   (0x23EF, "gRIGHT-POINTING TRIANGLE WITH DOUBLE VERTICAL BARaALARM CLOCKaSTOPWATCHaTIMER CLOCK"),
   (0x23F3, "aHOURGLASS WITH FLOWING SANDaBLACK MEDIUM LEFT-POINTING TRIANGLE"),
   (0x23F5, "nRIGHT-POINTING TRIANGLEnUP-POINTING TRIANGLEnDOWN-POINTING TRIANGLE"),
   (0x23F8, "aDOUBLE VERTICAL BARaBLACK SQUARE FOR STOPgCIRCLE FOR RECORDaPOWER SYMBOL"),
   (0x23FC, "gON-OFF SYMBOLi SYMBOLgSLEEP SYMBOLaOBSERVER EYE SYMBOLaSYMBOL FOR NULL"),
   (0x2401, "lSTART OF HEADINGuTEXTlEND OF TEXTtRANSMISSIONnQUIRYlACKNOWLEDGElBELLmACKSPACE"),
   (0x2409, "lHORIZONTAL TABULATIONlLINE FEEDlVERTICAL TABULATIONlFORM FEEDlCARRIAGE RETURN"),
   (0x240E, "lSHIFT OUTrINlDATA LINK ESCAPEmEVICE CONTROL ONEzbTWOzcHREEzbFOUR"),
   (0x2415, "lNEGATIVE ACKNOWLEDGElSYNCHRONOUS IDLElEND OF TRANSMISSION BLOCKlCANCEL"),
   (0x2419, "lEND OF MEDIUMlSUBSTITUTElESCAPElFILE SEPARATORlGROUP SEPARATORlRECORD SEPARATOR"),
   (0x241F, "lUNIT SEPARATORlSPACElDELETEaBLANK SYMBOLaOPEN BOXaSYMBOL FOR NEWLINE"),
   (0x2425, "lDELETE FORM TWOlSUBSTITUTE FORM TWO"),
   (0x2440, "aOCR HOOKeCHAIReFORKeINVERTED FORKeBELT BUCKLEfOW TIEfRANCH BANK IDENTIFICATION"),
   (0x2447, "eAMOUNT OF CHECKeDASHeCUSTOMER ACCOUNT NUMBEReDOUBLE BACKSLASH"),
   (0x2460, "aCIRCLED DIGIT ONEoTWOpHREEoFOURpIVEoSIXpEVENoEIGHToNINEiNUMBER TENpELEVENpTWELVE"),
   (0x246C, "qHIRTEENpFOURTEENqIFTEENpSIXTEENqEVENTEENpEIGHTEENpNINETEENpTWENTY"),
   (0x2474, "aPARENTHESIZED DIGIT ONEuTWOvHREEuFOURvIVEuSIXvEVENuEIGHTuNINEoNUMBER TENvELEVEN"),
   (0x247F, "vTWELVEwHIRTEENvFOURTEENwIFTEENvSIXTEENwEVENTEENvEIGHTEENvNINETEENvTWENTY"),
   (0x2488, "aDIGIT ONE FULL STOPgTWO FULL STOPhHREE FULL STOPgFOUR FULL STOPhIVE FULL STOP"),
   (0x248D, "gSIX FULL STOPhEVEN FULL STOPgEIGHT FULL STOPgNINE FULL STOPaNUMBER TEN FULL STOP"),
   (0x2492, "hELEVEN FULL STOPhTWELVE FULL STOPiHIRTEEN FULL STOPhFOURTEEN FULL STOP"),
   (0x2496, "iIFTEEN FULL STOPhSIXTEEN FULL STOPiEVENTEEN FULL STOPhEIGHTEEN FULL STOP"),
   (0x249A, "hNINETEEN FULL STOPhTWENTY FULL STOPaPARENTHESIZED LATIN SMALL LETTER AziBziCziDziE"),
   (0x24A1, "ziFziGziHziIziJziKziLziMziNziOziPziQziRziSziTziUziVziWziXziYziZ"),
   (0x24B6, "aCIRCLED LATIN CAPITAL LETTER AzeBzeCzeDzeEzeFzeGzeHzeIzeJzeKzeLzeMzeNzeOzePzeQzeR"),
   (0x24C8, "zeSzeTzeUzeVzeWzeXzeYzeZoSMALL LETTER AzcBzcCzcDzcEzcFzcGzcHzcIzcJzcKzcLzcMzcNzcOzcP"),
   (0x24E0, "zcQzcRzcSzcTzcUzcVzcWzcXzcYzcZiDIGIT ZEROaNEGATIVE CIRCLED NUMBER ELEVENyTWELVE"),
   (0x24ED, "zHIRTEENyFOURTEENzIFTEENySIXTEENzEVENTEENyEIGHTEENyNINETEENyTWENTY"),
   (0x24F5, "aDOUBLE CIRCLED DIGIT ONEvTWOwHREEvFOURwIVEvSIXwEVENvEIGHTvNINEpNUMBER TEN"),
   (0x24FF, "aNEGATIVE CIRCLED DIGIT ZEROaBOX DRAWINGS LIGHT HORIZONTALnHEAVY HORIZONTAL"),
   (0x2502, "nLIGHT VERTICALnHEAVY VERTICALnLIGHT TRIPLE DASH HORIZONTAL"),
   (0x2505, "nHEAVY TRIPLE DASH HORIZONTALnLIGHT TRIPLE DASH VERTICALnHEAVY TRIPLE DASH VERTICAL"),
   (0x2508, "nLIGHT QUADRUPLE DASH HORIZONTALnHEAVY QUADRUPLE DASH HORIZONTAL"),
   (0x250A, "nLIGHT QUADRUPLE DASH VERTICALnHEAVY QUADRUPLE DASH VERTICALnLIGHT DOWN AND RIGHT"),
   (0x250D, "nDOWN LIGHT AND RIGHT HEAVYsHEAVY AND RIGHT LIGHTnHEAVY DOWN AND RIGHT"),
   (0x2510, "nLIGHT DOWN AND LEFTnDOWN LIGHT AND LEFT HEAVYsHEAVY AND LEFT LIGHT"),
   (0x2513, "nHEAVY DOWN AND LEFTnLIGHT UP AND RIGHTnUP LIGHT AND RIGHT HEAVY"),
   (0x2516, "qHEAVY AND RIGHT LIGHTnHEAVY UP AND RIGHTnLIGHT UP AND LEFTnUP LIGHT AND LEFT HEAVY"),
   (0x251A, "qHEAVY AND LEFT LIGHTnHEAVY UP AND LEFTnLIGHT VERTICAL AND RIGHT"),
   (0x251D, "nVERTICAL LIGHT AND RIGHT HEAVYnUP HEAVY AND RIGHT DOWN LIGHT"),
   (0x251F, "nDOWN HEAVY AND RIGHT UP LIGHTnVERTICAL HEAVY AND RIGHT LIGHT"),
   (0x2521, "nDOWN LIGHT AND RIGHT UP HEAVYnUP LIGHT AND RIGHT DOWN HEAVY"),
   (0x2523, "nHEAVY VERTICAL AND RIGHTnLIGHT VERTICAL AND LEFTnVERTICAL LIGHT AND LEFT HEAVY"),
   (0x2526, "nUP HEAVY AND LEFT DOWN LIGHTnDOWN HEAVY AND LEFT UP LIGHT"),
   (0x2528, "nVERTICAL HEAVY AND LEFT LIGHTnDOWN LIGHT AND LEFT UP HEAVY"),
   (0x252A, "nUP LIGHT AND LEFT DOWN HEAVYnHEAVY VERTICAL AND LEFTnLIGHT DOWN AND HORIZONTAL"),
   (0x252D, "oEFT HEAVY AND RIGHT DOWN LIGHTnRIGHT HEAVY AND LEFT DOWN LIGHT"),
   (0x252F, "nDOWN LIGHT AND HORIZONTAL HEAVYsHEAVY AND HORIZONTAL LIGHT"),
   (0x2531, "nRIGHT LIGHT AND LEFT DOWN HEAVYnLEFT LIGHT AND RIGHT DOWN HEAVY"),
   (0x2533, "nHEAVY DOWN AND HORIZONTALnLIGHT UP AND HORIZONTALoEFT HEAVY AND RIGHT UP LIGHT"),
   (0x2536, "nRIGHT HEAVY AND LEFT UP LIGHTnUP LIGHT AND HORIZONTAL HEAVY"),
   (0x2538, "qHEAVY AND HORIZONTAL LIGHTnRIGHT LIGHT AND LEFT UP HEAVY"),
   (0x253A, "nLEFT LIGHT AND RIGHT UP HEAVYnHEAVY UP AND HORIZONTALnLIGHT VERTICAL AND HORIZONTAL"),
   (0x253D, "oEFT HEAVY AND RIGHT VERTICAL LIGHTnRIGHT HEAVY AND LEFT VERTICAL LIGHT"),
   (0x253F, "nVERTICAL LIGHT AND HORIZONTAL HEAVYnUP HEAVY AND DOWN HORIZONTAL LIGHT"),
   (0x2541, "nDOWN HEAVY AND UP HORIZONTAL LIGHTnVERTICAL HEAVY AND HORIZONTAL LIGHT"),
   (0x2543, "nLEFT UP HEAVY AND RIGHT DOWN LIGHTnRIGHT UP HEAVY AND LEFT DOWN LIGHT"),
   (0x2545, "nLEFT DOWN HEAVY AND RIGHT UP LIGHTnRIGHT DOWN HEAVY AND LEFT UP LIGHT"),
   (0x2547, "nDOWN LIGHT AND UP HORIZONTAL HEAVYnUP LIGHT AND DOWN HORIZONTAL HEAVY"),
   (0x2549, "nRIGHT LIGHT AND LEFT VERTICAL HEAVYnLEFT LIGHT AND RIGHT VERTICAL HEAVY"),
   (0x254B, "nHEAVY VERTICAL AND HORIZONTALnLIGHT DOUBLE DASH HORIZONTAL"),
   (0x254D, "nHEAVY DOUBLE DASH HORIZONTALnLIGHT DOUBLE DASH VERTICALnHEAVY DOUBLE DASH VERTICAL"),
   (0x2550, "nDOUBLE HORIZONTALuVERTICALpWN SINGLE AND RIGHT DOUBLEsDOUBLE AND RIGHT SINGLE"),
   (0x2554, "pUBLE DOWN AND RIGHTpWN SINGLE AND LEFT DOUBLEsDOUBLE AND LEFT SINGLE"),
   (0x2557, "pUBLE DOWN AND LEFTnUP SINGLE AND RIGHT DOUBLEqDOUBLE AND RIGHT SINGLE"),
   (0x255A, "nDOUBLE UP AND RIGHTnUP SINGLE AND LEFT DOUBLEqDOUBLE AND LEFT SINGLE"),
   (0x255D, "nDOUBLE UP AND LEFTnVERTICAL SINGLE AND RIGHT DOUBLEwDOUBLE AND RIGHT SINGLE"),
   (0x2560, "nDOUBLE VERTICAL AND RIGHTnVERTICAL SINGLE AND LEFT DOUBLEwDOUBLE AND LEFT SINGLE"),
   (0x2563, "nDOUBLE VERTICAL AND LEFTpWN SINGLE AND HORIZONTAL DOUBLE"),
   (0x2565, "sDOUBLE AND HORIZONTAL SINGLEpUBLE DOWN AND HORIZONTAL"),
   (0x2567, "nUP SINGLE AND HORIZONTAL DOUBLEqDOUBLE AND HORIZONTAL SINGLE"),
   (0x2569, "nDOUBLE UP AND HORIZONTALnVERTICAL SINGLE AND HORIZONTAL DOUBLE"),
   (0x256B, "wDOUBLE AND HORIZONTAL SINGLEnDOUBLE VERTICAL AND HORIZONTAL"),
   (0x256D, "nLIGHT ARC DOWN AND RIGHTzhLEFTxUP AND LEFTzfRIGHT"),
   (0x2571, "tDIAGONAL UPPER RIGHT TO LOWER LEFTzjLEFT TO LOWER RIGHTzdCROSStLEFTtUPtRIGHTtDOWN"),
   (0x2578, "nHEAVY LEFTtUPtRIGHTtDOWNnLIGHT LEFT AND HEAVY RIGHTtUP AND HEAVY DOWN"),
   (0x257E, "nHEAVY LEFT AND LIGHT RIGHTtUP AND LIGHT DOWNaUPPER HALF BLOCK"),
   (0x2581, "aLOWER ONE EIGHTH BLOCKkQUARTER BLOCKgTHREE EIGHTHS BLOCKgHALF BLOCK"),
   (0x2585, "gFIVE EIGHTHS BLOCKgTHREE QUARTERS BLOCKgSEVEN EIGHTHS BLOCKaFULL BLOCK"),
   (0x2589, "aLEFT SEVEN EIGHTHS BLOCKfTHREE QUARTERS BLOCKfFIVE EIGHTHS BLOCKfHALF BLOCK"),
   (0x258D, "fTHREE EIGHTHS BLOCKfONE QUARTER BLOCKjEIGHTH BLOCKaRIGHT HALF BLOCKaLIGHT SHADE"),
   (0x2592, "aMEDIUM SHADEaDARK SHADEaUPPER ONE EIGHTH BLOCKaRIGHT ONE EIGHTH BLOCK"),
   (0x2596, "aQUADRANT LOWER LEFTpRIGHTjUPPER LEFTt AND LOWER LEFT AND LOWER RIGHTzfRIGHT"),
   (0x259B, "yUPPER RIGHT AND LOWER LEFTzvRIGHTpRIGHTu AND LOWER LEFTzk AND LOWER RIGHT"),
   (0x25A0, "aBLACK SQUAREaWHITE SQUAREm WITH ROUNDED CORNERSnCONTAINING BLACK SMALL SQUARE"),
   (0x25A4, "aSQUARE WITH HORIZONTAL FILLmVERTICAL FILLmORTHOGONAL CROSSHATCH FILL"),
   (0x25A7, "mUPPER LEFT TO LOWER RIGHT FILLsRIGHT TO LOWER LEFT FILLmDIAGONAL CROSSHATCH FILL"),
   (0x25AA, "aBLACK SMALL SQUAREaWHITE SMALL SQUAREaBLACK RECTANGLEaWHITE RECTANGLE"),
   (0x25AE, "aBLACK VERTICAL RECTANGLEaWHITE VERTICAL RECTANGLEaBLACK PARALLELOGRAM"),
   (0x25B1, "aWHITE PARALLELOGRAMaBLACK UP-POINTING TRIANGLEaWHITE UP-POINTING TRIANGLE"),
   (0x25B4, "aBLACK UP-POINTING SMALL TRIANGLEaWHITE UP-POINTING SMALL TRIANGLE"),
   (0x25B6, "aBLACK RIGHT-POINTING TRIANGLEaWHITE RIGHT-POINTING TRIANGLE"),
   (0x25B8, "aBLACK RIGHT-POINTING SMALL TRIANGLEaWHITE RIGHT-POINTING SMALL TRIANGLE"),
   (0x25BA, "aBLACK RIGHT-POINTING POINTERaWHITE RIGHT-POINTING POINTER"),
   (0x25BC, "aBLACK DOWN-POINTING TRIANGLEaWHITE DOWN-POINTING TRIANGLE"),
   (0x25BE, "aBLACK DOWN-POINTING SMALL TRIANGLEaWHITE DOWN-POINTING SMALL TRIANGLE"),
   (0x25C0, "aBLACK LEFT-POINTING TRIANGLEaWHITE LEFT-POINTING TRIANGLE"),
   (0x25C2, "aBLACK LEFT-POINTING SMALL TRIANGLEaWHITE LEFT-POINTING SMALL TRIANGLE"),
   (0x25C4, "aBLACK LEFT-POINTING POINTERaWHITE LEFT-POINTING POINTERaBLACK DIAMONDaWHITE DIAMOND"),
   (0x25C8, "n CONTAINING BLACK SMALL DIAMONDaFISHEYEaLOZENGEaWHITE CIRCLEaDOTTED CIRCLE"),
   (0x25CD, "aCIRCLE WITH VERTICAL FILLaBULLSEYEbLACK CIRCLEaCIRCLE WITH LEFT HALF BLACK"),
   (0x25D1, "mRIGHT HALF BLACKmLOWER HALF BLACKmUPPER HALF BLACKsRIGHT QUADRANT BLACK"),
   (0x25D5, "mALL BUT UPPER LEFT QUADRANT BLACKaLEFT HALF BLACK CIRCLEaRIGHT HALF BLACK CIRCLE"),
   (0x25D8, "aINVERSE BULLETiWHITE CIRCLEaUPPER HALF INVERSE WHITE CIRCLE"),
   (0x25DB, "aLOWER HALF INVERSE WHITE CIRCLEaUPPER LEFT QUADRANT CIRCULAR ARC"),
   (0x25DD, "gRIGHT QUADRANT CIRCULAR ARCaLOWER RIGHT QUADRANT CIRCULAR ARC"),
   (0x25DF, "gLEFT QUADRANT CIRCULAR ARCaUPPER HALF CIRCLEaLOWER HALF CIRCLE"),
   (0x25E2, "aBLACK LOWER RIGHT TRIANGLEmLEFT TRIANGLEgUPPER LEFT TRIANGLEmRIGHT TRIANGLE"),
   (0x25E6, "aWHITE BULLETaSQUARE WITH LEFT HALF BLACKmRIGHT HALF BLACK"),
   (0x25E9, "mUPPER LEFT DIAGONAL HALF BLACKmLOWER RIGHT DIAGONAL HALF BLACK"),
   (0x25EB, "aWHITE SQUARE WITH VERTICAL BISECTING LINEgUP-POINTING TRIANGLE WITH DOT"),
   (0x25ED, "aUP-POINTING TRIANGLE WITH LEFT HALF BLACKzbRIGHT HALF BLACKaLARGE CIRCLE"),
   (0x25F0, "aWHITE SQUARE WITH UPPER LEFT QUADRANTsLOWER LEFT QUADRANTyRIGHT QUADRANT"),
   (0x25F3, "sUPPER RIGHT QUADRANTgCIRCLE WITH UPPER LEFT QUADRANTsLOWER LEFT QUADRANT"),
   (0x25F6, "yRIGHT QUADRANTsUPPER RIGHT QUADRANTaUPPER LEFT TRIANGLEgRIGHT TRIANGLE"),
   (0x25FA, "aLOWER LEFT TRIANGLEaWHITE MEDIUM SQUAREaBLACK MEDIUM SQUARE"),
   (0x25FD, "aWHITE MEDIUM SMALL SQUAREaBLACK MEDIUM SMALL SQUAREaLOWER RIGHT TRIANGLE"),
   (0x2600, "aBLACK SUN WITH RAYSaCLOUDaUMBRELLAaSNOWMANaCOMETaBLACK STARaWHITE STARaLIGHTNING"),
   (0x2608, "aTHUNDERSTORMaSUNaASCENDING NODEaDESCENDING NODEaCONJUNCTIONaOPPOSITION"),
   (0x260E, "aBLACK TELEPHONEaWHITE TELEPHONEaBALLOT BOXk WITH CHECKqXaSALTIRE"),
   (0x2614, "aUMBRELLA WITH RAIN DROPSaHOT BEVERAGEaWHITE SHOGI PIECEaBLACK SHOGI PIECEaSHAMROCK"),
   (0x2619, "aREVERSED ROTATED FLORAL HEART BULLETaBLACK LEFT POINTING INDEXgRIGHT POINTING INDEX"),
   (0x261C, "aWHITE LEFT POINTING INDEXgUP POINTING INDEXgRIGHT POINTING INDEX"),
   (0x261F, "gDOWN POINTING INDEXaSKULL AND CROSSBONESaCAUTION SIGNaRADIOACTIVE SIGN"),
   (0x2623, "aBIOHAZARD SIGNaCADUCEUSaANKHaORTHODOX CROSSaCHI RHObROSS OF LORRAINEjJERUSALEM"),
   (0x262A, "aSTAR AND CRESCENTaFARSI SYMBOLaADI SHAKTIaHAMMER AND SICKLEaPEACE SYMBOLaYIN YANG"),
   (0x2630, "aTRIGRAM FOR HEAVENmLAKEmFIREmTHUNDERmWINDnATERmMOUNTAINmEARTHaWHEEL OF DHARMA"),
   (0x2639, "cITE FROWNING FACEgSMILING FACEaBLACK SMILING FACEaWHITE SUN WITH RAYS"),
   (0x263D, "aFIRST QUARTER MOONaLAST QUARTER MOONaMERCURYaFEMALE SIGNaEARTHaMALE SIGNaJUPITER"),
   (0x2644, "aSATURNaURANUSaNEPTUNEaPLUTOaARIESaTAURUSaGEMINIaCANCERaLEOaVIRGOaLIBRAaSCORPIUS"),
   (0x2650, "bAGITTARIUSaCAPRICORNaAQUARIUSaPISCESaWHITE CHESS KINGmQUEENmROOKmBISHOPmKNIGHTmPAWN"),
   (0x265A, "aBLACK CHESS KINGmQUEENmROOKmBISHOPmKNIGHTmPAWNgSPADE SUITaWHITE HEART SUIT"),
   (0x2662, "gDIAMOND SUITaBLACK CLUB SUITaWHITE SPADE SUITaBLACK HEART SUITgDIAMOND SUIT"),
   (0x2667, "aWHITE CLUB SUITaHOT SPRINGSaQUARTER NOTEaEIGHTH NOTEaBEAMED EIGHTH NOTES"),
   (0x266C, "hSIXTEENTH NOTESaMUSIC FLAT SIGNgNATURAL SIGNgSHARP SIGNaWEST SYRIAC CROSS"),
   (0x2671, "aEAST SYRIAC CROSSaUNIVERSAL RECYCLING SYMBOLaRECYCLING SYMBOL FOR TYPE-1 PLASTICS"),
   (0x2674, "zb2 PLASTICSzb3 PLASTICSzb4 PLASTICSzb5 PLASTICSzb6 PLASTICSzb7 PLASTICS"),
   (0x267A, "vGENERIC MATERIALSaBLACK UNIVERSAL RECYCLING SYMBOLaRECYCLED PAPER SYMBOL"),
   (0x267D, "aPARTIALLY-RECYCLED PAPER SYMBOLbERMANENT PAPER SIGNaWHEELCHAIR SYMBOLaDIE FACE-1j2"),
   (0x2682, "j3j4j5j6aWHITE CIRCLE WITH DOT RIGHTsTWO DOTSaBLACK CIRCLE WITH WHITE DOT RIGHT"),
   (0x2689, "sTWO WHITE DOTSaMONOGRAM FOR YANGoINaDIGRAM FOR GREATER YANGlLESSER YINtANG"),
   (0x268F, "lGREATER YINaWHITE FLAGaBLACK FLAGaHAMMER AND PICKaANCHORaCROSSED SWORDS"),
   (0x2695, "aSTAFF OF AESCULAPIUSbCALESaALEMBICaFLOWERaGEARaSTAFF OF HERMESaATOM SYMBOL"),
   (0x269C, "aFLEUR-DE-LISaOUTLINED WHITE STARaTHREE LINES CONVERGING RIGHTxLEFTaWARNING SIGN"),
   (0x26A1, "aHIGH VOLTAGE SIGNaDOUBLED FEMALE SIGNiMALE SIGNaINTERLOCKED FEMALE AND MALE SIGN"),
   (0x26A5, "aMALE AND FEMALE SIGNfWITH STROKE SIGNrAND MALE AND FEMALE SIGN"),
   (0x26A8, "aVERTICAL MALE WITH STROKE SIGNaHORIZONTAL MALE WITH STROKE SIGNaMEDIUM WHITE CIRCLE"),
   (0x26AB, "hBLACK CIRCLEhSMALL WHITE CIRCLEbARRIAGE SYMBOLaDIVORCE SYMBOL"),
   (0x26AF, "aUNMARRIED PARTNERSHIP SYMBOLaCOFFINaFUNERAL URNaNEUTERaCERESaPALLASaJUNOaVESTA"),
   (0x26B7, "aCHIRONaBLACK MOON LILITHaSEXTILEcMISEXTILEaQUINCUNXaSESQUIQUADRATEbOCCER BALL"),
   (0x26BE, "aBASEBALLaSQUARED KEYaWHITE DRAUGHTS MANpKINGaBLACK DRAUGHTS MANpKING"),
   (0x26C4, "aSNOWMAN WITHOUT SNOWbUN BEHIND CLOUDaRAINaBLACK SNOWMANaTHUNDER CLOUD AND RAIN"),
   (0x26C9, "bURNED WHITE SHOGI PIECEhBLACK SHOGI PIECEaWHITE DIAMOND IN SQUAREaCROSSING LANES"),
   (0x26CD, "aDISABLED CARaOPHIUCHUSaPICKaCAR SLIDINGaHELMET WITH WHITE CROSS"),
   (0x26D2, "aCIRCLED CROSSING LANESbHAINSaNO ENTRYaALTERNATE ONE-WAY LEFT WAY TRAFFIC"),
   (0x26D6, "aBLACK TWO-WAY LEFT WAY TRAFFICaWHITE TWO-WAY LEFT WAY TRAFFICaBLACK LEFT LANE MERGE"),
   (0x26D9, "aWHITE LEFT LANE MERGEaDRIVE SLOW SIGNaHEAVY WHITE DOWN-POINTING TRIANGLE"),
   (0x26DC, "aLEFT CLOSED ENTRYaSQUARED SALTIREaFALLING DIAGONAL IN WHITE CIRCLE IN BLACK SQUARE"),
   (0x26DF, "aBLACK TRUCKaRESTRICTED LEFT ENTRY-1w2aASTRONOMICAL SYMBOL FOR URANUS"),
   (0x26E3, "aHEAVY CIRCLE WITH STROKE AND TWO DOTS ABOVEaPENTAGRAM"),
   (0x26E5, "aRIGHT-HANDED INTERLACED PENTAGRAMaLEFT-HANDED INTERLACED PENTAGRAM"),
   (0x26E7, "aINVERTED PENTAGRAMaBLACK CROSS ON SHIELDaSHINTO SHRINEaCHURCHbASTLEaHISTORIC SITE"),
   (0x26ED, "aGEAR WITHOUT HUBj HANDLESaMAP SYMBOL FOR LIGHTHOUSEbOUNTAINaUMBRELLA ON GROUND"),
   (0x26F2, "aFOUNTAINbLAG IN HOLEbERRYaSAILBOATbQUARE FOUR CORNERSbKIERaICE SKATE"),
   (0x26F9, "aPERSON WITH BALLaTENTaJAPANESE BANK SYMBOLaHEADSTONE GRAVEYARD SYMBOLaFUEL PUMP"),
   (0x26FE, "aCUP ON BLACK SQUAREaWHITE FLAG WITH HORIZONTAL MIDDLE BLACK STRIPE"),
   (0x2700, "aBLACK SAFETY SCISSORSaUPPER BLADE SCISSORSaBLACK SCISSORSaLOWER BLADE SCISSORS"),
   (0x2704, "aWHITE SCISSORSgHEAVY CHECK MARKaTELEPHONE LOCATION SIGNbAPE DRIVEaAIRPLANEaENVELOPE"),
   (0x270A, "aRAISED FISThHANDaVICTORY HANDaWRITING HANDaLOWER RIGHT PENCILaPENCIL"),
   (0x2710, "aUPPER RIGHT PENCILaWHITE NIBaBLACK NIBaCHECK MARKaHEAVY CHECK MARKaMULTIPLICATION X"),
   (0x2716, "aHEAVY MULTIPLICATION XaBALLOT XaHEAVY BALLOT XaOUTLINED GREEK CROSS"),
   (0x271A, "aHEAVY GREEK CROSSaOPEN CENTRE CROSSaHEAVY OPEN CENTRE CROSSaLATIN CROSS"),
   (0x271E, "aSHADOWED WHITE LATIN CROSSaOUTLINED LATIN CROSSaMALTESE CROSSaSTAR OF DAVID"),
   (0x2722, "aFOUR TEARDROP-SPOKED ASTERISKfBALLOON-SPOKED ASTERISK"),
   (0x2724, "aHEAVY FOUR BALLOON-SPOKED ASTERISKaFOUR CLUB-SPOKED ASTERISK"),
   (0x2726, "aBLACK FOUR POINTED STARaWHITE FOUR POINTED STARaSPARKLESbTRESS OUTLINED WHITE STAR"),
   (0x272A, "aCIRCLED WHITE STARaOPEN CENTRE BLACK STARaBLACK CENTRE WHITE STAR"),
   (0x272D, "aOUTLINED BLACK STARaHEAVY OUTLINED BLACK STARaPINWHEEL STARaSHADOWED WHITE STAR"),
   (0x2731, "aHEAVY ASTERISKaOPEN CENTRE ASTERISKaEIGHT SPOKED ASTERISKgPOINTED BLACK STAR"),
   (0x2735, "oPINWHEEL STARaSIX POINTED BLACK STARaEIGHT POINTED RECTILINEAR BLACK STAR"),
   (0x2738, "aHEAVY EIGHT POINTED RECTILINEAR BLACK STARaTWELVE POINTED BLACK STAR"),
   (0x273A, "aSIXTEEN POINTED ASTERISKaTEARDROP-SPOKED ASTERISK"),
   (0x273C, "aOPEN CENTRE TEARDROP-SPOKED ASTERISKaHEAVY TEARDROP-SPOKED ASTERISK"),
   (0x273E, "aSIX PETALLED BLACK AND WHITE FLORETTEaBLACK FLORETTEaWHITE FLORETTE"),
   (0x2741, "aEIGHT PETALLED OUTLINED BLACK FLORETTEaCIRCLED OPEN CENTRE EIGHT POINTED STAR"),
   (0x2743, "aHEAVY TEARDROP-SPOKED PINWHEEL ASTERISKaSNOWFLAKEaTIGHT TRIFOLIATE SNOWFLAKE"),
   (0x2746, "aHEAVY CHEVRON SNOWFLAKEaSPARKLEaHEAVY SPARKLEaBALLOON-SPOKED ASTERISK"),
   (0x274A, "aEIGHT TEARDROP-SPOKED PROPELLER ASTERISK"),
   (0x274B, "aHEAVY EIGHT TEARDROP-SPOKED PROPELLER ASTERISKaCROSS MARKaSHADOWED WHITE CIRCLE"),
   (0x274E, "aNEGATIVE SQUARED CROSS MARKaLOWER RIGHT DROP-SHADOWED WHITE SQUARE"),
   (0x2750, "aUPPER RIGHT DROP-SHADOWED WHITE SQUAREaLOWER RIGHT SHADOWED WHITE SQUARE"),
   (0x2752, "aUPPER RIGHT SHADOWED WHITE SQUAREaBLACK QUESTION MARK ORNAMENT"),
   (0x2754, "aWHITE QUESTION MARK ORNAMENTgEXCLAMATION MARK ORNAMENTaBLACK DIAMOND MINUS WHITE X"),
   (0x2757, "aHEAVY EXCLAMATION MARK SYMBOLaLIGHT VERTICAL BARaMEDIUM VERTICAL BAR"),
   (0x275A, "aHEAVY VERTICAL BARgSINGLE TURNED COMMA QUOTATION MARK ORNAMENT"),
   (0x275C, "nCOMMA QUOTATION MARK ORNAMENTgDOUBLE TURNED COMMA QUOTATION MARK ORNAMENT"),
   (0x275E, "nCOMMA QUOTATION MARK ORNAMENTgLOW SINGLE COMMA QUOTATION MARK ORNAMENT"),
   (0x2760, "kDOUBLE COMMA QUOTATION MARK ORNAMENTaCURVED STEM PARAGRAPH SIGN ORNAMENT"),
   (0x2762, "aHEAVY EXCLAMATION MARK ORNAMENTgHEART EXCLAMATION MARK ORNAMENTgBLACK HEART"),
   (0x2765, "aROTATED HEAVY BLACK HEART BULLETaFLORAL HEARTaROTATED FLORAL HEART BULLET"),
   (0x2768, "aMEDIUM LEFT PARENTHESIS ORNAMENThRIGHT PARENTHESIS ORNAMENT"),
   (0x276A, "hFLATTENED LEFT PARENTHESIS ORNAMENTrRIGHT PARENTHESIS ORNAMENT"),
   (0x276C, "hLEFT-POINTING ANGLE BRACKET ORNAMENThRIGHT-POINTING ANGLE BRACKET ORNAMENT"),
   (0x276E, "aHEAVY LEFT-POINTING ANGLE QUOTATION MARK ORNAMENT"),
   (0x276F, "gRIGHT-POINTING ANGLE QUOTATION MARK ORNAMENTgLEFT-POINTING ANGLE BRACKET ORNAMENT"),
   (0x2771, "gRIGHT-POINTING ANGLE BRACKET ORNAMENTaLIGHT LEFT TORTOISE SHELL BRACKET ORNAMENT"),
   (0x2773, "gRIGHT TORTOISE SHELL BRACKET ORNAMENTaMEDIUM LEFT CURLY BRACKET ORNAMENT"),
   (0x2775, "hRIGHT CURLY BRACKET ORNAMENTaDINGBAT NEGATIVE CIRCLED DIGIT ONEzgTWOzhHREEzgFOUR"),
   (0x277A, "zhIVEzgSIXzhEVENzgEIGHTzgNINEzNUMBER TENiCIRCLED SANS-SERIF DIGIT ONEziTWOzjHREE"),
   (0x2783, "ziFOURzjIVEziSIXzjEVENziEIGHTziNINEzcNUMBER TEN"),
   (0x278A, "iNEGATIVE CIRCLED SANS-SERIF DIGIT ONEzrTWOzsHREEzrFOURzsIVEzrSIXzsEVENzrEIGHTzrNINE"),
   (0x2793, "zlNUMBER TENaHEAVY WIDE-HEADED RIGHTWARDS ARROWgPLUS SIGNgMINUS SIGNgDIVISION SIGN"),
   (0x2798, "gSOUTH EAST ARROWgRIGHTWARDS ARROWgNORTH EAST ARROWaDRAFTING POINT RIGHTWARDS ARROW"),
   (0x279C, "aHEAVY ROUND-TIPPED RIGHTWARDS ARROWaTRIANGLE-HEADED RIGHTWARDS ARROW"),
   (0x279E, "aHEAVY TRIANGLE-HEADED RIGHTWARDS ARROWaDASHED TRIANGLE-HEADED RIGHTWARDS ARROW"),
   (0x27A0, "aHEAVY DASHED TRIANGLE-HEADED RIGHTWARDS ARROWaBLACK RIGHTWARDS ARROW"),
   (0x27A2, "aTHREE-D TOP-LIGHTED RIGHTWARDS ARROWHEADiBOTTOM-LIGHTED RIGHTWARDS ARROWHEAD"),
   (0x27A4, "aBLACK RIGHTWARDS ARROWHEADaHEAVY BLACK CURVED DOWNWARDS AND RIGHTWARDS ARROW"),
   (0x27A6, "tUPWARDS AND RIGHTWARDS ARROWaSQUAT BLACK RIGHTWARDS ARROW"),
   (0x27A8, "aHEAVY CONCAVE-POINTED BLACK RIGHTWARDS ARROWaRIGHT-SHADED WHITE RIGHTWARDS ARROW"),
   (0x27AA, "aLEFT-SHADED WHITE RIGHTWARDS ARROWaBACK-TILTED SHADOWED WHITE RIGHTWARDS ARROW"),
   (0x27AC, "aFRONT-TILTED SHADOWED WHITE RIGHTWARDS ARROW"),
   (0x27AD, "aHEAVY LOWER RIGHT-SHADOWED WHITE RIGHTWARDS ARROW"),
   (0x27AE, "gUPPER RIGHT-SHADOWED WHITE RIGHTWARDS ARROW"),
   (0x27AF, "aNOTCHED LOWER RIGHT-SHADOWED WHITE RIGHTWARDS ARROWaCURLY LOOP"),
   (0x27B1, "aNOTCHED UPPER RIGHT-SHADOWED WHITE RIGHTWARDS ARROW"),
   (0x27B2, "aCIRCLED HEAVY WHITE RIGHTWARDS ARROWaWHITE-FEATHERED RIGHTWARDS ARROW"),
   (0x27B4, "aBLACK-FEATHERED SOUTH EAST ARROWqRIGHTWARDS ARROWqNORTH EAST ARROW"),
   (0x27B7, "aHEAVY BLACK-FEATHERED SOUTH EAST ARROWwRIGHTWARDS ARROWwNORTH EAST ARROW"),
   (0x27BA, "aTEARDROP-BARBED RIGHTWARDS ARROWaHEAVY TEARDROP-SHANKED RIGHTWARDS ARROW"),
   (0x27BC, "aWEDGE-TAILED RIGHTWARDS ARROWaHEAVY WEDGE-TAILED RIGHTWARDS ARROW"),
   (0x27BE, "aOPEN-OUTLINED RIGHTWARDS ARROWaDOUBLE CURLY LOOPaTHREE DIMENSIONAL ANGLE"),
   (0x27C1, "aWHITE TRIANGLE CONTAINING SMALL WHITE TRIANGLEaPERPENDICULARaOPEN SUBSEThPERSET"),
   (0x27C5, "aLEFT S-SHAPED BAG DELIMITERaRIGHT S-SHAPED BAG DELIMITERaOR WITH DOT INSIDE"),
   (0x27C8, "aREVERSE SOLIDUS PRECEDING SUBSETaSUPERSET PRECEDING SOLIDUS"),
   (0x27CA, "aVERTICAL BAR WITH HORIZONTAL STROKEaMATHEMATICAL RISING DIAGONALaLONG DIVISION"),
   (0x27CD, "aMATHEMATICAL FALLING DIAGONALaSQUARED LOGICAL ANDqORaWHITE DIAMOND WITH CENTRED DOT"),
   (0x27D1, "aAND WITH DOTaELEMENT OF OPENING UPWARDSaLOWER RIGHT CORNER WITH DOT"),
   (0x27D4, "aUPPER LEFT CORNER WITH DOTaLEFT OUTER JOINaRIGHT OUTER JOINaFULL OUTER JOIN"),
   (0x27D8, "aLARGE UP TACKgDOWN TACKbEFT AND RIGHT DOUBLE TURNSTILEpTACKfMULTIMAPbONG RIGHT TACK"),
   (0x27DE, "fLEFT TACKaUP TACK WITH CIRCLE ABOVEaLOZENGE DIVIDED BY HORIZONTAL RULE"),
   (0x27E1, "aWHITE CONCAVE-SIDED DIAMONDzc WITH LEFTWARDS TICKziRIGHTWARDS TICK"),
   (0x27E4, "gSQUARE WITH LEFTWARDS TICKsRIGHTWARDS TICKaMATHEMATICAL LEFT WHITE SQUARE BRACKET"),
   (0x27E7, "nRIGHT WHITE SQUARE BRACKETnLEFT ANGLE BRACKETnRIGHT ANGLE BRACKET"),
   (0x27EA, "nLEFT DOUBLE ANGLE BRACKETnRIGHT DOUBLE ANGLE BRACKET"),
   (0x27EC, "nLEFT WHITE TORTOISE SHELL BRACKETnRIGHT WHITE TORTOISE SHELL BRACKET"),
   (0x27EE, "nLEFT FLATTENED PARENTHESISnRIGHT FLATTENED PARENTHESISaUPWARDS QUADRUPLE ARROW"),
   (0x27F1, "aDOWNWARDS QUADRUPLE ARROWaANTICLOCKWISE GAPPED CIRCLE ARROW"),
   (0x27F3, "aCLOCKWISE GAPPED CIRCLE ARROWaRIGHT ARROW WITH CIRCLED PLUSaLONG LEFTWARDS ARROW"),
   (0x27F6, "fRIGHTWARDS ARROWfLEFT RIGHT ARROWjWARDS DOUBLE ARROWfRIGHTWARDS DOUBLE ARROW"),
   (0x27FA, "fLEFT RIGHT DOUBLE ARROWjWARDS ARROW FROM BARfRIGHTWARDS ARROW FROM BAR"),
   (0x27FD, "fLEFTWARDS DOUBLE ARROW FROM BARfRIGHTWARDS DOUBLE ARROW FROM BARqSQUIGGLE ARROW"),
   (0x2800, "aBRAILLE PATTERN BLANKqDOTS-1v2v12v3v13v23v123v4v14v24v124v34v134v234v1234v5v15v25"),
   (0x2813, "v125v35v135v235v1235v45v145v245v1245v345v1345v2345v12345v6v16v26v126v36v136v236v1236"),
   (0x2828, "v46v146v246v1246v346v1346v2346v12346v56v156v256v1256v356v1356v2356v12356v456v1456"),
   (0x283A, "v2456v12456v3456v13456v23456v123456v7v17v27v127v37v137v237v1237v47v147v247v1247v347"),
   (0x284D, "v1347v2347v12347v57v157v257v1257v357v1357v2357v12357v457v1457v2457v12457v3457v13457"),
   (0x285E, "v23457v123457v67v167v267v1267v367v1367v2367v12367v467v1467v2467v12467v3467v13467"),
   (0x286E, "v23467v123467v567v1567v2567v12567v3567v13567v23567v123567v4567v14567v24567v124567"),
   (0x287C, "v34567v134567v234567v1234567v8v18v28v128v38v138v238v1238v48v148v248v1248v348v1348"),
   (0x288E, "v2348v12348v58v158v258v1258v358v1358v2358v12358v458v1458v2458v12458v3458v13458v23458"),
   (0x289F, "v123458v68v168v268v1268v368v1368v2368v12368v468v1468v2468v12468v3468v13468v23468"),
   (0x28AF, "v123468v568v1568v2568v12568v3568v13568v23568v123568v4568v14568v24568v124568v34568"),
   (0x28BD, "v134568v234568v1234568v78v178v278v1278v378v1378v2378v12378v478v1478v2478v12478v3478"),
   (0x28CD, "v13478v23478v123478v578v1578v2578v12578v3578v13578v23578v123578v4578v14578v24578"),
   (0x28DB, "v124578v34578v134578v234578v1234578v678v1678v2678v12678v3678v13678v23678v123678v4678"),
   (0x28E9, "v14678v24678v124678v34678v134678v234678v1234678v5678v15678v25678v125678v35678v135678"),
   (0x28F6, "v235678v1235678v45678v145678v245678v1245678v345678v1345678v2345678v12345678"),
   (0x2900, "aRIGHTWARDS TWO-HEADED ARROW WITH VERTICAL STROKEziDOUBLE VERTICAL STROKE"),
   (0x2902, "aLEFTWARDS DOUBLE ARROW WITH VERTICAL STROKE"),
   (0x2903, "aRIGHTWARDS DOUBLE ARROW WITH VERTICAL STROKE"),
   (0x2904, "aLEFT RIGHT DOUBLE ARROW WITH VERTICAL STROKEaRIGHTWARDS TWO-HEADED ARROW FROM BAR"),
   (0x2906, "aLEFTWARDS DOUBLE ARROW FROM BARaRIGHTWARDS DOUBLE ARROW FROM BAR"),
   (0x2908, "aDOWNWARDS ARROW WITH HORIZONTAL STROKEaUPWARDS ARROW WITH HORIZONTAL STROKE"),
   (0x290A, "iTRIPLE ARROWaDOWNWARDS TRIPLE ARROWaLEFTWARDS DOUBLE DASH ARROW"),
   (0x290D, "aRIGHTWARDS DOUBLE DASH ARROWaLEFTWARDS TRIPLE DASH ARROW"),
   (0x290F, "aRIGHTWARDS TRIPLE DASH ARROWmWO-HEADED TRIPLE DASH ARROWlARROW WITH DOTTED STEM"),
   (0x2912, "aUPWARDS ARROW TO BARaDOWNWARDS ARROW TO BAR"),
   (0x2914, "aRIGHTWARDS ARROW WITH TAIL WITH VERTICAL STROKEzhDOUBLE VERTICAL STROKE"),
   (0x2916, "lTWO-HEADED ARROW WITH TAILzm WITH VERTICAL STROKEzsDOUBLE VERTICAL STROKE"),
   (0x2919, "aLEFTWARDS ARROW-TAILaRIGHTWARDS ARROW-TAILaLEFTWARDS DOUBLE ARROW-TAIL"),
   (0x291C, "aRIGHTWARDS DOUBLE ARROW-TAILaLEFTWARDS ARROW TO BLACK DIAMOND"),
   (0x291E, "aRIGHTWARDS ARROW TO BLACK DIAMONDaLEFTWARDS ARROW FROM BAR TO BLACK DIAMOND"),
   (0x2920, "aRIGHTWARDS ARROW FROM BAR TO BLACK DIAMONDaNORTH WEST AND SOUTH EAST ARROW"),
   (0x2922, "gEAST AND SOUTH WEST ARROWgWEST ARROW WITH HOOKgEAST ARROW WITH HOOK"),
   (0x2925, "aSOUTH EAST ARROW WITH HOOKgWEST ARROW WITH HOOK"),
   (0x2927, "aNORTH WEST ARROW AND NORTH EAST ARROWgEAST ARROW AND SOUTH EAST ARROW"),
   (0x2929, "aSOUTH EAST ARROW AND SOUTH WEST ARROWgWEST ARROW AND NORTH WEST ARROW"),
   (0x292B, "aRISING DIAGONAL CROSSING FALLING DIAGONALaFALLING DIAGONAL CROSSING RISING DIAGONAL"),
   (0x292D, "aSOUTH EAST ARROW CROSSING NORTH EAST ARROW"),
   (0x292E, "aNORTH EAST ARROW CROSSING SOUTH EAST ARROW"),
   (0x292F, "aFALLING DIAGONAL CROSSING NORTH EAST ARROW"),
   (0x2930, "aRISING DIAGONAL CROSSING SOUTH EAST ARROW"),
   (0x2931, "aNORTH EAST ARROW CROSSING NORTH WEST ARROWgWEST ARROW CROSSING NORTH EAST ARROW"),
   (0x2933, "aWAVE ARROW POINTING DIRECTLY RIGHTaARROW POINTING RIGHTWARDS THEN CURVING UPWARDS"),
   (0x2935, "zoDOWNWARDSpDOWNWARDS THEN CURVING LEFTWARDSznRIGHTWARDS"),
   (0x2938, "aRIGHT-SIDE ARC CLOCKWISE ARROWaLEFT-SIDE ARC ANTICLOCKWISE ARROW"),
   (0x293A, "aTOP ARC ANTICLOCKWISE ARROWaBOTTOM ARC ANTICLOCKWISE ARROW"),
   (0x293C, "aTOP ARC CLOCKWISE ARROW WITH MINUSiANTICLOCKWISE ARROW WITH PLUS"),
   (0x293E, "aLOWER RIGHT SEMICIRCULAR CLOCKWISE ARROWgLEFT SEMICIRCULAR ANTICLOCKWISE ARROW"),
   (0x2940, "aANTICLOCKWISE CLOSED CIRCLE ARROWaCLOCKWISE CLOSED CIRCLE ARROW"),
   (0x2942, "aRIGHTWARDS ARROW ABOVE SHORT LEFTWARDS ARROW"),
   (0x2943, "aLEFTWARDS ARROW ABOVE SHORT RIGHTWARDS ARROW"),
   (0x2944, "aSHORT RIGHTWARDS ARROW ABOVE LEFTWARDS ARROWaRIGHTWARDS ARROW WITH PLUS BELOW"),
   (0x2946, "aLEFTWARDS ARROW WITH PLUS BELOWaRIGHTWARDS ARROW THROUGH X"),
   (0x2948, "aLEFT RIGHT ARROW THROUGH SMALL CIRCLEaUPWARDS TWO-HEADED ARROW FROM SMALL CIRCLE"),
   (0x294A, "aLEFT BARB UP RIGHT BARB DOWN HARPOONkDOWN RIGHT BARB UP HARPOON"),
   (0x294C, "aUP BARB RIGHT DOWN BARB LEFT HARPOONiLEFT DOWN BARB RIGHT HARPOON"),
   (0x294E, "aLEFT BARB UP RIGHT BARB UP HARPOONaUP BARB RIGHT DOWN BARB RIGHT HARPOON"),
   (0x2950, "aLEFT BARB DOWN RIGHT BARB DOWN HARPOONaUP BARB LEFT DOWN BARB LEFT HARPOON"),
   (0x2952, "aLEFTWARDS HARPOON WITH BARB UP TO BARaRIGHTWARDS HARPOON WITH BARB UP TO BAR"),
   (0x2954, "aUPWARDS HARPOON WITH BARB RIGHT TO BARaDOWNWARDS HARPOON WITH BARB RIGHT TO BAR"),
   (0x2956, "aLEFTWARDS HARPOON WITH BARB DOWN TO BARaRIGHTWARDS HARPOON WITH BARB DOWN TO BAR"),
   (0x2958, "aUPWARDS HARPOON WITH BARB LEFT TO BARaDOWNWARDS HARPOON WITH BARB LEFT TO BAR"),
   (0x295A, "aLEFTWARDS HARPOON WITH BARB UP FROM BARaRIGHTWARDS HARPOON WITH BARB UP FROM BAR"),
   (0x295C, "aUPWARDS HARPOON WITH BARB RIGHT FROM BARaDOWNWARDS HARPOON WITH BARB RIGHT FROM BAR"),
   (0x295E, "aLEFTWARDS HARPOON WITH BARB DOWN FROM BAR"),
   (0x295F, "aRIGHTWARDS HARPOON WITH BARB DOWN FROM BARaUPWARDS HARPOON WITH BARB LEFT FROM BAR"),
   (0x2961, "aDOWNWARDS HARPOON WITH BARB LEFT FROM BAR"),
   (0x2962, "aLEFTWARDS HARPOON WITH BARB UP ABOVE LEFTWARDS HARPOON WITH BARB DOWN"),
   (0x2963, "aUPWARDS HARPOON WITH BARB LEFT BESIDE UPWARDS HARPOON WITH BARB RIGHT"),
   (0x2964, "aRIGHTWARDS HARPOON WITH BARB UP ABOVE RIGHTWARDS HARPOON WITH BARB DOWN"),
   (0x2965, "aDOWNWARDS HARPOON WITH BARB LEFT BESIDE DOWNWARDS HARPOON WITH BARB RIGHT"),
   (0x2966, "aLEFTWARDS HARPOON WITH BARB UP ABOVE RIGHTWARDS HARPOON WITH BARB UP"),
   (0x2967, "zdDOWN ABOVE RIGHTWARDS HARPOON WITH BARB DOWN"),
   (0x2968, "aRIGHTWARDS HARPOON WITH BARB UP ABOVE LEFTWARDS HARPOON WITH BARB UP"),
   (0x2969, "zeDOWN ABOVE LEFTWARDS HARPOON WITH BARB DOWN"),
   (0x296A, "aLEFTWARDS HARPOON WITH BARB UP ABOVE LONG DASHzdDOWN BELOW LONG DASH"),
   (0x296C, "aRIGHTWARDS HARPOON WITH BARB UP ABOVE LONG DASHzeDOWN BELOW LONG DASH"),
   (0x296E, "aUPWARDS HARPOON WITH BARB LEFT BESIDE DOWNWARDS HARPOON WITH BARB RIGHT"),
   (0x296F, "aDOWNWARDS HARPOON WITH BARB LEFT BESIDE UPWARDS HARPOON WITH BARB RIGHT"),
   (0x2970, "aRIGHT DOUBLE ARROW WITH ROUNDED HEADaEQUALS SIGN ABOVE RIGHTWARDS ARROW"),
   (0x2972, "aTILDE OPERATOR ABOVE RIGHTWARDS ARROWaLEFTWARDS ARROW ABOVE TILDE OPERATOR"),
   (0x2974, "aRIGHTWARDS ARROW ABOVE TILDE OPERATORxALMOST EQUAL TO"),
   (0x2976, "aLESS-THAN ABOVE LEFTWARDS ARROWcFTWARDS ARROW THROUGH LESS-THAN"),
   (0x2978, "aGREATER-THAN ABOVE RIGHTWARDS ARROWaSUBSET ABOVE RIGHTWARDS ARROW"),
   (0x297A, "aLEFTWARDS ARROW THROUGH SUBSETaSUPERSET ABOVE LEFTWARDS ARROWaLEFT FISH TAIL"),
   (0x297D, "aRIGHT FISH TAILaUP FISH TAILaDOWN FISH TAILaTRIPLE VERTICAL BAR DELIMITER"),
   (0x2981, "aZ NOTATION SPOTlTYPE COLONaLEFT WHITE CURLY BRACKETaRIGHT WHITE CURLY BRACKET"),
   (0x2985, "aLEFT WHITE PARENTHESISaRIGHT WHITE PARENTHESISaZ NOTATION LEFT IMAGE BRACKET"),
   (0x2988, "lRIGHT IMAGE BRACKETlLEFT BINDING BRACKETlRIGHT BINDING BRACKET"),
   (0x298B, "aLEFT SQUARE BRACKET WITH UNDERBARaRIGHT SQUARE BRACKET WITH UNDERBAR"),
   (0x298D, "aLEFT SQUARE BRACKET WITH TICK IN TOP CORNER"),
   (0x298E, "aRIGHT SQUARE BRACKET WITH TICK IN BOTTOM CORNER"),
   (0x298F, "aLEFT SQUARE BRACKET WITH TICK IN BOTTOM CORNER"),
   (0x2990, "aRIGHT SQUARE BRACKET WITH TICK IN TOP CORNERaLEFT ANGLE BRACKET WITH DOT"),
   (0x2992, "aRIGHT ANGLE BRACKET WITH DOTaLEFT ARC LESS-THAN BRACKET"),
   (0x2994, "aRIGHT ARC GREATER-THAN BRACKETaDOUBLE LEFT ARC GREATER-THAN BRACKET"),
   (0x2996, "hRIGHT ARC LESS-THAN BRACKETaLEFT BLACK TORTOISE SHELL BRACKET"),
   (0x2998, "aRIGHT BLACK TORTOISE SHELL BRACKETaDOTTED FENCEaVERTICAL ZIGZAG LINE"),
   (0x299B, "aMEASURED ANGLE OPENING LEFTaRIGHT ANGLE VARIANT WITH SQUARE"),
   (0x299D, "aMEASURED RIGHT ANGLE WITH DOTaANGLE WITH S INSIDEbCUTE ANGLE"),
   (0x29A0, "aSPHERICAL ANGLE OPENING LEFTyUPaTURNED ANGLEaREVERSED ANGLEaANGLE WITH UNDERBAR"),
   (0x29A5, "aREVERSED ANGLE WITH UNDERBARaOBLIQUE ANGLE OPENING UPwDOWN"),
   (0x29A8, "aMEASURED ANGLE WITH OPEN ARM ENDING IN ARROW POINTING UP AND RIGHTzzlLEFT"),
   (0x29AA, "zzeDOWN AND RIGHTzznLEFTzzeRIGHT AND UPzzeLEFT AND UPzzeRIGHT AND DOWN"),
   (0x29AF, "zzeLEFT AND DOWNaREVERSED EMPTY SETaEMPTY SET WITH OVERBARpSMALL CIRCLE ABOVE"),
   (0x29B3, "pRIGHT ARROW ABOVEpLEFT ARROW ABOVEaCIRCLE WITH HORIZONTAL BARgD VERTICAL BAR"),
   (0x29B7, "iPARALLELiREVERSE SOLIDUSiPERPENDICULAR"),
   (0x29BA, "g DIVIDED BY HORIZONTAL BAR AND TOP HALF DIVIDED BY VERTICAL BARhWITH SUPERIMPOSED X"),
   (0x29BC, "gD ANTICLOCKWISE-ROTATED DIVISION SIGNaUP ARROW THROUGH CIRCLEaCIRCLED WHITE BULLET"),
   (0x29BF, "iBULLETiLESS-THANiGREATER-THANg WITH SMALL CIRCLE TO THE RIGHT"),
   (0x29C3, "mTWO HORIZONTAL STROKES TO THE RIGHTaSQUARED RISING DIAGONAL SLASH"),
   (0x29C5, "iFALLING DIAGONAL SLASHiASTERISKiSMALL CIRCLEjQUAREaTWO JOINED SQUARES"),
   (0x29CA, "bRIANGLE WITH DOT ABOVEoUNDERBARaS IN TRIANGLEaTRIANGLE WITH SERIFS AT BOTTOM"),
   (0x29CE, "aRIGHT TRIANGLE ABOVE LEFT TRIANGLEaLEFT TRIANGLE BESIDE VERTICAL BAR"),
   (0x29D0, "aVERTICAL BAR BESIDE RIGHT TRIANGLEaBOWTIE WITH LEFT HALF BLACKmRIGHT HALF BLACK"),
   (0x29D3, "bLACK BOWTIEaTIMES WITH LEFT HALF BLACKlRIGHT HALF BLACKaWHITE HOURGLASS"),
   (0x29D7, "aBLACK HOURGLASSaLEFT WIGGLY FENCEaRIGHT WIGGLY FENCEaLEFT DOUBLE WIGGLY FENCE"),
   (0x29DB, "aRIGHT DOUBLE WIGGLY FENCEaINCOMPLETE INFINITYaTIE OVER INFINITY"),
   (0x29DE, "aINFINITY NEGATED WITH VERTICAL BARaDOUBLE-ENDED MULTIMAP"),
   (0x29E0, "aSQUARE WITH CONTOURED OUTLINEaINCREASES ASaSHUFFLE PRODUCT"),
   (0x29E3, "aEQUALS SIGN AND SLANTED PARALLELzh WITH TILDE ABOVE"),
   (0x29E5, "aIDENTICAL TO AND SLANTED PARALLELaGLEICH STARKaTHERMODYNAMIC"),
   (0x29E8, "aDOWN-POINTING TRIANGLE WITH LEFT HALF BLACKzdRIGHT HALF BLACK"),
   (0x29EA, "aBLACK DIAMOND WITH DOWN ARROWgLOZENGEaWHITE CIRCLE WITH DOWN ARROW"),
   (0x29ED, "aBLACK CIRCLE WITH DOWN ARROWaERROR-BARRED WHITE SQUAREnBLACK SQUAREnWHITE DIAMOND"),
   (0x29F1, "nBLACK DIAMONDnWHITE CIRCLEnBLACK CIRCLEaRULE-DELAYEDbEVERSE SOLIDUS OPERATOR"),
   (0x29F6, "aSOLIDUS WITH OVERBARaREVERSE SOLIDUS WITH HORIZONTAL STROKEaBIG SOLIDUS"),
   (0x29F9, "eREVERSE SOLIDUSaDOUBLE PLUSaTRIPLE PLUSaLEFT-POINTING CURVED ANGLE BRACKET"),
   (0x29FD, "aRIGHT-POINTING CURVED ANGLE BRACKETaTINYaMINYaN-ARY CIRCLED DOT OPERATOR"),
   (0x2A01, "oPLUS OPERATORoTIMES OPERATORgUNION OPERATOR WITH DOTzbPLUS"),
   (0x2A05, "gSQUARE INTERSECTION OPERATORnUNION OPERATORaTWO LOGICAL AND OPERATORmOR OPERATOR"),
   (0x2A09, "aN-ARY TIMES OPERATORaMODULO TWO SUMaSUMMATION WITH INTEGRAL"),
   (0x2A0C, "aQUADRUPLE INTEGRAL OPERATORaFINITE PART INTEGRALaINTEGRAL WITH DOUBLE STROKE"),
   (0x2A0F, "jAVERAGE WITH SLASHaCIRCULATION FUNCTIONaANTICLOCKWISE INTEGRATION"),
   (0x2A12, "aLINE INTEGRATION WITH RECTANGULAR PATH AROUND POLEwSEMICIRCULAR PATH AROUND POLE"),
   (0x2A14, "rNOT INCLUDING THE POLEaINTEGRAL AROUND A POINT OPERATOR"),
   (0x2A16, "aQUATERNION INTEGRAL OPERATORaINTEGRAL WITH LEFTWARDS ARROW WITH HOOKoTIMES SIGN"),
   (0x2A19, "oINTERSECTIONoUNIONoOVERBARoUNDERBARaJOINaLARGE LEFT TRIANGLE OPERATOR"),
   (0x2A1F, "aZ NOTATION SCHEMA COMPOSITIONsPIPINGtROJECTIONaPLUS SIGN WITH SMALL CIRCLE ABOVE"),
   (0x2A23, "pCIRCUMFLEX ACCENT ABOVEpTILDE ABOVEpDOT BELOWpTILDE BELOWpSUBSCRIPT TWO"),
   (0x2A28, "pBLACK TRIANGLEaMINUS SIGN WITH COMMA ABOVEqDOT BELOWqFALLING DOTSqRISING DOTS"),
   (0x2A2D, "aPLUS SIGN IN LEFT HALF CIRCLEnRIGHT HALF CIRCLEaVECTOR OR CROSS PRODUCT"),
   (0x2A30, "aMULTIPLICATION SIGN WITH DOT ABOVEzUNDERBARaSEMIDIRECT PRODUCT WITH BOTTOM CLOSED"),
   (0x2A33, "bMASH PRODUCTaMULTIPLICATION SIGN IN LEFT HALF CIRCLExRIGHT HALF CIRCLE"),
   (0x2A36, "aCIRCLED MULTIPLICATION SIGN WITH CIRCUMFLEX ACCENT"),
   (0x2A37, "aMULTIPLICATION SIGN IN DOUBLE CIRCLEaCIRCLED DIVISION SIGNaPLUS SIGN IN TRIANGLE"),
   (0x2A3A, "aMINUS SIGN IN TRIANGLEbULTIPLICATION SIGN IN TRIANGLEaINTERIOR PRODUCT"),
   (0x2A3D, "aRIGHTHAND INTERIOR PRODUCTaZ NOTATION RELATIONAL COMPOSITION"),
   (0x2A3F, "aAMALGAMATION OR COPRODUCTaINTERSECTION WITH DOTaUNION WITH MINUS SIGNlOVERBAR"),
   (0x2A43, "aINTERSECTION WITH OVERBARsLOGICAL ANDaUNION WITH LOGICAL ORgABOVE INTERSECTION"),
   (0x2A47, "aINTERSECTION ABOVE UNIONaUNION ABOVE BAR ABOVE INTERSECTION"),
   (0x2A49, "aINTERSECTION ABOVE BAR ABOVE UNIONaUNION BESIDE AND JOINED WITH UNION"),
   (0x2A4B, "aINTERSECTION BESIDE AND JOINED WITH INTERSECTIONaCLOSED UNION WITH SERIFS"),
   (0x2A4D, "hINTERSECTION WITH SERIFSaDOUBLE SQUARE INTERSECTIONoUNION"),
   (0x2A50, "aCLOSED UNION WITH SERIFS AND SMASH PRODUCTaLOGICAL AND WITH DOT ABOVE"),
   (0x2A52, "iOR WITH DOT ABOVEaDOUBLE LOGICAL ANDpORaTWO INTERSECTING LOGICAL ANDzOR"),
   (0x2A57, "aSLOPING LARGE ORoANDaLOGICAL OR OVERLAPPING LOGICAL ANDiAND WITH MIDDLE STEM"),
   (0x2A5B, "iOR WITH MIDDLE STEMiAND WITH HORIZONTAL DASHiOR WITH HORIZONTAL DASH"),
   (0x2A5E, "iAND WITH DOUBLE OVERBARrUNDERBARrDOUBLE UNDERBARaSMALL VEE WITH UNDERBAR"),
   (0x2A62, "aLOGICAL OR WITH DOUBLE OVERBARxUNDERBARaZ NOTATION DOMAIN ANTIRESTRICTION"),
   (0x2A65, "lRANGE ANTIRESTRICTIONaEQUALS SIGN WITH DOT BELOWaIDENTICAL WITH DOT ABOVE"),
   (0x2A68, "aTRIPLE HORIZONTAL BAR WITH DOUBLE VERTICAL STROKEzcTRIPLE VERTICAL STROKE"),
   (0x2A6A, "bILDE OPERATOR WITH DOT ABOVEuRISING DOTSaSIMILAR MINUS SIMILAR"),
   (0x2A6D, "aCONGRUENT WITH DOT ABOVEaEQUALS WITH ASTERISK"),
   (0x2A6F, "aALMOST EQUAL TO WITH CIRCUMFLEX ACCENTbPPROXIMATELY EQUAL OR EQUAL TO"),
   (0x2A71, "aEQUALS SIGN ABOVE PLUS SIGNaPLUS SIGN ABOVE EQUALS SIGN"),
   (0x2A73, "aEQUALS SIGN ABOVE TILDE OPERATORaDOUBLE COLON EQUALaTWO CONSECUTIVE EQUALS SIGNS"),
   (0x2A76, "bHREE CONSECUTIVE EQUALS SIGNSaEQUALS SIGN WITH TWO DOTS ABOVE AND TWO DOTS BELOW"),
   (0x2A78, "dIVALENT WITH FOUR DOTS ABOVEaLESS-THAN WITH CIRCLE INSIDE"),
   (0x2A7A, "aGREATER-THAN WITH CIRCLE INSIDEaLESS-THAN WITH QUESTION MARK ABOVE"),
   (0x2A7C, "aGREATER-THAN WITH QUESTION MARK ABOVEaLESS-THAN OR SLANTED EQUAL TO"),
   (0x2A7E, "aGREATER-THAN OR SLANTED EQUAL TOaLESS-THAN OR SLANTED EQUAL TO WITH DOT INSIDE"),
   (0x2A80, "aGREATER-THAN OR SLANTED EQUAL TO WITH DOT INSIDE"),
   (0x2A81, "aLESS-THAN OR SLANTED EQUAL TO WITH DOT ABOVE"),
   (0x2A82, "aGREATER-THAN OR SLANTED EQUAL TO WITH DOT ABOVE"),
   (0x2A83, "aLESS-THAN OR SLANTED EQUAL TO WITH DOT ABOVE RIGHT"),
   (0x2A84, "aGREATER-THAN OR SLANTED EQUAL TO WITH DOT ABOVE LEFTaLESS-THAN OR APPROXIMATE"),
   (0x2A86, "aGREATER-THAN OR APPROXIMATEaLESS-THAN AND SINGLE-LINE NOT EQUAL TO"),
   (0x2A88, "aGREATER-THAN AND SINGLE-LINE NOT EQUAL TOaLESS-THAN AND NOT APPROXIMATE"),
   (0x2A8A, "aGREATER-THAN AND NOT APPROXIMATE"),
   (0x2A8B, "aLESS-THAN ABOVE DOUBLE-LINE EQUAL ABOVE GREATER-THAN"),
   (0x2A8C, "aGREATER-THAN ABOVE DOUBLE-LINE EQUAL ABOVE LESS-THAN"),
   (0x2A8D, "aLESS-THAN ABOVE SIMILAR OR EQUALaGREATER-THAN ABOVE SIMILAR OR EQUAL"),
   (0x2A8F, "aLESS-THAN ABOVE SIMILAR ABOVE GREATER-THAN"),
   (0x2A90, "aGREATER-THAN ABOVE SIMILAR ABOVE LESS-THAN"),
   (0x2A91, "aLESS-THAN ABOVE GREATER-THAN ABOVE DOUBLE-LINE EQUAL"),
   (0x2A92, "aGREATER-THAN ABOVE LESS-THAN ABOVE DOUBLE-LINE EQUAL"),
   (0x2A93, "aLESS-THAN ABOVE SLANTED EQUAL ABOVE GREATER-THAN ABOVE SLANTED EQUAL"),
   (0x2A94, "aGREATER-THAN ABOVE SLANTED EQUAL ABOVE LESS-THAN ABOVE SLANTED EQUAL"),
   (0x2A95, "aSLANTED EQUAL TO OR LESS-THANuGREATER-THANuLESS-THAN WITH DOT INSIDE"),
   (0x2A98, "uGREATER-THAN WITH DOT INSIDEaDOUBLE-LINE EQUAL TO OR LESS-THANyGREATER-THAN"),
   (0x2A9B, "mSLANTED EQUAL TO OR LESS-THANzhGREATER-THANaSIMILAR OR LESS-THANlGREATER-THAN"),
   (0x2A9F, "iABOVE LESS-THAN ABOVE EQUALS SIGNoGREATER-THAN ABOVE EQUALS SIGN"),
   (0x2AA1, "aDOUBLE NESTED LESS-THANoGREATER-THANoLESS-THAN WITH UNDERBAR"),
   (0x2AA4, "aGREATER-THAN OVERLAPPING LESS-THANnBESIDE LESS-THANaLESS-THAN CLOSED BY CURVE"),
   (0x2AA7, "aGREATER-THAN CLOSED BY CURVEaLESS-THAN CLOSED BY CURVE ABOVE SLANTED EQUAL"),
   (0x2AA9, "aGREATER-THAN CLOSED BY CURVE ABOVE SLANTED EQUALaSMALLER THANaLARGER THAN"),
   (0x2AAC, "aSMALLER THAN OR EQUAL TOaLARGER THAN OR EQUAL TOaEQUALS SIGN WITH BUMPY ABOVE"),
   (0x2AAF, "aPRECEDES ABOVE SINGLE-LINE EQUALS SIGNaSUCCEEDS ABOVE SINGLE-LINE EQUALS SIGN"),
   (0x2AB1, "aPRECEDES ABOVE SINGLE-LINE NOT EQUAL TOaSUCCEEDS ABOVE SINGLE-LINE NOT EQUAL TO"),
   (0x2AB3, "aPRECEDES ABOVE EQUALS SIGNaSUCCEEDS ABOVE EQUALS SIGNaPRECEDES ABOVE NOT EQUAL TO"),
   (0x2AB6, "aSUCCEEDS ABOVE NOT EQUAL TOaPRECEDES ABOVE ALMOST EQUAL TO"),
   (0x2AB8, "aSUCCEEDS ABOVE ALMOST EQUAL TOaPRECEDES ABOVE NOT ALMOST EQUAL TO"),
   (0x2ABA, "aSUCCEEDS ABOVE NOT ALMOST EQUAL TOaDOUBLE PRECEDEShSUCCEEDSaSUBSET WITH DOT"),
   (0x2ABE, "cPERSET WITH DOTcBSET WITH PLUS SIGN BELOWcPERSET WITH PLUS SIGN BELOW"),
   (0x2AC1, "cBSET WITH MULTIPLICATION SIGN BELOWcPERSET WITH MULTIPLICATION SIGN BELOW"),
   (0x2AC3, "cBSET OF OR EQUAL TO WITH DOT ABOVEcPERSET OF OR EQUAL TO WITH DOT ABOVE"),
   (0x2AC5, "cBSET OF ABOVE EQUALS SIGNcPERSET OF ABOVE EQUALS SIGNcBSET OF ABOVE TILDE OPERATOR"),
   (0x2AC8, "cPERSET OF ABOVE TILDE OPERATORcBSET OF ABOVE ALMOST EQUAL TO"),
   (0x2ACA, "cPERSET OF ABOVE ALMOST EQUAL TOcBSET OF ABOVE NOT EQUAL TO"),
   (0x2ACC, "cPERSET OF ABOVE NOT EQUAL TObQUARE LEFT OPEN BOX OPERATORhRIGHT OPEN BOX OPERATOR"),
   (0x2ACF, "aCLOSED SUBSETjPERSETjBSET OR EQUAL TOjPERSET OR EQUAL TOaSUBSET ABOVE SUPERSET"),
   (0x2AD4, "cPERSET ABOVE SUBSETcBSET ABOVE SUBSETcPERSET ABOVE SUPERSETjBESIDE SUBSET"),
   (0x2AD8, "qAND JOINED BY DASH WITH SUBSETaELEMENT OF OPENING DOWNWARDSaPITCHFORK WITH TEE TOP"),
   (0x2ADB, "aTRANSVERSAL INTERSECTIONaFORKINGaNONFORKINGaSHORT LEFT TACKgDOWN TACKgUP TACK"),
   (0x2AE1, "aPERPENDICULAR WITH SaVERTICAL BAR TRIPLE RIGHT TURNSTILE"),
   (0x2AE3, "aDOUBLE VERTICAL BAR LEFT TURNSTILEaVERTICAL BAR DOUBLE LEFT TURNSTILE"),
   (0x2AE5, "aDOUBLE VERTICAL BAR DOUBLE LEFT TURNSTILE"),
   (0x2AE6, "aLONG DASH FROM LEFT MEMBER OF DOUBLE VERTICALaSHORT DOWN TACK WITH OVERBAR"),
   (0x2AE8, "gUP TACK WITH UNDERBARoABOVE SHORT DOWN TACKaDOUBLE DOWN TACKhUP TACK"),
   (0x2AEC, "hSTROKE NOT SIGNaREVERSED DOUBLE STROKE NOT SIGN"),
   (0x2AEE, "aDOES NOT DIVIDE WITH REVERSED NEGATION SLASHaVERTICAL LINE WITH CIRCLE ABOVEzbBELOW"),
   (0x2AF1, "aDOWN TACK WITH CIRCLE BELOWaPARALLEL WITH HORIZONTAL STROKEoTILDE OPERATOR"),
   (0x2AF4, "aTRIPLE VERTICAL BAR BINARY RELATIONuWITH HORIZONTAL STROKEhCOLON OPERATOR"),
   (0x2AF7, "hNESTED LESS-THANoGREATER-THANaDOUBLE-LINE SLANTED LESS-THAN OR EQUAL TO"),
   (0x2AFA, "uGREATER-THAN OR EQUAL TOaTRIPLE SOLIDUS BINARY RELATION"),
   (0x2AFC, "aLARGE TRIPLE VERTICAL BAR OPERATORaDOUBLE SOLIDUS OPERATORaWHITE VERTICAL BAR"),
   (0x2AFF, "aN-ARY WHITE VERTICAL BARbORTH EAST WHITE ARROWgWEST WHITE ARROW"),
   (0x2B02, "aSOUTH EAST WHITE ARROWgWEST WHITE ARROWaLEFT RIGHT WHITE ARROWeWARDS BLACK ARROW"),
   (0x2B06, "aUPWARDS BLACK ARROWaDOWNWARDS BLACK ARROWaNORTH EAST BLACK ARROWgWEST BLACK ARROW"),
   (0x2B0A, "aSOUTH EAST BLACK ARROWgWEST BLACK ARROWaLEFT RIGHT BLACK ARROWaUP DOWN BLACK ARROW"),
   (0x2B0E, "aRIGHTWARDS ARROW WITH TIP DOWNWARDSzbUPWARDSaLEFTWARDS ARROW WITH TIP DOWNWARDS"),
   (0x2B11, "zUPWARDSaSQUARE WITH TOP HALF BLACKmBOTTOM HALF BLACK"),
   (0x2B14, "mUPPER RIGHT DIAGONAL HALF BLACKmLOWER LEFT DIAGONAL HALF BLACK"),
   (0x2B16, "aDIAMOND WITH LEFT HALF BLACKnRIGHT HALF BLACKnTOP HALF BLACKnBOTTOM HALF BLACK"),
   (0x2B1A, "bOTTED SQUAREaBLACK LARGE SQUAREaWHITE LARGE SQUAREaBLACK VERY SMALL SQUARE"),
   (0x2B1E, "aWHITE VERY SMALL SQUAREaBLACK PENTAGONaWHITE PENTAGONgHEXAGONaBLACK HEXAGON"),
   (0x2B23, "aHORIZONTAL BLACK HEXAGONaBLACK LARGE CIRCLEgMEDIUM DIAMONDaWHITE MEDIUM DIAMOND"),
   (0x2B27, "aBLACK MEDIUM LOZENGEaWHITE MEDIUM LOZENGEaBLACK SMALL DIAMONDmLOZENGE"),
   (0x2B2B, "aWHITE SMALL LOZENGEaBLACK HORIZONTAL ELLIPSEaWHITE HORIZONTAL ELLIPSE"),
   (0x2B2E, "aBLACK VERTICAL ELLIPSEaWHITE VERTICAL ELLIPSEaLEFT ARROW WITH SMALL CIRCLE"),
   (0x2B31, "aTHREE LEFTWARDS ARROWSaLEFT ARROW WITH CIRCLED PLUSbONG LEFTWARDS SQUIGGLE ARROW"),
   (0x2B34, "bEFTWARDS TWO-HEADED ARROW WITH VERTICAL STROKEzhDOUBLE VERTICAL STROKEzcFROM BAR"),
   (0x2B37, "vTRIPLE DASH ARROWkARROW WITH DOTTED STEMvTAIL WITH VERTICAL STROKE"),
   (0x2B3A, "zgDOUBLE VERTICAL STROKEkTWO-HEADED ARROW WITH TAILzl WITH VERTICAL STROKE"),
   (0x2B3D, "zrDOUBLE VERTICAL STROKEkARROW THROUGH XaWAVE ARROW POINTING DIRECTLY LEFT"),
   (0x2B40, "aEQUALS SIGN ABOVE LEFTWARDS ARROWaREVERSE TILDE OPERATOR ABOVE LEFTWARDS ARROW"),
   (0x2B42, "aLEFTWARDS ARROW ABOVE REVERSE ALMOST EQUAL TOaRIGHTWARDS ARROW THROUGH GREATER-THAN"),
   (0x2B44, "zSUPERSETaLEFTWARDS QUADRUPLE ARROWaRIGHTWARDS QUADRUPLE ARROW"),
   (0x2B47, "bEVERSE TILDE OPERATOR ABOVE RIGHTWARDS ARROW"),
   (0x2B48, "bIGHTWARDS ARROW ABOVE REVERSE ALMOST EQUAL TOaTILDE OPERATOR ABOVE LEFTWARDS ARROW"),
   (0x2B4A, "aLEFTWARDS ARROW ABOVE ALMOST EQUAL TOwREVERSE TILDE OPERATOR"),
   (0x2B4C, "aRIGHTWARDS ARROW ABOVE REVERSE TILDE OPERATOR"),
   (0x2B4D, "aDOWNWARDS TRIANGLE-HEADED ZIGZAG ARROWaSHORT SLANTED NORTH ARROW"),
   (0x2B4F, "gBACKSLANTED SOUTH ARROWaWHITE MEDIUM STARaBLACK SMALL STARaWHITE SMALL STAR"),
   (0x2B53, "aBLACK RIGHT-POINTING PENTAGONaWHITE RIGHT-POINTING PENTAGONaHEAVY LARGE CIRCLE"),
   (0x2B56, "gOVAL WITH OVAL INSIDEgCIRCLE WITH CIRCLE INSIDElEmD SALTIRE"),
   (0x2B5A, "aSLANTED NORTH ARROW WITH HOOKED HEADaBACKSLANTED SOUTH ARROW WITH HOOKED TAIL"),
   (0x2B5C, "aSLANTED NORTH ARROW WITH HORIZONTAL TAIL"),
   (0x2B5D, "aBACKSLANTED SOUTH ARROW WITH HORIZONTAL TAIL"),
   (0x2B5E, "bENT ARROW POINTING DOWNWARDS THEN NORTH EAST"),
   (0x2B5F, "aSHORT BENT ARROW POINTING DOWNWARDS THEN NORTH EASTaLEFTWARDS TRIANGLE-HEADED ARROW"),
   (0x2B61, "aUPWARDS TRIANGLE-HEADED ARROWaRIGHTWARDS TRIANGLE-HEADED ARROW"),
   (0x2B63, "aDOWNWARDS TRIANGLE-HEADED ARROWaLEFT RIGHT TRIANGLE-HEADED ARROW"),
   (0x2B65, "aUP DOWN TRIANGLE-HEADED ARROWaNORTH WEST TRIANGLE-HEADED ARROW"),
   (0x2B67, "gEAST TRIANGLE-HEADED ARROWaSOUTH EAST TRIANGLE-HEADED ARROW"),
   (0x2B69, "gWEST TRIANGLE-HEADED ARROWaLEFTWARDS TRIANGLE-HEADED DASHED ARROW"),
   (0x2B6B, "aUPWARDS TRIANGLE-HEADED DASHED ARROWaRIGHTWARDS TRIANGLE-HEADED DASHED ARROW"),
   (0x2B6D, "aDOWNWARDS TRIANGLE-HEADED DASHED ARROWaCLOCKWISE TRIANGLE-HEADED OPEN CIRCLE ARROW"),
   (0x2B6F, "aANTICLOCKWISE TRIANGLE-HEADED OPEN CIRCLE ARROW"),
   (0x2B70, "aLEFTWARDS TRIANGLE-HEADED ARROW TO BARaUPWARDS TRIANGLE-HEADED ARROW TO BAR"),
   (0x2B72, "aRIGHTWARDS TRIANGLE-HEADED ARROW TO BARaDOWNWARDS TRIANGLE-HEADED ARROW TO BAR"),
   (0x2B76, "aNORTH WEST TRIANGLE-HEADED ARROW TO BARgEAST TRIANGLE-HEADED ARROW TO BAR"),
   (0x2B78, "aSOUTH EAST TRIANGLE-HEADED ARROW TO BARgWEST TRIANGLE-HEADED ARROW TO BAR"),
   (0x2B7A, "aLEFTWARDS TRIANGLE-HEADED ARROW WITH DOUBLE HORIZONTAL STROKE"),
   (0x2B7B, "aUPWARDS TRIANGLE-HEADED ARROW WITH DOUBLE HORIZONTAL STROKE"),
   (0x2B7C, "aRIGHTWARDS TRIANGLE-HEADED ARROW WITH DOUBLE HORIZONTAL STROKE"),
   (0x2B7D, "aDOWNWARDS TRIANGLE-HEADED ARROW WITH DOUBLE HORIZONTAL STROKEaHORIZONTAL TAB KEY"),
   (0x2B7F, "aVERTICAL TAB KEY"),
   (0x2B80, "aLEFTWARDS TRIANGLE-HEADED ARROW OVER RIGHTWARDS TRIANGLE-HEADED ARROW"),
   (0x2B81, "aUPWARDS TRIANGLE-HEADED ARROW LEFTWARDS OF DOWNWARDS TRIANGLE-HEADED ARROW"),
   (0x2B82, "aRIGHTWARDS TRIANGLE-HEADED ARROW OVER LEFTWARDS TRIANGLE-HEADED ARROW"),
   (0x2B83, "aDOWNWARDS TRIANGLE-HEADED ARROW LEFTWARDS OF UPWARDS TRIANGLE-HEADED ARROW"),
   (0x2B84, "aLEFTWARDS TRIANGLE-HEADED PAIRED ARROWSaUPWARDS TRIANGLE-HEADED PAIRED ARROWS"),
   (0x2B86, "aRIGHTWARDS TRIANGLE-HEADED PAIRED ARROWSaDOWNWARDS TRIANGLE-HEADED PAIRED ARROWS"),
   (0x2B88, "aLEFTWARDS BLACK CIRCLED WHITE ARROWaUPWARDS BLACK CIRCLED WHITE ARROW"),
   (0x2B8A, "aRIGHTWARDS BLACK CIRCLED WHITE ARROWaDOWNWARDS BLACK CIRCLED WHITE ARROW"),
   (0x2B8C, "aANTICLOCKWISE TRIANGLE-HEADED RIGHT U-SHAPED ARROWzfBOTTOM U-SHAPED ARROW"),
   (0x2B8E, "zfLEFT U-SHAPED ARROWzfTOP U-SHAPED ARROWaRETURN LEFThRIGHTaNEWLINE LEFTiRIGHT"),
   (0x2B94, "aFOUR CORNER ARROWS CIRCLING ANTICLOCKWISEaRIGHTWARDS BLACK ARROW"),
   (0x2B97, "aSYMBOL FOR TYPE A ELECTRONICSaTHREE-D TOP-LIGHTED LEFTWARDS EQUILATERAL ARROWHEAD"),
   (0x2B99, "iRIGHT-LIGHTED UPWARDS EQUILATERAL ARROWHEAD"),
   (0x2B9A, "iTOP-LIGHTED RIGHTWARDS EQUILATERAL ARROWHEAD"),
   (0x2B9B, "iLEFT-LIGHTED DOWNWARDS EQUILATERAL ARROWHEADaBLACK LEFTWARDS EQUILATERAL ARROWHEAD"),
   (0x2B9D, "gUPWARDS EQUILATERAL ARROWHEADgRIGHTWARDS EQUILATERAL ARROWHEAD"),
   (0x2B9F, "gDOWNWARDS EQUILATERAL ARROWHEAD"),
   (0x2BA0, "aDOWNWARDS TRIANGLE-HEADED ARROW WITH LONG TIP LEFTWARDSzvRIGHTWARDS"),
   (0x2BA2, "aUPWARDS TRIANGLE-HEADED ARROW WITH LONG TIP LEFTWARDSztRIGHTWARDS"),
   (0x2BA4, "aLEFTWARDS TRIANGLE-HEADED ARROW WITH LONG TIP UPWARDS"),
   (0x2BA5, "aRIGHTWARDS TRIANGLE-HEADED ARROW WITH LONG TIP UPWARDS"),
   (0x2BA6, "aLEFTWARDS TRIANGLE-HEADED ARROW WITH LONG TIP DOWNWARDS"),
   (0x2BA7, "aRIGHTWARDS TRIANGLE-HEADED ARROW WITH LONG TIP DOWNWARDS"),
   (0x2BA8, "aBLACK CURVED DOWNWARDS AND LEFTWARDS ARROWzcRIGHTWARDS ARROW"),
   (0x2BAA, "nUPWARDS AND LEFTWARDS ARROWzRIGHTWARDS ARROWnLEFTWARDS AND UPWARDS ARROW"),
   (0x2BAD, "nRIGHTWARDS AND UPWARDS ARROWnLEFTWARDS AND DOWNWARDS ARROW"),
   (0x2BAF, "nRIGHTWARDS AND DOWNWARDS ARROWaRIBBON ARROW DOWN LEFTsRIGHTnUP LEFTqRIGHTnLEFT UP"),
   (0x2BB5, "nRIGHT UPnLEFT DOWNnRIGHT DOWNaUPWARDS WHITE ARROW FROM BAR WITH HORIZONTAL BAR"),
   (0x2BB9, "c ARROWHEAD IN A RECTANGLE BOXaOVERLAPPING WHITE SQUARESsAND BLACK SQUARES"),
   (0x2BBC, "mBLACK SQUARESaBALLOT BOX WITH LIGHT XaCIRCLED XiBOLD XaBLACK SQUARE CENTRED"),
   (0x2BC1, "gDIAMOND CENTREDaTURNED BLACK PENTAGONaHORIZONTAL BLACK OCTAGONaBLACK OCTAGON"),
   (0x2BC5, "gMEDIUM UP-POINTING TRIANGLE CENTREDnDOWN-POINTING TRIANGLE CENTRED"),
   (0x2BC7, "nLEFT-POINTING TRIANGLE CENTREDnRIGHT-POINTING TRIANGLE CENTREDaNEPTUNE FORM TWO"),
   (0x2BCA, "aTOP HALF BLACK CIRCLEaBOTTOM HALF BLACK CIRCLEaLIGHT FOUR POINTED BLACK CUSP"),
   (0x2BCD, "aROTATED LIGHT FOUR POINTED BLACK CUSPaWHITE FOUR POINTED CUSP"),
   (0x2BCF, "aROTATED WHITE FOUR POINTED CUSPaSQUARE POSITION INDICATORaUNCERTAINTY SIGN"),
   (0x2BD2, "aGROUP MARKaPLUTO FORM TWOmHREElFOURmIVEaTRANSPLUTOaPROSERPINAaASTRAEAaHYGIEAaPHOLUS"),
   (0x2BDC, "aNESSUSaWHITE MOON SELENAaBLACK DIAMOND ON CROSSaTRUE LIGHT MOON ARTAaCUPIDOaHADES"),
   (0x2BE2, "aZEUSaKRONOSaAPOLLONbDMETOSaVULCANUSaPOSEIDONaLEFT HALF BLACK STAR"),
   (0x2BE9, "aRIGHT HALF BLACK STARaSTAR WITH LEFT HALF BLACKkRIGHT HALF BLACK"),
   (0x2BEC, "aLEFTWARDS TWO-HEADED ARROW WITH TRIANGLE ARROWHEADS"),
   (0x2BED, "aUPWARDS TWO-HEADED ARROW WITH TRIANGLE ARROWHEADS"),
   (0x2BEE, "aRIGHTWARDS TWO-HEADED ARROW WITH TRIANGLE ARROWHEADS"),
   (0x2BEF, "aDOWNWARDS TWO-HEADED ARROW WITH TRIANGLE ARROWHEADSaERIS FORM ONEkTWOaSEDNA"),
   (0x2BF3, "aRUSSIAN ASTROLOGICAL SYMBOL VIGINTILEzdNOVILEzdQUINTILEzdBINOVILEzdSENTAGON"),
   (0x2BF8, "zdTREDECILEaEQUALS SIGN WITH INFINITY BELOWaUNITED SYMBOLaSEPARATED SYMBOL"),
   (0x2BFC, "aDOUBLED SYMBOLaPASSED SYMBOLaREVERSED RIGHT ANGLEaHELLSCHREIBER PAUSE SYMBOL"),
   (0x2C00, "aGLAGOLITIC CAPITAL LETTER AZUzbBUKYzbVEDEzbGLAGOLIzbDOBROzbYESTUzbZHIVETEzbDZELO"),
   (0x2C08, "zbZEMLJAzbIZHEzcNITIAL IZHEzbIzbDJERVIzbKAKOzbLJUDIJEzbMYSLITEzbNASHIzbONUzbPOKOJI"),
   (0x2C13, "zbRITSIzbSLOVOzbTVRIDOzbUKUzbFRITUzbHERUzbOTUzbPEzbSHTAzbTSIzbCHRIVIzbSHAzbYERUzeI"),
   (0x2C21, "zcATIzbSPIDERY HAzbYUzbSMALL YUSzk WITH TAILzbYOzbIOTATED SMALL YUSzbBIG YUS"),
   (0x2C29, "zbIOTATED BIG YUSzbFITAzbIZHITSAzbSHTAPICzbTROKUTASTI AzbLATINATE MYSLITE"),
   (0x2C2F, "zbCAUDATE CHRIVIlSMALL LETTER AZUyBUKYyVEDEyGLAGOLIyDOBROyYESTUyZHIVETEyDZELOyZEMLJA"),
   (0x2C39, "yIZHEzNITIAL IZHEyIyDJERVIyKAKOyLJUDIJEyMYSLITEyNASHIyONUyPOKOJIyRITSIySLOVOyTVRIDO"),
   (0x2C46, "yUKUyFRITUyHERUyOTUyPEySHTAyTSIyCHRIVIySHAyYERUzcIzATIySPIDERY HAyYUySMALL YUS"),
   (0x2C55, "zi WITH TAILyYOyIOTATED SMALL YUSyBIG YUSyIOTATED BIG YUSyFITAyIZHITSAySHTAPIC"),
   (0x2C5D, "yTROKUTASTI AyLATINATE MYSLITEyCAUDATE CHRIVIaLATIN CAPITAL LETTER L WITH DOUBLE BAR"),
   (0x2C61, "gSMALL LETTER L WITH DOUBLE BARgCAPITAL LETTER L WITH MIDDLE TILDEvP WITH STROKE"),
   (0x2C64, "vR WITH TAILgSMALL LETTER A WITH STROKEtT WITH DIAGONAL STROKE"),
   (0x2C67, "gCAPITAL LETTER H WITH DESCENDERgSMALL LETTER H WITH DESCENDER"),
   (0x2C69, "gCAPITAL LETTER K WITH DESCENDERgSMALL LETTER K WITH DESCENDER"),
   (0x2C6B, "gCAPITAL LETTER Z WITH DESCENDERgSMALL LETTER Z WITH DESCENDERgCAPITAL LETTER ALPHA"),
   (0x2C6E, "vM WITH HOOKvTURNED AzeLPHAgSMALL LETTER V WITH RIGHT HOOK"),
   (0x2C72, "gCAPITAL LETTER W WITH HOOKgSMALL LETTER W WITH HOOKtV WITH CURL"),
   (0x2C75, "gCAPITAL LETTER HALF HgSMALL LETTER HALF HtTAILLESS PHItE WITH NOTCH"),
   (0x2C79, "tTURNED R WITH TAILtO WITH LOW RING INSIDEgLETTER SMALL CAPITAL TURNED E"),
   (0x2C7C, "gSUBSCRIPT SMALL LETTER JaMODIFIER LETTER CAPITAL V"),
   (0x2C7E, "aLATIN CAPITAL LETTER S WITH SWASH TAILvZ WITH SWASH TAILaCOPTIC CAPITAL LETTER ALFA"),
   (0x2C81, "hSMALL LETTER ALFAhCAPITAL LETTER VIDAhSMALL LETTER VIDAhCAPITAL LETTER GAMMA"),
   (0x2C85, "hSMALL LETTER GAMMAhCAPITAL LETTER DALDAhSMALL LETTER DALDAhCAPITAL LETTER EIE"),
   (0x2C89, "hSMALL LETTER EIEhCAPITAL LETTER SOUhSMALL LETTER SOUhCAPITAL LETTER ZATA"),
   (0x2C8D, "hSMALL LETTER ZATAhCAPITAL LETTER HATEhSMALL LETTER HATEhCAPITAL LETTER THETHE"),
   (0x2C91, "hSMALL LETTER THETHEhCAPITAL LETTER IAUDAhSMALL LETTER IAUDAhCAPITAL LETTER KAPA"),
   (0x2C95, "hSMALL LETTER KAPAhCAPITAL LETTER LAULAhSMALL LETTER LAULAhCAPITAL LETTER MI"),
   (0x2C99, "hSMALL LETTER MIhCAPITAL LETTER NIhSMALL LETTER NIhCAPITAL LETTER KSI"),
   (0x2C9D, "hSMALL LETTER KSIhCAPITAL LETTER OhSMALL LETTER OhCAPITAL LETTER PIhSMALL LETTER PI"),
   (0x2CA2, "hCAPITAL LETTER ROhSMALL LETTER ROhCAPITAL LETTER SIMAhSMALL LETTER SIMA"),
   (0x2CA6, "hCAPITAL LETTER TAUhSMALL LETTER TAUhCAPITAL LETTER UAhSMALL LETTER UA"),
   (0x2CAA, "hCAPITAL LETTER FIhSMALL LETTER FIhCAPITAL LETTER KHIhSMALL LETTER KHI"),
   (0x2CAE, "hCAPITAL LETTER PSIhSMALL LETTER PSIhCAPITAL LETTER OOUhSMALL LETTER OOU"),
   (0x2CB2, "hCAPITAL LETTER DIALECT-P ALEFhSMALL LETTER DIALECT-P ALEF"),
   (0x2CB4, "hCAPITAL LETTER OLD COPTIC AINhSMALL LETTER OLD COPTIC AIN"),
   (0x2CB6, "hCAPITAL LETTER CRYPTOGRAMMIC EIEhSMALL LETTER CRYPTOGRAMMIC EIE"),
   (0x2CB8, "hCAPITAL LETTER DIALECT-P KAPAhSMALL LETTER DIALECT-P KAPA"),
   (0x2CBA, "hCAPITAL LETTER DIALECT-P NIhSMALL LETTER DIALECT-P NI"),
   (0x2CBC, "hCAPITAL LETTER CRYPTOGRAMMIC NIhSMALL LETTER CRYPTOGRAMMIC NI"),
   (0x2CBE, "hCAPITAL LETTER OLD COPTIC OOUhSMALL LETTER OLD COPTIC OOUhCAPITAL LETTER SAMPI"),
   (0x2CC1, "hSMALL LETTER SAMPIhCAPITAL LETTER CROSSED SHEIhSMALL LETTER CROSSED SHEI"),
   (0x2CC4, "hCAPITAL LETTER OLD COPTIC SHEIhSMALL LETTER OLD COPTIC SHEI"),
   (0x2CC6, "hCAPITAL LETTER OLD COPTIC ESHhSMALL LETTER OLD COPTIC ESH"),
   (0x2CC8, "hCAPITAL LETTER AKHMIMIC KHEIhSMALL LETTER AKHMIMIC KHEI"),
   (0x2CCA, "hCAPITAL LETTER DIALECT-P HORIhSMALL LETTER DIALECT-P HORI"),
   (0x2CCC, "hCAPITAL LETTER OLD COPTIC HORIhSMALL LETTER OLD COPTIC HORI"),
   (0x2CCE, "hCAPITAL LETTER OLD COPTIC HAhSMALL LETTER OLD COPTIC HAhCAPITAL LETTER L-SHAPED HA"),
   (0x2CD1, "hSMALL LETTER L-SHAPED HAhCAPITAL LETTER OLD COPTIC HEIhSMALL LETTER OLD COPTIC HEI"),
   (0x2CD4, "hCAPITAL LETTER OLD COPTIC HAThSMALL LETTER OLD COPTIC HAT"),
   (0x2CD6, "hCAPITAL LETTER OLD COPTIC GANGIAhSMALL LETTER OLD COPTIC GANGIA"),
   (0x2CD8, "hCAPITAL LETTER OLD COPTIC DJAhSMALL LETTER OLD COPTIC DJA"),
   (0x2CDA, "hCAPITAL LETTER OLD COPTIC SHIMAhSMALL LETTER OLD COPTIC SHIMA"),
   (0x2CDC, "hCAPITAL LETTER OLD NUBIAN SHIMAhSMALL LETTER OLD NUBIAN SHIMA"),
   (0x2CDE, "hCAPITAL LETTER OLD NUBIAN NGIhSMALL LETTER OLD NUBIAN NGI"),
   (0x2CE0, "hCAPITAL LETTER OLD NUBIAN NYIhSMALL LETTER OLD NUBIAN NYI"),
   (0x2CE2, "hCAPITAL LETTER OLD NUBIAN WAUhSMALL LETTER OLD NUBIAN WAUiYMBOL KAIoMI ROoPI RO"),
   (0x2CE7, "oSTAUROSoTAU ROoKHI ROoSHIMA SIMAhCAPITAL LETTER CRYPTOGRAMMIC SHEI"),
   (0x2CEC, "hSMALL LETTER CRYPTOGRAMMIC SHEIhCAPITAL LETTER CRYPTOGRAMMIC GANGIA"),
   (0x2CEE, "hSMALL LETTER CRYPTOGRAMMIC GANGIAhCOMBINING NI ABOVErSPIRITUS ASPERzbLENIS"),
   (0x2CF2, "iAPITAL LETTER BOHAIRIC KHEIhSMALL LETTER BOHAIRIC KHEI"),
   (0x2CF9, "hOLD NUBIAN FULL STOPsDIRECT QUESTION MARKsINDIRECT QUESTION MARKsVERSE DIVIDER"),
   (0x2CFD, "hFRACTION ONE HALFiULL STOPhMORPHOLOGICAL DIVIDERaGEORGIAN SMALL LETTER ANwBANwGAN"),
   (0x2D03, "wDONwENwVINwZENwTANwINwKANwLASwMANwNARwONwPARwZHARwRAEwSANwTARwUNwPHARwKHARwGHANwQAR"),
   (0x2D18, "wSHINwCHINxANwJILwCILxHARwXANwJHANwHAExExIEwWEwHARxOE"),
   (0x2D27, "wYN"),
   (0x2D2D, "wAEN"),
   (0x2D30, "aTIFINAGH LETTER YAsBtHsGtHHqBERBER ACADEMY YAJqYAJsDtHtDuHrEYrAFsKqTUAREG YAKqYAKHH"),
   (0x2D40, "sHqBERBER ACADEMY YAHqTUAREG YAHqYAHHsAsKHqTUAREG YAKHqYAQqTUAREG YAQqYIrAZH"),
   (0x2D4B, "qAHAGGAR YAZHqTUAREG YAZHqYALsMsNqTUAREG YAGNzNGqYAPrUrARtRsGHqTUAREG YAGHqAYER YAGH"),
   (0x2D59, "qYAStStHsTtHsCHsTTsVsWsYsZqTAWELLEMET YAZqYAZZrErO"),
   (0x2D6F, "jMODIFIER LETTER LABIALIZATION MARKjSEPARATOR MARK"),
   (0x2D7F, "jCONSONANT JOINERaETHIOPIC SYLLABLE LOAsMOAsROAsSOAtHOAsBOAsTOAsCOAsNOAtYOA"),
   (0x2D8A, "sGLOTTAL OAsZOAsDOAtDOAsJOAsTHOAsCHOAsPHOAtOAsGGWAvIvEEvE"),
   (0x2DA0, "sSSAuUuIuAAuEEuEuO"),
   (0x2DA8, "sCCAuUuIuAAuEEuEuO"),
   (0x2DB0, "sZZAuUuIuAAuEEuEuO"),
   (0x2DB8, "sCCHAvUvIvAAvEEvEvO"),
   (0x2DC0, "sQYAuUuIuAAuEEuEuO"),
   (0x2DC8, "sKYAuUuIuAAuEEuEuO"),
   (0x2DD0, "sXYAuUuIuAAuEEuEuO"),
   (0x2DD8, "sGYAuUuIuAAuEEuEuO"),
   (0x2DE0, "aCOMBINING CYRILLIC LETTER BEzbVEzbGHEzbDEzbZHEzcEzbKAzbELzcMzcNzbOzbPEzbERzcSzbTE"),
   (0x2DEF, "zbHAzbTSEzbCHEzbSHAzdCHAzbFITAzbES-TEzbAzbIEzbDJERVzbMONOGRAPH UKzbYATzcU"),
   (0x2DFC, "zbIOTIFIED AzbLITTLE YUSzbBIG YUSzbIOTIFIED BIG YUSaRIGHT ANGLE SUBSTITUTION MARKER"),
   (0x2E01, "mDOTTED SUBSTITUTION MARKERaLEFT SUBSTITUTION BRACKETaRIGHT SUBSTITUTION BRACKET"),
   (0x2E04, "aLEFT DOTTED SUBSTITUTION BRACKETaRIGHT DOTTED SUBSTITUTION BRACKET"),
   (0x2E06, "bAISED INTERPOLATION MARKERhDOTTED INTERPOLATION MARKERaDOTTED TRANSPOSITION MARKER"),
   (0x2E09, "aLEFT TRANSPOSITION BRACKETaRIGHT TRANSPOSITION BRACKETbAISED SQUARE"),
   (0x2E0C, "aLEFT RAISED OMISSION BRACKETaRIGHT RAISED OMISSION BRACKETaEDITORIAL CORONIS"),
   (0x2E0F, "aPARAGRAPHOSaFORKED PARAGRAPHOSaREVERSED FORKED PARAGRAPHOSaHYPODIASTOLE"),
   (0x2E13, "aDOTTED OBELOScWNWARDS ANCORAaUPWARDS ANCORAaDOTTED RIGHT-POINTING ANGLE"),
   (0x2E17, "cUBLE OBLIQUE HYPHENaINVERTED INTERROBANGaPALM BRANCHaHYPHEN WITH DIAERESIS"),
   (0x2E1B, "aTILDE WITH RING ABOVEaLEFT LOW PARAPHRASE BRACKETaRIGHT LOW PARAPHRASE BRACKET"),
   (0x2E1E, "aTILDE WITH DOT ABOVEpBELOWaLEFT VERTICAL BAR WITH QUILL"),
   (0x2E21, "aRIGHT VERTICAL BAR WITH QUILLaTOP LEFT HALF BRACKETeRIGHT HALF BRACKET"),
   (0x2E24, "aBOTTOM LEFT HALF BRACKEThRIGHT HALF BRACKETaLEFT SIDEWAYS U BRACKET"),
   (0x2E27, "aRIGHT SIDEWAYS U BRACKETaLEFT DOUBLE PARENTHESISaRIGHT DOUBLE PARENTHESIS"),
   (0x2E2A, "aTWO DOTS OVER ONE DOT PUNCTUATIONaONE DOT OVER TWO DOTS PUNCTUATION"),
   (0x2E2C, "aSQUARED FOUR DOT PUNCTUATIONaFIVE DOT MARKaREVERSED QUESTION MARKaVERTICAL TILDE"),
   (0x2E30, "aRING POINTaWORD SEPARATOR MIDDLE DOTaTURNED COMMAaRAISED DOThCOMMAaTURNED SEMICOLON"),
   (0x2E36, "aDAGGER WITH LEFT GUARDmRIGHT GUARDaTURNED DAGGERbOP HALF SECTION SIGNbWO-EM DASH"),
   (0x2E3B, "bHREE-EM DASHaSTENOGRAPHIC FULL STOPaVERTICAL SIX DOTSaWIGGLY VERTICAL LINE"),
   (0x2E3F, "aCAPITULUMaDOUBLE HYPHENaREVERSED COMMAaDOUBLE LOW-REVERSED-9 QUOTATION MARK"),
   (0x2E43, "bASH WITH LEFT UPTURNbOUBLE SUSPENSION MARKaINVERTED LOW KAVYKAt WITH KAVYKA ABOVE"),
   (0x2E47, "aLOW KAVYKAk WITH DOTaDOUBLE STACKED COMMAcTTED SOLIDUSaTRIPLE DAGGERaMEDIEVAL COMMA"),
   (0x2E4D, "aPARAGRAPHUS MARKbUNCTUS ELEVATUS MARKaCORNISH VERSE DIVIDER"),
   (0x2E50, "bROSS PATTY WITH RIGHT CROSSBARrLEFT CROSSBARaTIRONIAN SIGN CAPITAL ET"),
   (0x2E53, "aMEDIEVAL EXCLAMATION MARKjQUESTION MARKaLEFT SQUARE BRACKET WITH STROKE"),
   (0x2E56, "aRIGHT SQUARE BRACKET WITH STROKEaLEFT SQUARE BRACKET WITH DOUBLE STROKE"),
   (0x2E58, "aRIGHT SQUARE BRACKET WITH DOUBLE STROKEaTOP HALF LEFT PARENTHESISjRIGHT PARENTHESIS"),
   (0x2E5B, "aBOTTOM HALF LEFT PARENTHESISmRIGHT PARENTHESISaOBLIQUE HYPHEN"),
   (0x2E80, "aCJK RADICAL REPEATmCLIFFmSECOND ONEtTWOuHREEmPERSONmBOXmTABLEmKNIFE ONEsTWO"),
   (0x2E8A, "mDIVINATIONmSEALnMALL ONEsTWOmLAME ONErTWOsHREErFOURmSNAKEmTHREADmSNOUT ONEsTWO"),
   (0x2E96, "mHEART ONEsTWOnANDmRAP"),
   (0x2E9B, "mCHOKEmSUNmMOONmDEATHmMOTHERmCIVILIANmWATER ONEsTWOmFIREmPAW ONEqTWO"),
   (0x2EA6, "mSIMPLIFIED HALF TREE TRUNKmCOWmDOGmJADEmBOLT OF CLOTHmEYEmSPIRIT ONEtTWOmBAMBOO"),
   (0x2EAF, "mSILKmC-SIMPLIFIED SILKmNET ONEqTWOrHREEqFOURmMESHmSHEEPmRAMmEWEmOLDmBRUSH ONEsTWO"),
   (0x2EBC, "mMEATnORTARmGRASS ONEsTWOtHREEmTIGERmCLOTHESmWEST ONErTWOmC-SIMPLIFIED SEE"),
   (0x2EC6, "mSIMPLIFIED HORNmHORNmC-SIMPLIFIED SPEECHzbHELLmFOOTmC-SIMPLIFIED CART"),
   (0x2ECC, "mSIMPLIFIED WALKmWALK ONErTWOmCITYn-SIMPLIFIED GOLDmLONG ONErTWOmC-SIMPLIFIED LONG"),
   (0x2ED4, "zGATEmMOUND ONEsTWOmRAINmBLUEmC-SIMPLIFIED TANNED LEATHERzLEAFzWINDzFLYmEAT ONEqTWO"),
   (0x2EDF, "rHREEmC-SIMPLIFIED EATmHEADmC-SIMPLIFIED HORSEmBONEmGHOSTmC-SIMPLIFIED FISHzBIRD"),
   (0x2EE7, "zSALTmSIMPLIFIED WHEATxYELLOWmC-SIMPLIFIED FROGmJ-SIMPLIFIED EVENmC-SIMPLIFIED EVEN"),
   (0x2EED, "mJ-SIMPLIFIED TOOTHmC-SIMPLIFIED TOOTHmJ-SIMPLIFIED DRAGONmC-SIMPLIFIED DRAGON"),
   (0x2EF1, "mTURTLEmJ-SIMPLIFIED TURTLEmC-SIMPLIFIED TURTLE"),
   (0x2F00, "aKANGXI RADICAL ONEpLINEpDOTpSLASHqECONDpHOOKpTWOpLIDpMANpLEGSpENTERqIGHTpDOWN BOX"),
   (0x2F0D, "pCOVERpICEpTABLEpOPEN BOXpKNIFEpPOWERpWRAPpSPOONpRIGHT OPEN BOXpHIDING ENCLOSUREpTEN"),
   (0x2F18, "pDIVINATIONpSEALpCLIFFpPRIVATEpAGAINpMOUTHpENCLOSUREqARTHpSCHOLARpGOr SLOWLYpEVENING"),
   (0x2F24, "pBIGpWOMANpCHILDpROOFpINCHpSMALLpLAMEpCORPSEpSPROUTpMOUNTAINpRIVERpWORKpONESELF"),
   (0x2F31, "pTURBANpDRYpSHORT THREADpDOTTED CLIFFpLONG STRIDEpTWO HANDSpSHOOTpBOWpSNOUTpBRISTLE"),
   (0x2F3B, "pSTEPpHEARTqALBERDpDOORpHANDpBRANCHpRAPpSCRIPTpDIPPERpAXEpSQUAREpNOTpSUNqAYpMOON"),
   (0x2F4A, "pTREEpLACKpSTOPpDEATHpWEAPONpDO NOTpCOMPAREpFURpCLANpSTEAMpWATERpFIREpCLAWpFATHER"),
   (0x2F58, "pDOUBLE XpHALF TREE TRUNKpSLICEpFANGpCOWpDOGpPROFOUNDpJADEpMELONpTILEpSWEETpLIFEpUSE"),
   (0x2F65, "pFIELDpBOLT OF CLOTHpSICKNESSpDOTTED TENTpWHITEpSKINpDISHpEYEpSPEARpARROWpSTONE"),
   (0x2F70, "qPIRITpTRACKpGRAINpCAVEpSTANDpBAMBOOpRICEpSILKpJARpNETpSHEEPpFEATHERpOLDpANDpPLOW"),
   (0x2F7F, "pEARpBRUSHpMEATqINISTERpSELFpARRIVEpMORTARpTONGUEpOPPOSEpBOATpSTOPPINGpCOLORpGRASS"),
   (0x2F8C, "pTIGERpINSECTpBLOODpWALK ENCLOSUREpCLOTHESpWESTpSEEpHORNpSPEECHpVALLEYpBEANpPIG"),
   (0x2F98, "pBADGERpSHELLpREDqUNpFOOTpBODYpCARTpBITTERpMORNINGpWALKpCITYpWINEpDISTINGUISH"),
   (0x2FA5, "pVILLAGEpGOLDpLONGpGATEpMOUNDpSLAVEqHORT TAILED BIRDpRAINpBLUEpWRONGpFACEpLEATHER"),
   (0x2FB1, "pTANNED LEATHERpLEEKpSOUNDpLEAFpWINDpFLYpEATpHEADpFRAGRANTpHORSEpBONEpTALLpHAIR"),
   (0x2FBE, "pFIGHTpSACRIFICIAL WINEpCAULDRONpGHOSTpFISHpBIRDpSALTpDEERpWHEATpHEMPpYELLOWpMILLET"),
   (0x2FCA, "pBLACKpEMBROIDERYpFROGpTRIPODpDRUMpRATpNOSEpEVENpTOOTHpDRAGONpTURTLEpFLUTE"),
   (0x2FF0, "aIDEOGRAPHIC DESCRIPTION CHARACTER LEFT TO RIGHTzjABOVE TO BELOW"),
   (0x2FF2, "zjLEFT TO MIDDLE AND RIGHTzjABOVE TO MIDDLE AND BELOWzjFULL SURROUND"),
   (0x2FF5, "zjSURROUND FROM ABOVEzxBELOWzxLEFTzxUPPER LEFTzzeRIGHTzxLOWER LEFTzjOVERLAID")]

end HtGate.Text.CharacterName
