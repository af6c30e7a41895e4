/-!
# Names of characters from U+1F000 to U+10FFFF

The names in the order of code points, as strings of names that follow one another from a code point on.
The small letters before a name say how many characters it has in common with the name before it, which
are left out.
-/

namespace HtGate.Text.CharacterName

/-- The names from U+1F000 to U+10FFFF. -/
def from1F000 : List (Nat × String) :=
  [(0x1F000, "aMAHJONG TILE EAST WINDnSOUTH WINDnWEST WINDnNORTH WINDnRED DRAGONnGREEN DRAGON"),
   (0x1F006, "nWHITE DRAGONnONE OF CHARACTERSnTWO OF CHARACTERSoHREE OF CHARACTERS"),
   (0x1F00A, "nFOUR OF CHARACTERSoIVE OF CHARACTERSnSIX OF CHARACTERSoEVEN OF CHARACTERS"),
   (0x1F00E, "nEIGHT OF CHARACTERSnNINE OF CHARACTERSnONE OF BAMBOOSnTWO OF BAMBOOS"),
   (0x1F012, "oHREE OF BAMBOOSnFOUR OF BAMBOOSoIVE OF BAMBOOSnSIX OF BAMBOOSoEVEN OF BAMBOOS"),
   (0x1F017, "nEIGHT OF BAMBOOSnNINE OF BAMBOOSnONE OF CIRCLESnTWO OF CIRCLESoHREE OF CIRCLES"),
   (0x1F01C, "nFOUR OF CIRCLESoIVE OF CIRCLESnSIX OF CIRCLESoEVEN OF CIRCLESnEIGHT OF CIRCLES"),
   (0x1F021, "nNINE OF CIRCLESnPLUMnORCHIDnBAMBOOnCHRYSANTHEMUMnSPRINGoUMMERnAUTUMNnWINTERnJOKER"),
   (0x1F02B, "nBACK"),
   (0x1F030, "aDOMINO TILE HORIZONTAL BACKw-00-00zc1zc2zc3zc4zc5zc6y1-00zc1zc2zc3zc4zc5zc6y2-00zc1"),
   (0x1F041, "zc2zc3zc4zc5zc6y3-00zc1zc2zc3zc4zc5zc6y4-00zc1zc2zc3zc4zc5zc6y5-00zc1zc2zc3zc4zc5zc6"),
   (0x1F05B, "y6-00zc1zc2zc3zc4zc5zc6mVERTICAL BACKu-00-00z1z2z3z4z5z6w1-00z1z2z3z4z5z6w2-00z1z2z3"),
   (0x1F075, "z4z5z6w3-00z1z2z3z4z5z6w4-00z1z2z3z4z5z6w5-00z1z2z3z4z5z6w6-00z1z2z3z4z5z6"),
   (0x1F0A0, "aPLAYING CARD BACKnACE OF SPADESnTWO OF SPADESoHREE OF SPADESnFOUR OF SPADES"),
   (0x1F0A5, "oIVE OF SPADESnSIX OF SPADESoEVEN OF SPADESnEIGHT OF SPADESnNINE OF SPADES"),
   (0x1F0AA, "nTEN OF SPADESnJACK OF SPADESnKNIGHT OF SPADESnQUEEN OF SPADESnKING OF SPADES"),
   (0x1F0B1, "nACE OF HEARTSnTWO OF HEARTSoHREE OF HEARTSnFOUR OF HEARTSoIVE OF HEARTS"),
   (0x1F0B6, "nSIX OF HEARTSoEVEN OF HEARTSnEIGHT OF HEARTSnNINE OF HEARTSnTEN OF HEARTS"),
   (0x1F0BB, "nJACK OF HEARTSnKNIGHT OF HEARTSnQUEEN OF HEARTSnKING OF HEARTSnRED JOKER"),
   (0x1F0C1, "nACE OF DIAMONDSnTWO OF DIAMONDSoHREE OF DIAMONDSnFOUR OF DIAMONDSoIVE OF DIAMONDS"),
   (0x1F0C6, "nSIX OF DIAMONDSoEVEN OF DIAMONDSnEIGHT OF DIAMONDSnNINE OF DIAMONDSnTEN OF DIAMONDS"),
   (0x1F0CB, "nJACK OF DIAMONDSnKNIGHT OF DIAMONDSnQUEEN OF DIAMONDSnKING OF DIAMONDSnBLACK JOKER"),
   (0x1F0D1, "nACE OF CLUBSnTWO OF CLUBSoHREE OF CLUBSnFOUR OF CLUBSoIVE OF CLUBSnSIX OF CLUBS"),
   (0x1F0D7, "oEVEN OF CLUBSnEIGHT OF CLUBSnNINE OF CLUBSnTEN OF CLUBSnJACK OF CLUBS"),
   (0x1F0DC, "nKNIGHT OF CLUBSnQUEEN OF CLUBSnKING OF CLUBSnWHITE JOKERnFOOLnTRUMP-1t2t3t4t5t6t7t8"),
   (0x1F0E9, "t9t10u1u2u3u4u5u6u7u8u9t20u1"),
   (0x1F100, "aDIGIT ZERO FULL STOPlCOMMAgONE COMMAgTWO COMMAhHREE COMMAgFOUR COMMAhIVE COMMA"),
   (0x1F107, "gSIX COMMAhEVEN COMMAgEIGHT COMMAgNINE COMMAcNGBAT CIRCLED SANS-SERIF DIGIT ZERO"),
   (0x1F10C, "iNEGATIVE CIRCLED SANS-SERIF DIGIT ZEROaCIRCLED ZERO WITH SLASHiANTICLOCKWISE ARROW"),
   (0x1F10F, "iDOLLAR SIGN WITH OVERLAID BACKSLASHaPARENTHESIZED LATIN CAPITAL LETTER AzkBzkCzkD"),
   (0x1F114, "zkEzkFzkGzkHzkIzkJzkKzkLzkMzkNzkOzkPzkQzkRzkSzkTzkUzkVzkWzkXzkYzkZ"),
   (0x1F12A, "aTORTOISE SHELL BRACKETED LATIN CAPITAL LETTER S"),
   (0x1F12B, "aCIRCLED ITALIC LATIN CAPITAL LETTER CzlRiCDiWZbOPYLEFT SYMBOL"),
   (0x1F130, "aSQUARED LATIN CAPITAL LETTER AzeBzeCzeDzeEzeFzeGzeHzeIzeJzeKzeLzeMzeNzeOzePzeQzeR"),
   (0x1F142, "zeSzeTzeUzeVzeWzeXzeYzeZiHViMViSDjSiPPViWCaNEGATIVE CIRCLED LATIN CAPITAL LETTER A"),
   (0x1F151, "znBznCznDznEznFznGznHznIznJznKznLznMznNznOznPznQznRznSznTznUznVznWznXznYznZ"),
   (0x1F16A, "aRAISED MC SIGNiD SIGNiR SIGNaCIRCLED CCj WITH OVERLAID BACKSLASHiHUMAN FIGURE"),
   (0x1F170, "aNEGATIVE SQUARED LATIN CAPITAL LETTER AznBznCznDznEznFznGznHznIznJznKznLznMznNznO"),
   (0x1F17F, "znPznQznRznSznTznUznVznWznXznYznZaCROSSED NEGATIVE SQUARED LATIN CAPITAL LETTER P"),
   (0x1F18B, "aNEGATIVE SQUARED ICrPArSArABrWCaSQUARE DJgD CLjOOLiFREEiIDiNEWjGiOKiSOS"),
   (0x1F199, "iUP WITH EXCLAMATION MARKiVSiTHREE DiSECOND SCREENiTWO KiFOUR KiEIGHT K"),
   (0x1F1A0, "iFIVE POINT ONEiSEVEN POINT ONEiTWENTY-TWO POINT TWOiSIXTY PiONE HUNDRED TWENTY P"),
   (0x1F1A5, "iLATIN SMALL LETTER DiHCjDRjI-RESiLOSSLESSiSHViUHDiVODaMASK WORK SYMBOL"),
   (0x1F1E6, "aREGIONAL INDICATOR SYMBOL LETTER AziBziCziDziEziFziGziHziIziJziKziLziMziNziOziPziQ"),
   (0x1F1F7, "ziRziSziTziUziVziWziXziYziZaSQUARE HIRAGANA HOKAgD KATAKANA KOKOrSA"),
   (0x1F210, "iCJK UNIFIED IDEOGRAPH-624Bzf5B57zg3CCiKATAKANA DEiCJK UNIFIED IDEOGRAPH-4E8Czf591A"),
   (0x1F216, "zf89E3zf5929zf4EA4zf6620zf7121zf6599zf524DzgF8Czg18Dzf65B0zf521Dzf7D42zg51Fzf8CA9"),
   (0x1F224, "zf58F0zg439zf6F14zg295zg355zf4E00zi9zf904Azf5DE6zf4E2Dzf53F3zf6307zf8D70zf6253zf7981"),
   (0x1F233, "zgA7Azf5408zf6E80zg709zi8zf7533zf5272zg5B6zf914D"),
   (0x1F240, "aTORTOISE SHELL BRACKETED CJK UNIFIED IDEOGRAPH-672Czw4E09zy8Czw5B89zw70B9zw6253"),
   (0x1F246, "zw76D7zw52DDzw6557"),
   (0x1F250, "aCIRCLED IDEOGRAPH ADVANTAGEtCCEPT"),
   (0x1F260, "aROUNDED SYMBOL FOR FUtLUtSHOUtXItSHUANGXItCAI"),
   (0x1F300, "aCYCLONEaFOGGYaCLOSED UMBRELLAaNIGHT WITH STARSaSUNRISE OVER MOUNTAINSgE"),
   (0x1F306, "aCITYSCAPE AT DUSKaSUNSET OVER BUILDINGSaRAINBOWaBRIDGE AT NIGHTaWATER WAVEaVOLCANO"),
   (0x1F30C, "aMILKY WAYaEARTH GLOBE EUROPE-AFRICAmAMERICASnSIA-AUSTRALIAaGLOBE WITH MERIDIANS"),
   (0x1F311, "aNEW MOON SYMBOLaWAXING CRESCENT MOON SYMBOLaFIRST QUARTER MOON SYMBOL"),
   (0x1F314, "aWAXING GIBBOUS MOON SYMBOLaFULL MOON SYMBOLaWANING GIBBOUS MOON SYMBOL"),
   (0x1F317, "aLAST QUARTER MOON SYMBOLaWANING CRESCENT MOON SYMBOLaCRESCENT MOON"),
   (0x1F31A, "aNEW MOON WITH FACEaFIRST QUARTER MOON WITH FACEaLAST QUARTER MOON WITH FACE"),
   (0x1F31D, "aFULL MOON WITH FACEaSUN WITH FACEaGLOWING STARaSHOOTING STARaTHERMOMETER"),
   (0x1F322, "aBLACK DROPLETaWHITE SUNj WITH SMALL CLOUDkBEHIND CLOUDw WITH RAINaCLOUD WITH RAIN"),
   (0x1F328, "lSNOWlLIGHTNINGlTORNADOaFOGaWIND BLOWING FACEaHOT DOGaTACOaBURRITOaCHESTNUTaSEEDLING"),
   (0x1F332, "aEVERGREEN TREEaDECIDUOUS TREEaPALM TREEaCACTUSaHOT PEPPERaTULIPaCHERRY BLOSSOMaROSE"),
   (0x1F33A, "aHIBISCUSaSUNFLOWERaBLOSSOMaEAR OF MAIZEhRICEaHERBaFOUR LEAF CLOVERaMAPLE LEAF"),
   (0x1F342, "aFALLEN LEAFaLEAF FLUTTERING IN WINDaMUSHROOMaTOMATOaAUBERGINEaGRAPESaMELON"),
   (0x1F349, "aWATERMELONaTANGERINEaLEMONaBANANAaPINEAPPLEaRED APPLEaGREEN APPLEaPEARdCHaCHERRIES"),
   (0x1F353, "aSTRAWBERRYaHAMBURGERaSLICE OF PIZZAaMEAT ON BONEaPOULTRY LEGaRICE CRACKERfBALL"),
   (0x1F35A, "aCOOKED RICEbURRY AND RICEaSTEAMING BOWLbPAGHETTIaBREADaFRENCH FRIES"),
   (0x1F360, "aROASTED SWEET POTATOaDANGOaODENaSUSHIaFRIED SHRIMPbISH CAKE WITH SWIRL DESIGN"),
   (0x1F366, "aSOFT ICE CREAMbHAVED ICEaICE CREAMaDOUGHNUTaCOOKIEbHOCOLATE BARbANDYaLOLLIPOP"),
   (0x1F36E, "aCUSTARDaHONEY POTaSHORTCAKEaBENTO BOXaPOT OF FOODaCOOKINGaFORK AND KNIFE"),
   (0x1F375, "aTEACUP WITHOUT HANDLEaSAKE BOTTLE AND CUPaWINE GLASSaCOCKTAIL GLASSaTROPICAL DRINK"),
   (0x1F37A, "aBEER MUGaCLINKING BEER MUGSaBABY BOTTLEaFORK AND KNIFE WITH PLATE"),
   (0x1F37E, "aBOTTLE WITH POPPING CORKaPOPCORNaRIBBONaWRAPPED PRESENTaBIRTHDAY CAKE"),
   (0x1F383, "aJACK-O-LANTERNaCHRISTMAS TREEaFATHER CHRISTMASbIREWORKSi SPARKLERaBALLOON"),
   (0x1F389, "aPARTY POPPERaCONFETTI BALLaTANABATA TREEaCROSSED FLAGSaPINE DECORATION"),
   (0x1F38E, "aJAPANESE DOLLSaCARP STREAMERaWIND CHIMEaMOON VIEWING CEREMONYaSCHOOL SATCHEL"),
   (0x1F393, "aGRADUATION CAPaHEART WITH TIP ON THE LEFTaBOUQUET OF FLOWERSaMILITARY MEDAL"),
   (0x1F397, "aREMINDER RIBBONaMUSICAL KEYBOARD WITH JACKSaSTUDIO MICROPHONEaLEVEL SLIDER"),
   (0x1F39B, "aCONTROL KNOBSaBEAMED ASCENDING MUSICAL NOTEShDESCENDING MUSICAL NOTESaFILM FRAMES"),
   (0x1F39F, "aADMISSION TICKETSaCAROUSEL HORSEaFERRIS WHEELaROLLER COASTERaFISHING POLE AND FISH"),
   (0x1F3A4, "aMICROPHONEbOVIE CAMERAaCINEMAaHEADPHONEaARTIST PALETTEaTOP HATaCIRCUS TENTaTICKET"),
   (0x1F3AC, "aCLAPPER BOARDaPERFORMING ARTSaVIDEO GAMEaDIRECT HITaSLOT MACHINEaBILLIARDSaGAME DIE"),
   (0x1F3B3, "aBOWLINGaFLOWER PLAYING CARDSaMUSICAL NOTEcLTIPLE MUSICAL NOTESaSAXOPHONEaGUITAR"),
   (0x1F3B9, "aMUSICAL KEYBOARDaTRUMPETaVIOLINaMUSICAL SCOREaRUNNING SHIRT WITH SASH"),
   (0x1F3BE, "aTENNIS RACQUET AND BALLaSKI AND SKI BOOTaBASKETBALL AND HOOPaCHEQUERED FLAG"),
   (0x1F3C2, "aSNOWBOARDERaRUNNERaSURFERbPORTS MEDALaTROPHYaHORSE RACINGaAMERICAN FOOTBALL"),
   (0x1F3C9, "aRUGBY FOOTBALLaSWIMMERaWEIGHT LIFTERaGOLFERaRACING MOTORCYCLEhCAR"),
   (0x1F3CF, "aCRICKET BAT AND BALLaVOLLEYBALLaFIELD HOCKEY STICK AND BALL"),
   (0x1F3D2, "aICE HOCKEY STICK AND PUCKaTABLE TENNIS PADDLE AND BALLaSNOW CAPPED MOUNTAINaCAMPING"),
   (0x1F3D6, "aBEACH WITH UMBRELLAbUILDING CONSTRUCTIONaHOUSE BUILDINGSaCITYSCAPE"),
   (0x1F3DA, "aDERELICT HOUSE BUILDINGaCLASSICAL BUILDINGaDESERTg ISLANDaNATIONAL PARKaSTADIUM"),
   (0x1F3E0, "aHOUSE BUILDINGgWITH GARDENaOFFICE BUILDINGaJAPANESE POST OFFICE"),
   (0x1F3E4, "aEUROPEAN POST OFFICEaHOSPITALaBANKaAUTOMATED TELLER MACHINEaHOTELaLOVE HOTEL"),
   (0x1F3EA, "aCONVENIENCE STOREaSCHOOLaDEPARTMENT STOREaFACTORYaIZAKAYA LANTERNaJAPANESE CASTLE"),
   (0x1F3F0, "aEUROPEAN CASTLEaWHITE PENNANTaBLACK PENNANTaWAVING WHITE FLAGhBLACK FLAGaROSETTE"),
   (0x1F3F6, "aBLACK ROSETTEaLABELaBADMINTON RACQUET AND SHUTTLECOCKbOW AND ARROWaAMPHORA"),
   (0x1F3FB, "aEMOJI MODIFIER FITZPATRICK TYPE-1-2zh3zh4zh5zh6aRATaMOUSEaOXaWATER BUFFALOaCOW"),
   (0x1F405, "aTIGERaLEOPARDaRABBITaCATaDRAGONaCROCODILEaWHALEaSNAILdKEaHORSEaRAMaGOATaSHEEP"),
   (0x1F412, "aMONKEYaROOSTERaCHICKENaDOGaPIGaBOARaELEPHANTaOCTOPUSaSPIRAL SHELLaBUGaANTaHONEYBEE"),
   (0x1F41E, "aLADY BEETLEaFISHaTROPICAL FISHaBLOWFISHaTURTLEaHATCHING CHICKaBABY CHICK"),
   (0x1F425, "aFRONT-FACING BABY CHICKaBIRDaPENGUINaKOALAaPOODLEaDROMEDARY CAMELaBACTRIAN CAMEL"),
   (0x1F42C, "aDOLPHINaMOUSE FACEaCOW FACEaTIGER FACEaRABBIT FACEaCAT FACEaDRAGON FACE"),
   (0x1F433, "aSPOUTING WHALEaHORSE FACEaMONKEY FACEaDOG FACEaPIG FACEaFROG FACEaHAMSTER FACE"),
   (0x1F43A, "aWOLF FACEaBEAR FACEaPANDA FACEbIG NOSEbAW PRINTSaCHIPMUNKaEYEScEbARaNOSEaMOUTH"),
   (0x1F445, "aTONGUEaWHITE UP POINTING BACKHAND INDEXgDOWN POINTING BACKHAND INDEX"),
   (0x1F448, "gLEFT POINTING BACKHAND INDEXgRIGHT POINTING BACKHAND INDEXaFISTED HAND SIGN"),
   (0x1F44B, "aWAVING HAND SIGNaOK HAND SIGNaTHUMBS UP SIGNhDOWN SIGNaCLAPPING HANDS SIGN"),
   (0x1F450, "aOPEN HANDS SIGNaCROWNaWOMANS HATaEYEGLASSESaNECKTIEaT-SHIRTaJEANSaDRESSaKIMONO"),
   (0x1F459, "aBIKINIaWOMANS CLOTHESaPURSEaHANDBAGaPOUCHaMANS SHOEaATHLETIC SHOEaHIGH-HEELED SHOE"),
   (0x1F461, "aWOMANS SANDALhBOOTSaFOOTPRINTSaBUST IN SILHOUETTEeS IN SILHOUETTEbOYaGIRLaMANaWOMAN"),
   (0x1F46A, "aFAMILYaMAN AND WOMAN HOLDING HANDSaTWO MEN HOLDING HANDSeWOMEN HOLDING HANDS"),
   (0x1F46E, "aPOLICE OFFICERaWOMAN WITH BUNNY EARSaBRIDE WITH VEILaPERSON WITH BLOND HAIR"),
   (0x1F472, "aMAN WITH GUA PI MAOjTURBANaOLDER MANgWOMANaBABYaCONSTRUCTION WORKERaPRINCESS"),
   (0x1F479, "aJAPANESE OGREjGOBLINaGHOSTaBABY ANGELaEXTRATERRESTRIAL ALIENaALIEN MONSTERaIMP"),
   (0x1F480, "aSKULLaINFORMATION DESK PERSONaGUARDSMANaDANCERaLIPSTICKaNAIL POLISHaFACE MASSAGE"),
   (0x1F487, "aHAIRCUTaBARBER POLEaSYRINGEaPILLaKISS MARKaLOVE LETTERaRINGaGEM STONEaKISSaBOUQUET"),
   (0x1F491, "aCOUPLE WITH HEARTaWEDDINGaBEATING HEARTbROKEN HEARTaTWO HEARTSaSPARKLING HEART"),
   (0x1F497, "aGROWING HEARTaHEART WITH ARROWaBLUE HEARTaGREEN HEARTaYELLOW HEARTaPURPLE HEART"),
   (0x1F49D, "aHEART WITH RIBBONaREVOLVING HEARTSaHEART DECORATIONaDIAMOND SHAPE WITH A DOT INSIDE"),
   (0x1F4A1, "aELECTRIC LIGHT BULBaANGER SYMBOLaBOMBaSLEEPING SYMBOLaCOLLISION SYMBOL"),
   (0x1F4A6, "aSPLASHING SWEAT SYMBOLaDROPLETbASH SYMBOLaPILE OF POOaFLEXED BICEPSaDIZZY SYMBOL"),
   (0x1F4AC, "aSPEECH BALLOONaTHOUGHT BALLOONaWHITE FLOWERaHUNDRED POINTS SYMBOLaMONEY BAG"),
   (0x1F4B1, "aCURRENCY EXCHANGEaHEAVY DOLLAR SIGNaCREDIT CARDaBANKNOTE WITH YEN SIGNoDOLLAR SIGN"),
   (0x1F4B6, "oEURO SIGNoPOUND SIGNaMONEY WITH WINGSaCHART WITH UPWARDS TREND AND YEN SIGNaSEAT"),
   (0x1F4BB, "aPERSONAL COMPUTERaBRIEFCASEaMINIDISCaFLOPPY DISKaOPTICAL DISCaDVDaFILE FOLDER"),
   (0x1F4C2, "aOPEN FILE FOLDERaPAGE WITH CURLfFACING UPaCALENDARaTEAR-OFF CALENDARaCARD INDEX"),
   (0x1F4C8, "bHART WITH UPWARDS TRENDlDOWNWARDS TRENDaBAR CHARTaCLIPBOARDaPUSHPINaROUND PUSHPIN"),
   (0x1F4CE, "aPAPERCLIPaSTRAIGHT RULERaTRIANGULAR RULERaBOOKMARK TABSaLEDGERaNOTEBOOK"),
   (0x1F4D4, "i WITH DECORATIVE COVERaCLOSED BOOKaOPEN BOOKaGREEN BOOKaBLUE BOOKaORANGE BOOKaBOOKS"),
   (0x1F4DB, "aNAME BADGEaSCROLLaMEMOaTELEPHONE RECEIVERaPAGERaFAX MACHINEaSATELLITE ANTENNA"),
   (0x1F4E2, "aPUBLIC ADDRESS LOUDSPEAKERaCHEERING MEGAPHONEaOUTBOX TRAYaINBOX TRAYaPACKAGE"),
   (0x1F4E7, "aE-MAIL SYMBOLaINCOMING ENVELOPEaENVELOPE WITH DOWNWARDS ARROW ABOVE"),
   (0x1F4EA, "aCLOSED MAILBOX WITH LOWERED FLAGuRAISED FLAGaOPEN MAILBOX WITH RAISED FLAG"),
   (0x1F4ED, "sLOWERED FLAGaPOSTBOXeAL HORNaNEWSPAPERaMOBILE PHONEm WITH RIGHTWARDS ARROW AT LEFT"),
   (0x1F4F3, "aVIBRATION MODEaMOBILE PHONE OFFaNO MOBILE PHONESaANTENNA WITH BARSaCAMERA"),
   (0x1F4F8, "g WITH FLASHaVIDEO CAMERAaTELEVISIONaRADIOaVIDEOCASSETTEaFILM PROJECTOR"),
   (0x1F4FE, "aPORTABLE STEREObRAYER BEADSaTWISTED RIGHTWARDS ARROWS"),
   (0x1F501, "aCLOCKWISE RIGHTWARDS AND LEFTWARDS OPEN CIRCLE ARROWSzzd WITH CIRCLED ONE OVERLAY"),
   (0x1F503, "kDOWNWARDS AND UPWARDS OPEN CIRCLE ARROWS"),
   (0x1F504, "aANTICLOCKWISE DOWNWARDS AND UPWARDS OPEN CIRCLE ARROWSaLOW BRIGHTNESS SYMBOL"),
   (0x1F506, "aHIGH BRIGHTNESS SYMBOLaSPEAKER WITH CANCELLATION STROKEgRh WITH ONE SOUND WAVE"),
   (0x1F50A, "nTHREE SOUND WAVESaBATTERYaELECTRIC PLUGaLEFT-POINTING MAGNIFYING GLASS"),
   (0x1F50E, "aRIGHT-POINTING MAGNIFYING GLASSaLOCK WITH INK PENaCLOSED LOCK WITH KEYaKEYaLOCK"),
   (0x1F513, "aOPEN LOCKaBELLe WITH CANCELLATION STROKEbOOKMARKaLINK SYMBOLaRADIO BUTTON"),
   (0x1F519, "aBACK WITH LEFTWARDS ARROW ABOVEaEND WITH LEFTWARDS ARROW ABOVE"),
   (0x1F51B, "aON WITH EXCLAMATION MARK WITH LEFT RIGHT ARROW ABOVE"),
   (0x1F51C, "aSOON WITH RIGHTWARDS ARROW ABOVEaTOP WITH UPWARDS ARROW ABOVE"),
   (0x1F51E, "aNO ONE UNDER EIGHTEEN SYMBOLaKEYCAP TENaINPUT SYMBOL FOR LATIN CAPITAL LETTERS"),
   (0x1F521, "xSMALL LETTERSrNUMBERSrSYMBOLSrLATIN LETTERSaFIREaELECTRIC TORCHaWRENCHaHAMMER"),
   (0x1F529, "aNUT AND BOLTaHOCHOaPISTOLaMICROSCOPEaTELESCOPEaCRYSTAL BALL"),
   (0x1F52F, "aSIX POINTED STAR WITH MIDDLE DOTaJAPANESE SYMBOL FOR BEGINNERaTRIDENT EMBLEM"),
   (0x1F532, "aBLACK SQUARE BUTTONaWHITE SQUARE BUTTONaLARGE RED CIRCLEgBLUE CIRCLEgORANGE DIAMOND"),
   (0x1F537, "gBLUE DIAMONDaSMALL ORANGE DIAMONDgBLUE DIAMONDaUP-POINTING RED TRIANGLE"),
   (0x1F53B, "aDOWN-POINTING RED TRIANGLEaUP-POINTING SMALL RED TRIANGLE"),
   (0x1F53D, "aDOWN-POINTING SMALL RED TRIANGLEaLOWER RIGHT SHADOWED WHITE CIRCLE"),
   (0x1F53F, "aUPPER RIGHT SHADOWED WHITE CIRCLEaCIRCLED CROSS POMMEE"),
   (0x1F541, "bROSS POMMEE WITH HALF-CIRCLE BELOWlEaNOTCHED LEFT SEMICIRCLE WITH THREE DOTS"),
   (0x1F544, "iRIGHT SEMICIRCLE WITH THREE DOTSaSYMBOL FOR MARKS CHAPTERaWHITE LATIN CROSS"),
   (0x1F547, "aHEAVY LATIN CROSSaCELTIC CROSSaOM SYMBOLaDOVE OF PEACEaKAABAaMOSQUEaSYNAGOGUE"),
   (0x1F54E, "aMENORAH WITH NINE BRANCHESaBOWL OF HYGIEIAaCLOCK FACE ONE OCLOCKlTWO OCLOCK"),
   (0x1F552, "mHREE OCLOCKlFOUR OCLOCKmIVE OCLOCKlSIX OCLOCKmEVEN OCLOCKlEIGHT OCLOCKlNINE OCLOCK"),
   (0x1F559, "lTEN OCLOCKlELEVEN OCLOCKlTWELVE OCLOCKlONE-THIRTYlTWO-THIRTYmHREE-THIRTY"),
   (0x1F55F, "lFOUR-THIRTYmIVE-THIRTYlSIX-THIRTYmEVEN-THIRTYlEIGHT-THIRTYlNINE-THIRTYlTEN-THIRTY"),
   (0x1F566, "lELEVEN-THIRTYlTWELVE-THIRTYaRIGHT SPEAKERn WITH ONE SOUND WAVEtTHREE SOUND WAVES"),
   (0x1F56B, "aBULLHORNi WITH SOUND WAVESaRINGING BELLaBOOKaCANDLEaMANTELPIECE CLOCK"),
   (0x1F571, "aBLACK SKULL AND CROSSBONESaNO PIRACYaHOLEaMAN IN BUSINESS SUIT LEVITATING"),
   (0x1F575, "aSLEUTH OR SPYaDARK SUNGLASSESaSPIDERg WEBaJOYSTICKaMAN DANCING"),
   (0x1F57B, "aLEFT HAND TELEPHONE RECEIVERaTELEPHONE RECEIVER WITH PAGE"),
   (0x1F57D, "aRIGHT HAND TELEPHONE RECEIVERaWHITE TOUCHTONE TELEPHONEaBLACK TOUCHTONE TELEPHONE"),
   (0x1F580, "aTELEPHONE ON TOP OF MODEMaCLAMSHELL MOBILE PHONEaBACK OF ENVELOPEaSTAMPED ENVELOPE"),
   (0x1F584, "aENVELOPE WITH LIGHTNINGaFLYING ENVELOPEaPEN OVER STAMPED ENVELOPEaLINKED PAPERCLIPS"),
   (0x1F588, "aBLACK PUSHPINaLOWER LEFT PENCILlBALLPOINT PENlFOUNTAIN PENlPAINTBRUSHlCRAYON"),
   (0x1F58E, "bEFT WRITING HANDaTURNED OK HAND SIGNaRAISED HAND WITH FINGERS SPLAYED"),
   (0x1F591, "bEVERSED RAISED HAND WITH FINGERS SPLAYEDjTHUMBS UP SIGNqDOWN SIGNjVICTORY HAND"),
   (0x1F595, "jHAND WITH MIDDLE FINGER EXTENDED"),
   (0x1F596, "bAISED HAND WITH PART BETWEEN MIDDLE AND RING FINGERS"),
   (0x1F597, "aWHITE DOWN POINTING LEFT HAND INDEXaSIDEWAYS WHITE LEFT POINTING INDEX"),
   (0x1F599, "pRIGHT POINTING INDEXjBLACK LEFT POINTING INDEXpRIGHT POINTING INDEX"),
   (0x1F59C, "aBLACK LEFT POINTING BACKHAND INDEXgRIGHT POINTING BACKHAND INDEX"),
   (0x1F59E, "aSIDEWAYS WHITE UP POINTING INDEXpDOWN POINTING INDEXjBLACK UP POINTING INDEX"),
   (0x1F5A1, "pDOWN POINTING INDEXaBLACK UP POINTING BACKHAND INDEXgDOWN POINTING BACKHAND INDEX"),
   (0x1F5A4, "gHEARTaDESKTOP COMPUTERaKEYBOARD AND MOUSEaTHREE NETWORKED COMPUTERSaPRINTER"),
   (0x1F5A9, "bOCKET CALCULATORaBLACK HARD SHELL FLOPPY DISKaWHITE HARD SHELL FLOPPY DISK"),
   (0x1F5AC, "aSOFT SHELL FLOPPY DISKaTAPE CARTRIDGEaWIRED KEYBOARDaONE BUTTON MOUSE"),
   (0x1F5B0, "aTWO BUTTON MOUSEbHREE BUTTON MOUSEbRACKBALLaOLD PERSONAL COMPUTERaHARD DISKaSCREEN"),
   (0x1F5B6, "aPRINTER ICONaFAX ICONaOPTICAL DISC ICONaDOCUMENT WITH TEXTs AND PICTUREoPICTURE"),
   (0x1F5BC, "aFRAME WITH PICTURElTILESlAN XaBLACK FOLDERaFOLDERaOPEN FOLDERaCARD INDEX DIVIDERS"),
   (0x1F5C3, "fFILE BOXaFILE CABINETaEMPTY NOTEk PAGEnDaNOTEe PAGEhDaEMPTY DOCUMENTgPAGEkS"),
   (0x1F5CE, "aDOCUMENTaPAGEeSaWASTEBASKETaSPIRAL NOTE PADhCALENDAR PADaDESKTOP WINDOWaMINIMIZE"),
   (0x1F5D6, "bAXIMIZEaOVERLAPaCLOCKWISE RIGHT AND LEFT SEMICIRCLE ARROWSbANCELLATION X"),
   (0x1F5DA, "aINCREASE FONT SIZE SYMBOLaDECREASE FONT SIZE SYMBOLaCOMPRESSIONaOLD KEY"),
   (0x1F5DE, "aROLLED-UP NEWSPAPERaPAGE WITH CIRCLED TEXTaSTOCK CHARTaDAGGER KNIFEaLIPS"),
   (0x1F5E3, "aSPEAKING HEAD IN SILHOUETTEaTHREE RAYS ABOVElBELOWlLEFTlRIGHTaLEFT SPEECH BUBBLE"),
   (0x1F5E9, "aRIGHT SPEECH BUBBLEaTWO SPEECH BUBBLESbHREE SPEECH BUBBLESaLEFT THOUGHT BUBBLE"),
   (0x1F5ED, "aRIGHT THOUGHT BUBBLEaLEFT ANGER BUBBLEaRIGHT ANGER BUBBLEaMOOD BUBBLE"),
   (0x1F5F1, "aLIGHTNING MOOD BUBBLEnDaBALLOT BOX WITH BALLOThSCRIPT XhBOX WITH SCRIPT X"),
   (0x1F5F6, "jLD SCRIPT XjX WITH BOLD SCRIPT XaLIGHT CHECK MARKaBALLOT BOX WITH BOLD CHECK"),
   (0x1F5FA, "aWORLD MAPaMOUNT FUJIaTOKYO TOWERaSTATUE OF LIBERTYbILHOUETTE OF JAPANaMOYAI"),
   (0x1F600, "aGRINNING FACEn WITH SMILING EYESaFACE WITH TEARS OF JOY"),
   (0x1F603, "aSMILING FACE WITH OPEN MOUTHzd AND SMILING EYESziCOLD SWEATziTIGHTLY-CLOSED EYES"),
   (0x1F607, "sHALOtORNSaWINKING FACEaSMILING FACE WITH SMILING EYESaFACE SAVOURING DELICIOUS FOOD"),
   (0x1F60C, "aRELIEVED FACEaSMILING FACE WITH HEART-SHAPED EYESsSUNGLASSESdRKING FACE"),
   (0x1F610, "aNEUTRAL FACEaEXPRESSIONLESS FACEaUNAMUSED FACEaFACE WITH COLD SWEATaPENSIVE FACE"),
   (0x1F615, "aCONFUSED FACEeOUNDED FACEaKISSING FACEaFACE THROWING A KISS"),
   (0x1F619, "aKISSING FACE WITH SMILING EYESsCLOSED EYESaFACE WITH STUCK-OUT TONGUE"),
   (0x1F61C, "zb AND WINKING EYEzgTIGHTLY-CLOSED EYESaDISAPPOINTED FACEaWORRIED FACEaANGRY FACE"),
   (0x1F621, "aPOUTING FACEaCRYING FACEaPERSEVERING FACEaFACE WITH LOOK OF TRIUMPH"),
   (0x1F625, "aDISAPPOINTED BUT RELIEVED FACEaFROWNING FACE WITH OPEN MOUTHaANGUISHED FACE"),
   (0x1F628, "aFEARFUL FACEaWEARY FACEaSLEEPY FACEaTIRED FACEaGRIMACING FACEaLOUDLY CRYING FACE"),
   (0x1F62E, "aFACE WITH OPEN MOUTHaHUSHED FACEaFACE WITH OPEN MOUTH AND COLD SWEAT"),
   (0x1F631, "fSCREAMING IN FEARaASTONISHED FACEaFLUSHED FACEaSLEEPING FACEaDIZZY FACE"),
   (0x1F636, "aFACE WITHOUT MOUTHj MEDICAL MASKaGRINNING CAT FACE WITH SMILING EYES"),
   (0x1F639, "aCAT FACE WITH TEARS OF JOYaSMILING CAT FACE WITH OPEN MOUTHwHEART-SHAPED EYES"),
   (0x1F63C, "aCAT FACE WITH WRY SMILEaKISSING CAT FACE WITH CLOSED EYESaPOUTING CAT FACE"),
   (0x1F63F, "aCRYING CAT FACEaWEARY CAT FACEaSLIGHTLY FROWNING FACEjSMILING FACEaUPSIDE-DOWN FACE"),
   (0x1F644, "aFACE WITH ROLLING EYESkNO GOOD GESTUREkOK GESTUREaPERSON BOWING DEEPLY"),
   (0x1F648, "aSEE-NO-EVIL MONKEYaHEAR-NO-EVIL MONKEYaSPEAK-NO-EVIL MONKEY"),
   (0x1F64B, "aHAPPY PERSON RAISING ONE HANDaPERSON RAISING BOTH HANDS IN CELEBRATIONhFROWNING"),
   (0x1F64E, "hWITH POUTING FACEmFOLDED HANDSaNORTH WEST POINTING LEAFaSOUTH WEST POINTING LEAF"),
   (0x1F652, "aNORTH EAST POINTING LEAFaSOUTH EAST POINTING LEAFaTURNED NORTH WEST POINTING LEAF"),
   (0x1F655, "hSOUTH WEST POINTING LEAFhNORTH EAST POINTING LEAFhSOUTH EAST POINTING LEAF"),
   (0x1F658, "aNORTH WEST POINTING VINE LEAFaSOUTH WEST POINTING VINE LEAF"),
   (0x1F65A, "aNORTH EAST POINTING VINE LEAFaSOUTH EAST POINTING VINE LEAF"),
   (0x1F65C, "aHEAVY NORTH WEST POINTING VINE LEAFgSOUTH WEST POINTING VINE LEAF"),
   (0x1F65E, "gNORTH EAST POINTING VINE LEAFgSOUTH EAST POINTING VINE LEAFaNORTH WEST POINTING BUD"),
   (0x1F661, "aSOUTH WEST POINTING BUDaNORTH EAST POINTING BUDaSOUTH EAST POINTING BUD"),
   (0x1F664, "aHEAVY NORTH WEST POINTING BUDgSOUTH WEST POINTING BUDgNORTH EAST POINTING BUD"),
   (0x1F667, "gSOUTH EAST POINTING BUDbOLLOW QUILT SQUARE ORNAMENTzd IN BLACK SQUARE"),
   (0x1F66A, "aSOLID QUILT SQUARE ORNAMENTzc IN BLACK SQUAREaLEFTWARDS ROCKETaUPWARDS ROCKET"),
   (0x1F66E, "aRIGHTWARDS ROCKETaDOWNWARDS ROCKETaSCRIPT LIGATURE ET ORNAMENT"),
   (0x1F671, "aHEAVY SCRIPT LIGATURE ET ORNAMENTaLIGATURE OPEN ET ORNAMENT"),
   (0x1F673, "aHEAVY LIGATURE OPEN ET ORNAMENTgAMPERSAND ORNAMENTaSWASH AMPERSAND ORNAMENT"),
   (0x1F676, "bANS-SERIF HEAVY DOUBLE TURNED COMMA QUOTATION MARK ORNAMENT"),
   (0x1F677, "yCOMMA QUOTATION MARK ORNAMENTrLOW DOUBLE COMMA QUOTATION MARK ORNAMENT"),
   (0x1F679, "aHEAVY INTERROBANG ORNAMENTaSANS-SERIF INTERROBANG ORNAMENT"),
   (0x1F67B, "aHEAVY SANS-SERIF INTERROBANG ORNAMENTaVERY HEAVY SOLIDUSlREVERSE SOLIDUS"),
   (0x1F67E, "aCHECKER BOARDaREVERSE CHECKER BOARDbOCKETaHELICOPTERaSTEAM LOCOMOTIVEaRAILWAY CAR"),
   (0x1F684, "aHIGH-SPEED TRAINq WITH BULLET NOSEaTRAINaMETROaLIGHT RAILaSTATIONaTRAMe CARaBUS"),
   (0x1F68D, "aONCOMING BUSaTROLLEYBUSaBUS STOPaMINIBUSaAMBULANCEaFIRE ENGINEaPOLICE CAR"),
   (0x1F694, "aONCOMING POLICE CARaTAXIaONCOMING TAXIaAUTOMOBILEaONCOMING AUTOMOBILE"),
   (0x1F699, "aRECREATIONAL VEHICLEaDELIVERY TRUCKaARTICULATED LORRYaTRACTORaMONORAIL"),
   (0x1F69E, "cUNTAIN RAILWAYaSUSPENSION RAILWAYaMOUNTAIN CABLEWAYaAERIAL TRAMWAYaSHIPaROWBOAT"),
   (0x1F6A4, "aSPEEDBOATaHORIZONTAL TRAFFIC LIGHTaVERTICAL TRAFFIC LIGHTaCONSTRUCTION SIGN"),
   (0x1F6A8, "aPOLICE CARS REVOLVING LIGHTaTRIANGULAR FLAG ON POSTaDOORaNO ENTRY SIGN"),
   (0x1F6AC, "aSMOKING SYMBOLaNO SMOKING SYMBOLaPUT LITTER IN ITS PLACE SYMBOL"),
   (0x1F6AF, "aDO NOT LITTER SYMBOLaPOTABLE WATER SYMBOLaNON-POTABLE WATER SYMBOLaBICYCLE"),
   (0x1F6B3, "aNO BICYCLESaBICYCLISTaMOUNTAIN BICYCLISTaPEDESTRIANaNO PEDESTRIANS"),
   (0x1F6B8, "aCHILDREN CROSSINGaMENS SYMBOLaWOMENS SYMBOLaRESTROOMaBABY SYMBOLaTOILET"),
   (0x1F6BE, "aWATER CLOSETaSHOWERaBATHeTUBaPASSPORT CONTROLaCUSTOMSaBAGGAGE CLAIMaLEFT LUGGAGE"),
   (0x1F6C6, "aTRIANGLE WITH ROUNDED CORNERSaPROHIBITED SIGNaCIRCLED INFORMATION SOURCE"),
   (0x1F6C9, "aBOYS SYMBOLaGIRLS SYMBOLaCOUCH AND LAMPaSLEEPING ACCOMMODATIONbHOPPING BAGS"),
   (0x1F6CE, "aBELLHOP BELLcDaPLACE OF WORSHIPaOCTAGONAL SIGNaSHOPPING TROLLEYbTUPAaPAGODA"),
   (0x1F6D5, "aHINDU TEMPLEbUTaELEVATOR"),
   (0x1F6DD, "aPLAYGROUND SLIDEaWHEELaRING BUOYaHAMMER AND WRENCHaSHIELDaOIL DRUMaMOTORWAY"),
   (0x1F6E4, "aRAILWAY TRACKaMOTOR BOATaUP-POINTING MILITARY AIRPLANEmAIRPLANEmSMALL AIRPLANE"),
   (0x1F6E9, "aSMALL AIRPLANEaNORTHEAST-POINTING AIRPLANEaAIRPLANE DEPARTUREjARRIVING"),
   (0x1F6F0, "aSATELLITEaONCOMING FIRE ENGINEaDIESEL LOCOMOTIVEaPASSENGER SHIPaSCOOTER"),
   (0x1F6F5, "aMOTOR SCOOTERaCANOEaSLEDaFLYING SAUCERaSKATEBOARDaAUTO RICKSHAWaPICKUP TRUCK"),
   (0x1F6FC, "aROLLER SKATE"),
   (0x1F700, "aALCHEMICAL SYMBOL FOR QUINTESSENCEwAIRwFIREwEARTHwWATERwAQUAFORTISzb REGIAzh-2"),
   (0x1F708, "zcVITAEzh-2wVINEGARze-2zf3wSULFURwPHILOSOPHERS SULFURwBLACK SULFURwMERCURY SUBLIMATE"),
   (0x1F711, "zo-2zp3wCINNABARwSALTwNITREwVITRIOLze-2wROCK SALTzg-2wGOLDwSILVERwIRON OREzf-2"),
   (0x1F71E, "wCROCUS OF IRONwREGULUS OF IRONwCOPPER OREwIRON-COPPER OREwSUBLIMATE OF COPPER"),
   (0x1F723, "wCROCUS OF COPPERzn-2xOPPER ANTIMONIATEwSALT OF COPPER ANTIMONIATE"),
   (0x1F727, "xUBLIMATE OF SALT OF COPPERwVERDIGRISwTIN OREwLEAD OREwANTIMONY ORE"),
   (0x1F72C, "wSUBLIMATE OF ANTIMONYxALT OF ANTIMONYxUBLIMATE OF SALT OF ANTIMONY"),
   (0x1F72F, "wVINEGAR OF ANTIMONYwREGULUS OF ANTIMONYzq-2zdSze-2zf3zf4wALKALIzd-2wMARCASITE"),
   (0x1F739, "wSAL-AMMONIACwARSENICwREALGARze-2wAURIPIGMENTwBISMUTH OREwTARTARzd-2wQUICK LIME"),
   (0x1F742, "wBORAXzc-2zd3wALUMwOILwSPIRITwTINCTUREwGUMwWAXwPOWDERwCALXwTUTTYwCAPUT MORTUUM"),
   (0x1F74F, "wSCEPTER OF JOVEwCADUCEUSwTRIDENTwSTARRED TRIDENTwLODESTONEwSOAPwURINEwHORSE DUNG"),
   (0x1F757, "wASHESwPOT ASHESwBRICKwPOWDERED BRICKwAMALGAMwSTRATUM SUPER STRATUMzs-2xUBLIMATION"),
   (0x1F75F, "wPRECIPITATEwDISTILLzSOLVEzf-2wPURIFYyTREFACTIONwCRUCIBLEzf-2zg3zg4zg5wALEMBIC"),
   (0x1F76B, "wBATH OF MARYzfVAPOURSwRETORTwHOURwNIGHTwDAY-NIGHTwMONTHwHALF DRAMzcOUNCE"),
   (0x1F780, "aBLACK LEFT-POINTING ISOSCELES RIGHT TRIANGLEgUP-POINTING ISOSCELES RIGHT TRIANGLE"),
   (0x1F782, "gRIGHT-POINTING ISOSCELES RIGHT TRIANGLEgDOWN-POINTING ISOSCELES RIGHT TRIANGLE"),
   (0x1F784, "gSLIGHTLY SMALL CIRCLEaMEDIUM BOLD WHITE CIRCLEaBOLD WHITE CIRCLEaHEAVY WHITE CIRCLE"),
   (0x1F788, "aVERY HEAVY WHITE CIRCLEaEXTREMELY HEAVY WHITE CIRCLE"),
   (0x1F78A, "aWHITE CIRCLE CONTAINING BLACK SMALL CIRCLEaROUND TARGETaBLACK TINY SQUARE"),
   (0x1F78D, "gSLIGHTLY SMALL SQUAREaLIGHT WHITE SQUAREaMEDIUM WHITE SQUAREaBOLD WHITE SQUARE"),
   (0x1F791, "aHEAVY WHITE SQUAREaVERY HEAVY WHITE SQUAREaEXTREMELY HEAVY WHITE SQUARE"),
   (0x1F794, "aWHITE SQUARE CONTAINING BLACK VERY SMALL SQUAREzfMEDIUM SQUAREaSQUARE TARGET"),
   (0x1F797, "aBLACK TINY DIAMONDgVERY SMALL DIAMONDgMEDIUM SMALL DIAMOND"),
   (0x1F79A, "aWHITE DIAMOND CONTAINING BLACK VERY SMALL DIAMONDzgMEDIUM DIAMONDaDIAMOND TARGET"),
   (0x1F79D, "aBLACK TINY LOZENGEgVERY SMALL LOZENGEgMEDIUM SMALL LOZENGE"),
   (0x1F7A0, "aWHITE LOZENGE CONTAINING BLACK SMALL LOZENGEaTHIN GREEK CROSSaLIGHT GREEK CROSS"),
   (0x1F7A3, "aMEDIUM GREEK CROSSaBOLD GREEK CROSSaVERY BOLD GREEK CROSSfHEAVY GREEK CROSS"),
   (0x1F7A7, "aEXTREMELY HEAVY GREEK CROSSaTHIN SALTIREaLIGHT SALTIREaMEDIUM SALTIREaBOLD SALTIRE"),
   (0x1F7AC, "aHEAVY SALTIREaVERY HEAVY SALTIREaEXTREMELY HEAVY SALTIREaLIGHT FIVE SPOKED ASTERISK"),
   (0x1F7B0, "aMEDIUM FIVE SPOKED ASTERISKaBOLD FIVE SPOKED ASTERISKaHEAVY FIVE SPOKED ASTERISK"),
   (0x1F7B3, "aVERY HEAVY FIVE SPOKED ASTERISKaEXTREMELY HEAVY FIVE SPOKED ASTERISK"),
   (0x1F7B5, "aLIGHT SIX SPOKED ASTERISKaMEDIUM SIX SPOKED ASTERISKaBOLD SIX SPOKED ASTERISK"),
   (0x1F7B8, "aHEAVY SIX SPOKED ASTERISKaVERY HEAVY SIX SPOKED ASTERISK"),
   (0x1F7BA, "aEXTREMELY HEAVY SIX SPOKED ASTERISKaLIGHT EIGHT SPOKED ASTERISK"),
   (0x1F7BC, "aMEDIUM EIGHT SPOKED ASTERISKaBOLD EIGHT SPOKED ASTERISKaHEAVY EIGHT SPOKED ASTERISK"),
   (0x1F7BF, "aVERY HEAVY EIGHT SPOKED ASTERISKaLIGHT THREE POINTED BLACK STAR"),
   (0x1F7C1, "aMEDIUM THREE POINTED BLACK STARaTHREE POINTED BLACK STAR"),
   (0x1F7C3, "aMEDIUM THREE POINTED PINWHEEL STARaLIGHT FOUR POINTED BLACK STAR"),
   (0x1F7C5, "aMEDIUM FOUR POINTED BLACK STARaFOUR POINTED BLACK STAR"),
   (0x1F7C7, "aMEDIUM FOUR POINTED PINWHEEL STARaREVERSE LIGHT FOUR POINTED PINWHEEL STAR"),
   (0x1F7C9, "aLIGHT FIVE POINTED BLACK STARaHEAVY FIVE POINTED BLACK STAR"),
   (0x1F7CB, "aMEDIUM SIX POINTED BLACK STARaHEAVY SIX POINTED BLACK STAR"),
   (0x1F7CD, "aSIX POINTED PINWHEEL STARaMEDIUM EIGHT POINTED BLACK STAR"),
   (0x1F7CF, "aHEAVY EIGHT POINTED BLACK STARaVERY HEAVY EIGHT POINTED BLACK STAR"),
   (0x1F7D1, "aHEAVY EIGHT POINTED PINWHEEL STARaLIGHT TWELVE POINTED BLACK STAR"),
   (0x1F7D3, "aHEAVY TWELVE POINTED BLACK STARvPINWHEEL STARaCIRCLED TRIANGLE"),
   (0x1F7D6, "aNEGATIVE CIRCLED TRIANGLEaCIRCLED SQUAREaNEGATIVE CIRCLED SQUARE"),
   (0x1F7E0, "aLARGE ORANGE CIRCLEgYELLOW CIRCLEgGREEN CIRCLEgPURPLE CIRCLEgBROWN CIRCLE"),
   (0x1F7E5, "gRED SQUAREgBLUE SQUAREgORANGE SQUAREgYELLOW SQUAREgGREEN SQUAREgPURPLE SQUARE"),
   (0x1F7EB, "gBROWN SQUARE"),
   (0x1F7F0, "aHEAVY EQUALS SIGN"),
   (0x1F800, "aLEFTWARDS ARROW WITH SMALL TRIANGLE ARROWHEAD"),
   (0x1F801, "aUPWARDS ARROW WITH SMALL TRIANGLE ARROWHEAD"),
   (0x1F802, "aRIGHTWARDS ARROW WITH SMALL TRIANGLE ARROWHEAD"),
   (0x1F803, "aDOWNWARDS ARROW WITH SMALL TRIANGLE ARROWHEAD"),
   (0x1F804, "aLEFTWARDS ARROW WITH MEDIUM TRIANGLE ARROWHEAD"),
   (0x1F805, "aUPWARDS ARROW WITH MEDIUM TRIANGLE ARROWHEAD"),
   (0x1F806, "aRIGHTWARDS ARROW WITH MEDIUM TRIANGLE ARROWHEAD"),
   (0x1F807, "aDOWNWARDS ARROW WITH MEDIUM TRIANGLE ARROWHEAD"),
   (0x1F808, "aLEFTWARDS ARROW WITH LARGE TRIANGLE ARROWHEAD"),
   (0x1F809, "aUPWARDS ARROW WITH LARGE TRIANGLE ARROWHEAD"),
   (0x1F80A, "aRIGHTWARDS ARROW WITH LARGE TRIANGLE ARROWHEAD"),
   (0x1F80B, "aDOWNWARDS ARROW WITH LARGE TRIANGLE ARROWHEAD"),
   (0x1F810, "aLEFTWARDS ARROW WITH SMALL EQUILATERAL ARROWHEAD"),
   (0x1F811, "aUPWARDS ARROW WITH SMALL EQUILATERAL ARROWHEAD"),
   (0x1F812, "aRIGHTWARDS ARROW WITH SMALL EQUILATERAL ARROWHEAD"),
   (0x1F813, "aDOWNWARDS ARROW WITH SMALL EQUILATERAL ARROWHEAD"),
   (0x1F814, "aLEFTWARDS ARROW WITH EQUILATERAL ARROWHEADaUPWARDS ARROW WITH EQUILATERAL ARROWHEAD"),
   (0x1F816, "aRIGHTWARDS ARROW WITH EQUILATERAL ARROWHEAD"),
   (0x1F817, "aDOWNWARDS ARROW WITH EQUILATERAL ARROWHEAD"),
   (0x1F818, "aHEAVY LEFTWARDS ARROW WITH EQUILATERAL ARROWHEAD"),
   (0x1F819, "gUPWARDS ARROW WITH EQUILATERAL ARROWHEAD"),
   (0x1F81A, "gRIGHTWARDS ARROW WITH EQUILATERAL ARROWHEAD"),
   (0x1F81B, "gDOWNWARDS ARROW WITH EQUILATERAL ARROWHEAD"),
   (0x1F81C, "gLEFTWARDS ARROW WITH LARGE EQUILATERAL ARROWHEAD"),
   (0x1F81D, "gUPWARDS ARROW WITH LARGE EQUILATERAL ARROWHEAD"),
   (0x1F81E, "gRIGHTWARDS ARROW WITH LARGE EQUILATERAL ARROWHEAD"),
   (0x1F81F, "gDOWNWARDS ARROW WITH LARGE EQUILATERAL ARROWHEAD"),
   (0x1F820, "aLEFTWARDS TRIANGLE-HEADED ARROW WITH NARROW SHAFT"),
   (0x1F821, "aUPWARDS TRIANGLE-HEADED ARROW WITH NARROW SHAFT"),
   (0x1F822, "aRIGHTWARDS TRIANGLE-HEADED ARROW WITH NARROW SHAFT"),
   (0x1F823, "aDOWNWARDS TRIANGLE-HEADED ARROW WITH NARROW SHAFT"),
   (0x1F824, "aLEFTWARDS TRIANGLE-HEADED ARROW WITH MEDIUM SHAFT"),
   (0x1F825, "aUPWARDS TRIANGLE-HEADED ARROW WITH MEDIUM SHAFT"),
   (0x1F826, "aRIGHTWARDS TRIANGLE-HEADED ARROW WITH MEDIUM SHAFT"),
   (0x1F827, "aDOWNWARDS TRIANGLE-HEADED ARROW WITH MEDIUM SHAFT"),
   (0x1F828, "aLEFTWARDS TRIANGLE-HEADED ARROW WITH BOLD SHAFT"),
   (0x1F829, "aUPWARDS TRIANGLE-HEADED ARROW WITH BOLD SHAFT"),
   (0x1F82A, "aRIGHTWARDS TRIANGLE-HEADED ARROW WITH BOLD SHAFT"),
   (0x1F82B, "aDOWNWARDS TRIANGLE-HEADED ARROW WITH BOLD SHAFT"),
   (0x1F82C, "aLEFTWARDS TRIANGLE-HEADED ARROW WITH HEAVY SHAFT"),
   (0x1F82D, "aUPWARDS TRIANGLE-HEADED ARROW WITH HEAVY SHAFT"),
   (0x1F82E, "aRIGHTWARDS TRIANGLE-HEADED ARROW WITH HEAVY SHAFT"),
   (0x1F82F, "aDOWNWARDS TRIANGLE-HEADED ARROW WITH HEAVY SHAFT"),
   (0x1F830, "aLEFTWARDS TRIANGLE-HEADED ARROW WITH VERY HEAVY SHAFT"),
   (0x1F831, "aUPWARDS TRIANGLE-HEADED ARROW WITH VERY HEAVY SHAFT"),
   (0x1F832, "aRIGHTWARDS TRIANGLE-HEADED ARROW WITH VERY HEAVY SHAFT"),
   (0x1F833, "aDOWNWARDS TRIANGLE-HEADED ARROW WITH VERY HEAVY SHAFTaLEFTWARDS FINGER-POST ARROW"),
   (0x1F835, "aUPWARDS FINGER-POST ARROWaRIGHTWARDS FINGER-POST ARROWaDOWNWARDS FINGER-POST ARROW"),
   (0x1F838, "aLEFTWARDS SQUARED ARROWaUPWARDS SQUARED ARROWaRIGHTWARDS SQUARED ARROW"),
   (0x1F83B, "aDOWNWARDS SQUARED ARROWaLEFTWARDS COMPRESSED ARROWaUPWARDS COMPRESSED ARROW"),
   (0x1F83E, "aRIGHTWARDS COMPRESSED ARROWaDOWNWARDS COMPRESSED ARROW"),
   (0x1F840, "aLEFTWARDS HEAVY COMPRESSED ARROWaUPWARDS HEAVY COMPRESSED ARROW"),
   (0x1F842, "aRIGHTWARDS HEAVY COMPRESSED ARROWaDOWNWARDS HEAVY COMPRESSED ARROW"),
   (0x1F844, "aLEFTWARDS HEAVY ARROWaUPWARDS HEAVY ARROWaRIGHTWARDS HEAVY ARROW"),
   (0x1F847, "aDOWNWARDS HEAVY ARROW"),
   (0x1F850, "aLEFTWARDS SANS-SERIF ARROWaUPWARDS SANS-SERIF ARROWaRIGHTWARDS SANS-SERIF ARROW"),
   (0x1F853, "aDOWNWARDS SANS-SERIF ARROWaNORTH WEST SANS-SERIF ARROWgEAST SANS-SERIF ARROW"),
   (0x1F856, "aSOUTH EAST SANS-SERIF ARROWgWEST SANS-SERIF ARROWaLEFT RIGHT SANS-SERIF ARROW"),
   (0x1F859, "aUP DOWN SANS-SERIF ARROW"),
   (0x1F860, "aWIDE-HEADED LEFTWARDS LIGHT BARB ARROWmUPWARDS LIGHT BARB ARROW"),
   (0x1F862, "mRIGHTWARDS LIGHT BARB ARROWmDOWNWARDS LIGHT BARB ARROWmNORTH WEST LIGHT BARB ARROW"),
   (0x1F865, "sEAST LIGHT BARB ARROWmSOUTH EAST LIGHT BARB ARROWsWEST LIGHT BARB ARROW"),
   (0x1F868, "mLEFTWARDS BARB ARROWmUPWARDS BARB ARROWmRIGHTWARDS BARB ARROWmDOWNWARDS BARB ARROW"),
   (0x1F86C, "mNORTH WEST BARB ARROWsEAST BARB ARROWmSOUTH EAST BARB ARROWsWEST BARB ARROW"),
   (0x1F870, "mLEFTWARDS MEDIUM BARB ARROWmUPWARDS MEDIUM BARB ARROWmRIGHTWARDS MEDIUM BARB ARROW"),
   (0x1F873, "mDOWNWARDS MEDIUM BARB ARROWmNORTH WEST MEDIUM BARB ARROWsEAST MEDIUM BARB ARROW"),
   (0x1F876, "mSOUTH EAST MEDIUM BARB ARROWsWEST MEDIUM BARB ARROWmLEFTWARDS HEAVY BARB ARROW"),
   (0x1F879, "mUPWARDS HEAVY BARB ARROWmRIGHTWARDS HEAVY BARB ARROWmDOWNWARDS HEAVY BARB ARROW"),
   (0x1F87C, "mNORTH WEST HEAVY BARB ARROWsEAST HEAVY BARB ARROWmSOUTH EAST HEAVY BARB ARROW"),
   (0x1F87F, "sWEST HEAVY BARB ARROWmLEFTWARDS VERY HEAVY BARB ARROWmUPWARDS VERY HEAVY BARB ARROW"),
   (0x1F882, "mRIGHTWARDS VERY HEAVY BARB ARROWmDOWNWARDS VERY HEAVY BARB ARROW"),
   (0x1F884, "mNORTH WEST VERY HEAVY BARB ARROWsEAST VERY HEAVY BARB ARROW"),
   (0x1F886, "mSOUTH EAST VERY HEAVY BARB ARROWsWEST VERY HEAVY BARB ARROW"),
   (0x1F890, "aLEFTWARDS TRIANGLE ARROWHEADaUPWARDS TRIANGLE ARROWHEAD"),
   (0x1F892, "aRIGHTWARDS TRIANGLE ARROWHEADaDOWNWARDS TRIANGLE ARROWHEAD"),
   (0x1F894, "aLEFTWARDS WHITE ARROW WITHIN TRIANGLE ARROWHEAD"),
   (0x1F895, "aUPWARDS WHITE ARROW WITHIN TRIANGLE ARROWHEAD"),
   (0x1F896, "aRIGHTWARDS WHITE ARROW WITHIN TRIANGLE ARROWHEAD"),
   (0x1F897, "aDOWNWARDS WHITE ARROW WITHIN TRIANGLE ARROWHEADaLEFTWARDS ARROW WITH NOTCHED TAIL"),
   (0x1F899, "aUPWARDS ARROW WITH NOTCHED TAILaRIGHTWARDS ARROW WITH NOTCHED TAIL"),
   (0x1F89B, "aDOWNWARDS ARROW WITH NOTCHED TAILaHEAVY ARROW SHAFT WIDTH ONEyTWO THIRDSyONE HALF"),
   (0x1F89F, "zdTHIRDaLEFTWARDS BOTTOM-SHADED WHITE ARROWaRIGHTWARDS BOTTOM SHADED WHITE ARROW"),
   (0x1F8A2, "aLEFTWARDS TOP SHADED WHITE ARROWaRIGHTWARDS TOP SHADED WHITE ARROW"),
   (0x1F8A4, "aLEFTWARDS LEFT-SHADED WHITE ARROWaRIGHTWARDS RIGHT-SHADED WHITE ARROW"),
   (0x1F8A6, "aLEFTWARDS RIGHT-SHADED WHITE ARROWaRIGHTWARDS LEFT-SHADED WHITE ARROW"),
   (0x1F8A8, "aLEFTWARDS BACK-TILTED SHADOWED WHITE ARROW"),
   (0x1F8A9, "aRIGHTWARDS BACK-TILTED SHADOWED WHITE ARROW"),
   (0x1F8AA, "aLEFTWARDS FRONT-TILTED SHADOWED WHITE ARROW"),
   (0x1F8AB, "aRIGHTWARDS FRONT-TILTED SHADOWED WHITE ARROWaWHITE ARROW SHAFT WIDTH ONEyTWO THIRDS"),
   (0x1F8B0, "aARROW POINTING UPWARDS THEN NORTH WESTpRIGHTWARDS THEN CURVING SOUTH WEST"),
   (0x1F900, "aCIRCLED CROSS FORMEE WITH FOUR DOTSzbTWO DOTStEaLEFT HALF CIRCLE WITH FOUR DOTS"),
   (0x1F904, "wTHREE DOTSxWO DOTSwDOTpEaDOWNWARD FACING HOOKqNOTCHED HOOKqHOOK WITH DOT"),
   (0x1F90B, "qNOTCHED HOOK WITH DOTaPINCHED FINGERSaWHITE HEARTaBROWN HEARTaPINCHING HAND"),
   (0x1F910, "aZIPPER-MOUTH FACEaMONEY-MOUTH FACEaFACE WITH THERMOMETERaNERD FACEaTHINKING FACE"),
   (0x1F915, "aFACE WITH HEAD-BANDAGEaROBOT FACEaHUGGING FACEaSIGN OF THE HORNSaCALL ME HAND"),
   (0x1F91A, "aRAISED BACK OF HANDaLEFT-FACING FISTaRIGHT-FACING FISTaHANDSHAKE"),
   (0x1F91E, "e WITH INDEX AND MIDDLE FINGERS CROSSEDaI LOVE YOU HAND SIGNaFACE WITH COWBOY HAT"),
   (0x1F921, "aCLOWN FACEaNAUSEATED FACEaROLLING ON THE FLOOR LAUGHINGaDROOLING FACEaLYING FACE"),
   (0x1F926, "aFACE PALMaSNEEZING FACEaFACE WITH ONE EYEBROW RAISEDaGRINNING FACE WITH STAR EYES"),
   (0x1F92A, "tONE LARGE AND ONE SMALL EYEaFACE WITH FINGER COVERING CLOSED LIPS"),
   (0x1F92C, "aSERIOUS FACE WITH SYMBOLS COVERING MOUTH"),
   (0x1F92D, "bMILING FACE WITH SMILING EYES AND HAND COVERING MOUTHaFACE WITH OPEN MOUTH VOMITING"),
   (0x1F92F, "aSHOCKED FACE WITH EXPLODING HEADaPREGNANT WOMANaBREAST-FEEDINGaPALMS UP TOGETHER"),
   (0x1F933, "aSELFIEaPRINCEaMAN IN TUXEDObOTHER CHRISTMASaSHRUGaPERSON DOING CARTWHEELaJUGGLING"),
   (0x1F93A, "aFENCERaMODERN PENTATHLONaWRESTLERSbATER POLOaHANDBALLaDIVING MASKaWILTED FLOWER"),
   (0x1F941, "aDRUM WITH DRUMSTICKSaCLINKING GLASSESaTUMBLER GLASSaSPOONaGOAL NETaRIFLE"),
   (0x1F947, "aFIRST PLACE MEDALaSECOND PLACE MEDALaTHIRD PLACE MEDALaBOXING GLOVE"),
   (0x1F94B, "aMARTIAL ARTS UNIFORMaCURLING STONEaLACROSSE STICK AND BALLaSOFTBALLaFLYING DISC"),
   (0x1F950, "aCROISSANTaAVOCADOaCUCUMBERaBACONaPOTATOaCARROTaBAGUETTE BREADaGREEN SALAD"),
   (0x1F958, "aSHALLOW PAN OF FOODbTUFFED FLATBREADaEGGaGLASS OF MILKaPEANUTSaKIWIFRUITaPANCAKES"),
   (0x1F95F, "aDUMPLINGaFORTUNE COOKIEaTAKEOUT BOXaCHOPSTICKSaBOWL WITH SPOONaCUP WITH STRAW"),
   (0x1F965, "bOCONUTaBROCCOLIaPIEbRETZELaCUT OF MEATaSANDWICHaCANNED FOODaLEAFY GREENaMANGO"),
   (0x1F96E, "bOON CAKEaBAGELaSMILING FACE WITH SMILING EYES AND THREE HEARTSaYAWNING FACE"),
   (0x1F972, "aSMILING FACE WITH TEARaFACE WITH PARTY HORN AND PARTY HAT"),
   (0x1F974, "kUNEVEN EYES AND WAVY MOUTHaOVERHEATED FACEaFREEZING FACEaNINJAaDISGUISED FACE"),
   (0x1F979, "aFACE HOLDING BACK TEARSfWITH PLEADING EYESaSARIaLAB COATaGOGGLESaHIKING BOOT"),
   (0x1F97F, "aFLAT SHOEaCRABaLION FACEaSCORPIONaTURKEYaUNICORN FACEaEAGLEaDUCKaBATaSHARKaOWL"),
   (0x1F98A, "aFOX FACEaBUTTERFLYaDEERaGORILLAaLIZARDaRHINOCEROSaSHRIMPbQUIDaGIRAFFE FACE"),
   (0x1F993, "aZEBRA FACEaHEDGEHOGaSAUROPODaT-REXaCRICKETaKANGAROOaLLAMAaPEACOCKaHIPPOPOTAMUS"),
   (0x1F99C, "aPARROTaRACCOONaLOBSTERaMOSQUITObICROBEaBADGERaSWANaMAMMOTHaDODOaSLOTHaOTTER"),
   (0x1F9A7, "bRANGUTANaSKUNKaFLAMINGOaOYSTERaBEAVERbISONaSEALaGUIDE DOGaPROBING CANE"),
   (0x1F9B0, "aEMOJI COMPONENT RED HAIRqCURLY HAIRqBALDqWHITE HAIRaBONEaLEGaFOOTaTOOTHaSUPERHERO"),
   (0x1F9B9, "fVILLAINbAFETY VESTaEAR WITH HEARING AIDaMOTORIZED WHEELCHAIRbANUAL WHEELCHAIR"),
   (0x1F9BE, "bECHANICAL ARMlLEGaCHEESE WEDGEbUPCAKEaSALT SHAKERaBEVERAGE BOXaGARLICaONIONaFALAFEL"),
   (0x1F9C7, "aWAFFLEaBUTTERaMATE DRINKaICE CUBEaBUBBLE TEAaTROLLaSTANDING PERSONaKNEELING PERSON"),
   (0x1F9CF, "aDEAF PERSONaFACE WITH MONOCLEaADULTaCHILDaOLDER ADULTaBEARDED PERSON"),
   (0x1F9D5, "aPERSON WITH HEADSCARFhIN STEAMY ROOMhCLIMBINGhIN LOTUS POSITIONaMAGEaFAIRYaVAMPIRE"),
   (0x1F9DC, "aMERPERSONaELFaGENIEaZOMBIEaBRAINaORANGE HEARTaBILLED CAPaSCARFaGLOVESaCOATaSOCKS"),
   (0x1F9E7, "aRED GIFT ENVELOPEaFIRECRACKERaJIGSAW PUZZLE PIECEaTEST TUBEaPETRI DISH"),
   (0x1F9EC, "aDNA DOUBLE HELIXaCOMPASSaABACUSaFIRE EXTINGUISHERaTOOLBOXaBRICKaMAGNETaLUGGAGE"),
   (0x1F9F4, "bOTION BOTTLEaSPOOL OF THREADaBALL OF YARNaSAFETY PINaTEDDY BEARaBROOMbASKET"),
   (0x1F9FB, "aROLL OF PAPERaBAR OF SOAPaSPONGEaRECEIPTaNAZAR AMULETbEUTRAL CHESS KINGoQUEENoROOK"),
   (0x1FA03, "oBISHOPoKNIGHToPAWNaWHITE CHESS KNIGHT ROTATED FORTY-FIVE DEGREES"),
   (0x1FA07, "aBLACK CHESS KNIGHT ROTATED FORTY-FIVE DEGREES"),
   (0x1FA08, "aNEUTRAL CHESS KNIGHT ROTATED FORTY-FIVE DEGREES"),
   (0x1FA09, "aWHITE CHESS KING ROTATED NINETY DEGREESmQUEEN ROTATED NINETY DEGREES"),
   (0x1FA0B, "mROOK ROTATED NINETY DEGREESmBISHOP ROTATED NINETY DEGREES"),
   (0x1FA0D, "mKNIGHT ROTATED NINETY DEGREESmPAWN ROTATED NINETY DEGREES"),
   (0x1FA0F, "aBLACK CHESS KING ROTATED NINETY DEGREESmQUEEN ROTATED NINETY DEGREES"),
   (0x1FA11, "mROOK ROTATED NINETY DEGREESmBISHOP ROTATED NINETY DEGREES"),
   (0x1FA13, "mKNIGHT ROTATED NINETY DEGREESmPAWN ROTATED NINETY DEGREES"),
   (0x1FA15, "aNEUTRAL CHESS KING ROTATED NINETY DEGREESoQUEEN ROTATED NINETY DEGREES"),
   (0x1FA17, "oROOK ROTATED NINETY DEGREESoBISHOP ROTATED NINETY DEGREES"),
   (0x1FA19, "oKNIGHT ROTATED NINETY DEGREESoPAWN ROTATED NINETY DEGREES"),
   (0x1FA1B, "aWHITE CHESS KNIGHT ROTATED ONE HUNDRED THIRTY-FIVE DEGREES"),
   (0x1FA1C, "aBLACK CHESS KNIGHT ROTATED ONE HUNDRED THIRTY-FIVE DEGREES"),
   (0x1FA1D, "aNEUTRAL CHESS KNIGHT ROTATED ONE HUNDRED THIRTY-FIVE DEGREES"),
   (0x1FA1E, "aWHITE CHESS TURNED KINGtQUEENtROOKtBISHOPtKNIGHTtPAWNaBLACK CHESS TURNED KINGtQUEEN"),
   (0x1FA26, "tROOKtBISHOPtKNIGHTtPAWNaNEUTRAL CHESS TURNED KINGvQUEENvROOKvBISHOPvKNIGHTvPAWN"),
   (0x1FA30, "aWHITE CHESS KNIGHT ROTATED TWO HUNDRED TWENTY-FIVE DEGREES"),
   (0x1FA31, "aBLACK CHESS KNIGHT ROTATED TWO HUNDRED TWENTY-FIVE DEGREES"),
   (0x1FA32, "aNEUTRAL CHESS KNIGHT ROTATED TWO HUNDRED TWENTY-FIVE DEGREES"),
   (0x1FA33, "aWHITE CHESS KING ROTATED TWO HUNDRED SEVENTY DEGREES"),
   (0x1FA34, "mQUEEN ROTATED TWO HUNDRED SEVENTY DEGREESmROOK ROTATED TWO HUNDRED SEVENTY DEGREES"),
   (0x1FA36, "mBISHOP ROTATED TWO HUNDRED SEVENTY DEGREES"),
   (0x1FA37, "mKNIGHT ROTATED TWO HUNDRED SEVENTY DEGREESmPAWN ROTATED TWO HUNDRED SEVENTY DEGREES"),
   (0x1FA39, "aBLACK CHESS KING ROTATED TWO HUNDRED SEVENTY DEGREES"),
   (0x1FA3A, "mQUEEN ROTATED TWO HUNDRED SEVENTY DEGREESmROOK ROTATED TWO HUNDRED SEVENTY DEGREES"),
   (0x1FA3C, "mBISHOP ROTATED TWO HUNDRED SEVENTY DEGREES"),
   (0x1FA3D, "mKNIGHT ROTATED TWO HUNDRED SEVENTY DEGREESmPAWN ROTATED TWO HUNDRED SEVENTY DEGREES"),
   (0x1FA3F, "aNEUTRAL CHESS KING ROTATED TWO HUNDRED SEVENTY DEGREES"),
   (0x1FA40, "oQUEEN ROTATED TWO HUNDRED SEVENTY DEGREESoROOK ROTATED TWO HUNDRED SEVENTY DEGREES"),
   (0x1FA42, "oBISHOP ROTATED TWO HUNDRED SEVENTY DEGREES"),
   (0x1FA43, "oKNIGHT ROTATED TWO HUNDRED SEVENTY DEGREESoPAWN ROTATED TWO HUNDRED SEVENTY DEGREES"),
   (0x1FA45, "aWHITE CHESS KNIGHT ROTATED THREE HUNDRED FIFTEEN DEGREES"),
   (0x1FA46, "aBLACK CHESS KNIGHT ROTATED THREE HUNDRED FIFTEEN DEGREES"),
   (0x1FA47, "aNEUTRAL CHESS KNIGHT ROTATED THREE HUNDRED FIFTEEN DEGREESaWHITE CHESS EQUIHOPPER"),
   (0x1FA49, "aBLACK CHESS EQUIHOPPERaNEUTRAL CHESS EQUIHOPPER"),
   (0x1FA4B, "aWHITE CHESS EQUIHOPPER ROTATED NINETY DEGREES"),
   (0x1FA4C, "aBLACK CHESS EQUIHOPPER ROTATED NINETY DEGREES"),
   (0x1FA4D, "aNEUTRAL CHESS EQUIHOPPER ROTATED NINETY DEGREESaWHITE CHESS KNIGHT-QUEENtROOK"),
   (0x1FA50, "tBISHOPaBLACK CHESS KNIGHT-QUEENtROOKtBISHOP"),
   (0x1FA60, "aXIANGQI RED GENERALmMANDARINmELEPHANTmHORSEmCHARIOTnANNONmSOLDIERiBLACK GENERAL"),
   (0x1FA68, "oMANDARINoELEPHANToHORSEoCHARIOTpANNONoSOLDIER"),
   (0x1FA70, "aBALLET SHOESaONE-PIECE SWIMSUITaBRIEFSaSHORTSaTHONG SANDAL"),
   (0x1FA78, "aDROP OF BLOODaADHESIVE BANDAGEaSTETHOSCOPEaX-RAYaCRUTCH"),
   (0x1FA80, "aYO-YOaKITEaPARACHUTEaBOOMERANGaMAGIC WANDaPINATAaNESTING DOLLS"),
   (0x1FA90, "aRINGED PLANETaCHAIRaRAZORaAXEaDIYA LAMPaBANJOaMILITARY HELMETaACCORDIONaLONG DRUM"),
   (0x1FA99, "aCOINbARPENTRY SAWaSCREWDRIVERaLADDERaHOOKaMIRRORaWINDOWaPLUNGERaSEWING NEEDLEaKNOT"),
   (0x1FAA3, "aBUCKETaMOUSE TRAPaTOOTHBRUSHaHEADSTONEaPLACARDaROCKaMIRROR BALLaIDENTIFICATION CARD"),
   (0x1FAAB, "aLOW BATTERYaHAMSA"),
   (0x1FAB0, "aFLYaWORMaBEETLEaCOCKROACHaPOTTED PLANTaWOODaFEATHERaLOTUSaCORALaEMPTY NEST"),
   (0x1FABA, "aNEST WITH EGGS"),
   (0x1FAC0, "aANATOMICAL HEARTaLUNGSaPEOPLE HUGGINGbREGNANT MANjPERSONbERSON WITH CROWN"),
   (0x1FAD0, "aBLUEBERRIESbELL PEPPERaOLIVEaFLATBREADaTAMALEaFONDUEaTEAPOTaPOURING LIQUIDaBEANS"),
   (0x1FAD9, "aJAR"),
   (0x1FAE0, "aMELTING FACEaSALUTING FACEaFACE WITH OPEN EYES AND HAND OVER MOUTHkPEEKING EYE"),
   (0x1FAE4, "kDIAGONAL MOUTHaDOTTED LINE FACEaBITING LIPbUBBLES"),
   (0x1FAF0, "aHAND WITH INDEX FINGER AND THUMB CROSSEDaRIGHTWARDS HANDaLEFTWARDS HAND"),
   (0x1FAF3, "aPALM DOWN HANDfUP HANDaINDEX POINTING AT THE VIEWERaHEART HANDS"),
   (0x1FB00, "aBLOCK SEXTANT-1o2o12o3o13o23o123o4o14o24o124o34o134o234o1234o5o15o25o125o35o235"),
   (0x1FB15, "o1235o45o145o245o1245o345o1345o2345o12345o6o16o26o126o36o136o236o1236o46o146p246o346"),
   (0x1FB2A, "o1346o2346o12346o56o156o256o1256o356o1356o2356o12356o456o1456o2456o12456o3456o13456"),
   (0x1FB3B, "o23456aLOWER LEFT BLOCK DIAGONAL LOWER MIDDLE LEFT TO LOWER CENTREzzdRIGHT"),
   (0x1FB3E, "zbUPPER MIDDLE LEFT TO LOWER CENTREzzdRIGHTzhLEFT TO LOWER CENTRE"),
   (0x1FB41, "gRIGHT BLOCK DIAGONAL UPPER MIDDLE LEFT TO UPPER CENTREzzeRIGHT"),
   (0x1FB43, "zcLOWER MIDDLE LEFT TO UPPER CENTREzzeRIGHTziLEFT TO UPPER CENTRE"),
   (0x1FB46, "ziMIDDLE LEFT TO UPPER MIDDLE RIGHTziCENTRE TO LOWER MIDDLE RIGHT"),
   (0x1FB48, "ziLEFT TO LOWER MIDDLE RIGHTziCENTRE TO UPPER MIDDLE RIGHT"),
   (0x1FB4A, "ziLEFT TO UPPER MIDDLE RIGHTziCENTRE TO UPPER RIGHT"),
   (0x1FB4C, "gLEFT BLOCK DIAGONAL UPPER CENTRE TO UPPER MIDDLE RIGHTzhLEFT TO UPPER MIDDLE RIGHT"),
   (0x1FB4E, "zhCENTRE TO LOWER MIDDLE RIGHTzhLEFT TO LOWER MIDDLE RIGHTzhCENTRE TO LOWER RIGHT"),
   (0x1FB51, "zhMIDDLE LEFT TO LOWER MIDDLE RIGHT"),
   (0x1FB52, "aUPPER RIGHT BLOCK DIAGONAL LOWER MIDDLE LEFT TO LOWER CENTREzzeRIGHT"),
   (0x1FB54, "zcUPPER MIDDLE LEFT TO LOWER CENTREzzeRIGHTziLEFT TO LOWER CENTRE"),
   (0x1FB57, "gLEFT BLOCK DIAGONAL UPPER MIDDLE LEFT TO UPPER CENTREzzdRIGHT"),
   (0x1FB59, "zbLOWER MIDDLE LEFT TO UPPER CENTREzzdRIGHTzhLEFT TO UPPER CENTRE"),
   (0x1FB5C, "zhMIDDLE LEFT TO UPPER MIDDLE RIGHTzhCENTRE TO LOWER MIDDLE RIGHT"),
   (0x1FB5E, "zhLEFT TO LOWER MIDDLE RIGHTzhCENTRE TO UPPER MIDDLE RIGHT"),
   (0x1FB60, "zhLEFT TO UPPER MIDDLE RIGHTzhCENTRE TO UPPER RIGHT"),
   (0x1FB62, "gRIGHT BLOCK DIAGONAL UPPER CENTRE TO UPPER MIDDLE RIGHTziLEFT TO UPPER MIDDLE RIGHT"),
   (0x1FB64, "ziCENTRE TO LOWER MIDDLE RIGHTziLEFT TO LOWER MIDDLE RIGHTziCENTRE TO LOWER RIGHT"),
   (0x1FB67, "ziMIDDLE LEFT TO LOWER MIDDLE RIGHT"),
   (0x1FB68, "gAND RIGHT AND LOWER TRIANGULAR THREE QUARTERS BLOCK"),
   (0x1FB69, "aLEFT AND LOWER AND RIGHT TRIANGULAR THREE QUARTERS BLOCK"),
   (0x1FB6A, "aUPPER AND LEFT AND LOWER TRIANGULAR THREE QUARTERS BLOCK"),
   (0x1FB6B, "aLEFT AND UPPER AND RIGHT TRIANGULAR THREE QUARTERS BLOCK"),
   (0x1FB6C, "fTRIANGULAR ONE QUARTER BLOCKaUPPER TRIANGULAR ONE QUARTER BLOCK"),
   (0x1FB6E, "aRIGHT TRIANGULAR ONE QUARTER BLOCKaLOWER TRIANGULAR ONE QUARTER BLOCK"),
   (0x1FB70, "aVERTICAL ONE EIGHTH BLOCK-2zb3zb4zb5zb6zb7aHORIZONTAL ONE EIGHTH BLOCK-2zd3zd4zd5"),
   (0x1FB7A, "zd6zd7aLEFT AND LOWER ONE EIGHTH BLOCKjUPPER ONE EIGHTH BLOCK"),
   (0x1FB7E, "aRIGHT AND UPPER ONE EIGHTH BLOCKkLOWER ONE EIGHTH BLOCK"),
   (0x1FB80, "aUPPER AND LOWER ONE EIGHTH BLOCKaHORIZONTAL ONE EIGHTH BLOCK-1358"),
   (0x1FB82, "aUPPER ONE QUARTER BLOCKgTHREE EIGHTHS BLOCKgFIVE EIGHTHS BLOCKgTHREE QUARTERS BLOCK"),
   (0x1FB86, "gSEVEN EIGHTHS BLOCKaRIGHT ONE QUARTER BLOCKgTHREE EIGHTHS BLOCKgFIVE EIGHTHS BLOCK"),
   (0x1FB8A, "gTHREE QUARTERS BLOCKgSEVEN EIGHTHS BLOCKaLEFT HALF MEDIUM SHADE"),
   (0x1FB8D, "aRIGHT HALF MEDIUM SHADEaUPPER HALF MEDIUM SHADEaLOWER HALF MEDIUM SHADE"),
   (0x1FB90, "aINVERSE MEDIUM SHADEaUPPER HALF BLOCK AND LOWER HALF INVERSE MEDIUM SHADE"),
   (0x1FB92, "lINVERSE MEDIUM SHADE AND LOWER HALF BLOCK"),
   (0x1FB94, "aLEFT HALF INVERSE MEDIUM SHADE AND RIGHT HALF BLOCKaCHECKER BOARD FILL"),
   (0x1FB96, "aINVERSE CHECKER BOARD FILLaHEAVY HORIZONTAL FILLaUPPER LEFT TO LOWER RIGHT FILL"),
   (0x1FB99, "gRIGHT TO LOWER LEFT FILLgAND LOWER TRIANGULAR HALF BLOCK"),
   (0x1FB9B, "aLEFT AND RIGHT TRIANGULAR HALF BLOCKaUPPER LEFT TRIANGULAR MEDIUM SHADE"),
   (0x1FB9D, "gRIGHT TRIANGULAR MEDIUM SHADEaLOWER RIGHT TRIANGULAR MEDIUM SHADE"),
   (0x1FB9F, "gLEFT TRIANGULAR MEDIUM SHADE"),
   (0x1FBA0, "aBOX DRAWINGS LIGHT DIAGONAL UPPER CENTRE TO MIDDLE LEFTzzbRIGHT"),
   (0x1FBA2, "zdMIDDLE LEFT TO LOWER CENTREzkRIGHT TO LOWER CENTRE"),
   (0x1FBA4, "zdUPPER CENTRE TO MIDDLE LEFT TO LOWER CENTREzzbRIGHT TO LOWER CENTRE"),
   (0x1FBA6, "zdMIDDLE LEFT TO LOWER CENTRE TO MIDDLE RIGHTzsUPPER CENTRE TO MIDDLE RIGHT"),
   (0x1FBA8, "zdUPPER CENTRE TO MIDDLE LEFT AND MIDDLE RIGHT TO LOWER CENTRE"),
   (0x1FBA9, "zzbRIGHT AND MIDDLE LEFT TO LOWER CENTREzzhTO LOWER CENTRE TO MIDDLE LEFT"),
   (0x1FBAB, "zzbLEFT TO LOWER CENTRE TO MIDDLE RIGHT"),
   (0x1FBAC, "zdMIDDLE LEFT TO UPPER CENTRE TO MIDDLE RIGHT TO LOWER CENTRE"),
   (0x1FBAD, "zkRIGHT TO UPPER CENTRE TO MIDDLE LEFT TO LOWER CENTREzdDIAMOND"),
   (0x1FBAF, "tHORIZONTAL WITH VERTICAL STROKEaARROWHEAD-SHAPED POINTERaINVERSE CHECK MARK"),
   (0x1FBB2, "aLEFT HALF RUNNING MANaRIGHT HALF RUNNING MAN"),
   (0x1FBB4, "aINVERSE DOWNWARDS ARROW WITH TIP LEFTWARDS"),
   (0x1FBB5, "aLEFTWARDS ARROW AND UPPER AND LOWER ONE EIGHTH BLOCK"),
   (0x1FBB6, "aRIGHTWARDS ARROW AND UPPER AND LOWER ONE EIGHTH BLOCK"),
   (0x1FBB7, "aDOWNWARDS ARROW AND RIGHT ONE EIGHTH BLOCKaUPWARDS ARROW AND RIGHT ONE EIGHTH BLOCK"),
   (0x1FBB9, "aLEFT HALF FOLDERaRIGHT HALF FOLDERaVOIDED GREEK CROSSaRIGHT OPEN SQUARED DOT"),
   (0x1FBBD, "aNEGATIVE DIAGONAL CROSSsMIDDLE RIGHT TO LOWER CENTREsDIAMOND"),
   (0x1FBC0, "aWHITE HEAVY SALTIRE WITH ROUNDED CORNERSaLEFT THIRD WHITE RIGHT POINTING INDEX"),
   (0x1FBC2, "aMIDDLE THIRD WHITE RIGHT POINTING INDEXaRIGHT THIRD WHITE RIGHT POINTING INDEX"),
   (0x1FBC4, "aNEGATIVE SQUARED QUESTION MARKaSTICK FIGUREm WITH ARMS RAISEDnLEANING LEFTvRIGHT"),
   (0x1FBC9, "nWITH DRESSaWHITE UP-POINTING CHEVRON"),
   (0x1FBF0, "aSEGMENTED DIGIT ZEROqONEqTWOrHREEqFOURrIVEqSIXrEVENqEIGHTqNINE"),
   (0x2F800, "aCJK COMPATIBILITY IDEOGRAPH-2F800zh1zh2zh3zh4zh5zh6zh7zh8zh9zhAzhBzhCzhDzhEzhFzg10"),
   (0x2F811, "zh1zh2zh3zh4zh5zh6zh7zh8zh9zhAzhBzhCzhDzhEzhFzg20zh1zh2zh3zh4zh5zh6zh7zh8zh9zhAzhB"),
   (0x2F82C, "zhCzhDzhEzhFzg30zh1zh2zh3zh4zh5zh6zh7zh8zh9zhAzhBzhCzhDzhEzhFzg40zh1zh2zh3zh4zh5zh6"),
   (0x2F847, "zh7zh8zh9zhAzhBzhCzhDzhEzhFzg50zh1zh2zh3zh4zh5zh6zh7zh8zh9zhAzhBzhCzhDzhEzhFzg60zh1"),
   (0x2F862, "zh2zh3zh4zh5zh6zh7zh8zh9zhAzhBzhCzhDzhEzhFzg70zh1zh2zh3zh4zh5zh6zh7zh8zh9zhAzhBzhC"),
   (0x2F87D, "zhDzhEzhFzg80zh1zh2zh3zh4zh5zh6zh7zh8zh9zhAzhBzhCzhDzhEzhFzg90zh1zh2zh3zh4zh5zh6zh7"),
   (0x2F898, "zh8zh9zhAzhBzhCzhDzhEzhFzgA0zh1zh2zh3zh4zh5zh6zh7zh8zh9zhAzhBzhCzhDzhEzhFzgB0zh1zh2"),
   (0x2F8B3, "zh3zh4zh5zh6zh7zh8zh9zhAzhBzhCzhDzhEzhFzgC0zh1zh2zh3zh4zh5zh6zh7zh8zh9zhAzhBzhCzhD"),
   (0x2F8CE, "zhEzhFzgD0zh1zh2zh3zh4zh5zh6zh7zh8zh9zhAzhBzhCzhDzhEzhFzgE0zh1zh2zh3zh4zh5zh6zh7zh8"),
   (0x2F8E9, "zh9zhAzhBzhCzhDzhEzhFzgF0zh1zh2zh3zh4zh5zh6zh7zh8zh9zhAzhBzhCzhDzhEzhFzf900zh1zh2zh3"),
   (0x2F904, "zh4zh5zh6zh7zh8zh9zhAzhBzhCzhDzhEzhFzg10zh1zh2zh3zh4zh5zh6zh7zh8zh9zhAzhBzhCzhDzhE"),
   (0x2F91F, "zhFzg20zh1zh2zh3zh4zh5zh6zh7zh8zh9zhAzhBzhCzhDzhEzhFzg30zh1zh2zh3zh4zh5zh6zh7zh8zh9"),
   (0x2F93A, "zhAzhBzhCzhDzhEzhFzg40zh1zh2zh3zh4zh5zh6zh7zh8zh9zhAzhBzhCzhDzhEzhFzg50zh1zh2zh3zh4"),
   (0x2F955, "zh5zh6zh7zh8zh9zhAzhBzhCzhDzhEzhFzg60zh1zh2zh3zh4zh5zh6zh7zh8zh9zhAzhBzhCzhDzhEzhF"),
   (0x2F970, "zg70zh1zh2zh3zh4zh5zh6zh7zh8zh9zhAzhBzhCzhDzhEzhFzg80zh1zh2zh3zh4zh5zh6zh7zh8zh9zhA"),
   (0x2F98B, "zhBzhCzhDzhEzhFzg90zh1zh2zh3zh4zh5zh6zh7zh8zh9zhAzhBzhCzhDzhEzhFzgA0zh1zh2zh3zh4zh5"),
   (0x2F9A6, "zh6zh7zh8zh9zhAzhBzhCzhDzhEzhFzgB0zh1zh2zh3zh4zh5zh6zh7zh8zh9zhAzhBzhCzhDzhEzhFzgC0"),
   (0x2F9C1, "zh1zh2zh3zh4zh5zh6zh7zh8zh9zhAzhBzhCzhDzhEzhFzgD0zh1zh2zh3zh4zh5zh6zh7zh8zh9zhAzhB"),
   (0x2F9DC, "zhCzhDzhEzhFzgE0zh1zh2zh3zh4zh5zh6zh7zh8zh9zhAzhBzhCzhDzhEzhFzgF0zh1zh2zh3zh4zh5zh6"),
   (0x2F9F7, "zh7zh8zh9zhAzhBzhCzhDzhEzhFzfA00zh1zh2zh3zh4zh5zh6zh7zh8zh9zhAzhBzhCzhDzhEzhFzg10zh1"),
   (0x2FA12, "zh2zh3zh4zh5zh6zh7zh8zh9zhAzhBzhCzhD"),
   (0xE0001, "aLANGUAGE TAG"),
   (0xE0020, "aTAG SPACEeEXCLAMATION MARKeQUOTATION MARKeNUMBER SIGNeDOLLAR SIGNePERCENT SIGN"),
   (0xE0026, "eAMPERSANDfPOSTROPHEeLEFT PARENTHESISeRIGHT PARENTHESISeASTERISKePLUS SIGNeCOMMA"),
   (0xE002D, "eHYPHEN-MINUSeFULL STOPeSOLIDUSeDIGIT ZEROkONEkTWOlHREEkFOURlIVEkSIXlEVENkEIGHTkNINE"),
   (0xE003A, "eCOLONeSEMICOLONeLESS-THAN SIGNeEQUALS SIGNeGREATER-THAN SIGNeQUESTION MARK"),
   (0xE0040, "eCOMMERCIAL ATeLATIN CAPITAL LETTER AzBzCzDzEzFzGzHzIzJzKzLzMzNzOzPzQzRzSzTzUzVzWzX"),
   (0xE0059, "zYzZfEFT SQUARE BRACKETeREVERSE SOLIDUSfIGHT SQUARE BRACKETeCIRCUMFLEX ACCENT"),
   (0xE005F, "eLOW LINEeGRAVE ACCENTeLATIN SMALL LETTER AxBxCxDxExFxGxHxIxJxKxLxMxNxOxPxQxRxSxTxU"),
   (0xE0076, "xVxWxXxYxZfEFT CURLY BRACKETeVERTICAL LINEeRIGHT CURLY BRACKETeTILDEaCANCEL TAG"),
   (0xE0100, "aVARIATION SELECTOR-17u8u9t20u1u2u3u4u5u6u7u8u9t30u1u2u3u4u5u6u7u8u9t40u1u2u3u4u5u6"),
   (0xE011E, "u7u8u9t50u1u2u3u4u5u6u7u8u9t60u1u2u3u4u5u6u7u8u9t70u1u2u3u4u5u6u7u8u9t80u1u2u3u4u5u6"),
   (0xE0146, "u7u8u9t90u1u2u3u4u5u6u7u8u9t100v1v2v3v4v5v6v7v8v9u10v1v2v3v4v5v6v7v8v9u20v1v2v3v4v5"),
   (0xE016D, "v6v7v8v9u30v1v2v3v4v5v6v7v8v9u40v1v2v3v4v5v6v7v8v9u50v1v2v3v4v5v6v7v8v9u60v1v2v3v4v5"),
   (0xE0195, "v6v7v8v9u70v1v2v3v4v5v6v7v8v9u80v1v2v3v4v5v6v7v8v9u90v1v2v3v4v5v6v7v8v9t200v1v2v3v4"),
   (0xE01BC, "v5v6v7v8v9u10v1v2v3v4v5v6v7v8v9u20v1v2v3v4v5v6v7v8v9u30v1v2v3v4v5v6v7v8v9u40v1v2v3v4"),
   (0xE01E4, "v5v6v7v8v9u50v1v2v3v4v5v6")]

end HtGate.Text.CharacterName
