/-!
# Names of characters from U+3000 to U+FFFF

The names in the order of code points, as strings of names that follow one another from a code point on.
The small letters before a name say how many characters it has in common with the name before it, which
are left out.
-/

namespace HtGate.Text.CharacterName

/-- The names from U+3000 to U+FFFF. -/
def from3000 : List (Nat × String) :=
  [(0x3000, "aIDEOGRAPHIC SPACEmCOMMAmFULL STOPaDITTO MARKaJAPANESE INDUSTRIAL STANDARD SYMBOL"),
   (0x3005, "aIDEOGRAPHIC ITERATION MARKmCLOSING MARKmNUMBER ZEROaLEFT ANGLE BRACKET"),
   (0x3009, "aRIGHT ANGLE BRACKETaLEFT DOUBLE ANGLE BRACKETaRIGHT DOUBLE ANGLE BRACKET"),
   (0x300C, "aLEFT CORNER BRACKETaRIGHT CORNER BRACKETaLEFT WHITE CORNER BRACKET"),
   (0x300F, "aRIGHT WHITE CORNER BRACKETaLEFT BLACK LENTICULAR BRACKET"),
   (0x3011, "aRIGHT BLACK LENTICULAR BRACKETaPOSTAL MARKaGETA MARKaLEFT TORTOISE SHELL BRACKET"),
   (0x3015, "aRIGHT TORTOISE SHELL BRACKETaLEFT WHITE LENTICULAR BRACKET"),
   (0x3017, "aRIGHT WHITE LENTICULAR BRACKETaLEFT WHITE TORTOISE SHELL BRACKET"),
   (0x3019, "aRIGHT WHITE TORTOISE SHELL BRACKETaLEFT WHITE SQUARE BRACKET"),
   (0x301B, "aRIGHT WHITE SQUARE BRACKETaWAVE DASHaREVERSED DOUBLE PRIME QUOTATION MARK"),
   (0x301E, "aDOUBLE PRIME QUOTATION MARKaLOW DOUBLE PRIME QUOTATION MARKaPOSTAL MARK FACE"),
   (0x3021, "aHANGZHOU NUMERAL ONErTWOsHREErFOURsIVErSIXsEVENrEIGHTrNINE"),
   (0x302A, "aIDEOGRAPHIC LEVEL TONE MARKmRISING TONE MARKmDEPARTING TONE MARKmENTERING TONE MARK"),
   (0x302E, "aHANGUL SINGLE DOT TONE MARKhDOUBLE DOT TONE MARKaWAVY DASH"),
   (0x3031, "aVERTICAL KANA REPEAT MARKvWITH VOICED SOUND MARKvMARK UPPER HALF"),
   (0x3034, "vWITH VOICED SOUND MARK UPPER HALFvMARK LOWER HALFaCIRCLED POSTAL MARK"),
   (0x3037, "aIDEOGRAPHIC TELEGRAPH LINE FEED SEPARATOR SYMBOLaHANGZHOU NUMERAL TENsWENTYsHIRTY"),
   (0x303B, "aVERTICAL IDEOGRAPHIC ITERATION MARKaMASU MARKaPART ALTERNATION MARK"),
   (0x303E, "aIDEOGRAPHIC VARIATION INDICATORmHALF FILL SPACE"),
   (0x3041, "aHIRAGANA LETTER SMALL AqAqSMALL IqIqSMALL UqUqSMALL EqEqSMALL OqOqKAqGAqKIqGIqKUqGU"),
   (0x3051, "qKEqGEqKOqGOqSAqZAqSIqZIqSUqZUqSEqZEqSOqZOqTAqDAqTIqDIqSMALL TUqTUqDUqTEqDEqTOqDOqNA"),
   (0x306B, "rIrUrErOqHAqBAqPAqHIqBIqPIqHUqBUqPUqHEqBEqPEqHOqBOqPOqMArIrUrErOqSMALL YAqYA"),
   (0x3085, "qSMALL YUqYUqSMALL YOqYOqRArIrUrErOqSMALL WAqWArIrErOqNqVUqSMALL KAxE"),
   (0x3099, "aCOMBINING KATAKANA-HIRAGANA VOICED SOUND MARKzdSEMI-VOICED SOUND MARK"),
   (0x309B, "aKATAKANA-HIRAGANA VOICED SOUND MARKsSEMI-VOICED SOUND MARKaHIRAGANA ITERATION MARK"),
   (0x309E, "jVOICED ITERATION MARKjDIGRAPH YORIaKATAKANA-HIRAGANA DOUBLE HYPHENi LETTER SMALL A"),
   (0x30A2, "qAqSMALL IqIqSMALL UqUqSMALL EqEqSMALL OqOqKAqGAqKIqGIqKUqGUqKEqGEqKOqGOqSAqZAqSIqZI"),
   (0x30B9, "qSUqZUqSEqZEqSOqZOqTAqDAqTIqDIqSMALL TUqTUqDUqTEqDEqTOqDOqNArIrUrErOqHAqBAqPAqHIqBI"),
   (0x30D4, "qPIqHUqBUqPUqHEqBEqPEqHOqBOqPOqMArIrUrErOqSMALL YAqYAqSMALL YUqYUqSMALL YOqYOqRArIrU"),
   (0x30EC, "rErOqSMALL WAqWArIrErOqNqVUqSMALL KAxEqVArIrErOjMIDDLE DOT"),
   (0x30FC, "i-HIRAGANA PROLONGED SOUND MARKi ITERATION MARKjVOICED ITERATION MARKjDIGRAPH KOTO"),
   (0x3105, "aBOPOMOFO LETTER BqPqMqFqDqTqNqLqGqKqHqJqQqXqZHqCHqSHqRqZqCqSqAqOqErHqAIqEIqAUqOUqAN"),
   (0x3123, "qENqANGqENGrRqIqUqIUqVqNGqGNqIHqO WITH DOT ABOVEqNN"),
   (0x3131, "aHANGUL LETTER KIYEOKoSSANGKIYEOKoKIYEOK-SIOSoNIEUNt-CIEUCuHIEUHoTIKEUToSSANGTIKEUT"),
   (0x3139, "oRIEULt-KIYEOKuMIEUMuPIEUPuSIOSuTHIEUTHuPHIEUPHuHIEUHoMIEUMoPIEUPoSSANGPIEUP"),
   (0x3144, "oPIEUP-SIOSoSIOSpSANGSIOSoIEUNGoCIEUCoSSANGCIEUCoCHIEUCHoKHIEUKHoTHIEUTHoPHIEUPH"),
   (0x314E, "oHIEUHoApEoYAqEoEOoEoYEOpEoOoWAqEoOEoYOoUoWEOpEpIoYUoEUoYIoIhFILLER"),
   (0x3165, "hLETTER SSANGNIEUNoNIEUN-TIKEUTuSIOSuPANSIOSoRIEUL-KIYEOK-SIOSuTIKEUTuPIEUP-SIOS"),
   (0x316C, "vANSIOSuYEORINHIEUHoMIEUM-PIEUPuSIOSuPANSIOSoKAPYEOUNMIEUMoPIEUP-KIYEOKuTIKEUT"),
   (0x3174, "uSIOS-KIYEOKzTIKEUTuCIEUCuTHIEUTHoKAPYEOUNPIEUPwSSANGPIEUPoSIOS-KIYEOKtNIEUNtTIKEUT"),
   (0x317D, "tPIEUPtCIEUCoPANSIOSoSSANGIEUNGoYESIEUNGw-SIOSxPANSIOSoKAPYEOUNPHIEUPHoSSANGHIEUH"),
   (0x3186, "oYEORINHIEUHpO-YAtErIpU-YEOsErIoARAEAtE"),
   (0x3190, "aIDEOGRAPHIC ANNOTATION LINKING MARKxREVERSE MARKxONE MARKxTWO MARKyHREE MARK"),
   (0x3195, "xFOUR MARKxTOP MARKxMIDDLE MARKxBOTTOM MARKxFIRST MARKxSECOND MARKxTHIRD MARK"),
   (0x319C, "xFOURTH MARKxHEAVEN MARKxEARTH MARKxMAN MARKaBOPOMOFO LETTER BUqZIqJIqGUqEErNNqOOrNN"),
   (0x31A8, "qIRqANNqINNqUNNqIMqNGGqAINNrUNNrMqOMrNGqINNNjFINAL LETTER PwTwKwHjLETTER GHqLHqZY"),
   (0x31BB, "jFINAL LETTER GjLETTER GWqKWqOEqAHaCJK STROKE TlWGlXGlBXGlSWlHZZnGmPmZWGlSZWGlHZTnZP"),
   (0x31CC, "mPWGmZWnZZlNlHlSlPlSPlDlHZmGlSZmWZmTmGlPDmZlTNlSZZmWGlHXWGmZZZGlPGlQ"),
   (0x31F0, "aKATAKANA LETTER SMALL KUwSIxUwTOwNUwHAxIxUxExOwMUwRAxIxUxExO"),
   (0x3200, "aPARENTHESIZED HANGUL KIYEOKvNIEUNvTIKEUTvRIEULvMIEUMvPIEUPvSIOSvIEUNGvCIEUCwHIEUCH"),
   (0x320A, "vKHIEUKHvTHIEUTHvPHIEUPHvHIEUHvKIYEOK AvNIEUN AvTIKEUT AvRIEUL AvMIEUM AvPIEUP A"),
   (0x3214, "vSIOS AvIEUNG AvCIEUC AwHIEUCH AvKHIEUKH AvTHIEUTH AvPHIEUPH AvHIEUH AvCIEUC U"),
   (0x321D, "oKOREAN CHARACTER OJEONzh HU"),
   (0x3220, "oIDEOGRAPH ONEyTWOzHREEyFOURzIVEySIXzEVENyEIGHTyNINEyTENyMOONyFIREyWATERzOODyMETAL"),
   (0x322F, "yEARTHySUNzTOCKyHAVEySOCIETYyNAMEySPECIALyFINANCIALyCONGRATULATIONyLABORyREPRESENT"),
   (0x323A, "yCALLySTUDYzUPERVISEyENTERPRISEyRESOURCEyALLIANCEyFESTIVALyRESTySELFyREACH"),
   (0x3244, "aCIRCLED IDEOGRAPH QUESTIONsKINDERGARTENsSCHOOLsKOTOiNUMBER TEN ON BLACK SQUARE"),
   (0x3249, "qWENTY ON BLACK SQUAREqHIRTY ON BLACK SQUAREpFORTY ON BLACK SQUARE"),
   (0x324C, "qIFTY ON BLACK SQUAREpSIXTY ON BLACK SQUAREqEVENTY ON BLACK SQUARE"),
   (0x324F, "pEIGHTY ON BLACK SQUAREaPARTNERSHIP SIGNaCIRCLED NUMBER TWENTY ONEwTWOxHREEwFOURxIVE"),
   (0x3256, "wSIXxEVENwEIGHTwNINEqHIRTYv ONEwTWOxHREEwFOURxIVEiHANGUL KIYEOKpNIEUNpTIKEUTpRIEUL"),
   (0x3264, "pMIEUMpPIEUPpSIOSpIEUNGpCIEUCqHIEUCHpKHIEUKHpTHIEUTHpPHIEUPHpHIEUHpKIYEOK ApNIEUN A"),
   (0x3270, "pTIKEUT ApRIEUL ApMIEUM ApPIEUP ApSIOS ApIEUNG ApCIEUC AqHIEUCH ApKHIEUKH A"),
   (0x3279, "pTHIEUTH ApPHIEUPH ApHIEUH AiKOREAN CHARACTER CHAMKOzJUEUIiHANGUL IEUNG U"),
   (0x327F, "aKOREAN STANDARD SYMBOLaCIRCLED IDEOGRAPH ONEsTWOtHREEsFOURtIVEsSIXtEVENsEIGHTsNINE"),
   (0x3289, "sTENsMOONsFIREsWATERtOODsMETALsEARTHsSUNtTOCKsHAVEsSOCIETYsNAMEsSPECIALsFINANCIAL"),
   (0x3297, "sCONGRATULATIONsLABORsSECRETsMALEsFEMALEsSUITABLEsEXCELLENTsPRINTsATTENTIONsITEM"),
   (0x32A1, "sRESTsCOPYuRRECTsHIGHsCENTREsLOWtEFTsRIGHTsMEDICINEsRELIGIONsSTUDYtUPERVISE"),
   (0x32AD, "sENTERPRISEsRESOURCEsALLIANCEsNIGHTiNUMBER THIRTY SIXxEVENwEIGHTwNINEpFORTYu ONEvTWO"),
   (0x32B8, "wHREEvFOURwIVEvSIXwEVENvEIGHTvNINEqIFTYaIDEOGRAPHIC TELEGRAPH SYMBOL FOR JANUARY"),
   (0x32C1, "ziFEBRUARYziMARCHziAPRILziMAYziJUNEzkLYziAUGUSTziSEPTEMBERziOCTOBERziNOVEMBER"),
   (0x32CB, "ziDECEMBERaSQUARE HGhERGiVaLIMITED LIABILITY SIGNaCIRCLED KATAKANA ArIrUrErOrKAsIsU"),
   (0x32D8, "sEsOrSAsIsUsEsOrTAsIsUsEsOrNAsIsUsEsOrHAsIsUsEsOrMAsIsUsEsOrYAsUsOrRAsIsUsEsOrWAsIsE"),
   (0x32FE, "sOaSQUARE ERA NAME REIWAhAPAATOiRUHUAiNPEAiARUhININGUjTIhUONhESUKUUDOiEKAAhONSUiOMU"),
   (0x330B, "hKAIRIjRATTOkORIIhGARONjNMAiIGAjNIIhKYURIIhGIRUDAAhKIROlGURAMUlMEETORUlWATTOhGURAMU"),
   (0x3319, "nTONhKURUZEIROkOONEiEESUiORUNAjOPOhSAIKURUjNTIIMUiIRINGUiENTIlOhDAASUiESIiORUhTON"),
   (0x3328, "hNANOiOTTOhHAITUhPAASENTOkTUhBAARERUhPIASUTORUjKURUkOhBIRUhHUARADDOjIITOhBUSSYERU"),
   (0x3335, "hHURANiEKUTAARUhPESOjNIHIhHERUTUhPENSUjEZIhBEETAhPOINTOhBORUTOhHONhPONDOhHOORUkN"),
   (0x3343, "hMAIKUROkRUjHHAjRUKUjNSYONiIKURONjRIlBAARUiEGAlTONjETORUhYAADOkRUiUANhRITTORUjRA"),
   (0x3353, "iUPIIjUBURUiEMUjNTOGENhWATTOaIDEOGRAPHIC TELEGRAPH SYMBOL FOR HOUR ZEROznONEznTWO"),
   (0x335B, "zoHREEznFOURzoIVEznSIXzoEVENznEIGHTznNINEznTENznELEVENznTWELVEzoHIRTEENznFOURTEEN"),
   (0x3367, "zoIFTEENznSIXTEENzoEVENTEENznEIGHTEENznNINETEENznTWENTYzt-ONEzuTWOzvHREEzuFOUR"),
   (0x3371, "aSQUARE HPAhDAhAUhBARhOVhPChDMj SQUAREDkCUBEDhIUhERA NAME HEISEIqSYOUWAqTAISYOU"),
   (0x337E, "qMEIZIhCORPORATIONhPA AMPShNAhMU AiAhKAiBhMBhGBhCALhKCALhPFhNFhMU FkGiGhKGhHZhKHZ"),
   (0x3392, "hMHZhGHZhTHZhMU LiLhDLhKLhFMhNMhMU MiMhCMhKMhMM SQUAREDhCM SQUAREDhM SQUARED"),
   (0x33A2, "hKM SQUAREDhMM CUBEDhCM CUBEDhM CUBEDhKM CUBEDhM OVER Sp SQUAREDhPAhKPAhMPAhGPAhRAD"),
   (0x33AE, "k OVER Sr SQUAREDhPShNShMU SiShPVhNVhMU ViVhKVhMV MEGAhPWhNWhMU WiWhKWhMW MEGAhK OHM"),
   (0x33C1, "hM OHMhAMhBQhCCiDi OVER KGiOhDBhGYhHAiPhINhKKiM CAPITALiThLMiNiOGiXhMB SMALLiILiOL"),
   (0x33D7, "hPHiMiPMiRhSRiVhWBhV OVER MhA OVER MaIDEOGRAPHIC TELEGRAPH SYMBOL FOR DAY ONEzmTWO"),
   (0x33E2, "znHREEzmFOURznIVEzmSIXznEVENzmEIGHTzmNINEzmTENzmELEVENzmTWELVEznHIRTEENzmFOURTEEN"),
   (0x33EE, "znIFTEENzmSIXTEENznEVENTEENzmEIGHTEENzmNINETEENzmTWENTYzs-ONEztTWOzuHREEztFOURzuIVE"),
   (0x33F9, "ztSIXzuEVENztEIGHTztNINEznHIRTYzs-ONEaSQUARE GAL"),
   (0x4DC0, "aHEXAGRAM FOR THE CREATIVE HEAVENrRECEPTIVE EARTHnDIFFICULTY AT THE BEGINNING"),
   (0x4DC3, "nYOUTHFUL FOLLYnWAITINGnCONFLICTnTHE ARMYnHOLDING TOGETHERnSMALL TAMINGnTREADING"),
   (0x4DCA, "nPEACEnSTANDSTILLnFELLOWSHIPnGREAT POSSESSIONnMODESTYnENTHUSIASMnFOLLOWING"),
   (0x4DD1, "nWORK ON THE DECAYEDnAPPROACHnCONTEMPLATIONnBITING THROUGHnGRACEnSPLITTING APART"),
   (0x4DD7, "nRETURNnINNOCENCEnGREAT TAMINGnMOUTH CORNERSnGREAT PREPONDERANCEnTHE ABYSMAL WATER"),
   (0x4DDD, "rCLINGING FIREnINFLUENCEnDURATIONnRETREATnGREAT POWERnPROGRESS"),
   (0x4DE3, "nDARKENING OF THE LIGHTnTHE FAMILYnOPPOSITIONoBSTRUCTIONnDELIVERANCEpCREASEnINCREASE"),
   (0x4DEA, "nBREAKTHROUGHnCOMING TO MEETnGATHERING TOGETHERnPUSHING UPWARDnOPPRESSIONnTHE WELL"),
   (0x4DF0, "nREVOLUTIONnTHE CAULDRONrAROUSING THUNDERrKEEPING STILL MOUNTAINnDEVELOPMENT"),
   (0x4DF5, "nTHE MARRYING MAIDENnABUNDANCEnTHE WANDERERrGENTLE WINDrJOYOUS LAKEnDISPERSION"),
   (0x4DFB, "nLIMITATIONnINNER TRUTHnSMALL PREPONDERANCEnAFTER COMPLETIONnBEFORE COMPLETION"),
   (0xA000, "aYI SYLLABLE ITnXmInPnEToXnEoPmATnXmAnPmUOXnOoPmOTnXmOnPmEXmEmWUmBIToXnIoPoETpXoEpP"),
   (0xA01E, "nAToXnAoPnUOXoOpPnOToXnOoPnEXnEoPnUToXnUoPoRXoRnYToXnYoPoRXoRmPIToXnIoPoEXoEpPnAToX"),
   (0xA041, "nAoPnUOXoOpPnOToXnOoPnUToXnUoPoRXoRnYToXnYoPoRXoRmBBITpXoIpPpETqXpEqPoATpXoApPoUOXpO"),
   (0xA064, "qPoOTpXoOpPoEXoEpPoUTpXoUpPpRXpRoYTpXoYpPmNBITpXoIpPpEXpEqPoATpXoApPoOTpXoOpPoUTpXoU"),
   (0xA088, "pPpRXpRoYTpXoYpPpRXpRmHMITpXoIpPpEXpEqPoATpXoApPoUOXpOqPoOTpXoOpPoUTpXoUpPpRXpRoYXoY"),
   (0xA0AB, "pPpRXpRmMIToXnIoPoEXoEpPnAToXnAoPnUOTpXoOpPnOToXnOoPnEXnEnUToXnUoPoRXoRnYToXnYoPmFIT"),
   (0xA0CE, "oXnIoPnAToXnAoPnOXnOoPnUToXnUoPoRXoRnYToXnYoPmVIToXnIoPoETpXoEpPnAToXnAoPnOToXnOoP"),
   (0xA0F2, "nEXoPnUToXnUoPoRXoRnYToXnYoPoRXoRmDIToXnIoPoEXoEpPnAToXnAoPnUOXoOnOToXnOoPnEXnEoPnUT"),
   (0xA115, "oXnUoPoRXoRmTIToXnIoPoEXoEpPnAToXnAoPnUOTpXoOpPnOToXnOoPnEXnEoPnUToXnUoPoRXoRmDDITpX"),
   (0xA138, "oIpPpEXpEqPoATpXoApPoUOXpOqPoOTpXoOpPoEXoEpPoUTpXoUpPpRXpRmNDITpXoIpPpEXpEoATpXoApP"),
   (0xA15B, "oOTpXoOpPoEXoEpPoUTpXoUpPpRXpRmHNITpXoIpPpETqXpEqPoATpXoApPoUOXpOoOTpXpPoEXoEpPoUT"),
   (0xA17D, "mNIToXnIoPoEXoEpPnAXnAoPnUOXoOpPnOToXnOoPnEXnEoPnUToXnUoPoRXoRmHLITpXoIpPpEXpEqPoAT"),
   (0xA19F, "pXoApPoUOXpOqPoOXoOpPoEXoEpPoUTpXoUpPpRXpRoYTpXoYpPpRXpRmLIToXnIoPoETpXoEpPnAToXnAoP"),
   (0xA1C3, "nUOTpXoOpPnOToXnOoPnEXnEoPnUToXnUoPoRXoRnYToXnYoPoRXoRmGIToXnIoPoETpXoEpPnAToXnAoP"),
   (0xA1E6, "nUOTpXoOpPnOToXnOoPnEToXnEoPnUToXnUoPoRXoRmKIToXnIoPoEXoEpPnAToXnAoPnUOXoOpPnOToXnO"),
   (0xA209, "oPnEToXnEoPnUToXnUoPoRXoRmGGITpXoIpEXpEqPoATpXoApPoUOTqXpOqPoOTpXoOpPoETpXoEpPoUTpX"),
   (0xA22C, "oUpPpRXpRmMGIEXpEoATpXoApPoUOXpOqPoOTpXoOpPoEXoEpPoUTpXoUpPpRXpRmHXITpXoIpPpETqXpEqP"),
   (0xA24E, "oATpXoApPoUOTqXpOqPoOTpXoOpPoEXoEpPmNGIEXpEqPoATpXoApPoUOTqXpOoOTpXoOpPoEXoEpPmHIT"),
   (0xA26F, "oEXoEnAToXnAoPnUOTpXoOpPnOToXnOoPnEXnEoPmWAToXnAoPnUOXoOpPnOXnOoPnEXnEoPmZIToXnIoP"),
   (0xA291, "oEXoEpPnAToXnAoPnUOXoOpPnOToXnOoPnEXnEoPnUToXnUoPoRXoRnYToXnYoPoRXoRmCIToXnIoPoETpX"),
   (0xA2B4, "oEpPnAToXnAoPnUOXoOpPnOToXnOoPnEXnEoPnUToXnUoPoRXoRnYToXnYoPoRXoRmZZITpXoIpPpETqXpE"),
   (0xA2D7, "qPoATpXoApPoOXoOpPoEXoEpPoUXoUpPpRXpRoYTpXoYpPpRXpRmNZITpXoIpPpEXpEqPoATpXoApPoUOXpO"),
   (0xA2FA, "oOXpPoEXoEoUXoUpPpRXpRoYTpXoYpPpRXpRmSIToXnIoPoEXoEpPnAToXnAoPnUOXoOpPnOToXnOoPnEXnE"),
   (0xA31D, "oPnUToXnUoPoRXoRnYToXnYoPoRXoRnSITpXoIpPpEXpEqPoATpXoApPoOTpXoOpPoEXoEpPoUTpXoUpPoYT"),
   (0xA341, "pXoYpPpRXpRmZHATpXoApPoUOXpOqPoOTpXoOpPoETpXoEpPoUTpXoUpPpRXpRoYTpXoYpPpRXpRmCHATpX"),
   (0xA363, "oApPoUOTqXpOqPoOTpXoOpPoETpXoEpPoUXoUpPpRXpRoYTpXoYpPpRXpRmRRAXoAoUOXpOoOTpXoOpPoET"),
   (0xA385, "pXoEpPoUTpXoUpPpRXpRoYTpXoYpPpRXpRmNRATpXoApPoOXoOpPoETpXoEpPoUTpXoUpPpRXpRoYTpXoYpP"),
   (0xA3A9, "pRXpRmSHATpXoApPoUOXpOqPoOTpXoOpPoETpXoEpPoUTpXoUpPpRXpRoYTpXoYpPpRXpRmRAToXnAoPnUOX"),
   (0xA3CB, "oOpPnOToXnOoPnEXnEoPnUToXnUoPoRXoRnYToXnYoPoRXoRmJIToXnIoPoETpXoEpPnUOTpXoOpPnOToXnO"),
   (0xA3EF, "oPnUToXnUoPoRXoRnYToXnYoPoRXoRmQIToXnIoPoETpXoEpPnUOTpXoOpPnOToXnOoPnUToXnUoPoRXoR"),
   (0xA412, "nYToXnYoPoRXoRmJJITpXoIpPpETqXpEqPoUOXpOqPoOTpXoOpPoUTpXoUpPpRXpRoYTpXoYpPmNJITpXoI"),
   (0xA434, "pPpETqXpEqPoUOXpOoOTpXoOpPoUXoUpPpRXpRoYTpXoYpPpRXpRnYITpXoIpPpETqXpEqPoUOXpOqPoOTpX"),
   (0xA457, "oOpPoUTpXoUpPmXIToXnIoPoETpXoEpPnUOXoOnOToXnOoPnYToXnYoPoRXoRmYIToXnIoPoETpXoEpPnUOT"),
   (0xA47A, "pXoOpPnOToXnOoPnUToXnUoPoRXoRnYToXnYoPoRXoR"),
   (0xA490, "dRADICAL QOTlLIlKITlNYIPlCYPlSSIlGGOPmEPlMIlHXITlLYRlBBUTlMOPlYOlPUTlHXUOlTATlGAlZUP"),
   (0xA4A3, "lCYTlDDURlBURlGGUOlNYOPlTUlOPlJJUTlZOTlPYTlHMOlYITlVURlSHYlVEPlZAlJOlNZUPlJJYlGOT"),
   (0xA4B7, "lJJIElWOlDUlSHURlLIElCYmUOPmIPlHXOPlSHATlZURlSHOPlCHElZZIETlNBIElKE"),
   (0xA4D0, "aLISU LETTER BAmPAnHAmDAmTAnHAmGAmKAnHAmJAmCAnHAmDZAmTSAoHAmMAmNAmLAmSAmZHAnAmNGAmHA"),
   (0xA4E7, "mXAmHHAmFAmWAmSHAmYAmGHAmAnEmEnUmImOmUnEnHmOEmTONE MYA TIrNA POrMYA CYAvBOvNAvJEU"),
   (0xA4FE, "fPUNCTUATION COMMArFULL STOPaVAI SYLLABLE EEpNnHEEnWEEqNnPEEnBHEEoEEnMBEEnKPEEnMGBEE"),
   (0xA50B, "nGBEEnFEEnVEEnTEEoHEEnDHEEpHEEnLEEnREEnDEEnNDEEnSEEoHEEnZEEoHEEnCEEnJEEnNJEEnYEEnKEE"),
   (0xA51F, "nNGGEEnGEEnMEEnNEEoYEEnIoNnHIpNnWIpNnPInBHIoInMBInKPInMGBInGBInFInVInTIoHInDHIpHInLI"),
   (0xA538, "nRInDInNDInSIoHInZIoHInCInJInNJInYInKInNGGInGInMInNIoYInAoNnNGANnHApNnWApNnPAnBHAoA"),
   (0xA553, "nMBAnKPAqNnMGBAnGBAnFAnVAnTAoHAnDHApHAnLAnRAnDAnNDAnSAoHAnZAoHAnCAnJAnNJAnYAnKApN"),
   (0xA56C, "nNGGAnGAnMAnNAoYAnOOpNnHOOnWOOqNnPOOnBHOOoOOnMBOOnKPOOnMGBOOnGBOOnFOOnVOOnTOOoHOO"),
   (0xA581, "nDHOOpHOOnLOOnROOnDOOnNDOOnSOOoHOOnZOOoHOOnCOOnJOOnNJOOnYOOnKOOnNGGOOnGOOnMOOnNOO"),
   (0xA594, "oYOOnUoNnHUpNnWUpNnPUnBHUoUnMBUnKPUnMGBUnGBUnFUnVUnTUoHUnDHUpHUnLUnRUnDUnNDUnSUoHU"),
   (0xA5AE, "nZUoHUnCUnJUnNJUnYUnKUnNGGUnGUnMUnNUoYUnOoNnNGONnHOpNnWOpNnPOnBHOoOnMBOnKPOnMGBOnGBO"),
   (0xA5C8, "qNnFOnVOnTOoHOnDHOpHOnLOnROnDOnNDOnSOoHOnZOoHOnCOnJOnNJOnYOnKOnNGGOnGOnMOnNOoYOnEoN"),
   (0xA5E3, "nNGENnHEpNnWEpNnPEnBHEoEnMBEnKPEqNnMGBEnGBEqNnFEnVEnTEoHEnDHEpHEnLEnREnDEnNDEnSEoHE"),
   (0xA5FD, "nZEoHEnCEnJEnNJEnYEnKEnNGGErNnGEpNnMEnNEoYEoGnLENGTHENEReCOMMAeFULL STOP"),
   (0xA60F, "eQUESTION MARKeSYLLABLE NDOLE FAtKAtSOOgMBOL FEENGlKEENGlTINGlNIIlBANGlFAAlTAAlDANG"),
   (0xA61B, "mOONGlKUNGlTONGlDO-OlJONGeDIGIT ZEROkONEkTWOlHREEkFOURlIVEkSIXlEVENkEIGHTkNINE"),
   (0xA62A, "eSYLLABLE NDOLE MAtDO"),
   (0xA640, "aCYRILLIC CAPITAL LETTER ZEMLYAjSMALL LETTER ZEMLYAjCAPITAL LETTER DZELO"),
   (0xA643, "jSMALL LETTER DZELOjCAPITAL LETTER REVERSED DZEjSMALL LETTER REVERSED DZE"),
   (0xA646, "jCAPITAL LETTER IOTAjSMALL LETTER IOTAjCAPITAL LETTER DJERVjSMALL LETTER DJERV"),
   (0xA64A, "jCAPITAL LETTER MONOGRAPH UKjSMALL LETTER MONOGRAPH UKjCAPITAL LETTER BROAD OMEGA"),
   (0xA64D, "jSMALL LETTER BROAD OMEGAjCAPITAL LETTER NEUTRAL YERjSMALL LETTER NEUTRAL YER"),
   (0xA650, "jCAPITAL LETTER YERU WITH BACK YERjSMALL LETTER YERU WITH BACK YER"),
   (0xA652, "jCAPITAL LETTER IOTIFIED YATjSMALL LETTER IOTIFIED YATjCAPITAL LETTER REVERSED YU"),
   (0xA655, "jSMALL LETTER REVERSED YUjCAPITAL LETTER IOTIFIED AjSMALL LETTER IOTIFIED A"),
   (0xA658, "jCAPITAL LETTER CLOSED LITTLE YUSjSMALL LETTER CLOSED LITTLE YUS"),
   (0xA65A, "jCAPITAL LETTER BLENDED YUSjSMALL LETTER BLENDED YUS"),
   (0xA65C, "jCAPITAL LETTER IOTIFIED CLOSED LITTLE YUSjSMALL LETTER IOTIFIED CLOSED LITTLE YUS"),
   (0xA65E, "jCAPITAL LETTER YNjSMALL LETTER YNjCAPITAL LETTER REVERSED TSE"),
   (0xA661, "jSMALL LETTER REVERSED TSEjCAPITAL LETTER SOFT DEjSMALL LETTER SOFT DE"),
   (0xA664, "jCAPITAL LETTER SOFT ELjSMALL LETTER SOFT ELjCAPITAL LETTER SOFT EM"),
   (0xA667, "jSMALL LETTER SOFT EMjCAPITAL LETTER MONOCULAR OjSMALL LETTER MONOCULAR O"),
   (0xA66A, "jCAPITAL LETTER BINOCULAR OjSMALL LETTER BINOCULAR O"),
   (0xA66C, "jCAPITAL LETTER DOUBLE MONOCULAR OjSMALL LETTER DOUBLE MONOCULAR O"),
   (0xA66E, "jLETTER MULTIOCULAR ObOMBINING CYRILLIC VZMETtTEN MILLIONS SIGN"),
   (0xA671, "tHUNDRED MILLIONS SIGNtTHOUSAND MILLIONS SIGNaSLAVONIC ASTERISK"),
   (0xA674, "aCOMBINING CYRILLIC LETTER UKRAINIAN IEzbIzbYIzbUzbHARD SIGNzbYERUzbSOFT SIGNzbOMEGA"),
   (0xA67C, "tKAVYKAtPAYEROKbYRILLIC KAVYKAjPAYEROKjCAPITAL LETTER DWEjSMALL LETTER DWE"),
   (0xA682, "jCAPITAL LETTER DZWEjSMALL LETTER DZWEjCAPITAL LETTER ZHWEjSMALL LETTER ZHWE"),
   (0xA686, "jCAPITAL LETTER CCHEjSMALL LETTER CCHEjCAPITAL LETTER DZZEjSMALL LETTER DZZE"),
   (0xA68A, "jCAPITAL LETTER TE WITH MIDDLE HOOKjSMALL LETTER TE WITH MIDDLE HOOK"),
   (0xA68C, "jCAPITAL LETTER TWEjSMALL LETTER TWEjCAPITAL LETTER TSWEjSMALL LETTER TSWE"),
   (0xA690, "jCAPITAL LETTER TSSEjSMALL LETTER TSSEjCAPITAL LETTER TCHEjSMALL LETTER TCHE"),
   (0xA694, "jCAPITAL LETTER HWEjSMALL LETTER HWEjCAPITAL LETTER SHWEjSMALL LETTER SHWE"),
   (0xA698, "jCAPITAL LETTER DOUBLE OjSMALL LETTER DOUBLE OjCAPITAL LETTER CROSSED O"),
   (0xA69B, "jSMALL LETTER CROSSED OaMODIFIER LETTER CYRILLIC HARD SIGNzSOFT SIGN"),
   (0xA69E, "aCOMBINING CYRILLIC LETTER EFzbIOTIFIED EaBAMUM LETTER AnKAnUnKUnEEnREEnTAEnOnNYInI"),
   (0xA6AA, "nLAnPAnRIIpEEnLEEEEnMEEEEnTAAnNDAAoJAEMnMnSUUnMUnSHIIoIoHEUXoEUXnKYEEoETnNUAEoUoJUAE"),
   (0xA6BF, "nYOQnSHUnYUQoAnNSHAnKEUXnPEUXnNJEEoTEEnPUEnWUEnPEEnFEEnRUnLUnMInNInREUXoAEnKEN"),
   (0xA6D3, "nNGKWAENpGApAnSHOnPUAEnFUoOMnWAnNAnLInPInLOQnKOnMBENnRENnMENoAnTInKInMOoBAAnTETnKPA"),
   (0xA6EA, "nTENnNTUUnSAMBAnFAAMAEnKOVUUpGHOMgCOMBINING MARK KOQNDONvTUKWENTISgNJAEMLIgFULL STOP"),
   (0xA6F4, "gCOLONiMMAgSEMICOLONgQUESTION MARK"),
   (0xA700, "aMODIFIER LETTER CHINESE TONE YIN PINGzfANG PINGzfIN SHANGzfANG SHANGzfIN QUzfANG QU"),
   (0xA706, "zfIN RUzfANG RUqEXTRA-HIGH DOTTED TONE BARqHIGH DOTTED TONE BARqMID DOTTED TONE BAR"),
   (0xA70B, "qLOW DOTTED TONE BARqEXTRA-LOW DOTTED TONE BARwHIGH DOTTED LEFT-STEM TONE BAR"),
   (0xA70E, "qHIGH DOTTED LEFT-STEM TONE BARqMID DOTTED LEFT-STEM TONE BAR"),
   (0xA710, "qLOW DOTTED LEFT-STEM TONE BARqEXTRA-LOW DOTTED LEFT-STEM TONE BAR"),
   (0xA712, "wHIGH LEFT-STEM TONE BARqHIGH LEFT-STEM TONE BARqMID LEFT-STEM TONE BAR"),
   (0xA715, "qLOW LEFT-STEM TONE BARqEXTRA-LOW LEFT-STEM TONE BARqDOT VERTICAL BARuSLASH"),
   (0xA719, "uHORIZONTAL BARqLOWER RIGHT CORNER ANGLEqRAISED UP ARROWxDOWN ARROWxEXCLAMATION MARK"),
   (0xA71E, "xINVERTED EXCLAMATION MARKqLOW INVERTED EXCLAMATION MARKqSTRESS AND HIGH TONE"),
   (0xA721, "zcLOW TONEaLATIN CAPITAL LETTER EGYPTOLOGICAL ALEFgSMALL LETTER EGYPTOLOGICAL ALEF"),
   (0xA724, "gCAPITAL LETTER EGYPTOLOGICAL AINgSMALL LETTER EGYPTOLOGICAL AINgCAPITAL LETTER HENG"),
   (0xA727, "gSMALL LETTER HENGgCAPITAL LETTER TZgSMALL LETTER TZgCAPITAL LETTER TRESILLO"),
   (0xA72B, "gSMALL LETTER TRESILLOgCAPITAL LETTER CUATRILLOgSMALL LETTER CUATRILLO"),
   (0xA72E, "gCAPITAL LETTER CUATRILLO WITH COMMAgSMALL LETTER CUATRILLO WITH COMMA"),
   (0xA730, "gLETTER SMALL CAPITAL FzcSgCAPITAL LETTER AAgSMALL LETTER AAgCAPITAL LETTER AO"),
   (0xA735, "gSMALL LETTER AOgCAPITAL LETTER AUgSMALL LETTER AUgCAPITAL LETTER AVgSMALL LETTER AV"),
   (0xA73A, "gCAPITAL LETTER AV WITH HORIZONTAL BARgSMALL LETTER AV WITH HORIZONTAL BAR"),
   (0xA73C, "gCAPITAL LETTER AYgSMALL LETTER AYgCAPITAL LETTER REVERSED C WITH DOT"),
   (0xA73F, "gSMALL LETTER REVERSED C WITH DOTgCAPITAL LETTER K WITH STROKE"),
   (0xA741, "gSMALL LETTER K WITH STROKEgCAPITAL LETTER K WITH DIAGONAL STROKE"),
   (0xA743, "gSMALL LETTER K WITH DIAGONAL STROKE"),
   (0xA744, "gCAPITAL LETTER K WITH STROKE AND DIAGONAL STROKE"),
   (0xA745, "gSMALL LETTER K WITH STROKE AND DIAGONAL STROKEgCAPITAL LETTER BROKEN L"),
   (0xA747, "gSMALL LETTER BROKEN LgCAPITAL LETTER L WITH HIGH STROKE"),
   (0xA749, "gSMALL LETTER L WITH HIGH STROKEgCAPITAL LETTER O WITH LONG STROKE OVERLAY"),
   (0xA74B, "gSMALL LETTER O WITH LONG STROKE OVERLAYgCAPITAL LETTER O WITH LOOP"),
   (0xA74D, "gSMALL LETTER O WITH LOOPgCAPITAL LETTER OOgSMALL LETTER OO"),
   (0xA750, "gCAPITAL LETTER P WITH STROKE THROUGH DESCENDER"),
   (0xA751, "gSMALL LETTER P WITH STROKE THROUGH DESCENDERgCAPITAL LETTER P WITH FLOURISH"),
   (0xA753, "gSMALL LETTER P WITH FLOURISHgCAPITAL LETTER P WITH SQUIRREL TAIL"),
   (0xA755, "gSMALL LETTER P WITH SQUIRREL TAILgCAPITAL LETTER Q WITH STROKE THROUGH DESCENDER"),
   (0xA757, "gSMALL LETTER Q WITH STROKE THROUGH DESCENDERgCAPITAL LETTER Q WITH DIAGONAL STROKE"),
   (0xA759, "gSMALL LETTER Q WITH DIAGONAL STROKEgCAPITAL LETTER R ROTUNDAgSMALL LETTER R ROTUNDA"),
   (0xA75C, "gCAPITAL LETTER RUM ROTUNDAgSMALL LETTER RUM ROTUNDA"),
   (0xA75E, "gCAPITAL LETTER V WITH DIAGONAL STROKEgSMALL LETTER V WITH DIAGONAL STROKE"),
   (0xA760, "gCAPITAL LETTER VYgSMALL LETTER VYgCAPITAL LETTER VISIGOTHIC Z"),
   (0xA763, "gSMALL LETTER VISIGOTHIC ZgCAPITAL LETTER THORN WITH STROKE"),
   (0xA765, "gSMALL LETTER THORN WITH STROKEgCAPITAL LETTER THORN WITH STROKE THROUGH DESCENDER"),
   (0xA767, "gSMALL LETTER THORN WITH STROKE THROUGH DESCENDERgCAPITAL LETTER VEND"),
   (0xA769, "gSMALL LETTER VENDgCAPITAL LETTER ETgSMALL LETTER ETgCAPITAL LETTER IS"),
   (0xA76D, "gSMALL LETTER ISgCAPITAL LETTER CONgSMALL LETTER CONaMODIFIER LETTER US"),
   (0xA771, "aLATIN SMALL LETTER DUMtLUMtMUMtNUMtRUMgLETTER SMALL CAPITAL RUMgSMALL LETTER TUMtUM"),
   (0xA779, "gCAPITAL LETTER INSULAR DgSMALL LETTER INSULAR DgCAPITAL LETTER INSULAR F"),
   (0xA77C, "gSMALL LETTER INSULAR FgCAPITAL LETTER INSULAR GvTURNED INSULAR G"),
   (0xA77F, "gSMALL LETTER TURNED INSULAR GgCAPITAL LETTER TURNED LgSMALL LETTER TURNED L"),
   (0xA782, "gCAPITAL LETTER INSULAR RgSMALL LETTER INSULAR RgCAPITAL LETTER INSULAR S"),
   (0xA785, "gSMALL LETTER INSULAR SgCAPITAL LETTER INSULAR TgSMALL LETTER INSULAR T"),
   (0xA788, "aMODIFIER LETTER LOW CIRCUMFLEX ACCENTqCOLONqSHORT EQUALS SIGN"),
   (0xA78B, "aLATIN CAPITAL LETTER SALTILLOgSMALL LETTER SALTILLOgCAPITAL LETTER TURNED H"),
   (0xA78E, "gSMALL LETTER L WITH RETROFLEX HOOK AND BELTgLETTER SINOLOGICAL DOT"),
   (0xA790, "gCAPITAL LETTER N WITH DESCENDERgSMALL LETTER N WITH DESCENDER"),
   (0xA792, "gCAPITAL LETTER C WITH BARgSMALL LETTER C WITH BARzbPALATAL HOOKtH WITH PALATAL HOOK"),
   (0xA796, "gCAPITAL LETTER B WITH FLOURISHgSMALL LETTER B WITH FLOURISH"),
   (0xA798, "gCAPITAL LETTER F WITH STROKEgSMALL LETTER F WITH STROKEgCAPITAL LETTER VOLAPUK AE"),
   (0xA79B, "gSMALL LETTER VOLAPUK AEgCAPITAL LETTER VOLAPUK OEgSMALL LETTER VOLAPUK OE"),
   (0xA79E, "gCAPITAL LETTER VOLAPUK UEgSMALL LETTER VOLAPUK UE"),
   (0xA7A0, "gCAPITAL LETTER G WITH OBLIQUE STROKEgSMALL LETTER G WITH OBLIQUE STROKE"),
   (0xA7A2, "gCAPITAL LETTER K WITH OBLIQUE STROKEgSMALL LETTER K WITH OBLIQUE STROKE"),
   (0xA7A4, "gCAPITAL LETTER N WITH OBLIQUE STROKEgSMALL LETTER N WITH OBLIQUE STROKE"),
   (0xA7A6, "gCAPITAL LETTER R WITH OBLIQUE STROKEgSMALL LETTER R WITH OBLIQUE STROKE"),
   (0xA7A8, "gCAPITAL LETTER S WITH OBLIQUE STROKEgSMALL LETTER S WITH OBLIQUE STROKE"),
   (0xA7AA, "gCAPITAL LETTER H WITH HOOKvREVERSED OPEN EvSCRIPT GvL WITH BELTvSMALL CAPITAL I"),
   (0xA7AF, "gLETTER SMALL CAPITAL QgCAPITAL LETTER TURNED KzdTvJ WITH CROSSED-TAILvCHIvBETA"),
   (0xA7B5, "gSMALL LETTER BETAgCAPITAL LETTER OMEGAgSMALL LETTER OMEGA"),
   (0xA7B8, "gCAPITAL LETTER U WITH STROKEgSMALL LETTER U WITH STROKEgCAPITAL LETTER GLOTTAL A"),
   (0xA7BB, "gSMALL LETTER GLOTTAL AgCAPITAL LETTER GLOTTAL IgSMALL LETTER GLOTTAL I"),
   (0xA7BE, "gCAPITAL LETTER GLOTTAL UgSMALL LETTER GLOTTAL UgCAPITAL LETTER OLD POLISH O"),
   (0xA7C1, "gSMALL LETTER OLD POLISH OgCAPITAL LETTER ANGLICANA WgSMALL LETTER ANGLICANA W"),
   (0xA7C4, "gCAPITAL LETTER C WITH PALATAL HOOKvS WITH HOOKvZ WITH PALATAL HOOK"),
   (0xA7C7, "vD WITH SHORT STROKE OVERLAYgSMALL LETTER D WITH SHORT STROKE OVERLAY"),
   (0xA7C9, "gCAPITAL LETTER S WITH SHORT STROKE OVERLAYgSMALL LETTER S WITH SHORT STROKE OVERLAY"),
   (0xA7D0, "gCAPITAL LETTER CLOSED INSULAR GgSMALL LETTER CLOSED INSULAR G"),
   (0xA7D3, "tDOUBLE THORN"),
   (0xA7D5, "zbWYNNgCAPITAL LETTER MIDDLE SCOTS SgSMALL LETTER MIDDLE SCOTS S"),
   (0xA7D8, "gCAPITAL LETTER SIGMOID SgSMALL LETTER SIGMOID S"),
   (0xA7F2, "aMODIFIER LETTER CAPITAL CyFyQaLATIN CAPITAL LETTER REVERSED HALF H"),
   (0xA7F6, "gSMALL LETTER REVERSED HALF HgEPIGRAPHIC LETTER SIDEWAYS I"),
   (0xA7F8, "aMODIFIER LETTER CAPITAL H WITH STROKEqSMALL LIGATURE OE"),
   (0xA7FA, "aLATIN LETTER SMALL CAPITAL TURNED MgEPIGRAPHIC LETTER REVERSED FziPyINVERTED M"),
   (0xA7FE, "z LONGAyARCHAIC MaSYLOTI NAGRI LETTER AuInSIGN DVISVARAnLETTER UuEuOnSIGN HASANTA"),
   (0xA807, "nLETTER KOvHOuGOvHOnSIGN ANUSVARAnLETTER COvHOuJOvHOuTTOwHOuDDOwHOuTOvHOuDOvHOuNOuPO"),
   (0xA81A, "vHOuBOvHOuMOuROuLOuRROuSOuHOnVOWEL SIGN AyIyUyEyOOnPOETRY MARK-1z2z3z4"),
   (0xA82C, "nSIGN ALTERNATE HASANTA"),
   (0xA830, "aNORTH INDIC FRACTION ONE QUARTERzHALFvTHREE QUARTERSvONE SIXTEENTHzEIGHTH"),
   (0xA835, "vTHREE SIXTEENTHSmQUARTER MARKmPLACEHOLDER MARKmRUPEE MARKmQUANTITY MARK"),
   (0xA840, "aPHAGS-PA LETTER KArHAqGAqNGAqCArHAqJAqNYAqTArHAqDAqNAqPArHAqBAqMAqTSAsHAqDZAqWAqZHA"),
   (0xA855, "rAqSMALL AqYAqRAqLAqSHArAqHAqAqIqUqEqOqQAqXAqFAqGGAqEEjSUBJOINED LETTER WAzbYA"),
   (0xA869, "jLETTER TTAsHAqDDAqNNAqALTERNATE YAqVOICELESS SHAvD HAqASPIRATED FA"),
   (0xA871, "jSUBJOINED LETTER RAlPERFIXED LETTER RAjLETTER CANDRABINDUjSINGLE HEAD MARK"),
   (0xA875, "jDOUBLE HEAD MARKjMARK SHADoDOUBLE SHAD"),
   (0xA880, "aSAURASHTRA SIGN ANUSVARAqVISARGAlLETTER AtAsItIsUtUsVOCALIC RzcRzbLzcLsEtEsAIsOtO"),
   (0xA891, "sAUsKAtHAsGAtHAsNGAsCAtHAsJAtHAsNYAsTTAuHAsDDAuHAsNNAsTAtHAsDAtHAsNAsPAtHAsBAtHAsMA"),
   (0xA8AB, "sYAsRAsLAsVAsSHAtSAtAsHAsLLAlCONSONANT SIGN HAARUlVOWEL SIGN AAwIxIwUxUwVOCALIC RzgR"),
   (0xA8BC, "zfLzgLwExEwAIwOxOwAUlSIGN VIRAMAqCANDRABINDU"),
   (0xA8CE, "lDANDAmOUBLE DANDAmIGIT ZEROrONErTWOsHREErFOURsIVErSIXsEVENrEIGHTrNINE"),
   (0xA8E0, "aCOMBINING DEVANAGARI DIGIT ZEROzcONEzcTWOzdHREEzcFOURzdIVEzcSIXzdEVENzcEIGHTzcNINE"),
   (0xA8EA, "vLETTER AzdUzdKAzdNAzdPAzdRAzdVIvSIGN AVAGRAHAaDEVANAGARI SIGN SPACING CANDRABINDU"),
   (0xA8F3, "qCANDRABINDU VIRAMAqDOUBLE CANDRABINDU VIRAMAqCANDRABINDU TWOzeHREEzdAVAGRAHA"),
   (0xA8F8, "qPUSHPIKAlGAP FILLERlCARETlHEADSTROKElSIGN SIDDHAMlJAIN OMlLETTER AYlVOWEL SIGN AY"),
   (0xA900, "aKAYAH LI DIGIT ZEROpONEpTWOqHREEpFOURqIVEpSIXqEVENpEIGHTpNINEjLETTER KArHAqGAqNGA"),
   (0xA90E, "qSArHAqZAqNYAqTAqHTAqNAqPArHAqMAqDAqBAqRAqYAqLAqWAqTHAqHAqVAqCAqAqOEqIqOOjVOWEL UEpE"),
   (0xA928, "pUpEEpOjTONE PLOPHUoCALYAt PLOPHUjSIGN CWIoSHYAaREJANG LETTER KAoGAoNGAoTAoDAoNAoPA"),
   (0xA937, "oBAoMAoCAoJAoNYAoSAoRAoLAoYAoWAoHAoMBAoNGGApDApYJAoAhVOWEL SIGN IsUsEsAIsOsAUsEUtA"),
   (0xA94F, "hCONSONANT SIGN NGwNwRwHhVIRAMA"),
   (0xA95F, "hSECTION MARKaHANGUL CHOSEONG TIKEUT-MIEUMxPIEUPxSIOSxCIEUCqRIEUL-KIYEOKwSSANGKIYEOK"),
   (0xA966, "wTIKEUTwSSANGTIKEUTwMIEUMwPIEUPwSSANGPIEUPwKAPYEOUNPIEUPwSIOSwCIEUCwKHIEUKH"),
   (0xA96F, "qMIEUM-KIYEOKwTIKEUTwSIOSqPIEUP-SIOS-THIEUTHwKHIEUKHwHIEUHqSSANGSIOS-PIEUP"),
   (0xA976, "qIEUNG-RIEULwHIEUHqSSANGCIEUC-HIEUHvTHIEUTHqPHIEUPH-HIEUHqHIEUH-SIOS"),
   (0xA97C, "qSSANGYEORINHIEUH"),
   (0xA980, "aJAVANESE SIGN PANYANGGAoCECAKoLAYARoWIGNYANjLETTER AqI KAWIqIrIqUqPA CEREK"),
   (0xA98A, "qNGA LELETz RASWADIqEqAIqOqKAs SASAKtMURDAqGAs MURDAqNGAqCAs MURDAqJAqNYA MURDA"),
   (0xA999, "qJA MAHAPRANAqNYAqTTAt MAHAPRANAqDDAt MAHAPRANAqNA MURDAqTAs MURDAqDAs MAHAPRANAqNA"),
   (0xA9A5, "qPAs MURDAqBAs MURDAqMAqYAqRAs AGUNGqLAqWAqSA MURDAuAHAPRANArAqHAjSIGN CECAK TELU"),
   (0xA9B4, "jVOWEL SIGN TARUNGvOLONGuWULUy MELIKuSUKUy MENDUTuTALINGuDIRGA MUREuPEPET"),
   (0xA9BD, "jCONSONANT SIGN KERETyPENGKALyCAKRAjPANGKONjLEFT RERENGGANjRIGHT RERENGGAN"),
   (0xA9C3, "jPADA ANDAPoMADYAoLUHURoWINDUoPANGKAToLINGSApUNGSIoADEGs ADEGoPISELEH"),
   (0xA9CD, "jTURNED PADA PISELEH"),
   (0xA9CF, "jPANGRANGKEPjDIGIT ZEROpONEpTWOqHREEpFOURqIVEpSIXqEVENpEIGHTpNINE"),
   (0xA9DE, "jPADA TIRTA TUMETESoISEN-ISENaMYANMAR LETTER SHAN GHAuCHAuJHAuNNAuBHAiSIGN SHAN SAW"),
   (0xA9E6, "iMODIFIER LETTER SHAN REDUPLICATIONiLETTER TAI LAING NYAzFAzGAzbHAzJAzbHAzDDAzcHA"),
   (0xA9EF, "zNNAiTAI LAING DIGIT ZEROyONEyTWOzHREEyFOURzIVEySIXzEVENyEIGHTyNINE"),
   (0xA9FA, "iLETTER TAI LAING LLAzDAzbHAzBAzbHA"),
   (0xAA00, "aCHAM LETTER AmImUmEmAImOmKAnHAmGAnHAmNGUEoAmCHAoHAmJAnHAmNHUEoAoJAmTAnHAmDAnHAmNUE"),
   (0xAA18, "nAmDDAmPAnPAnHAmBAnHAmMUEnAmBBAmYAmRAmLAmVAmSSAnAmHAfVOWEL SIGN AAqIrIqEIqUqOEqOqAI"),
   (0xAA31, "rUqUEfCONSONANT SIGN YAuRAuLAuWA"),
   (0xAA40, "fLETTER FINAL KsGsNGfCONSONANT SIGN FINAL NGfLETTER FINAL CHsTsNsPsYsRsLsSS"),
   (0xAA4C, "fCONSONANT SIGN FINAL MzbH"),
   (0xAA50, "fDIGIT ZEROlONElTWOmHREElFOURmIVElSIXmEVENlEIGHTlNINE"),
   (0xAA5C, "fPUNCTUATION SPIRALrDANDAsOUBLE DANDArTRIPLE DANDAaMYANMAR LETTER KHAMTI GAwCAxHAwJA"),
   (0xAA64, "xHAwNYAwTTAyHAwDDAyHAxHAwNAwSAwHAxHAwFAiMODIFIER LETTER KHAMTI REDUPLICATION"),
   (0xAA71, "iLETTER KHAMTI XAwZAwRAjOGOGRAM KHAMTI OAYyQNyHMiSYMBOL AITON EXCLAMATIONvONEvTWO"),
   (0xAA7A, "iLETTER AITON RAiSIGN PAO KAREN TONEnTAI LAING TONE-2zd5iLETTER SHWE PALAUNG CHA"),
   (0xAA7F, "zdSHAaTAI VIET LETTER LOW KOqHIGH KOqLOW KHOqHIGH KHOqLOW KHHOqHIGH KHHOqLOW GO"),
   (0xAA87, "qHIGH GOqLOW NGOqHIGH NGOqLOW COqHIGH COqLOW CHOqHIGH CHOqLOW SOqHIGH SOqLOW NYO"),
   (0xAA91, "qHIGH NYOqLOW DOqHIGH DOqLOW TOqHIGH TOqLOW THOqHIGH THOqLOW NOqHIGH NOqLOW BO"),
   (0xAA9B, "qHIGH BOqLOW POqHIGH POqLOW PHOqHIGH PHOqLOW FOqHIGH FOqLOW MOqHIGH MOqLOW YO"),
   (0xAAA5, "qHIGH YOqLOW ROqHIGH ROqLOW LOqHIGH LOqLOW VOqHIGH VOqLOW HOqHIGH HOqLOW OqHIGH O"),
   (0xAAB0, "jMAI KANGjVOWEL AApIpUEpUpEpOjMAI KHITjVOWEL IApUEAqApAUEqYqNqMjTONE MAI EKsNUENG"),
   (0xAAC1, "sTHOsSONG"),
   (0xAADB, "jSYMBOL KONqNUENGqSAMqHO HOIqKOI KOIaMEETEI MAYEK LETTER EuOuCHAuNYAuTTAwHAuDDAwHA"),
   (0xAAE8, "uNNAuSHAvSAnVOWEL SIGN IIyUUyAAIzUzAUnCHEIKHANnAHANG KHUDAMoNJI"),
   (0xAAF3, "nSYLLABLE REPETITION MARKnWORD REPETITION MARKnVOWEL SIGN VISARGAoIRAMA"),
   (0xAB01, "aETHIOPIC SYLLABLE TTHUvIvAAvEEvEvO"),
   (0xAB09, "sDDHUvIvAAvEEvEvO"),
   (0xAB11, "tZUuIuAAuEEuEuO"),
   (0xAB20, "sCCHHAwUwIwAAwEEwEwO"),
   (0xAB28, "sBBAuUuIuAAuEEuEuO"),
   (0xAB30, "aLATIN SMALL LETTER BARRED ALPHAtA REVERSED-SCHWAtBLACKLETTER EuARRED E"),
   (0xAB34, "tE WITH FLOURISHtLENIS FtSCRIPT G WITH CROSSED-TAILtL WITH INVERTED LAZY S"),
   (0xAB38, "zbDOUBLE MIDDLE TILDEzbMIDDLE RINGtM WITH CROSSED-TAILtN WITH CROSSED-TAIL"),
   (0xAB3C, "tENG WITH CROSSED-TAILtBLACKLETTER Ozh WITH STROKEtOPEN O WITH STROKEtINVERTED OE"),
   (0xAB41, "tTURNED OE WITH STROKEzjHORIZONTAL STROKEzc OPEN-Ozj WITH STROKEtSTIRRUP R"),
   (0xAB46, "gLETTER SMALL CAPITAL R WITH RIGHT LEGgSMALL LETTER R WITHOUT HANDLEtDOUBLE R"),
   (0xAB49, "tR WITH CROSSED-TAILtDOUBLE R WITH CROSSED-TAILtSCRIPT Rzc WITH RINGtBASELINE ESH"),
   (0xAB4E, "tU WITH SHORT RIGHT LEGvBAR WITH SHORT RIGHT LEGuItTURNED UItU WITH LEFT HOOKtCHI"),
   (0xAB54, "w WITH LOW RIGHT RINGzhLEFT SERIFtX WITH LOW RIGHT RINGzdNG LEFT LEG"),
   (0xAB58, "zo AND LOW RIGHT RINGzpWITH SERIFtY WITH SHORT RIGHT LEG"),
   (0xAB5B, "aMODIFIER BREVE WITH INVERTED BREVEjLETTER SMALL HENGwL WITH INVERTED LAZY S"),
   (0xAB5E, "zeMIDDLE TILDEwU WITH LEFT HOOKaLATIN SMALL LETTER SAKHA YATtIOTIFIED EtOPEN OEtUO"),
   (0xAB64, "tINVERTED ALPHAaGREEK LETTER SMALL CAPITAL OMEGA"),
   (0xAB66, "aLATIN SMALL LETTER DZ DIGRAPH WITH RETROFLEX HOOKtTS DIGRAPH WITH RETROFLEX HOOK"),
   (0xAB68, "uURNED R WITH MIDDLE TILDEaMODIFIER LETTER SMALL TURNED WqLEFT TACKqRIGHT TACK"),
   (0xAB70, "aCHEROKEE SMALL LETTER AwEwIwOwUwVwGAwKAwGExIxOxUxVwHAxExIxOxUxVwLAxExIxOxUxVwMAxExI"),
   (0xAB8C, "xOxUwNAwHNAwNAHxExIxOxUxVwQUAyEyIyOyUyVwSAwSxExIxOxUxVwDAwTAwDEwTEwDIwTIwDOxUxVxLA"),
   (0xABAD, "wTLAyEyIyOyUyVxSAyEyIyOyUyVwWAxExIxOxUxVwYAaMEETEI MAYEK LETTER KOKuSAMuLAIuMITuPA"),
   (0xABC5, "uNAuCHILuTILuKHOUuNGOUuTHOUuWAIuYANGuHUKuUNuIuPHAMuATIYAuGOKuJHAMuRAIuBAuJILuDIL"),
   (0xABD8, "uGHOUuDHOUuBHAMuKOK LONSUMuLAI LONSUMuMIT LONSUMuPA LONSUMuNA LONSUMuTIL LONSUM"),
   (0xABE1, "uNGOU LONSUMuI LONSUMnVOWEL SIGN ONAPyINAPyANAPyYENAPySOUNAPyUNAPyCHEINAPyNUNG"),
   (0xABEB, "nCHEIKHEInLUM IYEKnAPUN IYEK"),
   (0xABF0, "nDIGIT ZEROtONEtTWOuHREEtFOURuIVEtSIXuEVENtEIGHTtNINE"),
   (0xD7B0, "aHANGUL JUNGSEONG O-YEOtO-IrYO-AvEuEOrU-YEOtI-IrYU-AEuOrEU-AuEOuEuOrI-YA-OvEuEOuE"),
   (0xD7C1, "tO-ItYOuUtIrARAEA-AxE"),
   (0xD7CB, "iONGSEONG NIEUN-RIEULxCHIEUCHrSSANGTIKEUTzd-PIEUPrTIKEUT-PIEUPySIOSzd-KIYEOKyCIEUC"),
   (0xD7D3, "zHIEUCHyTHIEUTHrRIEUL-SSANGKIYEOKxKIYEOK-HIEUHrSSANGRIEUL-KHIEUKHrRIEUL-MIEUM-HIEUH"),
   (0xD7D9, "xPIEUP-TIKEUTzePHIEUPHxYESIEUNGzORINHIEUH-HIEUHrKAPYEOUNRIEULrMIEUM-NIEUNxSSANGNIEUN"),
   (0xD7E0, "rSSANGMIEUMrMIEUM-PIEUP-SIOSxCIEUCrPIEUP-TIKEUTxRIEUL-PHIEUPHxMIEUMrSSANGPIEUP"),
   (0xD7E7, "rPIEUP-SIOS-TIKEUTxCIEUCyHIEUCHrSIOS-MIEUMwKAPYEOUNPIEUPsSANGSIOS-KIYEOKzcTIKEUT"),
   (0xD7EE, "sIOS-PANSIOSwCIEUCxHIEUCHwTHIEUTHwHIEUHrPANSIOS-PIEUPzKAPYEOUNPIEUPrYESIEUNG-MIEUM"),
   (0xD7F6, "zbHIEUHrCIEUC-PIEUPxSSANGPIEUPrSSANGCIEUCrPHIEUPH-SIOSzTHIEUTH"),
   (0xF900, "aCJK COMPATIBILITY IDEOGRAPH-F900zg1zg2zg3zg4zg5zg6zg7zg8zg9zgAzgBzgCzgDzgEzgFzf10"),
   (0xF911, "zg1zg2zg3zg4zg5zg6zg7zg8zg9zgAzgBzgCzgDzgEzgFzf20zg1zg2zg3zg4zg5zg6zg7zg8zg9zgAzgB"),
   (0xF92C, "zgCzgDzgEzgFzf30zg1zg2zg3zg4zg5zg6zg7zg8zg9zgAzgBzgCzgDzgEzgFzf40zg1zg2zg3zg4zg5zg6"),
   (0xF947, "zg7zg8zg9zgAzgBzgCzgDzgEzgFzf50zg1zg2zg3zg4zg5zg6zg7zg8zg9zgAzgBzgCzgDzgEzgFzf60zg1"),
   (0xF962, "zg2zg3zg4zg5zg6zg7zg8zg9zgAzgBzgCzgDzgEzgFzf70zg1zg2zg3zg4zg5zg6zg7zg8zg9zgAzgBzgC"),
   (0xF97D, "zgDzgEzgFzf80zg1zg2zg3zg4zg5zg6zg7zg8zg9zgAzgBzgCzgDzgEzgFzf90zg1zg2zg3zg4zg5zg6zg7"),
   (0xF998, "zg8zg9zgAzgBzgCzgDzgEzgFzfA0zg1zg2zg3zg4zg5zg6zg7zg8zg9zgAzgBzgCzgDzgEzgFzfB0zg1zg2"),
   (0xF9B3, "zg3zg4zg5zg6zg7zg8zg9zgAzgBzgCzgDzgEzgFzfC0zg1zg2zg3zg4zg5zg6zg7zg8zg9zgAzgBzgCzgD"),
   (0xF9CE, "zgEzgFzfD0zg1zg2zg3zg4zg5zg6zg7zg8zg9zgAzgBzgCzgDzgEzgFzfE0zg1zg2zg3zg4zg5zg6zg7zg8"),
   (0xF9E9, "zg9zgAzgBzgCzgDzgEzgFzfF0zg1zg2zg3zg4zg5zg6zg7zg8zg9zgAzgBzgCzgDzgEzgFzeA00zg1zg2zg3"),
   (0xFA04, "zg4zg5zg6zg7zg8zg9zgAzgBzgCzgDzgEzgFzf10zg1zg2zg3zg4zg5zg6zg7zg8zg9zgAzgBzgCzgDzgE"),
   (0xFA1F, "zgFzf20zg1zg2zg3zg4zg5zg6zg7zg8zg9zgAzgBzgCzgDzgEzgFzf30zg1zg2zg3zg4zg5zg6zg7zg8zg9"),
   (0xFA3A, "zgAzgBzgCzgDzgEzgFzf40zg1zg2zg3zg4zg5zg6zg7zg8zg9zgAzgBzgCzgDzgEzgFzf50zg1zg2zg3zg4"),
   (0xFA55, "zg5zg6zg7zg8zg9zgAzgBzgCzgDzgEzgFzf60zg1zg2zg3zg4zg5zg6zg7zg8zg9zgAzgBzgCzgD"),
   (0xFA70, "zf70zg1zg2zg3zg4zg5zg6zg7zg8zg9zgAzgBzgCzgDzgEzgFzf80zg1zg2zg3zg4zg5zg6zg7zg8zg9zgA"),
   (0xFA8B, "zgBzgCzgDzgEzgFzf90zg1zg2zg3zg4zg5zg6zg7zg8zg9zgAzgBzgCzgDzgEzgFzfA0zg1zg2zg3zg4zg5"),
   (0xFAA6, "zg6zg7zg8zg9zgAzgBzgCzgDzgEzgFzfB0zg1zg2zg3zg4zg5zg6zg7zg8zg9zgAzgBzgCzgDzgEzgFzfC0"),
   (0xFAC1, "zg1zg2zg3zg4zg5zg6zg7zg8zg9zgAzgBzgCzgDzgEzgFzfD0zg1zg2zg3zg4zg5zg6zg7zg8zg9"),
   (0xFB00, "aLATIN SMALL LIGATURE FFwIwLwFIxLvLONG S TvST"),
   (0xFB13, "aARMENIAN SMALL LIGATURE MEN NOWzdECHzdINIyVEW NOWyMEN XEH"),
   (0xFB1D, "aHEBREW LETTER YOD WITH HIRIQhPOINT JUDEO-SPANISH VARIKA"),
   (0xFB1F, "hLIGATURE YIDDISH YOD YOD PATAHiETTER ALTERNATIVE AYINoWIDE ALEFtDALETtHEtKAFtLAMED"),
   (0xFB26, "tFINAL MEMtRESHtTAVoALTERNATIVE PLUS SIGNoSHIN WITH SHIN DOTzIN DOT"),
   (0xFB2C, "yDAGESH AND SHIN DOTzlIN DOToALEF WITH PATAHyQAMATSyMAPIQoBET WITH DAGESH"),
   (0xFB32, "oGIMEL WITH DAGESHoDALET WITH DAGESHoHE WITH MAPIQoVAV WITH DAGESHoZAYIN WITH DAGESH"),
   (0xFB38, "oTET WITH DAGESHoYOD WITH DAGESHoFINAL KAF WITH DAGESHoKAF WITH DAGESH"),
   (0xFB3C, "oLAMED WITH DAGESH"),
   (0xFB3E, "oMEM WITH DAGESH"),
   (0xFB40, "oNUN WITH DAGESHoSAMEKH WITH DAGESH"),
   (0xFB43, "oFINAL PE WITH DAGESHoPE WITH DAGESH"),
   (0xFB46, "oTSADI WITH DAGESHoQOF WITH DAGESHoRESH WITH DAGESHoSHIN WITH DAGESHoTAV WITH DAGESH"),
   (0xFB4B, "oVAV WITH HOLAMoBET WITH RAFEoKAF WITH RAFEoPE WITH RAFEiIGATURE ALEF LAMED"),
   (0xFB50, "aARABIC LETTER ALEF WASLA ISOLATED FORMzFINAL FORMoBEEH ISOLATED FORMtFINAL FORM"),
   (0xFB54, "tINITIAL FORMtMEDIAL FORMoPEH ISOLATED FORMsFINAL FORMsINITIAL FORMsMEDIAL FORM"),
   (0xFB5A, "oBEHEH ISOLATED FORMuFINAL FORMuINITIAL FORMuMEDIAL FORMoTTEHEH ISOLATED FORM"),
   (0xFB5F, "vFINAL FORMvINITIAL FORMvMEDIAL FORMpEHEH ISOLATED FORMuFINAL FORMuINITIAL FORM"),
   (0xFB65, "uMEDIAL FORMpTEH ISOLATED FORMtFINAL FORMtINITIAL FORMtMEDIAL FORMoVEH ISOLATED FORM"),
   (0xFB6B, "sFINAL FORMsINITIAL FORMsMEDIAL FORMoPEHEH ISOLATED FORMuFINAL FORMuINITIAL FORM"),
   (0xFB71, "uMEDIAL FORMoDYEH ISOLATED FORMtFINAL FORMtINITIAL FORMtMEDIAL FORM"),
   (0xFB76, "oNYEH ISOLATED FORMtFINAL FORMtINITIAL FORMtMEDIAL FORMoTCHEH ISOLATED FORM"),
   (0xFB7B, "uFINAL FORMuINITIAL FORMuMEDIAL FORMtEH ISOLATED FORMwFINAL FORMwINITIAL FORM"),
   (0xFB81, "wMEDIAL FORMoDDAHAL ISOLATED FORMvFINAL FORMpAHAL ISOLATED FORMuFINAL FORM"),
   (0xFB86, "pUL ISOLATED FORMsFINAL FORMpDAL ISOLATED FORMtFINAL FORMoJEH ISOLATED FORM"),
   (0xFB8B, "sFINAL FORMoRREH ISOLATED FORMtFINAL FORMoKEHEH ISOLATED FORMuFINAL FORM"),
   (0xFB90, "uINITIAL FORMuMEDIAL FORMoGAF ISOLATED FORMsFINAL FORMsINITIAL FORMsMEDIAL FORM"),
   (0xFB96, "pUEH ISOLATED FORMtFINAL FORMtINITIAL FORMtMEDIAL FORMoNGOEH ISOLATED FORM"),
   (0xFB9B, "uFINAL FORMuINITIAL FORMuMEDIAL FORMpOON GHUNNA ISOLATED FORMzbFINAL FORM"),
   (0xFBA0, "oRNOON ISOLATED FORMuFINAL FORMuINITIAL FORMuMEDIAL FORM"),
   (0xFBA4, "oHEH WITH YEH ABOVE ISOLATED FORMziFINAL FORMsGOAL ISOLATED FORMxFINAL FORM"),
   (0xFBA8, "xINITIAL FORMxMEDIAL FORMsDOACHASHMEE ISOLATED FORMzfFINAL FORMzfINITIAL FORM"),
   (0xFBAD, "zfMEDIAL FORMoYEH BARREE ISOLATED FORMzFINAL FORMzWITH HAMZA ABOVE ISOLATED FORM"),
   (0xFBB1, "zrFINAL FORMhSYMBOL DOT ABOVEsBELOWoTWO DOTS ABOVExBELOWpHREE DOTS ABOVEzBELOW"),
   (0xFBB8, "zPOINTING DOWNWARDS ABOVEztBELOWoFOUR DOTS ABOVEyBELOWoDOUBLE VERTICAL BAR BELOW"),
   (0xFBBD, "oTWO DOTS VERTICALLY ABOVEzjBELOWoRINGoSMALL TAH ABOVEyBELOWoWASLA ABOVE"),
   (0xFBD3, "hLETTER NG ISOLATED FORMrFINAL FORMrINITIAL FORMrMEDIAL FORMoU ISOLATED FORM"),
   (0xFBD8, "qFINAL FORMoOE ISOLATED FORMrFINAL FORMoYU ISOLATED FORMrFINAL FORM"),
   (0xFBDD, "oU WITH HAMZA ABOVE ISOLATED FORMoVE ISOLATED FORMrFINAL FORM"),
   (0xFBE0, "oKIRGHIZ OE ISOLATED FORMzFINAL FORMwYU ISOLATED FORMzFINAL FORMoE ISOLATED FORM"),
   (0xFBE5, "qFINAL FORMqINITIAL FORMqMEDIAL FORMoUIGHUR KAZAKH KIRGHIZ ALEF MAKSURA INITIAL FORM"),
   (0xFBE9, "zyMEDIAL FORMiIGATURE YEH WITH HAMZA ABOVE WITH ALEF ISOLATED FORMzwFINAL FORM"),
   (0xFBEC, "zsE ISOLATED FORMzuFINAL FORMzrWAW ISOLATED FORMzvFINAL FORMzrU ISOLATED FORM"),
   (0xFBF1, "ztFINAL FORMzrOE ISOLATED FORMzuFINAL FORMzrYU ISOLATED FORMzuFINAL FORM"),
   (0xFBF6, "zrE ISOLATED FORMztFINAL FORMztINITIAL FORM"),
   (0xFBF9, "qUIGHUR KIRGHIZ YEH WITH HAMZA ABOVE WITH ALEF MAKSURA ISOLATED FORMzzuFINAL FORM"),
   (0xFBFB, "zzuINITIAL FORMiETTER FARSI YEH ISOLATED FORMyFINAL FORMyINITIAL FORMyMEDIAL FORM"),
   (0xFC00, "iIGATURE YEH WITH HAMZA ABOVE WITH JEEM ISOLATED FORMzrHAH ISOLATED FORM"),
   (0xFC02, "zrMEEM ISOLATED FORMzrALEF MAKSURA ISOLATED FORMzrYEH ISOLATED FORM"),
   (0xFC05, "qBEH WITH JEEM ISOLATED FORMzHAH ISOLATED FORMzKHAH ISOLATED FORMzMEEM ISOLATED FORM"),
   (0xFC09, "zALEF MAKSURA ISOLATED FORMzYEH ISOLATED FORMqTEH WITH JEEM ISOLATED FORM"),
   (0xFC0C, "zHAH ISOLATED FORMzKHAH ISOLATED FORMzMEEM ISOLATED FORMzALEF MAKSURA ISOLATED FORM"),
   (0xFC10, "zYEH ISOLATED FORMrHEH WITH JEEM ISOLATED FORMzbMEEM ISOLATED FORM"),
   (0xFC13, "zbALEF MAKSURA ISOLATED FORMzbYEH ISOLATED FORMqJEEM WITH HAH ISOLATED FORM"),
   (0xFC16, "zbMEEM ISOLATED FORMqHAH WITH JEEM ISOLATED FORMzMEEM ISOLATED FORM"),
   (0xFC19, "qKHAH WITH JEEM ISOLATED FORMzbHAH ISOLATED FORMzbMEEM ISOLATED FORM"),
   (0xFC1C, "qSEEN WITH JEEM ISOLATED FORMzbHAH ISOLATED FORMzbKHAH ISOLATED FORM"),
   (0xFC1F, "zbMEEM ISOLATED FORMrAD WITH HAH ISOLATED FORMzMEEM ISOLATED FORM"),
   (0xFC22, "qDAD WITH JEEM ISOLATED FORMzHAH ISOLATED FORMzKHAH ISOLATED FORMzMEEM ISOLATED FORM"),
   (0xFC26, "qTAH WITH HAH ISOLATED FORMzMEEM ISOLATED FORMqZAH WITH MEEM ISOLATED FORM"),
   (0xFC29, "qAIN WITH JEEM ISOLATED FORMzMEEM ISOLATED FORMqGHAIN WITH JEEM ISOLATED FORM"),
   (0xFC2C, "zcMEEM ISOLATED FORMqFEH WITH JEEM ISOLATED FORMzHAH ISOLATED FORM"),
   (0xFC2F, "zKHAH ISOLATED FORMzMEEM ISOLATED FORMzALEF MAKSURA ISOLATED FORMzYEH ISOLATED FORM"),
   (0xFC33, "qQAF WITH HAH ISOLATED FORMzMEEM ISOLATED FORMzALEF MAKSURA ISOLATED FORM"),
   (0xFC36, "zYEH ISOLATED FORMqKAF WITH ALEF ISOLATED FORMzJEEM ISOLATED FORMzHAH ISOLATED FORM"),
   (0xFC3A, "zKHAH ISOLATED FORMzLAM ISOLATED FORMzMEEM ISOLATED FORMzALEF MAKSURA ISOLATED FORM"),
   (0xFC3E, "zYEH ISOLATED FORMqLAM WITH JEEM ISOLATED FORMzHAH ISOLATED FORMzKHAH ISOLATED FORM"),
   (0xFC42, "zMEEM ISOLATED FORMzALEF MAKSURA ISOLATED FORMzYEH ISOLATED FORM"),
   (0xFC45, "qMEEM WITH JEEM ISOLATED FORMzbHAH ISOLATED FORMzbKHAH ISOLATED FORM"),
   (0xFC48, "zbMEEM ISOLATED FORMzbALEF MAKSURA ISOLATED FORMzbYEH ISOLATED FORM"),
   (0xFC4B, "qNOON WITH JEEM ISOLATED FORMzbHAH ISOLATED FORMzbKHAH ISOLATED FORM"),
   (0xFC4E, "zbMEEM ISOLATED FORMzbALEF MAKSURA ISOLATED FORMzbYEH ISOLATED FORM"),
   (0xFC51, "qHEH WITH JEEM ISOLATED FORMzMEEM ISOLATED FORMzALEF MAKSURA ISOLATED FORM"),
   (0xFC54, "zYEH ISOLATED FORMqYEH WITH JEEM ISOLATED FORMzHAH ISOLATED FORMzKHAH ISOLATED FORM"),
   (0xFC58, "zMEEM ISOLATED FORMzALEF MAKSURA ISOLATED FORMzYEH ISOLATED FORM"),
   (0xFC5B, "qTHAL WITH SUPERSCRIPT ALEF ISOLATED FORMqREH WITH SUPERSCRIPT ALEF ISOLATED FORM"),
   (0xFC5D, "qALEF MAKSURA WITH SUPERSCRIPT ALEF ISOLATED FORMqSHADDA WITH DAMMATAN ISOLATED FORM"),
   (0xFC5F, "zdKASRATAN ISOLATED FORMzdFATHA ISOLATED FORMzdDAMMA ISOLATED FORM"),
   (0xFC62, "zdKASRA ISOLATED FORMzdSUPERSCRIPT ALEF ISOLATED FORM"),
   (0xFC64, "qYEH WITH HAMZA ABOVE WITH REH FINAL FORMzrZAIN FINAL FORMzrMEEM FINAL FORM"),
   (0xFC67, "zrNOON FINAL FORMzrALEF MAKSURA FINAL FORMzrYEH FINAL FORMqBEH WITH REH FINAL FORM"),
   (0xFC6B, "zZAIN FINAL FORMzMEEM FINAL FORMzNOON FINAL FORMzALEF MAKSURA FINAL FORM"),
   (0xFC6F, "zYEH FINAL FORMqTEH WITH REH FINAL FORMzZAIN FINAL FORMzMEEM FINAL FORM"),
   (0xFC73, "zNOON FINAL FORMzALEF MAKSURA FINAL FORMzYEH FINAL FORMrHEH WITH REH FINAL FORM"),
   (0xFC77, "zbZAIN FINAL FORMzbMEEM FINAL FORMzbNOON FINAL FORMzbALEF MAKSURA FINAL FORM"),
   (0xFC7B, "zbYEH FINAL FORMqFEH WITH ALEF MAKSURA FINAL FORMzYEH FINAL FORM"),
   (0xFC7E, "qQAF WITH ALEF MAKSURA FINAL FORMzYEH FINAL FORMqKAF WITH ALEF FINAL FORM"),
   (0xFC81, "zLAM FINAL FORMzMEEM FINAL FORMzALEF MAKSURA FINAL FORMzYEH FINAL FORM"),
   (0xFC85, "qLAM WITH MEEM FINAL FORMzALEF MAKSURA FINAL FORMzYEH FINAL FORM"),
   (0xFC88, "qMEEM WITH ALEF FINAL FORMzbMEEM FINAL FORMqNOON WITH REH FINAL FORM"),
   (0xFC8B, "zbZAIN FINAL FORMzbMEEM FINAL FORMzbNOON FINAL FORMzbALEF MAKSURA FINAL FORM"),
   (0xFC8F, "zbYEH FINAL FORMqALEF MAKSURA WITH SUPERSCRIPT ALEF FINAL FORM"),
   (0xFC91, "qYEH WITH REH FINAL FORMzZAIN FINAL FORMzMEEM FINAL FORMzNOON FINAL FORM"),
   (0xFC95, "zALEF MAKSURA FINAL FORMzYEH FINAL FORMzHAMZA ABOVE WITH JEEM INITIAL FORM"),
   (0xFC98, "zrHAH INITIAL FORMzrKHAH INITIAL FORMzrMEEM INITIAL FORMzrHEH INITIAL FORM"),
   (0xFC9C, "qBEH WITH JEEM INITIAL FORMzHAH INITIAL FORMzKHAH INITIAL FORMzMEEM INITIAL FORM"),
   (0xFCA0, "zHEH INITIAL FORMqTEH WITH JEEM INITIAL FORMzHAH INITIAL FORMzKHAH INITIAL FORM"),
   (0xFCA4, "zMEEM INITIAL FORMzHEH INITIAL FORMrHEH WITH MEEM INITIAL FORM"),
   (0xFCA7, "qJEEM WITH HAH INITIAL FORMzbMEEM INITIAL FORMqHAH WITH JEEM INITIAL FORM"),
   (0xFCAA, "zMEEM INITIAL FORMqKHAH WITH JEEM INITIAL FORMzbMEEM INITIAL FORM"),
   (0xFCAD, "qSEEN WITH JEEM INITIAL FORMzbHAH INITIAL FORMzbKHAH INITIAL FORMzbMEEM INITIAL FORM"),
   (0xFCB1, "rAD WITH HAH INITIAL FORMzKHAH INITIAL FORMzMEEM INITIAL FORM"),
   (0xFCB4, "qDAD WITH JEEM INITIAL FORMzHAH INITIAL FORMzKHAH INITIAL FORMzMEEM INITIAL FORM"),
   (0xFCB8, "qTAH WITH HAH INITIAL FORMqZAH WITH MEEM INITIAL FORMqAIN WITH JEEM INITIAL FORM"),
   (0xFCBB, "zMEEM INITIAL FORMqGHAIN WITH JEEM INITIAL FORMzcMEEM INITIAL FORM"),
   (0xFCBE, "qFEH WITH JEEM INITIAL FORMzHAH INITIAL FORMzKHAH INITIAL FORMzMEEM INITIAL FORM"),
   (0xFCC2, "qQAF WITH HAH INITIAL FORMzMEEM INITIAL FORMqKAF WITH JEEM INITIAL FORM"),
   (0xFCC5, "zHAH INITIAL FORMzKHAH INITIAL FORMzLAM INITIAL FORMzMEEM INITIAL FORM"),
   (0xFCC9, "qLAM WITH JEEM INITIAL FORMzHAH INITIAL FORMzKHAH INITIAL FORMzMEEM INITIAL FORM"),
   (0xFCCD, "zHEH INITIAL FORMqMEEM WITH JEEM INITIAL FORMzbHAH INITIAL FORMzbKHAH INITIAL FORM"),
   (0xFCD1, "zbMEEM INITIAL FORMqNOON WITH JEEM INITIAL FORMzbHAH INITIAL FORMzbKHAH INITIAL FORM"),
   (0xFCD5, "zbMEEM INITIAL FORMzbHEH INITIAL FORMqHEH WITH JEEM INITIAL FORMzMEEM INITIAL FORM"),
   (0xFCD9, "zSUPERSCRIPT ALEF INITIAL FORMqYEH WITH JEEM INITIAL FORMzHAH INITIAL FORM"),
   (0xFCDC, "zKHAH INITIAL FORMzMEEM INITIAL FORMzHEH INITIAL FORM"),
   (0xFCDF, "zbAMZA ABOVE WITH MEEM MEDIAL FORMzrHEH MEDIAL FORMqBEH WITH MEEM MEDIAL FORM"),
   (0xFCE2, "zHEH MEDIAL FORMqTEH WITH MEEM MEDIAL FORMzHEH MEDIAL FORMrHEH WITH MEEM MEDIAL FORM"),
   (0xFCE6, "zbHEH MEDIAL FORMqSEEN WITH MEEM MEDIAL FORMzbHEH MEDIAL FORM"),
   (0xFCE9, "rHEEN WITH MEEM MEDIAL FORMzcHEH MEDIAL FORMqKAF WITH LAM MEDIAL FORM"),
   (0xFCEC, "zMEEM MEDIAL FORMqLAM WITH MEEM MEDIAL FORMqNOON WITH MEEM MEDIAL FORM"),
   (0xFCEF, "zbHEH MEDIAL FORMqYEH WITH MEEM MEDIAL FORMzHEH MEDIAL FORM"),
   (0xFCF2, "qSHADDA WITH FATHA MEDIAL FORMzdDAMMA MEDIAL FORMzdKASRA MEDIAL FORM"),
   (0xFCF5, "qTAH WITH ALEF MAKSURA ISOLATED FORMzYEH ISOLATED FORM"),
   (0xFCF7, "qAIN WITH ALEF MAKSURA ISOLATED FORMzYEH ISOLATED FORM"),
   (0xFCF9, "qGHAIN WITH ALEF MAKSURA ISOLATED FORMzcYEH ISOLATED FORM"),
   (0xFCFB, "qSEEN WITH ALEF MAKSURA ISOLATED FORMzbYEH ISOLATED FORM"),
   (0xFCFD, "rHEEN WITH ALEF MAKSURA ISOLATED FORMzcYEH ISOLATED FORM"),
   (0xFCFF, "qHAH WITH ALEF MAKSURA ISOLATED FORMzYEH ISOLATED FORM"),
   (0xFD01, "qJEEM WITH ALEF MAKSURA ISOLATED FORMzbYEH ISOLATED FORM"),
   (0xFD03, "qKHAH WITH ALEF MAKSURA ISOLATED FORMzbYEH ISOLATED FORM"),
   (0xFD05, "qSAD WITH ALEF MAKSURA ISOLATED FORMzYEH ISOLATED FORM"),
   (0xFD07, "qDAD WITH ALEF MAKSURA ISOLATED FORMzYEH ISOLATED FORMqSHEEN WITH JEEM ISOLATED FORM"),
   (0xFD0A, "zcHAH ISOLATED FORMzcKHAH ISOLATED FORMzcMEEM ISOLATED FORMzcREH ISOLATED FORM"),
   (0xFD0E, "rEEN WITH REH ISOLATED FORMrAD WITH REH ISOLATED FORMqDAD WITH REH ISOLATED FORM"),
   (0xFD11, "qTAH WITH ALEF MAKSURA FINAL FORMzYEH FINAL FORMqAIN WITH ALEF MAKSURA FINAL FORM"),
   (0xFD14, "zYEH FINAL FORMqGHAIN WITH ALEF MAKSURA FINAL FORMzcYEH FINAL FORM"),
   (0xFD17, "qSEEN WITH ALEF MAKSURA FINAL FORMzbYEH FINAL FORMrHEEN WITH ALEF MAKSURA FINAL FORM"),
   (0xFD1A, "zcYEH FINAL FORMqHAH WITH ALEF MAKSURA FINAL FORMzYEH FINAL FORM"),
   (0xFD1D, "qJEEM WITH ALEF MAKSURA FINAL FORMzbYEH FINAL FORMqKHAH WITH ALEF MAKSURA FINAL FORM"),
   (0xFD20, "zbYEH FINAL FORMqSAD WITH ALEF MAKSURA FINAL FORMzYEH FINAL FORM"),
   (0xFD23, "qDAD WITH ALEF MAKSURA FINAL FORMzYEH FINAL FORMqSHEEN WITH JEEM FINAL FORM"),
   (0xFD26, "zcHAH FINAL FORMzcKHAH FINAL FORMzcMEEM FINAL FORMzcREH FINAL FORM"),
   (0xFD2A, "rEEN WITH REH FINAL FORMrAD WITH REH FINAL FORMqDAD WITH REH FINAL FORM"),
   (0xFD2D, "qSHEEN WITH JEEM INITIAL FORMzcHAH INITIAL FORMzcKHAH INITIAL FORM"),
   (0xFD30, "zcMEEM INITIAL FORMrEEN WITH HEH INITIAL FORMrHEEN WITH HEH INITIAL FORM"),
   (0xFD33, "qTAH WITH MEEM INITIAL FORMqSEEN WITH JEEM MEDIAL FORMzbHAH MEDIAL FORM"),
   (0xFD36, "zbKHAH MEDIAL FORMrHEEN WITH JEEM MEDIAL FORMzcHAH MEDIAL FORMzcKHAH MEDIAL FORM"),
   (0xFD3A, "qTAH WITH MEEM MEDIAL FORMqZAH WITH MEEM MEDIAL FORMqALEF WITH FATHATAN FINAL FORM"),
   (0xFD3D, "zkISOLATED FORMaORNATE LEFT PARENTHESIShRIGHT PARENTHESIS"),
   (0xFD40, "aARABIC LIGATURE RAHIMAHU ALLAAHsDI ALLAAHU ANHzhAAzhUMzjAAziNNA"),
   (0xFD46, "qSALLALLAAHU ALAYHI WA-AALIHqALAYHI AS-SALAAMwM AS-SALAAMxAA AS-SALAAM"),
   (0xFD4A, "w AS-SALAATU WAS-SALAAMqQUDDISA SIRRAHqSALLALLAHU ALAYHI WAAALIHEE WA-SALLAM"),
   (0xFD4D, "qALAYHAA AS-SALAAMqTABAARAKA WA-TAAALAAqRAHIMAHUM ALLAAH"),
   (0xFD50, "qTEH WITH JEEM WITH MEEM INITIAL FORMzHAH WITH JEEM FINAL FORMzoINITIAL FORM"),
   (0xFD53, "zjMEEM INITIAL FORMzKHAH WITH MEEM INITIAL FORMzMEEM WITH JEEM INITIAL FORM"),
   (0xFD56, "zkHAH INITIAL FORMzkKHAH INITIAL FORMqJEEM WITH MEEM WITH HAH FINAL FORM"),
   (0xFD59, "zpINITIAL FORMqHAH WITH MEEM WITH YEH FINAL FORMzkALEF MAKSURA FINAL FORM"),
   (0xFD5C, "qSEEN WITH HAH WITH JEEM INITIAL FORMzbJEEM WITH HAH INITIAL FORM"),
   (0xFD5E, "zlALEF MAKSURA FINAL FORMzbMEEM WITH HAH FINAL FORMzpINITIAL FORMzlJEEM INITIAL FORM"),
   (0xFD62, "zlMEEM FINAL FORMzqINITIAL FORMrAD WITH HAH WITH HAH FINAL FORMznINITIAL FORM"),
   (0xFD66, "zMEEM WITH MEEM FINAL FORMrHEEN WITH HAH WITH MEEM FINAL FORMzqINITIAL FORM"),
   (0xFD69, "zcJEEM WITH YEH FINAL FORMzcMEEM WITH KHAH FINAL FORMzrINITIAL FORMzmMEEM FINAL FORM"),
   (0xFD6D, "zrINITIAL FORMqDAD WITH HAH WITH ALEF MAKSURA FINAL FORMzKHAH WITH MEEM FINAL FORM"),
   (0xFD70, "zpINITIAL FORMqTAH WITH MEEM WITH HAH FINAL FORMzoINITIAL FORMzkMEEM INITIAL FORM"),
   (0xFD74, "zkYEH FINAL FORMqAIN WITH JEEM WITH MEEM FINAL FORMzMEEM WITH MEEM FINAL FORM"),
   (0xFD77, "zpINITIAL FORMzkALEF MAKSURA FINAL FORMqGHAIN WITH MEEM WITH MEEM FINAL FORM"),
   (0xFD7A, "zmYEH FINAL FORMzmALEF MAKSURA FINAL FORMqFEH WITH KHAH WITH MEEM FINAL FORM"),
   (0xFD7D, "zpINITIAL FORMqQAF WITH MEEM WITH HAH FINAL FORMzkMEEM FINAL FORM"),
   (0xFD80, "qLAM WITH HAH WITH MEEM FINAL FORMzjYEH FINAL FORMzjALEF MAKSURA FINAL FORM"),
   (0xFD83, "zJEEM WITH JEEM INITIAL FORMzpFINAL FORMzKHAH WITH MEEM FINAL FORMzpINITIAL FORM"),
   (0xFD87, "zMEEM WITH HAH FINAL FORMzoINITIAL FORMqMEEM WITH HAH WITH JEEM INITIAL FORM"),
   (0xFD8A, "zkMEEM INITIAL FORMzkYEH FINAL FORMzbJEEM WITH HAH INITIAL FORMzlMEEM INITIAL FORM"),
   (0xFD8E, "zbKHAH WITH JEEM INITIAL FORMzlMEEM INITIAL FORM"),
   (0xFD92, "zbJEEM WITH KHAH INITIAL FORMqHEH WITH MEEM WITH JEEM INITIAL FORM"),
   (0xFD94, "zkMEEM INITIAL FORMqNOON WITH HAH WITH MEEM INITIAL FORMzkALEF MAKSURA FINAL FORM"),
   (0xFD97, "zbJEEM WITH MEEM FINAL FORMzqINITIAL FORMzlALEF MAKSURA FINAL FORM"),
   (0xFD9A, "zbMEEM WITH YEH FINAL FORMzlALEF MAKSURA FINAL FORM"),
   (0xFD9C, "qYEH WITH MEEM WITH MEEM FINAL FORMzpINITIAL FORMqBEH WITH KHAH WITH YEH FINAL FORM"),
   (0xFD9F, "qTEH WITH JEEM WITH YEH FINAL FORMzkALEF MAKSURA FINAL FORMzKHAH WITH YEH FINAL FORM"),
   (0xFDA2, "zkALEF MAKSURA FINAL FORMzMEEM WITH YEH FINAL FORMzkALEF MAKSURA FINAL FORM"),
   (0xFDA5, "qJEEM WITH MEEM WITH YEH FINAL FORMzbHAH WITH ALEF MAKSURA FINAL FORM"),
   (0xFDA7, "zbMEEM WITH ALEF MAKSURA FINAL FORMqSEEN WITH KHAH WITH ALEF MAKSURA FINAL FORM"),
   (0xFDA9, "rAD WITH HAH WITH YEH FINAL FORMrHEEN WITH HAH WITH YEH FINAL FORM"),
   (0xFDAB, "qDAD WITH HAH WITH YEH FINAL FORMqLAM WITH JEEM WITH YEH FINAL FORM"),
   (0xFDAD, "zMEEM WITH YEH FINAL FORMqYEH WITH HAH WITH YEH FINAL FORMzJEEM WITH YEH FINAL FORM"),
   (0xFDB0, "zMEEM WITH YEH FINAL FORMqMEEM WITH MEEM WITH YEH FINAL FORM"),
   (0xFDB2, "qQAF WITH MEEM WITH YEH FINAL FORMqNOON WITH HAH WITH YEH FINAL FORM"),
   (0xFDB4, "qQAF WITH MEEM WITH HAH INITIAL FORMqLAM WITH HAH WITH MEEM INITIAL FORM"),
   (0xFDB6, "qAIN WITH MEEM WITH YEH FINAL FORMqKAF WITH MEEM WITH YEH FINAL FORM"),
   (0xFDB8, "qNOON WITH JEEM WITH HAH INITIAL FORMqMEEM WITH KHAH WITH YEH FINAL FORM"),
   (0xFDBA, "qLAM WITH JEEM WITH MEEM INITIAL FORMqKAF WITH MEEM WITH MEEM FINAL FORM"),
   (0xFDBC, "qLAM WITH JEEM WITH MEEM FINAL FORMqNOON WITH JEEM WITH HAH FINAL FORM"),
   (0xFDBE, "qJEEM WITH HAH WITH YEH FINAL FORMqHAH WITH JEEM WITH YEH FINAL FORM"),
   (0xFDC0, "qMEEM WITH JEEM WITH YEH FINAL FORMqFEH WITH MEEM WITH YEH FINAL FORM"),
   (0xFDC2, "qBEH WITH HAH WITH YEH FINAL FORMqKAF WITH MEEM WITH MEEM INITIAL FORM"),
   (0xFDC4, "qAIN WITH JEEM WITH MEEM INITIAL FORMqSAD WITH MEEM WITH MEEM INITIAL FORM"),
   (0xFDC6, "rEEN WITH KHAH WITH YEH FINAL FORMqNOON WITH JEEM WITH YEH FINAL FORM"),
   (0xFDCF, "qSALAAMUHU ALAYNAA"),
   (0xFDF0, "tLA USED AS KORANIC STOP SIGN ISOLATED FORM"),
   (0xFDF1, "qQALA USED AS KORANIC STOP SIGN ISOLATED FORMqALLAH ISOLATED FORMrKBAR ISOLATED FORM"),
   (0xFDF4, "qMOHAMMAD ISOLATED FORMqSALAM ISOLATED FORMqRASOUL ISOLATED FORM"),
   (0xFDF7, "qALAYHE ISOLATED FORMqWASALLAM ISOLATED FORMqSALLA ISOLATED FORM"),
   (0xFDFA, "vLLAHOU ALAYHE WASALLAMqJALLAJALALOUHOUaRIAL SIGN"),
   (0xFDFD, "aARABIC LIGATURE BISMILLAH AR-RAHMAN AR-RAHEEMqSUBHAANAHU WA TAAALAAqAZZA WA JALL"),
   (0xFE00, "aVARIATION SELECTOR-1t2t3t4t5t6t7t8t9t10u1u2u3u4u5u6"),
   (0xFE10, "aPRESENTATION FORM FOR VERTICAL COMMAzgIDEOGRAPHIC COMMAzsFULL STOPzgCOLON"),
   (0xFE14, "zgSEMICOLONzgEXCLAMATION MARKzgQUESTION MARKzgLEFT WHITE LENTICULAR BRACKET"),
   (0xFE18, "zgRIGHT WHITE LENTICULAR BRAKCETzgHORIZONTAL ELLIPSIS"),
   (0xFE20, "aCOMBINING LIGATURE LEFT HALFtRIGHT HALFkDOUBLE TILDE LEFT HALFxRIGHT HALF"),
   (0xFE24, "kMACRON LEFT HALFrRIGHT HALFkCONJOINING MACRONkLIGATURE LEFT HALF BELOW"),
   (0xFE28, "tRIGHT HALF BELOWkTILDE LEFT HALF BELOWqRIGHT HALF BELOWkMACRON LEFT HALF BELOW"),
   (0xFE2C, "rRIGHT HALF BELOWkCONJOINING MACRON BELOWlYRILLIC TITLO LEFT HALFzRIGHT HALF"),
   (0xFE30, "aPRESENTATION FORM FOR VERTICAL TWO DOT LEADERzgEM DASHzhN DASHzgLOW LINE"),
   (0xFE34, "zgWAVY LOW LINEzgLEFT PARENTHESISzgRIGHT PARENTHESISzgLEFT CURLY BRACKET"),
   (0xFE38, "zgRIGHT CURLY BRACKETzgLEFT TORTOISE SHELL BRACKETzgRIGHT TORTOISE SHELL BRACKET"),
   (0xFE3B, "zgLEFT BLACK LENTICULAR BRACKETzgRIGHT BLACK LENTICULAR BRACKET"),
   (0xFE3D, "zgLEFT DOUBLE ANGLE BRACKETzgRIGHT DOUBLE ANGLE BRACKETzgLEFT ANGLE BRACKET"),
   (0xFE40, "zgRIGHT ANGLE BRACKETzgLEFT CORNER BRACKETzgRIGHT CORNER BRACKET"),
   (0xFE43, "zgLEFT WHITE CORNER BRACKETzgRIGHT WHITE CORNER BRACKETaSESAME DOTaWHITE SESAME DOT"),
   (0xFE47, "aPRESENTATION FORM FOR VERTICAL LEFT SQUARE BRACKETzgRIGHT SQUARE BRACKET"),
   (0xFE49, "aDASHED OVERLINEaCENTRELINE OVERLINEaWAVY OVERLINEaDOUBLE WAVY OVERLINE"),
   (0xFE4D, "bASHED LOW LINEaCENTRELINE LOW LINEaWAVY LOW LINEaSMALL COMMAgIDEOGRAPHIC COMMA"),
   (0xFE52, "gFULL STOP"),
   (0xFE54, "gSEMICOLONgCOLONgQUESTION MARKgEXCLAMATION MARKhM DASHgLEFT PARENTHESIS"),
   (0xFE5A, "gRIGHT PARENTHESISgLEFT CURLY BRACKETgRIGHT CURLY BRACKET"),
   (0xFE5D, "gLEFT TORTOISE SHELL BRACKETgRIGHT TORTOISE SHELL BRACKETgNUMBER SIGNgAMPERSAND"),
   (0xFE61, "hSTERISKgPLUS SIGNgHYPHEN-MINUSgLESS-THAN SIGNgGREATER-THAN SIGNgEQUALS SIGN"),
   (0xFE68, "gREVERSE SOLIDUSgDOLLAR SIGNgPERCENT SIGNgCOMMERCIAL AT"),
   (0xFE70, "aARABIC FATHATAN ISOLATED FORMhTATWEEL WITH FATHATAN ABOVEhDAMMATAN ISOLATED FORM"),
   (0xFE73, "hTAIL FRAGMENThKASRATAN ISOLATED FORM"),
   (0xFE76, "hFATHA ISOLATED FORMnMEDIAL FORMhDAMMA ISOLATED FORMnMEDIAL FORMhKASRA ISOLATED FORM"),
   (0xFE7B, "nMEDIAL FORMhSHADDA ISOLATED FORMoMEDIAL FORMiUKUN ISOLATED FORMnMEDIAL FORM"),
   (0xFE80, "hLETTER HAMZA ISOLATED FORMoALEF WITH MADDA ABOVE ISOLATED FORMzlFINAL FORM"),
   (0xFE83, "yHAMZA ABOVE ISOLATED FORMzlFINAL FORMoWAW WITH HAMZA ABOVE ISOLATED FORM"),
   (0xFE86, "zkFINAL FORMoALEF WITH HAMZA BELOW ISOLATED FORMzlFINAL FORM"),
   (0xFE89, "oYEH WITH HAMZA ABOVE ISOLATED FORMzkFINAL FORMzkINITIAL FORMzkMEDIAL FORM"),
   (0xFE8D, "oALEF ISOLATED FORMtFINAL FORMoBEH ISOLATED FORMsFINAL FORMsINITIAL FORMsMEDIAL FORM"),
   (0xFE93, "oTEH MARBUTA ISOLATED FORMzbFINAL FORMsISOLATED FORMsFINAL FORMsINITIAL FORM"),
   (0xFE98, "sMEDIAL FORMpHEH ISOLATED FORMtFINAL FORMtINITIAL FORMtMEDIAL FORM"),
   (0xFE9D, "oJEEM ISOLATED FORMtFINAL FORMtINITIAL FORMtMEDIAL FORMoHAH ISOLATED FORMsFINAL FORM"),
   (0xFEA3, "sINITIAL FORMsMEDIAL FORMoKHAH ISOLATED FORMtFINAL FORMtINITIAL FORMtMEDIAL FORM"),
   (0xFEA9, "oDAL ISOLATED FORMsFINAL FORMoTHAL ISOLATED FORMtFINAL FORMoREH ISOLATED FORM"),
   (0xFEAE, "sFINAL FORMoZAIN ISOLATED FORMtFINAL FORMoSEEN ISOLATED FORMtFINAL FORMtINITIAL FORM"),
   (0xFEB4, "tMEDIAL FORMpHEEN ISOLATED FORMuFINAL FORMuINITIAL FORMuMEDIAL FORMpAD ISOLATED FORM"),
   (0xFEBA, "sFINAL FORMsINITIAL FORMsMEDIAL FORMoDAD ISOLATED FORMsFINAL FORMsINITIAL FORM"),
   (0xFEC0, "sMEDIAL FORMoTAH ISOLATED FORMsFINAL FORMsINITIAL FORMsMEDIAL FORMoZAH ISOLATED FORM"),
   (0xFEC6, "sFINAL FORMsINITIAL FORMsMEDIAL FORMoAIN ISOLATED FORMsFINAL FORMsINITIAL FORM"),
   (0xFECC, "sMEDIAL FORMoGHAIN ISOLATED FORMuFINAL FORMuINITIAL FORMuMEDIAL FORM"),
   (0xFED1, "oFEH ISOLATED FORMsFINAL FORMsINITIAL FORMsMEDIAL FORMoQAF ISOLATED FORMsFINAL FORM"),
   (0xFED7, "sINITIAL FORMsMEDIAL FORMoKAF ISOLATED FORMsFINAL FORMsINITIAL FORMsMEDIAL FORM"),
   (0xFEDD, "oLAM ISOLATED FORMsFINAL FORMsINITIAL FORMsMEDIAL FORMoMEEM ISOLATED FORMtFINAL FORM"),
   (0xFEE3, "tINITIAL FORMtMEDIAL FORMoNOON ISOLATED FORMtFINAL FORMtINITIAL FORMtMEDIAL FORM"),
   (0xFEE9, "oHEH ISOLATED FORMsFINAL FORMsINITIAL FORMsMEDIAL FORMoWAW ISOLATED FORMsFINAL FORM"),
   (0xFEEF, "oALEF MAKSURA ISOLATED FORMzcFINAL FORMoYEH ISOLATED FORMsFINAL FORMsINITIAL FORM"),
   (0xFEF4, "sMEDIAL FORMiIGATURE LAM WITH ALEF WITH MADDA ABOVE ISOLATED FORMzwFINAL FORM"),
   (0xFEF7, "zkHAMZA ABOVE ISOLATED FORMzwFINAL FORMzqBELOW ISOLATED FORMzwFINAL FORM"),
   (0xFEFB, "zfISOLATED FORMzfFINAL FORM"),
   (0xFEFF, "aZERO WIDTH NO-BREAK SPACE"),
   (0xFF01, "aFULLWIDTH EXCLAMATION MARKkQUOTATION MARKkNUMBER SIGNkDOLLAR SIGNkPERCENT SIGN"),
   (0xFF06, "kAMPERSANDlPOSTROPHEkLEFT PARENTHESISkRIGHT PARENTHESISkASTERISKkPLUS SIGNkCOMMA"),
   (0xFF0D, "kHYPHEN-MINUSkFULL STOPkSOLIDUSkDIGIT ZEROqONEqTWOrHREEqFOURrIVEqSIXrEVENqEIGHTqNINE"),
   (0xFF1A, "kCOLONkSEMICOLONkLESS-THAN SIGNkEQUALS SIGNkGREATER-THAN SIGNkQUESTION MARK"),
   (0xFF20, "kCOMMERCIAL ATkLATIN CAPITAL LETTER AzgBzgCzgDzgEzgFzgGzgHzgIzgJzgKzgLzgMzgNzgOzgP"),
   (0xFF31, "zgQzgRzgSzgTzgUzgVzgWzgXzgYzgZlEFT SQUARE BRACKETkREVERSE SOLIDUS"),
   (0xFF3D, "lIGHT SQUARE BRACKETkCIRCUMFLEX ACCENTkLOW LINEkGRAVE ACCENTkLATIN SMALL LETTER AzeB"),
   (0xFF43, "zeCzeDzeEzeFzeGzeHzeIzeJzeKzeLzeMzeNzeOzePzeQzeRzeSzeTzeUzeVzeWzeXzeYzeZ"),
   (0xFF5B, "lEFT CURLY BRACKETkVERTICAL LINEkRIGHT CURLY BRACKETkTILDEkLEFT WHITE PARENTHESIS"),
   (0xFF60, "kRIGHT WHITE PARENTHESISaHALFWIDTH IDEOGRAPHIC FULL STOPkLEFT CORNER BRACKET"),
   (0xFF63, "kRIGHT CORNER BRACKETkIDEOGRAPHIC COMMAkKATAKANA MIDDLE DOTtLETTER WOzbSMALL AzhIzhU"),
   (0xFF6A, "zhEzhOzhYAziUziOzhTUs-HIRAGANA PROLONGED SOUND MARKs LETTER AzbIzbUzbEzbOzbKAzcIzcU"),
   (0xFF79, "zcEzcOzbSAzcIzcUzcEzcOzbTAzcIzcUzcEzcOzbNAzcIzcUzcEzcOzbHAzcIzcUzcEzcOzbMAzcIzcUzcE"),
   (0xFF93, "zcOzbYAzcUzcOzbRAzcIzcUzcEzcOzbWAzbNtVOICED SOUND MARKtSEMI-VOICED SOUND MARK"),
   (0xFFA0, "kHANGUL FILLERrLETTER KIYEOKySSANGKIYEOKyKIYEOK-SIOSyNIEUNze-CIEUCzfHIEUHyTIKEUT"),
   (0xFFA8, "ySSANGTIKEUTyRIEULze-KIYEOKzfMIEUMzfPIEUPzfSIOSzfTHIEUTHzfPHIEUPHzfHIEUHyMIEUMyPIEUP"),
   (0xFFB3, "ySSANGPIEUPyPIEUP-SIOSySIOSzSANGSIOSyIEUNGyCIEUCySSANGCIEUCyCHIEUCHyKHIEUKHyTHIEUTH"),
   (0xFFBD, "yPHIEUPHyHIEUH"),
   (0xFFC2, "yAzEyYAzbEyEOyE"),
   (0xFFCA, "yYEOzEyOyWAzbEyOE"),
   (0xFFD2, "yYOyUyWEOzEzIyYU"),
   (0xFFDA, "yEUyYIyI"),
   (0xFFE0, "aFULLWIDTH CENT SIGNkPOUND SIGNkNOT SIGNkMACRONkBROKEN BARkYEN SIGNkWON SIGN"),
   (0xFFE8, "aHALFWIDTH FORMS LIGHT VERTICALkLEFTWARDS ARROWkUPWARDS ARROWkRIGHTWARDS ARROW"),
   (0xFFEC, "kDOWNWARDS ARROWkBLACK SQUAREkWHITE CIRCLE"),
   (0xFFF9, "aINTERLINEAR ANNOTATION ANCHORxSEPARATORxTERMINATORaOBJECT REPLACEMENT CHARACTER"),
   (0xFFFD, "aREPLACEMENT CHARACTER")]

end HtGate.Text.CharacterName
