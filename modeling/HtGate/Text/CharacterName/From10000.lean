/-!
# Names of characters from U+10000 to U+11FFF

The names in the order of code points, as strings of names that follow one another from a code point on.
The small letters before a name say how many characters it has in common with the name before it, which
are left out.
-/

namespace HtGate.Text.CharacterName

/-- The names from U+10000 to U+11FFF. -/
def from10000 : List (Nat × String) :=
  [(0x10000, "aLINEAR B SYLLABLE B008 Au38 Eu28 Iu61 Ou10 Uu01 DAu45 DEu07 DIu14 DOu51 DUv7 JA"),
   (0x1000B, "u46 JE"),
   (0x1000D, "u36 JOu65 JUu77 KAu44 KEu67 KIu70 KOu81 KUv0 MAu13 MEu73 MIu15 MOu23 MUu06 NAu24 NE"),
   (0x1001B, "u30 NIu52 NOv5 NUu03 PAu72 PEu39 PIu11 POu50 PUu16 QAu78 QEu21 QIu32 QO"),
   (0x10028, "u60 RAu27 REu53 RIu02 ROu26 RUu31 SAu09 SEu41 SIu12 SOu58 SUv9 TAu04 TEu37 TIu05 TO"),
   (0x10036, "u69 TUu54 WAu75 WEu40 WIv2 WO"),
   (0x1003C, "u17 ZAu74 ZE"),
   (0x1003F, "u20 ZOv5 A2u43 A3u85 AUu71 DWEu90 DWOu48 NWAu29 PU2u62 PTEu76 RA2u33 RA3u68 RO2"),
   (0x1004B, "v6 TA2u87 TWEu91 TWO"),
   (0x10050, "lMBOL B018t9s22s34s47t9s56s63t4s79s82t3t6t9"),
   (0x10080, "jIDEOGRAM B100 MANv2 WOMANv4 DEERv5 EQUIDwF MAREwM STALLIONv6F EWEwM RAMv7F SHE-GOAT"),
   (0x10089, "wM HE-GOATv8F SOWwM BOARv9F COWwM BULLu20 WHEATv1 BARLEYv2 OLIVEv3 SPICEv5 CYPERUS"),
   (0x10093, "jMONOGRAM B127 KAPOv8 KANAKOjIDEOGRAM B130 OILv1 WINEv2jMONOGRAM B133 AREPAv5 MERI"),
   (0x1009A, "jIDEOGRAM B140 BRONZEv1 GOLDv2v5 WOOLv6u50v1 HORNv2v3v4jMONOGRAM B156 TURO2"),
   (0x100A5, "jIDEOGRAM B157v8v9 CLOTHu60v1v2 GARMENTv3 ARMOURv4v5v6v7v8v9u70v1v2v3 MONTHv4v6 TREE"),
   (0x100B8, "v7v8v9u80v1v2v3v4v5v9u90v1 HELMETt220 FOOTSTOOLv5 BATHTUBu30 SPEARv1 ARROWv2v3 SWORD"),
   (0x100CA, "v4v6u40 WHEELED CHARIOTv1 CHARIOTv2 CHARIOT FRAMEv3 WHEELv5v6jMONOGRAM B247 DIPTE"),
   (0x100D3, "jIDEOGRAM B248v9u51v2v3v4 DARTv5v6v7v8v9sVESSEL B155zb200zd1zd2zd3zd4zd5zd6zd7zd8zd9"),
   (0x100E9, "zc10zd1zd2zd3zd4zd5zd6zd7zd8zd9zc21zd2zd6zd7zd8zd9zc50zb305"),
   (0x10100, "aAEGEAN WORD SEPARATOR LINEwDOThCHECK MARK"),
   (0x10107, "hNUMBER ONEoTWOpHREEoFOURpIVEoSIXpEVENoEIGHToNINEoTENpWENTYpHIRTYoFORTYpIFTYoSIXTY"),
   (0x10116, "pEVENTYoEIGHTYoNINETYoONE HUNDREDoTWO HUNDREDpHREE HUNDREDoFOUR HUNDREDpIVE HUNDRED"),
   (0x1011E, "oSIX HUNDREDpEVEN HUNDREDoEIGHT HUNDREDoNINE HUNDREDoONE THOUSANDoTWO THOUSAND"),
   (0x10124, "pHREE THOUSANDoFOUR THOUSANDpIVE THOUSANDoSIX THOUSANDpEVEN THOUSANDoEIGHT THOUSAND"),
   (0x1012A, "oNINE THOUSANDoTEN THOUSANDpWENTY THOUSANDpHIRTY THOUSANDoFORTY THOUSAND"),
   (0x1012F, "pIFTY THOUSANDoSIXTY THOUSANDpEVENTY THOUSANDoEIGHTY THOUSANDoNINETY THOUSAND"),
   (0x10137, "hWEIGHT BASE UNIToFIRST SUBUNIToSECOND SUBUNIToTHIRD SUBUNIToFOURTH SUBUNIT"),
   (0x1013C, "hDRY MEASURE FIRST SUBUNIThLIQUID MEASURE FIRST SUBUNIThMEASURE SECOND SUBUNIT"),
   (0x1013F, "pTHIRD SUBUNITaGREEK ACROPHONIC ATTIC ONE QUARTERzcHALFzcDRACHMAxFIVEzFTYzVE HUNDRED"),
   (0x10146, "zdTHOUSANDzFTY THOUSANDzVE TALENTSxTEN TALENTSxFIFTY TALENTSxONE HUNDRED TALENTS"),
   (0x1014C, "xFIVE HUNDRED TALENTSxONE THOUSAND TALENTSxFIVE THOUSAND TALENTSzdSTATERS"),
   (0x10150, "xTEN STATERSxFIFTY STATERSxONE HUNDRED STATERSxFIVE HUNDRED STATERS"),
   (0x10154, "xONE THOUSAND STATERSxTEN THOUSAND STATERSxFIFTY THOUSAND STATERSxTEN MNAS"),
   (0x10158, "rHERAEUM ONE PLETHRONrTHESPIAN ONErHERMIONIAN ONErEPIDAUREAN TWOrTHESPIAN TWO"),
   (0x1015D, "rCYRENAIC TWO DRACHMASrEPIDAUREAN TWO DRACHMASrTROEZENIAN FIVEzdTENzg ALTERNATE FORM"),
   (0x10162, "rHERMIONIAN TENrMESSENIAN TENrTHESPIAN TENzcHIRTYsROEZENIAN FIFTYzi ALTERNATE FORM"),
   (0x10168, "rHERMIONIAN FIFTYrTHESPIAN FIFTYzbONE HUNDREDzbTHREE HUNDREDrEPIDAUREAN FIVE HUNDRED"),
   (0x1016D, "rTROEZENIAN FIVE HUNDREDsHESPIAN FIVE HUNDREDrCARYSTIAN FIVE HUNDRED"),
   (0x10170, "rNAXIAN FIVE HUNDREDrTHESPIAN ONE THOUSANDzbFIVE THOUSANDrDELPHIC FIVE MNAS"),
   (0x10174, "rSTRATIAN FIFTY MNASgONE HALF SIGNt ALTERNATE FORMgTWO THIRDS SIGN"),
   (0x10178, "hHREE QUARTERS SIGNgYEAR SIGNgTALENT SIGNgDRACHMA SIGNgOBOL SIGNgTWO OBOLS SIGN"),
   (0x1017E, "hHREE OBOLS SIGNgFOUR OBOLS SIGNhIVE OBOLS SIGNgMETRETES SIGNgKYATHOS BASE SIGN"),
   (0x10183, "gLITRA SIGNgOUNKIA SIGNgXESTES SIGNgARTABE SIGNiOURA SIGNgGRAMMA SIGN"),
   (0x10189, "gTRYBLION BASE SIGNgZERO SIGNgONE QUARTER SIGNgSINUSOID SIGNgINDICTION SIGN"),
   (0x1018E, "aNOMISMA SIGN"),
   (0x10190, "aROMAN SEXTANS SIGNgUNCIA SIGNgSEMUNCIA SIGNiXTULA SIGNgDIMIDIA SEXTULA SIGN"),
   (0x10195, "gSILIQUA SIGNgDENARIUS SIGNgQUINARIUS SIGNgSESTERTIUS SIGNgDUPONDIUS SIGNgAS SIGN"),
   (0x1019B, "gCENTURIAL SIGNaASCIA SYMBOL"),
   (0x101A0, "aGREEK SYMBOL TAU RHO"),
   (0x101D0, "aPHAISTOS DISC SIGN PEDESTRIANuLUMED HEADtTATTOOED HEADtCAPTIVEuHILDtWOMANtHELMET"),
   (0x101D7, "tGAUNTLETtTIARAtARROWtBOWtSHIELDtCLUBtMANACLESvTTOCKtSAWtLIDtBOOMERANG"),
   (0x101E2, "tCARPENTRY PLANEtDOLIUMtCOMBtSLINGtCOLUMNtBEEHIVEtSHIPtHORNuIDEtBULLS LEGtCATtRAM"),
   (0x101EE, "tEAGLEtDOVEtTUNNYtBEEtPLANE TREEtVINEtPAPYRUStROSETTEtLILYtOX BACKtFLUTEtGRATER"),
   (0x101FA, "tSTRAINERuMALL AXEtWAVY BANDtCOMBINING OBLIQUE STROKE"),
   (0x10280, "aLYCIAN LETTER AoEoBpHoGoDoIoWoZoTHoJoKoQoLoMoNoMMoNNoUoPoKKoRoSoTpToANoENoHoX"),
   (0x102A0, "aCARIAN LETTER AoP2oDoLoUUUoRoLDoA2oQoBoMoOoD2oToSHq2oSoC-18oUoNNoXoNoTT2oPoSSoIoE"),
   (0x102BB, "oUUUUoKp2oNDoUUoGp2oSTq2oNGoIIoC-39oTToUUU2oRRoMBq2q3q4oLD2oE2oUUU3"),
   (0x102E0, "bOPTIC EPACT THOUSANDS MARKnDIGIT ONEtTWOuHREEtFOURuIVEtSIXuEVENtEIGHTtNINE"),
   (0x102EA, "nNUMBER TENvWENTYvHIRTYuFORTYvIFTYuSIXTYvEVENTYuEIGHTYuNINETYuONE HUNDRED"),
   (0x102F4, "uTWO HUNDREDvHREE HUNDREDuFOUR HUNDREDvIVE HUNDREDuSIX HUNDREDvEVEN HUNDRED"),
   (0x102FA, "uEIGHT HUNDREDuNINE HUNDRED"),
   (0x10300, "aOLD ITALIC LETTER AsBEsKEsDEsEsVEsZEsHEsTHEsIsKAsELtMtNtSHsOsPEsSHEsKUsERtSsTEsU"),
   (0x10317, "sEKSsPHEsKHEsEFtRSsCHEsIIsUUsESSlNUMERAL ONEtFIVEtTENtFIFTY"),
   (0x1032D, "lLETTER YEsNORTHERN TSEsSOUTHERN TSEaGOTHIC LETTER AHSAoBAIRKANoGIBAoDAGSoAIHVUS"),
   (0x10335, "oQAIRTHRAoIUJAoHAGLoTHIUTHoEISoKUSMAoLAGUSoMANNAoNAUTHSoJERoURUSoPAIRTHRAoNINETY"),
   (0x10342, "oRAIDAoSAUILoTEIWSoWINJAoFAIHUoIGGWSoHWAIRoOTHALoNINE HUNDRED"),
   (0x10350, "aOLD PERMIC LETTER ANsBURsGAIsDOIsEsZHOIsDZHOIsZATAsDZITAsIsKOKEsLEIsMENOEsNENOE"),
   (0x1035E, "sVOOIsPEEIsREIsSIIsTAIsUsCHERYsSHOOIuCHOOIsYRYtERUsOtOsEFsHAsTSIUsVERsYERvItATsIEsYU"),
   (0x10374, "tAsIAaCOMBINING OLD PERMIC LETTER ANzdDOIzdZATAzdNENOEzdSII"),
   (0x10380, "aUGARITIC LETTER ALPAqBETAqGAMLAqKHAqDELTAqHOqWOqZETAqHOTAqTETqYODqKAFqSHINqLAMDA"),
   (0x1038E, "qMEMqDHALqNUNqZUqSAMKAqAINqPUqSADEqQOPAqRASHAqTHANNAqGHAINqTOqIqUqSSU"),
   (0x1039F, "jWORD DIVIDERaOLD PERSIAN SIGN ArIrUrKAsUrGAsUrXArCArJAsIrTAsUrDAsIsUrTHArPArBArFA"),
   (0x103B4, "rNAsUrMAsIsUrYArVAsIrRAsUrLArSArZArSHAsSArHA"),
   (0x103C8, "rAURAMAZDAAzc-2zcHArXSHAAYATHIYArDAHYAAUSHzb-2rBAGAsUUMISHmWORD DIVIDERmNUMBER ONE"),
   (0x103D2, "tTWOuENuWENTYtHUNDRED"),
   (0x10400, "aDESERET CAPITAL LETTER LONG IzdEzdAzeHzdOzeOxSHORT IzeEzeAzfHzeOzfOxAYxOWxWUxYEExH"),
   (0x10411, "xPEExBEExTEExDEExCHEExJEExKAYxGAYxEFxVEExETHxTHEExESxZEExESHxZHEExERyLyMyNzGxOIxEW"),
   (0x10428, "iSMALL LETTER LONG IzbEzbAzcHzbOzcOvSHORT IzcEzcAzdHzcOzdOvAYvOWvWUvYEEvHvPEEvBEE"),
   (0x1043B, "vTEEvDEEvCHEEvJEEvKAYvGAYvEFvVEEvETHvTHEEvESvZEEvESHvZHEEvERwLwMwNxGvOIvEW"),
   (0x10450, "aSHAVIAN LETTER PEEPpTOTpKICKpFEEpTHIGHpSOqUREpCHURCHpYEApHUNGpBIBpDEADpGAGpVOWpTHEY"),
   (0x1045F, "pZOOpMEASUREpJUDGEpWOEpHA-HApLOLLpMIMEpIFpEGGpASHqDOpONpWOOLpOUTpAHpROARpNUNpEATpAGE"),
   (0x10472, "pICEpUPpOAKqOZEqILpAWEqREpORpAIRpERRpARRAYpEARpIANpYEWaOSMANYA LETTER ALEFpBApTApJA"),
   (0x10484, "pXApKHApDEELpRApSAqHIINpDHApCAYNpGApFApQAAFpKAAFpLAANpMIINpNUUNpWAWpHApYApApEpIpOpU"),
   (0x1049B, "pAApEEpOO"),
   (0x104A0, "iDIGIT ZEROoONEoTWOpHREEoFOURpIVEoSIXpEVENoEIGHToNINE"),
   (0x104B0, "cAGE CAPITAL LETTER AwIxNwHvBRAvCHAvEHCHAvEwINvHAwYAvIvKAvEHKAvKYAvLAvMAvNAvOwINvPA"),
   (0x104C5, "vEHPAvSAwHAvTAvEHTAvTSAvEHTSAvTSHAvDHAvUvWAvKHAvGHAvZAwHA"),
   (0x104D8, "gSMALL LETTER AuIvNuHtBRAtCHAtEHCHAtEuINtHAuYAtItKAtEHKAtKYAtLAtMAtNAtOuINtPAtEHPA"),
   (0x104EE, "tSAuHAtTAtEHTAtTSAtEHTSAtTSHAtDHAtUtWAtKHAtGHAtZAuHA"),
   (0x10500, "aELBASAN LETTER ApBEpCEqHEpDEpNDEpDHEpEIpEpFEpGEqJEpHEpIpJEpKEpLEqLEpMEpNEqAqJEpOpPE"),
   (0x10518, "pQEpREqREpSEqHEpTEqHEpUpVEpXEpYpZEqHEpGHErAMMApKHE"),
   (0x10530, "aCAUCASIAN ALBANIAN LETTER ALTzbBETzbGIMzbDATzbEBzbZARLzbEYNzbZHILzbTASzbCHAzbYOWD"),
   (0x1053B, "zbZHAzbIRBzbSHAzbLANzbINYAzbXEYNzbDYANzbCARzbJHOXzbKARzbLYITzbHEYTzbQAYzbAORzbCHOY"),
   (0x1054A, "zdIzcYAYzbMAQzbQARzbNOWCzbDZYAYzbSHAKzbJAYNzbONzbTYAYzbFAMzbDZAYzbCHATzbPENzbGHEYS"),
   (0x10559, "zbRATzbSEYKzbVEYZzbTIWRzbSHOYzbIWNzbCYAWzcAYNzbYAYDzbPIWRzbKIW"),
   (0x1056F, "tCITATION MARKaVITHKUQI CAPITAL LETTER AyBBEzEyCEzHEyDEzHEyEIyEyFEyGA"),
   (0x1057C, "yHAzHAyIzJEyJEyKAyLAzLAyMEyNEzJEyOyPEyQAyRE"),
   (0x1058C, "ySEzHEyTEzHEyUyVEyXE"),
   (0x10594, "yYyZE"),
   (0x10597, "jSMALL LETTER AwBBExEwCExHEwDExHEwEIwEwFEwGA"),
   (0x105A3, "wHAxHAwIxJEwJEwKAwLAxLAwMEwNExJEwOwPEwQAwRE"),
   (0x105B3, "wSExHEwTExHEwUwVEwXE"),
   (0x105BB, "wYwZE"),
   (0x10600, "aLINEAR A SIGN AB001s2s3s4s5s6s7s8s9r10s1s3s6s7r20s1tFtMs2tFtMs3tMs4s6s7s8p028BpB029"),
   (0x1061D, "r30s1s4s7s8s9r40s1s4s5s6s7s8s9r50s1s3s4s5s6s7s8s9r60s1s5s6s7s9r70s3s4s6s7s8s9r80s1s2"),
   (0x10644, "s5s6s7p100-102pB118r20p120BpB122s3r31AtBp131CpB164r71r80s8r91p301r2r3r4r5r6r7r8r9AsB"),
   (0x1065F, "sCq10r1r2r3AsBsCr4r5r6r7r8r9q20r1r2r3r4r5r6r7r8r9q30r1r2r3r4r5r6r7r8r9q40r1r2r3r4r5"),
   (0x10686, "r6r7r8r9q50r1r2r3r4r5r6r7r8r9q60r1r2r3r4r5r6r7r8r9q70r1p400-VASr1-VASr2-VASr3-VAS"),
   (0x106A4, "r4-VASr5-VASr6-VASr7-VASr8-VASr9-VASq10-VASr1-VASr2-VASr3-VASr4-VASr5-VASr6-VAS"),
   (0x106B1, "r7-VASr8-VASp501r2r3r4r5r6r8r9q10r1r2r3r5r6q20r1r3r4r5r6r7r8r9q30r1r2r4r5r6r7r8r9q40"),
   (0x106D4, "r1r2r5r7r8r9q50r1r2r3r4r5r6r7r9q63r4r5r6r8r9q70r1r2r3r4r5r6r7r8r9q80r1r2r3r4r5r6r7r8"),
   (0x106FC, "r9q91r2r4r5r6r8p600r1r2r3r4r6r8r9q10r1r2r3r4r5r6r7r8r9q20r1r2r3r4r6r7r8r9q34r7r8q40"),
   (0x10722, "r2r3r4r5r6r8r9q51r2r3r4r5r6r7r8r9q60r1r2r3r4"),
   (0x10740, "p701 Ar2 Br3 Dr4 Er5 Fr6 Hr7 Jr8 Kr9 Ls-2 L2t3 L3t4 L4t6 L6q10 Wr1 Xr2 Yr3 OMEGA"),
   (0x10751, "r4 ABBr5 BBr7 DDq26 EYYYq32 JE"),
   (0x10760, "p800r1r2r3r4r5r6r7"),
   (0x10780, "aMODIFIER LETTER SMALL CAPITAL AArUPERSCRIPT TRIANGULAR COLONzdHALF TRIANGULAR COLON"),
   (0x10783, "rMALL AEwCAPITAL BwB WITH HOOK"),
   (0x10787, "wDZ DIGRAPHzh WITH RETROFLEX HOOKznCURLxEZH DIGRAPHx WITH TAILzeHOOKzi AND TAIL"),
   (0x1078E, "wREVERSED EwCLOSED REVERSED OPEN EwFENG DIGRAPHwRAMS HORNwCAPITAL GwG WITH HOOK"),
   (0x10794, "wCAPITAL G WITH HOOKwH WITH STROKEwCAPITAL HwHENG WITH HOOK"),
   (0x10798, "wDOTLESS J WITH STROKE AND HOOKwLS DIGRAPHxZ DIGRAPHx WITH BELTwCAPITAL L WITH BELT"),
   (0x1079D, "wL WITH RETROFLEX HOOK AND BELTxEZHzb WITH RETROFLEX HOOKwTURNED Yzf WITH BELT"),
   (0x107A2, "wO WITH STROKEwCAPITAL OExLOSED OMEGAwQwTURNED R WITH LONG LEGzt AND RETROFLEX HOOK"),
   (0x107A8, "wR WITH TAILzeFISHHOOKwCAPITAL RwTC DIGRAPH WITH CURLxS DIGRAPH"),
   (0x107AD, "zh WITH RETROFLEX HOOKxESH DIGRAPHx WITH RETROFLEX HOOKwV WITH RIGHT HOOK"),
   (0x107B2, "wCAPITAL YqGLOTTAL STOP WITH STROKEqREVERSED GLOTTAL STOP WITH STROKEqBILABIAL CLICK"),
   (0x107B6, "qDENTAL CLICKqLATERAL CLICKqALVEOLAR CLICKqRETROFLEX CLICK WITH RETROFLEX HOOK"),
   (0x107BA, "qSMALL S WITH CURL"),
   (0x10800, "aCYPRIOT SYLLABLE ArErIrOrUrJA"),
   (0x10808, "sO"),
   (0x1080A, "rKAsEsIsOsUrLAsEsIsOsUrMAsEsIsOsUrNAsEsIsOsUrPAsEsIsOsUrRAsEsIsOsUrSAsEsIsOsUrTAsEsI"),
   (0x10830, "sOsUrWAsEsIsO"),
   (0x10837, "rXAsE"),
   (0x1083C, "rZA"),
   (0x1083F, "sOaIMPERIAL ARAMAIC LETTER ALEPHyBETHyGIMELyDALETHyHEyWAWyZAYINyHETHyTETHyYODHyKAPH"),
   (0x1084B, "yLAMEDHyMEMyNUNySAMEKHyAYINyPEySADHEyQOPHyRESHySHINyTAW"),
   (0x10857, "rSECTION SIGNrNUMBER ONEyTWOzHREEzENzWENTYyONE HUNDREDzdTHOUSANDyTEN THOUSAND"),
   (0x10860, "aPALMYRENE LETTER ALEPHrBETHrGIMELrDALETHrHErWAWrZAYINrHETHrTETHrYODHrKAPHrLAMEDH"),
   (0x1086C, "rMEMrFINAL NUNrNUNrSAMEKHrAYINrPErSADHErQOPHrRESHrSHINrTAWmFT-POINTING FLEURON"),
   (0x10878, "kRIGHT-POINTING FLEURONkNUMBER ONErTWOsHREErFOURsIVErTENsWENTY"),
   (0x10880, "aNABATAEAN LETTER FINAL ALEPHrALEPHrFINAL BETHrBETHrGIMELrDALETHrFINAL HErHErWAW"),
   (0x10889, "rZAYINrHETHrTETHrFINAL YODHrYODHrFINAL KAPHrKAPHrFINAL LAMEDHrLAMEDHrFINAL MEMrMEM"),
   (0x10894, "rFINAL NUNrNUNrSAMEKHrAYINrPErSADHErQOPHrRESHrFINAL SHINrSHINrTAW"),
   (0x108A7, "kNUMBER ONErTWOsHREErFOURkCRUCIFORM NUMBER FOURkNUMBER FIVErTENsWENTYrONE HUNDRED"),
   (0x108E0, "aHATRAN LETTER ALEPHoBETHoGIMELoDALETH-RESHoHEoWAWoZAYNoHETHoTETHoYODHoKAPHoLAMEDH"),
   (0x108EC, "oMEMoNUNoSAMEKHoAYNoPEoSADHEoQOPH"),
   (0x108F4, "oSHINoTAW"),
   (0x108FB, "hNUMBER ONEoFIVEoTENpWENTYoONE HUNDREDaPHOENICIAN LETTER ALFsBETsGAMLsDELTsHEsWAU"),
   (0x10906, "sZAIsHETsTETsYODsKAFsLAMDsMEMsNUNsSEMKsAINsPEsSADEsQOFsROSHsSHINsTAUlNUMBER ONEsTEN"),
   (0x10918, "tWENTYsONE HUNDREDsTWOtHREE"),
   (0x1091F, "lWORD SEPARATORaLYDIAN LETTER AoBoGoDoEoVoIoYoKoLoMoNoOoRoSSoToUoFoQoSoTToANoENoLY"),
   (0x10938, "oNNoC"),
   (0x1093F, "hTRIANGULAR MARK"),
   (0x10980, "aMEROITIC HIEROGLYPHIC LETTER AzeEzeIzeOzeYAzeWAzeBAzg-2zePAzeMAzeNAzg-2zfEzg-2zeRA"),
   (0x1098F, "zg-2zeLAzeKHAzeHHAzeSAzg-2zfEzeKAzeQAzeTAzg-2zfEzg-2zfOzeDAwSYMBOL VIDJzi-2"),
   (0x109A0, "jCURSIVE LETTER AyEyIyOyYAyWAyBAyPAyMAyNAzEyRAyLAyKHAyHHAySAyARCHAIC SAySEyKAyQAyTA"),
   (0x109B5, "zEzOyDA"),
   (0x109BC, "rFRACTION ELEVEN TWELFTHSzbONE HALFrLOGOGRAM RMTzbIMNrNUMBER ONEyTWOzHREEyFOURzIVE"),
   (0x109C5, "ySIXzEVENyEIGHTyNINEyTENzWENTYzHIRTYyFORTYzIFTYySIXTYzEVENTY"),
   (0x109D2, "yONE HUNDREDyTWO HUNDREDzHREE HUNDREDyFOUR HUNDREDzIVE HUNDREDySIX HUNDRED"),
   (0x109D8, "zEVEN HUNDREDyEIGHT HUNDREDyNINE HUNDREDyONE THOUSANDyTWO THOUSANDzHREE THOUSAND"),
   (0x109DE, "yFOUR THOUSANDzIVE THOUSANDySIX THOUSANDzEVEN THOUSANDyEIGHT THOUSANDyNINE THOUSAND"),
   (0x109E4, "yTEN THOUSANDzWENTY THOUSANDzHIRTY THOUSANDyFORTY THOUSANDzIFTY THOUSAND"),
   (0x109E9, "ySIXTY THOUSANDzEVENTY THOUSANDyEIGHTY THOUSANDyNINETY THOUSANDyONE HUNDRED THOUSAND"),
   (0x109EE, "yTWO HUNDRED THOUSANDzHREE HUNDRED THOUSANDyFOUR HUNDRED THOUSAND"),
   (0x109F1, "zIVE HUNDRED THOUSANDySIX HUNDRED THOUSANDzEVEN HUNDRED THOUSAND"),
   (0x109F4, "yEIGHT HUNDRED THOUSANDyNINE HUNDRED THOUSANDrFRACTION ONE TWELFTHzbTWO TWELFTHS"),
   (0x109F8, "zcHREE TWELFTHSzbFOUR TWELFTHSzcIVE TWELFTHSzbSIX TWELFTHSzcEVEN TWELFTHS"),
   (0x109FD, "zbEIGHT TWELFTHSzbNINE TWELFTHSzbTEN TWELFTHSaKHAROSHTHI LETTER AlVOWEL SIGN IwU"),
   (0x10A03, "wVOCALIC R"),
   (0x10A05, "wEwO"),
   (0x10A0C, "rLENGTH MARKlSIGN DOUBLE RING BELOWqANUSVARAqVISARGAlLETTER KAtHAsGAtHA"),
   (0x10A15, "sCAtHAsJA"),
   (0x10A19, "sNYAsTTAuHAsDDAuHAsNNAsTAtHAsDAtHAsNAsPAtHAsBAtHAsMAsYAsRAsLAsVAsSHAtSAtAsZAsHAsKKA"),
   (0x10A33, "sTTTHAvAsVHA"),
   (0x10A38, "lSIGN BAR ABOVEqCAUDAqDOT BELOW"),
   (0x10A3F, "lVIRAMAlDIGIT ONErTWOsHREErFOURlNUMBER TENtWENTYsONE HUNDREDwTHOUSAND"),
   (0x10A48, "lFRACTION ONE HALF"),
   (0x10A50, "lPUNCTUATION DOTxSMALL CIRCLExCIRCLEyRESCENT BARxMANGALAMxLOTUSxDANDAyOUBLE DANDA"),
   (0x10A58, "xLINES"),
   (0x10A60, "aOLD SOUTH ARABIAN LETTER HEzLAMEDHzHETHzMEMzQOPHzWAWzSHINzRESHzBETHzTAWzSATzKAPH"),
   (0x10A6C, "zNUNzKHETHzSADHEzcMEKHzFEzALEFzbYNzDHADHEzGIMELzDALETHzGHAYNzTETHzZAYNzDHALETHzYODH"),
   (0x10A7B, "zTHAWzcETHsNUMBER ONEzFIFTYvERIC INDICATOReNORTH ARABIAN LETTER HEHzLAMzHAHzMEEMzQAF"),
   (0x10A85, "zWAWzES-2zREHzBEHzTEHzES-1zKAFzNOONzKHAHzSADzES-3zFEHzALEFzbINzDADzGEEMzDALzGHAIN"),
   (0x10A97, "zTAHzZAINzTHALzYEHzTHEHzZAHsNUMBER ONEzTENzbWENTY"),
   (0x10AC0, "aMANICHAEAN LETTER ALEPHsBETHtHETHsGIMELtHIMELsDALETHsHEsWAWlSIGN UDlLETTER ZAYIN"),
   (0x10ACA, "tHAYINsJAYINtHAYINsHETHsTETHsYODHsKAPHsXAPHsKHAPHsLAMEDHsDHAMEDHsTHAMEDHsMEMsNUN"),
   (0x10AD8, "sSAMEKHsAYINtAYINsPEsFEsSADHEsQOPHsXOPHsQHOPHsRESHsSHINtSHINsTAW"),
   (0x10AE5, "lABBREVIATION MARK ABOVEzeBELOW"),
   (0x10AEB, "lNUMBER ONEsFIVEsTENtWENTYsONE HUNDREDlPUNCTUATION STARxFLEURON"),
   (0x10AF2, "xDOUBLE DOT WITHIN DOTzT WITHIN DOTzTxTWO DOTSxLINE FILLER"),
   (0x10B00, "aAVESTAN LETTER AqAqOqAOqNqANqErEpEqEpOqOpIqIpUqUpKEpXEqYEqVEpGEqGEqHEpCEpJEpTEqHE"),
   (0x10B1B, "pDEqHEpTTEpPEpFEpBEqHEpNGErYErVEqEqYEqNEpMEpHMEpYYEqEpVEpREpLEpSEpZEpSHEpZHEpSHYE"),
   (0x10B34, "qSHEpHE"),
   (0x10B39, "iABBREVIATION MARKaTINY TWO DOTS OVER ONE DOT PUNCTUATION"),
   (0x10B3B, "aSMALL TWO DOTS OVER ONE DOT PUNCTUATIONaLARGE TWO DOTS OVER ONE DOT PUNCTUATION"),
   (0x10B3D, "gONE DOT OVER TWO DOTS PUNCTUATIONgTWO RINGS OVER ONE RING PUNCTUATION"),
   (0x10B3F, "gONE RING OVER TWO RINGS PUNCTUATIONaINSCRIPTIONAL PARTHIAN LETTER ALEPHzfBETH"),
   (0x10B42, "zfGIMELzfDALETHzfHEzfWAWzfZAYINzfHETHzfTETHzfYODHzfKAPHzfLAMEDHzfMEMzfNUNzfSAMEKH"),
   (0x10B4F, "zfAYINzfPEzfSADHEzfQOPHzfRESHzfSHINzfTAW"),
   (0x10B58, "xNUMBER ONEzfTWOzgHREEzfFOURzfTENzgWENTYzfONE HUNDREDzjTHOUSANDqHLAVI LETTER ALEPH"),
   (0x10B61, "zeBETHzeGIMELzeDALETHzeHEzeWAW-AYIN-RESHzeZAYINzeHETHzeTETHzeYODHzeKAPHzeLAMEDH"),
   (0x10B6C, "zeMEM-QOPHzeNUNzeSAMEKHzePEzeSADHEzfHINzeTAW"),
   (0x10B78, "wNUMBER ONEzeTWOzfHREEzeFOURzeTENzfWENTYzeONE HUNDREDziTHOUSAND"),
   (0x10B80, "aPSALTER PAHLAVI LETTER ALEPHxBETHxGIMELxDALETHxHExWAW-AYIN-RESHxZAYINxHETHxYODH"),
   (0x10B89, "xKAPHxLAMEDHxMEM-QOPHxNUNxSAMEKHxPExSADHEyHINxTAW"),
   (0x10B99, "qSECTION MARKqTURNED SECTION MARKqFOUR DOTS WITH CROSSzgDOT"),
   (0x10BA9, "qNUMBER ONExTWOyHREExFOURxTENyWENTYxONE HUNDRED"),
   (0x10C00, "aOLD TURKIC LETTER ORKHON AsYENISEI AzcEsORKHON IsYENISEI IzbEsORKHON OzbE"),
   (0x10C08, "sYENISEI OEsORKHON ABsYENISEI ABsORKHON AEBsYENISEI AEBsORKHON AGsYENISEI AG"),
   (0x10C0F, "sORKHON AEGsYENISEI AEGsORKHON ADsYENISEI ADsORKHON AEDzEZsYENISEI EZsORKHON AY"),
   (0x10C17, "sYENISEI AYsORKHON AEYsYENISEI AEYsORKHON AEKsYENISEI AEKsORKHON OEKsYENISEI OEK"),
   (0x10C1E, "sORKHON ALsYENISEI ALsORKHON AELzELTzbMzANzbENsYENISEI AENsORKHON ENTsYENISEI ENT"),
   (0x10C28, "sORKHON ENCsYENISEI ENCsORKHON ENYsYENISEI ENYzbANGsORKHON ENGsYENISEI AENG"),
   (0x10C2F, "sORKHON EPzOPzICzECsYENISEI ECsORKHON AQsYENISEI AQsORKHON IQsYENISEI IQsORKHON OQ"),
   (0x10C39, "sYENISEI OQsORKHON ARsYENISEI ARsORKHON AERzbSzbESzbSHsYENISEI ASHsORKHON ESH"),
   (0x10C42, "sYENISEI ESHsORKHON ATsYENISEI ATsORKHON AETsYENISEI AETsORKHON OTzBASH"),
   (0x10C80, "eHUNGARIAN CAPITAL LETTER AzfAzeEBzeAMBzeECzfNCzfCSzfDzeANDzeEzeCLOSE EzeEEzfFzfGzgY"),
   (0x10C8F, "zfHzeIzfIzeEJzfKzeAKzeUNKzeELzgYzfMzfNzgYzeOzfOzeNIKOLSBURG OEzeRUDIMENTA OEzeOEE"),
   (0x10CA0, "zeEPzfMPzfRzeSHORT ERzeESzgZzfTzfNTzfTYzfCHzeUzfUzeNIKOLSBURG UEzeRUDIMENTA UEzeEV"),
   (0x10CAF, "zfZzgSzfNT-SHAPED SIGNzeUS"),
   (0x10CC0, "oSMALL LETTER AzdAzcEBzcAMBzcECzdNCzdCSzdDzcANDzcEzcCLOSE EzcEEzdFzdGzeYzdHzcIzdI"),
   (0x10CD2, "zcEJzdKzcAKzcUNKzcELzeYzdMzdNzeYzcOzdOzcNIKOLSBURG OEzcRUDIMENTA OEzcOEEzcEPzdMPzdR"),
   (0x10CE3, "zcSHORT ERzcESzeZzdTzdNTzdTYzdCHzcUzdUzcNIKOLSBURG UEzcRUDIMENTA UEzcEVzdZzeS"),
   (0x10CF1, "zdNT-SHAPED SIGNzcUS"),
   (0x10CFA, "oNUMBER ONEvFIVEvTENvFIFTYvONE HUNDREDzTHOUSANDaHANIFI ROHINGYA LETTER AxBAxPAxTAyTA"),
   (0x10D05, "xJAxCAxHAxKHAxFAxDAyDAxRAyRAxZAxSAyHAxKAxGAxLAxMAxNAxWAxKINNA WAxYAxKINNA YAxNGAyYA"),
   (0x10D1C, "xVAqVOWEL AwIwUwEwOqMARK SAKINvNA KHONNAqSIGN HARBAHAYvTAHALAxNAxSSI"),
   (0x10D30, "qDIGIT ZEROwONEwTWOxHREEwFOURxIVEwSIXxEVENwEIGHTwNINE"),
   (0x10E60, "aRUMI DIGIT ONElTWOmHREElFOURmIVElSIXmEVENlEIGHTlNINEfNUMBER TENnWENTYnHIRTYmFORTY"),
   (0x10E6D, "nIFTYmSIXTYnEVENTYmEIGHTYmNINETYmONE HUNDREDmTWO HUNDREDnHREE HUNDREDmFOUR HUNDRED"),
   (0x10E76, "nIVE HUNDREDmSIX HUNDREDnEVEN HUNDREDmEIGHT HUNDREDmNINE HUNDREDfFRACTION ONE HALF"),
   (0x10E7C, "sQUARTERsTHIRDoTWO THIRDS"),
   (0x10E80, "aYEZIDI LETTER ELIFoBEoPEpHEoTHEoSEoCIMpHIMqHIMoHHAoXAoDALoZALoRApHAoZAoJAoSINpHIN"),
   (0x10E93, "pADoDADoTAoZEoEYNoXHEYNoFAoVAq ALTERNATE FORMoQAFoKAFpHAFoGAFoLAMoMIMoNUNoUMoWAWoOW"),
   (0x10EA6, "oEWoHAYoYOToET"),
   (0x10EAB, "hCOMBINING HAMZA MARKrMADDA MARKhHYPHENATION MARK"),
   (0x10EB0, "hLETTER LAM WITH DOT ABOVEoYOT WITH CIRCUMFLEX ABOVE"),
   (0x10F00, "aOLD SOGDIAN LETTER ALEPHtFINAL ALEPHtBETHtFINAL BETHtGIMELtHEtFINAL HEtWAWtZAYIN"),
   (0x10F09, "tHETHtYODHtKAPHtLAMEDHtMEMtNUNtFINAL NUNzd WITH VERTICAL TAILtSAMEKHtAYIN"),
   (0x10F13, "uLTERNATE AYINtPEtSADHEtFINAL SADHEzf WITH VERTICAL TAILtRESH-AYIN-DALETHtSHINtTAW"),
   (0x10F1B, "tFINAL TAWzd WITH VERTICAL TAILmNUMBER ONEtTWOuHREEtFOURuIVEtTENuWENTYuHIRTY"),
   (0x10F25, "tONE HUNDREDmFRACTION ONE HALFmLIGATURE AYIN-DALETH"),
   (0x10F30, "aSOGDIAN LETTER ALEPHpBETHpGIMELpHEpWAWpZAYINpHETHpYODHpKAPHpLAMEDHpMEMpNUNpSAMEKH"),
   (0x10F3D, "pAYINpPEpSADHEpRESH-AYINpSHINpTAWpFETHpLESHiINDEPENDENT SHINiCOMBINING DOT BELOW"),
   (0x10F47, "sTWO DOTS BELOWsDOT ABOVEsTWO DOTS ABOVEsCURVE ABOVEyBELOWsHOOK ABOVExBELOW"),
   (0x10F4E, "sLONG HOOK BELOWsRESH BELOWsSTROKE BELOWiNUMBER ONEpTENqWENTYpONE HUNDRED"),
   (0x10F55, "iPUNCTUATION TWO VERTICAL BARSzm WITH DOTSuCIRCLE WITH DOTuTWO CIRCLES WITH DOTS"),
   (0x10F59, "uHALF CIRCLE WITH DOT"),
   (0x10F70, "aOLD UYGHUR LETTER ALEPHsBETHsGIMEL-HETHsWAWsZAYINsFINAL HETHsYODHsKAPHsLAMEDHsMEM"),
   (0x10F7A, "sNUNsSAMEKHsPEsSADHEsRESHsSHINsTAWsLESHlCOMBINING DOT ABOVEzBELOWvTWO DOTS ABOVE"),
   (0x10F85, "zfBELOWlPUNCTUATION BARxTWO BARSzcDOTSxFOUR DOTS"),
   (0x10FB0, "aCHORASMIAN LETTER ALEPHsSMALL ALEPHsBETHsGIMELsDALETHsHEsWAWsCURLED WAWsZAYINsHETH"),
   (0x10FBA, "sYODHsKAPHsLAMEDHsMEMsNUNsSAMEKHsAYINsPEsRESHsSHINsTAWlNUMBER ONEsTWOtHREEsFOURsTEN"),
   (0x10FCA, "tWENTYsONE HUNDRED"),
   (0x10FE0, "aELYMAIC LETTER ALEPHpBETHpGIMELpDALETHpHEpWAWpZAYINpHETHpTETHpYODHpKAPHpLAMEDHpMEM"),
   (0x10FED, "pNUNpSAMEKHpAYINpPEpSADHEpQOPHpRESHpSHINpTAWjIGATURE ZAYIN-YODH"),
   (0x11000, "aBRAHMI SIGN CANDRABINDUmANUSVARAmVISARGAmJIHVAMULIYAmUPADHMANIYAhLETTER ApAoIpIoUpU"),
   (0x1100B, "oVOCALIC RxRwLxLoEoAIoOoAUoKApHAoGApHAoNGAoCApHAoJApHAoNYAoTTAqHAoDDAqHAoNNAoTApHA"),
   (0x11024, "oDApHAoNAoPApHAoBApHAoMAoYAoRAoLAoVAoSHApSApAoHAoLLAoOLD TAMIL LLLAyRRAyNNNA"),
   (0x11038, "hVOWEL SIGN AAsBHATTIPROLU AAsItIsUtUsVOCALIC RzcRzbLzcLsEsAIsOsAUiIRAMAhDANDA"),
   (0x11048, "iOUBLE DANDAhPUNCTUATION DOTvUBLE DOTtLINEtCRESCENT BARtLOTUS"),
   (0x11052, "hNUMBER ONEoTWOpHREEoFOURpIVEoSIXpEVENoEIGHToNINEoTENpWENTYpHIRTYoFORTYpIFTYoSIXTY"),
   (0x11061, "pEVENTYoEIGHTYoNINETYoONE HUNDREDsTHOUSANDhDIGIT ZEROnONEnTWOoHREEnFOURoIVEnSIXoEVEN"),
   (0x1106E, "nEIGHTnNINEhSIGN OLD TAMIL VIRAMAhLETTER OLD TAMIL SHORT EzfO"),
   (0x11073, "hVOWEL SIGN OLD TAMIL SHORT EzjOhLETTER OLD TAMIL LLA"),
   (0x1107F, "hNUMBER JOINERaKAITHI SIGN CANDRABINDUmANUSVARAmVISARGAhLETTER ApAoIpIoUpUoEoAIoOoAU"),
   (0x1108D, "oKApHAoGApHAoNGAoCApHAoJApHAoNYAoTTAqHAoDDAqDHAqHAoRHAoNNAoTApHAoDApHAoNAoPApHAoBA"),
   (0x110A6, "pHAoMAoYAoRAoLAoVAoSHApSApAoHAhVOWEL SIGN AAsItIsUtUsEsAIsOsAUhSIGN VIRAMAmNUKTA"),
   (0x110BB, "hABBREVIATION SIGNhENUMERATION SIGNhNUMBER SIGNhSECTION MARKhDOUBLE SECTION MARK"),
   (0x110C0, "iANDAiOUBLE DANDAhVOWEL SIGN VOCALIC R"),
   (0x110CD, "hNUMBER SIGN ABOVE"),
   (0x110D0, "aSORA SOMPENG LETTER SAHuTAHuBAHuCAHuDAHuGAHuMAHuNGAHuLAHuNAHuVAHuPAHuYAHuRAHuHAH"),
   (0x110DF, "uKAHuJAHuNYAHuAHuEEHuIHuUHuOHuEHuMAE"),
   (0x110F0, "nDIGIT ZEROtONEtTWOuHREEtFOURuIVEtSIXuEVENtEIGHTtNINE"),
   (0x11100, "aCHAKMA SIGN CANDRABINDUmANUSVARAmVISARGAhLETTER AAoIoUoEoKAApHAAoGAApHAAoNGAAoCAA"),
   (0x1110D, "pHAAoJAApHAAoNYAAoTTAAqHAAoDDAAqHAAoNNAAoTAApHAAoDAApHAAoNAAoPAApHAAoBAApHAAoMAA"),
   (0x11120, "oYYAApAAoRAAoLAAoWAAoSAAoHAAhVOWEL SIGN AsItIsUtUsEsAIsOsAUsOIhO MARKhAU MARKhVIRAMA"),
   (0x11134, "hMAAYYAA"),
   (0x11136, "hDIGIT ZEROnONEnTWOoHREEnFOURoIVEnSIXoEVENnEIGHTnNINEhSECTION MARKhDANDAiOUBLE DANDA"),
   (0x11143, "hQUESTION MARKhLETTER LHAAhVOWEL SIGN AAsEIhLETTER VAA"),
   (0x11150, "aMAHAJANI LETTER AqIqUqEqOqKArHAqGArHAqCArHAqJArHAqNYAqTTAsHAqDDAsHAqNNAqTArHAqDArHA"),
   (0x11167, "qNAqPArHAqBArHAqMAqRAqLAqVAqSAqHAqRRAjSIGN NUKTAjABBREVIATION SIGNjSECTION MARK"),
   (0x11176, "jLIGATURE SHRI"),
   (0x11180, "aSHARADA SIGN CANDRABINDUnANUSVARAnVISARGAiLETTER AqApIqIpUqUpVOCALIC RyRxLyLpEpAIpO"),
   (0x11190, "pAUpKAqHApGAqHApNGApCAqHApJAqHApNYApTTArHApDDArHApNNApTAqHApDAqHApNApPAqHApBAqHApMA"),
   (0x111AA, "pYApRApLAqLApVApSHAqSAqApHAiVOWEL SIGN AAtIuItUuUtVOCALIC RzdRzcLzdLtEtAItOtAU"),
   (0x111C0, "iSIGN VIRAMAnAVAGRAHAnJIHVAMULIYAnUPADHMANIYAiOMiDANDAjOUBLE DANDAiABBREVIATION SIGN"),
   (0x111C8, "iSEPARATORjANDHI MARKjIGN NUKTAiVOWEL MODIFIER MARKiEXTRA SHORT VOWEL MARK"),
   (0x111CD, "iSUTRA MARKiVOWEL SIGN PRISHTHAMATRA EiSIGN INVERTED CANDRABINDUiDIGIT ZEROoONEoTWO"),
   (0x111D3, "pHREEoFOURpIVEoSIXpEVENoEIGHToNINEiEKAMiSIGN SIDDHAMiHEADSTROKEiCONTINUATION SIGN"),
   (0x111DE, "iSECTION MARK-1v2"),
   (0x111E1, "bINHALA ARCHAIC DIGIT ONEwTWOxHREEwFOURxIVEwSIXxEVENwEIGHTwNINEqNUMBER TENyWENTY"),
   (0x111EC, "yHIRTYxFORTYyIFTYxSIXTYyEVENTYxEIGHTYxNINETYxONE HUNDREDzcTHOUSAND"),
   (0x11200, "aKHOJKI LETTER ApAoIoUoEoAIoOoAUoKApHAoGApGApHAoNGAoCApHAoJApJA"),
   (0x11213, "oNYAoTTAqHAoDDAqHAoNNAoTApHAoDApDDApHAoNAoPApHAoBApBApHAoMAoYAoRAoLAoVAoSAoHAoLLA"),
   (0x1122C, "hVOWEL SIGN AAsItIsUsEsAIsOsAUhSIGN ANUSVARAmVIRAMAmNUKTAmSHADDAhDANDAiOUBLE DANDA"),
   (0x1123A, "hWORD SEPARATORhSECTION MARKhDOUBLE SECTION MARKhABBREVIATION SIGNhSIGN SUKUN"),
   (0x11280, "aMULTANI LETTER ApIpUpEpKAqHApGA"),
   (0x11288, "qHA"),
   (0x1128A, "pCAqHApJAqJA"),
   (0x1128F, "pNYApTTArHApDDArDArHApNNApTAqHApDAqHApNApPAqHApBA"),
   (0x1129F, "qHApMApYApRApLApVApSApHApRRAqHAiSECTION MARK"),
   (0x112B0, "aKHUDAWADI LETTER AsArIsIrUsUrErAIrOrAUrKAsHArGAsGAsHArNGArCAsHArJAsJAsHArNYArTTAtHA"),
   (0x112C8, "rDDAtDArRRArDDHArNNArTAsHArDAsHArNArPAsHArBAsBAsHArMArYArRArLArVArSHAsArHA"),
   (0x112DF, "kSIGN ANUSVARAkVOWEL SIGN AAvIwIvUwUvEvAIvOvAUkSIGN NUKTApVIRAMA"),
   (0x112F0, "kDIGIT ZEROqONEqTWOrHREEqFOURrIVEqSIXrEVENqEIGHTqNINE"),
   (0x11300, "aGRANTHA SIGN COMBINING ANUSVARA ABOVEoANDRABINDUnANUSVARAnVISARGA"),
   (0x11305, "iLETTER AqApIqIpUqUpVOCALIC RxL"),
   (0x1130F, "pEEpAI"),
   (0x11313, "pOOpAUpKAqHApGAqHApNGApCAqHApJAqHApNYApTTArHApDDArHApNNApTAqHApDAqHApNA"),
   (0x1132A, "pPAqHApBAqHApMApYApRA"),
   (0x11332, "pLAqLA"),
   (0x11335, "pVApSHAqSAqApHA"),
   (0x1133B, "aCOMBINING BINDU BELOWaGRANTHA SIGN NUKTAnAVAGRAHAiVOWEL SIGN AAtIuItUuUtVOCALIC R"),
   (0x11344, "zdR"),
   (0x11347, "tEEtAI"),
   (0x1134B, "tOOtAUiSIGN VIRAMA"),
   (0x11350, "iOM"),
   (0x11357, "iAU LENGTH MARK"),
   (0x1135D, "iSIGN PLUTAiLETTER VEDIC ANUSVARAvDOUBLE ANUSVARAqOCALIC RRxLLiVOWEL SIGN VOCALIC L"),
   (0x11363, "zdL"),
   (0x11366, "aCOMBINING GRANTHA DIGIT ZEROyONEyTWOzHREEyFOURzIVEySIX"),
   (0x11370, "sLETTER AzKAzNAzVIzPA"),
   (0x11400, "aNEWA LETTER AnAmInImUnUmVOCALIC RvRuLvLmEmAImOmAUmKAnHAmGAnHAmNGAoHAmCAnHAmJAnHA"),
   (0x11418, "mNYAoHAmTTAoHAmDDAoHAmNNAmTAnHAmDAnHAmNAnHAmPAnHAmBAnHAmMAnHAmYAmRAnHAmLAnHAmWAmSHA"),
   (0x11432, "nSAnAmHAfVOWEL SIGN AAqIrIqUrUqVOCALIC RzRyLzLqEqAIqOqAUfSIGN VIRAMAkCANDRABINDU"),
   (0x11444, "kANUSVARAkVISARGAkNUKTAkAVAGRAHAkFINAL ANUSVARAfOMfSIDDHIfDANDAgOUBLE DANDAfCOMMA"),
   (0x1144E, "fGAP FILLERfABBREVIATION SIGNfDIGIT ZEROlONElTWOmHREElFOURmIVElSIXmEVENlEIGHTlNINE"),
   (0x1145A, "gOUBLE COMMAfPLACEHOLDER MARK"),
   (0x1145D, "fINSERTION SIGNfSANDHI MARKfLETTER VEDIC ANUSVARAfSIGN JIHVAMULIYAkUPADHMANIYA"),
   (0x11480, "aTIRHUTA ANJIiLETTER AqApIqIpUqUpVOCALIC RyRxLyLpEpAIpOpAUpKAqHApGAqHApNGApCAqHApJA"),
   (0x11497, "qHApNYApTTArHApDDArHApNNApTAqHApDAqHApNApPAqHApBAqHApMApYApRApLApVApSHAqSAqApHA"),
   (0x114B0, "iVOWEL SIGN AAtIuItUuUtVOCALIC RzdRzcLzdLtEtSHORT EtAItOtSHORT OtAUiSIGN CANDRABINDU"),
   (0x114C0, "nANUSVARAnVISARGApRAMAnNUKTAnAVAGRAHAiGVANGiABBREVIATION SIGNiOM"),
   (0x114D0, "iDIGIT ZEROoONEoTWOpHREEoFOURpIVEoSIXpEVENoEIGHToNINE"),
   (0x11580, "aSIDDHAM LETTER AqApIqIpUqUpVOCALIC RyRxLyLpEpAIpOpAUpKAqHApGAqHApNGApCAqHApJAqHA"),
   (0x11597, "pNYApTTArHApDDArHApNNApTAqHApDAqHApNApPAqHApBAqHApMApYApRApLApVApSHAqSAqApHA"),
   (0x115AF, "iVOWEL SIGN AAtIuItUuUtVOCALIC RzdR"),
   (0x115B8, "tEtAItOtAUiSIGN CANDRABINDUnANUSVARAnVISARGApRAMAnNUKTAnSIDDHAMiDANDAjOUBLE DANDA"),
   (0x115C4, "iSEPARATOR DOTsBARiREPETITION MARK-1y2y3iEND OF TEXT MARK"),
   (0x115CA, "iSECTION MARK WITH TRIDENT AND U-SHAPED ORNAMENTSznDOTTED CRESCENTS"),
   (0x115CC, "zbRAYS AND DOTTED CRESCENTSzrDOUBLE CRESCENTSzrTRIPLE CRESCENTSvDOUBLE RING"),
   (0x115D0, "zh WITH RAYSvWITH DOUBLE CRESCENTSzbTRIPLE CRESCENTSzbQUADRUPLE CRESCENTS"),
   (0x115D4, "zbSEPTUPLE CRESCENTSzbCIRCLES AND RAYSznTWO ENCLOSURESznFOUR ENCLOSURES"),
   (0x115D8, "iLETTER THREE-CIRCLE ALTERNATE IqWO-CIRCLE ALTERNATE IzmIpALTERNATE U"),
   (0x115DC, "iVOWEL SIGN ALTERNATE UzfU"),
   (0x11600, "aMODI LETTER AnAmInImUnUmVOCALIC RvRuLvLmEmAImOmAUmKAnHAmGAnHAmNGAmCAnHAmJAnHAmNYA"),
   (0x11618, "mTTAoHAmDDAoHAmNNAmTAnHAmDAnHAmNAmPAnHAmBAnHAmMAmYAmRAmLAmVAmSHAnSAnAmHAmLLA"),
   (0x11630, "fVOWEL SIGN AAqIrIqUrUqVOCALIC RzRyLzLqEqAIqOqAUfSIGN ANUSVARAkVISARGAmRAMA"),
   (0x11640, "kARDHACANDRAfDANDAgOUBLE DANDAfABBREVIATION SIGNfSIGN HUVA"),
   (0x11650, "fDIGIT ZEROlONElTWOmHREElFOURmIVElSIXmEVENlEIGHTlNINE"),
   (0x11660, "cNGOLIAN BIRGA WITH ORNAMENTkROTATED BIRGAkDOUBLE BIRGA WITH ORNAMENT"),
   (0x11663, "kTRIPLE BIRGA WITH ORNAMENTkBIRGA WITH DOUBLE ORNAMENTkROTATED BIRGA WITH ORNAMENT"),
   (0x11666, "zeDOUBLE ORNAMENTkINVERTED BIRGAy WITH DOUBLE ORNAMENTkSWIRL BIRGAv WITH ORNAMENT"),
   (0x1166B, "zcDOUBLE ORNAMENTkTURNED SWIRL BIRGA WITH DOUBLE ORNAMENT"),
   (0x11680, "aTAKRI LETTER AoAnIoInUoUnEnAInOnAUnKAoHAnGAoHAnNGAnCAoHAnJAoHAnNYAnTTApHAnDDApHA"),
   (0x11698, "nNNAnTAoHAnDAoHAnNAnPAoHAnBAoHAnMAnYAnRAnLAnVAnSHAoAnHAnRRAgSIGN ANUSVARAlVISARGA"),
   (0x116AD, "gVOWEL SIGN AArIsIrUsUrErAIrOrAUgSIGN VIRAMAlNUKTAgLETTER ARCHAIC KHA"),
   (0x116B9, "gABBREVIATION SIGN"),
   (0x116C0, "gDIGIT ZEROmONEmTWOnHREEmFOURnIVEmSIXnEVENmEIGHTmNINE"),
   (0x11700, "aAHOM LETTER KAnHAmNGAnAmTAmALTERNATE TAmPAnHAmBAmMAmJAmCHAmTHAmRAmLAmSAmNYAmHAmAmDA"),
   (0x11714, "nHAmGAmALTERNATE GAmGHAmBHAmJHAmALTERNATE BA"),
   (0x1171D, "fCONSONANT SIGN MEDIAL LAzcRAzcLIGATING RAfVOWEL SIGN ArAqIrIqUrUqEqAWqOqAIrM"),
   (0x1172B, "fSIGN KILLER"),
   (0x11730, "fDIGIT ZEROlONElTWOmHREElFOURmIVElSIXmEVENlEIGHTlNINEfNUMBER TENnWENTY"),
   (0x1173C, "fSIGN SMALL SECTIONlECTIONkRULAIgYMBOL VIfLETTER CAmTTAoHAmDDAoHAmNNAmLLA"),
   (0x11800, "aDOGRA LETTER AoAnIoInUoUnEnAInOnAUnKAoHAnGAoHAnNGAnCAoHAnJAoHAnNYAnTTApHAnDDApHA"),
   (0x11818, "nNNAnTAoHAnDAoHAnNAnPAoHAnBAoHAnMAnYAnRAnLAnVAnSHAoSAoAnHAnRRAgVOWEL SIGN AArIsIrUsU"),
   (0x11831, "rVOCALIC RzbRrErAIrOrAUgSIGN ANUSVARAlVISARGAnRAMAlNUKTAgABBREVIATION SIGN"),
   (0x118A0, "aWARANG CITI CAPITAL LETTER NGAAzcAzcWIzcYUzdAzdOzcIIzcUUzcEzcOzcANGzcGAzcKOzcENY"),
   (0x118AE, "zcYUJzcUCzcENNzcODDzcTTEzcNUNGzcDAzcATzdMzcBUzcPUzcHIYOzdOLOzeRRzdARzcSSUUzdIIzcVIYO"),
   (0x118C0, "mSMALL LETTER NGAAzAzWIzYUzbAzbOzIIzUUzEzOzANGzGAzKOzENYzYUJzUCzENNzODDzTTEzNUNGzDA"),
   (0x118D5, "zATzbMzBUzPUzHIYOzbOLOzcRRzbARzSSUUzbIIzVIYOmDIGIT ZEROsONEsTWOtHREEsFOURtIVEsSIX"),
   (0x118E7, "tEVENsEIGHTsNINEmNUMBER TENuWENTYuHIRTYtFORTYuIFTYtSIXTYuEVENTYtEIGHTYtNINETY"),
   (0x118FF, "mOMaDIVES AKURU LETTER AuAtIuItUuUtE"),
   (0x11909, "tO"),
   (0x1190C, "tKAuHAtGAuHAtNGAtCAuHAtJA"),
   (0x11915, "tNYAtTTA"),
   (0x11918, "tDDAvHAtNNAtTAuHAtDAuHAtNAtPAuHAtBAuHAtMAtYAuYAtRAtLAtVAtSHAuSAuAtHAtLLAtZA"),
   (0x11930, "mVOWEL SIGN AAxIyIxUyUxE"),
   (0x11937, "xAIxO"),
   (0x1193B, "mSIGN ANUSVARArCANDRABINDUrHALANTAmVIRAMAmPREFIXED NASAL SIGNmMEDIAL YAmINITIAL RA"),
   (0x11942, "mMEDIAL RAmSIGN NUKTAmDOUBLE DANDAmGAP FILLERmEND OF TEXT MARK"),
   (0x11950, "mDIGIT ZEROsONEsTWOtHREEsFOURtIVEsSIXtEVENsEIGHTsNINE"),
   (0x119A0, "aNANDINAGARI LETTER AuAtIuItUuUtVOCALIC RzdR"),
   (0x119AA, "tEtAItOtAUtKAuHAtGAuHAtNGAtCAuHAtJAuHAtNYAtTTAvHAtDDAvHAtNNAtTAuHAtDAuHAtNAtPAuHAtBA"),
   (0x119C5, "uHAtMAtYAtRAtLAtVAtSHAuSAuAtHAtLLAtRRAmVOWEL SIGN AAxIyIxUyUxVOCALIC RzhR"),
   (0x119DA, "xExAIxOxAUmSIGN ANUSVARArVISARGAtRAMArAVAGRAHArSIDDHAMmHEADSTROKE"),
   (0x119E4, "mVOWEL SIGN PRISHTHAMATRA E"),
   (0x11A00, "aZANABAZAR SQUARE LETTER ArVOWEL SIGN IzdUEzdUzdEzdOEzdOzdAIzeUzdREVERSED I"),
   (0x11A0A, "xLENGTH MARKrLETTER KAzHAyGAzHAyNGAyCAzHAyJAyNYAyTTAzbHAyDDAzbHAyNNAyTAzHAyDAzHAyNA"),
   (0x11A1E, "yPAzHAyBAzHAyMAyTSAzbHAyDZAzbHAyZHAzAy-AyYAyRAyLAyVAySHAzSAzAyHAyKSSA"),
   (0x11A33, "rFINAL CONSONANT MARKrSIGN VIRAMAwCANDRABINDUzi WITH ORNAMENTzd WITH ORNAMENT"),
   (0x11A38, "wANUSVARAwVISARGArCLUSTER-INITIAL LETTER RAzFINAL LETTER YAznRAznLAznVA"),
   (0x11A3F, "rINITIAL HEAD MARKrCLOSING HEAD MARKrMARK TSHEGwSHADwDOUBLE SHADwLONG TSHEG"),
   (0x11A45, "rINITIAL DOUBLE-LINED HEAD MARKrCLOSING DOUBLE-LINED HEAD MARKrSUBJOINER"),
   (0x11A50, "aSOYOMBO LETTER AiVOWEL SIGN ItUEtUtEtOuEtAIuUtVOCALIC RzcLoLENGTH MARKiLETTER KAqHA"),
   (0x11A5E, "pGAqHApNGApCAqHApJAqHApNYApTTArHApDDArHApNNApTAqHApDAqHApNApPAqHApBAqHApMApTSArHA"),
   (0x11A77, "pDZApZHAqAp-ApYApRApLApVApSHAqSAqApHApKSSAiSIGN JIHVAMULIYAnUPADHMANIYA"),
   (0x11A86, "iCLUSTER-INITIAL LETTER RAzgLAzgSHAzhAiFINAL CONSONANT SIGN GzeKzeNGzeDzeNzeBzeMzeR"),
   (0x11A92, "zeLzeSHzeSze-AiSIGN ANUSVARAnVISARGAiGEMINATION MARKiSUBJOINERiMARK TSHEGnSHAD"),
   (0x11A9C, "nDOUBLE SHADnPLUTAiHEAD MARK WITH MOON AND SUN AND TRIPLE FLAMEzpFLAMEzjN"),
   (0x11AA1, "iTERMINAL MARK-1w2"),
   (0x11AB0, "aCANADIAN SYLLABICS NATTILIK HIzfIzeOzfOzeAzfAzdSHRIzhIzgOzhOzgAzhAtSPEvIvOvA"),
   (0x11AC0, "aPAU CIN HAU LETTER PAtKAtLAtMAtDAtZAtVAtNGAtHAtGAtKHAtSAtBAtCAtTAuHAtNAtPHAtRAtFA"),
   (0x11AD4, "tCHAtAtEtItOtUuAtIAtFINAL PzKzTzMzNzLzWzNGzYmRISING TONE LONGwEmSANDHI GLOTTAL STOP"),
   (0x11AE8, "mRISING TONE LONG FINALyFINALmSANDHI GLOTTAL STOP FINALtTONE LONGwEx LONG FINAL"),
   (0x11AEE, "yFINALmMID-LEVEL TONEmGLOTTAL STOP VARIANTmMID-LEVEL TONE LONG FINALzcFINAL"),
   (0x11AF3, "mLOW-FALLING TONE LONGzcEmGLOTTAL STOPmLOW-FALLING TONE LONG FINALzeFINAL"),
   (0x11AF8, "mGLOTTAL STOP FINAL"),
   (0x11C00, "aBHAIKSUKI LETTER AsArIsIrUsUrVOCALIC RzbRzL"),
   (0x11C0A, "rErAIrOrAUrKAsHArGAsHArNGArCAsHArJAsHArNYArTTAtHArDDAtHArNNArTAsHArDAsHArNArPAsHArBA"),
   (0x11C25, "sHArMArYArRArLArVArSHAsSAsArHAkVOWEL SIGN AAvIwIvUwUvVOCALIC RzfRzeL"),
   (0x11C38, "vEvAIvOvAUkSIGN CANDRABINDUpANUSVARApVISARGArRAMApAVAGRAHAkDANDAlOUBLE DANDA"),
   (0x11C43, "kWORD SEPARATORkGAP FILLER-1v2"),
   (0x11C50, "kDIGIT ZEROqONEqTWOrHREEqFOURrIVEqSIXrEVENqEIGHTqNINEkNUMBER ONErTWOsHREErFOURsIVE"),
   (0x11C5F, "rSIXsEVENrEIGHTrNINErTENsWENTYsHIRTYrFORTYsIFTYrSIXTYsEVENTYrEIGHTYrNINETY"),
   (0x11C6C, "kHUNDREDS UNIT MARK"),
   (0x11C70, "aMARCHEN HEAD MARKiMARK SHADiLETTER KAqHApGApNGApCAqHApJApNYApTAqHApDApNApPAqHApBA"),
   (0x11C81, "pMApTSArHApDZApWApZHAqAp-ApYApRApLApSHAqApHApA"),
   (0x11C92, "iSUBJOINED LETTER KAzbHAzGAzNGAzCAzbHAzJAzNYAzTAzbHAzDAzNAzPAzbHAzBAzMAzTSAzcHAzDZA"),
   (0x11CA5, "zWAzZHAzbA"),
   (0x11CA9, "zYAzRAzLAzSHAzbAzHAzAiVOWEL SIGN AAtItUtEtOiSIGN ANUSVARAnCANDRABINDU"),
   (0x11D00, "cSARAM GONDI LETTER AwAvIwIvUwUvE"),
   (0x11D08, "vAIvO"),
   (0x11D0B, "vAUvKAwHAvGAwHAvNGAvCAwHAvJAwHAvNYAvTTAxHAvDDAxHAvNNAvTAwHAvDAwHAvNAvPAwHAvBAwHAvMA"),
   (0x11D25, "vYAvRAvLAvVAvSHAwSAwAvHAvLLAvKSSAvJNYAvTRAoVOWEL SIGN AAzIzbIzUzbUzVOCALIC R"),
   (0x11D3A, "zE"),
   (0x11D3C, "zAIzO"),
   (0x11D3F, "zAUoSIGN ANUSVARAtVISARGAtNUKTAtCANDRAtHALANTAoVIRAMAoREPHApA-KARA"),
   (0x11D50, "oDIGIT ZEROuONEuTWOvHREEuFOURvIVEuSIXvEVENuEIGHTuNINE"),
   (0x11D60, "aGUNJALA GONDI LETTER AwAvIwIvUwU"),
   (0x11D67, "vEEvAI"),
   (0x11D6A, "vOOvAUvYAvVAvBAwHAvMAvKAwHAvTAwHAvLAvGAwHAvDAwHAvNAvCAwHAvTTAxHAvLLAvJAwHAvDDAxHA"),
   (0x11D84, "vNGAvPAwHAvHAvRAvSAoVOWEL SIGN AAzIzbIzUzbU"),
   (0x11D90, "zEEzAI"),
   (0x11D93, "zOOzAUoSIGN ANUSVARAtVISARGAoVIRAMAoOM"),
   (0x11DA0, "oDIGIT ZEROuONEuTWOvHREEuFOURvIVEuSIXvEVENuEIGHTuNINE"),
   (0x11EE0, "aMAKASAR LETTER KApGApNGApPApBApMApTApDApNApCApJApNYApYApRApLApVApSApAiANGKA"),
   (0x11EF3, "iVOWEL SIGN ItUtEtOiPASSIMBANGiEND OF SECTION"),
   (0x11FB0, "aLISU LETTER YHA"),
   (0x11FC0, "aTAMIL FRACTION ONE THREE-HUNDRED-AND-TWENTIETHtONE-HUNDRED-AND-SIXTIETHtEIGHTIETH"),
   (0x11FC3, "tSIXTY-FOURTHtFORTIETHtTHIRTY-SECONDpTHREE EIGHTIETHSvSIXTY-FOURTHSpONE TWENTIETH"),
   (0x11FC9, "tSIXTEENTH-1ze2tTENTHtEIGHTHpTHREE TWENTIETHSvSIXTEENTHSpONE FIFTHtQUARTERtHALF-1y2"),
   (0x11FD3, "pTHREE QUARTERSpDOWNSCALING FACTOR KIIZHgSIGN NELlCEVITUlAAZHAAKKUlUZHAKKU"),
   (0x11FD9, "lMUUVUZHAKKUlKURUNIlPATHAKKUlMUKKURUNIlKAACUlPANAMmONlVARAAKANlPAARAMlKUZHIlVELI"),
   (0x11FE4, "gWET CULTIVATION SIGNgDRY CULTIVATION SIGNgLAND SIGNgSALT PAN SIGN"),
   (0x11FE8, "gTRADITIONAL CREDIT SIGNsNUMBER SIGNgCURRENT SIGNgAND ODD SIGNgSPENT SIGNgTOTAL SIGN"),
   (0x11FEE, "gIN POSSESSION SIGNgSTARTING FROM SIGNhIGN MUTHALIYAlVAKAIYARAA"),
   (0x11FFF, "gPUNCTUATION END OF TEXT")]

end HtGate.Text.CharacterName
